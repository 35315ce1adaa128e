import MessageContract.Proofs.Json.Reread

/-!
Reading records and lists from indented text: the brackets, the fields that may
come once, and the strings among them.
-/

namespace MessageContract.Json.Scan

variable {α β : Type}

open Utf8

theorem Reads.map {scan : Scan α} {text : List UInt8} {result : Option α}
    (hscan : Reads scan text result) (f : α → β) :
    Reads (do return f (← scan)) text (result.map f) := by
  intro space rest hspace hrest
  exact gives_map (hscan space rest hspace hrest) f

theorem reads_located {scan : Scan α} {text : List UInt8} {result : Option α}
    (hscan : Reads scan text result) : Reads (located scan) text result := by
  intro space rest hspace hrest
  exact gives_located (hscan space rest hspace hrest)

theorem reads_text (depth : Nat) (s : String) :
    Reads Scan.text (printed depth (.string s)) (some s) := by
  apply reads_located
  intro space rest hspace _
  have hquoted := gives_quoted s rest
  exact gives_bind (gives_ahead_text hspace rfl _) hquoted

/-- A record is read from an object by what reads the members. -/
theorem reads_bracketed_object {expected : String} {room depth : Nat}
    {list : Option (Nat → Scan α)} {inside : Nat → Scan α} {members : List (String × Json)}
    {result : Option α}
    (hinside : ∀ rest, Gives (inside room) (membersText depth members ++ rest)
      (result.map (·, closeBrace :: rest))) :
    Reads (bracketed expected (room + 1) list (some inside)) (printed depth (.object members))
      result := by
  apply reads_located
  intro space rest hspace _
  rw [printed_object, List.cons_append]
  apply gives_bind (gives_ahead_text hspace rfl _)
  exact gives_bind (gives_discard _ _) (gives_closing (hinside rest) (gives_closeObject rest))

theorem reads_list {room depth : Nat} {item : Nat → Scan α} {values : List Json}
    {g : Json → Option α}
    (hitem : ∀ v ∈ values, Reads (item room) (printed (depth + 1) v) (g v)) :
    Reads (list (room + 1) item) (printed depth (.array values)) (values.mapM g) := by
  apply reads_located
  intro space rest hspace _
  rw [printed_array, List.cons_append]
  apply gives_bind (gives_ahead_text hspace rfl _)
  exact gives_bind (gives_discard _ _)
    (gives_closing (gives_items hitem rest) (gives_closeList rest))

/-- A field that has not been read is read, and no field is read twice. -/
theorem readsMember_once {scan : Scan α} {depth : Nat} {value : Json} {result : Option α}
    (name : String) (earlier : Option α) (hscan : Reads scan (printed (depth + 1) value) result) :
    ReadsMember (once name earlier scan) depth value
      (if earlier.isSome then none else result.map some) := by
  intro rest hrest
  cases earlier with
  | none => exact gives_map (readsMember_of_reads hscan rest hrest) some
  | some a => exact gives_raise _ _

theorem readsMember_map {scan : Scan α} {depth : Nat} {value : Json} {result : Option α}
    (hscan : ReadsMember scan depth value result) (f : α → β) :
    ReadsMember (do return f (← scan)) depth value (result.map f) := by
  intro rest hrest
  exact gives_map (hscan rest hrest) f

theorem gives_required (name : String) (a : Option α) (before : List UInt8) :
    Gives (required name a) before (a.map (·, before)) := by
  cases a with
  | none => exact gives_raise _ _
  | some a => exact gives_pure _ _

/-- A text may end in a line break. -/
theorem gives_whole {scan : Scan α} {text : List UInt8} {result : Option α}
    (hscan : Reads scan text result) :
    Gives (whole scan) (text ++ lineBreak 0) (result.bind fun a => some (a, [])) := by
  have hdelimits : Delimits (lineBreak 0) := by simpa using delimits_lineBreak 0 []
  have hread := hscan [] (lineBreak 0) blank_nil hdelimits
  rw [List.nil_append] at hread
  have hend : Gives ahead? (lineBreak 0) (some (none, [])) := by
    have hahead : Gives ahead? (lineBreak 0 ++ []) (some (none, [])) :=
      gives_ahead (blank_lineBreak 0) fun _ h => by cases h
    rwa [List.append_nil] at hahead
  exact gives_bind_option hread fun a _ => gives_bind hend (gives_pure a [])

/-- A text that a line break ends is read to what it is read to within another. -/
theorem run_eq_ok {scan : Nat → Scan α} {text : List UInt8} {result : Option α}
    (hscan : Reads (scan roomLimit) text result) (a : α) :
    run scan (text ++ lineBreak 0) = .ok a ↔ result = some a := by
  have hwhole := gives_whole hscan 1 0
  unfold run
  cases result with
  | none =>
      obtain ⟨e, after, hrun⟩ := hwhole
      simp [hrun]
  | some read =>
      obtain ⟨line, column, hrun⟩ := hwhole
      simp [hrun]

/-- A whole text is read, and then its result is worked on. -/
theorem run_map (f : α → β) (scan : Nat → Scan α) (bytes : List UInt8) :
    run (fun room => do return f (← scan room)) bytes = f <$> run scan bytes := by
  have hwhole : whole (do return f (← scan roomLimit)) =
      whole (scan roomLimit) >>= fun a => pure (f a) := by
    simp only [whole, bind_assoc, pure_bind]
    refine congrArg _ (funext fun a => congrArg _ (funext fun byte => ?_))
    cases byte <;> rfl
  rw [run, hwhole, Outcome.run_bind, run]
  rcases whole (scan roomLimit) { rest := bytes } with ⟨_ | _, after⟩ <;> rfl

end MessageContract.Json.Scan
