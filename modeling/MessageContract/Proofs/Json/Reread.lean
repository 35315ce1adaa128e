import MessageContract.Proofs.Number.Text

/-!
Reading indented text. What is read from the text of a value is a function of
the value, `reread?`: its numbers are those that are read from their texts, and
there is nothing if a number cannot be read or the value is nested too deep.
-/

namespace MessageContract.Json

mutual

/-- The tree that is read from a value's text with so many levels to spare. -/
def reread? (room : Nat) : Json → Option Json
  | .null => some .null
  | .bool b => some (.bool b)
  | .number n => n.reread?.map .number
  | .string s => some (.string s)
  | .array items =>
      match room with
      | 0 => none
      | room + 1 => (rereadItems room items).map .array
  | .object members =>
      match room with
      | 0 => none
      | room + 1 => (rereadMembers room members).map .object

def rereadItems (room : Nat) : List Json → Option (List Json)
  | [] => some []
  | item :: rest =>
      (reread? room item).bind fun item => (rereadItems room rest).map (item :: ·)

def rereadMembers (room : Nat) : List (String × Json) → Option (List (String × Json))
  | [] => some []
  | (key, value) :: rest =>
      (reread? room value).bind fun value =>
        (rereadMembers room rest).map ((key, value) :: ·)

end

namespace Scan

variable {α β σ : Type}

open Utf8

/-- The bytes of the indented text of a value at a depth. -/
def printed (depth : Nat) (value : Json) : List UInt8 :=
  encodeChars (value.indentedChars depth)

/-- The bytes of a line break and of the indentation that follows it. -/
def lineBreak (depth : Nat) : List UInt8 :=
  encodeChars (newline depth)

/-- The bytes of an array after its opening bracket. -/
def itemsText (depth : Nat) : List Json → List UInt8
  | [] => [closeBracket]
  | item :: rest =>
      lineBreak (depth + 1) ++ (printed (depth + 1) item ++ encodeChars (indentedItems depth rest))

/-- The bytes of a member's value after its key. -/
def valueText (depth : Nat) (value : Json) : List UInt8 :=
  0x3A :: 0x20 :: printed (depth + 1) value

/-- The bytes of an object after its opening brace. -/
def membersText (depth : Nat) : List (String × Json) → List UInt8
  | [] => [closeBrace]
  | (key, value) :: rest =>
      lineBreak (depth + 1) ++ (encodeChars (Json.quoted key) ++
        (valueText depth value ++ encodeChars (indentedMembers depth rest)))

theorem printed_array (depth : Nat) (items : List Json) :
    printed depth (.array items) = openBracket :: itemsText depth items := by
  cases items with
  | nil => rfl
  | cons item rest =>
      rw [printed, indentedChars, encodeChars_cons, encodeChars_append, encodeChars_append]
      rfl

theorem printed_object (depth : Nat) (members : List (String × Json)) :
    printed depth (.object members) = openBrace :: membersText depth members := by
  cases members with
  | nil => rfl
  | cons member rest =>
      obtain ⟨key, value⟩ := member
      rw [printed, indentedChars, encodeChars_cons, encodeChars_append, encodeChars_append,
        encodeChars_cons, encodeChars_cons, encodeChars_append]
      rfl

theorem itemsTail_nil (depth : Nat) :
    encodeChars (indentedItems depth []) = lineBreak depth ++ [closeBracket] := by
  rw [indentedItems, encodeChars_append]
  rfl

theorem itemsTail_cons (depth : Nat) (item : Json) (rest : List Json) :
    encodeChars (indentedItems depth (item :: rest)) =
      comma :: itemsText depth (item :: rest) := by
  rw [indentedItems, encodeChars_cons, encodeChars_append, encodeChars_append]
  rfl

theorem membersTail_nil (depth : Nat) :
    encodeChars (indentedMembers depth []) = lineBreak depth ++ [closeBrace] := by
  rw [indentedMembers, encodeChars_append]
  rfl

theorem membersTail_cons (depth : Nat) (member : String × Json) (rest : List (String × Json)) :
    encodeChars (indentedMembers depth (member :: rest)) =
      comma :: membersText depth (member :: rest) := by
  obtain ⟨key, value⟩ := member
  rw [indentedMembers, encodeChars_cons, encodeChars_append, encodeChars_append,
    encodeChars_cons, encodeChars_cons, encodeChars_append]
  rfl

theorem blank_lineBreak (depth : Nat) : Blank (lineBreak depth) := by
  intro byte hbyte
  obtain ⟨c, hc, hmem⟩ := List.mem_flatMap.mp hbyte
  rw [newline, List.mem_cons] at hc
  rcases hc with rfl | hspace
  · rw [show byte = 0x0A from List.mem_singleton.mp hmem]
    rfl
  · rw [List.eq_of_mem_replicate hspace] at hmem
    rw [show byte = 0x20 from List.mem_singleton.mp hmem]
    rfl

theorem lineBreak_pos (depth : Nat) : 0 < (lineBreak depth).length := by
  rw [lineBreak, newline, encodeChars_cons, List.length_append]
  exact Nat.add_pos_left (by decide) _

/-- The line break before a closing bracket delimits a number. -/
theorem delimits_lineBreak (depth : Nat) (rest : List UInt8) :
    Delimits (lineBreak depth ++ rest) := by
  intro byte hbyte
  have hhead : (lineBreak depth ++ rest).head? = some 0x0A := rfl
  rw [hhead] at hbyte
  obtain rfl := Option.some.inj hbyte
  exact ⟨rfl, by decide, rfl⟩

theorem delimits_comma (rest : List UInt8) : Delimits (comma :: rest) := by
  intro byte hbyte
  obtain rfl := Option.some.inj hbyte
  exact ⟨rfl, by decide, rfl⟩

theorem delimits_itemsTail (depth : Nat) (items : List Json) (rest : List UInt8) :
    Delimits (encodeChars (indentedItems depth items) ++ rest) := by
  cases items with
  | nil =>
      rw [itemsTail_nil, List.append_assoc]
      exact delimits_lineBreak depth _
  | cons item others =>
      rw [itemsTail_cons]
      exact delimits_comma _

theorem delimits_membersTail (depth : Nat) (members : List (String × Json))
    (rest : List UInt8) : Delimits (encodeChars (indentedMembers depth members) ++ rest) := by
  cases members with
  | nil =>
      rw [membersTail_nil, List.append_assoc]
      exact delimits_lineBreak depth _
  | cons member others =>
      rw [membersTail_cons]
      exact delimits_comma _

/-- A value's text starts with no white space and with no closing bracket. -/
theorem printed_head (depth : Nat) (value : Json) :
    ∃ byte text, printed depth value = byte :: text ∧ isSpace byte = false ∧
      byte ≠ closeBracket := by
  cases value with
  | null => exact ⟨_, _, rfl, rfl, by decide⟩
  | bool b => cases b <;> exact ⟨_, _, rfl, rfl, by decide⟩
  | number n =>
      obtain ⟨byte, text, hbytes, hbyte⟩ := exists_head_of_isNumeral (isNumber_chars n)
      have hne {other : UInt8} (hminus : other ≠ 0x2D) (hdigit : digit? other = none) :
          byte ≠ other := ne_of_startsNumber hbyte hminus hdigit
      refine ⟨byte, text, hbytes, ?_, hne (by decide) rfl⟩
      simp only [isSpace, Bool.or_eq_false_iff, beq_eq_false_iff_ne]
      exact ⟨⟨⟨hne (by decide) rfl, hne (by decide) rfl⟩, hne (by decide) rfl⟩,
        hne (by decide) rfl⟩
  | string s => exact ⟨_, _, rfl, rfl, by decide⟩
  | array items => exact ⟨_, _, printed_array depth items, rfl, by decide⟩
  | object members => exact ⟨_, _, printed_object depth members, rfl, by decide⟩

/-- The scan reads the text, after white space if there is some, to a result that
does not depend on what delimits the text. -/
def Reads (scan : Scan α) (text : List UInt8) (result : Option α) : Prop :=
  ∀ space rest, Blank space → Delimits rest →
    Gives scan (space ++ (text ++ rest)) (result.map (·, rest))

/-! Scalars. -/

section Scalars

variable {list object : Scan Json}

/-- What comes next, white space aside, is the first byte of the text. -/
theorem gives_ahead_text {space : List UInt8} (hspace : Blank space) {byte : UInt8}
    (hbyte : isSpace byte = false) (rest : List UInt8) :
    Gives ahead? (space ++ byte :: rest) (some (some byte, byte :: rest)) :=
  gives_ahead hspace (inked_cons hbyte rest)

theorem reads_null : Reads (valueWith list object) (encodeChars ['n', 'u', 'l', 'l'])
    (some .null) := by
  intro space rest hspace _
  apply gives_bind (gives_ahead_text hspace rfl _)
  exact gives_bind (gives_discard _ _) (gives_bind (gives_word nullRest rest) (gives_pure _ _))

theorem reads_bool (b : Bool) :
    Reads (valueWith list object) (encodeChars (boolChars b)) (some (.bool b)) := by
  intro space rest hspace _
  cases b with
  | true =>
      apply gives_bind (gives_ahead_text hspace rfl _)
      exact gives_bind (gives_discard _ _) (gives_bind (gives_word trueRest rest) (gives_pure _ _))
  | false =>
      apply gives_bind (gives_ahead_text hspace rfl _)
      exact gives_bind (gives_discard _ _) (gives_bind (gives_word falseRest rest) (gives_pure _ _))

theorem reads_number (n : Number) :
    Reads (valueWith list object) (encodeChars n.chars) (n.reread?.map .number) := by
  intro space rest hspace hrest
  have hnumber := gives_map (gives_number n hrest) Json.number
  obtain ⟨byte, text, hbytes, hbyte⟩ := exists_head_of_isNumeral (isNumber_chars n)
  have hne (other : UInt8) (hminus : other ≠ 0x2D) (hdigit : digit? other = none) :
      (byte == other) = false := beq_false_of_ne (ne_of_startsNumber hbyte hminus hdigit)
  have hspaceByte : isSpace byte = false := by
    simp only [isSpace, hne 0x20 (by decide) rfl, hne 0x0A (by decide) rfl,
      hne 0x09 (by decide) rfl, hne 0x0D (by decide) rfl, Bool.or_self]
  have hstarts : (byte == 0x2D || (digit? byte).isSome) = true := by
    rcases hbyte with rfl | hdigit
    · rfl
    · rw [hdigit, Bool.or_true]
  rw [hbytes] at hnumber ⊢
  apply gives_bind (gives_ahead_text hspace hspaceByte _)
  dsimp only
  rw [hne 0x6E (by decide) rfl, hne 0x74 (by decide) rfl, hne 0x66 (by decide) rfl, hstarts]
  exact hnumber

theorem reads_string (text : String) :
    Reads (valueWith list object) (encodeChars (Json.quoted text)) (some (.string text)) := by
  intro space rest hspace _
  have hquoted := gives_quoted text rest
  apply gives_bind (gives_ahead_text hspace rfl _)
  exact gives_bind hquoted (gives_pure _ _)

end Scalars

/-! Lists. -/

theorem gives_closing {inside : Scan α} {close : Scan Unit} {before middle rest : List UInt8}
    {result : Option α} (hinside : Gives inside before (result.map (·, middle)))
    (hclose : Gives close middle (some ((), rest))) :
    Gives (closing inside close) before (result.map (·, rest)) := by
  intro line column
  have hrun := hinside line column
  cases result with
  | none =>
      obtain ⟨e, after, hrun⟩ := hrun
      exact ⟨_, _, by rw [closing, hrun]⟩
  | some a =>
      obtain ⟨line', column', hrun⟩ := hrun
      obtain ⟨line'', column'', hend⟩ := hclose line' column'
      exact ⟨line'', column'', by rw [closing, hrun]; dsimp only; rw [hend]⟩

theorem gives_closeList (rest : List UInt8) :
    Gives closeList (closeBracket :: rest) (some ((), rest)) :=
  gives_bind (gives_ahead_cons rfl rest) (gives_discard _ _)

theorem gives_closeObject (rest : List UInt8) :
    Gives closeObject (closeBrace :: rest) (some ((), rest)) :=
  gives_bind (gives_ahead_cons rfl rest) (gives_discard _ _)

theorem gives_hasItem_end (first : Bool) {space : List UInt8} (hspace : Blank space)
    (rest : List UInt8) :
    Gives (hasItem first) (space ++ closeBracket :: rest) (some (false, closeBracket :: rest)) :=
  gives_bind (gives_ahead_text hspace rfl rest) (gives_pure _ _)

theorem gives_hasItem_first {space : List UInt8} (hspace : Blank space) (depth : Nat)
    (value : Json) (rest : List UInt8) :
    Gives (hasItem true) (space ++ (printed depth value ++ rest))
      (some (true, printed depth value ++ rest)) := by
  obtain ⟨byte, text, hprinted, hbyte, hopen⟩ := printed_head depth value
  rw [hprinted, List.cons_append]
  apply gives_bind (gives_ahead_text hspace hbyte _)
  dsimp only
  rw [if_neg (by simpa using hopen)]
  exact gives_pure _ _

theorem gives_hasItem_next {space : List UInt8} (hspace : Blank space) (depth : Nat)
    (value : Json) (rest : List UInt8) :
    Gives (hasItem false) (comma :: (space ++ (printed depth value ++ rest)))
      (some (true, printed depth value ++ rest)) := by
  obtain ⟨byte, text, hprinted, hbyte, hopen⟩ := printed_head depth value
  rw [hprinted, List.cons_append]
  apply gives_bind (gives_ahead_cons rfl _)
  refine gives_bind (gives_discard _ _) (gives_bind (gives_ahead_text hspace hbyte _) ?_)
  dsimp only
  rw [if_neg (by simpa using hopen)]
  exact gives_pure _ _

section Lists

variable {step : σ → Scan σ} {f : σ → Json → Option σ} {depth : Nat}

/-- One round of the loop, and the rounds after it. -/
theorem gives_itemRound {first : Bool} {item : Json} {others : List Json} {s : σ}
    {fuel : Fuel} {byte : UInt8} {before tail rest : List UInt8}
    (hhas : Gives (hasItem first) before (some (true, printed (depth + 1) item ++ tail)))
    (htail : Delimits tail) (hitem : Reads (step s) (printed (depth + 1) item) (f s item))
    (hothers : ∀ s', Gives (itemLoop step fuel false s') tail
      ((others.foldlM f s').map (·, rest))) :
    Gives (itemLoop step (byte :: fuel) first s) before
      (((item :: others).foldlM f s).map (·, rest)) := by
  have hread := hitem [] tail blank_nil htail
  rw [List.nil_append] at hread
  apply gives_bind hhas
  rw [if_pos rfl, List.foldlM_cons, Option.bind_eq_bind, Option.map_bind]
  exact gives_bind_option hread fun s' _ => hothers s'

/-- After the first item the loop reads the others. -/
theorem gives_itemLoop {items : List Json}
    (hstep : ∀ v ∈ items, ∀ s, Reads (step s) (printed (depth + 1) v) (f s v)) (s : σ)
    (rest : List UInt8) {fuel : Fuel}
    (hfuel : (encodeChars (indentedItems depth items) ++ rest).length < fuel.length) :
    Gives (itemLoop step fuel false s) (encodeChars (indentedItems depth items) ++ rest)
      ((items.foldlM f s).map (·, closeBracket :: rest)) := by
  induction items generalizing s fuel with
  | nil =>
      rw [itemsTail_nil, List.append_assoc, List.singleton_append] at hfuel ⊢
      cases fuel with
      | nil => simp at hfuel
      | cons _ fuel =>
          exact gives_bind (gives_hasItem_end false (blank_lineBreak depth) rest) (gives_pure _ _)
  | cons item others ih =>
      have hbytes : encodeChars (indentedItems depth (item :: others)) ++ rest =
          comma :: (lineBreak (depth + 1) ++ (printed (depth + 1) item ++
            (encodeChars (indentedItems depth others) ++ rest))) := by
        rw [itemsTail_cons, itemsText, List.cons_append, List.append_assoc, List.append_assoc]
      rw [hbytes] at hfuel ⊢
      cases fuel with
      | nil => simp at hfuel
      | cons _ fuel =>
          have hothers : (encodeChars (indentedItems depth others) ++ rest).length <
              fuel.length := by
            simp only [List.length_cons, List.length_append] at hfuel ⊢
            omega
          apply gives_itemRound (gives_hasItem_next (blank_lineBreak _) _ _ _)
          · exact delimits_itemsTail depth others rest
          · exact hstep item List.mem_cons_self s
          · intro s'
            apply ih _ s' hothers
            intro v hv
            exact hstep v (List.mem_cons_of_mem _ hv)

theorem gives_items_loop {items : List Json}
    (hstep : ∀ v ∈ items, ∀ s, Reads (step s) (printed (depth + 1) v) (f s v)) (s : σ)
    (rest : List UInt8) {fuel : Fuel}
    (hfuel : (itemsText depth items ++ rest).length < fuel.length) :
    Gives (itemLoop step fuel true s) (itemsText depth items ++ rest)
      ((items.foldlM f s).map (·, closeBracket :: rest)) := by
  cases fuel with
  | nil => simp at hfuel
  | cons _ fuel =>
      cases items with
      | nil => exact gives_bind (gives_hasItem_end true blank_nil rest) (gives_pure _ _)
      | cons item others =>
          have hbytes : itemsText depth (item :: others) ++ rest =
              lineBreak (depth + 1) ++ (printed (depth + 1) item ++
                (encodeChars (indentedItems depth others) ++ rest)) := by
            rw [itemsText, List.append_assoc, List.append_assoc]
          rw [hbytes] at hfuel ⊢
          have hothers : (encodeChars (indentedItems depth others) ++ rest).length <
              fuel.length := by
            have hbreak := lineBreak_pos (depth + 1)
            simp only [List.length_cons, List.length_append] at hfuel ⊢
            omega
          apply gives_itemRound (gives_hasItem_first (blank_lineBreak _) _ _ _)
          · exact delimits_itemsTail depth others rest
          · exact hstep item List.mem_cons_self s
          · intro s'
            apply gives_itemLoop _ s' rest hothers
            intro v hv
            exact hstep v (List.mem_cons_of_mem _ hv)

end Lists

/-- Collecting what is read of each item, last first. -/
theorem foldlM_collect {α β : Type} (g : α → Option β) (items : List α) (done : List β) :
    (items.foldlM (fun done v => (g v).map (· :: done)) done).map List.reverse =
      (items.mapM g).map (done.reverse ++ ·) := by
  induction items generalizing done with
  | nil => simp
  | cons item rest ih =>
      rw [List.foldlM_cons, List.mapM_cons]
      cases hitem : g item with
      | none => rfl
      | some read =>
          have hrest := ih (read :: done)
          simp only [List.reverse_cons, List.append_assoc, List.singleton_append] at hrest
          simp only [Option.map_some, Option.bind_eq_bind, Option.bind_some, hrest]
          cases rest.mapM g <;> rfl

/-- The items of an array are read each to what it is read to. -/
theorem gives_items {item : Scan α} {g : Json → Option α} {depth : Nat} {values : List Json}
    (hitem : ∀ v ∈ values, Reads item (printed (depth + 1) v) (g v)) (rest : List UInt8) :
    Gives (items item) (itemsText depth values ++ rest)
      ((values.mapM g).map (·, closeBracket :: rest)) := by
  have hloop : Gives (withFuel fun fuel => itemLoop (fun done => return (← item) :: done) fuel
      true []) (itemsText depth values ++ rest)
      ((values.foldlM (fun done v => (g v).map (· :: done)) []).map (·, closeBracket :: rest)) := by
    apply gives_withFuel
    intro fuel hfuel
    apply gives_items_loop _ [] rest hfuel
    intro v hv done space rest hspace hrest
    exact gives_map (hitem v hv space rest hspace hrest) (· :: done)
  have hreversed := gives_map hloop List.reverse
  have hcollected : (values.mapM g).map (([] : List α).reverse ++ ·) = values.mapM g := by simp
  rw [foldlM_collect, hcollected] at hreversed
  exact hreversed

/-! Members. -/

theorem gives_hasMember_end (first : Bool) {space : List UInt8} (hspace : Blank space)
    (rest : List UInt8) :
    Gives (hasMember first) (space ++ closeBrace :: rest) (some (false, closeBrace :: rest)) :=
  gives_bind (gives_ahead_text hspace rfl rest) (gives_pure _ _)

theorem quoted_eq (key : String) :
    ∃ text, encodeChars (Json.quoted key) = quote :: text :=
  ⟨_, rfl⟩

theorem gives_hasMember_first {space : List UInt8} (hspace : Blank space) (key : String)
    (rest : List UInt8) :
    Gives (hasMember true) (space ++ (encodeChars (Json.quoted key) ++ rest))
      (some (true, encodeChars (Json.quoted key) ++ rest)) := by
  obtain ⟨text, hkey⟩ := quoted_eq key
  rw [hkey, List.cons_append]
  exact gives_bind (gives_ahead_text hspace rfl _) (gives_pure _ _)

theorem gives_hasMember_next {space : List UInt8} (hspace : Blank space) (key : String)
    (rest : List UInt8) :
    Gives (hasMember false) (comma :: (space ++ (encodeChars (Json.quoted key) ++ rest)))
      (some (true, encodeChars (Json.quoted key) ++ rest)) := by
  obtain ⟨text, hkey⟩ := quoted_eq key
  rw [hkey, List.cons_append]
  exact gives_bind (gives_ahead_cons rfl _) (gives_bind (gives_discard _ _)
    (gives_bind (gives_ahead_text hspace rfl _) (gives_pure _ _)))

/-- The scan reads what follows a key. -/
def ReadsMember (scan : Scan α) (depth : Nat) (value : Json) (result : Option α) : Prop :=
  ∀ rest, Delimits rest → Gives scan (valueText depth value ++ rest) (result.map (·, rest))

theorem gives_colon (rest : List UInt8) : Gives colon (0x3A :: rest) (some ((), rest)) :=
  gives_bind (gives_ahead_cons rfl _) (gives_discard _ _)

/-- A member's value is read as the value alone is. -/
theorem readsMember_of_reads {scan : Scan α} {depth : Nat} {value : Json} {result : Option α}
    (hscan : Reads scan (printed (depth + 1) value) result) :
    ReadsMember (memberValue scan) depth value result := by
  intro rest hrest
  have hspace : Blank [0x20] := by
    intro byte hbyte
    rw [List.mem_singleton.mp hbyte]
    rfl
  exact gives_bind (gives_colon _) (hscan [0x20] rest hspace hrest)

section Members

variable {step : String → σ → Scan σ} {f : σ → String × Json → Option σ} {depth : Nat}

/-- Each member is read as `f` says from the state that those before it lead to. -/
def ReadsMembers (step : String → σ → Scan σ) (f : σ → String × Json → Option σ) (depth : Nat)
    (members : List (String × Json)) (start : σ) : Prop :=
  ∀ before m after, members = before ++ m :: after →
    ∀ s, before.foldlM f start = some s → ReadsMember (step m.1 s) depth m.2 (f s m)

theorem ReadsMembers.of_forall {members : List (String × Json)} {start : σ}
    (hstep : ∀ m ∈ members, ∀ s, ReadsMember (step m.1 s) depth m.2 (f s m)) :
    ReadsMembers step f depth members start := by
  rintro before m after rfl s -
  exact hstep m (List.mem_append_right _ List.mem_cons_self) s

theorem ReadsMembers.head {member : String × Json} {others : List (String × Json)} {start : σ}
    (h : ReadsMembers step f depth (member :: others) start) :
    ReadsMember (step member.1 start) depth member.2 (f start member) :=
  h [] member others rfl start rfl

theorem ReadsMembers.tail {member : String × Json} {others : List (String × Json)}
    {start s : σ} (h : ReadsMembers step f depth (member :: others) start)
    (hfirst : f start member = some s) : ReadsMembers step f depth others s := by
  rintro before m after rfl s' hs'
  apply h (member :: before) m after rfl s'
  rw [List.foldlM_cons, hfirst]
  exact hs'

/-- One round of the loop, and the rounds after it. -/
theorem gives_memberRound {first : Bool} {key : String} {value : Json}
    {others : List (String × Json)} {s : σ} {fuel : Fuel} {byte : UInt8}
    {before tail rest : List UInt8}
    (hhas : Gives (hasMember first) before
      (some (true, encodeChars (Json.quoted key) ++ (valueText depth value ++ tail))))
    (htail : Delimits tail) (hmember : ReadsMember (step key s) depth value (f s (key, value)))
    (hothers : ∀ s', f s (key, value) = some s' → Gives (memberLoop step fuel false s') tail
      ((others.foldlM f s').map (·, rest))) :
    Gives (memberLoop step (byte :: fuel) first s) before
      ((((key, value) :: others).foldlM f s).map (·, rest)) := by
  apply gives_bind hhas
  rw [if_pos rfl, List.foldlM_cons, Option.bind_eq_bind, Option.map_bind]
  exact gives_bind (gives_quoted _ _) (gives_bind_option (hmember tail htail) hothers)

/-- After the first member the loop reads the others. -/
theorem gives_memberLoop {members : List (String × Json)} {s : σ}
    (hstep : ReadsMembers step f depth members s) (rest : List UInt8) {fuel : Fuel}
    (hfuel : (encodeChars (indentedMembers depth members) ++ rest).length < fuel.length) :
    Gives (memberLoop step fuel false s) (encodeChars (indentedMembers depth members) ++ rest)
      ((members.foldlM f s).map (·, closeBrace :: rest)) := by
  induction members generalizing s fuel with
  | nil =>
      rw [membersTail_nil, List.append_assoc, List.singleton_append] at hfuel ⊢
      cases fuel with
      | nil => simp at hfuel
      | cons _ fuel =>
          exact gives_bind (gives_hasMember_end false (blank_lineBreak depth) rest)
            (gives_pure _ _)
  | cons member others ih =>
      obtain ⟨key, value⟩ := member
      have hbytes : encodeChars (indentedMembers depth ((key, value) :: others)) ++ rest =
          comma :: (lineBreak (depth + 1) ++ (encodeChars (Json.quoted key) ++
            (valueText depth value ++ (encodeChars (indentedMembers depth others) ++ rest)))) := by
        rw [membersTail_cons, membersText, List.cons_append, List.append_assoc, List.append_assoc,
          List.append_assoc]
      rw [hbytes] at hfuel ⊢
      cases fuel with
      | nil => simp at hfuel
      | cons _ fuel =>
          have hothers : (encodeChars (indentedMembers depth others) ++ rest).length <
              fuel.length := by
            simp only [List.length_cons, List.length_append] at hfuel ⊢
            omega
          apply gives_memberRound (gives_hasMember_next (blank_lineBreak _) _ _)
          · exact delimits_membersTail depth others rest
          · exact hstep.head
          · intro s' hread
            exact ih (hstep.tail hread) hothers

/-- The members of an object are read one after the other. -/
theorem gives_members {members : List (String × Json)} {s : σ}
    (hstep : ReadsMembers step f depth members s) (rest : List UInt8) :
    Gives (Scan.members s step) (membersText depth members ++ rest)
      ((members.foldlM f s).map (·, closeBrace :: rest)) := by
  apply gives_withFuel
  intro fuel hfuel
  cases fuel with
  | nil => simp at hfuel
  | cons _ fuel =>
      cases members with
      | nil => exact gives_bind (gives_hasMember_end true blank_nil rest) (gives_pure _ _)
      | cons member others =>
          obtain ⟨key, value⟩ := member
          have hbytes : membersText depth ((key, value) :: others) ++ rest =
              lineBreak (depth + 1) ++ (encodeChars (Json.quoted key) ++
                (valueText depth value ++
                  (encodeChars (indentedMembers depth others) ++ rest))) := by
            rw [membersText, List.append_assoc, List.append_assoc, List.append_assoc]
          rw [hbytes] at hfuel ⊢
          have hothers : (encodeChars (indentedMembers depth others) ++ rest).length <
              fuel.length := by
            have hbreak := lineBreak_pos (depth + 1)
            simp only [List.length_cons, List.length_append] at hfuel ⊢
            omega
          apply gives_memberRound (gives_hasMember_first (blank_lineBreak _) _ _)
          · exact delimits_membersTail depth others rest
          · exact hstep.head
          · intro s' hread
            exact gives_memberLoop (hstep.tail hread) rest hothers

end Members

/-! Trees. -/

theorem rereadItems_eq (room : Nat) (items : List Json) :
    rereadItems room items = items.mapM (reread? room) := by
  induction items with
  | nil => rfl
  | cons item rest ih =>
      rw [rereadItems, ih, List.mapM_cons]
      cases reread? room item <;> cases rest.mapM (reread? room) <;> rfl

theorem rereadMembers_eq (room : Nat) (members : List (String × Json)) :
    rereadMembers room members =
      members.mapM fun m => (reread? room m.2).map (m.1, ·) := by
  induction members with
  | nil => rfl
  | cons member rest ih =>
      obtain ⟨key, value⟩ := member
      rw [rereadMembers, ih, List.mapM_cons]
      dsimp only
      cases reread? room value <;>
        cases rest.mapM (fun m => (reread? room m.2).map (m.1, ·)) <;> rfl

theorem reads_array {list object : Scan Json} {depth : Nat} {items : List Json}
    {result : Option Json}
    (hlist : ∀ rest, Gives list (openBracket :: (itemsText depth items ++ rest))
      (result.map (·, rest))) :
    Reads (valueWith list object) (printed depth (.array items)) result := by
  intro space rest hspace _
  rw [printed_array, List.cons_append]
  exact gives_bind (gives_ahead_text hspace rfl _) (hlist rest)

theorem reads_object {list object : Scan Json} {depth : Nat} {members : List (String × Json)}
    {result : Option Json}
    (hobject : ∀ rest, Gives object (openBrace :: (membersText depth members ++ rest))
      (result.map (·, rest))) :
    Reads (valueWith list object) (printed depth (.object members)) result := by
  intro space rest hspace _
  rw [printed_object, List.cons_append]
  exact gives_bind (gives_ahead_text hspace rfl _) (hobject rest)

mutual

/-- The tree of a value's text is what the value is reread to. -/
theorem reads_tree : ∀ (value : Json) (room depth : Nat),
    Reads (tree room) (printed depth value) (reread? room value)
  | .null, room, depth => by
      cases room <;> exact reads_null
  | .bool b, room, depth => by
      cases room <;> exact reads_bool b
  | .number n, room, depth => by
      cases room <;> exact reads_number n
  | .string s, room, depth => by
      cases room <;> exact reads_string s
  | .array items, 0, depth => reads_array fun _ => gives_failAhead _ _
  | .array items, room + 1, depth => by
      apply reads_array
      intro rest
      have hitems := gives_items (fun v hv => reads_trees items v hv room (depth + 1)) rest
      apply gives_bind (gives_discard _ _)
      rw [reread?, rereadItems_eq]
      exact gives_map (gives_closing hitems (gives_closeList rest)) Json.array
  | .object members, 0, depth => reads_object fun _ => gives_failAhead _ _
  | .object members, room + 1, depth => by
      apply reads_object
      intro rest
      let read (m : String × Json) := (reread? room m.2).map (m.1, ·)
      have hmembers : Gives (Scan.members [] fun key done => do
          return (key, ← memberValue (tree room)) :: done) (membersText depth members ++ rest)
          ((members.foldlM (fun done m => (read m).map (· :: done)) []).map
            (·, closeBrace :: rest)) := by
        apply gives_members
        apply ReadsMembers.of_forall
        intro m hm done rest hrest
        have hvalue := readsMember_of_reads (reads_memberTrees members m hm room (depth + 1))
        have hread := gives_map (hvalue rest hrest) fun v => (m.1, v) :: done
        rwa [← Function.comp_def (· :: done) (m.1, ·), ← Option.map_map] at hread
      have hobject := gives_map (gives_closing hmembers (gives_closeObject rest))
        fun read => Json.object read.reverse
      have hcollected : (members.mapM read).map (([] : List (String × Json)).reverse ++ ·) =
          members.mapM read := by simp
      rw [← Function.comp_def Json.object List.reverse, ← Option.map_map, foldlM_collect,
        hcollected] at hobject
      apply gives_bind (gives_discard _ _)
      rw [reread?, rereadMembers_eq]
      exact hobject

theorem reads_trees : ∀ (items : List Json), ∀ v ∈ items, ∀ (room depth : Nat),
    Reads (tree room) (printed depth v) (reread? room v)
  | [], v, hv, _, _ => absurd hv List.not_mem_nil
  | item :: rest, v, hv, room, depth => by
      rcases List.mem_cons.mp hv with hfirst | hrest
      · rw [hfirst]
        exact reads_tree item room depth
      · exact reads_trees rest v hrest room depth

theorem reads_memberTrees : ∀ (members : List (String × Json)), ∀ m ∈ members,
    ∀ (room depth : Nat), Reads (tree room) (printed depth m.2) (reread? room m.2)
  | [], m, hm, _, _ => absurd hm List.not_mem_nil
  | (key, value) :: rest, m, hm, room, depth => by
      rcases List.mem_cons.mp hm with hfirst | hrest
      · rw [hfirst]
        exact reads_tree value room depth
      · exact reads_memberTrees rest m hrest room depth

end

end Scan

end MessageContract.Json
