import Mathlib.Data.List.TakeWhile
import MessageContract.Proofs.Json.Scan
import MessageContract.Proofs.Json.Value

/-!
What holds of whatever a scan reads, from any text. A scan that fails has read
nothing, so failures ensure everything. Values that are read are values and not
only trees, and an optional value that is there is not null.
-/

namespace MessageContract.Json.Scan

variable {α β σ : Type}

/-- All results of the scan have a property. -/
def Ensures (scan : Scan α) (P : α → Prop) : Prop :=
  ∀ cursor a after, scan cursor = (.ok a, after) → P a

variable {P : α → Prop} {Q : β → Prop}

theorem ensures_true (scan : Scan α) : scan.Ensures fun _ => True :=
  fun _ _ _ _ => trivial

theorem ensures_pure {a : α} (h : P a) : Ensures (pure a) P := by
  intro cursor b after hrun
  cases hrun
  exact h

theorem ensures_bind {scan : Scan α} {next : α → Scan β} (hscan : scan.Ensures P)
    (hnext : ∀ a, P a → (next a).Ensures Q) : Ensures (scan >>= next) Q := by
  intro cursor b after hrun
  rw [Outcome.run_bind] at hrun
  split at hrun
  case h_1 a middle hfirst => exact hnext a (hscan _ _ _ hfirst) _ _ _ hrun
  case h_2 => cases hrun

theorem ensures_map {scan : Scan α} {f : α → β} (hscan : scan.Ensures fun a => Q (f a)) :
    Ensures (do return f (← scan)) Q :=
  ensures_bind hscan fun _ h => ensures_pure h

theorem ensures_raise (fault : Fault) : (raise fault : Scan α).Ensures P := by
  intro _ _ _ hrun
  cases hrun

theorem ensures_fail (fault : Fault) : (fail fault : Scan α).Ensures P := by
  intro _ _ _ hrun
  cases hrun

theorem ensures_failAhead (fault : Fault) : (failAhead fault : Scan α).Ensures P := by
  intro _ _ _ hrun
  cases hrun

theorem ensures_withFuel {loop : Fuel → Scan α} (hloop : ∀ fuel, (loop fuel).Ensures P) :
    (withFuel loop).Ensures P := by
  intro cursor
  exact hloop _ cursor

theorem ensures_located {scan : Scan α} (hscan : scan.Ensures P) : (located scan).Ensures P := by
  intro cursor a after hrun
  rw [located] at hrun
  split at hrun
  case h_1 => cases hrun
  case h_2 => exact hscan _ _ _ hrun

theorem ensures_closing {inside : Scan α} {close : Scan Unit} (hinside : inside.Ensures P) :
    (closing inside close).Ensures P := by
  intro cursor a after hrun
  rw [closing] at hrun
  split at hrun
  case h_1 => cases hrun
  case h_2 hread =>
    split at hrun
    case h_1 => cases hrun
    case h_2 =>
      cases hrun
      exact hinside _ _ _ hread

theorem ensures_enter {room : Nat} {inside : Nat → Scan α}
    (hinside : ∀ inner, room = inner + 1 → (inside inner).Ensures P) :
    (enter room inside).Ensures P := by
  cases room with
  | zero => exact ensures_failAhead _
  | succ room => exact ensures_bind (ensures_true _) fun _ _ => hinside room rfl

theorem ensures_itemLoop {I : σ → Prop} {step : σ → Scan σ}
    (hstep : ∀ s, I s → (step s).Ensures I) (fuel : Fuel) (first : Bool) (s : σ) (hs : I s) :
    (itemLoop step fuel first s).Ensures I := by
  induction fuel generalizing first s with
  | nil => exact ensures_pure hs
  | cons _ fuel ih =>
      refine ensures_bind (ensures_true _) fun more _ => ?_
      cases more with
      | false => exact ensures_pure hs
      | true => exact ensures_bind (hstep s hs) fun next hnext => ih false next hnext

/-- What each item ensures holds of all items of the list. -/
theorem ensures_items {item : Scan α} (hitem : item.Ensures P) :
    (items item).Ensures fun read => ∀ a ∈ read, P a := by
  have hloop : Ensures (withFuel fun fuel => itemLoop (fun done => return (← item) :: done)
      fuel true []) fun done => ∀ a ∈ done, P a := by
    intro cursor
    refine ensures_itemLoop ?_ _ _ _ (List.forall_mem_nil _) cursor
    intro done hdone
    exact ensures_map fun _ a _ ha => List.forall_mem_cons.mpr ⟨hitem _ _ _ ha, hdone⟩
  refine ensures_bind hloop fun done hdone => ensures_pure ?_
  intro a ha
  exact hdone a (List.mem_reverse.mp ha)

theorem ensures_memberLoop {I : σ → Prop} {step : String → σ → Scan σ}
    (hstep : ∀ key s, I s → (step key s).Ensures I) (fuel : Fuel) (first : Bool) (s : σ)
    (hs : I s) :
    (memberLoop step fuel first s).Ensures I := by
  induction fuel generalizing first s with
  | nil => exact ensures_pure hs
  | cons _ fuel ih =>
      refine ensures_bind (ensures_true _) fun more _ => ?_
      cases more with
      | false => exact ensures_pure hs
      | true =>
          refine ensures_bind (ensures_true _) fun key _ => ?_
          exact ensures_bind (hstep key s hs) fun next hnext => ih false next hnext

/-- What each member keeps, the object keeps. -/
theorem ensures_members {I : σ → Prop} {start : σ} {step : String → σ → Scan σ} (hstart : I start)
    (hstep : ∀ key s, I s → (step key s).Ensures I) : (members start step).Ensures I := by
  intro cursor s after hrun
  exact ensures_memberLoop hstep _ _ _ hstart cursor s after hrun

theorem ensures_some {scan : Scan α} (hscan : scan.Ensures P) :
    Ensures (do return some (← scan)) fun read => ∀ a, read = some a → P a :=
  ensures_bind hscan fun _ h => ensures_pure fun _ heq => Option.some.inj heq ▸ h

theorem ensures_once {scan : Scan α} {name : String} {earlier : Option α} (hscan : scan.Ensures P) :
    (once name earlier scan).Ensures fun read => ∀ a, read = some a → P a := by
  cases earlier with
  | some _ => exact ensures_raise _
  | none => exact ensures_some (ensures_bind (ensures_true _) fun _ _ => hscan)

theorem ensures_item? {scan : Scan α} {first : Bool} (hscan : scan.Ensures P) :
    (item? first scan).Ensures fun read => ∀ a, read = some a → P a := by
  refine ensures_bind (ensures_true _) fun more _ => ?_
  cases more with
  | false => exact ensures_pure fun _ h => by cases h
  | true => exact ensures_some hscan

theorem ensures_wrongType (expected : String) : (wrongType expected : Scan α).Ensures P := by
  refine ensures_located (ensures_bind (ensures_true _) fun byte _ => ?_)
  cases byte with
  | none => exact ensures_failAhead _
  | some byte =>
      dsimp only
      split
      · exact ensures_raise _
      split
      · exact ensures_raise _
      · exact ensures_bind (ensures_true _) fun _ _ => ensures_raise _

/-- What the ways to read an array and an object ensure, one level further in. -/
theorem ensures_bracketed {expected : String} {room : Nat} {list object : Option (Nat → Scan α)}
    (hlist : ∀ inside ∈ list, ∀ inner, room = inner + 1 → (inside inner).Ensures P)
    (hobject : ∀ inside ∈ object, ∀ inner, room = inner + 1 → (inside inner).Ensures P) :
    (bracketed expected room list object).Ensures P := by
  refine ensures_located (ensures_bind (ensures_true _) fun byte _ => ?_)
  cases byte with
  | none => exact ensures_failAhead _
  | some byte =>
      dsimp only
      split
      case h_1 inside close hway =>
        refine ensures_enter fun inner hinner => ensures_closing ?_
        split at hway
        · obtain ⟨found, hfound, hpair⟩ := Option.map_eq_some_iff.mp hway
          obtain ⟨rfl, rfl⟩ := Prod.mk.inj hpair
          exact hlist found hfound inner hinner
        · split at hway
          · obtain ⟨found, hfound, hpair⟩ := Option.map_eq_some_iff.mp hway
            obtain ⟨rfl, rfl⟩ := Prod.mk.inj hpair
            exact hobject found hfound inner hinner
          · cases hway
      case h_2 => exact ensures_wrongType _

theorem ensures_record {name : String} {room : Nat} {fromItems fromMembers : Nat → Scan α}
    (hitems : ∀ inner, room = inner + 1 → (fromItems inner).Ensures P)
    (hmembers : ∀ inner, room = inner + 1 → (fromMembers inner).Ensures P) :
    (record name room fromItems fromMembers).Ensures P := by
  apply ensures_bracketed
  · intro inside hinside
    obtain rfl := Option.some.inj hinside
    exact hitems
  · intro inside hinside
    obtain rfl := Option.some.inj hinside
    exact hmembers

theorem ensures_openRecord {name : String} {room : Nat} {fromMembers : Nat → Scan α}
    (hmembers : ∀ inner, room = inner + 1 → (fromMembers inner).Ensures P) :
    (openRecord name room fromMembers).Ensures P := by
  apply ensures_bracketed
  · intro inside hinside
    cases hinside
  · intro inside hinside
    obtain rfl := Option.some.inj hinside
    exact hmembers

theorem ensures_list {room : Nat} {item : Nat → Scan α}
    (hitem : ∀ inner, room = inner + 1 → (item inner).Ensures P) :
    (list room item).Ensures fun read => ∀ a ∈ read, P a := by
  apply ensures_bracketed
  · intro inside hinside
    obtain rfl := Option.some.inj hinside
    exact fun inner hinner => ensures_items (hitem inner hinner)
  · intro inside hinside
    cases hinside

theorem ensures_run {scan : Nat → Scan α} (hscan : (scan roomLimit).Ensures P)
    {bytes : List UInt8} {a : α} (hrun : run scan bytes = .ok a) : P a := by
  have hwhole : (whole (scan roomLimit)).Ensures P := by
    refine ensures_bind hscan fun a ha => ensures_bind (ensures_true _) fun byte _ => ?_
    cases byte with
    | none => exact ensures_pure ha
    | some _ => exact ensures_failAhead _
  exact hwhole { rest := bytes } a _ (Prod.ext hrun rfl)

/-! Values. -/

theorem ensures_value (room : Nat) : (value room).Ensures IsValue :=
  ensures_map fun _ tree _ _ => isValue_normalize tree

/-- Looking ahead stops before the first byte that is no white space. -/
theorem ahead?_eq_ok {cursor after : Cursor} {byte : Option UInt8}
    (hrun : ahead? cursor = (.ok byte, after)) : Inked after.rest ∧ after.rest.head? = byte := by
  have hspace : Blank (cursor.rest.takeWhile isSpace) := fun _ hbyte => List.mem_takeWhile_imp hbyte
  have hrest : Inked (cursor.rest.dropWhile isSpace) := by
    intro other hother
    have hstop := List.head?_dropWhile_not isSpace cursor.rest
    rwa [hother] at hstop
  have hahead := gives_ahead hspace hrest
  rw [List.takeWhile_append_dropWhile] at hahead
  obtain ⟨line, column, hagain⟩ := hahead cursor.line cursor.column
  rw [hrun] at hagain
  cases hagain
  exact ⟨hrest, rfl⟩

theorem ahead?_of_inked {cursor : Cursor} (hinked : Inked cursor.rest) :
    ∃ after, ahead? cursor = (.ok cursor.rest.head?, after) := by
  obtain ⟨line, column, hrun⟩ := gives_ahead blank_nil hinked cursor.line cursor.column
  exact ⟨_, hrun⟩

/-- What does not start like null is not read as null. -/
theorem valueWith_ne_null {list object : Scan Json} (hlist : list.Ensures (· ≠ .null))
    (hobject : object.Ensures (· ≠ .null)) {cursor after : Cursor} {v : Json}
    (hinked : Inked cursor.rest) (hhead : cursor.rest.head? ≠ some 0x6E)
    (hrun : valueWith list object cursor = (.ok v, after)) : v ≠ .null := by
  obtain ⟨middle, hahead⟩ := ahead?_of_inked hinked
  rw [valueWith, Outcome.run_bind, hahead] at hrun
  cases hbyte : cursor.rest.head? with
  | none =>
      rw [hbyte] at hrun
      cases hrun
  | some byte =>
      rw [hbyte] at hrun hhead
      dsimp only at hrun
      have hnull : ¬(byte == 0x6E) = true := by simpa using hhead
      rw [if_neg hnull] at hrun
      refine (?_ : Ensures _ (· ≠ .null)) _ _ _ hrun
      split
      · exact ensures_bind (ensures_true _) fun _ _ => ensures_bind (ensures_true _) fun _ _ =>
          ensures_pure (by simp)
      split
      · exact ensures_bind (ensures_true _) fun _ _ => ensures_bind (ensures_true _) fun _ _ =>
          ensures_pure (by simp)
      split
      · exact ensures_bind (ensures_true _) fun _ _ => ensures_pure (by simp)
      split
      · exact ensures_bind (ensures_true _) fun _ _ => ensures_pure (by simp)
      split
      · exact hlist
      split
      · exact hobject
      · exact ensures_failAhead _

/-- What does not start like null is not read as null. -/
theorem tree_ne_null {room : Nat} {cursor after : Cursor} {v : Json} (hinked : Inked cursor.rest)
    (hhead : cursor.rest.head? ≠ some 0x6E) (hrun : tree room cursor = (.ok v, after)) :
    v ≠ .null := by
  cases room with
  | zero =>
      exact valueWith_ne_null (ensures_failAhead _) (ensures_failAhead _) hinked hhead hrun
  | succ room =>
      refine valueWith_ne_null ?_ ?_ hinked hhead hrun
      · exact ensures_bind (ensures_true _) fun _ _ => ensures_bind (ensures_true _) fun _ _ =>
          ensures_pure (by simp)
      · exact ensures_bind (ensures_true _) fun _ _ => ensures_bind (ensures_true _) fun _ _ =>
          ensures_pure (by simp)

/-- An optional value that is there is a value, and not null. -/
theorem ensures_optional_value (room : Nat) :
    (optional (value room)).Ensures fun read => ∀ v, read = some v → v.IsValue ∧ v ≠ .null := by
  intro cursor read after hrun v hread
  subst hread
  rw [optional, Outcome.run_bind] at hrun
  split at hrun
  case h_2 => cases hrun
  case h_1 byte middle hahead =>
    obtain ⟨hinked, hhead⟩ := ahead?_eq_ok hahead
    split at hrun
    case h_1 =>
      have hnone : Ensures (do discard; word nullRest; return (none : Option Json)) (· = none) :=
        ensures_bind (ensures_true _) fun _ _ => ensures_bind (ensures_true _) fun _ _ =>
          ensures_pure rfl
      exact absurd (hnone _ _ _ hrun) (by simp)
    case h_2 hnull =>
      rw [value, bind_assoc, Outcome.run_bind] at hrun
      split at hrun
      case h_2 => cases hrun
      case h_1 written after hwritten =>
        have htree := tree_ne_null hinked (fun h => hnull (hhead.symm.trans h)) hwritten
        cases hrun
        exact ⟨isValue_normalize written, fun h => htree (normalize_eq_null.mp h)⟩

end MessageContract.Json.Scan
