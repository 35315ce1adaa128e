import MessageContract.Proofs.Json.Ensures
import MessageContract.Proofs.Json.Reread
import MessageContract.Proofs.Number.Reread

/-!
How deep values nest. A text is read to values that nest no deeper than there is
room for, and whose numbers fit. These are also the values whose own text is read
again, so what has been read from a text can be written, as deep as it stood there.
-/

namespace MessageContract.Json

open Scan (rereadItems_eq rereadMembers_eq)

mutual

/-- How many arrays and objects of the value stand within one another. -/
def depth : Json → Nat
  | .array items => depthItems items + 1
  | .object members => depthMembers members + 1
  | _ => 0

def depthItems : List Json → Nat
  | [] => 0
  | item :: rest => max (depth item) (depthItems rest)

def depthMembers : List (String × Json) → Nat
  | [] => 0
  | (_, value) :: rest => max (depth value) (depthMembers rest)

end

mutual

/-- All numbers of the value fit. -/
def InRange : Json → Prop
  | .number n => n.Fits
  | .array items => InRangeItems items
  | .object members => InRangeMembers members
  | _ => True

def InRangeItems : List Json → Prop
  | [] => True
  | item :: rest => InRange item ∧ InRangeItems rest

def InRangeMembers : List (String × Json) → Prop
  | [] => True
  | (_, value) :: rest => InRange value ∧ InRangeMembers rest

end

theorem depthItems_le {items : List Json} {room : Nat} :
    depthItems items ≤ room ↔ ∀ item ∈ items, item.depth ≤ room := by
  induction items with
  | nil => simp [depthItems]
  | cons item rest ih => rw [depthItems, Nat.max_le, ih, List.forall_mem_cons]

theorem depthMembers_le {members : Fields Json} {room : Nat} :
    depthMembers members ≤ room ↔ ∀ member ∈ members, member.2.depth ≤ room := by
  induction members with
  | nil => simp [depthMembers]
  | cons member rest ih => rw [depthMembers, Nat.max_le, ih, List.forall_mem_cons]

theorem inRange_array {items : List Json} :
    (Json.array items).InRange ↔ ∀ item ∈ items, item.InRange := by
  rw [InRange]
  induction items with
  | nil => simp [InRangeItems]
  | cons item rest ih => rw [InRangeItems, ih, List.forall_mem_cons]

theorem inRange_object {members : Fields Json} :
    (Json.object members).InRange ↔ ∀ member ∈ members, member.2.InRange := by
  rw [InRange]
  induction members with
  | nil => simp [InRangeMembers]
  | cons member rest ih => rw [InRangeMembers, ih, List.forall_mem_cons]

/-- There is room for the value: it nests no deeper, and its numbers fit. -/
def Within (room : Nat) (value : Json) : Prop :=
  value.depth ≤ room ∧ value.InRange

variable {room : Nat}

theorem within_array {items : List Json} :
    (Json.array items).Within room ↔
      ∃ inner, room = inner + 1 ∧ ∀ item ∈ items, item.Within inner := by
  rw [Within, depth, inRange_array]
  cases room with
  | zero => simp
  | succ inner => simp [depthItems_le, Within, forall_and]

theorem within_object {members : Fields Json} :
    (Json.object members).Within room ↔
      ∃ inner, room = inner + 1 ∧ ∀ member ∈ members, member.2.Within inner := by
  rw [Within, depth, inRange_object]
  cases room with
  | zero => simp
  | succ inner => simp [depthMembers_le, Within, forall_and]

theorem within_null : Json.null.Within room := ⟨Nat.zero_le _, trivial⟩

theorem within_bool (b : Bool) : (Json.bool b).Within room := ⟨Nat.zero_le _, trivial⟩

theorem within_string (text : String) : (Json.string text).Within room :=
  ⟨Nat.zero_le _, trivial⟩

theorem within_number {n : Number} (h : n.Fits) : (Json.number n).Within room :=
  ⟨Nat.zero_le _, h⟩

theorem Within.mono {value : Json} (h : value.Within room) {more : Nat} (hmore : room ≤ more) :
    value.Within more :=
  ⟨h.1.trans hmore, h.2⟩

/-- A value has room where the tree that stands for it has. -/
theorem Within.normalize {value : Json} (h : value.Within room) : value.normalize.Within room := by
  induction room generalizing value with
  | zero =>
      cases value with
      | array => simp [within_array] at h
      | object => simp [within_object] at h
      | _ => exact h
  | succ room ih =>
      cases value with
      | array items =>
          obtain ⟨_, hroom, hitems⟩ := within_array.mp h
          obtain rfl := Nat.succ.inj hroom
          rw [normalize_array]
          refine within_array.mpr ⟨room, rfl, ?_⟩
          intro item hitem
          obtain ⟨found, hfound, rfl⟩ := List.mem_map.mp hitem
          exact ih (hitems found hfound)
      | object members =>
          obtain ⟨_, hroom, hmembers⟩ := within_object.mp h
          obtain rfl := Nat.succ.inj hroom
          rw [normalize_object]
          refine within_object.mpr ⟨room, rfl, ?_⟩
          intro member hmember
          have hmem := (Fields.mem_overlay hmember).resolve_left List.not_mem_nil
          obtain ⟨found, hfound, rfl⟩ := List.mem_map.mp hmem
          exact ih (hmembers found hfound)
      | _ => exact h

/-! Reading again what has been written. -/

theorem depth_le_of_reread? {value : Json} (h : (value.reread? room).isSome) :
    value.depth ≤ room := by
  induction room generalizing value with
  | zero =>
      cases value with
      | array | object => simp [reread?] at h
      | _ => exact Nat.zero_le _
  | succ room ih =>
      cases value with
      | array items =>
          rw [reread?, rereadItems_eq, Option.isSome_map, Outcome.mapM_isSome] at h
          rw [depth, Nat.succ_le_succ_iff, depthItems_le]
          exact fun item hitem => ih (h item hitem)
      | object members =>
          rw [reread?, rereadMembers_eq, Option.isSome_map, Outcome.mapM_isSome] at h
          rw [depth, Nat.succ_le_succ_iff, depthMembers_le]
          intro member hmember
          have hread := h member hmember
          rw [Option.isSome_map] at hread
          exact ih hread
      | _ => exact Nat.zero_le _

/-- What has room is read again, with each float as it is read of its own text. -/
theorem Within.reread?_eq {value : Json} (h : value.Within room) :
    value.reread? room = some (value.mapFloats Binary64.reread) := by
  induction room generalizing value with
  | zero =>
      cases value with
      | number n =>
          rw [reread?, Number.reread?_of_fits h.2]
          rfl
      | array => simp [within_array] at h
      | object => simp [within_object] at h
      | _ => rfl
  | succ room ih =>
      cases value with
      | number n =>
          rw [reread?, Number.reread?_of_fits h.2]
          rfl
      | array items =>
          obtain ⟨_, hroom, hitems⟩ := within_array.mp h
          obtain rfl := Nat.succ.inj hroom
          have hread := Outcome.mapM_eq_some_map.mpr fun item hitem => ih (hitems item hitem)
          rw [reread?, rereadItems_eq, hread, mapFloats_array]
          rfl
      | object members =>
          obtain ⟨_, hroom, hmembers⟩ := within_object.mp h
          obtain rfl := Nat.succ.inj hroom
          have hread : (members.mapM fun (m : String × Json) =>
              (m.2.reread? room).map (m.1, ·)) =
              some (Fields.mapValues (mapFloats Binary64.reread) members) := by
            apply Outcome.mapM_eq_some_map.mpr
            intro member hmember
            rw [ih (hmembers member hmember)]
            rfl
          rw [reread?, rereadMembers_eq, hread, mapFloats_object]
          rfl
      | _ => rfl

theorem Within.reread?_isSome {value : Json} (h : value.Within room) :
    (value.reread? room).isSome := by
  rw [h.reread?_eq]
  rfl

/-- A value whose numbers fit is read again where it has room, and only there. -/
theorem reread?_isSome_iff {value : Json} (h : value.InRange) :
    (value.reread? room).isSome ↔ value.depth ≤ room :=
  ⟨depth_le_of_reread?, fun hdepth => Within.reread?_isSome ⟨hdepth, h⟩⟩

end MessageContract.Json

namespace MessageContract.Json.Scan

/-! Reading numbers. Only an integer has to fit, and its digits are bounded as they
are read. -/

section Numbers

variable (negative : Bool) (significand : Nat)

theorem ensures_float (exponent : Int) :
    (float negative significand exponent).Ensures Number.Fits := by
  unfold float
  split
  · exact ensures_pure trivial
  · exact ensures_fail _

theorem ensures_hugeExponent (negativeExponent : Bool) :
    (hugeExponent negative negativeExponent significand).Ensures Number.Fits := by
  unfold hugeExponent
  split
  · exact ensures_fail _
  · exact ensures_bind (ensures_true _) fun _ _ => ensures_float _ _ _

theorem ensures_exponentDigits (negativeExponent : Bool) (scale : Int) (fuel : Fuel)
    (exponent : Nat) :
    (exponentDigits negative negativeExponent significand scale fuel exponent).Ensures
      Number.Fits := by
  induction fuel generalizing exponent with
  | nil => exact ensures_fail _
  | cons _ fuel ih =>
      refine ensures_bind (ensures_true _) fun d _ => ?_
      cases d with
      | none => exact ensures_float _ _ _
      | some d =>
          refine ensures_bind (ensures_true _) fun _ _ => ?_
          split
          · exact ensures_hugeExponent _ _ _
          · exact ih _

theorem ensures_exponent (scale : Int) :
    (exponent negative significand scale).Ensures Number.Fits := by
  refine ensures_bind (ensures_true _) fun _ _ => ensures_bind (ensures_true _) fun sign _ => ?_
  dsimp only
  split
  case' isTrue => refine ensures_bind (ensures_true _) fun _ _ => ?_
  all_goals
    refine ensures_bind (ensures_true _) fun byte _ => ?_
    cases byte with
    | none => exact ensures_fail _
    | some byte =>
        dsimp only
        split
        · exact ensures_withFuel fun fuel => ensures_exponentDigits _ _ _ _ fuel _
        · exact ensures_fail _

theorem ensures_scaled (scale : Int) :
    (scaled negative significand scale).Ensures Number.Fits := by
  refine ensures_bind (ensures_true _) fun byte _ => ?_
  split
  · exact ensures_exponent _ _ _
  · exact ensures_float _ _ _

theorem ensures_fractionDigits (base : Int) (fuel : Fuel) (count : Nat) :
    (fractionDigits negative base fuel significand count).Ensures Number.Fits := by
  induction fuel generalizing significand count with
  | nil => exact ensures_fail _
  | cons _ fuel ih =>
      refine ensures_bind (ensures_true _) fun d _ => ?_
      cases d with
      | some d =>
          dsimp only
          split
          · exact ensures_bind (ensures_true _) fun _ _ => ensures_scaled _ _ _
          · exact ensures_bind (ensures_true _) fun _ _ => ih _ _
      | none =>
          dsimp only
          split
          · exact ensures_bind (ensures_true _) fun _ _ => ensures_failAhead _
          · exact ensures_scaled _ _ _

theorem ensures_fraction (base : Int) :
    (fraction negative significand base).Ensures Number.Fits :=
  ensures_bind (ensures_true _) fun _ _ =>
    ensures_withFuel fun fuel => ensures_fractionDigits _ _ _ fuel _

theorem ensures_longInteger (fuel : Fuel) (dropped : Nat) :
    (longInteger negative significand fuel dropped).Ensures Number.Fits := by
  induction fuel generalizing dropped with
  | nil => exact ensures_fail _
  | cons _ fuel ih =>
      refine ensures_bind (ensures_true _) fun d _ => ?_
      split
      · exact ensures_bind (ensures_true _) fun _ _ => ih _
      · refine ensures_bind (ensures_true _) fun byte _ => ?_
        split
        · exact ensures_fraction _ _ _
        · exact ensures_scaled _ _ _

variable {significand} (hbound : significand < significandBound)

include hbound

theorem ensures_afterInteger : (afterInteger negative significand).Ensures Number.Fits := by
  have hsize : significandBound = 2 ^ 64 := rfl
  have hhalf : UInt64.size / 2 = 2 ^ 63 := rfl
  refine ensures_bind (ensures_true _) fun byte _ => ?_
  split
  · exact ensures_fraction _ _ _
  split
  · exact ensures_exponent _ _ _
  split
  · exact ensures_pure ⟨by omega, by omega⟩
  split
  case isTrue hsmall =>
    rw [Bool.and_eq_true, decide_eq_true_eq, decide_eq_true_eq, hhalf] at hsmall
    exact ensures_pure ⟨by omega, by omega⟩
  case isFalse => exact ensures_float _ _ _

theorem ensures_integerDigits (fuel : Fuel) :
    (integerDigits negative fuel significand).Ensures Number.Fits := by
  induction fuel generalizing significand with
  | nil => exact ensures_fail _
  | cons _ fuel ih =>
      refine ensures_bind (ensures_true _) fun d _ => ?_
      cases d with
      | none => exact ensures_afterInteger negative hbound
      | some d =>
          dsimp only
          split
          case isTrue => exact ensures_withFuel fun fuel => ensures_longInteger _ _ fuel _
          case isFalse hnext =>
            exact ensures_bind (ensures_true _) fun _ _ => ih (Nat.lt_of_not_le hnext)

end Numbers

theorem digit?_lt {byte : UInt8} {d : Nat} (h : digit? byte = some d) : d < 10 := by
  unfold digit? at h
  split at h
  case isTrue hrange =>
    rw [Bool.and_eq_true, decide_eq_true_eq, decide_eq_true_eq, UInt8.le_iff_toNat_le,
      UInt8.le_iff_toNat_le] at hrange
    obtain rfl := Option.some.inj h
    have hlast : (0x39 : UInt8).toNat = 57 := rfl
    omega
  case isFalse => cases h

/-- What is read as a number fits. -/
theorem ensures_number : number.Ensures Number.Fits := by
  have hzero : 0 < significandBound := by decide
  have hunsigned (negative : Bool) : (unsignedNumber negative).Ensures Number.Fits := by
    refine ensures_bind (ensures_true _) fun byte _ => ?_
    cases byte with
    | none => exact ensures_fail _
    | some byte =>
        dsimp only
        split
        case h_1 =>
          refine ensures_bind (ensures_true _) fun d _ => ?_
          split
          · exact ensures_failAhead _
          · exact ensures_afterInteger negative hzero
        case h_2 d _ hd =>
          have hsmall : d < significandBound := (digit?_lt hd).trans (by decide)
          exact ensures_withFuel fun fuel => ensures_integerDigits negative hsmall fuel
        case h_3 => exact ensures_fail _
  refine ensures_bind (ensures_true _) fun byte _ => ?_
  split
  · exact ensures_bind (ensures_true _) fun _ _ => hunsigned true
  · exact hunsigned false

/-! Reading values. -/

theorem ensures_valueWith {P : Json → Prop} {list object : Scan Json} (hnull : P .null)
    (hbool : ∀ b, P (.bool b)) (hnumber : ∀ n : Number, n.Fits → P (.number n))
    (hstring : ∀ text, P (.string text)) (hlist : list.Ensures P) (hobject : object.Ensures P) :
    (valueWith list object).Ensures P := by
  refine ensures_bind (ensures_true _) fun byte _ => ?_
  cases byte with
  | none => exact ensures_failAhead _
  | some byte =>
      dsimp only
      split
      · exact ensures_bind (ensures_true _) fun _ _ => ensures_bind (ensures_true _) fun _ _ =>
          ensures_pure hnull
      split
      · exact ensures_bind (ensures_true _) fun _ _ => ensures_bind (ensures_true _) fun _ _ =>
          ensures_pure (hbool true)
      split
      · exact ensures_bind (ensures_true _) fun _ _ => ensures_bind (ensures_true _) fun _ _ =>
          ensures_pure (hbool false)
      split
      · exact ensures_bind ensures_number fun n hn => ensures_pure (hnumber n hn)
      split
      · exact ensures_bind (ensures_true _) fun text _ => ensures_pure (hstring text)
      split
      · exact hlist
      split
      · exact hobject
      · exact ensures_failAhead _

/-- What is read with some levels to spare has room in them. -/
theorem ensures_tree (room : Nat) : (tree room).Ensures (Within room) := by
  induction room with
  | zero =>
      exact ensures_valueWith within_null within_bool (fun _ => within_number) within_string
        (ensures_failAhead _) (ensures_failAhead _)
  | succ room ih =>
      apply ensures_valueWith within_null within_bool (fun _ => within_number) within_string
      · refine ensures_bind (ensures_true _) fun _ _ => ?_
        refine ensures_bind (ensures_closing (ensures_items ih)) fun items hitems => ?_
        exact ensures_pure (within_array.mpr ⟨room, rfl, hitems⟩)
      · refine ensures_bind (ensures_true _) fun _ _ => ?_
        have hmembers : (members [] fun key done => do
            return (key, ← memberValue (tree room)) :: done).Ensures
            fun done => ∀ member ∈ done, member.2.Within room := by
          refine ensures_members (List.forall_mem_nil _) ?_
          intro key done hdone
          refine ensures_bind (ensures_bind (ensures_true _) fun _ _ => ih) fun v hv => ?_
          exact ensures_pure (List.forall_mem_cons.mpr ⟨hv, hdone⟩)
        refine ensures_bind (ensures_closing hmembers) fun done hdone => ensures_pure ?_
        refine within_object.mpr ⟨room, rfl, ?_⟩
        intro member hmember
        exact hdone member (List.mem_reverse.mp hmember)

end MessageContract.Json.Scan
