import MessageContract.Proofs.Concrete

/-!
Bounded arrays. The items of the example are repeated from the first one on, or
dropped from the last one on, until there are as many as the bounds ask for. Without
bounds, and without items, the array stays as it is.
-/

namespace MessageContract

section Cycle

variable {α : Type} {items : List α} {count i : Nat}

/-- One more round of the repetition. -/
theorem cycle_succ (items : List α) (count : Nat) :
    cycle items (count + 1) = cycle items count ++ items[count % items.length]?.toList := by
  have hlast (a : Option α) : ([count].filterMap fun _ => a) = a.toList := by cases a <;> rfl
  rw [cycle, List.range_succ, List.filterMap_append, ← hlast]
  rfl

/-- Whatever is repeated or dropped, the items are those there were. -/
theorem mem_of_mem_cycle {a : α} (h : a ∈ cycle items count) : a ∈ items := by
  obtain ⟨i, -, hget⟩ := List.mem_filterMap.mp h
  exact List.mem_of_getElem? hget

theorem cycle_nil (count : Nat) : cycle ([] : List α) count = [] := by
  induction count with
  | zero => rfl
  | succ count ih => rw [cycle_succ, ih]; rfl

theorem length_cycle (hitems : items ≠ []) (count : Nat) : (cycle items count).length = count := by
  induction count with
  | zero => rfl
  | succ count ih =>
      have hindex : count % items.length < items.length :=
        Nat.mod_lt _ (List.length_pos_iff.mpr hitems)
      rw [cycle_succ, List.length_append, ih, List.getElem?_eq_getElem hindex]
      rfl

/-- Item after item is taken, and after the last one the first one again. -/
theorem getElem?_cycle (hitems : items ≠ []) (hi : i < count) :
    (cycle items count)[i]? = items[i % items.length]? := by
  induction count with
  | zero => cases hi
  | succ count ih =>
      have hlength := length_cycle hitems count
      rw [cycle_succ]
      rcases Nat.lt_succ_iff_lt_or_eq.mp hi with hearlier | rfl
      · rw [List.getElem?_append_left (hlength.symm ▸ hearlier), ih hearlier]
      · rw [List.getElem?_append_right (Nat.le_of_eq hlength), hlength, Nat.sub_self]
        cases items[i % items.length]? <;> rfl

theorem length_cycle_eq (items : List α) (count : Nat) [Decidable (items = [])] :
    (cycle items count).length = if items = [] then 0 else count := by
  split
  case isTrue hnone => rw [hnone, cycle_nil, List.length_nil]
  case isFalse hsome => exact length_cycle hsome count

theorem length_cycle_le (items : List α) (count : Nat) : (cycle items count).length ≤ count := by
  by_cases hitems : items = []
  · rw [hitems, cycle_nil]
    exact Nat.zero_le count
  · exact Nat.le_of_eq (length_cycle hitems count)

/-- Where there is an element, there are items to take it from. -/
theorem getElem?_cycle_of_lt_length (hi : i < (cycle items count).length) :
    (cycle items count)[i]? = items[i % items.length]? := by
  have hitems : items ≠ [] := by
    rintro rfl
    simp [cycle_nil] at hi
  exact getElem?_cycle hitems (Nat.lt_of_lt_of_le hi (length_cycle_le items count))

theorem cycle_length_self (items : List α) : cycle items items.length = items := by
  by_cases hitems : items = []
  · rw [hitems, cycle_nil]
  apply List.ext_getElem?
  intro i
  by_cases hi : i < items.length
  · rw [getElem?_cycle hitems hi, Nat.mod_eq_of_lt hi]
  · have hend := Nat.le_of_not_lt hi
    rw [List.getElem?_eq_none hend, List.getElem?_eq_none (length_cycle hitems _ ▸ hend)]

end Cycle

section Bounds

variable {min max : Option Nat} {count bound : Nat}

theorem boundedLength_le (hmax : max = some bound) : boundedLength min max count ≤ bound := by
  subst hmax
  cases min <;> exact Nat.min_le_right _ _

/-- A lower bound is met if the upper one lets it. -/
theorem le_boundedLength (hmin : min = some bound)
    (hmax : ∀ greatest, max = some greatest → bound ≤ greatest) :
    bound ≤ boundedLength min max count := by
  subst hmin
  cases max with
  | none => exact Nat.le_max_left _ _
  | some greatest => exact Nat.le_min.mpr ⟨Nat.le_max_left _ _, hmax greatest rfl⟩

end Bounds

open Traced

/-- The items are repeated or dropped to the length that the bounds give, unless they
would have to be repeated beyond the limit. -/
theorem outcome_boundedArray (min max : Option Nat) (items : List Json) :
    (boundedArray min max items).outcome =
      if itemLimit < boundedLength min max items.length ∧
          items.length < boundedLength min max items.length then
        .error (.invalidMatcher (.tooManyItems (boundedLength min max items.length) itemLimit))
      else .ok (.array (cycle items (boundedLength min max items.length))) := by
  unfold boundedArray
  simp only [Bool.and_eq_true, decide_eq_true_eq]
  split
  · rfl
  · cases items with
    | nil => rw [cycle_nil]; rfl
    | cons => rfl

/-- An array that is the example of a type is bounded, whatever the bounds are. -/
theorem Rule.outcome_settle_array (engine : PatternEngine) (lower upper : Option UInt64)
    (items : List Node) (values : List Json) :
    ((Rule.sameType lower upper).settle engine (.array items) (.array values)).outcome =
      (boundedArray (lower.map UInt64.toNat) (upper.map UInt64.toNat) values).outcome := by
  cases lower with
  | none =>
      cases upper with
      | none =>
          have hlength : boundedLength none none values.length = values.length := rfl
          rw [outcome_boundedArray]
          simp [hlength, cycle_length_self, settle]
      | some => rfl
  | some => rfl

namespace Node

/-- What becomes of an array that is the example of a type, once its items have
become values. -/
theorem outcome_concrete_bounded {engine : PatternEngine} {items : List Node}
    {values : List Json}
    (hvalues : List.Forall₂ (fun item value => (item.concrete engine).outcome = .ok value)
      items values)
    (lower upper : Option UInt64) (generator : Option String) (attributes : Fields Json) :
    ((matched (.sameType lower upper) (some (.array items)) generator attributes).concrete
        engine).outcome =
      (boundedArray (lower.map UInt64.toNat) (upper.map UInt64.toNat) values).outcome := by
  have harray : (concrete engine (.array items)).outcome = .ok (.array values) :=
    outcome_concrete_array.mpr ⟨values, rfl, hvalues⟩
  rw [concrete_matched_some rfl, outcome_bind, harray, Outcome.ok_bind, Rule.outcome_settle_array]

/-- An array that is the example of a type gets as many elements as the bounds ask for.
They are what the examples become, over and over again; only examples that are
there are repeated, and not beyond the limit. -/
theorem concrete_bounded_array (engine : PatternEngine) {items : List Node} {values : List Json}
    (hvalues : List.Forall₂ (fun item value => (item.concrete engine).outcome = .ok value)
      items values)
    (lower upper : Option UInt64) (generator : Option String) (attributes : Fields Json) :
    ∃ count : Nat,
      (∀ least greatest, lower = some least → upper = some greatest →
        count = min (max least.toNat 1) greatest.toNat) ∧
      (∀ least, lower = some least → upper = none → count = max least.toNat 1) ∧
      (∀ greatest, lower = none → upper = some greatest →
        count = min values.length greatest.toNat) ∧
      (lower = none → upper = none → count = values.length) ∧
      let outcome := ((matched (.sameType lower upper) (some (.array items)) generator
        attributes).concrete engine).outcome
      if itemLimit < count ∧ values.length < count then
        outcome = .error (.invalidMatcher (.tooManyItems count itemLimit))
      else
        ∃ elements, outcome = .ok (.array elements) ∧
          elements.length = (if values = [] then 0 else count) ∧
          (∀ i < elements.length, elements[i]? = values[i % values.length]?) ∧
          (∀ greatest, upper = some greatest → elements.length ≤ greatest.toNat) ∧
          elements.length ≤ max itemLimit values.length ∧
          (∀ least, lower = some least → values ≠ [] →
            (∀ greatest, upper = some greatest → least ≤ greatest) →
            least.toNat ≤ elements.length) := by
  have houtcome := outcome_concrete_bounded hvalues lower upper generator attributes
  rw [outcome_boundedArray] at houtcome
  let count := boundedLength (lower.map UInt64.toNat) (upper.map UInt64.toNat) values.length
  refine ⟨count, ?_, ?_, ?_, ?_, ?_⟩
  · rintro least greatest rfl rfl
    rfl
  · rintro least rfl rfl
    rfl
  · rintro greatest rfl rfl
    rfl
  · rintro rfl rfl
    rfl
  dsimp only
  split
  case isTrue hlong => rw [houtcome, if_pos hlong]
  case isFalse hshort =>
    rw [if_neg hshort] at houtcome
    have hlength := length_cycle_eq values count
    have hat := length_cycle_le values count
    refine ⟨cycle values count, houtcome, hlength, ?_, ?_, ?_, ?_⟩
    · intro i hi
      exact getElem?_cycle_of_lt_length hi
    · rintro greatest rfl
      exact hat.trans (boundedLength_le rfl)
    · omega
    · rintro least rfl hsome hupper
      rw [hlength, if_neg hsome]
      apply le_boundedLength rfl
      intro greatest hgreatest
      obtain ⟨most, rfl, rfl⟩ := Option.map_eq_some_iff.mp hgreatest
      exact UInt64.le_iff_toNat_le.mp (hupper most rfl)

/-- Three elements at least of two examples, one of which is a rule that needs none. -/
theorem concrete_bounded_array_repeated :
    let engine : PatternEngine := { compile := fun _ => .error none }
    let items : List Node := [.string "A-1", .matched .integer none none []]
    let values : List Json := [.string "A-1", .int 1]
    List.Forall₂ (fun item value => (item.concrete engine).outcome = .ok value) items values ∧
    ∃ elements, ((matched (.sameType (some 3) none) (some (.array items)) none []).concrete
        engine).outcome = .ok (.array elements) ∧
      elements.length = 3 ∧ ∀ i < 3, elements[i]? = values[i % 2]? := by
  intro engine items values
  have hvalues : List.Forall₂ (fun item value => (item.concrete engine).outcome = .ok value)
      items values := .cons rfl (.cons rfl .nil)
  obtain ⟨count, -, hlower, -, -, hmade⟩ :=
    concrete_bounded_array engine hvalues (some 3) none none []
  obtain rfl : count = 3 := hlower 3 rfl rfl
  rw [if_neg (by decide)] at hmade
  obtain ⟨elements, houtcome, hlength, helements, -⟩ := hmade
  have hlength : elements.length = 3 := hlength
  rw [hlength] at helements
  exact ⟨hvalues, elements, houtcome, hlength, helements⟩

end Node

end MessageContract
