import MessageContract.Fields
import MessageContract.Proofs.Outcome

/-!
What look-up sees of the other operations on finite maps, and what they do to each
other. Where the keys need not be in order, a fact holds of the members of any
object as it was written.
-/

namespace MessageContract.Fields

variable {α β : Type} {key other : String} {value : α} {fields : Fields α}

@[simp] theorem get?_insert_self (key : String) (value : α) (fields : Fields α) :
    get? key (insert key value fields) = some value := by
  induction fields with
  | nil => simp [insert, get?]
  | cons head rest ih =>
      simp only [insert]
      split
      · simp [get?]
      · split
        · simp [get?]
        · simp_all [get?]

theorem get?_insert_ne (hne : key ≠ other) (value : α) (fields : Fields α) :
    get? key (insert other value fields) = get? key fields := by
  have hne' : other ≠ key := fun h => hne h.symm
  induction fields with
  | nil => simp [insert, get?, hne']
  | cons head rest ih =>
      simp only [insert]
      split
      · simp [get?, hne']
      · split
        · simp_all [get?]
        · simp [get?, ih]

theorem get?_insert?_ne (hne : key ≠ other) (value : Option α) (fields : Fields α) :
    get? key (insert? other value fields) = get? key fields := by
  cases value with
  | none => rfl
  | some value => exact get?_insert_ne hne value fields

/-- Without an earlier value, look-up gives back what may have been put in. -/
theorem get?_insert?_self (value : Option α) (habsent : get? key fields = none) :
    get? key (insert? key value fields) = value := by
  cases value with
  | none => exact habsent
  | some value => exact get?_insert_self key value fields

theorem get?_eq_none_iff : get? key fields = none ↔ ∀ field ∈ fields, field.1 ≠ key := by
  induction fields with
  | nil => simp [get?]
  | cons head rest ih =>
      by_cases hkey : head.1 = key <;> simp [get?, hkey, ih]

/-- Whether there is a value is told by the keys alone. -/
theorem get?_eq_none_iff_keys : get? key fields = none ↔ key ∉ fields.map Prod.fst := by
  rw [get?_eq_none_iff, List.mem_map]
  constructor
  · rintro hnone ⟨field, hfield, rfl⟩
    exact hnone field hfield rfl
  · rintro hnone field hfield rfl
    exact hnone ⟨field, hfield, rfl⟩

theorem mem_of_get? (hget : get? key fields = some value) : (key, value) ∈ fields := by
  induction fields with
  | nil => cases hget
  | cons head rest ih =>
      by_cases hkey : head.1 = key
      · obtain rfl : head.2 = value := by simpa [get?, hkey] using hget
        exact hkey ▸ List.mem_cons_self
      · exact List.mem_cons_of_mem _ (ih (by simpa [get?, hkey] using hget))

@[simp] theorem get?_erase_self (key : String) (fields : Fields α) :
    get? key (erase key fields) = none := by
  rw [get?_eq_none_iff]
  intro field hfield
  simpa using (List.mem_filter.mp hfield).2

theorem get?_erase_ne (hne : key ≠ other) (fields : Fields α) :
    get? key (erase other fields) = get? key fields := by
  induction fields with
  | nil => rfl
  | cons head rest ih =>
      have hrest : get? key (List.filter (fun field => field.1 != other) rest) = get? key rest := ih
      by_cases hhead : head.1 = other
      · simp [erase, hhead, get?, hne.symm, hrest]
      · simp [erase, hhead, get?, hrest]

/-- Erasing never brings a key in. -/
theorem get?_erase_eq_none (habsent : get? key fields = none) (other : String) :
    get? key (erase other fields) = none := by
  by_cases h : key = other
  · rw [h, get?_erase_self]
  · rw [get?_erase_ne h, habsent]

/-- An entry may be put in the place of one that was taken out. -/
theorem get?_insert?_erase (key other : String) (value : Option α) (fields : Fields α) :
    get? key (insert? other value (erase other fields)) =
      if key = other then value else get? key fields := by
  split
  case isTrue hkey => rw [hkey, get?_insert?_self value (get?_erase_self other fields)]
  case isFalse hkey => rw [get?_insert?_ne hkey, get?_erase_ne hkey]

theorem get?_mapValues (f : α → β) (key : String) (fields : Fields α) :
    get? key (mapValues f fields) = (get? key fields).map f := by
  induction fields with
  | nil => rfl
  | cons head rest ih =>
      simp only [mapValues] at ih
      by_cases hkey : head.1 = key <;> simp [mapValues, get?, hkey, ih]

theorem erase_of_absent (habsent : get? key fields = none) : erase key fields = fields := by
  rw [get?_eq_none_iff] at habsent
  simpa [erase] using habsent

@[simp] theorem erase_insert_self (key : String) (value : α) (fields : Fields α) :
    erase key (insert key value fields) = erase key fields := by
  induction fields with
  | nil => simp [insert, erase]
  | cons head rest ih =>
      simp only [insert]
      split
      · simp [erase]
      · split
        · simp_all [erase]
        · simp_all [erase]

@[simp] theorem erase_insert?_self (key : String) (value : Option α) (fields : Fields α) :
    erase key (insert? key value fields) = erase key fields := by
  cases value with
  | none => rfl
  | some value => exact erase_insert_self key value fields

theorem erase_comm (key other : String) (fields : Fields α) :
    erase key (erase other fields) = erase other (erase key fields) := by
  simp [erase, List.filter_filter, Bool.and_comm]

theorem erase_cons (key : String) (head : String × α) (rest : Fields α) :
    erase key (head :: rest) = if head.1 = key then erase key rest else head :: erase key rest := by
  by_cases hhead : head.1 = key <;> simp [erase, hhead]

/-- A key that was put in before another one can be taken out without it. -/
theorem erase_insert_insert (hne : key ≠ other) (habsent : get? other fields = none)
    (value added : α) :
    erase other (insert key value (insert other added fields)) = insert key value fields := by
  induction fields with
  | nil => by_cases hlt : key < other <;> simp [insert, erase, hlt, hne, hne.symm]
  | cons head rest ih =>
      have hkept : erase other (insert key value (head :: rest)) =
          insert key value (head :: rest) :=
        erase_of_absent ((get?_insert_ne hne.symm value _).trans habsent)
      rw [get?_eq_none_iff] at habsent
      have hhead : head.1 ≠ other := habsent head (by simp)
      have hrest : get? other rest = none :=
        get?_eq_none_iff.mpr fun field hfield => habsent field (by simp [hfield])
      by_cases hbefore : other < head.1
      · have hadded : insert other added (head :: rest) = (other, added) :: head :: rest := by
          simp [insert, hbefore]
        by_cases hlt : key < other
        · have hfirst : key < head.1 := String.lt_trans hlt hbefore
          rw [hadded]
          simp [insert, hlt, hfirst, erase_cons, hne, hhead, erase_of_absent hrest]
        · have hpast : insert key value ((other, added) :: head :: rest) =
              (other, added) :: insert key value (head :: rest) := by
            simp [insert, hlt, hne.symm]
          rw [hadded, hpast, erase_cons, if_pos rfl, hkept]
      · have hadded : insert other added (head :: rest) = head :: insert other added rest := by
          simp [insert, hbefore, hhead]
        rw [hadded]
        simp only [insert]
        split
        · simp [erase_cons, hne, hhead, erase_of_absent hrest]
        · split
          · simp [erase_cons, hne, erase_of_absent hrest]
          · rw [erase_cons, if_neg hhead, ih hrest]

theorem erase_insert?_insert? (hne : key ≠ other) (habsent : get? other fields = none)
    (value added : Option α) :
    erase other (insert? key value (insert? other added fields)) = insert? key value fields := by
  cases added with
  | none =>
      apply erase_of_absent
      rw [get?_insert?_ne hne.symm]
      exact habsent
  | some added =>
      cases value with
      | none => exact (erase_insert_self other added fields).trans (erase_of_absent habsent)
      | some value => exact erase_insert_insert hne habsent value added

/-! Mapping the values of a map, before an operation or after it. -/

theorem insert_mapValues (f : α → β) (key : String) (value : α) (fields : Fields α) :
    insert key (f value) (mapValues f fields) = mapValues f (insert key value fields) := by
  induction fields with
  | nil => rfl
  | cons head rest ih =>
      simp only [mapValues, List.map_cons, insert] at ih ⊢
      split
      · rfl
      · split
        · rfl
        · rw [List.map_cons, ih]

theorem insert?_mapValues (f : α → β) (key : String) (value : Option α) (fields : Fields α) :
    insert? key (value.map f) (mapValues f fields) = mapValues f (insert? key value fields) := by
  cases value with
  | none => rfl
  | some value => exact insert_mapValues f key value fields

theorem filter_mapValues (f : α → β) (p : String → Bool) (fields : Fields α) :
    (mapValues f fields).filter (fun field => p field.1) =
      mapValues f (fields.filter fun field => p field.1) := by
  rw [mapValues, mapValues, List.filter_map]
  rfl

theorem erase_mapValues (f : α → β) (key : String) (fields : Fields α) :
    erase key (mapValues f fields) = mapValues f (erase key fields) :=
  filter_mapValues f (· != key) fields

theorem overlay_mapValues (f : α → β) (base added : Fields α) :
    overlay (mapValues f base) (mapValues f added) = mapValues f (overlay base added) := by
  induction added generalizing base with
  | nil => rfl
  | cons head rest ih =>
      have hrest := ih (insert head.1 head.2 base)
      rwa [← insert_mapValues] at hrest

theorem ofList_mapValues (f : α → β) (entries : List (String × α)) :
    ofList (mapValues f entries) = mapValues f (ofList entries) :=
  overlay_mapValues f [] entries

/-! Maps are in ascending order of their keys. -/

theorem sorted_iff_keys : Sorted fields ↔ (fields.map Prod.fst).Pairwise (· < ·) :=
  List.pairwise_map.symm

theorem sorted_mapValues {f : α → β} : Sorted (mapValues f fields) ↔ Sorted fields := by
  rw [sorted_iff_keys, sorted_iff_keys, mapValues, List.map_map]
  rfl

theorem mem_insert {field : String × α} (hmem : field ∈ insert key value fields) :
    field = (key, value) ∨ field ∈ fields := by
  induction fields with
  | nil => exact .inl (List.mem_singleton.mp hmem)
  | cons head rest ih =>
      simp only [insert] at hmem
      split at hmem
      · exact List.mem_cons.mp hmem
      · split at hmem
        · rcases List.mem_cons.mp hmem with hfirst | hrest
          · exact .inl hfirst
          · exact .inr (List.mem_cons_of_mem _ hrest)
        · rcases List.mem_cons.mp hmem with hfirst | hrest
          · exact .inr (hfirst ▸ List.mem_cons_self)
          · exact (ih hrest).imp_right (List.mem_cons_of_mem _)

theorem mem_overlay {base added : Fields α} {field : String × α}
    (hmem : field ∈ overlay base added) : field ∈ base ∨ field ∈ added := by
  induction added generalizing base with
  | nil => exact .inl hmem
  | cons head rest ih =>
      rcases ih hmem with hbase | hrest
      · rcases mem_insert hbase with rfl | hbefore
        · exact .inr List.mem_cons_self
        · exact .inl hbefore
      · exact .inr (List.mem_cons_of_mem _ hrest)

theorem sorted_insert (key : String) (value : α) (hfields : Sorted fields) :
    Sorted (insert key value fields) := by
  induction fields with
  | nil => exact List.pairwise_singleton _ _
  | cons head rest ih =>
      obtain ⟨hhead, hrest⟩ := List.pairwise_cons.mp hfields
      simp only [insert]
      split
      case isTrue hbefore =>
        refine List.pairwise_cons.mpr ⟨fun field hfield => ?_, hfields⟩
        rcases List.mem_cons.mp hfield with rfl | hmem
        · exact hbefore
        · exact String.lt_trans hbefore (hhead field hmem)
      case isFalse hnotBefore =>
        split
        case isTrue hsame =>
          have hkey : head.1 = key := by simpa using hsame
          exact List.pairwise_cons.mpr ⟨fun field hfield => hkey ▸ hhead field hfield, hrest⟩
        case isFalse hother =>
          refine List.pairwise_cons.mpr ⟨fun field hfield => ?_, ih hrest⟩
          rcases mem_insert hfield with rfl | hmem
          · have hne : head.1 ≠ key := by simpa using hother
            exact Std.lt_of_le_of_ne (String.not_lt.mp hnotBefore) hne
          · exact hhead field hmem

theorem sorted_overlay {base : Fields α} (hbase : Sorted base) (added : Fields α) :
    Sorted (overlay base added) := by
  induction added generalizing base with
  | nil => exact hbase
  | cons head rest ih => exact ih (sorted_insert head.1 head.2 hbase)

theorem sorted_ofList (entries : List (String × α)) : Sorted (ofList entries) :=
  sorted_overlay List.Pairwise.nil entries

theorem insert_last {key : String} (hlast : ∀ field ∈ fields, field.1 < key) (value : α) :
    insert key value fields = fields ++ [(key, value)] := by
  induction fields with
  | nil => rfl
  | cons head rest ih =>
      have hhead := hlast head List.mem_cons_self
      have hne : head.1 ≠ key := String.ne_of_lt hhead
      have hrest := ih fun field hfield => hlast field (List.mem_cons_of_mem _ hfield)
      simp only [insert, if_neg (String.lt_asymm hhead), beq_iff_eq, if_neg hne, hrest]
      rfl

theorem overlay_of_sorted {base added : Fields α} (hsorted : Sorted (base ++ added)) :
    overlay base added = base ++ added := by
  induction added generalizing base with
  | nil => simp [overlay]
  | cons head rest ih =>
      obtain ⟨-, -, hbefore⟩ := List.pairwise_append.mp hsorted
      have hinsert : insert head.1 head.2 base = base ++ [head] :=
        insert_last (fun field hfield => hbefore field hfield head List.mem_cons_self) head.2
      have hassoc : (base ++ [head]) ++ rest = base ++ head :: rest := by simp
      have hrest : overlay (base ++ [head]) rest = (base ++ [head]) ++ rest :=
        ih (hassoc ▸ hsorted)
      rw [← hassoc, ← hrest, ← hinsert]
      rfl

/-- Nothing is to be done for a list that is in order. -/
theorem ofList_of_sorted (hsorted : Sorted fields) : ofList fields = fields :=
  overlay_of_sorted hsorted

/-! Putting in entry after entry. -/

theorem insert_first {key : String} (hfirst : ∀ field ∈ fields, key < field.1) (value : α) :
    insert key value fields = (key, value) :: fields := by
  cases fields with
  | nil => rfl
  | cons head rest => rw [insert, if_pos (hfirst head List.mem_cons_self)]

theorem insert_insert_self (key : String) (value earlier : α) (fields : Fields α) :
    insert key value (insert key earlier fields) = insert key value fields := by
  induction fields with
  | nil => simp [insert]
  | cons head rest ih =>
      by_cases hbefore : key < head.1
      · simp [insert, hbefore]
      · by_cases hsame : head.1 = key
        · simp [insert, hsame]
        · simp only [insert, beq_iff_eq, if_neg hbefore, if_neg hsame, ih]

theorem insert_comm_of_lt (hlt : key < other) (value added : α) (fields : Fields α) :
    insert other added (insert key value fields) =
      insert key value (insert other added fields) := by
  have hnot : ¬ other < key := String.lt_asymm hlt
  have hne : key ≠ other := String.ne_of_lt hlt
  induction fields with
  | nil => simp [insert, hlt, hnot, hne]
  | cons head rest ih =>
      by_cases hbefore : other < head.1
      · have hfirst : key < head.1 := String.lt_trans hlt hbefore
        simp [insert, hbefore, hfirst, hlt, hnot, hne]
      · by_cases hsame : head.1 = other
        · subst hsame
          simp [insert, hlt, hnot, hne]
        · by_cases hkey : key < head.1
          · simp [insert, hbefore, hsame, hkey, hnot, hne]
          · by_cases hhead : head.1 = key
            · simp [insert, hhead, hnot, hne]
            · simp [insert, hbefore, hsame, hkey, hhead, ih]

theorem insert_comm (hne : key ≠ other) (value added : α) (fields : Fields α) :
    insert other added (insert key value fields) =
      insert key value (insert other added fields) := by
  rcases Std.lt_trichotomy key other with hlt | heq | hlt
  · exact insert_comm_of_lt hlt value added fields
  · exact absurd heq hne
  · exact (insert_comm_of_lt hlt added value fields).symm

/-- An entry with another key may be put in before or after. -/
theorem overlay_insert_base (value : α) (base : Fields α) {added : Fields α}
    (habsent : ∀ field ∈ added, field.1 ≠ key) :
    overlay (insert key value base) added = insert key value (overlay base added) := by
  induction added generalizing base with
  | nil => rfl
  | cons head rest ih =>
      have hhead : head.1 ≠ key := habsent head List.mem_cons_self
      have hrest := ih (insert head.1 head.2 base)
        fun field hfield => habsent field (List.mem_cons_of_mem _ hfield)
      rw [← insert_comm hhead.symm] at hrest
      exact hrest

theorem overlay_insert_added (key : String) (value : α) (base : Fields α) {added : Fields α}
    (hadded : Sorted added) :
    overlay base (insert key value added) = insert key value (overlay base added) := by
  induction added generalizing base with
  | nil => rfl
  | cons head rest ih =>
      obtain ⟨hlater, hrest⟩ := List.pairwise_cons.mp hadded
      simp only [insert]
      split
      case isTrue hbefore =>
        apply overlay_insert_base value base
        intro field hfield
        rcases List.mem_cons.mp hfield with rfl | hmem
        · exact (String.ne_of_lt hbefore).symm
        · exact (String.ne_of_lt (String.lt_trans hbefore (hlater field hmem))).symm
      case isFalse hnotBefore =>
        split
        case isTrue hsame =>
          obtain rfl : head.1 = key := by simpa using hsame
          have habsent : ∀ field ∈ rest, field.1 ≠ head.1 :=
            fun field hfield => (String.ne_of_lt (hlater field hfield)).symm
          have hnew := overlay_insert_base value base habsent
          have hold := overlay_insert_base head.2 base habsent
          change overlay (insert head.1 value base) rest =
            insert head.1 value (overlay (insert head.1 head.2 base) rest)
          rw [hnew, hold, insert_insert_self]
        case isFalse hother => exact ih (insert head.1 head.2 base) hrest

/-- Maps may be laid one over the other in any grouping. -/
theorem overlay_assoc (first second third : Fields α) (hsecond : Sorted second) :
    overlay (overlay first second) third = overlay first (overlay second third) := by
  induction third generalizing second with
  | nil => rfl
  | cons head rest ih =>
      have hlaid := ih (insert head.1 head.2 second) (sorted_insert head.1 head.2 hsecond)
      rw [overlay_insert_added head.1 head.2 first hsecond] at hlaid
      exact hlaid

/-! The entries with some of the keys. -/

theorem filter_insert (p : String → Bool) (key : String) (value : α) (hfields : Sorted fields) :
    (insert key value fields).filter (fun field => p field.1) =
      if p key then insert key value (fields.filter fun field => p field.1)
      else fields.filter fun field => p field.1 := by
  induction fields with
  | nil => by_cases hkey : p key <;> simp [insert, hkey]
  | cons head rest ih =>
      obtain ⟨hlater, hrest⟩ := List.pairwise_cons.mp hfields
      simp only [insert]
      split
      case isTrue hbefore =>
        have hfirst : ∀ field ∈ (head :: rest).filter (fun field => p field.1),
            key < field.1 := by
          intro field hfield
          rcases List.mem_cons.mp (List.mem_filter.mp hfield).1 with rfl | hmem
          · exact hbefore
          · exact String.lt_trans hbefore (hlater field hmem)
        rw [insert_first hfirst, List.filter_cons]
      case isFalse hnotBefore =>
        split
        case isTrue hsame =>
          obtain rfl : head.1 = key := by simpa using hsame
          by_cases hkey : p head.1
          · simp [hkey, insert]
          · simp [hkey]
        case isFalse hother =>
          rw [List.filter_cons, ih hrest, List.filter_cons]
          by_cases hkey : p key <;> by_cases hhead : p head.1 <;>
            simp_all [insert]

theorem filter_overlay (p : String → Bool) {base : Fields α} (hbase : Sorted base)
    (added : Fields α) :
    (overlay base added).filter (fun field => p field.1) =
      overlay (base.filter fun field => p field.1) (added.filter fun field => p field.1) := by
  induction added generalizing base with
  | nil => rfl
  | cons head rest ih =>
      have hrest := ih (sorted_insert head.1 head.2 hbase)
      rw [filter_insert p head.1 head.2 hbase] at hrest
      rw [List.filter_cons]
      split
      case isTrue hkey =>
        rw [if_pos hkey] at hrest
        exact hrest
      case isFalse hkey =>
        rw [if_neg hkey] at hrest
        exact hrest

theorem filter_ofList (p : String → Bool) (entries : List (String × α)) :
    (ofList entries).filter (fun field => p field.1) =
      ofList (entries.filter fun field => p field.1) :=
  filter_overlay p List.Pairwise.nil entries

theorem get?_eq_none_of_countP (hnone : fields.countP (·.1 == key) = 0) :
    get? key fields = none := by
  rw [get?_eq_none_iff]
  intro field hfield
  simpa using List.countP_eq_zero.mp hnone field hfield

/-- A key that comes once among the entries laid over a map has its value there. -/
theorem get?_overlay {base added : Fields α} (honce : added.countP (·.1 == key) ≤ 1) :
    get? key (overlay base added) = (get? key added).or (get? key base) := by
  induction added generalizing base with
  | nil => rfl
  | cons head rest ih =>
      have hstep : overlay base (head :: rest) = overlay (insert head.1 head.2 base) rest := rfl
      rw [List.countP_cons] at honce
      rw [hstep, ih (by omega), get?]
      by_cases hkey : head.1 = key
      · have hnone : get? key rest = none := by
          apply get?_eq_none_of_countP
          simpa [hkey] using honce
        rw [hnone, hkey, get?_insert_self]
        simp
      · rw [get?_insert_ne (fun h => hkey h.symm), if_neg (by simpa using hkey)]

theorem get?_ofList {entries : List (String × α)} (honce : entries.countP (·.1 == key) ≤ 1) :
    get? key (ofList entries) = get? key entries := by
  rw [ofList, get?_overlay honce]
  exact Option.or_none

theorem countP_mapValues (f : α → β) (key : String) (fields : Fields α) :
    (mapValues f fields).countP (·.1 == key) = fields.countP (·.1 == key) := by
  rw [mapValues, List.countP_map]
  rfl

/-- Each entry of a map is found under its key. -/
theorem get?_of_mem (hfields : Sorted fields) {field : String × α} (hfield : field ∈ fields) :
    get? field.1 fields = some field.2 := by
  induction fields with
  | nil => cases hfield
  | cons head rest ih =>
      obtain ⟨hhead, hrest⟩ := List.pairwise_cons.mp hfields
      rcases List.mem_cons.mp hfield with rfl | hmem
      · simp [get?]
      · have hne : head.1 ≠ field.1 := String.ne_of_lt (hhead field hmem)
        simpa [get?, hne] using ih hrest hmem

/-- Maps are the same if look-up finds the same in them. -/
theorem ext_get? {first second : Fields α} (hfirst : Sorted first) (hsecond : Sorted second)
    (hsame : ∀ key, get? key first = get? key second) : first = second := by
  have hasymm : Std.Asymm fun a b : String × α => a.1 < b.1 := ⟨fun _ _ => String.lt_asymm⟩
  have hantisymm : Std.Antisymm fun a b : String × α => a.1 < b.1 := inferInstance
  have hirrefl : Std.Irrefl fun a b : String × α => a.1 < b.1 := inferInstance
  refine List.Pairwise.eq_of_mem_iff hfirst hsecond fun field => ?_
  constructor
  · intro hfield
    apply mem_of_get?
    rw [← hsame, get?_of_mem hfirst hfield]
  · intro hfield
    apply mem_of_get?
    rw [hsame, get?_of_mem hsecond hfield]

/-- A map has at most one entry for a key. -/
theorem countP_le_one (hfields : Sorted fields) (key : String) :
    fields.countP (·.1 == key) ≤ 1 := by
  induction fields with
  | nil => exact Nat.zero_le 1
  | cons head rest ih =>
      obtain ⟨hlater, hrest⟩ := List.pairwise_cons.mp hfields
      rw [List.countP_cons]
      split
      case isTrue hkey =>
        obtain rfl : head.1 = key := by simpa using hkey
        have hnone : rest.countP (·.1 == head.1) = 0 := by
          apply List.countP_eq_zero.mpr
          intro field hfield
          simpa using (String.ne_of_lt (hlater field hfield)).symm
        omega
      case isFalse hkey => exact ih hrest

/-! Laying entries over a map that has them. -/

/-- Nothing changes when an entry is put in that is there. -/
theorem insert_of_get? (hfields : Sorted fields) (hget : get? key fields = some value) :
    insert key value fields = fields := by
  induction fields with
  | nil => cases hget
  | cons head rest ih =>
      obtain ⟨hlater, hrest⟩ := List.pairwise_cons.mp hfields
      by_cases hkey : head.1 = key
      · obtain rfl : head.2 = value := by simpa [get?, hkey] using hget
        subst hkey
        simp [insert]
      · have hfound : get? key rest = some value := by simpa [get?, hkey] using hget
        have hbefore : head.1 < key := hlater _ (mem_of_get? hfound)
        simp [insert, String.lt_asymm hbefore, hkey, ih hrest hfound]

theorem overlay_of_forall_get? {base added : Fields α} (hbase : Sorted base)
    (hadded : ∀ field ∈ added, get? field.1 base = some field.2) : overlay base added = base := by
  induction added with
  | nil => rfl
  | cons head rest ih =>
      have hstep : overlay base (head :: rest) = overlay (insert head.1 head.2 base) rest := rfl
      rw [hstep, insert_of_get? hbase (hadded head List.mem_cons_self)]
      exact ih fun field hfield => hadded field (List.mem_cons_of_mem _ hfield)

theorem overlay_self (hfields : Sorted fields) : overlay fields fields = fields :=
  overlay_of_forall_get? hfields fun _ => get?_of_mem hfields

theorem overlay_ofList (base added : Fields α) : overlay base (ofList added) = overlay base added :=
  (overlay_assoc base [] added List.Pairwise.nil).symm

/-- Entries that have been laid over a map change nothing when they are laid over it again. -/
theorem overlay_overlay (base added : Fields α) :
    overlay (overlay base added) added = overlay base added :=
  calc
    overlay (overlay base added) added =
        overlay (overlay base (ofList added)) (ofList added) := by
      rw [overlay_ofList, overlay_ofList]
    _ = overlay base (overlay (ofList added) (ofList added)) :=
      overlay_assoc _ _ _ (sorted_ofList added)
    _ = overlay base added := by rw [overlay_self (sorted_ofList added), overlay_ofList]

/-- Members that go together under their keys have the same keys. -/
theorem keys_eq_of_forall₂ {first : List (String × α)} {second : List (String × β)}
    (hall : List.Forall₂ (fun a b => a.1 = b.1) first second) :
    second.map Prod.fst = first.map Prod.fst :=
  Outcome.map_eq_map_of_forall₂ hall fun _ _ _ hkey => hkey.symm

/-! Members whose values may be refused. -/

section Refused

variable {f : α → Option β} {members : List (String × α)} {read : List (String × β)}

theorem keys_mapM
    (hread : (members.mapM fun (m : String × α) => (f m.2).map (m.1, ·)) = some read) :
    read.map Prod.fst = members.map Prod.fst := by
  apply keys_eq_of_forall₂
  apply (Outcome.mapM_eq_some_iff.mp hread).imp
  intro member field hmember
  obtain ⟨_, -, rfl⟩ := Option.map_eq_some_iff.mp hmember
  rfl

theorem get?_mapM
    (hread : (members.mapM fun (m : String × α) => (f m.2).map (m.1, ·)) = some read)
    (key : String) : get? key read = (get? key members).bind f := by
  have hall := Outcome.mapM_eq_some_iff.mp hread
  clear hread
  induction hall with
  | nil => rfl
  | @cons head _ _ _ hhead hrest ih =>
      obtain ⟨value, hvalue, rfl⟩ := Option.map_eq_some_iff.mp hhead
      by_cases hkey : head.1 = key <;> simp [get?, hkey, ih, hvalue]

end Refused

end MessageContract.Fields
