import MessageContract.Proofs.Json.Value

/-!
Records as they are written: an object of the fields that are there, each once, and
after them whatever other members the record has. Reading finds each field, or that
it is left out, and the other members.
-/

namespace MessageContract

namespace Fields

variable {α : Type} {parts : List (String × Option α)} {others : Fields α}

/-- The entries that have a value. -/
def present (parts : List (String × Option α)) : Fields α :=
  parts.filterMap fun part => part.2.map (part.1, ·)

/-- No two parts have the same key, and nothing else has the key of a part. -/
structure Apart (parts : List (String × Option α)) (others : Fields α) : Prop where
  keys : (parts.map Prod.fst).Nodup
  others : ∀ key ∈ parts.map Prod.fst, get? key others = none

theorem get?_append (key : String) (first second : Fields α) :
    get? key (first ++ second) = (get? key first).or (get? key second) := by
  induction first with
  | nil => rfl
  | cons head rest ih => by_cases hkey : head.1 = key <;> simp [get?, hkey, ih]

theorem countP_of_absent {key : String} (habsent : get? key others = none) :
    others.countP (·.1 == key) = 0 := by
  apply List.countP_eq_zero.mpr
  intro field hfield
  simpa using get?_eq_none_iff.mp habsent field hfield

theorem keys_present (parts : List (String × Option α)) :
    (present parts).map Prod.fst = (parts.filter (·.2.isSome)).map Prod.fst := by
  induction parts with
  | nil => rfl
  | cons part rest ih =>
      obtain ⟨key, value⟩ := part
      cases value <;> simpa [present] using ih

theorem keys_present_sublist (parts : List (String × Option α)) :
    ((present parts).map Prod.fst).Sublist (parts.map Prod.fst) := by
  rw [keys_present]
  exact List.filter_sublist.map Prod.fst

theorem get?_present (hkeys : (parts.map Prod.fst).Nodup) {part : String × Option α}
    (hpart : part ∈ parts) : get? part.1 (present parts) = part.2 := by
  induction parts with
  | nil => cases hpart
  | cons first rest ih =>
      obtain ⟨hfirst, hrest⟩ := List.nodup_cons.mp hkeys
      rcases List.mem_cons.mp hpart with rfl | hmem
      · have hlater : get? part.1 (present rest) = none := by
          apply get?_eq_none_iff.mpr
          rintro field hfield hsame
          apply hfirst
          rw [← hsame]
          exact (keys_present_sublist rest).subset (List.mem_map_of_mem hfield)
        obtain ⟨key, value⟩ := part
        cases value with
        | none => exact hlater
        | some value => simp [present, get?]
      · have hne : first.1 ≠ part.1 := fun h => hfirst (h ▸ List.mem_map_of_mem hmem)
        have hlater := ih hrest hmem
        obtain ⟨key, value⟩ := first
        cases value with
        | none => exact hlater
        | some value => simpa [present, get?, hne] using hlater

theorem Apart.get? (h : Apart parts others) {part : String × Option α} (hpart : part ∈ parts) :
    get? part.1 (present parts ++ others) = part.2 := by
  rw [get?_append, get?_present h.keys hpart, h.others _ (List.mem_map_of_mem hpart),
    Option.or_none]

theorem Apart.countP_le_one (h : Apart parts others) {key : String}
    (hkey : key ∈ parts.map Prod.fst) : (present parts ++ others).countP (·.1 == key) ≤ 1 := by
  have honce := List.nodup_iff_count_le_one.mp (h.keys.sublist (keys_present_sublist parts)) key
  rw [List.count, List.countP_map] at honce
  rw [List.countP_append, countP_of_absent (h.others key hkey), Nat.add_zero]
  exact honce

/-- Beside the parts there are the other entries. -/
theorem Apart.filter (h : Apart parts others) :
    (present parts ++ others).filter (fun field => !(parts.map Prod.fst).contains field.1) =
      others := by
  have hparts : (present parts).filter
      (fun field => !(parts.map Prod.fst).contains field.1) = [] := by
    apply List.filter_eq_nil_iff.mpr
    intro field hfield
    have hkey := (keys_present_sublist parts).subset (List.mem_map_of_mem hfield)
    simpa using hkey
  have hothers : others.filter (fun field => !(parts.map Prod.fst).contains field.1) =
      others := by
    apply List.filter_eq_self.mpr
    intro field hfield
    have hkey : field.1 ∉ parts.map Prod.fst :=
      fun hmem => get?_eq_none_iff.mp (h.others _ hmem) field hfield rfl
    simpa using hkey
  rw [List.filter_append, hparts, hothers, List.nil_append]

end Fields

namespace Json

open Fields (present Apart)

variable {parts : List (String × Option Json)} {others : Fields Json}

theorem fieldsOf?_present (h : Apart parts others) :
    fieldsOf? (parts.map Prod.fst) (.object (present parts ++ others)) =
      some (parts.map Prod.snd) := by
  have honce : ((parts.map Prod.fst).all fun name =>
      (present parts ++ others).countP (·.1 == name) ≤ 1) = true := by
    apply List.all_eq_true.mpr
    intro name hname
    exact decide_eq_true (h.countP_le_one hname)
  rw [fieldsOf?, if_pos honce, List.map_map]
  congr 1
  apply List.map_congr_left
  intro part hpart
  exact h.get? hpart

/-- What the value of a record has under the key of a part. -/
theorem member?_present (h : Apart parts others) {part : String × Option Json}
    (hpart : part ∈ parts) :
    (Json.object (present parts ++ others)).normalize.member? part.1 = part.2.map normalize := by
  have honce := h.countP_le_one (List.mem_map_of_mem hpart)
  rw [normalize_object, member?, Fields.ofList_mapValues, Fields.get?_mapValues,
    Fields.get?_ofList honce, h.get? hpart]

/-- The value is an object with no members but those of the names. -/
def HasOnly (names : List String) (value : Json) : Prop :=
  ∃ members, value = .object members ∧ ∀ member ∈ members, member.1 ∈ names

/-- The value of a record without other members. -/
theorem hasOnly_present (parts : List (String × Option Json)) :
    (Json.object (present parts ++ [])).normalize.HasOnly (parts.map Prod.fst) := by
  refine ⟨_, normalize_object _, ?_⟩
  intro member hmember
  have hmem := (Fields.mem_overlay hmember).resolve_left List.not_mem_nil
  obtain ⟨written, hwritten, rfl⟩ := List.mem_map.mp hmem
  rw [List.append_nil] at hwritten
  have hkey : written.1 ∈ (present parts).map Prod.fst := List.mem_map_of_mem hwritten
  exact (Fields.keys_present_sublist parts).subset hkey

/-- The fields of a record are found whatever stands beside them. -/
theorem fieldsOf?_append {names : List String} {members : Fields Json}
    (hothers : ∀ name ∈ names, Fields.get? name others = none) :
    fieldsOf? names (.object (members ++ others)) = fieldsOf? names (.object members) := by
  have hcount : ∀ name ∈ names,
      (members ++ others).countP (·.1 == name) = members.countP (·.1 == name) := by
    intro name hname
    rw [List.countP_append, Fields.countP_of_absent (hothers name hname), Nat.add_zero]
  have honce : (names.all fun name => (members ++ others).countP (·.1 == name) ≤ 1) =
      names.all fun name => members.countP (·.1 == name) ≤ 1 := by
    rw [Bool.eq_iff_iff, List.all_eq_true, List.all_eq_true]
    exact forall₂_congr fun name hname => by rw [hcount name hname]
  have hget : (names.map fun name => Fields.get? name (members ++ others)) =
      names.map fun name => Fields.get? name members := by
    apply List.map_congr_left
    intro name hname
    rw [Fields.get?_append, hothers name hname, Option.or_none]
  rw [fieldsOf?, fieldsOf?, honce, hget]

/-- Other members take no part in whether the fields of a record are found. -/
theorem openFieldsOf?_object {names : List String} {members : Fields Json} :
    openFieldsOf? names (.object members) =
      (fieldsOf? names (.object members)).map fun known =>
        (known, Fields.ofList (normalizeMembers
          (members.filter fun member => !names.contains member.1))) := by
  rw [openFieldsOf?]
  cases fieldsOf? names (.object members) <;> rfl

/-- The other members of a value are those that they are. -/
theorem openFieldsOf?_of_isValue {members : Fields Json} (hvalue : (Json.object members).IsValue)
    (names : List String) :
    openFieldsOf? names (.object members) =
      some (names.map (Fields.get? · members),
        members.filter fun member => !names.contains member.1) := by
  have hothers := isValue_object_sublist
    (List.filter_sublist (p := fun member : String × Json => !names.contains member.1)) hvalue
  rw [openFieldsOf?_object, fieldsOf?_of_sorted (isValue_object.mp hvalue).1, Option.map_some]
  exact congrArg (fun others => some (_, others)) (object.inj hothers)

theorem openFieldsOf?_present (h : Apart parts others) :
    openFieldsOf? (parts.map Prod.fst) (.object (present parts ++ others)) =
      some (parts.map Prod.snd, Fields.ofList (normalizeMembers others)) := by
  rw [openFieldsOf?_object, fieldsOf?_present h, h.filter]
  rfl

/-- The other members of a record are a map of values beside its fields. -/
theorem openFieldsOf?_others {names : List String} {value : Json} {known : List (Option Json)}
    (hread : openFieldsOf? names value = some (known, others)) :
    (Json.object others).IsValue ∧ ∀ name ∈ names, Fields.get? name others = none := by
  cases value with
  | object members =>
      obtain ⟨found, -, hrest⟩ := Option.bind_eq_some_iff.mp hread
      obtain ⟨-, rfl⟩ := Prod.mk.inj (Option.some.inj hrest)
      refine ⟨isValue_normalize (.object _), ?_⟩
      intro name hname
      apply Fields.get?_eq_none_iff.mpr
      intro field hfield hkey
      rw [normalizeMembers_eq] at hfield
      have hmem := (Fields.mem_overlay hfield).resolve_left List.not_mem_nil
      obtain ⟨member, hmember, rfl⟩ := List.mem_map.mp hmem
      have hother := (List.mem_filter.mp hmember).2
      simp only [Bool.not_eq_true', List.contains_eq_mem, decide_eq_false_iff_not] at hother
      exact hother (hkey ▸ hname)
  | _ => cases hread

/-- What is left out of a record when it is empty. -/
def unlessEmpty (empty : Bool) (value : Json) : Option Json :=
  if empty then none else some value

theorem unlessEmpty_eq_some {empty : Bool} {value written : Json} :
    unlessEmpty empty value = some written ↔ empty = false ∧ value = written := by
  cases empty <;> simp [unlessEmpty]

/-- What is left out is read if it is what stands in for it. -/
theorem orDefault_unlessEmpty {α : Type} {default a : α} {decode : Json → Option α} {empty : Bool}
    {value : Json} (hempty : empty = true → default = a) (hread : decode value = some a) :
    orDefault default decode (unlessEmpty empty value) = some a := by
  cases empty with
  | false => exact hread
  | true => exact congrArg some (hempty rfl)

end Json

end MessageContract
