import MessageContract.Json.Decode
import MessageContract.Proofs.Fields
import MessageContract.Proofs.Outcome

/-!
Values among the trees: those whose objects are maps. Every tree stands for one
value, and a value for itself. Records are looked up in a tree and in the value
that it stands for alike, if no field of theirs is written twice.
-/

namespace MessageContract.Json

/-- Trees by induction, with all items and members at hand. -/
@[elab_as_elim]
theorem induction {motive : Json → Prop} (null : motive .null)
    (bool : ∀ b, motive (.bool b)) (number : ∀ n, motive (.number n))
    (string : ∀ text, motive (.string text))
    (array : ∀ items, (∀ item ∈ items, motive item) → motive (.array items))
    (object : ∀ members : Fields Json, (∀ member ∈ members, motive member.2) →
      motive (.object members))
    (value : Json) : motive value :=
  @Json.rec motive (fun items => ∀ item ∈ items, motive item)
    (fun members => ∀ member ∈ members, motive member.2) (fun member => motive member.2)
    null bool number string array object
    (fun _ hitem => absurd hitem List.not_mem_nil)
    (fun _ _ hfirst hrest => List.forall_mem_cons.mpr ⟨hfirst, hrest⟩)
    (fun _ hmember => absurd hmember List.not_mem_nil)
    (fun _ _ hfirst hrest => List.forall_mem_cons.mpr ⟨hfirst, hrest⟩)
    (fun _ _ hvalue => hvalue) value

/-- A value and not only a tree as it may be written: its objects are maps. -/
def IsValue (value : Json) : Prop :=
  value.normalize = value

theorem normalizeItems_eq (items : List Json) : normalizeItems items = items.map normalize := by
  induction items with
  | nil => rfl
  | cons item rest ih => rw [normalizeItems, ih, List.map_cons]

theorem normalizeMembers_eq (members : Fields Json) :
    normalizeMembers members = members.mapValues normalize := by
  induction members with
  | nil => rfl
  | cons member rest ih =>
      rw [normalizeMembers, ih]
      rfl

theorem normalize_array (items : List Json) :
    (Json.array items).normalize = .array (items.map normalize) := by
  rw [normalize, normalizeItems_eq]

theorem normalize_object (members : Fields Json) :
    (Json.object members).normalize = .object (Fields.ofList (members.mapValues normalize)) := by
  rw [normalize, normalizeMembers_eq]

theorem normalize_eq_null {value : Json} : value.normalize = .null ↔ value = .null := by
  cases value <;> simp [normalize]

theorem map_normalize_eq_self {items : List Json} :
    items.map normalize = items ↔ ∀ item ∈ items, item.IsValue := by
  have hself : items.map normalize = items.map id ↔ ∀ item ∈ items, item.IsValue :=
    List.map_inj_left
  rwa [List.map_id] at hself

theorem mapValues_normalize_eq_self {members : Fields Json} :
    members.mapValues normalize = members ↔ ∀ member ∈ members, member.2.IsValue := by
  have hself : members.mapValues normalize = members.map id ↔
      ∀ member ∈ members, member.2.IsValue := by
    rw [Fields.mapValues, List.map_inj_left]
    apply forall₂_congr
    intro member _
    simp [IsValue, Prod.ext_iff]
  rwa [List.map_id] at hself

theorem isValue_array {items : List Json} :
    (Json.array items).IsValue ↔ ∀ item ∈ items, item.IsValue := by
  rw [IsValue, normalize_array, array.injEq, map_normalize_eq_self]

theorem isValue_object {members : Fields Json} :
    (Json.object members).IsValue ↔
      Fields.Sorted members ∧ ∀ member ∈ members, member.2.IsValue := by
  rw [IsValue, normalize_object, object.injEq, ← mapValues_normalize_eq_self]
  constructor
  · intro hself
    have hsorted : Fields.Sorted members := hself ▸ Fields.sorted_ofList _
    rw [Fields.ofList_of_sorted (Fields.sorted_mapValues.mpr hsorted)] at hself
    exact ⟨hsorted, hself⟩
  · rintro ⟨hsorted, hself⟩
    rw [hself, Fields.ofList_of_sorted hsorted]

theorem isValue_object_sublist {kept members : Fields Json} (hkept : kept.Sublist members)
    (h : (Json.object members).IsValue) : (Json.object kept).IsValue := by
  rw [isValue_object] at h ⊢
  exact ⟨h.1.sublist hkept, fun member hmember => h.2 member (hkept.subset hmember)⟩

theorem isValue_object_insert {key : String} {value : Json} {members : Fields Json}
    (hvalue : value.IsValue) (h : (Json.object members).IsValue) :
    (Json.object (Fields.insert key value members)).IsValue := by
  rw [isValue_object] at h ⊢
  refine ⟨Fields.sorted_insert key value h.1, ?_⟩
  intro member hmember
  rcases Fields.mem_insert hmember with rfl | hmem
  · exact hvalue
  · exact h.2 member hmem

/-- The value of a tree is a value. -/
theorem isValue_normalize (value : Json) : value.normalize.IsValue := by
  induction value using Json.induction with
  | null | bool | number | string => simp only [IsValue, normalize]
  | array items ih =>
      rw [normalize_array, isValue_array, List.forall_mem_map]
      exact ih
  | object members ih =>
      rw [normalize_object, isValue_object]
      refine ⟨Fields.sorted_ofList _, ?_⟩
      intro member hmember
      have hmapped := (Fields.mem_overlay hmember).resolve_left List.not_mem_nil
      obtain ⟨source, hsource, rfl⟩ := List.mem_map.mp hmapped
      exact ih source hsource

theorem normalize_normalize (value : Json) : value.normalize.normalize = value.normalize :=
  isValue_normalize value

/-! Reading a value that a tree stands for. What is read of the tree is read of
its value; the tree may be refused for a field that is written twice. -/

theorem fieldsOf?_normalize {names : List String} {value : Json} {known : List (Option Json)}
    (hread : fieldsOf? names value = some known) :
    fieldsOf? names value.normalize = some (known.map (Option.map normalize)) := by
  cases value with
  | array items =>
      rw [fieldsOf?] at hread
      rw [normalize_array, fieldsOf?, List.length_map]
      split at hread
      case isTrue hlength =>
        obtain rfl := Option.some.inj hread
        rw [if_pos hlength]
        simp [Function.comp_def]
      case isFalse => cases hread
  | object members =>
      rw [fieldsOf?] at hread
      rw [normalize_object, fieldsOf?]
      split at hread
      case isTrue honce =>
        obtain rfl := Option.some.inj hread
        have hsingle : (names.all fun name =>
            (Fields.ofList (Fields.mapValues normalize members)).countP (·.1 == name) ≤ 1) =
              true := by
          apply List.all_eq_true.mpr
          intro name _
          exact decide_eq_true (Fields.countP_le_one (Fields.sorted_ofList _) name)
        rw [if_pos hsingle, List.map_map]
        congr 1
        apply List.map_congr_left
        intro name hname
        have hname : members.countP (·.1 == name) ≤ 1 :=
          of_decide_eq_true (List.all_eq_true.mp honce name hname)
        rw [← Fields.countP_mapValues normalize] at hname
        rw [Fields.get?_ofList hname, Fields.get?_mapValues]
        rfl
      case isFalse => cases hread
  | _ => cases hread

theorem fieldsOf?_of_sorted {members : Fields Json} (hsorted : Fields.Sorted members)
    (names : List String) :
    fieldsOf? names (.object members) = some (names.map (Fields.get? · members)) := by
  rw [fieldsOf?, if_pos]
  exact List.all_eq_true.mpr fun name _ => decide_eq_true (Fields.countP_le_one hsorted name)

/-- The fields of a record that is a value are values. -/
theorem isValue_of_fieldsOf? {names : List String} {value : Json} {known : List (Option Json)}
    (hvalue : value.IsValue) (hread : fieldsOf? names value = some known) :
    ∀ field, some field ∈ known → field.IsValue := by
  intro field hfield
  cases value with
  | array items =>
      rw [fieldsOf?] at hread
      split at hread
      case isTrue =>
        obtain rfl := Option.some.inj hread
        have hmem : field ∈ items := by simpa using hfield
        exact isValue_array.mp hvalue field hmem
      case isFalse => cases hread
  | object members =>
      rw [fieldsOf?] at hread
      split at hread
      case isTrue =>
        obtain rfl := Option.some.inj hread
        obtain ⟨name, -, hget⟩ := List.mem_map.mp hfield
        exact (isValue_object.mp hvalue).2 _ (Fields.mem_of_get? hget)
      case isFalse => cases hread
  | _ => cases hread

/-- What is left beside some keys is the value of what was left of the tree. -/
theorem others_normalize (keep : String → Bool) (members : Fields Json) :
    Fields.ofList (Fields.mapValues normalize
        ((Fields.ofList (Fields.mapValues normalize members)).filter fun m => keep m.1)) =
      Fields.ofList (Fields.mapValues normalize (members.filter fun m => keep m.1)) := by
  have hvalues : Fields.mapValues normalize
      (Fields.mapValues normalize (members.filter fun m => keep m.1)) =
        Fields.mapValues normalize (members.filter fun m => keep m.1) :=
    mapValues_normalize_eq_self.mpr
      (List.forall_mem_map.mpr fun (member : String × Json) _ => isValue_normalize member.2)
  rw [Fields.filter_ofList keep, Fields.filter_mapValues, ← Fields.ofList_mapValues, hvalues,
    Fields.ofList_of_sorted (Fields.sorted_ofList _)]

theorem openFieldsOf?_normalize {names : List String} {value : Json}
    {known : List (Option Json)} {others : Fields Json}
    (hread : openFieldsOf? names value = some (known, others)) :
    openFieldsOf? names value.normalize = some (known.map (Option.map normalize), others) := by
  cases value with
  | object members =>
      obtain ⟨found, hfound, hrest⟩ := Option.bind_eq_some_iff.mp hread
      obtain ⟨rfl, rfl⟩ := Prod.mk.inj (Option.some.inj hrest)
      have hknown := fieldsOf?_normalize hfound
      rw [normalize_object] at hknown ⊢
      simp only [openFieldsOf?, hknown, normalizeMembers_eq, Option.bind_eq_bind,
        Option.bind_some, others_normalize fun key => !names.contains key]
      rfl
  | _ => cases hread

/-- A decoder that reads of a value what it reads of a tree for it. -/
def ReadsValue {α : Type} (decode : Json → Option α) : Prop :=
  ∀ value a, decode value = some a → decode value.normalize = some a

section Decoders

variable {α : Type} {decode : Json → Option α}

theorem ReadsValue.orDefault (h : ReadsValue decode) {default a : α} {field : Option Json}
    (hread : orDefault default decode field = some a) :
    orDefault default decode (field.map normalize) = some a := by
  cases field with
  | none => exact hread
  | some value => exact h value a hread

theorem ReadsValue.orNull (h : ReadsValue decode) : ReadsValue (orNull decode) := by
  intro value a hread
  cases value with
  | null => exact hread
  | _ =>
      obtain ⟨b, hb, rfl⟩ := Option.map_eq_some_iff.mp hread
      have hvalue := h _ b hb
      simp only [normalize] at hvalue ⊢
      exact Option.map_eq_some_iff.mpr ⟨b, hvalue, rfl⟩

theorem readsValue_string? : ReadsValue string? := by
  intro value a hread
  cases value with
  | string => exact hread
  | _ => cases hread

theorem readsValue_normalize : ReadsValue fun value => some value.normalize := by
  intro value a hread
  dsimp only at hread ⊢
  rw [normalize_normalize, hread]

theorem items?_eq_some {value : Json} {items : List Json} :
    value.items? = some items ↔ value = .array items := by
  cases value <;> simp [items?]

theorem readsValue_items? {item : Json → Option α} (h : ReadsValue item) :
    ReadsValue (fun value => do (← value.items?).mapM item) := by
  intro value read hread
  cases value with
  | array items =>
      have hitems := Outcome.mapM_eq_some_iff.mp hread
      rw [normalize_array]
      apply Outcome.mapM_eq_some_iff.mpr
      rw [List.forall₂_map_left_iff]
      exact hitems.imp h
  | _ => cases hread

end Decoders

/-- The members of an object that is a value are read as they are. -/
theorem fields?_of_isValue {members : Fields Json} (h : (Json.object members).IsValue) :
    fields? (.object members) = some members :=
  congrArg some (object.inj h)

theorem isValue_of_fields? {value : Json} {fields : Fields Json}
    (hread : fields? value = some fields) : (Json.object fields).IsValue := by
  cases value with
  | object members =>
      obtain rfl := Option.some.inj hread
      exact isValue_normalize (.object members)
  | _ => cases hread

theorem readsValue_fields? : ReadsValue fields? := by
  intro value fields hread
  have hvalue := isValue_of_fields? hread
  cases value with
  | object members =>
      obtain rfl := Option.some.inj hread
      exact fields?_of_isValue hvalue
  | _ => cases hread

/-- Strings by key are read from an object of strings. -/
theorem stringFields?_eq_some {value : Json} {fields : Fields String} :
    stringFields? value = some fields ↔
      ∃ entries, value = .object (Fields.mapValues .string entries) ∧
        fields = Fields.ofList entries := by
  have hmember (member : String × Json) (entry : String × String) :
      (string? member.2).map (member.1, ·) = some entry ↔
        member = (entry.1, .string entry.2) := by
    obtain ⟨key, value⟩ := member
    obtain ⟨name, text⟩ := entry
    cases value <;> simp [string?]
  cases value with
  | object members =>
      rw [stringFields?, Option.map_eq_some_iff]
      simp only [Outcome.mapM_eq_some_iff, hmember, object.injEq]
      apply exists_congr
      intro entries
      have hmembers : List.Forall₂ (fun (member : String × Json) (entry : String × String) =>
          member = (entry.1, .string entry.2)) members entries ↔
            members = Fields.mapValues .string entries := by
        rw [Fields.mapValues, ← List.forall₂_eq_eq_eq, List.forall₂_map_right_iff]
      exact and_congr hmembers eq_comm
  | _ => simp [stringFields?]

theorem readsValue_stringFields? : ReadsValue stringFields? := by
  intro value fields hread
  obtain ⟨entries, rfl, rfl⟩ := stringFields?_eq_some.mp hread
  have hvalues : Fields.mapValues normalize (Fields.mapValues .string entries) =
      Fields.mapValues .string entries := by
    rw [Fields.mapValues, Fields.mapValues, List.map_map]
    rfl
  rw [normalize_object, hvalues, Fields.ofList_mapValues, stringFields?_eq_some]
  exact ⟨Fields.ofList entries, rfl, (Fields.ofList_of_sorted (Fields.sorted_ofList _)).symm⟩

/-! Whether something is read of a value. -/

/-- A field that may be absent is read if it can be when it is there. -/
theorem exists_orDefault {α : Type} {default : α} {decode : Json → Option α}
    {field : Option Json} :
    (∃ a, orDefault default decode field = some a) ↔
      ∀ value, field = some value → ∃ a, decode value = some a := by
  cases field <;> simp [orDefault]

theorem exists_string? {value : Json} :
    (∃ text, value.string? = some text) ↔ ∃ text, value = .string text := by
  cases value <;> simp [string?]

/-- An array is read if each of its items is. -/
theorem exists_items? {α : Type} {decode : Json → Option α} {value : Json} :
    (∃ read, (do (← value.items?).mapM decode) = some read) ↔
      ∃ items, value = .array items ∧ ∀ item ∈ items, ∃ a, decode item = some a := by
  simp only [Option.bind_eq_bind, Option.bind_eq_some_iff, items?_eq_some]
  have hmapM (items : List Json) : (∃ read, items.mapM decode = some read) ↔
      ∀ item ∈ items, ∃ a, decode item = some a := by
    simp only [← Option.isSome_iff_exists, Outcome.mapM_isSome]
  simp only [← hmapM]
  constructor
  · rintro ⟨read, items, hitems, hread⟩
    exact ⟨items, hitems, read, hread⟩
  · rintro ⟨items, hitems, read, hread⟩
    exact ⟨read, items, hitems, hread⟩

theorem exists_stringFields? {value : Json} :
    (∃ fields, value.stringFields? = some fields) ↔
      ∃ fields : Fields String, value = .object (fields.mapValues .string) := by
  simp only [stringFields?_eq_some]
  constructor
  · rintro ⟨_, entries, hvalue, -⟩
    exact ⟨entries, hvalue⟩
  · rintro ⟨entries, hvalue⟩
    exact ⟨_, entries, hvalue, rfl⟩

end MessageContract.Json
