import MessageContract.Proofs.Json.Plain
import MessageContract.Proofs.Json.Value

/-!
Values with other floats in place of their own. Everything but its floats stays where it
is in a value, so it is put into order and read alike before and after, by each of the
readers of its parts. The plain form is one such value, and what is read of a value's text
is another one.
-/

namespace MessageContract

/-- The number with another float in place of a float. -/
def Number.mapFloat (f : Binary64 → Binary64) : Number → Number
  | .integer n => .integer n
  | .float x => .float (f x)

theorem Number.unsigned?_mapFloat (f : Binary64 → Binary64) (n : Number) :
    (n.mapFloat f).unsigned? = n.unsigned? := by
  cases n <;> rfl

theorem Number.plain_eq_mapFloat (n : Number) : n.plain = n.mapFloat Binary64.plain := by
  cases n <;> rfl

namespace Json

variable {f : Binary64 → Binary64}

mutual

/-- The value with each float replaced. -/
def mapFloats (f : Binary64 → Binary64) : Json → Json
  | .number n => .number (n.mapFloat f)
  | .array items => .array (mapFloatsItems f items)
  | .object members => .object (mapFloatsMembers f members)
  | leaf => leaf

def mapFloatsItems (f : Binary64 → Binary64) : List Json → List Json
  | [] => []
  | item :: rest => mapFloats f item :: mapFloatsItems f rest

def mapFloatsMembers (f : Binary64 → Binary64) : List (String × Json) → List (String × Json)
  | [] => []
  | (key, value) :: rest => (key, mapFloats f value) :: mapFloatsMembers f rest

end

mutual

/-- The floats of a value, from left to right. -/
def floats : Json → List Binary64
  | .number (.float x) => [x]
  | .array items => floatsItems items
  | .object members => floatsMembers members
  | _ => []

def floatsItems : List Json → List Binary64
  | [] => []
  | item :: rest => floats item ++ floatsItems rest

def floatsMembers : List (String × Json) → List Binary64
  | [] => []
  | (_, value) :: rest => floats value ++ floatsMembers rest

end

theorem mapFloatsItems_eq (items : List Json) :
    mapFloatsItems f items = items.map (mapFloats f) := by
  induction items with
  | nil => rfl
  | cons item rest ih => rw [mapFloatsItems, List.map_cons, ih]

theorem mapFloatsMembers_eq (members : Fields Json) :
    mapFloatsMembers f members = members.mapValues (mapFloats f) := by
  induction members with
  | nil => rfl
  | cons member rest ih =>
      rw [mapFloatsMembers, ih]
      rfl

theorem mapFloats_array (items : List Json) :
    (Json.array items).mapFloats f = .array (items.map (mapFloats f)) := by
  rw [mapFloats, mapFloatsItems_eq]

theorem mapFloats_object (members : Fields Json) :
    (Json.object members).mapFloats f = .object (members.mapValues (mapFloats f)) := by
  rw [mapFloats, mapFloatsMembers_eq]

mutual

theorem normalize_mapFloats : ∀ value : Json,
    (value.mapFloats f).normalize = value.normalize.mapFloats f
  | .null => rfl
  | .bool _ => rfl
  | .string _ => rfl
  | .number _ => rfl
  | .array items => by
      rw [mapFloats, normalize, normalize, mapFloats, normalizeItems_mapFloats items]
  | .object members => by
      rw [mapFloats, normalize, normalize, mapFloats, normalizeMembers_mapFloats members,
        mapFloatsMembers_eq, mapFloatsMembers_eq, Fields.ofList_mapValues]

theorem normalizeItems_mapFloats : ∀ items : List Json,
    normalizeItems (mapFloatsItems f items) = mapFloatsItems f (normalizeItems items)
  | [] => rfl
  | item :: rest => by
      rw [mapFloatsItems, normalizeItems, normalizeItems, mapFloatsItems,
        normalize_mapFloats item, normalizeItems_mapFloats rest]

theorem normalizeMembers_mapFloats : ∀ members : List (String × Json),
    normalizeMembers (mapFloatsMembers f members) = mapFloatsMembers f (normalizeMembers members)
  | [] => rfl
  | (key, value) :: rest => by
      rw [mapFloatsMembers, normalizeMembers, normalizeMembers, mapFloatsMembers,
        normalize_mapFloats value, normalizeMembers_mapFloats rest]

end

theorem normalizeMembers_mapValues (members : Fields Json) :
    normalizeMembers (members.mapValues (mapFloats f)) =
      Fields.mapValues (mapFloats f) (normalizeMembers members) := by
  rw [← mapFloatsMembers_eq, ← mapFloatsMembers_eq, normalizeMembers_mapFloats]

theorem IsValue.mapFloats {value : Json} (h : value.IsValue) : (value.mapFloats f).IsValue := by
  rw [IsValue, normalize_mapFloats, h]

theorem isValue_mapValues {members : Fields Json} (h : (Json.object members).IsValue) :
    (Json.object (members.mapValues (mapFloats f))).IsValue := by
  rw [← mapFloats_object]
  exact h.mapFloats

mutual

/-- A value is left as it is if each of its floats is. -/
theorem mapFloats_eq_self_iff : ∀ value : Json,
    value.mapFloats f = value ↔ ∀ x ∈ value.floats, f x = x
  | .null => by simp [mapFloats, floats]
  | .bool _ => by simp [mapFloats, floats]
  | .string _ => by simp [mapFloats, floats]
  | .number (.integer _) => by simp [mapFloats, floats, Number.mapFloat]
  | .number (.float _) => by simp [mapFloats, floats, Number.mapFloat]
  | .array items => by
      rw [mapFloats, array.injEq, mapFloatsItems_eq_self_iff items, floats]
  | .object members => by
      rw [mapFloats, object.injEq, mapFloatsMembers_eq_self_iff members, floats]

theorem mapFloatsItems_eq_self_iff : ∀ items : List Json,
    mapFloatsItems f items = items ↔ ∀ x ∈ floatsItems items, f x = x
  | [] => by simp [mapFloatsItems, floatsItems]
  | item :: rest => by
      rw [mapFloatsItems, List.cons.injEq, mapFloats_eq_self_iff item,
        mapFloatsItems_eq_self_iff rest, floatsItems, List.forall_mem_append]

theorem mapFloatsMembers_eq_self_iff : ∀ members : List (String × Json),
    mapFloatsMembers f members = members ↔ ∀ x ∈ floatsMembers members, f x = x
  | [] => by simp [mapFloatsMembers, floatsMembers]
  | (key, value) :: rest => by
      rw [mapFloatsMembers, List.cons.injEq, Prod.mk.injEq, mapFloats_eq_self_iff value,
        mapFloatsMembers_eq_self_iff rest, floatsMembers, List.forall_mem_append]
      simp

end

mutual

theorem plain_eq_mapFloats : ∀ value : Json, value.plain = value.mapFloats Binary64.plain
  | .null => rfl
  | .bool _ => rfl
  | .string _ => rfl
  | .number n => congrArg number n.plain_eq_mapFloat
  | .array items => by rw [plain, mapFloats, plainItems_eq_mapFloats items]
  | .object members => by rw [plain, mapFloats, plainMembers_eq_mapFloats members]

theorem plainItems_eq_mapFloats : ∀ items : List Json,
    plainItems items = mapFloatsItems Binary64.plain items
  | [] => rfl
  | item :: rest => by
      rw [plainItems, mapFloatsItems, plain_eq_mapFloats item, plainItems_eq_mapFloats rest]

theorem plainMembers_eq_mapFloats : ∀ members : List (String × Json),
    plainMembers members = mapFloatsMembers Binary64.plain members
  | [] => rfl
  | (key, value) :: rest => by
      rw [plainMembers, mapFloatsMembers, plain_eq_mapFloats value,
        plainMembers_eq_mapFloats rest]

end

/-! Typed data. -/

theorem string?_mapFloats (value : Json) : (value.mapFloats f).string? = value.string? := by
  cases value <;> rfl

theorem items?_mapFloats (value : Json) :
    (value.mapFloats f).items? = value.items?.map (·.map (mapFloats f)) := by
  cases value with
  | array items => exact congrArg some (mapFloatsItems_eq items)
  | _ => rfl

theorem fields?_mapFloats (value : Json) :
    (value.mapFloats f).fields? = value.fields?.map (Fields.mapValues (mapFloats f)) := by
  cases value with
  | object members =>
      rw [mapFloats_object, fields?, normalizeMembers_mapValues, Fields.ofList_mapValues]
      rfl
  | _ => rfl

theorem stringFields?_mapFloats (value : Json) :
    (value.mapFloats f).stringFields? = value.stringFields? := by
  cases value with
  | object members =>
      rw [mapFloats_object]
      simp only [stringFields?, Fields.mapValues, List.mapM_map, Function.comp_def,
        string?_mapFloats]
  | _ => rfl

theorem fieldsOf?_mapFloats (names : List String) (value : Json) :
    fieldsOf? names (value.mapFloats f) =
      (fieldsOf? names value).map (·.map (·.map (mapFloats f))) := by
  cases value with
  | array items =>
      simp only [mapFloats_array, fieldsOf?, List.length_map]
      split <;> simp [Function.comp_def]
  | object members =>
      rw [mapFloats_object]
      simp only [fieldsOf?, Fields.countP_mapValues, Fields.get?_mapValues]
      split
      · simp only [Option.map_some, List.map_map, Function.comp_def]
      · rfl
  | _ => rfl

theorem openFieldsOf?_mapFloats (names : List String) (value : Json) :
    openFieldsOf? names (value.mapFloats f) =
      (openFieldsOf? names value).map fun (known, others) =>
        (known.map (·.map (mapFloats f)), Fields.mapValues (mapFloats f) others) := by
  cases value with
  | object members =>
      have hknown := fieldsOf?_mapFloats (f := f) names (.object members)
      have hothers := Fields.filter_mapValues (mapFloats f) (fun key => !names.contains key) members
      rw [mapFloats_object] at hknown ⊢
      simp only [openFieldsOf?, hknown, hothers, normalizeMembers_mapValues,
        Fields.ofList_mapValues]
      cases fieldsOf? names (.object members) <;> rfl
  | _ => rfl

/-- A field that may be absent, with a default that has no float. -/
theorem orDefault_mapFloats {α : Type} (default : α) (decode : Json → Option α) {g : α → α}
    (hdefault : g default = default) (hdecode : ∀ v, decode (v.mapFloats f) = (decode v).map g)
    (value : Option Json) :
    orDefault default decode (value.map (mapFloats f)) =
      (orDefault default decode value).map g := by
  cases value with
  | none => exact congrArg some hdefault.symm
  | some value => exact hdecode value

/-- A field that may be absent, of a type that has no float. -/
theorem orDefault_floatless {α : Type} (default : α) (decode : Json → Option α)
    (hdecode : ∀ v, decode (v.mapFloats f) = decode v) (value : Option Json) :
    orDefault default decode (value.map (mapFloats f)) = orDefault default decode value := by
  cases value with
  | none => rfl
  | some value => exact hdecode value

theorem orNull_mapFloats {α : Type} (decode : Json → Option α) {g : α → α}
    (hdecode : ∀ v, decode (v.mapFloats f) = (decode v).map g) (value : Json) :
    orNull decode (value.mapFloats f) = (orNull decode value).map (·.map g) := by
  have hsome (v : Json) :
      (decode (v.mapFloats f)).map some = ((decode v).map some).map (·.map g) := by
    rw [hdecode, Option.map_map, Option.map_map]
    rfl
  cases value with
  | null => rfl
  | _ => exact hsome _

end Json

end MessageContract
