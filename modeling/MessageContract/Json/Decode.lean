import MessageContract.Json.Basic

/-!
Reading typed data from values, and from trees as they were written. Nothing is
said about what is wrong; the reader of texts does that. A record is an object,
or an array of its fields in their order, and a field may come only once.
-/

namespace MessageContract.Json

/-- The fields of a record by name. -/
def fieldsOf? (names : List String) : Json → Option (List (Option Json))
  | .array items =>
      if items.length ≤ names.length then
        some (items.map some ++ List.replicate (names.length - items.length) none)
      else none
  | .object members =>
      if names.all fun name => members.countP (·.1 == name) ≤ 1 then
        some (names.map fun name => Fields.get? name members)
      else none
  | _ => none

/-- The fields of a record that is an object, and its other members. -/
def openFieldsOf? (names : List String) : Json → Option (List (Option Json) × Fields Json)
  | .object members => do
      let known ← fieldsOf? names (.object members)
      let others := members.filter fun member => !names.contains member.1
      return (known, Fields.ofList (normalizeMembers others))
  | _ => none

/-- An object as a map of values. -/
def fields? : Json → Option (Fields Json)
  | .object members => some (Fields.ofList (normalizeMembers members))
  | _ => none

/-- An object as a map of strings. -/
def stringFields? : Json → Option (Fields String)
  | .object members =>
      (members.mapM fun member => (string? member.2).map (member.1, ·)).map Fields.ofList
  | _ => none

def items? : Json → Option (List Json)
  | .array items => some items
  | _ => none

/-- A field that may be absent, and then has a default. -/
def orDefault {α : Type} (default : α) (decode : Json → Option α) : Option Json → Option α
  | none => some default
  | some value => decode value

/-- A field that may be null. -/
def orNull {α : Type} (decode : Json → Option α) : Json → Option (Option α)
  | .null => some none
  | value => (decode value).map some

end MessageContract.Json
