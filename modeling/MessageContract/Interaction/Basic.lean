import MessageContract.Contents.Basic

/-!
One expected message: what has to hold before it is produced, its payload with
matching rules, and its metadata. Members that other tools wrote into it are
kept. Two interactions are `alike` if they differ at most in those members;
a contract holds one of several alike interactions.
-/

namespace MessageContract

/-- A precondition of the message at the provider. -/
structure ProviderState where
  name : String
  params : Fields Json := []

structure Interaction where
  description : String := ""
  states : List ProviderState := []
  contents : Contents := .empty
  metadata : Fields String := []
  extra : Fields Json := []

/-- A message as a consumer is handed it, its contents in the shape `α`. -/
structure ConcreteMessage (α : Type) where
  description : String
  contents : α
  contentType : Option String
  metadata : Fields String

namespace ProviderState

def same (a b : ProviderState) : Bool :=
  a.name == b.name && Fields.sameWith Json.same a.params b.params

def sameAll : List ProviderState → List ProviderState → Bool
  | [], [] => true
  | a :: as, b :: bs => a.same b && sameAll as bs
  | _, _ => false

/-- Empty parameters are left out. -/
def toJson (state : ProviderState) : Json :=
  .object (("name", .string state.name) ::
    if state.params.isEmpty then [] else [("params", .object state.params)])

end ProviderState

namespace Interaction

/-- The kind of interaction that is a message. -/
def tag : String := "Asynchronous/Messages"

/-- The members that an interaction itself has. -/
def fieldNames : List String :=
  ["type", "description", "providerStates", "contents", "metadata"]

/-- Equality but for the members of other tools. -/
def alike (a b : Interaction) : Bool :=
  a.description == b.description && ProviderState.sameAll a.states b.states &&
    a.contents.same b.contents && a.metadata == b.metadata

def same (a b : Interaction) : Bool :=
  a.alike b && Fields.sameWith Json.same a.extra b.extra

/-- Empty parts are left out. The members of other tools come last. -/
def toJson (i : Interaction) : Json :=
  let states := if i.states.isEmpty then []
    else [("providerStates", Json.array (i.states.map ProviderState.toJson))]
  let contents := if i.contents.isEmpty then [] else [("contents", i.contents.toJson)]
  let metadata := if i.metadata.isEmpty then []
    else [("metadata", Json.object (i.metadata.mapValues .string))]
  .object ([("type", .string tag), ("description", .string i.description)] ++ states ++
    contents ++ metadata ++ i.extra)

/-- The concrete message of an interaction. -/
def concrete (engine : PatternEngine) (i : Interaction) : Traced (ConcreteMessage Json) := do
  let contents ← i.contents.concrete engine
  return { description := i.description, contents, contentType := i.contents.contentType?,
           metadata := i.metadata }

end Interaction

namespace ConcreteMessage

/-- The message as JSON, given its contents as such. -/
def toJson (m : ConcreteMessage Json) : Json :=
  .object [("description", .string m.description), ("contents", m.contents),
    ("content_type", (m.contentType.map Json.string).getD .null),
    ("metadata", .object (m.metadata.mapValues .string))]

def map {α β : Type} (f : α → β) (m : ConcreteMessage α) : ConcreteMessage β :=
  { description := m.description, contents := f m.contents, contentType := m.contentType,
    metadata := m.metadata }

end ConcreteMessage

end MessageContract
