import MessageContract.Contents.Reader
import MessageContract.Interaction.Basic

/-!
Reading interactions and concrete messages, from values and from text.
-/

namespace MessageContract

namespace ProviderState

def ofJson? (value : Json) : Option ProviderState := do
  match ← Json.fieldsOf? ["name", "params"] value with
  | [some name, params] =>
      return { name := ← name.string?, params := ← Json.orDefault [] Json.fields? params }
  | _ => none

structure Draft where
  name : Option String := none
  params : Option (Fields Json) := none

open Json.Scan in
def read (room : Nat) : Json.Scan ProviderState :=
  record "ProviderState" room
    (fun room => do
      let name ← item 0 "struct ProviderState with 2 elements" text
      let params ← item? false (fields room value)
      return { name, params := params.getD [] })
    (fun room => do
      let draft ← members ({} : Draft) fun key draft =>
        match key with
        | "name" => do return { draft with name := ← once key draft.name text }
        | "params" => do
            return { draft with params := ← once key draft.params (fields room value) }
        | _ => do
            memberValue skip
            return draft
      let name ← required "name" draft.name
      return { name, params := draft.params.getD [] })

end ProviderState

namespace Interaction

/-- The kind is written as its name, or as an object that holds nothing else. -/
def isTag : Json → Bool
  | .string name => name == tag
  | .object [(name, .null)] => name == tag
  | _ => false

def ofJson? (value : Json) : Option Interaction := do
  match ← Json.openFieldsOf? fieldNames value with
  | ([kind, description, states, contents, metadata], extra) =>
      if (kind.map isTag).getD true then
        return {
          description := ← Json.orDefault "" Json.string? description
          states := ← Json.orDefault []
            (fun v => do (← v.items?).mapM ProviderState.ofJson?) states
          contents := ← Json.orDefault .empty Contents.ofJson? contents
          metadata := ← Json.orDefault [] Json.stringFields? metadata
          extra }
      else none
  | _ => none

open Json.Scan in
/-- Reads the name of the kind. -/
def readTagName : Json.Scan Unit := located do
  match ← ahead? with
  | none => failAhead .endOfValue
  | some byte =>
      if byte == quote then
        let name ← quoted
        if name == tag then return () else raise (.unknownVariant name tag)
      else wrongType "variant identifier"

open Json.Scan in
def readUnit : Json.Scan Unit := located do
  match ← ahead? with
  | none => failAhead .endOfValue
  | some byte =>
      if byte == 0x6E then
        discard
        word nullRest
      else wrongType "unit"

open Json.Scan in
def readTag (room : Nat) : Json.Scan Unit := do
  match ← ahead? with
  | none => failAhead .endOfValue
  | some byte =>
      if byte == openBrace then
        enter room fun _ => do
          readTagName
          memberValue readUnit
        match ← ahead? with
        | none => fail .endOfObject
        | some byte => if byte == closeBrace then discard else fail .expectedValue
      else if byte == quote then readTagName
      else failAhead .expectedValue

structure Draft where
  kind : Option Unit := none
  description : Option String := none
  states : Option (List ProviderState) := none
  contents : Option Contents := none
  metadata : Option (Fields String) := none
  extra : List (String × Json) := []

def Draft.finish (draft : Draft) : Interaction :=
  { description := draft.description.getD "", states := draft.states.getD [],
    contents := draft.contents.getD .empty, metadata := draft.metadata.getD [],
    extra := Fields.ofList (Json.normalizeMembers draft.extra.reverse) }

open Json.Scan in
def read (room : Nat) : Json.Scan Interaction :=
  openRecord "MessageInteraction" room fun room => do
    let draft ← members ({} : Draft) fun key draft =>
      match key with
      | "type" => do return { draft with kind := ← once key draft.kind (readTag room) }
      | "description" => do
          return { draft with description := ← once key draft.description text }
      | "providerStates" => do
          return { draft with
            states := ← once key draft.states (list room ProviderState.read) }
      | "contents" => do
          return { draft with contents := ← once key draft.contents (Contents.read room) }
      | "metadata" => do
          return { draft with
            metadata := ← once key draft.metadata (fields room fun _ => text) }
      | _ => do return { draft with extra := (key, ← memberValue (tree room)) :: draft.extra }
    return draft.finish

def ofText (text : String) : Except Json.Error Interaction :=
  Json.Scan.run read (Utf8.encode text)

end Interaction

namespace ConcreteMessage

structure Draft where
  description : Option String := none
  contents : Option Json := none
  contentType : Option (Option String) := none
  metadata : Option (Fields String) := none

def arity : String := "struct ReifiedMessage with 4 elements"

open Json.Scan in
def read (room : Nat) : Json.Scan (ConcreteMessage Json) :=
  record "ReifiedMessage" room
    (fun room => do
      let description ← item 0 arity text
      let contents ← item 1 arity (value room)
      let contentType ← item 2 arity (optional text)
      let metadata ← item 3 arity (fields room fun _ => text)
      return { description, contents, contentType, metadata })
    (fun room => do
      let draft ← members ({} : Draft) fun key draft =>
        match key with
        | "description" => do
            return { draft with description := ← once key draft.description text }
        | "contents" => do
            return { draft with contents := ← once key draft.contents (value room) }
        | "content_type" => do
            return { draft with
              contentType := ← once key draft.contentType (optional text) }
        | "metadata" => do
            return { draft with
              metadata := ← once key draft.metadata (fields room fun _ => text) }
        | _ => do
            memberValue skip
            return draft
      let description ← required "description" draft.description
      let contents ← required "contents" draft.contents
      let metadata ← required "metadata" draft.metadata
      return { description, contents, contentType := draft.contentType.join, metadata })

def ofText (text : String) : Except Json.Error (ConcreteMessage Json) :=
  Json.Scan.run read (Utf8.encode text)

end ConcreteMessage

end MessageContract
