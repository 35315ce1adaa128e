import MessageContract.Contract.Basic

/-!
Reading contracts, from values and from text. No entry makes a contract
unreadable: what is no message is kept as it is.
-/

namespace MessageContract

/-- A record of one string. -/
def nameOf? (field : String) (value : Json) : Option String := do
  match ← Json.fieldsOf? [field] value with
  | [some name] => name.string?
  | _ => none

open Json.Scan in
def readName (record_ field : String) (room : Nat) : Json.Scan String :=
  record record_ room
    (fun _ => item 0 s!"struct {record_} with 1 element" text)
    (fun _ => do
      let name ← members (none : Option String) fun key name =>
        if key == field then once key name text
        else do
          memberValue skip
          return name
      required field name)

namespace Entry

def read (room : Nat) : Json.Scan Entry := do
  return ofJson (← Json.Scan.tree room)

def ofText (text : String) : Except Json.Error Entry :=
  Json.Scan.run read (Utf8.encode text)

end Entry

namespace Contract.Metadata

def ofJson? (value : Json) : Option Contract.Metadata := do
  match ← Json.openFieldsOf? ["pactSpecification"] value with
  | ([some specification], extra) =>
      return { specification := ← nameOf? "version" specification, extra }
  | _ => none

open Json.Scan in
def read (room : Nat) : Json.Scan Contract.Metadata :=
  openRecord "ContractMetadata" room fun room => do
    let (specification, extra) ←
      members ((none, []) : Option String × List (String × Json)) fun key draft => do
        let (specification, extra) := draft
        if key == "pactSpecification" then
          return (← once key specification (readName "PactSpecification" "version" room), extra)
        else return (specification, (key, ← memberValue (tree room)) :: extra)
    let specification ← required "pactSpecification" specification
    return { specification, extra := Fields.ofList (Json.normalizeMembers extra.reverse) }

end Contract.Metadata

namespace Contract

def fieldNames : List String := ["consumer", "provider", "interactions", "metadata"]

def ofJson? (value : Json) : Option Contract := do
  match ← Json.fieldsOf? fieldNames value with
  | [some consumer, some provider, entries, metadata] =>
      return {
        consumer := ← nameOf? "name" consumer
        provider := ← nameOf? "name" provider
        entries := ← Json.orDefault [] (fun v => v.items?.map (·.map Entry.ofJson)) entries
        metadata := ← Json.orDefault .initial Contract.Metadata.ofJson? metadata }
  | _ => none

structure Draft where
  consumer : Option String := none
  provider : Option String := none
  entries : Option (List Entry) := none
  metadata : Option Contract.Metadata := none

def Draft.finish (draft : Draft) (consumer provider : String) : Contract :=
  { consumer, provider, entries := draft.entries.getD [],
    metadata := draft.metadata.getD .initial }

def arity : String := "struct Contract with 4 elements"

def readParticipant (room : Nat) : Json.Scan String :=
  readName "Participant" "name" room

open Json.Scan in
def read (room : Nat) : Json.Scan Contract :=
  record "Contract" room
    (fun room => do
      let consumer ← item 0 arity (readParticipant room)
      let provider ← item 1 arity (readParticipant room)
      let entries ← item? false (list room Entry.read)
      let metadata ← item? false (Contract.Metadata.read room)
      return Draft.finish { entries, metadata } consumer provider)
    (fun room => do
      let draft ← members ({} : Draft) fun key draft =>
        match key with
        | "consumer" => do
            return { draft with consumer := ← once key draft.consumer (readParticipant room) }
        | "provider" => do
            return { draft with provider := ← once key draft.provider (readParticipant room) }
        | "interactions" => do
            return { draft with entries := ← once key draft.entries (list room Entry.read) }
        | "metadata" => do
            return { draft with
              metadata := ← once key draft.metadata (Contract.Metadata.read room) }
        | _ => do
            memberValue skip
            return draft
      let consumer ← required "consumer" draft.consumer
      let provider ← required "provider" draft.provider
      return draft.finish consumer provider)

/-- The contract of a file's bytes. -/
def ofBytes (bytes : List UInt8) : Except Json.Error Contract :=
  Json.Scan.run read bytes

def ofText (text : String) : Except Json.Error Contract :=
  ofBytes (Utf8.encode text)

/-- The bytes of a contract's file: indented, and ended by a line break. -/
def toBytes (c : Contract) : List UInt8 :=
  Utf8.encode (c.toJson.indented ++ "\n")

end Contract

end MessageContract
