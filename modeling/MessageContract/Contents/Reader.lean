import MessageContract.Contents.Basic
import MessageContract.Json.Decode
import MessageContract.Json.Reader

/-!
Reading the wire form of contents, from a value and from text.
-/

namespace MessageContract

namespace Encoding

def ofJson? : Json → Option Encoding
  | .bool base64 => some (.flag base64)
  | .string name => some (.scheme name)
  | _ => none

/-- Reads a flag or a name. Anything else has been read when it is refused. -/
def read (room : Nat) : Json.Scan Encoding := do
  match ofJson? (← Json.Scan.tree room) with
  | some encoding => return encoding
  | none => Json.Scan.raise (.noVariant "Encoded")

end Encoding

namespace WireContents

def fieldNames : List String := ["content", "contentType", "encoded"]

def ofJson? (value : Json) : Option WireContents := do
  match ← Json.fieldsOf? fieldNames value with
  | [content, contentType, encoded] =>
      return {
        content := ← Json.orDefault none (Json.orNull fun v => some v.normalize) content
        contentType := ← Json.orDefault none (Json.orNull Json.string?) contentType
        encoding := ← Json.orDefault (.flag false) Encoding.ofJson? encoded }
  | _ => none

/-- The members read so far. -/
structure Draft where
  content : Option (Option Json) := none
  contentType : Option (Option String) := none
  encoding : Option Encoding := none

def Draft.finish (draft : Draft) : WireContents :=
  { content := draft.content.join, contentType := draft.contentType.join,
    encoding := draft.encoding.getD (.flag false) }

open Json.Scan in
def read (room : Nat) : Json.Scan WireContents :=
  record "RawContents" room
    (fun room => do
      let content ← item? true (optional (value room))
      let contentType ← item? false (optional text)
      let encoding ← item? false (Encoding.read room)
      return Draft.finish { content, contentType, encoding })
    (fun room => do
      let draft ← members ({} : Draft) fun key draft =>
        match key with
        | "content" => do
            return { draft with
              content := ← once key draft.content (optional (value room)) }
        | "contentType" => do
            return { draft with
              contentType := ← once key draft.contentType (optional text) }
        | "encoded" => do
            return { draft with encoding := ← once key draft.encoding (Encoding.read room) }
        | _ => do
            memberValue skip
            return draft
      return draft.finish)

end WireContents

namespace Contents

def ofJson? (value : Json) : Option Contents := do
  (ofWire (← WireContents.ofJson? value)).toOption

def read (room : Nat) : Json.Scan Contents := do
  match ofWire (← WireContents.read room) with
  | .ok contents => return contents
  | .error e => Json.Scan.raise (.refused e.message)

/-- The contents of a JSON text. -/
def ofText (text : String) : Except Json.Error Contents :=
  Json.Scan.run read (Utf8.encode text)

end Contents

end MessageContract
