import MessageContract.Contents.MediaType
import MessageContract.Node.Wire
import MessageContract.Concrete

/-!
The payload of a message: none, a content tree under a JSON media type, or
bytes. On the wire bytes are text where the media type and the bytes allow it,
and base64 otherwise; the flag `encoded` tells which.
-/

namespace MessageContract

inductive Contents where
  | empty
  | json (contentType : String) (body : Node)
  | bytes (contentType : String) (data : List UInt8)

/-- How the content string of a wire form is encoded: not at all or as base64,
or under a name. -/
inductive Encoding where
  | flag (base64 : Bool)
  | scheme (name : String)
deriving DecidableEq

/-- The members of the wire form. -/
structure WireContents where
  content : Option Json := none
  contentType : Option String := none
  encoding : Encoding := .flag false

def base64Scheme : String := "base64"

namespace Encoding

/-- Whether the content is base64; other schemes are unknown. -/
def isBase64 : Encoding → Except Error Bool
  | .flag base64 => .ok base64
  | .scheme name =>
      if Text.sameAscii name base64Scheme then .ok true
      else .error (.invalidInteraction (.unknownEncoding name))

def toJson : Encoding → Json
  | .flag base64 => .bool base64
  | .scheme name => .string name

end Encoding

namespace Contents

def isEmpty : Contents → Bool
  | .empty => true
  | _ => false

def contentType? : Contents → Option String
  | .empty => none
  | .json contentType _ => some contentType
  | .bytes contentType _ => some contentType

def same : Contents → Contents → Bool
  | .empty, .empty => true
  | .json t a, .json u b => t == u && a.same b
  | .bytes t a, .bytes u b => t == u && a == b
  | _, _ => false

def liftMatcher {α : Type} : Except MatcherFault α → Except Error α
  | .ok a => .ok a
  | .error fault => .error (.invalidMatcher fault)

/-- The bytes of a base64 content, which has to be a string. -/
def decodeContent : Option Json → Except Error (List UInt8)
  | some (.string text) =>
      match Base64.decodeBytes (Utf8.encode text) with
      | .ok data => .ok data
      | .error fault => .error (.invalidInteraction (.badBase64 fault))
  | _ => .error (.invalidInteraction .encodedNotString)

/-- The contents of a wire form. Without content and content type there are
none, whatever the encoding. -/
def ofWire (wire : WireContents) : Except Error Contents := do
  let base64 ← wire.encoding.isBase64
  match wire.content, wire.contentType with
  | none, none => return .empty
  | content, contentType =>
      if base64 then
        return .bytes (contentType.getD MediaType.binary) (← decodeContent content)
      else
        match content, contentType with
        | some (.string text), some contentType =>
            if MediaType.isJson contentType then return .json contentType (.string text)
            else return .bytes contentType (Utf8.encode text)
        | none, some contentType =>
            if MediaType.isJson contentType then return .json contentType .null
            else return .bytes contentType []
        | content, contentType =>
            let body ← liftMatcher (Node.ofJson (content.getD .null))
            return .json (contentType.getD MediaType.json) body

/-- The text of bytes that are written as such. -/
def plainText? (contentType : String) (data : List UInt8) : Option String :=
  if MediaType.isText contentType then Utf8.decode data else none

def toWire : Contents → WireContents
  | .empty => {}
  | .json contentType body =>
      { content := some body.toJson, contentType := some contentType }
  | .bytes contentType data =>
      match plainText? contentType data with
      | some text => { content := some (.string text), contentType := some contentType }
      | none =>
          { content := some (.string (Base64.encode data)), contentType := some contentType,
            encoding := .scheme base64Scheme }

end Contents

namespace WireContents

def optionalMember (key : String) : Option Json → List (String × Json)
  | none => []
  | some value => [(key, value)]

/-- The object of the wire form. What is absent is left out. -/
def toJson (wire : WireContents) : Json :=
  .object (optionalMember "content" wire.content ++
    optionalMember "contentType" (wire.contentType.map .string) ++
    [("encoded", wire.encoding.toJson)])

end WireContents

namespace Contents

def toJson (contents : Contents) : Json :=
  contents.toWire.toJson

/-- The concrete content that a consumer is handed: the content of the wire
form, with the examples in place of the rules. -/
def concrete (engine : PatternEngine) : Contents → Traced Json
  | .empty => .ok .null
  | .json _ body => body.concrete engine
  | .bytes contentType data =>
      match plainText? contentType data with
      | some text => .ok (.string text)
      | none => .ok (.string (Base64.encode data))

end Contents

end MessageContract
