import MessageContract.Json.Printer
import MessageContract.Text.Debug

/-!
What can be wrong with JSON text, or with a value that should have a given
shape, and where. A fault is first raised without a place; the innermost
construct that was being read gives it the place it has reached.
-/

namespace MessageContract.Json

/-- A place in a text: the line, and the bytes read on it. -/
structure Position where
  line : Nat
  column : Nat
deriving Repr, DecidableEq

/-- The kind of value that was met where another was wanted. -/
inductive Found where
  | null
  | bool (value : Bool)
  | number (value : Number)
  | string (value : String)
  | sequence
  | map
deriving DecidableEq

def Found.of : Json → Found
  | .null => .null
  | .bool b => .bool b
  | .number n => .number n
  | .string s => .string s
  | .array _ => .sequence
  | .object _ => .map

def Found.text : Found → String
  | .null => "null"
  | .bool value => s!"boolean `{value}`"
  | .number (.integer n) => s!"integer `{(Number.integer n).text}`"
  | .number (.float x) => s!"floating point `{(Number.float x).text}`"
  | .string value => "string " ++ Text.debugQuoted value
  | .sequence => "sequence"
  | .map => "map"

inductive Fault where
  | endOfList
  | endOfObject
  | endOfString
  | endOfValue
  | expectedColon
  | expectedListEnd
  | expectedObjectEnd
  | expectedWord
  | expectedValue
  | invalidEscape
  | invalidNumber
  | numberOutOfRange
  | invalidCodePoint
  | controlCharacter
  | keyNotString
  | loneSurrogate
  | trailingComma
  | trailingCharacters
  | endOfHexEscape
  | tooDeep
  | wrongType (found : Found) (expected : String)
  | wrongValue (found : Found) (expected : String)
  | wrongLength (length : Nat) (expected : String)
  | missingField (name : String)
  | duplicateField (name : String)
  | unknownVariant (name expected : String)
  | noVariant (choice : String)
  /-- The shape is right and the meaning is refused for the reason given. -/
  | refused (reason : String)
  /-- The text could not be written out to its end, for the reason given. -/
  | unwritten (reason : String)
deriving DecidableEq

def Fault.message : Fault → String
  | .endOfList => "EOF while parsing a list"
  | .endOfObject => "EOF while parsing an object"
  | .endOfString => "EOF while parsing a string"
  | .endOfValue => "EOF while parsing a value"
  | .expectedColon => "expected `:`"
  | .expectedListEnd => "expected `,` or `]`"
  | .expectedObjectEnd => "expected `,` or `\x7d`"
  | .expectedWord => "expected ident"
  | .expectedValue => "expected value"
  | .invalidEscape => "invalid escape"
  | .invalidNumber => "invalid number"
  | .numberOutOfRange => "number out of range"
  | .invalidCodePoint => "invalid unicode code point"
  | .controlCharacter =>
      "control character (\\u0000-\\u001F) found while parsing a string"
  | .keyNotString => "key must be a string"
  | .loneSurrogate => "lone leading surrogate in hex escape"
  | .trailingComma => "trailing comma"
  | .trailingCharacters => "trailing characters"
  | .endOfHexEscape => "unexpected end of hex escape"
  | .tooDeep => "recursion limit exceeded"
  | .wrongType found expected => s!"invalid type: {found.text}, expected {expected}"
  | .wrongValue found expected => s!"invalid value: {found.text}, expected {expected}"
  | .wrongLength length expected => s!"invalid length {length}, expected {expected}"
  | .missingField name => s!"missing field `{name}`"
  | .duplicateField name => s!"duplicate field `{name}`"
  | .unknownVariant name expected => s!"unknown variant `{name}`, expected `{expected}`"
  | .noVariant choice => s!"data did not match any variant of untagged enum {choice}"
  | .refused reason | .unwritten reason => reason

/-- A fault and, once it is known, its place. -/
structure Error where
  fault : Fault
  position : Option Position := none
deriving DecidableEq

namespace Error

/-- Gives the error a place unless it has one. -/
def located (e : Error) (position : Position) : Error :=
  { e with position := e.position.or (some position) }

def message (e : Error) : String :=
  match e.position with
  | none => e.fault.message
  | some p => s!"{e.fault.message} at line {p.line} column {p.column}"

end Error

end MessageContract.Json
