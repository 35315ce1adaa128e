import MessageContract.Json.Basic
import MessageContract.Number.Shortest

/-!
JSON text: the compact form, without a blank, and the indented form, with one
member or item a line. Characters are written as themselves except for the
quote, the backslash and the control characters below the space.

A float is written with the fewest digits that name it. Between 1e-5 and 1e16
it is positional and keeps a digit after the point; outside it has an exponent
with its sign.
-/

namespace MessageContract

/-- Positional notation is used while the point lies within these places. -/
structure FloatLayout where
  least : Int
  greatest : Int

def FloatLayout.json : FloatLayout := ⟨-4, 16⟩

def digitChars (ds : List Nat) : List Char :=
  ds.map fun d => Char.ofNat ('0'.toNat + d)

def natChars (n : Nat) : List Char :=
  Nat.toDigits 10 n

def intChars (n : Int) : List Char :=
  if n < 0 then '-' :: natChars n.natAbs else natChars n.natAbs

namespace FloatLayout

def positional (ds : List Nat) (point : Int) : List Char :=
  if point ≤ 0 then ['0', '.'] ++ List.replicate point.natAbs '0' ++ digitChars ds
  else
    let p := point.toNat
    if ds.length ≤ p then
      digitChars ds ++ List.replicate (p - ds.length) '0' ++ ['.', '0']
    else digitChars (ds.take p) ++ '.' :: digitChars (ds.drop p)

def exponential (ds : List Nat) (point : Int) : List Char :=
  let exponent := point - 1
  let tail := match ds.drop 1 with
    | [] => []
    | rest => '.' :: digitChars rest
  digitChars (ds.take 1) ++ tail ++ ['e', if exponent < 0 then '-' else '+'] ++
    natChars exponent.natAbs

def write (layout : FloatLayout) (d : Binary64.Decimal) : List Char :=
  if layout.least ≤ d.point && d.point ≤ layout.greatest then positional d.digits d.point
  else exponential d.digits d.point

end FloatLayout

/-- The float's text, with the sign also of a zero. -/
def Binary64.chars (x : Binary64) : List Char :=
  let sign := if x.negative then ['-'] else []
  if x.magnitude = 0 then sign ++ ['0', '.', '0']
  else sign ++ FloatLayout.json.write (shortest x.magnitude)

namespace Number

def chars : Number → List Char
  | .integer n => intChars n
  | .float x => x.chars

def text (n : Number) : String :=
  String.ofList n.chars

end Number

namespace Json

def hexDigit (n : Nat) : Char :=
  if n < 10 then Char.ofNat (0x30 + n) else Char.ofNat (0x61 + (n - 10))

def escapeChar (c : Char) : List Char :=
  if c == '"' then ['\\', '"']
  else if c == '\\' then ['\\', '\\']
  else if c == '\n' then ['\\', 'n']
  else if c == '\r' then ['\\', 'r']
  else if c == '\t' then ['\\', 't']
  else if c == '\x08' then ['\\', 'b']
  else if c == '\x0c' then ['\\', 'f']
  else if c.toNat < 0x20 then
    ['\\', 'u', '0', '0', hexDigit (c.toNat / 16), hexDigit (c.toNat % 16)]
  else [c]

def quoted (text : String) : List Char :=
  '"' :: text.toList.flatMap escapeChar ++ ['"']

def boolChars : Bool → List Char
  | true => ['t', 'r', 'u', 'e']
  | false => ['f', 'a', 'l', 's', 'e']

mutual

/-- The compact form. -/
def chars : Json → List Char
  | .null => ['n', 'u', 'l', 'l']
  | .bool b => boolChars b
  | .number n => n.chars
  | .string s => quoted s
  | .array [] => ['[', ']']
  | .array (item :: rest) => '[' :: (chars item ++ itemChars rest)
  | .object [] => ['\x7b', '\x7d']
  | .object ((key, value) :: rest) =>
      '\x7b' :: (quoted key ++ ':' :: (chars value ++ memberChars rest))

/-- The items after the first one and the closing bracket. -/
def itemChars : List Json → List Char
  | [] => [']']
  | item :: rest => ',' :: (chars item ++ itemChars rest)

def memberChars : List (String × Json) → List Char
  | [] => ['\x7d']
  | (key, value) :: rest => ',' :: (quoted key ++ ':' :: (chars value ++ memberChars rest))

end

/-- The compact text of a value. -/
def text (value : Json) : String :=
  String.ofList value.chars

def newline (depth : Nat) : List Char :=
  '\n' :: List.replicate (2 * depth) ' '

mutual

/-- The indented form at a depth, two spaces for each level. Empty arrays and
objects stay on their line. -/
def indentedChars (depth : Nat) : Json → List Char
  | .null => ['n', 'u', 'l', 'l']
  | .bool b => boolChars b
  | .number n => n.chars
  | .string s => quoted s
  | .array [] => ['[', ']']
  | .array (item :: rest) =>
      '[' :: (newline (depth + 1) ++
        (indentedChars (depth + 1) item ++ indentedItems depth rest))
  | .object [] => ['\x7b', '\x7d']
  | .object ((key, value) :: rest) =>
      '\x7b' :: (newline (depth + 1) ++ (quoted key ++ ':' :: ' ' ::
        (indentedChars (depth + 1) value ++ indentedMembers depth rest)))

def indentedItems (depth : Nat) : List Json → List Char
  | [] => newline depth ++ [']']
  | item :: rest =>
      ',' :: (newline (depth + 1) ++
        (indentedChars (depth + 1) item ++ indentedItems depth rest))

def indentedMembers (depth : Nat) : List (String × Json) → List Char
  | [] => newline depth ++ ['\x7d']
  | (key, value) :: rest =>
      ',' :: (newline (depth + 1) ++ (quoted key ++ ':' :: ' ' ::
        (indentedChars (depth + 1) value ++ indentedMembers depth rest)))

end

/-- The indented text of a value. -/
def indented (value : Json) : String :=
  String.ofList (value.indentedChars 0)

end Json

end MessageContract
