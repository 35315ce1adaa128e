import MessageContract.Json.Fault
import MessageContract.Text.Utf8

/-!
Reading the tokens of JSON text: words, numbers and strings. A `Scan` moves a
cursor over the bytes and either succeeds or stops with an error; after an
error the cursor still tells how far the reading went. A loop takes at least one
byte a round, so the bytes that are left when it starts bound its rounds.
-/

namespace MessageContract.Json

/-- The bytes that are left and the place of the first of them. -/
structure Cursor where
  rest : List UInt8
  line : Nat := 1
  column : Nat := 0

namespace Cursor

def position (c : Cursor) : Position :=
  ⟨c.line, c.column⟩

/-- Passes one byte; at the end nothing changes. -/
def advance (c : Cursor) : Cursor :=
  match c.rest with
  | [] => c
  | 0x0A :: rest => ⟨rest, c.line + 1, 0⟩
  | _ :: rest => ⟨rest, c.line, c.column + 1⟩

/-- The place just after the next byte. -/
def ahead (c : Cursor) : Position :=
  c.advance.position

end Cursor

abbrev Scan (α : Type) := ExceptT Error (StateM Cursor) α

namespace Scan

variable {α β : Type}

/-- Fails without a place, which the construct around it will give. -/
def raise (fault : Fault) : Scan α :=
  throw { fault }

/-- Fails at the place reached. -/
def fail (fault : Fault) : Scan α := do
  let cursor : Cursor ← get
  throw { fault, position := some cursor.position }

/-- Fails at the byte that comes next. -/
def failAhead (fault : Fault) : Scan α := do
  let cursor : Cursor ← get
  throw { fault, position := some cursor.ahead }

/-- Gives an error without a place the place that was reached. -/
def located (scan : Scan α) : Scan α := fun cursor =>
  match scan cursor with
  | (.error e, after) => (.error (e.located after.position), after)
  | result => result

def peek : Scan (Option UInt8) := do
  let cursor : Cursor ← get
  return cursor.rest.head?

def discard : Scan Unit :=
  modify Cursor.advance

def next : Scan (Option UInt8) := do
  let byte ← peek
  discard
  return byte

/-- What bounds a loop: it makes at most one round for each element. -/
abbrev Fuel := List UInt8

/-- Runs a loop with one round more than there are bytes. -/
def withFuel (loop : Fuel → Scan α) : Scan α := do
  let cursor : Cursor ← get
  loop (0 :: cursor.rest)

def isSpace (byte : UInt8) : Bool :=
  byte == 0x20 || byte == 0x0A || byte == 0x09 || byte == 0x0D

def skipSpace : Fuel → Scan Unit
  | [] => pure ()
  | _ :: fuel => do
      match ← peek with
      | some byte => if isSpace byte then discard; skipSpace fuel
      | none => pure ()

/-- The first byte after the white space, which stays next. -/
def ahead? : Scan (Option UInt8) := do
  withFuel skipSpace
  peek

/-- Reads the rest of `null`, `true` or `false`. -/
def word : List UInt8 → Scan Unit
  | [] => pure ()
  | expected :: rest => do
      match ← next with
      | none => fail .endOfValue
      | some byte => if byte == expected then word rest else fail .expectedWord

def nullRest : List UInt8 := [0x75, 0x6C, 0x6C]

def trueRest : List UInt8 := [0x72, 0x75, 0x65]

def falseRest : List UInt8 := [0x61, 0x6C, 0x73, 0x65]

def digit? (byte : UInt8) : Option Nat :=
  if 0x30 ≤ byte && byte ≤ 0x39 then some (byte.toNat - 0x30) else none

/-- The digit that comes next, which stays. -/
def peekDigit? : Scan (Option Nat) := do
  return (← peek).bind digit?

def skipDigits : Fuel → Scan Unit
  | [] => pure ()
  | _ :: fuel => do
      if (← peekDigit?).isSome then
        discard
        skipDigits fuel

def float (negative : Bool) (significand : Nat) (exponent : Int) : Scan Number := do
  match Binary64.ofDecimal? negative significand exponent with
  | some x => return .float x
  | none => fail .numberOutOfRange

/-- Digits are taken into the significand while it stays below this bound. -/
def significandBound : Nat := UInt64.size

def exponentBound : Nat := UInt32.size / 2

/-- An exponent beyond the bound makes zero, unless it makes too great a number. -/
def hugeExponent (negative negativeExponent : Bool) (significand : Nat) : Scan Number := do
  if significand ≠ 0 && !negativeExponent then fail .numberOutOfRange
  else
    withFuel skipDigits
    float negative 0 0

def exponentDigits (negative negativeExponent : Bool) (significand : Nat) (scale : Int) :
    (fuel : Fuel) → (exponent : Nat) → Scan Number
  | [], _ => fail .invalidNumber
  | _ :: fuel, exponent => do
      match ← peekDigit? with
      | some d =>
          discard
          if exponentBound ≤ exponent * 10 + d then
            hugeExponent negative negativeExponent significand
          else
            exponentDigits negative negativeExponent significand scale fuel
              (exponent * 10 + d)
      | none =>
          float negative significand
            (if negativeExponent then scale - exponent else scale + exponent)

/-- Reads from the letter of the exponent on. -/
def exponent (negative : Bool) (significand : Nat) (scale : Int) : Scan Number := do
  discard
  let sign ← peek
  if sign == some 0x2B || sign == some 0x2D then discard
  match ← next with
  | none => fail .endOfValue
  | some byte =>
      match digit? byte with
      | some d =>
          withFuel fun fuel =>
            exponentDigits negative (sign == some 0x2D) significand scale fuel d
      | none => fail .invalidNumber

def isExponentMark (byte : Option UInt8) : Bool :=
  byte == some 0x65 || byte == some 0x45

/-- The number ends here, or its exponent follows. -/
def scaled (negative : Bool) (significand : Nat) (scale : Int) : Scan Number := do
  if isExponentMark (← peek) then exponent negative significand scale
  else float negative significand scale

/-- Reads digits after the point; those that no longer fit are dropped. -/
def fractionDigits (negative : Bool) (base : Int) :
    (fuel : Fuel) → (significand count : Nat) → Scan Number
  | [], _, _ => fail .invalidNumber
  | _ :: fuel, significand, count => do
      match ← peekDigit? with
      | some d =>
          if significandBound ≤ significand * 10 + d then
            withFuel skipDigits
            scaled negative significand (base - count)
          else
            discard
            fractionDigits negative base fuel (significand * 10 + d) (count + 1)
      | none =>
          if count = 0 then
            failAhead (if (← peek).isSome then .invalidNumber else .endOfValue)
          else scaled negative significand (base - count)

/-- Reads from the point on. -/
def fraction (negative : Bool) (significand : Nat) (base : Int) : Scan Number := do
  discard
  withFuel fun fuel => fractionDigits negative base fuel significand 0

/-- Reads integer digits that no longer fit, which only count for the scale. -/
def longInteger (negative : Bool) (significand : Nat) :
    (fuel : Fuel) → (dropped : Nat) → Scan Number
  | [], _ => fail .invalidNumber
  | _ :: fuel, dropped => do
      if (← peekDigit?).isSome then
        discard
        longInteger negative significand fuel (dropped + 1)
      else if (← peek) == some 0x2E then fraction negative significand dropped
      else scaled negative significand dropped

/-- What follows the integer digits. An integer that fits 64 bits stays one;
the negative zero is a float. -/
def afterInteger (negative : Bool) (significand : Nat) : Scan Number := do
  let byte ← peek
  if byte == some 0x2E then fraction negative significand 0
  else if isExponentMark byte then exponent negative significand 0
  else if !negative then return .integer significand
  else if 0 < significand && significand ≤ UInt64.size / 2 then return .integer (-significand)
  else float true significand 0

def integerDigits (negative : Bool) : (fuel : Fuel) → (significand : Nat) → Scan Number
  | [], _ => fail .invalidNumber
  | _ :: fuel, significand => do
      match ← peekDigit? with
      | some d =>
          if significandBound ≤ significand * 10 + d then
            withFuel fun fuel => longInteger negative significand fuel 0
          else
            discard
            integerDigits negative fuel (significand * 10 + d)
      | none => afterInteger negative significand

/-- Reads a number after its sign. A zero does not lead other digits. -/
def unsignedNumber (negative : Bool) : Scan Number := do
  match ← next with
  | none => fail .endOfValue
  | some byte =>
      match digit? byte with
      | some 0 =>
          if (← peekDigit?).isSome then failAhead .invalidNumber
          else afterInteger negative 0
      | some d => withFuel fun fuel => integerDigits negative fuel d
      | none => fail .invalidNumber

/-- Reads a number that is known to start here. -/
def number : Scan Number := do
  if (← peek) == some 0x2D then
    discard
    unsignedNumber true
  else unsignedNumber false

def hexDigit? (byte : UInt8) : Option Nat :=
  let n := byte.toNat
  if 0x30 ≤ n && n ≤ 0x39 then some (n - 0x30)
  else if 0x41 ≤ n && n ≤ 0x46 then some (n - 0x41 + 10)
  else if 0x61 ≤ n && n ≤ 0x66 then some (n - 0x61 + 10)
  else none

/-- Reads the four hexadecimal digits of an escape. -/
def hexEscape : Scan Nat := do
  let cursor : Cursor ← get
  match cursor.rest with
  | a :: b :: c :: d :: _ =>
      discard; discard; discard; discard
      match hexDigit? a, hexDigit? b, hexDigit? c, hexDigit? d with
      | some a, some b, some c, some d => return ((a * 16 + b) * 16 + c) * 16 + d
      | _, _, _, _ => fail .invalidEscape
  | rest =>
      rest.forM fun _ => discard
      fail .endOfString

/-- The byte that must come next within a string; it stays. -/
def peekInString : Scan UInt8 := do
  match ← peek with
  | some byte => return byte
  | none => fail .endOfString

def isLowSurrogate (n : Nat) : Bool :=
  0xDC00 ≤ n && n ≤ 0xDFFF

def isHighSurrogate (n : Nat) : Bool :=
  0xD800 ≤ n && n ≤ 0xDBFF

/-- Reads the character of a `\u` escape, which may be a pair of surrogates. -/
def unicodeEscape : Scan Char := do
  let n ← hexEscape
  if isLowSurrogate n then fail .loneSurrogate
  else if !isHighSurrogate n then return Char.ofNat n
  else
    let slash ← peekInString
    discard
    if slash != 0x5C then fail .endOfHexEscape
    else
      let letter ← peekInString
      discard
      if letter != 0x75 then fail .endOfHexEscape
      else
        let m ← hexEscape
        if isLowSurrogate m then
          return Char.ofNat (0x10000 + (n - 0xD800) * 0x400 + (m - 0xDC00))
        else fail .loneSurrogate

/-- The character of a one-letter escape. -/
def shortEscape? (byte : UInt8) : Option UInt8 :=
  match byte with
  | 0x22 => some 0x22
  | 0x5C => some 0x5C
  | 0x2F => some 0x2F
  | 0x62 => some 0x08
  | 0x66 => some 0x0C
  | 0x6E => some 0x0A
  | 0x72 => some 0x0D
  | 0x74 => some 0x09
  | _ => none

/-- Reads the bytes of an escape after its backslash. -/
def escape : Scan (List UInt8) := do
  match ← next with
  | none => fail .endOfString
  | some byte =>
      if byte == 0x75 then return Utf8.encodeChar (← unicodeEscape)
      else
        match shortEscape? byte with
        | some plain => return [plain]
        | none => fail .invalidEscape

/-- Reads up to the closing quote; `done` holds the bytes so far, last first. -/
def stringBytes : Fuel → List UInt8 → Scan (List UInt8)
  | [], _ => fail .endOfString
  | _ :: fuel, done => do
      match ← next with
      | none => fail .endOfString
      | some byte =>
          if byte == 0x22 then return done.reverse
          else if byte == 0x5C then stringBytes fuel ((← escape).reverse ++ done)
          else if byte < 0x20 then fail .controlCharacter
          else stringBytes fuel (byte :: done)

/-- Fails at the first damaged byte of a string that has been read to its end,
counting back from there over its bytes. -/
def failDamaged (bytes : List UInt8) : Scan String := do
  let cursor : Cursor ← get
  let column := cursor.column - (bytes.length - Utf8.soundLength bytes)
  throw { fault := .invalidCodePoint, position := some ⟨cursor.line, column⟩ }

/-- Reads a string from its opening quote on. -/
def quoted : Scan String := do
  discard
  let bytes ← withFuel fun fuel => stringBytes fuel []
  match Utf8.decode bytes with
  | some text => return text
  | none => failDamaged bytes

end Scan

end MessageContract.Json
