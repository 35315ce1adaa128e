/-!
The standard base64 alphabet with padding. Decoding is canonical: it accepts
exactly one text for each byte sequence, and `Fault` tells which rule the text
breaks first.
-/

namespace MessageContract.Base64

/-- Why a text is not canonical base64. -/
inductive Fault where
  | symbol (byte : UInt8) (offset : Nat)
  | length (count : Nat)
  | lastSymbol (byte : UInt8) (offset : Nat)
  | padding
deriving Repr, DecidableEq

def Fault.message : Fault → String
  | .symbol byte offset => s!"Invalid symbol {byte.toNat}, offset {offset}."
  | .length count => s!"Invalid input length: {count}"
  | .lastSymbol byte offset => s!"Invalid last symbol {byte.toNat}, offset {offset}."
  | .padding => "Invalid padding"

def pad : UInt8 := 0x3D

/-- The byte that stands for a value below 64. -/
def symbol (value : Nat) : UInt8 :=
  if value < 26 then UInt8.ofNat (0x41 + value)
  else if value < 52 then UInt8.ofNat (0x61 + (value - 26))
  else if value < 62 then UInt8.ofNat (0x30 + (value - 52))
  else if value == 62 then 0x2B
  else 0x2F

/-- The value below 64 that a byte stands for. -/
def value? (byte : UInt8) : Option Nat :=
  let n := byte.toNat
  if 0x41 ≤ n && n ≤ 0x5A then some (n - 0x41)
  else if 0x61 ≤ n && n ≤ 0x7A then some (n - 0x61 + 26)
  else if 0x30 ≤ n && n ≤ 0x39 then some (n - 0x30 + 52)
  else if n == 0x2B then some 62
  else if n == 0x2F then some 63
  else none

def encodeBytes : List UInt8 → List UInt8
  | [] => []
  | [a] =>
      let n := a.toNat
      [symbol (n / 4), symbol (n % 4 * 16), pad, pad]
  | [a, b] =>
      let n := a.toNat * 256 + b.toNat
      [symbol (n / 1024), symbol (n / 16 % 64), symbol (n % 16 * 4), pad]
  | a :: b :: c :: rest =>
      let n := a.toNat * 65536 + b.toNat * 256 + c.toNat
      symbol (n / 262144) :: symbol (n / 4096 % 64) :: symbol (n / 64 % 64) ::
        symbol (n % 64) :: encodeBytes rest

def encode (bytes : List UInt8) : String :=
  String.ofList ((encodeBytes bytes).map fun b => Char.ofNat b.toNat)

/-- The last one to four bytes of a text, which alone may hold padding: the
values read so far, the last byte read as one, and the padding met. -/
structure Tail where
  values : List Nat := []
  last : UInt8 := 0
  padding : Nat := 0
  firstPad : Nat := 0

/-- Reads the last bytes from position `index` of the text, `place` of the group. -/
def Tail.read (start : Nat) : (place : Nat) → Tail → List UInt8 → Except Fault Tail
  | _, tail, [] => .ok tail
  | place, tail, b :: rest =>
      if b == pad then
        if place < 2 then .error (.symbol b (start + place))
        else
          Tail.read start (place + 1)
            { tail with
              padding := tail.padding + 1
              firstPad := if tail.padding == 0 then place else tail.firstPad } rest
      else if tail.padding > 0 then .error (.symbol pad (start + tail.firstPad))
      else
        match value? b with
        | none => .error (.symbol b (start + place))
        | some v =>
            Tail.read start (place + 1)
              { tail with values := tail.values ++ [v], last := b } rest

/-- The bytes of the last group, whose unused low bits must be zero. -/
def Tail.bytes (start : Nat) (tail : Tail) : Except Fault (List UInt8) :=
  match tail.values with
  | [a, b, c, d] =>
      .ok [UInt8.ofNat (a * 4 + b / 16), UInt8.ofNat (b % 16 * 16 + c / 4),
        UInt8.ofNat (c % 4 * 64 + d)]
  | [a, b, c] =>
      if c % 4 == 0 then
        .ok [UInt8.ofNat (a * 4 + b / 16), UInt8.ofNat (b % 16 * 16 + c / 4)]
      else .error (.lastSymbol tail.last (start + 2))
  | [a, b] =>
      if b % 16 == 0 then .ok [UInt8.ofNat (a * 4 + b / 16)]
      else .error (.lastSymbol tail.last (start + 1))
  | values => .error (.length (start + values.length))

def Tail.finish (start : Nat) (tail : Tail) : Except Fault (List UInt8) :=
  if tail.values.length < 2 then .error (.length (start + tail.values.length))
  else if (tail.padding + tail.values.length) % 4 ≠ 0 then .error .padding
  else tail.bytes start

/-- Decodes from position `start`. A full group is plain unless it ends the text. -/
def decodeFrom (start : Nat) : List UInt8 → Except Fault (List UInt8)
  | [] => .ok []
  | a :: b :: c :: d :: e :: rest => do
      let value (b : UInt8) (place : Nat) : Except Fault Nat :=
        match value? b with
        | some v => .ok v
        | none => .error (.symbol b (start + place))
      let a ← value a 0
      let b ← value b 1
      let c ← value c 2
      let d ← value d 3
      let rest ← decodeFrom (start + 4) (e :: rest)
      return UInt8.ofNat (a * 4 + b / 16) :: UInt8.ofNat (b % 16 * 16 + c / 4) ::
        UInt8.ofNat (c % 4 * 64 + d) :: rest
  | group => Tail.read start 0 {} group >>= Tail.finish start

/-- Decodes a whole text. A text one symbol too long is first blamed for a last
byte outside the alphabet, such as a line break. -/
def decodeBytes (bytes : List UInt8) : Except Fault (List UInt8) :=
  match bytes.getLast? with
  | some last =>
      if bytes.length % 4 == 1 && last != pad && (value? last).isNone then
        .error (.symbol last (bytes.length - 1))
      else decodeFrom 0 bytes
  | none => .ok []

end MessageContract.Base64
