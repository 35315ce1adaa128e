/-!
UTF-8 over lists of bytes. `scan` reads any byte sequence as characters and
damaged stretches, so that the strict reader `decode` and the forgiving reader
`decodeLossy` share one account of where a character ends. Overlong forms,
surrogates and values above U+10FFFF are damage, each cut after the longest
stretch that could still have become a character.
-/

namespace MessageContract.Utf8

/-- The one to four bytes of a character. -/
def encodeChar (c : Char) : List UInt8 :=
  let n := c.toNat
  if n < 0x80 then [UInt8.ofNat n]
  else if n < 0x800 then [UInt8.ofNat (0xC0 + n / 64), UInt8.ofNat (0x80 + n % 64)]
  else if n < 0x10000 then
    [UInt8.ofNat (0xE0 + n / 4096), UInt8.ofNat (0x80 + n / 64 % 64),
      UInt8.ofNat (0x80 + n % 64)]
  else
    [UInt8.ofNat (0xF0 + n / 262144), UInt8.ofNat (0x80 + n / 4096 % 64),
      UInt8.ofNat (0x80 + n / 64 % 64), UInt8.ofNat (0x80 + n % 64)]

def encodeChars (cs : List Char) : List UInt8 :=
  cs.flatMap encodeChar

def encode (text : String) : List UInt8 :=
  encodeChars text.toList

def within (low high byte : UInt8) : Bool :=
  low ≤ byte && byte ≤ high

/-- A byte that continues a character. -/
def isTail (byte : UInt8) : Bool :=
  within 0x80 0xBF byte

/-- The second bytes that may follow a leading byte of a three-byte character. -/
def isSecondOfThree (lead byte : UInt8) : Bool :=
  if lead == 0xE0 then within 0xA0 0xBF byte
  else if lead == 0xED then within 0x80 0x9F byte
  else isTail byte

/-- The second bytes that may follow a leading byte of a four-byte character. -/
def isSecondOfFour (lead byte : UInt8) : Bool :=
  if lead == 0xF0 then within 0x90 0xBF byte
  else if lead == 0xF4 then within 0x80 0x8F byte
  else isTail byte

/-- The character of a leading byte's payload and its continuation bytes. -/
def assemble (payload : Nat) (tails : List UInt8) : Char :=
  Char.ofNat (tails.foldl (fun n b => n * 64 + b.toNat % 64) payload)

/-- Every byte sequence as its characters, with `none` for each damaged stretch. -/
def scan : List UInt8 → List (Option Char)
  | [] => []
  | a :: rest =>
      if a < 0x80 then some (Char.ofNat a.toNat) :: scan rest
      else if within 0xC2 0xDF a then
        match rest with
        | [] => [none]
        | b :: tail =>
            if isTail b then some (assemble (a.toNat % 32) [b]) :: scan tail
            else none :: scan (b :: tail)
      else if within 0xE0 0xEF a then
        match rest with
        | [] => [none]
        | b :: tail =>
            if isSecondOfThree a b then
              match tail with
              | [] => [none]
              | c :: tail =>
                  if isTail c then some (assemble (a.toNat % 16) [b, c]) :: scan tail
                  else none :: scan (c :: tail)
            else none :: scan (b :: tail)
      else if within 0xF0 0xF4 a then
        match rest with
        | [] => [none]
        | b :: tail =>
            if isSecondOfFour a b then
              match tail with
              | [] => [none]
              | c :: tail =>
                  if isTail c then
                    match tail with
                    | [] => [none]
                    | d :: tail =>
                        if isTail d then
                          some (assemble (a.toNat % 8) [b, c, d]) :: scan tail
                        else none :: scan (d :: tail)
                  else none :: scan (c :: tail)
            else none :: scan (b :: tail)
      else none :: scan rest

/-- The text of a byte sequence, if it is UTF-8 throughout. -/
def decode (bytes : List UInt8) : Option String :=
  ((scan bytes).mapM id).map String.ofList

/-- The number of bytes before the first damaged stretch. -/
def soundLength (bytes : List UInt8) : Nat :=
  (encodeChars (((scan bytes).takeWhile Option.isSome).filterMap id)).length

/-- The text of a byte sequence with a replacement character per damaged stretch. -/
def decodeLossy (bytes : List UInt8) : String :=
  String.ofList ((scan bytes).map fun c => c.getD '\uFFFD')

end MessageContract.Utf8
