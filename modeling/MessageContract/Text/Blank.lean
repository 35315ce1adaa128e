/-!
Blank characters, trimming and the ASCII case map. The blank characters are
those with the Unicode property White_Space; the zero width space, the byte
order mark and the Mongolian vowel separator are not among them.
-/

namespace MessageContract.Text

/-- White space in the sense of Unicode. -/
def isBlank (c : Char) : Bool :=
  let n := c.toNat
  (0x09 ≤ n && n ≤ 0x0D) || n == 0x20 || n == 0x85 || n == 0xA0 || n == 0x1680 ||
    (0x2000 ≤ n && n ≤ 0x200A) || n == 0x2028 || n == 0x2029 || n == 0x202F ||
    n == 0x205F || n == 0x3000

/-- Control characters: general category Cc. -/
def isControl (c : Char) : Bool :=
  c.toNat < 0x20 || (0x7F ≤ c.toNat && c.toNat ≤ 0x9F)

def lowerChar (c : Char) : Char :=
  if 'A' ≤ c && c ≤ 'Z' then Char.ofNat (c.toNat + 32) else c

/-- ASCII letters in lower case; every other character stays. -/
def lowerAscii (text : String) : String :=
  String.ofList (text.toList.map lowerChar)

def trimChars (cs : List Char) : List Char :=
  ((cs.dropWhile isBlank).reverse.dropWhile isBlank).reverse

/-- The text without blank characters at its ends. -/
def trim (text : String) : String :=
  String.ofList (trimChars text.toList)

/-- Holds no character but blank ones. -/
def allBlank (text : String) : Bool :=
  text.toList.all isBlank

/-- ASCII letters compare without regard to case. -/
def sameAscii (a b : String) : Bool :=
  lowerAscii a == lowerAscii b

end MessageContract.Text
