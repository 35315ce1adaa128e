import MessageContract.Text.Category

/-!
Text quoted for a reader of messages: quotes, backslashes and line breaks are
escaped, and so is every character that does not print or that would combine
with the one before it.
-/

namespace MessageContract.Text

/-- Code points outside Mn and Me that extend the grapheme before them. -/
def otherExtenders : List (Nat × Nat) :=
  [(0x9BE, 0x9BE), (0x9D7, 0x9D7), (0xB3E, 0xB3E), (0xB57, 0xB57), (0xBBE, 0xBBE),
    (0xBD7, 0xBD7), (0xCC2, 0xCC2), (0xCD5, 0xCD6), (0xD3E, 0xD3E), (0xD57, 0xD57),
    (0xDCF, 0xDCF), (0xDDF, 0xDDF), (0x1B35, 0x1B35), (0x200C, 0x200C), (0x302E, 0x302F),
    (0xFF9E, 0xFF9F), (0x1133E, 0x1133E), (0x11357, 0x11357), (0x114B0, 0x114B0),
    (0x114BD, 0x114BD), (0x115AF, 0x115AF), (0x11930, 0x11930), (0x1D165, 0x1D165),
    (0x1D16E, 0x1D172), (0xE0020, 0xE007F)]

def extendsGrapheme (c : Char) : Bool :=
  match category c with
  | .mn | .me => true
  | _ => otherExtenders.any fun (low, high) => low ≤ c.toNat && c.toNat ≤ high

/-- Characters with a shape of their own, and the space. -/
def isPrintable (c : Char) : Bool :=
  c == ' ' ||
    match category c with
    | .cc | .cf | .cs | .co | .cn | .zl | .zp | .zs => false
    | _ => true

def hexDigits (n : Nat) : List Char :=
  Nat.toDigits 16 n

def debugChar (c : Char) : List Char :=
  if c == '\x00' then ['\\', '0']
  else if c == '\t' then ['\\', 't']
  else if c == '\r' then ['\\', 'r']
  else if c == '\n' then ['\\', 'n']
  else if c == '"' then ['\\', '"']
  else if c == '\\' then ['\\', '\\']
  else if extendsGrapheme c || !isPrintable c then
    ['\\', 'u', '\x7b'] ++ hexDigits c.toNat ++ ['\x7d']
  else [c]

/-- The text between quotes, with escapes. -/
def debugQuoted (text : String) : String :=
  String.ofList ('"' :: text.toList.flatMap debugChar ++ ['"'])

end MessageContract.Text
