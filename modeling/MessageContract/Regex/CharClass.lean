import MessageContract.Text.CaseFolding
import MessageContract.Text.Property

/-!
The sets of characters for which patterns have a notation of their own.
-/

namespace MessageContract.Regex

export Text (CharSet)

namespace CharClass

open Text (CharSet)

def ofBounds (bounds : List (Char × Char)) : CharSet :=
  .ofRanges (bounds.map fun (low, high) => (low.toNat, high.toNat))

def anyExcept (cs : List Char) : CharSet :=
  (ofBounds (cs.map fun c => (c, c))).complement

def asciiDigit : CharSet :=
  ofBounds [('0', '9')]

def asciiSpace : CharSet :=
  ofBounds [('\t', '\r'), (' ', ' ')]

def asciiWord : CharSet :=
  ofBounds [('0', '9'), ('A', 'Z'), ('_', '_'), ('a', 'z')]

def digit : CharSet :=
  .ofCategories [.nd]

def space : CharSet :=
  .ofText "9-D 20 85 A0 1680 2000-200A 2028-2029 202F 205F 3000"

/-- The classes that brackets name, as in `[:alpha:]`; they are ASCII. -/
def named? (name : String) : Option CharSet :=
  match name with
  | "alnum" => some (ofBounds [('0', '9'), ('A', 'Z'), ('a', 'z')])
  | "alpha" => some (ofBounds [('A', 'Z'), ('a', 'z')])
  | "ascii" => some (ofBounds [('\x00', '\x7f')])
  | "blank" => some (ofBounds [('\t', '\t'), (' ', ' ')])
  | "cntrl" => some (ofBounds [('\x00', '\x1f'), ('\x7f', '\x7f')])
  | "digit" => some asciiDigit
  | "graph" => some (ofBounds [('!', '~')])
  | "lower" => some (ofBounds [('a', 'z')])
  | "print" => some (ofBounds [(' ', '~')])
  | "punct" => some (ofBounds [('!', '/'), (':', '@'), ('[', '\x60'), ('\x7b', '~')])
  | "space" => some asciiSpace
  | "upper" => some (ofBounds [('A', 'Z')])
  | "word" => some asciiWord
  | "xdigit" => some (ofBounds [('0', '9'), ('A', 'F'), ('a', 'f')])
  | _ => none

end CharClass

end MessageContract.Regex
