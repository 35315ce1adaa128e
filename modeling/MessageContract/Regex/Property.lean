import MessageContract.Text.Age
import MessageContract.Text.Script
import MessageContract.Text.Segmentation

/-!
The names that a pattern may give to properties of characters and to their
values, and the sets that they stand for.
-/

namespace MessageContract.Regex.Property

open Text (CharSet)

/-- Names compare without case, spaces, hyphens, underscores, characters beyond
ASCII and an `is` with which they start. That one name is `isc` still counts. -/
def normalName (name : List Char) : String :=
  let starts := (name.take 2).map Text.lowerChar == ['i', 's']
  let bare := if starts then name.drop 2 else name
  let kept := bare.filter fun c => c != ' ' && c != '-' && c != '_' && c.toNat < 0x80
  let lower := kept.map Text.lowerChar
  String.ofList (if starts && lower == ['c'] then ['i', 's', 'c'] else lower)

/-- The categories that a name stands for. -/
def categories? (name : String) : Option (List Text.Category) :=
  match name with
  | "lu" | "uppercaseletter" => some [.lu]
  | "ll" | "lowercaseletter" => some [.ll]
  | "lt" | "titlecaseletter" => some [.lt]
  | "lc" | "casedletter" => some [.lu, .ll, .lt]
  | "lm" | "modifierletter" => some [.lm]
  | "lo" | "otherletter" => some [.lo]
  | "l" | "letter" => some [.lu, .ll, .lt, .lm, .lo]
  | "mn" | "nonspacingmark" => some [.mn]
  | "mc" | "spacingmark" => some [.mc]
  | "me" | "enclosingmark" => some [.me]
  | "m" | "mark" | "combiningmark" => some [.mn, .mc, .me]
  | "nd" | "decimalnumber" | "digit" => some [.nd]
  | "nl" | "letternumber" => some [.nl]
  | "no" | "othernumber" => some [.no]
  | "n" | "number" => some [.nd, .nl, .no]
  | "pc" | "connectorpunctuation" => some [.pc]
  | "pd" | "dashpunctuation" => some [.pd]
  | "ps" | "openpunctuation" => some [.ps]
  | "pe" | "closepunctuation" => some [.pe]
  | "pi" | "initialpunctuation" => some [.pi]
  | "pf" | "finalpunctuation" => some [.pf]
  | "po" | "otherpunctuation" => some [.po]
  | "p" | "punctuation" | "punct" => some [.pc, .pd, .ps, .pe, .pi, .pf, .po]
  | "sm" | "mathsymbol" => some [.sm]
  | "sc" | "currencysymbol" => some [.sc]
  | "sk" | "modifiersymbol" => some [.sk]
  | "so" | "othersymbol" => some [.so]
  | "s" | "symbol" => some [.sm, .sc, .sk, .so]
  | "zs" | "spaceseparator" => some [.zs]
  | "zl" | "lineseparator" => some [.zl]
  | "zp" | "paragraphseparator" => some [.zp]
  | "z" | "separator" => some [.zs, .zl, .zp]
  | "cc" | "control" | "cntrl" => some [.cc]
  | "cf" | "format" => some [.cf]
  | "co" | "privateuse" => some [.co]
  | "cn" | "unassigned" => some [.cn]
  | "c" | "other" => some [.cc, .cf, .cs, .co, .cn]
  | _ => none

def category? (name : String) : Option CharSet :=
  match name with
  | "any" => some .all
  | "ascii" => some (.ofText "0-7F")
  | "assigned" => (categories? "cn").map fun c => (CharSet.ofCategories c).complement
  | _ => (categories? name).map .ofCategories

/-- The code of the script that a name stands for. -/
def script? (name : String) : Option String :=
  let byName := Text.scripts.find? fun (code, long) =>
    normalName code.toList == name || normalName long.toList == name
  let byAlias := Text.scriptAliases.find? fun (other, _) => normalName other.toList == name
  (byName.map Prod.fst).or (byAlias.map Prod.snd)

/-- The set that a property name stands for. -/
def ofName? (name : List Char) : Option CharSet :=
  let n := normalName name
  ((Text.setNamed? Text.namedProperties n).or (category? n)).or
    ((script? n).map .ofScript)

/-- The set that a property and its value stand for. -/
def ofValue? (property value : List Char) : Option CharSet :=
  let v := normalName value
  match normalName property with
  | "generalcategory" | "gc" => category? v
  | "script" | "sc" => (script? v).map .ofScript
  | "scriptextensions" | "scx" => (script? v).map .ofScriptExtension
  | "age" => CharSet.ofAge? v
  | "graphemeclusterbreak" | "gcb" => Text.setNamed? Text.graphemeBreaks v
  | "sentencebreak" | "sb" => Text.setNamed? Text.sentenceBreaks v
  | "wordbreak" | "wb" => Text.setNamed? Text.wordBreaks v
  | _ => none

end MessageContract.Regex.Property
