import MessageContract.Regex.Basic

/-!
Whether an expression matches somewhere in a text. The search follows every
expression that may still be left to match after the characters read so far. One
step takes the partial derivatives of each of them by the next character;
assertions are decided by the two characters around the place where they stand.
-/

namespace MessageContract.Regex

/-- A place in a text: the characters before and after it. -/
structure Place where
  before : Option Char
  after : Option Char

def isWordAt (ascii : Bool) : Option Char → Bool
  | none => false
  | some c => if ascii then CharClass.asciiWord.contains c else Text.isWordChar c

/-- Whether the condition is met. A line break of two characters has no line's
start or end within it. -/
def Place.meets (p : Place) : Assertion → Bool
  | .textStart => p.before.isNone
  | .textEnd => p.after.isNone
  | .lineStart crlf =>
      p.before.isNone || p.before == some '\n' ||
        (crlf && p.before == some '\r' && p.after != some '\n')
  | .lineEnd crlf =>
      p.after.isNone || (crlf && p.after == some '\r') ||
        (p.after == some '\n' && !(crlf && p.before == some '\r'))
  | .wordBoundary ascii => isWordAt ascii p.before != isWordAt ascii p.after
  | .noWordBoundary ascii => isWordAt ascii p.before == isWordAt ascii p.after
  | .wordStart ascii => !isWordAt ascii p.before && isWordAt ascii p.after
  | .wordEnd ascii => isWordAt ascii p.before && !isWordAt ascii p.after
  | .wordStartHalf ascii => !isWordAt ascii p.before
  | .wordEndHalf ascii => !isWordAt ascii p.after

/-- Matches the empty text at a place. -/
def nullable (p : Place) : Regex → Bool
  | .empty => true
  | .literal text => text.isEmpty
  | .oneOf _ => false
  | .assertion a => p.meets a
  | .group _ r => nullable p r
  | .repeated r least _ _ => least == 0 || nullable p r
  | .cat r s => nullable p r && nullable p s
  | .alt r s => nullable p r || nullable p s

def andThen (r s : Regex) : Regex :=
  match r with
  | .empty => s
  | r => .cat r s

/-- The expressions of which one has to match the rest after a character at a
place. Iterations that match the empty text there count as done. -/
def partials (p : Place) (c : Char) : Regex → List Regex
  | .empty => []
  | .literal [] => []
  | .literal (d :: rest) =>
      if c != d then [] else if rest.isEmpty then [.empty] else [.literal rest]
  | .oneOf s => if s.contains c then [.empty] else []
  | .assertion _ => []
  | .group _ r => partials p c r
  | .cat r s =>
      let after := (partials p c r).map (·.andThen s)
      if nullable p r then after ++ partials p c s else after
  | .alt r s => partials p c r ++ partials p c s
  | .repeated _ _ (some 0) _ => []
  | .repeated r least greatest lazy =>
      let left := if nullable p r then 0 else least - 1
      (partials p c r).map (·.andThen (.repeated r left (greatest.map (· - 1)) lazy))

/-- Adds the expressions that are not there yet. -/
def addNew (states : List Regex) : List Regex → List Regex
  | [] => states
  | r :: rest => addNew (if states.contains r then states else r :: states) rest

/-- Searches the rest of a text; `states` are the expressions left to match. -/
def searchFrom (start : Regex) : (states : List Regex) → (before : Option Char) →
    List Char → Bool
  | states, before, [] => states.any (nullable ⟨before, none⟩)
  | states, before, c :: rest =>
      let p : Place := ⟨before, some c⟩
      if states.any (nullable p) then true
      else
        searchFrom start (addNew [start] (states.flatMap (partials p c))) (some c) rest

/-- Matches somewhere in the text. -/
def isMatch (r : Regex) (text : String) : Bool :=
  searchFrom r [r] none text.toList

end MessageContract.Regex
