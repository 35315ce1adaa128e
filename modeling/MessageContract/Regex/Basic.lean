import MessageContract.Regex.CharClass

/-!
Regular expressions with assertions, in a normal form: a sequence has no empty
part, no sequence as a part and no two literals side by side; a choice has no
choice as an alternative. The functions that put expressions together keep to
that form. What an expression matches does not depend on the form, but the size
of its automaton does.
-/

namespace MessageContract

/-- A condition on a place in the text. -/
inductive Assertion where
  | textStart
  | textEnd
  | lineStart (crlf : Bool)
  | lineEnd (crlf : Bool)
  | wordBoundary (ascii : Bool)
  | noWordBoundary (ascii : Bool)
  | wordStart (ascii : Bool)
  | wordEnd (ascii : Bool)
  | wordStartHalf (ascii : Bool)
  | wordEndHalf (ascii : Bool)
deriving DecidableEq, Repr

inductive Regex where
  | empty
  | literal (text : List Char)
  | oneOf (s : Text.CharSet)
  | assertion (a : Assertion)
  /-- A group that can be told from all others by its number. -/
  | group (number : Nat) (body : Regex)
  /-- As many times as the least, and no more than the greatest number, if any. -/
  | repeated (body : Regex) (least : Nat) (greatest : Option Nat) (lazy : Bool)
  /-- A first part, and the parts after it. -/
  | cat (first rest : Regex)
  /-- A first alternative, and the alternatives after it. -/
  | alt (first rest : Regex)
deriving DecidableEq, Repr

namespace Regex

open Text (CharSet)

/-- Cannot match any text but the empty one. An expression that matches no text
at all does not count. -/
def matchesOnlyEmpty : Regex → Bool
  | .empty => true
  | .literal text => text.isEmpty
  | .oneOf _ => false
  | .assertion _ => true
  | .group _ r => r.matchesOnlyEmpty
  | .repeated r _ greatest _ => greatest.isSome && r.matchesOnlyEmpty
  | .cat r s => r.matchesOnlyEmpty && s.matchesOnlyEmpty
  | .alt r s => r.matchesOnlyEmpty && s.matchesOnlyEmpty

/-- The least number of characters that a match takes, if no part of the
expression is without any match. -/
def leastLength? : Regex → Option Nat
  | .empty => some 0
  | .literal text => some text.length
  | .oneOf s => if s.isEmpty then none else some 1
  | .assertion _ => some 0
  | .group _ r => r.leastLength?
  | .repeated r least _ _ => r.leastLength?.map (least * ·)
  | .cat r s => do return (← r.leastLength?) + (← s.leastLength?)
  | .alt r s => do return min (← r.leastLength?) (← s.leastLength?)

/-- Every match begins at the start of the text. -/
def startsText : Regex → Bool
  | .assertion a => a == .textStart
  | .group _ r => r.startsText
  | .repeated r least _ _ => 0 < least && r.startsText
  | .cat r s => r.startsText || (r.matchesOnlyEmpty && s.startsText)
  | .alt r s => r.startsText && s.startsText
  | _ => false

/-- Every match ends at the end of the text. -/
def endsText : Regex → Bool
  | .assertion a => a == .textEnd
  | .group _ r => r.endsText
  | .repeated r least _ _ => 0 < least && r.endsText
  | .cat r s => s.endsText || (s.matchesOnlyEmpty && r.endsText)
  | .alt r s => r.endsText && s.endsText
  | _ => false

/-- One character of a set. -/
def ofSet (s : CharSet) : Regex :=
  match s.only? with
  | some c => .literal [c]
  | none => .oneOf s

/-- Repeats an expression. What matches only the empty text is not repeated. -/
def times (r : Regex) (least : Nat) (greatest : Option Nat) (lazy : Bool) : Regex :=
  let (least, greatest) :=
    if r.matchesOnlyEmpty then (min least 1, some (min 1 (greatest.getD 1)))
    else (least, greatest)
  if greatest == some 0 then .empty
  else if least == 1 && greatest == some 1 then r
  else .repeated r least greatest lazy

/-- The parts of a sequence. -/
def parts : Regex → List Regex
  | .empty => []
  | .cat r s => r :: s.parts
  | r => [r]

/-- The sequence of parts that are in normal form. -/
def ofParts : List Regex → Regex
  | [] => .empty
  | [r] => r
  | r :: rest => .cat r (ofParts rest)

/-- Joins the literals that stand side by side. -/
def joinLiterals (rs : List Regex) : List Regex :=
  rs.foldr
    (fun r rest => match r, rest with
      | .literal a, .literal b :: rest => .literal (a ++ b) :: rest
      | r, rest => r :: rest)
    []

/-- One expression after the other. -/
def sequence (rs : List Regex) : Regex :=
  ofParts (joinLiterals (rs.flatMap parts))

/-- The alternatives of a choice. -/
def alternatives : Regex → List Regex
  | .alt r s => r :: s.alternatives
  | r => [r]

/-- The choice between alternatives that are in normal form. -/
def ofAlternatives : List Regex → Regex
  | [] => .oneOf .empty
  | [r] => r
  | r :: rest => .alt r (ofAlternatives rest)

def asChar? : Regex → Option Char
  | .literal [c] => some c
  | _ => none

def asSet? : Regex → Option CharSet
  | .oneOf s => some s
  | _ => none

def isCat : Regex → Bool
  | .cat _ _ => true
  | _ => false

/-- The set of which alternatives match one character, if they are all single
characters or all sets. -/
def commonSet? (rs : List Regex) : Option CharSet :=
  match rs.mapM asChar? with
  | some cs => some (CharClass.ofBounds (cs.map fun c => (c, c)))
  | none => (rs.mapM asSet?).map fun sets => .ofRanges (sets.flatMap (·.ranges))

def commonPrefix : List Regex → List Regex → List Regex
  | r :: rs, s :: ss => if r == s then r :: commonPrefix rs ss else []
  | _, _ => []

/-- The parts with which all of the expressions start, if each is a sequence. -/
def sharedStart : List Regex → List Regex
  | [] => []
  | r :: rs =>
      if (r :: rs).all isCat then rs.foldl (fun start s => commonPrefix start s.parts) r.parts
      else []

/-- The choice between expressions that do not start alike. -/
def choiceOfStarts (rs : List Regex) : Regex :=
  let rs := rs.flatMap alternatives
  if rs.length < 2 then ofAlternatives rs
  else
    match commonSet? rs with
    | some s => ofSet s
    | none => ofAlternatives rs

/-- The choice between expressions. What all of them start with comes before it. -/
def choice (rs : List Regex) : Regex :=
  let flat := rs.flatMap alternatives
  match if flat.length < 2 then [] else sharedStart flat with
  | [] => choiceOfStarts flat
  | start =>
      let rests := flat.map fun r => sequence (r.parts.drop start.length)
      sequence (start ++ [choiceOfStarts rests])

end Regex

end MessageContract
