import MessageContract.Text.Table

/-!
Sets of characters as ranges of code points, in order and apart from each other.
The surrogate code points are no characters: a step from one character to the
next leaps over them, and a range that takes them in holds no character more.
-/

namespace MessageContract.Text

structure CharSet where
  ranges : List (Nat × Nat)
deriving Repr

/-- Expressions that are compared mostly hold the very same sets, which then need
no look at their ranges. -/
instance : DecidableEq CharSet := fun a b =>
  withPtrEqDecEq a b fun _ =>
    decidable_of_iff (a.ranges = b.ranges) ⟨fun h => by cases a; cases b; simp_all, (· ▸ rfl)⟩

namespace CharSet

/-- The code point of the character after this one. -/
def after (n : Nat) : Nat :=
  if n == 0xD7FF then 0xE000 else n + 1

/-- The code point of the character before this one. -/
def before (n : Nat) : Nat :=
  if n == 0xE000 then 0xD7FF else n - 1

/-- Joins ranges that overlap or touch, where each starts no earlier than the
one before it. -/
def joinSorted : List (Nat × Nat) → List (Nat × Nat)
  | [] => []
  | [range] => [range]
  | (low, high) :: (low', high') :: rest =>
      if low' ≤ high + 1 then joinSorted ((low, max high high') :: rest)
      else (low, high) :: joinSorted ((low', high') :: rest)
termination_by ranges => ranges.length

def ofRanges (ranges : List (Nat × Nat)) : CharSet :=
  ⟨joinSorted (ranges.mergeSort fun a b => a.1 ≤ b.1)⟩

/-- The set that a table of ranges describes. -/
def ofText (text : String) : CharSet :=
  ofRanges (rangesOf text)

def empty : CharSet := ⟨[]⟩

def all : CharSet := ⟨[(0, lastCodePoint)]⟩

def char (c : Char) : CharSet := ⟨[(c.toNat, c.toNat)]⟩

def contains (s : CharSet) (c : Char) : Bool :=
  inRanges s.ranges c.toNat

def isEmpty (s : CharSet) : Bool :=
  s.ranges.isEmpty

/-- The only character of a set with one. -/
def only? (s : CharSet) : Option Char :=
  match s.ranges with
  | [(low, high)] => if low == high then some (Char.ofNat low) else none
  | _ => none

def isAscii (s : CharSet) : Bool :=
  s.ranges.all fun (_, high) => high < 0x80

def union (a b : CharSet) : CharSet :=
  ofRanges (a.ranges ++ b.ranges)

def interRanges : List (Nat × Nat) → List (Nat × Nat) → List (Nat × Nat)
  | [], _ => []
  | _, [] => []
  | (low, high) :: rest, (low', high') :: rest' =>
      let later :=
        if high < high' then interRanges rest ((low', high') :: rest')
        else interRanges ((low, high) :: rest) rest'
      if max low low' ≤ min high high' then (max low low', min high high') :: later else later
termination_by a b => a.length + b.length

def inter (a b : CharSet) : CharSet :=
  ⟨interRanges a.ranges b.ranges⟩

def diffRanges : List (Nat × Nat) → List (Nat × Nat) → List (Nat × Nat)
  | [], _ => []
  | ranges, [] => ranges
  | (low, high) :: rest, (low', high') :: rest' =>
      if high' < low then diffRanges ((low, high) :: rest) rest'
      else if high < low' then (low, high) :: diffRanges rest ((low', high') :: rest')
      else
        let kept := if low < low' then [(low, before low')] else []
        if high' < high then kept ++ diffRanges ((after high', high) :: rest) rest'
        else kept ++ diffRanges rest ((low', high') :: rest')
termination_by a b => a.length + b.length

def diff (a b : CharSet) : CharSet :=
  ⟨diffRanges a.ranges b.ranges⟩

def symmDiff (a b : CharSet) : CharSet :=
  (a.union b).diff (a.inter b)

/-- What lies between ranges and after the last one. Where two ranges have only
surrogates between them, the gap from the first to the second closes: it is then
the range from the end of the one to the start of the other. -/
def gaps : List (Nat × Nat) → List (Nat × Nat)
  | [] => []
  | [(_, high)] => if high < lastCodePoint then [(after high, lastCodePoint)] else []
  | (_, high) :: (low, high') :: rest =>
      (min (after high) (before low), max (after high) (before low)) ::
        gaps ((low, high') :: rest)

def complement (s : CharSet) : CharSet :=
  match s.ranges with
  | [] => all
  | (low, high) :: rest =>
      ⟨(if 0 < low then [(0, before low)] else []) ++ gaps ((low, high) :: rest)⟩

end CharSet

end MessageContract.Text
