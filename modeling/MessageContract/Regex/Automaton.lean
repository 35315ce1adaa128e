import Std.Data.HashMap
import MessageContract.Regex.Basic
import MessageContract.Text.Utf8Range

/-!
How large the automaton of an expression is. The automaton reads the bytes of a
text, forward or backward, in small steps: it has a state for each byte of a
literal, a tree of states for each set of characters, and as many copies of a
repeated expression as the counts ask for. An expression with nested counts is
short to write and may yet need more states than memory should hold, so building
stops at a limit. Only what the limit depends on is built: the number of states
and the bytes that they take.
-/

namespace MessageContract.Regex

/-- What has been built so far. -/
structure Tally where
  states : Nat := 0
  bytes : Nat := 0

abbrev Sizing (α : Type) := StateT Tally Option α

namespace Automaton

open Text (CharSet)

inductive Direction where
  | forward
  | backward
deriving DecidableEq

/-- The greatest number of bytes for the states of an automaton. -/
def limit : Nat := 10 * 1024 * 1024

/-- The bytes of a state by itself. -/
def stateSize : Nat := 32

/-- The bytes of one of several arcs that leave a state for ranges of bytes. -/
def arcSize : Nat := 8

/-- The bytes of one of the states to which a branching state leads. -/
def branchSize : Nat := 4

def charge (states bytes : Nat) : Sizing Unit := fun tally =>
  if tally.bytes + bytes ≤ limit then
    some ((), { states := tally.states + states, bytes := tally.bytes + bytes })
  else none

/-- Adds a state, of so many bytes more than the least, and gives its number. -/
def addState (more : Nat) : Sizing Nat := do
  let number := (← get).states
  charge 1 (stateSize + more)
  return number

/-- How a part of the automaton ends. From a plain end one way leads on; to a
branching one each way on is added as a branch. -/
inductive Exit where
  | plain
  | branching

/-- Leads on from the end of a part. -/
def Exit.connect : Exit → Sizing Unit
  | .plain => return ()
  | .branching => charge 0 branchSize

/-! ## Sets of characters -/

/-- The slot of a table where something that is given by numbers is kept. -/
def slot (slots : Nat) (numbers : List Nat) : Nat :=
  let hash := numbers.foldl (fun (h : UInt64) n => (h ^^^ n.toUInt64) * 1099511628211)
    14695981039346656037
  hash.toNat % slots

/-- A table of states that may serve again. Each slot holds what came last. -/
abbrev Table (α : Type) := Std.HashMap Nat (α × Nat)

/-- The number of a state that is in the table, or of a new one. -/
def reuse {α : Type} [DecidableEq α] (slots : Nat) (numbers : α → List Nat) (more : Nat)
    (table : Table α) (key : α) : Sizing (Table α × Nat) := do
  let place := slot slots (numbers key)
  let known := match table[place]? with
    | some (other, state) => if other = key then some state else none
    | none => none
  match known with
  | some state => return (table, state)
  | none => do
      let state ← addState more
      return (table.insert place (key, state), state)

/-- A way from a state to another one by a range of bytes. -/
structure Arc where
  low : Nat
  high : Nat
  target : Nat
deriving DecidableEq

/-- A state that still gets arcs: those it has, last first, and the range of the
one whose target is not known yet. -/
structure OpenState where
  arcs : List Arc
  pending : Option (Nat × Nat)

def OpenState.arcsTo (s : OpenState) (target : Nat) : List Arc :=
  match s.pending with
  | none => s.arcs
  | some (low, high) => { low, high, target } :: s.arcs

/-- The states on the way to the end of the last sequence, the innermost first,
and the table of those that are complete. -/
structure Tree where
  path : List OpenState
  table : Table (List Arc) := {}

def addShared (table : Table (List Arc)) (arcs : List Arc) :
    Sizing (Table (List Arc) × Nat) :=
  reuse 10000 (·.flatMap fun arc => [arc.low, arc.high, arc.target])
    (arcSize * arcs.length) table arcs

/-- Completes so many of the innermost states and leads the next one to them. -/
def closePath (table : Table (List Arc)) : Nat → (target : Nat) → List OpenState → Sizing Tree
  | _, _, [] => return { path := [], table }
  | 0, target, s :: path =>
      return { path := { arcs := s.arcsTo target, pending := none } :: path, table }
  | count + 1, target, s :: path => do
      let (table, target) ← addShared table (s.arcsTo target).reverse
      closePath table count target path

/-- How many ranges of a sequence the path shares from its start on. -/
def sharedLength : List (Nat × Nat) → List OpenState → Nat
  | range :: ranges, s :: path =>
      if s.pending == some range then sharedLength ranges path + 1 else 0
  | _, _ => 0

/-- Adds a sequence, which comes after all others in order. -/
def Tree.add (target : Nat) (tree : Tree) (ranges : List (Nat × Nat)) : Sizing Tree := do
  let kept := sharedLength ranges tree.path.reverse
  let tree ← closePath tree.table (tree.path.length - (kept + 1)) target tree.path
  match tree.path, ranges.drop kept with
  | s :: path, range :: rest =>
      let path := { s with pending := some range } :: path
      return { tree with
        path := rest.foldl (fun path range => { arcs := [], pending := some range } :: path)
          path }
  | _, _ => return tree

/-- The tree of the byte sequences of a set, where equal states are shared. -/
def addTree (sequences : List (List (Nat × Nat))) : Sizing Unit := do
  let target ← addState 0
  let tree ← sequences.foldlM (Tree.add target) { path := [{ arcs := [], pending := none }] }
  let tree ← closePath tree.table (tree.path.length - 1) target tree.path
  match tree.path with
  | [root] => do
      let _ ← addShared tree.table root.arcs.reverse
  | _ => return ()

/-- The byte sequences of a set, each read from its end. Ends are shared. -/
def addChains (sequences : List (List (Nat × Nat))) : Sizing Unit := do
  let _ ← addState 0
  let target ← addState 0
  let addRange (table : Table (Nat × Nat × Nat) × Nat) (range : Nat × Nat) :=
    reuse 1000 (fun (state, low, high) => [state, low, high]) 0 table.1
      (table.2, range.1, range.2)
  let addChain (table : Table (Nat × Nat × Nat)) (ranges : List (Nat × Nat)) :
      Sizing (Table (Nat × Nat × Nat)) := do
    let (table, _) ← ranges.foldlM addRange (table, target)
    charge 0 branchSize
    return table
  let _ ← sequences.foldlM addChain {}

def addSet (direction : Direction) (s : CharSet) : Sizing Unit := do
  if s.isAscii then
    let _ ← addState 0
    let _ ← addState (arcSize * s.ranges.length)
  else
    let sequences := s.ranges.flatMap Utf8.rangeSequences
    if direction = .forward then addTree sequences else addChains sequences

/-! ## Choices between literals -/

/-- Adds a word under its first byte. -/
def addUnder (byte : UInt8) (word : List UInt8) :
    List (UInt8 × List (List UInt8)) → List (UInt8 × List (List UInt8))
  | [] => [(byte, [word])]
  | (other, words) :: rest =>
      if other == byte then (other, word :: words) :: rest
      else (other, words) :: addUnder byte word rest

/-- The words between those that are empty, by their first bytes, and how many
empty ones there are. Empty words before all others count as one. -/
structure Stretches where
  closed : List (List (UInt8 × List (List UInt8))) := []
  current : List (UInt8 × List (List UInt8)) := []
  ends : Nat := 0

def Stretches.add (s : Stretches) (word : List UInt8) : Stretches :=
  match word with
  | byte :: rest => { s with current := addUnder byte rest s.current }
  | [] =>
      if s.closed.all (·.isEmpty) && s.current.isEmpty && 0 < s.ends then s
      else { closed := s.current :: s.closed, current := [], ends := s.ends + 1 }

/-- Adds the states that tell words apart from their first bytes on; `depth`
is no less than the length of the longest word. A word that ends while others go
on keeps apart what came before it and after it. -/
def addWords : (depth : Nat) → List (List UInt8) → Sizing Unit
  | 0, _ => return ()
  | depth + 1, words => do
      let s := words.foldl Stretches.add {}
      let stretches := (s.current :: s.closed).filter (!·.isEmpty)
      stretches.forM fun stretch => do
        stretch.forM fun (_, rests) =>
          if rests.all (·.isEmpty) then return () else addWords depth rests.reverse
        let _ ← addState (if stretch.length == 1 then 0 else arcSize * stretch.length)
      let _ ← addState (branchSize * (stretches.length + s.ends))

/-- The bytes of a literal. -/
def asBytes? : Regex → Option (List UInt8)
  | .literal text => some (Utf8.encodeChars text)
  | _ => none

/-- The words of a choice between literals. -/
def words? (r : Regex) : Option (List (List UInt8)) :=
  r.alternatives.mapM asBytes?

def addChoiceOfWords (direction : Direction) (words : List (List UInt8)) : Sizing Unit := do
  let words := if direction = .forward then words else words.map (·.reverse)
  let _ ← addState 0
  addWords (words.foldl (fun longest word => max longest word.length) 0) words

/-! ## Expressions -/

/-- So many copies of a part, one after the other. -/
def copies (part : Sizing Exit) : Nat → Sizing Exit
  | 0, tally => (addState 0).map (fun _ => Exit.plain) tally
  | 1, tally => part tally
  | count + 2, tally =>
      match part tally with
      | none => none
      | some (exit, tally) =>
          match exit.connect tally with
          | none => none
          | some (_, tally) => copies part (count + 1) tally

/-- So many copies of a part, after each of which the rest may be left out. -/
def optionalCopies (part : Sizing Exit) : Nat → (before : Exit) → Sizing Exit
  | 0, before, tally => some (before, tally)
  | count + 1, before, tally =>
      match (do before.connect; let _ ← addState (2 * branchSize); part : Sizing Exit) tally with
      | none => none
      | some (exit, tally) => optionalCopies part count exit tally

/-- A part that is repeated. -/
def repetition (part : Sizing Exit) (isNonempty : Bool) (least : Nat) :
    (greatest : Option Nat) → Sizing Exit
  | some greatest => do
      if least == greatest then copies part least
      else if least == 0 && greatest == 1 then
        let _ ← addState (2 * branchSize)
        (← part).connect
        let _ ← addState 0
        return .plain
      else
        let before ← copies part least
        let _ ← addState 0
        (← optionalCopies part (greatest - least) before).connect
        return .plain
  | none => do
      match least with
      | 0 =>
          if isNonempty then
            let _ ← addState branchSize
            (← part).connect
            return .branching
          else
            (← part).connect
            let _ ← addState (2 * branchSize)
            let _ ← addState (2 * branchSize)
            let _ ← addState 0
            return .plain
      | 1 =>
          (← part).connect
          let _ ← addState branchSize
          return .branching
      | least + 2 =>
          (← copies part (least + 1)).connect
          (← part).connect
          let _ ← addState branchSize
          return .branching

/-- Where a part stands: by itself, or as the second or a later one of the
alternatives of a choice. -/
inductive Position where
  | alone
  | second (first : Exit)
  | later

/-- Joins a part with the alternatives before it. -/
def Position.join (exit : Exit) : Position → Sizing Exit
  | .alone => return exit
  | .second first => do
      let _ ← addState (2 * branchSize)
      let _ ← addState 0
      first.connect
      exit.connect
      return .plain
  | .later => do
      charge 0 branchSize
      exit.connect
      return .plain

/-- The part for an expression. -/
def part (direction : Direction) : Regex → Position → Sizing Exit
  | .empty, p => do
      let _ ← addState 0
      p.join .plain
  | .literal text, p => do
      let bytes := (Utf8.encodeChars text).length
      charge bytes (stateSize * bytes)
      p.join .plain
  | .oneOf s, p => do
      addSet direction s
      p.join .plain
  | .assertion _, p => do
      let _ ← addState 0
      p.join .plain
  | .group _ r, p => do
      if direction = .forward then
        let _ ← addState 0
        (← part direction r .alone).connect
        let _ ← addState 0
        p.join .plain
      else p.join (← part direction r .alone)
  | .repeated r least greatest _, p => do
      let isNonempty := r.leastLength?.any (0 < ·)
      p.join (← repetition (part direction r .alone) isNonempty least greatest)
  | .cat r s, p => do
      if direction = .forward then
        (← part direction r .alone).connect
        p.join (← part direction s .alone)
      else
        (← part direction s .alone).connect
        p.join (← part direction r .alone)
  | .alt r s, .alone => do
      match words? (.alt r s) with
      | some words =>
          addChoiceOfWords direction words
          return .plain
      | none =>
          let first ← part direction r .alone
          part direction s (.second first)
  | .alt r s, p => do
      let _ ← p.join (← part direction r .alone)
      part direction s .later

/-- The whole automaton, which may start to match anywhere unless the expression
says where a match begins. -/
def whole (direction : Direction) (r : Regex) : Sizing Unit := do
  let anchored := if direction = .forward then r.startsText else r.endsText
  if anchored then
    let _ ← addState 0
  else
    let _ ← addState (2 * branchSize)
    let _ ← addState 0
    let _ ← addState arcSize
  (← part direction (.group 0 r) .alone).connect
  let _ ← addState 0

end Automaton

/-- A choice between so many words that they are searched for as such. -/
def isWordList (r : Regex) : Bool :=
  match Automaton.words? r with
  | some words => 3000 ≤ words.length
  | none => false

/-- The expression needs no automaton or one that is not too large, in both
directions. -/
def fits (r : Regex) : Bool :=
  r.isWordList ||
    ((Automaton.whole .forward r).run {}).isSome && ((Automaton.whole .backward r).run {}).isSome

end MessageContract.Regex
