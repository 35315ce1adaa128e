import MessageContract.Regex.Basic
import MessageContract.Regex.Property

/-!
Reading regular expressions. The grammar has groups, which may be named or set
flags, classes in brackets with set operations, counted repetition, assertions,
and the shorthand and Unicode classes; it has neither look-around nor references to
groups. A pattern that breaks a rule is no pattern, and nothing more is said
about it.
-/

namespace MessageContract.Regex

open Text (CharSet)

/-- The flags in force at a place of the pattern. -/
structure Flags where
  caseless : Bool := false
  multiline : Bool := false
  dotAll : Bool := false
  ascii : Bool := false
  crlf : Bool := false
  verbose : Bool := false
  swapGreed : Bool := false
deriving Repr

/-- What is left of the pattern, the flags, the group names used so far, and how
many groups there are. -/
structure ReaderState where
  rest : List Char
  flags : Flags := {}
  names : List String := []
  groups : Nat := 0

abbrev PatternReader (α : Type) := StateT ReaderState Option α

/-- An element of a sequence. A change of flags is one without an expression,
and cannot be repeated; `depth` counts the constructs nested in it. -/
structure Element where
  regex : Option Regex
  depth : Nat

namespace PatternReader

variable {α : Type}

def invalid : PatternReader α := fun _ => none

def rest : PatternReader (List Char) := do
  return (← get).rest

def peek : PatternReader (Option Char) := do
  return (← rest).head?

def drop (count : Nat) : PatternReader Unit :=
  modify fun s => { s with rest := s.rest.drop count }

/-- The character that comes next, which is taken. -/
def next : PatternReader Char := do
  match ← rest with
  | [] => invalid
  | c :: _ =>
      drop 1
      return c

/-- Takes the given characters if they come next. -/
def take? (expected : List Char) : PatternReader Bool := do
  if expected.isPrefixOf (← rest) then
    drop expected.length
    return true
  else return false

def flags : PatternReader Flags := do
  return (← get).flags

/-- Drops blanks and comments. -/
def afterSpace : Nat → List Char → List Char
  | 0, cs => cs
  | _, [] => []
  | fuel + 1, c :: cs =>
      if Text.isBlank c then afterSpace fuel cs
      else if c == '#' then afterSpace fuel ((cs.dropWhile (· != '\n')).drop 1)
      else c :: cs

/-- Passes blanks and comments, where the flags say that they mean nothing. -/
def skipSpace : PatternReader Unit := do
  if (← flags).verbose then
    modify fun s => { s with rest := afterSpace (s.rest.length + 1) s.rest }

/-- Takes one character and then blanks and comments. -/
def advance : PatternReader Unit := do
  drop 1
  skipSpace

/-- Takes characters with blanks between them as long as they satisfy `p`. -/
def takeWhile (p : Char → Bool) : Nat → PatternReader (List Char)
  | 0 => return []
  | fuel + 1 => do
      match ← peek with
      | some c =>
          if p c then
            advance
            return c :: (← takeWhile p fuel)
          else return []
      | none => return []

def fuel : PatternReader Nat := do
  return (← rest).length + 1

def isDigit (c : Char) : Bool :=
  '0' ≤ c && c ≤ '9'

def isHex (c : Char) : Bool :=
  isDigit c || ('a' ≤ c && c ≤ 'f') || ('A' ≤ c && c ≤ 'F')

/-- Reads a repetition count, with blanks around it. -/
def count : PatternReader Nat := do
  modify fun s => { s with rest := s.rest.dropWhile Text.isBlank }
  let digits ← takeWhile isDigit (← fuel)
  let _ ← takeWhile Text.isBlank (← fuel)
  if digits.isEmpty then invalid
  else
    let n := digits.foldl (fun n d => n * 10 + (d.toNat - '0'.toNat)) 0
    if n < UInt32.size then return n else invalid

def charOf (digits : List Char) : PatternReader Char :=
  let n := Text.ofHex digits
  if n.isValidChar then pure (Char.ofNat n) else invalid

/-- Reads exactly so many hexadecimal digits. -/
def hexDigits : Nat → PatternReader (List Char)
  | 0 => return []
  | count + 1 => do
      match ← peek with
      | some c =>
          if isHex c then
            advance
            return c :: (← hexDigits count)
          else invalid
      | none => invalid

/-- Reads an escaped code point, after its letter, in so many digits or braces,
and tells whether it stood in braces. -/
def hexEscape (digits : Nat) : PatternReader (Char × Bool) := do
  skipSpace
  match ← peek with
  | none => invalid
  | some '\x7b' =>
      advance
      let digits ← takeWhile isHex (← fuel)
      if (← peek) != some '\x7d' || digits.isEmpty then invalid
      else
        advance
        return (← charOf digits, true)
  | some _ => return (← charOf (← hexDigits digits), false)

def splitAt? (separator : List Char) : List Char → Option (List Char × List Char)
  | [] => none
  | c :: cs =>
      if separator.isPrefixOf (c :: cs) then some ([], (c :: cs).drop separator.length)
      else (splitAt? separator cs).map fun (a, b) => (c :: a, b)

/-- The set of a property in braces, which may have a value, and whether the
value is one that the characters do not have. -/
def propertySet? (name : List Char) : Option (CharSet × Bool) :=
  match splitAt? ['!', '='] name with
  | some (property, value) => (Property.ofValue? property value).map ((·, true))
  | none =>
      match (splitAt? [':'] name).or (splitAt? ['='] name) with
      | some (property, value) => (Property.ofValue? property value).map ((·, false))
      | none => (Property.ofName? name).map ((·, false))

/-- With the flag for it, a set takes in all case variants. -/
def fold (set : CharSet) : PatternReader CharSet := do
  let f ← flags
  if !f.caseless then return set
  else return if f.ascii then set.asciiCaseless else set.caseless

/-- The complement of a set, which reaches beyond ASCII and is refused where the
flags allow no more. -/
def negateIf (negated : Bool) (set : CharSet) : PatternReader CharSet := do
  if !negated then return set
  else if (← flags).ascii then invalid
  else return set.complement

/-- Reads a Unicode class after its `p` or `P`. -/
def unicodeClass (negated : Bool) : PatternReader CharSet := do
  skipSpace
  let name ← match ← peek with
    | none => invalid
    | some '\x7b' => do
        advance
        let name ← takeWhile (· != '\x7d') (← fuel)
        let _ ← next
        pure name
    | some '\\' => invalid
    | some c => do
        advance
        pure [c]
  if (← flags).ascii then invalid
  else
    match propertySet? name with
    | some (set, otherValue) => negateIf (negated != otherValue) (← fold set)
    | none => invalid

/-- The set of `\d`, `\s` or `\w`, or its complement for a capital letter. -/
def shorthandClass (letter : Char) : PatternReader CharSet := do
  let ascii := (← flags).ascii
  let set := match Text.lowerChar letter with
    | 'd' => if ascii then CharClass.asciiDigit else CharClass.digit
    | 's' => if ascii then CharClass.asciiSpace else CharClass.space
    | _ => if ascii then CharClass.asciiWord else CharSet.word
  negateIf ('A' ≤ letter && letter ≤ 'Z') set

/-- What stands for itself or has one meaning: a character, which may be given
as a byte, a class, or an assertion. -/
inductive Primitive where
  | char (c : Char) (byte : Bool)
  | charClass (set : CharSet)
  | assertion (a : Assertion)
  | dot

def isMeta (c : Char) : Bool :=
  ['\\', '.', '+', '*', '?', '(', ')', '|', '[', ']', '\x7b', '\x7d', '^', '$', '#', '&', '-',
    '~'].contains c

/-- Characters that may be escaped without need. -/
def isEscapable (c : Char) : Bool :=
  isMeta c || (c.toNat < 0x80 && !c.isAlphanum && c != '<' && c != '>')

def isBoundaryName (c : Char) : Bool :=
  c == '-' || ('a' ≤ c && c ≤ 'z') || ('A' ≤ c && c ≤ 'Z')

/-- Reads what may follow `\b`: the name of a kind of boundary in braces. Braces
that hold no name are left for a repetition. -/
def boundaryName? : PatternReader (Option (List Char)) := do
  if (← peek) != some '\x7b' then return none
  else
    let before ← get
    advance
    match ← peek with
    | none => invalid
    | some c =>
        if !isBoundaryName c then
          set before
          return none
        else
          let name ← takeWhile isBoundaryName (← fuel)
          if (← peek) != some '\x7d' then invalid
          else
            drop 1
            return some name

/-- Reads an escape after its backslash. -/
def escape : PatternReader Primitive := do
  let c ← next
  let ascii := (← flags).ascii
  match c with
  | 'x' => do
      let (c, braced) ← hexEscape 2
      return .char c (!braced)
  | 'u' => return .char (← hexEscape 4).1 false
  | 'U' => return .char (← hexEscape 8).1 false
  | 'p' => return .charClass (← unicodeClass false)
  | 'P' => return .charClass (← unicodeClass true)
  | 'd' | 's' | 'w' | 'D' | 'S' | 'W' => return .charClass (← shorthandClass c)
  | 'a' => return .char '\x07' false
  | 'f' => return .char '\x0c' false
  | 't' => return .char '\t' false
  | 'n' => return .char '\n' false
  | 'r' => return .char '\r' false
  | 'v' => return .char '\x0b' false
  | 'A' => return .assertion .textStart
  | 'z' => return .assertion .textEnd
  | 'B' => return .assertion (.noWordBoundary ascii)
  | '<' => return .assertion (.wordStart ascii)
  | '>' => return .assertion (.wordEnd ascii)
  | 'b' => do
      match ← boundaryName? with
      | none => return .assertion (.wordBoundary ascii)
      | some name =>
          match String.ofList name with
          | "start" => return .assertion (.wordStart ascii)
          | "end" => return .assertion (.wordEnd ascii)
          | "start-half" => return .assertion (.wordStartHalf ascii)
          | "end-half" => return .assertion (.wordEndHalf ascii)
          | _ => invalid
  | c => if isEscapable c then return .char c false else invalid

/-- Reads an item of a class: a character or an escape. -/
def classItem : PatternReader Primitive := do
  if ← take? ['\\'] then escape else return .char (← next) false

/-- The character that an item stands for. Where the flags allow only ASCII, it
is an ASCII character. -/
def itemChar : Primitive → PatternReader Char
  | .char c _ => do
      if (← flags).ascii && 0x80 ≤ c.toNat then invalid else return c
  | _ => invalid

/-- The set of an item by itself. -/
def itemSet : Primitive → PatternReader CharSet
  | .charClass set => return set
  | item => return .char (← itemChar item)

/-- The first of the characters that is no blank, where a number sign may be
passed once as well; if there is none, the first of them all. -/
def pastBlanks (cs : List Char) : Option Char :=
  match cs.dropWhile Text.isBlank with
  | '#' :: rest => ((rest.dropWhile Text.isBlank).head?).or cs.head?
  | rest => rest.head?.or cs.head?

/-- The character after the next one, where flags allow it past blanks. -/
def peekSecond : PatternReader (Option Char) := do
  let after := (← rest).drop 1
  return if (← flags).verbose then pastBlanks after else after.head?

/-- Reads an item or a range of a class. -/
def classRange : PatternReader CharSet := do
  let first ← classItem
  skipSpace
  let second ← peekSecond
  match ← peek with
  | none => invalid
  | some '-' =>
      if second == some ']' || second == some '-' then itemSet first
      else
        advance
        if (← peek).isNone then invalid
        else
          let last ← classItem
          let low ← itemChar first
          let high ← itemChar last
          if low ≤ high then return CharClass.ofBounds [(low, high)] else invalid
  | some _ => itemSet first

/-- Takes a class such as `[:alpha:]`, if one comes next. -/
def namedClass? : PatternReader (Option CharSet) := do
  match ← rest with
  | '[' :: ':' :: rest =>
      let (negated, rest) := match rest with
        | '^' :: rest => (true, rest)
        | rest => (false, rest)
      let name := rest.takeWhile (· != ':')
      match rest.drop name.length, CharClass.named? (String.ofList name) with
      | ':' :: ']' :: rest, some set =>
          modify fun s => { s with rest }
          return some (← negateIf negated (← fold set))
      | _, _ => return none
  | _ => return none

inductive SetOperation where
  | inter
  | diff
  | symmDiff

def SetOperation.apply : SetOperation → CharSet → CharSet → CharSet
  | .inter, a, b => .inter a b
  | .diff, a, b => .diff a b
  | .symmDiff, a, b => .symmDiff a b

/-- The items of a class between two operations: what they hold, how many they
are, and how deep classes nest in them. -/
structure Operand where
  ranges : List (Nat × Nat) := []
  items : Nat := 0
  depth : Nat := 0

def Operand.add (o : Operand) (set : CharSet) (depth : Nat) : Operand :=
  { ranges := set.ranges.reverse ++ o.ranges
    items := o.items + 1
    depth := max o.depth depth }

def Operand.set (o : Operand) : CharSet :=
  .ofRanges o.ranges

/-- Several items together are one level of their own. -/
def Operand.fullDepth (o : Operand) : Nat :=
  if o.items < 2 then o.depth else o.depth + 1

/-- What stands before an operation, how deep it is, and the operation. -/
abbrev Pending := Option (CharSet × Nat × SetOperation)

def combine (pending : Pending) (o : Operand) : PatternReader (CharSet × Nat) := do
  match pending with
  | none => return (o.set, o.fullDepth)
  | some (left, depth, operation) =>
      return (operation.apply (← fold left) (← fold o.set), max depth o.fullDepth + 1)

/-- Passes the hyphens at the start of a class, which stand for themselves. -/
def leadingHyphens : Nat → Operand → PatternReader Operand
  | 0, o => return o
  | fuel + 1, o => do
      if (← peek) == some '-' then
        advance
        leadingHyphens fuel (o.add (.char '-') 0)
      else return o

mutual

/-- Reads a class after its opening bracket, and tells how deep classes nest. -/
def bracketClass : Nat → PatternReader (CharSet × Nat)
  | 0 => invalid
  | fuel + 1 => do
      skipSpace
      let negated := (← peek) == some '^'
      if negated then advance
      let hyphens ← leadingHyphens ((← rest).length + 1) {}
      let bracket := hyphens.items == 0 && (← peek) == some ']'
      if bracket then advance
      if (← peek).isNone then invalid
      else
        let opening := if bracket then hyphens.add (.char ']') 0 else hyphens
        let (set, depth) ← classItems fuel none opening
        return (← negateIf negated (← fold set), depth + 1)

/-- Reads the items of a class and its closing bracket. -/
def classItems : Nat → Pending → Operand → PatternReader (CharSet × Nat)
  | 0, _, _ => invalid
  | fuel + 1, pending, o => do
      skipSpace
      let operation (op : SetOperation) : PatternReader (CharSet × Nat) := do
        drop 2
        let (left, depth) ← combine pending o
        classItems fuel (some (left, depth, op)) {}
      match ← rest with
      | [] => invalid
      | '[' :: _ =>
          match ← namedClass? with
          | some named => classItems fuel pending (o.add named 0)
          | none =>
              drop 1
              let (inner, depth) ← bracketClass fuel
              classItems fuel pending (o.add inner depth)
      | ']' :: _ =>
          drop 1
          combine pending o
      | '&' :: '&' :: _ => operation .inter
      | '-' :: '-' :: _ => operation .diff
      | '~' :: '~' :: _ => operation .symmDiff
      | _ => classItems fuel pending (o.add (← classRange) 0)

end

/-- A character by itself. Where the flags allow only ASCII to be matched by
byte, a byte beyond it is refused, and a character beyond it has no variants. -/
def charRegex (c : Char) (byte : Bool) : PatternReader Regex := do
  if (← flags).ascii && 0x80 ≤ c.toNat then
    if byte then invalid else return .literal [c]
  else return .ofSet (← fold (.char c))

def dotSet (f : Flags) : CharSet :=
  if f.dotAll then .all
  else if f.crlf then CharClass.anyExcept ['\r', '\n']
  else CharClass.anyExcept ['\n']

def primitiveRegex : Primitive → PatternReader Regex
  | .char c byte => charRegex c byte
  | .charClass set => return .ofSet set
  | .assertion a => return .assertion a
  | .dot => do
      let f ← flags
      if f.ascii then invalid else return .ofSet (dotSet f)

/-- Reads a character, an escape, a dot or an anchor. -/
def primitive : PatternReader Regex := do
  let f ← flags
  match ← next with
  | '\\' => primitiveRegex (← escape)
  | '.' => primitiveRegex .dot
  | '^' => return .assertion (if f.multiline then .lineStart f.crlf else .textStart)
  | '$' => return .assertion (if f.multiline then .lineEnd f.crlf else .textEnd)
  | c => charRegex c false

/-- Reads the bounds of a repetition after its opening brace. -/
def bounds : PatternReader (Nat × Option Nat) := do
  skipSpace
  let least ← count
  let greatest ←
    if (← peek) == some ',' then do
      advance
      if (← peek) == some '\x7d' then pure none else pure (some (← count))
    else pure (some least)
  if (← peek) != some '\x7d' then invalid
  else
    advance
    match greatest with
    | some g => if least ≤ g then return (least, greatest) else invalid
    | none => return (least, none)

/-- Sets the flag of a letter. -/
def Flags.set? (f : Flags) (letter : Char) (on : Bool) : Option Flags :=
  match letter with
  | 'i' => some { f with caseless := on }
  | 'm' => some { f with multiline := on }
  | 's' => some { f with dotAll := on }
  | 'u' => some { f with ascii := !on }
  | 'R' => some { f with crlf := on }
  | 'x' => some { f with verbose := on }
  | 'U' => some { f with swapGreed := on }
  | _ => none

/-- Reads flags up to a colon or a closing parenthesis, which is left. `seen`
holds the letters so far; each may come once. -/
def flagList : Nat → List Char → Bool → Flags → PatternReader (Flags × Bool)
  | 0, _, _, _ => invalid
  | fuel + 1, seen, on, f => do
      match ← peek with
      | none => invalid
      | some c =>
          if c == ':' || c == ')' then
            if seen.head? == some '-' then invalid else return (f, seen.isEmpty)
          else if seen.contains c then invalid
          else if c == '-' then
            drop 1
            flagList fuel (c :: seen) false f
          else
            match Flags.set? f c on with
            | some f =>
                drop 1
                flagList fuel (c :: seen) on f
            | none => invalid

/-- Reads the name of a group and the angle that closes it. -/
def groupName : PatternReader Unit := do
  let cs ← rest
  let name := cs.takeWhile (· != '>')
  let startOk := match name.head? with
    | some c => c == '_' || Text.isAlphabetic c
    | none => false
  let restOk := (name.drop 1).all fun c =>
    c == '_' || c == '.' || c == '[' || c == ']' || Text.isAlphanumeric c
  let known := (← get).names.contains (String.ofList name)
  if name.length < cs.length && startOk && restOk && !known then
    drop (name.length + 1)
    modify fun s => { s with names := String.ofList name :: s.names }
  else invalid

def isLookAround (cs : List Char) : Bool :=
  [['?', '='], ['?', '!'], ['?', '<', '='], ['?', '<', '!']].any (·.isPrefixOf cs)

/-- What opens with a parenthesis: a change of flags for the rest of the group
around it, or a group, which may have a number. -/
inductive Opening where
  | flagChange
  | group (number : Option Nat)

def numberedGroup : PatternReader Opening := do
  modify fun s => { s with groups := s.groups + 1 }
  return .group (some (← get).groups)

/-- Reads the start of a group after its parenthesis. -/
def opening : PatternReader Opening := do
  skipSpace
  if isLookAround (← rest) then invalid
  else if (← take? ['?', 'P', '<']) || (← take? ['?', '<']) then
    groupName
    numberedGroup
  else if ← take? ['?'] then
    let (f, bare) ← flagList (← fuel) [] true (← flags)
    let closing ← next
    modify fun s => { s with flags := f }
    if closing == ')' then
      if bare then invalid else return .flagChange
    else return .group none
  else numberedGroup

def join (elements : List Element) : Regex :=
  .sequence (elements.filterMap (·.regex))

def deepest (elements : List Element) : Nat :=
  elements.foldl (fun d e => max d e.depth) 0

def compoundDepth (elements : List Element) : Nat :=
  if elements.length < 2 then deepest elements else deepest elements + 1

/-- Constructs may nest this deep. -/
def nestLimit : Nat := 250

def limited (e : Element) : PatternReader Element :=
  if e.depth ≤ nestLimit then pure e else invalid

/-- The last element, repeated. -/
def repeatLast (done : List Element) (least : Nat) (greatest : Option Nat) :
    PatternReader (List Element) := do
  match done with
  | { regex := some r, depth } :: before =>
      let marked ← take? ['?']
      let lazy := marked != (← flags).swapGreed
      return { regex := some (r.times least greatest lazy), depth := depth + 1 } :: before
  | _ => invalid

mutual

/-- Reads alternatives up to the end of the group. -/
def alternatives : Nat → PatternReader Element
  | 0 => invalid
  | fuel + 1 => do
      let (first, rest) ← branches fuel
      if rest.isEmpty then limited first
      else
        limited
          { regex := some (.choice ((first :: rest).filterMap (·.regex)))
            depth := deepest (first :: rest) + 1 }

/-- Reads an alternative and those after it. -/
def branches : Nat → PatternReader (Element × List Element)
  | 0 => invalid
  | fuel + 1 => do
      let elements ← sequence fuel []
      let first : Element := { regex := some (join elements), depth := compoundDepth elements }
      if ← take? ['|'] then
        let (second, rest) ← branches fuel
        return (first, second :: rest)
      else return (first, [])

/-- Reads elements one after the other; `done` holds them, last first. -/
def sequence : Nat → List Element → PatternReader (List Element)
  | 0, _ => invalid
  | fuel + 1, done => do
      skipSpace
      match ← peek with
      | none | some ')' | some '|' => return done.reverse
      | some '(' =>
          drop 1
          let e ← group fuel
          sequence fuel (e :: done)
      | some '[' =>
          drop 1
          let (set, depth) ← bracketClass ((← rest).length + 1)
          sequence fuel ({ regex := some (.ofSet set), depth } :: done)
      | some '?' =>
          drop 1
          sequence fuel (← repeatLast done 0 (some 1))
      | some '*' =>
          drop 1
          sequence fuel (← repeatLast done 0 none)
      | some '+' =>
          drop 1
          sequence fuel (← repeatLast done 1 none)
      | some '\x7b' =>
          drop 1
          match done with
          | { regex := some _, .. } :: _ =>
              let (least, greatest) ← bounds
              sequence fuel (← repeatLast done least greatest)
          | _ => invalid
      | some _ => sequence fuel ({ regex := some (← primitive), depth := 0 } :: done)

/-- Reads a group after its opening parenthesis, or a change of flags. The
flags of a group end with it. -/
def group : Nat → PatternReader Element
  | 0 => invalid
  | fuel + 1 => do
      let outer ← flags
      match ← opening with
      | .flagChange => return { regex := none, depth := 0 }
      | .group number =>
          let body ← alternatives fuel
          if ← take? [')'] then
            modify fun s => { s with flags := outer }
            let regex := match number with
              | some number => body.regex.map (.group number)
              | none => body.regex
            limited { regex, depth := body.depth + 1 }
          else invalid

end

end PatternReader

/-- The expression that a pattern writes, if it is well formed. -/
def ofPattern? (pattern : String) : Option Regex :=
  let read : PatternReader Regex := do
    let body ← PatternReader.alternatives (4 * pattern.length + 4)
    if (← PatternReader.rest).isEmpty then return body.regex.getD .empty
    else PatternReader.invalid
  (read.run { rest := pattern.toList }).map Prod.fst

end MessageContract.Regex
