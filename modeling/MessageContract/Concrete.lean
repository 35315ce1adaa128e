import MessageContract.Date.Pattern
import MessageContract.Error
import MessageContract.Node.Basic

/-!
Making content concrete: every matched node becomes its example, a bounded
array is filled up or cut to its bounds, and a rule that can do without an
example has a fixed one. The result is a value and a list of warnings, one for
each regex rule whose example breaks it, in the order in which the rules are
met; an error ends both. What a pattern matches is a parameter.
-/

namespace MessageContract

/-- What patterns are and which texts they match. Of a text that is no pattern an engine may
say in words what is wrong with it. -/
structure PatternEngine where
  compile : String → Except (Option String) (String → Bool)

/-- An example that its own regex rule would refuse. -/
inductive Warning where
  | mismatch (pattern sample : String)
  | notString (pattern : String) (sample : Json)

/-- An outcome, and the warnings on the way to it. -/
structure Traced (α : Type) where
  outcome : Except Error α
  warnings : List Warning := []

namespace Traced

variable {α β : Type}

def ok (a : α) : Traced α :=
  { outcome := .ok a }

def fail (e : Error) : Traced α :=
  { outcome := .error e }

def warn (w : Warning) : Traced Unit :=
  { outcome := .ok (), warnings := [w] }

def bind (t : Traced α) (next : α → Traced β) : Traced β :=
  match t.outcome with
  | .error e => { outcome := .error e, warnings := t.warnings }
  | .ok a =>
      let after := next a
      { outcome := after.outcome, warnings := t.warnings ++ after.warnings }

instance : Monad Traced where
  pure := ok
  bind := bind

end Traced

/-- The longest array that is made by repeating items. -/
def itemLimit : Nat := 1000

def defaultTimestampFormat : String := "yyyy-MM-dd'T'HH:mm:ss"

def defaultDateFormat : String := "yyyy-MM-dd"

def defaultTimeFormat : String := "HH:mm:ss"

/-- The length of an array of `count` examples under its bounds. -/
def boundedLength (min max : Option Nat) (count : Nat) : Nat :=
  match min, max with
  | some least, some greatest => Nat.min (Nat.max least 1) greatest
  | some least, none => Nat.max least 1
  | none, some greatest => Nat.min count greatest
  | none, none => count

/-- The items over and over again, `count` of them in all. -/
def cycle {α : Type} (items : List α) (count : Nat) : List α :=
  (List.range count).filterMap fun i => items[i % items.length]?

/-- Repeats or drops items to meet the bounds. -/
def boundedArray (min max : Option Nat) (items : List Json) : Traced Json :=
  let count := boundedLength min max items.length
  if itemLimit < count && items.length < count then
    .fail (.invalidMatcher (.tooManyItems count itemLimit))
  else if items.isEmpty then .ok (.array items)
  else .ok (.array (cycle items count))

/-- Warns unless the pattern matches the example. -/
def checkSample (engine : PatternEngine) (pattern : String) (sample : Json) :
    Traced Unit :=
  match engine.compile pattern with
  | .error reason => .fail (.invalidMatcher (.badPattern pattern reason))
  | .ok isMatch =>
      match sample with
      | .string text =>
          if isMatch text then .ok () else .warn (.mismatch pattern text)
      | other => .warn (.notString pattern other)

def canonicalDate (format : Option String) (default : String) : Traced Json :=
  match Date.Pattern.canonical (format.getD default) with
  | .ok text => .ok (.string text)
  | .error fault => .fail (.invalidMatcher fault)

/-- The value of a matched node that has no example. -/
def Rule.canonical (rule : Rule) : Traced Json :=
  match rule with
  | .unsupported kind => .fail (.unsupportedKind kind)
  | .equality | .sameType _ _ | .regex _ | .includes =>
      .fail (.invalidMatcher (.missingSample rule.kind))
  | .integer | .number => .ok (.int 1)
  | .decimal => .ok (.number (.float .one))
  | .boolean => .ok (.bool true)
  | .null => .ok .null
  | .semver => .ok (.string "1.0.0")
  | .timestamp format _ => canonicalDate format defaultTimestampFormat
  | .date format => canonicalDate format defaultDateFormat
  | .time format => canonicalDate format defaultTimeFormat

/-- The value of a matched node whose example has been made concrete. Bounds
apply only to an example that is an array itself. -/
def Rule.settle (engine : PatternEngine) (rule : Rule) (sample : Node) (value : Json) :
    Traced Json :=
  match rule, sample, value with
  | .sameType none none, _, value => .ok value
  | .sameType min max, .array _, .array items =>
      boundedArray (min.map UInt64.toNat) (max.map UInt64.toNat) items
  | .regex pattern, _, value => do
      checkSample engine pattern value
      return value
  | _, _, value => .ok value

mutual

/-- The concrete value of a content tree. -/
def Node.concrete (engine : PatternEngine) : Node → Traced Json
  | .null => .ok .null
  | .bool b => .ok (.bool b)
  | .number n => .ok (.number n)
  | .string s => .ok (.string s)
  | .array items => do return .array (← Node.concreteItems engine items)
  | .object members => do return .object (← Node.concreteMembers engine members)
  | .matched (.unsupported kind) _ _ _ => .fail (.unsupportedKind kind)
  | .matched rule none _ _ => rule.canonical
  | .matched rule (some sample) _ _ => do
      let value ← Node.concrete engine sample
      rule.settle engine sample value

def Node.concreteItems (engine : PatternEngine) : List Node → Traced (List Json)
  | [] => .ok []
  | item :: rest => do
      let value ← Node.concrete engine item
      return value :: (← Node.concreteItems engine rest)

def Node.concreteMembers (engine : PatternEngine) :
    List (String × Node) → Traced (List (String × Json))
  | [] => .ok []
  | (key, member) :: rest => do
      let value ← Node.concrete engine member
      return (key, value) :: (← Node.concreteMembers engine rest)

end

end MessageContract
