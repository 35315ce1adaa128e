import MessageContract.Fields
import MessageContract.Number.Binary64

/-!
JSON values. An integer and a float are different numbers, whatever they
denote, while the two float zeros are the same one, so sameness of values is a
function of its own, `Json.same`, and not identity.

The type also holds a text's objects as they were written, with their members
in order and repeated keys. `normalize` turns such a tree into a value, whose
objects are maps; a repeated key keeps its last member.
-/

namespace MessageContract

inductive Number where
  | integer (n : Int)
  | float (x : Binary64)
deriving DecidableEq

namespace Number

def same : Number → Number → Bool
  | .integer a, .integer b => a == b
  | .float a, .float b => a.same b
  | _, _ => false

/-- The integers from zero that fit 64 bits. -/
def unsigned? : Number → Option UInt64
  | .integer n => if 0 ≤ n ∧ n < UInt64.size then some (UInt64.ofNat n.toNat) else none
  | .float _ => none

end Number

inductive Json where
  | null
  | bool (value : Bool)
  | number (value : Number)
  | string (value : String)
  | array (items : List Json)
  | object (members : List (String × Json))

namespace Json

instance : Inhabited Json := ⟨.null⟩

def int (n : Int) : Json :=
  .number (.integer n)

mutual

/-- Equality of values. -/
def same : Json → Json → Bool
  | .null, .null => true
  | .bool a, .bool b => a == b
  | .number a, .number b => a.same b
  | .string a, .string b => a == b
  | .array a, .array b => sameItems a b
  | .object a, .object b => sameMembers a b
  | _, _ => false

def sameItems : List Json → List Json → Bool
  | [], [] => true
  | a :: as, b :: bs => same a b && sameItems as bs
  | _, _ => false

def sameMembers : List (String × Json) → List (String × Json) → Bool
  | [], [] => true
  | (k, a) :: as, (l, b) :: bs => k == l && same a b && sameMembers as bs
  | _, _ => false

end

mutual

/-- The value of a tree: every object becomes a map, the last of several
members of one key counting. -/
def normalize : Json → Json
  | .array items => .array (normalizeItems items)
  | .object members => .object (Fields.ofList (normalizeMembers members))
  | leaf => leaf

def normalizeItems : List Json → List Json
  | [] => []
  | item :: rest => normalize item :: normalizeItems rest

def normalizeMembers : List (String × Json) → List (String × Json)
  | [] => []
  | (key, value) :: rest => (key, normalize value) :: normalizeMembers rest

end

/-- The member of an object. -/
def member? (key : String) : Json → Option Json
  | .object members => Fields.get? key members
  | _ => none

def string? : Json → Option String
  | .string text => some text
  | _ => none

end Json

end MessageContract
