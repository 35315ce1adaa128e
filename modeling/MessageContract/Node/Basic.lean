import MessageContract.Json.Basic

/-!
Content trees. A tree is a JSON value some of whose nodes are matched: they
carry one matching rule, and an example in place of a fixed value. Attributes
that the rule does not read are kept, and so is the generator hint, which names
how a provider may make up a value.
-/

namespace MessageContract

/-- The two spellings of the rule for timestamps. -/
inductive TimestampWord where
  | timestamp
  | datetime
deriving DecidableEq

def TimestampWord.text : TimestampWord → String
  | .timestamp => "timestamp"
  | .datetime => "datetime"

/-- A constraint on a value. -/
inductive Rule where
  | equality
  /-- The type of the example; the length of an array may be bounded. -/
  | sameType (min max : Option UInt64)
  | regex (pattern : String)
  | integer
  | decimal
  | number
  | boolean
  | null
  | includes
  | timestamp (format : Option String) (word : TimestampWord)
  | date (format : Option String)
  | time (format : Option String)
  | semver
  /-- A kind of rule that is carried along and not understood. -/
  | unsupported (kind : String)
deriving DecidableEq

def Rule.kind : Rule → String
  | .equality => "equality"
  | .sameType _ _ => "type"
  | .regex _ => "regex"
  | .integer => "integer"
  | .decimal => "decimal"
  | .number => "number"
  | .boolean => "boolean"
  | .null => "null"
  | .includes => "include"
  | .timestamp _ tag => tag.text
  | .date _ => "date"
  | .time _ => "time"
  | .semver => "semver"
  | .unsupported kind => kind

inductive Node where
  | null
  | bool (value : Bool)
  | number (value : Number)
  | string (value : String)
  | array (items : List Node)
  | object (members : List (String × Node))
  | matched (rule : Rule) (sample : Option Node) (generator : Option String)
      (attributes : List (String × Json))

namespace Node

instance : Inhabited Node := ⟨.null⟩

def attributesSame (a b : Fields Json) : Bool :=
  Fields.sameWith Json.same a b

mutual

/-- Equality of trees, up to the sign of float zeros. -/
def same : Node → Node → Bool
  | .null, .null => true
  | .bool a, .bool b => a == b
  | .number a, .number b => a.same b
  | .string a, .string b => a == b
  | .array a, .array b => sameItems a b
  | .object a, .object b => sameMembers a b
  | .matched r s g as, .matched r' s' g' as' =>
      r == r' && sameSample s s' && g == g' && attributesSame as as'
  | _, _ => false

def sameSample : Option Node → Option Node → Bool
  | none, none => true
  | some a, some b => same a b
  | _, _ => false

def sameItems : List Node → List Node → Bool
  | [], [] => true
  | a :: as, b :: bs => same a b && sameItems as bs
  | _, _ => false

def sameMembers : List (String × Node) → List (String × Node) → Bool
  | [], [] => true
  | (k, a) :: as, (l, b) :: bs => k == l && same a b && sameMembers as bs
  | _, _ => false

end

mutual

/-- No node of the tree is matched. -/
def isLiteral : Node → Bool
  | .array items => literalItems items
  | .object members => literalMembers members
  | .matched _ _ _ _ => false
  | _ => true

def literalItems : List Node → Bool
  | [] => true
  | item :: rest => isLiteral item && literalItems rest

def literalMembers : List (String × Node) → Bool
  | [] => true
  | (_, value) :: rest => isLiteral value && literalMembers rest

end

end Node

end MessageContract
