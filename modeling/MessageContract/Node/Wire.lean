import MessageContract.Node.Basic
import MessageContract.Node.Fault

/-!
Content trees as JSON. A matched node is an object with the key
`pact:matcher:type`; its rule's attributes, its example, its generator hint and
the attributes kept for others all share that object. Reading takes out what it
understands, so that writing can put it back.
-/

namespace MessageContract

/-- The key that makes an object a matched node. -/
def matcherKey : String := "pact:matcher:type"

/-- The key of the generator hint of a matched node. -/
def generatorKey : String := "pact:generator:type"

/-- The key of the example of a matched node. -/
def sampleKey : String := "value"

namespace Rule

/-- Takes out an attribute that is a string; null is as good as none. -/
def stringAttribute (key : String) (attributes : Fields Json) :
    Except MatcherFault (Option String × Fields Json) :=
  match attributes.get? key with
  | none | some .null => .ok (none, attributes.erase key)
  | some (.string text) => .ok (some text, attributes.erase key)
  | some found => .error (.attributeNotString key found)

/-- Takes out an attribute that is a count; null is as good as none. -/
def countAttribute (key : String) (attributes : Fields Json) :
    Except MatcherFault (Option UInt64 × Fields Json) :=
  match attributes.get? key with
  | none | some .null => .ok (none, attributes.erase key)
  | some (.number n) =>
      match n.unsigned? with
      | some count => .ok (some count, attributes.erase key)
      | none => .error (.attributeNotCount key)
  | some found => .error (.attributeNotNumber key found)

/-- The rule of a kind, and the attributes that it does not read. -/
def read (kind : String) (attributes : Fields Json) :
    Except MatcherFault (Rule × Fields Json) :=
  match kind with
  | "equality" => .ok (.equality, attributes)
  | "type" => do
      let (min, attributes) ← countAttribute "min" attributes
      let (max, attributes) ← countAttribute "max" attributes
      return (.sameType min max, attributes)
  | "regex" => do
      let (pattern, attributes) ← stringAttribute "regex" attributes
      match pattern with
      | some pattern => return (.regex pattern, attributes)
      | none => throw .missingPattern
  | "integer" => .ok (.integer, attributes)
  | "decimal" => .ok (.decimal, attributes)
  | "number" => .ok (.number, attributes)
  | "boolean" => .ok (.boolean, attributes)
  | "null" => .ok (.null, attributes)
  | "include" => .ok (.includes, attributes)
  | "timestamp" => do
      let (format, attributes) ← stringAttribute "format" attributes
      return (.timestamp format .timestamp, attributes)
  | "datetime" => do
      let (format, attributes) ← stringAttribute "format" attributes
      return (.timestamp format .datetime, attributes)
  | "date" => do
      let (format, attributes) ← stringAttribute "format" attributes
      return (.date format, attributes)
  | "time" => do
      let (format, attributes) ← stringAttribute "format" attributes
      return (.time format, attributes)
  | "semver" => .ok (.semver, attributes)
  | kind => .ok (.unsupported kind, attributes)

def countJson (n : UInt64) : Json :=
  .int n.toNat

/-- Adds the attributes of the rule itself. -/
def write (rule : Rule) (attributes : Fields Json) : Fields Json :=
  match rule with
  | .sameType min max =>
      (attributes.insert? "min" (min.map countJson)).insert? "max" (max.map countJson)
  | .regex pattern => attributes.insert "regex" (.string pattern)
  | .timestamp format _ | .date format | .time format =>
      attributes.insert? "format" (format.map .string)
  | _ => attributes

end Rule

namespace Node

/-- The generator hint among the members of a matched node. -/
def takeGenerator (members : Fields Json) :
    Except MatcherFault (Option String × Fields Json) :=
  match members.get? generatorKey with
  | none => .ok (none, members)
  | some (.string hint) => .ok (some hint, members.erase generatorKey)
  | some found => .error (.keyNotString generatorKey found)

mutual

/-- Reads a content tree. Every object with the matcher key is a matched node,
wherever items, members and examples lead; attributes are not looked into. -/
def ofJson : Json → Except MatcherFault Node
  | .null => .ok .null
  | .bool b => .ok (.bool b)
  | .number n => .ok (.number n)
  | .string s => .ok (.string s)
  | .array items => do return .array (← ofItems items)
  | .object members =>
      match Fields.get? matcherKey members with
      | none => do return .object (← ofMembers members)
      | some (.string kind) => do
          let sample ← sampleOf members
          let rest := Fields.erase sampleKey (Fields.erase matcherKey members)
          let (generator, rest) ← takeGenerator rest
          let (rule, attributes) ← Rule.read kind rest
          return .matched rule sample generator attributes
      | some found => .error (.keyNotString matcherKey found)

def ofItems : List Json → Except MatcherFault (List Node)
  | [] => .ok []
  | item :: rest => do
      let item ← ofJson item
      return item :: (← ofItems rest)

def ofMembers : List (String × Json) → Except MatcherFault (List (String × Node))
  | [] => .ok []
  | (key, value) :: rest => do
      let value ← ofJson value
      return (key, value) :: (← ofMembers rest)

/-- Reads the example among the members of a matched node. -/
def sampleOf : List (String × Json) → Except MatcherFault (Option Node)
  | [] => .ok none
  | (key, value) :: rest =>
      if key == sampleKey then do return some (← ofJson value) else sampleOf rest

end

/-- The object of a matched node. -/
def matchedJson (rule : Rule) (sample : Option Json) (generator : Option String)
    (attributes : Fields Json) : Json :=
  let members := (rule.write attributes).insert matcherKey (.string rule.kind)
  .object ((members.insert? sampleKey sample).insert? generatorKey (generator.map .string))

mutual

/-- Writes a content tree with its rules. -/
def toJson : Node → Json
  | .null => .null
  | .bool b => .bool b
  | .number n => .number n
  | .string s => .string s
  | .array items => .array (itemsJson items)
  | .object members => .object (membersJson members)
  | .matched rule sample generator attributes =>
      matchedJson rule (sampleJson sample) generator attributes

def itemsJson : List Node → List Json
  | [] => []
  | item :: rest => toJson item :: itemsJson rest

def membersJson : List (String × Node) → List (String × Json)
  | [] => []
  | (key, value) :: rest => (key, toJson value) :: membersJson rest

def sampleJson : Option Node → Option Json
  | none => none
  | some node => some (toJson node)

end

end Node

end MessageContract
