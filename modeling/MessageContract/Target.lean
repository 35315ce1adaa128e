import MessageContract.Interaction.Reader

/-!
Decoding: reading the concrete content of a message into the type that a
handler works with. A `Target` is a type's name and its decoder; the decoders
here are for the usual types, and `record`, `item` and `required` put records
together. Faults have no place, since a value has none.
-/

namespace MessageContract

/-- A type that content may be decoded to, under the name that messages give it. -/
structure Target (α : Type) where
  name : String
  decode : Json → Except Json.Error α

/-- Decodes the contents of a message. -/
def ConcreteMessage.decodeAs {α : Type} (m : ConcreteMessage Json) (target : Target α) :
    Except Error (ConcreteMessage α) :=
  match target.decode m.contents with
  | .ok contents => .ok (m.map fun _ => contents)
  | .error e => .error (.undecodable target.name e)

namespace Decode

variable {α : Type}

def fault (f : Json.Fault) : Except Json.Error α :=
  .error { fault := f }

def wrongType (value : Json) (expected : String) : Except Json.Error α :=
  fault (.wrongType (.of value) expected)

def value (v : Json) : Except Json.Error Json :=
  .ok v

def string : Json → Except Json.Error String
  | .string s => .ok s
  | v => wrongType v "a string"

def bool : Json → Except Json.Error Bool
  | .bool b => .ok b
  | v => wrongType v "a boolean"

def unit : Json → Except Json.Error Unit
  | .null => .ok ()
  | v => wrongType v "unit"

/-- An integer from `least` to `greatest`. -/
def integer (least greatest : Int) (expected : String) : Json → Except Json.Error Int
  | .number (.integer n) =>
      if least ≤ n ∧ n ≤ greatest then .ok n
      else fault (.wrongValue (.number (.integer n)) expected)
  | v => wrongType v expected

def byte : Json → Except Json.Error Int :=
  integer 0 (UInt8.size - 1) "u8"

def int64 : Json → Except Json.Error Int :=
  integer Int64.minValue.toInt Int64.maxValue.toInt "i64"

def unsigned64 : Json → Except Json.Error Int :=
  integer 0 (UInt64.size - 1) "u64"

/-- Any number; an integer becomes the double nearest to it. -/
def float : Json → Except Json.Error Binary64
  | .number (.float x) => .ok x
  | .number (.integer n) => .ok ((Binary64.ofInt? n).getD .zero)
  | v => wrongType v "f64"

def optional (decode : Json → Except Json.Error α) : Json → Except Json.Error (Option α)
  | .null => .ok none
  | v => (decode v).map some

def list (decode : Json → Except Json.Error α) : Json → Except Json.Error (List α)
  | .array items => items.mapM decode
  | v => wrongType v "a sequence"

def fields (decode : Json → Except Json.Error α) : Json → Except Json.Error (Fields α)
  | .object members => members.mapM fun (key, v) => (decode v).map (key, ·)
  | v => wrongType v "a map"

/-- A content tree. -/
def node (v : Json) : Except Json.Error Node :=
  match Contents.liftMatcher (Node.ofJson v) with
  | .ok n => .ok n
  | .error e => fault (.refused e.message)

/-- Reads a record in one of its two forms: its items in order, of which `arity`
are used, or its members in the order in which they stand. -/
def record (name : String) (arity : Nat) (ofItems : List Json → Except Json.Error α)
    (ofMembers : List (String × Json) → Except Json.Error α) : Json → Except Json.Error α
  | .array items => do
      let a ← ofItems items
      if items.length ≤ arity then return a
      else fault (.wrongLength items.length "fewer elements in array")
  | .object members => ofMembers members
  | v => wrongType v s!"struct {name}"

/-- The item with an index, without which a record of so many is too short. -/
def item (name : String) (arity index : Nat) (items : List Json)
    (decode : Json → Except Json.Error α) : Except Json.Error α :=
  match items[index]? with
  | some v => decode v
  | none => fault (.wrongLength index s!"struct {name} with {arity} elements")

def required (name : String) : Option α → Except Json.Error α
  | some a => .ok a
  | none => fault (.missingField name)

end Decode

end MessageContract
