import MessageContract.Interaction.Reader

/-!
Contracts: the interactions that a consumer and a provider have agreed on, in
the order in which they came. An entry that is no message, such as a request
written by another tool, is carried along as the value it is. Adding and
merging keep the first of several like entries, where it stands.
-/

namespace MessageContract

/-- An entry of a contract. -/
inductive Entry where
  | message (i : Interaction)
  | other (value : Json)

/-- The version of the contract format, and whatever else is said about the
contract. -/
structure Contract.Metadata where
  specification : String
  extra : Fields Json

structure Contract where
  consumer : String
  provider : String
  entries : List Entry
  metadata : Contract.Metadata

namespace Entry

/-- An entry that reads as a message is one; every other value is kept. -/
def ofJson (value : Json) : Entry :=
  match Interaction.ofJson? value with
  | some i => .message i
  | none => .other value.normalize

def toJson : Entry → Json
  | .message i => i.toJson
  | .other value => value

def message? : Entry → Option Interaction
  | .message i => some i
  | .other _ => none

def description? : Entry → Option String
  | .message i => some i.description
  | .other value => do (← value.member? "description").string?

def same : Entry → Entry → Bool
  | .message a, .message b => a.same b
  | .other a, .other b => a.same b
  | _, _ => false

/-- Likeness, of which a contract holds one: messages may differ in the members
of other tools. -/
def alike : Entry → Entry → Bool
  | .message a, .message b => a.alike b
  | .other a, .other b => a.same b
  | _, _ => false

end Entry

namespace Contract.Metadata

def currentSpecification : String := "4.0"

def writerKey : String := "messagePact"

def writerVersion : String := "0.1.0"

/-- The metadata of a contract that this library starts. -/
def initial : Contract.Metadata where
  specification := currentSpecification
  extra := [(writerKey, .object [("version", .string writerVersion)])]

def same (a b : Contract.Metadata) : Bool :=
  a.specification == b.specification && Fields.sameWith Json.same a.extra b.extra

def toJson (m : Contract.Metadata) : Json :=
  .object (("pactSpecification", .object [("version", .string m.specification)]) :: m.extra)

end Contract.Metadata

namespace Contract

/-- A contract without interactions. -/
def new (consumer provider : String) : Contract where
  consumer := consumer
  provider := provider
  entries := []
  metadata := .initial

/-- The interactions that are messages. -/
def messages (c : Contract) : List Interaction :=
  c.entries.filterMap Entry.message?

def contains (c : Contract) (i : Interaction) : Bool :=
  c.messages.any fun existing => existing.alike i

def sameEntries : List Entry → List Entry → Bool
  | [], [] => true
  | a :: as, b :: bs => a.same b && sameEntries as bs
  | _, _ => false

def same (a b : Contract) : Bool :=
  a.consumer == b.consumer && a.provider == b.provider &&
    sameEntries a.entries b.entries && a.metadata.same b.metadata

def append (c : Contract) (entry : Entry) : Contract :=
  { c with entries := c.entries ++ [entry] }

/-- Appends a message unless a like one is there; tells whether it did. -/
def add (c : Contract) (i : Interaction) : Contract × Bool :=
  if c.contains i then (c, false) else (c.append (.message i), true)

/-- Appends an entry unless it is there already. -/
def addEntry (c : Contract) (entry : Entry) : Contract × Bool :=
  match entry with
  | .message i => c.add i
  | .other _ =>
      if c.entries.any fun existing => existing.same entry then (c, false)
      else (c.append entry, true)

/-- Adds entries one after the other and counts those that were new. -/
def addEntries (c : Contract) (entries : List Entry) : Contract × Nat :=
  entries.foldl
    (fun (c, added) entry =>
      let (c, isNew) := c.addEntry entry
      (c, if isNew then added + 1 else added))
    (c, 0)

/-- What keeps two contracts from becoming one. -/
def mergeFault? (ours theirs : Contract) : Option MergeFault :=
  if ours.consumer != theirs.consumer || ours.provider != theirs.provider then
    some (.otherPair theirs.consumer theirs.provider ours.consumer ours.provider)
  else if ours.metadata.specification != theirs.metadata.specification then
    some (.otherSpecification theirs.metadata.specification ours.metadata.specification)
  else none

/-- Adds the entries of another contract of the same pair and lays its metadata
over this one's; tells how many entries were new. -/
def merge (ours theirs : Contract) : Except MergeFault (Contract × Nat) :=
  match ours.mergeFault? theirs with
  | some fault => .error fault
  | none =>
      let (merged, added) := ours.addEntries theirs.entries
      let extra := merged.metadata.extra.overlay theirs.metadata.extra
      .ok ({ merged with metadata := { merged.metadata with extra } }, added)

def participantJson (name : String) : Json :=
  .object [("name", .string name)]

def toJson (c : Contract) : Json :=
  .object [("consumer", participantJson c.consumer), ("provider", participantJson c.provider),
    ("interactions", .array (c.entries.map Entry.toJson)), ("metadata", c.metadata.toJson)]

end Contract

end MessageContract
