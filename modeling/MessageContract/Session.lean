import MessageContract.Settings
import MessageContract.Target
import MessageContract.Store

/-!
Sessions and the verification of messages. A verification takes a message
through five stages: it has a description and content that could be read, the
content is made concrete, it is decoded to the handler's type, the handler
accepts it, and it is recorded in the contract file. The first stage that fails
ends it with its error, and only the last one changes the session's contract.

All that sessions share is in a `Bench`: the file tree, what the system does about
writes, the contract of each session, and the state of the code under test, which
handlers may change.
-/

namespace MessageContract

structure Bench (σ : Type) where
  disk : Disk := {}
  conditions : Conditions := .fair
  contracts : List Contract := []
  events : List Event := []
  /-- The state of the code under test. -/
  state : σ

/-- What runs on a bench. -/
abbrev BenchOp (σ ε α : Type) := ExceptT ε (StateM (Bench σ)) α

/-- One consumer and provider pair; copies of a session share its contract. -/
structure Session where
  settings : Settings
  slot : Nat
deriving DecidableEq, Repr

/-- Consumer code: takes a concrete message and accepts it, or rejects it for a
reason. -/
abbrev Handler (σ α : Type) := ConcreteMessage α → BenchOp σ String Unit

/-- A message expectation as it is built: `α` is the type that the handler takes. -/
structure Message (σ α : Type) where
  session : Session
  target : Target α
  interaction : Interaction := {}
  /-- Why the content that was set last could not be read. -/
  contentError : Option Error := none
  handler : Option (Handler σ α) := none

namespace Bench

variable {σ : Type}

/-- Appends to what has been reported. -/
def emit (events : List Event) : BenchOp σ Error Unit :=
  modify fun bench => { bench with events := bench.events ++ events }

/-- Runs an operation of the store on the bench's file tree. -/
def stored {α : Type} (operation : StoreOp α) : BenchOp σ Error α := fun bench =>
  match operation bench.disk with
  | (.ok a, disk) => (.ok a, { bench with disk })
  | (.error e, disk) => (.error (.storage e), { bench with disk })

end Bench

/-- Whatever a message's content is, it stays as it is. -/
def anyTarget (name : String) : Target Json where
  name := name
  decode := Decode.value

namespace Session

variable {σ α : Type}

def store (s : Session) : Store :=
  ⟨s.settings.directory⟩

/-- Starts a session with a contract of its own. -/
def start (settings : Settings) : BenchOp σ Error Session := do
  match settings.validate with
  | .error e => throw e
  | .ok _ =>
      let bench : Bench σ ← get
      set { bench with
        contracts := bench.contracts ++ [Contract.new settings.consumer settings.provider] }
      return { settings, slot := bench.contracts.length }

/-- What the session has verified so far. -/
def contract (s : Session) (bench : Bench σ) : Contract :=
  (bench.contracts[s.slot]?).getD (.new s.settings.consumer s.settings.provider)

def setContract (s : Session) (c : Contract) (bench : Bench σ) : Bench σ :=
  { bench with contracts := bench.contracts.set s.slot c }

/-- The path of the pair's file. -/
def path (s : Session) : String :=
  s.store.path s.settings.consumer s.settings.provider

/-- A new expectation without description, content and handler. -/
def message (s : Session) (target : Target α) : Message σ α where
  session := s
  target := target

def writeContract (s : Session) (c : Contract) (overwrite : Bool) : BenchOp σ Error String := do
  let bench : Bench σ ← get
  let written ← Bench.stored (s.store.writeUnder bench.conditions c overwrite)
  Bench.emit written.event.toList
  return written.path

/-- Writes what the session has verified to the file. -/
def writeFile (s : Session) (overwrite : Bool) : BenchOp σ Error String := do
  let bench : Bench σ ← get
  s.writeContract (s.contract bench) overwrite

/-- Adds an interaction to the contract once the file holds it. -/
def record (s : Session) (i : Interaction) : BenchOp σ Error Unit := do
  let bench : Bench σ ← get
  let candidate := ((s.contract bench).add i).1
  let _ ← s.writeContract candidate false
  modify (s.setContract candidate)

/-- What has to be so before the content is looked at. -/
def checkMessage (m : Message σ α) : Except Error Unit :=
  if Text.allBlank m.interaction.description then
    .error (.invalidInteraction .blankDescription)
  else
    match m.contentError with
    | some e => .error (.invalidInteraction (.badContent e.message))
    | none => .ok ()

/-- Makes an interaction concrete and reports the warnings. -/
def makeConcrete (engine : PatternEngine) (i : Interaction) :
    BenchOp σ Error (ConcreteMessage Json) := do
  let traced := i.concrete engine
  Bench.emit (traced.warnings.map .warned)
  traced.outcome

/-- Hands a message over to the handler. -/
def handOver (handler : Handler σ α) (m : ConcreteMessage α) : BenchOp σ Error Unit :=
  fun bench =>
    match handler m bench with
    | (.ok _, after) => (.ok (), after)
    | (.error reason, after) => (.error (.handler reason), after)

/-- Verifies a message with a handler, and records it. -/
def verify (s : Session) (engine : PatternEngine) (m : Message σ α) (handler : Handler σ α) :
    BenchOp σ Error Unit := do
  checkMessage m
  let message ← makeConcrete engine m.interaction
  let decoded ← message.decodeAs m.target
  handOver handler decoded
  s.record m.interaction

end Session

namespace Message

variable {σ α β : Type}

/-- Adds a precondition after the others. -/
def given (m : Message σ α) (state : ProviderState) : Message σ α :=
  { m with interaction := { m.interaction with states := m.interaction.states ++ [state] } }

/-- Describes the message. -/
def expects (m : Message σ α) (description : String) : Message σ α :=
  { m with interaction := { m.interaction with description } }

/-- Sets all metadata; of several values for a key the last one counts. -/
def setMetadata (m : Message σ α) (entries : List (String × String)) : Message σ α :=
  { m with interaction := { m.interaction with metadata := .ofList entries } }

def setContents (m : Message σ α) (contents : Contents) : Message σ α :=
  { m with interaction := { m.interaction with contents }, contentError := none }

/-- Sets JSON content, or remembers why it cannot be read; in that case the
content from before stays. -/
def setValue (m : Message σ α) (contentType : String) (content : Except Json.Error Json) :
    Message σ α :=
  match content with
  | .error e => { m with contentError := some (.serialization e) }
  | .ok value =>
      match Node.ofJson value with
      | .ok body => m.setContents (.json contentType body)
      | .error fault => { m with contentError := some (.invalidMatcher fault) }

/-- Sets opaque content. -/
def setBytes (m : Message σ α) (contentType : String) (data : List UInt8) : Message σ α :=
  m.setContents (.bytes contentType data)

/-- Sets content from bytes. Under a JSON media type they are read as JSON, in
which matched nodes may stand. -/
def setBody (m : Message σ α) (contentType : String) (body : List UInt8) : Message σ α :=
  if MediaType.isJson contentType then m.setValue contentType (Json.ofBytes body)
  else m.setBytes contentType body

/-- Sets content from a value, if it could be written as JSON. -/
def setJsonBody (m : Message σ α) (content : Except Json.Error Json) : Message σ α :=
  m.setValue MediaType.json content

/-- Changes the type that the handler takes. A handler set before is dropped. -/
def decodedAs (m : Message σ α) (target : Target β) : Message σ β where
  session := m.session
  target := target
  interaction := m.interaction
  contentError := m.contentError

/-- Sets the handler. -/
def handledBy (m : Message σ α) (handler : Handler σ α) : Message σ α :=
  { m with handler := some handler }

/-- Verifies the message with its own handler in its own session. -/
def verify (m : Message σ α) (engine : PatternEngine) : BenchOp σ Error Unit := do
  match m.handler with
  | none => throw (.invalidInteraction .noHandler)
  | some handler => m.session.verify engine m handler

end Message

end MessageContract
