import MessageContract.Contract.Reader

/-!
Contract files. A store keeps one file for each pair in its directory. Writing
merges into what the file holds, unless it is to be overwritten, and replaces
the file in one step or not at all; a lock file beside it shows that it is being
written. A write that changes nothing leaves the file alone.

The system may refuse any step of a write, be it that a disk is full or that a lock
cannot be had. What it refuses is handed to a write as its conditions.
-/

namespace MessageContract

/-- What is reported while sessions run. -/
inductive Event where
  | warned (warning : Warning)
  | written (path : String) (added total : Nat) (overwrite : Bool)

namespace Event

def level : Event → String
  | .warned _ => "WARN"
  | .written _ _ _ _ => "INFO"

def boolText : Bool → String
  | true => "true"
  | false => "false"

/-- The text of the event and its details, each as text. -/
def details : Event → Fields String
  | .warned (.mismatch pattern sample) =>
      [("example", sample), ("message", "regex matcher example does not match its pattern"),
        ("pattern", pattern)]
  | .warned (.notString pattern sample) =>
      [("example", sample.text), ("message", "regex matcher example is not a string"),
        ("pattern", pattern)]
  | .written path added total overwrite =>
      [("added", String.ofList (natChars added)), ("message", "pact file written"),
        ("overwrite", boolText overwrite), ("path", path),
        ("total", String.ofList (natChars total))]

end Event

/-- Characters that must not stand in a file name on some system. -/
def isUnsafe (c : Char) : Bool :=
  Text.isControl c || ['/', '\\', ':', '*', '?', '"', '<', '>', '|'].contains c

/-- A name with an underscore for every unsafe character. -/
def safeName (name : String) : String :=
  String.ofList (name.toList.map fun c => if isUnsafe c then '_' else c)

/-- The name of a pair's file. -/
def contractFileName (consumer provider : String) : String :=
  safeName consumer ++ "-" ++ safeName provider ++ ".json"

/-- The name of the lock file beside a file. -/
def lockFileName (fileName : String) : String :=
  fileName ++ ".lock"

/-- The contract files of one directory. -/
structure Store where
  directory : String
deriving DecidableEq, Repr

/-- What a write did: the path of the file, and what it reports. -/
structure Written where
  path : String
  event : Option Event

abbrev StoreOp (α : Type) := ExceptT StoreFault (StateM Disk) α

/-- The steps of a write that the system has a say in. -/
inductive WriteStep where
  /-- The directory whose path has the parts is made. -/
  | makeDirectory (parts : List String)
  | findDirectory
  | openLock
  | holdLock
  | readFile
  | createTemporary
  | writeText
  | endText
  | syncTemporary
  | renameTemporary
  | removeTemporary
deriving DecidableEq, Repr

/-- What the system does about a write. -/
structure Conditions where
  refusal? : WriteStep → Option Refusal
  /-- The bytes of the text that are written before the rest of it is refused. -/
  room : Nat

namespace Conditions

/-- Nothing is refused. -/
def fair : Conditions where
  refusal? _ := none
  room := 0

/-- What is refused of the directories to be made. -/
def directories (conditions : Conditions) (parts : List String) : Option Refusal :=
  conditions.refusal? (.makeDirectory parts)

/-- Does a step unless it is refused. -/
def attempt {α : Type} (conditions : Conditions) (step : WriteStep)
    (outcome : Except DiskFault α) : Except DiskFault α :=
  match conditions.refusal? step with
  | some refusal => .error (.refused refusal)
  | none => outcome

end Conditions

namespace Store

def path (store : Store) (consumer provider : String) : String :=
  Path.join store.directory (contractFileName consumer provider)

/-- The contract in a file, given what was read of it, if there is a file. -/
def contractOf (path : String) : Except DiskFault (List UInt8) → Except StoreFault (Option Contract)
  | .error .notFound => .ok none
  | .error fault => .error (.io path fault)
  | .ok bytes =>
      match Contract.ofBytes bytes with
      | .ok c => .ok (some c)
      | .error e => .error (.corrupt path e)

/-- The contract of a pair, if it has a file. -/
def load (disk : Disk) (store : Store) (consumer provider : String) :
    Except StoreFault (Option Contract) :=
  contractOf (store.path consumer provider) (disk.read (store.path consumer provider))

/-- Changes the file tree, or says why it cannot be changed. -/
def change (failure : DiskFault → StoreFault) (operation : Disk → Except DiskFault Disk) :
    StoreOp Unit := do
  let disk : Disk ← get
  match operation disk with
  | .ok changed => set changed
  | .error fault => throw (failure fault)

/-- What the file has to hold after a write, and how many entries that adds;
nothing if the file is to be left alone. -/
def plan (existing : Option Contract) (c : Contract) :
    Except StoreFault (Option (Contract × Nat)) :=
  match existing with
  | none => .ok (some (c, c.entries.length))
  | some before =>
      match before.merge c with
      | .error fault => .error (.incompatible fault)
      | .ok (merged, added) => .ok (if merged.same before then none else some (merged, added))

/-- Makes the directory, with those above it. -/
def makeDirectory (conditions : Conditions) (store : Store) : StoreOp Unit := fun disk =>
  match Disk.makeDirectoriesUnless conditions.directories store.directory disk with
  | (.ok _, made) => (.ok (), made)
  | (.error fault, made) => (.error (.io store.directory fault), made)

/-- Makes the directory and finds the path of its one true name. -/
def openDirectory (conditions : Conditions) (store : Store) : StoreOp String := do
  store.makeDirectory conditions
  let disk : Disk ← get
  match conditions.attempt .findDirectory (disk.canonical store.directory) with
  | .ok directory => return directory
  | .error fault => throw (.io store.directory fault)

/-- Opens the lock file, or makes it, and waits until the lock is held. -/
def lock (conditions : Conditions) (path : String) : StoreOp Unit := do
  change (.io path) fun disk => conditions.attempt .openLock (disk.touch path)
  change (.io path) fun disk => conditions.attempt .holdLock (.ok disk)

/-- Writes a text into a new file. When that is refused, a part of it is there. -/
def writeText (conditions : Conditions) (path : String) (text : List UInt8) : StoreOp Unit := do
  let failure (fault : DiskFault) : StoreFault :=
    .serialization { fault := .unwritten (fault.located path).message }
  let written :=
    if (conditions.refusal? .writeText).isSome then text.take conditions.room else text
  change failure fun disk => disk.append path written
  change failure fun disk => conditions.attempt .writeText (.ok disk)

/-- Writes all that a contract's file holds into a new file, to the last byte. -/
def fill (conditions : Conditions) (path : String) (c : Contract) : StoreOp Unit := do
  writeText conditions path (Utf8.encode c.toJson.indented)
  change (fun fault => .io path (fault.located path)) fun disk =>
    conditions.attempt .endText (disk.append path (Utf8.encode "\n"))
  change (.io path) fun disk => conditions.attempt .syncTemporary (.ok disk)

/-- Puts a contract in place of what a file holds, all at once: it is written to a
new file in the directory, which takes the file's name or is removed. -/
def replaceFile (conditions : Conditions) (directory path : String) (c : Contract) :
    StoreOp Unit := do
  let disk : Disk ← get
  let temporary := disk.temporaryPath directory
  change (fun fault => .io directory (fault.located temporary)) fun disk =>
    conditions.attempt .createTemporary (disk.create temporary)
  try
    fill conditions temporary c
    change (.io path) fun disk =>
      conditions.attempt .renameTemporary (disk.rename temporary path)
  catch fault =>
    modify fun disk =>
      if (conditions.refusal? .removeTemporary).isSome then disk else disk.discard temporary
    throw fault

/-- The contract that a write has to merge into. An overwritten file is not read. -/
def existingAt (conditions : Conditions) (disk : Disk) (path : String) (overwrite : Bool) :
    Except StoreFault (Option Contract) :=
  if overwrite then .ok none
  else contractOf path (conditions.attempt .readFile (disk.read path))

/-- Brings a file up to date with a contract while its lock is held. -/
def update (conditions : Conditions) (directory path : String) (c : Contract)
    (overwrite : Bool) : StoreOp Written := do
  let disk : Disk ← get
  let existing ← existingAt conditions disk path overwrite
  match ← plan existing c with
  | none => return { path, event := none }
  | some (content, added) =>
      replaceFile conditions directory path content
      return { path, event := some (.written path added content.entries.length overwrite) }

/-- Writes a contract into the file of its pair. -/
def writeUnder (conditions : Conditions) (store : Store) (c : Contract) (overwrite : Bool) :
    StoreOp Written := do
  let directory ← store.openDirectory conditions
  let path := Path.join directory (contractFileName c.consumer c.provider)
  lock conditions (lockFileName path)
  update conditions directory path c overwrite

/-- Writes a contract where the system has nothing against it. -/
def write (store : Store) (c : Contract) (overwrite : Bool) : StoreOp Written :=
  store.writeUnder .fair c overwrite

end Store

end MessageContract
