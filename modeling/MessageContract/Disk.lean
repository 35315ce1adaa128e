import MessageContract.Text.Debug
import MessageContract.Text.Utf8

/-!
A file tree as a value. Paths are texts whose parts are walked one by one, each
from a directory that has to exist; `.` stays and `..` goes up. Every operation
says which of the customary faults stops it. A fault leaves the tree as it was,
but for the directories that were made on the way to one that cannot be made.
-/

namespace MessageContract

/-- What the system may have against an operation that the file tree allows. -/
inductive Refusal where
  | permissionDenied
  | readOnly
  | noSpace
  | inputOutput
  | noLocks
deriving DecidableEq, Repr

namespace Refusal

def message : Refusal → String
  | .permissionDenied => "Permission denied (os error 13)"
  | .readOnly => "Read-only file system (os error 30)"
  | .noSpace => "No space left on device (os error 28)"
  | .inputOutput => "Input/output error (os error 5)"
  | .noLocks => "No locks available (os error 37)"

def kind : Refusal → String
  | .permissionDenied => "permission denied"
  | .readOnly => "read-only filesystem or storage medium"
  | .noSpace => "no storage space"
  | .inputOutput | .noLocks => "uncategorized error"

end Refusal

/-- Why an operation on the file tree failed. -/
inductive DiskFault where
  | notFound
  | alreadyExists
  | notDirectory
  | isDirectory
  | nameTooLong
  | nulInPath
  | refused (refusal : Refusal)
  /-- A fault that tells the path at which it arose. -/
  | located (path : String) (fault : DiskFault)
deriving DecidableEq, Repr

namespace DiskFault

/-- The text of the fault with its number, if it has one. -/
def message : DiskFault → String
  | .notFound => "No such file or directory (os error 2)"
  | .alreadyExists => "File exists (os error 17)"
  | .notDirectory => "Not a directory (os error 20)"
  | .isDirectory => "Is a directory (os error 21)"
  | .nameTooLong => "File name too long (os error 36)"
  | .nulInPath => "file name contained an unexpected NUL byte"
  | .refused refusal => refusal.message
  | .located path fault => s!"{fault.message} at path " ++ Text.debugQuoted path

/-- The kind of the fault in words. -/
def kind : DiskFault → String
  | .notFound => "entity not found"
  | .alreadyExists => "entity already exists"
  | .notDirectory => "not a directory"
  | .isDirectory => "is a directory"
  | .nameTooLong => "invalid filename"
  | .nulInPath => "invalid input parameter"
  | .refused refusal => refusal.kind
  | .located _ fault => fault.kind

end DiskFault

namespace Path

def splitChars (separator : Char) : List Char → List (List Char)
  | [] => [[]]
  | c :: rest =>
      match splitChars separator rest with
      | part :: parts => if c == separator then [] :: part :: parts else (c :: part) :: parts
      | [] => [[c]]

/-- The parts between slashes, without the empty ones and those that stay. -/
def parts (path : String) : List String :=
  ((splitChars '/' path.toList).map String.ofList).filter fun part => part != "" && part != "."

/-- A name within a directory. -/
def join (directory name : String) : String :=
  match directory.toList.getLast? with
  | none => name
  | some '/' => directory ++ name
  | some _ => directory ++ "/" ++ name

/-- The slash that an absolute path begins with. -/
def root (path : String) : String :=
  if path.toList.head? = some '/' then "/" else ""

/-- The path holds a NUL, which no name may. -/
def hasNul (path : String) : Bool :=
  path.toList.contains '\x00'

/-- The longest name in bytes. -/
def nameLimit : Nat := 255

/-- The names for files that stand in a directory for a short time. -/
def temporary (n : Nat) : String :=
  ".tmp" ++ String.ofList (Nat.toDigits 10 n)

/-- How many of these names are tried. -/
def temporaryLimit : Nat := 65536

end Path

inductive DiskEntry where
  | directory
  | file (bytes : List UInt8)
deriving DecidableEq, Repr

/-- The entries below the root by their names from there. -/
structure Disk where
  entries : List (List String × DiskEntry) := []

/-- What changes a file tree, and may leave changes behind when it fails. -/
abbrev DiskOp (α : Type) := ExceptT DiskFault (StateM Disk) α

namespace Disk

/-- The entry with the given names; the root is a directory. -/
def entry? (disk : Disk) (names : List String) : Option DiskEntry :=
  if names = [] then some .directory else disk.entries.lookup names

def setEntry (disk : Disk) (names : List String) (entry : DiskEntry) : Disk :=
  { entries := (names, entry) :: disk.entries.filter fun e => e.1 != names }

def removeEntry (disk : Disk) (names : List String) : Disk :=
  { entries := disk.entries.filter fun e => e.1 != names }

/-- Walks the parts of a path from a directory. The last part need not exist. -/
def walk (disk : Disk) (here : List String) : List String → Except DiskFault (List String)
  | [] => .ok here
  | part :: rest =>
      match disk.entry? here with
      | none => .error .notFound
      | some (.file _) => .error .notDirectory
      | some .directory =>
          if part = ".." then disk.walk here.dropLast rest
          else if Path.nameLimit < (Utf8.encode part).length then .error .nameTooLong
          else disk.walk (here ++ [part]) rest

/-- The names that a path leads to. The empty path leads nowhere. -/
def resolve (disk : Disk) (path : String) : Except DiskFault (List String) :=
  if path = "" then .error .notFound
  else if Path.hasNul path then .error .nulInPath
  else disk.walk [] (Path.parts path)

/-- The path of an entry that exists, without detours. It is absolute if the path is. -/
def canonical (disk : Disk) (path : String) : Except DiskFault String := do
  let names ← disk.resolve path
  match disk.entry? names with
  | none => throw .notFound
  | some _ => return Path.root path ++ "/".intercalate names

/-- The bytes of a file. -/
def read (disk : Disk) (path : String) : Except DiskFault (List UInt8) := do
  match disk.entry? (← disk.resolve path) with
  | none => throw .notFound
  | some .directory => throw .isDirectory
  | some (.file bytes) => return bytes

/-- Puts bytes into a file in place of what it held, or makes the file. -/
def write (disk : Disk) (path : String) (bytes : List UInt8) : Except DiskFault Disk := do
  let names ← disk.resolve path
  match disk.entry? names with
  | some .directory => throw .isDirectory
  | _ => return disk.setEntry names (.file bytes)

/-- Makes an empty file unless there is a file. -/
def touch (disk : Disk) (path : String) : Except DiskFault Disk := do
  let names ← disk.resolve path
  match disk.entry? names with
  | some .directory => throw .isDirectory
  | some (.file _) => return disk
  | none => return disk.setEntry names (.file [])

def remove (disk : Disk) (path : String) : Except DiskFault Disk := do
  let names ← disk.resolve path
  match disk.entry? names with
  | none => throw .notFound
  | some .directory => throw .isDirectory
  | some (.file _) => return disk.removeEntry names

/-- Removes a file if it can be removed. -/
def discard (disk : Disk) (path : String) : Disk :=
  match disk.remove path with
  | .ok removed => removed
  | .error _ => disk

/-- Makes a new file, which is empty. -/
def create (disk : Disk) (path : String) : Except DiskFault Disk := do
  let names ← disk.resolve path
  match disk.entry? names with
  | some _ => throw .alreadyExists
  | none => return disk.setEntry names (.file [])

/-- Puts bytes at the end of a file. -/
def append (disk : Disk) (path : String) (bytes : List UInt8) : Except DiskFault Disk := do
  let names ← disk.resolve path
  match disk.entry? names with
  | none => throw .notFound
  | some .directory => throw .isDirectory
  | some (.file before) => return disk.setEntry names (.file (before ++ bytes))

/-- Gives a file another name. A file that has the name makes way for it. -/
def rename (disk : Disk) (source target : String) : Except DiskFault Disk := do
  let old ← disk.resolve source
  let new ← disk.resolve target
  match disk.entry? old, disk.entry? new with
  | none, _ => throw .notFound
  | some .directory, _ | _, some .directory => throw .isDirectory
  | some (.file bytes), _ => return (disk.removeEntry old).setEntry new (.file bytes)

/-- The path leads to a place where nothing is. -/
def isFree (disk : Disk) (path : String) : Bool :=
  match disk.resolve path with
  | .ok names => (disk.entry? names).isNone
  | .error _ => false

/-- A path for a file that stands in a directory for a short time: the first one that
is free. If none is, there is nothing for it but to fail at the first one. -/
def temporaryPath (disk : Disk) (directory : String) : String :=
  let tried := List.range' 0 Path.temporaryLimit
  let found := tried.find? fun n => disk.isFree (Path.join directory (Path.temporary n))
  Path.join directory (Path.temporary (found.getD 0))

def makeDirectoryAt (disk : Disk) (parts : List String) : Except DiskFault Disk := do
  let names ← disk.walk [] parts
  match disk.entry? names with
  | some _ => throw .alreadyExists
  | none => return disk.setEntry names .directory

def isDirectoryAt (disk : Disk) (parts : List String) : Bool :=
  match disk.walk [] parts with
  | .ok names => disk.entry? names == some .directory
  | .error _ => false

/-- Makes a directory, unless that is refused, or finds that it is there. -/
def settleDirectory (refusal? : List String → Option Refusal) (parts : List String) :
    DiskOp Unit := do
  let disk : Disk ← get
  match disk.makeDirectoryAt parts with
  | .ok made =>
      match refusal? parts with
      | some refusal => throw (.refused refusal)
      | none => set made
  | .error fault => if disk.isDirectoryAt parts then pure () else throw fault

/-- Makes a directory and those above it, given the parts of its path from the
last one on. One that exists is left alone. Those above stay when the directory
itself cannot be made. -/
def makeDirectoriesAt (refusal? : List String → Option Refusal) : List String → DiskOp Unit
  | [] => pure ()
  | part :: above => do
      let disk : Disk ← get
      match disk.makeDirectoryAt (part :: above).reverse with
      | .error .notFound => do
          makeDirectoriesAt refusal? above
          settleDirectory refusal? (part :: above).reverse
      | _ => settleDirectory refusal? (part :: above).reverse

/-- The empty path needs no directory. -/
def makeDirectoriesUnless (refusal? : List String → Option Refusal) (path : String) :
    DiskOp Unit :=
  if Path.hasNul path then throw .nulInPath
  else makeDirectoriesAt refusal? (Path.parts path).reverse

/-- Makes the directories of a path where the system has nothing against it. -/
def makeDirectories (path : String) : DiskOp Unit :=
  makeDirectoriesUnless (fun _ => none) path

/-- The names in a directory, in ascending order. -/
def list (disk : Disk) (path : String) : Except DiskFault (List String) := do
  let names ← disk.resolve path
  match disk.entry? names with
  | none => throw .notFound
  | some (.file _) => throw .notDirectory
  | some .directory =>
      let children := disk.entries.filterMap fun (e, _) =>
        if e.dropLast = names then e.getLast? else none
      return children.mergeSort fun a b => decide (a ≤ b)

end Disk

end MessageContract
