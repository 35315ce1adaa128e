import MessageContract.Proofs.Disk
import MessageContract.Store

/-!
The names of contract files and of the lock files beside them. Whatever a
consumer and a provider are called, the name of their file is a plain one, so
that the file stands in the store's directory; and no lock file is a contract
file.
-/

namespace MessageContract

/-- No unsafe character is left in a name. -/
theorem isUnsafe_of_mem_safeName {name : String} {ch : Char}
    (hmem : ch ∈ (safeName name).toList) : isUnsafe ch = false := by
  rw [safeName, String.toList_ofList, List.mem_map] at hmem
  obtain ⟨written, -, rfl⟩ := hmem
  split
  · decide
  case isFalse hsafe => exact Bool.eq_false_iff.mpr hsafe

theorem safeName_of_safe {name : String} (hsafe : ∀ ch ∈ name.toList, isUnsafe ch = false) :
    safeName name = name := by
  have hkept : ∀ ch ∈ name.toList, (if isUnsafe ch then '_' else ch) = ch := by
    intro ch hch
    rw [hsafe ch hch, if_neg Bool.false_ne_true]
  rw [safeName, List.map_congr_left hkept, List.map_id', String.ofList_toList]

/-- A name that has been made safe stays as it is. -/
theorem safeName_safeName (name : String) : safeName (safeName name) = safeName name :=
  safeName_of_safe fun _ => isUnsafe_of_mem_safeName

theorem contractFileName_toList (consumer provider : String) :
    (contractFileName consumer provider).toList =
      (safeName consumer).toList ++ '-' :: (safeName provider).toList ++
        ['.', 'j', 's', 'o', 'n'] := by
  simp [contractFileName]

theorem isUnsafe_of_mem_contractFileName {consumer provider : String} {ch : Char}
    (hmem : ch ∈ (contractFileName consumer provider).toList) : isUnsafe ch = false := by
  have hending : ['.', 'j', 's', 'o', 'n'].any isUnsafe = false := by decide
  rw [contractFileName_toList, List.mem_append, List.mem_append, List.mem_cons] at hmem
  rcases hmem with (hconsumer | rfl | hprovider) | hlast
  · exact isUnsafe_of_mem_safeName hconsumer
  · decide
  · exact isUnsafe_of_mem_safeName hprovider
  · exact Bool.eq_false_iff.mpr (List.any_eq_false.mp hending ch hlast)

/-- The file's name is that of the pair whose names have been made safe. -/
theorem contractFileName_safeName (consumer provider : String) :
    contractFileName (safeName consumer) (safeName provider) =
      contractFileName consumer provider := by
  simp only [contractFileName, safeName_safeName]

theorem isName_contractFileName (consumer provider : String) :
    Path.IsName (contractFileName consumer provider) := by
  apply Path.isName_of_length
  · intro hslash
    exact absurd (isUnsafe_of_mem_contractFileName hslash) (by decide)
  · rw [contractFileName_toList]
    simp
    omega

theorem isName_lockFileName {fileName : String} (hname : Path.IsName fileName) :
    Path.IsName (lockFileName fileName) := by
  apply Path.isName_of_length
  · simp [lockFileName, hname.noSlash]
  · simp [lockFileName]

/-! The three kinds of files in a store's directory are told apart by how their names end. -/

theorem getLast?_contractFileName (consumer provider : String) :
    (contractFileName consumer provider).toList.getLast? = some 'n' := by
  rw [contractFileName_toList, List.getLast?_append]
  rfl

theorem getLast?_lockFileName (fileName : String) :
    (lockFileName fileName).toList.getLast? = some 'k' := by
  simp [lockFileName]

theorem lockFileName_ne_contractFileName (fileName consumer provider : String) :
    lockFileName fileName ≠ contractFileName consumer provider := by
  intro heq
  have hlock := getLast?_lockFileName fileName
  rw [heq, getLast?_contractFileName] at hlock
  exact absurd hlock (by decide)

theorem temporary_ne_of_getLast? {n : Nat} {name : String} {last : Char}
    (hlast : name.toList.getLast? = some last) (hletter : last.isDigit = false) :
    Path.temporary n ≠ name := by
  rintro rfl
  obtain ⟨digit, hdigit, hisDigit⟩ := Path.getLast?_temporary n
  obtain rfl := Option.some.inj (hdigit.symm.trans hlast)
  rw [hletter] at hisDigit
  cases hisDigit

namespace Store

/-- The file's name is one that the file of a pair has. -/
def IsContractFile (names : List String) : Prop :=
  ∃ consumer provider, names.getLast? = some (contractFileName consumer provider)

/-- The names of a pair's file. -/
def fileNames (store : Store) (consumer provider : String) : List String :=
  Path.names (store.path consumer provider)

/-- The names of the lock file beside it. -/
def lockNames (store : Store) (consumer provider : String) : List String :=
  Path.names store.directory ++ [lockFileName (contractFileName consumer provider)]

/-- The names of a temporary file in the store's directory. -/
def temporaryNames (store : Store) (n : Nat) : List String :=
  Path.names store.directory ++ [Path.temporary n]

variable (store : Store) (consumer provider : String)

theorem fileNames_eq :
    store.fileNames consumer provider =
      Path.names store.directory ++ [contractFileName consumer provider] :=
  Path.names_join (isName_contractFileName consumer provider)

theorem isContractFile_fileNames : IsContractFile (store.fileNames consumer provider) :=
  ⟨consumer, provider, by rw [fileNames_eq, List.getLast?_concat]⟩

theorem not_isContractFile_lockNames : ¬ IsContractFile (store.lockNames consumer provider) := by
  rintro ⟨c, p, hlast⟩
  rw [lockNames, List.getLast?_concat] at hlast
  exact lockFileName_ne_contractFileName _ c p (Option.some.inj hlast)

theorem ne_lockNames_of_isContractFile {names : List String} (hnames : IsContractFile names) :
    names ≠ store.lockNames consumer provider := by
  intro heq
  exact not_isContractFile_lockNames store consumer provider (heq ▸ hnames)

theorem not_isContractFile_temporaryNames (n : Nat) :
    ¬ IsContractFile (store.temporaryNames n) := by
  rintro ⟨c, p, hlast⟩
  rw [temporaryNames, List.getLast?_concat] at hlast
  exact temporary_ne_of_getLast? (getLast?_contractFileName c p) (by decide)
    (Option.some.inj hlast)

theorem temporaryNames_ne_fileNames (n : Nat) :
    store.temporaryNames n ≠ store.fileNames consumer provider := by
  intro heq
  refine not_isContractFile_temporaryNames store n ?_
  rw [heq]
  exact isContractFile_fileNames store consumer provider

theorem temporaryNames_ne_lockNames (n : Nat) :
    store.temporaryNames n ≠ store.lockNames consumer provider := by
  intro heq
  have hnames := List.singleton_inj.mp (List.append_cancel_left heq)
  exact temporary_ne_of_getLast? (getLast?_lockFileName _) (by decide) hnames

/-- Whatever a consumer and a provider are called, the name of their file is one plain part
of a path, so that the file stands right in the store's directory. So does the lock file
beside it, whose name is the name of no pair's file. A name that has been made safe stays as
it is, and leads to the same file. -/
theorem contract_file_stays_in_directory (store : Store) (consumer provider : String) :
    let name := contractFileName consumer provider
    (∀ ch ∈ name.toList,
      Text.isControl ch = false ∧ ch ∉ ['/', '\\', ':', '*', '?', '"', '<', '>', '|']) ∧
    (Path.parts name = [name] ∧ name ≠ "." ∧ name ≠ ".." ∧ ∃ stem, name = stem ++ ".json") ∧
    Path.parts (store.path consumer provider) = Path.parts store.directory ++ [name] ∧
    (∀ disk found, Disk.resolve disk (store.path consumer provider) = .ok found →
      ∃ directory, disk.walk [] (Path.parts store.directory) = .ok directory ∧
        found = directory ++ [name]) ∧
    (∀ directory, Path.parts (lockFileName (Path.join directory name)) =
      Path.parts directory ++ [lockFileName name]) ∧
    (∀ other another, lockFileName name ≠ contractFileName other another) ∧
    (∀ text, safeName (safeName text) = safeName text) ∧
    contractFileName (safeName consumer) (safeName provider) = name := by
  intro name
  have hname : Path.IsName name := isName_contractFileName consumer provider
  refine ⟨?_, ⟨Path.parts_of_isPart hname.toIsPart, hname.notHere, hname.notAbove, ?_⟩,
    Path.parts_join hname.toIsPart, ?_, ?_, ?_, safeName_safeName, ?_⟩
  · intro ch hch
    have hsafe : isUnsafe ch = false := isUnsafe_of_mem_contractFileName hch
    rw [isUnsafe, Bool.or_eq_false_iff] at hsafe
    exact ⟨hsafe.1, by simpa using hsafe.2⟩
  · exact ⟨safeName consumer ++ "-" ++ safeName provider, rfl⟩
  · intro disk found hresolve
    obtain ⟨-, -, directory, hwalk, -, -, hfound⟩ := (Disk.resolve_join hname).mp hresolve
    exact ⟨directory, hwalk, hfound⟩
  · intro directory
    rw [lockFileName, Path.join_append]
    exact Path.parts_join (isName_lockFileName hname).toIsPart
  · exact lockFileName_ne_contractFileName name
  · exact contractFileName_safeName consumer provider

end Store

end MessageContract
