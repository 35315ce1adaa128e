import MessageContract.Proofs.Store.FileNames
import MessageContract.Proofs.Text.Utf8

/-!
The steps of a write, one after the other. Each passes if the file tree allows it and the
system does not refuse it; otherwise the write ends there. What it leaves then is the tree
as it was, but for directories that have been made, the lock file, and a temporary file
that could not be removed. Only the last step of all touches the file that is written.
-/

namespace MessageContract

namespace Conditions

variable {α : Type} {conditions : Conditions} {step : WriteStep} {outcome : Except DiskFault α}

/-- The system refuses nothing. -/
def Fair (conditions : Conditions) : Prop :=
  ∀ step, conditions.refusal? step = none

theorem fair_fair : fair.Fair := fun _ => rfl

theorem attempt_of_fair (hfair : conditions.Fair) : conditions.attempt step outcome = outcome := by
  rw [attempt, hfair step]

theorem attempt_eq_ok {a : α} (hok : conditions.attempt step outcome = .ok a) :
    outcome = .ok a := by
  unfold attempt at hok
  split at hok
  · cases hok
  · exact hok

theorem directories_of_fair (hfair : conditions.Fair) :
    conditions.directories = fun _ => none :=
  funext fun parts => hfair (.makeDirectory parts)

end Conditions

/-- The fault of a step that was refused, or that the file tree does not allow. -/
inductive StoreFault.OfSystem : StoreFault → Prop
  | io (path : String) (fault : DiskFault) : OfSystem (.io path fault)
  | serialization (error : Json.Error) : OfSystem (.serialization error)

namespace Store

open Conditions

/-- The path that a write gives for a pair's file. -/
def openedPath (store : Store) (consumer provider : String) : String :=
  Path.join (Path.canonical store.directory) (contractFileName consumer provider)

theorem names_openedPath (store : Store) (consumer provider : String) :
    Path.names (store.openedPath consumer provider) = store.fileNames consumer provider := by
  rw [openedPath, Path.names_join (isName_contractFileName consumer provider),
    Path.names_canonical, fileNames_eq]

/-- The path of a temporary file in the store's directory. -/
def temporaryPath (store : Store) (n : Nat) : String :=
  Path.join (Path.canonical store.directory) (Path.temporary n)

theorem names_temporaryPath (store : Store) (n : Nat) :
    Path.names (store.temporaryPath n) = store.temporaryNames n := by
  rw [temporaryPath, Path.names_join (Path.isName_temporary n), Path.names_canonical,
    temporaryNames]

/-- The file tree once the store's directory has been made. -/
def opened (store : Store) (disk : Disk) : Disk :=
  (Disk.makeDirectories store.directory disk).2

theorem makeDirectories_of_fair {conditions : Conditions} (hfair : conditions.Fair)
    (path : String) :
    Disk.makeDirectories path = Disk.makeDirectoriesUnless conditions.directories path := by
  rw [directories_of_fair hfair]
  rfl

theorem opened_of_fair {store : Store} {conditions : Conditions} {disk : Disk}
    (hfair : conditions.Fair) :
    store.opened disk = disk.withDirectories conditions.directories store.directory := by
  rw [opened, makeDirectories_of_fair hfair]
  rfl

/-- The file tree allows every step of a write. The directory can be made and found, and
there the lock file can be opened; no directory has the name of the pair's file; and a name
for a temporary file is free. -/
structure Clear (store : Store) (consumer provider : String) (disk : Disk) : Prop where
  made : (Disk.makeDirectories store.directory disk).1 = .ok ()
  found : ∃ path, (store.opened disk).canonical store.directory = .ok path
  lock : ∃ locked,
    (store.opened disk).touch (lockFileName (store.openedPath consumer provider)) = .ok locked
  file : Disk.entry? (store.opened disk) (store.fileNames consumer provider) ≠ some .directory
  spare : ∃ n < Path.temporaryLimit, (store.opened disk).isFree (store.temporaryPath n) = true

/-- What is left of that once the lock is held. -/
structure Replaceable (store : Store) (consumer provider : String) (disk : Disk) : Prop where
  file : disk.entry? (store.fileNames consumer provider) ≠ some .directory
  spare : ∃ n < Path.temporaryLimit, disk.isFree (store.temporaryPath n) = true

variable {store : Store} {conditions : Conditions} {consumer provider : String}
variable {disk after : Disk} {result : Except StoreFault Unit}

section Change

variable {failure : DiskFault → StoreFault} {operation : Disk → Except DiskFault Disk}

theorem run_change (failure : DiskFault → StoreFault) (operation : Disk → Except DiskFault Disk)
    (disk : Disk) :
    change failure operation disk =
      match operation disk with
      | .ok changed => (.ok (), changed)
      | .error fault => (.error (failure fault), disk) := by
  rw [change, Outcome.run_bind, Outcome.run_get]
  cases hoperation : operation disk <;> simp only [hoperation] <;> rfl

theorem change_cases (hrun : change failure operation disk = (result, after)) :
    (∃ fault, operation disk = .error fault ∧ result = .error (failure fault) ∧ after = disk) ∨
      result = .ok () ∧ operation disk = .ok after := by
  rw [run_change] at hrun
  cases hoperation : operation disk with
  | ok changed =>
      rw [hoperation] at hrun
      obtain ⟨rfl, rfl⟩ := Prod.mk.inj hrun
      exact .inr ⟨rfl, rfl⟩
  | error fault =>
      rw [hoperation] at hrun
      obtain ⟨rfl, rfl⟩ := Prod.mk.inj hrun
      exact .inl ⟨fault, rfl, rfl, rfl⟩

end Change

/-- A change that the system may refuse is made, or nothing is. -/
theorem attempt_cases {failure : DiskFault → StoreFault} {step : WriteStep}
    {operation : Disk → Except DiskFault Disk} (hfailure : ∀ fault, (failure fault).OfSystem)
    (hrun : change failure (fun disk => conditions.attempt step (operation disk)) disk =
      (result, after)) :
    ((∃ fault, result = .error fault ∧ fault.OfSystem) ∧
        ¬ (conditions.Fair ∧ ∃ changed, operation disk = .ok changed) ∧ after = disk) ∨
      result = .ok () ∧ operation disk = .ok after := by
  rcases change_cases hrun with ⟨fault, herror, rfl, rfl⟩ | ⟨rfl, hok⟩
  · refine .inl ⟨⟨_, rfl, hfailure fault⟩, ?_, rfl⟩
    rintro ⟨hfair, changed, hchanged⟩
    rw [attempt_of_fair hfair, hchanged] at herror
    cases herror
  · exact .inr ⟨rfl, attempt_eq_ok hok⟩

/-- The directory is there afterwards, and its path leads to it. -/
theorem openDirectory_cases {result : Except StoreFault String}
    (hrun : store.openDirectory conditions disk = (result, after)) :
    after = disk.withDirectories conditions.directories store.directory ∧
      ((∃ fault, result = .error fault ∧ fault.OfSystem) ∧
          (∀ consumer provider, ¬ (conditions.Fair ∧ store.Clear consumer provider disk)) ∨
        result = .ok (Path.canonical store.directory) ∧
          after.resolve store.directory = .ok (Path.names store.directory)) := by
  rw [openDirectory, Outcome.run_bind, makeDirectory] at hrun
  rw [Disk.withDirectories]
  rcases hmade : Disk.makeDirectoriesUnless conditions.directories store.directory disk with
    ⟨fault | _, made⟩
  · rw [hmade] at hrun
    obtain ⟨rfl, rfl⟩ := Prod.mk.inj hrun
    refine ⟨rfl, .inl ⟨⟨_, rfl, .io _ _⟩, ?_⟩⟩
    rintro consumer provider ⟨hfair, hclear⟩
    have hok := hclear.made
    rw [makeDirectories_of_fair hfair, hmade] at hok
    cases hok
  · rw [hmade] at hrun
    dsimp only at hrun
    rw [Outcome.run_bind, Outcome.run_get] at hrun
    dsimp only at hrun
    cases hcanonical : conditions.attempt .findDirectory (made.canonical store.directory) with
    | error fault =>
        rw [hcanonical] at hrun
        obtain ⟨rfl, rfl⟩ := Prod.mk.inj hrun
        refine ⟨rfl, .inl ⟨⟨_, rfl, .io _ _⟩, ?_⟩⟩
        rintro consumer provider ⟨hfair, hclear⟩
        obtain ⟨path, hfound⟩ := hclear.found
        rw [opened, makeDirectories_of_fair hfair, hmade] at hfound
        rw [attempt_of_fair hfair, hfound] at hcanonical
        cases hcanonical
    | ok directory =>
        rw [hcanonical] at hrun
        obtain ⟨rfl, rfl⟩ := Prod.mk.inj hrun
        obtain ⟨hresolve, rfl⟩ := Disk.canonical_eq_ok (attempt_eq_ok hcanonical)
        exact ⟨rfl, .inr ⟨rfl, hresolve⟩⟩

/-- The lock file is there once it has been opened, whether the lock can be held or not. -/
theorem lock_cases {path : String} (hrun : lock conditions path disk = (result, after)) :
    ((∃ fault, result = .error fault ∧ fault.OfSystem) ∧
        ¬ (conditions.Fair ∧ ∃ locked, disk.touch path = .ok locked) ∧
        (after = disk ∨ disk.touch path = .ok after)) ∨
      result = .ok () ∧ disk.touch path = .ok after := by
  rw [lock, Outcome.run_bind] at hrun
  rcases hopen : change (.io path)
    (fun disk => conditions.attempt .openLock (disk.touch path)) disk with ⟨outcome, touched⟩
  rw [hopen] at hrun
  rcases attempt_cases (.io path) hopen with ⟨⟨fault, rfl, hfault⟩, hblocked, rfl⟩ | ⟨rfl, htouch⟩
  · obtain ⟨rfl, rfl⟩ := Prod.mk.inj hrun
    exact .inl ⟨⟨fault, rfl, hfault⟩, hblocked, .inl rfl⟩
  rcases attempt_cases (.io path) hrun with ⟨hfault, hblocked, rfl⟩ | ⟨rfl, hsame⟩
  · exact .inl ⟨hfault, fun hclear => hblocked ⟨hclear.1, _, rfl⟩, .inr htouch⟩
  · obtain rfl := Except.ok.inj hsame
    exact .inr ⟨rfl, htouch⟩

/-! The new file. -/

section Draft

variable {first : Disk} {path : String}

/-- The whole text is written, or a part of it because the system refuses the rest. -/
theorem writeText_cases {text : List UInt8} (hdraft : Disk.Draft path [] first disk)
    (hrun : writeText conditions path text disk = (result, after)) :
    ∃ bytes, Disk.Draft path bytes first after ∧
      ((∃ fault, result = .error fault ∧ fault.OfSystem) ∧ ¬ conditions.Fair ∨
        result = .ok () ∧ bytes = text) := by
  rw [writeText, Outcome.run_bind] at hrun
  cases hrefusal : conditions.refusal? .writeText with
  | some refusal =>
      obtain ⟨partly, happend, hdraft⟩ := hdraft.append (text.take conditions.room)
      have hend : conditions.attempt .writeText (.ok partly) = .error (.refused refusal) := by
        rw [attempt, hrefusal]
      simp only [hrefusal, Option.isSome_some, if_true, run_change, happend, hend] at hrun
      obtain ⟨rfl, rfl⟩ := Prod.mk.inj hrun
      refine ⟨_, hdraft, .inl ⟨⟨_, rfl, .serialization _⟩, ?_⟩⟩
      intro hfair
      rw [hfair .writeText] at hrefusal
      cases hrefusal
  | none =>
      obtain ⟨written, happend, hdraft⟩ := hdraft.append text
      have hend : conditions.attempt .writeText (.ok written) = .ok written := by
        rw [attempt, hrefusal]
      simp only [hrefusal, Option.isSome_none, Bool.false_eq_true, if_false, run_change,
        happend, hend] at hrun
      obtain ⟨rfl, rfl⟩ := Prod.mk.inj hrun
      exact ⟨text, hdraft, .inr ⟨rfl, rfl⟩⟩

/-- The new file holds all of the contract's bytes, or the system has refused some of them. -/
theorem fill_cases {c : Contract} (hdraft : Disk.Draft path [] first disk)
    (hrun : fill conditions path c disk = (result, after)) :
    ∃ bytes, Disk.Draft path bytes first after ∧
      ((∃ fault, result = .error fault ∧ fault.OfSystem) ∧ ¬ conditions.Fair ∨
        result = .ok () ∧ bytes = c.toBytes) := by
  rw [fill, Outcome.run_bind] at hrun
  rcases htext : writeText conditions path (Utf8.encode c.toJson.indented) disk with
    ⟨outcome, texted⟩
  rw [htext] at hrun
  obtain ⟨bytes, hdraft, ⟨⟨fault, rfl, hfault⟩, hblocked⟩ | ⟨rfl, hbytes⟩⟩ :=
    writeText_cases hdraft htext
  · obtain ⟨rfl, rfl⟩ := Prod.mk.inj hrun
    exact ⟨bytes, hdraft, .inl ⟨⟨fault, rfl, hfault⟩, hblocked⟩⟩
  rw [hbytes] at hdraft
  dsimp only at hrun
  rw [Outcome.run_bind] at hrun
  obtain ⟨_, happend, hended⟩ := hdraft.append (Utf8.encode "\n")
  rcases hend : change (fun fault => .io path (fault.located path)) (fun disk =>
    conditions.attempt .endText (disk.append path (Utf8.encode "\n"))) texted with
    ⟨outcome, ended⟩
  rw [hend] at hrun
  rcases attempt_cases (fun _ => .io _ _) hend with
    ⟨⟨fault, rfl, hfault⟩, hblocked, rfl⟩ | ⟨rfl, hok⟩
  · obtain ⟨rfl, rfl⟩ := Prod.mk.inj hrun
    exact ⟨_, hdraft, .inl ⟨⟨fault, rfl, hfault⟩, fun hfair => hblocked ⟨hfair, _, happend⟩⟩⟩
  obtain rfl := Except.ok.inj (happend.symm.trans hok)
  have hwhole : Utf8.encode c.toJson.indented ++ Utf8.encode "\n" = c.toBytes :=
    (Utf8.encode_append _ _).symm
  rw [hwhole] at hended
  rcases attempt_cases (.io path) hrun with ⟨hfault, hblocked, rfl⟩ | ⟨rfl, hsame⟩
  · exact ⟨_, hended, .inl ⟨hfault, fun hfair => hblocked ⟨hfair, _, rfl⟩⟩⟩
  · obtain rfl := Except.ok.inj hsame
    exact ⟨_, hended, .inr ⟨rfl, rfl⟩⟩

/-- The new file takes the place of another one when it is whole. -/
theorem place_cases {target : String} {c : Contract} (hdraft : Disk.Draft path [] first disk)
    (htarget : first.resolve target = .ok (Path.names target))
    (hrun : (do
      fill conditions path c
      change (.io target) fun disk =>
        conditions.attempt .renameTemporary (disk.rename path target) : StoreOp Unit) disk =
      (result, after)) :
    ((∃ fault, result = .error fault ∧ fault.OfSystem) ∧
        ¬ (conditions.Fair ∧ first.entry? (Path.names target) ≠ some .directory) ∧
        ∃ bytes, Disk.Draft path bytes first after) ∨
      result = .ok () ∧ Disk.FileFrame [Path.names target] first after ∧
        after.file? (Path.names target) = some c.toBytes := by
  rw [Outcome.run_bind] at hrun
  rcases hfill : fill conditions path c disk with ⟨outcome, filled⟩
  rw [hfill] at hrun
  obtain ⟨bytes, hfilled, ⟨⟨fault, rfl, hfault⟩, hblocked⟩ | ⟨rfl, hbytes⟩⟩ :=
    fill_cases hdraft hfill
  · obtain ⟨rfl, rfl⟩ := Prod.mk.inj hrun
    exact .inl ⟨⟨fault, rfl, hfault⟩, fun h => hblocked h.1, bytes, hfilled⟩
  rw [hbytes] at hfilled
  rcases attempt_cases (.io target) hrun with ⟨hfault, hblocked, rfl⟩ | ⟨rfl, hrenamed⟩
  · refine .inl ⟨hfault, ?_, _, hfilled⟩
    rintro ⟨hfair, hfile⟩
    exact hblocked ⟨hfair, Disk.rename_of_file hfilled.resolve hfilled.entry
      (hfilled.frame.resolve htarget) (mt (hfilled.frame.noneMade _) hfile)⟩
  · exact .inr ⟨rfl, hfilled.rename hrenamed⟩

end Draft

/-- The pair's file is replaced, or it is as it was; then a temporary file may be left over. -/
theorem replaceFile_cases {c : Contract}
    (hresolve : disk.resolve (store.openedPath consumer provider) =
      .ok (store.fileNames consumer provider))
    (hrun : replaceFile conditions (Path.canonical store.directory)
      (store.openedPath consumer provider) c disk = (result, after)) :
    ((∃ fault, result = .error fault ∧ fault.OfSystem) ∧
        ¬ (conditions.Fair ∧ store.Replaceable consumer provider disk) ∧
        ∃ n, Disk.FileFrame [store.temporaryNames n] disk after) ∨
      result = .ok () ∧ Disk.FileFrame [store.fileNames consumer provider] disk after ∧
        after.file? (store.fileNames consumer provider) = some c.toBytes := by
  have hnames := names_openedPath store consumer provider
  obtain ⟨n, htemporary⟩ : ∃ n,
      disk.temporaryPath (Path.canonical store.directory) = store.temporaryPath n := ⟨_, rfl⟩
  have hspare (hreplaceable : store.Replaceable consumer provider disk) :
      ∃ created, disk.create (store.temporaryPath n) = .ok created := by
    rw [← htemporary]
    exact Disk.create_of_isFree (Disk.isFree_temporaryPath hreplaceable.spare)
  rw [replaceFile, Outcome.run_bind, Outcome.run_get] at hrun
  dsimp only at hrun
  rw [htemporary, Outcome.run_bind] at hrun
  rcases hcreate : change (fun fault => .io (Path.canonical store.directory)
    (fault.located (store.temporaryPath n))) (fun disk =>
      conditions.attempt .createTemporary (disk.create (store.temporaryPath n))) disk with
    ⟨outcome, created⟩
  rw [hcreate] at hrun
  rcases attempt_cases (fun _ => .io _ _) hcreate with
    ⟨⟨fault, rfl, hfault⟩, hblocked, rfl⟩ | ⟨rfl, hcreated⟩
  · obtain ⟨rfl, rfl⟩ := Prod.mk.inj hrun
    exact .inl ⟨⟨fault, rfl, hfault⟩, fun h => hblocked ⟨h.1, hspare h.2⟩, n, .refl _ _⟩
  have hdraft := Disk.create_eq_ok hcreated
  dsimp only at hrun
  rw [Outcome.run_tryCatch] at hrun
  rcases hplace : (do
      fill conditions (store.temporaryPath n) c
      change (.io (store.openedPath consumer provider)) fun disk =>
        conditions.attempt .renameTemporary
          (disk.rename (store.temporaryPath n) (store.openedPath consumer provider)) :
      StoreOp Unit) created with ⟨outcome, placed⟩
  rw [hplace] at hrun
  rcases place_cases hdraft (by rw [hnames, hresolve]) hplace with
    ⟨⟨fault, rfl, hfault⟩, hblocked, bytes, hplaced⟩ | ⟨rfl, hframe, hfile⟩
  · obtain ⟨rfl, rfl⟩ := Prod.mk.inj hrun
    rw [hnames] at hblocked
    refine .inl ⟨⟨fault, rfl, hfault⟩, fun h => hblocked ⟨h.1, h.2.file⟩, n, ?_⟩
    rw [← names_temporaryPath]
    -- the temporary file is left over when it cannot be removed
    split
    · exact hplaced.frame
    · exact hplaced.discard.mono (List.nil_subset _)
  · obtain ⟨rfl, rfl⟩ := Prod.mk.inj hrun
    rw [hnames] at hframe hfile
    exact .inr ⟨rfl, hframe, hfile⟩

end Store

end MessageContract
