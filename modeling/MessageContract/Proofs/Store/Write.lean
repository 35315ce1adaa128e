import MessageContract.Proofs.Contract.Merge
import MessageContract.Proofs.Contract.Reread
import MessageContract.Proofs.Store.Steps

/-!
Writing a contract file. A write passes through the directory, the lock file,
the file as it is, the merge and the new file, and each of these can end it.
`WriteResult` lists all that it can come to; everything about writing follows
from the one theorem that a write comes to nothing else.
-/

namespace MessageContract

namespace Store

open Conditions

/-! What a write comes to. -/

/-- The results of a write, with what the file holds before and after it. Where the way is
clear the write is not halted. -/
inductive WriteResult (clear : Prop) (c : Contract) (overwrite : Bool) (path : String)
    (before : Option (List UInt8)) :
    Except StoreFault Written → Option (List UInt8) → Prop where
  | halted {fault : StoreFault} (hfault : fault.OfSystem) (hblocked : ¬ clear) :
      WriteResult clear c overwrite path before (.error fault) before
  | corrupt {bytes : List UInt8} {error : Json.Error} (hreads : overwrite = false)
      (hbefore : before = some bytes) (hparse : Contract.ofBytes bytes = .error error) :
      WriteResult clear c overwrite path before (.error (.corrupt path error)) before
  | incompatible {bytes : List UInt8} {existing : Contract} {fault : MergeFault}
      (hreads : overwrite = false) (hbefore : before = some bytes)
      (hparse : Contract.ofBytes bytes = .ok existing) (hforeign : ¬ existing.Compatible c) :
      WriteResult clear c overwrite path before (.error (.incompatible fault)) before
  | new (hnew : overwrite = true ∨ before = none) :
      WriteResult clear c overwrite path before
        (.ok ⟨path, some (.written path c.entries.length c.entries.length overwrite)⟩)
        (some c.toBytes)
  | upToDate {bytes : List UInt8} {existing : Contract} (hreads : overwrite = false)
      (hbefore : before = some bytes) (hparse : Contract.ofBytes bytes = .ok existing)
      (hcompatible : existing.Compatible c)
      (hsame : (existing.merged c).same existing = true) :
      WriteResult clear c overwrite path before (.ok ⟨path, none⟩) before
  | merged {bytes : List UInt8} {existing : Contract} (hreads : overwrite = false)
      (hbefore : before = some bytes) (hparse : Contract.ofBytes bytes = .ok existing)
      (hcompatible : existing.Compatible c)
      (hdiffers : (existing.merged c).same existing = false) :
      WriteResult clear c overwrite path before
        (.ok ⟨path, some (.written path (Entry.fresh existing.entries c.entries).length
          (existing.merged c).entries.length overwrite)⟩)
        (some (existing.merged c).toBytes)

/-- The write has been halted by the system or by the file tree. -/
def Halted (result : Except StoreFault Written) : Prop :=
  ∃ fault, result = .error fault ∧ fault.OfSystem

theorem WriteResult.mono {clear clear' : Prop} {c : Contract} {overwrite : Bool} {path : String}
    {before now : Option (List UInt8)} {result : Except StoreFault Written}
    (h : WriteResult clear c overwrite path before result now) (himp : clear' → clear) :
    WriteResult clear' c overwrite path before result now := by
  cases h with
  | halted hfault hblocked => exact .halted hfault (mt himp hblocked)
  | corrupt hreads hbefore hparse => exact .corrupt hreads hbefore hparse
  | incompatible hreads hbefore hparse hforeign =>
      exact .incompatible hreads hbefore hparse hforeign
  | new hnew => exact .new hnew
  | upToDate hreads hbefore hparse hcompatible hsame =>
      exact .upToDate hreads hbefore hparse hcompatible hsame
  | merged hreads hbefore hparse hcompatible hdiffers =>
      exact .merged hreads hbefore hparse hcompatible hdiffers

/-- Beside a lock file that can be opened, the pair's file can be, under the path
that a write gives for it and under its own. -/
theorem resolve_of_lock {store : Store} {consumer provider : String} {disk : Disk}
    {found : List String}
    (hdirectory : disk.resolve store.directory = .ok (Path.names store.directory))
    (hlock : disk.resolve (lockFileName (store.openedPath consumer provider)) = .ok found) :
    disk.resolve (store.openedPath consumer provider) =
        .ok (store.fileNames consumer provider) ∧
      disk.resolve (store.path consumer provider) = .ok (store.fileNames consumer provider) ∧
      found = store.lockNames consumer provider := by
  have hname := isName_contractFileName consumer provider
  rw [lockFileName, openedPath, Path.join_append] at hlock
  obtain ⟨hnulHere, hnulLock, here, hwalk, hentry, hlength, rfl⟩ :=
    (Disk.resolve_join (isName_lockFileName hname)).mp hlock
  have hhere : here = Path.names store.directory := by
    rw [Disk.walk_eq_ok hwalk]
    exact Path.names_canonical store.directory
  subst hhere
  obtain ⟨-, hnulDirectory, hwalkDirectory, -⟩ := Disk.resolve_eq_ok hdirectory
  have hnul : Path.hasNul (contractFileName consumer provider) = false := by
    rw [lockFileName, Path.hasNul_append, Bool.or_eq_false_iff] at hnulLock
    exact hnulLock.1
  have hshort : (Utf8.encode (contractFileName consumer provider)).length ≤ Path.nameLimit := by
    rw [lockFileName, Utf8.encode_append, List.length_append] at hlength
    omega
  refine ⟨?_, ?_, rfl⟩
  · rw [openedPath, Disk.resolve_join hname]
    exact ⟨hnulHere, hnul, _, hwalk, hentry, hshort, fileNames_eq store consumer provider⟩
  · rw [path, Disk.resolve_join hname]
    exact ⟨hnulDirectory, hnul, _, hwalkDirectory, hentry, hshort,
      fileNames_eq store consumer provider⟩

/-- Where the pair's file can be opened, the store's directory is there. -/
theorem directory_of_resolve {store : Store} {consumer provider : String} {disk : Disk}
    (hdirectory : disk.resolve store.directory = .ok (Path.names store.directory))
    (hfile : disk.resolve (store.openedPath consumer provider) =
      .ok (store.fileNames consumer provider)) :
    disk.walk [] (Path.parts store.directory) = .ok (Path.names store.directory) ∧
      disk.entry? (Path.names store.directory) = some .directory := by
  obtain ⟨-, -, here, -, hentry, -, hfound⟩ :=
    (Disk.resolve_join (isName_contractFileName consumer provider)).mp hfile
  obtain ⟨rfl, -⟩ := List.append_inj' ((fileNames_eq store _ _).symm.trans hfound) rfl
  obtain ⟨-, -, hwalk, -⟩ := Disk.resolve_eq_ok hdirectory
  exact ⟨hwalk, hentry⟩

theorem fileNames_ne_lockNames (store : Store) (consumer provider : String) :
    store.fileNames consumer provider ≠ store.lockNames consumer provider :=
  ne_lockNames_of_isContractFile store consumer provider
    (isContractFile_fileNames store consumer provider)

theorem plan_none (c : Contract) : plan none c = .ok (some (c, c.entries.length)) := rfl

/-- What a file has to hold follows from how the two contracts compare. -/
theorem plan_some_cases (existing c : Contract) :
    (∃ fault, ¬ existing.Compatible c ∧ plan (some existing) c = .error (.incompatible fault)) ∨
      existing.Compatible c ∧
        plan (some existing) c =
          .ok (if (existing.merged c).same existing then none
            else some (existing.merged c, (Entry.fresh existing.entries c.entries).length)) := by
  by_cases hcompatible : existing.Compatible c
  · refine .inr ⟨hcompatible, ?_⟩
    simp only [plan, Contract.merge_of_compatible hcompatible]
  · obtain ⟨fault, hfault⟩ := Contract.merge_of_not_compatible hcompatible
    exact .inl ⟨fault, hcompatible, by simp only [plan, hfault]⟩

/-- The directory and the lock file are there. -/
structure Ready (store : Store) (consumer provider : String) (disk : Disk) : Prop where
  directory : disk.resolve store.directory = .ok (Path.names store.directory)
  lock : disk.resolve (lockFileName (store.openedPath consumer provider)) =
    .ok (store.lockNames consumer provider)
  locked : ∃ bytes, disk.file? (store.lockNames consumer provider) = some bytes

namespace Ready

variable {store : Store} {consumer provider : String} {disk after : Disk}

/-- The path that a write gives for the pair's file leads to it. -/
theorem resolve (h : store.Ready consumer provider disk) :
    disk.resolve (store.openedPath consumer provider) =
      .ok (store.fileNames consumer provider) :=
  (resolve_of_lock h.directory h.lock).1

/-- So does the path that the pair has for it. -/
theorem resolve_path (h : store.Ready consumer provider disk) :
    disk.resolve (store.path consumer provider) = .ok (store.fileNames consumer provider) :=
  (resolve_of_lock h.directory h.lock).2.1

theorem of_frame (h : store.Ready consumer provider disk) {n : Nat}
    (hframe : Disk.Frame [store.fileNames consumer provider, store.temporaryNames n] disk after) :
    store.Ready consumer provider after where
  directory := hframe.resolve h.directory
  lock := hframe.resolve h.lock
  locked := by
    have hnotFile := (fileNames_ne_lockNames store consumer provider).symm
    have hnotTemporary := (temporaryNames_ne_lockNames store consumer provider n).symm
    rw [hframe.files _ (by simp [hnotFile, hnotTemporary])]
    exact h.locked

end Ready

/-- An update has come to one of the listed results and has changed no other file, but for
a temporary one that may be left over. -/
structure Updated (store : Store) (conditions : Conditions) (c : Contract) (overwrite : Bool)
    (disk : Disk) (result : Except StoreFault Written) (after : Disk) : Prop where
  result : WriteResult (conditions.Fair ∧ store.Replaceable c.consumer c.provider disk) c
    overwrite (store.openedPath c.consumer c.provider)
    (disk.file? (store.fileNames c.consumer c.provider)) result
    (after.file? (store.fileNames c.consumer c.provider))
  frame : ∃ n, Disk.FileFrame
    [store.fileNames c.consumer c.provider, store.temporaryNames n] disk after

section Update

variable {store : Store} {conditions : Conditions} {c : Contract} {overwrite : Bool}
variable {disk after : Disk} {result : Except StoreFault Written}

/-- What there is to merge into, unless the file cannot be read. -/
theorem existingAt_cases (conditions : Conditions) {consumer provider : String}
    (hready : store.Ready consumer provider disk) :
    ((∃ fault, existingAt conditions disk (store.openedPath consumer provider) false =
          .error fault ∧ fault.OfSystem) ∧
        ¬ (conditions.Fair ∧ store.Replaceable consumer provider disk)) ∨
      existingAt conditions disk (store.openedPath consumer provider) false =
        match disk.file? (store.fileNames consumer provider) with
        | none => .ok none
        | some bytes =>
            match Contract.ofBytes bytes with
            | .ok c => .ok (some c)
            | .error e => .error (.corrupt (store.openedPath consumer provider) e) := by
  have hnames := names_openedPath store consumer provider
  rw [existingAt, if_neg Bool.false_ne_true]
  cases hrefusal : conditions.refusal? .readFile with
  | some refusal =>
      rw [attempt, hrefusal]
      refine .inl ⟨⟨_, rfl, .io _ _⟩, ?_⟩
      rintro ⟨hfair, -⟩
      rw [hfair .readFile] at hrefusal
      cases hrefusal
  | none =>
      rw [attempt, hrefusal]
      dsimp only
      have hresolve := hready.resolve
      rw [← hnames] at hresolve
      have hread := Disk.read_cases hresolve
      rw [hnames] at hread
      rcases hread with ⟨hread, hfile⟩ | ⟨hread, hentry⟩ | ⟨bytes, hread, hfile⟩
      · rw [hread, hfile]
        exact .inr rfl
      · rw [hread]
        exact .inl ⟨⟨_, rfl, .io _ _⟩, fun h => h.2.file hentry⟩
      · rw [hread, hfile]
        exact .inr rfl

/-- An update runs from what it has to merge into. -/
theorem run_update (conditions : Conditions) (directory path : String) (c : Contract)
    (overwrite : Bool) (disk : Disk) :
    update conditions directory path c overwrite disk =
      match existingAt conditions disk path overwrite with
      | .error fault => (.error fault, disk)
      | .ok existing =>
          match plan existing c with
          | .error fault => (.error fault, disk)
          | .ok none => (.ok ⟨path, none⟩, disk)
          | .ok (some (content, added)) =>
              (do
                replaceFile conditions directory path content
                return ⟨path, some (.written path added content.entries.length overwrite)⟩ :
                  StoreOp Written) disk := by
  rw [update, Outcome.run_bind, Outcome.run_get]
  dsimp only
  rw [Outcome.run_bind, Outcome.run_lift]
  cases existingAt conditions disk path overwrite with
  | error fault => rfl
  | ok existing =>
      dsimp only
      rw [Outcome.run_bind, Outcome.run_lift]
      rcases plan existing c with _ | _ | ⟨content, added⟩ <;> rfl

/-- The end of an update: the planned content takes the file's place. -/
theorem replaced_cases {consumer provider : String} {content : Contract} {written : Written}
    (hready : store.Ready consumer provider disk)
    (hrun : (do
      replaceFile conditions (Path.canonical store.directory)
        (store.openedPath consumer provider) content
      return written : StoreOp Written) disk = (result, after)) :
    (∃ n, Disk.FileFrame [store.fileNames consumer provider, store.temporaryNames n] disk after) ∧
      (((∃ fault, result = .error fault ∧ fault.OfSystem) ∧
          ¬ (conditions.Fair ∧ store.Replaceable consumer provider disk) ∧
          after.file? (store.fileNames consumer provider) =
            disk.file? (store.fileNames consumer provider)) ∨
        result = .ok written ∧
          after.file? (store.fileNames consumer provider) = some content.toBytes) := by
  rw [Outcome.run_bind] at hrun
  rcases hreplace : replaceFile conditions (Path.canonical store.directory)
    (store.openedPath consumer provider) content disk with ⟨outcome, replaced⟩
  rw [hreplace] at hrun
  rcases replaceFile_cases hready.resolve hreplace with
    ⟨⟨fault, rfl, hfault⟩, hblocked, n, hframe⟩ | ⟨rfl, hframe, hfile⟩
  · obtain ⟨rfl, rfl⟩ := Prod.mk.inj hrun
    refine ⟨⟨n, hframe.mono (by simp)⟩, .inl ⟨⟨fault, rfl, hfault⟩, hblocked, ?_⟩⟩
    apply hframe.files
    rw [List.mem_singleton]
    exact (temporaryNames_ne_fileNames store consumer provider n).symm
  · obtain ⟨rfl, rfl⟩ := Prod.mk.inj hrun
    exact ⟨⟨0, hframe.mono (by simp)⟩, .inr ⟨rfl, hfile⟩⟩

/-- A file that need not be read is made anew. -/
theorem update_new_cases (hready : store.Ready c.consumer c.provider disk)
    (hnone : existingAt conditions disk (store.openedPath c.consumer c.provider) overwrite =
      .ok none)
    (hfresh : overwrite = true ∨ disk.file? (store.fileNames c.consumer c.provider) = none)
    (hrun : update conditions (Path.canonical store.directory)
      (store.openedPath c.consumer c.provider) c overwrite disk = (result, after)) :
    Updated store conditions c overwrite disk result after := by
  rw [run_update, hnone] at hrun
  dsimp only at hrun
  rw [plan_none] at hrun
  obtain ⟨hframe, ⟨⟨fault, rfl, hfault⟩, hblocked, hfile⟩ | ⟨rfl, hfile⟩⟩ :=
    replaced_cases hready hrun
  · refine ⟨?_, hframe⟩
    rw [hfile]
    exact .halted hfault hblocked
  · refine ⟨?_, hframe⟩
    rw [hfile]
    exact .new hfresh

/-- A file that can be read is merged into. -/
theorem update_merge_cases (hready : store.Ready c.consumer c.provider disk)
    {bytes : List UInt8} {existing : Contract}
    (hexisting : existingAt conditions disk (store.openedPath c.consumer c.provider) overwrite =
      .ok (some existing))
    (hreads : overwrite = false)
    (hbefore : disk.file? (store.fileNames c.consumer c.provider) = some bytes)
    (hparse : Contract.ofBytes bytes = .ok existing)
    (hrun : update conditions (Path.canonical store.directory)
      (store.openedPath c.consumer c.provider) c overwrite disk = (result, after)) :
    Updated store conditions c overwrite disk result after := by
  rw [run_update, hexisting] at hrun
  dsimp only at hrun
  rcases plan_some_cases existing c with ⟨fault, hforeign, hplan⟩ | ⟨hcompatible, hplan⟩
  · rw [hplan] at hrun
    obtain ⟨rfl, rfl⟩ := Prod.mk.inj hrun
    exact ⟨.incompatible hreads hbefore hparse hforeign, 0, .refl _ _⟩
  cases hsame : (existing.merged c).same existing with
  | true =>
      rw [hplan, hsame] at hrun
      obtain ⟨rfl, rfl⟩ := Prod.mk.inj hrun
      exact ⟨.upToDate hreads hbefore hparse hcompatible hsame, 0, .refl _ _⟩
  | false =>
      rw [hplan, hsame] at hrun
      obtain ⟨hframe, ⟨⟨fault, rfl, hfault⟩, hblocked, hfile⟩ | ⟨rfl, hfile⟩⟩ :=
        replaced_cases hready hrun
      · refine ⟨?_, hframe⟩
        rw [hfile]
        exact .halted hfault hblocked
      · refine ⟨?_, hframe⟩
        rw [hfile]
        exact .merged hreads hbefore hparse hcompatible hsame

/-- Every update comes to that. -/
theorem update_cases (hready : store.Ready c.consumer c.provider disk)
    (hrun : update conditions (Path.canonical store.directory)
      (store.openedPath c.consumer c.provider) c overwrite disk = (result, after)) :
    Updated store conditions c overwrite disk result after := by
  cases overwrite with
  | true => exact update_new_cases hready rfl (.inl rfl) hrun
  | false =>
      rcases existingAt_cases conditions hready with
        ⟨⟨fault, hexisting, hfault⟩, hblocked⟩ | hexisting
      · rw [run_update, hexisting] at hrun
        obtain ⟨rfl, rfl⟩ := Prod.mk.inj hrun
        exact ⟨.halted hfault hblocked, 0, .refl _ _⟩
      cases hbefore : disk.file? (store.fileNames c.consumer c.provider) with
      | none =>
          rw [hbefore] at hexisting
          exact update_new_cases hready hexisting (.inr hbefore) hrun
      | some bytes =>
          rw [hbefore] at hexisting
          dsimp only at hexisting
          cases hparse : Contract.ofBytes bytes with
          | error e =>
              rw [run_update, hexisting, hparse] at hrun
              obtain ⟨rfl, rfl⟩ := Prod.mk.inj hrun
              exact ⟨.corrupt rfl hbefore hparse, 0, .refl _ _⟩
          | ok existing =>
              rw [hparse] at hexisting
              exact update_merge_cases hready hexisting rfl hbefore hparse hrun

end Update

section Write

variable {store : Store} {conditions : Conditions} {c : Contract} {overwrite : Bool}
variable {disk after : Disk} {result : Except StoreFault Written}

/-- A write stops on the way to the lock, or is an update from then on. -/
theorem write_cases (hrun : store.writeUnder conditions c overwrite disk = (result, after)) :
    let opened := disk.withDirectories conditions.directories store.directory
    let lockPath := lockFileName (store.openedPath c.consumer c.provider)
    let halts := (∃ fault, result = .error fault ∧ fault.OfSystem) ∧
      ¬ (conditions.Fair ∧ store.Clear c.consumer c.provider disk)
    halts ∧ after = opened ∨
      ∃ locked, opened.touch lockPath = .ok locked ∧
        opened.resolve store.directory = .ok (Path.names store.directory) ∧
        (halts ∧ after = locked ∨
          update conditions (Path.canonical store.directory)
            (store.openedPath c.consumer c.provider) c overwrite locked = (result, after)) := by
  intro opened lockPath halts
  rw [writeUnder, Outcome.run_bind] at hrun
  rcases hopen : store.openDirectory conditions disk with ⟨outcome, afterOpening⟩
  rw [hopen] at hrun
  obtain ⟨rfl, ⟨⟨fault, rfl, hfault⟩, hblocked⟩ | ⟨rfl, hdirectory⟩⟩ := openDirectory_cases hopen
  · obtain ⟨rfl, rfl⟩ := Prod.mk.inj hrun
    exact .inl ⟨⟨⟨fault, rfl, hfault⟩, hblocked _ _⟩, rfl⟩
  dsimp only at hrun
  have hpath : Path.join (Path.canonical store.directory)
    (contractFileName c.consumer c.provider) = store.openedPath c.consumer c.provider := rfl
  rw [hpath, Outcome.run_bind] at hrun
  rcases hlock : lock conditions lockPath opened with ⟨outcome, locked⟩
  rw [hlock] at hrun
  rcases lock_cases hlock with ⟨⟨fault, rfl, hfault⟩, hblocked, htouch⟩ | ⟨rfl, htouch⟩
  · obtain ⟨rfl, rfl⟩ := Prod.mk.inj hrun
    have hhalts : halts := by
      refine ⟨⟨fault, rfl, hfault⟩, ?_⟩
      rintro ⟨hfair, hclear⟩
      refine hblocked ⟨hfair, ?_⟩
      have hlock := hclear.lock
      rwa [opened_of_fair hfair] at hlock
    rcases htouch with rfl | htouch
    · exact .inl ⟨hhalts, rfl⟩
    · exact .inr ⟨locked, htouch, hdirectory, .inl ⟨hhalts, rfl⟩⟩
  · exact .inr ⟨locked, htouch, hdirectory, .inr hrun⟩

theorem ready_of_touch {consumer provider : String} {locked : Disk}
    (hdirectory : disk.resolve store.directory = .ok (Path.names store.directory))
    (htouch : disk.touch (lockFileName (store.openedPath consumer provider)) = .ok locked) :
    Disk.FileFrame [store.lockNames consumer provider] disk locked ∧
      store.Ready consumer provider locked := by
  obtain ⟨hlock, hframe⟩ := Disk.touch_eq_ok htouch
  have hlocked := Disk.file?_of_touch htouch
  obtain ⟨-, -, hnames⟩ := resolve_of_lock hdirectory hlock
  rw [hnames] at hlock hframe hlocked
  exact ⟨hframe, hframe.resolve hdirectory, hframe.resolve hlock, hlocked⟩

/-- Opening the lock file leaves the way clear. -/
theorem Clear.replaceable {consumer provider : String} {locked : Disk}
    (hclear : store.Clear consumer provider disk)
    (hframe : Disk.FileFrame [store.lockNames consumer provider] (store.opened disk) locked) :
    store.Replaceable consumer provider locked where
  file := by
    have hnotLock := fileNames_ne_lockNames store consumer provider
    rw [hframe.entry? (hframe.files _ (by simpa using hnotLock))]
    exact hclear.file
  spare := by
    obtain ⟨n, hn, hfree⟩ := hclear.spare
    have hnotLock := temporaryNames_ne_lockNames store consumer provider n
    obtain ⟨hresolve, hentry⟩ := Disk.isFree_iff.mp hfree
    rw [names_temporaryPath] at hentry
    refine ⟨n, hn, Disk.isFree_iff.mpr ⟨hframe.resolve hresolve, ?_⟩⟩
    rw [names_temporaryPath, hframe.entry? (hframe.files _ (by simpa using hnotLock)), hentry]

/-- No directory goes away, and no contract file but the one with the names changes. -/
def KeepsOthers (names : List String) (before after : Disk) : Prop :=
  ∃ changed, Disk.Frame changed before after ∧
    ∀ other ∈ changed, IsContractFile other → other = names

theorem KeepsOthers.file? {names other : List String} (h : KeepsOthers names disk after)
    (hother : IsContractFile other) (hne : other ≠ names) :
    after.file? other = disk.file? other := by
  obtain ⟨changed, hframe, hchanged⟩ := h
  exact hframe.files other fun hmem => hne (hchanged other hmem hother)

/-- A write comes to one of the listed results, changes no other contract file, and after
a success the path of the pair's file leads to it. -/
theorem write_spec (hrun : store.writeUnder conditions c overwrite disk = (result, after)) :
    WriteResult (conditions.Fair ∧ store.Clear c.consumer c.provider disk) c overwrite
        (store.openedPath c.consumer c.provider)
        (disk.file? (store.fileNames c.consumer c.provider)) result
        (after.file? (store.fileNames c.consumer c.provider)) ∧
      KeepsOthers (store.fileNames c.consumer c.provider) disk after ∧
      ((∃ written, result = .ok written) →
        after.resolve (store.path c.consumer c.provider) =
          .ok (store.fileNames c.consumer c.provider)) := by
  have hnotLock := fileNames_ne_lockNames store c.consumer c.provider
  have hopened : Disk.Frame [] disk (disk.withDirectories conditions.directories store.directory) :=
    Disk.frame_withDirectories disk store.directory
  rcases write_cases hrun with ⟨⟨⟨fault, rfl, hfault⟩, hblocked⟩, rfl⟩ |
    ⟨locked, htouch, hdirectory, hrest⟩
  · rw [hopened.files _ List.not_mem_nil]
    exact ⟨.halted hfault hblocked, ⟨[], hopened, List.forall_mem_nil _⟩, by simp⟩
  obtain ⟨htouched, hready⟩ := ready_of_touch hdirectory htouch
  have hlocked := hopened.trans htouched.toFrame
  have hsame : locked.file? (store.fileNames c.consumer c.provider) =
      disk.file? (store.fileNames c.consumer c.provider) :=
    hlocked.files _ (by simpa using hnotLock)
  rcases hrest with ⟨⟨⟨fault, rfl, hfault⟩, hblocked⟩, rfl⟩ | hupdate
  · rw [hsame]
    refine ⟨.halted hfault hblocked, ⟨_, hlocked, ?_⟩, by simp⟩
    intro other hother hcontract
    obtain rfl := List.mem_singleton.mp hother
    exact absurd hcontract (not_isContractFile_lockNames store _ _)
  · obtain ⟨hresult, n, hchanged⟩ := update_cases hready hupdate
    rw [hsame] at hresult
    refine ⟨hresult.mono ?_, ⟨_, hlocked.trans hchanged.toFrame, ?_⟩,
      fun _ => hchanged.resolve hready.resolve_path⟩
    · rintro ⟨hfair, hclear⟩
      rw [← opened_of_fair hfair] at htouched
      exact ⟨hfair, hclear.replaceable htouched⟩
    · intro other hother hcontract
      simp only [List.nil_append, List.cons_append, List.mem_cons, List.not_mem_nil,
        or_false] at hother
      rcases hother with rfl | rfl | rfl
      · exact absurd hcontract (not_isContractFile_lockNames store _ _)
      · rfl
      · exact absurd hcontract (not_isContractFile_temporaryNames store n)

end Write

namespace WriteResult

variable {clear : Prop} {c : Contract} {overwrite : Bool} {path : String}
variable {before now : Option (List UInt8)} {result : Except StoreFault Written}

/-- A failure leaves the bytes. It comes from a step that does not pass, or from the
contract that is in a file that is read. -/
theorem of_error {fault : StoreFault}
    (h : WriteResult clear c overwrite path before (.error fault) now) :
    now = before ∧ (fault.OfSystem ∨ overwrite = false ∧
      ((∃ error, fault = .corrupt path error) ∨ ∃ cause, fault = .incompatible cause)) := by
  cases h with
  | halted hfault => exact ⟨rfl, .inl hfault⟩
  | corrupt hreads => exact ⟨rfl, .inr ⟨hreads, .inl ⟨_, rfl⟩⟩⟩
  | incompatible hreads => exact ⟨rfl, .inr ⟨hreads, .inr ⟨_, rfl⟩⟩⟩

/-- Where the way is clear a write is not halted. -/
theorem not_halted (h : WriteResult clear c overwrite path before result now) (hclear : clear) :
    ¬ Halted result := by
  rintro ⟨fault, rfl, hfault⟩
  cases h with
  | halted _ hblocked => exact hblocked hclear
  | corrupt => cases hfault
  | incompatible => cases hfault

/-- If it is not halted, the contract in the file is the only reason to fail. -/
theorem ok_iff (h : WriteResult clear c overwrite path before result now)
    (hpasses : ¬ Halted result) :
    (∃ written, result = .ok written) ↔
      overwrite = true ∨ ∀ bytes, before = some bytes →
        ∃ existing, Contract.ofBytes bytes = .ok existing ∧ existing.Compatible c := by
  cases h with
  | halted hfault => exact absurd ⟨_, rfl, hfault⟩ hpasses
  | corrupt hreads hbefore hparse => simp [hreads, hbefore, hparse]
  | incompatible hreads hbefore hparse hforeign => simp [hreads, hbefore, hparse, hforeign]
  | new hnew => rcases hnew with hnew | hnew <;> simp [hnew]
  | upToDate hreads hbefore hparse hcompatible => simp [hbefore, hparse, hcompatible]
  | merged hreads hbefore hparse hcompatible => simp [hbefore, hparse, hcompatible]

theorem corrupt_iff (h : WriteResult clear c overwrite path before result now)
    (hpasses : ¬ Halted result) (error : Json.Error) :
    result = .error (.corrupt path error) ↔
      overwrite = false ∧ ∃ bytes, before = some bytes ∧
        Contract.ofBytes bytes = .error error := by
  cases h with
  | halted hfault => exact absurd ⟨_, rfl, hfault⟩ hpasses
  | corrupt hreads hbefore hparse => simp [hreads, hbefore, hparse]
  | incompatible hreads hbefore hparse hforeign => simp [hbefore, hparse]
  | new hnew => rcases hnew with hnew | hnew <;> simp [hnew]
  | upToDate hreads hbefore hparse => simp [hbefore, hparse]
  | merged hreads hbefore hparse => simp [hbefore, hparse]

theorem incompatible_iff (h : WriteResult clear c overwrite path before result now)
    (hpasses : ¬ Halted result) :
    (∃ cause, result = .error (.incompatible cause)) ↔
      overwrite = false ∧ ∃ bytes existing, before = some bytes ∧
        Contract.ofBytes bytes = .ok existing ∧ ¬ existing.Compatible c := by
  cases h with
  | halted hfault => exact absurd ⟨_, rfl, hfault⟩ hpasses
  | corrupt hreads hbefore hparse => simp [hbefore, hparse]
  | incompatible hreads hbefore hparse hforeign => simp [hreads, hbefore, hparse, hforeign]
  | new hnew => rcases hnew with hnew | hnew <;> simp [hnew]
  | upToDate hreads hbefore hparse hcompatible => simp [hbefore, hparse, hcompatible]
  | merged hreads hbefore hparse hcompatible => simp [hbefore, hparse, hcompatible]

theorem of_ok {written : Written}
    (h : WriteResult clear c overwrite path before (.ok written) now) :
    written.path = path ∧
    match if overwrite then none else before with
    | none =>
        now = some c.toBytes ∧
          written.event = some (.written path c.entries.length c.entries.length overwrite)
    | some bytes =>
        ∃ existing merged added, Contract.ofBytes bytes = .ok existing ∧
          existing.merge c = .ok (merged, added) ∧
          merged.entries.length = existing.entries.length + added ∧
          if merged.same existing then now = some bytes ∧ written.event = none
          else now = some merged.toBytes ∧
            written.event = some (.written path added merged.entries.length overwrite) := by
  cases h with
  | new hnew => rcases hnew with rfl | rfl <;> simp
  | @upToDate bytes existing hreads hbefore hparse hcompatible hsame =>
      subst hreads hbefore
      refine ⟨rfl, existing, _, _, hparse, Contract.merge_of_compatible hcompatible,
        existing.length_merged c, ?_⟩
      rw [if_pos hsame]
      exact ⟨rfl, rfl⟩
  | @merged bytes existing hreads hbefore hparse hcompatible hdiffers =>
      subst hreads hbefore
      refine ⟨rfl, existing, _, _, hparse, Contract.merge_of_compatible hcompatible,
        existing.length_merged c, ?_⟩
      rw [if_neg (Bool.eq_false_iff.mp hdiffers)]
      exact ⟨rfl, rfl⟩

end WriteResult

/-- A write is all or nothing, whatever the system refuses of it. No other contract file
changes. A write that fails leaves the file as it was. It is not halted where the system
refuses nothing and the file tree allows every step, and if it is not, it succeeds unless it
reads the file and finds no contract, or one that cannot become one with the new contract. A
write that succeeds leaves the contract itself or the merged one, and reports it, or it leaves
a file alone that is up to date. -/
theorem write_all_or_nothing (store : Store) (conditions : Conditions) (c : Contract)
    (overwrite : Bool) (disk : Disk) :
    let file := store.fileNames c.consumer c.provider
    let path := store.openedPath c.consumer c.provider
    let before := disk.file? file
    let result := (store.writeUnder conditions c overwrite disk).1
    let after := (store.writeUnder conditions c overwrite disk).2
    (∀ names, IsContractFile names → names ≠ file → after.file? names = disk.file? names) ∧
    (∀ fault, result = .error fault → after.file? file = before ∧
      (fault.OfSystem ∨ overwrite = false ∧
        ((∃ error, fault = .corrupt path error) ∨ ∃ cause, fault = .incompatible cause))) ∧
    (conditions.Fair → store.Clear c.consumer c.provider disk → ¬ Halted result) ∧
    (¬ Halted result →
      ((∃ written, result = .ok written) ↔
        overwrite = true ∨ ∀ bytes, before = some bytes →
          ∃ existing, Contract.ofBytes bytes = .ok existing ∧
            existing.consumer = c.consumer ∧ existing.provider = c.provider ∧
            existing.metadata.specification = c.metadata.specification) ∧
      (∀ error, result = .error (.corrupt path error) ↔
        overwrite = false ∧ ∃ bytes, before = some bytes ∧
          Contract.ofBytes bytes = .error error) ∧
      ((∃ cause, result = .error (.incompatible cause)) ↔
        overwrite = false ∧ ∃ bytes existing, before = some bytes ∧
          Contract.ofBytes bytes = .ok existing ∧
          (existing.consumer ≠ c.consumer ∨ existing.provider ≠ c.provider ∨
            existing.metadata.specification ≠ c.metadata.specification))) ∧
    ∀ written, result = .ok written → written.path = path ∧
      match if overwrite then none else before with
      | none =>
          after.file? file = some c.toBytes ∧
            written.event = some (.written path c.entries.length c.entries.length overwrite)
      | some bytes =>
          ∃ existing merged added, Contract.ofBytes bytes = .ok existing ∧
            existing.merge c = .ok (merged, added) ∧
            merged.entries.length = existing.entries.length + added ∧
            if merged.same existing then after.file? file = some bytes ∧ written.event = none
            else after.file? file = some merged.toBytes ∧
              written.event = some (.written path added merged.entries.length overwrite) := by
  rcases hrun : store.writeUnder conditions c overwrite disk with ⟨result, after⟩
  obtain ⟨hresult, hothers, -⟩ := write_spec hrun
  dsimp only
  refine ⟨?_, ?_, ?_, ?_, ?_⟩
  · intro names hnames hne
    exact hothers.file? hnames hne
  · rintro fault rfl
    exact hresult.of_error
  · intro hfair hclear
    exact hresult.not_halted ⟨hfair, hclear⟩
  · intro hpasses
    refine ⟨?_, hresult.corrupt_iff hpasses, ?_⟩
    · rw [hresult.ok_iff hpasses]
      simp only [Contract.Compatible, eq_comm]
    · rw [hresult.incompatible_iff hpasses]
      simp only [Contract.Compatible, not_and_or, ne_eq, eq_comm]
  · rintro written rfl
    exact hresult.of_ok

/-! The file of a pair with an entry of another tool, a message that it does not have, and a
disk that is full after the first 100 bytes, from which nothing can be removed. -/

def requestContract : Contract :=
  { consumer := "shop", provider := "stock", entries := [.other (.string "request")]
    metadata := { specification := "4.0", extra := [] } }

def eventContract : Contract :=
  ((Contract.new "shop" "stock").add { description := "an event" }).1

def requestDisk : Disk :=
  { entries := [(["pacts"], .directory),
      (["pacts", "shop-stock.json"], .file requestContract.toBytes)] }

def fullDisk : Conditions where
  refusal? step :=
    if step = .writeText then some .noSpace
    else if step = .removeTemporary then some .inputOutput
    else none
  room := 100

theorem clear_requestDisk : Clear ⟨"pacts"⟩ "shop" "stock" requestDisk where
  made := by decide +kernel
  found := Outcome.exists_of_isOk (by decide +kernel)
  lock := Outcome.exists_of_isOk (by decide +kernel)
  file := by decide +kernel
  spare := ⟨0, by decide, by decide +kernel⟩

theorem writeUnder_fullDisk :
    (writeUnder fullDisk ⟨"pacts"⟩ eventContract true requestDisk).1.map (fun _ => ()) =
      .error (.serialization
        ⟨.unwritten (DiskFault.located "pacts/.tmp0" (.refused .noSpace)).message, none⟩) := by
  with_unfolding_all rfl

/-- The message is merged into the file, which makes two entries. On the full disk the file
cannot even be overwritten: it is as it was. -/
theorem write_all_or_nothing_beside_request :
    let store : Store := ⟨"pacts"⟩
    let path := "pacts/shop-stock.json"
    let noSpace : DiskFault := .located "pacts/.tmp0" (.refused .noSpace)
    store.Clear "shop" "stock" requestDisk ∧
    (∃ after, store.writeUnder .fair eventContract false requestDisk =
        (.ok ⟨path, some (.written path 1 2 false)⟩, after) ∧
      after.file? ["pacts", "shop-stock.json"] =
        some (requestContract.merged eventContract).toBytes) ∧
    ∃ after, store.writeUnder fullDisk eventContract true requestDisk =
        (.error (.serialization ⟨.unwritten noSpace.message, none⟩), after) ∧
      after.file? ["pacts", "shop-stock.json"] = some requestContract.toBytes := by
  intro store path noSpace
  have hnames : store.fileNames eventContract.consumer eventContract.provider =
      ["pacts", "shop-stock.json"] := by decide +kernel
  have hpath : store.openedPath eventContract.consumer eventContract.provider = path := by
    decide +kernel
  have hbefore : requestDisk.file? ["pacts", "shop-stock.json"] = some requestContract.toBytes :=
    rfl
  have hparse : Contract.ofBytes requestContract.toBytes = .ok requestContract :=
    (Contract.ofBytes_toBytes requestContract requestContract).mpr rfl
  refine ⟨clear_requestDisk, ?_, ?_⟩
  · obtain ⟨-, -, hclear, hforced, hwrites⟩ :=
      write_all_or_nothing store .fair eventContract false requestDisk
    obtain ⟨hsucceeds, -⟩ := hforced (hclear fair_fair clear_requestDisk)
    obtain ⟨⟨path', event⟩, hok⟩ := hsucceeds.mpr (.inr (by
      intro bytes hbytes
      rw [hnames, hbefore] at hbytes
      obtain rfl := Option.some.inj hbytes
      exact ⟨requestContract, hparse, rfl, rfl, rfl⟩))
    obtain ⟨hwritten, hmade⟩ := hwrites _ hok
    rw [hnames, hbefore, hpath] at hmade
    obtain ⟨existing, merged, added, hexisting, hmerge, -, hfile⟩ := hmade
    obtain rfl := Except.ok.inj (hparse.symm.trans hexisting)
    have hcompatible : requestContract.Compatible eventContract := ⟨rfl, rfl, rfl⟩
    obtain ⟨rfl, rfl⟩ := Prod.mk.inj
      (Except.ok.inj ((Contract.merge_of_compatible hcompatible).symm.trans hmerge))
    have hdiffers : (requestContract.merged eventContract).same requestContract = false := by
      decide +kernel
    rw [hdiffers, if_neg Bool.false_ne_true] at hfile
    obtain ⟨hfile, rfl⟩ := hfile
    obtain rfl := hwritten.trans hpath
    rcases hrun : store.writeUnder .fair eventContract false requestDisk with ⟨result, after⟩
    rw [hrun] at hok hfile
    obtain rfl := hok
    exact ⟨after, rfl, hfile⟩
  · obtain ⟨-, hfails, -⟩ := write_all_or_nothing store fullDisk eventContract true requestDisk
    have hhalted := writeUnder_fullDisk
    rw [hnames] at hfails
    rcases hrun : store.writeUnder fullDisk eventContract true requestDisk with
      ⟨fault | written, after⟩
    · rw [hrun] at hfails hhalted
      obtain rfl := Except.error.inj hhalted
      exact ⟨after, rfl, (hfails _ rfl).1.trans hbefore⟩
    · rw [hrun] at hhalted
      cases hhalted

end Store

end MessageContract
