import MessageContract.Proofs.Contract.ReadsAlike
import MessageContract.Proofs.Directory
import MessageContract.Proofs.Store.Write

/-!
Writing a contract again. A contract that another one has been merged into absorbs it
from then on: it has an entry like each of the other's, and its further members have
the other's laid over them. So when what a first write puts into the file is read back,
a second write finds nothing to do, and the file tree stays as it is.
-/

namespace MessageContract

namespace Contract

/-- Merging the other contract in changes nothing that sameness looks at. -/
structure Absorbs (ours theirs : Contract) : Prop where
  compatible : ours.Compatible theirs
  entries : ours.Covers theirs.entries
  extra : Fields.overlay ours.metadata.plain.extra theirs.metadata.plain.extra =
    ours.metadata.plain.extra

variable {ours theirs again : Contract}

theorem Absorbs.same_merged (h : ours.Absorbs theirs) : (ours.merged theirs).same ours = true := by
  have hfresh : Entry.fresh ours.entries theirs.entries = [] :=
    Entry.fresh_of_forall_known h.entries
  have hextra : (Fields.overlay ours.metadata.extra theirs.metadata.extra).mapValues Json.plain =
      ours.metadata.plain.extra := by
    rw [← Fields.overlay_mapValues]
    exact h.extra
  rw [same_iff_plain]
  simp only [merged, plain, Metadata.plain, hfresh, List.append_nil, hextra]

/-- The same contract absorbs the same. -/
theorem Absorbs.congr (h : ours.Absorbs theirs) (hsame : ours.same again = true) :
    again.Absorbs theirs := by
  have hplain := (same_iff_plain ours again).mp hsame
  have hmetadata : ours.metadata.plain = again.metadata.plain := congrArg metadata hplain
  refine ⟨?_, h.entries.congr hsame, ?_⟩
  · obtain ⟨hconsumer, hprovider, hversion⟩ := h.compatible
    have hours : ours.plain.consumer = again.plain.consumer := by rw [hplain]
    have htheirs : ours.plain.provider = again.plain.provider := by rw [hplain]
    have hspecification : ours.metadata.plain.specification = again.metadata.plain.specification :=
      by rw [hmetadata]
    exact ⟨hconsumer.trans hours, hprovider.trans htheirs, hversion.trans hspecification⟩
  · rw [← hmetadata]
    exact h.extra

theorem absorbs_merged (h : ours.Compatible theirs) : (ours.merged theirs).Absorbs theirs where
  compatible := h
  entries := covers_merged ours theirs
  extra := by
    have hlaid := Fields.overlay_overlay ours.metadata.plain.extra theirs.metadata.plain.extra
    simpa only [merged, Metadata.plain, Fields.overlay_mapValues] using hlaid

theorem absorbs_self (hextra : Fields.Sorted ours.metadata.extra) : ours.Absorbs ours where
  compatible := ⟨rfl, rfl, rfl⟩
  entries := fun _ hentry => List.mem_map_of_mem hentry
  extra := Fields.overlay_self (Fields.sorted_mapValues.mpr hextra)

/-- A contract that is read back is read as one that absorbs what it absorbs. -/
theorem ReadsBack.exists_absorbs (hreads : ours.ReadsBack) (h : ours.Absorbs theirs) :
    ∃ again, ofBytes ours.toBytes = .ok again ∧ again.Absorbs theirs := by
  obtain ⟨again, hparse, hsame⟩ := hreads
  refine ⟨again, hparse, h.congr ?_⟩
  rw [same_iff_plain] at hsame ⊢
  exact hsame.symm

end Contract

namespace Store

variable {store : Store} {c : Contract} {overwrite : Bool} {disk after : Disk} {written : Written}

/-- What a write puts into the pair's file is read back. Into a file that is up to date
nothing is put. -/
def PutsReadable (store : Store) (c : Contract) (disk : Disk) : Prop :=
  match disk.file? (store.fileNames c.consumer c.provider) with
  | none => c.ReadsBack
  | some bytes => ∀ existing, Contract.ofBytes bytes = .ok existing →
      (existing.merged c).same existing = false → (existing.merged c).ReadsBack

/-- The pair's file holds a contract that absorbs the given one. -/
def HoldsAbsorbing (store : Store) (c : Contract) (disk : Disk) : Prop :=
  ∃ bytes again, disk.file? (store.fileNames c.consumer c.provider) = some bytes ∧
    Contract.ofBytes bytes = .ok again ∧ again.Absorbs c

theorem holdsAbsorbing_of_write (hreads : store.PutsReadable c disk)
    (hrun : store.write c false disk = (.ok written, after)) : store.HoldsAbsorbing c after := by
  obtain ⟨hresult, -, -⟩ := write_spec hrun
  unfold PutsReadable at hreads
  generalize disk.file? (store.fileNames c.consumer c.provider) = before at hresult hreads
  generalize hnow : after.file? (store.fileNames c.consumer c.provider) = now at hresult
  cases hresult with
  | new hnew =>
      obtain rfl := hnew.resolve_left Bool.false_ne_true
      have hsorted := ((Contract.Metadata.survives_iff _).mp
        ((Contract.readsBack_iff c).mp hreads).2).1
      obtain ⟨again, hparse, habsorbs⟩ :=
        hreads.exists_absorbs (Contract.absorbs_self hsorted)
      exact ⟨_, again, hnow, hparse, habsorbs⟩
  | @upToDate bytes existing _ hbefore hparse hcompatible hsame =>
      exact ⟨bytes, existing, hnow.trans hbefore, hparse,
        (Contract.absorbs_merged hcompatible).congr hsame⟩
  | @merged bytes existing _ hbefore hparse hcompatible hdiffers =>
      subst hbefore
      obtain ⟨again, hparseNow, habsorbs⟩ :=
        (hreads existing hparse hdiffers).exists_absorbs (Contract.absorbs_merged hcompatible)
      exact ⟨_, again, hnow, hparseNow, habsorbs⟩

/-- A file is left alone whose contract absorbs the one to be written. -/
theorem update_of_absorbs (hready : store.Ready c.consumer c.provider disk)
    (hholds : store.HoldsAbsorbing c disk) (directory : String) :
    update .fair directory (store.openedPath c.consumer c.provider) c false disk =
      (.ok ⟨store.openedPath c.consumer c.provider, none⟩, disk) := by
  obtain ⟨bytes, again, hfile, hparse, habsorbs⟩ := hholds
  have hresolve := hready.resolve
  rw [← names_openedPath] at hresolve hfile
  have hread := Disk.read_of_file? hresolve hfile
  have hexisting : existingAt .fair disk (store.openedPath c.consumer c.provider) false =
      .ok (some again) := by
    rw [existingAt, if_neg Bool.false_ne_true, Conditions.attempt_of_fair Conditions.fair_fair,
      hread, contractOf, hparse]
  have hplan : plan (some again) c = .ok none := by
    simp only [plan, Contract.merge_of_compatible habsorbs.compatible, habsorbs.same_merged,
      if_true]
  simp only [run_update, hexisting, hplan]

/-- A write begins with the update when the directory and the lock file are there. -/
theorem write_of_ready (hready : store.Ready c.consumer c.provider disk) :
    store.write c overwrite disk =
      update .fair (Path.canonical store.directory) (store.openedPath c.consumer c.provider) c
        overwrite disk := by
  obtain ⟨hwalk, hentry⟩ := directory_of_resolve hready.directory hready.resolve
  obtain ⟨-, hnul, -, -⟩ := Disk.resolve_eq_ok hready.directory
  have hthere := Disk.isDirectoryAt_iff.mpr ⟨_, hwalk, hentry⟩
  have hcanonical := Disk.canonical_of_entry? hready.directory hentry
  have hopen : store.openDirectory .fair disk = (.ok (Path.canonical store.directory), disk) := by
    rw [openDirectory, Outcome.run_bind, makeDirectory,
      Disk.makeDirectories_of_isDirectoryAt hnul hthere]
    dsimp only
    rw [Outcome.run_bind, Outcome.run_get]
    simp only [hcanonical, Conditions.attempt_of_fair Conditions.fair_fair]
    rfl
  obtain ⟨bytes, hlocked⟩ := hready.locked
  have hlockNames : Path.names (lockFileName (store.openedPath c.consumer c.provider)) =
      store.lockNames c.consumer c.provider :=
    (Disk.resolve_eq_ok hready.lock).2.2.2.symm
  have htouch : disk.touch (lockFileName (store.openedPath c.consumer c.provider)) = .ok disk :=
    Disk.touch_of_file? (by rw [hlockNames, hready.lock]) (by rw [hlockNames, hlocked])
  have hlock : lock .fair (lockFileName (store.openedPath c.consumer c.provider)) disk =
      (.ok (), disk) := by
    rw [lock, Outcome.run_bind]
    simp only [run_change, Conditions.attempt_of_fair Conditions.fair_fair, htouch]
  have hpath : Path.join (Path.canonical store.directory)
    (contractFileName c.consumer c.provider) = store.openedPath c.consumer c.provider := rfl
  rw [write, writeUnder, Outcome.run_bind, hopen]
  dsimp only
  rw [hpath, Outcome.run_bind, hlock]

theorem ready_of_write (hrun : store.write c overwrite disk = (.ok written, after)) :
    store.Ready c.consumer c.provider after ∧
      written.path = store.openedPath c.consumer c.provider := by
  obtain ⟨hresult, -, -⟩ := write_spec hrun
  rcases write_cases hrun with ⟨⟨⟨_, herror, -⟩, -⟩, -⟩ |
    ⟨locked, htouch, hdirectory, ⟨⟨⟨_, herror, -⟩, -⟩, -⟩ | hupdate⟩
  · cases herror
  · cases herror
  obtain ⟨-, hready⟩ := ready_of_touch hdirectory htouch
  obtain ⟨-, n, hframe⟩ := update_cases hready hupdate
  exact ⟨hready.of_frame hframe.toFrame, hresult.of_ok.1⟩

/-- A write that succeeds is not to be repeated: when what it puts into the file is read
back, the same write finds nothing to do, reports nothing, and leaves every file and every
directory as it is. -/
theorem write_again (hreads : store.PutsReadable c disk)
    (hrun : store.write c false disk = (.ok written, after)) :
    store.write c false after = (.ok ⟨written.path, none⟩, after) := by
  obtain ⟨hready, hpath⟩ := ready_of_write hrun
  rw [write_of_ready hready, update_of_absorbs hready (holdsAbsorbing_of_write hreads hrun), hpath]

/-- A message is merged into a file with an entry of another tool, and merging it again does
nothing. -/
theorem write_again_beside_request :
    let store : Store := ⟨"pacts"⟩
    let foreign : Contract :=
      { consumer := "shop", provider := "stock"
        entries := [.other (.string "request")]
        metadata := { specification := "4.0", extra := [] } }
    let c : Contract := ((Contract.new "shop" "stock").add { description := "an event" }).1
    let disk : Disk :=
      { entries := [(["pacts"], .directory),
          (["pacts", "shop-stock.json"], .file foreign.toBytes)] }
    ∃ written after, store.write c false disk = (.ok written, after) ∧
      written.event.isSome = true ∧
      store.write c false after = (.ok ⟨written.path, none⟩, after) := by
  intro store foreign c disk
  have hreads : store.PutsReadable c disk := by
    have hnames : store.fileNames c.consumer c.provider = ["pacts", "shop-stock.json"] := by
      decide +kernel
    have hread : foreign.reread? = some foreign := rfl
    rw [PutsReadable, hnames]
    intro existing hparse _
    obtain rfl : foreign = existing :=
      Option.some.inj (hread.symm.trans ((Contract.ofBytes_toBytes foreign existing).mp hparse))
    refine Contract.ReadsBack.merged ((Contract.readsBack_iff_reread foreign).mpr ?_)
      ((Contract.readsBack_iff c).mpr ⟨?_, Contract.Metadata.survives_initial⟩)
    · rw [hread, Option.map_some]
    · intro entry hentry
      obtain rfl := List.mem_singleton.mp hentry
      exact rfl
  have hevent : (store.write c false disk).1.toOption.any (·.event.isSome) = true := by
    decide +kernel
  rcases hrun : store.write c false disk with ⟨fault | written, after⟩
  · rw [hrun] at hevent
    cases hevent
  · rw [hrun] at hevent
    exact ⟨written, after, rfl, hevent, write_again hreads hrun⟩

end Store

end MessageContract
