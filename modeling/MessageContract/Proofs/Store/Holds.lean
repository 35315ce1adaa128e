import MessageContract.Proofs.Contract.ReadsAlike
import MessageContract.Proofs.Store.Write

/-!
What a pair's file lists over several writes. A write adds to the list what is
fresh in the contract that is written, if it works, and nothing if it fails; and
what is done to other files adds nothing. Whatever the file held before, after a write
that works it lists something like each entry that was written.
-/

namespace MessageContract.Store

variable {store : Store} {conditions : Conditions} {consumer provider : String}
variable {disk after : Disk}

/-- The pair's file holds a contract with the entries, in their order, that is
read back; or there are no entries and no file. -/
def Holds (store : Store) (consumer provider : String) (disk : Disk) (entries : List Entry) :
    Prop :=
  (disk.file? (store.fileNames consumer provider) = none ∧ entries = []) ∨
    ∃ c, store.load disk consumer provider = .ok (some c) ∧
      Contract.sameEntries c.entries entries = true ∧ c.ReadsBack

theorem load_eq_some {c : Contract} :
    store.load disk consumer provider = .ok (some c) ↔
      disk.resolve (store.path consumer provider) = .ok (store.fileNames consumer provider) ∧
        ∃ bytes, disk.file? (store.fileNames consumer provider) = some bytes ∧
          Contract.ofBytes bytes = .ok c := by
  constructor
  · intro hload
    unfold load contractOf at hload
    cases hread : disk.read (store.path consumer provider) with
    | error fault =>
        rw [hread] at hload
        cases fault <;> cases hload
    | ok bytes =>
        obtain ⟨names, hresolve, hentry⟩ := Outcome.bind_eq_ok.mp hread
        obtain ⟨-, -, -, rfl⟩ := Disk.resolve_eq_ok hresolve
        have hfile : disk.file? (store.fileNames consumer provider) = some bytes := by
          split at hentry
          · cases hentry
          · cases hentry
          case h_3 hbytes =>
            obtain rfl := Except.ok.inj hentry
            exact Disk.file?_of_bytes hbytes
        refine ⟨hresolve, bytes, hfile, ?_⟩
        rw [hread] at hload
        dsimp only at hload
        cases hparse : Contract.ofBytes bytes with
        | error e =>
            rw [hparse] at hload
            cases hload
        | ok found =>
            rw [hparse] at hload
            rw [Option.some.inj (Except.ok.inj hload)]
  · rintro ⟨hresolve, bytes, hfile, hparse⟩
    have hread := Disk.read_of_file? hresolve hfile
    simp only [load, contractOf, hread, hparse]

/-- A file that is there holds a contract, or cannot be read. -/
theorem load_of_file {consumer provider : String} {bytes : List UInt8}
    (hresolve : disk.resolve (store.path consumer provider) =
      .ok (store.fileNames consumer provider))
    (hfile : disk.file? (store.fileNames consumer provider) = some bytes) :
    ((∃ c, Contract.ofBytes bytes = .ok c) →
      ∃ loaded, store.load disk consumer provider = .ok (some loaded)) ∧
    ((¬ ∃ c, Contract.ofBytes bytes = .ok c) →
      ∃ path error, store.load disk consumer provider = .error (.corrupt path error)) := by
  have hread := Disk.read_of_file? hresolve hfile
  simp only [load, hread, contractOf]
  cases Contract.ofBytes bytes with
  | ok c => simp
  | error e => simp

/-- Entries that are the same are like the same entries. -/
theorem fresh_congr_of_same {known known' : List Entry}
    (h : Contract.sameEntries known known' = true) (entries : List Entry) :
    Entry.fresh known entries = Entry.fresh known' entries := by
  have hcores := Entry.map_core_of_map_plain ((Contract.sameEntries_iff_plain _ _).mp h)
  apply Entry.fresh_congr
  intro c
  rw [hcores]

/-- Other files do not matter. -/
theorem Holds.of_frame {entries : List Entry} (h : store.Holds consumer provider disk entries)
    {changed : List (List String)} (hframe : Disk.Frame changed disk after)
    (hfile : after.file? (store.fileNames consumer provider) =
      disk.file? (store.fileNames consumer provider)) :
    store.Holds consumer provider after entries := by
  rcases h with ⟨habsent, hempty⟩ | ⟨c, hload, hsame, hreads⟩
  · exact .inl ⟨hfile.trans habsent, hempty⟩
  · obtain ⟨hresolve, bytes, hbytes, hparse⟩ := load_eq_some.mp hload
    refine .inr ⟨c, load_eq_some.mpr ⟨hframe.resolve hresolve, bytes, ?_, hparse⟩, hsame, hreads⟩
    exact hfile.trans hbytes

/-- A file that has just been written. -/
theorem Holds.of_bytes {c : Contract} {entries : List Entry}
    (hresolve : disk.resolve (store.path consumer provider) =
      .ok (store.fileNames consumer provider))
    (hfile : disk.file? (store.fileNames consumer provider) = some c.toBytes)
    (hreads : c.ReadsBack) (hsame : Contract.sameEntries c.entries entries = true) :
    store.Holds consumer provider disk entries := by
  have ⟨again, hparse, hagain⟩ := hreads
  have hentries : again.entries.map Entry.plain = entries.map Entry.plain := by
    rw [← (Contract.sameEntries_iff_plain _ _).mp hsame]
    exact congrArg Contract.entries ((Contract.same_iff_plain again c).mp hagain)
  exact .inr ⟨again, load_eq_some.mpr ⟨hresolve, _, hfile, hparse⟩,
    (Contract.sameEntries_iff_plain _ _).mpr hentries, (Contract.readsBack_congr hagain).mpr hreads⟩

theorem Holds.of_error {entries : List Entry} {c : Contract}
    (h : store.Holds c.consumer c.provider disk entries) {overwrite : Bool} {fault : StoreFault}
    (hrun : store.writeUnder conditions c overwrite disk = (.error fault, after)) :
    store.Holds c.consumer c.provider after entries := by
  obtain ⟨hresult, ⟨_, hframe, -⟩, -⟩ := write_spec hrun
  exact h.of_frame hframe hresult.of_error.1

/-- A write adds what is fresh. The contract that is written holds no like
entries, and it can be read back. -/
theorem Holds.of_write {entries : List Entry} {c : Contract}
    (h : store.Holds c.consumer c.provider disk entries) (hreads : c.ReadsBack)
    (hdistinct : Entry.fresh [] c.entries = c.entries) {written : Written}
    (hrun : store.writeUnder conditions c false disk = (.ok written, after)) :
    store.Holds c.consumer c.provider after (entries ++ Entry.fresh entries c.entries) := by
  obtain ⟨hresult, -, hresolve⟩ := write_spec hrun
  replace hresolve := hresolve ⟨written, rfl⟩
  have hrefl (l : List Entry) : Contract.sameEntries l l = true :=
    (Contract.sameEntries_iff_plain l l).mpr rfl
  rcases h with ⟨habsent, rfl⟩ | ⟨existing, hload, hsame, hreadsBefore⟩
  · rw [habsent] at hresult
    generalize hnow : after.file? (store.fileNames c.consumer c.provider) = now at hresult
    cases hresult with
    | new =>
        rw [hdistinct]
        exact .of_bytes hresolve hnow hreads (hrefl _)
    | upToDate _ hbefore => cases hbefore
    | merged _ hbefore => cases hbefore
  · obtain ⟨-, bytes, hbytes, hparse⟩ := load_eq_some.mp hload
    have hmerged : Contract.sameEntries (existing.merged c).entries
        (entries ++ Entry.fresh entries c.entries) = true := by
      rw [Contract.sameEntries_iff_plain] at hsame ⊢
      rw [Contract.merged, List.map_append, List.map_append, hsame,
        fresh_congr_of_same ((Contract.sameEntries_iff_plain _ _).mpr hsame)]
    rw [hbytes] at hresult
    generalize hnow : after.file? (store.fileNames c.consumer c.provider) = now at hresult
    cases hresult with
    | new hnew => simp at hnew
    | upToDate _ hbefore hparsed _ hupToDate =>
        obtain rfl := Option.some.inj hbefore
        obtain rfl := Except.ok.inj (hparse.symm.trans hparsed)
        refine .inr ⟨existing, load_eq_some.mpr ⟨hresolve, bytes, hnow, hparse⟩, ?_, hreadsBefore⟩
        rw [Contract.sameEntries_iff_plain] at hmerged ⊢
        rw [← hmerged]
        exact (congrArg Contract.entries ((Contract.same_iff_plain _ _).mp hupToDate)).symm
    | merged _ hbefore hparsed =>
        obtain rfl := Option.some.inj hbefore
        obtain rfl := Except.ok.inj (hparse.symm.trans hparsed)
        exact .of_bytes hresolve hnow (hreadsBefore.merged hreads) hmerged

/-- After a write that succeeds the file covers the contract that was written, whatever
it held before. -/
theorem covers_of_write {c : Contract} (hreads : c.ReadsBack) {overwrite : Bool}
    {written : Written}
    (hrun : store.writeUnder conditions c overwrite disk = (.ok written, after)) :
    ∃ loaded, store.load after c.consumer c.provider = .ok (some loaded) ∧
      loaded.Covers c.entries := by
  obtain ⟨hresult, -, hresolve⟩ := write_spec hrun
  replace hresolve := hresolve ⟨written, rfl⟩
  generalize hnow : after.file? (store.fileNames c.consumer c.provider) = now at hresult
  cases hresult with
  | new =>
      obtain ⟨again, hagain, hcovers⟩ := hreads.exists_covers
      have hparse := (Contract.ofBytes_toBytes c again).mpr hagain
      exact ⟨again, load_eq_some.mpr ⟨hresolve, _, hnow, hparse⟩, hcovers⟩
  | @upToDate bytes existing _ hbefore hparse _ hsame =>
      refine ⟨existing, load_eq_some.mpr ⟨hresolve, bytes, hnow.trans hbefore, hparse⟩, ?_⟩
      exact (Contract.covers_merged existing c).congr hsame
  | @merged bytes existing _ _ hparse =>
      obtain ⟨again, hagain, hcovers⟩ :=
        (Contract.loaded_of_ofBytes hparse).exists_covers_merged hreads
      have hparseNow := (Contract.ofBytes_toBytes _ again).mpr hagain
      exact ⟨again, load_eq_some.mpr ⟨hresolve, _, hnow, hparseNow⟩, hcovers⟩

end MessageContract.Store
