import MessageContract.Proofs.Directory
import MessageContract.Proofs.Store.Holds

/-!
What a write for one pair does to another pair. Whatever is loaded for a pair comes from
the pair's file, so pairs with files of their own do not see each other's writes. But two
pairs may have one file: a name may hold the dash that stands between the names, and some
characters are replaced. Such pairs are kept apart only as long as nothing is overwritten,
and by the names within the file; once a write for one of them has worked, the other one's
contract is not in the file.
-/

namespace MessageContract

/-! The names that keep pairs apart. -/

theorem append_separator_inj {separator : Char} {a b c d : List Char} (ha : separator ∉ a)
    (hc : separator ∉ c) (heq : a ++ separator :: b = c ++ separator :: d) : a = c ∧ b = d := by
  rcases List.append_eq_append_iff.mp heq with ⟨middle, rfl, hrest⟩ | ⟨middle, rfl, hrest⟩
  · cases middle with
    | nil => simpa using hrest
    | cons first others =>
        obtain rfl : separator = first := (List.cons.inj hrest).1
        simp at hc
  · cases middle with
    | nil => simpa [eq_comm] using hrest
    | cons first others =>
        obtain rfl : separator = first := (List.cons.inj hrest).1
        simp at ha

/-- Pairs have files of their own if no character has to be replaced and no consumer's
name has a dash. -/
theorem pair_of_contractFileName {a b c d : String}
    (hconsumers : ∀ ch ∈ a.toList ++ c.toList, isUnsafe ch = false ∧ ch ≠ '-')
    (hproviders : ∀ ch ∈ b.toList ++ d.toList, isUnsafe ch = false)
    (heq : contractFileName a b = contractFileName c d) : (a, b) = (c, d) := by
  rw [List.forall_mem_append] at hconsumers hproviders
  have hchars := congrArg String.toList heq
  rw [contractFileName_toList, contractFileName_toList,
    safeName_of_safe fun ch hch => (hconsumers.1 ch hch).1,
    safeName_of_safe fun ch hch => (hconsumers.2 ch hch).1,
    safeName_of_safe hproviders.1, safeName_of_safe hproviders.2] at hchars
  obtain ⟨hconsumer, hprovider⟩ := append_separator_inj
    (fun hdash => (hconsumers.1 '-' hdash).2 rfl) (fun hdash => (hconsumers.2 '-' hdash).2 rfl)
    (List.append_cancel_right hchars)
  rw [String.toList_inj.mp hconsumer, String.toList_inj.mp hprovider]

namespace Store

variable {store : Store} {conditions : Conditions} {c : Contract} {overwrite : Bool}
variable {disk after : Disk} {result : Except StoreFault Written} {consumer provider : String}

/-! What a pair loads while its file stays as it is. -/

/-- Where nothing is loaded for the pair, the store's directory is there, or the way to
the pair's file goes straight down a tree. -/
def Settled (store : Store) (consumer provider : String) (disk : Disk) : Prop :=
  store.load disk consumer provider = .ok none →
    disk.isDirectoryAt (Path.parts store.directory) = true ∨
      disk.IsTree ∧ Path.Straight (Path.parts (store.path consumer provider))

theorem load_withDirectories {refusal? : List String → Option Refusal}
    (hsettled : store.Settled consumer provider disk) :
    store.load (disk.withDirectories refusal? store.directory) consumer provider =
      store.load disk consumer provider := by
  have hread : (disk.withDirectories refusal? store.directory).read
      (store.path consumer provider) = disk.read (store.path consumer provider) := by
    apply Disk.read_withDirectories (isName_contractFileName consumer provider)
    intro hnotFound
    apply hsettled
    have hnone : disk.read (store.path consumer provider) = .error .notFound := hnotFound
    simp only [load, contractOf, hnone]
  simp only [load, hread]

/-- Once the directory has been made, a write changes what a pair loads only by changing
the pair's file. -/
theorem load_of_write_of_directory
    (hrun : store.writeUnder conditions c overwrite disk = (result, after))
    (hfile : after.file? (store.fileNames consumer provider) =
      disk.file? (store.fileNames consumer provider)) :
    store.load after consumer provider =
      store.load (disk.withDirectories conditions.directories store.directory) consumer
        provider := by
  rcases write_cases hrun with ⟨-, rfl⟩ | ⟨locked, htouch, hdirectory, hrest⟩
  · rfl
  obtain ⟨htouched, hready⟩ := ready_of_touch hdirectory htouch
  obtain ⟨changed, hframe⟩ : ∃ changed, Disk.FileFrame changed
      (disk.withDirectories conditions.directories store.directory) after := by
    rcases hrest with ⟨-, rfl⟩ | hupdate
    · exact ⟨_, htouched⟩
    · obtain ⟨-, n, hupdated⟩ := update_cases hready hupdate
      exact ⟨_, htouched.trans hupdated⟩
  obtain ⟨hlock, -⟩ := Disk.touch_eq_ok htouch
  obtain ⟨hopened, -, -⟩ := resolve_of_lock hdirectory hlock
  obtain ⟨hwalk, hentry⟩ := directory_of_resolve hdirectory hopened
  have hsame : after.file? (store.fileNames consumer provider) =
      (disk.withDirectories conditions.directories store.directory).file?
        (store.fileNames consumer provider) := by
    rw [hfile, (Disk.frame_withDirectories disk store.directory).files _ List.not_mem_nil]
  rw [fileNames_eq] at hsame
  have hread : after.read (store.path consumer provider) =
      (disk.withDirectories conditions.directories store.directory).read
        (store.path consumer provider) :=
    hframe.read (isName_contractFileName consumer provider) hwalk hentry hsame
  simp only [load, hread]

theorem load_of_write_unchanged (hsettled : store.Settled consumer provider disk)
    (hrun : store.writeUnder conditions c overwrite disk = (result, after))
    (hfile : after.file? (store.fileNames consumer provider) =
      disk.file? (store.fileNames consumer provider)) :
    store.load after consumer provider = store.load disk consumer provider :=
  (load_of_write_of_directory hrun hfile).trans (load_withDirectories hsettled)

/-! Pairs with one file. -/

theorem fileNames_congr {a b : String}
    (hshared : contractFileName a b = contractFileName consumer provider) :
    store.fileNames a b = store.fileNames consumer provider := by
  rw [fileNames_eq, fileNames_eq, hshared]

theorem load_congr {a b : String}
    (hshared : contractFileName a b = contractFileName consumer provider) :
    store.load disk a b = store.load disk consumer provider := by
  simp only [load, path, hshared]

theorem pair_of_ofBytes_toBytes {found : Contract}
    (hparse : Contract.ofBytes c.toBytes = .ok found) :
    (found.consumer, found.provider) = (c.consumer, c.provider) := by
  have hread := (Contract.ofBytes_toBytes c found).mp hparse
  obtain ⟨entries, -, hread⟩ := Option.bind_eq_some_iff.mp hread
  obtain ⟨metadata, -, rfl⟩ := Option.map_eq_some_iff.mp hread
  rfl

/-- What is found in the file after a write that works is a contract of the written
one's pair. -/
theorem load_of_write_pair {written : Written}
    (hrun : store.writeUnder conditions c overwrite disk = (.ok written, after)) :
    store.load after c.consumer c.provider ≠ .ok none ∧
      ∀ found, store.load after c.consumer c.provider = .ok (some found) →
        (found.consumer, found.provider) = (c.consumer, c.provider) := by
  obtain ⟨hresult, -, hresolve⟩ := write_spec hrun
  replace hresolve := hresolve ⟨written, rfl⟩
  obtain ⟨bytes, hfile, hpair⟩ : ∃ bytes,
      after.file? (store.fileNames c.consumer c.provider) = some bytes ∧
        ∀ found, Contract.ofBytes bytes = .ok found →
          (found.consumer, found.provider) = (c.consumer, c.provider) := by
    generalize after.file? (store.fileNames c.consumer c.provider) = now at hresult
    cases hresult with
    | new => exact ⟨_, rfl, fun found => pair_of_ofBytes_toBytes⟩
    | @upToDate bytes existing _ hbefore hparse hcompatible =>
        refine ⟨bytes, hbefore, ?_⟩
        intro found hfound
        obtain rfl := Except.ok.inj (hparse.symm.trans hfound)
        rw [hcompatible.1, hcompatible.2.1]
    | @merged bytes existing _ _ _ hcompatible =>
        refine ⟨_, rfl, ?_⟩
        intro found hfound
        rw [pair_of_ofBytes_toBytes hfound, hcompatible.1, hcompatible.2.1]
        rfl
  constructor
  · intro hnone
    have hloads := load_of_file hresolve hfile
    rw [hnone] at hloads
    by_cases hreads : ∃ c, Contract.ofBytes bytes = .ok c
    · obtain ⟨_, hsome⟩ := hloads.1 hreads
      cases hsome
    · obtain ⟨_, _, hcorrupt⟩ := hloads.2 hreads
      cases hcorrupt
  · intro found hload
    obtain ⟨-, stored, hstored, hparse⟩ := load_eq_some.mp hload
    obtain rfl := Option.some.inj (hfile.symm.trans hstored)
    exact hpair found hparse

/-- Nothing is merged into a contract of another pair. -/
theorem error_of_other_pair (hrun : store.writeUnder conditions c false disk = (result, after))
    {found : Contract}
    (hload : store.load disk c.consumer c.provider = .ok (some found))
    (hother : (found.consumer, found.provider) ≠ (c.consumer, c.provider)) :
    ∃ fault, result = .error fault := by
  obtain ⟨hresult, -, -⟩ := write_spec hrun
  obtain ⟨-, bytes, hfile, hparse⟩ := load_eq_some.mp hload
  rw [hfile] at hresult
  generalize after.file? (store.fileNames c.consumer c.provider) = now at hresult
  cases hresult with
  | halted => exact ⟨_, rfl⟩
  | corrupt => exact ⟨_, rfl⟩
  | incompatible => exact ⟨_, rfl⟩
  | new hnew => simp at hnew
  | upToDate _ hbefore hparsed hcompatible =>
      obtain rfl := Option.some.inj hbefore
      obtain rfl := Except.ok.inj (hparse.symm.trans hparsed)
      exact absurd (by rw [hcompatible.1, hcompatible.2.1]) hother
  | merged _ hbefore hparsed hcompatible =>
      obtain rfl := Option.some.inj hbefore
      obtain rfl := Except.ok.inj (hparse.symm.trans hparsed)
      exact absurd (by rw [hcompatible.1, hcompatible.2.1]) hother

/-- A write for one pair leaves alone what is loaded for another one, unless both have the
same file and the write works. Then the file holds a contract of the first pair. Without
overwriting, a write does not work on a file that holds the other pair's contract. Pairs have
files of their own if no character of their names has to be replaced and no consumer's name
has a dash. -/
theorem write_isolated_unless_shared (store : Store) (c : Contract) (overwrite : Bool)
    (disk : Disk) (consumer provider : String)
    (hother : (c.consumer, c.provider) ≠ (consumer, provider)) :
    let result := (store.write c overwrite disk).1
    let after := (store.write c overwrite disk).2
    let shared := contractFileName c.consumer c.provider = contractFileName consumer provider
    (store.Settled consumer provider disk → (¬ shared ∨ ∃ fault, result = .error fault) →
      store.load after consumer provider = store.load disk consumer provider) ∧
    (shared → (∃ written, result = .ok written) →
      store.load after consumer provider ≠ .ok none ∧
        ∀ found, store.load after consumer provider = .ok (some found) →
          (found.consumer, found.provider) = (c.consumer, c.provider)) ∧
    (shared → overwrite = false →
      ∀ found, store.load disk consumer provider = .ok (some found) →
        (found.consumer, found.provider) = (consumer, provider) → ∃ fault, result = .error fault) ∧
    ((∀ ch ∈ c.consumer.toList ++ consumer.toList, isUnsafe ch = false ∧ ch ≠ '-') →
      (∀ ch ∈ c.provider.toList ++ provider.toList, isUnsafe ch = false) → ¬ shared) := by
  rcases hrun : store.write c overwrite disk with ⟨result, after⟩
  dsimp only
  refine ⟨?_, ?_, ?_, ?_⟩
  · intro hsettled hapart
    obtain ⟨hresult, hothers, -⟩ := write_spec hrun
    apply load_of_write_unchanged hsettled hrun
    by_cases hshared : contractFileName c.consumer c.provider = contractFileName consumer provider
    · obtain ⟨fault, rfl⟩ := hapart.resolve_left (not_not_intro hshared)
      rw [← fileNames_congr hshared]
      exact hresult.of_error.1
    · apply hothers.file? (isContractFile_fileNames store consumer provider)
      rw [fileNames_eq, fileNames_eq]
      intro heq
      exact hshared (List.singleton_inj.mp (List.append_cancel_left heq)).symm
  · rintro hshared ⟨written, rfl⟩
    rw [← load_congr hshared]
    exact load_of_write_pair hrun
  · rintro hshared rfl found hload hfound
    rw [← load_congr hshared] at hload
    exact error_of_other_pair hrun hload (by rw [hfound]; exact hother.symm)
  · intro hconsumers hproviders hshared
    exact hother (pair_of_contractFileName hconsumers hproviders hshared)

/-- The file of another provider of the shop is read as before when one is written anew. -/
theorem write_isolated_unless_shared_shop :
    let store : Store := ⟨"pacts"⟩
    let billing : Contract := ((Contract.new "shop" "billing").add { description := "an event" }).1
    let disk : Disk :=
      { entries := [(["pacts"], .directory),
          (["pacts", "shop-billing.json"], .file billing.toBytes)] }
    let run := store.write (Contract.new "shop" "stock") true disk
    run.1.isOk = true ∧ store.load disk "shop" "billing" = .ok (some billing) ∧
      store.load run.2 "shop" "billing" = .ok (some billing) := by
  intro store billing disk run
  have hresolve : disk.resolve (store.path "shop" "billing") =
      .ok (store.fileNames "shop" "billing") := by decide +kernel
  have hnames : store.fileNames "shop" "billing" = ["pacts", "shop-billing.json"] := by
    decide +kernel
  have hfile : disk.file? (store.fileNames "shop" "billing") = some billing.toBytes := by
    rw [hnames]
    rfl
  have hload : store.load disk "shop" "billing" = .ok (some billing) :=
    load_eq_some.mpr ⟨hresolve, _, hfile, (Contract.ofBytes_toBytes billing billing).mpr rfl⟩
  have hsettled : store.Settled "shop" "billing" disk := by
    intro hnone
    rw [hload] at hnone
    cases hnone
  obtain ⟨hunchanged, -, -, hapart⟩ := write_isolated_unless_shared store
    (Contract.new "shop" "stock") true disk "shop" "billing" (by decide)
  have hconsumers : ("shop".toList ++ "shop".toList).all
      (fun ch => isUnsafe ch == false && ch != '-') = true := by decide
  have hproviders : ("stock".toList ++ "billing".toList).all
      (fun ch => isUnsafe ch == false) = true := by decide
  have hnotShared := hapart
    (fun ch hch => by simpa using List.all_eq_true.mp hconsumers ch hch)
    (fun ch hch => by simpa using List.all_eq_true.mp hproviders ch hch)
  refine ⟨by decide +kernel, hload, ?_⟩
  rw [← hload]
  exact hunchanged hsettled (.inl hnotShared)

/-- A dash in a name: the file of one pair is the file of another one, whose contract is
lost when it is overwritten. -/
theorem overwrite_replaces_other_pair :
    let store : Store := ⟨"pacts"⟩
    let kept : Contract := ((Contract.new "a" "b-c").add { description := "an event" }).1
    let other : Contract := Contract.new "a-b" "c"
    let disk : Disk :=
      { entries := [(["pacts"], .directory), (["pacts", "a-b-c.json"], .file kept.toBytes)] }
    (other.consumer, other.provider) ≠ (kept.consumer, kept.provider) ∧
      store.load disk kept.consumer kept.provider = .ok (some kept) ∧
      store.load (store.write other true disk).2 kept.consumer kept.provider =
        .ok (some other) := by
  intro store kept other disk
  have hresolve : disk.resolve (store.path "a" "b-c") = .ok (store.fileNames "a" "b-c") := by
    decide +kernel
  have hnames : store.fileNames "a" "b-c" = ["pacts", "a-b-c.json"] := by decide +kernel
  have hfile : disk.file? (store.fileNames "a" "b-c") = some kept.toBytes := by
    rw [hnames]
    rfl
  have hload : store.load disk "a" "b-c" = .ok (some kept) :=
    load_eq_some.mpr ⟨hresolve, _, hfile, (Contract.ofBytes_toBytes kept kept).mpr rfl⟩
  have hok : (store.write other true disk).1.isOk = true := by decide +kernel
  have hshared : contractFileName "a-b" "c" = contractFileName "a" "b-c" := by decide +kernel
  refine ⟨by decide, hload, ?_⟩
  rcases hrun : store.write other true disk with ⟨fault | written, after⟩
  · rw [hrun] at hok
    cases hok
  obtain ⟨hresult, -, hnow⟩ := write_spec hrun
  have hwritten : after.file? (store.fileNames "a-b" "c") = some other.toBytes :=
    hresult.of_ok.2.1
  have hloadNow : store.load after "a-b" "c" = .ok (some other) :=
    load_eq_some.mpr ⟨hnow ⟨written, rfl⟩, _, hwritten,
      (Contract.ofBytes_toBytes other other).mpr rfl⟩
  rwa [load_congr hshared] at hloadNow

end Store

end MessageContract
