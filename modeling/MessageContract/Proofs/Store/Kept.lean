import MessageContract.Proofs.Contract.Kept
import MessageContract.Proofs.Store.Again
import MessageContract.Proofs.Store.Holds

/-!
What a write that merges keeps of the contract in the file. A file that is up to date is
left alone. One that is written anew keeps every entry in its place and all that other
tools have said, but for the floats, which are read and written as digits and may come back
as others, and for what stands beside the version of the specification.
-/

namespace MessageContract.Store

variable {store : Store} {c existing loaded : Contract} {disk after : Disk} {written : Written}

/-- A write that merges leaves the file alone and reports nothing, or puts both contracts
into it. -/
theorem file_of_write
    (hload : store.load disk c.consumer c.provider = .ok (some existing))
    (hrun : store.write c false disk = (.ok written, after)) :
    after.resolve (store.path c.consumer c.provider) =
        .ok (store.fileNames c.consumer c.provider) ∧
      ∃ before, disk.file? (store.fileNames c.consumer c.provider) = some before ∧
        Contract.ofBytes before = .ok existing ∧
        (written.event = none ∧
            after.file? (store.fileNames c.consumer c.provider) = some before ∨
          written.event ≠ none ∧
            after.file? (store.fileNames c.consumer c.provider) =
              some (existing.merged c).toBytes) := by
  obtain ⟨hresult, -, hresolve⟩ := write_spec hrun
  obtain ⟨-, before, hbefore, hparse⟩ := load_eq_some.mp hload
  refine ⟨hresolve ⟨written, rfl⟩, before, hbefore, hparse, ?_⟩
  rw [hbefore] at hresult
  generalize after.file? (store.fileNames c.consumer c.provider) = now at hresult
  cases hresult with
  | new hnew => simp at hnew
  | upToDate => exact .inl ⟨rfl, rfl⟩
  | merged _ hsource hparsed =>
      obtain rfl := Option.some.inj hsource
      obtain rfl := Except.ok.inj (hparse.symm.trans hparsed)
      exact .inr ⟨Option.some_ne_none _, rfl⟩

/-- A write that has to merge works if the file can be replaced. -/
theorem write_of_differs (hready : store.Ready c.consumer c.provider disk)
    (hload : store.load disk c.consumer c.provider = .ok (some existing))
    (hcompatible : existing.Compatible c) (hdiffers : (existing.merged c).same existing = false)
    (hreplaceable : store.Replaceable c.consumer c.provider disk) :
    ∃ written after, store.write c false disk = (.ok written, after) ∧ written.event ≠ none := by
  obtain ⟨-, bytes, hfile, hparse⟩ := load_eq_some.mp hload
  rw [write_of_ready hready]
  rcases hrun : update .fair (Path.canonical store.directory)
    (store.openedPath c.consumer c.provider) c false disk with ⟨result, after⟩
  obtain ⟨hresult, -⟩ := update_cases hready hrun
  rw [hfile] at hresult
  have hparsed {found : Contract} {other : List UInt8} (hother : some bytes = some other)
      (hfound : Contract.ofBytes other = .ok found) : found = existing := by
    obtain rfl := Option.some.inj hother
    exact Except.ok.inj (hfound.symm.trans hparse)
  generalize after.file? (store.fileNames c.consumer c.provider) = now at hresult
  cases hresult with
  | halted hfault hblocked => exact absurd ⟨Conditions.fair_fair, hreplaceable⟩ hblocked
  | corrupt _ hother herror =>
      obtain rfl := Option.some.inj hother
      cases herror.symm.trans hparse
  | incompatible _ hother hfound hforeign =>
      rw [hparsed hother hfound] at hforeign
      exact absurd hcompatible hforeign
  | new hnew => simp at hnew
  | upToDate _ hother hfound _ hsame =>
      rw [hparsed hother hfound, hdiffers] at hsame
      cases hsame
  | merged => exact ⟨_, after, rfl, Option.some_ne_none _⟩

/-! A directory with one contract file, and the lock file of an earlier write. -/

def stockDisk (bytes : List UInt8) : Disk :=
  { entries := [(["pacts"], .directory), (["pacts", "shop-stock.json"], .file bytes),
      (["pacts", "shop-stock.json.lock"], .file [])] }

theorem ready_stockDisk (bytes : List UInt8) :
    Ready ⟨"pacts"⟩ "shop" "stock" (stockDisk bytes) where
  directory := by rfl
  lock := by rfl
  locked := ⟨[], by rfl⟩

theorem replaceable_stockDisk (bytes : List UInt8) :
    Replaceable ⟨"pacts"⟩ "shop" "stock" (stockDisk bytes) where
  file := by
    have hfile : Disk.entry? (stockDisk bytes) (fileNames ⟨"pacts"⟩ "shop" "stock") =
        some (.file bytes) := by rfl
    rw [hfile]
    simp
  spare := ⟨0, by decide, by rfl⟩

theorem load_stockDisk {read : Contract} (hread : c.reread? = some read) :
    load (stockDisk c.toBytes) ⟨"pacts"⟩ "shop" "stock" = .ok (some read) := by
  have hfile : (stockDisk c.toBytes).file? (fileNames ⟨"pacts"⟩ "shop" "stock") =
      some c.toBytes := by rfl
  exact load_eq_some.mpr ⟨by rfl, _, hfile, (Contract.ofBytes_toBytes c read).mpr hread⟩

/-- What is loaded after a write into the file that has to merge. -/
theorem load_of_differs {stored : List UInt8}
    (hload : load (stockDisk stored) ⟨"pacts"⟩ c.consumer c.provider = .ok (some existing))
    (hrun : write ⟨"pacts"⟩ c false (stockDisk stored) = (.ok written, after))
    (hevent : written.event ≠ none) (hread : (existing.merged c).reread? = some loaded) :
    load after ⟨"pacts"⟩ c.consumer c.provider = .ok (some loaded) ∧
      after.file? (fileNames ⟨"pacts"⟩ c.consumer c.provider) =
        some (existing.merged c).toBytes := by
  obtain ⟨hresolve, _, -, -, hwritten⟩ := file_of_write hload hrun
  obtain ⟨-, hfile⟩ := hwritten.resolve_left fun hnone => hevent hnone.1
  exact ⟨load_eq_some.mpr ⟨hresolve, _, hfile, (Contract.ofBytes_toBytes _ _).mpr hread⟩, hfile⟩

/-- After a write that merges into a file, either nothing was to be written and the file is
the one it was, or the file that was written keeps what was loaded from it before. A value that
is no message is then the same if and only if each of its floats is read as it was. -/
theorem write_keeps_existing
    (hload : store.load disk c.consumer c.provider = .ok (some existing))
    (hrun : store.write c false disk = (.ok written, after))
    (hloaded : store.load after c.consumer c.provider = .ok (some loaded)) :
    ∃ bytes, after.file? (store.fileNames c.consumer c.provider) = some bytes ∧
      (written.event = none →
        disk.file? (store.fileNames c.consumer c.provider) = some bytes ∧ loaded = existing) ∧
      (written.event ≠ none → existing.Kept c loaded bytes ∧
        ∀ (i : Nat) (value : Json), existing.entries[i]? = some (.other value) →
          (Contract.entryValue? bytes i = some value ↔
            ∀ x ∈ value.floats, x.reread = x)) := by
  obtain ⟨-, before, hbefore, hparse, hwritten⟩ := file_of_write hload hrun
  obtain ⟨-, bytes, hbytes, hparseNow⟩ := load_eq_some.mp hloaded
  refine ⟨bytes, hbytes, ?_⟩
  rcases hwritten with ⟨hevent, hfile⟩ | ⟨hevent, hfile⟩
  · obtain rfl := Option.some.inj (hfile.symm.trans hbytes)
    obtain rfl := Except.ok.inj (hparse.symm.trans hparseNow)
    exact ⟨fun _ => ⟨hbefore, rfl⟩, fun hsome => absurd hevent hsome⟩
  · obtain rfl := Option.some.inj (hfile.symm.trans hbytes)
    have hread := (Contract.ofBytes_toBytes _ loaded).mp hparseNow
    have hkept := (Contract.loaded_of_ofBytes hparse).kept hread
    exact ⟨fun hnone => absurd hnone hevent, fun _ => ⟨hkept, fun _ _ => hkept.unchanged_iff⟩⟩

/-- The request and what another tool has said are in the file that a message has been
merged into. -/
theorem write_keeps_existing_beside_request :
    let store : Store := ⟨"pacts"⟩
    let request := Json.object [("type", .string "Synchronous/HTTP")]
    let known : Interaction := { description := "an event", extra := [("key", .string "1f")] }
    let existing : Contract :=
      { consumer := "shop", provider := "stock", entries := [.other request, .message known]
        metadata := { specification := "4.0", extra := [("tool", .string "other")] } }
    let c : Contract := ((Contract.new "shop" "stock").add { description := "another event" }).1
    let disk : Disk :=
      { entries := [(["pacts"], .directory),
          (["pacts", "shop-stock.json"], .file existing.toBytes),
          (["pacts", "shop-stock.json.lock"], .file [])] }
    ∃ written after loaded bytes, store.write c false disk = (.ok written, after) ∧
      after.file? (store.fileNames "shop" "stock") = some bytes ∧
      store.load after "shop" "stock" = .ok (some loaded) ∧
      Contract.entryValue? bytes 0 = some request ∧
      loaded.entries[1]? = some (.message known) ∧
      Fields.get? "tool" loaded.metadata.extra = some (.string "other") := by
  intro store request known existing c disk
  have hload : store.load disk "shop" "stock" = .ok (some existing) := load_stockDisk rfl
  obtain ⟨written, after, hrun, hevent⟩ := write_of_differs (c := c)
    (ready_stockDisk existing.toBytes) hload ⟨rfl, rfl, rfl⟩ (by decide +kernel)
    (replaceable_stockDisk _)
  have hmerged : (existing.merged c).reread? = some (existing.merged c) := rfl
  obtain ⟨hloaded, -⟩ := load_of_differs (c := c) hload hrun hevent hmerged
  obtain ⟨bytes, hbytes, -, hkept⟩ := write_keeps_existing (c := c) hload hrun hloaded
  obtain ⟨hkept, hunchanged⟩ := hkept hevent
  have hrequest : Contract.entryValue? bytes 0 = some request :=
    (hunchanged 0 request rfl).mpr (fun _ hfloat => absurd hfloat List.not_mem_nil)
  obtain ⟨contents, hcontents, hmessage⟩ := hkept.message 1 known rfl
  obtain rfl : .empty = contents := Option.some.inj hcontents
  exact ⟨written, after, existing.merged c, bytes, hrun, hbytes, hloaded, hrequest, hmessage,
    hkept.metadata "tool" rfl⟩

/-! A request with a rate, which is a float. -/

def ratedRequest (rate : Binary64) : Json :=
  .object [("rate", .number (.float rate)), ("type", .string "Synchronous/HTTP")]

def ratedContract (rate : Binary64) : Contract :=
  { consumer := "shop", provider := "stock", entries := [.other (ratedRequest rate)]
    metadata := { specification := "4.0", extra := [] } }

theorem isValue_ratedRequest (rate : Binary64) : (ratedRequest rate).IsValue := by
  have hkeys : ["rate", "type"].Pairwise (· < ·) := by decide
  refine Json.isValue_object.mpr ⟨Fields.sorted_iff_keys.mpr hkeys, ?_⟩
  exact List.forall_mem_cons.mpr ⟨rfl, List.forall_mem_singleton.mpr rfl⟩

theorem reread?_ratedRequest (rate : Binary64) :
    (Entry.other (ratedRequest rate)).reread? = some (.other (ratedRequest rate.reread)) := by
  have htree : (ratedRequest rate).reread? partRoom = some (ratedRequest rate.reread) := by
    simp [ratedRequest, partRoom, Json.reread?, Json.rereadMembers, rate.reread?_eq]
  rw [Entry.reread?, Entry.toJson, htree]
  exact congrArg (some ∘ Entry.other) (isValue_ratedRequest rate.reread)

/-- What is reread of the contract when other entries and further members have come to it. -/
theorem reread?_ratedContract (rate : Binary64) {fresh : List Entry} {extra : Fields Json}
    (hfresh : fresh.mapM Entry.reread? = some fresh)
    (hextra : Contract.Metadata.reread? ⟨"4.0", extra⟩ = some ⟨"4.0", extra⟩) :
    Contract.reread? ⟨"shop", "stock", .other (ratedRequest rate) :: fresh, ⟨"4.0", extra⟩⟩ =
      some ⟨"shop", "stock", .other (ratedRequest rate.reread) :: fresh, ⟨"4.0", extra⟩⟩ := by
  rw [Contract.reread?, List.mapM_cons, reread?_ratedRequest, hfresh, hextra]
  rfl

/-- The number 6.626e-34 in a request: it is read as the double above it, and when a message
has been merged into the file, as the one above that. -/
theorem write_changes_foreign_float :
    let store : Store := ⟨"pacts"⟩
    let rate : Binary64 := { negative := false, magnitude := 4110526388413685506 }
    let c : Contract := ((Contract.new "shop" "stock").add { description := "an event" }).1
    let disk : Disk := stockDisk (ratedContract rate).toBytes
    ∃ existing written after loaded bytes old new,
      store.load disk "shop" "stock" = .ok (some existing) ∧
      store.write c false disk = (.ok written, after) ∧
      store.load after "shop" "stock" = .ok (some loaded) ∧
      after.file? (store.fileNames "shop" "stock") = some bytes ∧
      existing.entries[0]? = some (.other old) ∧
      Contract.entryValue? bytes 0 = some new ∧ loaded.entries[0]? = some (.other new) ∧
      new ≠ old := by
  intro store rate c disk
  have hload : store.load disk "shop" "stock" = .ok (some (ratedContract rate.reread)) :=
    load_stockDisk (reread?_ratedContract rate rfl rfl)
  obtain ⟨written, after, hrun, hevent⟩ := write_of_differs (c := c) (ready_stockDisk _) hload
    ⟨rfl, rfl, rfl⟩ (by decide +kernel) (replaceable_stockDisk _)
  -- for any number, as the digits of this one are not to be computed here
  have hmerged (x : Binary64) : ((ratedContract x).merged c).reread? =
      some ((ratedContract x.reread).merged c) :=
    reread?_ratedContract x rfl rfl
  have hread := hmerged rate.reread
  obtain ⟨hloaded, hfile⟩ := load_of_differs (c := c) hload hrun hevent hread
  obtain ⟨-, _, -, hparse, -⟩ := file_of_write (c := c) hload hrun
  have hkept := (Contract.loaded_of_ofBytes hparse).kept hread
  refine ⟨_, written, after, _, _, ratedRequest rate.reread, ratedRequest rate.reread.reread,
    hload, hrun, hloaded, hfile, rfl, hkept.other 0 _ rfl, rfl, ?_⟩
  have hdiffers : rate.reread.reread ≠ rate.reread := by decide +kernel
  simpa [ratedRequest] using hdiffers

end MessageContract.Store
