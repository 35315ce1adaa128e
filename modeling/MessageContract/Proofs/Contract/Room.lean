import MessageContract.Proofs.Contract.Depth

/-!
Which contracts have room in a file. A file opens two levels around an entry and around a
further member of the metadata, and 125 are left for each of them. What has been read from
a file has room in it again, however it is merged.
-/

namespace MessageContract

open Json (Within)

/-- The entry has room in a file. -/
def Entry.FitsFile (entry : Entry) : Prop :=
  entry.toJson.Within partRoom

/-- The further members have room in a file, and none of them would be taken for the
specification. -/
def Contract.Metadata.FitsFile (m : Contract.Metadata) : Prop :=
  ∀ field ∈ m.extra, field.1 ≠ "pactSpecification" ∧ field.2.Within partRoom

/-- All parts of the contract have room in a file. -/
structure Contract.FitsFile (c : Contract) : Prop where
  entries : ∀ entry ∈ c.entries, entry.FitsFile
  metadata : c.metadata.FitsFile

theorem Entry.FitsFile.reread?_isSome {entry : Entry} (h : entry.FitsFile) :
    entry.reread?.isSome := by
  rw [reread?, Option.isSome_map]
  exact Json.Within.reread?_isSome h

namespace Contract

namespace Metadata

theorem reread?_isSome_iff (m : Contract.Metadata) :
    m.reread?.isSome ↔
      ∀ field ∈ m.extra, field.1 ≠ "pactSpecification" ∧ (field.2.reread? partRoom).isSome := by
  have hmembers : (Json.rereadMembers partRoom m.extra).isSome ↔
      ∀ field ∈ m.extra, (field.2.reread? partRoom).isSome := by
    rw [Json.Scan.rereadMembers_eq, Outcome.mapM_isSome]
    simp only [Option.isSome_map]
  rw [reread?]
  split
  case isTrue hrepeated =>
    obtain ⟨field, hfield, hkey⟩ := List.any_eq_true.mp hrepeated
    simp only [Option.isSome_none, Bool.false_eq_true, false_iff]
    exact fun hall => (hall field hfield).1 (beq_iff_eq.mp hkey)
  case isFalse hsingle =>
    rw [Option.isSome_map, hmembers]
    refine forall₂_congr fun field hfield => ?_
    have hkey : field.1 ≠ "pactSpecification" := by
      intro hkey
      exact hsingle (List.any_eq_true.mpr ⟨field, hfield, beq_iff_eq.mpr hkey⟩)
    simp [hkey]

theorem FitsFile.reread?_isSome {m : Contract.Metadata} (h : m.FitsFile) : m.reread?.isSome :=
  m.reread?_isSome_iff.mpr fun field hfield =>
    ⟨(h field hfield).1, (h field hfield).2.reread?_isSome⟩

theorem fitsFile_initial : initial.FitsFile := by
  intro field hfield
  obtain rfl := List.mem_singleton.mp hfield
  refine ⟨by decide, ?_, ?_⟩
  · decide
  · exact ⟨trivial, trivial⟩

end Metadata

theorem reread?_isSome_iff (c : Contract) :
    c.reread?.isSome ↔ (∀ entry ∈ c.entries, entry.reread?.isSome) ∧ c.metadata.reread?.isSome := by
  rw [← Outcome.mapM_isSome, reread?]
  cases c.entries.mapM Entry.reread? <;> simp

/-- A contract that has been written can be loaded if it is reread to anything. -/
theorem exists_ofBytes_iff (c : Contract) :
    (∃ again, ofBytes c.toBytes = .ok again) ↔ c.reread?.isSome := by
  simp only [ofBytes_toBytes, Option.isSome_iff_exists]

/-- What holds of metadata that was read from a file: its further members are values that
had room there. -/
structure Metadata.Loaded (m : Contract.Metadata) : Prop where
  fitsFile : m.FitsFile
  extra : (Json.object m.extra).IsValue

theorem Metadata.loaded_initial : Metadata.initial.Loaded where
  fitsFile := Metadata.fitsFile_initial
  extra := by rfl

/-- What holds of a contract that was read from a file: each entry was read from a value
that had room there. -/
structure Loaded (c : Contract) : Prop where
  entries : ∀ entry ∈ c.entries, ∃ value : Json, value.Within partRoom ∧ Entry.ofJson value = entry
  metadata : c.metadata.Loaded

theorem Loaded.fitsFile {c : Contract} (h : c.Loaded) : c.FitsFile := by
  refine ⟨?_, h.metadata.fitsFile⟩
  intro entry hentry
  obtain ⟨value, hvalue, rfl⟩ := h.entries entry hentry
  have hroom : value.Within (121 + 4) := hvalue
  exact Entry.within_ofJson hroom

/-- A contract that was loaded and then added to can be read back if what was added can. -/
theorem Loaded.merged_reread?_isSome {existing c : Contract} (h : existing.Loaded)
    (hentries : ∀ entry ∈ Entry.fresh existing.entries c.entries, entry.reread?.isSome)
    (hmetadata : c.metadata.reread?.isSome) : (existing.merged c).reread?.isSome := by
  refine (reread?_isSome_iff _).mpr ⟨?_, (Metadata.reread?_isSome_iff _).mpr ?_⟩
  · intro entry hentry
    rcases List.mem_append.mp hentry with hold | hadded
    · exact (h.fitsFile.entries entry hold).reread?_isSome
    · exact hentries entry hadded
  · intro field hfield
    rcases Fields.mem_overlay hfield with hold | hadded
    · exact (Metadata.reread?_isSome_iff _).mp h.metadata.fitsFile.reread?_isSome field hold
    · exact (Metadata.reread?_isSome_iff _).mp hmetadata field hadded

open Json.Scan

theorem Metadata.ensures_read : (Metadata.read (partRoom + 1)).Ensures Loaded := by
  apply ensures_openRecord
  intro inner hinner
  obtain rfl := Nat.succ.inj hinner
  refine ensures_bind (P := fun draft : Option String × List (String × Json) =>
    ∀ field ∈ draft.2, field.1 ≠ "pactSpecification" ∧ field.2.Within partRoom) ?_ ?_
  · refine ensures_members (List.forall_mem_nil _) ?_
    rintro key ⟨specification, extra⟩ hextra
    dsimp only
    split
    case isTrue => exact ensures_map fun _ _ _ _ => hextra
    case isFalse hkey =>
      refine ensures_bind (ensures_bind (ensures_true _) fun _ _ => ensures_tree _) fun v hv => ?_
      exact ensures_pure (List.forall_mem_cons.mpr ⟨⟨by simpa using hkey, hv⟩, hextra⟩)
  · rintro ⟨specification, extra⟩ hextra
    refine ensures_bind (ensures_true _) fun specification _ => ensures_pure ?_
    refine ⟨?_, Json.isValue_normalize (.object extra.reverse)⟩
    intro field hfield
    rw [Json.normalizeMembers_eq] at hfield
    have hmem := (Fields.mem_overlay hfield).resolve_left List.not_mem_nil
    obtain ⟨found, hfound, rfl⟩ := List.mem_map.mp hmem
    obtain ⟨hkey, hwithin⟩ := hextra found (List.mem_reverse.mp hfound)
    exact ⟨hkey, hwithin.normalize⟩

theorem ensures_entries : (list (partRoom + 1) Entry.read).Ensures
    fun entries => ∀ entry ∈ entries, ∃ value : Json,
      value.Within partRoom ∧ Entry.ofJson value = entry := by
  apply ensures_list
  intro inner hinner
  obtain rfl := Nat.succ.inj hinner
  exact ensures_bind (ensures_tree _) fun value hvalue => ensures_pure ⟨value, hvalue, rfl⟩

/-- What has been read so far of a contract. -/
structure Draft.Loaded (draft : Draft) : Prop where
  entries : ∀ entries, draft.entries = some entries → ∀ entry ∈ entries, ∃ value : Json,
    value.Within partRoom ∧ Entry.ofJson value = entry
  metadata : ∀ metadata, draft.metadata = some metadata → metadata.Loaded

theorem Draft.Loaded.finish {draft : Draft} (h : draft.Loaded) (consumer provider : String) :
    (draft.finish consumer provider).Loaded := by
  constructor
  · intro entry hentry
    cases hentries : draft.entries with
    | none => simp [Draft.finish, hentries] at hentry
    | some entries =>
        have hmem : entry ∈ entries := by simpa [Draft.finish, hentries] using hentry
        exact h.entries entries hentries entry hmem
  · cases hmetadata : draft.metadata with
    | none => simpa [Draft.finish, hmetadata] using Metadata.loaded_initial
    | some metadata => simpa [Draft.finish, hmetadata] using h.metadata metadata hmetadata

theorem ensures_read : (Contract.read roomLimit).Ensures Loaded := by
  apply ensures_record
  · intro inner hinner
    obtain rfl : partRoom + 1 = inner := Nat.succ.inj hinner
    refine ensures_bind (ensures_true _) fun consumer _ => ?_
    refine ensures_bind (ensures_true _) fun provider _ => ?_
    refine ensures_bind (ensures_item? ensures_entries) fun entries hentries => ?_
    refine ensures_bind (ensures_item? Metadata.ensures_read) fun metadata hmetadata => ?_
    exact ensures_pure (Draft.Loaded.finish ⟨hentries, hmetadata⟩ consumer provider)
  · intro inner hinner
    obtain rfl : partRoom + 1 = inner := Nat.succ.inj hinner
    refine ensures_bind (P := Draft.Loaded) (ensures_members ?_ ?_) fun draft hdraft => ?_
    · constructor
      · rintro _ ⟨⟩
      · rintro _ ⟨⟩
    · intro key draft hdraft
      split
      · exact ensures_map fun _ _ _ _ => ⟨hdraft.entries, hdraft.metadata⟩
      · exact ensures_map fun _ _ _ _ => ⟨hdraft.entries, hdraft.metadata⟩
      · exact ensures_bind (ensures_once ensures_entries) fun entries hentries =>
          ensures_pure ⟨hentries, hdraft.metadata⟩
      · exact ensures_bind (ensures_once Metadata.ensures_read) fun metadata hmetadata =>
          ensures_pure ⟨hdraft.entries, hmetadata⟩
      · exact ensures_bind (ensures_true _) fun _ _ => ensures_pure hdraft
    · refine ensures_bind (ensures_true _) fun consumer _ => ?_
      exact ensures_bind (ensures_true _) fun provider _ => ensures_pure (hdraft.finish _ _)

/-- What is read from a file has been loaded. -/
theorem loaded_of_ofBytes {bytes : List UInt8} {c : Contract} (hread : ofBytes bytes = .ok c) :
    c.Loaded :=
  ensures_run ensures_read hread

end Contract

end MessageContract
