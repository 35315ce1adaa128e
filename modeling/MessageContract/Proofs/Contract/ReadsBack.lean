import MessageContract.Proofs.Contract.Merge
import MessageContract.Proofs.Contract.PlainReread

/-!
Contracts that are read back from their files as the same contracts. Whether one
is depends on its entries one by one, and on the further members of its metadata
one by one. So what two such contracts are merged into is such a contract again,
and so is one that has been read.
-/

namespace MessageContract

/-- What is written of the entry is read as the same entry. -/
def Entry.Survives (entry : Entry) : Prop :=
  entry.reread?.map plain = some entry.plain

/-- What is written of the metadata is read as the same metadata. -/
def Contract.Metadata.Survives (m : Contract.Metadata) : Prop :=
  m.reread?.map plain = some m.plain

/-- What is written of the contract is read as the same contract. -/
def Contract.ReadsBack (c : Contract) : Prop :=
  ∃ again, ofBytes c.toBytes = .ok again ∧ again.same c = true

theorem Entry.survives_congr {a b : Entry} (h : a.plain = b.plain) :
    a.Survives ↔ b.Survives := by
  rw [Survives, Survives, ← reread?_plain a, ← reread?_plain b, h]

namespace Contract

namespace Metadata

/-- What the further members of metadata are reread to, as plain values. -/
theorem plain_rereadMembers (members : List (String × Json)) :
    (Json.rereadMembers partRoom members).map
        (fun read => Fields.mapValues Json.plain (Json.normalizeMembers read)) =
      members.mapM fun m =>
        (m.2.reread? partRoom).map fun value => (m.1, value.normalize.plain) := by
  induction members with
  | nil => rfl
  | cons member rest ih =>
      obtain ⟨key, value⟩ := member
      rw [List.mapM_cons, ← ih, Json.rereadMembers]
      cases value.reread? partRoom <;> cases Json.rereadMembers partRoom rest <;> rfl

/-- What metadata is reread to, as far as sameness looks at it. -/
theorem plain_reread (m : Contract.Metadata) :
    m.reread?.map plain =
      if m.extra.any (·.1 == "pactSpecification") then none
      else (m.extra.mapM fun (field : String × Json) =>
        (field.2.reread? partRoom).map fun value => (field.1, value.normalize.plain)).map
          fun extra => { m with extra := Fields.ofList extra } := by
  rw [← plain_rereadMembers, reread?]
  split
  · rfl
  · cases Json.rereadMembers partRoom m.extra with
    | none => rfl
    | some read => simp [plain, ← Fields.ofList_mapValues]

/-- Metadata survives if it is a map without another specification and each of
its members survives. -/
theorem survives_iff (m : Contract.Metadata) :
    m.Survives ↔ Fields.Sorted m.extra ∧ (∀ field ∈ m.extra, field.1 ≠ "pactSpecification") ∧
      ∀ field ∈ m.extra, (field.2.reread? partRoom).map (·.normalize.plain) =
        some field.2.plain := by
  have hsingle : m.extra.any (·.1 == "pactSpecification") = false ↔
      ∀ field ∈ m.extra, field.1 ≠ "pactSpecification" := by simp
  have hmembers : (m.extra.mapM fun (field : String × Json) =>
        (field.2.reread? partRoom).map fun value => (field.1, value.normalize.plain)) =
          some (Fields.mapValues Json.plain m.extra) ↔
      ∀ field ∈ m.extra, (field.2.reread? partRoom).map (·.normalize.plain) =
        some field.2.plain := by
    rw [Fields.mapValues, Outcome.mapM_eq_some_map]
    apply forall₂_congr
    intro field _
    cases field.2.reread? partRoom <;> simp
  have hsorted : Fields.Sorted (Fields.mapValues Json.plain m.extra) ↔
      Fields.Sorted m.extra := Fields.sorted_mapValues
  rw [Survives, plain_reread, ← hsingle, ← hmembers]
  cases hany : m.extra.any (·.1 == "pactSpecification") with
  | true => simp
  | false =>
      rw [if_neg Bool.false_ne_true]
      constructor
      · intro hread
        obtain ⟨read, hmembersRead, hmap⟩ := Option.map_eq_some_iff.mp hread
        have hextra : Fields.ofList read = Fields.mapValues Json.plain m.extra :=
          congrArg Contract.Metadata.extra hmap
        have hordered : Fields.Sorted m.extra :=
          hsorted.mp (hextra ▸ Fields.sorted_ofList read)
        have hkeys : read.map Prod.fst = m.extra.map Prod.fst :=
          Fields.keys_mapM (f := fun v => (v.reread? partRoom).map (·.normalize.plain))
            (by simpa only [Option.map_map, Function.comp_def] using hmembersRead)
        have hreadSorted : Fields.Sorted read := by
          rw [Fields.sorted_iff_keys, hkeys, ← Fields.sorted_iff_keys]
          exact hordered
        rw [Fields.ofList_of_sorted hreadSorted] at hextra
        exact ⟨hordered, rfl, by rw [hmembersRead, hextra]⟩
      · rintro ⟨hordered, -, hread⟩
        rw [hread, Option.map_some, Fields.ofList_of_sorted (hsorted.mpr hordered)]
        rfl

theorem survives_initial : initial.Survives := by
  rw [survives_iff]
  refine ⟨List.pairwise_singleton _ _, ?_, ?_⟩
  · intro field hfield
    rw [List.mem_singleton.mp hfield]
    decide
  · intro field hfield
    rw [List.mem_singleton.mp hfield]
    rfl

/-- Metadata laid over other metadata. -/
theorem survives_overlay {ours theirs : Contract.Metadata} (hours : ours.Survives)
    (htheirs : theirs.Survives) :
    Survives { ours with extra := ours.extra.overlay theirs.extra } := by
  rw [survives_iff] at hours htheirs ⊢
  refine ⟨Fields.sorted_overlay hours.1 _, ?_, ?_⟩
  · intro field hfield
    exact (Fields.mem_overlay hfield).elim (hours.2.1 field) (htheirs.2.1 field)
  · intro field hfield
    exact (Fields.mem_overlay hfield).elim (hours.2.2 field) (htheirs.2.2 field)

theorem reread?_plain (m : Contract.Metadata) :
    m.plain.reread?.map plain = m.reread?.map plain := by
  have hvalue (v : Json) : (v.plain.reread? partRoom).map (·.normalize.plain) =
      (v.reread? partRoom).map (·.normalize.plain) := by
    have hread := congrArg (Option.map Json.normalize) (v.reread?_plain partRoom)
    simpa [Function.comp_def, Json.normalize_plain] using hread
  have hany : (Fields.mapValues Json.plain m.extra).any (·.1 == "pactSpecification") =
      m.extra.any (·.1 == "pactSpecification") := by
    rw [Fields.mapValues, List.any_map]
    rfl
  have hmembers : ((Fields.mapValues Json.plain m.extra).mapM fun (field : String × Json) =>
        (field.2.reread? partRoom).map fun value => (field.1, value.normalize.plain)) =
      m.extra.mapM fun (field : String × Json) =>
        (field.2.reread? partRoom).map fun value => (field.1, value.normalize.plain) := by
    have hfield (field : String × Json) :
        (field.2.plain.reread? partRoom).map (fun value => (field.1, value.normalize.plain)) =
          (field.2.reread? partRoom).map fun value => (field.1, value.normalize.plain) := by
      have hpair := congrArg (Option.map (field.1, ·)) (hvalue field.2)
      simpa [Function.comp_def] using hpair
    rw [Fields.mapValues, List.mapM_map]
    simp only [Function.comp_def, hfield]
  have hextra : m.plain.extra = Fields.mapValues Json.plain m.extra := rfl
  rw [plain_reread, plain_reread, hextra, hmembers]
  simp only [hany]
  rfl

end Metadata

theorem reread?_plain (c : Contract) : c.plain.reread?.map plain = c.reread?.map plain := by
  have hsplit (d : Contract) : d.reread?.map plain =
      (d.entries.mapM fun (entry : Entry) => entry.reread?.map Entry.plain).bind fun entries =>
        (d.metadata.reread?.map Metadata.plain).map fun metadata =>
          { d with entries, metadata } := by
    rw [← Outcome.map_mapM, reread?]
    cases d.entries.mapM Entry.reread? with
    | none => rfl
    | some entries => cases d.metadata.reread? <;> rfl
  have hentries : (c.plain.entries.mapM fun (entry : Entry) => entry.reread?.map Entry.plain) =
      c.entries.mapM fun (entry : Entry) => entry.reread?.map Entry.plain := by
    rw [plain, List.mapM_map]
    simp only [Function.comp_def, Entry.reread?_plain]
  have hmetadata := Metadata.reread?_plain c.metadata
  rw [hsplit, hsplit, hentries]
  simp only [plain, hmetadata]

/-- A contract is read back if what its file is read to is the same. -/
theorem readsBack_iff_reread (c : Contract) : c.ReadsBack ↔ c.reread?.map plain = some c.plain := by
  simp only [ReadsBack, ofBytes_toBytes, same_iff_plain, Option.map_eq_some_iff]

theorem readsBack_iff (c : Contract) :
    c.ReadsBack ↔ (∀ entry ∈ c.entries, entry.Survives) ∧ c.metadata.Survives := by
  have hentries : (c.entries.mapM Entry.reread?).map (List.map Entry.plain) =
      some (c.entries.map Entry.plain) ↔ ∀ entry ∈ c.entries, entry.Survives := by
    rw [Outcome.map_mapM, Outcome.mapM_eq_some_map]
    rfl
  rw [readsBack_iff_reread, ← hentries, Metadata.Survives, reread?]
  cases c.entries.mapM Entry.reread? with
  | none => simp
  | some entries => cases c.metadata.reread? <;> simp [plain]

theorem readsBack_congr {a b : Contract} (h : a.same b = true) : a.ReadsBack ↔ b.ReadsBack := by
  rw [readsBack_iff_reread, readsBack_iff_reread, ← reread?_plain a, ← reread?_plain b,
    (same_iff_plain a b).mp h]

/-- What two contracts that are read back are merged into is read back. -/
theorem ReadsBack.merged {ours theirs : Contract} (hours : ours.ReadsBack)
    (htheirs : theirs.ReadsBack) : (ours.merged theirs).ReadsBack := by
  rw [readsBack_iff] at hours htheirs ⊢
  constructor
  · intro entry hentry
    rcases List.mem_append.mp hentry with hknown | hfresh
    · exact hours.1 entry hknown
    · exact htheirs.1 entry (Entry.fresh_subset _ _ hfresh)
  · exact Metadata.survives_overlay hours.2 htheirs.2

end Contract

end MessageContract
