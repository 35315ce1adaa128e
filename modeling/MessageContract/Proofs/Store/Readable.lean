import MessageContract.Proofs.Contract.Room
import MessageContract.Proofs.Session.Verify
import MessageContract.Proofs.Store.Holds

/-!
Whether a file can be read after a write. Writing knows no limit of depth and reading
does, so a write that succeeds may leave a file that cannot be read. It does so exactly if
something that it adds nests too deep: what stood in the file before never does, as it was
read with the same limit.
-/

namespace MessageContract

/-- The entry nests no deeper than there is room for in a file. -/
def Entry.Shallow (entry : Entry) : Prop :=
  entry.toJson.depth ≤ partRoom

/-- No further member nests deeper than there is room for in a file, or has the key of the
specification. -/
def Contract.Metadata.Shallow (m : Contract.Metadata) : Prop :=
  ∀ field ∈ m.extra, field.1 ≠ "pactSpecification" ∧ field.2.depth ≤ partRoom

/-- Numbers fit 64 bits, and the further members of the metadata are a map. -/
structure Contract.Typed (c : Contract) : Prop where
  entries : ∀ entry ∈ c.entries, entry.toJson.InRange
  members : ∀ field ∈ c.metadata.extra, field.2.InRange
  sorted : Fields.Sorted c.metadata.extra

theorem Entry.reread?_isSome_iff {entry : Entry} (h : entry.toJson.InRange) :
    entry.reread?.isSome ↔ entry.Shallow := by
  rw [reread?, Option.isSome_map, Json.reread?_isSome_iff h, Shallow]

namespace Contract

theorem Typed.metadata_reread?_isSome_iff {c : Contract} (h : c.Typed) :
    c.metadata.reread?.isSome ↔ c.metadata.Shallow := by
  rw [Metadata.reread?_isSome_iff]
  exact forall₂_congr fun field hfield =>
    and_congr_right fun _ => Json.reread?_isSome_iff (h.members field hfield)

theorem Typed.reread?_isSome_iff {c : Contract} (h : c.Typed) :
    c.reread?.isSome ↔ (∀ entry ∈ c.entries, entry.Shallow) ∧ c.metadata.Shallow := by
  rw [Contract.reread?_isSome_iff, h.metadata_reread?_isSome_iff]
  apply and_congr_left'
  exact forall₂_congr fun entry hentry => Entry.reread?_isSome_iff (h.entries entry hentry)

/-- Beside what was read from a file only what is added has to be looked at. -/
theorem Loaded.merged_reread?_isSome_iff {existing c : Contract} (hexisting : existing.Loaded)
    (hc : c.Typed) :
    (existing.merged c).reread?.isSome ↔
      (∀ entry ∈ Entry.fresh existing.entries c.entries, entry.Shallow) ∧ c.metadata.Shallow := by
  have hfresh : ∀ entry ∈ Entry.fresh existing.entries c.entries,
      (entry.reread?.isSome ↔ entry.Shallow) := fun entry hentry =>
    Entry.reread?_isSome_iff (hc.entries entry (Entry.fresh_subset _ _ hentry))
  constructor
  · intro hread
    obtain ⟨hentries, hmetadata⟩ := (Contract.reread?_isSome_iff _).mp hread
    rw [Metadata.reread?_isSome_iff] at hmetadata
    constructor
    · intro entry hentry
      exact (hfresh entry hentry).mp (hentries entry (List.mem_append_right _ hentry))
    · intro field hfield
      have hget : Fields.get? field.1 (existing.merged c).metadata.extra = some field.2 := by
        have hsingle := Fields.countP_le_one hc.sorted field.1
        rw [merged, Fields.get?_overlay hsingle, Fields.get?_of_mem hc.sorted hfield]
        rfl
      obtain ⟨hkey, hfieldRead⟩ := hmetadata _ (Fields.mem_of_get? hget)
      exact ⟨hkey, Json.depth_le_of_reread? hfieldRead⟩
  · rintro ⟨hentries, hmetadata⟩
    exact hexisting.merged_reread?_isSome
      (fun entry hentry => (hfresh entry hentry).mpr (hentries entry hentry))
      (hc.metadata_reread?_isSome_iff.mpr hmetadata)

end Contract

namespace Store

/-- What a write adds to the pair's file is not too deep to be read. A file that is not
there, or is not looked at, is given the whole contract, and one that is up to date nothing. -/
def AddsShallow (store : Store) (c : Contract) (overwrite : Bool) (disk : Disk) : Prop :=
  match if overwrite then none else disk.file? (store.fileNames c.consumer c.provider) with
  | none => (∀ entry ∈ c.entries, entry.Shallow) ∧ c.metadata.Shallow
  | some bytes => ∀ existing, Contract.ofBytes bytes = .ok existing →
      (existing.merged c).same existing = false →
        (∀ entry ∈ Entry.fresh existing.entries c.entries, entry.Shallow) ∧ c.metadata.Shallow

variable {store : Store} {conditions : Conditions} {c : Contract} {overwrite : Bool}
variable {disk after : Disk} {written : Written}

theorem addsShallow_of_absent
    (habsent : disk.file? (store.fileNames c.consumer c.provider) = none) :
    store.AddsShallow c overwrite disk ↔
      (∀ entry ∈ c.entries, entry.Shallow) ∧ c.metadata.Shallow := by
  rw [AddsShallow, habsent, ite_self]

/-- After a write that succeeds the file can be read if what was added is not too deep, and
only then. -/
theorem load_of_write (hc : c.Typed)
    (hrun : store.writeUnder conditions c overwrite disk = (.ok written, after)) :
    (store.AddsShallow c overwrite disk →
      ∃ loaded, store.load after c.consumer c.provider = .ok (some loaded)) ∧
    (¬ store.AddsShallow c overwrite disk →
      ∃ path error, store.load after c.consumer c.provider = .error (.corrupt path error)) := by
  obtain ⟨hresult, -, hresolve⟩ := write_spec hrun
  replace hresolve := hresolve ⟨written, rfl⟩
  unfold AddsShallow
  generalize hbefore : disk.file? (store.fileNames c.consumer c.provider) = before at hresult ⊢
  generalize hnow : after.file? (store.fileNames c.consumer c.provider) = now at hresult
  cases hresult with
  | new hnew =>
      have hload := load_of_file hresolve hnow
      rw [Contract.exists_ofBytes_iff, hc.reread?_isSome_iff] at hload
      have hwhole : (if overwrite then none else before) = none := by
        rcases hnew with rfl | rfl
        · rfl
        · exact ite_self _
      rw [hwhole]
      exact hload
  | @upToDate bytes existing hreads hread hparse _ hsame =>
      have hload := (load_of_file hresolve (hnow.trans hread)).1 ⟨existing, hparse⟩
      refine ⟨fun _ => hload, ?_⟩
      intro hdeep
      refine absurd ?_ hdeep
      rw [hreads, hread]
      intro found hfound hdiffers
      obtain rfl := Except.ok.inj (hparse.symm.trans hfound)
      rw [hsame] at hdiffers
      cases hdiffers
  | @merged bytes existing hreads hread hparse _ hdiffers =>
      have hload := load_of_file hresolve hnow
      have hexisting := Contract.loaded_of_ofBytes hparse
      rw [Contract.exists_ofBytes_iff, hexisting.merged_reread?_isSome_iff hc] at hload
      rw [hreads, hread]
      have hadded : (∀ found, Contract.ofBytes bytes = .ok found →
          (found.merged c).same found = false →
            (∀ entry ∈ Entry.fresh found.entries c.entries, entry.Shallow) ∧
              c.metadata.Shallow) ↔
          (∀ entry ∈ Entry.fresh existing.entries c.entries, entry.Shallow) ∧
            c.metadata.Shallow := by
        constructor
        · exact fun h => h existing hparse hdiffers
        · intro h found hfound _
          obtain rfl := Except.ok.inj (hparse.symm.trans hfound)
          exact h
      rw [← hadded] at hload
      exact hload

end Store

namespace Session

variable {σ α : Type}

/-- A verification that succeeds ends in a write of the session's contract to the file that
the handler has left. -/
theorem write_of_verify {s : Session} {engine : PatternEngine} {m : Message σ α}
    {handler : Handler σ α} {given : ConcreteMessage α} {bench accepted after : Bench σ}
    (hreaches : m.Reaches engine given)
    (hcall : handler given (m.warned engine bench) = (.ok (), accepted)) (hopen : s.Open accepted)
    (hrun : s.verify engine m handler bench = (.ok (), after)) :
    s.contract after = s.candidate m.interaction accepted ∧
      ∃ written,
        s.store.writeUnder accepted.conditions (s.contract after) false accepted.disk =
          (.ok written, after.disk) := by
  rw [verify_of_reaches hreaches, hcall] at hrun
  obtain ⟨-, hcontract, hwrite⟩ := write_of_record hopen hrun
  rw [hcontract]
  exact ⟨rfl, hwrite⟩

/-- After a verification that succeeds the file can be loaded if what was added is not too
deep, and only then. -/
theorem load_of_verify {s : Session} {engine : PatternEngine} {m : Message σ α}
    {handler : Handler σ α} {given : ConcreteMessage α} {bench accepted after : Bench σ}
    (hreaches : m.Reaches engine given)
    (hcall : handler given (m.warned engine bench) = (.ok (), accepted)) (hopen : s.Open accepted)
    (hrun : s.verify engine m handler bench = (.ok (), after)) (hc : (s.contract after).Typed) :
    (s.store.AddsShallow (s.contract after) false accepted.disk →
      ∃ loaded, s.store.load after.disk s.settings.consumer s.settings.provider =
        .ok (some loaded)) ∧
    (¬ s.store.AddsShallow (s.contract after) false accepted.disk →
      ∃ path error, s.store.load after.disk s.settings.consumer s.settings.provider =
        .error (.corrupt path error)) := by
  obtain ⟨hcandidate, written, hwrite⟩ := write_of_verify hreaches hcall hopen hrun
  obtain ⟨hconsumer, hprovider⟩ := candidate_pair (i := m.interaction) hopen
  have hload := Store.load_of_write hc hwrite
  rw [hcandidate] at hload ⊢
  rwa [hconsumer, hprovider] at hload

end Session

namespace Interaction

/-- How deep the parts of a message may nest in a file. -/
theorem shallow_iff {i : Interaction} (hrange : i.toJson.InRange) :
    (Entry.message i).Shallow ↔
      (∀ v ∈ i.contents.toWire.content, v.depth ≤ 123) ∧
        (∀ state ∈ i.states, ∀ field ∈ state.params, field.2.depth ≤ 121) ∧
        ∀ member ∈ i.extra, member.2.depth ≤ 124 := by
  have hwide : i.toJson.Within (i.toJson.depth + 4) := ⟨Nat.le_add_right _ 4, hrange⟩
  obtain ⟨hcontent, hparams, hextra⟩ := within_toJson.mp hwide
  have hshallow : (Entry.message i).Shallow ↔ i.toJson.Within (121 + 4) :=
    (and_iff_left hrange).symm
  rw [hshallow, within_toJson]
  constructor
  · rintro ⟨hcontentIn, hparamsIn, hextraIn⟩
    exact ⟨fun v hv => (hcontentIn v hv).1,
      fun state hstate field hfield => (hparamsIn state hstate field hfield).1,
      fun member hmember => (hextraIn member hmember).1⟩
  · rintro ⟨hcontentIn, hparamsIn, hextraIn⟩
    exact ⟨fun v hv => ⟨hcontentIn v hv, (hcontent v hv).2⟩,
      fun state hstate field hfield =>
        ⟨hparamsIn state hstate field hfield, (hparams state hstate field hfield).2⟩,
      fun member hmember => ⟨hextraIn member hmember, (hextra member hmember).2⟩⟩

end Interaction

namespace Json

/-- A null within so many arrays. -/
def nested : Nat → Json
  | 0 => .null
  | n + 1 => .array [nested n]

theorem nested_within (n : Nat) : (nested n).Within n := by
  induction n with
  | zero => exact within_null
  | succ n ih => exact within_array.mpr ⟨n, rfl, by simpa using ih⟩

theorem depth_nested (n : Nat) : (nested n).depth = n := by
  induction n with
  | zero => rfl
  | succ n ih => simp [nested, depth, depthItems, ih]

theorem isValue_nested (n : Nat) : (nested n).IsValue := by
  induction n with
  | zero => rfl
  | succ n ih => exact isValue_array.mpr (by simpa using ih)

/-- Arrays in one another are a content tree as they stand. -/
theorem exists_ofJson_nested (n : Nat) :
    ∃ body, Node.ofJson (nested n) = .ok body ∧ body.toJson = nested n := by
  induction n with
  | zero => exact ⟨.null, rfl, rfl⟩
  | succ n ih =>
      obtain ⟨body, hread, hwritten⟩ := ih
      refine ⟨.array [body], ?_, ?_⟩
      · simp only [nested, Node.ofJson, Node.ofItems, hread]
        rfl
      · simp only [nested, Node.toJson, Node.itemsJson, hwritten]

end Json

theorem Contract.typed_add_new (consumer provider : String) {i : Interaction}
    (h : i.toJson.InRange) : ((Contract.new consumer provider).add i).1.Typed where
  entries := by
    intro entry hentry
    obtain rfl := List.mem_singleton.mp hentry
    exact h
  members := fun field hfield => (Metadata.fitsFile_initial field hfield).2.2
  sorted := List.pairwise_singleton _ _

namespace Session

/-- A message whose content is a null within so many arrays. -/
def nestedMessage (s : Session) (n : Nat) : Message Unit Json :=
  ((s.message (anyTarget "any")).expects "an event").setJsonBody (.ok (.nested n))

theorem built_nestedMessage (s : Session) (n : Nat) : (s.nestedMessage n).Built := by
  refine .setJsonBody ?_ (.expects _ (.new s _))
  intro value hvalue
  cases hvalue
  exact Json.isValue_nested n

/-- With 123 arrays around it the content has room in a file, and with no more. -/
theorem shallow_nestedMessage (s : Session) (n : Nat) :
    (s.nestedMessage n).interaction.toJson.InRange ∧
      ((Entry.message (s.nestedMessage n).interaction).Shallow ↔ n ≤ 123) := by
  obtain ⟨body, hread, hwritten⟩ := Json.exists_ofJson_nested n
  have hinteraction : (s.nestedMessage n).interaction =
      { description := "an event", contents := .json MediaType.json body } := by
    simp only [nestedMessage, Message.setJsonBody, Message.setValue, hread]
    rfl
  have hcontent : ∀ v ∈ (Contents.json MediaType.json body).toWire.content, v = .nested n := by
    intro v hv
    rw [← hwritten]
    exact (Option.some.inj hv).symm
  have hwide : (s.nestedMessage n).interaction.toJson.Within (n + 4) := by
    rw [hinteraction]
    refine Interaction.within_toJson.mpr ⟨?_, List.forall_mem_nil _, List.forall_mem_nil _⟩
    intro v hv
    rw [hcontent v hv]
    exact (Json.nested_within n).mono (Nat.le_add_right n 2)
  refine ⟨hwide.2, ?_⟩
  rw [Interaction.shallow_iff hwide.2, hinteraction]
  constructor
  · rintro ⟨hdepth, -⟩
    have hnested := hdepth body.toJson rfl
    rwa [hwritten, Json.depth_nested] at hnested
  · intro hn
    refine ⟨?_, List.forall_mem_nil _, List.forall_mem_nil _⟩
    intro v hv
    rw [hcontent v hv, Json.depth_nested]
    exact hn

/-- The verification of such a message, the first one of a session without a file. -/
theorem verify_nestedMessage {s : Session} {n : Nat} {engine : PatternEngine}
    {bench after : Bench Unit}
    (hnew : bench.contracts[s.slot]? =
      some (Contract.new s.settings.consumer s.settings.provider))
    (hfile : bench.disk.file? s.fileNames = none)
    (hrun : s.verify engine (s.nestedMessage n) (fun _ => pure ()) bench = (.ok (), after)) :
    (∃ given, (s.nestedMessage n).Reaches engine given) ∧
      s.Open ((s.nestedMessage n).warned engine bench) ∧ (s.contract after).Typed ∧
      (s.store.AddsShallow (s.contract after) false bench.disk ↔ n ≤ 123) := by
  obtain ⟨hrange, hshallow⟩ := s.shallow_nestedMessage n
  have hopen : s.Open ((s.nestedMessage n).warned engine bench) := ⟨_, hnew, rfl, rfl⟩
  obtain ⟨-, _, _, herror, -⟩ | ⟨_, _, -, -, herror⟩ | ⟨given, accepted, hreaches, hcall, -⟩ :=
    verify_cases hrun
  · cases herror
  · cases herror
  obtain ⟨hcontract, -⟩ := write_of_verify hreaches rfl hopen hrun
  have hcandidate : s.candidate (s.nestedMessage n).interaction
      ((s.nestedMessage n).warned engine bench) =
        ((Contract.new s.settings.consumer s.settings.provider).add
          (s.nestedMessage n).interaction).1 := by
    rw [candidate, contract, Message.warned, hnew]
    rfl
  obtain ⟨hconsumer, hprovider⟩ := candidate_pair (i := (s.nestedMessage n).interaction) hopen
  have habsent : bench.disk.file? (s.store.fileNames (s.contract after).consumer
      (s.contract after).provider) = none := by
    rw [hcontract, hconsumer, hprovider]
    exact hfile
  have hinitial : Contract.Metadata.initial.Shallow := fun field hfield =>
    ⟨(Contract.Metadata.fitsFile_initial field hfield).1,
      (Contract.Metadata.fitsFile_initial field hfield).2.1⟩
  rw [Store.addsShallow_of_absent habsent, ← hshallow, hcontract, hcandidate]
  refine ⟨⟨given, hreaches⟩, hopen, Contract.typed_add_new _ _ hrange, ?_⟩
  constructor
  · rintro ⟨hentries, -⟩
    exact hentries _ List.mem_cons_self
  · intro h
    refine ⟨?_, hinitial⟩
    intro entry hentry
    obtain rfl := List.mem_singleton.mp hentry
    exact h

end Session

/-- A write that succeeds, or a verification that ends in one, leaves a file that can be
loaded if what it adds to the file is not too deep. If it is, the file is corrupt. -/
theorem write_readable_iff_shallow {σ α : Type} (engine : PatternEngine) (s : Session)
    (m : Message σ α) (handler : Handler σ α) :
    (∀ (store : Store) (c : Contract) (overwrite : Bool) (disk after : Disk) (written : Written),
      c.Typed → store.write c overwrite disk = (.ok written, after) →
        (store.AddsShallow c overwrite disk →
          ∃ loaded, store.load after c.consumer c.provider = .ok (some loaded)) ∧
        (¬ store.AddsShallow c overwrite disk →
          ∃ path error, store.load after c.consumer c.provider = .error (.corrupt path error))) ∧
    ∀ (given : ConcreteMessage α) (bench accepted after : Bench σ),
      m.Reaches engine given → handler given (m.warned engine bench) = (.ok (), accepted) →
      s.Open accepted → s.verify engine m handler bench = (.ok (), after) →
      (s.contract after).Typed →
        (s.store.AddsShallow (s.contract after) false accepted.disk →
          ∃ loaded, s.store.load after.disk s.settings.consumer s.settings.provider =
            .ok (some loaded)) ∧
        (¬ s.store.AddsShallow (s.contract after) false accepted.disk →
          ∃ path error, s.store.load after.disk s.settings.consumer s.settings.provider =
            .error (.corrupt path error)) := by
  constructor
  · intro store c overwrite disk after written hc hrun
    exact Store.load_of_write hc hrun
  · intro given bench accepted after hreaches hcall hopen hrun hc
    exact Session.load_of_verify hreaches hcall hopen hrun hc

/-- With 123 arrays around it the content of a verified message is read from the file. -/
theorem write_readable_iff_shallow_nested :
    let s : Session := ⟨⟨"consumer", "provider", "pacts", "warn", false⟩, 0⟩
    let bench : Bench Unit :=
      { contracts := [Contract.new "consumer" "provider"], state := () }
    ∃ after loaded, s.verify ⟨fun _ => .error none⟩ (s.nestedMessage 123) (fun _ => pure ()) bench =
        (.ok (), after) ∧
      s.store.load after.disk "consumer" "provider" = .ok (some loaded) := by
  intro s bench
  obtain ⟨after, hrun⟩ : ∃ after, s.verify ⟨fun _ => .error none⟩ (s.nestedMessage 123)
      (fun _ => pure ()) bench = (.ok (), after) := exists_of_isOk (by decide +kernel)
  obtain ⟨⟨given, hreaches⟩, hopen, htyped, hadds⟩ :=
    Session.verify_nestedMessage rfl (by decide +kernel) hrun
  obtain ⟨loaded, hload⟩ :=
    ((write_readable_iff_shallow _ s (s.nestedMessage 123) fun _ => pure ()).2
      given bench _ after hreaches rfl hopen hrun htyped).1 (hadds.mpr (by decide))
  exact ⟨after, loaded, hrun, hload⟩

/-- With one array more the verification succeeds, and leaves a file that is corrupt. -/
theorem nested_content_written_corrupt :
    let s : Session := ⟨⟨"consumer", "provider", "pacts", "warn", false⟩, 0⟩
    let bench : Bench Unit :=
      { contracts := [Contract.new "consumer" "provider"], state := () }
    (s.nestedMessage 124).Built ∧
      ∃ after path error, s.verify ⟨fun _ => .error none⟩ (s.nestedMessage 124) (fun _ => pure ())
          bench = (.ok (), after) ∧
        s.store.load after.disk "consumer" "provider" = .error (.corrupt path error) := by
  intro s bench
  obtain ⟨after, hrun⟩ : ∃ after, s.verify ⟨fun _ => .error none⟩ (s.nestedMessage 124)
      (fun _ => pure ()) bench = (.ok (), after) := exists_of_isOk (by decide +kernel)
  obtain ⟨⟨given, hreaches⟩, hopen, htyped, hadds⟩ :=
    Session.verify_nestedMessage rfl (by decide +kernel) hrun
  have hdeep : ¬ s.store.AddsShallow (s.contract after) false bench.disk :=
    fun h => absurd (hadds.mp h) (by decide)
  obtain ⟨path, error, hload⟩ := (Session.load_of_verify hreaches rfl hopen hrun htyped).2 hdeep
  exact ⟨s.built_nestedMessage 124, after, path, error, hrun, hload⟩

end MessageContract
