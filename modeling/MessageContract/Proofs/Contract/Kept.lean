import MessageContract.Proofs.Contents.Opaque
import MessageContract.Proofs.Contract.FileValue
import MessageContract.Proofs.Contract.Floats
import MessageContract.Proofs.Contract.Loaded
import MessageContract.Proofs.Contract.Merge

/-!
What is kept of a contract when its file is merged into and written anew. Everything that
was loaded is written again where it was, and read again but for its floats: each is what
is read of the digits that are written for it.
-/

namespace MessageContract

/-- Contents that have been read are read back as some contents. -/
theorem Contents.exists_again {contents : Contents}
    (hread : contents = .empty ∨ ∃ value, ofJson? value = some contents) :
    ∃ again, ofJson? contents.toJson = some again := by
  cases contents with
  | empty => exact ⟨.empty, rfl⟩
  | json contentType body =>
      obtain ⟨value, hread⟩ := hread.resolve_left (by simp)
      exact ⟨_, (sound_of_ofJson? hread).ofJson?_toJson⟩
  | bytes contentType data =>
      cases hplain : plainText? contentType data with
      | some text => exact ⟨_, ofJson?_text hplain⟩
      | none => exact ⟨_, ofJson?_base64 hplain⟩

theorem Interaction.Sound.mapFloats {i : Interaction} (h : i.Sound) (f : Binary64 → Binary64) :
    (i.mapFloats f).Sound where
  states := by
    intro state hstate
    obtain ⟨written, hwritten, rfl⟩ := List.mem_map.mp hstate
    exact Json.isValue_mapValues (h.states written hwritten)
  metadata := h.metadata
  extra := Json.isValue_mapValues h.extra
  apart := by
    intro name hname
    rw [Interaction.mapFloats, Fields.get?_mapValues, h.apart name hname]
    rfl

namespace Entry

theorem isValue_of_ofJson {value other : Json} (hread : ofJson value = .other other) :
    other.IsValue := by
  rw [ofJson] at hread
  split at hread
  · cases hread
  · obtain rfl := Entry.other.inj hread
    exact Json.isValue_normalize value

end Entry

namespace Contract

variable {existing c loaded : Contract}

/-- The old entries come first. -/
theorem getElem?_merged {i : Nat} {entry : Entry} (hentry : existing.entries[i]? = some entry) :
    (existing.merged c).entries[i]? = some entry := by
  obtain ⟨hi, -⟩ := List.getElem?_eq_some_iff.mp hentry
  rw [merged, List.getElem?_append_left hi, hentry]

theorem get?_merged {key : String} (habsent : Fields.get? key c.metadata.extra = none) :
    Fields.get? key (existing.merged c).metadata.extra =
      Fields.get? key existing.metadata.extra := by
  have honce : c.metadata.extra.countP (·.1 == key) ≤ 1 := by
    rw [Fields.countP_of_absent habsent]
    exact Nat.zero_le _
  rw [merged, Fields.get?_overlay honce, habsent, Option.none_or]

theorem Loaded.reread?_entry (h : existing.Loaded) {i : Nat} {entry : Entry}
    (hentry : existing.entries[i]? = some entry) :
    entry.toJson.reread? partRoom = some (entry.toJson.mapFloats Binary64.reread) :=
  Json.Within.reread?_eq (h.fitsFile.entries entry (List.mem_of_getElem? hentry))

/-- A message is read back with what is read back of its contents. -/
theorem Loaded.ofJson_message (h : existing.Loaded) {i : Nat} {m : Interaction}
    (hentry : existing.entries[i]? = some (.message m)) :
    ∃ contents, Contents.ofJson? m.contents.toJson = some contents ∧
      Entry.ofJson m.toJson = .message { m with contents } := by
  obtain ⟨value, -, hvalue⟩ := h.entries _ (List.mem_of_getElem? hentry)
  have hread := Entry.ofJson_eq_message.mp hvalue
  obtain ⟨again, hagain⟩ := Contents.exists_again (Interaction.contents_of_ofJson? hread)
  refine ⟨again, hagain, ?_⟩
  exact Entry.ofJson_eq_message.mpr ((Interaction.sound_of_ofJson? hread).ofJson?_toJson hagain)

/-- In a file that has been merged into, a message has the value that is written for it. -/
theorem Loaded.entryValue?_message (h : existing.Loaded) {i : Nat} {m : Interaction}
    (hentry : existing.entries[i]? = some (.message m)) {items : List Json}
    {extra : List (String × Json)} (hrereads : (existing.merged c).Rereads items extra) :
    entryValue? (existing.merged c).toBytes i =
      some (m.mapFloats Binary64.reread).toJson.normalize := by
  rw [hrereads.entryValue?, getElem?_merged hentry, Option.bind_some, h.reread?_entry hentry,
    Option.map_some, Entry.toJson, Interaction.toJson_mapFloats]

/-- A further member of the metadata that is not laid over is reread where it was. -/
theorem Loaded.get?_reread (h : existing.Loaded) {extra : List (String × Json)}
    (hread : Json.rereadMembers partRoom (existing.merged c).metadata.extra = some extra)
    {key : String} (habsent : Fields.get? key c.metadata.extra = none) :
    Fields.get? key (Fields.ofList (Json.normalizeMembers extra)) =
      (Fields.get? key existing.metadata.extra).map (Json.mapFloats Binary64.reread) := by
  obtain ⟨hsorted, hvalues⟩ := Json.isValue_object.mp h.metadata.extra
  rw [Json.Scan.rereadMembers_eq] at hread
  have hkeys := Fields.keys_mapM hread
  have hmerged : Fields.Sorted (existing.merged c).metadata.extra := Fields.sorted_overlay hsorted _
  have hextra : Fields.Sorted extra := by
    rw [Fields.sorted_iff_keys, hkeys, ← Fields.sorted_iff_keys]
    exact hmerged
  rw [Json.normalizeMembers_eq, Fields.ofList_of_sorted (Fields.sorted_mapValues.mpr hextra),
    Fields.get?_mapValues, Fields.get?_mapM hread, get?_merged habsent]
  cases hget : Fields.get? key existing.metadata.extra with
  | none => rfl
  | some value =>
      have hmem := Fields.mem_of_get? hget
      have hwithin := (h.metadata.fitsFile _ hmem).2.reread?_eq
      have hvalue : value.IsValue := hvalues _ hmem
      rw [Option.bind_some, hwithin, Option.map_some, hvalue.mapFloats]
      rfl

/-- What is kept of a contract in a file that has been merged into: every entry is where it
was, the value that is no message and the message with its preconditions, its metadata and
the members of other tools; and so is what was said about the contract beside what is laid
over it. Each float in them is what is reread of it, and the specification is all that stays
under its key. -/
structure Kept (existing c loaded : Contract) (bytes : List UInt8) : Prop where
  consumer : loaded.consumer = existing.consumer
  provider : loaded.provider = existing.provider
  specification : loaded.metadata.specification = existing.metadata.specification
  other : ∀ (i : Nat) (value : Json), existing.entries[i]? = some (.other value) →
    entryValue? bytes i = some (value.mapFloats Binary64.reread)
  message : ∀ (i : Nat) (m : Interaction), existing.entries[i]? = some (.message m) →
    ∃ contents, Contents.ofJson? m.contents.toJson = some contents ∧
      loaded.entries[i]? =
        some (.message (Interaction.mapFloats Binary64.reread { m with contents }))
  metadata : ∀ key, Fields.get? key c.metadata.extra = none →
    Fields.get? key loaded.metadata.extra =
      (Fields.get? key existing.metadata.extra).map (Json.mapFloats Binary64.reread)
  version : metadataValue? bytes "pactSpecification" =
    some (.object [("version", .string existing.metadata.specification)])

theorem Loaded.kept (hexisting : existing.Loaded)
    (hread : (existing.merged c).reread? = some loaded) :
    existing.Kept c loaded (existing.merged c).toBytes := by
  obtain ⟨items, extra, hrereads, hsingle, rfl⟩ := reread?_eq_some.mp hread
  constructor
  case consumer => rfl
  case provider => rfl
  case specification => rfl
  case other =>
    intro i value hentry
    obtain ⟨read, -, hread⟩ := hexisting.entries _ (List.mem_of_getElem? hentry)
    have hvalue := Entry.isValue_of_ofJson hread
    rw [hrereads.entryValue?, getElem?_merged hentry, Option.bind_some,
      hexisting.reread?_entry hentry, Option.map_some, Entry.toJson, hvalue.mapFloats]
  case message =>
    intro i m hentry
    obtain ⟨contents, hcontents, hagain⟩ := hexisting.ofJson_message hentry
    refine ⟨contents, hcontents, ?_⟩
    have hitem := Outcome.getElem?_mapM hrereads.entries i
    rw [List.getElem?_map, getElem?_merged hentry, Option.map_some, Option.bind_some,
      hexisting.reread?_entry hentry] at hitem
    rw [List.getElem?_map, hitem, Option.map_some, Entry.ofJson_mapFloats, Entry.toJson, hagain]
    rfl
  case metadata =>
    intro key habsent
    exact hexisting.get?_reread hrereads.metadata habsent
  case version => exact hrereads.metadataValue? hsingle

/-- A value that is no message is the same afterwards if each of its floats is read as it
was. -/
theorem Kept.unchanged_iff {bytes : List UInt8} (h : existing.Kept c loaded bytes) {i : Nat}
    {value : Json} (hentry : existing.entries[i]? = some (.other value)) :
    entryValue? bytes i = some value ↔ ∀ x ∈ value.floats, x.reread = x := by
  rw [h.other i value hentry, Option.some.injEq, Json.mapFloats_eq_self_iff]

end Contract

end MessageContract
