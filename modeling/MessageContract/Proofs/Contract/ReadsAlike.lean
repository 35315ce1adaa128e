import MessageContract.Proofs.Contract.Room

/-!
Entries that are read from a file as entries like them. Neither likeness nor the reading
of a message's own members looks at the members of other tools. So an entry of a file is
read as a like entry again if it is like one that survives, whatever other tools have
written into it.
-/

namespace MessageContract

namespace Json

variable {members : Fields Json}

theorem rereadMembers_append (room : Nat) (first second : Fields Json) :
    rereadMembers room (first ++ second) =
      (rereadMembers room first).bind fun a => (rereadMembers room second).map (a ++ ·) := by
  simp only [Scan.rereadMembers_eq, List.mapM_append]
  exact bind_congr fun a => (map_eq_pure_bind _ _).symm

/-- Members are reread under their keys. -/
theorem get?_rereadMembers {room : Nat} {read : Fields Json}
    (hread : rereadMembers room members = some read) {name : String}
    (habsent : Fields.get? name members = none) : Fields.get? name read = none := by
  rw [Scan.rereadMembers_eq] at hread
  apply Fields.get?_eq_none_iff.mpr
  intro field hfield
  obtain ⟨member, hmember, hfound⟩ := Outcome.mem_of_mapM hread field hfield
  obtain ⟨_, -, rfl⟩ := Option.map_eq_some_iff.mp hfound
  exact Fields.get?_eq_none_iff.mp habsent member hmember

end Json

namespace Interaction

/-- The interaction without the members of other tools. -/
def bare (i : Interaction) : Interaction :=
  { i with extra := [] }

/-- An object with the same fields is read as the same interaction but for the members of
other tools. -/
theorem ofJson?_of_fieldsOf? {first second : Fields Json} {i : Interaction}
    (hfields : Json.fieldsOf? fieldNames (.object first) =
      Json.fieldsOf? fieldNames (.object second))
    (hread : ofJson? (.object first) = some i) :
    ∃ extra, ofJson? (.object second) = some { i with extra } := by
  obtain ⟨kind, description, states, contents, metadata, hknown, hparts⟩ :=
    ofJson?_eq_some.mp hread
  rw [Json.openFieldsOf?_object, hfields] at hknown
  obtain ⟨known, hfound, hpair⟩ := Option.map_eq_some_iff.mp hknown
  obtain ⟨rfl, -⟩ := Prod.mk.inj hpair
  have hsecond : Json.openFieldsOf? fieldNames (.object second) = _ := Json.openFieldsOf?_object
  rw [hfound] at hsecond
  exact ⟨_, ofJson?_eq_some.mpr ⟨_, _, _, _, _, hsecond, hparts⟩⟩

end Interaction

namespace Entry

/-- What is written of the entry is read as an entry like it. -/
def ReadsAlike (entry : Entry) : Prop :=
  entry.reread?.map core = some entry.core

variable {entry : Entry} {i : Interaction}

theorem map_core_of_plain {a b : Option Entry} (h : a.map plain = b.map plain) :
    a.map core = b.map core := by
  cases a <;> cases b
  case some.some => exact congrArg some (core_eq_of_plain_eq (Option.some.inj h))
  all_goals first | rfl | cases h

theorem Survives.readsAlike (h : entry.Survives) : entry.ReadsAlike :=
  map_core_of_plain (b := some entry) h

theorem readsAlike_congr {a b : Entry} (h : a.plain = b.plain) : a.ReadsAlike ↔ b.ReadsAlike := by
  have hread : a.reread?.map plain = b.reread?.map plain := by
    rw [← reread?_plain a, ← reread?_plain b, h]
  rw [ReadsAlike, ReadsAlike, map_core_of_plain hread, core_eq_of_plain_eq h]

theorem core_ofJson_of_fieldsOf? {first second : Fields Json} {c : Interaction}
    (hfields : Json.fieldsOf? Interaction.fieldNames (.object first) =
      Json.fieldsOf? Interaction.fieldNames (.object second))
    (hread : (ofJson (.object first)).core = .message c) :
    (ofJson (.object second)).core = .message c := by
  unfold ofJson at hread
  split at hread
  case h_1 i hfirst =>
    obtain ⟨extra, hsecond⟩ := Interaction.ofJson?_of_fieldsOf? hfields hfirst
    rw [ofJson, hsecond]
    exact hread
  case h_2 => cases hread

/-- Whether a message is read as a like one does not depend on the members of other tools
as long as these can be read and are not called like its own. -/
theorem readsAlike_bare_iff
    (hapart : ∀ name ∈ Interaction.fieldNames, Fields.get? name i.extra = none)
    (hreads : (message i).reread?.isSome) :
    (message i).ReadsAlike ↔ (message i.bare).ReadsAlike := by
  obtain ⟨found, hfound⟩ := Option.isSome_iff_exists.mp hreads
  obtain ⟨value, hvalue, rfl⟩ := Option.map_eq_some_iff.mp hfound
  have hroom : partRoom = 124 + 1 := rfl
  rw [toJson, Interaction.toJson_eq, hroom, Json.reread?, Json.rereadMembers_append] at hvalue
  obtain ⟨_, hmembers, rfl⟩ := Option.map_eq_some_iff.mp hvalue
  obtain ⟨parts, hparts, hmembers⟩ := Option.bind_eq_some_iff.mp hmembers
  obtain ⟨extra, hextra, rfl⟩ := Option.map_eq_some_iff.mp hmembers
  have hbare : (message i.bare).reread? = some (ofJson (.object parts)) := by
    have hnothing : Fields.present i.bare.parts ++ i.bare.extra = Fields.present i.parts :=
      List.append_nil _
    rw [reread?, toJson, Interaction.toJson_eq, hroom, Json.reread?, hnothing, hparts]
    rfl
  have hfields : Json.fieldsOf? Interaction.fieldNames (.object (parts ++ extra)) =
      Json.fieldsOf? Interaction.fieldNames (.object parts) :=
    Json.fieldsOf?_append fun name hname => Json.get?_rereadMembers hextra (hapart name hname)
  rw [ReadsAlike, ReadsAlike, hfound, hbare, Option.map_some, Option.map_some,
    Option.some.injEq, Option.some.injEq]
  exact ⟨core_ofJson_of_fieldsOf? hfields, core_ofJson_of_fieldsOf? hfields.symm⟩

theorem apart_of_ofJson {value : Json} (hread : ofJson value = message i) :
    ∀ name ∈ Interaction.fieldNames, Fields.get? name i.extra = none := by
  unfold ofJson at hread
  split at hread
  case h_1 hfound =>
    obtain rfl := Entry.message.inj hread
    exact (Interaction.sound_of_ofJson? hfound).apart
  case h_2 => cases hread

/-- A message that survives has been read, so that nothing in it is called like its own
members. -/
theorem Survives.apart (h : (message i).Survives) :
    ∀ name ∈ Interaction.fieldNames, Fields.get? name i.extra = none := by
  obtain ⟨again, hagain, hplain⟩ := Option.map_eq_some_iff.mp h
  obtain ⟨value, -, hread⟩ := Option.map_eq_some_iff.mp hagain
  cases again with
  | other => cases hplain
  | message j =>
      have hextra : Fields.mapValues Json.plain j.extra = Fields.mapValues Json.plain i.extra :=
        congrArg Interaction.extra (Entry.message.inj hplain)
      intro name hname
      have habsent : Fields.get? name (Fields.mapValues Json.plain i.extra) = none := by
        rw [← hextra, Fields.get?_mapValues, apart_of_ofJson hread name hname, Option.map_none]
      rwa [Fields.get?_mapValues, Option.map_eq_none_iff] at habsent

/-- What was read from a file is read from it again as something like it, if an entry like
it survives. -/
theorem readsAlike_of_core_eq {value : Json} (hvalue : value.Within partRoom)
    (hentry : entry.Survives) (hcore : (ofJson value).core = entry.core) :
    (ofJson value).ReadsAlike := by
  have hroom : value.Within (121 + 4) := hvalue
  have hreads : (ofJson value).reread?.isSome :=
    FitsFile.reread?_isSome (within_ofJson hroom)
  cases hfound : ofJson value with
  | other v =>
      rw [hfound] at hcore
      cases entry with
      | message => cases hcore
      | other w =>
          have hplain : (other v).plain = (other w).plain := hcore
          exact ((survives_congr hplain).mpr hentry).readsAlike
  | message i =>
      rw [hfound] at hcore hreads
      cases entry with
      | other => cases hcore
      | message j =>
          have hjreads : (message j).reread?.isSome :=
            Option.isSome_map.symm.trans (congrArg Option.isSome hentry)
          have hbare : (message i.bare).plain = (message j.bare).plain := hcore
          rw [readsAlike_bare_iff (apart_of_ofJson hfound) hreads, readsAlike_congr hbare,
            ← readsAlike_bare_iff hentry.apart hjreads]
          exact hentry.readsAlike

end Entry

namespace Contract

/-- The contract has an entry like each of the given ones. -/
def Covers (c : Contract) (entries : List Entry) : Prop :=
  ∀ entry ∈ entries, entry.core ∈ c.entries.map Entry.core

variable {existing c again : Contract}

/-- What one contract covers of another one it contains. -/
theorem Covers.contains (h : again.Covers c.entries) {i : Interaction}
    (hi : c.contains i = true) : again.contains i = true := by
  obtain ⟨entry, hentry, hcore⟩ := List.mem_map.mp (contains_iff.mp hi)
  rw [contains_iff, ← hcore]
  exact h entry hentry

theorem covers_merged (existing c : Contract) : (existing.merged c).Covers c.entries := by
  intro entry hentry
  apply (Entry.mem_core_append_fresh _ _ _).mpr
  exact .inr (List.mem_map_of_mem hentry)

theorem Covers.congr {entries : List Entry} (h : c.Covers entries) (hsame : c.same again = true) :
    again.Covers entries := by
  intro entry hentry
  have hplain := congrArg Contract.entries ((same_iff_plain c again).mp hsame)
  rw [← Entry.map_core_of_map_plain hplain]
  exact h entry hentry

/-- What a contract is reread to has an entry like each that is read alike. -/
theorem mem_core_of_reread? (hagain : c.reread? = some again) {entry : Entry}
    (hentry : entry ∈ c.entries) (halike : entry.ReadsAlike) :
    entry.core ∈ again.entries.map Entry.core := by
  obtain ⟨entries, hentries, hmetadata⟩ := Option.bind_eq_some_iff.mp hagain
  obtain ⟨_, -, rfl⟩ := Option.map_eq_some_iff.mp hmetadata
  obtain ⟨read, hmem, hread⟩ := Outcome.exists_of_mapM hentries entry hentry
  rw [Entry.ReadsAlike, hread] at halike
  rw [← Option.some.inj halike]
  exact List.mem_map_of_mem hmem

/-- The file of a contract that is read back covers the contract. -/
theorem ReadsBack.exists_covers (hc : c.ReadsBack) :
    ∃ again, c.reread? = some again ∧ again.Covers c.entries := by
  have ⟨again, hparse, _⟩ := hc
  have hagain := (ofBytes_toBytes c again).mp hparse
  refine ⟨again, hagain, ?_⟩
  intro entry hentry
  have hsurvives := ((readsBack_iff c).mp hc).1 entry hentry
  exact mem_core_of_reread? hagain hentry hsurvives.readsAlike

/-- A file that is read, and written again with what a contract that is read back adds to
it, covers that contract, though it may hold other entries for some of its entries, like
them, to which other tools have added. -/
theorem Loaded.exists_covers_merged (hexisting : existing.Loaded) (hc : c.ReadsBack) :
    ∃ again, (existing.merged c).reread? = some again ∧ again.Covers c.entries := by
  obtain ⟨whole, hwhole, -⟩ := hc.exists_covers
  obtain ⟨hentries, hmetadata⟩ := c.reread?_isSome_iff.mp (Option.isSome_of_eq_some hwhole)
  obtain ⟨again, hagain⟩ := Option.isSome_iff_exists.mp (hexisting.merged_reread?_isSome
    (fun entry hentry => hentries entry (Entry.fresh_subset _ _ hentry)) hmetadata)
  have hsurvives := ((readsBack_iff c).mp hc).1
  refine ⟨again, hagain, ?_⟩
  intro entry hentry
  obtain ⟨found, hfound, hcore⟩ := List.mem_map.mp (covers_merged existing c entry hentry)
  rw [← hcore]
  apply mem_core_of_reread? hagain hfound
  rcases List.mem_append.mp hfound with hold | hfresh
  · obtain ⟨value, hvalue, rfl⟩ := hexisting.entries found hold
    exact Entry.readsAlike_of_core_eq hvalue (hsurvives entry hentry) hcore
  · exact (hsurvives found (Entry.fresh_subset _ _ hfresh)).readsAlike

end Contract

end MessageContract
