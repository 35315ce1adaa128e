import MessageContract.Json.Reader
import MessageContract.Proofs.Contract.Room
import MessageContract.Proofs.Json.Written

/-!
Contract files as JSON values, as another tool reads them: the value of each interaction
and of each member of the metadata. In a file that has been written they are what is
reread of the entries and of the metadata.
-/

namespace MessageContract.Contract

/-- The value of the interaction at an index of a file. -/
def entryValue? (bytes : List UInt8) (i : Nat) : Option Json := do
  let value ← (Json.ofBytes bytes).toOption
  let items ← (← value.member? "interactions").items?
  items[i]?

/-- The value of a member of the metadata in a file. -/
def metadataValue? (bytes : List UInt8) (key : String) : Option Json := do
  let value ← (Json.ofBytes bytes).toOption
  (← value.member? "metadata").member? key

/-- The object of a contract, given the interactions and the members of the metadata. -/
def objectOf (c : Contract) (items : List Json) (metadata : Fields Json) : Json :=
  .object [("consumer", participantJson c.consumer), ("provider", participantJson c.provider),
    ("interactions", .array items), ("metadata", .object metadata)]

/-- The member of the metadata that tells the specification. -/
def specificationMember (c : Contract) : String × Json :=
  ("pactSpecification", .object [("version", .string c.metadata.specification)])

/-- A contract's text is reread entry by entry and member by member. -/
theorem reread?_toJson (c : Contract) :
    c.toJson.reread? Json.Scan.roomLimit =
      ((c.entries.map Entry.toJson).mapM (Json.reread? partRoom)).bind fun items =>
        (Json.rereadMembers partRoom c.metadata.extra).map fun extra =>
          c.objectOf items (c.specificationMember :: extra) := by
  have hname (name : String) : (participantJson name).reread? (partRoom + 1) =
      some (participantJson name) := rfl
  have hentries : (Json.array (c.entries.map Entry.toJson)).reread? (partRoom + 1) =
      ((c.entries.map Entry.toJson).mapM (Json.reread? partRoom)).map .array := by
    rw [← Json.Scan.rereadItems_eq]
    rfl
  have hmetadata : c.metadata.toJson.reread? (partRoom + 1) =
      (Json.rereadMembers partRoom c.metadata.extra).map fun extra =>
        .object (c.specificationMember :: extra) := by
    have hmembers : c.metadata.toJson.reread? (partRoom + 1) =
        ((Json.rereadMembers partRoom c.metadata.extra).map (c.specificationMember :: ·)).map
          .object := rfl
    rw [hmembers, Option.map_map]
    rfl
  have hlimit : Json.Scan.roomLimit = partRoom + 2 := rfl
  rw [hlimit, toJson, Json.reread?]
  simp only [Json.rereadMembers, hname, hentries, hmetadata]
  cases (c.entries.map Entry.toJson).mapM (Json.reread? partRoom) <;>
    cases Json.rereadMembers partRoom c.metadata.extra <;> rfl

/-- The value of a contract's file is what its text is reread to. -/
theorem toOption_ofBytes_toBytes (c : Contract) :
    (Json.ofBytes c.toBytes).toOption =
      (c.toJson.reread? Json.Scan.roomLimit).map Json.normalize := by
  have hreads := (Json.Scan.reads_tree c.toJson Json.Scan.roomLimit 0).map Json.normalize
  ext value
  rw [Outcome.toOption_eq_some, toBytes_eq]
  exact Json.Scan.run_eq_ok hreads value

/-- The lists that a contract's value is made of. -/
theorem member?_objectOf (c : Contract) (items : List Json) (metadata : Fields Json) :
    (c.objectOf items metadata).normalize.member? "interactions" =
        some (.array (items.map Json.normalize)) ∧
      (c.objectOf items metadata).normalize.member? "metadata" =
        some (Json.object metadata).normalize := by
  have hapart : Fields.Apart [("consumer", some (participantJson c.consumer)),
      ("provider", some (participantJson c.provider)),
      ("interactions", some (.array items)), ("metadata", some (.object metadata))] [] :=
    { keys := by simp, others := fun _ _ => rfl }
  constructor
  · have hmember := Json.member?_present hapart
      (List.mem_cons_of_mem _ (List.mem_cons_of_mem _ List.mem_cons_self))
    rw [Option.map_some, Json.normalize_array] at hmember
    exact hmember
  · exact Json.member?_present hapart (List.mem_cons_of_mem _
      (List.mem_cons_of_mem _ (List.mem_cons_of_mem _ List.mem_cons_self)))

/-- What is reread of the entries and of the further members of a contract. -/
structure Rereads (c : Contract) (items : List Json) (extra : List (String × Json)) : Prop where
  entries : (c.entries.map Entry.toJson).mapM (Json.reread? partRoom) = some items
  metadata : Json.rereadMembers partRoom c.metadata.extra = some extra

/-- The values in the file are those of the parts that are reread. -/
theorem toOption_ofBytes_toBytes_eq_some {c : Contract} {value : Json} :
    (Json.ofBytes c.toBytes).toOption = some value ↔
      ∃ items extra, c.Rereads items extra ∧
        (c.objectOf items (c.specificationMember :: extra)).normalize = value := by
  rw [toOption_ofBytes_toBytes, reread?_toJson]
  constructor
  · intro hread
    obtain ⟨tree, htree, rfl⟩ := Option.map_eq_some_iff.mp hread
    obtain ⟨items, hitems, htree⟩ := Option.bind_eq_some_iff.mp htree
    obtain ⟨extra, hextra, rfl⟩ := Option.map_eq_some_iff.mp htree
    exact ⟨items, extra, ⟨hitems, hextra⟩, rfl⟩
  · rintro ⟨items, extra, ⟨hitems, hextra⟩, rfl⟩
    rw [hitems, hextra]
    rfl

theorem Rereads.entryValue? {c : Contract} {items : List Json} {extra : List (String × Json)}
    (h : c.Rereads items extra) (i : Nat) :
    entryValue? c.toBytes i =
      c.entries[i]?.bind fun entry => (entry.toJson.reread? partRoom).map Json.normalize := by
  have hvalue := toOption_ofBytes_toBytes_eq_some.mpr ⟨items, extra, h, rfl⟩
  have hmember := (c.member?_objectOf items (c.specificationMember :: extra)).1
  have hitem := Outcome.getElem?_mapM h.entries i
  rw [List.getElem?_map] at hitem
  simp only [Contract.entryValue?, hvalue, hmember, Json.items?, Option.bind_eq_bind,
    Option.bind_some, List.getElem?_map, hitem]
  cases c.entries[i]? <;> rfl

theorem exists_rereads {c : Contract} {i : Nat} {value : Json}
    (hvalue : entryValue? c.toBytes i = some value) : ∃ items extra, c.Rereads items extra := by
  rw [entryValue?, Option.bind_eq_bind] at hvalue
  obtain ⟨_, hread, -⟩ := Option.bind_eq_some_iff.mp hvalue
  obtain ⟨items, extra, hrereads, -⟩ := toOption_ofBytes_toBytes_eq_some.mp hread
  exact ⟨items, extra, hrereads⟩

/-- In a file the specification is all that is said under its key. -/
theorem Rereads.metadataValue? {c : Contract} {items : List Json} {extra : List (String × Json)}
    (h : c.Rereads items extra)
    (hsingle : ∀ field ∈ c.metadata.extra, field.1 ≠ "pactSpecification") :
    metadataValue? c.toBytes "pactSpecification" = some c.specificationMember.2 := by
  have hvalue := toOption_ofBytes_toBytes_eq_some.mpr ⟨items, extra, h, rfl⟩
  have hmember := (c.member?_objectOf items (c.specificationMember :: extra)).2
  have hread := h.metadata
  rw [Json.Scan.rereadMembers_eq] at hread
  have habsent : Fields.get? "pactSpecification" extra = none := by
    rw [Fields.get?_mapM hread, Fields.get?_eq_none_iff.mpr hsingle]
    rfl
  have hapart : Fields.Apart [("pactSpecification", some c.specificationMember.2)] extra :=
    { keys := List.nodup_singleton _, others := by simpa using habsent }
  have hfound := Json.member?_present hapart (List.mem_singleton.mpr rfl)
  simp only [Contract.metadataValue?, hvalue, hmember, Option.bind_eq_bind, Option.bind_some]
  exact hfound

/-- What is read of a contract's file. -/
theorem reread?_eq_some {c again : Contract} :
    c.reread? = some again ↔
      ∃ items extra, c.Rereads items extra ∧
        (∀ field ∈ c.metadata.extra, field.1 ≠ "pactSpecification") ∧
        again = { c with
          entries := items.map Entry.ofJson
          metadata := { c.metadata with
            extra := Fields.ofList (Json.normalizeMembers extra) } } := by
  have hentries : c.entries.mapM Entry.reread? =
      ((c.entries.map Entry.toJson).mapM (Json.reread? partRoom)).map (List.map Entry.ofJson) := by
    rw [Outcome.map_mapM, List.mapM_map]
    rfl
  have hsingle : c.metadata.extra.any (·.1 == "pactSpecification") = false ↔
      ∀ field ∈ c.metadata.extra, field.1 ≠ "pactSpecification" := by simp
  rw [reread?, hentries, ← hsingle, Metadata.reread?]
  constructor
  · intro hread
    obtain ⟨_, hread, hrest⟩ := Option.bind_eq_some_iff.mp hread
    obtain ⟨items, hitems, rfl⟩ := Option.map_eq_some_iff.mp hread
    obtain ⟨metadata, hmetadata, rfl⟩ := Option.map_eq_some_iff.mp hrest
    split at hmetadata
    case isTrue => cases hmetadata
    case isFalse hany =>
      obtain ⟨extra, hextra, rfl⟩ := Option.map_eq_some_iff.mp hmetadata
      exact ⟨items, extra, ⟨hitems, hextra⟩, Bool.eq_false_iff.mpr hany, rfl⟩
  · rintro ⟨items, extra, ⟨hitems, hextra⟩, hany, rfl⟩
    rw [hitems, hextra, hany]
    rfl

end MessageContract.Contract
