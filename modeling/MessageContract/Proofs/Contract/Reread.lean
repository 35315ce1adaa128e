import MessageContract.Contract.Reader
import MessageContract.Proofs.Contract.Plain
import MessageContract.Proofs.Json.Record

/-!
Reading a contract file that was written. Whatever the contract holds, the
brackets, the keys and the names in its text are read for what they are; so what
is read is a function of the contract, `reread?`, that is made up of what each
entry and each further member of the metadata is reread to.
-/

namespace MessageContract

open Json.Scan

/-- How deep the entries and the further members of the metadata may nest. -/
def partRoom : Nat := 125

/-- The entry that is read from an entry's text. -/
def Entry.reread? (entry : Entry) : Option Entry :=
  (entry.toJson.reread? partRoom).map ofJson

/-- What is read from the text of the metadata. A further member must not have
the key of the specification. -/
def Contract.Metadata.reread? (m : Contract.Metadata) : Option Contract.Metadata :=
  if m.extra.any (·.1 == "pactSpecification") then none
  else (Json.rereadMembers partRoom m.extra).map fun extra =>
    { m with extra := Fields.ofList (Json.normalizeMembers extra) }

/-- What is read from the text of a contract. -/
def Contract.reread? (c : Contract) : Option Contract :=
  (c.entries.mapM Entry.reread?).bind fun entries =>
    c.metadata.reread?.map fun metadata => { c with entries, metadata }

/-- A record of one string is read from the object that holds it. -/
theorem reads_readName (kind field name : String) (room depth : Nat) :
    Reads (readName kind field (room + 1)) (printed depth (.object [(field, .string name)]))
      (some name) := by
  let read (earlier : Option String) (_ : String × Json) : Option (Option String) :=
    if earlier.isSome then none else some (some name)
  apply reads_bracketed_object
  intro rest
  have hmembers : Gives (Json.Scan.members none fun key earlier =>
      if key == field then once key earlier text
      else do
        memberValue skip
        return earlier)
      (membersText depth [(field, .string name)] ++ rest)
      (([(field, Json.string name)].foldlM read none).map (·, closeBrace :: rest)) := by
    refine gives_members (.of_forall fun m hm earlier => ?_) rest
    rw [List.mem_singleton.mp hm]
    dsimp only
    rw [if_pos (beq_self_eq_true field)]
    exact readsMember_once field earlier (reads_text _ name)
  exact gives_bind hmembers (gives_required field (some name) _)

namespace Contract.Metadata

/-- What reading a member of the metadata adds to what has been read. -/
def rereadMember (specification : String) (sofar : Option String × List (String × Json))
    (m : String × Json) : Option (Option String × List (String × Json)) :=
  if m.1 == "pactSpecification" then
    if sofar.1.isSome then none else some (some specification, sofar.2)
  else (m.2.reread? partRoom).map fun value => (sofar.1, (m.1, value) :: sofar.2)

/-- Once the specification is read, what follows is further members. -/
theorem foldlM_rereadMember (specification : String) (members done : List (String × Json)) :
    members.foldlM (rereadMember specification) (some specification, done) =
      if members.any (·.1 == "pactSpecification") then none
      else (Json.rereadMembers partRoom members).map fun read =>
        (some specification, read.reverse ++ done) := by
  induction members generalizing done with
  | nil => rfl
  | cons member rest ih =>
      obtain ⟨key, value⟩ := member
      rw [List.foldlM_cons, rereadMember, Json.rereadMembers, List.any_cons]
      dsimp only
      cases hkey : key == "pactSpecification" with
      | true => rfl
      | false =>
          simp only [Bool.false_eq_true, if_false, Bool.false_or]
          cases value.reread? partRoom with
          | none => simp
          | some again => simp [ih, Function.comp_def]

/-- The reading of the members of metadata. -/
theorem readsMembers_metadata (m : Contract.Metadata) (depth : Nat) :
    ReadsMembers (fun key (draft : Option String × List (String × Json)) => do
        let (specification, extra) := draft
        if key == "pactSpecification" then
          return (← once key specification (readName "PactSpecification" "version" partRoom),
            extra)
        else return (specification, (key, ← memberValue (tree partRoom)) :: extra))
      (rereadMember m.specification) depth
      (("pactSpecification", .object [("version", .string m.specification)]) :: m.extra)
      (none, []) := by
  rintro before ⟨key, value⟩ after hmembers ⟨earlier, done⟩ hsofar
  dsimp only
  unfold rereadMember
  cases hkey : key == "pactSpecification" with
  | false =>
      exact readsMember_map (readsMember_of_reads (reads_tree value partRoom (depth + 1)))
        fun read => (earlier, (key, read) :: done)
  | true =>
      cases before with
      | nil =>
          obtain ⟨hfirst, -⟩ := List.cons.inj hmembers
          obtain ⟨rfl, rfl⟩ := Prod.mk.inj hfirst
          obtain ⟨rfl, rfl⟩ := Prod.mk.inj (Option.some.inj hsofar)
          have hname := reads_readName "PactSpecification" "version" m.specification 124 (depth + 1)
          exact readsMember_map (readsMember_once "pactSpecification" none hname)
            fun read => (read, [])
      | cons first before =>
          obtain ⟨rfl, -⟩ := List.cons.inj hmembers
          -- The specification has been read, so another one is one too many.
          have hread : before.foldlM (rereadMember m.specification) (some m.specification, []) =
              some (earlier, done) := hsofar
          have hearlier : earlier = some m.specification := by
            rw [foldlM_rereadMember] at hread
            split at hread
            · cases hread
            · obtain ⟨_, -, hpair⟩ := Option.map_eq_some_iff.mp hread
              exact (Prod.mk.inj hpair).1.symm
          subst hearlier
          intro rest hrest
          exact gives_bind_none (gives_raise _ _)

theorem reads_metadata (m : Contract.Metadata) (depth : Nat) :
    Reads (Contract.Metadata.read (partRoom + 1)) (printed depth m.toJson) m.reread? := by
  apply reads_bracketed_object
  intro rest
  have hmembers := gives_members (readsMembers_metadata m depth) rest
  have hfold : (("pactSpecification", Json.object [("version", .string m.specification)]) ::
      m.extra).foldlM (rereadMember m.specification) (none, []) =
        m.extra.foldlM (rereadMember m.specification) (some m.specification, []) := rfl
  rw [hfold, foldlM_rereadMember] at hmembers
  unfold reread?
  split at hmembers
  case isTrue hrepeated =>
    rw [if_pos hrepeated]
    exact gives_bind_none hmembers
  case isFalse hsingle =>
    rw [if_neg hsingle]
    cases hextra : Json.rereadMembers partRoom m.extra with
    | none =>
        rw [hextra] at hmembers
        exact gives_bind_none hmembers
    | some extra =>
        rw [hextra] at hmembers
        refine gives_bind hmembers (gives_bind (gives_required _ _ _) ?_)
        have hread := gives_pure (α := Contract.Metadata)
          { m with extra := Fields.ofList (Json.normalizeMembers extra) } (closeBrace :: rest)
        simpa using hread

end Contract.Metadata

namespace Contract

/-- What reading a member of a contract adds to what has been read. -/
def rereadMember (c : Contract) (draft : Draft) (m : String × Json) : Option Draft :=
  match m.1 with
  | "consumer" =>
      if draft.consumer.isSome then none else some { draft with consumer := some c.consumer }
  | "provider" =>
      if draft.provider.isSome then none else some { draft with provider := some c.provider }
  | "interactions" =>
      if draft.entries.isSome then none
      else (c.entries.mapM Entry.reread?).map fun entries => { draft with entries := some entries }
  | "metadata" =>
      if draft.metadata.isSome then none
      else c.metadata.reread?.map fun metadata => { draft with metadata := some metadata }
  | _ => none

theorem reads_entries (entries : List Entry) (depth : Nat) :
    Reads (list (partRoom + 1) Entry.read) (printed depth (.array (entries.map Entry.toJson)))
      (entries.mapM Entry.reread?) := by
  have hentry (v : Json) :
      Reads (Entry.read partRoom) (printed (depth + 1) v)
        ((v.reread? partRoom).map Entry.ofJson) :=
    (reads_tree v partRoom (depth + 1)).map Entry.ofJson
  have hentries : Reads (list (partRoom + 1) Entry.read) _ _ :=
    reads_list fun v (_ : v ∈ entries.map Entry.toJson) => hentry v
  rwa [List.mapM_map] at hentries

/-- The reading of the members of a contract. -/
theorem readsMembers_contract (c : Contract) (depth : Nat) :
    ReadsMembers (fun key (draft : Draft) =>
      match key with
      | "consumer" => do
          return { draft with consumer := ← once key draft.consumer (readParticipant 126) }
      | "provider" => do
          return { draft with provider := ← once key draft.provider (readParticipant 126) }
      | "interactions" => do
          return { draft with entries := ← once key draft.entries (list 126 Entry.read) }
      | "metadata" => do
          return { draft with
            metadata := ← once key draft.metadata (Contract.Metadata.read 126) }
      | _ => do
          memberValue skip
          return draft)
      c.rereadMember depth
      [("consumer", participantJson c.consumer), ("provider", participantJson c.provider),
        ("interactions", .array (c.entries.map Entry.toJson)), ("metadata", c.metadata.toJson)]
      {} := by
  apply ReadsMembers.of_forall
  intro m hm draft
  simp only [List.mem_cons, List.not_mem_nil, or_false] at hm
  rcases hm with rfl | rfl | rfl | rfl
  · have hname := reads_readName "Participant" "name" c.consumer 125 (depth + 1)
    have hread := readsMember_map (readsMember_once "consumer" draft.consumer hname)
      fun consumer => { draft with consumer }
    refine cast (congrArg _ ?_) hread
    unfold rereadMember
    cases draft.consumer <;> rfl
  · have hname := reads_readName "Participant" "name" c.provider 125 (depth + 1)
    have hread := readsMember_map (readsMember_once "provider" draft.provider hname)
      fun provider => { draft with provider }
    refine cast (congrArg _ ?_) hread
    unfold rereadMember
    cases draft.provider <;> rfl
  · have hentries := reads_entries c.entries (depth + 1)
    have hread := readsMember_map (readsMember_once "interactions" draft.entries hentries)
      fun entries => { draft with entries }
    refine cast (congrArg _ ?_) hread
    unfold rereadMember
    cases draft.entries <;> simp [Function.comp_def]
  · have hmetadata := Metadata.reads_metadata c.metadata (depth + 1)
    have hread := readsMember_map (readsMember_once "metadata" draft.metadata hmetadata)
      fun metadata => { draft with metadata }
    refine cast (congrArg _ ?_) hread
    unfold rereadMember
    cases draft.metadata <;> simp [Function.comp_def]

theorem foldlM_rereadMember (c : Contract) (consumer provider entries metadata : Json) :
    [("consumer", consumer), ("provider", provider), ("interactions", entries),
      ("metadata", metadata)].foldlM c.rereadMember {} =
      (c.entries.mapM Entry.reread?).bind fun entries => c.metadata.reread?.map fun metadata =>
        { consumer := some c.consumer, provider := some c.provider, entries := some entries,
          metadata := some metadata } := by
  cases hentries : c.entries.mapM Entry.reread? <;> cases hmetadata : c.metadata.reread? <;>
    simp [rereadMember, hentries, hmetadata]

theorem reads_contract (c : Contract) (depth : Nat) :
    Reads (Contract.read roomLimit) (printed depth c.toJson) c.reread? := by
  apply reads_bracketed_object
  intro rest
  have hmembers := gives_members (readsMembers_contract c depth) rest
  rw [foldlM_rereadMember] at hmembers
  unfold reread?
  cases hentries : c.entries.mapM Entry.reread? with
  | none =>
      rw [hentries] at hmembers
      exact gives_bind_none hmembers
  | some entries =>
      rw [hentries] at hmembers
      cases hmetadata : c.metadata.reread? with
      | none =>
          rw [hmetadata] at hmembers
          exact gives_bind_none hmembers
      | some metadata =>
          rw [hmetadata] at hmembers
          exact gives_bind hmembers
            (gives_bind (gives_required _ _ _) (gives_bind (gives_required _ _ _) (gives_pure _ _)))

theorem toBytes_eq (c : Contract) : c.toBytes = printed 0 c.toJson ++ lineBreak 0 := by
  rw [toBytes, Utf8.encode, String.toList_append, Json.indented, String.toList_ofList,
    encodeChars_append]
  rfl

/-- A contract's file is read to what the contract is reread to, or not at all. -/
theorem ofBytes_toBytes (c again : Contract) :
    ofBytes c.toBytes = .ok again ↔ c.reread? = some again := by
  rw [toBytes_eq]
  exact run_eq_ok (reads_contract c 0) again

end Contract

end MessageContract
