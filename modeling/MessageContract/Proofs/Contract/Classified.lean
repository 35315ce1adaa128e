import MessageContract.Proofs.Contract.Loaded
import MessageContract.Proofs.Json.Record
import MessageContract.Proofs.Node.Grammar

/-!
Which entries of a contract are messages. An entry is a message if it is an object whose
own members can each be read, and else it is the value that it is, so that no entry keeps a
contract from being read.
-/

namespace MessageContract

open Json (orDefault IsContent)

namespace WireContents

/-- What makes a wire form unreadable. -/
inductive Faulty (wire : WireContents) : Prop
  /-- A matched node of the content, which is not encoded, cannot be read. -/
  | matcher {content : Json} (hencoding : wire.encoding.isBase64 = .ok false)
      (hcontent : wire.content = some content) (hmatcher : ¬content.IsContent)
  /-- The content should be base64 and is not. -/
  | base64 (hencoding : wire.encoding.isBase64 = .ok true)
      (hsome : wire.content ≠ none ∨ wire.contentType ≠ none)
      (hdata : ∀ data, Contents.decodeContent wire.content ≠ .ok data)
  | scheme {name : String} (hencoding : wire.encoding = .scheme name)
      (hunknown : Text.sameAscii name base64Scheme = false)

theorem faulty_iff {wire : WireContents} :
    wire.Faulty ↔
      match wire.encoding.isBase64 with
      | .error _ => True
      | .ok true => (wire.content ≠ none ∨ wire.contentType ≠ none) ∧
          ∀ data, Contents.decodeContent wire.content ≠ .ok data
      | .ok false => ∃ content, wire.content = some content ∧ ¬content.IsContent := by
  constructor
  · rintro (⟨hencoding, hcontent, hmatcher⟩ | ⟨hencoding, hsome, hdata⟩ | ⟨hencoding, hunknown⟩)
    · rw [hencoding]
      exact ⟨_, hcontent, hmatcher⟩
    · rw [hencoding]
      exact ⟨hsome, hdata⟩
    · rw [hencoding, Encoding.isBase64, hunknown]
      trivial
  · intro h
    split at h
    case h_1 e herror =>
      cases hencoding : wire.encoding with
      | flag base64 =>
          rw [hencoding] at herror
          cases herror
      | scheme name =>
          rw [hencoding, Encoding.isBase64] at herror
          split at herror
          case isTrue => cases herror
          case isFalse hunknown => exact .scheme hencoding (by simpa using hunknown)
    case h_2 hencoding => exact .base64 hencoding h.1 h.2
    case h_3 hencoding =>
      obtain ⟨content, hcontent, hmatcher⟩ := h
      exact .matcher hencoding hcontent hmatcher

end WireContents

namespace Contents

/-- Contents are read of a wire form if and only if nothing is wrong with it. -/
theorem ofWire_isOk_iff (wire : WireContents) :
    (∃ contents, ofWire wire = .ok contents) ↔ ¬wire.Faulty := by
  have hbody (content : Json) : (∃ body, liftMatcher (Node.ofJson content) = .ok body) ↔
      content.IsContent := by
    simp only [liftMatcher_eq_ok, Node.ofJson_isOk_iff]
  rw [WireContents.faulty_iff, ofWire]
  cases wire.encoding.isBase64 with
  | error e => simp
  | ok base64 =>
      rw [Outcome.ok_bind]
      cases hcontent : wire.content with
      | none =>
          cases wire.contentType with
          | none => cases base64 <;> simp [Outcome.pure_isOk]
          | some contentType =>
              cases base64 with
              | true => simp [decodeContent]
              | false =>
                  cases hjson : MediaType.isJson contentType <;> simp [hjson, Outcome.pure_isOk]
      | some content =>
          cases base64 with
          | true => simp [Outcome.map_isOk]
          | false =>
              by_cases htext : ∃ text, content = .string text
              · obtain ⟨text, rfl⟩ := htext
                have hstring : (Json.string text).IsContent := Node.ofJson_isOk_iff.mp ⟨_, rfl⟩
                cases wire.contentType with
                | none => simp [Outcome.map_isOk, hbody]
                | some contentType =>
                    cases hjson : MediaType.isJson contentType <;>
                      simp [hjson, hstring, Outcome.pure_isOk]
              · cases content <;> simp_all [Outcome.map_isOk]

theorem exists_ofJson?_iff {value : Json} :
    (∃ contents, ofJson? value = some contents) ↔
      ∃ wire, WireContents.ofJson? value = some wire ∧ ¬wire.Faulty := by
  simp only [← ofWire_isOk_iff, ofJson?, Option.bind_eq_bind, Option.bind_eq_some_iff,
    Outcome.toOption_eq_some]
  constructor
  · rintro ⟨contents, wire, hwire, hread⟩
    exact ⟨wire, hwire, contents, hread⟩
  · rintro ⟨wire, hwire, contents, hread⟩
    exact ⟨contents, wire, hwire, hread⟩

end Contents

namespace Interaction

/-- A value that says that an interaction is a message: the name of the kind, or an object
with nothing in it but a null under that name. -/
def Denotes (value : Json) : Prop :=
  value = .string tag ∨ value = .object [(tag, .null)]

theorem isTag_iff {value : Json} : isTag value = true ↔ Denotes value := by
  unfold isTag Denotes
  split <;> simp_all

/-- The members of an object that can be read as a message. -/
structure IsMessage (members : Fields Json) : Prop where
  kind : ∀ value, Fields.get? "type" members = some value → Denotes value
  description : ∀ value, Fields.get? "description" members = some value →
    ∃ text, value = .string text
  states : ∀ value, Fields.get? "providerStates" members = some value →
    ∃ items, value = .array items ∧
      ∀ item ∈ items, ∃ state, ProviderState.ofJson? item = some state
  contents : ∀ value, Fields.get? "contents" members = some value →
    ∃ contents, Contents.ofJson? value = some contents
  metadata : ∀ value, Fields.get? "metadata" members = some value →
    ∃ fields : Fields String, value = .object (fields.mapValues .string)

/-- What is read of an object that is a value. -/
theorem ofJson?_object_eq_some {members : Fields Json} {i : Interaction}
    (hvalue : (Json.object members).IsValue) :
    ofJson? (.object members) = some i ↔
      ((Fields.get? "type" members).map isTag).getD true = true ∧
      orDefault "" Json.string? (Fields.get? "description" members) = some i.description ∧
      orDefault [] (fun v => do (← v.items?).mapM ProviderState.ofJson?)
        (Fields.get? "providerStates" members) = some i.states ∧
      orDefault .empty Contents.ofJson? (Fields.get? "contents" members) = some i.contents ∧
      orDefault [] Json.stringFields? (Fields.get? "metadata" members) = some i.metadata ∧
      i.extra = members.filter fun member => !fieldNames.contains member.1 := by
  have hfields := Json.openFieldsOf?_of_isValue hvalue fieldNames
  rw [ofJson?_eq_some]
  constructor
  · rintro ⟨kind, description, states, contents, metadata, hknown, hkind, hdescription, hstates,
      hcontents, hmetadata⟩
    obtain ⟨hknown, hextra⟩ := Prod.mk.inj (Option.some.inj (hfields.symm.trans hknown))
    cases hknown
    exact ⟨hkind, hdescription, hstates, hcontents, hmetadata, hextra.symm⟩
  · rintro ⟨hkind, hdescription, hstates, hcontents, hmetadata, hextra⟩
    exact ⟨_, _, _, _, _, hextra ▸ hfields, hkind, hdescription, hstates, hcontents, hmetadata⟩

theorem exists_ofJson?_iff {members : Fields Json} (hvalue : (Json.object members).IsValue) :
    (∃ i, ofJson? (.object members) = some i) ↔ IsMessage members := by
  have hkind : ((Fields.get? "type" members).map isTag).getD true = true ↔
      ∀ value, Fields.get? "type" members = some value → Denotes value := by
    cases Fields.get? "type" members <;> simp [isTag_iff]
  simp only [ofJson?_object_eq_some hvalue]
  constructor
  · rintro ⟨i, htag, hdescription, hstates, hcontents, hmetadata, -⟩
    exact {
      kind := hkind.mp htag
      description := fun value hget =>
        Json.exists_string?.mp (Json.exists_orDefault.mp ⟨_, hdescription⟩ value hget)
      states := fun value hget =>
        Json.exists_items?.mp (Json.exists_orDefault.mp ⟨_, hstates⟩ value hget)
      contents := Json.exists_orDefault.mp ⟨_, hcontents⟩
      metadata := fun value hget =>
        Json.exists_stringFields?.mp (Json.exists_orDefault.mp ⟨_, hmetadata⟩ value hget) }
  · intro h
    obtain ⟨description, hdescription⟩ := Json.exists_orDefault.mpr fun value hget =>
      Json.exists_string?.mpr (h.description value hget)
    obtain ⟨states, hstates⟩ := Json.exists_orDefault.mpr fun value hget =>
      Json.exists_items?.mpr (h.states value hget)
    obtain ⟨contents, hcontents⟩ := Json.exists_orDefault.mpr h.contents
    obtain ⟨metadata, hmetadata⟩ := Json.exists_orDefault.mpr fun value hget =>
      Json.exists_stringFields?.mpr (h.metadata value hget)
    exact ⟨⟨description, states, contents, metadata, _⟩, hkind.mpr h.kind, hdescription, hstates,
      hcontents, hmetadata, rfl⟩

end Interaction

namespace Contract

/-- What is read of a file whose value is an object. -/
theorem ofJson?_object_eq_some {file : Fields Json} {c : Contract}
    (hfile : (Json.object file).IsValue) :
    ofJson? (.object file) = some c ↔
      (∃ consumer, Fields.get? "consumer" file = some consumer ∧
        nameOf? "name" consumer = some c.consumer) ∧
      (∃ provider, Fields.get? "provider" file = some provider ∧
        nameOf? "name" provider = some c.provider) ∧
      orDefault [] (fun v => v.items?.map (·.map Entry.ofJson))
        (Fields.get? "interactions" file) = some c.entries ∧
      orDefault .initial Contract.Metadata.ofJson? (Fields.get? "metadata" file) =
        some c.metadata := by
  have hfields := Json.fieldsOf?_of_sorted (Json.isValue_object.mp hfile).1 fieldNames
  rw [ofJson?_eq_some]
  constructor
  · rintro ⟨consumer, provider, entries, metadata, hknown, hconsumer, hprovider, hentries,
      hmetadata⟩
    have hsame := Option.some.inj (hfields.symm.trans hknown)
    simp only [fieldNames, List.map_cons, List.map_nil, List.cons.injEq, and_true] at hsame
    obtain ⟨hgetConsumer, hgetProvider, hgetEntries, hgetMetadata⟩ := hsame
    exact ⟨⟨consumer, hgetConsumer, hconsumer⟩, ⟨provider, hgetProvider, hprovider⟩,
      hgetEntries ▸ hentries, hgetMetadata ▸ hmetadata⟩
  · rintro ⟨⟨consumer, hgetConsumer, hconsumer⟩, ⟨provider, hgetProvider, hprovider⟩, hentries,
      hmetadata⟩
    refine ⟨consumer, provider, _, _, ?_, hconsumer, hprovider, hentries, hmetadata⟩
    rw [hfields]
    simp only [fieldNames, List.map_cons, List.map_nil, hgetConsumer, hgetProvider]

/-- Entries are read one by one, and whatever they are, the file can be read if it can be
without them. -/
theorem readable_whatever_entries {file : Fields Json} {items : List Json}
    (hfile : (Json.object file).IsValue)
    (hitems : Fields.get? "interactions" file = some (.array items)) :
    ((∃ c, ofJson? (.object file) = some c) ↔
      ∃ c, ofJson? (.object (Fields.erase "interactions" file)) = some c) ∧
    ∀ c, ofJson? (.object file) = some c → c.entries = items.map Entry.ofJson := by
  have hwithout : (Json.object (Fields.erase "interactions" file)).IsValue :=
    Json.isValue_object_sublist List.filter_sublist hfile
  have hentries : orDefault [] (fun v => v.items?.map (·.map Entry.ofJson))
      (some (.array items)) = some (items.map Entry.ofJson) := rfl
  constructor
  · simp only [ofJson?_object_eq_some hfile, ofJson?_object_eq_some hwithout, hitems,
      Fields.get?_erase_self, Fields.get?_erase_ne (by decide : "consumer" ≠ "interactions"),
      Fields.get?_erase_ne (by decide : "provider" ≠ "interactions"),
      Fields.get?_erase_ne (by decide : "metadata" ≠ "interactions")]
    constructor
    · rintro ⟨c, hconsumer, hprovider, -, hmetadata⟩
      exact ⟨{ c with entries := [] }, hconsumer, hprovider, rfl, hmetadata⟩
    · rintro ⟨c, hconsumer, hprovider, -, hmetadata⟩
      exact ⟨{ c with entries := items.map Entry.ofJson }, hconsumer, hprovider, hentries,
        hmetadata⟩
  · intro c hread
    obtain ⟨-, -, hfound, -⟩ := (ofJson?_object_eq_some hfile).mp hread
    rw [hitems] at hfound
    exact Option.some.inj hfound.symm

end Contract

namespace Entry

/-- A text is read as an entry if it is read as a value. -/
theorem exists_ofText_iff (text : String) :
    (∃ entry, ofText text = .ok entry) ↔ ∃ value, Json.ofText text = .ok value := by
  have hentry (bytes : List UInt8) :
      Json.Scan.run read bytes = ofJson <$> Json.Scan.run Json.Scan.tree bytes :=
    Json.Scan.run_map ofJson Json.Scan.tree bytes
  have hvalue (bytes : List UInt8) :
      Json.ofBytes bytes = Json.normalize <$> Json.Scan.run Json.Scan.tree bytes :=
    Json.Scan.run_map Json.normalize Json.Scan.tree bytes
  rw [ofText, Json.ofText, hentry, hvalue, Outcome.map_isOk, Outcome.map_isOk]

theorem exists_message_iff {value : Json} (hvalue : value.IsValue) :
    (∃ i, ofJson value = .message i) ↔
      ∃ members, value = .object members ∧ Interaction.IsMessage members := by
  simp only [ofJson_eq_message]
  constructor
  · intro hread
    cases value with
    | object members => exact ⟨members, rfl, (Interaction.exists_ofJson?_iff hvalue).mp hread⟩
    | _ =>
        obtain ⟨i, hread⟩ := hread
        cases hread
  · rintro ⟨members, rfl, hmembers⟩
    exact (Interaction.exists_ofJson?_iff hvalue).mpr hmembers

/-- Every value is an entry: a message if it is an object whose own members can be read as
those of one, which then keeps all other members, and in every other case itself. A
malformed matched node in the contents and contents that are not the base64 that they should
be are such cases. Hence every text of a value is read as an entry, and whatever the entries
of a file are, they are read one by one if the rest of the file can be read. -/
theorem ofJson_classifies {value : Json} (hvalue : value.IsValue) :
    ((∃ i, ofJson value = .message i) ↔
      ∃ members, value = .object members ∧ Interaction.IsMessage members) ∧
    (∀ members i, value = .object members → ofJson value = .message i →
      i.extra = members.filter fun member => !Interaction.fieldNames.contains member.1) ∧
    ((¬∃ members, value = .object members ∧ Interaction.IsMessage members) →
      ofJson value = .other value ∧ (ofJson value).toJson = value) ∧
    (∀ members contents wire, value = .object members →
      Fields.get? "contents" members = some contents →
      WireContents.ofJson? contents = some wire → wire.Faulty → ofJson value = .other value) ∧
    (∀ text, (∃ entry, ofText text = .ok entry) ↔ ∃ read, Json.ofText text = .ok read) ∧
    ∀ file items, (Json.object file).IsValue →
      Fields.get? "interactions" file = some (.array items) →
      ((∃ c, Contract.ofJson? (.object file) = some c) ↔
        ∃ c, Contract.ofJson? (.object (Fields.erase "interactions" file)) = some c) ∧
      ∀ c, Contract.ofJson? (.object file) = some c → c.entries = items.map ofJson := by
  have hmessage := exists_message_iff hvalue
  have hother : (¬∃ members, value = .object members ∧ Interaction.IsMessage members) →
      ofJson value = .other value := by
    intro hnot
    cases hread : Interaction.ofJson? value with
    | none => exact ofJson_of_none hvalue hread
    | some i => exact absurd (hmessage.mp ⟨i, ofJson_of_some hread⟩) hnot
  refine ⟨hmessage, ?_, ?_, ?_, exists_ofText_iff, ?_⟩
  · rintro members i rfl hread
    obtain ⟨-, -, -, -, -, hextra⟩ :=
      (Interaction.ofJson?_object_eq_some hvalue).mp (ofJson_eq_message.mp hread)
    exact hextra
  · intro hnot
    have hkept := hother hnot
    exact ⟨hkept, by rw [hkept, toJson]⟩
  · rintro members contents wire rfl hcontents hwire hfaulty
    apply hother
    rintro ⟨_, heq, hmembers⟩
    obtain rfl := Json.object.inj heq
    obtain ⟨found, hfound, hsound⟩ :=
      Contents.exists_ofJson?_iff.mp (hmembers.contents contents hcontents)
    rw [hwire] at hfound
    cases hfound
    exact hsound hfaulty
  · intro file items hfile hitems
    exact Contract.readable_whatever_entries hfile hitems

/-- A message that another tool has marked, and one that asks for a pattern and has none. -/
theorem ofJson_classifies_marked_and_malformed :
    let marked : Json := .object [("description", .string "an event"), ("pending", .bool true),
      ("type", .object [(Interaction.tag, .null)])]
    let pattern : Json := .object [(matcherKey, .string "regex")]
    let contents : Json := .object [("content", pattern)]
    let malformed : Json := .object [("contents", contents), ("description", .string "an event")]
    (marked.IsValue ∧ ∃ i, ofJson marked = .message i ∧ i.extra = [("pending", .bool true)]) ∧
      malformed.IsValue ∧ ofJson malformed = .other malformed := by
  intro marked pattern contents malformed
  have hmarked : marked.IsValue := by
    refine Json.isValue_object.mpr ⟨Fields.sorted_iff_keys.mpr (by decide), ?_⟩
    simp only [List.forall_mem_cons]
    exact ⟨rfl, rfl, rfl, by simp⟩
  have hmalformed : malformed.IsValue := by
    refine Json.isValue_object.mpr ⟨Fields.sorted_iff_keys.mpr (by decide), ?_⟩
    simp only [List.forall_mem_cons]
    exact ⟨rfl, rfl, by simp⟩
  constructor
  · obtain ⟨i, hi⟩ := (ofJson_classifies hmarked).1.mpr ⟨_, rfl, {
      kind := fun _ hget => .inr (Option.some.inj hget).symm
      description := fun _ hget => ⟨_, (Option.some.inj hget).symm⟩
      states := fun _ hget => by cases hget
      contents := fun _ hget => by cases hget
      metadata := fun _ hget => by cases hget }⟩
    exact ⟨hmarked, i, hi, (ofJson_classifies hmarked).2.1 _ i rfl hi⟩
  · have hfaulty : WireContents.Faulty { content := some pattern } := by
      refine .matcher rfl rfl ?_
      rw [← Node.ofJson_isOk_iff]
      rintro ⟨node, hread⟩
      cases hread
    exact ⟨hmalformed, (ofJson_classifies hmalformed).2.2.2.1 _ contents _ rfl rfl rfl hfaulty⟩

end Entry

end MessageContract
