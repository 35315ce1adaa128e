import MessageContract.Contract.Reader
import MessageContract.Proofs.Contents.Structured
import MessageContract.Proofs.Interaction.Written

/-!
Contracts that have been loaded, written and read back. Whatever tool wrote the
contract, it is the same afterwards, if each of its messages has contents that are.
The contract is loaded from a value: an entry that is written with one of its fields
twice is no message, and its value may be one.
-/

namespace MessageContract

open Json (orDefault ReadsValue)

/-- What is found in a record of one string. -/
theorem nameOf?_eq_some {field name : String} {value : Json} :
    nameOf? field value = some name ↔
      ∃ text, Json.fieldsOf? [field] value = some [some text] ∧ text.string? = some name := by
  constructor
  · intro hread
    obtain ⟨known, hknown, hread⟩ := Option.bind_eq_some_iff.mp hread
    split at hread
    case h_1 text => exact ⟨text, hknown, hread⟩
    case h_2 => cases hread
  · rintro ⟨text, hknown, htext⟩
    simp only [nameOf?, hknown, htext, Option.bind_eq_bind, Option.bind_some]

theorem readsValue_nameOf? (field : String) : ReadsValue (nameOf? field) := by
  intro value name hread
  obtain ⟨text, hknown, htext⟩ := nameOf?_eq_some.mp hread
  exact nameOf?_eq_some.mpr
    ⟨_, Json.fieldsOf?_normalize hknown, Json.readsValue_string? _ _ htext⟩

theorem nameOf?_written (field name : String) :
    nameOf? field (.object [(field, .string name)]) = some name := by
  have hapart : Fields.Apart [(field, some (Json.string name))] [] :=
    { keys := List.nodup_singleton field, others := fun _ _ => rfl }
  exact nameOf?_eq_some.mpr ⟨_, Json.fieldsOf?_present hapart, rfl⟩

namespace Contract.Metadata

/-- What has been found when metadata is read. -/
theorem ofJson?_eq_some {value : Json} {m : Contract.Metadata} :
    ofJson? value = some m ↔
      ∃ specification,
        Json.openFieldsOf? ["pactSpecification"] value = some ([some specification], m.extra) ∧
        nameOf? "version" specification = some m.specification := by
  constructor
  · intro hread
    obtain ⟨known, hknown, hread⟩ := Option.bind_eq_some_iff.mp hread
    split at hread
    case h_1 specification extra =>
      obtain ⟨version, hversion, hread⟩ := Option.bind_eq_some_iff.mp hread
      obtain rfl := Option.some.inj hread
      exact ⟨specification, hknown, hversion⟩
    case h_2 => cases hread
  · rintro ⟨specification, hknown, hversion⟩
    simp only [ofJson?, hknown, hversion, Option.bind_eq_bind, Option.bind_some]
    rfl

theorem readsValue_ofJson? : ReadsValue ofJson? := by
  intro value m hread
  obtain ⟨specification, hknown, hversion⟩ := ofJson?_eq_some.mp hread
  exact ofJson?_eq_some.mpr
    ⟨_, Json.openFieldsOf?_normalize hknown, readsValue_nameOf? _ _ _ hversion⟩

/-- The parts of the object that is written. -/
def parts (m : Contract.Metadata) : List (String × Option Json) :=
  [("pactSpecification", some (.object [("version", .string m.specification)]))]

/-- What all metadata that is read holds. -/
structure Sound (m : Contract.Metadata) : Prop where
  extra : (Json.object m.extra).IsValue
  apart : Fields.Apart m.parts m.extra

theorem sound_of_ofJson? {value : Json} {m : Contract.Metadata} (hread : ofJson? value = some m) :
    m.Sound := by
  obtain ⟨specification, hknown, -⟩ := ofJson?_eq_some.mp hread
  obtain ⟨hextra, hothers⟩ := Json.openFieldsOf?_others hknown
  exact ⟨hextra, { keys := List.nodup_singleton _, others := hothers }⟩

theorem sound_initial : initial.Sound where
  extra := by rfl
  apart := { keys := List.nodup_singleton _, others := by decide }

theorem Sound.ofJson?_toJson {m : Contract.Metadata} (h : m.Sound) :
    ofJson? m.toJson = some m := by
  have hknown := Json.openFieldsOf?_present h.apart
  have hextra : Fields.ofList (Json.normalizeMembers m.extra) = m.extra := Json.object.inj h.extra
  rw [hextra] at hknown
  exact ofJson?_eq_some.mpr ⟨_, hknown, nameOf?_written _ _⟩

end Contract.Metadata

namespace Entry

theorem ofJson_eq_message {value : Json} {m : Interaction} :
    ofJson value = .message m ↔ Interaction.ofJson? value = some m := by
  rw [ofJson]
  cases Interaction.ofJson? value <;> simp

theorem ofJson_of_some {value : Json} {i : Interaction}
    (hread : Interaction.ofJson? value = some i) : ofJson value = .message i :=
  ofJson_eq_message.mpr hread

/-- What is no message is kept as the value it is. -/
theorem ofJson_of_none {value : Json} (hvalue : value.IsValue)
    (hread : Interaction.ofJson? value = none) : ofJson value = .other value := by
  rw [ofJson, hread, hvalue]

/-- An entry that has been read is read back: a message if its contents are, and
every other value. -/
theorem ofJson_toJson {value : Json} (hvalue : value.IsValue)
    (hcontents : ∀ i, Interaction.ofJson? value = some i →
      Contents.ofJson? i.contents.toJson = some i.contents) :
    ofJson (ofJson value).toJson = ofJson value ∧
      ofJson (ofJson value).toJson.normalize = ofJson value := by
  cases hread : Interaction.ofJson? value with
  | none =>
      -- the value is read once more, and so is no message again
      have hentry := ofJson_of_none hvalue hread
      rw [hentry, toJson, hvalue, hentry]
      exact ⟨rfl, rfl⟩
  | some i =>
      have hagain := (Interaction.sound_of_ofJson? hread).ofJson?_toJson (hcontents i hread)
      rw [ofJson_of_some hread]
      exact ⟨ofJson_of_some hagain, ofJson_of_some (Interaction.readsValue_ofJson? _ _ hagain)⟩

end Entry

namespace Contract

/-- What has been found when a contract is read. -/
theorem ofJson?_eq_some {value : Json} {c : Contract} :
    ofJson? value = some c ↔
      ∃ consumer provider entries metadata,
        Json.fieldsOf? fieldNames value =
          some [some consumer, some provider, entries, metadata] ∧
        nameOf? "name" consumer = some c.consumer ∧ nameOf? "name" provider = some c.provider ∧
        orDefault [] (fun v => v.items?.map (·.map Entry.ofJson)) entries = some c.entries ∧
        orDefault .initial Contract.Metadata.ofJson? metadata = some c.metadata := by
  constructor
  · intro hread
    obtain ⟨known, hknown, hread⟩ := Option.bind_eq_some_iff.mp hread
    split at hread
    case h_1 consumer provider entries metadata =>
      obtain ⟨a, ha, hread⟩ := Option.bind_eq_some_iff.mp hread
      obtain ⟨b, hb, hread⟩ := Option.bind_eq_some_iff.mp hread
      obtain ⟨d, hd, hread⟩ := Option.bind_eq_some_iff.mp hread
      obtain ⟨e, he, hread⟩ := Option.bind_eq_some_iff.mp hread
      obtain rfl := Option.some.inj hread
      exact ⟨consumer, provider, entries, metadata, hknown, ha, hb, hd, he⟩
    case h_2 => cases hread
  · rintro ⟨consumer, provider, entries, metadata, hknown, hconsumer, hprovider, hentries,
      hmetadata⟩
    simp only [ofJson?, hknown, hconsumer, hprovider, hentries, hmetadata, Option.bind_eq_bind,
      Option.bind_some]
    rfl

/-- The parts of the object that is written. -/
def parts (c : Contract) : List (String × Option Json) :=
  [("consumer", some (participantJson c.consumer)),
    ("provider", some (participantJson c.provider)),
    ("interactions", some (.array (c.entries.map Entry.toJson))),
    ("metadata", some c.metadata.toJson)]

theorem apart_parts (c : Contract) : Fields.Apart c.parts [] where
  keys := by
    have hkeys : c.parts.map Prod.fst = fieldNames := rfl
    rw [hkeys]
    decide
  others := fun _ _ => rfl

theorem entries_of_items {items : List Json} {entries : List Entry}
    (h : items.map Entry.ofJson = entries) :
    orDefault [] (fun v => v.items?.map (·.map Entry.ofJson)) (some (.array items)) =
      some entries :=
  congrArg some h

/-- A contract is read back if its entries and its metadata are. -/
theorem ofJson?_toJson {c : Contract}
    (hentries : ∀ entry ∈ c.entries, Entry.ofJson entry.toJson = entry ∧
      Entry.ofJson entry.toJson.normalize = entry)
    (hmetadata : c.metadata.Sound) :
    ofJson? c.toJson = some c ∧ ofJson? c.toJson.normalize = some c := by
  have hknown : Json.fieldsOf? fieldNames c.toJson = some (c.parts.map Prod.snd) :=
    Json.fieldsOf?_present c.apart_parts
  have hwritten := hmetadata.ofJson?_toJson
  have hmap {f : Entry → Entry} (h : ∀ entry ∈ c.entries, f entry = entry) :
      c.entries.map f = c.entries := by
    rw [List.map_congr_left h, List.map_id']
  constructor
  · refine ofJson?_eq_some.mpr ⟨_, _, _, _, hknown, nameOf?_written _ _, nameOf?_written _ _,
      entries_of_items ?_, hwritten⟩
    rw [List.map_map]
    exact hmap fun entry hentry => (hentries entry hentry).1
  · refine ofJson?_eq_some.mpr ⟨_, _, _, _, Json.fieldsOf?_normalize hknown,
      readsValue_nameOf? _ _ _ (nameOf?_written _ _),
      readsValue_nameOf? _ _ _ (nameOf?_written _ _), ?_,
      Contract.Metadata.readsValue_ofJson? _ _ hwritten⟩
    rw [Option.map_some, Json.normalize_array, List.map_map]
    apply entries_of_items
    rw [List.map_map]
    exact hmap fun entry hentry => (hentries entry hentry).2

/-- A contract that has been loaded from a value is what is read of the contract
again, from what is written for it and from the value that stands for it, if each
message has contents that are read back as the same contents. -/
theorem loaded_survives {value : Json} {c : Contract} (hvalue : value.IsValue)
    (hread : ofJson? value = some c)
    (hcontents : ∀ i ∈ c.messages, ∃ again,
      Contents.ofJson? i.contents.toJson.normalize = some again ∧
        again.same i.contents = true) :
    ofJson? c.toJson = some c ∧ ofJson? c.toJson.normalize = some c := by
  obtain ⟨consumer, provider, entries, metadata, hknown, -, -, hentries, hmetadata⟩ :=
    ofJson?_eq_some.mp hread
  have hfields := Json.isValue_of_fieldsOf? hvalue hknown
  apply ofJson?_toJson
  · intro entry hentry
    cases entries with
    | none =>
        rw [← Option.some.inj hentries] at hentry
        cases hentry
    | some entries =>
        obtain ⟨items, hitems, hmap⟩ := Option.map_eq_some_iff.mp hentries
        rw [← hmap] at hentry
        obtain ⟨item, hitem, rfl⟩ := List.mem_map.mp hentry
        obtain rfl := Json.items?_eq_some.mp hitems
        have hitemValue := Json.isValue_array.mp (hfields (.array items) (by simp)) item hitem
        refine Entry.ofJson_toJson hitemValue ?_
        intro i hi
        have hmem : i ∈ c.messages := by
          apply List.mem_filterMap.mpr
          rw [← hmap]
          exact ⟨_, List.mem_map_of_mem hitem, by rw [Entry.ofJson_of_some hi, Entry.message?]⟩
        exact Contents.ofJson?_toJson_of_same (Interaction.contents_of_ofJson? hi)
          (hcontents i hmem)
  · cases metadata with
    | none =>
        rw [← Option.some.inj hmetadata]
        exact Metadata.sound_initial
    | some metadata => exact Metadata.sound_of_ofJson? hmetadata

/-- A message with a member of another tool, beside a request. -/
theorem loaded_survives_beside_request :
    let value := Json.object
      [("consumer", .object [("name", .string "shop")]),
        ("interactions", .array
          [.object
            [("contents",
                .object [("content", .int 5), ("contentType", .string "text/plain")]),
              ("description", .string "a count"), ("key", .string "1f")],
          .object [("method", .string "GET"), ("type", .string "Synchronous/HTTP")]]),
        ("metadata", .object [("pactSpecification", .object [("version", .string "4.0")]),
          ("tool", .string "other")]),
        ("provider", .object [("name", .string "stock")])]
    ∃ c, value.IsValue ∧ ofJson? value = some c ∧ c.entries.length = 2 ∧ c.messages.length = 1 ∧
      ofJson? c.toJson = some c ∧ ofJson? c.toJson.normalize = some c := by
  intro value
  let count : Interaction :=
    { description := "a count", contents := .json "text/plain" (.number (.integer 5)),
      extra := [("key", .string "1f")] }
  let request := Json.object [("method", .string "GET"), ("type", .string "Synchronous/HTTP")]
  let c : Contract :=
    { consumer := "shop", provider := "stock", entries := [.message count, .other request],
      metadata := { specification := "4.0", extra := [("tool", .string "other")] } }
  have hvalue : value.IsValue := by rfl
  have hread : ofJson? value = some c := by rfl
  refine ⟨c, hvalue, hread, rfl, rfl, loaded_survives hvalue hread ?_⟩
  have hcount : Contents.ofJson?
      (Contents.json "text/plain" (.number (.integer 5))).toJson.normalize =
        some (.json "text/plain" (.number (.integer 5))) := by rfl
  intro i hi
  obtain rfl := List.mem_singleton.mp hi
  exact ⟨count.contents, hcount, by simp [count, Contents.same, Node.same, Number.same]⟩

end Contract

end MessageContract
