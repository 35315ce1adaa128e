import MessageContract.Proofs.Contents.Structured
import MessageContract.Proofs.Json.Record

/-!
Content that a message is given as text, and content that is read from a contract
file. Both take a value under a JSON media type for a tree with rules and refuse it
for the same fault, and both take a string under any other media type for its bytes.
-/

namespace MessageContract

open Json.Scan in
/-- What is read of the text of a value. -/
theorem Json.ofBytes_printed (value again : Json) :
    ofBytes (printed 0 value ++ lineBreak 0) = .ok again ↔
      (value.reread? roomLimit).map normalize = some again :=
  run_eq_ok ((reads_tree value roomLimit 0).map normalize) again

namespace WireContents

/-- What is read of content that is not encoded, and of its media type. -/
theorem ofJson?_unencoded (content : Json) (contentType : String) :
    ofJson? (.object [("content", content), ("contentType", .string contentType),
      ("encoded", .bool false)]) =
      some { content := contentAgain (some content), contentType := some contentType } :=
  ofJson?_toJson { content := some content, contentType := some contentType }

end WireContents

namespace Contents

open WireContents (contentAgain contentAgain_of_isValue)

/-- Under a JSON media type null, strings and all other values are read alike, as
trees. -/
theorem ofWire_value {contentType : String} (hjson : MediaType.isJson contentType = true)
    {value : Json} (hvalue : value.IsValue) :
    ofWire { content := contentAgain (some value), contentType := some contentType } =
      liftMatcher ((Node.ofJson value).map (json contentType)) := by
  by_cases hnull : value = .null
  · subst hnull
    simp [contentAgain, ofWire, Encoding.isBase64, hjson, Node.ofJson, liftMatcher, Except.map,
      pure, Except.pure]
  rw [contentAgain_of_isValue hvalue hnull]
  by_cases htext : ∃ text, value = .string text
  · obtain ⟨text, rfl⟩ := htext
    rw [ofWire_string, if_pos hjson]
    rfl
  · exact ofWire_of_not_text contentType (not_exists.mp htext)

theorem ofJson?_unencoded {contentType : String} (hjson : MediaType.isJson contentType = true)
    {value : Json} (hvalue : value.IsValue) :
    ofJson? (.object [("content", value), ("contentType", .string contentType),
      ("encoded", .bool false)]) =
      (liftMatcher ((Node.ofJson value).map (json contentType))).toOption := by
  rw [← ofWire_value hjson hvalue]
  simp only [ofJson?, WireContents.ofJson?_unencoded, Option.bind_eq_bind, Option.bind_some]

/-- A string under any other media type is read as its bytes. -/
theorem ofJson?_string {contentType : String} (hjson : MediaType.isJson contentType = false)
    (text : String) :
    ofJson? (.object [("content", .string text), ("contentType", .string contentType)]) =
      some (.bytes contentType (Utf8.encode text)) := by
  have hwire : WireContents.ofJson?
      (.object [("content", .string text), ("contentType", .string contentType)]) =
        some { content := some (.string text), contentType := some contentType } :=
    WireContents.ofJson?_eq_some.mpr ⟨_, _, _, rfl, rfl, rfl, rfl⟩
  have hread := ofWire_string contentType text
  rw [if_neg (by simp [hjson])] at hread
  simp only [ofJson?, hwire, Option.bind_eq_bind, Option.bind_some, hread]
  rfl

section Message

variable {σ α : Type}

/-- A message takes a value for what a reader takes it for, or remembers its fault. -/
theorem setValue_ok (m : Message σ α) (contentType : String) (value : Json) :
    m.setValue contentType (.ok value) =
      match liftMatcher ((Node.ofJson value).map (json contentType)) with
      | .ok contents => m.setContents contents
      | .error e => { m with contentError := some e } := by
  rw [Message.setValue]
  cases Node.ofJson value <;> rfl

/-- Under a JSON media type a message gets the content of a text exactly if the wire
form with the text's value is read, and gets what is read; else it remembers why that
cannot be read. A value gives the same content as its text. Under any other media
type both take a string for its bytes. -/
theorem setBody_agrees (m : Message σ α) (contentType : String) :
    (MediaType.isJson contentType = true → ∀ text value, Json.ofBytes text = .ok value →
      let told := m.setBody contentType text
      let written := Json.object [("content", value), ("contentType", .string contentType),
        ("encoded", .bool false)]
      (∀ contents, told.contentError = none ∧ told.interaction.contents = contents ↔
        ofJson? written = some contents) ∧
      (∀ e, told.contentError = some e ↔
        ∃ wire, WireContents.ofJson? written = some wire ∧ ofWire wire = .error e) ∧
      (contentType = MediaType.json → m.setJsonBody (.ok value) = told)) ∧
    (MediaType.isJson contentType = false → ∀ text : String,
      let told := m.setBody contentType (Utf8.encode text)
      told.contentError = none ∧
      told.interaction.contents = .bytes contentType (Utf8.encode text) ∧
      ofJson? (.object [("content", .string text), ("contentType", .string contentType)]) =
        some (.bytes contentType (Utf8.encode text))) := by
  constructor
  · intro hjson text value htext told written
    have hvalue : value.IsValue := Json.Scan.ensures_run (Json.Scan.ensures_value _) htext
    have htold : told = m.setValue contentType (.ok value) := by
      simp only [told, Message.setBody, if_pos hjson, htext]
    have hwire : WireContents.ofJson? written = some _ :=
      WireContents.ofJson?_unencoded value contentType
    have hread := ofWire_value hjson hvalue
    rw [htold, ofJson?_unencoded hjson hvalue, hwire]
    refine ⟨?_, ?_, ?_⟩
    · intro contents
      rw [setValue_ok]
      cases liftMatcher ((Node.ofJson value).map (json contentType)) <;>
        simp [Message.setContents, Except.toOption]
    · intro e
      simp only [setValue_ok, Option.some.injEq, exists_eq_left', hread]
      cases liftMatcher ((Node.ofJson value).map (json contentType)) <;>
        simp [Message.setContents]
    · rintro rfl
      rfl
  · intro hjson text
    have htold : m.setBody contentType (Utf8.encode text) =
        m.setBytes contentType (Utf8.encode text) := if_neg (by simp [hjson])
    dsimp only
    rw [htold]
    exact ⟨rfl, rfl, ofJson?_string hjson text⟩

open Json.Scan in
/-- A rule under a media type that is built on JSON, and a string under one of text. -/
theorem setBody_agrees_rule_and_string :
    let settings : Settings :=
      { consumer := "shop", provider := "stock", directory := "pacts", logLevel := "warn" }
    let message : Message Unit Json :=
      ({ settings, slot := 0 } : Session).message (anyTarget "value")
    let media := "application/vnd.shop+json; charset=utf-8"
    let value := Json.object [("pact:matcher:type", .string "integer")]
    let text := printed 0 value ++ lineBreak 0
    let rule := json media (.matched .integer none none [])
    (MediaType.isJson media = true ∧ Json.ofBytes text = .ok value ∧
      (message.setBody media text).contentError = none ∧
      (message.setBody media text).interaction.contents = rule ∧
      ofJson? (.object [("content", value), ("contentType", .string media),
        ("encoded", .bool false)]) = some rule) ∧
    MediaType.isJson "text/plain" = false ∧
      (message.setBody "text/plain" (Utf8.encode "5 €")).interaction.contents =
        .bytes "text/plain" (Utf8.encode "5 €") ∧
      ofJson? (.object [("content", .string "5 €"), ("contentType", .string "text/plain")]) =
        some (.bytes "text/plain" (Utf8.encode "5 €")) := by
  intro settings message media value text rule
  have hjson : MediaType.isJson media = true := by decide
  have htext : Json.ofBytes text = .ok value := (Json.ofBytes_printed value value).mpr rfl
  have hplain : MediaType.isJson "text/plain" = false := by decide
  have hread : ofJson? (.object [("content", value), ("contentType", .string media),
      ("encoded", .bool false)]) = some rule := by
    have hvalue : value.IsValue := rfl
    rw [ofJson?_unencoded hjson hvalue]
    rfl
  obtain ⟨hcontents, -, -⟩ := (setBody_agrees message media).1 hjson text value htext
  obtain ⟨hnone, hrule⟩ := (hcontents rule).mpr hread
  obtain ⟨-, hbytes, hstring⟩ := (setBody_agrees message "text/plain").2 hplain "5 €"
  exact ⟨⟨hjson, htext, hnone, hrule, hread⟩, hplain, hbytes, hstring⟩

end Message

end Contents

end MessageContract
