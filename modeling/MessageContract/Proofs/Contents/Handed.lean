import MessageContract.Proofs.Contents.Opaque
import MessageContract.Proofs.Node.Literal
import MessageContract.Proofs.Session.Verify

/-!
What a consumer is handed of contents without rules: the content that is written for them.
Bytes are written as the text that they are the bytes of, if their media type is one of
texts and there is such a text, and otherwise in base64; they are handed over in the form
in which they are written.
-/

namespace MessageContract

namespace Contents

/-- No node of the contents is matched. -/
def IsLiteral : Contents → Prop
  | .json _ body => body.isLiteral = true
  | _ => True

/-- The string that stands for bytes: their text, where a text may stand for them, or their
base64 form. -/
structure StandsFor (contentType : String) (data : List UInt8) (text : String) : Prop where
  plain : MediaType.isText contentType = true → ∀ valid, Utf8.encode valid = data → text = valid
  encoded : (MediaType.isText contentType = true → ∀ valid, Utf8.encode valid ≠ data) →
    text = Base64.encode data

theorem plainText?_eq_some_iff_encode {contentType text : String} {data : List UInt8} :
    plainText? contentType data = some text ↔
      MediaType.isText contentType = true ∧ Utf8.encode text = data := by
  rw [plainText?_eq_some, Utf8.decode_eq_some_iff]

theorem content_toWire_bytes (contentType : String) (data : List UInt8) :
    ∃ text, (bytes contentType data).toWire.content = some (.string text) ∧
      StandsFor contentType data text := by
  cases hplain : plainText? contentType data with
  | some text =>
      obtain ⟨htext, hdata⟩ := plainText?_eq_some_iff_encode.mp hplain
      refine ⟨text, by rw [toWire, hplain], ?_, ?_⟩
      · intro _ valid hvalid
        have hsame := plainText?_eq_some_iff_encode.mpr ⟨htext, hvalid⟩
        exact Option.some.inj (hplain.symm.trans hsame)
      · intro hnone
        exact absurd hdata (hnone htext text)
  | none =>
      refine ⟨Base64.encode data, by rw [toWire, hplain], ?_, fun _ => rfl⟩
      intro htext valid hvalid
      have hsome := plainText?_eq_some_iff_encode.mpr ⟨htext, hvalid⟩
      cases hplain.symm.trans hsome

/-- The wire form has its content under the key for it, or nothing. -/
theorem content_toJson (contents : Contents) :
    contents.toJson.member? "content" = contents.toWire.content := by
  rw [toJson, WireContents.toJson, Json.member?]
  cases contents.toWire.content with
  | some content => rfl
  | none => cases contents.toWire.contentType <;> rfl

/-- Contents without rules are made concrete as they are written, without a warning. -/
theorem concrete_of_literal (engine : PatternEngine) {contents : Contents}
    (hliteral : contents.IsLiteral) :
    contents.concrete engine = .ok (contents.toWire.content.getD .null) := by
  cases contents with
  | empty => rfl
  | json contentType body => exact Node.concrete_of_isLiteral engine hliteral
  | bytes contentType data =>
      rw [concrete, toWire]
      cases plainText? contentType data <;> rfl

end Contents

/-- An interaction is written with its contents, if there are any. -/
theorem Interaction.contents_toJson {i : Interaction} (hempty : i.contents.isEmpty = false) :
    i.toJson.member? "contents" = some i.contents.toJson := by
  rw [toJson, Json.member?]
  cases i.states.isEmpty <;> simp [Fields.get?, hempty]

theorem Message.Reaches.decode {σ α : Type} {engine : PatternEngine} {m : Message σ α}
    {given : ConcreteMessage α} {value : Json} (h : m.Reaches engine given)
    (hconcrete : m.interaction.contents.concrete engine = .ok value) :
    m.target.decode value = .ok given.contents := by
  obtain ⟨-, -, found, hfound, contents, hdecode, rfl⟩ := h
  rw [hconcrete] at hfound
  cases hfound
  exact hdecode

namespace Contents

/-- Contents without rules are made concrete as the content that is written for them, and
no handler is given anything else: the tree as it is written, and for bytes the one string
that stands for them. -/
theorem literal_handed_as_recorded (engine : PatternEngine) {contents : Contents}
    (hliteral : contents.IsLiteral) :
    let recorded := contents.toWire.content
    contents.concrete engine = .ok (recorded.getD .null) ∧
    (contents = .empty → recorded = none) ∧
    (∀ contentType body, contents = .json contentType body → recorded = some body.toJson) ∧
    (∀ contentType data, contents = .bytes contentType data →
      ∃ text, recorded = some (.string text) ∧ StandsFor contentType data text) ∧
    (∀ i : Interaction, i.contents = contents → contents ≠ .empty →
      (i.toJson.member? "contents").bind (·.member? "content") = recorded) ∧
    (∀ (σ α : Type) (m : Message σ α), m.interaction.contents = contents →
      ∀ given, m.Reaches engine given →
        m.target.decode (recorded.getD .null) = .ok given.contents) := by
  intro recorded
  have hconcrete : contents.concrete engine = .ok (recorded.getD .null) :=
    concrete_of_literal engine hliteral
  refine ⟨hconcrete, ?_, ?_, ?_, ?_, ?_⟩
  · rintro rfl
    rfl
  · rintro contentType body rfl
    rfl
  · rintro contentType data rfl
    exact content_toWire_bytes contentType data
  · rintro i rfl hempty
    have hsome : i.contents.isEmpty = false := by
      cases hcontents : i.contents with
      | empty => exact absurd hcontents hempty
      | json | bytes => rfl
    rw [Interaction.contents_toJson hsome, Option.bind_some, content_toJson]
  · rintro σ α m rfl given hreaches
    exact hreaches.decode hconcrete

/-- A parcel list without rules. -/
theorem literal_handed_as_recorded_parcels :
    let body := Node.object [("parcels", .array [.string "books", .null])]
    let written := Json.object [("parcels", .array [.string "books", .null])]
    IsLiteral (.json "application/json" body) ∧
      (json "application/json" body).concrete ⟨fun _ => .error none⟩ = .ok written := by
  intro body written
  have hliteral : IsLiteral (.json "application/json" body) := by rfl
  exact ⟨hliteral, (literal_handed_as_recorded _ hliteral).1⟩

/-- A text that is cut in the middle of a character is no text. -/
example : (bytes "text/plain" [0x68, 0xC3]).toWire.content = some (.string "aMM=") := by rfl

end Contents

end MessageContract
