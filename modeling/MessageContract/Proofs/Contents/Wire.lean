import MessageContract.Contents.Reader
import MessageContract.Proofs.Json.Written

/-!
The wire form of contents, read back. What is read is the form that was written,
but that content which is null is as good as none, and a string is text or JSON
as its media type says.
-/

namespace MessageContract

open Json (orDefault orNull ReadsValue)

namespace Encoding

theorem readsValue_ofJson? : ReadsValue ofJson? := by
  intro value a hread
  cases value with
  | bool | string => exact hread
  | _ => cases hread

theorem ofJson?_toJson (encoding : Encoding) : ofJson? encoding.toJson = some encoding := by
  cases encoding <;> rfl

end Encoding

namespace WireContents

/-- What has been found when a wire form is read. -/
theorem ofJson?_eq_some {value : Json} {wire : WireContents} :
    ofJson? value = some wire ↔
      ∃ content contentType encoded,
        Json.fieldsOf? fieldNames value = some [content, contentType, encoded] ∧
        orDefault none (orNull fun v => some v.normalize) content = some wire.content ∧
        orDefault none (orNull Json.string?) contentType = some wire.contentType ∧
        orDefault (.flag false) Encoding.ofJson? encoded = some wire.encoding := by
  constructor
  · intro hread
    obtain ⟨known, hknown, hread⟩ := Option.bind_eq_some_iff.mp hread
    split at hread
    case h_1 content contentType encoded =>
      obtain ⟨a, ha, hread⟩ := Option.bind_eq_some_iff.mp hread
      obtain ⟨b, hb, hread⟩ := Option.bind_eq_some_iff.mp hread
      obtain ⟨c, hc, hread⟩ := Option.bind_eq_some_iff.mp hread
      obtain rfl := Option.some.inj hread
      exact ⟨content, contentType, encoded, hknown, ha, hb, hc⟩
    case h_2 => cases hread
  · rintro ⟨content, contentType, encoded, hknown, hcontent, hcontentType, hencoding⟩
    simp only [ofJson?, hknown, hcontent, hcontentType, hencoding, Option.bind_eq_bind,
      Option.bind_some]
    rfl

theorem readsValue_ofJson? : ReadsValue ofJson? := by
  intro value wire hread
  obtain ⟨content, contentType, encoded, hknown, hcontent, hcontentType, hencoding⟩ :=
    ofJson?_eq_some.mp hread
  exact ofJson?_eq_some.mpr ⟨_, _, _, Json.fieldsOf?_normalize hknown,
    Json.readsValue_normalize.orNull.orDefault hcontent,
    Json.readsValue_string?.orNull.orDefault hcontentType,
    Encoding.readsValue_ofJson?.orDefault hencoding⟩

/-- The parts of the object that is written. -/
def parts (wire : WireContents) : List (String × Option Json) :=
  [("content", wire.content), ("contentType", wire.contentType.map .string),
    ("encoded", some wire.encoding.toJson)]

theorem toJson_eq (wire : WireContents) :
    wire.toJson = .object (Fields.present wire.parts ++ []) := by
  obtain ⟨content, contentType, encoding⟩ := wire
  cases content <;> cases contentType <;> rfl

theorem apart_parts (wire : WireContents) : Fields.Apart wire.parts [] where
  keys := by
    have hkeys : wire.parts.map Prod.fst = fieldNames := rfl
    rw [hkeys]
    decide
  others := fun _ _ => rfl

/-- What is read back of content. -/
def contentAgain : Option Json → Option Json
  | none | some .null => none
  | some value => some value.normalize

theorem ofJson?_toJson (wire : WireContents) :
    ofJson? wire.toJson = some { wire with content := contentAgain wire.content } := by
  rw [toJson_eq]
  refine ofJson?_eq_some.mpr ⟨_, _, _, Json.fieldsOf?_present wire.apart_parts, ?_, ?_, ?_⟩
  · rcases wire.content with _ | value
    · rfl
    · cases value <;> rfl
  · cases wire.contentType <;> rfl
  · exact Encoding.ofJson?_toJson _

/-- The value of what is written is read like what is written. -/
theorem ofJson?_value (wire : WireContents) :
    ofJson? wire.toJson.normalize = some { wire with content := contentAgain wire.content } :=
  readsValue_ofJson? _ _ wire.ofJson?_toJson

end WireContents

namespace Contents

open WireContents (contentAgain)

/-- What is read of contents that were written. -/
theorem ofJson?_toJson (contents : Contents) :
    ofJson? contents.toJson =
      (ofWire { contents.toWire with
        content := contentAgain contents.toWire.content }).toOption := by
  simp only [ofJson?, toJson, WireContents.ofJson?_toJson]
  rfl

/-- The value of contents that were written is read like what was written. -/
theorem ofJson?_value (contents : Contents) :
    ofJson? contents.toJson.normalize = ofJson? contents.toJson := by
  simp only [ofJson?, toJson, WireContents.ofJson?_value, WireContents.ofJson?_toJson]

/-- What is read of a tree is read of the value that it stands for. -/
theorem readsValue_ofJson? : Json.ReadsValue ofJson? := by
  intro value contents hread
  obtain ⟨wire, hwire, hread⟩ := Option.bind_eq_some_iff.mp hread
  exact Option.bind_eq_some_iff.mpr ⟨wire, WireContents.readsValue_ofJson? _ _ hwire, hread⟩

theorem ofWire_string (contentType text : String) :
    ofWire { content := some (.string text), contentType := some contentType } =
      .ok (if MediaType.isJson contentType then .json contentType (.string text)
        else .bytes contentType (Utf8.encode text)) := by
  by_cases hjson : MediaType.isJson contentType = true <;>
    simp [ofWire, Encoding.isBase64, hjson, pure, Except.pure]

end Contents

end MessageContract
