import MessageContract.Proofs.Contents.Wire
import MessageContract.Proofs.Text.Base64

/-!
Opaque contents, written as text or in base64, and read back. They are what they
were unless their media type makes text of them for the writer and JSON for the
reader.
-/

namespace MessageContract

namespace MediaType

/-- A kind of text that is built on JSON. -/
def IsTextOnJson (contentType : String) : Prop :=
  "text/".toList <+: chars contentType ∧ "+json".toList <:+ chars contentType

/-- Only such a media type is written as text and read as JSON. -/
theorem isTextOnJson_iff (contentType : String) :
    IsTextOnJson contentType ↔ isText contentType = true ∧ isJson contentType = true := by
  rw [IsTextOnJson]
  simp only [isText, isJson, endsWith, Bool.or_eq_true, beq_iff_eq, List.isPrefixOf_iff_prefix,
    List.isSuffixOf_iff_suffix]
  generalize chars contentType = media
  constructor
  · rintro ⟨htext, hjson⟩
    exact ⟨.inl (.inl htext), .inr hjson⟩
  · rintro ⟨(htext | hxml) | hxml, hjson | hjson⟩
    · subst hjson
      exact absurd htext (by decide)
    · exact ⟨htext, hjson⟩
    · exact absurd (hxml.symm.trans hjson) (by decide)
    · subst hxml
      exact absurd hjson (by decide)
    · subst hjson
      exact absurd hxml (by decide)
    · rcases List.suffix_or_suffix_of_suffix hxml hjson with hshort | hshort
      · exact absurd hshort (by decide)
      · exact absurd hshort (by decide)

end MediaType

namespace Contents

theorem plainText?_eq_some {contentType text : String} {data : List UInt8} :
    plainText? contentType data = some text ↔
      MediaType.isText contentType = true ∧ Utf8.decode data = some text := by
  rw [plainText?, Option.ite_none_right_eq_some]

/-- Bytes that are written as text are read as a string or as the same bytes. -/
theorem ofJson?_text {contentType text : String} {data : List UInt8}
    (hplain : plainText? contentType data = some text) :
    ofJson? (bytes contentType data).toJson =
      some (if MediaType.isJson contentType then .json contentType (.string text)
        else .bytes contentType data) := by
  have hdata : Utf8.encode text = data := Utf8.encode_of_decode (plainText?_eq_some.mp hplain).2
  rw [ofJson?_toJson, toWire, hplain, ← hdata]
  exact congrArg Except.toOption (ofWire_string contentType text)

theorem ofWire_base64 (contentType : String) (data : List UInt8) :
    ofWire { content := some (.string (Base64.encode data)), contentType := some contentType,
             encoding := .scheme base64Scheme } = .ok (.bytes contentType data) := by
  have hscheme : (Encoding.scheme base64Scheme).isBase64 = .ok true := by rfl
  have hcontent : decodeContent (some (.string (Base64.encode data))) = .ok data := by
    simp only [decodeContent, Base64.encode_bytes, Base64.decodeBytes_encodeBytes]
  simp [ofWire, hscheme, hcontent, pure, Except.pure]

/-- Bytes that are written in base64 are read as the same bytes. -/
theorem ofJson?_base64 {contentType : String} {data : List UInt8}
    (hplain : plainText? contentType data = none) :
    ofJson? (bytes contentType data).toJson = some (.bytes contentType data) := by
  rw [ofJson?_toJson, toWire, hplain]
  exact congrArg Except.toOption (ofWire_base64 contentType data)

/-- Opaque contents are read back as they were unless they are valid text of a kind
that is built on JSON, of which a string is read. -/
theorem opaque_survives_iff (contentType : String) (data : List UInt8) :
    (ofJson? (bytes contentType data).toJson.normalize = some (bytes contentType data) ↔
      (MediaType.IsTextOnJson contentType → Utf8.decode data = none)) ∧
    ∀ text, MediaType.IsTextOnJson contentType → Utf8.decode data = some text →
      ofJson? (bytes contentType data).toJson.normalize =
        some (.json contentType (.string text)) := by
  have hkind := MediaType.isTextOnJson_iff contentType
  cases hplain : plainText? contentType data with
  | none =>
      have hagain := readsValue_ofJson? _ _ (ofJson?_base64 hplain)
      have hdamaged (text : String) (htextual : MediaType.IsTextOnJson contentType) :
          Utf8.decode data ≠ some text := by
        intro htext
        rw [plainText?_eq_some.mpr ⟨(hkind.mp htextual).1, htext⟩] at hplain
        cases hplain
      refine ⟨⟨fun _ htextual => ?_, fun _ => hagain⟩, ?_⟩
      · exact Option.eq_none_iff_forall_ne_some.mpr fun text => hdamaged text htextual
      · intro text htextual htext
        exact absurd htext (hdamaged text htextual)
  | some text =>
      obtain ⟨htext, hdecoded⟩ := plainText?_eq_some.mp hplain
      have hagain := readsValue_ofJson? _ _ (ofJson?_text hplain)
      by_cases hjson : MediaType.isJson contentType = true
      · rw [if_pos hjson] at hagain
        have htextual : MediaType.IsTextOnJson contentType := hkind.mpr ⟨htext, hjson⟩
        refine ⟨⟨fun hsame => ?_, fun hnone => ?_⟩, ?_⟩
        · cases hagain.symm.trans hsame
        · rw [hnone htextual] at hdecoded
          cases hdecoded
        · intro other _ hother
          rw [hdecoded] at hother
          cases hother
          exact hagain
      · rw [if_neg hjson] at hagain
        have htextual : ¬MediaType.IsTextOnJson contentType := fun h => hjson (hkind.mp h).2
        exact ⟨⟨fun _ h => absurd h htextual, fun _ => hagain⟩,
          fun _ h => absurd h htextual⟩

/-- Text of a kind that is built on JSON is read as a string. -/
theorem text_on_json_read_as_string :
    ofJson? (bytes "text/x+json" [0x61, 0x62, 0x63]).toJson.normalize =
        some (.json "text/x+json" (.string "abc")) ∧
      ofJson? (bytes "text/x+json" [0x61, 0x62, 0x63]).toJson.normalize ≠
        some (bytes "text/x+json" [0x61, 0x62, 0x63]) := by
  have hplain : plainText? "text/x+json" [0x61, 0x62, 0x63] = some "abc" := by rfl
  have hagain : ofJson? (bytes "text/x+json" [0x61, 0x62, 0x63]).toJson.normalize =
      some (.json "text/x+json" (.string "abc")) :=
    readsValue_ofJson? _ _ (ofJson?_text hplain)
  refine ⟨hagain, fun hsame => ?_⟩
  cases hagain.symm.trans hsame

end Contents

end MessageContract
