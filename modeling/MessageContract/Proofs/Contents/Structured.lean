import MessageContract.Proofs.Contents.Wire
import MessageContract.Proofs.Json.Ensures
import MessageContract.Proofs.Node.Codec
import MessageContract.Proofs.Node.Value

/-!
Structured contents, written and read back. Null content is written like none and
a string like text, so what is read of them hangs on the media type alone. What is
read, and what messages are given, holds them under JSON media types only.
-/

namespace MessageContract

namespace WireContents

theorem contentAgain_of_isValue {value : Json} (hvalue : value.IsValue) (hnull : value ≠ .null) :
    contentAgain (some value) = some value := by
  cases value with
  | null => exact absurd rfl hnull
  | _ => exact congrArg some hvalue

/-- The content is a value if there is any, and is told from none. -/
def Telling (wire : WireContents) : Prop :=
  ∀ content, wire.content = some content → content.IsValue ∧ content ≠ .null

theorem telling_of_ofJson? {value : Json} {wire : WireContents}
    (hread : ofJson? value = some wire) : wire.Telling := by
  obtain ⟨content, contentType, encoded, -, hcontent, -, -⟩ := ofJson?_eq_some.mp hread
  intro found hfound
  rw [hfound] at hcontent
  rcases content with _ | v
  · cases hcontent
  · cases v with
    | null => cases hcontent
    | _ =>
        obtain rfl := Option.some.inj (Option.some.inj hcontent)
        exact ⟨Json.isValue_normalize _, Json.normalize_eq_null.not.mpr (by simp)⟩

open Json.Scan in
theorem ensures_read (room : Nat) : (read room).Ensures Telling := by
  have hfinish {draft : Draft}
      (h : ∀ read, draft.content = some read →
        ∀ v, read = some v → v.IsValue ∧ v ≠ .null) : draft.finish.Telling := by
    intro v hv
    exact h (some v) (Option.join_eq_some_iff.mp hv) v rfl
  apply ensures_record
  · intro room _
    refine ensures_bind (ensures_item? (ensures_optional_value room)) fun content hcontent => ?_
    refine ensures_bind (ensures_true _) fun contentType _ => ?_
    refine ensures_bind (ensures_true _) fun encoding _ => ?_
    exact ensures_pure (hfinish hcontent)
  · intro room _
    refine ensures_bind (ensures_members ?_ ?_) fun draft hdraft => ensures_pure (hfinish hdraft)
    · intro read hread
      cases hread
    · intro key draft hdraft
      split
      · exact ensures_map (ensures_once (ensures_optional_value room))
      · exact ensures_map fun _ _ _ _ => hdraft
      · exact ensures_map fun _ _ _ _ => hdraft
      · exact ensures_bind (ensures_true _) fun _ _ => ensures_pure hdraft

end WireContents

namespace Contents

open WireContents (contentAgain contentAgain_of_isValue)

/-- Structured content that can be told from none and from text. -/
structure Sound (contentType : String) (body : Node) : Prop where
  wellFormed : body.WellFormed
  isValue : body.toJson.IsValue
  told : MediaType.isJson contentType = true ∨ body ≠ .null ∧ ∀ text, body ≠ .string text

/-- What is no string is read as a tree with rules. -/
theorem ofWire_of_not_text (contentType : String) {value : Json}
    (htext : ∀ text, value ≠ .string text) :
    ofWire { content := some value, contentType := some contentType } =
      liftMatcher ((Node.ofJson value).map (json contentType)) := by
  have hread : ofWire { content := some value, contentType := some contentType } = (do
      let body ← liftMatcher (Node.ofJson value)
      return json contentType body) := by
    cases value with
    | string text => exact absurd rfl (htext text)
    | _ => rfl
  rw [hread]
  cases Node.ofJson value <;> rfl

/-- A tree is written as a null or as a string only if it is one. -/
theorem toJson_told {body : Node} (hnull : body ≠ .null) (htext : ∀ text, body ≠ .string text) :
    body.toJson ≠ .null ∧ ∀ text, body.toJson ≠ .string text := by
  cases body with
  | null => exact absurd rfl hnull
  | string text => exact absurd rfl (htext text)
  | _ => simp [Node.toJson, Node.matchedJson]

theorem Sound.ofJson?_toJson {contentType : String} {body : Node} (h : Sound contentType body) :
    ofJson? (json contentType body).toJson = some (.json contentType body) := by
  rw [Contents.ofJson?_toJson]
  simp only [toWire]
  have hread := Node.ofJson_toJson h.wellFormed
  -- null content is read as none, for which the media type alone tells
  by_cases hnull : body = .null
  · have hjson := h.told.resolve_right fun htold => htold.1 hnull
    subst hnull
    simp [Node.toJson, contentAgain, ofWire, Encoding.isBase64, hjson, bind, Except.bind, pure,
      Except.pure, Except.toOption]
  by_cases htext : ∃ text, body = .string text
  · obtain ⟨text, rfl⟩ := htext
    have hjson := h.told.resolve_right fun htold => htold.2 text rfl
    have hstring := ofWire_string contentType text
    rw [if_pos hjson] at hstring
    exact congrArg Except.toOption hstring
  obtain ⟨hnull, htext⟩ := toJson_told hnull (not_exists.mp htext)
  rw [contentAgain_of_isValue h.isValue hnull, ofWire_of_not_text contentType htext, hread]
  rfl

/-- Only null is read as null, and only a string as a string. -/
theorem told_of_ofJson {value : Json} {body : Node} (hread : Node.ofJson value = .ok body)
    (hnull : value ≠ .null) (htext : ∀ text, value ≠ .string text) :
    body ≠ .null ∧ ∀ text, body ≠ .string text := by
  cases value with
  | null => exact absurd rfl hnull
  | string text => exact absurd rfl (htext text)
  | bool | number =>
      cases hread
      simp
  | array items =>
      obtain ⟨nodes, rfl, -⟩ := Node.ofJson_array_eq_ok hread
      simp
  | object members =>
      obtain ⟨-, nodes, rfl, -⟩ | ⟨kind, rule, sample, generator, attributes, rest, -, rfl, -⟩ :=
        Node.ofJson_object_eq_ok hread <;> simp

theorem liftMatcher_eq_ok {α : Type} {x : Except MatcherFault α} {a : α} :
    liftMatcher x = .ok a ↔ x = .ok a := by
  cases x <;> simp [liftMatcher]

/-- What of a wire form is read as structured content: nothing or a string under a
JSON media type, or a tree that is no string unless under such a media type. -/
theorem ofWire_eq_json {wire : WireContents} {contentType : String} {body : Node}
    (hread : ofWire wire = .ok (.json contentType body)) :
    MediaType.isJson contentType = true ∧ (body = .null ∨ ∃ text, body = .string text) ∨
    ∃ value, wire.content = some value ∧ Node.ofJson value = .ok body ∧
      (MediaType.isJson contentType = true ∨ ∀ text, value ≠ .string text) := by
  obtain ⟨base64, -, hread⟩ := Outcome.bind_eq_ok.mp hread
  split at hread
  case h_1 => cases hread
  case h_2 hsome =>
    split at hread
    case isTrue =>
      obtain ⟨data, -, hread⟩ := Outcome.bind_eq_ok.mp hread
      cases hread
    case isFalse =>
      split at hread
      case h_1 text mediaType hcontent hmediaType =>
        split at hread
        case isTrue hjson =>
          cases hread
          exact .inl ⟨hjson, .inr ⟨text, rfl⟩⟩
        case isFalse => cases hread
      case h_2 mediaType hcontent hmediaType =>
        split at hread
        case isTrue hjson =>
          cases hread
          exact .inl ⟨hjson, .inl rfl⟩
        case isFalse => cases hread
      case h_3 htext hnone =>
        obtain ⟨read, hbody, hread⟩ := Outcome.bind_eq_ok.mp hread
        cases hread
        cases hcontent : wire.content with
        | none =>
            cases hmediaType : wire.contentType with
            | none => exact absurd hmediaType (hsome hcontent)
            | some mediaType => exact (hnone mediaType hcontent hmediaType).elim
        | some value =>
            rw [hcontent] at hbody
            refine .inr ⟨value, rfl, liftMatcher_eq_ok.mp hbody, ?_⟩
            cases hmediaType : wire.contentType with
            | none => exact .inl (by decide)
            | some mediaType =>
                refine .inr fun text hvalue => htext text mediaType ?_ hmediaType
                rw [hcontent, hvalue]

/-- Content that is read can be told from none and from text. -/
theorem sound_of_ofWire {wire : WireContents} {contentType : String} {body : Node}
    (hcontent : wire.Telling) (hread : ofWire wire = .ok (.json contentType body)) :
    Sound contentType body := by
  obtain ⟨hjson, rfl | ⟨text, rfl⟩⟩ | ⟨value, hvalue, hbody, htext⟩ := ofWire_eq_json hread
  · exact ⟨trivial, rfl, .inl hjson⟩
  · exact ⟨trivial, rfl, .inl hjson⟩
  obtain ⟨hvalue, hnull⟩ := hcontent value hvalue
  exact {
    wellFormed := Node.wellFormed_of_ofJson value hbody
    isValue := Node.isValue_of_ofJson value hvalue hbody
    told := htext.imp_right (told_of_ofJson hbody hnull) }

/-- Whatever is read of a value can be told under a JSON media type. -/
theorem sound_of_ofJson {value : Json} {contentType : String} {body : Node}
    (hjson : MediaType.isJson contentType = true) (hvalue : value.IsValue)
    (hread : Node.ofJson value = .ok body) : Sound contentType body where
  wellFormed := Node.wellFormed_of_ofJson value hread
  isValue := Node.isValue_of_ofJson value hvalue hread
  told := .inl hjson

end Contents

/-! Messages as they are built. -/

/-- What the calls that build an expectation make of a new one. -/
inductive Message.Built {σ : Type} : {α : Type} → Message σ α → Prop
  | new {α : Type} (s : Session) (target : Target α) : Built (s.message target)
  | given {α : Type} {m : Message σ α} (state : ProviderState) (h : Built m) : Built (m.given state)
  | expects {α : Type} {m : Message σ α} (description : String) (h : Built m) :
      Built (m.expects description)
  | setMetadata {α : Type} {m : Message σ α} (entries : List (String × String)) (h : Built m) :
      Built (m.setMetadata entries)
  | setBytes {α : Type} {m : Message σ α} (contentType : String) (data : List UInt8)
      (h : Built m) : Built (m.setBytes contentType data)
  | setBody {α : Type} {m : Message σ α} (contentType : String) (body : List UInt8) (h : Built m) :
      Built (m.setBody contentType body)
  | setJsonBody {α : Type} {m : Message σ α} {content : Except Json.Error Json}
      (hvalue : ∀ value, content = .ok value → value.IsValue) (h : Built m) :
      Built (m.setJsonBody content)
  | decodedAs {α β : Type} {m : Message σ α} (target : Target β) (h : Built m) :
      Built (m.decodedAs target)
  | handledBy {α : Type} {m : Message σ α} (handler : Handler σ α) (h : Built m) :
      Built (m.handledBy handler)

namespace Contents

/-- Contents that are sound if they are structured. -/
def Told (contents : Contents) : Prop :=
  ∀ contentType body, contents = .json contentType body → Sound contentType body

theorem told_setValue {σ α : Type} {m : Message σ α} {contentType : String}
    {content : Except Json.Error Json} (hjson : MediaType.isJson contentType = true)
    (hvalue : ∀ value, content = .ok value → value.IsValue) (htold : m.interaction.contents.Told) :
    (m.setValue contentType content).interaction.contents.Told := by
  unfold Message.setValue
  split
  case h_1 => exact htold
  case h_2 value =>
    split
    case h_1 body hread =>
      intro _ _ heq
      cases heq
      exact sound_of_ofJson hjson (hvalue value rfl) hread
    case h_2 => exact htold

theorem told_bytes (contentType : String) (data : List UInt8) : (bytes contentType data).Told := by
  intro _ _ heq
  cases heq

end Contents

theorem Message.Built.told {σ α : Type} {m : Message σ α} (h : m.Built) :
    m.interaction.contents.Told := by
  induction h with
  | new =>
      intro _ _ heq
      cases heq
  | given _ _ ih | expects _ _ ih | setMetadata _ _ ih | decodedAs _ _ ih | handledBy _ _ ih =>
      exact ih
  | setBytes contentType data => exact Contents.told_bytes contentType data
  | setBody contentType body _ ih =>
      rw [Message.setBody]
      split
      case isTrue hjson =>
        exact Contents.told_setValue hjson
          (fun _ hread => Json.Scan.ensures_run (Json.Scan.ensures_value _) hread) ih
      case isFalse => exact Contents.told_bytes contentType body
  | setJsonBody hvalue _ ih => exact Contents.told_setValue (by decide) hvalue ih

namespace Contents

/-- No contents, and structured contents that have been read from a value or
anywhere in a text, or that a message has been given. -/
inductive Structured : Contents → Prop
  | empty : Structured .empty
  | ofValue {value : Json} {contentType : String} {body : Node}
      (hread : ofJson? value = some (.json contentType body)) : Structured (.json contentType body)
  | ofText {room : Nat} {before after : Json.Cursor} {contentType : String} {body : Node}
      (hread : read room before = (.ok (.json contentType body), after)) :
      Structured (.json contentType body)
  | ofMessage {σ α : Type} {m : Message σ α} {contentType : String} {body : Node} (h : m.Built)
      (hcontents : m.interaction.contents = .json contentType body) :
      Structured (.json contentType body)

theorem sound_of_ofJson? {value : Json} {contentType : String} {body : Node}
    (hread : ofJson? value = some (.json contentType body)) : Sound contentType body := by
  obtain ⟨wire, hwire, hread⟩ := Option.bind_eq_some_iff.mp hread
  exact sound_of_ofWire (WireContents.telling_of_ofJson? hwire) (Outcome.toOption_eq_some.mp hread)

theorem ensures_read (room : Nat) : (read room).Ensures Told := by
  refine Json.Scan.ensures_bind (WireContents.ensures_read room) fun wire htelling => ?_
  split
  case h_1 contents hwire =>
    refine Json.Scan.ensures_pure fun _ _ heq => ?_
    rw [heq] at hwire
    exact sound_of_ofWire htelling hwire
  case h_2 => exact Json.Scan.ensures_raise _

/-- Contents that are read as the same contents are read as they were. -/
theorem ofJson?_toJson_of_same {contents : Contents}
    (hread : contents = .empty ∨ ∃ value, ofJson? value = some contents)
    (hagain : ∃ again, ofJson? contents.toJson.normalize = some again ∧
      again.same contents = true) :
    ofJson? contents.toJson = some contents := by
  cases contents with
  | empty => rfl
  | json contentType body =>
      obtain ⟨value, hread⟩ := hread.resolve_left (by simp)
      exact (sound_of_ofJson? hread).ofJson?_toJson
  | bytes contentType data =>
      obtain ⟨again, hagain, hsame⟩ := hagain
      rw [ofJson?_value] at hagain
      cases again with
      | bytes =>
          simp only [same, Bool.and_eq_true, beq_iff_eq] at hsame
          rw [hagain, hsame.1, hsame.2]
      | _ => cases hsame

/-- Structured contents are read back as they were, from what is written for them
and from the value that stands for it. -/
theorem structured_survives {contents : Contents} (h : contents.Structured) :
    ofJson? contents.toJson = some contents ∧
      ofJson? contents.toJson.normalize = some contents := by
  have hagain : ofJson? contents.toJson = some contents := by
    cases h with
    | empty => rfl
    | ofValue hread => exact (sound_of_ofJson? hread).ofJson?_toJson
    | ofText hread => exact (ensures_read _ _ _ _ hread _ _ rfl).ofJson?_toJson
    | ofMessage h hcontents => exact (h.told _ _ hcontents).ofJson?_toJson
  exact ⟨hagain, readsValue_ofJson? _ _ hagain⟩

/-- A number under a media type of text, as it is read, and a tree with a rule that
a message is given. -/
theorem structured_survives_number_and_rule :
    let number := json "text/plain" (.number (.integer 5))
    let rule := json MediaType.json
      (.matched (.sameType (some 1) none) (some (.array [.string "A-1"])) none [])
    (number.Structured ∧ ofJson? number.toJson = some number ∧
      ofJson? number.toJson.normalize = some number) ∧
    rule.Structured ∧ ofJson? rule.toJson = some rule ∧
      ofJson? rule.toJson.normalize = some rule := by
  intro number rule
  have hnumber : number.Structured := by
    let value := Json.object [("content", .int 5), ("contentType", .string "text/plain")]
    have hread : ofJson? value = some number := rfl
    exact .ofValue hread
  have hrule : rule.Structured := by
    let settings : Settings :=
      { consumer := "shop", provider := "stock", directory := "pacts", logLevel := "warn" }
    let session : Session := { settings, slot := 0 }
    let value := Json.object [("min", .int 1), ("pact:matcher:type", .string "type"),
      ("value", .array [.string "A-1"])]
    let start : Message Unit Json := session.message (anyTarget "value")
    have hbuilt : (start.setJsonBody (.ok value)).Built := by
      refine .setJsonBody ?_ (.new session _)
      intro written hwritten
      cases hwritten
      rfl
    exact .ofMessage hbuilt rfl
  exact ⟨⟨hnumber, structured_survives hnumber⟩, hrule, structured_survives hrule⟩

end Contents

end MessageContract
