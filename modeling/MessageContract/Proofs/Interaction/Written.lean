import MessageContract.Interaction.Reader
import MessageContract.Proofs.Contents.Wire

/-!
Preconditions and interactions, written and read back. What is empty is left out
and read as its default; the members of other tools stand apart from an
interaction's own, and are read as they are.
-/

namespace MessageContract

open Json (orDefault unlessEmpty ReadsValue)

namespace ProviderState

/-- What has been found when a precondition is read. -/
theorem ofJson?_eq_some {value : Json} {state : ProviderState} :
    ofJson? value = some state ↔
      ∃ name params, Json.fieldsOf? ["name", "params"] value = some [some name, params] ∧
        name.string? = some state.name ∧ orDefault [] Json.fields? params = some state.params := by
  constructor
  · intro hread
    obtain ⟨known, hknown, hread⟩ := Option.bind_eq_some_iff.mp hread
    split at hread
    case h_1 name params =>
      obtain ⟨a, ha, hread⟩ := Option.bind_eq_some_iff.mp hread
      obtain ⟨b, hb, hread⟩ := Option.bind_eq_some_iff.mp hread
      obtain rfl := Option.some.inj hread
      exact ⟨name, params, hknown, ha, hb⟩
    case h_2 => cases hread
  · rintro ⟨name, params, hknown, hname, hparams⟩
    simp only [ofJson?, hknown, hname, hparams, Option.bind_eq_bind, Option.bind_some]
    rfl

theorem readsValue_ofJson? : ReadsValue ofJson? := by
  intro value state hread
  obtain ⟨name, params, hknown, hname, hparams⟩ := ofJson?_eq_some.mp hread
  exact ofJson?_eq_some.mpr ⟨_, _, Json.fieldsOf?_normalize hknown,
    Json.readsValue_string? _ _ hname, Json.readsValue_fields?.orDefault hparams⟩

/-- The parameters are values. -/
def Sound (state : ProviderState) : Prop :=
  (Json.object state.params).IsValue

theorem sound_of_ofJson? {value : Json} {state : ProviderState}
    (hread : ofJson? value = some state) : state.Sound := by
  obtain ⟨name, params, -, -, hparams⟩ := ofJson?_eq_some.mp hread
  cases params with
  | none =>
      rw [Sound, ← Option.some.inj hparams]
      rfl
  | some params => exact Json.isValue_of_fields? hparams

/-- The parts of the object that is written. -/
def parts (state : ProviderState) : List (String × Option Json) :=
  [("name", some (.string state.name)),
    ("params", unlessEmpty state.params.isEmpty (.object state.params))]

theorem toJson_eq (state : ProviderState) :
    state.toJson = .object (Fields.present state.parts ++ []) := by
  rw [toJson, parts, unlessEmpty]
  cases state.params.isEmpty <;> rfl

theorem apart_parts (state : ProviderState) : Fields.Apart state.parts [] where
  keys := by
    have hkeys : state.parts.map Prod.fst = ["name", "params"] := rfl
    rw [hkeys]
    decide
  others := fun _ _ => rfl

theorem Sound.ofJson?_toJson {state : ProviderState} (h : state.Sound) :
    ofJson? state.toJson = some state := by
  rw [toJson_eq]
  refine ofJson?_eq_some.mpr ⟨_, _, Json.fieldsOf?_present state.apart_parts, rfl, ?_⟩
  exact Json.orDefault_unlessEmpty (fun hempty => (List.isEmpty_iff.mp hempty).symm)
    (Json.fields?_of_isValue h)

end ProviderState

namespace Interaction

/-- What has been found when an interaction is read. -/
theorem ofJson?_eq_some {value : Json} {i : Interaction} :
    ofJson? value = some i ↔
      ∃ kind description states contents metadata,
        Json.openFieldsOf? fieldNames value =
          some ([kind, description, states, contents, metadata], i.extra) ∧
        (kind.map isTag).getD true = true ∧
        orDefault "" Json.string? description = some i.description ∧
        orDefault [] (fun v => do (← v.items?).mapM ProviderState.ofJson?) states =
          some i.states ∧
        orDefault .empty Contents.ofJson? contents = some i.contents ∧
        orDefault [] Json.stringFields? metadata = some i.metadata := by
  constructor
  · intro hread
    obtain ⟨known, hknown, hread⟩ := Option.bind_eq_some_iff.mp hread
    split at hread
    case h_1 kind description states contents metadata extra =>
      split at hread
      case isTrue hkind =>
        obtain ⟨a, ha, hread⟩ := Option.bind_eq_some_iff.mp hread
        obtain ⟨b, hb, hread⟩ := Option.bind_eq_some_iff.mp hread
        obtain ⟨c, hc, hread⟩ := Option.bind_eq_some_iff.mp hread
        obtain ⟨d, hd, hread⟩ := Option.bind_eq_some_iff.mp hread
        obtain rfl := Option.some.inj hread
        exact ⟨kind, description, states, contents, metadata, hknown, hkind, ha, hb, hc, hd⟩
      case isFalse => cases hread
    case h_2 => cases hread
  · rintro ⟨kind, description, states, contents, metadata, hknown, hkind, hdescription, hstates,
      hcontents, hmetadata⟩
    simp only [Option.bind_eq_bind] at hstates
    simp only [ofJson?, hknown, hkind, hdescription, hstates, hcontents, hmetadata,
      Option.bind_eq_bind, Option.bind_some, if_true]
    rfl

theorem isTag_normalize {value : Json} (h : isTag value = true) : isTag value.normalize = true := by
  cases value with
  | string => exact h
  | object members =>
      rcases members with _ | ⟨⟨name, value⟩, _ | ⟨_, _⟩⟩
      · cases h
      · cases value with
        | null => exact h
        | _ => cases h
      · cases value <;> cases h
  | _ => cases h

theorem readsValue_ofJson? : ReadsValue ofJson? := by
  intro value i hread
  obtain ⟨kind, description, states, contents, metadata, hknown, hkind, hdescription, hstates,
    hcontents, hmetadata⟩ := ofJson?_eq_some.mp hread
  refine ofJson?_eq_some.mpr ⟨_, _, _, _, _, Json.openFieldsOf?_normalize hknown, ?_,
    Json.readsValue_string?.orDefault hdescription,
    (Json.readsValue_items? ProviderState.readsValue_ofJson?).orDefault hstates,
    Contents.readsValue_ofJson?.orDefault hcontents,
    Json.readsValue_stringFields?.orDefault hmetadata⟩
  cases kind with
  | none => rfl
  | some kind => exact isTag_normalize hkind

/-- What every interaction that is read holds: its parts are values, and no member
of other tools is called like one of its own. -/
structure Sound (i : Interaction) : Prop where
  states : ∀ state ∈ i.states, state.Sound
  metadata : Fields.Sorted i.metadata
  extra : (Json.object i.extra).IsValue
  apart : ∀ name ∈ fieldNames, Fields.get? name i.extra = none

theorem sound_of_ofJson? {value : Json} {i : Interaction} (hread : ofJson? value = some i) :
    i.Sound := by
  obtain ⟨kind, description, states, contents, metadata, hknown, -, -, hstates, -, hmetadata⟩ :=
    ofJson?_eq_some.mp hread
  obtain ⟨hextra, hapart⟩ := Json.openFieldsOf?_others hknown
  refine ⟨?_, ?_, hextra, hapart⟩
  · cases states with
    | none =>
        rw [← Option.some.inj hstates]
        intro state hstate
        cases hstate
    | some states =>
        obtain ⟨items, -, hitems⟩ := Option.bind_eq_some_iff.mp hstates
        intro state hstate
        obtain ⟨item, -, hitem⟩ := Outcome.mem_of_mapM hitems state hstate
        exact ProviderState.sound_of_ofJson? hitem
  · cases metadata with
    | none =>
        rw [← Option.some.inj hmetadata]
        exact List.Pairwise.nil
    | some metadata =>
        obtain ⟨entries, -, hentries⟩ := Json.stringFields?_eq_some.mp hmetadata
        rw [hentries]
        exact Fields.sorted_ofList entries

/-- Contents have been read themselves unless they were left out. -/
theorem contents_of_ofJson? {value : Json} {i : Interaction} (hread : ofJson? value = some i) :
    i.contents = .empty ∨ ∃ written, Contents.ofJson? written = some i.contents := by
  obtain ⟨_, _, _, contents, _, -, -, -, -, hcontents, -⟩ := ofJson?_eq_some.mp hread
  cases contents with
  | none => exact .inl (Option.some.inj hcontents).symm
  | some contents => exact .inr ⟨contents, hcontents⟩

/-- The parts of the object that is written. -/
def parts (i : Interaction) : List (String × Option Json) :=
  [("type", some (.string tag)), ("description", some (.string i.description)),
    ("providerStates",
      unlessEmpty i.states.isEmpty (.array (i.states.map ProviderState.toJson))),
    ("contents", unlessEmpty i.contents.isEmpty i.contents.toJson),
    ("metadata", unlessEmpty i.metadata.isEmpty (.object (i.metadata.mapValues .string)))]

theorem toJson_eq (i : Interaction) : i.toJson = .object (Fields.present i.parts ++ i.extra) := by
  simp only [toJson, parts, unlessEmpty]
  cases i.states.isEmpty <;> cases i.contents.isEmpty <;> cases i.metadata.isEmpty <;> rfl

theorem Sound.apart_parts {i : Interaction} (h : i.Sound) : Fields.Apart i.parts i.extra where
  keys := by
    have hkeys : i.parts.map Prod.fst = fieldNames := rfl
    rw [hkeys]
    decide
  others := h.apart

/-- In the value of a message, the contents and the preconditions are objects with no members
but those that are theirs. -/
structure Bare (value : Json) : Prop where
  contents : ∀ contents, value.member? "contents" = some contents →
    contents.HasOnly WireContents.fieldNames
  states : ∀ states, value.member? "providerStates" = some states →
    ∃ items, states = .array items ∧ ∀ item ∈ items, item.HasOnly ["name", "params"]

/-- Other members are kept beside the parts of an interaction and not within them. -/
theorem Sound.bare {i : Interaction} (h : i.Sound) : Bare i.toJson.normalize := by
  have hcontentsPart :
      ("contents", unlessEmpty i.contents.isEmpty i.contents.toJson) ∈ i.parts := by simp [parts]
  have hstatesPart : ("providerStates",
      unlessEmpty i.states.isEmpty (.array (i.states.map ProviderState.toJson))) ∈ i.parts := by
    simp [parts]
  have hcontents := Json.member?_present h.apart_parts hcontentsPart
  have hstates := Json.member?_present h.apart_parts hstatesPart
  rw [← toJson_eq] at hcontents hstates
  constructor
  case contents =>
    intro contents hfound
    obtain ⟨written, hwritten, rfl⟩ := Option.map_eq_some_iff.mp (hcontents.symm.trans hfound)
    obtain ⟨-, rfl⟩ := Json.unlessEmpty_eq_some.mp hwritten
    rw [Contents.toJson, WireContents.toJson_eq]
    exact Json.hasOnly_present _
  case states =>
    intro states hfound
    obtain ⟨written, hwritten, rfl⟩ := Option.map_eq_some_iff.mp (hstates.symm.trans hfound)
    obtain ⟨-, rfl⟩ := Json.unlessEmpty_eq_some.mp hwritten
    refine ⟨_, Json.normalize_array _, ?_⟩
    intro item hitem
    rw [List.map_map] at hitem
    obtain ⟨state, -, rfl⟩ := List.mem_map.mp hitem
    rw [Function.comp_apply, ProviderState.toJson_eq]
    exact Json.hasOnly_present _

/-- An interaction is read back with what is read back of its contents. -/
theorem Sound.ofJson?_toJson {i : Interaction} (h : i.Sound) {again : Contents}
    (hcontents : Contents.ofJson? i.contents.toJson = some again) :
    ofJson? i.toJson = some { i with contents := again } := by
  have hknown := Json.openFieldsOf?_present h.apart_parts
  rw [← toJson_eq] at hknown
  have hextra : Fields.ofList (Json.normalizeMembers i.extra) = i.extra := Json.object.inj h.extra
  rw [hextra] at hknown
  refine ofJson?_eq_some.mpr ⟨_, _, _, _, _, hknown, by decide, rfl, ?_, ?_, ?_⟩
  · refine Json.orDefault_unlessEmpty (fun hempty => (List.isEmpty_iff.mp hempty).symm) ?_
    apply Outcome.mapM_eq_some_iff.mpr
    rw [List.forall₂_map_left_iff, List.forall₂_same]
    exact fun state hstate => (h.states state hstate).ofJson?_toJson
  · refine Json.orDefault_unlessEmpty (fun hempty => ?_) hcontents
    cases hsource : i.contents with
    | empty =>
        rw [hsource] at hcontents
        exact Option.some.inj hcontents
    | _ => simp [hsource, Contents.isEmpty] at hempty
  · refine Json.orDefault_unlessEmpty (fun hempty => (List.isEmpty_iff.mp hempty).symm) ?_
    exact Json.stringFields?_eq_some.mpr
      ⟨i.metadata, rfl, (Fields.ofList_of_sorted h.metadata).symm⟩

end Interaction

end MessageContract
