import MessageContract.Proofs.Contents.Structured
import MessageContract.Proofs.Contract.ReadsBack
import MessageContract.Proofs.Interaction.Written
import MessageContract.Proofs.Node.Depth

/-!
How deep a contract nests. An entry that was read from a file is written no deeper
than it was read, so that it has room in the file again.
-/

namespace MessageContract

namespace Json

open Fields (present)

variable {inner room : Nat} {names : List String} {value : Json} {known : List (Option Json)}

/-- The fields of a record lie one level further in. -/
theorem within_of_fieldsOf? (hvalue : value.Within room)
    (hread : fieldsOf? names value = some known) :
    ∃ inner, room = inner + 1 ∧ ∀ field, some field ∈ known → field.Within inner := by
  cases value with
  | array items =>
      obtain ⟨inner, rfl, hitems⟩ := within_array.mp hvalue
      refine ⟨inner, rfl, ?_⟩
      intro field hfield
      rw [fieldsOf?] at hread
      split at hread
      case isTrue =>
        obtain rfl := Option.some.inj hread
        have hmem : field ∈ items := by simpa using hfield
        exact hitems field hmem
      case isFalse => cases hread
  | object members =>
      obtain ⟨inner, rfl, hmembers⟩ := within_object.mp hvalue
      refine ⟨inner, rfl, ?_⟩
      intro field hfield
      rw [fieldsOf?] at hread
      split at hread
      case isTrue =>
        obtain rfl := Option.some.inj hread
        obtain ⟨name, -, hget⟩ := List.mem_map.mp hfield
        exact hmembers _ (Fields.mem_of_get? hget)
      case isFalse => cases hread
  | _ => cases hread

/-- What is made of members that lie somewhere lies there too. -/
theorem within_ofList {members : Fields Json} (h : ∀ member ∈ members, member.2.Within inner) :
    ∀ member ∈ Fields.ofList (normalizeMembers members), member.2.Within inner := by
  intro member hmember
  rw [normalizeMembers_eq] at hmember
  have hmem := (Fields.mem_overlay hmember).resolve_left List.not_mem_nil
  obtain ⟨found, hfound, rfl⟩ := List.mem_map.mp hmem
  exact (h found hfound).normalize

theorem within_of_openFieldsOf? {others : Fields Json} (hvalue : value.Within room)
    (hread : openFieldsOf? names value = some (known, others)) :
    ∃ inner, room = inner + 1 ∧ (∀ field, some field ∈ known → field.Within inner) ∧
      ∀ member ∈ others, member.2.Within inner := by
  cases value with
  | object members =>
      obtain ⟨found, hfound, hrest⟩ := Option.bind_eq_some_iff.mp hread
      obtain ⟨rfl, rfl⟩ := Prod.mk.inj (Option.some.inj hrest)
      obtain ⟨inner, rfl, hknown⟩ := within_of_fieldsOf? hvalue hfound
      refine ⟨inner, rfl, hknown, within_ofList ?_⟩
      obtain ⟨_, hroom, hmembers⟩ := within_object.mp hvalue
      obtain rfl := Nat.succ.inj hroom
      intro member hmember
      exact hmembers member (List.mem_filter.mp hmember).1
  | _ => cases hread

theorem within_of_fields? {fields : Fields Json} (hvalue : value.Within room)
    (hread : fields? value = some fields) : (Json.object fields).Within room := by
  cases value with
  | object members =>
      obtain ⟨inner, rfl, hmembers⟩ := within_object.mp hvalue
      obtain rfl := Option.some.inj hread
      exact within_object.mpr ⟨inner, rfl, within_ofList hmembers⟩
  | _ => cases hread

theorem mem_present {parts : List (String × Option Json)} {field : String × Json} :
    field ∈ present parts ↔ (field.1, some field.2) ∈ parts := by
  rw [present, List.mem_filterMap]
  constructor
  · rintro ⟨⟨key, found⟩, hpart, hfield⟩
    obtain ⟨v, rfl, rfl⟩ := Option.map_eq_some_iff.mp hfield
    exact hpart
  · intro hpart
    exact ⟨_, hpart, rfl⟩

/-- A record needs a level more than its parts and its other members. -/
theorem within_record {parts : List (String × Option Json)} {others : Fields Json} :
    (Json.object (present parts ++ others)).Within (inner + 1) ↔
      (∀ part ∈ parts, ∀ v ∈ part.2, v.Within inner) ∧
        ∀ member ∈ others, member.2.Within inner := by
  rw [within_object]
  constructor
  · rintro ⟨_, hroom, hmembers⟩
    obtain rfl := Nat.succ.inj hroom
    constructor
    · rintro ⟨key, found⟩ hpart v rfl
      exact hmembers (key, v) (List.mem_append_left _ (mem_present.mpr hpart))
    · exact fun member hmember => hmembers member (List.mem_append_right _ hmember)
  · rintro ⟨hparts, hothers⟩
    refine ⟨inner, rfl, ?_⟩
    intro member hmember
    rcases List.mem_append.mp hmember with hpart | hother
    · exact hparts _ (mem_present.mp hpart) member.2 rfl
    · exact hothers member hother

theorem mem_unlessEmpty {empty : Bool} {value v : Json} :
    v ∈ unlessEmpty empty value ↔ empty = false ∧ v = value := by
  cases empty <;> simp [unlessEmpty, eq_comm]

/-- Leaving out a part that is empty makes no room for it. -/
theorem within_unlessEmpty {empty : Bool} {value : Json}
    (hempty : empty = true → value.Within room) :
    (∀ v ∈ unlessEmpty empty value, v.Within room) ↔ value.Within room := by
  simp only [mem_unlessEmpty]
  constructor
  · intro hpart
    cases hleft : empty with
    | true => exact hempty hleft
    | false => exact hpart value ⟨hleft, rfl⟩
  · rintro h v ⟨-, rfl⟩
    exact h

theorem within_some {value : Json} (hvalue : value.Within room) :
    ∀ v ∈ some value, v.Within room := by
  intro v hv
  rwa [← Option.some.inj hv]

end Json

open Json (Within orDefault)

variable {room : Nat}

namespace WireContents

theorem within_toJson {wire : WireContents} :
    wire.toJson.Within (room + 1) ↔ ∀ v ∈ wire.content, v.Within room := by
  have hencoding : wire.encoding.toJson.Within room := by
    cases wire.encoding with
    | flag base64 => exact Json.within_bool base64
    | scheme name => exact Json.within_string name
  have hcontentType : ∀ v ∈ wire.contentType.map Json.string, v.Within room := by
    intro v hv
    obtain ⟨text, -, rfl⟩ := Option.map_eq_some_iff.mp hv
    exact Json.within_string text
  rw [toJson_eq, Json.within_record, parts]
  constructor
  · rintro ⟨hparts, -⟩
    exact hparts _ List.mem_cons_self
  · intro hcontent
    refine ⟨?_, List.forall_mem_nil _⟩
    simp only [List.forall_mem_cons, List.not_mem_nil, IsEmpty.forall_iff, implies_true, and_true]
    exact ⟨hcontent, hcontentType, Json.within_some hencoding⟩

theorem within_of_ofJson? {value : Json} {wire : WireContents} (hvalue : value.Within (room + 1))
    (hread : ofJson? value = some wire) : ∀ v ∈ wire.content, v.Within room := by
  obtain ⟨content, _, _, hknown, hcontent, -, -⟩ := ofJson?_eq_some.mp hread
  obtain ⟨_, hroom, hfields⟩ := Json.within_of_fieldsOf? hvalue hknown
  obtain rfl := Nat.succ.inj hroom
  intro v hv
  rw [show wire.content = some v from hv] at hcontent
  cases content with
  | none => cases hcontent
  | some written =>
      have hwritten := (hfields written List.mem_cons_self).normalize
      cases written with
      | null => cases hcontent
      | _ =>
          obtain rfl := Option.some.inj (Option.some.inj hcontent)
          exact hwritten

end WireContents

namespace Contents

/-- Contents are written no deeper than they were read. -/
theorem within_of_ofWire {wire : WireContents} {contents : Contents}
    (hwire : ∀ v ∈ wire.content, v.Within room) (hread : ofWire wire = .ok contents) :
    ∀ v ∈ contents.toWire.content, v.Within room := by
  intro v hv
  cases contents with
  | empty => cases hv
  | bytes contentType data =>
      rw [toWire] at hv
      split at hv
      all_goals
        obtain rfl := Option.some.inj hv
        exact Json.within_string _
  | json contentType body =>
      obtain rfl := Option.some.inj hv
      obtain ⟨-, rfl | ⟨text, rfl⟩⟩ | ⟨value, hvalue, hbody, -⟩ := ofWire_eq_json hread
      · exact Json.within_null
      · exact Json.within_string text
      · exact Node.within_of_ofJson (hwire value hvalue) hbody

theorem within_of_ofJson? {value : Json} {contents : Contents} (hvalue : value.Within (room + 1))
    (hread : ofJson? value = some contents) : ∀ v ∈ contents.toWire.content, v.Within room := by
  obtain ⟨wire, hwire, hcontents⟩ := Option.bind_eq_some_iff.mp hread
  exact within_of_ofWire (WireContents.within_of_ofJson? hvalue hwire)
    (Outcome.toOption_eq_some.mp hcontents)

end Contents

namespace ProviderState

theorem within_toJson {state : ProviderState} :
    state.toJson.Within (room + 2) ↔ ∀ field ∈ state.params, field.2.Within room := by
  have hparams : (∀ v ∈ Json.unlessEmpty state.params.isEmpty (.object state.params),
      v.Within (room + 1)) ↔ ∀ field ∈ state.params, field.2.Within room := by
    have hobject : (Json.object state.params).Within (room + 1) ↔
        ∀ field ∈ state.params, field.2.Within room := by
      simp [Json.within_object]
    rw [Json.within_unlessEmpty, hobject]
    intro hempty
    rw [hobject, List.isEmpty_iff.mp hempty]
    exact List.forall_mem_nil _
  rw [toJson_eq, Json.within_record, ← hparams, parts]
  simp only [List.forall_mem_cons, List.not_mem_nil, IsEmpty.forall_iff, implies_true, and_true]
  exact and_iff_right (Json.within_some (Json.within_string _))

theorem within_of_ofJson? {value : Json} {state : ProviderState} (hvalue : value.Within (room + 2))
    (hread : ofJson? value = some state) : ∀ field ∈ state.params, field.2.Within room := by
  obtain ⟨_, params, hknown, -, hparams⟩ := ofJson?_eq_some.mp hread
  obtain ⟨_, hroom, hfields⟩ := Json.within_of_fieldsOf? hvalue hknown
  obtain rfl := Nat.succ.inj hroom
  cases params with
  | none =>
      rw [← Option.some.inj hparams]
      exact List.forall_mem_nil _
  | some params =>
      have hobject := Json.within_of_fields? (hfields params (by simp)) hparams
      obtain ⟨_, hroom, hwithin⟩ := Json.within_object.mp hobject
      obtain rfl := Nat.succ.inj hroom
      exact hwithin

end ProviderState

namespace Interaction

/-- How deep the parts of an interaction may nest for the room that there is. -/
theorem within_toJson {i : Interaction} :
    i.toJson.Within (room + 4) ↔
      (∀ v ∈ i.contents.toWire.content, v.Within (room + 2)) ∧
        (∀ state ∈ i.states, ∀ field ∈ state.params, field.2.Within room) ∧
        ∀ member ∈ i.extra, member.2.Within (room + 3) := by
  have hstates : (∀ v ∈ Json.unlessEmpty i.states.isEmpty
      (.array (i.states.map ProviderState.toJson)), v.Within (room + 3)) ↔
        ∀ state ∈ i.states, ∀ field ∈ state.params, field.2.Within room := by
    have harray : (Json.array (i.states.map ProviderState.toJson)).Within (room + 3) ↔
        ∀ state ∈ i.states, ∀ field ∈ state.params, field.2.Within room := by
      simp [Json.within_array, ProviderState.within_toJson]
    rw [Json.within_unlessEmpty, harray]
    intro hempty
    rw [harray, List.isEmpty_iff.mp hempty]
    exact List.forall_mem_nil _
  have hcontents : (∀ v ∈ Json.unlessEmpty i.contents.isEmpty i.contents.toJson,
      v.Within (room + 3)) ↔ ∀ v ∈ i.contents.toWire.content, v.Within (room + 2) := by
    rw [← WireContents.within_toJson]
    apply Json.within_unlessEmpty
    intro hempty
    cases hcontents : i.contents with
    | empty => exact WireContents.within_toJson.mpr fun v hv => absurd hv (Option.not_mem_none v)
    | _ => rw [hcontents] at hempty; cases hempty
  have hmetadata : ∀ v ∈ Json.unlessEmpty i.metadata.isEmpty
      (.object (i.metadata.mapValues .string)), v.Within (room + 3) := by
    intro v hv
    obtain ⟨-, rfl⟩ := Json.mem_unlessEmpty.mp hv
    refine Json.within_object.mpr ⟨_, rfl, ?_⟩
    intro member hmember
    obtain ⟨_, -, rfl⟩ := List.mem_map.mp hmember
    exact Json.within_string _
  rw [toJson_eq, Json.within_record, ← hstates, ← hcontents, parts]
  simp only [List.forall_mem_cons, List.not_mem_nil, IsEmpty.forall_iff, implies_true, and_true]
  constructor
  · rintro ⟨⟨-, -, hstatesPart, hcontentsPart, -⟩, hextra⟩
    exact ⟨hcontentsPart, hstatesPart, hextra⟩
  · rintro ⟨hcontentsPart, hstatesPart, hextra⟩
    exact ⟨⟨Json.within_some (Json.within_string _), Json.within_some (Json.within_string _),
      hstatesPart, hcontentsPart, hmetadata⟩, hextra⟩

/-- An interaction is written no deeper than it was read. -/
theorem within_of_ofJson? {value : Json} {i : Interaction} (hvalue : value.Within (room + 4))
    (hread : ofJson? value = some i) : i.toJson.Within (room + 4) := by
  obtain ⟨_, _, states, contents, _, hknown, -, -, hstates, hcontents, -⟩ :=
    ofJson?_eq_some.mp hread
  obtain ⟨_, hroom, hfields, hextra⟩ := Json.within_of_openFieldsOf? hvalue hknown
  obtain rfl := Nat.succ.inj hroom
  refine within_toJson.mpr ⟨?_, ?_, hextra⟩
  · cases contents with
    | none =>
        rw [← Option.some.inj hcontents]
        intro v hv
        cases hv
    | some contents => exact Contents.within_of_ofJson? (hfields contents (by simp)) hcontents
  · cases states with
    | none =>
        rw [← Option.some.inj hstates]
        exact List.forall_mem_nil _
    | some states =>
        obtain ⟨items, hitems, hmap⟩ := Option.bind_eq_some_iff.mp hstates
        obtain rfl := Json.items?_eq_some.mp hitems
        obtain ⟨_, hroom, hwithin⟩ := Json.within_array.mp (hfields (.array items) (by simp))
        obtain rfl := Nat.succ.inj hroom
        intro state hstate
        obtain ⟨item, hitem, hstateRead⟩ := Outcome.mem_of_mapM hmap state hstate
        exact ProviderState.within_of_ofJson? (hwithin item hitem) hstateRead

end Interaction

/-- An entry is written no deeper than it was read. -/
theorem Entry.within_ofJson {value : Json} (hvalue : value.Within (room + 4)) :
    (ofJson value).toJson.Within (room + 4) := by
  unfold ofJson
  split
  case h_1 i hread => exact Interaction.within_of_ofJson? hvalue hread
  case h_2 => exact hvalue.normalize

end MessageContract
