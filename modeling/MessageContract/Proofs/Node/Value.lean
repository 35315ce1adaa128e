import MessageContract.Proofs.Json.Value
import MessageContract.Proofs.Node.Codec

/-!
A content tree that was read of a value is written as a value: its objects and the
attributes of its matched nodes are maps.
-/

namespace MessageContract

namespace Rule

/-- What adding a member keeps, a rule keeps that writes its attributes. -/
theorem write_keeps {P : Fields Json → Prop} {Q : Json → Prop}
    (hinsert : ∀ key value fields, Q value → P fields → P (Fields.insert key value fields))
    (hstring : ∀ text, Q (.string text)) (hcount : ∀ n, Q (countJson n)) (rule : Rule)
    {attributes : Fields Json} (h : P attributes) : P (rule.write attributes) := by
  have hadd {α : Type} {f : α → Json} (hvalue : ∀ a, Q (f a)) (key : String) (value : Option α)
      {fields : Fields Json} (hfields : P fields) :
      P (Fields.insert? key (value.map f) fields) := by
    cases value with
    | none => exact hfields
    | some a => exact hinsert _ _ _ (hvalue a) hfields
  cases rule with
  | sameType min max => exact hadd hcount _ max (hadd hcount _ min h)
  | regex pattern => exact hinsert _ _ _ (hstring pattern) h
  | timestamp format word | date format | time format => exact hadd hstring _ format h
  | _ => exact h

end Rule

namespace Node

/-- What adding a member keeps, the object of a matched node has. -/
theorem matchedJson_keeps {P : Fields Json → Prop} {Q : Json → Prop}
    (hinsert : ∀ key value fields, Q value → P fields → P (Fields.insert key value fields))
    (hstring : ∀ text, Q (.string text)) (hcount : ∀ n, Q (Rule.countJson n)) (rule : Rule)
    {sample : Option Json} (generator : Option String) {attributes : Fields Json}
    (hsample : ∀ v ∈ sample, Q v) (hattributes : P attributes) :
    ∃ members, matchedJson rule sample generator attributes = .object members ∧ P members := by
  have hkind := hinsert matcherKey _ _ (hstring rule.kind)
    (rule.write_keeps hinsert hstring hcount hattributes)
  refine ⟨_, rfl, ?_⟩
  cases sample with
  | none =>
      cases generator with
      | none => exact hkind
      | some hint => exact hinsert _ _ _ (hstring hint) hkind
  | some value =>
      have hvalue := hinsert sampleKey value _ (hsample value rfl) hkind
      cases generator with
      | none => exact hvalue
      | some hint => exact hinsert _ _ _ (hstring hint) hvalue

theorem isValue_matchedJson {rule : Rule} {sample : Option Json} {generator : Option String}
    {attributes : Fields Json} (hsample : ∀ v ∈ sample, v.IsValue)
    (hattributes : (Json.object attributes).IsValue) :
    (matchedJson rule sample generator attributes).IsValue := by
  obtain ⟨members, hmembers, hvalue⟩ := matchedJson_keeps
    (P := fun members => (Json.object members).IsValue)
    (fun _ _ _ => Json.isValue_object_insert) (fun _ => rfl) (fun _ => rfl) rule generator
    hsample hattributes
  rw [hmembers]
  exact hvalue

/-- The attributes that are left for others have all been members. -/
theorem attributes_sublist {members rest attributes : Fields Json} {kind : String}
    {generator : Option String} {rule : Rule}
    (hgenerator : takeGenerator (Fields.erase sampleKey (Fields.erase matcherKey members)) =
      .ok (generator, rest))
    (hrule : Rule.read kind rest = .ok (rule, attributes)) : attributes.Sublist members := by
  have hrest : rest.Sublist members := by
    rw [(takeGenerator_eq_ok_iff.mp hgenerator).2]
    exact List.filter_sublist.trans (List.filter_sublist.trans List.filter_sublist)
  rw [(Rule.read_eq_ok hrule).2.2]
  exact List.filter_sublist.trans hrest

/-- What was read of a value is written as a value. The induction is over the value, as its
parts are values. -/
theorem isValue_of_ofJson (value : Json) {node : Node} (hvalue : value.IsValue)
    (h : ofJson value = .ok node) : node.toJson.IsValue := by
  induction value using Json.induction generalizing node with
  | null | bool | number | string =>
      cases h
      rfl
  | array items ih =>
      obtain ⟨nodes, rfl, hitems⟩ := ofJson_array_eq_ok h
      rw [toJson, Json.isValue_array, itemsJson_eq, List.forall_mem_map]
      intro node hnode
      obtain ⟨item, hitem, hread⟩ := Outcome.exists_of_forall₂ hitems.flip node hnode
      exact ih item hitem (Json.isValue_array.mp hvalue item hitem) hread
  | object members ih =>
      obtain ⟨hsorted, hvalues⟩ := Json.isValue_object.mp hvalue
      obtain ⟨-, nodes, rfl, hmembers⟩ |
        ⟨kind, rule, sample, generator, attributes, rest, -, rfl, hsample, hgenerator, hrule⟩ :=
        ofJson_object_eq_ok h
      · have hkeys := Fields.keys_eq_of_forall₂ (hmembers.imp fun _ _ h => h.1)
        rw [toJson, Json.isValue_object, membersJson_eq]
        refine ⟨?_, List.forall_mem_map.mpr ?_⟩
        · rwa [Fields.sorted_mapValues, Fields.sorted_iff_keys, hkeys, ← Fields.sorted_iff_keys]
        · intro node hnode
          obtain ⟨member, hmember, -, hread⟩ :=
            Outcome.exists_of_forall₂ hmembers.flip node hnode
          exact ih member hmember (hvalues member hmember) hread
      · refine isValue_matchedJson ?_
          (Json.isValue_object_sublist (attributes_sublist hgenerator hrule) hvalue)
        obtain ⟨-, rfl⟩ | ⟨value, node, hget, hread, rfl⟩ := sampleOf_eq_ok hsample
        · exact fun v hv => absurd hv (Option.not_mem_none v)
        · have hmember := Fields.mem_of_get? hget
          rintro v ⟨⟩
          exact ih _ hmember (hvalues _ hmember) hread

end Node

end MessageContract
