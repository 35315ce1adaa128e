import MessageContract.Proofs.Fields
import MessageContract.Proofs.Node.Bounded

/-!
Where concrete content comes from. Rules stand for their examples, and what a rule keeps
for others gets nowhere; so each object in content that has been made concrete is what one
plain object of the tree has become, and has the keys of that object.
-/

namespace MessageContract

namespace Json

/-- A value has itself and, at any depth, its items and members. -/
inductive Has : Json → Json → Prop
  | refl (value : Json) : Has value value
  | item {items : List Json} {item found : Json} (hitem : item ∈ items) (h : Has item found) :
      Has (.array items) found
  | member {members : Fields Json} {member : String × Json} {found : Json}
      (hmember : member ∈ members) (h : Has member.2 found) : Has (.object members) found

theorem array_has_object {items : List Json} {made : Fields Json} :
    Has (.array items) (.object made) ↔ ∃ item ∈ items, item.Has (.object made) := by
  constructor
  · intro h
    cases h with
    | item hitem h => exact ⟨_, hitem, h⟩
  · rintro ⟨item, hitem, h⟩
    exact .item hitem h

theorem object_has_object {members made : Fields Json} :
    Has (.object members) (.object made) ↔
      members = made ∨ ∃ member ∈ members, member.2.Has (.object made) := by
  constructor
  · intro h
    cases h with
    | refl => exact .inl rfl
    | member hmember h => exact .inr ⟨_, hmember, h⟩
  · rintro (rfl | ⟨member, hmember, h⟩)
    · exact .refl _
    · exact .member hmember h

end Json

open Traced

namespace Rule

/-- A value of a rule is the one of its example, or such an array with its items repeated
or dropped. -/
theorem settle_cases {engine : PatternEngine} {rule : Rule} {sample : Node} {value result : Json}
    (h : (rule.settle engine sample value).outcome = .ok result) :
    result = value ∨ ∃ items count, value = .array items ∧ result = .array (cycle items count) := by
  unfold settle at h
  split at h
  case h_2 =>
    rw [outcome_boundedArray] at h
    split at h
    · cases h
    · exact .inr ⟨_, _, rfl, (Except.ok.inj h).symm⟩
  case h_3 pattern _ _ =>
    obtain ⟨_, -, h⟩ := Outcome.bind_eq_ok.mp (outcome_bind _ _ ▸ h)
    exact .inl (Except.ok.inj h).symm
  all_goals exact .inl (Except.ok.inj h).symm

theorem has_object_of_settle {engine : PatternEngine} {rule : Rule} {sample : Node}
    {value result : Json} {made : Fields Json}
    (h : (rule.settle engine sample value).outcome = .ok result)
    (hhas : result.Has (.object made)) : value.Has (.object made) := by
  rcases settle_cases h with rfl | ⟨items, count, rfl, rfl⟩
  · exact hhas
  · obtain ⟨item, hitem, hhas⟩ := Json.array_has_object.mp hhas
    exact .item (mem_of_mem_cycle hitem) hhas

/-- What stands in for a missing example has no object in it. -/
theorem canonical_has_no_object {rule : Rule} {value : Json} {made : Fields Json}
    (h : rule.canonical.outcome = .ok value) : ¬value.Has (.object made) := by
  have hdate {format : Option String} {default : String}
      (hdate : (canonicalDate format default).outcome = .ok value) : ¬value.Has (.object made) := by
    unfold canonicalDate at hdate
    split at hdate
    · cases hdate
      nofun
    · cases hdate
  cases rule with
  | timestamp | date | time => exact hdate h
  | _ =>
      cases h
      all_goals nofun

end Rule

namespace Node

/-- Trees by induction, with all items, members and examples at hand. -/
@[elab_as_elim]
theorem induction {motive : Node → Prop} (null : motive .null)
    (bool : ∀ b, motive (.bool b)) (number : ∀ n, motive (.number n))
    (string : ∀ text, motive (.string text))
    (array : ∀ items, (∀ item ∈ items, motive item) → motive (.array items))
    (object : ∀ members : Fields Node, (∀ member ∈ members, motive member.2) →
      motive (.object members))
    (matched : ∀ rule (sample : Option Node) generator attributes,
      (∀ node ∈ sample, motive node) → motive (.matched rule sample generator attributes))
    (node : Node) : motive node :=
  @Node.rec motive (fun items => ∀ item ∈ items, motive item)
    (fun members => ∀ member ∈ members, motive member.2)
    (fun sample => ∀ node ∈ sample, motive node) (fun member => motive member.2)
    null bool number string array object matched
    (fun _ hitem => absurd hitem List.not_mem_nil)
    (fun _ _ hfirst hrest => List.forall_mem_cons.mpr ⟨hfirst, hrest⟩)
    (fun _ hmember => absurd hmember List.not_mem_nil)
    (fun _ _ hfirst hrest => List.forall_mem_cons.mpr ⟨hfirst, hrest⟩)
    nofun
    (fun _ hsample _ hmem => Option.mem_some_iff.mp hmem ▸ hsample)
    (fun _ _ hvalue => hvalue) node

/-- Making a tree concrete leads from one node to another. -/
inductive LeadsTo : Node → Node → Prop
  | refl (node : Node) : LeadsTo node node
  | item {items : List Node} {item found : Node} (hitem : item ∈ items) (h : LeadsTo item found) :
      LeadsTo (.array items) found
  | member {members : Fields Node} {member : String × Node} {found : Node}
      (hmember : member ∈ members) (h : LeadsTo member.2 found) : LeadsTo (.object members) found
  | sample {rule : Rule} {sample found : Node} {generator : Option String}
      {attributes : Fields Json} (h : LeadsTo sample found) :
      LeadsTo (.matched rule (some sample) generator attributes) found

/-- What has become of a matched node is its rule's own value, or is settled from what has
become of its example. -/
theorem concrete_matched_eq_ok {engine : PatternEngine} {rule : Rule} {sample : Option Node}
    {generator : Option String} {attributes : Fields Json} {value : Json}
    (h : ((matched rule sample generator attributes).concrete engine).outcome = .ok value) :
    (sample = none ∧ rule.canonical.outcome = .ok value) ∨
      ∃ node made, sample = some node ∧ (node.concrete engine).outcome = .ok made ∧
        (rule.settle engine node made).outcome = .ok value := by
  cases sample with
  | none =>
      rw [concrete_matched_none] at h
      exact .inl ⟨rfl, h⟩
  | some node =>
      cases hunderstood : rule.isUnderstood with
      | true =>
          rw [concrete_matched_some hunderstood, outcome_bind] at h
          obtain ⟨made, hmade, h⟩ := Outcome.bind_eq_ok.mp h
          exact .inr ⟨node, made, rfl, hmade, h⟩
      | false =>
          obtain ⟨kind, rfl⟩ := Rule.isUnderstood_eq_false.mp hunderstood
          rw [concrete] at h
          cases h

/-- Each object in concrete content is what a plain object of the tree has become. -/
theorem exists_origin {engine : PatternEngine} {node : Node} {value : Json} {made : Fields Json}
    (hvalue : (node.concrete engine).outcome = .ok value) (hhas : value.Has (.object made)) :
    ∃ members, node.LeadsTo (.object members) ∧
      (concrete engine (.object members)).outcome = .ok (.object made) := by
  induction node using Node.induction generalizing value with
  | null | bool | number | string =>
      rw [concrete] at hvalue
      cases hvalue
      cases hhas
  | array items ih =>
      obtain ⟨values, rfl, hvalues⟩ := outcome_concrete_array.mp hvalue
      obtain ⟨value, hmem, hhas⟩ := Json.array_has_object.mp hhas
      obtain ⟨item, hitem, hvalue⟩ := Outcome.exists_of_forall₂ hvalues.flip value hmem
      obtain ⟨members, hleads, hmembers⟩ := ih item hitem hvalue hhas
      exact ⟨members, .item hitem hleads, hmembers⟩
  | object members ih =>
      obtain ⟨values, rfl, hvalues⟩ := outcome_concrete_object.mp hvalue
      rcases Json.object_has_object.mp hhas with rfl | ⟨entry, hmem, hhas⟩
      · exact ⟨members, .refl _, hvalue⟩
      · obtain ⟨member, hmember, -, hentry⟩ := Outcome.exists_of_forall₂ hvalues.flip entry hmem
        obtain ⟨found, hleads, hfound⟩ := ih member hmember hentry hhas
        exact ⟨found, .member hmember hleads, hfound⟩
  | matched rule sample generator attributes ih =>
      rcases concrete_matched_eq_ok hvalue with
        ⟨rfl, hcanonical⟩ | ⟨node, value, rfl, hmade, hsettled⟩
      · exact absurd hhas (Rule.canonical_has_no_object hcanonical)
      · have hhas := Rule.has_object_of_settle hsettled hhas
        obtain ⟨members, hleads, hmembers⟩ := ih node rfl hmade hhas
        exact ⟨members, .sample hleads, hmembers⟩

/-- An object keeps its keys. -/
theorem keys_of_concrete {engine : PatternEngine} {members : Fields Node} {made : Fields Json}
    (h : (concrete engine (.object members)).outcome = .ok (.object made)) :
    made.map Prod.fst = members.map Prod.fst := by
  obtain ⟨values, hmade, hvalues⟩ := outcome_concrete_object.mp h
  cases hmade
  exact Fields.keys_eq_of_forall₂ (hvalues.imp fun _ _ h => h.1)

end Node

end MessageContract
