import MessageContract.Node.Wire
import MessageContract.Proofs.Fields
import MessageContract.Proofs.Outcome

/-!
What reading a content tree has done when it succeeds. Arrays and plain objects have been read
item by item and member by member; the object of a matched node has been taken apart into its
example, its hint, its rule and the attributes that are left.
-/

namespace MessageContract.Node

/-! Trees are written part by part. -/

theorem itemsJson_eq (items : List Node) : itemsJson items = items.map toJson := by
  induction items with
  | nil => rfl
  | cons item rest ih => rw [itemsJson, ih, List.map_cons]

theorem membersJson_eq (members : Fields Node) :
    membersJson members = members.mapValues toJson := by
  induction members with
  | nil => rfl
  | cons member rest ih =>
      rw [membersJson, ih]
      rfl

/-! They are read part by part. -/

theorem ofItems_eq_ok {items : List Json} {nodes : List Node} (h : ofItems items = .ok nodes) :
    List.Forall₂ (fun item node => ofJson item = .ok node) items nodes := by
  induction items generalizing nodes with
  | nil =>
      cases h
      exact .nil
  | cons item rest ih =>
      obtain ⟨first, hfirst, h⟩ := Outcome.bind_eq_ok.mp h
      obtain ⟨others, hothers, h⟩ := Outcome.bind_eq_ok.mp h
      cases h
      exact .cons hfirst (ih hothers)

theorem ofMembers_eq_ok {members : Fields Json} {nodes : Fields Node}
    (h : ofMembers members = .ok nodes) :
    List.Forall₂ (fun member node => member.1 = node.1 ∧ ofJson member.2 = .ok node.2)
      members nodes := by
  induction members generalizing nodes with
  | nil =>
      cases h
      exact .nil
  | cons member rest ih =>
      obtain ⟨first, hfirst, h⟩ := Outcome.bind_eq_ok.mp h
      obtain ⟨others, hothers, h⟩ := Outcome.bind_eq_ok.mp h
      cases h
      exact .cons ⟨rfl, hfirst⟩ (ih hothers)

/-- The example is looked up like any other member. -/
theorem sampleOf_eq (members : Fields Json) :
    sampleOf members =
      match Fields.get? sampleKey members with
      | none => .ok none
      | some value => (ofJson value).map some := by
  induction members with
  | nil => rfl
  | cons head rest ih =>
      by_cases hkey : head.1 = sampleKey
      · cases hvalue : ofJson head.2 <;>
          simp [sampleOf, Fields.get?, hkey, hvalue, Except.map, pure, Except.pure]
      · simp [sampleOf, Fields.get?, hkey, ih]

/-- An example is read if there is a member for it, of that member. -/
theorem sampleOf_eq_ok {members : Fields Json} {sample : Option Node}
    (h : sampleOf members = .ok sample) :
    Fields.get? sampleKey members = none ∧ sample = none ∨
    ∃ value node, Fields.get? sampleKey members = some value ∧ ofJson value = .ok node ∧
      sample = some node := by
  rw [sampleOf_eq] at h
  split at h
  case h_1 hget =>
    cases h
    exact .inl ⟨hget, rfl⟩
  case h_2 value hget =>
    obtain ⟨node, hnode, h⟩ := Outcome.map_eq_ok.mp h
    exact .inr ⟨value, node, hget, hnode, h.symm⟩

/-- A hint is taken out that is written for none or for itself. -/
theorem takeGenerator_eq_ok_iff {members rest : Fields Json} {hint : Option String} :
    takeGenerator members = .ok (hint, rest) ↔
      Fields.get? generatorKey members = hint.map .string ∧
        rest = Fields.erase generatorKey members := by
  unfold takeGenerator
  split
  case h_1 hget => cases hint <;> simp [hget, Fields.erase_of_absent hget, eq_comm]
  case h_2 text hget => cases hint <;> simp [hget, eq_comm]
  case h_3 found hstring hget => cases hint <;> cases found <;> simp_all

theorem ofJson_array_eq_ok {items : List Json} {node : Node}
    (h : ofJson (.array items) = .ok node) :
    ∃ nodes, node = .array nodes ∧
      List.Forall₂ (fun item node => ofJson item = .ok node) items nodes := by
  obtain ⟨nodes, hnodes, h⟩ := Outcome.bind_eq_ok.mp h
  cases h
  exact ⟨nodes, rfl, ofItems_eq_ok hnodes⟩

/-- An object is read as a plain object if it lacks the matcher key, and otherwise as a
matched node. -/
theorem ofJson_object_eq_ok {members : Fields Json} {node : Node}
    (h : ofJson (.object members) = .ok node) :
    (Fields.get? matcherKey members = none ∧ ∃ nodes, node = .object nodes ∧
      List.Forall₂ (fun member node => member.1 = node.1 ∧ ofJson member.2 = .ok node.2)
        members nodes) ∨
    ∃ kind rule sample generator attributes rest,
      Fields.get? matcherKey members = some (.string kind) ∧
      node = .matched rule sample generator attributes ∧
      sampleOf members = .ok sample ∧
      takeGenerator (Fields.erase sampleKey (Fields.erase matcherKey members)) =
        .ok (generator, rest) ∧
      Rule.read kind rest = .ok (rule, attributes) := by
  rw [ofJson] at h
  split at h
  case h_1 hplain =>
    obtain ⟨nodes, hnodes, h⟩ := Outcome.bind_eq_ok.mp h
    cases h
    exact .inl ⟨hplain, nodes, rfl, ofMembers_eq_ok hnodes⟩
  case h_2 kind hkind =>
    obtain ⟨sample, hsample, h⟩ := Outcome.bind_eq_ok.mp h
    obtain ⟨⟨generator, rest⟩, hgenerator, h⟩ := Outcome.bind_eq_ok.mp h
    obtain ⟨⟨rule, attributes⟩, hrule, h⟩ := Outcome.bind_eq_ok.mp h
    cases h
    exact .inr ⟨kind, rule, sample, generator, attributes, rest, hkind, rfl, hsample,
      hgenerator, hrule⟩
  case h_3 => cases h

end MessageContract.Node
