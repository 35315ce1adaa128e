import MessageContract.Proofs.Node.Hints

/-!
Literal content is told by its keys. What is read is literal if no object at any depth has
the matcher key, and only then: an object that has it may stand among the attributes of a
rule or in an example, where reading does not look for it, but then it stands below a matched
node. A literal tree, whether it was read or built, passes through unchanged.
-/

namespace MessageContract.Node

theorem literalItems_iff {items : List Node} :
    literalItems items = true ↔ ∀ item ∈ items, item.isLiteral = true := by
  induction items with
  | nil => simp [literalItems]
  | cons item rest ih => simp [literalItems, ih]

theorem literalMembers_iff {members : Fields Node} :
    literalMembers members = true ↔ ∀ member ∈ members, member.2.isLiteral = true := by
  induction members with
  | nil => simp [literalMembers]
  | cons member rest ih => simp [literalMembers, ih]

/-- What is read as a literal tree has the matcher key nowhere. -/
theorem lacks_of_isLiteral {value : Json} {node : Node} (hread : ofJson value = .ok node)
    (hliteral : node.isLiteral = true) : value.Lacks matcherKey := by
  induction value using Json.induction generalizing node with
  | null | bool | number | string => trivial
  | array items ih =>
      obtain ⟨nodes, rfl, hitems⟩ := ofJson_array_eq_ok hread
      have hnodes : ∀ node ∈ nodes, node.isLiteral = true := literalItems_iff.mp hliteral
      rw [Json.Lacks, Json.lacksItems_iff]
      intro item hitem
      obtain ⟨node, hnode, hitemRead⟩ := Outcome.exists_of_forall₂ hitems item hitem
      exact ih item hitem hitemRead (hnodes node hnode)
  | object members ih =>
      obtain ⟨hplain, nodes, rfl, hmembers⟩ | ⟨_, _, _, _, _, _, -, rfl, -⟩ :=
        ofJson_object_eq_ok hread
      · have hnodes : ∀ node ∈ nodes, node.2.isLiteral = true := literalMembers_iff.mp hliteral
        rw [Json.Lacks, Json.lacksMembers_iff]
        refine ⟨hplain, ?_⟩
        intro member hmember
        obtain ⟨node, hnode, -, hmemberRead⟩ :=
          Outcome.exists_of_forall₂ hmembers member hmember
        exact ih member hmember hmemberRead (hnodes node hnode)
      · -- A matched node is not literal, whatever its example is.
        cases hliteral

/-- Content in which no object has the matcher key is read, as a literal tree that is written
as it was; where some object has the key, what is read is not literal. And each literal tree
is made concrete as it is written, without a warning. -/
theorem literal_told_by_keys (engine : PatternEngine) :
    (∀ value : Json,
      (∀ members, value.Has (.object members) → Fields.get? matcherKey members = none) →
      ∃ node, ofJson value = .ok node ∧ node.isLiteral = true ∧ node.toJson = value) ∧
    (∀ (value : Json) members kind, value.Has (.object members) →
      Fields.get? matcherKey members = some kind →
      ∀ node, ofJson value = .ok node → node.isLiteral = false) ∧
    ∀ node : Node, node.isLiteral = true →
      (node.concrete engine).outcome = .ok node.toJson ∧ (node.concrete engine).warnings = [] := by
  refine ⟨?_, ?_, ?_⟩
  · intro value habsent
    exact ofJson_of_lacks (Json.lacks_iff.mpr habsent)
  · intro value members kind hhas hkind node hread
    apply Bool.eq_false_iff.mpr
    intro hliteral
    have habsent := Json.lacks_iff.mp (lacks_of_isLiteral hread hliteral) members hhas
    cases hkind.symm.trans habsent
  · intro node hliteral
    rw [concrete_of_isLiteral engine hliteral]
    exact ⟨rfl, rfl⟩

end MessageContract.Node
