import MessageContract.Proofs.Json.Value
import MessageContract.Proofs.Node.Codec
import MessageContract.Proofs.Node.Origin

/-!
Content without rules. A value in which no object has the matcher key reads as a
literal tree, which is written and made concrete as that value. Content that has
been made concrete is such a value: rules stand for their examples, and nothing
that a rule keeps for others gets into it.
-/

namespace MessageContract

namespace Json

mutual

/-- No object at any depth of the value has the key. -/
def Lacks (key : String) : Json → Prop
  | .array items => LacksItems key items
  | .object members => Fields.get? key members = none ∧ LacksMembers key members
  | _ => True

def LacksItems (key : String) : List Json → Prop
  | [] => True
  | item :: rest => Lacks key item ∧ LacksItems key rest

def LacksMembers (key : String) : List (String × Json) → Prop
  | [] => True
  | (_, value) :: rest => Lacks key value ∧ LacksMembers key rest

end

theorem lacksItems_iff {key : String} (items : List Json) :
    LacksItems key items ↔ ∀ item ∈ items, item.Lacks key := by
  induction items with
  | nil => simp [LacksItems]
  | cons item rest ih => simp [LacksItems, ih]

theorem lacksMembers_iff {key : String} (members : Fields Json) :
    LacksMembers key members ↔ ∀ member ∈ members, member.2.Lacks key := by
  induction members with
  | nil => simp [LacksMembers]
  | cons member rest ih => simp [LacksMembers, ih]

/-- The key is lacked wherever an object may be. -/
theorem lacks_iff {key : String} {value : Json} :
    value.Lacks key ↔ ∀ members, value.Has (.object members) → Fields.get? key members = none := by
  induction value using Json.induction with
  | null | bool | number | string =>
      refine iff_of_true trivial ?_
      intro members hhas
      cases hhas
  | array items ih =>
      rw [Lacks, lacksItems_iff]
      constructor
      · intro h members hhas
        obtain ⟨item, hitem, hhas⟩ := array_has_object.mp hhas
        exact (ih item hitem).mp (h item hitem) members hhas
      · intro h item hitem
        exact (ih item hitem).mpr fun members hhas => h members (.item hitem hhas)
  | object members ih =>
      rw [Lacks, lacksMembers_iff]
      constructor
      · rintro ⟨habsent, h⟩ made hhas
        rcases object_has_object.mp hhas with rfl | ⟨member, hmember, hhas⟩
        · exact habsent
        · exact (ih member hmember).mp (h member hmember) made hhas
      · intro h
        refine ⟨h members (.refl _), ?_⟩
        intro member hmember
        exact (ih member hmember).mpr fun made hhas => h made (.member hmember hhas)

end Json

open Traced

namespace Node

theorem wellFormed_of_leadsTo {node found : Node} (hleads : node.LeadsTo found)
    (h : node.WellFormed) : found.WellFormed := by
  induction hleads with
  | refl => exact h
  | item hitem _ ih => exact ih ((wellFormedItems_iff _).mp h _ hitem)
  | member hmember _ ih => exact ih ((wellFormedMembers_iff _).mp h.2 _ hmember)
  | sample _ ih => exact ih h.2.2

/-- In a well-formed tree only matched nodes are written with the matcher key, and
they become their examples. -/
theorem lacks_concrete {engine : PatternEngine} {node : Node} {value : Json}
    (h : node.WellFormed) (hvalue : (node.concrete engine).outcome = .ok value) :
    value.Lacks matcherKey := by
  apply Json.lacks_iff.mpr
  intro made hhas
  obtain ⟨members, hleads, hmembers⟩ := exists_origin hvalue hhas
  have hplain : Fields.get? matcherKey members = none := (wellFormed_of_leadsTo hleads h).1
  rw [Fields.get?_eq_none_iff_keys] at hplain ⊢
  rwa [keys_of_concrete hmembers]

mutual

/-- Where no object has the matcher key, what is read is literal and is written as
it was. -/
theorem ofJson_of_lacks : ∀ {value : Json}, value.Lacks matcherKey →
    ∃ node, ofJson value = .ok node ∧ node.isLiteral = true ∧ node.toJson = value
  | .null, _ => ⟨.null, rfl, rfl, rfl⟩
  | .bool b, _ => ⟨.bool b, rfl, rfl, rfl⟩
  | .number n, _ => ⟨.number n, rfl, rfl, rfl⟩
  | .string s, _ => ⟨.string s, rfl, rfl, rfl⟩
  | .array items, h => by
      obtain ⟨nodes, hread, hliteral, hwritten⟩ := ofItems_of_lacks items h
      refine ⟨.array nodes, ?_, hliteral, ?_⟩
      · simp only [ofJson, hread, Outcome.ok_bind]
        rfl
      · rw [toJson, hwritten]
  | .object members, h => by
      obtain ⟨nodes, hread, hliteral, hwritten⟩ := ofMembers_of_lacks members h.2
      refine ⟨.object nodes, ?_, hliteral, ?_⟩
      · simp only [ofJson, h.1, hread, Outcome.ok_bind]
        rfl
      · rw [toJson, hwritten]

theorem ofItems_of_lacks : ∀ items : List Json, Json.LacksItems matcherKey items →
    ∃ nodes, ofItems items = .ok nodes ∧ literalItems nodes = true ∧ itemsJson nodes = items
  | [], _ => ⟨[], rfl, rfl, rfl⟩
  | item :: rest, h => by
      obtain ⟨node, hitem, hitemLiteral, hitemWritten⟩ := ofJson_of_lacks h.1
      obtain ⟨nodes, hrest, hrestLiteral, hrestWritten⟩ := ofItems_of_lacks rest h.2
      refine ⟨node :: nodes, ?_, ?_, ?_⟩
      · simp only [ofItems, hitem, hrest, Outcome.ok_bind]
        rfl
      · simp [literalItems, hitemLiteral, hrestLiteral]
      · rw [itemsJson, hitemWritten, hrestWritten]

theorem ofMembers_of_lacks : ∀ members : List (String × Json),
    Json.LacksMembers matcherKey members →
    ∃ nodes, ofMembers members = .ok nodes ∧ literalMembers nodes = true ∧
      membersJson nodes = members
  | [], _ => ⟨[], rfl, rfl, rfl⟩
  | (key, value) :: rest, h => by
      obtain ⟨node, hvalue, hvalueLiteral, hvalueWritten⟩ := ofJson_of_lacks h.1
      obtain ⟨nodes, hrest, hrestLiteral, hrestWritten⟩ := ofMembers_of_lacks rest h.2
      refine ⟨(key, node) :: nodes, ?_, ?_, ?_⟩
      · simp only [ofMembers, hvalue, hrest, Outcome.ok_bind]
        rfl
      · simp [literalMembers, hvalueLiteral, hrestLiteral]
      · rw [membersJson, hvalueWritten, hrestWritten]

end

mutual

/-- A literal tree is made concrete as it is written, without a warning. -/
theorem concrete_of_isLiteral (engine : PatternEngine) : ∀ {node : Node},
    node.isLiteral = true → node.concrete engine = .ok node.toJson
  | .null, _ | .bool _, _ | .number _, _ | .string _, _ => by rw [concrete, toJson]
  | .array items, h => by
      rw [concrete, concreteItems_of_literal engine items h, ok_bind, toJson]
      rfl
  | .object members, h => by
      rw [concrete, concreteMembers_of_literal engine members h, ok_bind, toJson]
      rfl

theorem concreteItems_of_literal (engine : PatternEngine) : ∀ items : List Node,
    literalItems items = true → concreteItems engine items = .ok (itemsJson items)
  | [], _ => by rw [concreteItems, itemsJson]
  | item :: rest, h => by
      rw [literalItems, Bool.and_eq_true] at h
      rw [concreteItems, concrete_of_isLiteral engine h.1, ok_bind,
        concreteItems_of_literal engine rest h.2, ok_bind, itemsJson]
      rfl

theorem concreteMembers_of_literal (engine : PatternEngine) :
    ∀ members : List (String × Node), literalMembers members = true →
      concreteMembers engine members = .ok (membersJson members)
  | [], _ => by rw [concreteMembers, membersJson]
  | (key, member) :: rest, h => by
      rw [literalMembers, Bool.and_eq_true] at h
      rw [concreteMembers, concrete_of_isLiteral engine h.1, ok_bind,
        concreteMembers_of_literal engine rest h.2, ok_bind, membersJson]
      rfl

end

/-- Content that was read and made concrete has no matcher key anywhere. So it reads
as a literal tree, which is written as that content and made concrete as that
content without a warning. -/
theorem concrete_lacks_matcherKey (engine : PatternEngine) {value result : Json} {node : Node}
    (hread : ofJson value = .ok node) (hconcrete : (node.concrete engine).outcome = .ok result) :
    result.Lacks matcherKey ∧
    ∃ again, ofJson result = .ok again ∧ again.isLiteral = true ∧ again.toJson = result ∧
      again.concrete engine = .ok result := by
  have hwell : node.WellFormed := wellFormed_of_ofJson value hread
  have hlacks : result.Lacks matcherKey := lacks_concrete hwell hconcrete
  obtain ⟨again, hagain, hliteral, hwritten⟩ := ofJson_of_lacks hlacks
  refine ⟨hlacks, again, hagain, hliteral, hwritten, ?_⟩
  rw [concrete_of_isLiteral engine hliteral, hwritten]

/-- At least two lines, each with a count whose rule needs no example and a remark
that another tool has left; the rule for the lines keeps an attribute that looks
like a rule itself. -/
theorem concrete_lacks_matcherKey_nested :
    let engine : PatternEngine := { compile := fun _ => .error none }
    let rule (kind : String) : Fields Json := [("pact:matcher:type", .string kind)]
    let line := Json.object [("count", .object (rule "integer")), ("note", .string "fragile")]
    let value := Json.object [("min", .int 2), ("pact:matcher:type", .string "type"),
      ("other", .object (rule "regex")), ("value", .array [line])]
    let made := Json.object [("count", .int 1), ("note", .string "fragile")]
    ∃ node, ofJson value = .ok node ∧
      (node.concrete engine).outcome = .ok (.array [made, made]) ∧
      (Json.array [made, made]).Lacks matcherKey ∧
      ∃ again, ofJson (.array [made, made]) = .ok again ∧ again.isLiteral = true ∧
        again.toJson = .array [made, made] ∧ again.concrete engine = .ok (.array [made, made]) := by
  intro engine rule line value made
  have hread : ∃ node, ofJson value = .ok node ∧
      (node.concrete engine).outcome = .ok (.array [made, made]) := ⟨_, rfl, rfl⟩
  obtain ⟨node, hnode, hmade⟩ := hread
  exact ⟨node, hnode, hmade, concrete_lacks_matcherKey engine hnode hmade⟩

end Node

end MessageContract
