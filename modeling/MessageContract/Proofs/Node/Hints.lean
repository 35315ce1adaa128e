import MessageContract.Proofs.Node.Grammar
import MessageContract.Proofs.Node.Literal

/-!
Generator hints and concrete content. The hint of a matched node stays with the node. In an
object that is not matched the same key is a member like any other, and comes out under the
name it had: concrete content has its objects, and their keys, from the plain objects that
reading leads to, and from nothing else.
-/

namespace MessageContract.Node

open Json (LeadsTo)

/-- A tree is read as a plain object from a plain object with its keys. -/
theorem plain_of_ofJson {value : Json} {nodes : Fields Node}
    (h : ofJson value = .ok (.object nodes)) :
    ∃ plain, value = .object plain ∧ Fields.get? matcherKey plain = none ∧
      nodes.map Prod.fst = plain.map Prod.fst := by
  cases value with
  | object members =>
      obtain ⟨hplain, read, hnodes, hmembers⟩ | ⟨_, _, _, _, _, _, -, hnode, -⟩ :=
        ofJson_object_eq_ok h
      · cases hnodes
        exact ⟨members, rfl, hplain, Fields.keys_eq_of_forall₂ (hmembers.imp fun _ _ h => h.1)⟩
      · cases hnode
  | array items =>
      obtain ⟨read, hnodes, -⟩ := ofJson_array_eq_ok h
      cases hnodes
  | _ => cases h

/-- Wherever making a tree concrete leads, reading the tree has led. -/
theorem exists_source {value : Json} {node found : Node} (hread : ofJson value = .ok node)
    (hleads : node.LeadsTo found) :
    ∃ source, value.LeadsTo source ∧ ofJson source = .ok found := by
  induction value using Json.induction generalizing node with
  | null | bool | number | string =>
      cases hread
      cases hleads
      exact ⟨_, .refl _, rfl⟩
  | array items ih =>
      obtain ⟨nodes, rfl, hitems⟩ := ofJson_array_eq_ok hread
      cases hleads with
      | refl => exact ⟨_, .refl _, hread⟩
      | item hnode hleads =>
          obtain ⟨item, hitem, hnode⟩ := Outcome.exists_of_forall₂ hitems.flip _ hnode
          obtain ⟨source, hsource, hfound⟩ := ih item hitem hnode hleads
          exact ⟨source, .item hitem hsource, hfound⟩
  | object members ih =>
      obtain ⟨hplain, nodes, rfl, hmembers⟩ |
        ⟨kind, rule, sample, generator, attributes, rest, hkind, rfl, hsample, -⟩ :=
        ofJson_object_eq_ok hread
      · cases hleads with
        | refl => exact ⟨_, .refl _, hread⟩
        | member hnode hleads =>
            obtain ⟨member, hmember, -, hnode⟩ := Outcome.exists_of_forall₂ hmembers.flip _ hnode
            obtain ⟨source, hsource, hfound⟩ := ih member hmember hnode hleads
            exact ⟨source, .member hplain hmember hsource, hfound⟩
      · cases hleads with
        | refl => exact ⟨_, .refl _, hread⟩
        | sample hleads =>
            obtain ⟨-, hnone⟩ | ⟨value, node, hvalue, hnode, hsome⟩ := sampleOf_eq_ok hsample
            · cases hnone
            · cases hsome
              obtain ⟨source, hsource, hfound⟩ := ih _ (Fields.mem_of_get? hvalue) hnode hleads
              exact ⟨source, .sample hkind hvalue hsource, hfound⟩

/-- Each object in concrete content is what one plain object has become that reading leads
to, and has its keys. So no hint of a matched node gets into the content, and the key of
the hints is lacked if those plain objects lack it. -/
theorem concrete_objects_from_plain (engine : PatternEngine) {value result : Json} {node : Node}
    (hread : ofJson value = .ok node) (hconcrete : (node.concrete engine).outcome = .ok result) :
    (∀ made, result.Has (.object made) → ∃ plain source,
      value.LeadsTo (.object plain) ∧ Fields.get? matcherKey plain = none ∧
      ofJson (.object plain) = .ok source ∧
      (source.concrete engine).outcome = .ok (.object made) ∧
      made.map Prod.fst = plain.map Prod.fst) ∧
    ((∀ plain, value.LeadsTo (.object plain) → Fields.get? matcherKey plain = none →
      Fields.get? generatorKey plain = none) → result.Lacks generatorKey) := by
  have horigin (made : Fields Json) (hhas : result.Has (.object made)) : ∃ plain source,
      value.LeadsTo (.object plain) ∧ Fields.get? matcherKey plain = none ∧
      ofJson (.object plain) = .ok source ∧
      (source.concrete engine).outcome = .ok (.object made) ∧
      made.map Prod.fst = plain.map Prod.fst := by
    obtain ⟨members, hleads, hmade⟩ := exists_origin hconcrete hhas
    obtain ⟨source, hsource, hmembers⟩ := exists_source hread hleads
    obtain ⟨plain, rfl, hplain, hkeys⟩ := plain_of_ofJson hmembers
    exact ⟨plain, _, hsource, hplain, hmembers, hmade, (keys_of_concrete hmade).trans hkeys⟩
  refine ⟨horigin, ?_⟩
  intro hlacks
  apply Json.lacks_iff.mpr
  intro made hhas
  obtain ⟨plain, -, hsource, hplain, -, -, hkeys⟩ := horigin made hhas
  have habsent : Fields.get? generatorKey plain = none := hlacks plain hsource hplain
  rw [Fields.get?_eq_none_iff_keys] at habsent ⊢
  rwa [hkeys]

/-- An order number and a delivery, each with a hint for its rule; the example of the
delivery is a plain object. -/
theorem concrete_objects_from_plain_delivery :
    let engine : PatternEngine := { compile := fun _ => .error none }
    let number := Json.object [("pact:generator:type", .string "RandomInt"),
      ("pact:matcher:type", .string "integer")]
    let day : Fields Json := [("day", .string "Monday")]
    let delivery := Json.object [("pact:generator:type", .string "Date"),
      ("pact:matcher:type", .string "type"), ("value", .object day)]
    let value := Json.object [("delivery", delivery), ("number", number)]
    let result := Json.object [("delivery", .object day), ("number", .int 1)]
    ∃ node, ofJson value = .ok node ∧ (node.concrete engine).outcome = .ok result ∧
      (∃ plain source, value.LeadsTo (.object plain) ∧ Fields.get? matcherKey plain = none ∧
        ofJson (.object plain) = .ok source ∧
        (source.concrete engine).outcome = .ok (.object day) ∧
        day.map Prod.fst = plain.map Prod.fst) ∧
      result.Lacks generatorKey := by
  intro engine number day delivery value result
  have hread : ∃ node, ofJson value = .ok node ∧
      (node.concrete engine).outcome = .ok result := ⟨_, rfl, rfl⟩
  obtain ⟨node, hnode, hmade⟩ := hread
  obtain ⟨horigin, hlacks⟩ := concrete_objects_from_plain engine hnode hmade
  refine ⟨node, hnode, hmade, horigin day (.member List.mem_cons_self (.refl _)), hlacks ?_⟩
  intro plain hleads hplain
  simp only [value, delivery, number, day] at hleads
  cases hleads with
  | refl => rfl
  | member _ hmember hleads =>
      rcases List.mem_pair.mp hmember with rfl | rfl
      · cases hleads with
        | refl => cases hplain
        | member hplain => cases hplain
        | sample _ hsample hleads =>
            cases hsample
            cases hleads with
            | refl => rfl
            | member _ hmember hleads =>
                cases List.mem_singleton.mp hmember
                cases hleads
            | sample hkind => cases hkind
      · cases hleads with
        | refl => cases hplain
        | member hplain => cases hplain
        | sample _ hsample => cases hsample
  | sample hkind => cases hkind

/-- The hint comes out of an object that has no rule. -/
theorem hint_without_rule_comes_out :
    let value := Json.object [("pact:generator:type", .string "Date")]
    ∃ node, ofJson value = .ok node ∧
      (∀ engine, (node.concrete engine).outcome = .ok value) ∧ ¬value.Lacks generatorKey := by
  intro value
  have hlacks : value.Lacks matcherKey := ⟨rfl, trivial, trivial⟩
  obtain ⟨node, hread, hliteral, hwritten⟩ := ofJson_of_lacks hlacks
  refine ⟨node, hread, ?_, fun h => nomatch h.1⟩
  intro engine
  rw [concrete_of_isLiteral engine hliteral, hwritten, Traced.outcome_ok]

end MessageContract.Node
