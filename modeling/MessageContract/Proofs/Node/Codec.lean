import MessageContract.Proofs.Json.Value
import MessageContract.Proofs.Node.Plain
import MessageContract.Proofs.Node.Reading
import MessageContract.Proofs.Node.WellFormed
import MessageContract.Session

/-!
Content trees and the JSON that stands for them. Reading a tree back gives the
tree if and only if the tree is well-formed; what is read and what the functions
for matched nodes build out of well-formed trees is well-formed, so that a
message holds the very tree that it was given.
-/

namespace MessageContract

namespace Rule

theorem get?_write_of_not_own {rule : Rule} {key : String} (hkey : key ∉ rule.ownKeys)
    (attributes : Fields Json) :
    Fields.get? key (rule.write attributes) = Fields.get? key attributes := by
  cases rule with
  | sameType min max =>
      simp only [ownKeys, List.mem_cons, List.not_mem_nil, or_false, not_or] at hkey
      rw [write, Fields.get?_insert?_ne hkey.2, Fields.get?_insert?_ne hkey.1]
  | regex pattern =>
      simp only [ownKeys, List.mem_singleton] at hkey
      rw [write, Fields.get?_insert_ne hkey]
  | timestamp format word | date format | time format =>
      simp only [ownKeys, List.mem_singleton] at hkey
      rw [write, Fields.get?_insert?_ne hkey]
  | _ => rfl

theorem not_own_of_reserved {key : String} (hkey : key ∈ reservedKeys) (rule : Rule) :
    key ∉ rule.ownKeys := by
  simp only [reservedKeys, matcherKey, sampleKey, generatorKey, List.mem_cons,
    List.not_mem_nil, or_false] at hkey
  cases rule <;> rcases hkey with rfl | rfl | rfl <;> simp [ownKeys]

end Rule

namespace Node

/-- Whatever is read, nothing is left among the attributes that was understood. -/
theorem attributesApart_of_read {members rest attributes : Fields Json} {kind : String}
    {generator : Option String} {rule : Rule}
    (hgenerator : takeGenerator (Fields.erase sampleKey (Fields.erase matcherKey members)) =
      .ok (generator, rest))
    (hrule : Rule.read kind rest = .ok (rule, attributes)) :
    rule.Proper ∧ AttributesApart rule attributes := by
  obtain ⟨hproper, -, rfl⟩ := Rule.read_eq_ok hrule
  obtain ⟨hown, hkept⟩ := rule.leaves_others rest
  refine ⟨hproper, ?_⟩
  intro key hkey
  rcases List.mem_append.mp hkey with hreserved | hkeyOwn
  · apply hkept
    rw [(takeGenerator_eq_ok_iff.mp hgenerator).2]
    simp only [reservedKeys, List.mem_cons, List.not_mem_nil, or_false] at hreserved
    rcases hreserved with rfl | rfl | rfl
    · exact Fields.get?_erase_eq_none
        (Fields.get?_erase_eq_none (Fields.get?_erase_self _ _) _) _
    · exact Fields.get?_erase_eq_none (Fields.get?_erase_self _ _) _
    · exact Fields.get?_erase_self _ _
  · exact hown key hkeyOwn

/-- Reading makes well-formed trees. The induction is over the value, so that items, members
and examples are read trees themselves. -/
theorem wellFormed_of_ofJson (value : Json) {node : Node} (h : ofJson value = .ok node) :
    node.WellFormed := by
  induction value using Json.induction generalizing node with
  | null | bool | number | string =>
      cases h
      trivial
  | array items ih =>
      obtain ⟨nodes, rfl, hitems⟩ := ofJson_array_eq_ok h
      apply (wellFormedItems_iff nodes).mpr
      intro node hnode
      obtain ⟨item, hitem, hread⟩ := Outcome.exists_of_forall₂ hitems.flip node hnode
      exact ih item hitem hread
  | object members ih =>
      obtain ⟨hplain, nodes, rfl, hmembers⟩ |
        ⟨kind, rule, sample, generator, attributes, rest, -, rfl, hsample, hgenerator, hrule⟩ :=
        ofJson_object_eq_ok h
      · have hkeys := Fields.keys_eq_of_forall₂ (hmembers.imp fun _ _ h => h.1)
        refine ⟨?_, (wellFormedMembers_iff nodes).mpr ?_⟩
        · rwa [Fields.get?_eq_none_iff_keys, hkeys, ← Fields.get?_eq_none_iff_keys]
        · intro node hnode
          obtain ⟨member, hmember, -, hread⟩ :=
            Outcome.exists_of_forall₂ hmembers.flip node hnode
          exact ih member hmember hread
      · obtain ⟨hproper, hapart⟩ := attributesApart_of_read hgenerator hrule
        refine ⟨hproper, hapart, ?_⟩
        obtain ⟨-, rfl⟩ | ⟨value, node, hget, hread, rfl⟩ := sampleOf_eq_ok hsample
        · trivial
        · exact ih _ (Fields.mem_of_get? hget) hread

/-! What is written for a well-formed tree is read as that tree. -/

/-- Of the object of a matched node, every part finds what was written for it, if nothing
is in the way of something else. -/
theorem matchedJson_eq_object {rule : Rule} (sample : Option Json) (generator : Option String)
    {attributes : Fields Json} (hapart : AttributesApart rule attributes) :
    ∃ members, matchedJson rule sample generator attributes = .object members ∧
      Fields.get? matcherKey members = some (.string rule.kind) ∧
      Fields.get? sampleKey members = sample ∧
      Fields.get? generatorKey members = generator.map .string ∧
      Fields.erase generatorKey (Fields.erase sampleKey (Fields.erase matcherKey members)) =
        rule.write attributes := by
  have hreserved (key : String) (hkey : key ∈ reservedKeys) :
      Fields.get? key (rule.write attributes) = none := by
    rw [Rule.get?_write_of_not_own (Rule.not_own_of_reserved hkey rule)]
    exact hapart key (List.mem_append_left _ hkey)
  have hmatcher := hreserved matcherKey (by simp [reservedKeys])
  have hsampleKey := hreserved sampleKey (by simp [reservedKeys])
  have hgeneratorKey := hreserved generatorKey (by simp [reservedKeys])
  have hmg : matcherKey ≠ generatorKey := by decide
  have hms : matcherKey ≠ sampleKey := by decide
  have hsg : sampleKey ≠ generatorKey := by decide
  let tagged := Fields.insert matcherKey (.string rule.kind) (rule.write attributes)
  let sampled := Fields.insert? sampleKey sample tagged
  let members := Fields.insert? generatorKey (generator.map Json.string) sampled
  have htagged : Fields.get? sampleKey tagged = none := by
    simp only [tagged, Fields.get?_insert_ne hms.symm, hsampleKey]
  have hsampled : Fields.get? generatorKey sampled = none := by
    simp only [sampled, tagged, Fields.get?_insert?_ne hsg.symm,
      Fields.get?_insert_ne hmg.symm, hgeneratorKey]
  refine ⟨members, rfl, ?_, ?_, Fields.get?_insert?_self _ hsampled, ?_⟩
  · simp only [members, sampled, tagged, Fields.get?_insert?_ne hmg, Fields.get?_insert?_ne hms,
      Fields.get?_insert_self]
  · simp only [members, sampled, Fields.get?_insert?_ne hsg, Fields.get?_insert?_self _ htagged]
  calc
    Fields.erase generatorKey (Fields.erase sampleKey (Fields.erase matcherKey members)) =
        Fields.erase matcherKey (Fields.erase sampleKey (Fields.erase generatorKey members)) := by
          rw [Fields.erase_comm sampleKey matcherKey, Fields.erase_comm generatorKey matcherKey,
            Fields.erase_comm generatorKey sampleKey]
    _ = Fields.erase matcherKey (Fields.erase sampleKey sampled) := by
          simp only [members, Fields.erase_insert?_self, Fields.erase_of_absent hsampled]
    _ = Fields.erase matcherKey tagged := by
          simp only [sampled, Fields.erase_insert?_self, Fields.erase_of_absent htagged]
    _ = rule.write attributes := by
          simp only [tagged, Fields.erase_insert_self, Fields.erase_of_absent hmatcher]

theorem ofJson_matchedJson {rule : Rule} {sample : Option Node} {generator : Option String}
    {attributes : Fields Json} (hproper : rule.Proper)
    (hapart : AttributesApart rule attributes)
    (hsample : ∀ members, Fields.get? sampleKey members = sampleJson sample →
      sampleOf members = .ok sample) :
    ofJson (matchedJson rule (sampleJson sample) generator attributes) =
      .ok (.matched rule sample generator attributes) := by
  obtain ⟨members, hwritten, hkind, hexample, hgenerator, hrest⟩ :=
    matchedJson_eq_object (sampleJson sample) generator hapart
  have hhint : Fields.get? generatorKey
      (Fields.erase sampleKey (Fields.erase matcherKey members)) =
        generator.map Json.string := by
    rw [Fields.get?_erase_ne (by decide), Fields.get?_erase_ne (by decide), hgenerator]
  have htaken : takeGenerator (Fields.erase sampleKey (Fields.erase matcherKey members)) =
      .ok (generator, rule.write attributes) :=
    takeGenerator_eq_ok_iff.mpr ⟨hhint, hrest.symm⟩
  have hrule : Rule.read rule.kind (rule.write attributes) = .ok (rule, attributes) :=
    Rule.read_write hproper fun key hkey => hapart key (List.mem_append_right _ hkey)
  rw [hwritten]
  simp only [ofJson, hkind, hsample members hexample, htaken, hrule, Outcome.ok_bind]
  rfl

mutual

theorem ofJson_toJson : ∀ {node : Node}, node.WellFormed → ofJson node.toJson = .ok node
  | .null, _ | .bool _, _ | .number _, _ | .string _, _ => rfl
  | .array items, h => by
      simp only [toJson, ofJson, ofItems_itemsJson items h, Outcome.ok_bind]
      rfl
  | .object members, h => by
      obtain ⟨hread, hkeys⟩ := ofMembers_membersJson members h.2
      have hplain : Fields.get? matcherKey (membersJson members) = none := (hkeys _).mpr h.1
      simp only [toJson, ofJson, hplain, hread, Outcome.ok_bind]
      rfl
  | .matched rule sample generator attributes, h =>
      ofJson_matchedJson h.1 h.2.1 (sampleOf_sampleJson sample h.2.2)

theorem ofItems_itemsJson : ∀ (items : List Node), WellFormedItems items →
    ofItems (itemsJson items) = .ok items
  | [], _ => rfl
  | item :: rest, h => by
      simp only [itemsJson, ofItems, ofJson_toJson h.1, ofItems_itemsJson rest h.2,
        Outcome.ok_bind]
      rfl

theorem ofMembers_membersJson : ∀ (members : List (String × Node)), WellFormedMembers members →
    ofMembers (membersJson members) = .ok members ∧
      ∀ key, Fields.get? key (membersJson members) = none ↔ Fields.get? key members = none
  | [], _ => ⟨rfl, by simp [membersJson, Fields.get?]⟩
  | (key, value) :: rest, h => by
      obtain ⟨hread, hkeys⟩ := ofMembers_membersJson rest h.2
      refine ⟨?_, ?_⟩
      · simp only [membersJson, ofMembers, ofJson_toJson h.1, hread, Outcome.ok_bind]
        rfl
      · intro other
        by_cases hkey : key = other <;> simp [membersJson, Fields.get?, hkey, hkeys]

theorem sampleOf_sampleJson : ∀ (sample : Option Node), WellFormedSample sample →
    ∀ members, Fields.get? sampleKey members = sampleJson sample → sampleOf members = .ok sample
  | none, _, members, hget => by
      simp only [sampleOf_eq, hget, sampleJson]
  | some node, h, members, hget => by
      simp only [sampleOf_eq, hget, sampleJson, ofJson_toJson h, Except.map]

end

/-! Well-formedness is a matter of keys and kinds, which sameness respects. -/

theorem attributesApart_plain (rule : Rule) (attributes : Fields Json) :
    AttributesApart rule (Fields.mapValues Json.plain attributes) ↔
      AttributesApart rule attributes := by
  simp only [AttributesApart, Fields.get?_mapValues, Option.map_eq_none_iff]

mutual

theorem wellFormed_plain : ∀ node : Node, node.plain.WellFormed ↔ node.WellFormed
  | .null | .bool _ | .number _ | .string _ => Iff.rfl
  | .array items => wellFormedItems_plain items
  | .object members => by
      simp only [plain, WellFormed, wellFormedMembers_plain members]
  | .matched rule sample generator attributes => by
      simp only [plain, WellFormed, attributesApart_plain, wellFormedSample_plain sample]

theorem wellFormedSample_plain : ∀ sample : Option Node,
    WellFormedSample (plainSample sample) ↔ WellFormedSample sample
  | none => Iff.rfl
  | some node => wellFormed_plain node

theorem wellFormedItems_plain : ∀ items : List Node,
    WellFormedItems (plainItems items) ↔ WellFormedItems items
  | [] => Iff.rfl
  | item :: rest => and_congr (wellFormed_plain item) (wellFormedItems_plain rest)

theorem wellFormedMembers_plain : ∀ members : List (String × Node),
    (Fields.get? matcherKey (plainMembers members) = none ∧
        WellFormedMembers (plainMembers members)) ↔
      Fields.get? matcherKey members = none ∧ WellFormedMembers members
  | [] => by simp [plainMembers, Fields.get?, WellFormedMembers]
  | (key, value) :: rest => by
      have hvalue := wellFormed_plain value
      have hrest := wellFormedMembers_plain rest
      by_cases hkey : key = matcherKey
      · simp [plainMembers, Fields.get?, hkey]
      · simp only [plainMembers, Fields.get?, beq_iff_eq, hkey, if_false, WellFormedMembers,
          hvalue]
        rw [and_left_comm, hrest, and_left_comm]

end

theorem wellFormed_of_same {a b : Node} (hsame : a.same b = true) (ha : a.WellFormed) :
    b.WellFormed := by
  rw [same_iff_plain] at hsame
  rw [← wellFormed_plain, ← hsame, wellFormed_plain]
  exact ha

/-! Trees built in code. -/

/-- What nests well-formed trees in arrays, in objects and in matched nodes. -/
inductive Built : Node → Prop
  | wellFormed {node : Node} (h : node.WellFormed) : Built node
  | array {items : List Node} (h : ∀ item ∈ items, Built item) : Built (.array items)
  | object {members : List (String × Node)} (hplain : Fields.get? matcherKey members = none)
      (h : ∀ member ∈ members, Built member.2) : Built (.object members)
  | like {sample : Node} (h : Built sample) : Built (.like sample)
  | eachLike {sample : Node} (min : UInt64) (h : Built sample) : Built (.eachLike sample min)
  | eachLikeBetween {sample : Node} (min max : UInt64) (h : Built sample) :
      Built (.eachLikeBetween sample min max)
  | regex (sample pattern : String) : Built (.regex sample pattern)
  | integer (sample : Int64) : Built (.integer sample)
  | decimal (sample : Option Binary64) : Built (.decimal sample)
  | anyNumber {sample : Node} (h : Built sample) : Built (.anyNumber sample)
  | boolean (sample : Bool) : Built (.boolean sample)
  | nullValue : Built .nullValue
  | equality {sample : Node} (h : Built sample) : Built (.equality sample)
  | includes (part : String) : Built (.includes part)
  | timestamp (format sample : String) : Built (.timestamp format sample)
  | date (format sample : String) : Built (.date format sample)
  | time (format sample : String) : Built (.time format sample)
  | semver (sample : String) : Built (.semver sample)

/-- A matched node without other attributes is as well-formed as its example. -/
theorem wellFormed_ofRule {rule : Rule} {sample : Node} (hproper : rule.Proper)
    (hsample : sample.WellFormed) : (ofRule rule sample).WellFormed :=
  ⟨hproper, by simp [AttributesApart, Fields.get?], hsample⟩

theorem Built.isWellFormed {node : Node} (h : Built node) : node.WellFormed := by
  have hitem {sample : Node} (hsample : sample.WellFormed) : (Node.array [sample]).WellFormed :=
    ⟨hsample, trivial⟩
  induction h with
  | wellFormed h => exact h
  | array _ ih => exact (wellFormedItems_iff _).mpr ih
  | object hplain _ ih => exact ⟨hplain, (wellFormedMembers_iff _).mpr ih⟩
  | like _ ih | anyNumber _ ih | equality _ ih => exact wellFormed_ofRule trivial ih
  | eachLike _ _ ih | eachLikeBetween _ _ _ ih => exact wellFormed_ofRule trivial (hitem ih)
  | decimal sample => cases sample <;> exact wellFormed_ofRule trivial trivial
  | _ => exact wellFormed_ofRule trivial trivial

/-- Writing and reading a tree loses nothing exactly if the tree is well-formed,
whether trees are compared part by part or up to the sign of float zeros. All
trees that are read are well-formed, and so are those that the functions for
matched nodes make of well-formed trees, however they are nested; a message
whose content is set to such a tree holds that tree. -/
theorem codec_lossless_iff_wellFormed :
    (∀ node : Node,
      (ofJson node.toJson = .ok node ↔ node.WellFormed) ∧
      ((∃ again, ofJson node.toJson = .ok again ∧ again.same node = true) ↔ node.WellFormed)) ∧
    (∀ (value : Json) (node : Node), ofJson value = .ok node → node.WellFormed) ∧
    (∀ node : Node, Built node → node.WellFormed ∧
      ∀ {σ α : Type} (m : Message σ α),
        (m.setJsonBody (.ok node.toJson)).interaction.contents = .json MediaType.json node ∧
        (m.setJsonBody (.ok node.toJson)).contentError = none) := by
  refine ⟨?_, ?_, ?_⟩
  · intro node
    constructor
    · exact ⟨wellFormed_of_ofJson _, ofJson_toJson⟩
    constructor
    · rintro ⟨again, hread, hsame⟩
      exact wellFormed_of_same hsame (wellFormed_of_ofJson _ hread)
    · intro h
      exact ⟨node, ofJson_toJson h, (same_iff_plain _ _).mpr rfl⟩
  · intro value node h
    exact wellFormed_of_ofJson value h
  · intro node hbuilt
    have hwell := hbuilt.isWellFormed
    refine ⟨hwell, ?_⟩
    intro σ α m
    simp only [Message.setJsonBody, Message.setValue, ofJson_toJson hwell]
    exact ⟨rfl, rfl⟩

/-- An array of objects under a rule, with an example that a rule stands for. -/
theorem codec_lossless_nested_like :
    let line := Node.object [("quantity", .integer 2), ("sku", .like (.string "A-1"))]
    let node := Node.eachLike line 1
    (∃ value, ofJson value = .ok node) ∧ Built node ∧ node.WellFormed := by
  intro line node
  have hline : Built line := by
    apply Built.object (by decide)
    intro member hmember
    simp only [List.mem_cons, List.not_mem_nil, or_false] at hmember
    rcases hmember with rfl | rfl
    · exact .integer 2
    · exact .like (.wellFormed trivial)
  have hnode : Built node := .eachLike 1 hline
  have hwell := (codec_lossless_iff_wellFormed.2.2 node hnode).1
  have hread := ((codec_lossless_iff_wellFormed.1 node).1).mpr hwell
  exact ⟨⟨node.toJson, hread⟩, hnode, codec_lossless_iff_wellFormed.2.1 node.toJson node hread⟩

end Node

end MessageContract
