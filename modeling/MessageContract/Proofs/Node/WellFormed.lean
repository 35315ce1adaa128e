import MessageContract.Node.Build
import MessageContract.Node.Wire
import MessageContract.Proofs.Fields
import MessageContract.Proofs.Outcome

/-!
Which content trees can be told from what is written for them. The object of a
matched node holds its rule's attributes, its example, its generator hint and
the attributes kept for others in one space of keys, and a plain object must not
look like a matched node; a tree is well-formed if nothing in it gets in the
way of something else there. Reading makes well-formed trees only.
-/

namespace MessageContract

namespace Rule

/-- The attributes that a rule reads for itself. -/
def ownKeys : Rule → List String
  | .sameType _ _ => ["min", "max"]
  | .regex _ => ["regex"]
  | .timestamp _ _ | .date _ | .time _ => ["format"]
  | _ => []

/-- The kinds of rules that are understood. -/
def knownKinds : List String :=
  ["equality", "type", "regex", "integer", "decimal", "number", "boolean", "null", "include",
    "timestamp", "datetime", "date", "time", "semver"]

/-- A rule that is carried along is none of those that are understood. -/
def Proper : Rule → Prop
  | .unsupported kind => kind ∉ knownKinds
  | _ => True

end Rule

/-- The keys of a matched node's object that are attributes of no rule. -/
def reservedKeys : List String := [matcherKey, sampleKey, generatorKey]

namespace Node

/-- The attributes kept for others have no key that something else has. -/
def AttributesApart (rule : Rule) (attributes : Fields Json) : Prop :=
  ∀ key ∈ reservedKeys ++ rule.ownKeys, Fields.get? key attributes = none

mutual

/-- No part of the tree hides another one when it is written. -/
def WellFormed : Node → Prop
  | .array items => WellFormedItems items
  | .object members => Fields.get? matcherKey members = none ∧ WellFormedMembers members
  | .matched rule sample _ attributes =>
      rule.Proper ∧ AttributesApart rule attributes ∧ WellFormedSample sample
  | _ => True

def WellFormedSample : Option Node → Prop
  | none => True
  | some sample => WellFormed sample

def WellFormedItems : List Node → Prop
  | [] => True
  | item :: rest => WellFormed item ∧ WellFormedItems rest

def WellFormedMembers : List (String × Node) → Prop
  | [] => True
  | (_, value) :: rest => WellFormed value ∧ WellFormedMembers rest

end

theorem wellFormedItems_iff (items : List Node) :
    WellFormedItems items ↔ ∀ item ∈ items, item.WellFormed := by
  induction items with
  | nil => simp [WellFormedItems]
  | cons item rest ih => simp [WellFormedItems, ih]

theorem wellFormedMembers_iff (members : List (String × Node)) :
    WellFormedMembers members ↔ ∀ member ∈ members, member.2.WellFormed := by
  induction members with
  | nil => simp [WellFormedMembers]
  | cons member rest ih => simp [WellFormedMembers, ih]

end Node

namespace Rule

theorem stringAttribute_eq_ok {key : String} {attributes rest : Fields Json}
    {text : Option String} (h : stringAttribute key attributes = .ok (text, rest)) :
    rest = Fields.erase key attributes := by
  unfold stringAttribute at h
  split at h <;> cases h <;> rfl

theorem countAttribute_eq_ok {key : String} {attributes rest : Fields Json}
    {count : Option UInt64} (h : countAttribute key attributes = .ok (count, rest)) :
    rest = Fields.erase key attributes := by
  unfold countAttribute at h
  split at h
  · cases h; rfl
  · cases h; rfl
  · split at h <;> cases h; rfl
  · cases h

/-- A text that is there as it is written is taken out. -/
theorem stringAttribute_of_get? {key : String} {attributes : Fields Json}
    {text : Option String} (hget : Fields.get? key attributes = text.map .string) :
    stringAttribute key attributes = .ok (text, Fields.erase key attributes) := by
  cases text <;> simp only [stringAttribute, hget, Option.map_none, Option.map_some]

theorem unsigned?_toNat (count : UInt64) :
    (Number.integer count.toNat).unsigned? = some count := by
  have hlow : (0 : Int) ≤ count.toNat := by omega
  have hhigh : (count.toNat : Int) < UInt64.size := by exact_mod_cast count.toNat_lt
  rw [Number.unsigned?, if_pos ⟨hlow, hhigh⟩]
  simp

/-- A count that is there as it is written is taken out. -/
theorem countAttribute_of_get? {key : String} {attributes : Fields Json}
    {count : Option UInt64} (hget : Fields.get? key attributes = count.map countJson) :
    countAttribute key attributes = .ok (count, Fields.erase key attributes) := by
  cases count with
  | none => simp only [countAttribute, hget, Option.map_none]
  | some count =>
      have hnumber (n : Number) (hfound : Fields.get? key attributes = some (.number n))
          (hcount : n.unsigned? = some count) :
          countAttribute key attributes = .ok (some count, Fields.erase key attributes) := by
        simp only [countAttribute, hfound, hcount]
      exact hnumber _ hget (unsigned?_toNat count)

/-- What a rule leaves of the attributes it was read from: none of its own keys,
and no key that was not there. -/
def Leaves (rule : Rule) (attributes rest : Fields Json) : Prop :=
  (∀ key ∈ rule.ownKeys, Fields.get? key rest = none) ∧
    ∀ key, Fields.get? key attributes = none → Fields.get? key rest = none

/-- The attributes that are none of the rule's own. -/
def others (rule : Rule) (attributes : Fields Json) : Fields Json :=
  attributes.filter fun field => field.1 ∉ rule.ownKeys

theorem others_of_nil {rule : Rule} (hown : rule.ownKeys = []) (attributes : Fields Json) :
    rule.others attributes = attributes := by
  simp [others, hown]

theorem others_of_singleton {rule : Rule} {key : String} (hown : rule.ownKeys = [key])
    (attributes : Fields Json) : rule.others attributes = Fields.erase key attributes := by
  rw [others, Fields.erase, hown]
  congr 1
  funext field
  simp [bne, beq_eq_decide]

theorem others_sameType (min max : Option UInt64) (attributes : Fields Json) :
    (sameType min max).others attributes =
      Fields.erase "max" (Fields.erase "min" attributes) := by
  rw [others, Fields.erase, Fields.erase, List.filter_filter]
  congr 1
  funext field
  simp [ownKeys, bne, beq_eq_decide, and_comm]

theorem leaves_others (rule : Rule) (attributes : Fields Json) :
    rule.Leaves attributes (rule.others attributes) := by
  constructor
  · intro key hkey
    rw [Fields.get?_eq_none_iff]
    rintro field hfield rfl
    exact of_decide_eq_true (List.mem_filter.mp hfield).2 hkey
  · intro key habsent
    rw [Fields.get?_eq_none_iff] at habsent ⊢
    exact fun field hfield => habsent field (List.mem_filter.mp hfield).1

/-- Reading takes out what belongs to the rule, which is of the kind that was told; a kind
that is read as unknown is none of those that are understood. -/
theorem read_eq_ok {kind : String} {attributes rest : Fields Json} {rule : Rule}
    (h : read kind attributes = .ok (rule, rest)) :
    rule.Proper ∧ rule.kind = kind ∧ rest = rule.others attributes := by
  unfold read at h
  split at h
  case h_2 =>
    obtain ⟨⟨min, afterMin⟩, hmin, h⟩ := Outcome.bind_eq_ok.mp h
    obtain ⟨⟨max, afterMax⟩, hmax, h⟩ := Outcome.bind_eq_ok.mp h
    cases h
    rw [countAttribute_eq_ok hmax, countAttribute_eq_ok hmin]
    exact ⟨trivial, rfl, (others_sameType min max attributes).symm⟩
  case h_3 =>
    obtain ⟨⟨pattern, left⟩, hpattern, h⟩ := Outcome.bind_eq_ok.mp h
    cases pattern with
    | none => cases h
    | some pattern =>
        cases h
        rw [stringAttribute_eq_ok hpattern]
        exact ⟨trivial, rfl, (others_of_singleton rfl attributes).symm⟩
  case h_15 =>
    cases h
    refine ⟨?_, rfl, (others_of_nil rfl attributes).symm⟩
    simp_all [Proper, knownKinds]
  case h_10 | h_11 | h_12 | h_13 =>
    obtain ⟨⟨format, left⟩, hformat, h⟩ := Outcome.bind_eq_ok.mp h
    cases h
    rw [stringAttribute_eq_ok hformat]
    exact ⟨trivial, rfl, (others_of_singleton rfl attributes).symm⟩
  all_goals
    cases h
    exact ⟨trivial, rfl, (others_of_nil rfl attributes).symm⟩

/-- A rule is read back from its kind and its attributes. -/
theorem read_write {rule : Rule} {attributes : Fields Json} (hproper : rule.Proper)
    (habsent : ∀ key ∈ rule.ownKeys, Fields.get? key attributes = none) :
    read rule.kind (rule.write attributes) = .ok (rule, attributes) := by
  -- What was written under one key can be taken out and leaves the attributes.
  have htext (key : String) (habsent : Fields.get? key attributes = none)
      (text : Option String) :
      stringAttribute key (Fields.insert? key (text.map .string) attributes) =
        .ok (text, attributes) := by
    rw [stringAttribute_of_get? (Fields.get?_insert?_self _ habsent),
      Fields.erase_insert?_self, Fields.erase_of_absent habsent]
  cases rule with
  | sameType min max =>
      have hmin : Fields.get? "min" attributes = none := habsent "min" (by simp [ownKeys])
      have hmax : Fields.get? "max" attributes = none := habsent "max" (by simp [ownKeys])
      have hne : ("max" : String) ≠ "min" := by decide
      have hminTaken :
          countAttribute "min" (write (.sameType min max) attributes) =
            .ok (min, Fields.insert? "max" (max.map countJson) attributes) := by
        have hget : Fields.get? "min" (write (.sameType min max) attributes) =
            min.map countJson := by
          rw [write, Fields.get?_insert?_ne hne.symm, Fields.get?_insert?_self _ hmin]
        rw [countAttribute_of_get? hget, write, Fields.erase_insert?_insert? hne hmin]
      have hmaxTaken :
          countAttribute "max" (Fields.insert? "max" (max.map countJson) attributes) =
            .ok (max, attributes) := by
        rw [countAttribute_of_get? (Fields.get?_insert?_self _ hmax),
          Fields.erase_insert?_self, Fields.erase_of_absent hmax]
      simp only [kind, read, hminTaken, hmaxTaken, Outcome.ok_bind]
      rfl
  | regex pattern =>
      have htaken := htext "regex" (habsent "regex" (by simp [ownKeys])) (some pattern)
      simp only [Option.map_some, Fields.insert?] at htaken
      simp only [kind, write, read, htaken, Outcome.ok_bind]
      rfl
  | timestamp format word =>
      have htaken := htext "format" (habsent "format" (by simp [ownKeys])) format
      cases word <;> simp only [kind, TimestampWord.text, write, read, htaken] <;> rfl
  | date format =>
      simp only [kind, write, read, htext "format" (habsent "format" (by simp [ownKeys])) format]
      rfl
  | time format =>
      simp only [kind, write, read, htext "format" (habsent "format" (by simp [ownKeys])) format]
      rfl
  | unsupported kind =>
      simp only [Rule.kind, Rule.write]
      unfold read
      split <;> simp_all [Proper, knownKinds]
  | _ => rfl

end Rule

end MessageContract
