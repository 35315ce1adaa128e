import MessageContract.Contents.Basic
import MessageContract.Proofs.Outcome

/-!
Making content concrete, as a computation that may fail: what becomes of a matched
node, and of an array.
-/

namespace MessageContract

namespace Traced

variable {α β : Type}

@[simp] theorem outcome_ok (a : α) : (ok a).outcome = .ok a := rfl

@[simp] theorem outcome_pure (a : α) : (pure a : Traced α).outcome = .ok a := rfl

@[simp] theorem ok_bind (a : α) (next : α → Traced β) : (ok a >>= next) = next a := by
  change bind (ok a) next = next a
  simp [bind, ok]

/-- Warnings aside, it is a computation that may fail. -/
@[simp] theorem outcome_bind (t : Traced α) (next : α → Traced β) :
    (t >>= next).outcome = t.outcome >>= fun a => (next a).outcome := by
  change (bind t next).outcome = _
  unfold bind
  cases t.outcome <;> rfl

end Traced

open Traced

/-- What there is to say of a value that a pattern is to match. -/
def sampleWarning? (engine : PatternEngine) (pattern : String) (value : Json) : Option Warning :=
  match engine.compile pattern with
  | .error _ => none
  | .ok isMatch =>
      match value with
      | .string text => if isMatch text then none else some (.mismatch pattern text)
      | other => some (.notString pattern other)

/-- What is wrong with a pattern, if anything. -/
def PatternEngine.fault? (engine : PatternEngine) (pattern : String) : Option MatcherFault :=
  match engine.compile pattern with
  | .error reason => some (.badPattern pattern reason)
  | .ok _ => none

theorem PatternEngine.fault?_eq_some {engine : PatternEngine} {pattern : String}
    {fault : MatcherFault} : engine.fault? pattern = some fault ↔
      ∃ reason, engine.compile pattern = .error reason ∧ fault = .badPattern pattern reason := by
  unfold fault?
  cases engine.compile pattern with
  | ok isMatch => simp
  | error reason => simp [eq_comm]

/-- A pattern that compiles is enough, whatever it matches; what it matches makes the
warning. -/
theorem checkSample_eq (engine : PatternEngine) (pattern : String) (value : Json) :
    checkSample engine pattern value =
      { outcome :=
          match engine.fault? pattern with
          | some fault => .error (.invalidMatcher fault)
          | none => .ok ()
        warnings := (sampleWarning? engine pattern value).toList } := by
  unfold checkSample PatternEngine.fault? sampleWarning?
  cases engine.compile pattern with
  | error reason => rfl
  | ok isMatch =>
      cases value with
      | string text =>
          dsimp only
          split <;> rfl
      | _ => rfl

/-- The rule can be worked with and is not only carried along. -/
def Rule.isUnderstood : Rule → Bool
  | .unsupported _ => false
  | _ => true

theorem Rule.isUnderstood_eq_false {rule : Rule} :
    rule.isUnderstood = false ↔ ∃ kind, rule = .unsupported kind := by
  cases rule <;> simp [isUnderstood]

namespace Node

theorem concrete_matched_none (engine : PatternEngine) (rule : Rule) (generator : Option String)
    (attributes : Fields Json) :
    (matched rule none generator attributes).concrete engine = rule.canonical := by
  cases rule <;> simp [concrete, Rule.canonical]

theorem concrete_matched_some {engine : PatternEngine} {rule : Rule}
    (hunderstood : rule.isUnderstood = true) (sample : Node) (generator : Option String)
    (attributes : Fields Json) :
    (matched rule (some sample) generator attributes).concrete engine = (do
      let value ← sample.concrete engine
      rule.settle engine sample value) := by
  cases rule with
  | unsupported kind => cases hunderstood
  | _ => simp only [concrete]

/-! An array becomes the array of what its items become, and an object the object of what
its members become, under their keys. -/

theorem outcome_concreteItems {engine : PatternEngine} {items : List Node} {values : List Json} :
    (concreteItems engine items).outcome = .ok values ↔
      List.Forall₂ (fun item value => (item.concrete engine).outcome = .ok value) items values := by
  induction items generalizing values with
  | nil =>
      rw [concreteItems, outcome_ok, List.forall₂_nil_left_iff, Except.ok.injEq, eq_comm]
  | cons item rest ih =>
      simp only [concreteItems, outcome_bind, outcome_pure, Outcome.bind_eq_ok, ih,
        List.forall₂_cons_left_iff, Except.ok.injEq]
      constructor
      · rintro ⟨value, hvalue, others, hothers, rfl⟩
        exact ⟨value, others, hvalue, hothers, rfl⟩
      · rintro ⟨value, others, hvalue, hothers, rfl⟩
        exact ⟨value, hvalue, others, hothers, rfl⟩

theorem outcome_concrete_array {engine : PatternEngine} {items : List Node} {value : Json} :
    (concrete engine (.array items)).outcome = .ok value ↔ ∃ values, value = .array values ∧
      List.Forall₂ (fun item value => (item.concrete engine).outcome = .ok value) items values := by
  simp only [concrete, outcome_bind, outcome_pure, Outcome.bind_eq_ok, outcome_concreteItems,
    Except.ok.injEq]
  constructor
  · rintro ⟨values, hvalues, rfl⟩
    exact ⟨values, rfl, hvalues⟩
  · rintro ⟨values, rfl, hvalues⟩
    exact ⟨values, hvalues, rfl⟩

theorem outcome_concreteMembers {engine : PatternEngine} {members : Fields Node}
    {values : Fields Json} :
    (concreteMembers engine members).outcome = .ok values ↔
      List.Forall₂ (fun member value => member.1 = value.1 ∧
        (member.2.concrete engine).outcome = .ok value.2) members values := by
  induction members generalizing values with
  | nil =>
      rw [concreteMembers, outcome_ok, List.forall₂_nil_left_iff, Except.ok.injEq, eq_comm]
  | cons member rest ih =>
      simp only [concreteMembers, outcome_bind, outcome_pure, Outcome.bind_eq_ok, ih,
        List.forall₂_cons_left_iff, Except.ok.injEq]
      constructor
      · rintro ⟨value, hvalue, others, hothers, rfl⟩
        exact ⟨(member.1, value), others, ⟨rfl, hvalue⟩, hothers, rfl⟩
      · rintro ⟨⟨key, value⟩, others, ⟨rfl, hvalue⟩, hothers, rfl⟩
        exact ⟨value, hvalue, others, hothers, rfl⟩

theorem outcome_concrete_object {engine : PatternEngine} {members : Fields Node} {value : Json} :
    (concrete engine (.object members)).outcome = .ok value ↔ ∃ values, value = .object values ∧
      List.Forall₂ (fun member value => member.1 = value.1 ∧
        (member.2.concrete engine).outcome = .ok value.2) members values := by
  simp only [concrete, outcome_bind, outcome_pure, Outcome.bind_eq_ok, outcome_concreteMembers,
    Except.ok.injEq]
  constructor
  · rintro ⟨values, hvalues, rfl⟩
    exact ⟨values, rfl, hvalues⟩
  · rintro ⟨values, rfl, hvalues⟩
    exact ⟨values, hvalues, rfl⟩

end Node

end MessageContract
