import MessageContract.Proofs.Node.Visits

/-!
What is said on the way. A visited node warns if it has a regex rule and its example, once it
has become a value, is no text or one that the pattern does not match. It warns once, however
often its value is repeated or dropped afterwards; the warnings come in the order of the visits
and end with the first node that fails. What a pattern matches changes the warnings and nothing
else.
-/

namespace MessageContract

/-- What a rule has to say of the value that its example has become. -/
def Rule.warning? (engine : PatternEngine) (rule : Rule) (value : Json) : Option Warning :=
  match rule with
  | .regex pattern => sampleWarning? engine pattern value
  | _ => none

namespace Visit

/-- The warning of a visited node, if its example becomes a value of which there is one. -/
def warning? (engine : PatternEngine) (visit : Visit) : Option Warning := do
  let sample ← visit.sample
  let value ← (sample.concrete engine).outcome.toOption
  visit.rule.warning? engine value

/-- A node whose regex rule would refuse its own example, and what it warns of. -/
inductive Warns (engine : PatternEngine) : Visit → Warning → Prop
  | mismatch {pattern text : String} {sample : Node} {isMatch : String → Bool}
      (hsample : (sample.concrete engine).outcome = .ok (.string text))
      (hcompile : engine.compile pattern = .ok isMatch) (hrefused : isMatch text = false) :
      Warns engine ⟨.regex pattern, some sample⟩ (.mismatch pattern text)
  | notString {pattern : String} {sample : Node} {value : Json} {isMatch : String → Bool}
      (hsample : (sample.concrete engine).outcome = .ok value)
      (hcompile : engine.compile pattern = .ok isMatch) (hvalue : ∀ text, value ≠ .string text) :
      Warns engine ⟨.regex pattern, some sample⟩ (.notString pattern value)

variable {engine : PatternEngine} {visit : Visit} {warning : Warning} {e : Error}

theorem warns_of_sampleWarning? {pattern : String} {sample : Node} {value : Json}
    (hsample : (sample.concrete engine).outcome = .ok value)
    (hwarning : sampleWarning? engine pattern value = some warning) :
    Warns engine ⟨.regex pattern, some sample⟩ warning := by
  unfold sampleWarning? at hwarning
  split at hwarning
  case h_1 => cases hwarning
  case h_2 isMatch hcompile =>
    split at hwarning
    case h_1 text =>
      obtain ⟨hrefused, hwarning⟩ := Option.ite_none_left_eq_some.mp hwarning
      obtain rfl := Option.some.inj hwarning
      exact .mismatch hsample hcompile (Bool.eq_false_iff.mpr hrefused)
    case h_2 hvalue =>
      obtain rfl := Option.some.inj hwarning
      exact .notString hsample hcompile hvalue

theorem warning?_some {rule : Rule} {sample : Node} {value : Json}
    (hsample : (sample.concrete engine).outcome = .ok value) :
    warning? engine ⟨rule, some sample⟩ = rule.warning? engine value := by
  simp [warning?, hsample, Except.toOption]

theorem warning?_eq_some : visit.warning? engine = some warning ↔ visit.Warns engine warning := by
  constructor
  · obtain ⟨rule, sample⟩ := visit
    intro hwarning
    obtain ⟨sample, rfl, hwarning⟩ := Option.bind_eq_some_iff.mp hwarning
    obtain ⟨value, hvalue, hwarning⟩ := Option.bind_eq_some_iff.mp hwarning
    cases rule with
    | regex pattern => exact warns_of_sampleWarning? (Outcome.toOption_eq_some.mp hvalue) hwarning
    | _ => cases hwarning
  · intro hwarns
    cases hwarns with
    | mismatch hsample hcompile hrefused =>
        simp [warning?_some hsample, Rule.warning?, sampleWarning?, hcompile, hrefused]
    | @notString pattern sample value isMatch hsample hcompile hvalue =>
        rw [warning?_some hsample, Rule.warning?, sampleWarning?, hcompile]
        cases value with
        | string text => exact absurd rfl (hvalue text)
        | _ => rfl

/-- A node that fails has nothing to say. -/
theorem warning?_of_fault? (hfault : visit.fault? engine = some e) :
    visit.warning? engine = none := by
  apply Option.eq_none_iff_forall_ne_some.mpr
  intro warning hwarning
  have hfails := fault?_eq_some.mp hfault
  cases warning?_eq_some.mp hwarning with
  | mismatch _ hcompile =>
      cases hfails with
      | badPattern _ hrefused => cases hrefused.symm.trans hcompile
  | notString _ hcompile =>
      cases hfails with
      | badPattern _ hrefused => cases hrefused.symm.trans hcompile

end Visit

namespace Traced

variable {α β : Type}

theorem warnings_bind (t : Traced α) (next : α → Traced β) :
    (t >>= next).warnings = t.warnings ++
      match t.outcome with
      | .ok a => (next a).warnings
      | .error _ => [] := by
  change (bind t next).warnings = _
  unfold bind
  cases t.outcome with
  | ok a => rfl
  | error e => exact (List.append_nil _).symm

theorem warnings_map (t : Traced α) (f : α → β) :
    (do return f (← t) : Traced β).warnings = t.warnings := by
  rw [warnings_bind]
  cases t.outcome <;> exact List.append_nil _

end Traced

open Traced

namespace Rule

theorem warnings_boundedArray (min max : Option Nat) (items : List Json) :
    (boundedArray min max items).warnings = [] := by
  unfold boundedArray
  dsimp only
  split
  · rfl
  · split <;> rfl

theorem warnings_settle (engine : PatternEngine) (rule : Rule) (sample : Node) (value : Json) :
    (rule.settle engine sample value).warnings = (rule.warning? engine value).toList := by
  cases rule with
  | regex pattern =>
      refine (warnings_map _ _).trans ?_
      rw [checkSample_eq]
      rfl
  | sameType lower upper =>
      unfold settle
      split
      case h_2 => exact warnings_boundedArray _ _ _
      case h_3 hrule => cases hrule
      all_goals rfl
  | _ => rfl

theorem warnings_canonical (rule : Rule) : rule.canonical.warnings = [] := by
  have hdate (format : Option String) (default : String) :
      (canonicalDate format default).warnings = [] := by
    unfold canonicalDate
    split <;> rfl
  cases rule with
  | timestamp | date | time => exact hdate _ _
  | _ => rfl

end Rule

/-- The engines have the same patterns, whatever texts these match, and say the same of what
is none. -/
def PatternEngine.SamePatterns (engine other : PatternEngine) : Prop :=
  ∀ pattern, other.fault? pattern = engine.fault? pattern

theorem Rule.outcome_settle_congr {engine other : PatternEngine}
    (hpatterns : engine.SamePatterns other) (rule : Rule) (sample : Node) (value : Json) :
    (rule.settle other sample value).outcome = (rule.settle engine sample value).outcome := by
  cases rule with
  | regex pattern =>
      unfold settle
      rw [outcome_bind, outcome_bind, checkSample_eq, checkSample_eq, hpatterns]
  | sameType lower upper =>
      unfold settle
      split
      case h_3 hrule => cases hrule
      all_goals rfl
  | _ => rfl

namespace Node

/-- The warnings of the visits before the first one that fails. -/
def heard (engine : PatternEngine) (visits : List Visit) : List Warning :=
  (visits.takeWhile fun visit => (visit.fault? engine).isNone).filterMap (Visit.warning? engine)

section Heard

variable {engine : PatternEngine} {first second : List Visit} {e : Error}

theorem heard_append (hsound : ∀ visit ∈ first, visit.fault? engine = none)
    (second : List Visit) :
    heard engine (first ++ second) =
      first.filterMap (Visit.warning? engine) ++ heard engine second := by
  have hall : ∀ visit ∈ first, (visit.fault? engine).isNone = true := by
    intro visit hvisit
    rw [hsound visit hvisit, Option.isNone_none]
  rw [heard, List.takeWhile_append_of_pos hall, List.filterMap_append, heard]

theorem heard_of_sound (hsound : ∀ visit ∈ first, visit.fault? engine = none) :
    heard engine first = first.filterMap (Visit.warning? engine) := by
  have hnone : heard engine [] = [] := rfl
  have happend := heard_append hsound []
  rwa [List.append_nil, hnone, List.append_nil] at happend

/-- Nothing is said at a node that fails, and nothing after it. -/
theorem heard_of_fault {visit : Visit} (hsound : ∀ visit ∈ first, visit.fault? engine = none)
    (hfault : visit.fault? engine = some e) (second : List Visit) :
    heard engine (first ++ visit :: second) = first.filterMap (Visit.warning? engine) := by
  have hstop : heard engine (visit :: second) = [] := by
    simp [heard, hfault]
  rw [heard_append hsound, hstop, List.append_nil]

theorem heard_single (visit : Visit) :
    heard engine [visit] = (visit.warning? engine).toList := by
  cases hfault : visit.fault? engine with
  | none =>
      rw [heard_of_sound (List.forall_mem_singleton.mpr hfault)]
      cases hwarning : visit.warning? engine <;> simp [hwarning]
  | some e =>
      rw [Visit.warning?_of_fault? hfault]
      exact heard_of_fault (fun _ hvisit => absurd hvisit List.not_mem_nil) hfault []

/-- If what comes first fails, what would come second is not heard. -/
theorem heard_append_of_fault (hfault : firstFault? engine first = some e)
    (second : List Visit) : heard engine (first ++ second) = heard engine first := by
  obtain ⟨before, visit, after, rfl, hvisit, hsound⟩ := List.findSome?_eq_some_iff.mp hfault
  rw [List.append_assoc, List.cons_append, heard_of_fault hsound hvisit,
    heard_of_fault hsound hvisit]

/-- Where a computation stops at the first fault of its visits, its warnings are those that
are heard, and so on for what comes next. -/
theorem warnings_bind_eq_heard {α β : Type} {t : Traced α} {next : α → Traced β}
    (hends : t.EndsAt (firstFault? engine first)) (ht : t.warnings = heard engine first)
    (hnext : ∀ a, t.outcome = .ok a → (next a).warnings = heard engine second) :
    (t >>= next).warnings = heard engine (first ++ second) := by
  rw [warnings_bind, ht]
  cases hfault : firstFault? engine first with
  | none =>
      rw [hfault] at hends
      obtain ⟨a, ha⟩ := hends
      have hsound := List.findSome?_eq_none_iff.mp hfault
      rw [ha, heard_append hsound, heard_of_sound hsound, ← hnext a ha]
  | some e =>
      rw [hfault] at hends
      have hends : t.outcome = .error e := hends
      rw [hends, heard_append_of_fault hfault]
      exact List.append_nil _

end Heard

mutual

/-- What is said on the way is what is heard from the visits. -/
theorem warnings_concrete (engine : PatternEngine) :
    ∀ node : Node, (node.concrete engine).warnings = heard engine node.visits
  | .null | .bool _ | .number _ | .string _ => by
      rw [concrete, visits]
      rfl
  | .array items => by
      rw [concrete, visits, warnings_map]
      exact warnings_concreteItems engine items
  | .object members => by
      rw [concrete, visits, warnings_map]
      exact warnings_concreteMembers engine members
  | .matched rule none _ _ => by
      rw [concrete_matched_none, visits, heard_single]
      exact rule.warnings_canonical
  | .matched rule (some sample) _ _ => by
      cases hunderstood : rule.isUnderstood with
      | true =>
          rw [concrete_matched_some hunderstood, visits, if_pos hunderstood]
          apply warnings_bind_eq_heard (endsAt_concrete engine sample)
            (warnings_concrete engine sample)
          intro value hvalue
          rw [Rule.warnings_settle, heard_single, Visit.warning?_some hvalue]
      | false =>
          obtain ⟨kind, rfl⟩ := Rule.isUnderstood_eq_false.mp hunderstood
          rw [concrete, visits, if_neg (Bool.eq_false_iff.mp hunderstood), List.nil_append,
            heard_single]
          exact congrArg Option.toList (Visit.warning?_of_fault? rfl).symm

theorem warnings_concreteItems (engine : PatternEngine) :
    ∀ items : List Node, (concreteItems engine items).warnings = heard engine (itemVisits items)
  | [] => by
      rw [concreteItems, itemVisits]
      rfl
  | item :: rest => by
      rw [concreteItems, itemVisits]
      apply warnings_bind_eq_heard (endsAt_concrete engine item) (warnings_concrete engine item)
      intro value _
      rw [warnings_map]
      exact warnings_concreteItems engine rest

theorem warnings_concreteMembers (engine : PatternEngine) :
    ∀ members : List (String × Node),
      (concreteMembers engine members).warnings = heard engine (memberVisits members)
  | [] => by
      rw [concreteMembers, memberVisits]
      rfl
  | (key, member) :: rest => by
      rw [concreteMembers, memberVisits]
      apply warnings_bind_eq_heard (endsAt_concrete engine member)
        (warnings_concrete engine member)
      intro value _
      rw [warnings_map]
      exact warnings_concreteMembers engine rest

end

/-! What becomes of a tree depends on which patterns there are. -/

mutual

theorem outcome_concrete_congr {engine other : PatternEngine}
    (hpatterns : engine.SamePatterns other) :
    ∀ node : Node, (node.concrete other).outcome = (node.concrete engine).outcome
  | .null | .bool _ | .number _ | .string _ => by
      rw [concrete, concrete]
  | .array items => by
      rw [concrete, concrete, outcome_bind, outcome_bind,
        outcome_concreteItems_congr hpatterns items]
  | .object members => by
      rw [concrete, concrete, outcome_bind, outcome_bind,
        outcome_concreteMembers_congr hpatterns members]
  | .matched rule none _ _ => by
      rw [concrete_matched_none, concrete_matched_none]
  | .matched rule (some sample) _ _ => by
      cases hunderstood : rule.isUnderstood with
      | true =>
          rw [concrete_matched_some hunderstood, concrete_matched_some hunderstood,
            outcome_bind, outcome_bind, outcome_concrete_congr hpatterns sample]
          simp only [Rule.outcome_settle_congr hpatterns]
      | false =>
          obtain ⟨kind, rfl⟩ := Rule.isUnderstood_eq_false.mp hunderstood
          rw [concrete, concrete]

theorem outcome_concreteItems_congr {engine other : PatternEngine}
    (hpatterns : engine.SamePatterns other) : ∀ items : List Node,
    (concreteItems other items).outcome = (concreteItems engine items).outcome
  | [] => by rw [concreteItems, concreteItems]
  | item :: rest => by
      rw [concreteItems, concreteItems, outcome_bind, outcome_bind,
        outcome_concrete_congr hpatterns item]
      simp only [outcome_bind, outcome_concreteItems_congr hpatterns rest]

theorem outcome_concreteMembers_congr {engine other : PatternEngine}
    (hpatterns : engine.SamePatterns other) : ∀ members : List (String × Node),
    (concreteMembers other members).outcome = (concreteMembers engine members).outcome
  | [] => by rw [concreteMembers, concreteMembers]
  | (key, member) :: rest => by
      rw [concreteMembers, concreteMembers, outcome_bind, outcome_bind,
        outcome_concrete_congr hpatterns member]
      simp only [outcome_bind, outcome_concreteMembers_congr hpatterns rest]

end

/-- If a tree becomes a value, the warnings are those of all its visits in their order: one for
each regex rule whose example has become no text or one that the pattern does not match. If it
fails, they are those of the visits before the one that fails. What the patterns match makes
no difference to what becomes of the tree. -/
theorem warnings_of_visits (engine : PatternEngine) (node : Node) :
    (∀ value, (node.concrete engine).outcome = .ok value →
      (node.concrete engine).warnings = node.visits.filterMap (Visit.warning? engine)) ∧
    (∀ e, (node.concrete engine).outcome = .error e →
      ∃ before visit after, node.visits = before ++ visit :: after ∧
        (∀ earlier ∈ before, earlier.Sound engine) ∧ visit.FailsWith engine e ∧
        (node.concrete engine).warnings = before.filterMap (Visit.warning? engine)) ∧
    (∀ visit warning, Visit.warning? engine visit = some warning ↔
      visit.Warns engine warning) ∧
    ∀ other, engine.SamePatterns other →
      (node.concrete other).outcome = (node.concrete engine).outcome := by
  have hends := node.endsAt_concrete engine
  have hwarnings := node.warnings_concrete engine
  refine ⟨?_, ?_, fun _ _ => Visit.warning?_eq_some, ?_⟩
  · intro value hvalue
    have hnone := hends.ok_iff.mp ⟨value, hvalue⟩
    rw [hwarnings, heard_of_sound (List.findSome?_eq_none_iff.mp hnone)]
  · intro e herror
    have hfirst := (hends.error_iff e).mp herror
    obtain ⟨before, visit, after, hvisits, hfault, hsound⟩ :=
      List.findSome?_eq_some_iff.mp hfirst
    refine ⟨before, visit, after, hvisits, ?_, Visit.fault?_eq_some.mp hfault, ?_⟩
    · intro earlier hearlier
      exact Visit.fault?_eq_none.mp (hsound earlier hearlier)
    · rw [hwarnings, hvisits, heard_of_fault hsound hfault]
  · intro other hpatterns
    exact outcome_concrete_congr hpatterns node

/-- One of two part numbers is kept, and then repeated by the array around it. Each of the two
has its warning, and has it once. -/
theorem warnings_of_visits_dropped_and_repeated :
    let engine : PatternEngine := { compile := fun _ => .ok fun _ => false }
    let part (sample : Node) : Node := .matched (.regex "A-1") (some sample) none []
    let first : Node := .matched (.sameType none (some 1))
      (some (.array [part (.string "B-2"), part (.bool true)])) none []
    let node : Node := .matched (.sameType (some 2) none) (some (.array [first])) none []
    let made := Json.array [.string "B-2"]
    (node.concrete engine).outcome = .ok (.array [made, made]) ∧
    (node.concrete engine).warnings =
      [.mismatch "A-1" "B-2", .notString "A-1" (.bool true)] := by
  intro engine part first node made
  have hvalue : (node.concrete engine).outcome = .ok (.array [made, made]) := rfl
  obtain ⟨hwarnings, -⟩ := warnings_of_visits engine node
  exact ⟨hvalue, hwarnings _ hvalue⟩

end Node

end MessageContract
