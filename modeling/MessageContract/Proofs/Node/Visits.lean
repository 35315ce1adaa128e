import MessageContract.Proofs.Date.Canonical
import MessageContract.Proofs.Node.Bounded

/-!
When content can be made concrete. The matched nodes of a tree are visited children
first: items and members in their order, and the example of a node before the node
itself, but for the example of a rule that is not understood. The tree becomes a
value if each visited node can do so, whatever its bounds keep of what was visited,
and otherwise the first node that cannot says what is wrong.
-/

namespace MessageContract

/-- A matched node as far as it matters when it is visited. -/
structure Visit where
  rule : Rule
  sample : Option Node

namespace Node

mutual

/-- The matched nodes in the order in which they are made concrete. -/
def visits : Node → List Visit
  | .null | .bool _ | .number _ | .string _ => []
  | .array items => itemVisits items
  | .object members => memberVisits members
  | .matched rule none _ _ => [⟨rule, none⟩]
  | .matched rule (some sample) _ _ =>
      (if rule.isUnderstood then visits sample else []) ++ [⟨rule, some sample⟩]

def itemVisits : List Node → List Visit
  | [] => []
  | item :: rest => visits item ++ itemVisits rest

def memberVisits : List (String × Node) → List Visit
  | [] => []
  | (_, member) :: rest => visits member ++ memberVisits rest

end

end Node

/-- The value of such a node can only be its example. -/
def Rule.needsSample : Rule → Bool
  | .equality | .sameType _ _ | .regex _ | .includes => true
  | _ => false

/-- The date pattern that the rule is written with. -/
def Rule.format? : Rule → Option String
  | .timestamp format _ | .date format | .time format => format
  | _ => none

/-- The bounds ask for so many elements where there are `count` examples. A lower bound
asks for one at least, and an upper one has the last word. -/
inductive Rule.AsksFor : Option UInt64 → Option UInt64 → (count length : Nat) → Prop
  | between (least greatest : UInt64) (count : Nat) :
      AsksFor (some least) (some greatest) count (min (max least.toNat 1) greatest.toNat)
  | atLeast (least : UInt64) (count : Nat) : AsksFor (some least) none count (max least.toNat 1)
  | atMost (greatest : UInt64) (count : Nat) :
      AsksFor none (some greatest) count (min count greatest.toNat)
  | unbounded (count : Nat) : AsksFor none none count count

namespace Visit

/-- A node that becomes a value once its example has. -/
structure Sound (engine : PatternEngine) (visit : Visit) : Prop where
  understood : visit.rule.isUnderstood = true
  sampled : visit.rule.needsSample = true → visit.sample ≠ none
  compiles : ∀ pattern, visit.rule = .regex pattern →
    ∃ isMatch, engine.compile pattern = .ok isMatch
  accepted : visit.sample = none → ∀ format, visit.rule.format? = some format →
    ∃ pieces, Date.Splits format.toList pieces []
  bounded : ∀ lower upper items length, visit.rule = .sameType lower upper →
    visit.sample = some (.array items) → Rule.AsksFor lower upper items.length length →
    length ≤ itemLimit ∨ length ≤ items.length

/-- What is wrong with a node that does not become a value. -/
inductive FailsWith (engine : PatternEngine) : Visit → Error → Prop
  | unsupported (kind : String) (sample : Option Node) :
      FailsWith engine ⟨.unsupported kind, sample⟩ (.unsupportedKind kind)
  | missingSample {rule : Rule} (hneeds : rule.needsSample = true) :
      FailsWith engine ⟨rule, none⟩ (.invalidMatcher (.missingSample rule.kind))
  | badPattern {pattern : String} {reason : Option String} (sample : Node)
      (hcompile : engine.compile pattern = .error reason) :
      FailsWith engine ⟨.regex pattern, some sample⟩ (.invalidMatcher (.badPattern pattern reason))
  | badFormat {rule : Rule} {format : String} {pieces : List Date.Piece} {rest : List Char}
      {fault : MatcherFault} (hformat : rule.format? = some format)
      (hsplits : Date.Splits format.toList pieces rest) (hstops : Date.Stops format rest fault) :
      FailsWith engine ⟨rule, none⟩ (.invalidMatcher fault)
  | tooManyItems {lower upper : Option UInt64} {items : List Node} {length : Nat}
      (hasked : Rule.AsksFor lower upper items.length length) (hlimit : itemLimit < length)
      (hrepeated : items.length < length) :
      FailsWith engine ⟨.sameType lower upper, some (.array items)⟩
        (.invalidMatcher (.tooManyItems length itemLimit))

end Visit

namespace Rule

/-- The length that is asked for is the one that an array is given. -/
theorem asksFor_iff {lower upper : Option UInt64} {count length : Nat} :
    AsksFor lower upper count length ↔
      length = boundedLength (lower.map UInt64.toNat) (upper.map UInt64.toNat) count := by
  constructor
  · intro hasked
    cases hasked <;> rfl
  · rintro rfl
    cases lower with
    | some least =>
        cases upper with
        | some greatest => exact .between least greatest count
        | none => exact .atLeast least count
    | none =>
        cases upper with
        | some greatest => exact .atMost greatest count
        | none => exact .unbounded count

theorem isUnderstood_of_needsSample {rule : Rule} (hneeds : rule.needsSample = true) :
    rule.isUnderstood = true := by
  cases rule with
  | unsupported => cases hneeds
  | _ => rfl

/-- A rule with a pattern can do without an example. -/
theorem needsSample_of_format? {rule : Rule} {format : String}
    (hformat : rule.format? = some format) :
    rule.isUnderstood = true ∧ rule.needsSample = false := by
  cases rule with
  | timestamp | date | time => exact ⟨rfl, rfl⟩
  | _ => cases hformat

/-- What is wrong with a rule that stands without an example. -/
def faultAlone? (rule : Rule) : Option Error :=
  if rule.needsSample then some (.invalidMatcher (.missingSample rule.kind))
  else
    match rule.format?.map Date.Pattern.canonical with
    | some (.error fault) => some (.invalidMatcher fault)
    | _ => none

/-- What is wrong with a rule whose example becomes a value. -/
def faultWith? (engine : PatternEngine) (rule : Rule) (sample : Node) : Option Error :=
  match rule, sample with
  | .regex pattern, _ => (engine.fault? pattern).map .invalidMatcher
  | .sameType lower upper, .array items =>
      let length :=
        boundedLength (lower.map UInt64.toNat) (upper.map UInt64.toNat) items.length
      if itemLimit < length ∧ items.length < length then
        some (.invalidMatcher (.tooManyItems length itemLimit))
      else none
  | _, _ => none

end Rule

namespace Visit

/-- What is wrong with a node, if anything. -/
def fault? (engine : PatternEngine) (visit : Visit) : Option Error :=
  match visit.rule, visit.sample with
  | .unsupported kind, _ => some (.unsupportedKind kind)
  | rule, none => rule.faultAlone?
  | rule, some sample => rule.faultWith? engine sample

variable {engine : PatternEngine} {rule : Rule} {visit : Visit} {e : Error}

theorem fault?_none (hunderstood : rule.isUnderstood = true) :
    fault? engine ⟨rule, none⟩ = rule.faultAlone? := by
  cases rule with
  | unsupported => cases hunderstood
  | _ => rfl

theorem fault?_some (hunderstood : rule.isUnderstood = true) (sample : Node) :
    fault? engine ⟨rule, some sample⟩ = rule.faultWith? engine sample := by
  cases rule with
  | unsupported => cases hunderstood
  | _ => rfl

theorem failsWith_of_faultAlone? (hfault : rule.faultAlone? = some e) :
    FailsWith engine ⟨rule, none⟩ e := by
  unfold Rule.faultAlone? at hfault
  split at hfault
  case isTrue hneeds =>
    obtain rfl := Option.some.inj hfault
    exact .missingSample hneeds
  case isFalse =>
    split at hfault
    case h_1 fault hrefused =>
      obtain rfl := Option.some.inj hfault
      obtain ⟨format, hformat, hrefused⟩ := Option.map_eq_some_iff.mp hrefused
      obtain ⟨pieces, rest, hsplits, hstops⟩ :=
        Date.Pattern.canonical_eq_error_iff_stops.mp hrefused
      exact .badFormat hformat hsplits hstops
    case h_2 => cases hfault

theorem failsWith_of_faultWith? {sample : Node}
    (hfault : rule.faultWith? engine sample = some e) :
    FailsWith engine ⟨rule, some sample⟩ e := by
  unfold Rule.faultWith? at hfault
  split at hfault
  case h_1 pattern =>
    obtain ⟨fault, hrefused, rfl⟩ := Option.map_eq_some_iff.mp hfault
    obtain ⟨reason, hcompile, rfl⟩ := PatternEngine.fault?_eq_some.mp hrefused
    exact .badPattern sample hcompile
  case h_2 lower upper items =>
    obtain ⟨hlong, hfault⟩ := Option.ite_none_right_eq_some.mp hfault
    obtain rfl := Option.some.inj hfault
    exact .tooManyItems (Rule.asksFor_iff.mpr rfl) hlong.1 hlong.2
  case h_3 => cases hfault

theorem fault?_eq_some : visit.fault? engine = some e ↔ visit.FailsWith engine e := by
  constructor
  · obtain ⟨rule, sample⟩ := visit
    intro hfault
    cases hunderstood : rule.isUnderstood with
    | false =>
        obtain ⟨kind, rfl⟩ := Rule.isUnderstood_eq_false.mp hunderstood
        obtain rfl := Option.some.inj hfault
        exact .unsupported kind sample
    | true =>
        cases sample with
        | none => exact failsWith_of_faultAlone? (fault?_none hunderstood ▸ hfault)
        | some sample => exact failsWith_of_faultWith? (fault?_some hunderstood sample ▸ hfault)
  · intro hfails
    cases hfails with
    | unsupported kind sample => rfl
    | missingSample hneeds =>
        rw [fault?_none (Rule.isUnderstood_of_needsSample hneeds), Rule.faultAlone?, if_pos hneeds]
    | badPattern sample hcompile =>
        have hfault := PatternEngine.fault?_eq_some.mpr ⟨_, hcompile, rfl⟩
        simp [fault?, Rule.faultWith?, hfault]
    | badFormat hformat hsplits hstops =>
        obtain ⟨hunderstood, hneeds⟩ := Rule.needsSample_of_format? hformat
        have hrefused := Date.Pattern.canonical_eq_error_iff_stops.mpr ⟨_, _, hsplits, hstops⟩
        simp [fault?_none hunderstood, Rule.faultAlone?, hneeds, hformat, hrefused]
    | tooManyItems hasked hlimit hrepeated =>
        obtain rfl := Rule.asksFor_iff.mp hasked
        exact if_pos ⟨hlimit, hrepeated⟩

/-- A node is sound unless something is wrong with it. -/
theorem sound_iff : visit.Sound engine ↔ ∀ e, ¬visit.FailsWith engine e := by
  obtain ⟨rule, sample⟩ := visit
  constructor
  · intro hsound e hfails
    cases hfails with
    | unsupported kind => cases hsound.understood
    | missingSample hneeds => exact hsound.sampled hneeds rfl
    | badPattern _ hcompile =>
        obtain ⟨isMatch, hcompiles⟩ := hsound.compiles _ rfl
        cases hcompile.symm.trans hcompiles
    | badFormat hformat hsplits hstops =>
        obtain ⟨all, hall⟩ := hsound.accepted rfl _ hformat
        exact Date.Pattern.not_stops_of_splits hall hsplits hstops
    | tooManyItems hasked hlimit hrepeated =>
        rcases hsound.bounded _ _ _ _ rfl rfl hasked with hshort | hshort
        · exact absurd hshort (Nat.not_le_of_lt hlimit)
        · exact absurd hshort (Nat.not_le_of_lt hrepeated)
  · intro hnone
    have hsampled : rule.needsSample = true → sample ≠ none := by
      rintro hneeds rfl
      exact hnone _ (.missingSample hneeds)
    refine {
      understood := ?_
      sampled := hsampled
      compiles := ?_
      accepted := ?_
      bounded := ?_ }
    · cases rule with
      | unsupported kind => exact absurd (.unsupported kind sample) (hnone _)
      | _ => rfl
    · rintro pattern rfl
      obtain ⟨found, rfl⟩ := Option.ne_none_iff_exists'.mp (hsampled rfl)
      cases hcompile : engine.compile pattern with
      | ok isMatch => exact ⟨isMatch, rfl⟩
      | error reason => exact absurd (.badPattern found hcompile) (hnone _)
    · rintro rfl format hformat
      obtain ⟨pieces, rest, hsplits, rfl | ⟨fault, hstops⟩⟩ :=
        Date.splits_or_stops format format.toList
      · exact ⟨pieces, hsplits⟩
      · exact absurd (.badFormat hformat hsplits hstops) (hnone _)
    · rintro lower upper items length rfl rfl hasked
      by_contra! hlong
      exact hnone _ (.tooManyItems hasked hlong.1 hlong.2)

theorem fault?_eq_none : visit.fault? engine = none ↔ visit.Sound engine := by
  simp only [sound_iff, ← fault?_eq_some, Option.eq_none_iff_forall_ne_some, ne_eq]

/-- Either the kind is not understood, or the matcher is invalid. -/
theorem FailsWith.kind (h : visit.FailsWith engine e) :
    (∃ kind, visit.rule = .unsupported kind ∧ e = .unsupportedKind kind) ∨
      visit.rule.isUnderstood = true ∧ ∃ fault, e = .invalidMatcher fault := by
  cases h with
  | unsupported kind => exact .inl ⟨kind, rfl, rfl⟩
  | missingSample hneeds => exact .inr ⟨Rule.isUnderstood_of_needsSample hneeds, _, rfl⟩
  | badPattern => exact .inr ⟨rfl, _, rfl⟩
  | badFormat hformat => exact .inr ⟨(Rule.needsSample_of_format? hformat).1, _, rfl⟩
  | tooManyItems => exact .inr ⟨rfl, _, rfl⟩

end Visit

namespace Traced

variable {α β : Type}

/-- It comes to a result if there is no fault, and ends with the fault if there is. -/
def EndsAt (t : Traced α) : Option Error → Prop
  | none => ∃ a, t.outcome = .ok a
  | some e => t.outcome = .error e

theorem endsAt_ok (a : α) : (ok a).EndsAt none := ⟨a, rfl⟩

theorem endsAt_fail (e : Error) : (fail e : Traced α).EndsAt (some e) := rfl

/-- The first fault counts. -/
theorem endsAt_bind {t : Traced α} {next : α → Traced β} {first second : Option Error}
    (ht : t.EndsAt first) (hnext : ∀ a, t.outcome = .ok a → (next a).EndsAt second) :
    (t >>= next).EndsAt (first.or second) := by
  cases first with
  | some e =>
      change (t >>= next).outcome = .error e
      have ht : t.outcome = .error e := ht
      rw [outcome_bind, ht, Outcome.error_bind]
  | none =>
      obtain ⟨a, ha⟩ := ht
      have hsame : (t >>= next).outcome = (next a).outcome := by
        rw [outcome_bind, ha, Outcome.ok_bind]
      have hrest := hnext a ha
      cases second with
      | none =>
          obtain ⟨b, hb⟩ := hrest
          exact ⟨b, hsame.trans hb⟩
      | some e => exact hsame.trans hrest

theorem endsAt_map {t : Traced α} {fault : Option Error} (ht : t.EndsAt fault) (f : α → β) :
    (do return f (← t) : Traced β).EndsAt fault := by
  have hmap := endsAt_bind ht fun a _ => endsAt_ok (f a)
  rwa [Option.or_none] at hmap

theorem EndsAt.ok_iff {t : Traced α} {fault : Option Error} (h : t.EndsAt fault) :
    (∃ a, t.outcome = .ok a) ↔ fault = none := by
  cases fault with
  | none => exact iff_of_true h rfl
  | some e =>
      have h : t.outcome = .error e := h
      simp [h]

theorem EndsAt.error_iff {t : Traced α} {fault : Option Error} (h : t.EndsAt fault) (e : Error) :
    t.outcome = .error e ↔ fault = some e := by
  cases fault with
  | none =>
      obtain ⟨a, ha⟩ := h
      simp [ha]
  | some e' =>
      have h : t.outcome = .error e' := h
      simp [h]

end Traced

open Traced

namespace Date.Pattern

/-- The patterns that stand in for one that is not given are accepted. -/
theorem canonical_default {pattern : String}
    (hdefault : pattern ∈ [defaultTimestampFormat, defaultDateFormat, defaultTimeFormat]) :
    ∃ text, canonical pattern = .ok text := by
  have htimestamp : toFormat defaultTimestampFormat = .ok "%Y-%m-%dT%H:%M:%S" := rfl
  have hdate : toFormat defaultDateFormat = .ok "%Y-%m-%d" := rfl
  have htime : toFormat defaultTimeFormat = .ok "%H:%M:%S" := rfl
  simp only [List.mem_cons, List.not_mem_nil, or_false] at hdefault
  rcases hdefault with rfl | rfl | rfl
  · exact canonical_of_toFormat htimestamp
  · exact canonical_of_toFormat hdate
  · exact canonical_of_toFormat htime

end Date.Pattern

namespace Rule

theorem endsAt_canonicalDate {default : String}
    (hdefault : default ∈ [defaultTimestampFormat, defaultDateFormat, defaultTimeFormat])
    (format : Option String) :
    (canonicalDate format default).EndsAt
      (match format.map Date.Pattern.canonical with
        | some (.error fault) => some (.invalidMatcher fault)
        | _ => none) := by
  obtain ⟨text, haccepted⟩ := Date.Pattern.canonical_default hdefault
  unfold canonicalDate
  cases format with
  | none =>
      rw [Option.getD_none, haccepted]
      exact endsAt_ok _
  | some format =>
      rw [Option.getD_some, Option.map_some]
      cases Date.Pattern.canonical format with
      | ok written => exact endsAt_ok _
      | error fault => exact endsAt_fail _

/-- A rule without an example becomes a value unless it is broken. -/
theorem endsAt_canonical (engine : PatternEngine) (rule : Rule) :
    rule.canonical.EndsAt (Visit.fault? engine ⟨rule, none⟩) := by
  cases rule with
  | timestamp format => exact endsAt_canonicalDate (by simp) format
  | date format => exact endsAt_canonicalDate (by simp) format
  | time format => exact endsAt_canonicalDate (by simp) format
  | equality | sameType | regex | includes | unsupported => exact endsAt_fail _
  | integer | decimal | number | boolean | null | semver => exact endsAt_ok _

theorem endsAt_checkSample (engine : PatternEngine) (pattern : String) (sample : Json) :
    (checkSample engine pattern sample).EndsAt
      ((engine.fault? pattern).map .invalidMatcher) := by
  rw [checkSample_eq]
  cases engine.fault? pattern with
  | some fault => exact rfl
  | none => exact ⟨(), rfl⟩

theorem endsAt_settle_array (engine : PatternEngine) (lower upper : Option UInt64)
    {items : List Node} {values : List Json} (hlength : items.length = values.length) :
    ((sameType lower upper).settle engine (.array items) (.array values)).EndsAt
      ((sameType lower upper).faultWith? engine (.array items)) := by
  have houtcome := (outcome_settle_array engine lower upper items values).trans
    (outcome_boundedArray _ _ values)
  rw [← hlength] at houtcome
  unfold faultWith?
  dsimp only
  split
  case isTrue hlong => exact houtcome.trans (if_pos hlong)
  case isFalse hshort => exact ⟨_, houtcome.trans (if_neg hshort)⟩

/-- Once the example has become a value, so does the node, unless its own rule is
broken. -/
theorem endsAt_settle {engine : PatternEngine} {rule : Rule} {sample : Node} {value : Json}
    (hunderstood : rule.isUnderstood = true)
    (hvalue : (sample.concrete engine).outcome = .ok value) :
    (rule.settle engine sample value).EndsAt (rule.faultWith? engine sample) := by
  cases rule with
  | unsupported kind => cases hunderstood
  | regex pattern => exact endsAt_map (endsAt_checkSample engine pattern value) fun _ => value
  | sameType lower upper =>
      cases sample with
      | array items =>
          obtain ⟨values, rfl, hvalues⟩ := Node.outcome_concrete_array.mp hvalue
          exact endsAt_settle_array engine lower upper hvalues.length_eq
      | _ => cases lower <;> cases upper <;> exact endsAt_ok value
  | _ => exact endsAt_ok value

end Rule

namespace Node

/-- The fault of the first of the visits that has one. -/
def firstFault? (engine : PatternEngine) (visits : List Visit) : Option Error :=
  visits.findSome? (Visit.fault? engine)

theorem firstFault?_append (engine : PatternEngine) (first second : List Visit) :
    firstFault? engine (first ++ second) =
      (firstFault? engine first).or (firstFault? engine second) :=
  List.findSome?_append

theorem firstFault?_single (engine : PatternEngine) (visit : Visit) :
    firstFault? engine [visit] = visit.fault? engine := by
  cases hfault : visit.fault? engine <;> simp [firstFault?, hfault]

mutual

/-- Making a tree concrete ends with the fault of the first node that has one. -/
theorem endsAt_concrete (engine : PatternEngine) :
    ∀ node : Node, (node.concrete engine).EndsAt (firstFault? engine node.visits)
  | .null | .bool _ | .number _ | .string _ => by
      rw [concrete, visits]
      exact endsAt_ok _
  | .array items => by
      rw [concrete, visits]
      exact endsAt_map (endsAt_concreteItems engine items) _
  | .object members => by
      rw [concrete, visits]
      exact endsAt_map (endsAt_concreteMembers engine members) _
  | .matched rule none _ _ => by
      rw [concrete_matched_none, visits, firstFault?_single]
      exact rule.endsAt_canonical engine
  | .matched rule (some sample) _ _ => by
      rw [visits, firstFault?_append, firstFault?_single]
      cases hunderstood : rule.isUnderstood with
      | true =>
          rw [concrete_matched_some hunderstood, if_pos rfl, Visit.fault?_some hunderstood]
          exact endsAt_bind (endsAt_concrete engine sample) fun _ => rule.endsAt_settle hunderstood
      | false =>
          obtain ⟨kind, rfl⟩ := Rule.isUnderstood_eq_false.mp hunderstood
          rw [concrete]
          exact endsAt_fail _

theorem endsAt_concreteItems (engine : PatternEngine) :
    ∀ items : List Node, (concreteItems engine items).EndsAt (firstFault? engine (itemVisits items))
  | [] => by
      rw [concreteItems, itemVisits]
      exact endsAt_ok _
  | item :: rest => by
      rw [concreteItems, itemVisits, firstFault?_append]
      exact endsAt_bind (endsAt_concrete engine item) fun _ _ =>
        endsAt_map (endsAt_concreteItems engine rest) _

theorem endsAt_concreteMembers (engine : PatternEngine) :
    ∀ members : List (String × Node),
      (concreteMembers engine members).EndsAt (firstFault? engine (memberVisits members))
  | [] => by
      rw [concreteMembers, memberVisits]
      exact endsAt_ok _
  | (key, member) :: rest => by
      rw [concreteMembers, memberVisits, firstFault?_append]
      exact endsAt_bind (endsAt_concrete engine member) fun _ _ =>
        endsAt_map (endsAt_concreteMembers engine rest) _

end

/-- A tree becomes a value if every visited node is sound. Otherwise the first one
that is not says what is wrong: that its kind is not understood, or that the matcher
is invalid. -/
theorem concrete_fails_first (engine : PatternEngine) (node : Node) :
    ((∃ value, (node.concrete engine).outcome = .ok value) ↔
      ∀ visit ∈ node.visits, visit.Sound engine) ∧
    ∀ e, (node.concrete engine).outcome = .error e ↔
      ∃ before visit after, node.visits = before ++ visit :: after ∧
        (∀ earlier ∈ before, earlier.Sound engine) ∧ visit.FailsWith engine e ∧
        ((∃ kind, visit.rule = .unsupported kind ∧ e = .unsupportedKind kind) ∨
          visit.rule.isUnderstood = true ∧ ∃ fault, e = .invalidMatcher fault) := by
  have hends := node.endsAt_concrete engine
  constructor
  · rw [hends.ok_iff, firstFault?, List.findSome?_eq_none_iff]
    simp only [Visit.fault?_eq_none]
  · intro e
    rw [hends.error_iff, firstFault?, List.findSome?_eq_some_iff]
    simp only [Visit.fault?_eq_none, Visit.fault?_eq_some]
    constructor
    · rintro ⟨before, visit, after, hvisits, hfails, hsound⟩
      exact ⟨before, visit, after, hvisits, hsound, hfails, hfails.kind⟩
    · rintro ⟨before, visit, after, hvisits, hsound, hfails, -⟩
      exact ⟨before, visit, after, hvisits, hfails, hsound⟩

end Node

/-! Hence making content concrete fails because of a matcher, and for nothing else. -/

/-- An error of making content concrete. -/
def Error.IsMatcherError : Error → Prop
  | .unsupportedKind _ => True
  | .invalidMatcher _ => True
  | _ => False

/-- If it fails, it fails because of a matcher. -/
def Traced.FailsAtMatcher {α : Type} (t : Traced α) : Prop :=
  ∀ e, t.outcome = .error e → e.IsMatcherError

theorem Node.failsAtMatcher_concrete (engine : PatternEngine) (node : Node) :
    (node.concrete engine).FailsAtMatcher := by
  intro e herror
  have hfirst := ((node.endsAt_concrete engine).error_iff e).mp herror
  obtain ⟨_, visit, _, _, hfault, _⟩ := List.findSome?_eq_some_iff.mp hfirst
  rcases (Visit.fault?_eq_some.mp hfault).kind with ⟨kind, -, rfl⟩ | ⟨-, fault, rfl⟩
  · trivial
  · trivial

theorem Contents.failsAtMatcher_concrete (engine : PatternEngine) (contents : Contents) :
    (contents.concrete engine).FailsAtMatcher := by
  cases contents with
  | empty =>
      intro e herror
      cases herror
  | json contentType body => exact body.failsAtMatcher_concrete engine
  | bytes contentType data =>
      intro e herror
      unfold Contents.concrete at herror
      dsimp only at herror
      split at herror <;> cases herror

end MessageContract
