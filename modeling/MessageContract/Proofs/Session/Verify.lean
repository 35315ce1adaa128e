import MessageContract.Proofs.Node.Visits
import MessageContract.Proofs.Store.Write
import MessageContract.Session

/-!
The verification of a message, stage by stage. What the handler is given is a
function of the message alone; the handler is called on it once, and only what
it accepts is recorded. A failed verification leaves the session's contract and
its file as they were, given a handler that leaves them alone.
-/

namespace MessageContract

variable {σ α : Type}

/-- The message reaches the handler, in the form given: it has a description, its
content could be read, has a concrete form, and is of the handler's type. -/
def Message.Reaches (engine : PatternEngine) (m : Message σ α) (given : ConcreteMessage α) :
    Prop :=
  Text.allBlank m.interaction.description = false ∧ m.contentError = none ∧
    ∃ value, (m.interaction.contents.concrete engine).outcome = .ok value ∧
      ∃ contents, m.target.decode value = .ok contents ∧
        given = {
          description := m.interaction.description
          contents
          contentType := m.interaction.contents.contentType?
          metadata := m.interaction.metadata }

/-- The bench as the handler finds it: the warnings have been reported. -/
def Message.warned (engine : PatternEngine) (m : Message σ α) (bench : Bench σ) : Bench σ :=
  { bench with
    events := bench.events ++ (m.interaction.contents.concrete engine).warnings.map .warned }

theorem exists_of_isOk {ε β : Type} {run : Except ε Unit × β} (h : run.1.isOk = true) :
    ∃ after, run = (.ok (), after) := by
  obtain ⟨_ | _, after⟩ := run
  · cases h
  · exact ⟨after, rfl⟩

namespace Session

/-- The session has a contract on the bench, and it is one of its pair. -/
def Open (s : Session) (bench : Bench σ) : Prop :=
  ∃ c, bench.contracts[s.slot]? = some c ∧ c.consumer = s.settings.consumer ∧
    c.provider = s.settings.provider

/-- The names of the session's file. -/
def fileNames (s : Session) : List String :=
  s.store.fileNames s.settings.consumer s.settings.provider

/-- The handler touches neither the session's contract nor its file. -/
def LeftAloneBy (s : Session) (handler : Handler σ α) : Prop :=
  ∀ given bench, (handler given bench).2.contracts[s.slot]? = bench.contracts[s.slot]? ∧
    (handler given bench).2.disk.file? s.fileNames = bench.disk.file? s.fileNames

theorem contract_of_open {s : Session} {bench : Bench σ} (hopen : s.Open bench) :
    bench.contracts[s.slot]? = some (s.contract bench) ∧
      (s.contract bench).consumer = s.settings.consumer ∧
      (s.contract bench).provider = s.settings.provider := by
  obtain ⟨c, hslot, hconsumer, hprovider⟩ := hopen
  rw [contract, hslot]
  exact ⟨rfl, hconsumer, hprovider⟩

theorem contract_congr {s : Session} {first second : Bench σ}
    (h : first.contracts[s.slot]? = second.contracts[s.slot]?) :
    s.contract first = s.contract second := by
  rw [contract, contract, h]

/-- A session that is started gets a contract of its own after the others. -/
theorem start_eq_ok {settings : Settings} {s : Session} {bench after : Bench σ} :
    start settings bench = (.ok s, after) ↔ settings.validate = .ok () ∧
      s = ⟨settings, bench.contracts.length⟩ ∧
      after = { bench with
        contracts := bench.contracts ++ [.new settings.consumer settings.provider] } := by
  unfold start
  cases hvalid : settings.validate with
  | error e =>
      refine iff_of_false ?_ ?_
      · intro hrun
        cases (Prod.mk.inj hrun).1
      · rintro ⟨⟨⟩, -⟩
  | ok _ =>
      constructor
      · intro hrun
        obtain ⟨hs, rfl⟩ := Prod.mk.inj hrun
        exact ⟨rfl, (Except.ok.inj hs).symm, rfl⟩
      · rintro ⟨-, rfl, rfl⟩
        rfl

theorem open_of_start {settings : Settings} {s : Session} {bench after : Bench σ}
    (hrun : start settings bench = (.ok s, after)) : s.Open after := by
  obtain ⟨-, rfl, rfl⟩ := start_eq_ok.mp hrun
  exact ⟨Contract.new settings.consumer settings.provider, by simp, rfl, rfl⟩

theorem contract_of_start {settings : Settings} {s : Session} {bench after : Bench σ}
    (hrun : start settings bench = (.ok s, after)) :
    s.contract after = .new settings.consumer settings.provider := by
  obtain ⟨-, rfl, rfl⟩ := start_eq_ok.mp hrun
  simp [contract]

/-! The stages before the handler. -/

theorem makeConcrete_run (engine : PatternEngine) (i : Interaction) (bench : Bench σ) :
    makeConcrete engine i bench =
      (match (i.contents.concrete engine).outcome with
        | .error e => .error e
        | .ok contents => .ok {
            description := i.description, contents, contentType := i.contents.contentType?,
            metadata := i.metadata },
        { bench with
          events := bench.events ++ (i.contents.concrete engine).warnings.map .warned }) := by
  rw [makeConcrete, Outcome.run_bind, Bench.emit, Outcome.run_modify]
  dsimp only
  rw [Outcome.run_lift, Interaction.concrete]
  have hwarnings (t : Traced Json) (f : Json → ConcreteMessage Json) :
      (do return f (← t) : Traced (ConcreteMessage Json)) =
        { outcome := match t.outcome with
            | .error e => .error e
            | .ok contents => .ok (f contents)
          warnings := t.warnings } := by
    change Traced.bind t (fun contents => Traced.ok (f contents)) = _
    unfold Traced.bind
    split <;> simp_all [Traced.ok]
  rw [hwarnings]

/-- What the handler accepts goes on; its reason for rejecting ends the run. -/
theorem handOver_bind {handler : Handler σ α} {given : ConcreteMessage α}
    (next : Unit → BenchOp σ Error Unit) (bench : Bench σ) :
    (handOver handler given >>= next) bench =
      match handler given bench with
      | (.error reason, after) => (.error (.handler reason), after)
      | (.ok _, after) => next () after := by
  rw [Outcome.run_bind, handOver]
  rcases handler given bench with ⟨_ | _, after⟩ <;> rfl

section Stages

variable {s : Session} {engine : PatternEngine} {m : Message σ α} {handler : Handler σ α}
variable {bench : Bench σ}

theorem verify_of_blank (hblank : Text.allBlank m.interaction.description = true) :
    s.verify engine m handler bench = (.error (.invalidInteraction .blankDescription), bench) := by
  rw [verify, Outcome.run_bind, Outcome.run_lift, checkMessage, if_pos hblank]

theorem checkMessage_eq_ok (hdescribed : Text.allBlank m.interaction.description = false)
    (hcontent : m.contentError = none) : checkMessage m = .ok () := by
  simp only [checkMessage, hdescribed, Bool.false_eq_true, if_false, hcontent]

theorem verify_of_badContent (hdescribed : Text.allBlank m.interaction.description = false)
    {e : Error} (hcontent : m.contentError = some e) :
    s.verify engine m handler bench =
      (.error (.invalidInteraction (.badContent e.message)), bench) := by
  rw [verify, Outcome.run_bind, Outcome.run_lift]
  simp only [checkMessage, hdescribed, Bool.false_eq_true, if_false, hcontent]

theorem verify_of_notConcrete (hdescribed : Text.allBlank m.interaction.description = false)
    (hcontent : m.contentError = none) {e : Error}
    (hconcrete : (m.interaction.contents.concrete engine).outcome = .error e) :
    s.verify engine m handler bench = (.error e, m.warned engine bench) := by
  rw [verify, Outcome.run_bind, Outcome.run_lift, checkMessage_eq_ok hdescribed hcontent]
  dsimp only
  rw [Outcome.run_bind, makeConcrete_run, hconcrete]
  rfl

/-- What a message has been made into is decoded, and handed over if it can be. -/
theorem verify_of_concrete (hdescribed : Text.allBlank m.interaction.description = false)
    (hcontent : m.contentError = none) {value : Json}
    (hconcrete : (m.interaction.contents.concrete engine).outcome = .ok value) :
    s.verify engine m handler bench =
      match m.target.decode value with
      | .error e => (.error (.undecodable m.target.name e), m.warned engine bench)
      | .ok contents =>
          match handler {
            description := m.interaction.description, contents
            contentType := m.interaction.contents.contentType?
            metadata := m.interaction.metadata } (m.warned engine bench) with
          | (.error reason, after) => (.error (.handler reason), after)
          | (.ok _, after) => s.record m.interaction after := by
  rw [verify, Outcome.run_bind, Outcome.run_lift, checkMessage_eq_ok hdescribed hcontent]
  dsimp only
  rw [Outcome.run_bind, makeConcrete_run, hconcrete]
  dsimp only
  rw [Outcome.run_bind, Outcome.run_lift, ConcreteMessage.decodeAs]
  dsimp only
  cases m.target.decode value with
  | error e => rfl
  | ok contents => exact handOver_bind _ _

theorem verify_of_undecodable (hdescribed : Text.allBlank m.interaction.description = false)
    (hcontent : m.contentError = none) {value : Json}
    (hconcrete : (m.interaction.contents.concrete engine).outcome = .ok value) {e : Json.Error}
    (hdecode : m.target.decode value = .error e) :
    s.verify engine m handler bench =
      (.error (.undecodable m.target.name e), m.warned engine bench) := by
  rw [verify_of_concrete hdescribed hcontent hconcrete, hdecode]

/-- On a message that reaches it the handler is called once, and what it accepts
is recorded. -/
theorem verify_of_reaches {given : ConcreteMessage α} (hreaches : m.Reaches engine given) :
    s.verify engine m handler bench =
      match handler given (m.warned engine bench) with
      | (.error reason, after) => (.error (.handler reason), after)
      | (.ok _, after) => s.record m.interaction after := by
  obtain ⟨hdescribed, hcontent, value, hconcrete, contents, hdecode, rfl⟩ := hreaches
  rw [verify_of_concrete hdescribed hcontent hconcrete, hdecode]

/-- A message that does not reach the handler changes nothing but what has been
reported. -/
theorem verify_of_not_reaches (s : Session) (handler : Handler σ α) (bench : Bench σ)
    (hnot : ∀ given, ¬ m.Reaches engine given) :
    ∃ e events, s.verify engine m handler bench = (.error e, { bench with events }) ∧
      e.concernsStorage = false := by
  cases hdescribed : Text.allBlank m.interaction.description with
  | true => exact ⟨_, _, verify_of_blank hdescribed, rfl⟩
  | false =>
      cases hcontent : m.contentError with
      | some e => exact ⟨_, _, verify_of_badContent hdescribed hcontent, rfl⟩
      | none =>
          cases hconcrete : (m.interaction.contents.concrete engine).outcome with
          | error e =>
              refine ⟨_, _, verify_of_notConcrete hdescribed hcontent hconcrete, ?_⟩
              have hmatcher := Contents.failsAtMatcher_concrete engine _ e hconcrete
              cases e <;> simp_all [Error.IsMatcherError, Error.concernsStorage]
          | ok value =>
              cases hdecode : m.target.decode value with
              | error e =>
                  exact ⟨_, _, verify_of_undecodable hdescribed hcontent hconcrete hdecode, rfl⟩
              | ok contents =>
                  exact absurd ⟨hdescribed, hcontent, value, hconcrete, contents, hdecode, rfl⟩
                    (hnot _)

end Stages

/-! Recording. -/

/-- The contract that is to be written when an interaction is recorded. -/
def candidate (s : Session) (i : Interaction) (bench : Bench σ) : Contract :=
  ((s.contract bench).add i).1

theorem candidate_pair {s : Session} {i : Interaction} {bench : Bench σ} (hopen : s.Open bench) :
    (s.candidate i bench).consumer = s.settings.consumer ∧
      (s.candidate i bench).provider = s.settings.provider := by
  obtain ⟨-, hconsumer, hprovider⟩ := contract_of_open hopen
  rw [candidate, Contract.add_fst]
  exact ⟨hconsumer, hprovider⟩

theorem candidate_congr {s : Session} {i : Interaction} {first second : Bench σ}
    (hslot : first.contracts[s.slot]? = second.contracts[s.slot]?) :
    s.candidate i first = s.candidate i second := by
  rw [candidate, candidate, contract_congr hslot]

theorem writeContract_run (s : Session) (c : Contract) (overwrite : Bool) (bench : Bench σ) :
    s.writeContract c overwrite bench =
      match s.store.writeUnder bench.conditions c overwrite bench.disk with
      | (.error fault, disk) => (.error (.storage fault), { bench with disk })
      | (.ok written, disk) =>
          (.ok written.path,
            { bench with disk, events := bench.events ++ written.event.toList }) := by
  rw [writeContract, Outcome.run_bind, Outcome.run_get]
  dsimp only
  rw [Outcome.run_bind, Bench.stored]
  rcases s.store.writeUnder bench.conditions c overwrite bench.disk with ⟨_ | _, disk⟩ <;> rfl

theorem record_run (s : Session) (i : Interaction) (bench : Bench σ) :
    s.record i bench =
      match s.store.writeUnder bench.conditions (s.candidate i bench) false bench.disk with
      | (.error fault, disk) => (.error (.storage fault), { bench with disk })
      | (.ok written, disk) =>
          (.ok (), s.setContract (s.candidate i bench)
            { bench with disk, events := bench.events ++ written.event.toList }) := by
  rw [record, Outcome.run_bind, Outcome.run_get]
  dsimp only
  rw [Outcome.run_bind, writeContract_run, candidate]
  rcases s.store.writeUnder bench.conditions ((s.contract bench).add i).1 false bench.disk with
    ⟨_ | _, disk⟩ <;> rfl

/-- Recording writes the candidate into the session's file and, if that works,
makes it the session's contract. -/
theorem record_cases {s : Session} {i : Interaction} {bench after : Bench σ}
    {result : Except Error Unit} (hrun : s.record i bench = (result, after)) :
    let write := s.store.writeUnder bench.conditions (s.candidate i bench) false bench.disk
    after.state = bench.state ∧
      ((∃ fault, write = (.error fault, after.disk) ∧ result = .error (.storage fault) ∧
          after.contracts = bench.contracts) ∨
        ∃ written, write = (.ok written, after.disk) ∧ result = .ok () ∧
          after.contracts = bench.contracts.set s.slot (s.candidate i bench)) := by
  intro write
  rw [record_run] at hrun
  rcases hwrite : s.store.writeUnder bench.conditions (s.candidate i bench) false bench.disk with
    ⟨fault | written, disk⟩
  · rw [hwrite] at hrun
    obtain ⟨rfl, rfl⟩ := Prod.mk.inj hrun
    exact ⟨rfl, .inl ⟨fault, hwrite, rfl, rfl⟩⟩
  · rw [hwrite] at hrun
    obtain ⟨rfl, rfl⟩ := Prod.mk.inj hrun
    exact ⟨rfl, .inr ⟨written, hwrite, rfl, rfl⟩⟩

/-- A recording that succeeds ends in a write of the candidate, which is then the session's
contract. -/
theorem write_of_record {s : Session} {i : Interaction} {bench after : Bench σ}
    (hopen : s.Open bench) (hrun : s.record i bench = (.ok (), after)) :
    s.Open after ∧ s.contract after = s.candidate i bench ∧
      ∃ written,
        s.store.writeUnder bench.conditions (s.candidate i bench) false bench.disk =
          (.ok written, after.disk) := by
  obtain ⟨hconsumer, hprovider⟩ := candidate_pair (i := i) hopen
  obtain ⟨hslot, -, -⟩ := contract_of_open hopen
  have hlt : s.slot < bench.contracts.length := (List.getElem?_eq_some_iff.mp hslot).1
  obtain ⟨-, ⟨_, -, herror, -⟩ | ⟨written, hwrite, -, hcontracts⟩⟩ := record_cases hrun
  · cases herror
  have hafter : after.contracts[s.slot]? = some (s.candidate i bench) := by
    rw [hcontracts]
    exact List.getElem?_set_self hlt
  refine ⟨⟨_, hafter, hconsumer, hprovider⟩, ?_, written, hwrite⟩
  rw [contract, hafter, Option.getD_some]

theorem contracts_of_record {s : Session} {i : Interaction} {bench after : Bench σ} {e : Error}
    (hrun : s.record i bench = (.error e, after)) : after.contracts = bench.contracts := by
  obtain ⟨-, ⟨_, -, -, hcontracts⟩ | ⟨_, -, hok, -⟩⟩ := record_cases hrun
  · exact hcontracts
  · cases hok

/-- What the write of the candidate comes to, seen from the session's file. -/
theorem writeResult_of_candidate {s : Session} {i : Interaction} {bench : Bench σ} {disk : Disk}
    {outcome : Except StoreFault Written} (hopen : s.Open bench)
    (hwrite : s.store.writeUnder bench.conditions (s.candidate i bench) false bench.disk =
      (outcome, disk)) :
    Store.WriteResult (bench.conditions.Fair ∧
        s.store.Clear s.settings.consumer s.settings.provider bench.disk)
      (s.candidate i bench) false (s.store.openedPath s.settings.consumer s.settings.provider)
      (bench.disk.file? s.fileNames) outcome (disk.file? s.fileNames) := by
  obtain ⟨hconsumer, hprovider⟩ := candidate_pair (i := i) hopen
  obtain ⟨hresult, -⟩ := Store.write_spec hwrite
  rwa [hconsumer, hprovider] at hresult

section Whole

variable {s : Session} {engine : PatternEngine} {m : Message σ α} {handler : Handler σ α}
variable {bench after : Bench σ} {result : Except Error Unit}

theorem reaches_unique {given given' : ConcreteMessage α} (h : m.Reaches engine given)
    (h' : m.Reaches engine given') : given = given' := by
  obtain ⟨-, -, value, hconcrete, contents, hdecode, rfl⟩ := h
  obtain ⟨-, -, value', hconcrete', contents', hdecode', rfl⟩ := h'
  obtain rfl : value = value' := Except.ok.inj (hconcrete.symm.trans hconcrete')
  obtain rfl : contents = contents' := Except.ok.inj (hdecode.symm.trans hdecode')
  rfl

/-- A verification ends before the handler, at the handler, or in recording. -/
theorem verify_cases (hrun : s.verify engine m handler bench = (result, after)) :
    ((∀ given, ¬ m.Reaches engine given) ∧
      ∃ e events, result = .error e ∧ e.concernsStorage = false ∧ after = { bench with events }) ∨
    (∃ given reason, m.Reaches engine given ∧
      handler given (m.warned engine bench) = (.error reason, after) ∧
      result = .error (.handler reason)) ∨
    ∃ given accepted, m.Reaches engine given ∧
      handler given (m.warned engine bench) = (.ok (), accepted) ∧
      s.record m.interaction accepted = (result, after) := by
  by_cases hreaches : ∃ given, m.Reaches engine given
  · obtain ⟨given, hreaches⟩ := hreaches
    rw [verify_of_reaches hreaches] at hrun
    rcases hcall : handler given (m.warned engine bench) with ⟨reason | _, accepted⟩
    · rw [hcall] at hrun
      obtain ⟨rfl, rfl⟩ := Prod.mk.inj hrun
      exact .inr (.inl ⟨given, reason, hreaches, hcall, rfl⟩)
    · rw [hcall] at hrun
      exact .inr (.inr ⟨given, accepted, hreaches, hcall, hrun⟩)
  · rw [not_exists] at hreaches
    obtain ⟨e, events, hverify, hstorage⟩ := verify_of_not_reaches s handler bench hreaches
    rw [hverify] at hrun
    obtain ⟨rfl, rfl⟩ := Prod.mk.inj hrun
    exact .inl ⟨hreaches, e, events, rfl, hstorage, rfl⟩

/-- What a handler leaves of a session that it leaves alone. -/
theorem leftAlone_of_call (halone : s.LeftAloneBy handler) {given : ConcreteMessage α}
    {outcome : Except String Unit}
    (hcall : handler given (m.warned engine bench) = (outcome, after)) :
    after.contracts[s.slot]? = bench.contracts[s.slot]? ∧
      after.disk.file? s.fileNames = bench.disk.file? s.fileNames := by
  have h := halone given (m.warned engine bench)
  rwa [hcall] at h

theorem open_congr (hslot : after.contracts[s.slot]? = bench.contracts[s.slot]?)
    (hopen : s.Open bench) : s.Open after := by
  obtain ⟨c, hc, hpair⟩ := hopen
  exact ⟨c, hslot.trans hc, hpair⟩

end Whole

section Outcome

variable {s : Session} {engine : PatternEngine} {m : Message σ α} {handler : Handler σ α}
variable {bench after : Bench σ}

/-- What records its calls in the state has recorded one call on a message that
reaches the handler, and otherwise none. -/
theorem calls_of_verify {calls : σ → List (ConcreteMessage α)}
    (hcalls : ∀ given b, calls (handler given b).2.state = calls b.state ++ [given])
    {result : Except Error Unit} (hrun : s.verify engine m handler bench = (result, after)) :
    (∀ given, m.Reaches engine given → calls after.state = calls bench.state ++ [given]) ∧
      ((∀ given, ¬ m.Reaches engine given) → calls after.state = calls bench.state) := by
  have hcalled {given : ConcreteMessage α} {state : σ} (hreaches : m.Reaches engine given)
      (hstate : calls state = calls bench.state ++ [given]) :
      (∀ other, m.Reaches engine other → calls state = calls bench.state ++ [other]) ∧
        ((∀ other, ¬ m.Reaches engine other) → calls state = calls bench.state) := by
    constructor
    · intro other hother
      rw [reaches_unique hother hreaches]
      exact hstate
    · intro hnot
      exact absurd hreaches (hnot given)
  rcases verify_cases hrun with
    ⟨hnot, e, events, -, -, rfl⟩ | ⟨given, reason, hreaches, hcall, -⟩ |
      ⟨given, accepted, hreaches, hcall, hrecord⟩
  · constructor
    · intro given hreaches
      exact absurd hreaches (hnot given)
    · intro _
      rfl
  · have hstate := hcalls given (m.warned engine bench)
    rw [hcall] at hstate
    exact hcalled hreaches hstate
  · have hstate := hcalls given (m.warned engine bench)
    rw [hcall] at hstate
    rw [(record_cases hrecord).1]
    exact hcalled hreaches hstate

/-- The errors of a message that has a description, up to the handler. -/
theorem error_of_described (hdescribed : Text.allBlank m.interaction.description = false)
    {result : Except Error Unit} (hrun : s.verify engine m handler bench = (result, after)) :
    (∀ e, m.contentError = some e →
        result = .error (.invalidInteraction (.badContent e.message))) ∧
      (m.contentError = none →
        (∀ e, (m.interaction.contents.concrete engine).outcome = .error e →
          result = .error e ∧ e.IsMatcherError) ∧
        ∀ value, (m.interaction.contents.concrete engine).outcome = .ok value →
          ∀ e, m.target.decode value = .error e →
            result = .error (.undecodable m.target.name e)) := by
  constructor
  · intro e hcontent
    rw [verify_of_badContent hdescribed hcontent] at hrun
    exact (Prod.mk.inj hrun).1.symm
  intro hcontent
  constructor
  · intro e hconcrete
    rw [verify_of_notConcrete hdescribed hcontent hconcrete] at hrun
    constructor
    · exact (Prod.mk.inj hrun).1.symm
    · exact Contents.failsAtMatcher_concrete engine _ e hconcrete
  · intro value hconcrete e hdecode
    rw [verify_of_undecodable hdescribed hcontent hconcrete hdecode] at hrun
    exact (Prod.mk.inj hrun).1.symm

/-- A handler that rejects the message ends the verification. -/
theorem result_of_rejected {given : ConcreteMessage α} {reason : String}
    (hreaches : m.Reaches engine given)
    (hcall : (handler given (m.warned engine bench)).1 = .error reason)
    {result : Except Error Unit} (hrun : s.verify engine m handler bench = (result, after)) :
    result = .error (.handler reason) := by
  rw [verify_of_reaches hreaches] at hrun
  rcases hhandled : handler given (m.warned engine bench) with ⟨outcome, accepted⟩
  rw [hhandled] at hrun hcall
  obtain rfl : outcome = .error reason := hcall
  exact (Prod.mk.inj hrun).1.symm

/-- When the handler accepts the message, the verification comes to what the write of the
session's contract, with the interaction, comes to on the file tree that it has left. -/
theorem result_of_accepted (halone : s.LeftAloneBy handler) {given : ConcreteMessage α}
    (hreaches : m.Reaches engine given)
    (hcall : (handler given (m.warned engine bench)).1 = .ok ())
    {result : Except Error Unit} (hrun : s.verify engine m handler bench = (result, after)) :
    let accepted := (handler given (m.warned engine bench)).2
    let write := s.store.writeUnder accepted.conditions (s.candidate m.interaction bench) false
      accepted.disk
    (∀ written, write.1 = .ok written → result = .ok ()) ∧
      (∀ fault, write.1 = .error fault → result = .error (.storage fault)) ∧
      after.disk = write.2 := by
  rw [verify_of_reaches hreaches] at hrun
  rcases hhandled : handler given (m.warned engine bench) with ⟨outcome, accepted⟩
  rw [hhandled] at hrun hcall
  obtain rfl : outcome = .ok () := hcall
  dsimp only at hrun ⊢
  rw [← candidate_congr (leftAlone_of_call halone hhandled).1]
  obtain ⟨-, ⟨fault, hwrite, rfl, -⟩ | ⟨written, hwrite, rfl, -⟩⟩ := record_cases hrun
  · rw [hwrite]
    refine ⟨nofun, ?_, rfl⟩
    intro other hother
    rw [Except.error.inj hother]
  · rw [hwrite]
    exact ⟨fun _ _ => rfl, nofun, rfl⟩

/-- A failure leaves the session as it was; it concerns storage only if the
handler has accepted. -/
theorem unchanged_of_error (hopen : s.Open bench) (halone : s.LeftAloneBy handler) {e : Error}
    (hrun : s.verify engine m handler bench = (.error e, after)) :
    s.contract after = s.contract bench ∧
      after.disk.file? s.fileNames = bench.disk.file? s.fileNames ∧
      ∀ fault, e = .storage fault → ∃ given, m.Reaches engine given ∧
        (handler given (m.warned engine bench)).1 = .ok () := by
  rcases verify_cases hrun with
    ⟨-, _, events, herror, hstorage, rfl⟩ | ⟨given, reason, -, hcall, herror⟩ |
      ⟨given, accepted, hreaches, hcall, hrecord⟩
  · obtain rfl := Except.error.inj herror
    refine ⟨rfl, rfl, ?_⟩
    rintro fault rfl
    simp [Error.concernsStorage] at hstorage
  · obtain rfl := Except.error.inj herror
    obtain ⟨hslot, hfile⟩ := leftAlone_of_call halone hcall
    refine ⟨contract_congr hslot, hfile, ?_⟩
    rintro fault hstorage
    cases hstorage
  · obtain ⟨hslot, hfile⟩ := leftAlone_of_call halone hcall
    obtain ⟨-, ⟨fault, hwrite, -, hcontracts⟩ | ⟨_, -, hok, -⟩⟩ := record_cases hrecord
    · have hslotAfter : after.contracts[s.slot]? = bench.contracts[s.slot]? := by
        rw [hcontracts, hslot]
      have hresult := writeResult_of_candidate (open_congr hslot hopen) hwrite
      refine ⟨contract_congr hslotAfter, hresult.of_error.1.trans hfile, ?_⟩
      intro _ _
      exact ⟨given, hreaches, by rw [hcall]⟩
    · cases hok

/-- A success appends the interaction unless a like one is there, and merges the
contract into the file. -/
theorem recorded_of_ok (hopen : s.Open bench) (halone : s.LeftAloneBy handler)
    (hrun : s.verify engine m handler bench = (.ok (), after)) :
    (∃ given, m.Reaches engine given ∧ (handler given (m.warned engine bench)).1 = .ok ()) ∧
      s.contract after = s.candidate m.interaction bench ∧
      match bench.disk.file? s.fileNames with
      | none => after.disk.file? s.fileNames = some (s.contract after).toBytes
      | some bytes => ∃ existing merged added, Contract.ofBytes bytes = .ok existing ∧
          existing.merge (s.contract after) = .ok (merged, added) ∧
          after.disk.file? s.fileNames =
            some (if merged.same existing then bytes else merged.toBytes) := by
  rcases verify_cases hrun with
    ⟨-, _, _, hok, -⟩ | ⟨_, _, -, -, hok⟩ | ⟨given, accepted, hreaches, hcall, hrecord⟩
  · cases hok
  · cases hok
  obtain ⟨hslot, hfile⟩ := leftAlone_of_call halone hcall
  have hopen' := open_congr hslot hopen
  obtain ⟨-, hcontract, written, hwrite⟩ := write_of_record hopen' hrecord
  have hresult := writeResult_of_candidate hopen' hwrite
  rw [candidate_congr hslot] at hcontract hresult
  refine ⟨⟨given, hreaches, by rw [hcall]⟩, hcontract, ?_⟩
  have hwritten := hresult.of_ok.2
  rw [hfile] at hwritten
  rw [hcontract]
  cases hbefore : bench.disk.file? s.fileNames with
  | none =>
      rw [hbefore] at hwritten
      exact hwritten.1
  | some bytes =>
      rw [hbefore] at hwritten
      obtain ⟨existing, merged, added, hparse, hmerge, -, hbytes⟩ := hwritten
      refine ⟨existing, merged, added, hparse, hmerge, ?_⟩
      split at hbytes
      case isTrue hsame => rw [if_pos hsame, hbytes.1]
      case isFalse hdiffers => rw [if_neg hdiffers, hbytes.1]

end Outcome

theorem candidate_eq (s : Session) (i : Interaction) (bench : Bench σ) :
    s.candidate i bench =
      if (s.contract bench).contains i then s.contract bench
      else (s.contract bench).append (.message i) := by
  rw [candidate, Contract.add]
  split <;> rfl

/-- A verification is all or nothing. The handler is called on the message if it
reaches it, once, and otherwise not at all. The first stage that fails decides
the error; then the session's contract and its file are as before, and storage
fails only after the handler has accepted. Once the handler has accepted, the contract with
the interaction, once, is written, and the verification succeeds if the write does and fails
with its fault if it does not. After a success that is the session's contract, and the file
holds what comes of merging it into the file. -/
theorem verify_all_or_nothing (s : Session) (engine : PatternEngine) (m : Message σ α)
    (handler : Handler σ α) (bench : Bench σ) (hopen : s.Open bench)
    (halone : s.LeftAloneBy handler) :
    let result := (s.verify engine m handler bench).1
    let after := (s.verify engine m handler bench).2
    let contents := m.interaction.contents.concrete engine
    let recorded :=
      if (s.contract bench).contains m.interaction then s.contract bench
      else (s.contract bench).append (.message m.interaction)
    (∀ calls : σ → List (ConcreteMessage α),
      (∀ given b, calls (handler given b).2.state = calls b.state ++ [given]) →
        (∀ given, m.Reaches engine given → calls after.state = calls bench.state ++ [given]) ∧
        ((∀ given, ¬ m.Reaches engine given) → calls after.state = calls bench.state)) ∧
    (Text.allBlank m.interaction.description = true →
      result = .error (.invalidInteraction .blankDescription)) ∧
    (Text.allBlank m.interaction.description = false →
      (∀ e, m.contentError = some e →
        result = .error (.invalidInteraction (.badContent e.message))) ∧
      (m.contentError = none →
        (∀ e, contents.outcome = .error e → result = .error e ∧ e.IsMatcherError) ∧
        ∀ value, contents.outcome = .ok value → ∀ e, m.target.decode value = .error e →
          result = .error (.undecodable m.target.name e))) ∧
    (∀ given, m.Reaches engine given →
      let answer := (handler given (m.warned engine bench)).1
      let accepted := (handler given (m.warned engine bench)).2
      let write := s.store.writeUnder accepted.conditions recorded false accepted.disk
      (∀ reason, answer = .error reason → result = .error (.handler reason)) ∧
      (answer = .ok () →
        (∀ written, write.1 = .ok written → result = .ok ()) ∧
        (∀ fault, write.1 = .error fault → result = .error (.storage fault)) ∧
        after.disk = write.2)) ∧
    (∀ e, result = .error e →
      s.contract after = s.contract bench ∧
      after.disk.file? s.fileNames = bench.disk.file? s.fileNames ∧
      ∀ fault, e = .storage fault → ∃ given, m.Reaches engine given ∧
        (handler given (m.warned engine bench)).1 = .ok ()) ∧
    (result = .ok () →
      (∃ given, m.Reaches engine given ∧
        (handler given (m.warned engine bench)).1 = .ok ()) ∧
      s.contract after = recorded ∧
      match bench.disk.file? s.fileNames with
      | none => after.disk.file? s.fileNames = some (s.contract after).toBytes
      | some bytes => ∃ existing merged added, Contract.ofBytes bytes = .ok existing ∧
          existing.merge (s.contract after) = .ok (merged, added) ∧
          after.disk.file? s.fileNames =
            some (if merged.same existing then bytes else merged.toBytes)) := by
  rcases hrun : s.verify engine m handler bench with ⟨result, after⟩
  dsimp only
  rw [← candidate_eq]
  refine ⟨?_, ?_, ?_, ?_, ?_, ?_⟩
  · intro calls hcalls
    exact calls_of_verify hcalls hrun
  · intro hblank
    rw [verify_of_blank hblank] at hrun
    exact (Prod.mk.inj hrun).1.symm
  · intro hdescribed
    exact error_of_described hdescribed hrun
  · intro given hreaches
    constructor
    · intro reason hrejected
      exact result_of_rejected hreaches hrejected hrun
    · intro haccepted
      exact result_of_accepted halone hreaches haccepted hrun
  · rintro e rfl
    exact unchanged_of_error hopen halone hrun
  · rintro rfl
    exact recorded_of_ok hopen halone hrun

/-- A message without content is handed to a handler that keeps what it is given and accepts
it. The verification succeeds, and both the session's contract and the file, which is new,
have the message. -/
theorem verify_all_or_nothing_kept :
    let s : Session := ⟨⟨"consumer", "provider", "pacts", "warn", false⟩, 0⟩
    let m : Message (List (ConcreteMessage Json)) Json :=
      (s.message (anyTarget "any")).expects "an event"
    let handler : Handler (List (ConcreteMessage Json)) Json := fun given =>
      modify fun bench => { bench with state := bench.state ++ [given] }
    let bench : Bench (List (ConcreteMessage Json)) :=
      { contracts := [Contract.new "consumer" "provider"], state := [] }
    let recorded :=
      (Contract.new "consumer" "provider").append (.message { description := "an event" })
    s.Open bench ∧ s.LeftAloneBy handler ∧
      ∃ after, s.verify ⟨fun _ => .error none⟩ m handler bench = (.ok (), after) ∧
        after.state =
          [{ description := "an event", contents := .null, contentType := none, metadata := [] }] ∧
        s.contract after = recorded ∧
        after.disk.file? ["pacts", "consumer-provider.json"] = some recorded.toBytes := by
  intro s m handler bench recorded
  have hopen : s.Open bench := ⟨_, rfl, rfl, rfl⟩
  have halone : s.LeftAloneBy handler := fun _ _ => ⟨rfl, rfl⟩
  let given : ConcreteMessage Json :=
    { description := "an event", contents := .null, contentType := none, metadata := [] }
  have hreaches : m.Reaches ⟨fun _ => .error none⟩ given :=
    ⟨by decide, rfl, .null, rfl, .null, rfl, rfl⟩
  have hwrite : (s.store.writeUnder .fair recorded false {}).1.isOk = true := by decide +kernel
  have hnames : s.fileNames = ["pacts", "consumer-provider.json"] := by decide +kernel
  obtain ⟨hcalls, -, -, hcalled, -, hrecorded⟩ :=
    verify_all_or_nothing s ⟨fun _ => .error none⟩ m handler bench hopen halone
  obtain ⟨written, hwritten⟩ := Outcome.exists_of_isOk hwrite
  have hok := ((hcalled given hreaches).2 rfl).1 written hwritten
  obtain ⟨-, hcontract, hfile⟩ := hrecorded hok
  have hstate := (hcalls id fun _ _ => rfl).1 given hreaches
  rw [hcontract, hnames] at hfile
  exact ⟨hopen, halone, _, Prod.ext hok rfl, hstate, hcontract, hfile⟩

end Session

end MessageContract
