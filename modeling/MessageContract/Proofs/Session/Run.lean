import MessageContract.Proofs.Session.Verify
import MessageContract.Proofs.Store.Holds

/-!
Whole runs of the sessions of one pair. Sessions are started and share a file;
each, or a copy of it, verifies messages and writes what it has verified, in any
order, and handlers may do what they like elsewhere. The invariant of such a run
says what the file lists and what each session's contract lists in terms of the
successes so far alone. It survives a write because all that a session has
verified is known to the file already, up to the interaction that is new.
-/

namespace MessageContract

variable {σ α : Type}

/-- A consumer and a provider, and where their file is. -/
structure Pair where
  store : Store
  consumer : String
  provider : String

/-- The pair that a session is for. -/
def Session.pair (s : Session) : Pair :=
  ⟨s.store, s.settings.consumer, s.settings.provider⟩

namespace Pair

def fileNames (pair : Pair) : List String :=
  pair.store.fileNames pair.consumer pair.provider

/-- A contract of the pair with the entries that these interactions make up. -/
def contractOf (pair : Pair) (interactions : List Interaction) : Contract :=
  { Contract.new pair.consumer pair.provider with
    entries := Entry.fresh [] (interactions.map .message) }

/-- The pair's file lists the entries. -/
def Holds (pair : Pair) (disk : Disk) (entries : List Entry) : Prop :=
  pair.store.Holds pair.consumer pair.provider disk entries

/-- The handler touches no contract on the bench and not the pair's file, and it
removes no directory. -/
def LeftAloneBy (pair : Pair) (handler : Handler σ α) : Prop :=
  ∀ given bench, (handler given bench).2.contracts = bench.contracts ∧
    ∃ changed, pair.fileNames ∉ changed ∧
      Disk.Frame changed bench.disk (handler given bench).2.disk

end Pair

/-- What is asked of sessions and their copies. -/
inductive Call (σ : Type) : Type 1 where
  | start (settings : Settings)
  | verify {α : Type} (s : Session) (m : Message σ α) (handler : Handler σ α)
  | write (s : Session)

/-- A verification that succeeded: the slot of its session, and the interaction. -/
abbrev Success := Nat × Interaction

/-- The success that a verification with the given result is. -/
def Session.success (s : Session) (i : Interaction) : Except Error Unit → List Success
  | .ok _ => [(s.slot, i)]
  | .error _ => []

namespace Call

def run (engine : PatternEngine) : Call σ → BenchOp σ Error Unit
  | .start settings => do let _ ← Session.start settings
  | .verify s m handler => s.verify engine m handler
  | .write s => do let _ ← s.writeFile false

/-- The success that a call with the given result is. -/
def success : Call σ → Except Error Unit → List Success
  | .verify s m _, result => s.success m.interaction result
  | _, _ => []

/-- Only sessions of the pair that have been started are called, and no handler
writes for them. -/
def Allowed (pair : Pair) (bench : Bench σ) : Call σ → Prop
  | .start _ => True
  | .verify s _ handler => s.pair = pair ∧ s.Open bench ∧ pair.LeftAloneBy handler
  | .write s => s.pair = pair ∧ s.Open bench

end Call

/-- One call after the other, whatever comes of each, and the successes among them. -/
inductive Run (engine : PatternEngine) (pair : Pair) (first : Bench σ) :
    List Success → Bench σ → Prop where
  | start : Run engine pair first [] first
  | call {log : List Success} {bench : Bench σ} (hrun : Run engine pair first log bench)
      (c : Call σ) (hallowed : c.Allowed pair bench) :
      Run engine pair first (log ++ c.success (c.run engine bench).1) (c.run engine bench).2

namespace Run

/-- The interactions of the successes of the session at a slot. -/
def ofSlot (log : List Success) (slot : Nat) : List Interaction :=
  (log.filter (·.1 == slot)).map Prod.snd

/-- The entries that successes make up beside those that were there before. -/
def listed (before : List Entry) (log : List Success) : List Entry :=
  before ++ Entry.fresh before (log.map fun success => .message success.2)

variable {pair : Pair} {before : List Entry} {log : List Success} {bench after : Bench σ}

theorem ofSlot_append (log more : List Success) (slot : Nat) :
    ofSlot (log ++ more) slot = ofSlot log slot ++ ofSlot more slot := by
  rw [ofSlot, List.filter_append, List.map_append]
  rfl

theorem ofSlot_append_self (log : List Success) (slot : Nat) (i : Interaction) :
    ofSlot (log ++ [(slot, i)]) slot = ofSlot log slot ++ [i] := by
  rw [ofSlot_append]
  simp [ofSlot]

theorem ofSlot_append_ne (log : List Success) {slot other : Nat} (hne : other ≠ slot)
    (i : Interaction) : ofSlot (log ++ [(slot, i)]) other = ofSlot log other := by
  rw [ofSlot_append]
  simp [ofSlot, hne.symm]

theorem ofSlot_eq_nil {slot : Nat} (hnone : ∀ success ∈ log, success.1 ≠ slot) :
    ofSlot log slot = [] := by
  have hfilter : log.filter (·.1 == slot) = [] := by
    apply List.filter_eq_nil_iff.mpr
    intro success hsuccess
    simpa using hnone success hsuccess
  rw [ofSlot, hfilter, List.map_nil]

theorem mem_of_mem_ofSlot {slot : Nat} {i : Interaction} (hi : i ∈ ofSlot log slot) :
    (slot, i) ∈ log := by
  obtain ⟨⟨at_, found⟩, hfiltered, rfl⟩ := List.mem_map.mp hi
  obtain ⟨hmem, hslot⟩ := List.mem_filter.mp hfiltered
  obtain rfl : at_ = slot := by simpa using hslot
  exact hmem

theorem listed_append (before : List Entry) (log more : List Success) :
    listed before (log ++ more) =
      listed before log ++
        Entry.fresh (listed before log) (more.map fun success => .message success.2) := by
  rw [listed, List.map_append, Entry.fresh_append, ← List.append_assoc]
  rfl

/-- What a session has verified is known to the file. -/
theorem fresh_listed_ofSlot (before : List Entry) (log : List Success) (slot : Nat) :
    Entry.fresh (listed before log) ((ofSlot log slot).map .message) = [] := by
  apply Entry.fresh_of_forall_known
  intro entry hentry
  obtain ⟨i, hi, rfl⟩ := List.mem_map.mp hentry
  have hlogged : Entry.message i ∈ log.map fun success => Entry.message success.2 :=
    List.mem_map.mpr ⟨_, mem_of_mem_ofSlot hi, rfl⟩
  apply (Entry.mem_core_append_fresh _ _ _).mpr
  exact .inr (List.mem_map_of_mem hlogged)

end Run

namespace Pair

variable (pair : Pair)

/-- A contract that is made up of interactions holds no two like entries. -/
theorem fresh_contractOf (known : List Entry) (interactions : List Interaction) :
    Entry.fresh known (pair.contractOf interactions).entries =
      Entry.fresh known (interactions.map .message) :=
  Entry.fresh_fresh _ fun _ hcore => absurd hcore List.not_mem_nil

theorem add_contractOf (interactions : List Interaction) (i : Interaction) :
    ((pair.contractOf interactions).add i).1 = pair.contractOf (interactions ++ [i]) := by
  rw [Contract.add_fst, contractOf, contractOf, List.map_append, Entry.fresh_append]
  rfl

theorem survives_of_readsBack {pair : Pair} {i : Interaction}
    (hreads : (pair.contractOf [i]).ReadsBack) : (Entry.message i).Survives :=
  ((Contract.readsBack_iff _).mp hreads).1 _ List.mem_cons_self

theorem readsBack_contractOf {interactions : List Interaction}
    (hreads : ∀ i ∈ interactions, (pair.contractOf [i]).ReadsBack) :
    (pair.contractOf interactions).ReadsBack := by
  apply (Contract.readsBack_iff _).mpr
  constructor
  · intro entry hentry
    obtain ⟨i, hi, rfl⟩ := List.mem_map.mp (Entry.fresh_subset _ _ hentry)
    exact survives_of_readsBack (hreads i hi)
  · exact Contract.Metadata.survives_initial

end Pair

namespace Run

variable {pair : Pair} {before : List Entry} {log : List Success} {bench after : Bench σ}

/-- Between two calls of a run the file and the contracts list the successes. -/
structure Inv (pair : Pair) (before : List Entry) (log : List Success) (bench : Bench σ) :
    Prop where
  file : pair.Holds bench.disk (listed before log)
  contracts : ∀ s : Session, s.pair = pair → s.Open bench →
    s.contract bench = pair.contractOf (ofSlot log s.slot)
  slots : ∀ success ∈ log, success.1 < bench.contracts.length

theorem Inv.of_same_contracts (h : Inv pair before log bench)
    (hcontracts : after.contracts = bench.contracts)
    (hfile : pair.Holds after.disk (listed before log)) : Inv pair before log after := by
  constructor
  case file => exact hfile
  case contracts =>
    intro s hpair hopen
    have hslot : bench.contracts[s.slot]? = after.contracts[s.slot]? := by rw [hcontracts]
    have hopenBefore : s.Open bench := Session.open_congr hslot hopen
    rw [← Session.contract_congr hslot]
    exact h.contracts s hpair hopenBefore
  case slots =>
    rw [hcontracts]
    exact h.slots

/-- A session's interactions are written, maybe with a new one. -/
theorem Inv.holds_write (h : Inv pair before log bench) {slot : Nat} {more : List Interaction}
    (hreads : (pair.contractOf (ofSlot log slot ++ more)).ReadsBack)
    {written : Written} {disk : Disk}
    (hwrite : pair.store.writeUnder bench.conditions (pair.contractOf (ofSlot log slot ++ more))
      false bench.disk = (.ok written, disk)) :
    pair.Holds disk (listed before (log ++ more.map (slot, ·))) := by
  have hheld : pair.store.Holds pair.consumer pair.provider bench.disk (listed before log) :=
    h.file
  have hafter := Store.Holds.of_write (c := pair.contractOf _) hheld hreads
    (pair.fresh_contractOf [] _) hwrite
  rw [pair.fresh_contractOf, List.map_append, Entry.fresh_append, fresh_listed_ofSlot,
    List.nil_append, List.append_nil] at hafter
  have hmore : (more.map fun i => (slot, i)).map (fun success => Entry.message success.2) =
      more.map .message := by
    rw [List.map_map]
    rfl
  rw [listed_append, hmore]
  exact hafter

/-- A write that fails. -/
theorem Inv.holds_error (h : Inv pair before log bench) {interactions : List Interaction}
    {fault : StoreFault} {disk : Disk}
    (hwrite : pair.store.writeUnder bench.conditions (pair.contractOf interactions) false
      bench.disk = (.error fault, disk)) : pair.Holds disk (listed before log) := by
  have hheld : pair.store.Holds pair.consumer pair.provider bench.disk (listed before log) :=
    h.file
  exact Store.Holds.of_error (c := pair.contractOf interactions) hheld hwrite

/-- A success of a session of the pair. -/
theorem Inv.recorded (h : Inv pair before log bench) {s : Session}
    (hopen : s.Open bench) {i : Interaction} {disk : Disk}
    (hfile : pair.Holds disk (listed before (log ++ [(s.slot, i)]))) (events : List Event) :
    Inv pair before (log ++ [(s.slot, i)])
      (s.setContract (pair.contractOf (ofSlot log s.slot ++ [i]))
        { bench with disk, events }) := by
  obtain ⟨hslot, -, -⟩ := Session.contract_of_open hopen
  have hlt : s.slot < bench.contracts.length := (List.getElem?_eq_some_iff.mp hslot).1
  have hlength (c : Contract) : (bench.contracts.set s.slot c).length = bench.contracts.length :=
    List.length_set
  constructor
  case file => exact hfile
  case contracts =>
    intro other hpairOther hopenAfter
    by_cases heq : other.slot = s.slot
    · rw [heq, ofSlot_append_self]
      rw [Session.contract, Session.setContract, heq]
      dsimp only
      rw [List.getElem?_set_self hlt]
      rfl
    · have hother : (bench.contracts.set s.slot (pair.contractOf (ofSlot log s.slot ++ [i])))[
          other.slot]? = bench.contracts[other.slot]? :=
        List.getElem?_set_ne fun h => heq h.symm
      have hopenBefore : other.Open bench := Session.open_congr hother.symm hopenAfter
      rw [ofSlot_append_ne log heq, ← h.contracts other hpairOther hopenBefore]
      exact Session.contract_congr hother
  case slots =>
    intro success hsuccess
    rw [Session.setContract]
    dsimp only
    rw [hlength]
    rcases List.mem_append.mp hsuccess with hbefore | hnew
    · exact h.slots success hbefore
    · rw [List.mem_singleton.mp hnew]
      exact hlt

/-- Beside a new contract, a session has its contract from before or the new one. -/
theorem slot_cases_append {contracts : List Contract} {new c : Contract} {slot : Nat}
    (hslot : (contracts ++ [new])[slot]? = some c) :
    contracts[slot]? = some c ∨ slot = contracts.length ∧ c = new := by
  rcases Nat.lt_trichotomy slot contracts.length with hlt | rfl | hgt
  · rw [List.getElem?_append_left hlt] at hslot
    exact .inl hslot
  · rw [List.getElem?_concat_length] at hslot
    exact .inr ⟨rfl, (Option.some.inj hslot).symm⟩
  · have hlength : (contracts ++ [new]).length ≤ slot := by
      rw [List.length_append, List.length_singleton]
      omega
    rw [List.getElem?_eq_none hlength] at hslot
    cases hslot

/-- A session that has just been started has verified nothing. -/
theorem Inv.start (h : Inv pair before log bench) (settings : Settings) :
    Inv pair before log (Session.start settings bench).2 := by
  unfold Session.start
  cases hvalid : settings.validate with
  | error e => exact h
  | ok _ =>
      constructor
      case file => exact h.file
      case contracts =>
        intro s hpair hopen
        obtain ⟨c, hslot, hconsumer, hprovider⟩ := hopen
        rcases slot_cases_append hslot with hold | ⟨hnew, rfl⟩
        · have hopenBefore : s.Open bench := ⟨c, hold, hconsumer, hprovider⟩
          rw [← h.contracts s hpair hopenBefore]
          exact Session.contract_congr (hslot.trans hold.symm)
        · have hnone : ofSlot log s.slot = [] := by
            apply ofSlot_eq_nil
            intro success hsuccess
            have hearlier := h.slots success hsuccess
            omega
          have hpairs : Contract.new settings.consumer settings.provider =
              Contract.new pair.consumer pair.provider := by
            subst hpair
            exact congrArg₂ Contract.new hconsumer hprovider
          rw [Session.contract, hslot, hnone, hpairs]
          rfl
      case slots =>
        intro success hsuccess
        have hearlier := h.slots success hsuccess
        change success.1 < (bench.contracts ++ [_]).length
        rw [List.length_append]
        omega

/-- What a session has verified can be read back, with or without what is new. -/
theorem readsBack_ofSlot (slot : Nat) {more : List Interaction}
    (hreads : ∀ success ∈ log, (pair.contractOf [success.2]).ReadsBack)
    (hmore : ∀ i ∈ more, (pair.contractOf [i]).ReadsBack) :
    (pair.contractOf (ofSlot log slot ++ more)).ReadsBack := by
  apply pair.readsBack_contractOf
  intro i hi
  rcases List.mem_append.mp hi with hold | hnew
  · exact hreads (slot, i) (mem_of_mem_ofSlot hold)
  · exact hmore i hnew

/-- Writing what a session has verified adds nothing. -/
theorem Inv.write (h : Inv pair before log bench) {s : Session} (hpair : s.pair = pair)
    (hopen : s.Open bench)
    (hreads : ∀ success ∈ log, (pair.contractOf [success.2]).ReadsBack) :
    Inv pair before log (s.writeFile false bench).2 := by
  have hstore : s.store = pair.store := congrArg Pair.store hpair
  have hcontract : s.contract bench = pair.contractOf (ofSlot log s.slot ++ []) := by
    rw [List.append_nil, h.contracts s hpair hopen]
  have hnone : ∀ i ∈ ([] : List Interaction), (pair.contractOf [i]).ReadsBack := by simp
  have hback := readsBack_ofSlot s.slot hreads hnone
  rw [Session.writeFile, Outcome.run_bind, Outcome.run_get]
  dsimp only
  rw [Session.writeContract_run, hstore, hcontract]
  rcases hwrite : pair.store.writeUnder bench.conditions
    (pair.contractOf (ofSlot log s.slot ++ [])) false bench.disk with ⟨outcome, disk⟩
  cases outcome with
  | error fault =>
      exact h.of_same_contracts rfl (h.holds_error hwrite)
  | ok written =>
      have hheld := h.holds_write hback hwrite
      rw [List.map_nil, List.append_nil] at hheld
      exact h.of_same_contracts rfl hheld

/-- Handlers that leave the pair alone keep the invariant. -/
theorem Inv.handled (h : Inv pair before log bench) {handler : Handler σ α}
    (halone : pair.LeftAloneBy handler) (given : ConcreteMessage α) :
    Inv pair before log (handler given bench).2 := by
  obtain ⟨hcontracts, changed, hfile, hframe⟩ := halone given bench
  exact h.of_same_contracts hcontracts (h.file.of_frame hframe (hframe.files _ hfile))

/-- Recording adds the interaction to the file and to the session's contract, or
it fails and adds nothing. -/
theorem Inv.record (h : Inv pair before log bench) {s : Session} (hpair : s.pair = pair)
    (hopen : s.Open bench) {i : Interaction} {result : Except Error Unit}
    (hreads : ∀ success ∈ log ++ s.success i result, (pair.contractOf [success.2]).ReadsBack)
    (hrun : s.record i bench = (result, after)) :
    Inv pair before (log ++ s.success i result) after := by
  have hstore : s.store = pair.store := congrArg Pair.store hpair
  have hcandidate : s.candidate i bench = pair.contractOf (ofSlot log s.slot ++ [i]) := by
    rw [Session.candidate, h.contracts s hpair hopen, pair.add_contractOf]
  rw [Session.record_run, hstore, hcandidate] at hrun
  rcases hwrite : pair.store.writeUnder bench.conditions
    (pair.contractOf (ofSlot log s.slot ++ [i])) false bench.disk with ⟨outcome, disk⟩
  rw [hwrite] at hrun
  cases outcome with
  | error fault =>
      obtain ⟨rfl, rfl⟩ := Prod.mk.inj hrun
      rw [Session.success, List.append_nil]
      exact h.of_same_contracts rfl (h.holds_error hwrite)
  | ok written =>
      obtain ⟨rfl, rfl⟩ := Prod.mk.inj hrun
      have hlog : ∀ success ∈ log, (pair.contractOf [success.2]).ReadsBack :=
        fun success hsuccess => hreads success (List.mem_append_left _ hsuccess)
      have hnew : ∀ j ∈ [i], (pair.contractOf [j]).ReadsBack := by
        intro j hj
        rw [List.mem_singleton.mp hj]
        exact hreads (s.slot, i) (List.mem_append_right _ List.mem_cons_self)
      have hback := readsBack_ofSlot s.slot hlog hnew
      have hheld : pair.Holds disk (listed before (log ++ [(s.slot, i)])) :=
        h.holds_write hback hwrite
      exact h.recorded hopen hheld _

/-- A verification adds its interaction if it succeeds. -/
theorem Inv.verify (h : Inv pair before log bench) {engine : PatternEngine} {s : Session}
    {m : Message σ α} {handler : Handler σ α} (hpair : s.pair = pair) (hopen : s.Open bench)
    (halone : pair.LeftAloneBy handler) {result : Except Error Unit}
    (hreads : ∀ success ∈ log ++ s.success m.interaction result,
      (pair.contractOf [success.2]).ReadsBack)
    (hrun : s.verify engine m handler bench = (result, after)) :
    Inv pair before (log ++ s.success m.interaction result) after := by
  have hwarned : Inv pair before log (m.warned engine bench) := h.of_same_contracts rfl h.file
  rcases Session.verify_cases hrun with
    ⟨-, e, events, rfl, -, rfl⟩ | ⟨given, reason, -, hcall, rfl⟩ |
      ⟨given, accepted, -, hcall, hrecord⟩
  · rw [Session.success, List.append_nil]
    exact h.of_same_contracts rfl h.file
  · have hhandled := hwarned.handled halone given
    rw [hcall] at hhandled
    rw [Session.success, List.append_nil]
    exact hhandled
  · have hhandled := hwarned.handled halone given
    have hcontracts := (halone given (m.warned engine bench)).1
    rw [hcall] at hhandled hcontracts
    have hslot : accepted.contracts[s.slot]? = bench.contracts[s.slot]? := by
      rw [hcontracts]
      rfl
    exact hhandled.record hpair (Session.open_congr hslot hopen) hreads hrecord

/-- A call keeps the invariant, whatever comes of it. -/
theorem Inv.call (h : Inv pair before log bench) {engine : PatternEngine} {c : Call σ}
    (hallowed : c.Allowed pair bench)
    (hreads : ∀ success ∈ log ++ c.success (c.run engine bench).1,
      (pair.contractOf [success.2]).ReadsBack) :
    Inv pair before (log ++ c.success (c.run engine bench).1) (c.run engine bench).2 := by
  have hlog : ∀ success ∈ log, (pair.contractOf [success.2]).ReadsBack :=
    fun success hsuccess => hreads success (List.mem_append_left _ hsuccess)
  cases c with
  | start settings =>
      have hafter : ((Call.start settings).run engine bench).2 =
          (Session.start settings bench).2 := by
        rw [Call.run, Outcome.run_bind]
        rcases Session.start settings bench with ⟨_ | _, _⟩ <;> rfl
      rw [hafter, Call.success, List.append_nil]
      · exact h.start settings
      · simp
  | write s =>
      have hafter : ((Call.write s).run engine bench).2 = (s.writeFile false bench).2 := by
        rw [Call.run, Outcome.run_bind]
        rcases s.writeFile false bench with ⟨_ | _, _⟩ <;> rfl
      rw [hafter, Call.success, List.append_nil]
      · exact h.write hallowed.1 hallowed.2 hlog
      · simp
  | verify s m handler =>
      obtain ⟨hpair, hopen, halone⟩ := hallowed
      exact h.verify hpair hopen halone hreads rfl

/-- A run keeps the invariant. -/
theorem inv {engine : PatternEngine} {first : Bench σ} (hrun : Run engine pair first log after)
    (hfirst : Inv pair before [] first)
    (hreads : ∀ success ∈ log, (pair.contractOf [success.2]).ReadsBack) :
    Inv pair before log after := by
  induction hrun with
  | start => exact hfirst
  | call _ c hallowed ih =>
      apply Inv.call _ hallowed hreads
      apply ih
      intro success hsuccess
      exact hreads success (List.mem_append_left _ hsuccess)

end Run

/-- First-seen recording over whole runs. Start from no file, or from one that
lists some entries and can be read back, and from sessions of the pair that have
verified nothing. Make any calls of sessions of the pair, one after the other, of
which those that verify something verify interactions that can be read back. Then
the file lists what it listed before, and after that the interactions that were
verified and are like nothing before, once each, in the order of their first
successes; and each session's contract lists its own successes in the same way. -/
theorem run_records_first_seen {engine : PatternEngine} {pair : Pair} {before : List Entry}
    {log : List Success} {first after : Bench σ} (hrun : Run engine pair first log after)
    (hbefore : pair.Holds first.disk before)
    (hfresh : ∀ s : Session, s.pair = pair → s.Open first →
      s.contract first = Contract.new pair.consumer pair.provider)
    (hreads : ∀ success ∈ log, (pair.contractOf [success.2]).ReadsBack) :
    pair.Holds after.disk
        (before ++ Entry.fresh before (log.map fun success => .message success.2)) ∧
      ∀ s : Session, s.pair = pair → s.Open after →
        (s.contract after).entries = Entry.fresh []
          ((log.filter (·.1 == s.slot)).map fun success => .message success.2) := by
  have hfirst : Run.Inv pair before [] first := by
    constructor
    case file => rwa [Run.listed, List.map_nil, Entry.fresh, List.append_nil]
    case contracts => exact hfresh
    case slots =>
      intro success hsuccess
      cases hsuccess
  have hinv := hrun.inv hfirst hreads
  constructor
  · exact hinv.file
  · intro s hpair hopen
    rw [hinv.contracts s hpair hopen, Pair.contractOf, Run.ofSlot, List.map_map]
    rfl

/-- One session verifies a message and another one, which has verified nothing,
writes: the file still lists the message. -/
theorem run_records_first_seen_shared :
    let settings : Settings := ⟨"consumer", "provider", "pacts", "warn", false⟩
    let pair : Pair := ⟨⟨"pacts"⟩, "consumer", "provider"⟩
    let engine : PatternEngine := ⟨fun _ => .error none⟩
    let i : Interaction := { description := "an event" }
    let first : Bench Unit :=
      { contracts := List.replicate 2 (Contract.new "consumer" "provider"), state := () }
    let verify : Call Unit := .verify ⟨settings, 0⟩
      ((Session.message ⟨settings, 0⟩ (anyTarget "any")).expects "an event") fun _ => pure ()
    let write : Call Unit := .write ⟨settings, 1⟩
    let after := (write.run engine (verify.run engine first).2).2
    Run engine pair first [(0, i)] after ∧ pair.Holds after.disk [.message i] := by
  intro settings pair engine i first verify write after
  have hopen {bench : Bench Unit} {slot : Nat} (h : bench.contracts[slot]?.any
      (fun c => c.consumer == "consumer" && c.provider == "provider") = true) :
      Session.Open ⟨settings, slot⟩ bench := by
    cases hslot : bench.contracts[slot]? with
    | none => simp [hslot] at h
    | some c =>
        obtain ⟨hconsumer, hprovider⟩ : c.consumer = "consumer" ∧ c.provider = "provider" := by
          simpa [hslot] using h
        exact ⟨c, hslot, hconsumer, hprovider⟩
  have hsuccess : verify.success (verify.run engine first).1 = [(0, i)] := by
    have hok : (verify.run engine first).1.isOk = true := by decide +kernel
    cases hresult : (verify.run engine first).1 with
    | ok _ => rfl
    | error e =>
        rw [hresult] at hok
        cases hok
  have halone : pair.LeftAloneBy fun (_ : ConcreteMessage Json) =>
      (pure () : BenchOp Unit String Unit) :=
    fun _ _ => ⟨rfl, [], List.not_mem_nil, .refl _ _⟩
  have hrun : Run engine pair first [(0, i)] after := by
    have hverified : Run engine pair first _ _ :=
      Run.call .start verify ⟨rfl, hopen (by decide +kernel), halone⟩
    rw [hsuccess] at hverified
    exact Run.call hverified write ⟨rfl, hopen (by decide +kernel)⟩
  have hfresh : ∀ s : Session, s.pair = pair → s.Open first →
      s.contract first = Contract.new pair.consumer pair.provider := by
    rintro s - ⟨c, hslot, -⟩
    rw [Session.contract, hslot]
    exact List.eq_of_mem_replicate (List.mem_of_getElem? hslot)
  have hreads : ∀ success ∈ [((0 : Nat), i)], (pair.contractOf [success.2]).ReadsBack := by
    intro success hmem
    rw [List.mem_singleton.mp hmem, Contract.readsBack_iff]
    constructor
    · intro entry hentry
      rw [List.mem_singleton.mp hentry]
      rfl
    · exact Contract.Metadata.survives_initial
  exact ⟨hrun, (run_records_first_seen hrun (.inl ⟨by decide +kernel, rfl⟩) hfresh hreads).1⟩

end MessageContract
