import MessageContract.Proofs.Session.Run

/-!
What a session has verified is in its file. A session is looked at over its whole history:
it records interactions, and in between anything at all may happen that does not touch its
contract, so that the file may be replaced, overwritten or removed by others. Its contract
then holds recorded interactions only, each of which was in the file when its recording
ended; and every recording brings all of them back into the file.
-/

namespace MessageContract

variable {σ α : Type}

/-- An interaction that has been recorded, and the file tree at the end of the call. -/
structure Recording where
  interaction : Interaction
  disk : Disk

namespace Session

/-- The recording that a call has made: one if it succeeded. -/
def recording (i : Interaction) : Except Error Unit × Bench σ → List Recording
  | (.ok _, after) => [⟨i, after.disk⟩]
  | (.error _, _) => []

/-- What may become of a bench, with the recordings of one session: others do what they
like except to that session's contract, and the session records interactions. -/
inductive History (s : Session) (first : Bench σ) : List Recording → Bench σ → Prop where
  | start : History s first [] first
  | other {log : List Recording} {bench after : Bench σ} (hhistory : History s first log bench)
      (hslot : after.contracts[s.slot]? = bench.contracts[s.slot]?) :
      History s first log after
  | record {log : List Recording} {bench : Bench σ} (hhistory : History s first log bench)
      (i : Interaction) :
      History s first (log ++ recording i (s.record i bench)) (s.record i bench).2

/-- The session's file can be loaded and contains the interaction. -/
def Filed (s : Session) (disk : Disk) (i : Interaction) : Prop :=
  ∃ loaded, s.store.load disk s.settings.consumer s.settings.provider = .ok (some loaded) ∧
    loaded.contains i = true

variable {s : Session} {first bench after : Bench σ} {log during : List Recording}

theorem interaction_of_mem_recording {i : Interaction} {r : Recording}
    {run : Except Error Unit × Bench σ} (hr : r ∈ recording i run) : r.interaction = i := by
  obtain ⟨_ | _, after⟩ := run
  · cases hr
  · rw [List.mem_singleton.mp hr]

namespace History

theorem trans (hbefore : History s first log bench) (hlater : History s bench during after) :
    History s first (log ++ during) after := by
  induction hlater with
  | start => rwa [List.append_nil]
  | other _ hslot ih => exact ih.other hslot
  | record _ i ih =>
      rw [← List.append_assoc]
      exact ih.record i

/-- A session's contract is not touched when the file is written, by it or by another one,
with or without a look at what the file holds. -/
theorem write (hbefore : History s first log bench) (writer : Session) (overwrite : Bool) :
    History s first log (writer.writeFile overwrite bench).2 := by
  refine hbefore.other ?_
  rw [writeFile, Outcome.run_bind, Outcome.run_get]
  dsimp only
  rw [writeContract_run]
  rcases writer.store.writeUnder bench.conditions (writer.contract bench) overwrite bench.disk with
    ⟨_ | _, _⟩ <;> rfl

/-- A verification belongs to the history of its session if what the handler does belongs
to one. -/
theorem verify {engine : PatternEngine} {m : Message σ α} {handler : Handler σ α}
    (hbefore : History s first log bench)
    (hhandler : ∀ given, m.Reaches engine given →
      History s (m.warned engine bench) during (handler given (m.warned engine bench)).2)
    (hidle : (∀ given, ¬ m.Reaches engine given) → during = []) :
    History s first (log ++ during ++ recording m.interaction (s.verify engine m handler bench))
      (s.verify engine m handler bench).2 := by
  have hwarned : History s first log (m.warned engine bench) := hbefore.other rfl
  rcases hrun : s.verify engine m handler bench with ⟨result, after⟩
  rcases verify_cases hrun with
    ⟨hnone, e, events, rfl, -, rfl⟩ | ⟨given, reason, hreaches, hcall, rfl⟩ |
      ⟨given, accepted, hreaches, hcall, hrecord⟩
  · rw [hidle hnone, recording, List.append_nil, List.append_nil]
    exact hbefore.other rfl
  · have hhandled := hwarned.trans (hhandler given hreaches)
    rw [hcall] at hhandled
    rwa [recording, List.append_nil]
  · have hhandled := hwarned.trans (hhandler given hreaches)
    rw [hcall] at hhandled
    rw [← hrecord]
    exact hhandled.record m.interaction

end History

/-- At every point of a session's history its contract holds what has been recorded, and
each recording has left its interaction in the file. -/
structure Kept (s : Session) (log : List Recording) (bench : Bench σ) : Prop where
  isOpen : s.Open bench
  metadata : (s.contract bench).metadata = .initial
  entries : ∀ entry ∈ (s.contract bench).entries, ∃ r ∈ log, entry = .message r.interaction
  files : ∀ r ∈ log, s.Filed r.disk r.interaction

theorem kept_of_start {settings : Settings} (hrun : start settings bench = (.ok s, after)) :
    s.Kept [] after where
  isOpen := open_of_start hrun
  metadata := by rw [contract_of_start hrun]; rfl
  entries := by
    intro entry hentry
    rw [contract_of_start hrun] at hentry
    cases hentry
  files := List.forall_mem_nil _

theorem Kept.other (h : s.Kept log bench)
    (hslot : after.contracts[s.slot]? = bench.contracts[s.slot]?) : s.Kept log after := by
  have hcontract := contract_congr hslot
  constructor
  · exact open_congr hslot h.isOpen
  · rw [hcontract, h.metadata]
  · rw [hcontract]
    exact h.entries
  · exact h.files

/-- What a session is about to write can be read back. -/
theorem Kept.readsBack_candidate (h : s.Kept log bench)
    (hlog : ∀ r ∈ log, (s.pair.contractOf [r.interaction]).ReadsBack) {i : Interaction}
    (hi : (s.pair.contractOf [i]).ReadsBack) : (s.candidate i bench).ReadsBack := by
  rw [candidate, Contract.add_fst, Contract.readsBack_iff]
  constructor
  · intro entry hentry
    rcases List.mem_append.mp hentry with hold | hnew
    · obtain ⟨r, hr, rfl⟩ := h.entries entry hold
      exact Pair.survives_of_readsBack (hlog r hr)
    · obtain rfl := List.mem_singleton.mp (Entry.fresh_subset _ _ hnew)
      exact Pair.survives_of_readsBack hi
  · dsimp only
    rw [h.metadata]
    exact Contract.Metadata.survives_initial

/-- After a recording that succeeds the file contains what the session's contract contains. -/
theorem Kept.load_of_record (h : s.Kept log bench)
    (hlog : ∀ r ∈ log, (s.pair.contractOf [r.interaction]).ReadsBack) {i : Interaction}
    (hi : (s.pair.contractOf [i]).ReadsBack) (hrun : s.record i bench = (.ok (), after)) :
    ∃ loaded, s.store.load after.disk s.settings.consumer s.settings.provider =
        .ok (some loaded) ∧
      ∀ j, (s.contract after).contains j = true → loaded.contains j = true := by
  obtain ⟨-, hcontract, written, hwrite⟩ := write_of_record h.isOpen hrun
  obtain ⟨hconsumer, hprovider⟩ := candidate_pair (i := i) h.isOpen
  have hback := h.readsBack_candidate hlog hi
  obtain ⟨loaded, hload, hcovers⟩ := Store.covers_of_write hback hwrite
  rw [hconsumer, hprovider] at hload
  rw [hcontract]
  exact ⟨loaded, hload, fun _ => hcovers.contains⟩

/-- Recording keeps the invariant, whatever comes of it. -/
theorem Kept.record (h : s.Kept log bench) {i : Interaction} {result : Except Error Unit}
    (hreads : ∀ r ∈ log ++ recording i (result, after),
      (s.pair.contractOf [r.interaction]).ReadsBack)
    (hrun : s.record i bench = (result, after)) :
    s.Kept (log ++ recording i (result, after)) after := by
  cases result with
  | error e =>
      have hslot : after.contracts[s.slot]? = bench.contracts[s.slot]? := by
        rw [contracts_of_record hrun]
      rw [recording, List.append_nil]
      exact h.other hslot
  | ok =>
      rw [recording] at hreads ⊢
      obtain ⟨hopen, hcontract, -⟩ := write_of_record h.isOpen hrun
      obtain ⟨loaded, hload, hcontains⟩ := h.load_of_record
        (fun r hr => hreads r (List.mem_append_left _ hr))
        (hreads _ (List.mem_append_right _ List.mem_cons_self)) hrun
      rw [hcontract] at hcontains
      constructor
      · exact hopen
      · rw [hcontract, candidate, Contract.add_fst]
        exact h.metadata
      · rw [hcontract, candidate, Contract.add_fst]
        intro entry hentry
        rcases List.mem_append.mp hentry with hold | hnew
        · obtain ⟨r, hr, hentry⟩ := h.entries entry hold
          exact ⟨r, List.mem_append_left _ hr, hentry⟩
        · have hentry := List.mem_singleton.mp (Entry.fresh_subset _ _ hnew)
          exact ⟨_, List.mem_append_right _ List.mem_cons_self, hentry⟩
      · intro r hr
        rcases List.mem_append.mp hr with hold | hnew
        · exact h.files r hold
        · rw [List.mem_singleton.mp hnew]
          exact ⟨loaded, hload, hcontains i (Contract.contains_add _ i)⟩

/-- The invariant holds throughout a history. -/
theorem History.kept (hhistory : History s first log bench) (hfirst : s.Kept [] first)
    (hreads : ∀ r ∈ log, (s.pair.contractOf [r.interaction]).ReadsBack) :
    s.Kept log bench := by
  induction hhistory with
  | start => exact hfirst
  | other _ hslot ih => exact (ih hreads).other hslot
  | record _ i ih =>
      exact (ih fun r hr => hreads r (List.mem_append_left _ hr)).record hreads rfl

/-- Take a session from its start through any history in which it recorded interactions that
can be read back. Its contract then holds recorded interactions only, and each recording
left its interaction in the file. And a verification that succeeds, of a message that can
be read back too, leaves a file that can be loaded and contains every interaction of the
session's contract, the new one included, whatever became of the file before, and though
the handler may have done anything that a history allows. -/
theorem verify_files_all_recorded {settings : Settings} {empty : Bench σ}
    (hstart : start settings empty = (.ok s, first)) (hhistory : History s first log bench)
    (hreads : ∀ r ∈ log, (s.pair.contractOf [r.interaction]).ReadsBack) :
    (∀ i ∈ (s.contract bench).messages, ∃ r ∈ log, r.interaction = i) ∧
    (∀ r ∈ log, s.Filed r.disk r.interaction) ∧
    ∀ {α : Type} (engine : PatternEngine) (m : Message σ α) (handler : Handler σ α)
      (during : List Recording) (after : Bench σ),
      (∀ given, m.Reaches engine given →
        History s (m.warned engine bench) during (handler given (m.warned engine bench)).2) →
      (∀ r ∈ during, (s.pair.contractOf [r.interaction]).ReadsBack) →
      (s.pair.contractOf [m.interaction]).ReadsBack →
      s.verify engine m handler bench = (.ok (), after) →
        History s first (log ++ during ++ [⟨m.interaction, after.disk⟩]) after ∧
        (s.contract after).contains m.interaction = true ∧
        ∃ loaded, s.store.load after.disk s.settings.consumer s.settings.provider =
            .ok (some loaded) ∧
          loaded.contains m.interaction = true ∧
          ∀ i ∈ (s.contract after).messages, loaded.contains i = true := by
  have hkept := hhistory.kept (kept_of_start hstart) hreads
  refine ⟨?_, hkept.files, ?_⟩
  · intro i hi
    obtain ⟨r, hr, hentry⟩ := hkept.entries _ (Contract.mem_messages.mp hi)
    exact ⟨r, hr, (Entry.message.inj hentry).symm⟩
  · intro α engine m handler during after hhandler hduring hm hrun
    obtain ⟨-, _, _, herror, -⟩ | ⟨_, _, -, -, herror⟩ |
      ⟨given, accepted, hreaches, hcall, hrecord⟩ := verify_cases hrun
    · cases herror
    · cases herror
    have hafter := hhistory.verify hhandler fun hnone => absurd hreaches (hnone given)
    rw [hrun] at hafter
    -- the file is written from the contract that the handler has left
    have hwarned : History s first log (m.warned engine bench) := hhistory.other rfl
    have haccepted := hwarned.trans (hhandler given hreaches)
    rw [hcall] at haccepted
    have hkeptAccepted := haccepted.kept (kept_of_start hstart)
      (List.forall_mem_append.mpr ⟨hreads, hduring⟩)
    obtain ⟨-, hcontract, -⟩ := write_of_record hkeptAccepted.isOpen hrecord
    obtain ⟨loaded, hload, hcontains⟩ := hkeptAccepted.load_of_record
      (List.forall_mem_append.mpr ⟨hreads, hduring⟩) hm hrecord
    have hnew : (s.contract after).contains m.interaction = true := by
      rw [hcontract]
      exact Contract.contains_add _ _
    exact ⟨hafter, hnew, loaded, hload, hcontains _ hnew,
      fun i hi => hcontains i (Contract.contains_of_mem_messages hi)⟩

/-- A session verifies a message, its file is removed, and it verifies another one: the file
contains both. -/
theorem verify_files_all_recorded_removed :
    let settings : Settings := ⟨"consumer", "provider", "pacts", "warn", false⟩
    let s : Session := ⟨settings, 0⟩
    let engine : PatternEngine := ⟨fun _ => .error none⟩
    let message (description : String) : Message Unit Json :=
      (s.message (anyTarget "any")).expects description
    let accept : Handler Unit Json := fun _ => pure ()
    let first : Bench Unit := { contracts := [Contract.new "consumer" "provider"], state := () }
    let removed : Bench Unit :=
      { (s.verify engine (message "an event") accept first).2 with disk := {} }
    ∃ after loaded,
      s.verify engine (message "another event") accept removed = (.ok (), after) ∧
      (s.contract after).messages.length = 2 ∧
      s.store.load after.disk "consumer" "provider" = .ok (some loaded) ∧
      ∀ i ∈ (s.contract after).messages, loaded.contains i = true := by
  intro settings s engine message accept first removed
  have hvalid : settings.validate = .ok () := by
    have hconsumer : Text.allBlank "consumer" = false := by decide
    have hprovider : Text.allBlank "provider" = false := by decide
    simp [settings, Settings.validate, hconsumer, hprovider]
  have hstart : start settings { state := () } = (.ok s, first) :=
    start_eq_ok.mpr ⟨hvalid, rfl, rfl⟩
  have hreads (description : String) :
      (s.pair.contractOf [(message description).interaction]).ReadsBack := by
    refine (Contract.readsBack_iff _).mpr ⟨?_, Contract.Metadata.survives_initial⟩
    intro entry hentry
    rw [List.mem_singleton.mp hentry]
    rfl
  have hhistory : History s first ([] ++ [] ++ recording (message "an event").interaction
      (s.verify engine (message "an event") accept first)) removed :=
    (History.start.verify (fun _ _ => .start) fun _ => rfl).other rfl
  obtain ⟨after, hrun⟩ : ∃ after, s.verify engine (message "another event") accept removed =
      (.ok (), after) := exists_of_isOk (by decide +kernel)
  have hlength : (s.contract (s.verify engine (message "another event") accept
      removed).2).messages.length = 2 := by decide +kernel
  rw [hrun] at hlength
  obtain ⟨-, -, hverify⟩ := verify_files_all_recorded hstart hhistory fun r hr => by
    rw [interaction_of_mem_recording hr]
    exact hreads _
  obtain ⟨-, -, loaded, hload, -, hcontains⟩ := hverify engine (message "another event") accept
    [] after (fun _ _ => .start) (List.forall_mem_nil _) (hreads _) hrun
  exact ⟨after, loaded, hrun, hlength, hload, hcontains⟩

end Session

end MessageContract
