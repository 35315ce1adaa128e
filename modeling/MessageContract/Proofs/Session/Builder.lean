import MessageContract.Proofs.Session.Verify

/-!
Building an expectation, call by call. A call may change the type that the handler takes,
so calls are arrows between types, and what they say is kept apart from the types. Of every
kind of thing that may be said the last word counts, but for preconditions, which add up,
and for content that cannot be read, which is remembered until the next content is set.
-/

namespace MessageContract

/-- What a call makes of content: contents, or the reason why there are none. -/
def Contents.ofValue (contentType : String) (content : Except Json.Error Json) :
    Except Error Contents := do
  let value ← content.mapError .serialization
  return .json contentType (← liftMatcher (Node.ofJson value))

def Contents.ofBody (contentType : String) (body : List UInt8) : Except Error Contents :=
  if MediaType.isJson contentType then ofValue contentType (Json.ofBytes body)
  else .ok (.bytes contentType body)

/-- What a call says about an expectation, whatever type its handler takes. -/
inductive Said where
  | state (state : ProviderState)
  | description (text : String)
  | metadata (entries : List (String × String))
  | content (read : Except Error Contents)
  /-- The type changes. -/
  | target
  | handler

namespace Said

def state? : Said → Option ProviderState
  | .state precondition => some precondition
  | _ => none

def description? : Said → Option String
  | .description text => some text
  | _ => none

def metadata? : Said → Option (List (String × String))
  | .metadata entries => some entries
  | _ => none

def content? : Said → Option (Except Error Contents)
  | .content read => some read
  | _ => none

/-- Contents that could be read. -/
def contents? (said : Said) : Option Contents :=
  said.content?.bind Except.toOption

/-- The last word on something. -/
def last {β : Type} (find : Said → Option β) (said : List Said) : Option β :=
  (said.filterMap find).getLast?

theorem last_snoc {β : Type} (find : Said → Option β) (said : List Said) (word : Said) :
    last find (said ++ [word]) = (find word).or (last find said) := by
  rw [last, last, List.filterMap_append, List.getLast?_append]
  cases hword : find word <;> simp [hword]

/-- A handler has been set, and no type after it. -/
def Handled (said : List Said) : Prop :=
  ∃ before after, said = before ++ .handler :: after ∧ .target ∉ after

theorem not_handled_nil : ¬Handled [] := by
  rintro ⟨before, after, hsaid, -⟩
  cases before <;> cases hsaid

theorem handled_snoc {said : List Said} {word : Said} :
    Handled (said ++ [word]) ↔ word = .handler ∨ word ≠ .target ∧ Handled said := by
  constructor
  · rintro ⟨before, after, hsaid, hafter⟩
    rcases after.eq_nil_or_concat with rfl | ⟨rest, final, rfl⟩
    · obtain ⟨-, hword⟩ := List.append_inj' hsaid rfl
      exact .inl (List.singleton_inj.mp hword)
    · rw [List.concat_eq_append, ← List.cons_append, ← List.append_assoc] at hsaid
      obtain ⟨rfl, hword⟩ := List.append_inj' hsaid rfl
      obtain rfl := List.singleton_inj.mp hword
      rw [List.concat_eq_append, List.mem_append, not_or, List.mem_singleton] at hafter
      exact .inr ⟨Ne.symm hafter.2, before, rest, rfl, hafter.1⟩
  · rintro (rfl | ⟨hword, before, after, rfl, hafter⟩)
    · exact ⟨said, [], rfl, List.not_mem_nil⟩
    · refine ⟨before, after ++ [word], by simp, ?_⟩
      rw [List.mem_append, not_or, List.mem_singleton]
      exact ⟨hafter, Ne.symm hword⟩

end Said

/-- A call on an expectation whose handler takes `α`, after which it takes `β`. -/
inductive BuildCall (σ : Type) : Type → Type → Type 1
  | given {α : Type} (state : ProviderState) : BuildCall σ α α
  | expects {α : Type} (description : String) : BuildCall σ α α
  | setMetadata {α : Type} (entries : List (String × String)) : BuildCall σ α α
  | setBody {α : Type} (contentType : String) (body : List UInt8) : BuildCall σ α α
  | setJsonBody {α : Type} (content : Except Json.Error Json) : BuildCall σ α α
  | setBytes {α : Type} (contentType : String) (data : List UInt8) : BuildCall σ α α
  | decodedAs {α β : Type} (target : Target β) : BuildCall σ α β
  | handledBy {α : Type} (handler : Handler σ α) : BuildCall σ α α

/-- Calls one after the other. -/
inductive BuildCalls (σ : Type) : Type → Type → Type 1
  | none {α : Type} : BuildCalls σ α α
  | after {α β γ : Type} (calls : BuildCalls σ α β) (call : BuildCall σ β γ) : BuildCalls σ α γ

variable {σ α β γ : Type}

namespace BuildCall

def run : BuildCall σ α β → Message σ α → Message σ β
  | .given state, m => m.given state
  | .expects description, m => m.expects description
  | .setMetadata entries, m => m.setMetadata entries
  | .setBody contentType body, m => m.setBody contentType body
  | .setJsonBody content, m => m.setJsonBody content
  | .setBytes contentType data, m => m.setBytes contentType data
  | .decodedAs target, m => m.decodedAs target
  | .handledBy handler, m => m.handledBy handler

def said : BuildCall σ α β → Said
  | .given state => .state state
  | .expects description => .description description
  | .setMetadata entries => .metadata entries
  | .setBody contentType body => .content (Contents.ofBody contentType body)
  | .setJsonBody content => .content (Contents.ofValue MediaType.json content)
  | .setBytes contentType data => .content (.ok (.bytes contentType data))
  | .decodedAs _ => .target
  | .handledBy _ => .handler

end BuildCall

namespace BuildCalls

def run {α : Type} : {β : Type} → BuildCalls σ α β → Message σ α → Message σ β
  | _, .none, m => m
  | _, .after calls call, m => call.run (calls.run m)

/-- All that the calls say, in their order. -/
def said {α : Type} : {β : Type} → BuildCalls σ α β → List Said
  | _, .none => []
  | _, .after calls call => calls.said ++ [call.said]

end BuildCalls

namespace Message

/-- Sets contents, or remembers why there are none. -/
def take (m : Message σ α) : Except Error Contents → Message σ α
  | .ok contents => m.setContents contents
  | .error e => { m with contentError := some e }

theorem setValue_eq_take (m : Message σ α) (contentType : String)
    (content : Except Json.Error Json) :
    m.setValue contentType content = m.take (Contents.ofValue contentType content) := by
  cases content with
  | error e => rfl
  | ok value =>
      rw [setValue, Contents.ofValue]
      dsimp only [Except.mapError]
      rw [Outcome.ok_bind]
      cases Node.ofJson value <;> rfl

theorem setBody_eq_take (m : Message σ α) (contentType : String) (body : List UInt8) :
    m.setBody contentType body = m.take (Contents.ofBody contentType body) := by
  rw [setBody, Contents.ofBody]
  split
  · exact setValue_eq_take m contentType _
  · rfl

/-- The second message is the first one after one more word about it. -/
structure Follows (m : Message σ α) (word : Said) (next : Message σ β) : Prop where
  states : next.interaction.states = m.interaction.states ++ word.state?.toList
  description : next.interaction.description = word.description?.getD m.interaction.description
  metadata : next.interaction.metadata =
    (word.metadata?.map Fields.ofList).getD m.interaction.metadata
  contents : next.interaction.contents = word.contents?.getD m.interaction.contents
  contentError : next.contentError =
    match word.content? with
    | none => m.contentError
    | some (.ok _) => none
    | some (.error e) => some e
  handler : next.handler.isSome ↔ word = .handler ∨ word ≠ .target ∧ m.handler.isSome

theorem follows_take (m : Message σ α) (read : Except Error Contents) :
    m.Follows (.content read) (m.take read) := by
  cases read <;>
    exact ⟨(List.append_nil _).symm, rfl, rfl, rfl, rfl, by simp [take, setContents]⟩

/-- What one call does to an expectation. -/
theorem follows_run (m : Message σ α) (call : BuildCall σ α β) :
    m.Follows call.said (call.run m) := by
  cases call with
  | setBody contentType body =>
      rw [BuildCall.run, setBody_eq_take]
      exact follows_take m _
  | setJsonBody content =>
      rw [BuildCall.run, setJsonBody, setValue_eq_take]
      exact follows_take m _
  | setBytes contentType data => exact follows_take m (.ok (.bytes contentType data))
  | given =>
      refine ⟨rfl, rfl, rfl, rfl, rfl, ?_⟩
      simp [BuildCall.run, BuildCall.said, given]
  | expects | setMetadata | decodedAs | handledBy =>
      refine ⟨(List.append_nil _).symm, rfl, rfl, rfl, rfl, ?_⟩
      simp [BuildCall.run, BuildCall.said, expects, setMetadata, decodedAs, handledBy]

/-- The message is what has been said about it. -/
structure Says (m : Message σ α) (said : List Said) : Prop where
  states : m.interaction.states = said.filterMap Said.state?
  description : m.interaction.description = (Said.last Said.description? said).getD ""
  metadata : m.interaction.metadata = Fields.ofList ((Said.last Said.metadata? said).getD [])
  contents : m.interaction.contents = (Said.last Said.contents? said).getD .empty
  contentError : ∀ e, m.contentError = some e ↔ Said.last Said.content? said = some (.error e)
  handler : m.handler.isSome ↔ Said.Handled said

theorem says_new (s : Session) (target : Target α) : (s.message target : Message σ α).Says [] where
  states := rfl
  description := rfl
  metadata := rfl
  contents := rfl
  contentError := by simp [Session.message, Said.last]
  handler := iff_of_false (by simp [Session.message]) Said.not_handled_nil

theorem Says.snoc {m : Message σ α} {next : Message σ β} {said : List Said} {word : Said}
    (h : m.Says said) (hnext : m.Follows word next) : next.Says (said ++ [word]) where
  states := by
    rw [hnext.states, h.states, List.filterMap_append]
    cases hword : word.state? <;> simp [hword]
  description := by
    rw [hnext.description, h.description, Said.last_snoc]
    cases word.description? <;> rfl
  metadata := by
    rw [hnext.metadata, h.metadata, Said.last_snoc]
    cases word.metadata? <;> rfl
  contents := by
    rw [hnext.contents, h.contents, Said.last_snoc]
    cases word.contents? <;> rfl
  contentError := by
    intro e
    rw [hnext.contentError, Said.last_snoc]
    rcases word.content? with _ | (_ | _)
    · exact h.contentError e
    · simp
    · simp
  handler := by rw [hnext.handler, h.handler, Said.handled_snoc]

/-- A message that is built is what all its calls say. -/
theorem says_run (s : Session) (target : Target α) (calls : BuildCalls σ α β) :
    (calls.run (s.message target)).Says calls.said := by
  induction calls with
  | none => exact says_new s target
  | after calls call ih => exact ih.snoc (follows_run _ call)

theorem verify_of_no_handler {m : Message σ α} (hnone : m.handler = none) (engine : PatternEngine)
    (bench : Bench σ) :
    m.verify engine bench = (.error (.invalidInteraction .noHandler), bench) := by
  rw [verify, hnone]
  rfl

theorem verify_of_contentError {m : Message σ α} {e : Error} (herror : m.contentError = some e)
    (engine : PatternEngine) (bench : Bench σ) :
    ∃ fault ∈ [InteractionFault.noHandler, .blankDescription, .badContent e.message],
      m.verify engine bench = (.error (.invalidInteraction fault), bench) := by
  cases hhandler : m.handler with
  | none => exact ⟨_, by simp, verify_of_no_handler hhandler engine bench⟩
  | some handler =>
      have hverify : m.verify engine bench = m.session.verify engine m handler bench := by
        rw [verify, hhandler]
      rw [hverify]
      cases hdescribed : Text.allBlank m.interaction.description with
      | true => exact ⟨_, by simp, Session.verify_of_blank hdescribed⟩
      | false => exact ⟨_, by simp, Session.verify_of_badContent hdescribed herror⟩

/-- Of each kind of call the last one decides, whatever calls there are in between. The
preconditions are all that were given; contents are the last ones that could be read, and
what is remembered is why the last content could not be read, if it could not; a handler is
there if one was set after the last change of type. Without a handler, or if the last
content could not be read, a verification fails and changes nothing. -/
theorem last_call_decides (s : Session) (target : Target α) (calls : BuildCalls σ α β) :
    let m := calls.run (s.message target)
    let said := calls.said
    m.interaction.states = said.filterMap Said.state? ∧
    m.interaction.description = (Said.last Said.description? said).getD "" ∧
    m.interaction.metadata = Fields.ofList ((Said.last Said.metadata? said).getD []) ∧
    m.interaction.contents = (Said.last Said.contents? said).getD .empty ∧
    (∀ e, m.contentError = some e ↔ Said.last Said.content? said = some (.error e)) ∧
    (m.handler.isSome ↔ Said.Handled said) ∧
    ∀ engine bench,
      (¬Said.Handled said →
        m.verify engine bench = (.error (.invalidInteraction .noHandler), bench)) ∧
      ∀ e, Said.last Said.content? said = some (.error e) →
        ∃ fault ∈ [InteractionFault.noHandler, .blankDescription, .badContent e.message],
          m.verify engine bench = (.error (.invalidInteraction fault), bench) := by
  intro m said
  have h : m.Says said := says_run s target calls
  refine ⟨h.states, h.description, h.metadata, h.contents, h.contentError, h.handler, ?_⟩
  intro engine bench
  constructor
  · intro hnot
    have hnone : m.handler = none :=
      Option.not_isSome_iff_eq_none.mp fun hsome => hnot (h.handler.mp hsome)
    exact verify_of_no_handler hnone engine bench
  · intro e hlast
    exact verify_of_contentError ((h.contentError e).mpr hlast) engine bench

/-- A precondition given twice, bytes and then a rule whose kind is no string, and a
handler that is dropped when the type changes. -/
theorem last_call_decides_dropped :
    let s : Session := ⟨⟨"consumer", "provider", "pacts", "warn", false⟩, 0⟩
    let shelf : ProviderState := { name := "a shelf" }
    let rule := Json.object [("pact:matcher:type", .int 1)]
    let target : Target Json := anyTarget "any"
    let calls : BuildCalls Nat Json Json := BuildCalls.none
      |>.after (.given shelf) |>.after (.expects "a draft") |>.after (.given shelf)
      |>.after (.setBytes "text/plain" [0x61]) |>.after (.expects "an event")
      |>.after (.handledBy fun _ => pure ()) |>.after (.setJsonBody (.ok rule))
      |>.after (.decodedAs target)
    let m := calls.run (s.message target)
    let e : Error := .invalidMatcher (.keyNotString matcherKey (.int 1))
    m.interaction.states = [shelf, shelf] ∧ m.interaction.description = "an event" ∧
      m.interaction.contents = .bytes "text/plain" [0x61] ∧ m.contentError = some e ∧
      ∀ bench, m.verify ⟨fun _ => .error none⟩ bench =
        (.error (.invalidInteraction .noHandler), bench) := by
  intro s shelf rule target calls m e
  obtain ⟨hstates, hdescription, -, hcontents, herror, -, hverify⟩ :=
    last_call_decides s target calls
  refine ⟨hstates, hdescription, hcontents, (herror e).mpr rfl, ?_⟩
  intro bench
  apply (hverify _ bench).1
  intro hhandled
  obtain h | ⟨h, -⟩ := Said.handled_snoc.mp hhandled
  · cases h
  · exact h rfl

end Message

end MessageContract
