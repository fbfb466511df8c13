import ActionDispatch.Proofs.View
import ActionDispatch.Proofs.Rollback

/-!
# How a request goes

`Dispatcher.Life` lists all that a request can come to, also if it is cut short: its step is
performed, and then it is completed, or it fails with nothing to take back, or its rollback walks
through the log. `Dispatcher.Walk` is that walk, turn by turn. Both keep what can be seen from
outside and leave out the states in between; `run_life` and `unwind_walk` are the places where a
request and its rollback are opened.
-/

namespace ActionDispatch

variable {V : Vocabulary} {α β : Type}

namespace DispatchError

/-- A rejection in the terms of the domain, or the fault of a service. -/
def isRaised : DispatchError → Bool
  | .action _ | .service .. => true
  | _ => false

theorem intoService_isRaised (error : DispatchError) (action : String) :
    (error.intoService action).isRaised = true := by
  unfold intoService
  split <;> rfl

theorem ne_rollbackFailed {error : DispatchError}
    (h : error.isRaised = true ∨ error.isUnsupported = true) (original : DispatchError)
    (failures : Nat) (first : DispatchError) : error ≠ .rollbackFailed original failures first := by
  rintro rfl
  rcases h with ⟨⟨⟩⟩ | ⟨⟨⟩⟩

/-- The error for the caller of a request that failed, after a rollback with these errors. -/
def afterRollback (original : DispatchError) : List DispatchError → DispatchError
  | [] => original
  | first :: others => .rollbackFailed original (others.length + 1) first

section

variable {original : DispatchError} {errors : List DispatchError}
  (plain : ∀ cause failures first, original ≠ .rollbackFailed cause failures first)

include plain

/-- The error after a rollback says that it failed just when there were errors. -/
theorem afterRollback_failed_iff :
    (∃ cause failures first, original.afterRollback errors = .rollbackFailed cause failures first) ↔
      errors ≠ [] := by
  cases errors with
  | nil => exact ⟨fun ⟨_, _, _, same⟩ => (plain _ _ _ same).elim, fun h => (h rfl).elim⟩
  | cons first others => exact ⟨fun _ => List.cons_ne_nil _ _, fun _ => ⟨_, _, _, rfl⟩⟩

theorem failures_eq_length {cause first : DispatchError} {failures : Nat}
    (h : original.afterRollback errors = .rollbackFailed cause failures first) :
    failures = errors.length := by
  cases errors with
  | nil => exact (plain _ _ _ h).elim
  | cons first others =>
    cases h
    rfl

end

end DispatchError

/-- The event at the end of a turn. -/
def Turn.event (request : RequestId) (turn : Turn V) : Event :=
  .rollbackStepCompleted request turn.entry.name (!turn.entry.executed) turn.success

theorem Outcome.eq_of_value {out : Outcome V α} {a : α} (h : out.value = some a) :
    out = ⟨some a, out.state, out.moments⟩ := by
  rw [← h]

namespace Dispatcher

/-! ### Steps -/

/-- There is no handler for exactly this action type, or no validator for it. -/
def Unserved (dispatcher : Dispatcher V) (state : State V) (kind : V.Kind) : Prop :=
  dispatcher.handlerAt state kind = none ∨
    (dispatcher.validatorAt state kind).found.instance? = none

/-- What performing a step from this state comes to. -/
structure Labour (dispatcher : Dispatcher V) (caller : Caller) (step : Step V)
    (log : List (Entry V)) (state : State V) (out : Outcome V (Logged V step.Result)) : Prop where
  works : dispatcher.WorksIn caller out.value.isSome out.moments
  requests_le : out.value.isSome = true → state.requests ≤ out.state.requests
  log_eq : ∀ answer later, out.value = some (answer, later) →
    later = log ++ performed caller out.moments
  unserved : dispatcher.Unserved state step.kind →
    out.value = some (.error (.unsupportedAction step.name), log) ∧
      ∀ m ∈ out.moments, ∃ finding : Finding V, finding.moment = m
  served : ¬dispatcher.Unserved state step.kind → ∀ error later,
    out.value = some (.error error, later) → error.isRaised = true

/-- Steps of requests that have begun are performed like this. -/
def Labours (dispatcher : Dispatcher V) (perform : Performing V) : Prop :=
  ∀ caller step log state, caller.request.number < state.requests →
    dispatcher.Labour caller step log state (perform caller step log state)

theorem perform_of_unserved (dispatcher : Dispatcher V) (calls : Calls V) (caller : Caller)
    {step : Step V} {state : State V} (unserved : dispatcher.Unserved state step.kind)
    (log : List (Entry V)) :
    ∃ last moments, dispatcher.perform calls caller step log state =
        ⟨some (.error (.unsupportedAction step.name), log), last, moments⟩ ∧
      ∀ m ∈ moments, ∃ finding : Finding V, finding.moment = m := by
  unfold perform
  rw [Run.bind_apply, resolve_apply]
  cases served : dispatcher.handlerAt state step.kind with
  | none => exact ⟨_, _, rfl, fun _ hm => (nomatch hm)⟩
  | some handler =>
    have unguarded : (dispatcher.validatorAt state step.kind).found.instance? = none :=
      unserved.resolve_left (by simp [served])
    refine ⟨dispatcher.afterValidator state step.kind,
      (dispatcher.validatorAt state step.kind).found.moments, ?_, fun m hm => ?_⟩
    · simp [unguarded, Run.pure_apply, Outcome.after]
    · obtain ⟨finding, -, same⟩ := List.mem_map.1 hm
      exact ⟨finding, same⟩

/-- A refusal is a rejection in the terms of the domain. -/
theorem refuse_raises {dispatcher : Dispatcher V} {caller : Caller} {step : Step V}
    {error : DispatchError} {state last : State V} {moments : List (Moment V)}
    (h : dispatcher.refuse caller step state = ⟨some (.error error), last, moments⟩) :
    error.isRaised = true := by
  cases step with
  | execute kind input =>
    obtain ⟨_, _, _, _, -, h, -⟩ := Run.bind_eq_some_iff.1 h
    obtain ⟨_, _, _, _, -, h, -⟩ := Run.bind_eq_some_iff.1 h
    cases h
    rfl
  | undo kind input output =>
    obtain ⟨_, _, _, _, -, h, -⟩ := Run.bind_eq_some_iff.1 h
    cases hset : dispatcher.settings.unauthorizedUndo with
    | ignore =>
      rw [hset] at h
      obtain ⟨_, _, _, _, -, h, -⟩ := Run.bind_eq_some_iff.1 h
      cases h
    | reject =>
      rw [hset] at h
      obtain ⟨_, _, _, _, -, h, -⟩ := Run.bind_eq_some_iff.1 h
      cases h
      rfl

/-- What a step that is served fails with was raised by its handler, or is a refusal. -/
theorem perform_raises {dispatcher : Dispatcher V} {calls : Calls V} {caller : Caller}
    {step : Step V} {log later : List (Entry V)} {error : DispatchError} {state last : State V}
    {moments : List (Moment V)} (served : ¬dispatcher.Unserved state step.kind)
    (h : dispatcher.perform calls caller step log state =
      ⟨some (.error error, later), last, moments⟩) : error.isRaised = true := by
  have conduct := dispatcher.perform_conduct calls caller step log state
  generalize dispatcher.perform calls caller step log state = out at h conduct
  cases conduct with
  | unserved unserved => exact (served (.inl unserved)).elim
  | unguarded unguarded => exact (served (.inr unguarded)).elim
  | refused guarded refused refusal =>
    cases h
    exact refuse_raises refusal
  | invoked admission =>
    rw [Outcome.after_eq_some_iff] at h
    obtain ⟨own, h, -⟩ := h
    obtain ⟨given, inner, middle, body, rest, -, answer, -⟩ := dispatcher.invoke_eq_some calls caller h
    cases given with
    | ok output => cases answer
    | error raised =>
      cases answer
      exact raised.intoService_isRaised step.name

theorem perform_labours {dispatcher : Dispatcher V} {calls : Calls V}
    (follow : calls.Follow dispatcher) (chronicled : calls.Chronicled dispatcher) :
    dispatcher.Labours (dispatcher.perform calls) := by
  intro caller step log state begun
  have chronicle := @perform_chronicles _ _ _ caller chronicled step log state
  refine ⟨⟨_, _, chronicle, begun, by simp⟩, fun finished => ?_, ?_, ?_, ?_⟩
  · obtain ⟨value, hvalue⟩ := Option.isSome_iff_exists.1 finished
    exact chronicle.origin.1 _ (by rw [hvalue]; rfl)
  · intro answer later h
    exact (perform_kept follow begun (Outcome.eq_of_value h)).log_eq
  · intro unserved
    obtain ⟨last, moments, h, found⟩ := dispatcher.perform_of_unserved calls caller unserved log
    rw [h]
    exact ⟨rfl, found⟩
  · intro served error later h
    exact perform_raises served (Outcome.eq_of_value h)

/-- A step fails because it is unsupported, or with an error that its handler or a refusal raised. -/
theorem Labour.error_cases {dispatcher : Dispatcher V} {caller : Caller} {step : Step V}
    {log : List (Entry V)} {state : State V} {out : Outcome V (Logged V step.Result)}
    (h : dispatcher.Labour caller step log state out) {error : DispatchError}
    (failed : out.value.map Prod.fst = some (.error error)) :
    error.isRaised = true ∨ error.isUnsupported = true := by
  obtain ⟨⟨answer, later⟩, hvalue, rfl⟩ := Option.map_eq_some_iff.1 failed
  by_cases unserved : dispatcher.Unserved state step.kind
  · cases hvalue.symm.trans (h.unserved unserved).1
    exact .inr rfl
  · exact .inl (h.served unserved error later hvalue)

/-! ### Rollbacks -/

/-- How a turn of a rollback goes: the step that takes the entry back is performed, and then its
outcome is logged and told. -/
structure Turned (dispatcher : Dispatcher V) (caller : Caller) (turn : Turn V)
    (failure : Option DispatchError) : Prop where
  works : dispatcher.WorksIn caller true turn.inside
  success : turn.success = failure.isNone
  record : (.logged turn.record : Moment V).isStepFailure = failure.isSome
  tells : dispatcher.Tells (turn.event caller.request)
    (.emitted (turn.event caller.request) :: turn.delivery)
  error : ∀ error, failure = some error → error.isRaised = true ∨ error.isUnsupported = true

/-- The walk of a rollback through these entries: the turns that it makes, what is left of one in
which it is cut short, and its errors unless it is. -/
inductive Walk (dispatcher : Dispatcher V) (caller : Caller) :
    List (Entry V) → List (Turn V) → List (Moment V) → Option (List DispatchError) → Prop
  | done : Walk dispatcher caller [] [] [] (some [])
  | halted {entry older inside} (works : dispatcher.WorksIn caller false inside) :
      Walk dispatcher caller (entry :: older) [] (.compensating caller entry :: inside) none
  | stopped {turn older error} (policy : dispatcher.settings.rollback = .stopOnFailure)
      (turned : dispatcher.Turned caller turn (some error)) :
      Walk dispatcher caller (turn.entry :: older) [turn] [] (some [error])
  | onward {turn older failure turns rest errors?}
      (goesOn : failure = none ∨ dispatcher.settings.rollback = .bestEffort)
      (turned : dispatcher.Turned caller turn failure)
      (walk : Walk dispatcher caller older turns rest errors?) :
      Walk dispatcher caller (turn.entry :: older) (turn :: turns) rest
        (errors?.map (failure.toList ++ ·))

variable {dispatcher : Dispatcher V} {perform : Performing V} {caller : Caller}

/-- The end of a turn, once its step is performed. -/
theorem turned_of_told {inside : List (Moment V)} (works : dispatcher.WorksIn caller true inside)
    {record : LogRecord} {failure : Option DispatchError}
    (hrecord : (.logged record : Moment V).isStepFailure = failure.isSome)
    (error : ∀ error, failure = some error → error.isRaised = true ∨ error.isUnsupported = true)
    (entry : Entry V) (later : List (Entry V)) (state : State V) :
    ∃ (turn : Turn V) (last : State V), turn.entry = entry ∧
      dispatcher.Turned caller turn failure ∧ last.requests = state.requests ∧
      Outcome.after (.compensating caller entry :: inside) ((do
        Run.log record
        dispatcher.emit (.rollbackStepCompleted caller.request entry.name (!entry.executed)
          failure.isNone)
        pure (failure, later) : Run V (Option DispatchError × List (Entry V))) state) =
          ⟨some (failure, later), last, turn.moments caller⟩ := by
  obtain ⟨last, _, hemit, requests, ⟨delivered, heard⟩⟩ := dispatcher.emit_tells
    (.rollbackStepCompleted caller.request entry.name (!entry.executed) failure.isNone) state
  refine ⟨⟨entry, inside, failure.isNone, record, _⟩, last, rfl,
    ⟨works, rfl, hrecord, .intro delivered heard, error⟩, requests, ?_⟩
  rw [Run.log_bind_apply, Run.bind_apply, hemit]
  simp [Run.pure_apply, Outcome.after, Turn.moments]

theorem compensate_turned (labours : dispatcher.Labours perform) (entry : Entry V)
    (log : List (Entry V)) {state : State V} (begun : caller.request.number < state.requests) :
    (∃ last inside, dispatcher.WorksIn caller false inside ∧
      dispatcher.compensate perform caller entry log state =
        ⟨none, last, .compensating caller entry :: inside⟩) ∨
    ∃ (turn : Turn V) (failure : Option DispatchError) (later : List (Entry V)) (last : State V),
      turn.entry = entry ∧ dispatcher.Turned caller turn failure ∧
      state.requests ≤ last.requests ∧
      dispatcher.compensate perform caller entry log state =
        ⟨some (failure, later), last, turn.moments caller⟩ := by
  have labour := labours caller entry.compensation log state begun
  unfold compensate
  rw [Run.leave_bind_apply, Run.bind_apply]
  generalize perform caller entry.compensation log state = out at labour
  obtain ⟨_ | ⟨answer, later⟩, middle, inside⟩ := out
  · exact .inl ⟨middle, inside, labour.works, rfl⟩
  have le : state.requests ≤ middle.requests := labour.requests_le rfl
  right
  rw [Outcome.andThen_some, Outcome.after_after]
  cases answer with
  | ok output =>
    obtain ⟨turn, last, entry_eq, turned, requests, heq⟩ := @turned_of_told _ _ _ _ labour.works
      (.stepSucceeded entry.name (!entry.executed)) none rfl (fun _ h => (nomatch h)) entry later
      middle
    exact ⟨turn, none, later, last, entry_eq, turned, requests ▸ le, heq⟩
  | error error =>
    obtain ⟨turn, last, entry_eq, turned, requests, heq⟩ := @turned_of_told _ _ _ _ labour.works
      (.stepFailed entry.name (!entry.executed) error.message) (some error) rfl
      (fun _ same => Option.some.inj same ▸ labour.error_cases rfl) entry later middle
    exact ⟨turn, some error, later, last, entry_eq, turned, requests ▸ le, heq⟩

/-- Taking entries back is a walk, by induction on the entries. -/
theorem unwind_walk (labours : dispatcher.Labours perform) (entries log : List (Entry V))
    {state : State V} (begun : caller.request.number < state.requests) :
    ∃ turns rest, dispatcher.Walk caller entries turns rest
        (dispatcher.unwind perform caller entries log state).value ∧
      (dispatcher.unwind perform caller entries log state).moments =
        turns.flatMap (Turn.moments caller) ++ rest := by
  induction entries generalizing log state with
  | nil => exact ⟨[], [], .done, rfl⟩
  | cons entry older ih =>
    unfold unwind
    rw [Run.bind_apply]
    rcases compensate_turned labours entry log begun with
      ⟨last, inside, works, heq⟩ | ⟨turn, failure, later, middle, rfl, turned, le, heq⟩
    · rw [heq]
      exact ⟨[], _, .halted works, rfl⟩
    · rw [heq, Outcome.andThen_some]
      obtain ⟨turns, rest, walk, hunwind⟩ := ih later (Nat.lt_of_lt_of_le begun le)
      cases failure with
      | none =>
        refine ⟨turn :: turns, rest, ?_, by simp [hunwind]⟩
        simpa using Walk.onward (.inl rfl) turned walk
      | some error =>
        dsimp only
        cases policy : dispatcher.settings.rollback with
        | stopOnFailure => exact ⟨[turn], [], .stopped policy turned, by simp [Run.pure_apply]⟩
        | bestEffort =>
          have onward := Walk.onward (.inr policy) turned walk
          refine ⟨turn :: turns, rest, ?_, ?_⟩
          · dsimp only
            rw [Run.bind_apply]
            generalize dispatcher.unwind perform caller older later middle = out at onward
            obtain ⟨_ | errors, last, moments⟩ := out <;> exact onward
          · dsimp only
            rw [Run.bind_apply]
            generalize dispatcher.unwind perform caller older later middle = out at hunwind
            obtain ⟨_ | errors, last, moments⟩ := out <;>
              simp_all [Run.pure_apply, Outcome.after, Outcome.andThen]

/-! ### Requests -/

/-- How a request goes on that has logged this, after its step had this answer; without an answer,
it was cut short before. -/
inductive Ending (dispatcher : Dispatcher V) (caller : Caller) (step : Step V)
    (log : List (Entry V)) :
    Option (Answer step.Result) → Option (Answer step.Result) → List (Moment V) → Prop
  | halted : Ending dispatcher caller step log none none []
  | completed {output told} (tells : dispatcher.Tells (.completed caller.request) told) :
      Ending dispatcher caller step log (some (.ok output)) (some (.ok output))
        (told ++ [.closed caller step (.ok output)])
  /-- There is nothing to take back. -/
  | failed {error told} (nothing : log = [])
      (tells : dispatcher.Tells (.failed caller.request error.message) told) :
      Ending dispatcher caller step log (some (.error error)) (some (.error error))
        (told ++ [.closed caller step (.error error)])
  /-- It is cut short in its rollback. -/
  | broken {original opening turns rest} (logged : log ≠ [])
      (rolls : dispatcher.Tells (.rollbackStarted caller.request log.length) opening)
      (walk : dispatcher.Walk caller.rollback log.reverse turns rest none) :
      Ending dispatcher caller step log (some (.error original)) none
        (.logged (.rollingBack caller.request log.length original.message) ::
          (opening ++ (turns.flatMap (Turn.moments caller.rollback) ++ rest)))
  | rolledBack {original errors opening turns closing told} (logged : log ≠ [])
      (rolls : dispatcher.Tells (.rollbackStarted caller.request log.length) opening)
      (walk : dispatcher.Walk caller.rollback log.reverse turns [] (some errors))
      (silent : ∀ m ∈ closing, m.Silent)
      (tells : dispatcher.Tells
        (.failed caller.request (original.afterRollback errors).message) told) :
      Ending dispatcher caller step log (some (.error original))
        (some (.error (original.afterRollback errors)))
        (.logged (.rollingBack caller.request log.length original.message) ::
          (opening ++ (turns.flatMap (Turn.moments caller.rollback) ++
            (closing ++ (told ++ [.closed caller step (.error (original.afterRollback errors))])))))

/-- What a request comes to: its answer unless it is cut short, and its moments. -/
inductive Life (dispatcher : Dispatcher V) (session : Option String) (step : Step V)
    (state : State V) : Option (Answer step.Result) → List (Moment V) → Prop
  | intro {ready opening out answer? moments}
      (tells : dispatcher.emit (.started (Caller.fresh state session).request step.name)
        state.started = ⟨some (), ready, opening⟩)
      (labour : dispatcher.Labour (.fresh state session) step [] ready out)
      (ending : dispatcher.Ending (.fresh state session) step
        (performed (.fresh state session) out.moments) (out.value.map Prod.fst) answer? moments) :
      Life dispatcher session step state answer?
        (.opened (.fresh state session) step :: (opening ++ (out.moments ++ moments)))

theorem Ending.given_isSome {step : Step V} {log : List (Entry V)}
    {given? answer? : Option (Answer step.Result)} {moments : List (Moment V)}
    (h : dispatcher.Ending caller step log given? answer? moments) (finished : answer?.isSome = true) :
    given?.isSome = true := by
  cases h with
  | halted => cases finished
  | completed | failed | broken | rolledBack => rfl

theorem Walk.rest_eq_nil {entries : List (Entry V)} {turns : List (Turn V)} {rest : List (Moment V)}
    {errors? : Option (List DispatchError)} (h : dispatcher.Walk caller entries turns rest errors?)
    (finished : errors?.isSome = true) : rest = [] := by
  induction h with
  | done | stopped => rfl
  | halted => cases finished
  | onward goesOn turned walk ih => exact ih (by simpa using finished)

theorem rollbackError_apply (caller : Caller) (original : DispatchError)
    (errors : List DispatchError) (state : State V) :
    ∃ closing, rollbackError caller original errors state =
        ⟨some (original.afterRollback errors), state, closing⟩ ∧ ∀ m ∈ closing, m.Silent := by
  cases errors with
  | nil =>
    refine ⟨[.logged (.rolledBack caller.request)], rfl, fun m hm => ?_⟩
    exact List.mem_singleton.1 hm ▸ ⟨rfl, rfl⟩
  | cons first others => exact ⟨[], rfl, fun _ hm => (nomatch hm)⟩

/-- A rollback is announced, and then the entries are taken back. -/
theorem rollback_apply (dispatcher : Dispatcher V) (perform : Performing V) (caller : Caller)
    {log : List (Entry V)} (logged : log ≠ []) (original : DispatchError) (state : State V) :
    ∃ ready opening, ready.requests = state.requests ∧
      dispatcher.Tells (.rollbackStarted caller.request log.length) opening ∧
      dispatcher.rollback perform caller log original state =
        Outcome.after (.logged (.rollingBack caller.request log.length original.message) :: opening)
          ((dispatcher.unwind perform caller.rollback log.reverse [] >>=
            rollbackError caller original) ready) := by
  obtain ⟨ready, opening, hroll, requests, rolls⟩ :=
    dispatcher.emit_tells (.rollbackStarted caller.request log.length) state
  refine ⟨ready, opening, requests, rolls, ?_⟩
  unfold rollback
  rw [if_neg (by simpa using logged), Run.log_bind_apply, Run.bind_apply, hroll,
    Outcome.andThen_some, Outcome.after_after]
  rfl

/-- How a request settles. -/
theorem settle_ending (labours : dispatcher.Labours perform) (step : Step V)
    (answer : Answer step.Result) (log : List (Entry V)) {state : State V}
    (begun : caller.request.number < state.requests) :
    dispatcher.Ending caller step log (some answer)
      (dispatcher.settle perform step (caller, answer, log) state).value
      (dispatcher.settle perform step (caller, answer, log) state).moments := by
  dsimp only [settle]
  rw [Run.bind_apply]
  cases answer with
  | ok output =>
    obtain ⟨last, told, hemit, -, tells⟩ := dispatcher.emit_tells (.completed caller.request) state
    dsimp only [conclude]
    rw [Run.bind_apply, hemit]
    have completed : dispatcher.Ending caller step log (some (.ok output)) _ _ := .completed tells
    simpa [Outcome.andThen, Outcome.after, Run.pure_apply, Run.leave_bind_apply] using completed
  | error original =>
    dsimp only [conclude]
    by_cases logged : log = []
    · obtain ⟨last, told, hemit, -, tells⟩ :=
        dispatcher.emit_tells (.failed caller.request original.message) state
      have nothing : dispatcher.rollback perform caller log original state =
          ⟨some original, state, []⟩ := by
        rw [logged]
        rfl
      rw [Run.bind_apply, nothing, Outcome.andThen_some, Run.bind_apply, hemit]
      have failed : dispatcher.Ending caller step log _ _ _ := .failed logged tells
      simpa [Outcome.andThen, Outcome.after, Run.pure_apply, Run.leave_bind_apply] using failed
    · obtain ⟨ready, opening, requests, rolls, started⟩ :=
        dispatcher.rollback_apply perform caller logged original state
      obtain ⟨turns, rest, walk, hunwind⟩ := @unwind_walk _ _ _ caller.rollback labours log.reverse
        [] ready (requests ▸ begun : caller.request.number < _)
      rw [Run.bind_apply, started, Run.bind_apply]
      generalize dispatcher.unwind perform caller.rollback log.reverse [] ready = out
        at walk hunwind
      obtain ⟨_ | errors, walked, _⟩ := out
      · obtain rfl : _ = _ ++ rest := hunwind
        have broken : dispatcher.Ending caller step log (some (.error original)) _ _ :=
          .broken logged rolls walk
        simpa [Outcome.andThen, Outcome.after] using broken
      · obtain rfl : _ = _ ++ rest := hunwind
        obtain rfl := walk.rest_eq_nil rfl
        obtain ⟨closing, outcome, silent⟩ := rollbackError_apply caller original errors walked
        obtain ⟨last, told, hemit, -, tells⟩ := dispatcher.emit_tells
          (.failed caller.request (original.afterRollback errors).message) walked
        have rolledBack : dispatcher.Ending caller step log _ _ _ :=
          .rolledBack logged rolls walk silent tells
        rw [Outcome.andThen_some, outcome]
        simpa [Outcome.andThen, Outcome.after, Run.pure_apply, Run.leave_bind_apply,
          Run.bind_apply, Run.leave, hemit] using rolledBack

/-- How a request goes. -/
theorem request_life (labours : dispatcher.Labours perform) (session : Option String)
    (step : Step V) (state : State V) :
    dispatcher.Life session step state (dispatcher.request perform session step state).value
      (dispatcher.request perform session step state).moments := by
  obtain ⟨ready, opening, hemit, requests, -⟩ := dispatcher.emit_tells
    (.started (Caller.fresh state session).request step.name) state.started
  have begun : (Caller.fresh state session).request.number < ready.requests :=
    requests ▸ Nat.lt_succ_self _
  have labour := labours (.fresh state session) step [] ready begun
  rw [request_apply, Run.bind_apply, Run.bind_apply, hemit, Outcome.andThen_some]
  generalize perform (.fresh state session) step [] ready = out at labour
  obtain ⟨_ | ⟨answer, log⟩, middle, work⟩ := out
  · simpa [Outcome.andThen, Outcome.after] using Life.intro hemit labour .halted
  · obtain rfl : log = performed (.fresh state session) work := labour.log_eq answer log rfl
    have ending := settle_ending labours step answer (performed (.fresh state session) work)
      (Nat.lt_of_lt_of_le begun (labour.requests_le rfl))
    simpa [Outcome.after_andThen] using Life.intro hemit labour ending

/-- How every request goes. -/
theorem run_life (dispatcher : Dispatcher V) (depth : Nat) (session : Option String)
    (step : Step V) (state : State V) :
    dispatcher.Life session step state (dispatcher.run (depth + 1) session step state).value
      (dispatcher.run (depth + 1) session step state).moments :=
  request_life (perform_labours (callsAt_follow dispatcher depth)
    (callsAt_chronicled dispatcher depth)) session step state

theorem tells_of_emit {event : Event} {state last : State V} {told : List (Moment V)}
    (h : dispatcher.emit event state = ⟨some (), last, told⟩) : dispatcher.Tells event told := by
  obtain ⟨_, _, hemit, -, tells⟩ := dispatcher.emit_tells event state
  cases h.symm.trans hemit
  exact tells

/-- Every moment that is of a request is of one that begins among them. -/
def Enclosed (moments : List (Moment V)) : Prop :=
  ∀ m ∈ moments, ∀ request, m.request? = some request →
    ∃ caller step, .opened caller step ∈ moments ∧ caller.request = request

theorem run_enclosed (dispatcher : Dispatcher V) (depth : Nat) (session : Option String)
    (step : Step V) (state : State V) :
    Enclosed (dispatcher.run depth session step state).moments := by
  intro m hm request hrequest
  have chronicle := (callsAt_chronicled dispatcher depth).request (fun _ => False) session step state
  rcases chronicle.origin.2 m hm with ⟨_, ⟨⟩, _⟩ | named
  exact (named request hrequest).opened

/-- Where there is anything of a request, its episode is a life of the request, and around it there
is nothing of the request. -/
theorem Episode.life {step : Step V} {answer? : Option (Answer step.Result)}
    {moments : List (Moment V)} (h : dispatcher.Episode caller step answer? moments)
    {m : Moment V} (hm : m ∈ moments) (mine : m.request? = some caller.request) :
    ∃ before own after session state, moments = before ++ own ++ after ∧
      caller = .fresh state session ∧
      (∀ m ∈ before, m.request? ≠ some caller.request) ∧
      (∀ m ∈ after, m.request? ≠ some caller.request) ∧
      dispatcher.Life session step state answer? own ∧ Enclosed own := by
  obtain ⟨depth, session, state, before, after, fresh, before_not, after_not⟩ := h
  refine ⟨before, _, after, session, state, rfl, fresh, before_not, after_not, ?_,
    dispatcher.run_enclosed depth session step state⟩
  cases depth with
  | zero =>
    rcases List.mem_append.1 hm with hm | hm
    · rcases List.mem_append.1 hm with hm | hm
      · exact (before_not m hm mine).elim
      · cases hm
    · exact (after_not m hm mine).elim
  | succ depth => exact dispatcher.run_life depth session step state

end Dispatcher

end ActionDispatch
