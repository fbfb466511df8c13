import ActionDispatch.Proofs.Asides

/-!
# How a step goes

`Dispatcher.Conduct` lists all that performing a step can come to: no handler, no validator, a
session that is refused, or a handler call, for which `Dispatcher.Admission` says how it came about.
`perform_conduct` is the one place where `perform` is opened.
-/

namespace ActionDispatch

variable {V : Vocabulary}

namespace Dispatcher

variable (dispatcher : Dispatcher V) (calls : Calls V) (caller : Caller)

/-- The way to a handler. The registries give the handler and a validator for the action type of the
step, and the validator accepts the session of the caller. -/
inductive Admission (step : Step V) (handler : V.Handler step.kind) (state : State V) :
    List (Moment V) → State V → Prop
  | intro {id : InstanceId}
      (served : dispatcher.handlerAt state step.kind = some handler)
      (guarded : (dispatcher.validatorAt state step.kind).found.instance? = some id)
      (accepted :
        (dispatcher.app.verdict (dispatcher.afterValidator state step.kind) id caller.session).1 =
          true) :
      Admission step handler state
        ((dispatcher.validatorAt state step.kind).found.moments ++
          [.resolved caller step.kind id, .checked (some caller) id caller.session true,
            .logged (step.begun caller.request)])
        (dispatcher.app.verdict (dispatcher.afterValidator state step.kind) id caller.session).2

theorem Admission.requests_eq {dispatcher : Dispatcher V} {caller : Caller} {step : Step V}
    {handler : V.Handler step.kind} {state admitted : State V} {way : List (Moment V)}
    (h : dispatcher.Admission caller step handler state way admitted) :
    admitted.requests = state.requests := by
  obtain ⟨served, guarded, accepted⟩ := h
  exact dispatcher.app.verdict_requests _ _ _

/-- What performing a step in a context with this log comes to. -/
inductive Conduct (step : Step V) (log : List (Entry V)) (state : State V) :
    Outcome V (Logged V step.Result) → Prop
  | unserved (unserved : dispatcher.handlerAt state step.kind = none) :
      Conduct step log state
        ⟨some (.error (.unsupportedAction step.name), log),
          dispatcher.afterHandler state step.kind, []⟩
  | unguarded (unguarded : (dispatcher.validatorAt state step.kind).found.instance? = none) :
      Conduct step log state
        ⟨some (.error (.unsupportedAction step.name), log),
          dispatcher.afterValidator state step.kind,
          (dispatcher.validatorAt state step.kind).found.moments⟩
  | refused {id : InstanceId} {answer : Answer step.Result} {last : State V}
      {moments : List (Moment V)}
      (guarded : (dispatcher.validatorAt state step.kind).found.instance? = some id)
      (refused :
        (dispatcher.app.verdict (dispatcher.afterValidator state step.kind) id caller.session).1 =
          false)
      (refusal : dispatcher.refuse caller step
        (dispatcher.app.verdict (dispatcher.afterValidator state step.kind) id caller.session).2 =
          ⟨some answer, last, moments⟩) :
      Conduct step log state
        ⟨some (answer, log), last, (dispatcher.validatorAt state step.kind).found.moments ++
          [.resolved caller step.kind id, .checked (some caller) id caller.session false] ++
            moments⟩
  | invoked {handler : V.Handler step.kind} {way : List (Moment V)} {admitted : State V}
      (admission : dispatcher.Admission caller step handler state way admitted) :
      Conduct step log state ((dispatcher.invoke calls caller step handler log admitted).after way)

theorem perform_conduct (step : Step V) (log : List (Entry V)) (state : State V) :
    dispatcher.Conduct calls caller step log state
      (dispatcher.perform calls caller step log state) := by
  unfold perform
  rw [Run.bind_apply, resolve_apply]
  cases served : dispatcher.handlerAt state step.kind with
  | none => exact .unserved served
  | some handler =>
    dsimp only
    cases guarded : (dispatcher.validatorAt state step.kind).found.instance? with
    | none => simpa [Run.pure_apply, Outcome.after] using Conduct.unguarded guarded
    | some id =>
      simp only [Outcome.andThen_some, Run.bind_apply, Application.ask_apply]
      cases accepted :
          (dispatcher.app.verdict (dispatcher.afterValidator state step.kind) id
            caller.session).1 with
      | false =>
        obtain ⟨answer, last, moments, refusal, -⟩ := (dispatcher.refuse_aside caller step).apply
          (dispatcher.app.verdict (dispatcher.afterValidator state step.kind) id caller.session).2
        have conduct : dispatcher.Conduct calls caller step log state _ :=
          .refused guarded accepted refusal
        simpa [Run.bind_apply, refusal, Run.pure_apply, Outcome.after] using conduct
      | true =>
        have conduct : dispatcher.Conduct calls caller step log state _ :=
          .invoked (.intro served guarded accepted)
        simpa [Run.log_bind_apply] using conduct

/-- A step that is admitted is the handler call, and nothing else. -/
theorem Admission.perform_apply {dispatcher : Dispatcher V} {caller : Caller} {step : Step V}
    {handler : V.Handler step.kind} {state admitted : State V} {way : List (Moment V)}
    (h : dispatcher.Admission caller step handler state way admitted) (calls : Calls V)
    (log : List (Entry V)) :
    dispatcher.perform calls caller step log state =
      (dispatcher.invoke calls caller step handler log admitted).after way := by
  obtain ⟨served, guarded, accepted⟩ := h
  unfold perform
  rw [Run.bind_apply, resolve_apply, served]
  dsimp only
  rw [guarded]
  simp only [Outcome.andThen_some, Run.bind_apply, Application.ask_apply, accepted]
  simp [Run.log_bind_apply]

/-- Once a handler has returned, the step is logged unless it failed, and the rest is on the
side. -/
theorem record_apply (step : Step V) (given : Answer step.Result) (log : List (Entry V))
    (state : State V) :
    ∃ last rest, dispatcher.record caller step (given, log) state =
        ⟨some (given.mapError (·.intoService step.name), log ++ step.recorded given), last,
          .returned caller step given (log ++ step.recorded given) :: rest⟩ ∧
      (∀ m ∈ rest, m.Aside) ∧ last.requests = state.requests := by
  cases given with
  | error error => exact ⟨state, [], rfl, fun _ h => (nomatch h), rfl⟩
  | ok output =>
    obtain ⟨_, last, rest, hemit, aside, requests⟩ :=
      (dispatcher.emit_aside (step.performed caller.request)).apply state
    refine ⟨last, rest, ?_, aside, requests⟩
    dsimp only [record]
    rw [Run.leave_bind_apply, Run.bind_apply, hemit, Outcome.andThen_some, Run.pure_apply]
    simp only [Outcome.after, List.append_nil]
    rfl

/-- A handler call goes as its program does, and what comes after that is on the side. -/
theorem invoke_apply {step : Step V} {handler : V.Handler step.kind} {log inner : List (Entry V)}
    {given : Answer step.Result} {state middle : State V} {body : List (Moment V)}
    (h : dispatcher.interpret calls caller (dispatcher.app.program step handler) log state =
      ⟨some (given, inner), middle, body⟩) :
    ∃ last rest, dispatcher.invoke calls caller step handler log state =
        ⟨some (given.mapError (·.intoService step.name), inner ++ step.recorded given), last,
          .called caller step handler ::
            (body ++ .returned caller step given (inner ++ step.recorded given) :: rest)⟩ ∧
      (∀ m ∈ rest, m.Aside) ∧ dispatcher.record caller step (given, inner) middle =
        ⟨some (given.mapError (·.intoService step.name), inner ++ step.recorded given), last,
          .returned caller step given (inner ++ step.recorded given) :: rest⟩ := by
  obtain ⟨last, rest, hrecord, aside, -⟩ := dispatcher.record_apply caller step given inner middle
  refine ⟨last, rest, ?_, aside, hrecord⟩
  unfold invoke
  rw [Run.leave_bind_apply, Run.bind_apply, h, Outcome.andThen_some, hrecord]
  rfl

/-- How a handler call goes that is not cut short. -/
theorem invoke_eq_some {step : Step V} {handler : V.Handler step.kind} {log later : List (Entry V)}
    {answer : Answer step.Result} {state last : State V} {moments : List (Moment V)}
    (h : dispatcher.invoke calls caller step handler log state =
      ⟨some (answer, later), last, moments⟩) :
    ∃ given inner middle body rest,
      dispatcher.interpret calls caller (dispatcher.app.program step handler) log state =
        ⟨some (given, inner), middle, body⟩ ∧
      answer = given.mapError (·.intoService step.name) ∧ later = inner ++ step.recorded given ∧
      moments = .called caller step handler :: (body ++ .returned caller step given later :: rest) ∧
      (∀ m ∈ rest, m.Aside) ∧ dispatcher.record caller step (given, inner) middle =
        ⟨some (answer, later), last, .returned caller step given later :: rest⟩ := by
  unfold invoke at h
  rw [Run.leave_bind_apply, Outcome.after_eq_some_iff] at h
  obtain ⟨own, h, rfl⟩ := h
  obtain ⟨⟨given, inner⟩, middle, body, after, hprogram, hrecord, rfl⟩ := Run.bind_eq_some_iff.1 h
  obtain ⟨last', rest, hrecord', aside, -⟩ := dispatcher.record_apply caller step given inner middle
  cases hrecord.symm.trans hrecord'
  exact ⟨given, inner, middle, body, rest, hprogram, rfl, rfl, rfl, aside, hrecord⟩

end Dispatcher

end ActionDispatch
