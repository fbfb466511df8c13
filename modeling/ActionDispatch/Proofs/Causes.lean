import ActionDispatch.Proofs.Answers
import ActionDispatch.Proofs.Attempts
import ActionDispatch.Proofs.Sequences

/-!
# Causes

What becomes of an error on its way out of handlers that are nested in each other and hand on what they get
(`Dispatcher.Nested`). Each of them puts a layer around it (`DispatchError.through`), unless it is a rejection
in the terms of the domain, and every layer keeps the ones beneath it.
-/

namespace ActionDispatch

variable {V : Vocabulary} {α : Type}

namespace DispatchError

/-- What comes of an error that is raised in the last of these actions, each nested in the one before. -/
def through (error : DispatchError) (actions : List String) : DispatchError :=
  actions.foldr (fun action inner => inner.intoService action) error

/-- What a service error for an action puts before the text of its cause. -/
def preamble (action : String) : String := "Service exception executing action \"" ++ action ++ "\": "

/-- The text of an error behind the preambles of these actions. -/
def textThrough (error : DispatchError) (actions : List String) : String :=
  actions.foldr (fun action text => preamble action ++ text) error.message

/-- The texts of the service errors of these actions, each around those of the actions after it. -/
def layers (error : DispatchError) : List String → List String
  | [] => []
  | name :: names => error.textThrough (name :: names) :: error.layers names

/-- The texts that a service error keeps of its cause: a fault is the cause itself, any other error becomes
one. -/
def beneath : DispatchError → List String
  | .other fault => fault.chain
  | error => error.message :: error.sources

/-- An error that became a service error, with its text and all that lies beneath. -/
structure ServedAs (error : DispatchError) (action : String) (actions : List String)
    (outer : DispatchError) : Prop where
  translated : ∃ detail cause, outer = .service action detail cause
  message : outer.message = error.textThrough (action :: actions)
  sources : outer.sources = error.layers actions ++ error.beneath

theorem through_action (message : String) (actions : List String) :
    (action message).through actions = action message := by
  induction actions with
  | nil => rfl
  | cons name actions ih =>
    change ((action message).through actions).intoService name = _
    rw [ih]
    rfl

/-- One more layer keeps all that a service error has. -/
theorem ServedAs.intoService {error outer : DispatchError} {action : String} {actions : List String}
    (h : error.ServedAs action actions outer) (name : String) :
    error.ServedAs name (action :: actions) (outer.intoService name) := by
  obtain ⟨⟨detail, cause, rfl⟩, message, sources⟩ := h
  refine ⟨⟨_, _, rfl⟩, congrArg (preamble name ++ ·) message, ?_⟩
  change (service action detail cause).message :: (service action detail cause).sources = _
  rw [message, sources]
  rfl

/-- Every error but a rejection becomes a service error of the outermost action. -/
theorem through_servedAs {error : DispatchError} (raised : error.isAction = false) (action : String)
    (actions : List String) :
    error.ServedAs action actions (error.through (action :: actions)) := by
  induction actions generalizing action with
  | nil =>
    cases error with
    | action message => cases raised
    | _ => exact ⟨⟨_, _, rfl⟩, rfl, rfl⟩
  | cons next actions ih => exact (ih next).intoService action

end DispatchError

namespace Dispatcher

/-- A program that runs from this standing comes to perform a step, goes on with its answer, and stands there
when it does. -/
inductive ComesTo (dispatcher : Dispatcher V) (calls : Calls V) (caller : Caller) (step : Step V)
    (next : Answer step.Result → Program V α) (there : Standing V) : Program V α → Standing V → Prop
  | here : ComesTo dispatcher calls caller step next there (.perform step next) there
  | perform {earlier : Step V} {later start answer log middle moments}
      (done : calls.perform caller earlier start.log start.state =
        ⟨some (answer, log), middle, moments⟩)
      (rest : ComesTo dispatcher calls caller step next there (later answer) ⟨middle, log⟩) :
      ComesTo dispatcher calls caller step next there (.perform earlier later) start
  | request {earlier : Step V} {session later start answer middle moments}
      (done : calls.request session earlier start.state = ⟨some answer, middle, moments⟩)
      (rest : ComesTo dispatcher calls caller step next there (later answer) ⟨middle, start.log⟩) :
      ComesTo dispatcher calls caller step next there (.request session earlier later) start
  | look {later : ContextView → Program V α} {start}
      (rest : ComesTo dispatcher calls caller step next there
        (later ⟨caller.request, caller.session, start.log.length⟩) start) :
      ComesTo dispatcher calls caller step next there (.look later) start
  | act {outside : Act V} {later start result middle moments}
      (done : dispatcher.app.act outside start.state = ⟨some result, middle, moments⟩)
      (rest : ComesTo dispatcher calls caller step next there (later result) ⟨middle, start.log⟩) :
      ComesTo dispatcher calls caller step next there (.act outside later) start

/-- Handlers nested in each other, at most this deep: that of each step but the last comes to perform the
next one, and hands on the error that it gets. The handler of the last step raises this error. -/
inductive Nested (dispatcher : Dispatcher V) (caller : Caller) (error : DispatchError) :
    Nat → List (Step V) → Standing V → Prop
  | raised {depth : Nat} {step : Step V} {handler start way admitted log last moments}
      (admission : dispatcher.Admission caller step handler start.state way admitted)
      (raises : dispatcher.interpret (dispatcher.callsAt depth) caller
        (dispatcher.app.program step handler) start.log admitted =
          ⟨some (.error error, log), last, moments⟩) :
      Nested dispatcher caller error depth [step] start
  | around {depth : Nat} {step inner : Step V} {steps handler start way admitted next there}
      (admission : dispatcher.Admission caller step handler start.state way admitted)
      (comes : dispatcher.ComesTo (dispatcher.callsAt (depth + 1)) caller inner next there
        (dispatcher.app.program step handler) ⟨admitted, start.log⟩)
      (inside : Nested dispatcher caller error depth (inner :: steps) there)
      (handsOn : ∀ error log middle moments,
        (dispatcher.callsAt (depth + 1)).perform caller inner there.log there.state =
          ⟨some (.error error, log), middle, moments⟩ →
        ∃ later last rest, dispatcher.interpret (dispatcher.callsAt (depth + 1)) caller
          (next (.error error)) log middle = ⟨some (.error error, later), last, rest⟩) :
      Nested dispatcher caller error (depth + 1) (step :: inner :: steps) start

variable {dispatcher : Dispatcher V} {calls : Calls V} {caller : Caller} {error : DispatchError}

/-- A program ends as it does after the step that it comes to. -/
theorem ComesTo.interpret_apply {step : Step V} {next : Answer step.Result → Program V α}
    {there start : Standing V} {program : Program V α}
    (h : dispatcher.ComesTo calls caller step next there program start) {answer : Answer step.Result}
    {given : Answer α} {log later : List (Entry V)} {middle last : State V}
    {moments rest : List (Moment V)}
    (performed : calls.perform caller step there.log there.state =
      ⟨some (answer, log), middle, moments⟩)
    (ends : dispatcher.interpret calls caller (next answer) log middle =
      ⟨some (given, later), last, rest⟩) :
    ∃ moments, dispatcher.interpret calls caller program start.log start.state =
      ⟨some (given, later), last, moments⟩ := by
  induction h with
  | here => exact ⟨_, Run.bind_eq_some_iff.2 ⟨_, _, _, _, performed, ends, rfl⟩⟩
  | perform done _ ih | request done _ ih | act done _ ih =>
    obtain ⟨moments, hrest⟩ := ih
    exact ⟨_, Run.bind_eq_some_iff.2 ⟨_, _, _, _, done, hrest, rfl⟩⟩
  | look _ ih =>
    obtain ⟨moments, hrest⟩ := ih
    exact ⟨_, Run.bind_eq_some_iff.2 ⟨_, _, _, _, rfl, hrest, rfl⟩⟩

/-- A step that is admitted, and whose handler fails, fails with the translated error. -/
theorem Admission.fails {step : Step V} {handler : V.Handler step.kind} {state admitted last : State V}
    {way moments : List (Moment V)} {log inner : List (Entry V)}
    (admission : dispatcher.Admission caller step handler state way admitted)
    (raises : dispatcher.interpret calls caller (dispatcher.app.program step handler) log admitted =
      ⟨some (.error error, inner), last, moments⟩) :
    ∃ later last moments, dispatcher.perform calls caller step log state =
      ⟨some (.error (error.intoService step.name), later), last, moments⟩ := by
  obtain ⟨last, rest, hinvoke, -⟩ := dispatcher.invoke_apply calls caller raises
  exact ⟨_, last, _, by rw [admission.perform_apply, hinvoke]; rfl⟩

/-- The outermost of nested steps fails, with the error that comes through all of them. -/
theorem Nested.fails {depth : Nat} {step : Step V} {steps : List (Step V)} {start : Standing V}
    (h : dispatcher.Nested caller error depth (step :: steps) start) :
    ∃ log last moments,
      dispatcher.perform (dispatcher.callsAt depth) caller step start.log start.state =
        ⟨some (.error (error.through ((step :: steps).map Step.name)), log), last, moments⟩ := by
  generalize hall : step :: steps = all at h
  induction h generalizing step steps with
  | raised admission raises =>
    cases hall
    exact admission.fails raises
  | around admission comes inside handsOn ih =>
    cases hall
    obtain ⟨log, middle, moments, performed⟩ := ih rfl
    obtain ⟨later, last, rest, ends⟩ := handsOn _ _ _ _ performed
    obtain ⟨moments, raises⟩ := comes.interpret_apply performed ends
    exact admission.fails raises

/-- A request has begun when its step has been performed. -/
theorem attempt_apply {perform : Performing V} {session : Option String} {step : Step V}
    {state middle : State V} {logged : Logged V step.Result} {inside : List (Moment V)}
    (performed : perform (.fresh state session) step [] (dispatcher.ready step state) =
      ⟨some logged, middle, inside⟩) :
    ∃ before, dispatcher.attempt perform session step state =
      ⟨some (.fresh state session, logged), middle, before⟩ := by
  obtain ⟨_, last, opening, hemit, -⟩ :=
    (dispatcher.emit_aside (.started ⟨state.requests⟩ step.name)).apply state.started
  have same : dispatcher.ready step state = last := congrArg Outcome.state hemit
  rw [same] at performed
  refine ⟨.opened (.fresh state session) step :: (opening ++ inside), ?_⟩
  unfold attempt openContext
  simp only [bind_assoc, pure_bind, Run.state_bind_apply, Run.change_bind_apply, Run.leave_bind_apply]
  rw [Outcome.after_eq_some_iff]
  exact ⟨_, Run.bind_eq_some_iff.2 ⟨_, _, _, _, hemit,
    Run.bind_eq_some_iff.2 ⟨_, _, _, _, performed, rfl, (List.append_nil _).symm⟩, rfl⟩, rfl⟩

/-- A request whose handlers are nested and hand on the error of the innermost one fails with that error
itself, if it is a rejection in the terms of the domain. Otherwise it fails with a service error that has the
preambles of all actions before the text, and beneath it the layers of the inner ones and then the cause. If
its rollback fails as well, that error is kept, and so is the first failure with all that lies beneath. -/
theorem nested_error_kept (dispatcher : Dispatcher V) {depth : Nat} {session : Option String}
    {step : Step V} {steps : List (Step V)} {error : DispatchError} {start : State V}
    (nested : dispatcher.Nested (.fresh start session) error depth (step :: steps)
      ⟨dispatcher.ready step start, []⟩) :
    ∃ original log middle before,
      dispatcher.attempt (dispatcher.perform (dispatcher.callsAt depth)) session step start =
        ⟨some (.fresh start session, .error original, log), middle, before⟩ ∧
      (∀ message, error = .action message → original = .action message) ∧
      (error.isAction = false → error.ServedAs step.name (steps.map Step.name) original) ∧
      ∀ answer last after,
        dispatcher.settle (dispatcher.perform (dispatcher.callsAt depth)) step
          (.fresh start session, .error original, log) middle = ⟨some answer, last, after⟩ →
        ∃ attempts stop,
          dispatcher.Attempts (dispatcher.perform (dispatcher.callsAt depth))
            (Caller.fresh start session).rollback
            ⟨dispatcher.unwindsFrom (.fresh start session) log original middle, []⟩ attempts stop ∧
          dispatcher.Reaches log.reverse attempts ∧
          ((attempts.filterMap Attempt.error? = [] ∧ answer = .error original) ∨
            ∃ first others failed, attempts.filterMap Attempt.error? = first :: others ∧
              answer = .error failed ∧ failed = .rollbackFailed original (others.length + 1) first ∧
              failed.sources = first.message :: first.sources) := by
  obtain ⟨log, middle, inside, performed⟩ := nested.fails
  obtain ⟨before, attempted⟩ := attempt_apply performed
  refine ⟨_, log, middle, before, attempted, ?rejection, ?service, ?rollback⟩
  case rejection =>
    rintro message rfl
    exact DispatchError.through_action message _
  case service =>
    intro raised
    exact DispatchError.through_servedAs raised _ _
  case rollback =>
    intro answer last after settled
    obtain ⟨attempts, stop, chain, ⟨reaches, _, _, _, rfl, hsettle, -⟩ | ⟨-, cutShort⟩⟩ :=
      dispatcher.settle_attempts (dispatcher.perform (dispatcher.callsAt depth)) (.fresh start session)
        step (error.through ((step :: steps).map Step.name)) log middle
    · cases settled.symm.trans hsettle
      refine ⟨attempts, stop, chain, reaches, ?_⟩
      cases attempts.filterMap Attempt.error? with
      | nil => exact .inl ⟨rfl, rfl⟩
      | cons first others => exact .inr ⟨first, others, _, rfl, rfl, rfl, rfl⟩
    · rw [settled] at cutShort
      cases cutShort

end Dispatcher

namespace Sequences

def diskFull : DispatchError := .other (.text "Disk full" ["No space left"])

def jammedInner : Job := .sequence [.mark 2, .jam diskFull]

def jammedOuter : Job := .sequence [.weld 1, jammedInner]

/-- A job jams in a sequence in a sequence, after a place was welded: the fault comes through all three
actions. The rollback fails as well, since what is welded stays so. -/
theorem jammed_sequence_error_kept :
    dispatcher.Nested (.fresh workshop "user") diskFull 2
        [jammedOuter.execution, jammedInner.execution, (Job.jam diskFull).execution]
        ⟨dispatcher.ready jammedOuter.execution workshop, []⟩ ∧
      ∃ original log middle before failed last after,
        dispatcher.attempt (dispatcher.perform (dispatcher.callsAt 2)) "user" jammedOuter.execution
          workshop = ⟨some (.fresh workshop "user", .error original, log), middle, before⟩ ∧
        diskFull.ServedAs "Sequence" ["Sequence", "Jam"] original ∧
        dispatcher.settle (dispatcher.perform (dispatcher.callsAt 2)) jammedOuter.execution
          (.fresh workshop "user", .error original, log) middle = ⟨some (.error failed), last, after⟩ ∧
        failed = .rollbackFailed original 1 (.service "Weld" "Welded" (.io "Welded")) ∧
        failed.sources = ["Service exception executing action \"Weld\": Welded", "Welded"] := by
  have nested : dispatcher.Nested (.fresh workshop "user") diskFull 2
      [jammedOuter.execution, jammedInner.execution, (Job.jam diskFull).execution]
      ⟨dispatcher.ready jammedOuter.execution workshop, []⟩ := by
    refine .around (.intro rfl rfl rfl) (.perform rfl .here) (.around (.intro rfl rfl rfl)
      (.perform rfl .here) (.raised (.intro rfl rfl rfl) rfl) ?_) ?_
    · exact fun _ _ _ _ _ => ⟨_, _, _, rfl⟩
    · exact fun _ _ _ _ _ => ⟨_, _, _, rfl⟩
  obtain ⟨original, log, middle, before, attempted, -, served, rollback⟩ :=
    Dispatcher.nested_error_kept dispatcher nested
  have run : ∃ original log middle before last after,
      dispatcher.attempt (dispatcher.perform (dispatcher.callsAt 2)) "user" jammedOuter.execution
        workshop = ⟨some (.fresh workshop "user", .error original, log), middle, before⟩ ∧
      dispatcher.settle (dispatcher.perform (dispatcher.callsAt 2)) jammedOuter.execution
        (.fresh workshop "user", .error original, log) middle =
          ⟨some (.error (.rollbackFailed original 1 (.service "Weld" "Welded" (.io "Welded")))),
            last, after⟩ := ⟨_, _, _, _, _, _, rfl, rfl⟩
  obtain ⟨_, _, _, _, last, after, attempted', settled⟩ := run
  cases attempted.symm.trans attempted'
  obtain ⟨attempts, stop, -, -, ⟨-, restored⟩ | ⟨first, others, failed, -, answered, rfl, sources⟩⟩ :=
    rollback _ _ _ settled
  · obtain ⟨detail, cause, rfl⟩ := (served rfl).translated
    cases restored
  · obtain ⟨-, -, rfl⟩ := DispatchError.rollbackFailed.inj (Except.error.inj answered)
    exact ⟨nested, original, log, middle, before, _, last, after, attempted, served rfl, settled, rfl,
      sources⟩

end Sequences

end ActionDispatch
