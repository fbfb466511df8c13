import ActionDispatch.Proofs.Walk
import ActionDispatch.Proofs.Widgets

/-!
# What the events account for

The events of a request that fails account for its rollback: they tell what was performed before it,
how far it got, and which of its steps failed. The log of the request, the error for its caller and
the structured log agree with that (`AccountsFor`, `serve_accounts`).
-/

namespace ActionDispatch

variable {V : Vocabulary} {β : Type}

/-- What is told of one step of a rollback. -/
structure Report where
  action : String
  redo : Bool
  success : Bool

namespace Event

/-- The report in an event. -/
def report? : Event → Option Report
  | .rollbackStepCompleted _ action redo success => some ⟨action, redo, success⟩
  | _ => none

/-- How many entries the start of a rollback announces. -/
def announced? : Event → Option Nat
  | .rollbackStarted _ entries => some entries
  | _ => none

/-- The text that tells of the failure of a request. -/
def failure? : Event → Option String
  | .failed _ error => some error
  | _ => none

def isUndone : Event → Bool
  | .undone .. => true
  | _ => false

/-- With this event, the own work of a failing request is over. -/
def endsWork : Event → Bool
  | .rollbackStarted .. | .failed .. => true
  | _ => false

end Event

/-- The reports among these events. -/
def reports (events : List Event) : List Report := events.filterMap Event.report?

/-- The events of performed steps until the own work of the request is over. -/
def performedFirst (events : List Event) : List Event :=
  (events.takeWhile (!·.endsWork)).filter Event.isPerformed

/-- These events of a request that failed with this error account for its rollback. -/
structure AccountsFor (settings : Settings) (error : DispatchError) (events : List Event) :
    Prop where
  /-- A rollback starts just when there is something to take back, and announces how much. -/
  announced : events.filterMap Event.announced? =
    if performedFirst events = [] then [] else [(performedFirst events).length]
  /-- It reports on what was performed, the last of it first, and does again what was undone. -/
  order : (reports events).map (fun report => (some report.action, report.redo)) <+:
    (performedFirst events).reverse.map fun event => (event.action?, event.isUndone)
  /-- It does not go on after a failure unless that is its policy. -/
  goesOn : ∀ report ∈ (reports events).dropLast,
    report.success = true ∨ settings.rollback = .bestEffort
  /-- It reports on all of it, unless a failure stops it. -/
  complete : (∀ report ∈ reports events, report.success = true) ∨ settings.rollback = .bestEffort →
    (reports events).length = (performedFirst events).length
  /-- The error says that the rollback failed just when some step is reported to have failed. -/
  failed : (∃ original failures first, error = .rollbackFailed original failures first) ↔
    ∃ report ∈ reports events, report.success = false
  failures : ∀ original failures first, error = .rollbackFailed original failures first →
    failures = (reports events).countP (!·.success)
  /-- The text of the error is told, once. -/
  text : events.filterMap Event.failure? = [error.message]

/-- The report on a turn. -/
def Turn.report (turn : Turn V) : Report := ⟨turn.entry.name, !turn.entry.executed, turn.success⟩

/-! ### Events -/

section

/-- A view of events that sees nothing of steps and of the start of a request. -/
structure Views (f : Event → Option β) : Prop where
  step : ∀ event, event.isStep = true → f event = none
  started : ∀ request action, f (.started request action) = none

theorem Views.steps {f : Event → Option β} (h : Views f) {steps : List Event}
    (all : ∀ event ∈ steps, event.isStep = true) : steps.filterMap f = [] :=
  List.filterMap_eq_nil_iff.2 fun event hevent => h.step event (all event hevent)

theorem Views.request {f : Event → Option β} (h : Views f) {steps : List Event}
    (all : ∀ event ∈ steps, event.isStep = true) (request : RequestId) (action : String)
    (rest : List Event) :
    (.started request action :: (steps ++ rest)).filterMap f = rest.filterMap f := by
  rw [List.filterMap_cons_none (h.started request action), List.filterMap_append, h.steps all,
    List.nil_append]

theorem Views.of {f : Event → Option β}
    (executed : ∀ request action, f (.executed request action) = none)
    (undone : ∀ request action, f (.undone request action) = none)
    (rejected : ∀ request action undo, f (.rejected request action undo) = none)
    (started : ∀ request action, f (.started request action) = none) : Views f where
  step event step := by
    cases event with
    | executed => exact executed _ _
    | undone => exact undone _ _
    | rejected => exact rejected _ _ _
    | _ => cases step
  started := started

theorem views_report? : Views Event.report? :=
  .of (fun _ _ => rfl) (fun _ _ => rfl) (fun _ _ _ => rfl) fun _ _ => rfl

theorem views_announced? : Views Event.announced? :=
  .of (fun _ _ => rfl) (fun _ _ => rfl) (fun _ _ _ => rfl) fun _ _ => rfl

theorem views_failure? : Views Event.failure? :=
  .of (fun _ _ => rfl) (fun _ _ => rfl) (fun _ _ _ => rfl) fun _ _ => rfl

theorem performedFirst_eq {request : RequestId} {action : String} {steps rest : List Event}
    {last : Event} (all : ∀ event ∈ steps, event.isStep = true) (ends : last.endsWork = true) :
    performedFirst (.started request action :: (steps ++ last :: rest)) =
      steps.filter Event.isPerformed := by
  have open_ : ∀ event ∈ steps, (!event.endsWork) = true := by
    intro event hevent
    have step := all event hevent
    cases event <;> first | rfl | cases step
  unfold performedFirst
  rw [List.takeWhile_cons_of_pos rfl, List.takeWhile_append_of_pos open_,
    List.takeWhile_cons_of_neg (by simp [ends]), List.append_nil]
  rfl

end

/-! ### Rollbacks -/

section

variable {dispatcher : Dispatcher V} {caller : Caller}

theorem Views.turns {f : Event → Option β} (views : Views f) (request : RequestId)
    {turns : List (Turn V)}
    (stepwise : ∀ turn ∈ turns, ∀ event ∈ eventsOf request turn.inside, event.isStep = true) :
    (turns.flatMap (Turn.events request)).filterMap f =
      (turns.map (Turn.event request)).filterMap f := by
  induction turns with
  | nil => rfl
  | cons turn turns ih =>
    rw [List.flatMap_cons, List.filterMap_append,
      ih fun turn ht => stepwise turn (List.mem_cons_of_mem _ ht), Turn.events,
      List.filterMap_append, views.steps (stepwise turn List.mem_cons_self), List.nil_append,
      ← List.filterMap_append]
    rfl

/-- What such a view leaves of the events of a rollback. -/
theorem Views.rollback {f : Event → Option β} (views : Views f) (request : RequestId)
    {turns : List (Turn V)}
    (stepwise : ∀ turn ∈ turns, ∀ event ∈ eventsOf request turn.inside, event.isStep = true)
    (entries : Nat) (message : String) :
    (.rollbackStarted request entries ::
      (turns.flatMap (Turn.events request) ++ [.failed request message])).filterMap f =
    (f (.rollbackStarted request entries)).toList ++
      ((turns.map (Turn.event request)).filterMap f ++ (f (.failed request message)).toList) := by
  rw [List.filterMap_cons, List.filterMap_append, views.turns request stepwise]
  cases f (.rollbackStarted request entries) <;>
    cases hlast : f (.failed request message) <;> simp [hlast]

/-- Every turn is reported. -/
theorem reports_rollback (request : RequestId) {turns : List (Turn V)}
    (stepwise : ∀ turn ∈ turns, ∀ event ∈ eventsOf request turn.inside, event.isStep = true)
    (entries : Nat) (message : String) :
    reports (.rollbackStarted request entries ::
      (turns.flatMap (Turn.events request) ++ [.failed request message])) =
        turns.map Turn.report := by
  rw [reports, views_report?.rollback request stepwise, List.filterMap_map]
  simp [Event.report?, Turn.event, Function.comp_def, Turn.report]

/-- A request that had nothing to take back. -/
theorem AccountsFor.of_failed {settings : Settings} {request : RequestId} {action : String}
    {error : DispatchError} {steps : List Event} (all : ∀ event ∈ steps, event.isStep = true)
    (nothing : steps.filter Event.isPerformed = [])
    (plain : ∀ original failures first, error ≠ .rollbackFailed original failures first) :
    AccountsFor settings error
      (.started request action :: (steps ++ [.failed request error.message])) := by
  have first : performedFirst (.started request action :: (steps ++
      [.failed request error.message])) = [] := (performedFirst_eq all rfl).trans nothing
  have reported : reports (.started request action :: (steps ++ [.failed request error.message])) =
      [] := views_report?.request all request action _
  refine ⟨?_, ?_, ?_, ?_, ?_, fun original failures first same => (plain _ _ _ same).elim, ?_⟩
  · rw [first, if_pos rfl, views_announced?.request all]
    rfl
  · rw [reported]
    exact List.nil_prefix
  · simp [reported]
  · simp [reported, first]
  · simp [reported, plain]
  · rw [views_failure?.request all]
    rfl

/-- A request that had something to take back. -/
theorem AccountsFor.of_rolledBack {action : String} {original : DispatchError}
    {log : List (Entry V)} {steps : List Event} {turns : List (Turn V)} {errors : List DispatchError}
    (all : ∀ event ∈ steps, event.isStep = true)
    (performed : steps.filter Event.isPerformed = log.map (Entry.event caller.request))
    (logged : log ≠ [])
    (walk : dispatcher.Walk caller.rollback log.reverse turns [] (some errors))
    (plain : ∀ cause failures first, original ≠ .rollbackFailed cause failures first) :
    AccountsFor dispatcher.settings (original.afterRollback errors)
      (.started caller.request action :: (steps ++ .rollbackStarted caller.request log.length ::
        (turns.flatMap (Turn.events caller.request) ++
          [.failed caller.request (original.afterRollback errors).message]))) := by
  obtain ⟨through, count⟩ := walk.getsThrough rfl
  generalize hevents : Event.started caller.request action :: (steps ++
    .rollbackStarted caller.request log.length :: (turns.flatMap (Turn.events caller.request) ++
      [.failed caller.request (original.afterRollback errors).message])) = events
  have first : performedFirst events = log.map (Entry.event caller.request) := by
    rw [← hevents, performedFirst_eq all rfl, performed]
  have reported : reports events = turns.map Turn.report := by
    rw [← hevents, reports, views_report?.request all]
    exact reports_rollback caller.request walk.steps _ _
  have failing : errors.length = (reports events).countP (!·.success) := by
    rw [reported, List.countP_map]
    exact count
  refine ⟨?_, ?_, ?_, ?_, ?_, ?_, ?_⟩
  · rw [← hevents, views_announced?.request all, hevents, first,
      views_announced?.rollback caller.request walk.steps, List.filterMap_map]
    simp [Event.announced?, Turn.event, Function.comp_def, logged]
  · have key : ∀ entry : Entry V, ((entry.event caller.request).action?,
        (entry.event caller.request).isUndone) = (some entry.name, !entry.executed) := by
      intro entry
      unfold Entry.event
      cases entry.executed <;> rfl
    have order := through.order.map fun entry : Entry V => (some entry.name, !entry.executed)
    simpa [reported, first, Function.comp_def, key, Turn.report] using order
  · intro report hreport
    rw [reported, ← List.map_dropLast] at hreport
    obtain ⟨turn, hturn, rfl⟩ := List.mem_map.1 hreport
    exact through.goesOn turn hturn
  · rw [reported, first, List.length_map, List.length_map]
    intro h
    have whole := through.complete (h.imp_left fun h turn hturn =>
      h turn.report (List.mem_map_of_mem hturn))
    simpa using congrArg List.length whole
  · rw [DispatchError.afterRollback_failed_iff plain, ← List.length_pos_iff, failing,
      List.countP_pos_iff]
    simp
  · intro cause failures firstFailure same
    rw [DispatchError.failures_eq_length plain same, failing]
  · rw [← hevents, views_failure?.request all, views_failure?.rollback caller.request walk.steps,
      List.filterMap_map]
    simp [Event.failure?, Turn.event, Function.comp_def]

end

/-! ### The structured log -/

namespace Dispatcher

variable {dispatcher : Dispatcher V} {caller : Caller} {opened : List Caller}

/-- A turn logs a failure just when it fails. -/
theorem Turned.tally (quiet : dispatcher.QuietLookups) {turn : Turn V}
    {failure : Option DispatchError} (h : dispatcher.Turned caller turn failure)
    (innermost : opened.head?.map Caller.request = some caller.request) :
    Tally caller.request opened (turn.moments caller) (if turn.success then 0 else 1) := by
  have record : Tally caller.request opened [(.logged turn.record : Moment V)]
      (if turn.success then 0 else 1) := by
    refine ⟨?_, rfl⟩
    rw [stepFailures, h.record, h.success]
    cases failure <;> simp [innermost]
  have turning : Tally caller.request opened [.compensating caller turn.entry] 0 :=
    .of_unmarked (by simp [Moment.isMark]) (.inr (by simp [Moment.isStepFailure]))
  have told := h.tells.tally caller.request opened
  simpa [Turn.moments, Turn.event] using
    turning.append ((h.works.tally quiet opened).append (record.append told))

theorem Walk.tally (quiet : dispatcher.QuietLookups) {entries : List (Entry V)}
    {turns : List (Turn V)} {rest : List (Moment V)} {errors? : Option (List DispatchError)}
    (h : dispatcher.Walk caller entries turns rest errors?)
    (innermost : opened.head?.map Caller.request = some caller.request) :
    Tally caller.request opened (turns.flatMap (Turn.moments caller))
      (turns.countP (!·.success)) := by
  have turned := h.turned
  clear h
  induction turns with
  | nil => exact ⟨rfl, rfl⟩
  | cons turn turns ih =>
    obtain ⟨failure, first⟩ := turned turn List.mem_cons_self
    have tally := (first.tally quiet innermost).append
      (ih fun turn ht => turned turn (List.mem_cons_of_mem _ ht))
    rw [List.flatMap_cons, List.countP_cons, Nat.add_comm]
    cases success : turn.success <;> simpa [success] using tally

/-- At the end of a request, as many failures are logged as are reported. -/
theorem Ending.tally (quiet : dispatcher.QuietLookups) {step : Step V} {log : List (Entry V)}
    {given? answer? : Option (Answer step.Result)} {moments : List (Moment V)}
    (h : dispatcher.Ending caller step log given? answer? moments) {answer : Answer step.Result}
    (finished : answer? = some answer)
    (innermost : opened.head?.map Caller.request = some caller.request) :
    ∃ before, moments = before ++ [.closed caller step answer] ∧ Tally caller.request opened before
      ((reports (eventsOf caller.request moments)).countP (!·.success)) := by
  cases h with
  | halted | broken => cases finished
  | completed tells =>
    cases finished
    rw [eventsOf_completing tells]
    exact ⟨_, rfl, tells.tally caller.request opened⟩
  | failed nothing tells =>
    cases finished
    rw [eventsOf_failing tells]
    exact ⟨_, rfl, tells.tally caller.request opened⟩
  | @rolledBack original errors opening turns closing told logged rolls walk silent tells =>
    cases finished
    rw [walk.eventsOf_whole rolls silent tells, reports_rollback caller.request walk.steps,
      List.countP_map]
    refine ⟨.logged (.rollingBack caller.request log.length original.message) :: (opening ++
      (turns.flatMap (Turn.moments caller.rollback) ++ (closing ++ told))), by simp, ?_⟩
    have announcing : Tally caller.request opened [(.logged (.rollingBack caller.request log.length
        original.message) : Moment V)] 0 :=
      .of_unmarked (by simp [Moment.isMark]) (.inr (by simp [Moment.isStepFailure]))
    have closed : Tally caller.request opened closing 0 :=
      .of_unmarked (fun m hm => m.isMark_of_unnamed (silent m hm).1) (.inr fun m hm => (silent m hm).2)
    have turned : Tally caller.request opened (turns.flatMap (Turn.moments caller.rollback))
        (turns.countP (!·.success)) := walk.tally quiet innermost
    have whole := announcing.append ((rolls.tally caller.request opened).append (turned.append
      (closed.append (tells.tally caller.request opened))))
    simpa [Turn.report, Function.comp_def] using whole

/-! ### Requests -/

/-- The events of a request that fails account for its rollback. -/
theorem Life.accountsFor {session : Option String} {step : Step V} {state : State V}
    {answer? : Option (Answer step.Result)} {moments : List (Moment V)}
    (h : dispatcher.Life session step state answer? moments) {error : DispatchError}
    (failed : answer? = some (.error error)) :
    AccountsFor dispatcher.settings error (eventsOf ⟨state.requests⟩ moments) := by
  obtain ⟨tells, labour, ending⟩ := h
  have worked := labour.works.worked
  change AccountsFor _ _ (eventsOf (Caller.fresh state session).request _)
  rw [eventsOf_request (tells_of_emit tells), eventsOf_append]
  generalize hgiven : Option.map Prod.fst _ = given? at ending
  cases ending with
  | halted | completed | broken => cases failed
  | failed nothing told =>
    cases failed
    rw [eventsOf_failing told]
    have unperformed := worked.entries
    rw [nothing] at unperformed
    exact .of_failed worked.steps unperformed
      (DispatchError.ne_rollbackFailed (labour.error_cases hgiven))
  | rolledBack logged rolls walk silent told =>
    cases failed
    rw [walk.eventsOf_whole rolls silent told]
    exact .of_rolledBack worked.steps worked.entries logged walk
      (DispatchError.ne_rollbackFailed (labour.error_cases hgiven))

/-- As many failures are logged in a request as are reported. -/
theorem Life.tally (quiet : dispatcher.QuietLookups) {session : Option String} {step : Step V}
    {state : State V} {answer? : Option (Answer step.Result)} {moments : List (Moment V)}
    (h : dispatcher.Life session step state answer? moments) {answer : Answer step.Result}
    (finished : answer? = some answer) (opened : List Caller) :
    Tally ⟨state.requests⟩ opened moments
      ((reports (eventsOf ⟨state.requests⟩ moments)).countP (!·.success)) := by
  obtain ⟨tells, labour, ending⟩ := h
  have worked := labour.works.worked
  have works := labour.works
  have answered : _ = true := ending.given_isSome (finished ▸ rfl)
  rw [Option.isSome_map] at answered
  rw [answered] at works
  obtain ⟨before, rfl, tally⟩ :=
    @Ending.tally _ _ _ (.fresh state session :: opened) quiet _ _ _ _ _ ending _ finished rfl
  have told := tells_of_emit tells
  have body := (told.tally (Caller.fresh state session).request (.fresh state session :: opened)).append
    ((works.tally quiet (.fresh state session :: opened)).append tally)
  change Tally (Caller.fresh state session).request _ _
    ((reports (eventsOf (Caller.fresh state session).request _)).countP _)
  rw [eventsOf_request told, eventsOf_append, reports, views_report?.request worked.steps, ← reports]
  simpa only [Nat.zero_add, List.append_assoc] using @Tally.around _ _ _ _ step answer _ _ body

/-! ### All requests of a run -/

/-- The events of a request that fails with this error account for its rollback, and unless lookups
interfere, as many failures of its steps are logged as are told. -/
def Accounted (dispatcher : Dispatcher V) (request : RequestId) (error : DispatchError)
    (moments : List (Moment V)) : Prop :=
  AccountsFor dispatcher.settings error (eventsOf request moments) ∧
    (dispatcher.QuietLookups → stepFailures request [] moments =
      (reports (eventsOf request moments)).countP (!·.success))

theorem Life.accounted {session : Option String} {step : Step V} {state : State V}
    {moments : List (Moment V)} {error : DispatchError}
    (h : dispatcher.Life session step state (some (.error error)) moments) :
    dispatcher.Accounted ⟨state.requests⟩ error moments :=
  ⟨h.accountsFor rfl, fun quiet => (h.tally quiet rfl []).1⟩

/-- Whatever clients and handlers do, every request that fails, be it seen to close so or asked for and
answered so, is accounted for. -/
theorem serve_accounts (dispatcher : Dispatcher V) (depth : Nat) (moves : List (Move V))
    (state : State V) :
    (∀ caller step error,
        .closed caller step (.error error) ∈ (dispatcher.serve depth moves state).moments →
        dispatcher.Accounted caller.request error (dispatcher.serve depth moves state).moments) ∧
      dispatcher.RunsAsAsked depth ∧
      ∀ session step start error,
        (dispatcher.run (depth + 1) session step start).value = some (.error error) →
        dispatcher.Accounted ⟨start.requests⟩ error
          (dispatcher.run (depth + 1) session step start).moments := by
  refine ⟨fun caller step error closed => ?_, dispatcher.runs_as_asked depth,
    fun session step start error failed => ?_⟩
  · obtain ⟨before, own, after, session, start, split, rfl, before_not, after_not, life, -⟩ :=
      ((dispatcher.serve_episodes depth moves state).closed closed).life closed rfl
    rw [Accounted, split, eventsOf_amid before_not after_not]
    refine ⟨life.accountsFor rfl, fun quiet => ?_⟩
    exact (life.tally quiet rfl (openRequests [] before)).amid (fun _ h => (nomatch h)) before_not
      after_not
  · have life := dispatcher.run_life depth session step start
    rw [failed] at life
    exact life.accounted

open Widgets in
/-- Of a replacement that fails half-way, one step is taken back and reported. -/
theorem refused_replace_accounted :
    (membersOnly.run 2 (some "user") (execution .replace 1) guarded).value =
        some (.error .insufficientRights) ∧
      .closed (.fresh guarded "user") (execution .replace 1) (.error .insufficientRights) ∈
        (membersOnly.serve 2 [.request "user" (execution .replace 1)] guarded).moments ∧
      membersOnly.QuietLookups ∧
      reports (eventsOf ⟨0⟩
        (membersOnly.serve 2 [.request "user" (execution .replace 1)] guarded).moments) =
          [⟨"CreateWidgets", false, true⟩] ∧
      stepFailures ⟨0⟩ []
        (membersOnly.serve 2 [.request "user" (execution .replace 1)] guarded).moments = 0 ∧
      membersOnly.Accounted ⟨0⟩ .insufficientRights
        (membersOnly.run 2 (some "user") (execution .replace 1) guarded).moments := by
  have closed : .closed (.fresh guarded "user") (execution .replace 1) (.error .insufficientRights) ∈
      (membersOnly.serve 2 [.request "user" (execution .replace 1)] guarded).moments :=
    List.mem_of_getElem? (rfl : _[30]? = _)
  have quiet : membersOnly.QuietLookups := quietLookups_of_registered rfl
  obtain ⟨accounted, -⟩ :=
    membersOnly.serve_accounts 2 [.request "user" (execution .replace 1)] guarded
  obtain ⟨-, -, failing⟩ := membersOnly.serve_accounts 1 [] guarded
  exact ⟨rfl, closed, quiet, rfl, (accounted _ _ _ closed).2 quiet,
    failing (some "user") (execution .replace 1) guarded _ rfl⟩

end Dispatcher

end ActionDispatch
