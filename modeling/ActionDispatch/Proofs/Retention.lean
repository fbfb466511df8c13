import ActionDispatch.Proofs.Attempts
import ActionDispatch.Proofs.Leaves
import ActionDispatch.Proofs.Sequences

/-!
# What a request can still use when it is taken back

Every entry in the log of a request was admitted when it was logged. As long as no act changes what is
registered, that stays so: through later steps and requests, through lookups that fail for other action types,
and through the compensations before it (`Retains`). What happens in a request is `Happens`, so that only the
acts count that are really reached.
-/

namespace ActionDispatch

variable {V : Vocabulary}

/-- A part of a run that is about to begin. -/
inductive Scene (V : Vocabulary)
  | program {α : Type} (caller : Caller) (program : Program V α) (log : List (Entry V)) (state : State V)
  | step (caller : Caller) (step : Step V) (log : List (Entry V)) (state : State V)
  | unwinding (caller : Caller) (entries log : List (Entry V)) (state : State V)
  | request (session : Option String) (step : Step V) (state : State V)

/-- What a program is about to do is of this sort. -/
def Scene.Acts (sort : Act V → Prop) : Scene V → Prop
  | .program _ body _ _ => body.Acts sort
  | _ => True

/-- The engine says that it refuses a caller. -/
def Moment.isRejection : Moment V → Bool
  | .emitted (.rejected ..) => true
  | _ => false

namespace Dispatcher

/-- An attempt whose step comes to its handler: registries and session check let it pass, nothing of that is
a rejection, and its answer is the translated one of the handler. -/
inductive Handled (dispatcher : Dispatcher V) (depth : Nat) (caller : Caller) (attempt : Attempt V) : Prop
  | intro {log state handler way admitted given inner later middle body rest}
      (admission : dispatcher.Admission caller attempt.step handler state way admitted)
      (handled : dispatcher.interpret (dispatcher.callsAt depth) caller
        (dispatcher.app.program attempt.step handler) log admitted =
          ⟨some (given, inner), middle, body⟩)
      (answer : attempt.answer = given.mapError (·.intoService attempt.entry.name))
      (inside : attempt.inside = way ++ .called caller attempt.step handler ::
        (body ++ .returned caller attempt.step given later :: rest))
      (unrejected : ∀ m ∈ way ++ rest, m.isRejection = false) :
      Handled dispatcher depth caller attempt

/-- An act happens in the course of a scene, in which handler calls are nested at most this deep. -/
inductive Happens (dispatcher : Dispatcher V) (act : Act V) : Nat → Scene V → Prop
  | here {depth caller log state} {α : Type} {next : act.Result → Program V α} :
      Happens dispatcher act depth (.program caller (.act act next) log state)
  | acted {depth caller log state middle moments} {α : Type} {other : Act V}
      {next : other.Result → Program V α} {result : other.Result}
      (done : dispatcher.app.act other state = ⟨some result, middle, moments⟩)
      (later : Happens dispatcher act depth (.program caller (next result) log middle)) :
      Happens dispatcher act depth (.program caller (.act other next) log state)
  | looked {depth caller log state} {α : Type} {next : ContextView → Program V α}
      (later : Happens dispatcher act depth
        (.program caller (next ⟨caller.request, caller.session, log.length⟩) log state)) :
      Happens dispatcher act depth (.program caller (.look next) log state)
  | performing {depth caller log state} {α : Type} {step : Step V}
      {next : Answer step.Result → Program V α}
      (inside : Happens dispatcher act depth (.step caller step log state)) :
      Happens dispatcher act (depth + 1) (.program caller (.perform step next) log state)
  | performed {depth caller log state inner middle moments} {α : Type} {step : Step V}
      {next : Answer step.Result → Program V α} {answer : Answer step.Result}
      (done : (dispatcher.callsAt depth).perform caller step log state =
        ⟨some (answer, inner), middle, moments⟩)
      (later : Happens dispatcher act depth (.program caller (next answer) inner middle)) :
      Happens dispatcher act depth (.program caller (.perform step next) log state)
  | requesting {depth caller log state session} {α : Type} {step : Step V}
      {next : Answer step.Result → Program V α}
      (inside : Happens dispatcher act depth (.request session step state)) :
      Happens dispatcher act (depth + 1) (.program caller (.request session step next) log state)
  | requested {depth caller log state session middle moments} {α : Type} {step : Step V}
      {next : Answer step.Result → Program V α} {answer : Answer step.Result}
      (done : (dispatcher.callsAt depth).request session step state =
        ⟨some answer, middle, moments⟩)
      (later : Happens dispatcher act depth (.program caller (next answer) log middle)) :
      Happens dispatcher act depth (.program caller (.request session step next) log state)
  | handler {depth caller log state way admitted} {step : Step V} {handler : V.Handler step.kind}
      (admission : dispatcher.Admission caller step handler state way admitted)
      (inside : Happens dispatcher act depth
        (.program caller (dispatcher.app.program step handler) log admitted)) :
      Happens dispatcher act depth (.step caller step log state)
  | begun {depth session state ready opening} {step : Step V}
      (started : dispatcher.emit (.started ⟨state.requests⟩ step.name) state.started =
        ⟨some (), ready, opening⟩)
      (inside : Happens dispatcher act depth (.step (.fresh state session) step [] ready)) :
      Happens dispatcher act depth (.request session step state)
  | rolledBack {depth session state caller original log middle before} {step : Step V}
      (attempted : dispatcher.attempt (dispatcher.perform (dispatcher.callsAt depth)) session step
        state = ⟨some (caller, .error original, log), middle, before⟩)
      (inside : Happens dispatcher act depth (.unwinding caller.rollback log.reverse []
        (dispatcher.unwindsFrom caller log original middle))) :
      Happens dispatcher act depth (.request session step state)
  | compensating {depth caller entry step older log state} (takesBack : Entry.TakenBackBy entry step)
      (inside : Happens dispatcher act depth (.step caller step log state)) :
      Happens dispatcher act depth (.unwinding caller (entry :: older) log state)
  | compensated {depth caller entry step older log state answer inner middle last inside told}
      (takesBack : Entry.TakenBackBy entry step)
      (made : dispatcher.perform (dispatcher.callsAt depth) caller step log state =
        ⟨some (answer, inner), middle, inside⟩)
      (reported : dispatcher.report caller entry answer middle = ⟨some (), last, told⟩)
      (goesOn : answer.isOk = true ∨ dispatcher.settings.rollback = .bestEffort)
      (later : Happens dispatcher act depth (.unwinding caller older inner last)) :
      Happens dispatcher act depth (.unwinding caller (entry :: older) log state)

/-- Whatever happens in a scene leads to later states. -/
def Gentle (dispatcher : Dispatcher V) (later : State V → State V → Prop) (depth : Nat)
    (scene : Scene V) : Prop :=
  ∀ act, dispatcher.Happens act depth scene → ∀ state, later state (dispatcher.app.act act state).state

/-- Every entry is admitted to a handler in all later states. -/
def Ready (dispatcher : Dispatcher V) (later : State V → State V → Prop) (session : Option String)
    (state : State V) (log : List (Entry V)) : Prop :=
  ∀ entry ∈ log, ∃ handler, ∀ last, later state last →
    dispatcher.Clears last session entry.kind handler

/-- An attempt was made in a state that is later than this one. -/
def MadeAfter (dispatcher : Dispatcher V) (later : State V → State V → Prop) (depth : Nat)
    (caller : Caller) (state : State V) (attempt : Attempt V) : Prop :=
  ∃ reached log inner last, later state reached ∧
    dispatcher.perform (dispatcher.callsAt depth) caller attempt.step log reached =
      ⟨some (attempt.answer, inner), last, attempt.inside⟩

/-- Steps, nested at most this deep, lead to later states, and a log that was ready stays so with what they
add. -/
def StepsRetain (dispatcher : Dispatcher V) (later : State V → State V → Prop) (depth : Nat) : Prop :=
  ∀ ⦃caller step log state answer inner last moments⦄,
    dispatcher.Gentle later depth (.step caller step log state) →
    dispatcher.perform (dispatcher.callsAt depth) caller step log state =
      ⟨some (answer, inner), last, moments⟩ →
    later state last ∧ (dispatcher.Ready later caller.session state log →
      dispatcher.Ready later caller.session last inner)

/-- Requests, nested at most this deep, lead to later states. -/
def RequestsRetain (dispatcher : Dispatcher V) (later : State V → State V → Prop) (depth : Nat) : Prop :=
  ∀ ⦃session step state answer last moments⦄,
    dispatcher.Gentle later depth (.request session step state) →
    dispatcher.request (dispatcher.perform (dispatcher.callsAt depth)) session step state =
      ⟨some answer, last, moments⟩ →
    later state last

variable {α : Type} {dispatcher : Dispatcher V} {later : State V → State V → Prop} {depth : Nat}
  {caller : Caller} {session : Option String} {state last : State V} {log inner : List (Entry V)}
  {moments : List (Moment V)}

/-! ### Logs that are ready -/

theorem Ready.of_later (h : dispatcher.Ready later session state log) (steady : dispatcher.Steady later)
    (leads : later state last) : dispatcher.Ready later session last log := by
  intro entry hentry
  obtain ⟨handler, clears⟩ := h entry hentry
  exact ⟨handler, fun final hfinal => clears final (steady.trans leads hfinal)⟩

/-- What was admitted can be logged. -/
theorem Ready.record {step : Step V} {handler : V.Handler step.kind} {admitted : State V}
    {way : List (Moment V)} (h : dispatcher.Ready later caller.session last log)
    (steady : dispatcher.Steady later)
    (admission : dispatcher.Admission caller step handler state way admitted)
    (leads : later admitted last) (given : Answer step.Result) :
    dispatcher.Ready later caller.session last (log ++ step.recorded given) := by
  intro entry hentry
  rcases List.mem_append.1 hentry with hentry | hentry
  · exact h entry hentry
  · cases given with
    | error error => cases hentry
    | ok output =>
      obtain rfl := List.mem_singleton.1 hentry
      rw [Step.kind_entry]
      exact ⟨handler, fun final hfinal => steady.again admission (steady.trans leads hfinal)⟩

/-! ### Programs and steps -/

theorem interpret_retains (steady : dispatcher.Steady later)
    (retain : ∀ less, depth = less + 1 →
      dispatcher.StepsRetain later less ∧ dispatcher.RequestsRetain later less) {program : Program V α}
    {answer : Answer α} (gentle : dispatcher.Gentle later depth (.program caller program log state))
    (hrun : dispatcher.interpret (dispatcher.callsAt depth) caller program log state =
      ⟨some (answer, inner), last, moments⟩) :
    later state last ∧ (dispatcher.Ready later caller.session state log →
      dispatcher.Ready later caller.session last inner) := by
  induction program generalizing log state moments with
  | done answer =>
    cases hrun
    exact ⟨steady.refl _, id⟩
  | perform step next ih =>
    obtain ⟨⟨result, log'⟩, middle, _, _, hperform, hnext, rfl⟩ := Run.bind_eq_some_iff.1 hrun
    cases depth with
    | zero => cases hperform
    | succ less =>
      obtain ⟨first, ready⟩ := (retain less rfl).1
        (fun act inside => gentle act (.performing inside)) hperform
      obtain ⟨second, ready'⟩ := ih _ (fun act later => gentle act (.performed hperform later)) hnext
      exact ⟨steady.trans first second, fun h => ready' (ready h)⟩
  | request session step next ih =>
    obtain ⟨result, middle, _, _, hrequest, hnext, rfl⟩ := Run.bind_eq_some_iff.1 hrun
    cases depth with
    | zero => cases hrequest
    | succ less =>
      have first := (retain less rfl).2
        (fun act inside => gentle act (.requesting inside)) hrequest
      obtain ⟨second, ready⟩ := ih _ (fun act later => gentle act (.requested hrequest later)) hnext
      exact ⟨steady.trans first second, fun h => ready (h.of_later steady first)⟩
  | look next ih =>
    obtain ⟨_, middle, _, _, hlook, hnext, rfl⟩ := Run.bind_eq_some_iff.1 hrun
    cases hlook
    exact ih _ (fun act later => gentle act (.looked later)) hnext
  | act act next ih =>
    obtain ⟨result, middle, _, _, hact, hnext, rfl⟩ := Run.bind_eq_some_iff.1 hrun
    have first : later state middle := by
      have acted := gentle act .here state
      rw [hact] at acted
      exact acted
    obtain ⟨second, ready⟩ := ih _ (fun other later => gentle other (.acted hact later)) hnext
    exact ⟨steady.trans first second, fun h => ready (h.of_later steady first)⟩

theorem perform_retains (steady : dispatcher.Steady later)
    (retain : ∀ less, depth = less + 1 →
      dispatcher.StepsRetain later less ∧ dispatcher.RequestsRetain later less) :
    dispatcher.StepsRetain later depth := by
  intro caller step log state answer inner last moments gentle hrun
  have conduct := dispatcher.perform_conduct (dispatcher.callsAt depth) caller step log state
  generalize dispatcher.perform (dispatcher.callsAt depth) caller step log state = out at hrun conduct
  cases conduct with
  | unserved =>
    cases hrun
    have moved := steady.handler state step.kind
    exact ⟨moved, fun h => h.of_later steady moved⟩
  | unguarded =>
    cases hrun
    have moved := steady.validator state step.kind
    exact ⟨moved, fun h => h.of_later steady moved⟩
  | refused _ _ refusal =>
    cases hrun
    have moved := steady.refused refusal
    exact ⟨moved, fun h => h.of_later steady moved⟩
  | @invoked handler way admitted admission =>
    rw [Outcome.after_eq_some_iff] at hrun
    obtain ⟨own, hinvoke, rfl⟩ := hrun
    obtain ⟨given, inner, middle, body, rest, hprogram, -, rfl, -, -, hrecord⟩ :=
      dispatcher.invoke_eq_some _ caller hinvoke
    have first := admission.leads steady
    obtain ⟨second, ready⟩ := interpret_retains steady retain
      (fun act inside => gentle act (.handler admission inside)) hprogram
    have third := steady.leads_of_quiet (dispatcher.record_quiet caller step _) hrecord
    refine ⟨steady.trans first (steady.trans second third), fun h => ?_⟩
    exact ((ready (h.of_later steady first)).record steady admission second given).of_later steady third

/-! ### Rollbacks and requests -/

theorem report_quiet (dispatcher : Dispatcher V) (caller : Caller) (entry : Entry V) {α : Type}
    (answer : Answer α) : (dispatcher.report caller entry answer).Quiet := by
  cases answer with
  | ok output => exact .bind (.leave _) fun _ => dispatcher.emit_quiet _
  | error error => exact .bind (.leave _) fun _ => dispatcher.emit_quiet _

theorem deny_quiet (dispatcher : Dispatcher V) (caller : Caller) (step : Step V) (error : DispatchError) :
    (dispatcher.deny caller step error).Quiet :=
  .bind (dispatcher.emit_quiet _) fun _ => .bind (.leave _) fun _ => .pure _

theorem Steady.leads_quiet (steady : dispatcher.Steady later) {run : Run V α} (h : run.Quiet)
    (state : State V) : later state (run state).state := by
  obtain ⟨a, channels, requests, moments, hrun⟩ := h state
  rw [hrun]
  exact steady.quiet state channels requests

theorem unwindsFrom_leads (steady : dispatcher.Steady later) (caller : Caller) (log : List (Entry V))
    (original : DispatchError) (state : State V) :
    later state (dispatcher.unwindsFrom caller log original state) := by
  unfold unwindsFrom
  split
  · exact steady.refl state
  · have quiet : (dispatcher.announce caller log original).Quiet :=
      .bind (.leave _) fun _ => dispatcher.emit_quiet _
    exact steady.leads_quiet quiet state

theorem Attempt.isOk_of_error?_eq_none {attempt : Attempt V} (h : attempt.error? = none) :
    attempt.answer.isOk = true := by
  obtain ⟨entry, step, takesBack, _ | output, inside, told⟩ := attempt
  · cases h
  · rfl

theorem MadeAfter.of_later {middle : State V} {attempt : Attempt V}
    (h : dispatcher.MadeAfter later depth caller middle attempt) (steady : dispatcher.Steady later)
    (leads : later state middle) : dispatcher.MadeAfter later depth caller state attempt := by
  obtain ⟨reached, log, inner, last, onward, made⟩ := h
  exact ⟨reached, log, inner, last, steady.trans leads onward, made⟩

/-- Attempts that go on as the policy lets them lead from one later state to the next. -/
theorem Attempts.retains (steady : dispatcher.Steady later) (steps : dispatcher.StepsRetain later depth)
    {attempts : List (Attempt V)} {start stop : Standing V}
    (chain : dispatcher.Attempts (dispatcher.perform (dispatcher.callsAt depth)) caller start attempts stop)
    {entries : List (Entry V)} (order : attempts.map Attempt.entry <+: entries)
    (goesOn : ∀ attempt ∈ attempts.dropLast,
      attempt.error? = none ∨ dispatcher.settings.rollback = .bestEffort)
    (gentle : dispatcher.Gentle later depth (.unwinding caller entries start.log start.state)) :
    later start.state stop.state ∧
      ∀ attempt ∈ attempts, dispatcher.MadeAfter later depth caller start.state attempt := by
  induction chain generalizing entries with
  | nil => exact ⟨steady.refl _, fun _ h => (nomatch h)⟩
  | @cons start attempt inner middle last attempts stop made reported others ih =>
    obtain ⟨older, rfl⟩ := order
    have first : later start.state last := by
      have moved := (steps (fun act inside =>
        gentle act (.compensating attempt.takesBack inside)) made).1
      exact steady.trans moved (steady.leads_of_quiet (dispatcher.report_quiet caller _ _) reported)
    have rest : later last stop.state ∧
        ∀ attempt ∈ attempts, dispatcher.MadeAfter later depth caller last attempt := by
      cases attempts with
      | nil =>
        cases others
        exact ⟨steady.refl _, fun _ h => (nomatch h)⟩
      | cons next attempts =>
        -- There is a next attempt, so this one let the rollback go on.
        have onward := (goesOn attempt List.mem_cons_self).imp_left Attempt.isOk_of_error?_eq_none
        refine ih (List.prefix_append _ older) (fun other hother => ?_) fun act later => ?_
        · exact goesOn other (List.mem_cons_of_mem _ hother)
        · exact gentle act (.compensated attempt.takesBack made reported onward later)
    refine ⟨steady.trans first rest.1, fun other hother => ?_⟩
    rcases List.mem_cons.1 hother with rfl | hother
    · exact ⟨start.state, start.log, inner, middle, steady.refl _, made⟩
    · exact (rest.2 other hother).of_later steady first

theorem onward_of_stops {attempts : List (Attempt V)}
    (stops : dispatcher.settings.rollback = .stopOnFailure →
      ∀ attempt ∈ attempts.dropLast, attempt.error? = none) :
    ∀ attempt ∈ attempts.dropLast,
      attempt.error? = none ∨ dispatcher.settings.rollback = .bestEffort := by
  intro attempt hattempt
  cases policy : dispatcher.settings.rollback with
  | stopOnFailure => exact .inl (stops policy attempt hattempt)
  | bestEffort => exact .inr rfl

/-- The step of a request leads to a later state, and all that it logged is ready. -/
theorem attempt_retains (steady : dispatcher.Steady later) (steps : dispatcher.StepsRetain later depth)
    {step : Step V} {answer : Answer step.Result}
    (gentle : dispatcher.Gentle later depth (.request session step state))
    (attempted : dispatcher.attempt (dispatcher.perform (dispatcher.callsAt depth)) session step state =
      ⟨some (caller, answer, log), last, moments⟩) :
    caller.session = session ∧ later state last ∧ dispatcher.Ready later session last log := by
  obtain ⟨rfl, ready, opening, inside, hemit, hperform, rfl⟩ := attempt_eq_some attempted
  have started := steady.started hemit
  obtain ⟨moved, readies⟩ := steps (fun act inside => gentle act (.begun hemit inside)) hperform
  exact ⟨rfl, steady.trans started moved, readies fun _ h => (nomatch h)⟩

theorem request_retains (steady : dispatcher.Steady later) (steps : dispatcher.StepsRetain later depth) :
    dispatcher.RequestsRetain later depth := by
  intro session step state answer last moments gentle hrun
  obtain ⟨⟨caller, given, log⟩, middle, _, _, attempted, settled, rfl⟩ := Run.bind_eq_some_iff.1 hrun
  have first := (attempt_retains steady steps gentle attempted).2.1
  cases given with
  | ok output =>
    have quiet : (dispatcher.settle (dispatcher.perform (dispatcher.callsAt depth)) step
        (caller, .ok output, log)).Quiet :=
      .bind (.bind (dispatcher.emit_quiet _) fun _ => .pure _) fun _ =>
        .bind (.leave _) fun _ => .pure _
    exact steady.trans first (steady.leads_of_quiet quiet settled)
  | error original =>
    obtain ⟨attempts, stop, chain, ⟨reaches, error, _, _, -, hsettle, -⟩ | ⟨-, cutShort⟩⟩ :=
      dispatcher.settle_attempts (dispatcher.perform (dispatcher.callsAt depth)) caller step original
        log middle
    · cases settled.symm.trans hsettle
      have begins := unwindsFrom_leads steady caller log original middle
      have unwound := (chain.retains steady steps reaches.order (onward_of_stops reaches.stops)
        fun act inside => gentle act (.rolledBack attempted inside)).1
      exact steady.trans first (steady.trans begins (steady.trans unwound
        (steady.leads_quiet (dispatcher.deny_quiet caller step error) _)))
    · rw [settled] at cutShort
      cases cutShort

/-- Whatever the depth, steps and requests retain what was ready. -/
theorem steps_retain (steady : dispatcher.Steady later) (depth : Nat) :
    dispatcher.StepsRetain later depth := by
  induction depth with
  | zero => exact perform_retains steady fun _ h => (nomatch h)
  | succ depth ih =>
    refine perform_retains steady fun less h => ?_
    cases h
    exact ⟨ih, request_retains steady ih⟩

/-! ### Attempts that come to their handlers -/

theorem Clears.admission (step : Step V) {handler : V.Handler step.kind}
    (clears : dispatcher.Clears state caller.session step.kind handler) :
    ∃ way admitted, dispatcher.Admission caller step handler state way admitted := by
  obtain ⟨served, id, guarded, accepted⟩ := clears
  exact ⟨_, _, .intro served guarded accepted⟩

theorem Admission.unrejected {step : Step V} {handler : V.Handler step.kind} {admitted : State V}
    {way : List (Moment V)} (h : dispatcher.Admission caller step handler state way admitted) :
    ∀ m ∈ way, m.isRejection = false := by
  obtain ⟨-, -, -⟩ := h
  intro m hm
  rcases List.mem_append.1 hm with hm | hm
  · obtain ⟨finding, -, rfl⟩ := List.mem_map.1 hm
    cases finding <;> rfl
  · simp only [List.mem_cons, List.not_mem_nil, or_false] at hm
    rcases hm with rfl | rfl | rfl <;> rfl

theorem record_unrejected {step : Step V} {given : Answer step.Result} {logged : Logged V step.Result}
    {m : Moment V} {rest : List (Moment V)}
    (h : dispatcher.record caller step (given, log) state = ⟨some logged, last, m :: rest⟩) :
    ∀ m ∈ rest, m.isRejection = false := by
  cases given with
  | error error =>
    cases h
    exact fun _ hm => (nomatch hm)
  | ok output =>
    obtain ⟨final, told, hemit, -, @⟨delivery, delivered, -⟩⟩ :=
      dispatcher.emit_tells (step.performed caller.request) state
    dsimp only [record] at h
    rw [Run.leave_bind_apply, Run.bind_apply, hemit] at h
    cases h
    intro m hm
    have hm : m ∈ .emitted (step.performed caller.request) :: delivery := by
      simpa [Outcome.after, Run.pure_apply] using hm
    rcases List.mem_cons.1 hm with rfl | hm
    · unfold Step.performed
      split <;> rfl
    · have delivers := delivered m hm
      cases m with
      | emitted => exact delivers.elim
      | _ => rfl

theorem Ready.clears (h : dispatcher.Ready later caller.session state log) {entry : Entry V}
    (logged : entry ∈ log) (leads : later state last) {step : Step V} (takesBack : entry.TakenBackBy step) :
    ∃ handler, dispatcher.Clears last caller.session step.kind handler := by
  rw [takesBack.kind_eq]
  obtain ⟨handler, clears⟩ := h entry logged
  exact ⟨handler, clears last leads⟩

/-- An attempt that is cleared comes to its handler. -/
theorem handled_of_clears {attempt : Attempt V} {handler : V.Handler attempt.step.kind}
    (clears : dispatcher.Clears state caller.session attempt.step.kind handler)
    (made : dispatcher.perform (dispatcher.callsAt depth) caller attempt.step log state =
      ⟨some (attempt.answer, inner), last, attempt.inside⟩) :
    dispatcher.Handled depth caller attempt := by
  obtain ⟨way, admitted, own, admission, hinvoke, inside⟩ := clears.invoked made
  obtain ⟨given, inner, middle, body, rest, hprogram, answer, rfl, rfl, -, hrecord⟩ :=
    dispatcher.invoke_eq_some _ caller hinvoke
  have name : attempt.step.name = attempt.entry.name := congrArg V.kindName attempt.takesBack.kind_eq
  refine .intro admission hprogram (name ▸ answer) inside fun m hm => ?_
  rcases List.mem_append.1 hm with hm | hm
  · exact admission.unrejected m hm
  · exact record_unrejected hrecord m hm

theorem Handled.supported {attempt : Attempt V} (h : dispatcher.Handled depth caller attempt)
    (error : DispatchError) (failed : attempt.answer = .error error) : error.isUnsupported = false := by
  cases h with
  | @intro _ _ _ _ _ given _ _ _ _ _ _ _ answer =>
    cases given with
    | ok output => cases failed.symm.trans answer
    | error raised =>
      cases failed.symm.trans answer
      cases raised <;> rfl

/-- If nothing changes what is registered while a request lasts, and validators judge by the session, then
its rollback never fails for lack of a handler, a validator or rights: each of its steps comes to its
handler, and what it fails with is what that handler raised. -/
theorem rollback_handled (dispatcher : Dispatcher V) {judge : V.Validator → Option String → Bool}
    (handlers : dispatcher.handlerFor = .registered)
    (validators : dispatcher.validatorFor = .registered)
    (judges : dispatcher.app.JudgesBySession judge) {depth : Nat} {session : Option String}
    {step : Step V} {state middle : State V} {original : DispatchError} {log : List (Entry V)}
    {before : List (Moment V)}
    (untouched : ∀ act, dispatcher.Happens act depth (.request session step state) →
      act.registers = false)
    (attempted : dispatcher.attempt (dispatcher.perform (dispatcher.callsAt depth)) session step state =
      ⟨some (caller, .error original, log), middle, before⟩) :
    ∃ attempts stop,
      dispatcher.Attempts (dispatcher.perform (dispatcher.callsAt depth)) caller.rollback
        ⟨dispatcher.unwindsFrom caller log original middle, []⟩ attempts stop ∧
      (∀ attempt ∈ attempts, dispatcher.Handled depth caller.rollback attempt ∧
        ∀ error, attempt.answer = .error error → error.isUnsupported = false) ∧
      ((dispatcher.Reaches log.reverse attempts ∧ ∃ error last after,
        dispatcher.settle (dispatcher.perform (dispatcher.callsAt depth)) step
          (caller, .error original, log) middle = ⟨some (.error error), last, after⟩ ∧
        error = original.afterRollback (attempts.filterMap Attempt.error?)) ∨
      (dispatcher.Halts (dispatcher.perform (dispatcher.callsAt depth)) caller.rollback log.reverse
          attempts stop ∧
        (dispatcher.settle (dispatcher.perform (dispatcher.callsAt depth)) step
          (caller, .error original, log) middle).value = none ∧
        ∃ entry takingBack older handler way admitted,
          attempts.map Attempt.entry ++ entry :: older = log.reverse ∧
          entry.TakenBackBy takingBack ∧
          dispatcher.Admission caller.rollback takingBack handler stop.state way admitted)) := by
  have steady := registered_steady handlers validators judges
  have steps := steps_retain steady depth
  have gentle : dispatcher.Gentle (State.Keeps judge) depth (.request session step state) :=
    fun act happens => judges.act_keeps (untouched act happens)
  obtain ⟨rfl, -, ready⟩ := attempt_retains steady steps gentle attempted
  have ready : dispatcher.Ready (State.Keeps judge) caller.rollback.session
      (dispatcher.unwindsFrom caller log original middle) log :=
    ready.of_later steady (unwindsFrom_leads steady caller log original middle)
  have unwinds : dispatcher.Gentle (State.Keeps judge) depth
      (.unwinding caller.rollback log.reverse [] (dispatcher.unwindsFrom caller log original middle)) :=
    fun act inside => gentle act (.rolledBack attempted inside)
  obtain ⟨attempts, stop, chain, outcome⟩ := dispatcher.settle_attempts
    (dispatcher.perform (dispatcher.callsAt depth)) caller step original log middle
  have made : attempts.map Attempt.entry <+: log.reverse ∧ ∀ attempt ∈ attempts.dropLast,
      attempt.error? = none ∨ dispatcher.settings.rollback = .bestEffort := by
    rcases outcome with ⟨reaches, -⟩ | ⟨⟨⟨entry, _, older, split, -⟩, stops⟩, -⟩
    · exact ⟨reaches.order, onward_of_stops reaches.stops⟩
    · refine ⟨⟨_, split⟩, onward_of_stops fun policy attempt hattempt => ?_⟩
      exact stops policy attempt (List.dropLast_subset _ hattempt)
  obtain ⟨leads, made_after⟩ := chain.retains steady steps made.1 made.2 unwinds
  refine ⟨attempts, stop, chain, fun attempt hattempt => ?handled, ?outcome⟩
  case handled =>
    obtain ⟨_, _, _, _, reached, performed⟩ := made_after attempt hattempt
    have logged : attempt.entry ∈ log :=
      List.mem_reverse.1 (made.1.subset (List.mem_map_of_mem hattempt))
    obtain ⟨handler, clears⟩ := ready.clears logged reached attempt.takesBack
    have handled := handled_of_clears clears performed
    exact ⟨handled, handled.supported⟩
  case outcome =>
    rcases outcome with ⟨reaches, error, opening, closing, same, settled, -⟩ | ⟨halts, cutShort⟩
    · exact .inl ⟨reaches, error, _, _, settled, same⟩
    · refine .inr ⟨halts, cutShort, ?_⟩
      obtain ⟨entry, takingBack, older, split, takesBack, -⟩ := halts.order
      have logged : entry ∈ log := List.mem_reverse.1 (split ▸ by simp)
      obtain ⟨handler, clears⟩ := ready.clears logged leads takesBack
      obtain ⟨way, admitted, admission⟩ := clears.admission takingBack
      exact ⟨entry, takingBack, older, handler, way, admitted, split, takesBack, admission⟩

/-- Where all acts of the handlers are of a sort, those that happen are. -/
theorem Happens.of_acts {sort : Act V → Prop}
    (acts : ∀ step handler, (dispatcher.app.program step handler).Acts sort) {act : Act V}
    {scene : Scene V} (h : dispatcher.Happens act depth scene) (inScene : scene.Acts sort) :
    sort act := by
  induction h with
  | here => exact inScene.1
  | acted _ _ ih => exact ih (inScene.2 _)
  | looked _ ih | performed _ _ ih | requested _ _ ih => exact ih (inScene _)
  | handler _ _ ih => exact ih (acts _ _)
  | performing _ ih | requesting _ ih | begun _ _ ih | rolledBack _ _ ih | compensating _ _ ih
  | compensated _ _ _ _ _ ih => exact ih trivial

end Dispatcher

namespace Sequences

theorem inOrder_acts {sort : Act vocabulary → Prop} (steps : List (Step vocabulary)) :
    (inOrder steps).Acts sort := by
  induction steps with
  | nil => trivial
  | cons step steps ih =>
    intro answer
    cases answer with
    | ok output => exact ih
    | error error => trivial

/-- Nothing that a job does changes what is registered. -/
theorem application_acts (step : Step vocabulary) (handler : vocabulary.Handler step.kind) :
    (application.program step handler).Acts fun act => act.registers = false := by
  cases step with
  | execute task input =>
    cases task with
    | mark | weld => exact ⟨rfl, fun _ => trivial⟩
    | jam => trivial
    | sequence => exact inOrder_acts _
  | undo task input output =>
    cases task with
    | mark => exact ⟨rfl, fun _ => trivial⟩
    | weld | jam => trivial
    | sequence => exact inOrder_acts _

theorem application_judges :
    application.JudgesBySession fun members session => (admits members session).1 :=
  fun _ _ _ => ⟨rfl, rfl⟩

/-- The gate of jobs that jam cannot be made. -/
def gateless : State vocabulary :=
  opening (handlers [.mark, .weld, .jam, .sequence])
    (gates [(.mark, .members), (.weld, .members), (.jam, .broken), (.sequence, .members)])

def unguardedJam : Job := .sequence [.weld 1, .sequence [.mark 2], .jam (.config "Jammed")]

/-- A sequence fails since there is no gate for its last job, and its rollback fails since nothing is
unwelded, but every step of the rollback comes to its handler. -/
theorem unguarded_jam_handled :
    (∀ act, dispatcher.Happens act 3 (.request "user" unguardedJam.execution gateless) →
      act.registers = false) ∧
    ∃ (original : _) (log : _) (middle : _) (before : _) (attempts : List (Attempt vocabulary)),
      dispatcher.attempt (dispatcher.perform (dispatcher.callsAt 3)) "user" unguardedJam.execution
        gateless = ⟨some (.fresh gateless "user", .error original, log), middle, before⟩ ∧
      log = [executed .weld (1 : Nat), executed .mark (2 : Nat), executed .sequence [Job.mark 2]] ∧
      attempts.map Attempt.entry = log.reverse ∧
      ∀ attempt ∈ attempts, dispatcher.Handled 3 (Caller.fresh gateless "user").rollback attempt := by
  have untouched : ∀ act,
      dispatcher.Happens act 3 (.request "user" unguardedJam.execution gateless) →
        act.registers = false :=
    fun act happens => happens.of_acts application_acts trivial
  have run : ∃ original middle before answer last after,
      dispatcher.attempt (dispatcher.perform (dispatcher.callsAt 3)) "user" unguardedJam.execution
        gateless = ⟨some (.fresh gateless "user", .error original, [executed .weld (1 : Nat),
          executed .mark (2 : Nat), executed .sequence [Job.mark 2]]), middle, before⟩ ∧
      dispatcher.settle (dispatcher.perform (dispatcher.callsAt 3)) unguardedJam.execution
        (.fresh gateless "user", .error original, [executed .weld (1 : Nat), executed .mark (2 : Nat),
          executed .sequence [Job.mark 2]]) middle = ⟨some answer, last, after⟩ :=
    ⟨_, _, _, _, _, _, rfl, rfl⟩
  obtain ⟨original, middle, before, answer, last, after, attempted, settled⟩ := run
  obtain ⟨attempts, stop, -, handled, ⟨reaches, -⟩ | ⟨-, cutShort, -⟩⟩ :=
    Dispatcher.rollback_handled dispatcher rfl rfl application_judges untouched attempted
  · exact ⟨untouched, original, _, middle, before, attempts, attempted, rfl, reaches.complete (.inl rfl),
      fun attempt hattempt => (handled attempt hattempt).1⟩
  · rw [settled] at cutShort
    cases cutShort

end Sequences

end ActionDispatch
