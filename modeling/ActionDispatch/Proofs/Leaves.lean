import ActionDispatch.Proofs.Course
import ActionDispatch.Proofs.Steadiness

/-!
# Leaves and composites

Handlers are often of two sorts: leaves, which do things themselves and perform no steps, and
composites, which only perform steps. Where all handlers are so divided, every run leads from a
state to a later one (`callsAt_move`): what was admitted before is still admitted.
-/

namespace ActionDispatch

variable {V : Vocabulary} {α β : Type}

namespace Program

/-- A program that performs no steps, and whose acts are of this sort. -/
def Leaf (sort : Act V → Prop) : Program V α → Prop
  | .done _ => True
  | .perform .. => False
  | .request _ _ next => ∀ answer, (next answer).Leaf sort
  | .look next => ∀ view, (next view).Leaf sort
  | .act outside next => sort outside ∧ ∀ result, (next result).Leaf sort

/-- A program that does nothing but perform steps, of which it undoes only those of leaves. -/
def Composite (leaf : V.Kind → Bool) : Program V α → Prop
  | .done _ => True
  | .perform step next =>
    (step.isUndo = true → leaf step.kind = true) ∧ ∀ answer, (next answer).Composite leaf
  | .request .. => False
  | .look next => ∀ view, (next view).Composite leaf
  | .act .. => False

end Program

/-- From a state that is later than the start, the run leads to a still later one, if it is not cut
short. -/
def Run.Moves (later : State V → State V → Prop) (start : State V) (run : Run V α) : Prop :=
  ∀ ⦃state a last moments⦄, later start state → run state = ⟨some a, last, moments⟩ →
    later state last

namespace Dispatcher

/-- In some state that is later than the start, the registries give this handler. -/
def Serves (dispatcher : Dispatcher V) (later : State V → State V → Prop) (start : State V)
    (kind : V.Kind) (handler : V.Handler kind) : Prop :=
  ∃ state, later start state ∧ dispatcher.handlerAt state kind = some handler

/-- The registered handlers are divided into leaves, whose acts lead to later states, and
composites, whose undo does nothing. -/
structure Divided (dispatcher : Dispatcher V) (leaf : V.Kind → Bool)
    (later : State V → State V → Prop) (start : State V) : Prop where
  leaves : ∀ (step : Step V) handler, dispatcher.Serves later start step.kind handler →
    leaf step.kind = true →
    (dispatcher.app.program step handler).Leaf fun act => (dispatcher.app.act act).Moves later start
  executes : ∀ {kind} (handler : V.Handler kind) input, dispatcher.Serves later start kind handler →
    leaf kind = false → (dispatcher.app.execute handler input).Composite leaf
  undoes : ∀ {kind} (handler : V.Handler kind) input output,
    dispatcher.Serves later start kind handler →
    leaf kind = false → dispatcher.app.undo handler input output = .done (.ok ())

variable {dispatcher : Dispatcher V} {calls : Calls V} {caller : Caller} {leaf : V.Kind → Bool}
  {later : State V → State V → Prop} {start : State V}

/-! ### States get later -/

theorem Steady.refl (steady : dispatcher.Steady later) (state : State V) : later state state :=
  steady.quiet state state.channels state.requests

theorem Steady.leads_of_quiet (steady : dispatcher.Steady later) {run : Run V α} (h : run.Quiet)
    {state last : State V} {a : α} {moments : List (Moment V)}
    (hrun : run state = ⟨some a, last, moments⟩) :
    later state last := by
  obtain ⟨_, channels, requests, _, hquiet⟩ := h state
  cases hrun.symm.trans hquiet
  exact steady.quiet state channels requests

/-- The beginning of a request leads to a later state. -/
theorem Steady.started (steady : dispatcher.Steady later) {event : Event} {state ready : State V}
    {moments : List (Moment V)} (hemit : dispatcher.emit event state.started = ⟨some (), ready, moments⟩) :
    later state ready :=
  steady.trans (steady.quiet state state.channels (state.requests + 1))
    (steady.leads_of_quiet (dispatcher.emit_quiet event) hemit)

/-- Being refused leads to a later state. -/
theorem Steady.refused (steady : dispatcher.Steady later) {step : Step V} {id : InstanceId}
    {answer : Answer step.Result} {state last : State V} {moments : List (Moment V)}
    (refusal : dispatcher.refuse caller step
      (dispatcher.app.verdict (dispatcher.afterValidator state step.kind) id caller.session).2 =
        ⟨some answer, last, moments⟩) :
    later state last := by
  have asked :=
    steady.trans (steady.validator state step.kind) (steady.verdict _ id caller.session)
  exact steady.trans asked (steady.leads_of_quiet (dispatcher.refuse_quiet caller step) refusal)

theorem Steady.moves_of_quiet (steady : dispatcher.Steady later) {run : Run V α} (h : run.Quiet) :
    run.Moves later start :=
  fun _ _ _ _ _ => steady.leads_of_quiet h

theorem moves_cut : (Run.cut : Run V α).Moves later start := by
  rintro _ _ _ _ - ⟨⟩

theorem Steady.moves_bind (steady : dispatcher.Steady later) {run : Run V α} {f : α → Run V β}
    (h : run.Moves later start) (hf : ∀ a, (f a).Moves later start) :
    (run >>= f).Moves later start := by
  intro state b last moments reached hrun
  obtain ⟨a, middle, before, after, h₁, h₂, rfl⟩ := Run.bind_eq_some_iff.1 hrun
  have first := h reached h₁
  exact steady.trans first (hf a (steady.trans reached first) h₂)

end Dispatcher

/-- Whatever a handler asks of the dispatcher leads to later states. -/
structure Calls.Move (calls : Calls V) (later : State V → State V → Prop) (start : State V) :
    Prop where
  perform : ∀ caller step log, (calls.perform caller step log).Moves later start
  request : ∀ session step, (calls.request session step).Moves later start

namespace Dispatcher

variable {dispatcher : Dispatcher V} {calls : Calls V} {caller : Caller} {leaf : V.Kind → Bool}
  {later : State V → State V → Prop} {start : State V}

/-- A leaf leads to a later state, and leaves the log alone. -/
theorem interpret_leaf (steady : dispatcher.Steady later) (move : calls.Move later start)
    {program : Program V α} (h : program.Leaf fun act => (dispatcher.app.act act).Moves later start)
    {log inner : List (Entry V)} {answer : Answer α} {state last : State V}
    {moments : List (Moment V)} (reached : later start state)
    (hrun : dispatcher.interpret calls caller program log state =
      ⟨some (answer, inner), last, moments⟩) :
    later state last ∧ inner = log := by
  induction program generalizing state moments with
  | done answer =>
    cases hrun
    exact ⟨steady.refl _, rfl⟩
  | perform step next ih => exact h.elim
  | request session step next ih =>
    obtain ⟨_, middle, _, _, hrequest, hnext, rfl⟩ := Run.bind_eq_some_iff.1 hrun
    have first := move.request session step reached hrequest
    obtain ⟨second, same⟩ := ih _ (h _) (steady.trans reached first) hnext
    exact ⟨steady.trans first second, same⟩
  | look next ih =>
    obtain ⟨_, middle, _, _, hlook, hnext, rfl⟩ := Run.bind_eq_some_iff.1 hrun
    cases hlook
    exact ih _ (h _) reached hnext
  | act act next ih =>
    obtain ⟨_, middle, _, _, hact, hnext, rfl⟩ := Run.bind_eq_some_iff.1 hrun
    have first := h.1 reached hact
    obtain ⟨second, same⟩ := ih _ (h.2 _) (steady.trans reached first) hnext
    exact ⟨steady.trans first second, same⟩

theorem interpret_composite_moves (steady : dispatcher.Steady later) (move : calls.Move later start)
    {program : Program V α} (h : program.Composite leaf) (log : List (Entry V)) :
    (dispatcher.interpret calls caller program log).Moves later start := by
  induction program generalizing log with
  | done answer => exact steady.moves_of_quiet (.pure _)
  | perform step next ih =>
    exact steady.moves_bind (move.perform caller step log) fun _ => ih _ (h.2 _) _
  | request session step next ih => exact h.elim
  | look next ih =>
    exact steady.moves_bind (steady.moves_of_quiet (.leave _)) fun _ => ih _ (h _) log
  | act act next ih => exact h.elim

/-- Every registered handler leads to a later state. -/
theorem Divided.program_moves (divided : dispatcher.Divided leaf later start)
    (steady : dispatcher.Steady later) (move : calls.Move later start) {step : Step V}
    {handler : V.Handler step.kind} (serves : dispatcher.Serves later start step.kind handler)
    (log : List (Entry V)) :
    (dispatcher.interpret calls caller (dispatcher.app.program step handler) log).Moves
      later start := by
  cases hleaf : leaf step.kind with
  | true =>
    intro state logged last moments reached hrun
    exact (interpret_leaf steady move (divided.leaves step handler serves hleaf) reached hrun).1
  | false =>
    cases step with
    | execute kind input =>
      exact interpret_composite_moves steady move (divided.executes handler input serves hleaf) log
    | undo kind input output =>
      have nothing := divided.undoes handler input output serves hleaf
      simp only [Application.program, nothing, interpret]
      exact steady.moves_of_quiet (.pure _)

theorem Admission.leads {step : Step V} {handler : V.Handler step.kind} {state admitted : State V}
    {way : List (Moment V)} (steady : dispatcher.Steady later)
    (h : dispatcher.Admission caller step handler state way admitted) : later state admitted := by
  obtain ⟨served, guarded, accepted⟩ := h
  exact steady.trans (steady.validator state step.kind) (steady.verdict _ _ _)

theorem Admission.serves {step : Step V} {handler : V.Handler step.kind} {state admitted : State V}
    {way : List (Moment V)} (h : dispatcher.Admission caller step handler state way admitted)
    (reached : later start state) : dispatcher.Serves later start step.kind handler := by
  obtain ⟨served, guarded, accepted⟩ := h
  exact ⟨state, reached, served⟩

theorem perform_moves (divided : dispatcher.Divided leaf later start)
    (steady : dispatcher.Steady later) (move : calls.Move later start) (step : Step V)
    (log : List (Entry V)) :
    (dispatcher.perform calls caller step log).Moves later start := by
  intro state logged last moments reached hrun
  have conduct := dispatcher.perform_conduct calls caller step log state
  generalize dispatcher.perform calls caller step log state = out at hrun conduct
  cases conduct with
  | unserved =>
    cases hrun
    exact steady.handler state step.kind
  | unguarded =>
    cases hrun
    exact steady.validator state step.kind
  | refused _ _ refusal =>
    cases hrun
    exact steady.refused refusal
  | @invoked handler way admitted admission =>
    rw [Outcome.after_eq_some_iff] at hrun
    obtain ⟨own, hinvoke, rfl⟩ := hrun
    obtain ⟨answer, log'⟩ := logged
    obtain ⟨given, inner, middle, body, rest, hprogram, -, -, -, -, hrecord⟩ :=
      dispatcher.invoke_eq_some calls caller hinvoke
    have first := admission.leads steady
    have second := divided.program_moves steady move (admission.serves reached) log
      (steady.trans reached first) hprogram
    have third := steady.leads_of_quiet (dispatcher.record_quiet caller step _) hrecord
    exact steady.trans first (steady.trans second third)

variable {perform : Performing V}

theorem compensate_moves (steady : dispatcher.Steady later)
    (h : ∀ caller step log, (perform caller step log).Moves later start) (entry : Entry V)
    (log : List (Entry V)) :
    (dispatcher.compensate perform caller entry log).Moves later start := by
  refine steady.moves_bind (steady.moves_of_quiet (.leave _)) fun _ =>
    steady.moves_bind (h _ _ _) fun ⟨answer, log⟩ => steady.moves_of_quiet ?_
  cases answer with
  | ok output => exact dispatcher.tell_quiet _ _ _
  | error error => exact dispatcher.tell_quiet _ _ _

theorem unwind_moves (steady : dispatcher.Steady later)
    (h : ∀ caller step log, (perform caller step log).Moves later start)
    (entries log : List (Entry V)) :
    (dispatcher.unwind perform caller entries log).Moves later start := by
  induction entries generalizing log with
  | nil => exact steady.moves_of_quiet (.pure _)
  | cons entry older ih =>
    refine steady.moves_bind (compensate_moves steady h entry log) fun ⟨failure, log⟩ => ?_
    cases failure with
    | none => exact ih log
    | some error =>
      dsimp only
      cases dispatcher.settings.rollback with
      | stopOnFailure => exact steady.moves_of_quiet (.pure _)
      | bestEffort => exact steady.moves_bind (ih log) fun _ => steady.moves_of_quiet (.pure _)

theorem rollbackError_quiet (caller : Caller) (error : DispatchError)
    (errors : List DispatchError) :
    (rollbackError caller error errors : Run V DispatchError).Quiet := by
  cases errors with
  | nil => exact .bind (.leave _) fun _ => .pure _
  | cons first others => exact .pure _

theorem openContext_quiet (session : Option String) : (openContext session : Run V Caller).Quiet :=
  fun state => ⟨_, state.channels, _, [], rfl⟩

theorem request_moves (steady : dispatcher.Steady later)
    (h : ∀ caller step log, (perform caller step log).Moves later start) (session : Option String)
    (step : Step V) : (dispatcher.request perform session step).Moves later start := by
  refine steady.moves_bind ?_ fun ⟨caller, answer, log⟩ => ?_
  · refine steady.moves_bind (steady.moves_of_quiet (openContext_quiet session)) fun caller =>
      steady.moves_bind (steady.moves_of_quiet (.leave _)) fun _ =>
      steady.moves_bind (steady.moves_of_quiet (dispatcher.emit_quiet _)) fun _ =>
      steady.moves_bind (h caller step []) fun _ => steady.moves_of_quiet (.pure _)
  · refine steady.moves_bind ?_ fun _ => steady.moves_of_quiet (.bind (.leave _) fun _ => .pure _)
    cases answer with
    | ok output => exact steady.moves_of_quiet (.bind (dispatcher.emit_quiet _) fun _ => .pure _)
    | error error =>
      refine steady.moves_bind ?_ fun _ =>
        steady.moves_of_quiet (.bind (dispatcher.emit_quiet _) fun _ => .pure _)
      unfold rollback
      split
      · exact steady.moves_of_quiet (.pure _)
      · refine steady.moves_bind (steady.moves_of_quiet (.leave _)) fun _ =>
          steady.moves_bind (steady.moves_of_quiet (dispatcher.emit_quiet _)) fun _ =>
          steady.moves_bind (unwind_moves steady h _ _) fun errors => steady.moves_of_quiet ?_
        exact rollbackError_quiet caller error errors

/-- Whatever the depth, what a handler asks of the dispatcher leads to later states. -/
theorem callsAt_move (divided : dispatcher.Divided leaf later start)
    (steady : dispatcher.Steady later) (depth : Nat) :
    (dispatcher.callsAt depth).Move later start := by
  induction depth with
  | zero => exact ⟨fun _ _ _ => moves_cut, fun _ _ => moves_cut⟩
  | succ depth ih =>
    exact ⟨fun _ => perform_moves divided steady ih,
      request_moves steady fun _ => perform_moves divided steady ih⟩

end Dispatcher

end ActionDispatch
