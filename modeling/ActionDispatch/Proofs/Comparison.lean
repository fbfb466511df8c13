import ActionDispatch.Dispatcher.Request

/-!
# Comparing runs

A comparison is a relation on runs that is kept when runs follow each other. Two dispatchers are alike
under it when they are so at every place where they act: at lookups and session checks, at the
emission of events, at acts outside of requests, and at the two places where a setting decides.
Then whatever handlers and clients do with them compares as well (`Alike.callsAt`, `Alike.run`,
`Alike.serve`). A property of single runs is a comparison that looks at one of the two runs only, and
`Comparison.mirror` is the one of simulations.
-/

namespace ActionDispatch

variable {V : Vocabulary} {α β : Type}

/-- A way to compare runs that is kept when they follow each other. -/
structure Comparison (V : Vocabulary) where
  Alike : {α : Type} → Run V α → Run V α → Prop
  pure : ∀ {α : Type} (a : α), Alike (Pure.pure a : Run V α) (Pure.pure a)
  bind : ∀ {α β : Type} {run other : Run V α} {f g : α → Run V β}, Alike run other →
    (∀ a, Alike (f a) (g a)) → Alike (run >>= f) (other >>= g)

/-- A program whose acts are all of this sort. -/
def Program.Acts (sort : Act V → Prop) : Program V α → Prop
  | .done _ => True
  | .perform _ next => ∀ answer, (next answer).Acts sort
  | .request _ _ next => ∀ answer, (next answer).Acts sort
  | .look next => ∀ view, (next view).Acts sort
  | .act outside next => sort outside ∧ ∀ result, (next result).Acts sort

theorem Program.acts_of_all {sort : Act V → Prop} (all : ∀ act, sort act) (program : Program V α) :
    program.Acts sort := by
  induction program with
  | done answer => trivial
  | perform step next ih => exact ih
  | request session step next ih => exact ih
  | look next ih => exact ih
  | act act next ih => exact ⟨all act, ih⟩

/-- Whatever a handler asks of the dispatcher compares. -/
structure Calls.Alike (comparison : Comparison V) (calls others : Calls V) : Prop where
  perform : ∀ caller step log,
    comparison.Alike (calls.perform caller step log) (others.perform caller step log)
  request : ∀ session step,
    comparison.Alike (calls.request session step) (others.request session step)

namespace Dispatcher

/-- The handler for an action type, and whether its validator accepts the caller, if there are
both. -/
def vet (dispatcher : Dispatcher V) (caller : Caller) (kind : V.Kind) :
    Run V (Option (V.Handler kind × Bool)) := do
  match ← dispatcher.resolve caller kind with
  | none => pure none
  | some (handler, id) =>
    let valid ← dispatcher.app.ask caller id caller.session
    pure (some (handler, valid))

/-- What follows the admission to a step. -/
def proceed (dispatcher : Dispatcher V) (calls : Calls V) (caller : Caller) (step : Step V)
    (log : List (Entry V)) : Option (V.Handler step.kind × Bool) → Run V (Logged V step.Result)
  | none => pure (.error (.unsupportedAction step.name), log)
  | some (handler, true) => do
    Run.log (step.begun caller.request)
    dispatcher.invoke calls caller step handler log
  | some (_, false) => do pure (← dispatcher.refuse caller step, log)

theorem perform_eq (dispatcher : Dispatcher V) (calls : Calls V) (caller : Caller) (step : Step V)
    (log : List (Entry V)) :
    dispatcher.perform calls caller step log =
      dispatcher.vet caller step.kind >>= dispatcher.proceed calls caller step log := by
  unfold perform vet
  rw [bind_assoc]
  refine bind_congr fun resolved => ?_
  rcases resolved with _ | ⟨handler, id⟩
  · rfl
  · simp only [bind_assoc, pure_bind]
    refine bind_congr fun valid => ?_
    cases valid <;> rfl

/-- The report of a turn of a rollback. -/
def report (dispatcher : Dispatcher V) (caller : Caller) (entry : Entry V) {α : Type}
    (answer : Answer α) : Run V Unit :=
  match answer with
  | .ok _ => do
    Run.log (.stepSucceeded entry.name (!entry.executed))
    dispatcher.emit (.rollbackStepCompleted caller.request entry.name (!entry.executed) true)
  | .error error => do
    Run.log (.stepFailed entry.name (!entry.executed) error.message)
    dispatcher.emit (.rollbackStepCompleted caller.request entry.name (!entry.executed) false)

/-- How a rollback goes on after a turn that had this answer. -/
def goOn (dispatcher : Dispatcher V) (perform : Performing V) (caller : Caller)
    (older : List (Entry V)) {α : Type} : Answer α × List (Entry V) → Run V (List DispatchError)
  | (.ok _, log) => dispatcher.unwind perform caller older log
  | (.error error, log) =>
    match dispatcher.settings.rollback with
    | .stopOnFailure => pure [error]
    | .bestEffort => do pure (error :: (← dispatcher.unwind perform caller older log))

/-- A rollback turns to an entry, performs the step that takes it back, reports, and goes on. -/
theorem unwind_cons (dispatcher : Dispatcher V) (perform : Performing V) (caller : Caller)
    (entry : Entry V) (older log : List (Entry V)) :
    dispatcher.unwind perform caller (entry :: older) log = (do
      Run.leave [.compensating caller entry]
      let logged ← perform caller entry.compensation log
      dispatcher.report caller entry logged.1
      dispatcher.goOn perform caller older logged) := by
  change (dispatcher.compensate perform caller entry log >>= _) = _
  unfold compensate
  simp only [bind_assoc]
  refine bind_congr fun _ => bind_congr fun ⟨answer, later⟩ => ?_
  cases answer with
  | ok output => simp only [report, goOn, bind_assoc, pure_bind]
  | error error =>
    cases policy : dispatcher.settings.rollback <;>
      simp only [report, goOn, policy, bind_assoc, pure_bind]

/-- The two dispatchers are alike at every place where they act, if acts are of this sort. -/
structure Alike (comparison : Comparison V) (sort : Act V → Prop) (dispatcher other : Dispatcher V) :
    Prop where
  program : ∀ step handler, other.app.program step handler = dispatcher.app.program step handler
  acts : ∀ step handler, (dispatcher.app.program step handler).Acts sort
  act : ∀ act, sort act → comparison.Alike (dispatcher.app.act act) (other.app.act act)
  /-- All moments but the emission of events are left in the same way by both. -/
  leave : ∀ m : Moment V, (∀ event, m ≠ .emitted event) →
    comparison.Alike (Run.leave [m]) (Run.leave [m])
  openContext : ∀ session, comparison.Alike (openContext session) (openContext session)
  emit : ∀ event, comparison.Alike (dispatcher.emit event) (other.emit event)
  vet : ∀ caller kind, comparison.Alike (dispatcher.vet caller kind) (other.vet caller kind)
  /-- A refused undo is answered in the same way, or what follows its event does not count. -/
  undo : other.settings.unauthorizedUndo = dispatcher.settings.unauthorizedUndo ∨
    ∀ {α : Type} request action (run run' : Run V α), comparison.Alike
      (dispatcher.emit (.rejected request action true) >>= fun _ => run)
      (other.emit (.rejected request action true) >>= fun _ => run')
  /-- A rollback goes on in the same way when a turn has failed, or what follows the event of that
  turn does not count. -/
  rollback : other.settings.rollback = dispatcher.settings.rollback ∨
    ∀ {α : Type} request action redo (run run' : Run V α), comparison.Alike
      (dispatcher.emit (.rollbackStepCompleted request action redo false) >>= fun _ => run)
      (other.emit (.rollbackStepCompleted request action redo false) >>= fun _ => run')

/-- Dispatchers that differ in their settings only are alike if every run is like itself, unless a
setting decides. -/
theorem Alike.of_refl (comparison : Comparison V)
    (refl : ∀ {α : Type} (run : Run V α), comparison.Alike run run) (dispatcher : Dispatcher V)
    (settings : Settings)
    (undo : settings.unauthorizedUndo = dispatcher.settings.unauthorizedUndo ∨
      ∀ {α : Type} request action (run run' : Run V α), comparison.Alike
        (dispatcher.emit (.rejected request action true) >>= fun _ => run)
        (dispatcher.emit (.rejected request action true) >>= fun _ => run'))
    (rollback : settings.rollback = dispatcher.settings.rollback ∨
      ∀ {α : Type} request action redo (run run' : Run V α), comparison.Alike
        (dispatcher.emit (.rollbackStepCompleted request action redo false) >>= fun _ => run)
        (dispatcher.emit (.rollbackStepCompleted request action redo false) >>= fun _ => run')) :
    Dispatcher.Alike comparison (fun _ => True) dispatcher { dispatcher with settings } where
  program _ _ := rfl
  acts _ _ := Program.acts_of_all (fun _ => trivial) _
  act _ _ := refl _
  leave _ _ := refl _
  openContext _ := refl _
  emit _ := refl _
  vet _ _ := refl _
  undo := undo
  rollback := rollback

namespace Alike

variable {comparison : Comparison V} {sort : Act V → Prop} {dispatcher other : Dispatcher V}
  {calls others : Calls V} {ours theirs : Performing V} {caller : Caller}

theorem log (h : Dispatcher.Alike comparison sort dispatcher other) (record : LogRecord) :
    comparison.Alike (Run.log record) (Run.log record) :=
  h.leave _ fun _ => nofun

theorem interpret (h : Dispatcher.Alike comparison sort dispatcher other)
    (alike : calls.Alike comparison others) {program : Program V α} (acts : program.Acts sort)
    (log : List (Entry V)) :
    comparison.Alike (dispatcher.interpret calls caller program log)
      (other.interpret others caller program log) := by
  induction program generalizing log with
  | done answer => exact comparison.pure _
  | perform step next ih =>
    exact comparison.bind (alike.perform caller step log) fun result => ih _ (acts _) _
  | request session step next ih =>
    exact comparison.bind (alike.request session step) fun answer => ih _ (acts _) log
  | look next ih => exact comparison.bind (h.leave _ fun _ => nofun) fun _ => ih _ (acts _) log
  | act act next ih => exact comparison.bind (h.act act acts.1) fun result => ih _ (acts.2 _) log

theorem invoke (h : Dispatcher.Alike comparison sort dispatcher other)
    (alike : calls.Alike comparison others) (step : Step V) (handler : V.Handler step.kind)
    (log : List (Entry V)) :
    comparison.Alike (dispatcher.invoke calls caller step handler log)
      (other.invoke others caller step handler log) := by
  refine comparison.bind (h.leave _ fun _ => nofun) fun _ => ?_
  rw [h.program]
  refine comparison.bind (h.interpret alike (h.acts step handler) log) fun ⟨answer, later⟩ => ?_
  refine comparison.bind (h.leave _ fun _ => nofun) fun _ => ?_
  cases answer with
  | ok output => exact comparison.bind (h.emit _) fun _ => comparison.pure _
  | error error => exact comparison.pure _

theorem refuse (h : Dispatcher.Alike comparison sort dispatcher other) (step : Step V) :
    comparison.Alike (dispatcher.refuse caller step) (other.refuse caller step) := by
  cases step with
  | execute kind input =>
    exact comparison.bind (h.log _) fun _ => comparison.bind (h.emit _) fun _ => comparison.pure _
  | undo kind input output =>
    rcases h.undo with same | apart
    · refine comparison.bind (h.emit _) fun _ => ?_
      rw [same]
      cases dispatcher.settings.unauthorizedUndo with
      | ignore => exact comparison.bind (h.log _) fun _ => comparison.pure _
      | reject => exact comparison.bind (h.log _) fun _ => comparison.pure _
    · exact apart _ _ _ _

theorem perform (h : Dispatcher.Alike comparison sort dispatcher other)
    (alike : calls.Alike comparison others) (caller : Caller) (step : Step V)
    (log : List (Entry V)) :
    comparison.Alike (dispatcher.perform calls caller step log)
      (other.perform others caller step log) := by
  rw [perform_eq, perform_eq]
  refine comparison.bind (h.vet caller step.kind) fun admitted => ?_
  rcases admitted with _ | ⟨handler, _ | _⟩
  · exact comparison.pure _
  · exact comparison.bind (h.refuse step) fun _ => comparison.pure _
  · exact comparison.bind (h.log _) fun _ => h.invoke alike step handler log

theorem unwind (h : Dispatcher.Alike comparison sort dispatcher other)
    (alike : ∀ caller step log, comparison.Alike (ours caller step log) (theirs caller step log))
    (entries log : List (Entry V)) :
    comparison.Alike (dispatcher.unwind ours caller entries log)
      (other.unwind theirs caller entries log) := by
  induction entries generalizing log with
  | nil => exact comparison.pure _
  | cons entry older ih =>
    rw [unwind_cons, unwind_cons]
    refine comparison.bind (h.leave _ fun _ => nofun) fun _ =>
      comparison.bind (alike _ _ _) fun ⟨answer, later⟩ => ?_
    cases answer with
    | ok output =>
      refine comparison.bind ?_ fun _ => ih later
      exact comparison.bind (h.log _) fun _ => h.emit _
    | error error =>
      dsimp only [report]
      rw [bind_assoc, bind_assoc]
      refine comparison.bind (h.log _) fun _ => ?_
      rcases h.rollback with same | apart
      · refine comparison.bind (h.emit _) fun _ => ?_
        dsimp only [goOn]
        rw [same]
        cases dispatcher.settings.rollback with
        | stopOnFailure => exact comparison.pure _
        | bestEffort => exact comparison.bind (ih later) fun _ => comparison.pure _
      · exact apart _ _ _ _ _

theorem conclude (h : Dispatcher.Alike comparison sort dispatcher other)
    (alike : ∀ caller step log, comparison.Alike (ours caller step log) (theirs caller step log))
    (log : List (Entry V)) (answer : Answer α) :
    comparison.Alike (dispatcher.conclude ours caller log answer)
      (other.conclude theirs caller log answer) := by
  cases answer with
  | ok output => exact comparison.bind (h.emit _) fun _ => comparison.pure _
  | error error =>
    refine comparison.bind ?_ fun _ => comparison.bind (h.emit _) fun _ => comparison.pure _
    unfold Dispatcher.rollback
    split
    · exact comparison.pure _
    · refine comparison.bind (h.log _) fun _ => comparison.bind (h.emit _) fun _ =>
        comparison.bind (h.unwind alike _ _) fun errors => ?_
      cases errors with
      | nil => exact comparison.bind (h.log _) fun _ => comparison.pure _
      | cons first others => exact comparison.pure _

theorem request (h : Dispatcher.Alike comparison sort dispatcher other)
    (alike : ∀ caller step log, comparison.Alike (ours caller step log) (theirs caller step log))
    (session : Option String) (step : Step V) :
    comparison.Alike (dispatcher.request ours session step)
      (other.request theirs session step) := by
  refine comparison.bind ?_ fun ⟨caller, answer, log⟩ => ?_
  · refine comparison.bind (h.openContext session) fun caller => ?_
    refine comparison.bind (h.leave _ fun _ => nofun) fun _ => ?_
    exact comparison.bind (h.emit _) fun _ => comparison.bind (alike _ _ _) fun _ =>
      comparison.pure _
  · refine comparison.bind (h.conclude alike log answer) fun _ => ?_
    exact comparison.bind (h.leave _ fun _ => nofun) fun _ => comparison.pure _

/-- What handlers ask of two dispatchers that are alike compares, whatever the depth. -/
theorem callsAt (h : Dispatcher.Alike comparison sort dispatcher other)
    (cut : ∀ {α : Type}, comparison.Alike (Run.cut : Run V α) Run.cut) (depth : Nat) :
    (dispatcher.callsAt depth).Alike comparison (other.callsAt depth) := by
  induction depth with
  | zero => exact ⟨fun _ _ _ => cut, fun _ _ => cut⟩
  | succ depth ih => exact ⟨h.perform ih, h.request (h.perform ih)⟩

theorem run (h : Dispatcher.Alike comparison sort dispatcher other)
    (cut : ∀ {α : Type}, comparison.Alike (Run.cut : Run V α) Run.cut) (depth : Nat)
    (session : Option String) (step : Step V) :
    comparison.Alike (dispatcher.run depth session step) (other.run depth session step) :=
  (h.callsAt cut depth).request session step

/-- What clients do with two dispatchers that are alike compares. -/
theorem serve (h : Dispatcher.Alike comparison sort dispatcher other)
    (cut : ∀ {α : Type}, comparison.Alike (Run.cut : Run V α) Run.cut) (depth : Nat)
    {moves : List (Move V)} (acts : ∀ act, .act act ∈ moves → sort act)
    (drops : ∀ index, .drop index ∈ moves → comparison.Alike
      (Run.change fun state => { state with channels := state.channels.modify index Channel.drop })
      (Run.change fun state => { state with channels := state.channels.modify index Channel.drop })) :
    comparison.Alike (dispatcher.serve depth moves) (other.serve depth moves) := by
  induction moves with
  | nil => exact comparison.pure _
  | cons move moves ih =>
    have ih := ih (fun act hact => acts act (List.mem_cons_of_mem _ hact))
      fun index hindex => drops index (List.mem_cons_of_mem _ hindex)
    cases move with
    | request session step =>
      exact comparison.bind (h.run cut depth session step) fun _ =>
        comparison.bind ih fun _ => comparison.pure _
    | act act =>
      exact comparison.bind (h.act act (acts act List.mem_cons_self)) fun _ =>
        comparison.bind ih fun _ => comparison.pure _
    | drop index => exact comparison.bind (drops index List.mem_cons_self) fun _ => ih

end Alike

end Dispatcher

/-! ### Mirrors -/

/-- The outcomes have the same value, and in this view the same moments; their states are so
related. -/
structure Outcome.Mirrors (related : State V → State V → Prop) (view : Moment V → Option (Moment V))
    (out other : Outcome V α) : Prop where
  value : other.value = out.value
  state : related out.state other.state
  moments : other.moments.filterMap view = out.moments.filterMap view

/-- From states that are so related, the runs have outcomes that mirror each other. -/
def Run.Mirrors (related : State V → State V → Prop) (view : Moment V → Option (Moment V))
    (run other : Run V α) : Prop :=
  ∀ ⦃state state'⦄, related state state' → (run state).Mirrors related view (other state')

namespace Outcome.Mirrors

variable {related : State V → State V → Prop} {view : Moment V → Option (Moment V)}
  {out other : Outcome V α}

theorem after {before before' : List (Moment V)} (h : out.Mirrors related view other)
    (seen : before'.filterMap view = before.filterMap view) :
    (out.after before).Mirrors related view (other.after before') := by
  refine ⟨h.value, h.state, ?_⟩
  rw [after_moments, after_moments, List.filterMap_append, List.filterMap_append, h.moments, seen]

theorem andThen {f g : α → Run V β} (h : out.Mirrors related view other)
    (hf : ∀ a, (f a).Mirrors related view (g a)) :
    (out.andThen f).Mirrors related view (other.andThen g) := by
  obtain ⟨value, middle, before⟩ := out
  obtain ⟨value', middle', before'⟩ := other
  obtain ⟨same, states, seen⟩ := h
  obtain rfl : value' = value := same
  cases value' with
  | none => exact ⟨rfl, states, seen⟩
  | some a => exact (hf a states).after seen

end Outcome.Mirrors

namespace Run.Mirrors

variable {related : State V → State V → Prop} {view : Moment V → Option (Moment V)}

theorem pure (a : α) : (Pure.pure a : Run V α).Mirrors related view (Pure.pure a) :=
  fun _ _ h => ⟨rfl, h, rfl⟩

theorem cut : (Run.cut : Run V α).Mirrors related view Run.cut := fun _ _ h => ⟨rfl, h, rfl⟩

theorem leave (moments : List (Moment V)) :
    (Run.leave moments).Mirrors related view (Run.leave moments) := fun _ _ h => ⟨rfl, h, rfl⟩

theorem bind {run other : Run V α} {f g : α → Run V β} (h : run.Mirrors related view other)
    (hf : ∀ a, (f a).Mirrors related view (g a)) :
    (run >>= f).Mirrors related view (other >>= g) := fun _ _ hs => (h hs).andThen hf

end Run.Mirrors

/-- Runs are compared from related states on, in a view of their moments. -/
def Comparison.mirror (related : State V → State V → Prop) (view : Moment V → Option (Moment V)) :
    Comparison V where
  Alike := Run.Mirrors related view
  pure := .pure
  bind := .bind

/-! ### Invariants -/

/-- A run is looked at for whether it keeps a property of the state, also where it is cut short. -/
def Comparison.keeping (property : State V → Prop) : Comparison V where
  Alike run _ := ∀ state, property state → property (run state).state
  pure _ _ h := h
  bind {_ _ run _ f _} h hf state hstate := by
    have middle := h state hstate
    rw [Run.bind_apply]
    generalize run state = out at middle
    obtain ⟨_ | a, state', before⟩ := out
    · exact middle
    · exact hf a state' middle

/-! ### Parts of the state that a run does not depend on -/

/-- The run does the same from the edited state, and the edit is still there in the end. -/
def Run.Ignores (edit : State V → State V) (run : Run V α) : Prop :=
  ∀ state, run (edit state) = { run state with state := edit (run state).state }

namespace Run.Ignores

variable {edit : State V → State V}

theorem pure (a : α) : (Pure.pure a : Run V α).Ignores edit := fun _ => rfl

theorem leave (moments : List (Moment V)) : (Run.leave moments).Ignores edit := fun _ => rfl

theorem bind {run : Run V α} {f : α → Run V β} (h : run.Ignores edit)
    (hf : ∀ a, (f a).Ignores edit) : (run >>= f).Ignores edit := by
  intro state
  rw [bind_apply, bind_apply, h state]
  generalize run state = out
  obtain ⟨_ | a, middle, before⟩ := out
  · rfl
  · rw [Outcome.andThen_some, Outcome.andThen_some, hf a middle]
    rfl

end Run.Ignores

end ActionDispatch
