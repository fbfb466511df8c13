import ActionDispatch.Proofs.Conduct

/-!
# Steadiness

A dispatcher is steady when a step that was admitted once is admitted ever after, to the same
handler: nothing changes in the registries that has been found there, and validators judge by the
session alone. `registered_steady` shows it for registries of both shapes, whatever the factory, if
validators do judge by the session.
-/

namespace ActionDispatch

variable {V : Vocabulary} {α β : Type}

namespace Dispatcher

/-- In this state the registries give this handler for the action type, and a validator that accepts
the session. -/
def Clears (dispatcher : Dispatcher V) (state : State V) (session : Option String) (kind : V.Kind)
    (handler : V.Handler kind) : Prop :=
  dispatcher.handlerAt state kind = some handler ∧
    ∃ id, (dispatcher.validatorAt state kind).found.instance? = some id ∧
      (dispatcher.app.verdict (dispatcher.afterValidator state kind) id session).1 = true

/-- What the dispatcher itself does leads from a state to a later one, and what was admitted once is
so in every later state. -/
structure Steady (dispatcher : Dispatcher V) (later : State V → State V → Prop) : Prop where
  trans : ∀ {state middle last}, later state middle → later middle last → later state last
  /-- The delivery of events, and the count of requests, make no difference. -/
  quiet : ∀ state channels requests, later state { state with channels, requests }
  handler : ∀ state kind, later state (dispatcher.afterHandler state kind)
  validator : ∀ state kind, later state (dispatcher.afterValidator state kind)
  verdict : ∀ state id session, later state (dispatcher.app.verdict state id session).2
  again : ∀ {caller step handler state way admitted last},
    dispatcher.Admission caller step handler state way admitted → later admitted last →
    dispatcher.Clears last caller.session step.kind handler

/-- A step that is cleared reaches its handler. -/
theorem Clears.invoked {dispatcher : Dispatcher V} {calls : Calls V} {caller : Caller}
    {step : Step V} {handler : V.Handler step.kind} {log : List (Entry V)} {state last : State V}
    {logged : Logged V step.Result} {moments : List (Moment V)}
    (clears : dispatcher.Clears state caller.session step.kind handler)
    (h : dispatcher.perform calls caller step log state = ⟨some logged, last, moments⟩) :
    ∃ way admitted own, dispatcher.Admission caller step handler state way admitted ∧
      dispatcher.invoke calls caller step handler log admitted = ⟨some logged, last, own⟩ ∧
      moments = way ++ own := by
  obtain ⟨served, id, guarded, accepted⟩ := clears
  have conduct := dispatcher.perform_conduct calls caller step log state
  generalize dispatcher.perform calls caller step log state = out at h conduct
  cases conduct with
  | unserved unserved => cases served.symm.trans unserved
  | unguarded unguarded => cases guarded.symm.trans unguarded
  | refused guarded' refused =>
    obtain rfl := Option.some.inj (guarded.symm.trans guarded')
    cases accepted.symm.trans refused
  | @invoked handler' way admitted admission =>
    rw [Outcome.after_eq_some_iff] at h
    obtain ⟨own, hinvoke, rfl⟩ := h
    obtain rfl : handler' = handler := by
      obtain ⟨served', -, -⟩ := admission
      exact Option.some.inj (served'.symm.trans served)
    exact ⟨way, admitted, own, admission, hinvoke, rfl⟩

end Dispatcher

/-! ### Quiet runs -/

/-- The run finishes, and changes nothing but the channels and the count of requests. -/
def Run.Quiet (run : Run V α) : Prop :=
  ∀ state, ∃ a channels requests moments,
    run state = ⟨some a, { state with channels, requests }, moments⟩

namespace Run.Quiet

theorem pure (a : α) : (Pure.pure a : Run V α).Quiet := fun state =>
  ⟨a, state.channels, state.requests, [], rfl⟩

theorem leave (moments : List (Moment V)) : (Run.leave moments).Quiet := fun state =>
  ⟨(), state.channels, state.requests, moments, rfl⟩

theorem bind {run : Run V α} {f : α → Run V β} (h : run.Quiet) (hf : ∀ a, (f a).Quiet) :
    (run >>= f).Quiet := by
  intro state
  obtain ⟨a, channels, requests, before, h⟩ := h state
  obtain ⟨b, channels, requests, after, hb⟩ := hf a { state with channels, requests }
  refine ⟨b, channels, requests, before ++ after, ?_⟩
  rw [Run.bind_apply, h, Outcome.andThen_some, hb]
  rfl

theorem world_eq {run : Run V α} (h : run.Quiet) {a : α} {state last : State V}
    {moments : List (Moment V)} (hrun : run state = ⟨some a, last, moments⟩) :
    last.world = state.world := by
  obtain ⟨_, _, _, _, hquiet⟩ := h state
  cases hrun.symm.trans hquiet
  rfl

end Run.Quiet

namespace Dispatcher

theorem deliver_quiet (event : Event) (sink : Sink) : (deliver event sink : Run V Unit).Quiet := by
  intro state
  cases sink with
  | channel index =>
    dsimp only [deliver]
    rw [Run.state_bind_apply]
    cases state.channels[index]? with
    | none => exact ⟨_, _, _, _, rfl⟩
    | some channel => exact ⟨_, _, _, _, rfl⟩
  | tracing => exact Run.Quiet.leave _ state
  | observer index => exact Run.Quiet.leave _ state

theorem emit_quiet (dispatcher : Dispatcher V) (event : Event) : (dispatcher.emit event).Quiet := by
  refine .bind (.leave _) fun _ => ?_
  induction dispatcher.sinks with
  | nil => exact .pure ()
  | cons sink sinks ih => exact .bind (deliver_quiet event sink) fun _ => ih

theorem tell_quiet (dispatcher : Dispatcher V) (record : LogRecord) (event : Event) (a : α) :
    (do Run.log record; dispatcher.emit event; pure a : Run V α).Quiet :=
  .bind (.leave _) fun _ => .bind (dispatcher.emit_quiet event) fun _ => .pure a

theorem refuse_quiet (dispatcher : Dispatcher V) (caller : Caller) (step : Step V) :
    (dispatcher.refuse caller step).Quiet := by
  cases step with
  | execute kind input =>
    exact .bind (.leave _) fun _ => .bind (dispatcher.emit_quiet _) fun _ => .pure _
  | undo kind input output =>
    refine .bind (dispatcher.emit_quiet _) fun _ => ?_
    cases dispatcher.settings.unauthorizedUndo with
    | ignore => exact .bind (.leave _) fun _ => .pure _
    | reject => exact .bind (.leave _) fun _ => .pure _

theorem record_quiet (dispatcher : Dispatcher V) (caller : Caller) (step : Step V)
    (logged : Logged V step.Result) : (dispatcher.record caller step logged).Quiet := by
  obtain ⟨answer, log⟩ := logged
  refine .bind (.leave _) fun _ => ?_
  cases answer with
  | ok output => exact .bind (dispatcher.emit_quiet _) fun _ => .pure _
  | error error => exact .pure _

end Dispatcher

/-! ### The registries -/

/-- The instance that a registry holds for an action type, without making one. -/
def ValidatorRegistry.held? : ValidatorRegistry V → V.Kind → Option InstanceId
  | .upFront instances, kind => instances.find? kind
  | .onDemand registry, kind => registry.instances.find? kind

namespace ValidatorRegistry

variable {registry : ValidatorRegistry V} {store : ValidatorStore V} {kind : V.Kind}
  {id : InstanceId}

/-- What is held is found, and nothing is made. -/
theorem find_of_held (h : registry.held? kind = some id) :
    registry.find store kind = ⟨some id, registry, store, []⟩ := by
  cases registry with
  | upFront instances =>
    have h : instances.find? kind = some id := h
    simp [find, h]
  | onDemand registry =>
    have h : registry.instances.find? kind = some id := h
    simp [find, OnDemandRegistry.find, h]

/-- What is found is held afterwards. -/
theorem held_of_find (h : (registry.find store kind).instance? = some id) :
    (registry.find store kind).registry.held? kind = some id := by
  cases registry with
  | upFront instances => exact h
  | onDemand registry =>
    simp only [find, OnDemandRegistry.find, held?] at h ⊢
    split at h
    · next held => exact held.trans h
    · split at h
      · cases h
      · split at h
        · rw [Table.find?_insert, if_pos rfl]
          exact h
        · cases h

/-- Looking for one instance lets go of no other. -/
theorem held_find {other : V.Kind} (h : registry.held? other = some id) :
    (registry.find store kind).registry.held? other = some id := by
  cases registry with
  | upFront instances => exact h
  | onDemand registry =>
    simp only [find, OnDemandRegistry.find, held?] at h ⊢
    split
    · exact h
    · next unheld =>
      split
      · exact h
      · split
        · have ne : other ≠ kind := by
            rintro rfl
            rw [h] at unheld
            cases unheld
          rw [Table.find?_insert, if_neg ne]
          exact h
        · exact h

/-- Nor does it change an instance. -/
theorem get?_find {validator : V.Validator} (h : store.get? id = some validator) :
    (registry.find store kind).store.get? id = some validator := by
  cases registry with
  | upFront instances => exact h
  | onDemand registry =>
    simp only [find, OnDemandRegistry.find]
    split
    · exact h
    · split
      · exact h
      · next c _ =>
        have kept : (store.create registry.factory c).2.get? id = some validator := by
          unfold ValidatorStore.create
          split
          · exact h
          · exact h
          · obtain ⟨lt, -⟩ := List.getElem?_eq_some_iff.1 h
            exact (List.getElem?_append_left lt).trans h
        split
        · next created =>
          rw [created] at kept
          exact kept
        · next created =>
          rw [created] at kept
          exact kept

end ValidatorRegistry

/-- Validators judge by the session: not by the world, and nothing that they are asked changes their
judgement. -/
def Application.JudgesBySession (app : Application V) (judge : V.Validator → Option String → Bool) :
    Prop :=
  ∀ validator session world, (app.check validator session world).1 = judge validator session ∧
    judge (app.check validator session world).2 = judge validator

/-- The handlers stay, held instances stay held, and every instance judges as before. -/
structure State.Keeps (judge : V.Validator → Option String → Bool) (state later : State V) :
    Prop where
  handlers : later.handlers = state.handlers
  held : ∀ kind id, state.validators.held? kind = some id → later.validators.held? kind = some id
  judged : ∀ id validator, state.store.get? id = some validator →
    ∃ validator', later.store.get? id = some validator' ∧ judge validator' = judge validator

variable {app : Application V} {judge : V.Validator → Option String → Bool}

namespace State.Keeps

theorem rfl {state : State V} : state.Keeps judge state :=
  ⟨Eq.refl _, fun _ _ h => h, fun _ validator h => ⟨validator, h, Eq.refl _⟩⟩

theorem trans {state middle last : State V} (h : state.Keeps judge middle)
    (h' : middle.Keeps judge last) :
    state.Keeps judge last := by
  refine ⟨h'.handlers.trans h.handlers,
    fun kind id held => h'.held kind id (h.held kind id held), ?_⟩
  intro id validator hget
  obtain ⟨validator', hget', same⟩ := h.judged id validator hget
  obtain ⟨validator'', hget'', same'⟩ := h'.judged id validator' hget'
  exact ⟨validator'', hget'', same'.trans same⟩

/-- Looking for a validator keeps everything. -/
theorem find (state : State V) (kind : V.Kind) :
    state.Keeps judge { state with
      validators := (state.validators.find state.store kind).registry
      store := (state.validators.find state.store kind).store } :=
  ⟨Eq.refl _, fun _ _ held => ValidatorRegistry.held_find held,
    fun _ validator hget => ⟨validator, ValidatorRegistry.get?_find hget, Eq.refl _⟩⟩

end State.Keeps

namespace Application.JudgesBySession

/-- Asking a validator keeps everything. -/
theorem keeps (h : app.JudgesBySession judge) (state : State V) (id : InstanceId)
    (session : Option String) : state.Keeps judge (app.verdict state id session).2 := by
  unfold verdict
  cases hget : state.store.get? id with
  | none => exact .rfl
  | some validator =>
    refine ⟨rfl, fun _ _ held => held, fun other validator' hother => ?_⟩
    by_cases same : id = other
    · subst same
      obtain rfl : validator = validator' := Option.some.inj (hget.symm.trans hother)
      obtain ⟨lt, -⟩ := List.getElem?_eq_some_iff.1 hget
      exact ⟨_, List.getElem?_set_self lt, (h validator session state.world).2⟩
    · have ne : id.index ≠ other.index := fun index => same (congrArg InstanceId.mk index)
      exact ⟨validator', (List.getElem?_set_ne ne).trans hother, rfl⟩

/-- An accepted session is one that the instance judges so. -/
theorem verdict_eq_true_iff (h : app.JudgesBySession judge) {state : State V} {id : InstanceId}
    {session : Option String} :
    (app.verdict state id session).1 = true ↔
      ∃ validator, state.store.get? id = some validator ∧ judge validator session = true := by
  unfold verdict
  cases hget : state.store.get? id with
  | none => simp
  | some validator => simp [(h validator session state.world).1]

end Application.JudgesBySession

/-- The registries are steady if validators judge by the session. -/
theorem Dispatcher.registered_steady {dispatcher : Dispatcher V}
    (handlers : dispatcher.handlerFor = .registered)
    (validators : dispatcher.validatorFor = .registered)
    (judges : dispatcher.app.JudgesBySession judge) : dispatcher.Steady (State.Keeps judge) := by
  obtain ⟨app, settings, sinks, handlerFor, validatorFor⟩ := dispatcher
  obtain rfl : handlerFor = .registered := handlers
  obtain rfl : validatorFor = .registered := validators
  refine ⟨State.Keeps.trans, fun _ _ _ => ⟨rfl, fun _ _ h => h, fun _ v h => ⟨v, h, rfl⟩⟩,
    fun _ _ => .rfl, fun state kind => .find state kind, judges.keeps, ?_⟩
  intro caller step handler state way admitted last admission keeps
  obtain ⟨served, guarded, accepted⟩ := admission
  have kept := (judges.keeps _ _ _).trans keeps
  obtain ⟨validator, hget, hjudge⟩ := judges.verdict_eq_true_iff.1 accepted
  obtain ⟨validator', hget', same⟩ := kept.judged _ validator hget
  have found :
      last.validators.find last.store step.kind = ⟨some _, last.validators, last.store, []⟩ :=
    ValidatorRegistry.find_of_held (kept.held _ _ (ValidatorRegistry.held_of_find guarded))
  have same_state : Dispatcher.afterValidator ⟨app, settings, sinks, .registered, .registered⟩
      last step.kind = last := by
    simp [Dispatcher.afterValidator, Dispatcher.validatorAt, Dispatcher.afterHandler,
      HandlerLookup.registered, ValidatorLookup.registered, found]
  constructor
  · have handlers : last.handlers = state.handlers := kept.handlers
    simp only [Dispatcher.handlerAt, HandlerLookup.registered, handlers] at served ⊢
    exact served
  · refine ⟨_, congrArg Found.instance? found, ?_⟩
    rw [same_state]
    exact judges.verdict_eq_true_iff.2 ⟨validator', hget',
      (congrFun same caller.session).trans hjudge⟩

/-- The acts that change what is registered. -/
def Act.registers : Act V → Bool
  | .addHandler _ | .removeHandler _ | .clearHandlers | .addValidator .. | .removeValidator _ |
    .addClass .. | .removeClass .. | .clearValidators => true
  | _ => false

/-- Every other act keeps everything. -/
theorem Application.JudgesBySession.act_keeps (judges : app.JudgesBySession judge) {act : Act V}
    (h : act.registers = false) (state : State V) :
    state.Keeps judge (app.act act state).state := by
  cases act with
  | addHandler | removeHandler | clearHandlers | addValidator | removeValidator | addClass |
    removeClass | clearValidators => cases h
  | countHandlers | findHandler | countCached | change | note =>
    exact ⟨rfl, fun _ _ h => h, fun _ v h => ⟨v, h, rfl⟩⟩
  | makeValidator validator =>
    refine ⟨rfl, fun _ _ h => h, fun id validator' hget => ⟨validator', ?_, rfl⟩⟩
    obtain ⟨lt, -⟩ := List.getElem?_eq_some_iff.1 hget
    exact (List.getElem?_append_left lt).trans hget
  | findValidator kind => exact .find state kind
  | check id session => exact judges.keeps state id session

end ActionDispatch
