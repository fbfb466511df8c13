import ActionDispatch.Proofs.Comparison
import ActionDispatch.Proofs.Twins
import ActionDispatch.Proofs.Widgets

/-!
# The two shapes of registry

A builder makes validators while it builds, or has them made on first use. Nobody can tell the two
dispatchers apart who asks them for requests only: there are the same answers, handler calls, session
checks and events, even if validators change with every check (`Builder.shapes_alike`). The two differ
in which instances there are, and in when they are made.
-/

namespace ActionDispatch

variable {V : Vocabulary} {α : Type} {old : Nat}

/-- The act leaves the registry of validators alone, which a builder hands to nobody, and asks no
instance but one of the first, which are shared. -/
def Act.Confined (old : Nat) : Act V → Prop
  | .check id _ => id.index < old
  | .makeValidator _ | .addValidator .. | .removeValidator _ | .addClass .. | .removeClass ..
  | .countCached | .clearValidators | .findValidator _ => False
  | _ => True

/-- The states are the same but for their validators, and these are twins. -/
inductive State.Paired (old : Nat) : State V → State V → Prop
  | intro {state table registry other} (guards : state.validators = .upFront table)
      (twins : Twins old table state.store registry other) :
      Paired old state { state with validators := .onDemand registry, store := other }

/-- The outcomes are the same but for which instances there are and when they are made. -/
abbrev Outcome.Twinned (old : Nat) (out other : Outcome V α) : Prop :=
  out.Mirrors (State.Paired old) Moment.anonymous? other

abbrev Run.Twinned (old : Nat) (run other : Run V α) : Prop :=
  run.Mirrors (State.Paired old) Moment.anonymous? other

/-- The run does not depend on validators, and leaves them as they are. -/
def Run.IgnoresGuards (run : Run V α) : Prop :=
  ∀ validators store, run.Ignores fun state => { state with validators, store }

theorem Run.IgnoresGuards.twinned {run : Run V α} (h : run.IgnoresGuards) : run.Twinned old run := by
  rintro state _ @⟨table, registry, other, guards, twins⟩
  have kept : run state = { run state with
      state := { (run state).state with validators := state.validators, store := state.store } } :=
    h state.validators state.store state
  have later : run { state with validators := .onDemand registry, store := other } = { run state with
      state := { (run state).state with validators := .onDemand registry, store := other } } :=
    h (.onDemand registry) other state
  have guards' : (run state).state.validators = .upFront table := by
    rw [kept]
    exact guards
  have twins' : Twins old table (run state).state.store registry other := by
    rw [kept]
    exact twins
  rw [later]
  exact ⟨rfl, .intro guards' twins', rfl⟩

/-! ### Session checks -/

/-- Instances that stand for each other give the same answer, and still do so afterwards. -/
theorem Application.ask_twinned (app : Application V) (state : State V) {table : InstanceTable V}
    {registry : OnDemandRegistry V} {other : ValidatorStore V} {id id' : InstanceId}
    (guards : state.validators = .upFront table) (twins : Twins old table state.store registry other)
    (parts : Counterparts old table registry.instances id id') (caller : Option Caller)
    (session : Option String) :
    (app.ask caller id session state).Twinned old
      (app.ask caller id' session { state with validators := .onDemand registry, store := other }) := by
  rw [ask_apply, ask_apply]
  unfold verdict
  dsimp only
  rw [twins.get?_eq parts]
  cases state.store.get? id with
  | none => exact ⟨rfl, .intro guards twins, rfl⟩
  | some validator => exact ⟨rfl, .intro guards (twins.set parts _), rfl⟩

theorem Application.act_twinned (app : Application V) {act : Act V} (confined : act.Confined old) :
    (app.act act).Twinned old (app.act act) := by
  cases act with
  | check id session =>
    rintro state _ ⟨guards, twins⟩
    exact app.ask_twinned _ guards twins (.shared confined) none session
  | makeValidator | addValidator | removeValidator | addClass | removeClass | countCached
  | clearValidators | findValidator => exact confined.elim
  | addHandler | removeHandler | clearHandlers | countHandlers | findHandler | change | note =>
    exact Run.IgnoresGuards.twinned fun _ _ _ => rfl

namespace Dispatcher

theorem deliver_ignores (event : Event) (sink : Sink) :
    (deliver event sink : Run V Unit).IgnoresGuards := by
  intro validators store state
  cases sink with
  | channel index =>
    dsimp only [deliver]
    rw [Run.state_bind_apply, Run.state_bind_apply]
    dsimp only
    cases state.channels[index]? <;> rfl
  | tracing | observer => rfl

theorem emit_ignores (dispatcher : Dispatcher V) (event : Event) :
    (dispatcher.emit event).IgnoresGuards := by
  intro validators store
  refine .bind (.leave _) fun _ => ?_
  induction dispatcher.sinks with
  | nil => exact .pure ()
  | cons sink sinks ih => exact .bind (deliver_ignores event sink validators store) fun _ => ih

variable (app : Application V) (settings : Settings) (sinks : List Sink)

/-- Whether a step is admitted follows from what the registries of a state have for its type. -/
theorem vet_registered (caller : Caller) (kind : V.Kind) (state : State V) :
    ({ app, settings, sinks } : Dispatcher V).vet caller kind state =
      match (state.handlers.find? kind).bind (·.serving? kind) with
      | none => ⟨some none, state, []⟩
      | some handler =>
        let found := state.validators.find state.store kind
        let last : State V := { state with validators := found.registry, store := found.store }
        match found.instance? with
        | none => ⟨some none, last, found.moments⟩
        | some id =>
          ((app.ask caller id caller.session last).andThen fun valid =>
            pure (some (handler, valid))).after (found.moments ++ [.resolved caller kind id]) := by
  unfold vet
  rw [Run.bind_apply, resolve_apply]
  dsimp only [handlerAt, afterHandler, validatorAt, afterValidator, HandlerLookup.registered,
    ValidatorLookup.registered]
  cases (state.handlers.find? kind).bind (·.serving? kind) with
  | none => rfl
  | some handler =>
    dsimp only
    cases (state.validators.find state.store kind).instance? with
    | none => simp [Run.pure_apply, Outcome.after]
    | some id => rfl

/-- A step is admitted by twins in the same way. -/
theorem vet_twinned (settings' : Settings) (caller : Caller) (kind : V.Kind) :
    (({ app, settings, sinks } : Dispatcher V).vet caller kind).Twinned old
      (({ app, settings := settings', sinks } : Dispatcher V).vet caller kind) := by
  rintro state _ @⟨table, registry, other, guards, twins⟩
  rw [vet_registered, vet_registered, guards]
  dsimp only
  cases (state.handlers.find? kind).bind (·.serving? kind) with
  | none => exact ⟨rfl, .intro guards twins, rfl⟩
  | some handler =>
    obtain ⟨kept, found, unseen⟩ := twins.find kind
    dsimp only [ValidatorRegistry.find]
    rcases found with ⟨nothing, nothing'⟩ | ⟨id, id', found, found', parts⟩
    · rw [nothing, nothing']
      exact ⟨rfl, .intro rfl kept, unseen⟩
    · rw [found, found']
      have asked := app.ask_twinned { state with validators := .upFront table } rfl kept parts caller
        caller.session
      refine (asked.andThen fun valid => .pure _).after ?_
      rw [List.filterMap_append, List.filterMap_append]
      exact congrArg (· ++ _) unseen

end Dispatcher

/-! ### Dispatchers -/

namespace Builder

def withRegistry (builder : Builder V) (validatorRegistry : RegistryKind) : Builder V :=
  { builder with settings := { builder.settings with validatorRegistry } }

/-- The dispatcher that a builder builds for an application. -/
def dispatcher (builder : Builder V) (app : Application V) : Dispatcher V :=
  { app, settings := builder.settings, sinks := builder.sinks }

variable {builder : Builder V} {app : Application V}

/-- Dispatchers with either shape of registry are alike. -/
theorem dispatcher_alike (builder : Builder V)
    (confined : ∀ step handler, (app.program step handler).Acts (Act.Confined old)) :
    Dispatcher.Alike (.mirror (State.Paired old) Moment.anonymous?) (Act.Confined old)
      ((builder.withRegistry .upFront).dispatcher app)
      ((builder.withRegistry .onDemand).dispatcher app) where
  program _ _ := rfl
  acts := confined
  act _ confined := app.act_twinned confined
  leave m _ := .leave [m]
  openContext _ := Run.IgnoresGuards.twinned fun _ _ _ => rfl
  emit event := (Dispatcher.emit_ignores _ event).twinned
  vet caller kind := Dispatcher.vet_twinned _ _ _ _ caller kind
  undo := .inl rfl
  rollback := .inl rfl

/-- Both shapes of registry can be built, and the states to start from are the same but for twins. -/
theorem build_twins {store : ValidatorStore V}
    (serves : ∀ binding ∈ builder.bindings,
      builder.factory.Serves store.instances.length binding.guardedBy)
    (app : Application V) (channels : List Channel) (world : V.World) :
    ∃ state state', State.Paired store.instances.length state state' ∧
      ((builder.withRegistry .upFront).build app store channels world).answer =
        .ok ((builder.withRegistry .upFront).dispatcher app, state) ∧
      ((builder.withRegistry .onDemand).build app store channels world).answer =
        .ok ((builder.withRegistry .onDemand).dispatcher app, state') := by
  let registry : OnDemandRegistry V := { factory := builder.factory }
  have twins : Twins store.instances.length .empty store registry store :=
    ⟨Nat.le_refl _, Nat.le_refl _, fun _ _ => rfl, fun _ => .unbound, fun _ _ _ hk => (nomatch hk),
      fun _ _ _ hk => (nomatch hk)⟩
  obtain ⟨table, store', moments, linked, twins⟩ := twins.link (fun _ => rfl) serves
  have linked : linkInstances builder.factory builder.bindings .empty store = _ := linked
  let handlers := (linkHandlers builder.bindings .empty).1
  let state : State V :=
    { handlers, validators := .upFront table, store := store', channels, requests := 0, world }
  refine ⟨state, _, .intro rfl twins, ?_, rfl⟩
  unfold build linkValidators withRegistry
  dsimp only
  rw [linked]
  rfl

/-- Whatever steps led to the builder, both shapes of registry can be built, and whatever clients do, they
make no difference to the answers, the handler calls, the session checks and the events. The factory may
make instances or share them, and no instance needs to answer twice in the same way. -/
theorem shapes_alike {store : ValidatorStore V}
    (serves : ∀ binding ∈ builder.bindings,
      builder.factory.Serves store.instances.length binding.guardedBy)
    (confined : ∀ step handler,
      (app.program step handler).Acts (Act.Confined store.instances.length))
    (channels : List Channel) (world : V.World) :
    ∃ dispatcher state dispatcher' state',
      ((builder.withRegistry .upFront).build app store channels world).answer =
        .ok (dispatcher, state) ∧
      ((builder.withRegistry .onDemand).build app store channels world).answer =
        .ok (dispatcher', state') ∧
      ∀ depth (moves : List (Move V)),
        (∀ act, .act act ∈ moves → act.Confined store.instances.length) →
        (dispatcher.serve depth moves state).Twinned store.instances.length
          (dispatcher'.serve depth moves state') := by
  obtain ⟨state, state', paired, built, built'⟩ := build_twins serves app channels world
  refine ⟨_, state, _, state', built, built', fun depth moves confined' => ?_⟩
  have alike := dispatcher_alike builder confined
  refine alike.serve (fun h => Run.Mirrors.cut h) depth confined' (fun index _ => ?_) paired
  exact Run.IgnoresGuards.twinned fun _ _ _ => rfl

open Widgets

/-- A handler behind a gate that lets through so often. -/
def gated (job : Job) (often : Nat) : Configuration (vocabulary Nat) :=
  .bind ⟨⟨job, ()⟩, .ofInitial () often⟩

/-- Creating widgets is bound twice, the second time in a module that another one installs. -/
def turnstiles : Builder (vocabulary Nat) := .ofSteps
  [.sink (.channel 0), .install (gated .create 9),
    .install (.install [gated .delete 1, .install [gated .create 2]])]

/-- Three times somebody wants to create widgets. -/
def queue : List (Move (vocabulary Nat)) :=
  [.request (some "user") (execution .create 2), .request (some "user") (execution .create 1),
    .request (some "user") (execution .create 5)]

/-- Handlers of widgets change the world, and perform steps. -/
theorem application_confined {Gate : Type} {check : Gate → Option String → Bool × Gate}
    (step : Step (vocabulary Gate)) (handler : (vocabulary Gate).Handler step.kind) :
    ((application check).program step handler).Acts (Act.Confined old) := by
  cases step with
  | execute kind input =>
    cases kind with
    | create | delete => exact ⟨trivial, fun _ => trivial⟩
    | replace => rintro (_ | _) <;> first | trivial | exact fun _ => trivial
  | undo kind input output =>
    cases kind with
    | create | delete => exact ⟨trivial, fun _ => trivial⟩
    | replace => trivial

/-- The third one is refused by both. -/
theorem turnstiles_alike :
    (∀ binding ∈ turnstiles.bindings,
        turnstiles.factory.Serves ({} : ValidatorStore (vocabulary Nat)).instances.length
          binding.guardedBy) ∧
      (∀ step handler, ((application turnstile).program step handler).Acts
        (Act.Confined ({} : ValidatorStore (vocabulary Nat)).instances.length)) ∧
      ∃ dispatcher state dispatcher' state',
        ((turnstiles.withRegistry .upFront).build (application turnstile) {} [{}] (0 : Int)).answer =
          .ok (dispatcher, state) ∧
        ((turnstiles.withRegistry .onDemand).build (application turnstile) {} [{}] (0 : Int)).answer =
          .ok (dispatcher', state') ∧
        (dispatcher.serve 1 queue state).Twinned 0 (dispatcher'.serve 1 queue state') ∧
        count (dispatcher.serve 1 queue state).state.world = 3 := by
  have serves : ∀ binding ∈ turnstiles.bindings,
      turnstiles.factory.Serves ({} : ValidatorStore (vocabulary Nat)).instances.length
        binding.guardedBy :=
    List.forall_mem_cons.2 ⟨.inl ⟨_, fun _ => rfl⟩,
      List.forall_mem_cons.2 ⟨.inl ⟨_, fun _ => rfl⟩,
        List.forall_mem_cons.2 ⟨.inl ⟨_, fun _ => rfl⟩, fun _ h => (nomatch h)⟩⟩⟩
  obtain ⟨dispatcher, state, dispatcher', state', built, built', alike⟩ :=
    shapes_alike serves application_confined [{}] (0 : Int)
  refine ⟨serves, application_confined, dispatcher, state, dispatcher', state', built, built',
    alike 1 queue (by simp [queue]), ?_⟩
  cases built
  rfl

end Builder

end ActionDispatch
