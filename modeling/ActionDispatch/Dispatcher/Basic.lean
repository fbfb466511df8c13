import ActionDispatch.Run
import ActionDispatch.Settings.Basic

/-!
# Dispatchers

A dispatcher joins an application's code with settings, sinks and a way to look things up in the
registries. It holds nothing that changes; what changes is the state of a run.
-/

namespace ActionDispatch

/-- The code of an application: what its handlers do and whom its validators accept. -/
structure Application (V : Vocabulary) where
  execute : {kind : V.Kind} → V.Handler kind → V.Input kind → Program V (V.Output kind)
  undo : {kind : V.Kind} → V.Handler kind → V.Input kind → V.Output kind → Program V Unit
  /-- The verdict of a validator on a session, and the validator after it. -/
  check : V.Validator → Option String → V.World → Bool × V.Validator

inductive Sink
  | channel (index : Nat)
  | tracing
  | observer (index : Nat)
  deriving DecidableEq

/-- A way to look up the handler for an action type. It gives the world after the lookup as well, since a
registry of the application's own keeps there whatever it has to keep. -/
abbrev HandlerLookup (V : Vocabulary) := State V → V.Kind → Option (AnyHandler V) × V.World

/-- What a lookup of a validator gives: the instance, if there is one, and what came of it. -/
structure Sighting (V : Vocabulary) where
  found : Found (ValidatorRegistry V) V
  world : V.World

abbrev ValidatorLookup (V : Vocabulary) := State V → V.Kind → Sighting V

/-- The handler that is registered for the action type. -/
def HandlerLookup.registered {V : Vocabulary} : HandlerLookup V := fun state kind =>
  (state.handlers.find? kind, state.world)

/-- The validator that is registered for the action type. -/
def ValidatorLookup.registered {V : Vocabulary} : ValidatorLookup V := fun state kind =>
  ⟨state.validators.find state.store kind, state.world⟩

/-- An application with its settings, its sinks in the order in which they get events, and its lookups. -/
structure Dispatcher (V : Vocabulary) where
  app : Application V
  settings : Settings := {}
  sinks : List Sink := []
  handlerFor : HandlerLookup V := .registered
  validatorFor : ValidatorLookup V := .registered

variable {V : Vocabulary}

namespace Application

def program (app : Application V) : (step : Step V) → V.Handler step.kind → Program V step.Result
  | .execute _ input, handler => app.execute handler input
  | .undo _ input output, handler => app.undo handler input output

/-- The verdict of an instance on a session, and the state after it. An instance that does not exist
accepts nobody. -/
def verdict (app : Application V) (state : State V) (id : InstanceId) (session : Option String) :
    Bool × State V :=
  match state.store.get? id with
  | none => (false, state)
  | some validator =>
    let (valid, validator) := app.check validator session state.world
    (valid, { state with store := state.store.set id validator })

def ask (app : Application V) (caller : Option Caller) (id : InstanceId) (session : Option String) :
    Run V Bool := do
  let (valid, state) := app.verdict (← Run.state) id session
  Run.change fun _ => state
  Run.leave [.checked caller id session valid]
  pure valid

theorem ask_apply (app : Application V) (caller : Option Caller) (id : InstanceId)
    (session : Option String) (state : State V) :
    app.ask caller id session state =
      ⟨some (app.verdict state id session).1, (app.verdict state id session).2,
        [.checked caller id session (app.verdict state id session).1]⟩ := rfl

/-- Asking a validator changes nothing but the instances. -/
theorem verdict_state (app : Application V) (state : State V) (id : InstanceId)
    (session : Option String) :
    (app.verdict state id session).2 =
      { state with store := (app.verdict state id session).2.store } := by
  unfold verdict
  split <;> rfl

theorem verdict_requests (app : Application V) (state : State V) (id : InstanceId)
    (session : Option String) : (app.verdict state id session).2.requests = state.requests := by
  rw [verdict_state]

def act (app : Application V) : (act : Act V) → Run V act.Result
  | .addHandler handler => do
    let (handlers, records) := HandlerTable.register (← Run.state).handlers handler
    Run.change fun state => { state with handlers }
    Run.leave (records.map .logged)
  | .removeHandler kind => do
    let removed := (← Run.state).handlers.contains kind
    Run.change fun state => { state with handlers := state.handlers.erase kind }
    pure removed
  | .clearHandlers => Run.change fun state => { state with handlers := .empty }
  | .countHandlers => do pure (← Run.state).handlers.size
  | .findHandler kind => do pure ((← Run.state).handlers.find? kind)
  | .makeValidator validator => do
    let (id, store) := (← Run.state).store.allocate validator
    Run.change fun state => { state with store }
    pure id
  | .addValidator kind id =>
    Run.change fun state => { state with validators := state.validators.addInstance kind id }
  | .removeValidator kind => do
    let (validators, removed) := (← Run.state).validators.removeInstance kind
    Run.change fun state => { state with validators }
    pure removed
  | .addClass kind c =>
    Run.change fun state => { state with validators := state.validators.addClass kind c }
  | .removeClass kind c => do
    let (validators, removed) := (← Run.state).validators.removeClass kind c
    Run.change fun state => { state with validators }
    pure removed
  | .countCached => do pure (← Run.state).validators.cached
  | .clearValidators =>
    Run.change fun state => { state with validators := state.validators.clear }
  | .findValidator kind => do
    let state ← Run.state
    let found := state.validators.find state.store kind
    Run.change fun state => { state with validators := found.registry, store := found.store }
    Run.leave found.moments
    pure found.instance?
  | .check id session => app.ask none id session
  | .change f => do
    let world := (← Run.state).world
    Run.change fun state => { state with world := f state.world }
    pure world
  | .note note => Run.leave [.noted note]

end Application

namespace Dispatcher

def describe (dispatcher : Dispatcher V) : String :=
  "Dispatcher \x7b config: " ++ dispatcher.settings.describe ++
    ", event_sinks: " ++ toString dispatcher.sinks.length ++ " \x7d"

def deliver (event : Event) : Sink → Run V Unit
  | .channel index => do
    match (← Run.state).channels[index]? with
    | none => pure ()
    | some channel =>
      let (channel, records) := channel.send event
      Run.change fun state => { state with channels := state.channels.set index channel }
      Run.leave (records.map .logged)
  | .tracing => Run.log (.traced event)
  | .observer index => Run.leave [.observed index event]

/-- Emits an event to all sinks, in order. -/
def emit (dispatcher : Dispatcher V) (event : Event) : Run V Unit := do
  Run.leave [.emitted event]
  dispatcher.sinks.forM (deliver event)

/-- The handler for exactly this action type, if the registry gives one. -/
def handlerAt (dispatcher : Dispatcher V) (state : State V) (kind : V.Kind) : Option (V.Handler kind) :=
  (dispatcher.handlerFor state kind).1.bind (·.serving? kind)

def afterHandler (dispatcher : Dispatcher V) (state : State V) (kind : V.Kind) : State V :=
  { state with world := (dispatcher.handlerFor state kind).2 }

/-- What the lookup of the validator gives that follows the one of the handler. -/
def validatorAt (dispatcher : Dispatcher V) (state : State V) (kind : V.Kind) : Sighting V :=
  dispatcher.validatorFor (dispatcher.afterHandler state kind) kind

def afterValidator (dispatcher : Dispatcher V) (state : State V) (kind : V.Kind) : State V :=
  let sighting := dispatcher.validatorAt state kind
  { state with
    validators := sighting.found.registry
    store := sighting.found.store
    world := sighting.world }

/-- The handler and the validator for an action type. The validator is not looked up where there is no
handler for exactly this type. -/
def resolve (dispatcher : Dispatcher V) (caller : Caller) (kind : V.Kind) :
    Run V (Option (V.Handler kind × InstanceId)) := do
  let state ← Run.state
  match dispatcher.handlerAt state kind with
  | none =>
    Run.change (dispatcher.afterHandler · kind)
    pure none
  | some handler =>
    let found := (dispatcher.validatorAt state kind).found
    Run.change (dispatcher.afterValidator · kind)
    Run.leave found.moments
    match found.instance? with
    | none => pure none
    | some id =>
      Run.leave [.resolved caller kind id]
      pure (some (handler, id))

theorem resolve_apply (dispatcher : Dispatcher V) (caller : Caller) (kind : V.Kind) (state : State V) :
    dispatcher.resolve caller kind state =
      match dispatcher.handlerAt state kind with
      | none => ⟨some none, dispatcher.afterHandler state kind, []⟩
      | some handler =>
        let found := (dispatcher.validatorAt state kind).found
        match found.instance? with
        | none => ⟨some none, dispatcher.afterValidator state kind, found.moments⟩
        | some id =>
          ⟨some (some (handler, id)), dispatcher.afterValidator state kind,
            found.moments ++ [.resolved caller kind id]⟩ := by
  unfold resolve
  rw [Run.state_bind_apply]
  cases dispatcher.handlerAt state kind with
  | none => rfl
  | some handler =>
    simp only [Run.change_bind_apply, Run.leave_bind_apply]
    cases (dispatcher.validatorAt state kind).found.instance? with
    | none => simp [Run.pure_apply, Outcome.after]
    | some id => simp [Run.pure_apply, Outcome.after]

end Dispatcher

end ActionDispatch
