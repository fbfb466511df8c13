import ActionDispatch.Dispatcher.Basic

/-!
# Building dispatchers

Bindings pair a handler with the class of validator that guards it. They are collected from modules, which
may install other modules, and wired in configuration order: of several bindings for one action type the
last one wins, for the handler and for its validator.
-/

namespace ActionDispatch

/-- A handler, and the class of the validator that guards its action type. -/
structure Binding (V : Vocabulary) where
  handler : AnyHandler V
  guardedBy : ValidatorClass V

/-- A part of a configuration: one binding, or a module made of parts. -/
inductive Configuration (V : Vocabulary)
  | bind (binding : Binding V)
  | install (parts : List (Configuration V))

variable {V : Vocabulary}

mutual

/-- The bindings of a part, in configuration order. -/
def Configuration.bindings : Configuration V → List (Binding V)
  | .bind binding => [binding]
  | .install parts => Configuration.allBindings parts

def Configuration.allBindings : List (Configuration V) → List (Binding V)
  | [] => []
  | part :: parts => part.bindings ++ allBindings parts

end

structure Builder (V : Vocabulary) where
  bindings : List (Binding V) := []
  settings : Settings := {}
  factory : Factory V := .initial
  sinks : List Sink := []

inductive BuilderStep (V : Vocabulary)
  | settings (settings : Settings)
  | factory (factory : Factory V)
  | sink (sink : Sink)
  | install (part : Configuration V)

/-- A dispatcher with the state it starts from, or the reason why there is none, and what happened
while it was built. -/
structure Assembly (V : Vocabulary) where
  answer : Answer (Dispatcher V × State V)
  moments : List (Moment V)

namespace Builder

/-- Settings and factory replace what was set before; sinks and bindings are added. -/
def configure (builder : Builder V) : BuilderStep V → Builder V
  | .settings settings => { builder with settings }
  | .factory factory => { builder with factory }
  | .sink sink => { builder with sinks := builder.sinks ++ [sink] }
  | .install part => { builder with bindings := builder.bindings ++ part.bindings }

/-- The builder after some steps, from the defaults. -/
def ofSteps (steps : List (BuilderStep V)) : Builder V := steps.foldl configure {}

/-- Registers the handlers of bindings, in order. -/
def linkHandlers : List (Binding V) → HandlerTable V → HandlerTable V × List LogRecord
  | [], table => (table, [])
  | binding :: bindings, table =>
    let (table, records) := HandlerTable.register table binding.handler
    let (table, more) := linkHandlers bindings table
    (table, records ++ more)

/-- Registers the validator classes of bindings, in order. -/
def linkClasses (bindings : List (Binding V)) (registry : OnDemandRegistry V) : OnDemandRegistry V :=
  bindings.foldl (fun registry binding => registry.addClass binding.handler.kind binding.guardedBy)
    registry

/-- The error for a validator that a dispatcher needs and that cannot be made. -/
def unbuildable (binding : Binding V) (fault : Fault) : DispatchError :=
  .config ("Cannot create validator " ++ binding.guardedBy.name ++ " for action " ++
    V.kindName binding.handler.kind ++ ": " ++ fault.message)

/-- Makes a validator for every binding, in order; the first failure ends it. -/
def linkInstances (factory : Factory V) :
    List (Binding V) → InstanceTable V → ValidatorStore V →
      Answer (InstanceTable V × ValidatorStore V) × List (Moment V)
  | [], table, store => (.ok (table, store), [])
  | binding :: bindings, table, store =>
    let c := binding.guardedBy
    match store.create factory c with
    | (.error fault, _) => (.error (unbuildable binding fault), [.created c (.error fault)])
    | (.ok id, store) =>
      let (answer, moments) :=
        linkInstances factory bindings (table.insert binding.handler.kind id) store
      (answer, .created c (.ok id) :: moments)

/-- Wires the bindings into the shape of registry that the settings ask for. -/
def linkValidators (builder : Builder V) (store : ValidatorStore V) :
    Answer (ValidatorRegistry V × ValidatorStore V) × List (Moment V) :=
  match builder.settings.validatorRegistry with
  | .onDemand =>
    (.ok (.onDemand (linkClasses builder.bindings { factory := builder.factory }), store), [])
  | .upFront =>
    let (answer, moments) := linkInstances builder.factory builder.bindings .empty store
    (answer.map fun (table, store) => (.upFront table, store), moments)

/-- Builds a dispatcher for an application. The store holds the validators that the factory shares. -/
def build (builder : Builder V) (app : Application V) (store : ValidatorStore V)
    (channels : List Channel) (world : V.World) : Assembly V :=
  let (handlers, replaced) := linkHandlers builder.bindings .empty
  let (validators, created) := builder.linkValidators store
  let moments := replaced.map .logged ++ created
  match validators with
  | .error error => ⟨.error error, moments⟩
  | .ok (validators, store) =>
    let dispatcher : Dispatcher V := { app, settings := builder.settings, sinks := builder.sinks }
    let state : State V := { handlers, validators, store, channels, requests := 0, world }
    ⟨.ok (dispatcher, state), moments ++
      [.logged (.built handlers.size builder.settings.validatorRegistry.label)]⟩

end Builder

end ActionDispatch
