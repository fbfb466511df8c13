import ActionDispatch.Scenario.Play
import ActionDispatch.Settings.Document

/-!
# Setting a scenario up

A scenario's dispatcher comes out of a builder, or is put together by hand from empty registries. Either
way the sinks are numbered as they are added: channels among themselves, and observers behind the one that
numbers the requests.
-/

namespace ActionDispatch.Scenario

/-- A provider that fails with a fault, either always or a number of times before it makes guards. -/
structure Failing where
  fault : Fault
  times : Option Nat

structure GuardProvider where
  type : GuardType
  options : GuardOptions
  /-- One instance, made at once, is handed out each time. -/
  shared : Bool
  failing : Option Failing

/-- A factory is the default one, or a container with these providers. -/
abbrev FactoryChoice := Option (List GuardProvider)

/-- A container with the instances that its providers share. -/
structure Pool where
  container : Container vocabulary := .empty
  store : ValidatorStore vocabulary := {}

namespace Pool

/-- Adds a provider; it replaces an earlier one for the same type. -/
def provide (pool : Pool) (provider : GuardProvider) : Pool :=
  let guard := provider.type.guard provider.options
  if provider.shared then
    let (id, store) := pool.store.allocate guard
    ⟨pool.container.insert provider.type (.shared id), store⟩
  else
    let make (earlier : Nat) : Except Fault Guard :=
      match provider.failing with
      | none => .ok guard
      | some failing =>
        if failing.times.all (earlier < ·) then .error failing.fault else .ok guard
    { pool with container := pool.container.insert provider.type (.each make) }

/-- The chosen factory, and its container. -/
def choose (store : ValidatorStore vocabulary) : FactoryChoice → Factory vocabulary × Pool
  | none => (.initial, { store })
  | some providers =>
    let pool := providers.foldl provide { store }
    (Container.factory pool.container, pool)

end Pool

/-- A sink of a scenario. A probe writes what it gets into the journal. -/
inductive SinkChoice
  | channel
  | tracing
  | probe (name : String)

structure SinkList where
  sinks : List Sink
  channels : Nat := 0
  probes : List String := []

namespace SinkList

/-- The observer that numbers the requests. -/
def numbering : Nat := 0

/-- Only the numbering observer, or nothing. -/
def start (plain : Bool) : SinkList := ⟨if plain then [] else [.observer numbering], 0, []⟩

def place (list : SinkList) : SinkChoice → Sink
  | .channel => .channel list.channels
  | .tracing => .tracing
  | .probe _ => .observer (numbering + list.probes.length + 1)

def add (list : SinkList) (choice : SinkChoice) : SinkList :=
  let added := { list with sinks := list.sinks ++ [list.place choice] }
  match choice with
  | .channel => { added with channels := list.channels + 1 }
  | .tracing => added
  | .probe name => { added with probes := list.probes ++ [name] }

def probe? (list : SinkList) (observer : Nat) : Option String :=
  if observer = numbering then none else list.probes[observer - (numbering + 1)]?

end SinkList

/-- Settings as they are, or as a document. -/
inductive SettingsChoice
  | given (settings : Settings)
  | document (text : String)

def SettingsChoice.read : SettingsChoice → Answer Settings
  | .given settings => .ok settings
  | .document text => Settings.ofText text

inductive BuilderChoice
  | settings (choice : SettingsChoice)
  | factory (choice : FactoryChoice)
  | sink (choice : SinkChoice)
  | install (parts : List (Configuration vocabulary))

/-- A binding of a handler with this tag; without a class every session is accepted. -/
def bindingOf (kind : ActionType) (tag : String) (guardedBy : Option GuardClass) :
    Binding vocabulary where
  handler := ⟨kind, tag⟩
  guardedBy := (guardedBy.getD { type := .default }).toClass

structure ManualChoice where
  registry : RegistryKind
  factory : FactoryChoice
  settings : SettingsChoice
  sinks : List SinkChoice
  /-- Default settings and no sinks at all. -/
  plain : Bool
  /-- Each lookup of the key on the left is answered for the key on the right. -/
  aliases : List (ActionType × ActionType)

inductive SetupChoice
  | builder (choices : List BuilderChoice)
  | manual (choice : ManualChoice)

structure Stage where
  dispatcher : Dispatcher vocabulary
  state : State vocabulary

/-- What it takes to read a journal off a run: the container, since its providers write there, and the
sinks, since they name the probes. -/
structure Watch where
  container : Container vocabulary := .empty
  sinks : SinkList

/-- A stage or the error that prevented it, and what happened before. -/
structure Opening where
  watch : Watch
  stage : Answer Stage
  moments : List (Moment vocabulary)

structure Workbench where
  builder : Builder vocabulary
  pool : Pool := {}
  sinks : SinkList

namespace Workbench

def start : Workbench :=
  let sinks := SinkList.start false
  { builder := { sinks := sinks.sinks }, sinks }

/-- Takes one step; a settings document can be refused. -/
def step (bench : Workbench) : BuilderChoice → Answer Workbench
  | .settings choice => do
    let settings ← choice.read
    pure { bench with builder := bench.builder.configure (.settings settings) }
  | .factory choice =>
    let (factory, pool) := Pool.choose bench.pool.store choice
    pure { bench with builder := bench.builder.configure (.factory factory), pool }
  | .sink choice =>
    pure { bench with
      builder := bench.builder.configure (.sink (bench.sinks.place choice))
      sinks := bench.sinks.add choice }
  | .install parts =>
    pure { bench with builder := bench.builder.configure (.install (.install parts)) }

def steps (bench : Workbench) : List BuilderChoice → Workbench × Option DispatchError
  | [] => (bench, none)
  | choice :: choices =>
    match bench.step choice with
    | .ok bench => bench.steps choices
    | .error error => (bench, some error)

end Workbench

def openBuilt (choices : List BuilderChoice) : Opening :=
  let (bench, refused) := Workbench.start.steps choices
  let watch : Watch := ⟨bench.pool.container, bench.sinks⟩
  match refused with
  | some error => ⟨watch, .error error, []⟩
  | none =>
    let assembly := bench.builder.build application bench.pool.store
      (List.replicate bench.sinks.channels {}) {}
    ⟨watch, assembly.answer.map fun (dispatcher, state) => ⟨dispatcher, state⟩, assembly.moments⟩

/-- The lookup that follows aliases. -/
def aliased (aliases : List (ActionType × ActionType)) : HandlerLookup vocabulary :=
  fun state kind => (state.handlers.find? ((aliases.lookup kind).getD kind), state.world)

def openManual (choice : ManualChoice) : Opening :=
  let (factory, pool) := Pool.choose {} choice.factory
  let sinks :=
    if choice.plain then SinkList.start true
    else choice.sinks.foldl SinkList.add (SinkList.start false)
  let settings := if choice.plain then .ok {} else choice.settings.read
  let stage := settings.map fun settings =>
    { dispatcher :=
        { app := application, settings, sinks := sinks.sinks, handlerFor := aliased choice.aliases }
      state :=
        { handlers := .empty
          validators :=
            match choice.registry with
            | .onDemand => .onDemand { factory }
            | .upFront => .upFront .empty
          store := pool.store
          channels := List.replicate sinks.channels {}
          requests := 0
          world := {} } }
  ⟨⟨pool.container, sinks⟩, stage, []⟩

def SetupChoice.open : SetupChoice → Opening
  | .builder choices => openBuilt choices
  | .manual choice => openManual choice

end ActionDispatch.Scenario
