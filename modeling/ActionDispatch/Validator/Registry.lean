import ActionDispatch.Moment

/-!
# Registries of session validators

A validator is looked up by action type, and an action type without one is not allowed to anybody. There are
two shapes of registry: one holds instances that were made before, the other holds classes and makes an
instance when it is first asked for it.
-/

namespace ActionDispatch

abbrev InstanceTable (V : Vocabulary) := Table V.Kind InstanceId

/-- Validator classes by action type, with the instances made so far. -/
structure OnDemandRegistry (V : Vocabulary) where
  factory : Factory V
  classes : Table V.Kind (ValidatorClass V) := .empty
  instances : InstanceTable V := .empty

/-- What a lookup gives: the instance, if there is one, the registry and the store after it, and what
happened on the way. -/
structure Found (ρ : Type) (V : Vocabulary) where
  instance? : Option InstanceId
  registry : ρ
  store : ValidatorStore V
  findings : List (Finding V) := []

def Found.moments {ρ : Type} {V : Vocabulary} (found : Found ρ V) : List (Moment V) :=
  found.findings.map Finding.moment

variable {V : Vocabulary}

namespace OnDemandRegistry

/-- Registers a class. An instance of another class is not kept. -/
def addClass (registry : OnDemandRegistry V) (kind : V.Kind) (c : ValidatorClass V) :
    OnDemandRegistry V :=
  { registry with
    classes := registry.classes.insert kind c
    instances :=
      match registry.classes.find? kind with
      | some previous => if previous.same c then registry.instances else registry.instances.erase kind
      | none => registry.instances }

/-- Removes the class if it is the one registered now, with its instance; tells whether it was. -/
def removeClass (registry : OnDemandRegistry V) (kind : V.Kind) (c : ValidatorClass V) :
    OnDemandRegistry V × Bool :=
  match registry.classes.find? kind with
  | some registered =>
    if registered.same c then
      ({ registry with
        classes := registry.classes.erase kind
        instances := registry.instances.erase kind }, true)
    else (registry, false)
  | none => (registry, false)

def cached (registry : OnDemandRegistry V) : Nat := registry.instances.size

/-- Forgets the instances; the classes stay. -/
def clear (registry : OnDemandRegistry V) : OnDemandRegistry V :=
  { registry with instances := .empty }

/-- The instance for an action type, made if there is none yet. A failure to make it is logged, and the
lookup finds nothing. -/
def find (registry : OnDemandRegistry V) (store : ValidatorStore V) (kind : V.Kind) :
    Found (OnDemandRegistry V) V :=
  match registry.instances.find? kind with
  | some id => ⟨some id, registry, store, []⟩
  | none =>
    match registry.classes.find? kind with
    | none => ⟨none, registry, store, []⟩
    | some c =>
      match store.create registry.factory c with
      | (.ok id, store) =>
        ⟨some id, { registry with instances := registry.instances.insert kind id }, store,
          [.created c (.ok id), .logged (.validatorCreated (V.kindName kind) c.name)]⟩
      | (.error fault, store) =>
        ⟨none, registry, store,
          [.created c (.error fault),
            .logged (.validatorNotCreated (V.kindName kind) c.name fault.message)]⟩

end OnDemandRegistry

inductive ValidatorRegistry (V : Vocabulary)
  | upFront (instances : InstanceTable V)
  | onDemand (registry : OnDemandRegistry V)

namespace ValidatorRegistry

def find (registry : ValidatorRegistry V) (store : ValidatorStore V) (kind : V.Kind) :
    Found (ValidatorRegistry V) V :=
  match registry with
  | .upFront instances => ⟨instances.find? kind, registry, store, []⟩
  | .onDemand registry =>
    let found := registry.find store kind
    ⟨found.instance?, .onDemand found.registry, found.store, found.findings⟩

def clear : ValidatorRegistry V → ValidatorRegistry V
  | .upFront _ => .upFront .empty
  | .onDemand registry => .onDemand registry.clear

/-- Registers an instance, in a registry that holds instances. -/
def addInstance (registry : ValidatorRegistry V) (kind : V.Kind) (id : InstanceId) :
    ValidatorRegistry V :=
  match registry with
  | .upFront instances => .upFront (instances.insert kind id)
  | .onDemand _ => registry

/-- Removes an instance, from a registry that holds instances; tells whether there was one. -/
def removeInstance (registry : ValidatorRegistry V) (kind : V.Kind) : ValidatorRegistry V × Bool :=
  match registry with
  | .upFront instances => (.upFront (instances.erase kind), instances.contains kind)
  | .onDemand _ => (registry, false)

/-- Registers a class, in a registry that holds classes. -/
def addClass (registry : ValidatorRegistry V) (kind : V.Kind) (c : ValidatorClass V) :
    ValidatorRegistry V :=
  match registry with
  | .upFront _ => registry
  | .onDemand registry => .onDemand (registry.addClass kind c)

/-- Removes a class, from a registry that holds classes; tells whether it was the one registered. -/
def removeClass (registry : ValidatorRegistry V) (kind : V.Kind) (c : ValidatorClass V) :
    ValidatorRegistry V × Bool :=
  match registry with
  | .upFront _ => (registry, false)
  | .onDemand registry =>
    let (registry, removed) := registry.removeClass kind c
    (.onDemand registry, removed)

def cached : ValidatorRegistry V → Nat
  | .upFront _ => 0
  | .onDemand registry => registry.cached

end ValidatorRegistry

end ActionDispatch
