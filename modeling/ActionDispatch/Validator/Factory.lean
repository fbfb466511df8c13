import ActionDispatch.Error
import ActionDispatch.Table
import ActionDispatch.Text.Quoted
import ActionDispatch.Vocabulary

/-!
# Making session validators

A validator class names a type of validator. A factory makes instances of it, either through the class's
own initial state or through a provider that a container holds for it. Every instance has an identity;
two lookups share an instance when they give the same identity.
-/

namespace ActionDispatch

/-- A validator type, with the state of a new instance if it can be built without help. -/
structure ValidatorClass (V : Vocabulary) where
  id : V.Class
  initial : Option V.Validator

variable {V : Vocabulary}

namespace ValidatorClass

/-- A class whose instances start in this state. -/
def ofInitial (id : V.Class) (initial : V.Validator) : ValidatorClass V := ⟨id, some initial⟩

/-- A class whose instances a provider has to make. -/
def injected (id : V.Class) : ValidatorClass V := ⟨id, none⟩

def name (c : ValidatorClass V) : String := V.className c.id

def describe (c : ValidatorClass V) : String := "ValidatorClass(" ++ Text.quote c.name ++ ")"

/-- Classes are equal when they name the same validator type, however it is built. -/
def same (c d : ValidatorClass V) : Bool := c.id = d.id

end ValidatorClass

structure InstanceId where
  index : Nat
  deriving DecidableEq

/-- What a factory hands out: a validator that did not exist before, or one that it shares. -/
inductive Creation (V : Vocabulary)
  | fresh (validator : V.Validator)
  | shared (id : InstanceId)

/-- A policy for making validators. What a call gives may depend on the classes of the calls before it. -/
structure Factory (V : Vocabulary) where
  create : List (ValidatorClass V) → ValidatorClass V → Except Fault (Creation V)

/-- Makes every validator from its class's initial state. -/
def Factory.initial : Factory V where
  create _ c :=
    match c.initial with
    | some validator => .ok (.fresh validator)
    | none =>
      .error (.ofText ("Validator " ++ c.name ++ " has no default constructor and no provider") [])

inductive Provider (V : Vocabulary)
  /-- A new validator for each call, given the number of calls before; a call may fail. -/
  | each (make : Nat → Except Fault V.Validator)
  /-- The same instance for every call. -/
  | shared (id : InstanceId)

abbrev Container (V : Vocabulary) := Table V.Class (Provider V)

/-- Makes validators through the providers of a container; a type without one is built from its class. -/
def Container.factory (container : Container V) : Factory V where
  create earlier c :=
    match container.find? c.id with
    | some (.each make) => (make (earlier.countP (·.id = c.id))).map .fresh
    | some (.shared id) => .ok (.shared id)
    | none => Factory.initial.create earlier c

/-- The validator instances that exist, by identity, and the calls made to the factory so far. -/
structure ValidatorStore (V : Vocabulary) where
  instances : List V.Validator := []
  calls : List (ValidatorClass V) := []

namespace ValidatorStore

def get? (store : ValidatorStore V) (id : InstanceId) : Option V.Validator :=
  store.instances[id.index]?

def allocate (store : ValidatorStore V) (validator : V.Validator) :
    InstanceId × ValidatorStore V :=
  (⟨store.instances.length⟩, { store with instances := store.instances ++ [validator] })

def set (store : ValidatorStore V) (id : InstanceId) (validator : V.Validator) :
    ValidatorStore V :=
  { store with instances := store.instances.set id.index validator }

def create (store : ValidatorStore V) (factory : Factory V) (c : ValidatorClass V) :
    Except Fault InstanceId × ValidatorStore V :=
  let called := { store with calls := store.calls ++ [c] }
  match factory.create store.calls c with
  | .error fault => (.error fault, called)
  | .ok (.shared id) => (.ok id, called)
  | .ok (.fresh validator) =>
    let (id, store) := called.allocate validator
    (.ok id, store)

variable (store : ValidatorStore V) (factory : Factory V) (c : ValidatorClass V)

theorem create_isOk : (store.create factory c).1.isOk = (factory.create store.calls c).isOk := by
  unfold create
  rcases factory.create store.calls c with fault | ⟨validator | id⟩ <;> rfl

theorem create_eq_error_iff (fault : Fault) :
    (store.create factory c).1 = .error fault ↔ factory.create store.calls c = .error fault := by
  unfold create
  rcases factory.create store.calls c with fault | ⟨validator | id⟩ <;> simp

/-- The call is on record, whether it fails or not. -/
theorem create_calls : (store.create factory c).2.calls = store.calls ++ [c] := by
  unfold create
  rcases factory.create store.calls c with fault | ⟨validator | id⟩ <;> rfl

theorem create_grows : store.instances <+: (store.create factory c).2.instances := by
  unfold create
  rcases factory.create store.calls c with fault | ⟨validator | id⟩
  · exact List.prefix_rfl
  · exact List.prefix_append _ _
  · exact List.prefix_rfl

end ValidatorStore

end ActionDispatch
