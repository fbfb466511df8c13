import ActionDispatch.Proofs.Twins
import Mathlib.Data.List.Induction
import Mathlib.Logic.Relation

/-!
# What a factory gives

How instances come about and change, for registries of either shape: the factory is called, and instances are
asked (`ValidatorStore.Turn`). An instance that was issued for a class goes back to a call that is on record,
and is what this call handed out, which may have been asked since (`Issued.creation`). For a container it
comes from the provider that was added last for the type that the class names, however the class is built.
-/

namespace ActionDispatch

variable {V : Vocabulary} {α β : Type}

/-- The validator is this one, after having been asked some times. -/
abbrev Application.Asked (app : Application V) : V.Validator → V.Validator → Prop :=
  Relation.ReflTransGen fun before after => ∃ session world, after = (app.check before session world).2

namespace ValidatorStore

/-- The factory is called, an instance is asked, or one is made in some other way. -/
inductive Turn (app : Application V) (factory : Factory V) : ValidatorStore V → ValidatorStore V → Prop
  | create (store c) : Turn app factory store (store.create factory c).2
  | ask {store id validator} (held : store.get? id = some validator) (session world) :
      Turn app factory store (store.set id (app.check validator session world).2)
  | allocate (store validator) : Turn app factory store (store.allocate validator).2

abbrev Leads (app : Application V) (factory : Factory V) : ValidatorStore V → ValidatorStore V → Prop :=
  Relation.ReflTransGen (Turn app factory)

/-- On the way from one store to the other, a call of the factory for this class gave this instance. -/
def Issued (app : Application V) (factory : Factory V) (start now : ValidatorStore V)
    (c : ValidatorClass V) (id : InstanceId) : Prop :=
  ∃ before, Leads app factory start before ∧ (before.create factory c).1 = .ok id ∧
    Leads app factory (before.create factory c).2 now

variable {app : Application V} {factory : Factory V} {start store later : ValidatorStore V}
  {c : ValidatorClass V} {id : InstanceId} {validator : V.Validator}

theorem Leads.of_create {given : Except Fault InstanceId} (created : store.create factory c = (given, later)) :
    Leads app factory store later := by
  have turn : Turn app factory store (store.create factory c).2 := .create store c
  rw [created] at turn
  exact .single turn

theorem Leads.verdict (app : Application V) (factory : Factory V) (state : State V) (id : InstanceId)
    (session : Option String) :
    Leads app factory state.store (app.verdict state id session).2.store := by
  unfold Application.verdict
  cases held : state.store.get? id with
  | none => exact .refl
  | some validator => exact .single (.ask held session state.world)

theorem Issued.of_create (leads : Leads app factory start store)
    (created : store.create factory c = (.ok id, later)) : Issued app factory start later c id := by
  refine ⟨store, leads, ?_, ?_⟩
  · rw [created]
  · rw [created]

theorem Issued.mono (issued : Issued app factory start store c id)
    (leads : Leads app factory store later) : Issued app factory start later c id := by
  obtain ⟨before, first, given, rest⟩ := issued
  exact ⟨before, first, given, rest.trans leads⟩

/-- The calls of the factory stay on record. -/
theorem Leads.calls (leads : Leads app factory store later) : store.calls <+: later.calls := by
  induction leads with
  | refl => exact List.prefix_rfl
  | tail _ turn ih =>
    refine ih.trans ?_
    cases turn with
    | create c =>
      rw [create_calls]
      exact List.prefix_append _ _
    | ask | allocate => exact List.prefix_rfl

/-- Instances stay, and change only when they are asked. -/
theorem Leads.get? (leads : Leads app factory store later) (held : store.get? id = some validator) :
    ∃ now, later.get? id = some now ∧ app.Asked validator now := by
  induction leads with
  | refl => exact ⟨validator, held, .refl⟩
  | tail _ turn ih =>
    obtain ⟨now, held, asked⟩ := ih
    cases turn with
    | create c => exact ⟨now, get?_of_grown (create_grows _ factory c) held, asked⟩
    | allocate made => exact ⟨now, get?_of_grown (List.prefix_append _ _) held, asked⟩
    | @ask other _ held' session world =>
      by_cases same : other = id
      · subst same
        obtain rfl := Option.some.inj (held.symm.trans held')
        exact ⟨_, get?_set_self _ (lt_of_get? held), asked.tail ⟨session, world, rfl⟩⟩
      · exact ⟨now, (get?_set_of_ne same _).trans held, asked⟩

end ValidatorStore

/-- The instance is the one that was handed out, which may have been asked since. -/
inductive Creation.Is (app : Application V) (now : ValidatorStore V) : Creation V → InstanceId → Prop
  | shared (id) : Is app now (.shared id) id
  | fresh {validator current id} (held : now.get? id = some current)
      (asked : app.Asked validator current) : Is app now (.fresh validator) id

/-- The call that an instance comes from is on record, and the instance is what it handed out. -/
theorem ValidatorStore.Issued.creation {app : Application V} {factory : Factory V}
    {start now : ValidatorStore V} {c : ValidatorClass V} {id : InstanceId}
    (issued : Issued app factory start now c id) :
    ∃ earlier creation, earlier ++ [c] <+: now.calls ∧ factory.create earlier c = .ok creation ∧
      creation.Is app now id := by
  obtain ⟨before, -, given, leads⟩ := issued
  have recorded := leads.calls
  rw [create_calls] at recorded
  unfold ValidatorStore.create at given leads
  cases called : factory.create before.calls c with
  | error fault =>
    rw [called] at given
    cases given
  | ok creation =>
    rw [called] at given leads
    refine ⟨before.calls, creation, recorded, called, ?_⟩
    cases creation with
    | shared known =>
      cases given
      exact .shared _
    | fresh validator =>
      cases given
      have held : ValidatorStore.get? ⟨before.instances ++ [validator], before.calls ++ [c]⟩
          ⟨before.instances.length⟩ = some validator := List.getElem?_concat_length
      obtain ⟨current, held, asked⟩ := leads.get? held
      exact .fresh held asked

/-! ### Containers -/

/-- Of entries that are made one after the other, the last one for a key counts. -/
theorem Table.find?_foldl_insert {κ : Type} [DecidableEq κ] (key : β → κ) (value : β → α)
    (items : List β) (t : Table κ α) (k : κ) :
    (items.foldl (fun t item => t.insert (key item) (value item)) t).find? k =
      ((items.reverse.find? (key · = k)).map value).or (t.find? k) := by
  induction items using List.reverseRecOn with
  | nil => rfl
  | append_singleton items item ih =>
    rw [List.foldl_append, List.foldl_cons, List.foldl_nil, find?_insert, ih, List.reverse_append,
      List.reverse_singleton, List.singleton_append, List.find?_cons]
    by_cases same : key item = k
    · simp [same]
    · simp [same, Ne.symm same]

namespace Container

/-- A container with these providers, added in this order. -/
def ofProviders (providers : List (V.Class × Provider V)) : Container V :=
  providers.foldl (fun container provider => container.insert provider.1 provider.2) .empty

/-- The provider that was added last for a type of validator. -/
def lastProvider (providers : List (V.Class × Provider V)) (type : V.Class) : Option (Provider V) :=
  (providers.reverse.find? (·.1 = type)).map Prod.snd

theorem find?_ofProviders (providers : List (V.Class × Provider V)) (type : V.Class) :
    Table.find? (ofProviders providers) type = lastProvider providers type := by
  rw [ofProviders, Table.find?_foldl_insert Prod.fst Prod.snd, Table.find?_empty, Option.or_none]
  rfl

/-- The instance comes from the last provider for the type that the class names, or, where there is none,
from the initial state of the class. -/
inductive Provides (app : Application V) (now : ValidatorStore V)
    (providers : List (V.Class × Provider V)) (c : ValidatorClass V) (id : InstanceId) : Prop
  | shared (last : lastProvider providers c.id = some (.shared id))
  | each {make n validator} (last : lastProvider providers c.id = some (.each make))
      (made : make n = .ok validator) (is : (Creation.fresh validator).Is app now id)
  | initial {validator} (last : lastProvider providers c.id = none) (own : c.initial = some validator)
      (is : (Creation.fresh validator).Is app now id)

theorem provides_of_create {app : Application V} {now : ValidatorStore V}
    {providers : List (V.Class × Provider V)} {c : ValidatorClass V} {id : InstanceId}
    {earlier : List (ValidatorClass V)} {creation : Creation V}
    (created : (ofProviders providers).factory.create earlier c = .ok creation)
    (is : creation.Is app now id) : Provides app now providers c id := by
  dsimp only [factory] at created
  rw [find?_ofProviders] at created
  cases last : lastProvider providers c.id with
  | none =>
    rw [last] at created
    dsimp only [Factory.initial] at created
    cases own : c.initial with
    | none =>
      rw [own] at created
      cases created
    | some validator =>
      rw [own] at created
      cases created
      exact .initial last own is
  | some provider =>
    rw [last] at created
    cases provider with
    | shared known =>
      cases created
      cases is
      exact .shared last
    | each make =>
      dsimp only at created
      cases made : make (earlier.countP (·.id = c.id)) with
      | error fault =>
        rw [made] at created
        cases created
      | ok validator =>
        rw [made] at created
        cases created
        exact .each last made is

end Container

/-- The validator for an action type is what the factory gives for this class: the instance of a call that is
on record, and with a container that of the class's provider. -/
structure ValidatorStore.Suits (app : Application V) (factory : Factory V) (start now : ValidatorStore V)
    (c : ValidatorClass V) (id : InstanceId) : Prop where
  issued : Issued app factory start now c id
  created : ∃ earlier creation, earlier ++ [c] <+: now.calls ∧ factory.create earlier c = .ok creation ∧
    creation.Is app now id
  provided : ∀ providers, factory = (Container.ofProviders providers).factory →
    Container.Provides app now providers c id

theorem ValidatorStore.Issued.suits {app : Application V} {factory : Factory V}
    {start now : ValidatorStore V} {c : ValidatorClass V} {id : InstanceId}
    (issued : Issued app factory start now c id) : Suits app factory start now c id := by
  obtain ⟨earlier, creation, recorded, created, is⟩ := issued.creation
  refine ⟨issued, ⟨earlier, creation, recorded, created, is⟩, ?_⟩
  rintro providers rfl
  exact Container.provides_of_create created is

end ActionDispatch
