import ActionDispatch.Builder

/-!
# Twin registries

The same bindings can be wired into a registry that holds an instance for every action type, or into one
that makes an instance when it is first looked up. The two are twins: for every action type, the instance
that was made before is still untouched and the other one not made yet, or both are there and are in the
same state, or the type has an instance that is shared anyway. Wiring gives twins
(`Twins.link`), and lookups and session checks keep them (`Twins.find`, `Twins.set`).
-/

namespace ActionDispatch

variable {V : Vocabulary}

/-- The factory hands out the same for this class, whenever it is called. -/
def Factory.Hands (factory : Factory V) (c : ValidatorClass V) (creation : Creation V) : Prop :=
  ∀ earlier, factory.create earlier c = .ok creation

/-- The factory makes new instances of this class, all in one state, or it shares one of the first
instances that there are. -/
def Factory.Serves (factory : Factory V) (old : Nat) (c : ValidatorClass V) : Prop :=
  (∃ validator, factory.Hands c (.fresh validator)) ∨
    ∃ id, id.index < old ∧ factory.Hands c (.shared id)

/-- No instance but the first ones is there for two action types. -/
def InstanceTable.Apart (old : Nat) (table : InstanceTable V) : Prop :=
  ∀ ⦃kind kind' id⦄, table.find? kind = some id → table.find? kind' = some id →
    old ≤ id.index → kind = kind'

/-- What twins hold for one action type: the instance that one of them has, the class that the other
has, and the instance that this one made of it. The first `old` instances are shared. -/
inductive Twin (old : Nat) (factory : Factory V) (store other : ValidatorStore V) :
    Option InstanceId → Option (ValidatorClass V) → Option InstanceId → Prop
  | unbound : Twin old factory store other none none none
  | shared {id c made} (before : id.index < old) (hands : factory.Hands c (.shared id))
      (same : made = none ∨ made = some id) : Twin old factory store other (some id) (some c) made
  | unmade {id c validator} (own : old ≤ id.index) (hands : factory.Hands c (.fresh validator))
      (untouched : store.get? id = some validator) :
      Twin old factory store other (some id) (some c) none
  | made {id id' c validator} (own : old ≤ id.index) (own' : old ≤ id'.index)
      (held : store.get? id = some validator) (held' : other.get? id' = some validator) :
      Twin old factory store other (some id) (some c) (some id')

/-- A registry with instances for one store, and one that makes them in another, which are twins. -/
structure Twins (old : Nat) (table : InstanceTable V) (store : ValidatorStore V)
    (registry : OnDemandRegistry V) (other : ValidatorStore V) : Prop where
  room : old ≤ store.instances.length
  room' : old ≤ other.instances.length
  /-- The shared instances are the same. -/
  agree : ∀ id : InstanceId, id.index < old → other.get? id = store.get? id
  twin : ∀ kind, Twin old registry.factory store other (table.find? kind)
    (registry.classes.find? kind) (registry.instances.find? kind)
  apart : InstanceTable.Apart old table
  apart' : InstanceTable.Apart old registry.instances

/-- Two instances stand for each other: they are one that is shared, or those for one action type. -/
inductive Counterparts (old : Nat) (table instances : InstanceTable V) :
    InstanceId → InstanceId → Prop
  | shared {id} (before : id.index < old) : Counterparts old table instances id id
  | own {kind id id'} (found : table.find? kind = some id) (found' : instances.find? kind = some id')
      (own : old ≤ id.index) (own' : old ≤ id'.index) : Counterparts old table instances id id'

/-- What can be told of a moment without telling which instance it is about, or that one was made. -/
def Moment.anonymous? : Moment V → Option (Moment V)
  | .resolved caller kind _ => some (.resolved caller kind ⟨0⟩)
  | .checked caller _ session valid => some (.checked caller ⟨0⟩ session valid)
  | .created .. | .logged (.validatorCreated ..) | .logged (.validatorNotCreated ..) => none
  | m => some m

/-! ### Stores -/

namespace ValidatorStore

variable {store store' : ValidatorStore V} {id : InstanceId} {validator : V.Validator}

theorem lt_of_get? (h : store.get? id = some validator) : id.index < store.instances.length :=
  (List.getElem?_eq_some_iff.1 h).1

theorem get?_of_lt_of_grown (grows : store.instances <+: store'.instances)
    (h : id.index < store.instances.length) : store'.get? id = store.get? id := by
  obtain ⟨more, eq⟩ := grows
  unfold get?
  rw [← eq]
  exact List.getElem?_append_left h

/-- The instances that there are stay when others are made. -/
theorem get?_of_grown (grows : store.instances <+: store'.instances)
    (h : store.get? id = some validator) : store'.get? id = some validator :=
  (get?_of_lt_of_grown grows (lt_of_get? h)).trans h

theorem get?_set_self (validator : V.Validator) (h : id.index < store.instances.length) :
    (store.set id validator).get? id = some validator :=
  List.getElem?_set_self h

theorem get?_set_of_ne {id' : InstanceId} (h : id ≠ id') (validator : V.Validator) :
    (store.set id validator).get? id' = store.get? id' :=
  List.getElem?_set_ne fun index => h (congrArg InstanceId.mk index)

theorem length_set (store : ValidatorStore V) (id : InstanceId) (validator : V.Validator) :
    (store.set id validator).instances.length = store.instances.length :=
  List.length_set

/-- What a store gives for something that a factory hands out. -/
inductive Gives (before : ValidatorStore V) : Creation V → InstanceId → ValidatorStore V → Prop
  | shared {known after} : Gives before (.shared known) known after
  | fresh {made after} (held : after.get? ⟨before.instances.length⟩ = some made) :
      Gives before (.fresh made) ⟨before.instances.length⟩ after

theorem create_of_hands {factory : Factory V} {c : ValidatorClass V} {creation : Creation V}
    (hands : factory.Hands c creation) (store : ValidatorStore V) :
    ∃ id store', store.create factory c = (.ok id, store') ∧ store.instances <+: store'.instances ∧
      store.Gives creation id store' := by
  unfold create
  rw [hands]
  cases creation with
  | fresh validator =>
    exact ⟨_, _, rfl, List.prefix_append _ _, .fresh List.getElem?_concat_length⟩
  | shared id => exact ⟨id, _, rfl, List.prefix_rfl, .shared⟩

end ValidatorStore

/-! ### Twins -/

variable {old : Nat} {factory : Factory V} {table : InstanceTable V}
  {registry : OnDemandRegistry V} {store store' other other' : ValidatorStore V}

/-- Twins stay what they are as long as their own instances stay. -/
theorem Twin.mono {found made : Option InstanceId} {c : Option (ValidatorClass V)}
    (h : Twin old factory store other found c made)
    (stays : ∀ id validator, found = some id → old ≤ id.index → store.get? id = some validator →
      store'.get? id = some validator)
    (stays' : ∀ id validator, made = some id → old ≤ id.index → other.get? id = some validator →
      other'.get? id = some validator) :
    Twin old factory store' other' found c made := by
  cases h with
  | unbound => exact .unbound
  | shared before hands same => exact .shared before hands same
  | unmade own hands untouched => exact .unmade own hands (stays _ _ rfl own untouched)
  | made own own' held held' => exact .made own own' (stays _ _ rfl own held) (stays' _ _ rfl own' held')

variable {kind : V.Kind} {id id' : InstanceId}

theorem InstanceTable.Apart.insert (h : InstanceTable.Apart old table)
    (new : id.index < old ∨ ∀ kind, table.find? kind ≠ some id) (kind : V.Kind) :
    InstanceTable.Apart old (table.insert kind id) := by
  have unheld {k : V.Kind} (own : old ≤ id.index) : table.find? k ≠ some id :=
    new.resolve_left (Nat.not_lt.2 own) k
  intro k k' i hk hk' own
  rw [Table.find?_insert] at hk hk'
  split at hk
  · next same =>
    cases hk
    split at hk'
    · next same' => exact same.trans same'.symm
    · exact absurd hk' (unheld own)
  · split at hk'
    · cases hk'
      exact absurd hk (unheld own)
    · exact h hk hk' own

namespace Twins

theorem lt (h : Twins old table store registry other) (found : table.find? kind = some id) :
    id.index < store.instances.length := by
  have twin := h.twin kind
  rw [found] at twin
  generalize registry.classes.find? kind = c at twin
  generalize registry.instances.find? kind = made at twin
  cases twin with
  | shared before => exact Nat.lt_of_lt_of_le before h.room
  | unmade own hands untouched => exact ValidatorStore.lt_of_get? untouched
  | made own own' held held' => exact ValidatorStore.lt_of_get? held

theorem lt' (h : Twins old table store registry other)
    (found : registry.instances.find? kind = some id) : id.index < other.instances.length := by
  have twin := h.twin kind
  rw [found] at twin
  generalize registry.classes.find? kind = c at twin
  generalize table.find? kind = first at twin
  cases twin with
  | shared before hands same =>
    obtain rfl : id = _ := Option.some.inj (same.resolve_left (by simp))
    exact Nat.lt_of_lt_of_le before h.room'
  | made own own' held held' => exact ValidatorStore.lt_of_get? held'

/-- Instances that stand for each other are in the same state. -/
theorem get?_eq (h : Twins old table store registry other)
    (parts : Counterparts old table registry.instances id id') : other.get? id' = store.get? id := by
  cases parts with
  | shared before => exact h.agree _ before
  | @own kind _ _ found found' own own' =>
    have twin := h.twin kind
    rw [found, found'] at twin
    generalize registry.classes.find? kind = c at twin
    cases twin with
    | shared before => exact absurd own (Nat.not_le.2 before)
    | made _ _ held held' => exact held'.trans held.symm

theorem agree_set (h : Twins old table store registry other)
    (parts : Counterparts old table registry.instances id id') (validator : V.Validator)
    {shared : InstanceId} (before : shared.index < old) :
    (other.set id' validator).get? shared = (store.set id validator).get? shared := by
  cases parts with
  | shared before' =>
    by_cases same : id = shared
    · subst same
      rw [ValidatorStore.get?_set_self _ (Nat.lt_of_lt_of_le before h.room),
        ValidatorStore.get?_set_self _ (Nat.lt_of_lt_of_le before h.room')]
    · rw [ValidatorStore.get?_set_of_ne same, ValidatorStore.get?_set_of_ne same]
      exact h.agree shared before
  | own found found' own own' =>
    have ne : id ≠ shared := fun same => absurd own (Nat.not_le.2 (same ▸ before))
    have ne' : id' ≠ shared := fun same => absurd own' (Nat.not_le.2 (same ▸ before))
    rw [ValidatorStore.get?_set_of_ne ne, ValidatorStore.get?_set_of_ne ne']
    exact h.agree shared before

theorem twin_set (h : Twins old table store registry other)
    (parts : Counterparts old table registry.instances id id') (validator : V.Validator)
    (kind : V.Kind) :
    Twin old registry.factory (store.set id validator) (other.set id' validator)
      (table.find? kind) (registry.classes.find? kind) (registry.instances.find? kind) := by
  have others (ne : ∀ i, table.find? kind = some i → old ≤ i.index → id ≠ i)
      (ne' : ∀ i, registry.instances.find? kind = some i → old ≤ i.index → id' ≠ i) :
      Twin old registry.factory (store.set id validator) (other.set id' validator)
        (table.find? kind) (registry.classes.find? kind) (registry.instances.find? kind) := by
    refine (h.twin kind).mono (fun i _ found own held => ?_) fun i _ found own held => ?_
    · rwa [ValidatorStore.get?_set_of_ne (ne i found own)]
    · rwa [ValidatorStore.get?_set_of_ne (ne' i found own)]
  cases parts with
  | shared before =>
    exact others (fun i _ own same => absurd own (Nat.not_le.2 (same ▸ before)))
      fun i _ own same => absurd own (Nat.not_le.2 (same ▸ before))
  | @own kind' _ _ found found' own own' =>
    by_cases same : kind = kind'
    · subst same
      have twin := h.twin kind
      rw [found, found'] at twin ⊢
      generalize registry.classes.find? kind = c at twin
      cases twin with
      | shared before => exact absurd own (Nat.not_le.2 before)
      | made =>
        exact .made own own' (ValidatorStore.get?_set_self _ (h.lt found))
          (ValidatorStore.get?_set_self _ (h.lt' found'))
    · -- Its instances are others, since none of those changed is there for two action types.
      refine others (fun i hi _ eq => ?_) fun i hi _ eq => ?_
      · subst eq
        exact same (h.apart hi found own)
      · subst eq
        exact same (h.apart' hi found' own')

/-- Changing instances that stand for each other in the same way keeps twins. -/
theorem set (h : Twins old table store registry other)
    (parts : Counterparts old table registry.instances id id') (validator : V.Validator) :
    Twins old table (store.set id validator) registry (other.set id' validator) where
  room := (store.length_set id validator).symm ▸ h.room
  room' := (other.length_set id' validator).symm ▸ h.room'
  agree _ := h.agree_set parts validator
  twin := h.twin_set parts validator
  apart := h.apart
  apart' := h.apart'

/-- An instance that is new in the second one keeps twins, if it fits its action type. -/
theorem insert (h : Twins old table store registry other)
    (grows : other.instances <+: other'.instances)
    (new : id'.index < old ∨ ∀ k, registry.instances.find? k ≠ some id')
    (twin : Twin old registry.factory store other' (table.find? kind) (registry.classes.find? kind)
      (some id')) :
    Twins old table store { registry with instances := registry.instances.insert kind id' }
      other' where
  room := h.room
  room' := Nat.le_trans h.room' grows.length_le
  agree shared before :=
    (ValidatorStore.get?_of_lt_of_grown grows (Nat.lt_of_lt_of_le before h.room')).trans
      (h.agree shared before)
  twin k := by
    rw [Table.find?_insert]
    split
    · next same => exact same ▸ twin
    · exact (h.twin k).mono (fun _ _ _ _ held => held) fun _ _ _ _ =>
        ValidatorStore.get?_of_grown grows
  apart := h.apart
  apart' := h.apart'.insert new kind

/-- Making an instance when it is looked up keeps twins. -/
theorem make (h : Twins old table store registry other) {c : ValidatorClass V}
    (bound : registry.classes.find? kind = some c) (unmade : registry.instances.find? kind = none) :
    ∃ id id' other', other.create registry.factory c = (.ok id', other') ∧
      Twins old table store { registry with instances := registry.instances.insert kind id' } other' ∧
      table.find? kind = some id ∧
      Counterparts old table (registry.instances.insert kind id') id id' := by
  have inserted (id' : InstanceId) : (registry.instances.insert kind id').find? kind = some id' := by
    rw [Table.find?_insert, if_pos rfl]
  have twin := h.twin kind
  rw [bound, unmade] at twin
  generalize found : table.find? kind = first at twin
  cases twin with
  | @shared id _ _ before hands same =>
    obtain ⟨_, other', created, grows, gives⟩ := ValidatorStore.create_of_hands hands other
    cases gives
    have twin : Twin old registry.factory store other' (table.find? kind)
        (registry.classes.find? kind) (some id) := by
      rw [found, bound]
      exact .shared before hands (.inr rfl)
    exact ⟨id, id, other', created, h.insert grows (.inl before) twin, rfl, .shared before⟩
  | @unmade id _ validator own hands untouched =>
    obtain ⟨_, other', created, grows, gives⟩ := ValidatorStore.create_of_hands hands other
    cases gives with | fresh held
    have new (k : V.Kind) : registry.instances.find? k ≠ some ⟨other.instances.length⟩ := fun hk =>
      Nat.lt_irrefl _ (h.lt' hk)
    have twin : Twin old registry.factory store other' (table.find? kind)
        (registry.classes.find? kind) (some ⟨other.instances.length⟩) := by
      rw [found, bound]
      exact .made own h.room' untouched held
    exact ⟨id, _, other', created, h.insert grows (.inr new) twin, rfl,
      .own found (inserted _) own h.room'⟩

/-- A lookup finds nothing in both, or instances that stand for each other. -/
theorem find (h : Twins old table store registry other) (kind : V.Kind) :
    Twins old table store (registry.find other kind).registry (registry.find other kind).store ∧
      ((table.find? kind = none ∧ (registry.find other kind).instance? = none) ∨
        ∃ id id', table.find? kind = some id ∧ (registry.find other kind).instance? = some id' ∧
          Counterparts old table (registry.find other kind).registry.instances id id') ∧
      (registry.find other kind).moments.filterMap Moment.anonymous? = [] := by
  unfold OnDemandRegistry.find
  cases made : registry.instances.find? kind with
  | some id' =>
    refine ⟨h, .inr ?_, rfl⟩
    have twin := h.twin kind
    rw [made] at twin
    generalize found : table.find? kind = first at twin
    generalize registry.classes.find? kind = c at twin
    cases twin with
    | @shared id _ _ before hands same =>
      obtain rfl : id' = id := Option.some.inj (same.resolve_left (by simp))
      exact ⟨id', id', rfl, rfl, .shared before⟩
    | @made id _ _ _ own own' held held' => exact ⟨id, id', rfl, rfl, .own found made own own'⟩
  | none =>
    cases bound : registry.classes.find? kind with
    | none =>
      refine ⟨h, .inl ⟨?_, rfl⟩, rfl⟩
      have twin := h.twin kind
      rw [bound] at twin
      generalize table.find? kind = first at twin
      generalize registry.instances.find? kind = made at twin
      cases twin
      rfl
    | some c =>
      obtain ⟨id, id', other', created, twins, found, parts⟩ := h.make bound made
      dsimp only
      rw [created]
      exact ⟨twins, .inr ⟨id, id', found, rfl, parts⟩, rfl⟩

/-! ### Wiring -/

/-- Registering a class makes no instance. -/
theorem unused_addClass (unused : ∀ kind, registry.instances.find? kind = none) (kind : V.Kind)
    (c : ValidatorClass V) (k : V.Kind) : (registry.addClass kind c).instances.find? k = none := by
  unfold OnDemandRegistry.addClass
  dsimp only
  split
  · split
    · exact unused k
    · rw [Table.find?_erase, unused k, ite_self]
  · exact unused k

/-- As long as nothing has been looked up, an instance that is new in the first one keeps twins, if it
fits the class that is registered in the second one. -/
theorem addClass (h : Twins old table store registry other)
    (unused : ∀ kind, registry.instances.find? kind = none) {c : ValidatorClass V}
    (grows : store.instances <+: store'.instances)
    (new : id.index < old ∨ ∀ k, table.find? k ≠ some id)
    (twin : Twin old registry.factory store' other (some id) (some c) none) :
    Twins old (table.insert kind id) store' (registry.addClass kind c) other where
  room := Nat.le_trans h.room grows.length_le
  room' := h.room'
  agree shared before :=
    (h.agree shared before).trans
      (ValidatorStore.get?_of_lt_of_grown grows (Nat.lt_of_lt_of_le before h.room)).symm
  twin k := by
    have classes : (registry.addClass kind c).classes.find? k =
        if k = kind then some c else registry.classes.find? k := Table.find?_insert _ _ _ _
    rw [unused_addClass unused, classes, Table.find?_insert]
    split
    · exact twin
    · rw [← unused k]
      exact (h.twin k).mono (fun _ _ _ _ => ValidatorStore.get?_of_grown grows)
        fun _ _ _ _ held => held
  apart := h.apart.insert new kind
  apart' k _ _ hk := by cases (unused_addClass unused kind c k).symm.trans hk

/-- Binding an action type keeps twins, as long as nothing has been looked up. -/
theorem bind (h : Twins old table store registry other)
    (unused : ∀ kind, registry.instances.find? kind = none) {c : ValidatorClass V}
    (serves : registry.factory.Serves old c) (kind : V.Kind) :
    ∃ id store', store.create registry.factory c = (.ok id, store') ∧
      Twins old (table.insert kind id) store' (registry.addClass kind c) other := by
  rcases serves with ⟨validator, hands⟩ | ⟨id, before, hands⟩
  · obtain ⟨_, store', created, grows, gives⟩ := ValidatorStore.create_of_hands hands store
    cases gives with | fresh held
    have new (k : V.Kind) : table.find? k ≠ some ⟨store.instances.length⟩ := fun hk =>
      Nat.lt_irrefl _ (h.lt hk)
    exact ⟨_, store', created, h.addClass unused grows (.inr new) (.unmade h.room hands held)⟩
  · obtain ⟨_, store', created, grows, gives⟩ := ValidatorStore.create_of_hands hands store
    cases gives
    exact ⟨id, store', created,
      h.addClass unused grows (.inl before) (.shared before hands (.inl rfl))⟩

/-- Wiring the same bindings gives twins. -/
theorem link (h : Twins old table store registry other)
    (unused : ∀ kind, registry.instances.find? kind = none) {bindings : List (Binding V)}
    (serves : ∀ binding ∈ bindings, registry.factory.Serves old binding.guardedBy) :
    ∃ table' store' moments,
      Builder.linkInstances registry.factory bindings table store = (.ok (table', store'), moments) ∧
      Twins old table' store' (Builder.linkClasses bindings registry) other := by
  induction bindings generalizing table store registry with
  | nil => exact ⟨table, store, [], rfl, h⟩
  | cons binding bindings ih =>
    obtain ⟨id, store₁, created, twins⟩ :=
      h.bind unused (serves binding List.mem_cons_self) binding.handler.kind
    obtain ⟨table', store', moments, linked, twins⟩ :=
      ih twins (unused_addClass unused binding.handler.kind binding.guardedBy) fun later hlater =>
        serves later (List.mem_cons_of_mem _ hlater)
    refine ⟨table', store', .created binding.guardedBy (.ok id) :: moments, ?_, twins⟩
    have linked : Builder.linkInstances registry.factory bindings _ store₁ = _ := linked
    simp only [Builder.linkInstances, created, linked]

end Twins

end ActionDispatch
