import ActionDispatch.Proofs.Creations

/-!
# What the cache shows

With a factory that always gives the same class the same answer, does it show which lookups were made before?
A registry keeps an instance as long as the class that is registered is equal to the one it was made for, and
classes are equal when they name the same type, although the factory may be able to make only one of the two.
So what a lookup answers is told by the registered class and, where that cannot be made, by the instance's
origin (`Stock.lookup_isSome_iff`). Where no such two classes are registered for an action type, the origin
adds nothing, and lookups leave no trace in the answers (`lookup_transparent`).
-/

namespace ActionDispatch

variable {V : Vocabulary}

namespace Factory

/-- Whether a call succeeds depends on the class alone. -/
def Consistent (factory : Factory V) : Prop :=
  ∀ earlier c, (factory.create earlier c).isOk = (factory.create [] c).isOk

/-- A call for this class succeeds. -/
def CanMake (factory : Factory V) (c : ValidatorClass V) : Prop :=
  (factory.create [] c).isOk = true

/-- Of equal classes that are registered for the action type, the factory can make all or none. -/
def Impartial (factory : Factory V) (kind : V.Kind) (history : List (Operation V)) : Prop :=
  ∀ c d, .addClass kind c ∈ history → .addClass kind d ∈ history → c.same d = true →
    factory.CanMake c → factory.CanMake d

theorem initial_consistent : (Factory.initial : Factory V).Consistent := fun _ _ => rfl

theorem initial_canMake {c : ValidatorClass V} : Factory.initial.CanMake c ↔ c.initial.isSome := by
  rw [CanMake, initial]
  dsimp only
  cases c.initial with
  | none => exact ⟨nofun, nofun⟩
  | some validator => exact ⟨fun _ => rfl, fun _ => rfl⟩

end Factory

/-- None of the providers ever fails. -/
def Container.Reliable (container : Container V) : Prop :=
  ∀ id make, container.find? id = some (.each make) → ∀ n, (make n).isOk = true

theorem Container.Reliable.create_isOk {container : Container V} (h : container.Reliable)
    (earlier : List (ValidatorClass V)) (c : ValidatorClass V) :
    (container.factory.create earlier c).isOk =
      ((container.find? c.id).isSome || c.initial.isSome) := by
  dsimp only [factory]
  cases provided : container.find? c.id with
  | none =>
    dsimp only [Factory.initial]
    cases c.initial with
    | none | some => rfl
  | some provider =>
    cases provider with
    | shared id => rfl
    | each make =>
      have made := h c.id make provided (earlier.countP (·.id = c.id))
      change ((make (earlier.countP (·.id = c.id))).map Creation.fresh).isOk = true
      generalize make (earlier.countP (·.id = c.id)) = outcome at made
      cases outcome with
      | error => cases made
      | ok => rfl

theorem Container.Reliable.consistent {container : Container V} (h : container.Reliable) :
    container.factory.Consistent := fun earlier c =>
  (h.create_isOk earlier c).trans (h.create_isOk [] c).symm

namespace Operation

def isLookup : Operation V → Bool
  | .find _ => true
  | _ => false

/-- What an operation makes of the registered classes. -/
def rebind (classes : Table V.Kind (ValidatorClass V)) : Operation V → Table V.Kind (ValidatorClass V)
  | .addClass kind c => classes.insert kind c
  | .removeClass kind c =>
    match classes.find? kind with
    | some registered => if registered.same c then classes.erase kind else classes
    | none => classes
  | .clear | .find _ => classes

/-- The classes after an operation depend on the classes before alone. -/
theorem classes_apply (operation : Operation V) (stock : Stock V) :
    (operation.apply stock).registry.classes = operation.rebind stock.registry.classes := by
  cases operation with
  | addClass | clear => rfl
  | removeClass kind c =>
    dsimp only [apply, rebind]
    unfold OnDemandRegistry.removeClass
    cases stock.registry.classes.find? kind with
    | none => rfl
    | some registered =>
      dsimp only
      split <;> rfl
  | find kind =>
    obtain ⟨instances, registry⟩ := stock.lookup_registry kind
    rw [rebind, apply, registry]

theorem find?_rebind {classes : Table V.Kind (ValidatorClass V)} {operation : Operation V} {kind : V.Kind}
    {c : ValidatorClass V} (h : (operation.rebind classes).find? kind = some c) :
    classes.find? kind = some c ∨ operation = .addClass kind c := by
  cases operation with
  | clear | find => exact .inl h
  | addClass kind' d =>
    rw [rebind, Table.find?_insert] at h
    split at h
    · next same =>
      cases h
      exact .inr (same ▸ rfl)
    · exact .inl h
  | removeClass kind' d =>
    rw [rebind] at h
    split at h
    · split at h
      · rw [Table.find?_erase] at h
        split at h
        · cases h
        · exact .inl h
      · exact .inl h
    · exact .inl h

end Operation

namespace Stock

variable {start stock : Stock V} {history : List (Operation V)} {kind : V.Kind} {c d : ValidatorClass V}
  {id : InstanceId} {factory : Factory V}

theorem classes_after (stock : Stock V) (history : List (Operation V)) :
    (stock.after history).registry.classes = history.foldl Operation.rebind stock.registry.classes := by
  induction history generalizing stock with
  | nil => rfl
  | cons operation history ih =>
    exact (ih (operation.apply stock)).trans (by rw [operation.classes_apply]; rfl)

/-- Lookups leave no trace in the registered classes. -/
theorem class_without_lookups (start : Stock V) (history : List (Operation V)) (kind : V.Kind) :
    (start.after history).class? kind = (start.after (history.filter (!·.isLookup))).class? kind := by
  rw [class?, class?, classes_after, classes_after]
  generalize start.registry.classes = classes
  induction history generalizing classes with
  | nil => rfl
  | cons operation history ih =>
    cases operation with
    | addClass | removeClass | clear | find => exact ih _

/-- A class that is registered has been registered before. -/
theorem addClass_of_class {store : ValidatorStore V}
    (bound : ((new factory store).after history).class? kind = some c) : .addClass kind c ∈ history := by
  induction history using List.reverseRecOn with
  | nil => cases bound
  | append_singleton history operation ih =>
    rw [after_concat, class?, Operation.classes_apply] at bound
    rcases Operation.find?_rebind bound with earlier | rfl
    · exact List.mem_append_left _ (ih earlier)
    · exact List.mem_append_right _ (List.mem_singleton_self _)

/-! ### Instances and their origins -/

theorem Makes.spec (h : stock.Makes kind c id) :
    stock.instance? kind = none ∧ (stock.lookup kind).instance? = some id ∧
      (stock.store.create stock.registry.factory c).1.isOk = true := by
  obtain ⟨bound, made⟩ := h
  cases held : stock.instance? kind with
  | some id' =>
    rw [lookup_of_held held] at made
    cases made
  | none =>
    obtain ⟨-, found, -⟩ := lookup_eq_create held bound
    rcases lookup_of_unmade held bound with ⟨id', record, found', findings, -⟩ |
      ⟨fault, record, -, findings, -⟩
    · rw [findings] at made
      obtain rfl : id = id' := by simpa using made
      refine ⟨rfl, found', ?_⟩
      rw [found'] at found
      generalize (stock.store.create stock.registry.factory c).1 = outcome at found
      cases outcome with
      | error => cases found
      | ok => rfl
    · rw [findings] at made
      simp at made

/-- An instance that has an origin is held. -/
theorem Origin.held (h : start.Origin history kind c id) :
    (start.after history).instance? kind = some id := by
  obtain ⟨before, later, made, rfl, makes, -, spared⟩ := h
  have held : (start.after (before ++ [.find kind])).instance? kind = some id := by
    rw [after_concat, Operation.instance_find, if_pos rfl]
    exact makes.spec.2.1
  rw [← List.singleton_append, ← List.append_assoc, after_append]
  exact (calls_of_held spared held).2

/-- The class that an instance was made for can be made. -/
theorem Origin.canMake {store : ValidatorStore V} (consistent : factory.Consistent)
    (h : (new factory store).Origin history kind c id) :
    ∃ made, .addClass kind made ∈ history ∧ made.same c = true ∧ factory.CanMake made := by
  obtain ⟨before, later, made, rfl, makes, same, -⟩ := h
  refine ⟨made, List.mem_append_left _ (addClass_of_class makes.1), same, ?_⟩
  have succeeded := makes.spec.2.2
  rw [factory_after, ValidatorStore.create_isOk] at succeeded
  exact (consistent _ made).symm.trans succeeded

/-! ### Answers -/

/-- A lookup finds an instance just if there is a class that can be made, or one for which an equal class
was made and is not evicted. -/
theorem lookup_isSome_iff (consistent : factory.Consistent) (store : ValidatorStore V)
    (history : List (Operation V)) (kind : V.Kind) :
    let stock := (new factory store).after history
    (stock.lookup kind).instance?.isSome ↔
      ∃ c, stock.class? kind = some c ∧
        (factory.CanMake c ∨ ∃ id, (new factory store).Origin history kind c id) := by
  intro stock
  have same : stock.registry.factory = factory := factory_after _ history
  constructor
  · intro found
    obtain ⟨id, found⟩ := Option.isSome_iff_exists.1 found
    rcases lookup_cases found with held | ⟨c, makes⟩
    · obtain ⟨c, bound, origin⟩ := origin factory store held
      exact ⟨c, bound, .inr ⟨id, origin⟩⟩
    · have succeeded := makes.spec.2.2
      rw [same, ValidatorStore.create_isOk] at succeeded
      exact ⟨c, makes.1, .inl ((consistent _ c).symm.trans succeeded)⟩
  · rintro ⟨c, bound, makeable⟩
    cases held : stock.instance? kind with
    | some id =>
      rw [lookup_of_held held]
      rfl
    | none =>
      rcases makeable with makeable | ⟨id, origin⟩
      · have succeeds : (stock.store.create factory c).1.isOk = true := by
          rw [ValidatorStore.create_isOk]
          exact (consistent _ c).trans makeable
        rw [(lookup_eq_create held bound).2.1, same]
        generalize (stock.store.create factory c).1 = outcome at succeeds
        cases outcome with
        | error => cases succeeds
        | ok => rfl
      · cases held.symm.trans origin.held

/-- For a factory that answers by the class, in every state that a registry can reach: a lookup finds an
instance just if there is a class that can be made, or one with an equal class for which an instance was made
and not evicted since; once the instances are cleared, the class alone decides. For an action type for which
no two equal classes are registered of which only one can be made, the class alone always decides, the answer
stays when the instances are cleared, and it is that of every history with the same other operations,
whatever lookups are made in it. -/
theorem lookup_transparent (factory : Factory V) (consistent : factory.Consistent)
    (store : ValidatorStore V) (history : List (Operation V)) (kind : V.Kind) :
    let start := new factory store
    let stock := start.after history
    ((stock.lookup kind).instance?.isSome ↔ ∃ c, stock.class? kind = some c ∧
      (factory.CanMake c ∨ ∃ id, start.Origin history kind c id)) ∧
    (((Operation.clear.apply stock).lookup kind).instance?.isSome ↔
      ∃ c, stock.class? kind = some c ∧ factory.CanMake c) ∧
    (factory.Impartial kind history →
      ((stock.lookup kind).instance?.isSome ↔ ∃ c, stock.class? kind = some c ∧ factory.CanMake c) ∧
      ((Operation.clear.apply stock).lookup kind).instance?.isSome =
        (stock.lookup kind).instance?.isSome ∧
      ∀ other, other.filter (!·.isLookup) = history.filter (!·.isLookup) →
        ((start.after other).lookup kind).instance?.isSome = (stock.lookup kind).instance?.isSome) := by
  intro start stock
  have answers (history : List (Operation V)) :=
    lookup_isSome_iff consistent store history kind
  have byClass {history : List (Operation V)} (impartial : factory.Impartial kind history) :
      ((start.after history).lookup kind).instance?.isSome ↔
        ∃ c, (start.after history).class? kind = some c ∧ factory.CanMake c := by
    refine (answers history).trans (exists_congr fun c => and_congr_right fun bound =>
      or_iff_left_of_imp ?_)
    -- The instance was made for an equal class, so this one can be made as well.
    rintro ⟨id, origin⟩
    obtain ⟨made, added, equal, makeable⟩ := origin.canMake consistent
    exact impartial made c added (addClass_of_class bound) equal makeable
  have cleared : ((Operation.clear.apply stock).lookup kind).instance?.isSome ↔
      ∃ c, stock.class? kind = some c ∧ factory.CanMake c := by
    have answer := answers (history ++ [.clear])
    rw [after_concat] at answer
    refine answer.trans (exists_congr fun c => and_congr_right fun _ => or_iff_left_of_imp ?_)
    rintro ⟨id, origin⟩
    have held := origin.held
    rw [after_concat] at held
    cases held
  refine ⟨answers history, cleared, fun impartial => ⟨byClass impartial, ?_, fun other same => ?_⟩⟩
  · exact Bool.eq_iff_iff.2 (cleared.trans (byClass impartial).symm)
  · have registered (c : ValidatorClass V) (h : .addClass kind c ∈ other) : .addClass kind c ∈ history := by
      have kept : Operation.addClass kind c ∈ other.filter (!·.isLookup) := List.mem_filter.2 ⟨h, rfl⟩
      rw [same] at kept
      exact (List.mem_filter.1 kept).1
    have impartial' : factory.Impartial kind other := fun c d hc hd =>
      impartial c d (registered c hc) (registered d hd)
    have classes : (start.after other).class? kind = stock.class? kind := by
      rw [class_without_lookups, same, ← class_without_lookups]
    rw [Bool.eq_iff_iff, byClass impartial', byClass impartial, classes]

end Stock

namespace Doors

/-- Puts a lock in, uses it, and replaces it by one of the same type that has to be provided. -/
def replaced : List (Operation vocabulary) :=
  [.addClass Door.front (lock .key), .find Door.front, .addClass Door.front (.injected .key)]

/-- Nothing provides the lock, but the one that was used before is still found, until the instances are
cleared; had it not been used before, none would be found. -/
theorem unprovided_lock_found :
    let start := Stock.new (Factory.initial : Factory vocabulary) {}
    let stock := start.after replaced
    Factory.Consistent (V := vocabulary) .initial ∧
    (stock.lookup Door.front).instance? = some ⟨0⟩ ∧
    ¬(∃ c, stock.class? Door.front = some c ∧ Factory.initial.CanMake c) ∧
    ((Operation.clear.apply stock).lookup Door.front).instance? = none ∧
    replaced.filter (!·.isLookup) = replaced.eraseIdx 1 ∧
    ((start.after (replaced.eraseIdx 1)).lookup Door.front).instance? = none := by
  refine ⟨Factory.initial_consistent, rfl, ?_, rfl, rfl, rfl⟩
  rintro ⟨c, bound, makeable⟩
  cases bound
  cases Factory.initial_canMake.1 makeable

/-- Locks with a key are provided. -/
def stocked : Container vocabulary := Table.empty.insert .key (.each fun _ => .ok ())

theorem stocked_reliable : stocked.Reliable := by
  intro id make provided n
  cases id with
  | code => cases provided
  | key =>
    cases provided
    rfl

/-- With a provider, the cache does not show. -/
theorem provided_lock_transparent :
    let start := Stock.new stocked.factory {}
    let stock := start.after replaced
    stocked.factory.Consistent ∧ stocked.factory.Impartial Door.front replaced ∧
    ((stock.lookup Door.front).instance?.isSome ↔
      ∃ c, stock.class? Door.front = some c ∧ stocked.factory.CanMake c) ∧
    ((Operation.clear.apply stock).lookup Door.front).instance?.isSome =
      (stock.lookup Door.front).instance?.isSome ∧
    ((start.after (replaced.eraseIdx 1)).lookup Door.front).instance?.isSome =
      (stock.lookup Door.front).instance?.isSome ∧
    (stock.lookup Door.front).instance? = some ⟨0⟩ := by
  have consistent := stocked_reliable.consistent
  have impartial : stocked.factory.Impartial Door.front replaced := by
    intro c d hc hd same makeable
    have key : d.id = .key := by
      simp only [replaced, List.mem_cons, reduceCtorEq, false_or, or_false, List.not_mem_nil] at hd
      rcases hd with same | same
      · cases same
        rfl
      · cases same
        rfl
    rw [Factory.CanMake, stocked_reliable.create_isOk, key]
    rfl
  obtain ⟨-, -, transparent⟩ := Stock.lookup_transparent stocked.factory consistent {} replaced Door.front
  obtain ⟨byClass, cleared, others⟩ := transparent impartial
  exact ⟨consistent, impartial, byClass, cleared, others _ rfl, rfl⟩

end Doors

end ActionDispatch
