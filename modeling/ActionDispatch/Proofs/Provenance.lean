import ActionDispatch.Validator.Registry
import Mathlib.Data.List.Induction

/-!
# Where instances come from

What a registry that makes its instances on demand holds, after any history of operations on it. Each
instance goes back to one lookup of its action type, in which the factory made it for a class equal to the
one that is registered now, and since which nothing evicted it (`Stock.Origin`). The facts are those of a
single operation (`Operation.instance_cases`, `Operation.class_of_spared`), carried along a history by
`Stock.origin`; `lookups_never_stale` states what they mean for lookups.
-/

namespace ActionDispatch

variable {V : Vocabulary}

/-- What is done with a registry that makes its instances on demand. -/
inductive Operation (V : Vocabulary)
  | addClass (kind : V.Kind) (c : ValidatorClass V)
  | removeClass (kind : V.Kind) (c : ValidatorClass V)
  | clear
  | find (kind : V.Kind)

/-- A registry that makes its instances on demand, with the instances that there are. -/
structure Stock (V : Vocabulary) where
  registry : OnDemandRegistry V
  store : ValidatorStore V

namespace Stock

/-- A new registry for this factory. -/
def new (factory : Factory V) (store : ValidatorStore V) : Stock V := ⟨{ factory }, store⟩

def instance? (stock : Stock V) (kind : V.Kind) : Option InstanceId :=
  stock.registry.instances.find? kind

def class? (stock : Stock V) (kind : V.Kind) : Option (ValidatorClass V) :=
  stock.registry.classes.find? kind

/-- What a lookup gives now. -/
def lookup (stock : Stock V) (kind : V.Kind) : Found (OnDemandRegistry V) V :=
  stock.registry.find stock.store kind

/-- A lookup calls the factory now, and the factory gives this instance for this class. -/
def Makes (stock : Stock V) (kind : V.Kind) (c : ValidatorClass V) (id : InstanceId) : Prop :=
  stock.class? kind = some c ∧ .created c (.ok id) ∈ (stock.lookup kind).findings

end Stock

namespace Operation

def apply (stock : Stock V) : Operation V → Stock V
  | .addClass kind c => { stock with registry := stock.registry.addClass kind c }
  | .removeClass kind c => { stock with registry := (stock.registry.removeClass kind c).1 }
  | .clear => { stock with registry := stock.registry.clear }
  | .find kind => ⟨(stock.lookup kind).registry, (stock.lookup kind).store⟩

/-- The one action type that an operation is about. -/
def kind? : Operation V → Option V.Kind
  | .addClass kind _ | .removeClass kind _ | .find kind => some kind
  | .clear => none

/-- The operation evicts what is held for the action type: all instances are cleared, a class is removed
that equals the one of the type, or another class takes its place. -/
def Evicts (stock : Stock V) (kind : V.Kind) : Operation V → Prop
  | .addClass kind' c => kind' = kind ∧ ∃ previous, stock.class? kind = some previous ∧
      previous.same c = false
  | .removeClass kind' c => kind' = kind ∧ ∃ registered, stock.class? kind = some registered ∧
      registered.same c = true
  | .clear => True
  | .find _ => False

end Operation

namespace Stock

/-- The stock after some operations. -/
def after (stock : Stock V) (history : List (Operation V)) : Stock V :=
  history.foldl Operation.apply stock

/-- None of these operations evicts what is held for the action type. -/
def Spared (kind : V.Kind) : Stock V → List (Operation V) → Prop
  | _, [] => True
  | stock, operation :: history =>
    ¬operation.Evicts stock kind ∧ Spared kind (operation.apply stock) history

/-- An instance was made in a lookup of this action type, for a class equal to this one, and nothing has
evicted it since. -/
def Origin (start : Stock V) (history : List (Operation V)) (kind : V.Kind) (c : ValidatorClass V)
    (id : InstanceId) : Prop :=
  ∃ before after made, history = before ++ .find kind :: after ∧
    (start.after before).Makes kind made id ∧ made.same c = true ∧
    (start.after (before ++ [.find kind])).Spared kind after

variable {start stock : Stock V} {history : List (Operation V)} {operation : Operation V}
  {kind other : V.Kind} {c d : ValidatorClass V} {id : InstanceId}

@[simp] theorem after_nil (start : Stock V) : start.after [] = start := rfl

theorem after_append (start : Stock V) (before history : List (Operation V)) :
    start.after (before ++ history) = (start.after before).after history :=
  List.foldl_append

theorem after_concat (start : Stock V) (history : List (Operation V)) (operation : Operation V) :
    start.after (history ++ [operation]) = operation.apply (start.after history) :=
  start.after_append history [operation]

theorem Spared.concat (h : stock.Spared kind history)
    (spares : ¬operation.Evicts (stock.after history) kind) :
    stock.Spared kind (history ++ [operation]) := by
  induction history generalizing stock with
  | nil => exact ⟨spares, trivial⟩
  | cons first history ih => exact ⟨h.1, ih h.2 spares⟩

theorem Spared.not_evicts {later : List (Operation V)}
    (h : stock.Spared kind (history ++ operation :: later)) :
    ¬operation.Evicts (stock.after history) kind := by
  induction history generalizing stock with
  | nil => exact h.1
  | cons first history ih => exact ih h.2

theorem same_trans {made : ValidatorClass V} (h : made.same c = true) (h' : c.same d = true) :
    made.same d = true := by
  simp_all [ValidatorClass.same]

/-! ### Lookups -/

/-- An instance that is held is found, and the factory is not called. -/
theorem lookup_of_held (held : stock.instance? kind = some id) :
    stock.lookup kind = ⟨some id, stock.registry, stock.store, []⟩ := by
  have held : stock.registry.instances.find? kind = some id := held
  simp [lookup, OnDemandRegistry.find, held]

/-- Without an instance and without a class nothing is found, and the factory is not called. -/
theorem lookup_of_unbound (unheld : stock.instance? kind = none) (unbound : stock.class? kind = none) :
    stock.lookup kind = ⟨none, stock.registry, stock.store, []⟩ := by
  have unheld : stock.registry.instances.find? kind = none := unheld
  have unbound : stock.registry.classes.find? kind = none := unbound
  simp [lookup, OnDemandRegistry.find, unheld, unbound]

/-- Where there is a class only, a lookup calls the factory for it. What the factory makes is found, and held
from then on; when it fails, nothing is found and the registry stays as it is. -/
theorem lookup_of_unmade (unheld : stock.instance? kind = none) (bound : stock.class? kind = some c) :
    (∃ id record, (stock.lookup kind).instance? = some id ∧
      (stock.lookup kind).findings = [.created c (.ok id), .logged record] ∧
      (stock.lookup kind).registry =
        { stock.registry with instances := stock.registry.instances.insert kind id }) ∨
    ∃ fault record, (stock.lookup kind).instance? = none ∧
      (stock.lookup kind).findings = [.created c (.error fault), .logged record] ∧
      (stock.lookup kind).registry = stock.registry := by
  have unheld : stock.registry.instances.find? kind = none := unheld
  have bound : stock.registry.classes.find? kind = some c := bound
  unfold lookup OnDemandRegistry.find
  rw [unheld, bound]
  dsimp only
  rcases stock.store.create stock.registry.factory c with ⟨_ | id, store⟩
  · exact .inr ⟨_, _, rfl, rfl, rfl⟩
  · exact .inl ⟨id, _, rfl, rfl, rfl⟩

/-- What a lookup finds was held, or is made in it. -/
theorem lookup_cases (h : (stock.lookup kind).instance? = some id) :
    stock.instance? kind = some id ∨ ∃ c, stock.Makes kind c id := by
  cases held : stock.instance? kind with
  | some id' =>
    rw [lookup_of_held held] at h
    exact .inl h
  | none =>
    cases bound : stock.class? kind with
    | none =>
      rw [lookup_of_unbound held bound] at h
      cases h
    | some c =>
      rcases lookup_of_unmade held bound with ⟨id', record, found, findings, -⟩ | ⟨_, _, found, -⟩
      · cases found.symm.trans h
        refine .inr ⟨c, bound, ?_⟩
        rw [findings]
        exact List.mem_cons_self
      · cases found.symm.trans h

/-! ### One operation -/

end Stock

namespace Operation

variable {stock : Stock V} {operation : Operation V} {kind other : V.Kind} {c d : ValidatorClass V}
  {id : InstanceId}

/-- A lookup leaves all classes alone. -/
theorem class_find (stock : Stock V) (kind other : V.Kind) :
    ((find kind).apply stock).class? other = stock.class? other := by
  cases held : stock.instance? kind with
  | some id => rw [apply, Stock.lookup_of_held held]
  | none =>
    cases bound : stock.class? kind with
    | none => rw [apply, Stock.lookup_of_unbound held bound]
    | some c =>
      rcases Stock.lookup_of_unmade held bound with ⟨_, _, -, -, registry⟩ | ⟨_, _, -, -, registry⟩
      · rw [apply, Stock.class?, registry, Stock.class?]
      · rw [apply, Stock.class?, registry, Stock.class?]

/-- What a lookup finds is held afterwards, and all else is held as before. -/
theorem instance_find (stock : Stock V) (kind other : V.Kind) :
    ((find kind).apply stock).instance? other =
      if other = kind then (stock.lookup kind).instance? else stock.instance? other := by
  cases held : stock.instance? kind with
  | some id =>
    rw [apply, Stock.lookup_of_held held]
    split
    · next same => exact same ▸ held
    · rfl
  | none =>
    cases bound : stock.class? kind with
    | none =>
      rw [apply, Stock.lookup_of_unbound held bound]
      split
      · next same => exact same ▸ held
      · rfl
    | some c =>
      rcases Stock.lookup_of_unmade held bound with ⟨id, _, found, -, registry⟩ |
        ⟨_, _, found, -, registry⟩
      · rw [apply, Stock.instance?, registry, found, Table.find?_insert]
        rfl
      · rw [apply, Stock.instance?, registry, found]
        split
        · next same => exact same ▸ held
        · rfl

/-- An operation about one action type leaves the class and the instance of every other type alone. -/
theorem apply_of_ne (about : operation.kind? = some kind) (ne : other ≠ kind) :
    (operation.apply stock).class? other = stock.class? other ∧
      (operation.apply stock).instance? other = stock.instance? other := by
  cases operation with
  | clear => cases about
  | addClass kind' c =>
    cases about
    simp only [apply, Stock.class?, Stock.instance?, OnDemandRegistry.addClass, Table.find?_insert, if_neg ne,
      true_and]
    split
    · split
      · rfl
      · rw [Table.find?_erase, if_neg ne]
    · rfl
  | removeClass kind' c =>
    cases about
    simp only [apply, Stock.class?, Stock.instance?, OnDemandRegistry.removeClass]
    split
    · split
      · simp [Table.find?_erase, ne]
      · exact ⟨rfl, rfl⟩
    · exact ⟨rfl, rfl⟩
  | find kind' =>
    cases about
    exact ⟨class_find stock kind other, (instance_find stock kind other).trans (if_neg ne)⟩

/-- What is held after an operation was held before and is not evicted, or the operation is a lookup of its
action type that makes it. -/
theorem instance_cases (h : (operation.apply stock).instance? kind = some id) :
    stock.instance? kind = some id ∧ ¬operation.Evicts stock kind ∨
      operation = .find kind ∧ ∃ c, stock.Makes kind c id := by
  cases operation with
  | clear => cases h
  | addClass kind' c =>
    by_cases same : kind' = kind
    · subst same
      simp only [apply, Stock.instance?, OnDemandRegistry.addClass] at h
      split at h
      · next previous bound =>
        split at h
        · next equal =>
          refine .inl ⟨h, ?_⟩
          rintro ⟨-, previous', bound', unequal⟩
          cases bound.symm.trans bound'
          rw [equal] at unequal
          cases unequal
        · rw [Table.find?_erase, if_pos rfl] at h
          cases h
      · next unbound =>
        refine .inl ⟨h, ?_⟩
        rintro ⟨-, previous, bound, -⟩
        cases unbound.symm.trans bound
    · rw [(apply_of_ne rfl (Ne.symm same)).2] at h
      exact .inl ⟨h, fun evicts => same evicts.1⟩
  | removeClass kind' c =>
    by_cases same : kind' = kind
    · subst same
      simp only [apply, Stock.instance?, OnDemandRegistry.removeClass] at h
      split at h
      · next registered bound =>
        split at h
        · rw [Table.find?_erase, if_pos rfl] at h
          cases h
        · next unequal =>
          refine .inl ⟨h, ?_⟩
          rintro ⟨-, registered', bound', equal⟩
          cases bound.symm.trans bound'
          exact unequal equal
      · next unbound =>
        refine .inl ⟨h, ?_⟩
        rintro ⟨-, registered, bound, -⟩
        cases unbound.symm.trans bound
    · rw [(apply_of_ne rfl (Ne.symm same)).2] at h
      exact .inl ⟨h, fun evicts => same evicts.1⟩
  | find kind' =>
    rw [instance_find] at h
    split at h
    · next same =>
      subst same
      rcases Stock.lookup_cases h with held | makes
      · exact .inl ⟨held, fun evicts => evicts⟩
      · exact .inr ⟨rfl, makes⟩
    · exact .inl ⟨h, fun evicts => evicts⟩

/-- Where nothing is evicted, the class stays, up to equality. -/
theorem class_of_spared (spared : ¬operation.Evicts stock kind) (h : stock.class? kind = some c) :
    ∃ d, (operation.apply stock).class? kind = some d ∧ c.same d = true := by
  have unchanged : c.same c = true := decide_eq_true rfl
  cases operation with
  | clear => exact (spared trivial).elim
  | addClass kind' d =>
    by_cases same : kind' = kind
    · subst same
      refine ⟨d, ?_, ?_⟩
      · simp [apply, Stock.class?, OnDemandRegistry.addClass, Table.find?_insert]
      · by_contra unequal
        exact spared ⟨rfl, c, h, by simpa using unequal⟩
    · exact ⟨c, (apply_of_ne rfl (Ne.symm same)).1.trans h, unchanged⟩
  | removeClass kind' d =>
    by_cases same : kind' = kind
    · subst same
      refine ⟨c, ?_, unchanged⟩
      have unequal : ¬c.same d = true := fun equal => spared ⟨rfl, c, h, equal⟩
      have bound : stock.registry.classes.find? kind' = some c := h
      simp only [apply, Stock.class?, OnDemandRegistry.removeClass]
      rw [bound]
      dsimp only
      rw [if_neg unequal]
      exact bound
    · exact ⟨c, (apply_of_ne rfl (Ne.symm same)).1.trans h, unchanged⟩
  | find kind' => exact ⟨c, (class_find stock kind' kind).trans h, unchanged⟩

end Operation

namespace Stock

variable {start stock : Stock V} {history : List (Operation V)} {operation : Operation V}
  {kind : V.Kind} {c d : ValidatorClass V} {id : InstanceId}

/-! ### Histories -/

/-- An origin stays one under an operation that evicts nothing. -/
theorem Origin.concat (h : start.Origin history kind c id) (equal : c.same d = true)
    (spares : ¬operation.Evicts (start.after history) kind) :
    start.Origin (history ++ [operation]) kind d id := by
  obtain ⟨before, later, made, rfl, makes, same, spared⟩ := h
  refine ⟨before, later ++ [operation], made, by simp, makes, same_trans same equal,
    spared.concat ?_⟩
  rwa [← after_append, List.append_assoc, List.singleton_append]

/-- A lookup that makes an instance is its origin. -/
theorem Makes.origin (makes : (start.after history).Makes kind c id) (equal : c.same d = true) :
    start.Origin (history ++ [.find kind]) kind d id :=
  ⟨history, [], c, rfl, makes, equal, trivial⟩

/-- What evicts comes before an origin, never after it. -/
theorem Origin.since {earlier later : List (Operation V)}
    (h : start.Origin (earlier ++ operation :: later) kind c id)
    (evicts : operation.Evicts (start.after earlier) kind) :
    ∃ between rest made, later = between ++ .find kind :: rest ∧
      (start.after (earlier ++ operation :: between)).Makes kind made id ∧ made.same c = true := by
  obtain ⟨before, after, made, eq, makes, same, spared⟩ := h
  rcases List.append_eq_append_iff.1 eq with ⟨more, rfl, tail⟩ | ⟨more, rfl, tail⟩
  · cases more with
    | nil =>
      cases tail
      exact evicts.elim
    | cons first between =>
      cases tail
      exact ⟨between, after, made, rfl, makes, same⟩
  · cases more with
    | nil =>
      cases tail
      exact evicts.elim
    | cons first more =>
      cases tail
      refine (spared.not_evicts ?_).elim
      rwa [← after_append, List.append_assoc, List.singleton_append]

/-- Every instance that is held has a class next to it, and an origin. -/
theorem origin (factory : Factory V) (store : ValidatorStore V)
    (held : ((new factory store).after history).instance? kind = some id) :
    ∃ c, ((new factory store).after history).class? kind = some c ∧
      (new factory store).Origin history kind c id := by
  induction history using List.reverseRecOn generalizing kind id with
  | nil => cases held
  | append_singleton history operation ih =>
    rw [after_concat] at held ⊢
    rcases Operation.instance_cases held with ⟨earlier, spared⟩ | ⟨rfl, c, makes⟩
    · obtain ⟨c, bound, origin⟩ := ih earlier
      obtain ⟨d, bound', equal⟩ := Operation.class_of_spared spared bound
      exact ⟨d, bound', origin.concat equal spared⟩
    · have spared : ¬(Operation.find kind).Evicts ((new factory store).after history) kind := not_false
      obtain ⟨d, bound, equal⟩ := Operation.class_of_spared spared makes.1
      exact ⟨d, bound, makes.origin equal⟩

/-- So does every instance that is found. -/
theorem origin_of_found (factory : Factory V) (store : ValidatorStore V)
    (found : (((new factory store).after history).lookup kind).instance? = some id) :
    ∃ c, ((new factory store).after history).class? kind = some c ∧
      (new factory store).Origin (history ++ [.find kind]) kind c id := by
  rcases lookup_cases found with held | ⟨c, makes⟩
  · obtain ⟨c, bound, origin⟩ := Stock.origin factory store held
    exact ⟨c, bound, origin.concat (decide_eq_true rfl) fun evicts => evicts⟩
  · exact ⟨c, makes.1, makes.origin (decide_eq_true rfl)⟩

/-- In every state that a registry with a factory can reach, what is held for an action type was made by a
lookup, for a class equal to the one that is registered, and has not been evicted since; what a lookup finds
was made so as well, after whatever evicted an instance of that type before. Without a class nothing is found
and nothing is made, and what is done for one type leaves all others alone. -/
theorem lookups_never_stale (factory : Factory V) (store : ValidatorStore V)
    (history : List (Operation V)) :
    let start := new factory store
    let stock := start.after history
    (∀ kind id, stock.instance? kind = some id →
      ∃ c, stock.class? kind = some c ∧ start.Origin history kind c id) ∧
    (∀ kind id, (stock.lookup kind).instance? = some id →
      ∃ c, stock.class? kind = some c ∧ start.Origin (history ++ [.find kind]) kind c id) ∧
    (∀ kind id earlier operation later, history = earlier ++ operation :: later →
      operation.Evicts (start.after earlier) kind → (stock.lookup kind).instance? = some id →
      ∃ between rest made, later ++ [.find kind] = between ++ .find kind :: rest ∧
        (start.after (earlier ++ operation :: between)).Makes kind made id) ∧
    (∀ kind, stock.class? kind = none →
      (stock.lookup kind).instance? = none ∧ (stock.lookup kind).findings = []) ∧
    ∀ (operation : Operation V) (kind other : V.Kind), operation.kind? = some kind → other ≠ kind →
      (operation.apply stock).class? other = stock.class? other ∧
      (operation.apply stock).instance? other = stock.instance? other := by
  intro start stock
  refine ⟨fun _ _ held => origin factory store held, fun _ _ found => origin_of_found factory store found,
    ?later, ?unbound, fun _ _ _ about ne => Operation.apply_of_ne about ne⟩
  case later =>
    rintro kind id earlier operation later rfl evicts found
    obtain ⟨c, -, origin⟩ := origin_of_found factory store found
    rw [List.append_assoc, List.cons_append] at origin
    obtain ⟨between, rest, made, eq, makes, -⟩ := origin.since evicts
    exact ⟨between, rest, made, eq, makes⟩
  case unbound =>
    intro kind unbound
    have unheld : stock.instance? kind = none := by
      by_contra held
      obtain ⟨id, held⟩ := Option.ne_none_iff_exists'.1 held
      obtain ⟨c, bound, -⟩ := origin factory store held
      cases unbound.symm.trans bound
    rw [lookup_of_unbound unheld unbound]
    exact ⟨rfl, rfl⟩

end Stock

/-! ### Doors of one name -/

namespace Doors

inductive Door
  | front | back
  deriving DecidableEq

inductive Lock
  | key | code
  deriving DecidableEq

/-- Both doors are opened by an action of the same name, and a lock of one of two types guards each. -/
def vocabulary : Vocabulary where
  Kind := Door
  kindName _ := "OpenDoor"
  Input _ := Unit
  Output _ := Unit
  Handler _ := Unit
  Class := Lock
  className
    | .key => "Key"
    | .code => "Code"
  Validator := Unit
  World := Unit
  Note := Empty

def lock (id : Lock) : ValidatorClass vocabulary := .ofInitial id ()

/-- Makes every lock, but fails when it is called for the first time. -/
def factory : Factory vocabulary where
  create
    | [], _ => .error (.ofText "Out of stock" [])
    | _ :: _, _ => .ok (.fresh ())

def fitted : List (Operation vocabulary) :=
  [.addClass Door.front (lock .key), .addClass Door.back (lock .key), .find Door.front, .find Door.front,
    .find Door.back]

/-- Changes the lock of the front door for one of the other type. -/
def refit : Operation vocabulary := .addClass Door.front (lock .code)

def start : Stock vocabulary := .new factory {}

/-- The front door has the third lock that was made: the first one was left behind with its class, and the
second one is that of the back door. -/
theorem refitted_never_stale :
    let history := fitted ++ [refit, .find Door.front]
    let stock := start.after history
    ((start.after fitted).instance? Door.front = some ⟨0⟩ ∧ stock.instance? Door.front = some ⟨2⟩ ∧
      ∃ c, stock.class? Door.front = some c ∧ start.Origin history Door.front c ⟨2⟩) ∧
    (refit.Evicts (start.after fitted) Door.front ∧ (stock.lookup Door.front).instance? = some ⟨2⟩ ∧
      ∃ between rest made,
        [Operation.find Door.front] ++ [.find Door.front] = between ++ Operation.find Door.front :: rest ∧
        (start.after (fitted ++ refit :: between)).Makes Door.front made ⟨2⟩) ∧
    stock.instance? Door.back = some ⟨1⟩ ∧
      ((Operation.removeClass Door.front (lock .code)).apply stock).instance? Door.back =
        stock.instance? Door.back := by
  have never := Stock.lookups_never_stale factory {} (fitted ++ [refit, .find Door.front])
  have evicts : refit.Evicts (start.after fitted) Door.front := ⟨rfl, lock .key, rfl, rfl⟩
  refine ⟨⟨rfl, rfl, never.1 Door.front ⟨2⟩ rfl⟩, ⟨evicts, rfl, ?_⟩, rfl, ?_⟩
  · exact never.2.2.1 Door.front ⟨2⟩ fitted refit [.find Door.front] rfl evicts rfl
  · exact (never.2.2.2.2 (.removeClass Door.front (lock .code)) Door.front Door.back rfl nofun).2

end Doors

end ActionDispatch
