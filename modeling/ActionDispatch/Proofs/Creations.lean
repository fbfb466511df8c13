import ActionDispatch.Proofs.Provenance
import Mathlib.Data.Set.Card

/-!
# How often instances are made

What a registry that makes its instances on demand asks of its factory, over any history. As long as nothing
evicts what is held for an action type, the calls for it come to one of two things: all have failed so far, or
they failed until one made an instance, and this was the last (`Stock.calls_yield`). `created_once` tells this
lookup by lookup, and counts the instances that are held.
-/

namespace ActionDispatch

variable {V : Vocabulary}

/-- The number of keys is that of the entries. -/
theorem Table.encard_keys {κ α : Type} [DecidableEq κ] (t : Table κ α) :
    {k | (t.find? k).isSome}.encard = t.size := by
  have keys : {k | (t.find? k).isSome} = ((t.entries.map Prod.fst).toFinset : Set κ) := by
    ext k
    simp [find?]
  rw [keys, Set.encard_coe_eq_coe_finsetCard, List.toFinset_card_of_nodup t.nodup, List.length_map]
  rfl

/-- A call of the factory: the class that it is for, and what came of it. -/
structure FactoryCall (V : Vocabulary) where
  guardedBy : ValidatorClass V
  outcome : Except Fault InstanceId

def FactoryCall.succeeded (call : FactoryCall V) : Bool := call.outcome.isOk

/-- The call that a finding tells of. -/
def Finding.call? : Finding V → Option (FactoryCall V)
  | .created c outcome => some ⟨c, outcome⟩
  | .logged _ => none

def Found.calls {ρ : Type} (found : Found ρ V) : List (FactoryCall V) :=
  found.findings.filterMap Finding.call?

/-- The calls of the factory that an operation makes for an action type. -/
def Operation.calls (stock : Stock V) (kind : V.Kind) : Operation V → List (FactoryCall V)
  | .find kind' => if kind' = kind then (stock.lookup kind').calls else []
  | _ => []

/-- What becomes of an action type without an instance when these calls are made for it: as long as they
fail, nothing, and the first that succeeds is the last. -/
inductive Yields : List (FactoryCall V) → Option InstanceId → Prop
  | nothing {failed} (fails : ∀ call ∈ failed, call.succeeded = false) : Yields failed none
  | made {failed c id} (fails : ∀ call ∈ failed, call.succeeded = false) :
      Yields (failed ++ [⟨c, .ok id⟩]) (some id)

namespace Yields

variable {calls : List (FactoryCall V)} {held : Option InstanceId}

theorem cons {call : FactoryCall V} (failed : call.succeeded = false) (h : Yields calls held) :
    Yields (call :: calls) held := by
  cases h with
  | nothing fails => exact .nothing (List.forall_mem_cons.2 ⟨failed, fails⟩)
  | made fails => exact .made (List.forall_mem_cons.2 ⟨failed, fails⟩)

theorem countP_le_one (h : Yields calls held) : calls.countP FactoryCall.succeeded ≤ 1 := by
  have none_of {failed : List (FactoryCall V)} (fails : ∀ call ∈ failed, call.succeeded = false) :
      failed.countP FactoryCall.succeeded = 0 :=
    List.countP_eq_zero.2 fun call hcall => by simp [fails call hcall]
  cases h with
  | nothing fails => exact (none_of fails).le.trans (Nat.zero_le 1)
  | made fails =>
    rw [List.countP_append, none_of fails, Nat.zero_add]
    exact List.countP_le_length

theorem eq_none (h : Yields calls held) (fails : ∀ call ∈ calls, call.succeeded = false) :
    held = none := by
  cases h with
  | nothing => rfl
  | @made failed c id => cases fails ⟨c, .ok id⟩ (by simp)

theorem eq_some (h : Yields calls held) {c : ValidatorClass V} {id : InstanceId}
    (made : ⟨c, .ok id⟩ ∈ calls) : held = some id := by
  cases h with
  | nothing fails => cases fails _ made
  | made fails =>
    rcases List.mem_append.1 made with made | made
    · cases fails _ made
    · cases List.mem_singleton.1 made
      rfl

theorem isSome_iff (h : Yields calls held) :
    held.isSome ↔ ∃ call ∈ calls, call.succeeded = true := by
  cases h with
  | nothing fails =>
    refine ⟨nofun, fun ⟨call, hcall, succeeded⟩ => ?_⟩
    cases (fails call hcall).symm.trans succeeded
  | @made failed c id => exact ⟨fun _ => ⟨⟨c, .ok id⟩, by simp, rfl⟩, fun _ => rfl⟩

end Yields

namespace Stock

/-- The calls of the factory for an action type in the course of a history. -/
def calls (kind : V.Kind) : Stock V → List (Operation V) → List (FactoryCall V)
  | _, [] => []
  | stock, operation :: history =>
    operation.calls stock kind ++ calls kind (operation.apply stock) history

/-- A stretch of a history that follows either an eviction of what is held for the action type or the very
beginning, and in which nothing is evicted. -/
structure Period (start : Stock V) (kind : V.Kind) (before stretch : List (Operation V)) : Prop where
  begins : before = [] ∨ ∃ earlier operation, before = earlier ++ [operation] ∧
    operation.Evicts (start.after earlier) kind
  spared : (start.after before).Spared kind stretch

variable {stock : Stock V} {kind : V.Kind} {c : ValidatorClass V} {id : InstanceId}

/-- Where there is a class only, a lookup is one call of the factory, for that class. If it fails, the
registry stays as it is. -/
theorem lookup_eq_create (unheld : stock.instance? kind = none) (bound : stock.class? kind = some c) :
    let made := stock.store.create stock.registry.factory c
    (stock.lookup kind).calls = [⟨c, made.1⟩] ∧ (stock.lookup kind).instance? = made.1.toOption ∧
      (stock.lookup kind).store = made.2 ∧
      (made.1.isOk = false → (stock.lookup kind).registry = stock.registry) := by
  have unheld : stock.registry.instances.find? kind = none := unheld
  have bound : stock.registry.classes.find? kind = some c := bound
  unfold lookup OnDemandRegistry.find
  rw [unheld, bound]
  dsimp only
  rcases stock.store.create stock.registry.factory c with ⟨_ | id, store⟩
  · exact ⟨rfl, rfl, rfl, fun _ => rfl⟩
  · exact ⟨rfl, rfl, rfl, nofun⟩

/-- A lookup changes nothing in the registry but the instances. -/
theorem lookup_registry (stock : Stock V) (kind : V.Kind) :
    ∃ instances, (stock.lookup kind).registry = { stock.registry with instances } := by
  cases held : stock.instance? kind with
  | some id => exact ⟨_, congrArg Found.registry (lookup_of_held held)⟩
  | none =>
    cases bound : stock.class? kind with
    | none => exact ⟨_, congrArg Found.registry (lookup_of_unbound held bound)⟩
    | some c =>
      rcases lookup_of_unmade held bound with ⟨_, _, -, -, registry⟩ | ⟨_, _, -, -, registry⟩
      · exact ⟨_, registry⟩
      · exact ⟨_, registry⟩

end Stock

/-! ### One operation -/

namespace Operation

variable {stock : Stock V} {operation : Operation V} {kind : V.Kind} {id : InstanceId}

/-- An operation that is no lookup and evicts nothing leaves what is held. -/
theorem instance_of_spared (spared : ¬operation.Evicts stock kind)
    (idle : ∀ kind, operation ≠ .find kind) :
    (operation.apply stock).instance? kind = stock.instance? kind := by
  cases operation with
  | find kind' => exact (idle kind' rfl).elim
  | clear => exact (spared trivial).elim
  | addClass kind' c =>
    by_cases same : kind' = kind
    · subst same
      simp only [apply, Stock.instance?, OnDemandRegistry.addClass]
      split
      · next previous bound =>
        split
        · rfl
        · next unequal => exact (spared ⟨rfl, previous, bound, by simpa using unequal⟩).elim
      · rfl
    · exact (apply_of_ne rfl (Ne.symm same)).2
  | removeClass kind' c =>
    by_cases same : kind' = kind
    · subst same
      simp only [apply, Stock.instance?, OnDemandRegistry.removeClass]
      split
      · next registered bound =>
        split
        · next equal => exact (spared ⟨rfl, registered, bound, equal⟩).elim
        · rfl
      · rfl
    · exact (apply_of_ne rfl (Ne.symm same)).2

theorem instance_of_evicts (evicts : operation.Evicts stock kind) :
    (operation.apply stock).instance? kind = none := by
  by_contra held
  obtain ⟨id, held⟩ := Option.ne_none_iff_exists'.1 held
  rcases instance_cases held with ⟨-, spared⟩ | ⟨rfl, -⟩
  · exact spared evicts
  · exact evicts

theorem factory_apply (operation : Operation V) (stock : Stock V) :
    (operation.apply stock).registry.factory = stock.registry.factory := by
  cases operation with
  | addClass | clear => rfl
  | removeClass kind c =>
    dsimp only [apply]
    unfold OnDemandRegistry.removeClass
    split
    · split <;> rfl
    · rfl
  | find kind =>
    obtain ⟨instances, registry⟩ := stock.lookup_registry kind
    rw [apply, registry]

/-- What is held stays, and the factory is not called for it. -/
theorem calls_of_held (spared : ¬operation.Evicts stock kind) (held : stock.instance? kind = some id) :
    operation.calls stock kind = [] ∧ (operation.apply stock).instance? kind = some id := by
  cases operation with
  | find kind' =>
    rw [instance_find, calls]
    by_cases same : kind' = kind
    · subst same
      rw [if_pos rfl, if_pos rfl, Stock.lookup_of_held held]
      exact ⟨rfl, rfl⟩
    · rw [if_neg same, if_neg (Ne.symm same)]
      exact ⟨rfl, held⟩
  | clear | addClass | removeClass =>
    exact ⟨rfl, (instance_of_spared spared fun _ => nofun).trans held⟩

/-- Where nothing is held, an operation makes an instance, if it does, with its only call. -/
theorem calls_yield (spared : ¬operation.Evicts stock kind) (unheld : stock.instance? kind = none) :
    Yields (operation.calls stock kind) ((operation.apply stock).instance? kind) := by
  cases operation with
  | find kind' =>
    rw [instance_find, calls]
    by_cases same : kind' = kind
    · subst same
      rw [if_pos rfl, if_pos rfl]
      cases bound : stock.class? kind' with
      | none =>
        rw [Stock.lookup_of_unbound unheld bound]
        exact .nothing nofun
      | some c =>
        obtain ⟨calls, found, -⟩ := Stock.lookup_eq_create unheld bound
        rw [calls, found]
        rcases (stock.store.create stock.registry.factory c).1 with fault | id
        · exact .nothing fun call hcall => List.mem_singleton.1 hcall ▸ rfl
        · exact @Yields.made V [] c id nofun
    · rw [if_neg same, if_neg (Ne.symm same), unheld]
      exact .nothing nofun
  | clear | addClass | removeClass =>
    rw [instance_of_spared spared fun _ => nofun, unheld]
    exact .nothing nofun

end Operation

/-! ### Histories -/

namespace Stock

variable {start stock : Stock V} {before stretch history : List (Operation V)} {operation : Operation V}
  {kind : V.Kind} {c : ValidatorClass V} {id : InstanceId}

theorem factory_after (stock : Stock V) (history : List (Operation V)) :
    (stock.after history).registry.factory = stock.registry.factory := by
  induction history generalizing stock with
  | nil => rfl
  | cons operation history ih => exact (ih _).trans (operation.factory_apply stock)

theorem calls_of_held (spared : stock.Spared kind history) (held : stock.instance? kind = some id) :
    stock.calls kind history = [] ∧ (stock.after history).instance? kind = some id := by
  induction history generalizing stock with
  | nil => exact ⟨rfl, held⟩
  | cons operation history ih =>
    obtain ⟨first, held⟩ := Operation.calls_of_held spared.1 held
    obtain ⟨rest, held⟩ := ih spared.2 held
    exact ⟨List.append_eq_nil_iff.2 ⟨first, rest⟩, held⟩

theorem calls_yield (spared : stock.Spared kind history) (unheld : stock.instance? kind = none) :
    Yields (stock.calls kind history) ((stock.after history).instance? kind) := by
  induction history generalizing stock with
  | nil =>
    rw [after_nil, unheld]
    exact .nothing nofun
  | cons operation history ih =>
    -- Either the first operation makes nothing, and the rest starts anew, or what it makes stays.
    have first := Operation.calls_yield spared.1 unheld
    change Yields (operation.calls stock kind ++ (operation.apply stock).calls kind history)
      (((operation.apply stock).after history).instance? kind)
    generalize operation.calls stock kind = calls at first
    generalize held : (operation.apply stock).instance? kind = held at first
    cases first with
    | nothing fails =>
      have rest := ih spared.2 held
      induction calls with
      | nil => exact rest
      | cons call calls more =>
        exact .cons (fails call List.mem_cons_self) (more fun call hcall =>
          fails call (List.mem_cons_of_mem _ hcall))
    | made fails =>
      obtain ⟨rest, held⟩ := calls_of_held spared.2 held
      rw [rest, held, List.append_nil]
      exact .made fails

namespace Spared

theorem of_append (h : stock.Spared kind (before ++ history)) : stock.Spared kind before := by
  induction before generalizing stock with
  | nil => trivial
  | cons operation before ih => exact ⟨h.1, ih h.2⟩

end Spared

namespace Period

theorem unheld {factory : Factory V} {store : ValidatorStore V}
    (period : (new factory store).Period kind before stretch) :
    ((new factory store).after before).instance? kind = none := by
  rcases period.begins with rfl | ⟨earlier, operation, rfl, evicts⟩
  · rfl
  · rw [after_concat]
    exact Operation.instance_of_evicts evicts

/-- Every history ends in such a stretch. -/
theorem exists_last (start : Stock V) (kind : V.Kind) (history : List (Operation V)) :
    ∃ before stretch, history = before ++ stretch ∧ start.Period kind before stretch := by
  induction history using List.reverseRecOn with
  | nil => exact ⟨[], [], rfl, .inl rfl, trivial⟩
  | append_singleton history operation ih =>
    by_cases evicts : operation.Evicts (start.after history) kind
    · exact ⟨history ++ [operation], [], by simp, .inr ⟨history, operation, rfl, evicts⟩, trivial⟩
    · obtain ⟨before, stretch, rfl, begins, spared⟩ := ih
      rw [after_append] at evicts
      exact ⟨before, stretch ++ [operation], by simp, begins, spared.concat evicts⟩

end Period

/-- An instance is made for the action type, and nothing has evicted it since. -/
def MadeSince (start : Stock V) (history : List (Operation V)) (kind : V.Kind) : Prop :=
  ∃ before stretch, history = before ++ stretch ∧ start.Period kind before stretch ∧
    ∃ call ∈ (start.after before).calls kind stretch, call.succeeded = true

theorem madeSince_iff (factory : Factory V) (store : ValidatorStore V) :
    (new factory store).MadeSince history kind ↔
      (((new factory store).after history).instance? kind).isSome := by
  have yields {before stretch : List (Operation V)}
      (period : (new factory store).Period kind before stretch) :
      (((new factory store).after (before ++ stretch)).instance? kind).isSome ↔
        ∃ call ∈ ((new factory store).after before).calls kind stretch, call.succeeded = true := by
    rw [after_append]
    exact (calls_yield period.spared period.unheld).isSome_iff
  constructor
  · rintro ⟨before, stretch, rfl, period, made⟩
    exact (yields period).2 made
  · intro held
    obtain ⟨before, stretch, rfl, period⟩ := Period.exists_last (new factory store) kind history
    exact ⟨before, stretch, rfl, period, (yields period).1 held⟩

/-- As long as nothing evicts what is held for an action type, the factory makes at most one instance for
it, and every later lookup finds this one without a call. Every lookup before that is one call, for the class
that is registered at the time, and if that fails, nothing is found and the registry stays as it is. The
instances held are counted by the action types for which one was made and not evicted since. -/
theorem created_once (factory : Factory V) (store : ValidatorStore V) :
    let start := new factory store
    (∀ kind before stretch, start.Period kind before stretch →
      let stock := start.after before
      (stock.calls kind stretch).countP FactoryCall.succeeded ≤ 1 ∧
      ∀ early later, stretch = early ++ .find kind :: later →
        let now := stock.after early
        (∀ c id, ⟨c, .ok id⟩ ∈ stock.calls kind early →
          now.lookup kind = ⟨some id, now.registry, now.store, []⟩) ∧
        ((∀ call ∈ stock.calls kind early, call.succeeded = false) →
          ∀ c, now.class? kind = some c →
            let made := now.store.create factory c
            (now.lookup kind).calls = [⟨c, made.1⟩] ∧
            (now.lookup kind).instance? = made.1.toOption ∧ (now.lookup kind).store = made.2 ∧
            (made.1.isOk = false → (now.lookup kind).registry = now.registry))) ∧
    ∀ history, {kind | start.MadeSince history kind}.encard = (start.after history).registry.cached := by
  intro start
  refine ⟨fun kind before stretch period => ?_, fun history => ?_⟩
  · have unheld : (start.after before).instance? kind = none := period.unheld
    refine ⟨(calls_yield period.spared unheld).countP_le_one, ?_⟩
    rintro early later rfl
    have yields := calls_yield period.spared.of_append unheld
    refine ⟨fun c id made => lookup_of_held (yields.eq_some made), fun fails c bound => ?_⟩
    have same : ((start.after before).after early).registry.factory = factory := by
      rw [factory_after, factory_after]
      rfl
    have one := lookup_eq_create (yields.eq_none fails) bound
    rwa [same] at one
  · have held : {kind | start.MadeSince history kind} =
        {kind | ((start.after history).instance? kind).isSome} :=
      Set.ext fun kind => madeSince_iff factory store
    rw [held]
    exact Table.encard_keys _

end Stock

namespace Doors

/-- Fits a lock to the front door, and forgets all instances. -/
def cleared : List (Operation vocabulary) := [.addClass Door.front (lock .key), .clear]

/-- Looks at the front door twice, puts the same type of lock in, which now has to be provided, and looks
again. -/
def opened : List (Operation vocabulary) :=
  [.find Door.front, .find Door.front, .addClass Door.front (.injected .key), .find Door.front]

/-- The first lock for the front door cannot be made, the second one is, and there it stays. -/
theorem opened_once :
    start.Period Door.front cleared opened ∧
    (start.after cleared).calls Door.front opened =
      [⟨lock .key, .error (.ofText "Out of stock" [])⟩, ⟨lock .key, .ok ⟨0⟩⟩] ∧
    ((start.after cleared).calls Door.front opened).countP FactoryCall.succeeded ≤ 1 ∧
    (((start.after cleared).after [.find Door.front]).lookup Door.front).calls =
      [⟨lock .key, .ok ⟨0⟩⟩] ∧
    (((start.after cleared).after (opened.take 3)).lookup Door.front).instance? = some ⟨0⟩ ∧
    (((start.after cleared).after (opened.take 3)).lookup Door.front).findings = [] ∧
    {door | start.MadeSince (cleared ++ opened) door}.encard = 1 := by
  have once := Stock.created_once factory {}
  have period : start.Period Door.front cleared opened := by
    refine ⟨.inr ⟨[.addClass Door.front (lock .key)], .clear, rfl, trivial⟩, id, id, ?_, id, trivial⟩
    rintro ⟨-, previous, bound, unequal⟩
    cases bound
    cases unequal
  obtain ⟨atMost, lookups⟩ := once.1 Door.front cleared opened period
  have kept := (lookups (opened.take 3) [] rfl).1 (lock .key) ⟨0⟩ (.tail _ (.head _))
  refine ⟨period, rfl, atMost, ?_, congrArg Found.instance? kept, congrArg Found.findings kept,
    once.2 (cleared ++ opened)⟩
  have retried := (lookups [.find Door.front] _ rfl).2
    (fun call hcall => List.mem_singleton.1 hcall ▸ rfl) (lock .key) rfl
  exact retried.1

end Doors

end ActionDispatch
