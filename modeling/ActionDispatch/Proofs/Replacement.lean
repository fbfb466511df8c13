import ActionDispatch.Proofs.Transparency
import ActionDispatch.Proofs.Wiring

/-!
# Replaced bindings

A binding that a later one for the same action type replaces is not seen in a dispatcher. Whether there is a
dispatcher is another matter. A builder that makes validators while it builds makes one for every binding, in
order, before the later one takes its place, so a class that cannot be made stops it even if it is replaced
(`Builder.build_surviving`). A builder that has them made on demand keeps the last classes only, and never
fails.
-/

namespace ActionDispatch

variable {V : Vocabulary}

namespace Binding

variable {bindings : List (Binding V)} {binding : Binding V} {kind : V.Kind}

/-- The bindings that no later one for the same action type replaces. -/
def surviving : List (Binding V) → List (Binding V)
  | [] => []
  | binding :: later =>
    if later.any (·.handler.kind = binding.handler.kind) then surviving later
    else binding :: surviving later

/-- A later binding replaces this one. -/
def Replaced (bindings : List (Binding V)) (binding : Binding V) : Prop :=
  ∃ before after, bindings = before ++ binding :: after ∧
    ∃ later ∈ after, later.handler.kind = binding.handler.kind

theorem lastFor_cons (kind : V.Kind) (binding : Binding V) (bindings : List (Binding V)) :
    lastFor kind (binding :: bindings) =
      (lastFor kind bindings).or (if binding.handler.kind = kind then some binding else none) := by
  rw [lastFor, List.reverse_cons, List.find?_append, List.find?_singleton]
  simp only [decide_eq_true_eq]
  rfl

theorem any_iff_lastFor : bindings.any (·.handler.kind = kind) ↔ lastFor kind bindings ≠ none := by
  rw [Ne, lastFor_eq_none_iff]
  simp

/-- Just the last binding for each action type survives. -/
theorem mem_surviving_iff :
    binding ∈ surviving bindings ↔ lastFor binding.handler.kind bindings = some binding := by
  induction bindings with
  | nil => exact ⟨nofun, nofun⟩
  | cons first later ih =>
    rw [surviving, lastFor_cons]
    by_cases replaced : later.any (·.handler.kind = first.handler.kind)
    · rw [if_pos replaced, ih]
      cases last : lastFor binding.handler.kind later with
      | some other => rfl
      | none =>
        have ne : first.handler.kind ≠ binding.handler.kind := fun same =>
          any_iff_lastFor.1 replaced (same ▸ last)
        rw [if_neg ne]
        rfl
    · -- Nothing later is for the type of the first binding, so this is the last one for it.
      have unbound : lastFor first.handler.kind later = none := by
        simpa using mt any_iff_lastFor.2 replaced
      rw [if_neg replaced, List.mem_cons, ih]
      cases last : lastFor binding.handler.kind later with
      | some other =>
        refine or_iff_right ?_
        rintro rfl
        cases unbound.symm.trans last
      | none =>
        rw [Option.none_or]
        constructor
        · rintro (rfl | bound)
          · exact if_pos rfl
          · cases bound
        · intro bound
          split at bound
          · exact .inl (Option.some.inj bound).symm
          · cases bound

/-- What a later binding does not replace survives. -/
theorem replaced_or_surviving (h : binding ∈ bindings) :
    Replaced bindings binding ∨ binding ∈ surviving bindings := by
  obtain ⟨before, after, rfl⟩ := List.append_of_mem h
  by_cases replaced : after.any (·.handler.kind = binding.handler.kind)
  · obtain ⟨later, hlater, same⟩ := List.any_eq_true.1 replaced
    exact .inl ⟨before, after, rfl, later, hlater, by simpa using same⟩
  · refine .inr (mem_surviving_iff.2 ?_)
    have unbound : lastFor binding.handler.kind after = none := by
      simpa using mt any_iff_lastFor.2 replaced
    have last : lastFor binding.handler.kind (binding :: after) = some binding := by
      rw [lastFor_cons, unbound, if_pos rfl]
      rfl
    rw [lastFor, List.reverse_append, List.find?_append]
    rw [lastFor] at last
    rw [last]
    rfl

theorem mem_of_surviving (h : binding ∈ surviving bindings) : binding ∈ bindings :=
  List.mem_reverse.1 (List.mem_of_find?_eq_some (mem_surviving_iff.1 h))

theorem Replaced.mem (h : Replaced bindings binding) : binding ∈ bindings := by
  obtain ⟨before, after, rfl, -⟩ := h
  simp

theorem forall_surviving_iff {p : Binding V → Prop} :
    (∀ binding ∈ surviving bindings, p binding) ↔
      ∀ kind binding, lastFor kind bindings = some binding → p binding := by
  constructor
  · intro h kind binding last
    refine h binding (mem_surviving_iff.2 ?_)
    rw [kind_of_lastFor last]
    exact last
  · exact fun h binding survives => h _ binding (mem_surviving_iff.1 survives)

/-- What holds of all bindings holds of the surviving ones and of those that they replace. -/
theorem forall_mem_iff {p : Binding V → Prop} :
    (∀ binding ∈ bindings, p binding) ↔
      (∀ binding ∈ surviving bindings, p binding) ∧ ∀ binding, Replaced bindings binding → p binding := by
  constructor
  · exact fun h => ⟨fun binding survives => h binding (mem_of_surviving survives),
      fun binding replaced => h binding replaced.mem⟩
  · rintro ⟨last, others⟩ binding h
    exact (replaced_or_surviving h).elim (others binding) (last binding)

end Binding

namespace Builder

/-- The builder without the bindings that others replace. -/
def surviving (builder : Builder V) : Builder V :=
  { builder with bindings := Binding.surviving builder.bindings }

variable {factory : Factory V}

/-- Making instances for all bindings goes well just if all classes can be made. -/
theorem linkInstances_isOk_iff (consistent : factory.Consistent) (bindings : List (Binding V))
    (table : InstanceTable V) (store : ValidatorStore V) :
    (linkInstances factory bindings table store).1.isOk ↔
      ∀ binding ∈ bindings, factory.CanMake binding.guardedBy := by
  induction bindings generalizing table store with
  | nil => exact iff_of_true rfl (List.forall_mem_nil _)
  | cons binding bindings ih =>
    have outcome := (store.create_isOk factory binding.guardedBy).trans (consistent _ binding.guardedBy)
    rw [linkInstances, List.forall_mem_cons, Factory.CanMake, ← outcome]
    cases store.create factory binding.guardedBy with
    | mk given next =>
      cases given with
      | error fault => exact iff_of_false Bool.false_ne_true fun all => Bool.false_ne_true all.1
      | ok id => exact (ih _ _).trans (and_iff_right rfl).symm

/-- If it does not, the first class that cannot be made ends it. -/
theorem linkInstances_error_iff (consistent : factory.Consistent) (bindings : List (Binding V))
    (table : InstanceTable V) (store : ValidatorStore V) (error : DispatchError) :
    (linkInstances factory bindings table store).1 = .error error ↔
      ∃ before binding after fault, bindings = before ++ binding :: after ∧
        (∀ earlier ∈ before, factory.CanMake earlier.guardedBy) ∧
        factory.create (store.calls ++ before.map (·.guardedBy)) binding.guardedBy = .error fault ∧
        error = unbuildable binding fault := by
  induction bindings generalizing table store with
  | nil =>
    constructor
    · intro failed
      cases failed
    · rintro ⟨before, binding, after, fault, split, -⟩
      simp at split
  | cons first bindings ih =>
    have failed := store.create_eq_error_iff factory first.guardedBy
    have made := (store.create_isOk factory first.guardedBy).trans (consistent _ first.guardedBy)
    have calls := store.create_calls factory first.guardedBy
    rw [linkInstances]
    cases created : store.create factory first.guardedBy with
    | mk given next =>
      rw [created] at failed made calls
      cases given with
      | error fault =>
        constructor
        · intro here
          cases here
          refine ⟨[], first, bindings, fault, rfl, List.forall_mem_nil _, ?_, rfl⟩
          rw [List.map_nil, List.append_nil]
          exact (failed fault).1 rfl
        · -- A call that fails is the first one to fail, as those before it succeed.
          rintro ⟨_ | ⟨earlier, before⟩, binding, after, fault', split, makes, fails, rfl⟩
          · cases split
            rw [List.map_nil, List.append_nil] at fails
            cases (failed fault').2 fails
            rfl
          · cases split
            cases made.trans (makes first List.mem_cons_self)
      | ok id =>
        refine (ih _ _).trans ?_
        rw [show next.calls = _ from calls]
        constructor
        · rintro ⟨before, binding, after, fault, rfl, makes, fails, rfl⟩
          refine ⟨first :: before, binding, after, fault, rfl,
            List.forall_mem_cons.2 ⟨made.symm, makes⟩, ?_, rfl⟩
          rwa [List.append_assoc] at fails
        · rintro ⟨_ | ⟨earlier, before⟩, binding, after, fault, split, makes, fails, rfl⟩
          · cases split
            rw [List.map_nil, List.append_nil] at fails
            cases (failed fault).2 fails
          · cases split
            refine ⟨before, binding, after, fault, rfl, (List.forall_mem_cons.1 makes).2, ?_, rfl⟩
            rwa [List.append_assoc]

/-! ### Building -/

section

variable {builder : Builder V} (app : Application V) (store : ValidatorStore V)
  (channels : List Channel) (world : V.World)

/-- A builder that has instances made on demand never fails. -/
theorem build_isOk (shape : builder.settings.validatorRegistry = .onDemand) :
    (builder.build app store channels world).answer.isOk := by
  unfold build linkValidators
  rw [shape]
  rfl

/-- If instances are made while it builds, a builder needs all of them. -/
theorem build_isOk_iff (shape : builder.settings.validatorRegistry = .upFront)
    (consistent : builder.factory.Consistent) :
    (builder.build app store channels world).answer.isOk ↔
      ∀ binding ∈ builder.bindings, builder.factory.CanMake binding.guardedBy := by
  refine Iff.trans ?_ (linkInstances_isOk_iff consistent builder.bindings .empty store)
  unfold build linkValidators
  rw [shape]
  dsimp only
  cases (linkInstances builder.factory builder.bindings .empty store).1 with
  | ok | error => exact Iff.rfl

/-- It fails just if making them does, with the same error. -/
theorem build_error_iff (shape : builder.settings.validatorRegistry = .upFront) (error : DispatchError) :
    (builder.build app store channels world).answer = .error error ↔
      (linkInstances builder.factory builder.bindings .empty store).1 = .error error := by
  unfold build linkValidators
  rw [shape]
  dsimp only
  cases (linkInstances builder.factory builder.bindings .empty store).1 with
  | ok linked => exact iff_of_false nofun nofun
  | error other =>
    constructor
    · intro failed
      cases failed
      rfl
    · intro failed
      cases failed
      rfl

end

/-- Whether a builder whose factory answers by the class succeeds. With a registry that makes instances on
demand it always does. If validators are made while it builds, replaced bindings have a say: the builder
succeeds just if it does so without them and all their classes can be made, and otherwise the error is about
the first binding, replaced or not, whose class cannot be made. If the classes of replaced bindings can be
made, these bindings make no difference, and there is an error just if the class of the last binding for some
action type cannot be made. -/
theorem build_surviving (builder : Builder V) (consistent : builder.factory.Consistent)
    (app : Application V) (store : ValidatorStore V) (channels : List Channel) (world : V.World) :
    let factory := builder.factory
    let full := (builder.build app store channels world).answer
    let kept := (builder.surviving.build app store channels world).answer
    (builder.settings.validatorRegistry = .onDemand → full.isOk ∧ kept.isOk) ∧
    (builder.settings.validatorRegistry = .upFront →
      (kept.isOk ↔ ∀ kind binding, Binding.lastFor kind builder.bindings = some binding →
        factory.CanMake binding.guardedBy) ∧
      (full.isOk ↔ kept.isOk ∧ ∀ binding, Binding.Replaced builder.bindings binding →
        factory.CanMake binding.guardedBy) ∧
      ∀ error, full = .error error ↔
        ∃ before binding after fault, builder.bindings = before ++ binding :: after ∧
          (∀ earlier ∈ before, factory.CanMake earlier.guardedBy) ∧
          factory.create (store.calls ++ before.map (·.guardedBy)) binding.guardedBy = .error fault ∧
          error = unbuildable binding fault) ∧
    ((∀ binding, Binding.Replaced builder.bindings binding → factory.CanMake binding.guardedBy) →
      (full.isOk ↔ kept.isOk) ∧
      (builder.settings.validatorRegistry = .upFront →
        ((∃ text, full = .error (.config text)) ↔
          ∃ kind binding, Binding.lastFor kind builder.bindings = some binding ∧
            ¬factory.CanMake binding.guardedBy))) := by
  intro factory full kept
  have onDemand (shape : builder.settings.validatorRegistry = .onDemand) : full.isOk ∧ kept.isOk :=
    ⟨build_isOk app store channels world shape, build_isOk app store channels world shape⟩
  have last (shape : builder.settings.validatorRegistry = .upFront) :
      kept.isOk ↔ ∀ binding ∈ builder.surviving.bindings, factory.CanMake binding.guardedBy :=
    build_isOk_iff app store channels world shape consistent
  have byKind (shape : builder.settings.validatorRegistry = .upFront) :
      kept.isOk ↔ ∀ kind binding, Binding.lastFor kind builder.bindings = some binding →
        factory.CanMake binding.guardedBy :=
    (last shape).trans Binding.forall_surviving_iff
  have split (shape : builder.settings.validatorRegistry = .upFront) :
      full.isOk ↔ kept.isOk ∧ ∀ binding, Binding.Replaced builder.bindings binding →
        factory.CanMake binding.guardedBy := by
    rw [last shape]
    exact (build_isOk_iff app store channels world shape consistent).trans Binding.forall_mem_iff
  have errors (shape : builder.settings.validatorRegistry = .upFront) (error : DispatchError) :=
    (build_error_iff app store channels world shape error).trans
      (linkInstances_error_iff consistent builder.bindings .empty store error)
  refine ⟨onDemand, fun shape => ⟨byKind shape, split shape, errors shape⟩, fun harmless => ?_⟩
  have same : full.isOk ↔ kept.isOk := by
    cases shape : builder.settings.validatorRegistry with
    | onDemand => exact iff_of_true (onDemand shape).1 (onDemand shape).2
    | upFront => exact (split shape).trans (and_iff_left harmless)
  refine ⟨same, fun shape => ?_⟩
  -- Every error that there can be is one of configuration.
  have config : (∃ text, full = .error (.config text)) ↔ ¬full.isOk := by
    constructor
    · rintro ⟨text, failed⟩ succeeded
      rw [failed] at succeeded
      cases succeeded
    · intro failed
      cases answer : full with
      | ok => exact (failed (answer ▸ rfl)).elim
      | error error =>
        obtain ⟨before, binding, after, fault, -, -, -, rfl⟩ := (errors shape error).1 answer
        exact ⟨_, rfl⟩
  rw [config, same, byKind shape]
  simp only [not_forall, exists_prop]

end Builder

namespace Porters

open Doors (Door Lock)

/-- The front door gets a porter and a lock, and then others in their place. -/
def relocking (first second : ValidatorClass vocabulary) : Builder vocabulary where
  bindings := [⟨⟨Door.front, (1 : Nat)⟩, first⟩, ⟨⟨Door.front, (2 : Nat)⟩, second⟩]
  settings := { validatorRegistry := .upFront }

/-- A lock that is not provided stops the builder although it is replaced; without it there is a dispatcher.
If it is the one that replaces another, the builder fails either way. -/
theorem relocking_fails :
    let key : ValidatorClass vocabulary := .ofInitial .key (1 : Nat)
    let code : ValidatorClass vocabulary := .injected .code
    let answer (builder : Builder vocabulary) := (builder.build application {} [] ()).answer
    (Factory.initial : Factory vocabulary).Consistent ∧
    ((∃ fault, answer (relocking code key) =
        .error (Builder.unbuildable ⟨⟨Door.front, (1 : Nat)⟩, code⟩ fault)) ∧
      (answer (relocking code key).surviving).isOk) ∧
    (∀ binding, Binding.Replaced (relocking key code).bindings binding →
      Factory.initial.CanMake binding.guardedBy) ∧
    ((answer (relocking key code)).isOk ↔ (answer (relocking key code).surviving).isOk) ∧
    ∃ text, answer (relocking key code) = .error (.config text) := by
  intro key code answer
  have consistent : (Factory.initial : Factory vocabulary).Consistent := Factory.initial_consistent
  obtain ⟨-, early, -⟩ := Builder.build_surviving (relocking code key) consistent application {} [] ()
  obtain ⟨-, -, late⟩ := Builder.build_surviving (relocking key code) consistent application {} [] ()
  obtain ⟨kept, -, errors⟩ := early rfl
  have harmless (binding : Binding vocabulary)
      (h : Binding.Replaced (relocking key code).bindings binding) :
      Factory.initial.CanMake binding.guardedBy := by
    obtain ⟨before, after, split, later, hlater, -⟩ := h
    rcases before with _ | ⟨_, _ | ⟨_, before⟩⟩
    · cases split
      rfl
    · cases split
      cases hlater
    · simp [relocking] at split
  obtain ⟨same, config⟩ := late harmless
  refine ⟨consistent, ⟨⟨_, (errors _).2 ⟨[], _, _, _, rfl, nofun, rfl, rfl⟩⟩, kept.2 ?_⟩, harmless, same,
    (config rfl).2 ⟨Door.front, _, rfl, nofun⟩⟩
  intro door binding last
  cases door with
  | back => cases last
  | front =>
    cases last
    rfl

end Porters

end ActionDispatch
