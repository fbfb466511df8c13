import ActionDispatch.Proofs.Issuance
import ActionDispatch.Proofs.Observers
import ActionDispatch.Proofs.Provenance
import ActionDispatch.Proofs.Shapes
import ActionDispatch.Proofs.Steadiness

/-!
# Wiring

What becomes of the steps of a builder. The bindings of all modules stand in one list, in configuration order;
handlers and classes of validators then go into tables of their own, and in each the last entry for an action
type counts. So both come from the same binding (`Binding.lastFor`), and they stay together whatever clients
do afterwards: `Builder.Wired` holds of the state that is built, and every request keeps it. `build_wired`
states what this means for lookups, settings and sinks.
-/

namespace ActionDispatch

variable {V : Vocabulary} {α β : Type}

/-! ### What comes last -/

namespace Binding

variable {bindings : List (Binding V)} {binding : Binding V} {kind : V.Kind}

/-- The last binding for an action type. -/
def lastFor (kind : V.Kind) (bindings : List (Binding V)) : Option (Binding V) :=
  bindings.reverse.find? (·.handler.kind = kind)

theorem lastFor_concat (kind : V.Kind) (bindings : List (Binding V)) (binding : Binding V) :
    lastFor kind (bindings ++ [binding]) =
      if kind = binding.handler.kind then some binding else lastFor kind bindings := by
  rw [lastFor, List.reverse_append, List.reverse_singleton, List.singleton_append, List.find?_cons]
  by_cases same : kind = binding.handler.kind
  · simp [same]
  · simp [same, Ne.symm same, lastFor]

theorem kind_of_lastFor (h : lastFor kind bindings = some binding) : binding.handler.kind = kind := by
  simpa using List.find?_some h

theorem lastFor_eq_none_iff :
    lastFor kind bindings = none ↔ ∀ binding ∈ bindings, binding.handler.kind ≠ kind := by
  simp [lastFor]

/-- A table that is filled by bindings, in order, has what the last one gives. -/
theorem find?_foldl (value : Binding V → α) (bindings : List (Binding V)) (kind : V.Kind) :
    (bindings.foldl (fun table binding => table.insert binding.handler.kind (value binding))
      (.empty : Table V.Kind α)).find? kind = (lastFor kind bindings).map value := by
  rw [Table.find?_foldl_insert fun binding : Binding V => binding.handler.kind, Table.find?_empty,
    Option.or_none]
  rfl

end Binding

theorem AnyHandler.serving?_eq_none_iff {any : AnyHandler V} {kind : V.Kind} :
    any.serving? kind = none ↔ any.kind ≠ kind := by
  unfold serving?
  split
  · next same => simp [same]
  · next other => simp [other]

/-- Modules add nothing but their parts, in order. -/
@[simp] theorem Configuration.bindings_install (parts : List (Configuration V)) :
    (install parts).bindings = parts.flatMap bindings := by
  rw [bindings]
  induction parts with
  | nil => rw [allBindings, List.flatMap_nil]
  | cons part parts ih => rw [allBindings, ih, List.flatMap_cons]

namespace BuilderStep

def settings? : BuilderStep V → Option Settings
  | .settings chosen => some chosen
  | _ => none

def factory? : BuilderStep V → Option (Factory V)
  | .factory chosen => some chosen
  | _ => none

def sink? : BuilderStep V → Option Sink
  | .sink added => some added
  | _ => none

def bindings : BuilderStep V → List (Binding V)
  | .install part => part.bindings
  | _ => []

end BuilderStep

namespace Builder

/-- The settings that some steps leave: those set last. -/
def lastSettings (steps : List (BuilderStep V)) : Settings :=
  (steps.filterMap BuilderStep.settings?).getLast?.getD {}

def lastFactory (steps : List (BuilderStep V)) : Factory V :=
  (steps.filterMap BuilderStep.factory?).getLast?.getD .initial

theorem ofSteps_eq (steps : List (BuilderStep V)) :
    ofSteps steps = {
      bindings := steps.flatMap BuilderStep.bindings
      settings := lastSettings steps
      factory := lastFactory steps
      sinks := steps.filterMap BuilderStep.sink? } := by
  induction steps using List.reverseRecOn with
  | nil => rfl
  | append_singleton steps step ih =>
    rw [ofSteps] at ih ⊢
    rw [List.foldl_append, List.foldl_cons, List.foldl_nil, ih]
    cases step <;> simp [configure, lastSettings, lastFactory, BuilderStep.settings?,
      BuilderStep.factory?, BuilderStep.sink?, BuilderStep.bindings]

/-- To install a module is to install its parts, one after the other. -/
theorem ofSteps_install (before after : List (BuilderStep V)) (parts : List (Configuration V)) :
    ofSteps (before ++ .install (.install parts) :: after) =
      ofSteps (before ++ parts.map .install ++ after) := by
  have settings : (parts.map BuilderStep.install).filterMap BuilderStep.settings? = [] := by
    simp [BuilderStep.settings?]
  have factory : (parts.map BuilderStep.install).filterMap BuilderStep.factory? = [] := by
    simp [BuilderStep.factory?]
  have sinks : (parts.map BuilderStep.install).filterMap BuilderStep.sink? = [] := by
    simp [BuilderStep.sink?]
  have bindings : (parts.map BuilderStep.install).flatMap BuilderStep.bindings =
      (Configuration.install parts).bindings := by
    rw [Configuration.bindings_install, List.flatMap_map]
    rfl
  simp only [ofSteps_eq, lastSettings, lastFactory, List.filterMap_append, List.flatMap_append,
    settings, factory, sinks, bindings, List.append_assoc]
  rfl

end Builder

/-! ### What is wired -/

open ValidatorStore

/-- For every action type that is bound, and for no other, the table has an instance that the factory gave
for the class of the last binding. -/
def InstanceTable.Filled (app : Application V) (factory : Factory V) (start now : ValidatorStore V)
    (table : InstanceTable V) (bindings : List (Binding V)) : Prop :=
  ∀ kind, Option.Rel (fun id binding => Issued app factory start now binding.guardedBy id)
    (table.find? kind) (Binding.lastFor kind bindings)

namespace InstanceTable.Filled

variable {app : Application V} {factory : Factory V} {start now later : ValidatorStore V}
  {table : InstanceTable V} {bindings : List (Binding V)}

theorem mono (h : Filled app factory start now table bindings) (leads : Leads app factory now later) :
    Filled app factory start later table bindings := by
  intro kind
  have here := h kind
  generalize Binding.lastFor kind bindings = last at here ⊢
  generalize table.find? kind = held at here ⊢
  cases here with
  | none => exact .none
  | some issued => exact .some (issued.mono leads)

theorem insert (h : Filled app factory start now table bindings) {binding : Binding V} {id : InstanceId}
    (issued : Issued app factory start now binding.guardedBy id) :
    Filled app factory start now (table.insert binding.handler.kind id) (bindings ++ [binding]) := by
  intro kind
  rw [Table.find?_insert, Binding.lastFor_concat]
  split
  · exact .some issued
  · exact h kind

end InstanceTable.Filled

namespace Builder

/-- For every action type, a registry of validators has the class of the last binding, or an instance
that the factory gave for this class. -/
inductive Guarded (builder : Builder V) (app : Application V) (start : ValidatorStore V) :
    ValidatorRegistry V → ValidatorStore V → Prop
  | upFront {table now} (shape : builder.settings.validatorRegistry = .upFront)
      (filled : InstanceTable.Filled app builder.factory start now table builder.bindings) :
      Guarded builder app start (.upFront table) now
  | onDemand {registry now} (shape : builder.settings.validatorRegistry = .onDemand)
      (same : registry.factory = builder.factory)
      (classes : ∀ kind, registry.classes.find? kind =
        (Binding.lastFor kind builder.bindings).map (·.guardedBy))
      (instances : ∀ kind id, registry.instances.find? kind = some id →
        ∃ binding, Binding.lastFor kind builder.bindings = some binding ∧
          Issued app builder.factory start now binding.guardedBy id) :
      Guarded builder app start (.onDemand registry) now

/-- The registries have what the last bindings say. -/
structure Wired (builder : Builder V) (app : Application V) (start : ValidatorStore V)
    (state : State V) : Prop where
  handlers : ∀ kind, state.handlers.find? kind =
    (Binding.lastFor kind builder.bindings).map (·.handler)
  leads : Leads app builder.factory start state.store
  guarded : builder.Guarded app start state.validators state.store

variable {builder : Builder V} {app : Application V} {start now later : ValidatorStore V}
  {registry : ValidatorRegistry V}

namespace Guarded

theorem mono (h : builder.Guarded app start registry now)
    (leads : Leads app builder.factory now later) : builder.Guarded app start registry later := by
  cases h with
  | upFront shape filled => exact .upFront shape (filled.mono leads)
  | onDemand shape same classes instances =>
    refine .onDemand shape same classes fun kind id held => ?_
    obtain ⟨binding, last, issued⟩ := instances kind id held
    exact ⟨binding, last, issued.mono leads⟩

/-- An instance that was given for the class of the last binding may be held for it. -/
theorem insert {registry : OnDemandRegistry V} (h : builder.Guarded app start (.onDemand registry) now)
    {kind : V.Kind} {binding : Binding V} {id : InstanceId}
    (last : Binding.lastFor kind builder.bindings = some binding)
    (issued : Issued app builder.factory start now binding.guardedBy id) :
    builder.Guarded app start
      (.onDemand { registry with instances := registry.instances.insert kind id }) now := by
  cases h with | onDemand shape same classes instances
  refine .onDemand shape same classes fun other id' held => ?_
  rw [Table.find?_insert] at held
  split at held
  · next here =>
    subst here
    cases held
    exact ⟨binding, last, issued⟩
  · exact instances other id' held

/-- What a lookup leaves and finds. -/
structure Finds (builder : Builder V) (app : Application V) (start now : ValidatorStore V)
    (kind : V.Kind) (found : Found (ValidatorRegistry V) V) : Prop where
  leads : Leads app builder.factory now found.store
  guarded : builder.Guarded app start found.registry found.store
  /-- An instance that is found was given for the class of the last binding. -/
  issued : ∀ id, found.instance? = some id →
    ∃ binding, Binding.lastFor kind builder.bindings = some binding ∧
      Issued app builder.factory start found.store binding.guardedBy id
  /-- Where none is found, nothing is bound, or the factory failed when it was called just now. -/
  missing : found.instance? = none → ∀ binding, Binding.lastFor kind builder.bindings = some binding →
    builder.settings.validatorRegistry = .onDemand ∧
      (builder.factory.create now.calls binding.guardedBy).isOk = false

/-- A lookup that makes an instance, or fails to, in a registry that makes them on demand. -/
theorem make {registry : OnDemandRegistry V} (h : builder.Guarded app start (.onDemand registry) now)
    (leads : Leads app builder.factory start now) {kind : V.Kind} {binding : Binding V}
    (unheld : registry.instances.find? kind = none)
    (last : Binding.lastFor kind builder.bindings = some binding) :
    Finds builder app start now kind ((ValidatorRegistry.onDemand registry).find now kind) := by
  have guarded := h
  obtain ⟨factory, classes, instances⟩ := registry
  cases h with | onDemand shape same bound
  obtain rfl : factory = builder.factory := same
  have bound : classes.find? kind = some binding.guardedBy := by
    rw [bound, last]
    rfl
  have unheld : instances.find? kind = none := unheld
  have outcome := now.create_isOk builder.factory binding.guardedBy
  dsimp only [ValidatorRegistry.find]
  unfold OnDemandRegistry.find
  rw [unheld, bound]
  dsimp only
  cases created : now.create builder.factory binding.guardedBy with
  | mk given store =>
    rw [created] at outcome
    have called : Leads app builder.factory now store := .of_create created
    cases given with
    | error fault =>
      refine ⟨called, guarded.mono called, nofun, fun _ other hother => ?_⟩
      cases last.symm.trans hother
      exact ⟨shape, outcome.symm⟩
    | ok id =>
      have issued : Issued app builder.factory start store binding.guardedBy id := .of_create leads created
      refine ⟨called, (guarded.mono called).insert last issued, fun id' found => ?_, nofun⟩
      cases found
      exact ⟨binding, last, issued⟩

/-- Lookups keep what is wired. -/
theorem find (h : builder.Guarded app start registry now)
    (leads : Leads app builder.factory start now) (kind : V.Kind) :
    Finds builder app start now kind (registry.find now kind) := by
  have guarded := h
  cases h with
  | @upFront table _ shape filled =>
    have here := filled kind
    refine ⟨.refl, guarded, fun id found => ?_, fun missing binding last => ?_⟩
    · have found : table.find? kind = some id := found
      rw [found] at here
      generalize Binding.lastFor kind builder.bindings = last at here
      cases here with
      | @some _ binding issued => exact ⟨binding, rfl, issued⟩
    · have missing : table.find? kind = none := missing
      rw [missing, last] at here
      cases here
  | @onDemand registry _ shape same classes instances =>
    cases held : registry.instances.find? kind with
    | some id =>
      have held' : (ValidatorRegistry.onDemand registry).held? kind = some id := held
      rw [ValidatorRegistry.find_of_held held']
      refine ⟨.refl, guarded, fun id' found => ?_, nofun⟩
      cases found
      exact instances kind id held
    | none =>
      cases last : Binding.lastFor kind builder.bindings with
      | some binding => exact guarded.make leads held last
      | none =>
        have unbound := classes kind
        rw [last] at unbound
        dsimp only [ValidatorRegistry.find]
        unfold OnDemandRegistry.find
        rw [held, unbound]
        refine ⟨.refl, guarded, nofun, fun _ binding bound => ?_⟩
        cases last.symm.trans bound

end Guarded

namespace Wired

variable {state : State V}

/-- Only the registries and the instances count. -/
theorem congr (h : builder.Wired app start state) {other : State V}
    (handlers : other.handlers = state.handlers) (validators : other.validators = state.validators)
    (store : Leads app builder.factory state.store other.store) : builder.Wired app start other where
  handlers := handlers ▸ h.handlers
  leads := h.leads.trans store
  guarded := validators ▸ h.guarded.mono store

theorem find (h : builder.Wired app start state) (kind : V.Kind) :
    builder.Wired app start { state with
      validators := (state.validators.find state.store kind).registry
      store := (state.validators.find state.store kind).store } :=
  let found := h.guarded.find h.leads kind
  ⟨h.handlers, h.leads.trans found.leads, found.guarded⟩

theorem verdict (h : builder.Wired app start state) (id : InstanceId) (session : Option String) :
    builder.Wired app start (app.verdict state id session).2 := by
  have store := Leads.verdict app builder.factory state id session
  rw [app.verdict_state] at store ⊢
  exact h.congr rfl rfl store

theorem act (h : builder.Wired app start state) {act : Act V} (apart : act.registers = false) :
    builder.Wired app start (app.act act state).state := by
  cases act with
  | addHandler | removeHandler | clearHandlers | addValidator | removeValidator | addClass |
    removeClass | clearValidators => cases apart
  | countHandlers | findHandler | countCached | change | note => exact h.congr rfl rfl .refl
  | makeValidator validator => exact h.congr rfl rfl (.single (.allocate _ validator))
  | findValidator kind => exact h.find kind
  | check id session => exact h.verdict id session

end Wired

/-- Whatever a dispatcher does that was built keeps what is wired, as long as nobody registers anything. -/
theorem alike_wired (builder : Builder V) (start : ValidatorStore V)
    (apart : ∀ step handler, (app.program step handler).Acts (·.registers = false)) :
    Dispatcher.Alike (.keeping (builder.Wired app start)) (·.registers = false)
      (builder.dispatcher app) (builder.dispatcher app) where
  program _ _ := rfl
  acts := apart
  act _ apart _ h := h.act apart
  leave _ _ _ h := h
  openContext _ _ h := h.congr rfl rfl .refl
  emit event state h := by
    obtain ⟨_, _, _, _, quiet⟩ := (builder.dispatcher app).emit_quiet event state
    rw [quiet]
    exact h.congr rfl rfl .refl
  vet caller kind state h := by
    have vet := Dispatcher.vet_registered app builder.settings builder.sinks caller kind state
    rw [dispatcher, vet]
    cases (state.handlers.find? kind).bind (·.serving? kind) with
    | none => exact h
    | some handler =>
      dsimp only
      cases (state.validators.find state.store kind).instance? with
      | none => exact h.find kind
      | some id => exact (h.find kind).verdict id caller.session
  undo := .inl rfl
  rollback := .inl rfl

/-! ### Building -/

theorem linkHandlers_eq (bindings : List (Binding V)) (table : HandlerTable V) :
    (linkHandlers bindings table).1 =
      bindings.foldl (fun table binding => table.insert binding.handler.kind binding.handler) table := by
  induction bindings generalizing table with
  | nil => rfl
  | cons binding bindings ih => exact ih _

/-- Registering classes calls no factory, and each class goes to the action type of its binding. -/
theorem linkClasses_eq (bindings : List (Binding V)) (registry : OnDemandRegistry V)
    (unused : ∀ kind, registry.instances.find? kind = none) :
    let linked := linkClasses bindings registry
    linked.factory = registry.factory ∧
      linked.classes = bindings.foldl
        (fun classes binding => classes.insert binding.handler.kind binding.guardedBy) registry.classes ∧
      ∀ kind, linked.instances.find? kind = none := by
  induction bindings generalizing registry with
  | nil => exact ⟨rfl, rfl, unused⟩
  | cons binding bindings ih =>
    exact ih (registry.addClass binding.handler.kind binding.guardedBy)
      (Twins.unused_addClass unused binding.handler.kind binding.guardedBy)

/-- Making instances for further bindings fills the table for all of them. -/
theorem linkInstances_filled {app : Application V} {factory : Factory V} {start now last : ValidatorStore V}
    {table table' : InstanceTable V} {done bindings : List (Binding V)}
    (filled : InstanceTable.Filled app factory start now table done) (leads : Leads app factory start now)
    (linked : (linkInstances factory bindings table now).1 = .ok (table', last)) :
    Leads app factory start last ∧
      InstanceTable.Filled app factory start last table' (done ++ bindings) := by
  -- With every call, one more binding is done, and the table is filled for those.
  induction bindings generalizing done table now with
  | nil =>
    cases linked
    rw [List.append_nil]
    exact ⟨leads, filled⟩
  | cons binding bindings ih =>
    cases created : now.create factory binding.guardedBy with
    | mk given store =>
      have called : Leads app factory now store := .of_create created
      rw [linkInstances, created] at linked
      cases given with
      | error fault => cases linked
      | ok id =>
        have issued : Issued app factory start store binding.guardedBy id := .of_create leads created
        rw [← List.singleton_append, ← List.append_assoc]
        exact ih ((filled.mono called).insert issued) (leads.trans called) linked

/-- What is built is wired. -/
theorem build_ok {builder : Builder V} {app : Application V} {store : ValidatorStore V}
    {channels : List Channel} {world : V.World} {dispatcher : Dispatcher V} {state : State V}
    (built : (builder.build app store channels world).answer = .ok (dispatcher, state)) :
    dispatcher = builder.dispatcher app ∧ builder.Wired app store state := by
  have handlers (kind : V.Kind) : (linkHandlers builder.bindings .empty).1.find? kind =
      (Binding.lastFor kind builder.bindings).map (·.handler) := by
    rw [linkHandlers_eq]
    exact Binding.find?_foldl _ _ kind
  unfold build linkValidators at built
  cases shape : builder.settings.validatorRegistry with
  | onDemand =>
    rw [shape] at built
    cases built
    obtain ⟨factory, classes, instances⟩ :=
      linkClasses_eq builder.bindings { factory := builder.factory } fun _ => rfl
    refine ⟨rfl, handlers, .refl, .onDemand shape factory (fun kind => ?_) fun kind id held => ?_⟩
    · rw [classes]
      exact Binding.find?_foldl _ _ kind
    · cases (instances kind).symm.trans held
  | upFront =>
    rw [shape] at built
    dsimp only at built
    cases linked : linkInstances builder.factory builder.bindings .empty store with
    | mk answer moments =>
      rw [linked] at built
      rcases answer with error | ⟨table, last⟩
      · cases built
      · cases built
        have unbound : InstanceTable.Filled app builder.factory store store .empty [] := fun _ => .none
        obtain ⟨leads, filled⟩ := linkInstances_filled unbound .refl (congrArg Prod.fst linked)
        exact ⟨rfl, handlers, leads, .upFront shape filled⟩

end Builder

/-! ### Sinks -/

/-- The sink that tells in this moment that it is called. -/
def Moment.sink? : Moment V → Option Sink
  | .observed index _ => some (.observer index)
  | .logged (.traced _) => some .tracing
  | _ => none

/-- Whether a sink tells that it is called. A channel does not. -/
def Sink.tells : Sink → Bool
  | .channel _ => false
  | .tracing | .observer _ => true

namespace Dispatcher

theorem deliver_tells (event : Event) (sink : Sink) (state : State V) :
    (deliver event sink state).moments.filterMap Moment.sink? = [sink].filter Sink.tells := by
  cases sink with
  | tracing | observer => rfl
  | channel index =>
    dsimp only [deliver]
    rw [Run.state_bind_apply]
    cases state.channels[index]? with
    | none => rfl
    | some channel =>
      dsimp only [Run.change_bind_apply, Run.leave, Channel.send]
      split <;> rfl

/-- The sinks are called in order. -/
theorem deliver_in_order (event : Event) (sinks : List Sink) (state : State V) :
    (sinks.forM (deliver event) state).moments.filterMap Moment.sink? = sinks.filter Sink.tells := by
  induction sinks generalizing state with
  | nil => rfl
  | cons sink sinks ih =>
    obtain ⟨channels, moments, delivered, -⟩ := deliver_sink event sink state
    have told := deliver_tells event sink state
    change ((deliver event sink >>= fun _ => sinks.forM (deliver event)) state).moments.filterMap
      Moment.sink? = _
    rw [delivered] at told
    rw [Run.bind_apply, delivered, Outcome.andThen_some, Outcome.after_moments, List.filterMap_append,
      told, ih, ← List.filter_append, List.singleton_append]

/-- An event goes to all sinks: those that tell are called in order, and every channel is sent the event as
often as it is a sink. -/
theorem emit_calls (dispatcher : Dispatcher V) (event : Event) (state : State V) :
    let out := dispatcher.emit event state
    out.moments.filterMap Moment.sink? = dispatcher.sinks.filter Sink.tells ∧
      ∀ index : Nat, out.state.channels[index]? = state.channels[index]?.map fun channel =>
        channel.sendAll (List.replicate (dispatcher.sinks.count (.channel index)) event) := by
  obtain ⟨channels, moments, delivered, -, sent⟩ := deliver_sinks event dispatcher.sinks state
  have told := deliver_in_order event dispatcher.sinks state
  rw [delivered] at told
  unfold emit
  rw [Run.leave_bind_apply, delivered]
  exact ⟨told, sent⟩

end Dispatcher

/-! ### Built dispatchers -/

/-- What a dispatcher looks up for an action type comes from the last of these bindings for it. -/
structure Dispatcher.Resolves (dispatcher : Dispatcher V) (factory : Factory V)
    (bindings : List (Binding V)) (start : ValidatorStore V) (now : State V) (kind : V.Kind) : Prop where
  handler : dispatcher.handlerAt now kind =
    (Binding.lastFor kind bindings).bind (·.handler.serving? kind)
  unhandled : dispatcher.handlerAt now kind = none ↔ ∀ binding ∈ bindings, binding.handler.kind ≠ kind
  validator : ∀ id, (dispatcher.validatorAt now kind).found.instance? = some id →
    ∃ binding, Binding.lastFor kind bindings = some binding ∧
      Suits dispatcher.app factory start (dispatcher.validatorAt now kind).found.store
        binding.guardedBy id
  /-- No validator is found for a binding only if validators are made on demand, and the factory fails. -/
  missing : (dispatcher.validatorAt now kind).found.instance? = none →
    ∀ binding, Binding.lastFor kind bindings = some binding →
      dispatcher.settings.validatorRegistry = .onDemand ∧
        (factory.create now.store.calls binding.guardedBy).isOk = false

namespace Builder

theorem Wired.resolves {builder : Builder V} {app : Application V} {start : ValidatorStore V}
    {state : State V} (h : builder.Wired app start state) (kind : V.Kind) :
    (builder.dispatcher app).Resolves builder.factory builder.bindings start state kind := by
  have handler : (builder.dispatcher app).handlerAt state kind =
      (Binding.lastFor kind builder.bindings).bind (·.handler.serving? kind) := by
    change (state.handlers.find? kind).bind (·.serving? kind) = _
    rw [h.handlers, Option.bind_map]
    rfl
  have finds := h.guarded.find h.leads kind
  refine ⟨handler, ?_, fun id found => ?_, finds.missing⟩
  · rw [handler, ← Binding.lastFor_eq_none_iff, Option.bind_eq_none_iff]
    constructor
    · intro unserved
      by_contra bound
      obtain ⟨binding, last⟩ := Option.ne_none_iff_exists'.1 bound
      exact AnyHandler.serving?_eq_none_iff.1 (unserved binding last) (Binding.kind_of_lastFor last)
    · intro unbound binding last
      cases unbound.symm.trans last
  · obtain ⟨binding, last, issued⟩ := finds.issued id found
    exact ⟨binding, last, issued.suits⟩

/-- A dispatcher that is built from some steps has the settings set last, and the sinks in the order in which
they were added, in which they are called as well. Whatever its shape of registry, each action type has the
handler of its last binding, and a validator that the factory set last gave for the class of this binding. It
is so right away, and in every state that clients bring about; they register nothing, as a builder hands its
registries to nobody. Nothing else about the steps makes a difference to the dispatcher, and a module may as
well be taken apart. -/
theorem build_wired (steps : List (BuilderStep V)) (app : Application V) (store : ValidatorStore V)
    (channels : List Channel) (world : V.World) {dispatcher : Dispatcher V} {state : State V}
    (built : ((ofSteps steps).build app store channels world).answer = .ok (dispatcher, state)) :
    let bindings := steps.flatMap BuilderStep.bindings
    dispatcher.settings = lastSettings steps ∧
    (dispatcher.sinks = steps.filterMap BuilderStep.sink? ∧ ∀ event now,
      let out := dispatcher.emit event now
      out.moments.filterMap Moment.sink? = (steps.filterMap BuilderStep.sink?).filter Sink.tells ∧
      ∀ index : Nat, out.state.channels[index]? = now.channels[index]?.map fun channel =>
        channel.sendAll (List.replicate ((steps.filterMap BuilderStep.sink?).count (.channel index)) event)) ∧
    (∀ kind, dispatcher.Resolves (lastFactory steps) bindings store state kind) ∧
    (∀ depth (moves : List (Move V)),
      (∀ step handler, (app.program step handler).Acts (·.registers = false)) →
      (∀ act, .act act ∈ moves → act.registers = false) → ∀ kind,
        dispatcher.Resolves (lastFactory steps) bindings store
          (dispatcher.serve depth moves state).state kind) ∧
    (∀ steps', lastSettings steps' = lastSettings steps → lastFactory steps' = lastFactory steps →
      steps'.filterMap BuilderStep.sink? = steps.filterMap BuilderStep.sink? →
      steps'.flatMap BuilderStep.bindings = bindings →
      (ofSteps steps').build app store channels world = (ofSteps steps).build app store channels world) ∧
    ∀ before parts after, steps = before ++ .install (.install parts) :: after →
      (ofSteps (before ++ parts.map .install ++ after)).build app store channels world =
        (ofSteps steps).build app store channels world := by
  intro bindings
  obtain ⟨rfl, wired⟩ := build_ok built
  have from_steps := ofSteps_eq steps
  have settings : ((ofSteps steps).dispatcher app).settings = lastSettings steps :=
    congrArg Builder.settings from_steps
  have sinks : ((ofSteps steps).dispatcher app).sinks = steps.filterMap BuilderStep.sink? :=
    congrArg Builder.sinks from_steps
  have resolves {now : State V} (wired : (ofSteps steps).Wired app store now) (kind : V.Kind) :
      ((ofSteps steps).dispatcher app).Resolves (lastFactory steps) bindings store now kind := by
    have factory : (ofSteps steps).factory = lastFactory steps := congrArg Builder.factory from_steps
    have flattened : (ofSteps steps).bindings = bindings := congrArg Builder.bindings from_steps
    have resolves := wired.resolves kind
    rwa [factory, flattened] at resolves
  refine ⟨settings, ⟨sinks, fun event now => ?_⟩, resolves wired, ?_, ?_, ?_⟩
  · rw [← sinks]
    exact Dispatcher.emit_calls _ event now
  · intro depth moves apart apart' kind
    have kept := (alike_wired (ofSteps steps) store apart).serve (fun _ h => h) depth apart'
      (fun _ _ _ h => h.congr rfl rfl .refl) state wired
    exact resolves kept kind
  · intro steps' settings' factory' sinks' bindings'
    rw [ofSteps_eq steps', from_steps, settings', factory', sinks', bindings']
  · rintro before parts after rfl
    rw [ofSteps_install]

end Builder

/-! ### Porters -/

namespace Porters

open Doors (Door Lock)

/-- Porters with numbers open doors that have one name, and a lock opens so often. -/
def vocabulary : Vocabulary where
  Kind := Door
  kindName _ := "OpenDoor"
  Input _ := Unit
  Output _ := Nat
  Handler _ := Nat
  Class := Lock
  className
    | .key => "Key"
    | .code => "Code"
  Validator := Nat
  World := Unit
  Note := Empty

/-- A porter gives its number. -/
def application : Application vocabulary where
  execute porter _ := .done (.ok porter)
  undo _ _ _ := .done (.ok ())
  check (left : Nat) _ _ := (left != 0, left - 1)

def porter (number : Nat) (door : Door) (lock : ValidatorClass vocabulary) : Configuration vocabulary :=
  .bind ⟨⟨door, number⟩, lock⟩

/-- All codes are checked by the first instance, although another provider for them was added before. -/
def codeProviders : List (Lock × Provider vocabulary) :=
  [(.code, .each fun _ => .ok (7 : Nat)), (.code, .shared ⟨0⟩)]

def codes : Factory vocabulary := (Container.ofProviders codeProviders).factory

/-- Both doors get a porter from a module, and another one later. -/
def staffing : List (BuilderStep vocabulary) :=
  [.install (.install [porter 1 .front (.ofInitial .key (9 : Nat)),
      .install [porter 2 .back (.injected .code)]]),
    .factory .initial, .sink (.observer 0), .settings {}, .install (porter 3 .front (.injected .code)),
    .sink .tracing, .settings { validatorRegistry := .upFront }, .factory codes,
    .install (porter 4 .back (.ofInitial .key (5 : Nat)))]

/-- The same in another order, and in other modules. -/
def restaffing : List (BuilderStep vocabulary) :=
  [.factory codes, .sink (.observer 0), .sink .tracing, .install (porter 1 .front (.ofInitial .key (9 : Nat))),
    .settings { validatorRegistry := .upFront },
    .install (.install [.install [porter 2 .back (.injected .code), porter 3 .front (.injected .code)],
      porter 4 .back (.ofInitial .key (5 : Nat))])]

/-- The later porters are at the doors, each with the lock of its own binding, before and after somebody
comes in. -/
theorem staffing_wired :
    let store : ValidatorStore vocabulary := { instances := [(2 : Nat)] }
    let visit : Step vocabulary := .execute Door.front ()
    ∃ dispatcher state,
      ((Builder.ofSteps staffing).build application store [] ()).answer = .ok (dispatcher, state) ∧
      (∀ step handler, (application.program step handler).Acts (·.registers = false)) ∧
      (∀ door, dispatcher.Resolves codes (staffing.flatMap BuilderStep.bindings) store state door) ∧
      (∀ door, dispatcher.Resolves codes (staffing.flatMap BuilderStep.bindings) store
        (dispatcher.serve 1 [.request none visit] state).state door) ∧
      (dispatcher.handlerAt state Door.front = some (3 : Nat) ∧
        (dispatcher.validatorAt state Door.front).found.instance? = some ⟨0⟩ ∧
        Container.Provides application (dispatcher.validatorAt state Door.front).found.store
          codeProviders (.injected .code) ⟨0⟩) ∧
      (dispatcher.handlerAt state Door.back = some (4 : Nat) ∧
        (dispatcher.validatorAt state Door.back).found.instance? = some ⟨2⟩) ∧
      (Builder.ofSteps restaffing).build application store [] () =
        (Builder.ofSteps staffing).build application store [] () ∧
      (Builder.ofSteps (.install (porter 1 .front (.ofInitial .key (9 : Nat))) ::
          .install (.install [porter 2 .back (.injected .code)]) :: staffing.tail)).build
        application store [] () = (Builder.ofSteps staffing).build application store [] () := by
  intro store visit
  have apart (step : Step vocabulary) (handler : vocabulary.Handler step.kind) :
      (application.program step handler).Acts (·.registers = false) := by
    cases step with
    | execute | undo => trivial
  have built : ((Builder.ofSteps staffing).build application store [] ()).answer = .ok (_, _) := rfl
  obtain ⟨-, -, resolves, later, only, apart'⟩ := Builder.build_wired staffing application store [] () built
  obtain ⟨binding, last, suits⟩ := (resolves Door.front).validator ⟨0⟩ rfl
  cases last
  exact ⟨_, _, built, apart, resolves, later 1 [.request none visit] apart (by simp),
    ⟨rfl, rfl, suits.provided codeProviders rfl⟩, ⟨rfl, rfl⟩, only restaffing rfl rfl rfl rfl,
    apart' [] _ _ rfl⟩

end Porters

end ActionDispatch
