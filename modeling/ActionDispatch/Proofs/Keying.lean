import ActionDispatch.Proofs.Creations
import ActionDispatch.Proofs.Mediation
import ActionDispatch.Proofs.Wiring

/-!
# Registries by action type

A registry of handlers, or of validators made before, is a map from action types: what it gives for a type is
what was added for exactly this type last, unless that was removed or everything was cleared since. Names play
no part in it. The facts are those of a table under changes (`Table.find?_after`), carried over to what acts
do to a state; `registries_keyed` adds what this means for the handlers that steps reach.
-/

namespace ActionDispatch

namespace Table

variable {κ α : Type}

/-- What can be done with a table. -/
inductive Change (κ α : Type)
  | bind (k : κ) (a : α)
  | unbind (k : κ)
  | clear

namespace Change

/-- The change settles what is bound to the key. -/
def Concerns (k : κ) : Change κ α → Prop
  | .bind k' _ | .unbind k' => k' = k
  | .clear => True

/-- The key was bound to this, and no change since has concerned it. -/
def LastBinds (changes : List (Change κ α)) (k : κ) (a : α) : Prop :=
  ∃ before after, changes = before ++ .bind k a :: after ∧ ∀ change ∈ after, ¬change.Concerns k

variable {changes : List (Change κ α)} {change : Change κ α} {k : κ} {a : α}

theorem not_lastBinds_nil : ¬LastBinds ([] : List (Change κ α)) k a := by
  rintro ⟨before, after, split, -⟩
  simp at split

theorem lastBinds_concat :
    LastBinds (changes ++ [change]) k a ↔
      change = .bind k a ∨ ¬change.Concerns k ∧ LastBinds changes k a := by
  constructor
  · rintro ⟨before, after, split, spared⟩
    rcases List.eq_nil_or_concat after with rfl | ⟨after, last, rfl⟩
    · exact .inl (List.singleton_inj.1 (List.append_inj' split rfl).2)
    · rw [List.concat_eq_append, ← List.cons_append, ← List.append_assoc] at split
      obtain ⟨rfl, same⟩ := List.append_inj' split rfl
      cases same
      rw [List.concat_eq_append, List.forall_mem_append, List.forall_mem_singleton] at spared
      exact .inr ⟨spared.2, before, after, rfl, spared.1⟩
  · rintro (rfl | ⟨spared, before, after, rfl, earlier⟩)
    · exact ⟨changes, [], rfl, nofun⟩
    · exact ⟨before, after ++ [change], by simp, List.forall_mem_append.2 ⟨earlier, by simpa using spared⟩⟩

end Change

variable [DecidableEq κ]

def Change.apply (t : Table κ α) : Change κ α → Table κ α
  | .bind k a => t.insert k a
  | .unbind k => t.erase k
  | .clear => .empty

/-- The table after some changes. -/
def after (t : Table κ α) (changes : List (Change κ α)) : Table κ α := changes.foldl Change.apply t

open Change (LastBinds)

theorem after_append (t : Table κ α) (before later : List (Change κ α)) :
    t.after (before ++ later) = (t.after before).after later :=
  List.foldl_append

theorem after_concat (t : Table κ α) (changes : List (Change κ α)) (change : Change κ α) :
    t.after (changes ++ [change]) = change.apply (t.after changes) :=
  List.foldl_append

/-- One change: it binds the key itself, or what was bound before stays unless the change concerns it. -/
theorem Change.find?_apply (t : Table κ α) (change : Change κ α) (k : κ) (a : α) :
    (change.apply t).find? k = some a ↔
      change = .bind k a ∨ ¬change.Concerns k ∧ t.find? k = some a := by
  cases change with
  | bind k' a' =>
    rw [apply, find?_insert, Concerns]
    by_cases same : k = k'
    · subst same
      simp
    · simp [same, Ne.symm same]
  | unbind k' =>
    rw [apply, find?_erase, Concerns]
    by_cases same : k = k'
    · simp [same]
    · simp [same, Ne.symm same]
  | clear => simp [apply, Concerns]

theorem find?_after (changes : List (Change κ α)) (k : κ) (a : α) :
    ((empty : Table κ α).after changes).find? k = some a ↔ LastBinds changes k a := by
  induction changes using List.reverseRecOn with
  | nil => exact iff_of_false nofun Change.not_lastBinds_nil
  | append_singleton changes change ih =>
    rw [after_concat, Change.find?_apply, ih, Change.lastBinds_concat]

theorem find?_after_erase (changes : List (Change κ α)) (k other : κ) (a : α) :
    (((empty : Table κ α).after changes).erase k).find? other = some a ↔
      other ≠ k ∧ LastBinds changes other a := by
  rw [find?_erase, ← find?_after]
  by_cases same : other = k <;> simp [same]

theorem contains_after (changes : List (Change κ α)) (k : κ) :
    ((empty : Table κ α).after changes).contains k = true ↔ ∃ a, LastBinds changes k a := by
  simp only [contains, Option.isSome_iff_exists, find?_after]

theorem encard_after (changes : List (Change κ α)) :
    {k | ∃ a, LastBinds changes k a}.encard = ((empty : Table κ α).after changes).size := by
  rw [← encard_keys]
  simp only [← contains_after]
  rfl

end Table

open Table (Change)
open Table.Change (LastBinds)

variable {V : Vocabulary}

namespace AnyHandler

theorem serving?_isSome_iff (any : AnyHandler V) (kind : V.Kind) :
    (any.serving? kind).isSome = true ↔ kind = any.kind := by
  rw [Option.isSome_iff_ne_none, Ne, serving?_eq_none_iff, not_not, eq_comm]

theorem serving?_eq_some_iff {any : AnyHandler V} {kind : V.Kind} {handler : V.Handler kind} :
    any.serving? kind = some handler ↔ any = ⟨kind, handler⟩ := by
  obtain ⟨kind', handler'⟩ := any
  unfold serving?
  constructor
  · intro h
    split at h
    · next same =>
      cases same
      cases h
      rfl
    · cases h
  · intro h
    cases h
    exact dif_pos rfl

end AnyHandler

namespace Act

/-- What an act does to the registered handlers. A handler is registered for the type it serves. -/
def onHandlers : Act V → Option (Change V.Kind (AnyHandler V))
  | .addHandler handler => some (.bind handler.kind handler)
  | .removeHandler kind => some (.unbind kind)
  | .clearHandlers => some .clear
  | _ => none

/-- What an act does to the registered instances. -/
def onInstances : Act V → Option (Change V.Kind InstanceId)
  | .addValidator kind id => some (.bind kind id)
  | .removeValidator kind => some (.unbind kind)
  | .clearValidators => some .clear
  | _ => none

end Act

namespace Application

variable (app : Application V)

/-- The state after some acts. -/
def afterActs (state : State V) (acts : List (Act V)) : State V :=
  acts.foldl (fun state act => (app.act act state).state) state

theorem act_handlers (act : Act V) (state : State V) :
    (app.act act state).state.handlers = state.handlers.after act.onHandlers.toList := by
  cases act with
  | check id session =>
    change (app.verdict state id session).2.handlers = state.handlers
    rw [verdict_state]
  | _ => rfl

theorem act_instances (act : Act V) {state : State V} {table : InstanceTable V}
    (upFront : state.validators = .upFront table) :
    (app.act act state).state.validators = .upFront (table.after act.onInstances.toList) := by
  cases act with
  | check id session =>
    change (app.verdict state id session).2.validators = _
    rw [verdict_state]
    exact upFront
  | addValidator kind id =>
    exact congrArg (·.addInstance kind id) upFront
  | removeValidator kind =>
    exact congrArg (fun registry => (registry.removeInstance kind).1) upFront
  | addClass kind c =>
    exact congrArg (·.addClass kind c) upFront
  | removeClass kind c =>
    exact congrArg (fun registry => (registry.removeClass kind c).1) upFront
  | clearValidators =>
    exact congrArg (·.clear) upFront
  | findValidator kind =>
    exact congrArg (fun registry => (registry.find state.store kind).registry) upFront
  | _ => exact upFront

theorem afterActs_concat (state : State V) (acts : List (Act V)) (act : Act V) :
    app.afterActs state (acts ++ [act]) = (app.act act (app.afterActs state acts)).state :=
  List.foldl_append

theorem afterActs_handlers (state : State V) (acts : List (Act V)) :
    (app.afterActs state acts).handlers = state.handlers.after (acts.filterMap Act.onHandlers) := by
  induction acts using List.reverseRecOn with
  | nil => rfl
  | append_singleton acts act ih =>
    rw [afterActs_concat, act_handlers, ih, List.filterMap_append, Table.after_append]
    cases act <;> rfl

theorem afterActs_instances {state : State V} {table : InstanceTable V}
    (upFront : state.validators = .upFront table) (acts : List (Act V)) :
    (app.afterActs state acts).validators = .upFront (table.after (acts.filterMap Act.onInstances)) := by
  induction acts using List.reverseRecOn with
  | nil => exact upFront
  | append_singleton acts act ih =>
    rw [afterActs_concat, act_instances app act ih, List.filterMap_append, Table.after_append]
    cases act <;> rfl

/-- The act gives something of which this holds. -/
def Gives (state : State V) (act : Act V) (P : act.Result → Prop) : Prop :=
  ∃ result, (app.act act state).value = some result ∧ P result

end Application

/-- The first handler that is called for a step is the one that the lookup gave. -/
theorem Dispatcher.perform_firstCall (dispatcher : Dispatcher V) (calls : Calls V) (caller : Caller)
    (step : Step V) (log : List (Entry V)) (state : State V) {m : Moment V}
    (first : (dispatcher.perform calls caller step log state).moments.find? Moment.isCall = some m) :
    ∃ handler, dispatcher.handlerAt state step.kind = some handler ∧ m = .called caller step handler := by
  have member := List.mem_of_find?_eq_some first
  have call := List.find?_some first
  have conduct := dispatcher.perform_conduct calls caller step log state
  generalize dispatcher.perform calls caller step log state = out at first member conduct
  cases conduct with
  | unserved => cases member
  | unguarded => cases call.symm.trans (Found.moments_aside _ m member).isCall_eq_false
  | @refused id answer last moments guarded refused refusal =>
    obtain ⟨_, _, _, refusal', aside, -⟩ := (dispatcher.refuse_aside caller step).apply
      (dispatcher.app.verdict (dispatcher.afterValidator state step.kind) id caller.session).2
    cases refusal'.symm.trans refusal
    rcases List.mem_append.1 member with member | member
    · rcases List.mem_append.1 member with member | member
      · cases call.symm.trans (Found.moments_aside _ m member).isCall_eq_false
      · simp only [List.mem_cons, List.not_mem_nil, or_false] at member
        rcases member with rfl | rfl <;> cases call
    · cases call.symm.trans (aside m member).isCall_eq_false
  | @invoked handler way admitted admission =>
    have uncalled : way.find? Moment.isCall = none := by simpa using admission.isCall_eq_false
    rw [Outcome.after_moments, List.find?_append, uncalled] at first
    obtain ⟨served, -, -⟩ := admission
    exact ⟨handler, served, (Option.some.inj first).symm⟩

/-- The same state with nothing registered, neither handlers nor instances made before. -/
def State.cleared (base : State V) : State V :=
  { base with handlers := .empty, validators := .upFront .empty }

namespace Application

variable (app : Application V) (base : State V) (history : List (Act V)) (kind : V.Kind)

theorem cleared_handlers :
    (app.afterActs base.cleared history).handlers =
      (Table.empty : HandlerTable V).after (history.filterMap Act.onHandlers) :=
  afterActs_handlers app base.cleared history

theorem cleared_instances :
    (app.afterActs base.cleared history).validators =
      .upFront ((Table.empty : InstanceTable V).after (history.filterMap Act.onInstances)) :=
  afterActs_instances app (show base.cleared.validators = .upFront .empty from rfl) history

theorem find_handler :
    app.Gives (app.afterActs base.cleared history) (.findHandler kind) fun found =>
      ∀ any, found = some any ↔ LastBinds (history.filterMap Act.onHandlers) kind any := by
  refine ⟨_, rfl, fun any => ?_⟩
  rw [← Table.find?_after, ← cleared_handlers app base]

theorem find_instance :
    app.Gives (app.afterActs base.cleared history) (.findValidator kind) fun found =>
      ∀ id, found = some id ↔ LastBinds (history.filterMap Act.onInstances) kind id := by
  refine ⟨_, rfl, fun id => ?_⟩
  rw [← Table.find?_after, cleared_instances]
  rfl

theorem remove_handler :
    app.Gives (app.afterActs base.cleared history) (.removeHandler kind) fun removed =>
      removed = true ↔ ∃ any, LastBinds (history.filterMap Act.onHandlers) kind any := by
  refine ⟨_, rfl, ?_⟩
  rw [← Table.contains_after, ← cleared_handlers app base]

theorem remove_instance :
    app.Gives (app.afterActs base.cleared history) (.removeValidator kind) fun removed =>
      removed = true ↔ ∃ id, LastBinds (history.filterMap Act.onInstances) kind id := by
  refine ⟨_, rfl, ?_⟩
  rw [← Table.contains_after, cleared_instances]

/-- After a removal the lookups give what they gave, except for the action type that was removed. -/
theorem find_handler_removed (other : V.Kind) :
    app.Gives (app.act (.removeHandler kind) (app.afterActs base.cleared history)).state
      (.findHandler other) fun found =>
        ∀ any, found = some any ↔
          other ≠ kind ∧ LastBinds (history.filterMap Act.onHandlers) other any := by
  refine ⟨_, rfl, fun any => ?_⟩
  rw [← Table.find?_after_erase, ← cleared_handlers app base]
  rfl

theorem find_instance_removed (other : V.Kind) :
    app.Gives (app.act (.removeValidator kind) (app.afterActs base.cleared history)).state
      (.findValidator other) fun found =>
        ∀ id, found = some id ↔
          other ≠ kind ∧ LastBinds (history.filterMap Act.onInstances) other id := by
  refine ⟨_, rfl, fun id => ?_⟩
  have gone := act_instances app (.removeValidator kind) (cleared_instances app base history)
  rw [← Table.find?_after_erase, gone]
  rfl

end Application

/-- Handlers are registered for the action type that they serve. -/
theorem Act.kind_of_lastBinds {history : List (Act V)} {kind : V.Kind} {any : AnyHandler V}
    (bound : LastBinds (history.filterMap Act.onHandlers) kind any) : any.kind = kind := by
  obtain ⟨before, after, split, -⟩ := bound
  have member : Change.bind kind any ∈ history.filterMap Act.onHandlers := by simp [split]
  obtain ⟨act, -, binds⟩ := List.mem_filterMap.1 member
  cases act <;> cases binds
  rfl

/-- Whatever is done, and whatever the action types are called: a lookup finds what was registered last for
exactly this action type and not removed since; a removal tells whether there was something, and concerns
this action type only; what is counted are the action types with a handler; a handler that is found serves
the type it was looked up for and no other; and wherever the handlers are as they are now, a step reaches a
handler that was registered for its action type. -/
theorem registries_keyed (app : Application V) (base : State V) (history : List (Act V)) :
    let state := app.afterActs base.cleared history
    let handlers := history.filterMap Act.onHandlers
    let instances := history.filterMap Act.onInstances
    (∀ kind,
      app.Gives state (.findHandler kind)
        (fun found => ∀ any, found = some any ↔ LastBinds handlers kind any) ∧
      app.Gives state (.findValidator kind)
        (fun found => ∀ id, found = some id ↔ LastBinds instances kind id)) ∧
    (∀ kind,
      app.Gives state (.removeHandler kind)
        (fun removed => removed = true ↔ ∃ any, LastBinds handlers kind any) ∧
      (∀ other, app.Gives (app.act (.removeHandler kind) state).state (.findHandler other)
        fun found => ∀ any, found = some any ↔ other ≠ kind ∧ LastBinds handlers other any) ∧
      app.Gives state (.removeValidator kind)
        (fun removed => removed = true ↔ ∃ id, LastBinds instances kind id) ∧
      (∀ other, app.Gives (app.act (.removeValidator kind) state).state (.findValidator other)
        fun found => ∀ id, found = some id ↔ other ≠ kind ∧ LastBinds instances other id)) ∧
    app.Gives state .countHandlers (fun count => {kind | ∃ any, LastBinds handlers kind any}.encard = count) ∧
    (∀ kind any, LastBinds handlers kind any →
      ∀ other, (any.serving? other).isSome = true ↔ other = kind) ∧
    ∀ dispatcher : Dispatcher V, dispatcher.handlerFor = .registered →
      ∀ now : State V, now.handlers = state.handlers → ∀ calls caller step log m,
        (dispatcher.perform calls caller step log now).moments.find? Moment.isCall = some m →
        ∃ handler, m = .called caller step handler ∧ LastBinds handlers step.kind ⟨step.kind, handler⟩ := by
  intro state handlers instances
  refine ⟨fun kind => ⟨app.find_handler base history kind, app.find_instance base history kind⟩,
    fun kind => ⟨app.remove_handler base history kind, app.find_handler_removed base history kind,
      app.remove_instance base history kind, app.find_instance_removed base history kind⟩,
    ⟨_, rfl, ?_⟩, fun kind any bound other => ?_, ?_⟩
  · rw [Table.encard_after, ← app.cleared_handlers base]
  · rw [any.serving?_isSome_iff, Act.kind_of_lastBinds bound]
  · intro dispatcher registered now same calls caller step log m first
    obtain ⟨handler, served, called⟩ := dispatcher.perform_firstCall calls caller step log now first
    refine ⟨handler, called, ?_⟩
    rw [Dispatcher.handlerAt, registered, HandlerLookup.registered, same, app.cleared_handlers base,
      Option.bind_eq_some_iff] at served
    obtain ⟨any, found, serving⟩ := served
    rw [AnyHandler.serving?_eq_some_iff] at serving
    rwa [Table.find?_after, serving] at found

namespace Porters

open Doors (Door)

/-- Each door gets two porters in turn, and both doors have one name. The back door loses its second porter,
and the front door its lock, for which another is put in. -/
def shift : List (Act vocabulary) :=
  [.addHandler ⟨Door.front, (1 : Nat)⟩, .addHandler ⟨Door.back, (2 : Nat)⟩, .makeValidator (9 : Nat),
    .addValidator Door.front ⟨0⟩, .addHandler ⟨Door.front, (3 : Nat)⟩,
    .addHandler ⟨Door.back, (4 : Nat)⟩, .makeValidator (5 : Nat), .removeHandler Door.back,
    .removeValidator Door.front, .addValidator Door.back ⟨0⟩, .addValidator Door.front ⟨1⟩]

/-- Who comes in by the front door meets the porter that was last there, and the name that both doors have
leads nowhere else. -/
theorem shift_keyed :
    let base : State vocabulary := ⟨.empty, .upFront .empty, {}, [], 0, ()⟩
    let state := application.afterActs base.cleared shift
    let handlers := shift.filterMap Act.onHandlers
    let caller : Caller := .fresh state none
    let visit : Step vocabulary := .execute Door.front ()
    vocabulary.kindName Door.front = vocabulary.kindName Door.back ∧
    LastBinds handlers Door.front ⟨Door.front, (3 : Nat)⟩ ∧
    (application.act (.findHandler Door.front) state).value = some (some ⟨Door.front, (3 : Nat)⟩) ∧
    (application.act (.findHandler Door.back) state).value = some none ∧
    (application.act (.findValidator Door.front) state).value = some (some ⟨1⟩) ∧
    (application.act (.removeHandler Door.back) state).value = some false ∧
    (application.act .countHandlers state).value = some 1 ∧
    {door | ∃ any, LastBinds handlers door any}.encard = 1 ∧
    ∃ handler, LastBinds handlers Door.front ⟨Door.front, handler⟩ ∧
      (({ app := application } : Dispatcher vocabulary).perform ⟨fun _ _ _ => Run.cut, fun _ _ => Run.cut⟩
        caller visit [] state).moments.find? Moment.isCall = some (.called caller visit handler) := by
  intro base state handlers caller visit
  obtain ⟨lookups, -, ⟨count, counts, counted⟩, -, reached⟩ := registries_keyed application base shift
  obtain ⟨found, finds, keyed⟩ := (lookups Door.front).1
  cases finds
  cases counts
  have first : (({ app := application } : Dispatcher vocabulary).perform
      ⟨fun _ _ _ => Run.cut, fun _ _ => Run.cut⟩ caller visit [] state).moments.find? Moment.isCall =
        some (.called caller visit (3 : Nat)) := rfl
  obtain ⟨handler, called, bound⟩ := reached { app := application } rfl state rfl _ caller visit [] _ first
  exact ⟨rfl, (keyed _).1 rfl, rfl, rfl, rfl, rfl, rfl, counted, handler, bound, called ▸ first⟩

end Porters

end ActionDispatch
