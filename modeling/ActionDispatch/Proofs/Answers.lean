import ActionDispatch.Proofs.Walk
import ActionDispatch.Proofs.Widgets

/-!
# What a caller can receive

A request is answered as unsupported just when the registries have no handler or no validator for it,
and then nothing happens but lookups and events (`Life.unserved`). Whatever else its handlers raise,
at any depth, its caller gets a rejection, a service error, or the failure of the rollback with the
errors behind it (`Life.served`).
-/

namespace ActionDispatch

variable {V : Vocabulary}

/-- A handler is called, a session is checked, or a rollback turns to an entry. -/
def Moment.acts : Moment V → Bool
  | .called .. | .checked .. | .compensating .. => true
  | _ => false

namespace Dispatcher

/-- The state in which a request looks up its handler and its validator. -/
def ready (dispatcher : Dispatcher V) (step : Step V) (state : State V) : State V :=
  (dispatcher.emit (.started ⟨state.requests⟩ step.name) state.started).state

/-- What the caller of a request can receive, and what has happened then. -/
structure Receives (dispatcher : Dispatcher V) (session : Option String) (step : Step V)
    (state : State V) (answer : Answer step.Result) (moments : List (Moment V)) : Prop where
  /-- The request is unsupported just when there is no handler for exactly its action type, or no
  validator for it. -/
  unsupported_iff : (∃ action, answer = .error (.unsupportedAction action)) ↔
    dispatcher.Unserved (dispatcher.ready step state) step.kind
  /-- Then the error names the action, no handler is called, no session is checked, and nothing is
  rolled back. -/
  unsupported : ∀ action, answer = .error (.unsupportedAction action) →
    action = step.name ∧ (∀ m ∈ moments, m.acts = false) ∧
      eventsOf ⟨state.requests⟩ moments = [.started ⟨state.requests⟩ step.name,
        .failed ⟨state.requests⟩ (DispatchError.unsupportedAction step.name).message]
  other : ∀ error, answer = .error error → error.isUnsupported = true ∨ error.isRaised = true ∨
    ∃ original failures first, error = .rollbackFailed original failures first
  /-- Behind the failure of a rollback are the error of the request, that of the first step that
  could not be taken back, and at most as many as were logged. -/
  rollbackFailed : ∀ original failures first,
    answer = .error (.rollbackFailed original failures first) →
      original.isRaised = true ∧ (first.isRaised = true ∨ first.isUnsupported = true) ∧
        1 ≤ failures ∧ failures ≤ (performed (.fresh state session) moments).length

variable {dispatcher : Dispatcher V} {caller : Caller}

theorem Tells.acts_eq_false {event : Event} {told : List (Moment V)}
    (h : dispatcher.Tells event told) : ∀ m ∈ told, m.acts = false := by
  obtain ⟨delivered, -⟩ := h
  intro m hm
  rcases List.mem_cons.1 hm with rfl | hm
  · rfl
  · have delivers := delivered m hm
    cases m with
    | observed | logged => rfl
    | _ => exact delivers.elim

/-- Every error of a rollback is that of a step. -/
theorem Walk.errors {entries : List (Entry V)} {turns : List (Turn V)} {rest : List (Moment V)}
    {errors? : Option (List DispatchError)} (h : dispatcher.Walk caller entries turns rest errors?)
    {errors : List DispatchError} (finished : errors? = some errors) :
    ∀ error ∈ errors, error.isRaised = true ∨ error.isUnsupported = true := by
  induction h generalizing errors with
  | done =>
    cases finished
    exact fun _ h => (nomatch h)
  | halted => cases finished
  | stopped policy turned =>
    cases finished
    exact fun error herror => turned.error error (congrArg some (List.mem_singleton.1 herror).symm)
  | onward goesOn turned walk ih =>
    obtain ⟨later, rfl, rfl⟩ := Option.map_eq_some_iff.1 finished
    intro error herror
    rcases List.mem_append.1 herror with herror | herror
    · exact turned.error error (Option.mem_toList.1 herror)
    · exact ih rfl error herror

/-- A request that is unserved is answered so, and nothing else happens. -/
theorem Life.unserved {session : Option String} {step : Step V} {state : State V}
    {answer? : Option (Answer step.Result)} {moments : List (Moment V)}
    (h : dispatcher.Life session step state answer? moments)
    (unserved : dispatcher.Unserved (dispatcher.ready step state) step.kind) :
    answer? = some (.error (.unsupportedAction step.name)) ∧ (∀ m ∈ moments, m.acts = false) ∧
      eventsOf ⟨state.requests⟩ moments = [.started ⟨state.requests⟩ step.name,
        .failed ⟨state.requests⟩ (DispatchError.unsupportedAction step.name).message] := by
  obtain @⟨ready, opening, out, _, moments, tells, labour, ending⟩ := h
  have same : dispatcher.ready step state = ready := congrArg Outcome.state tells
  rw [same] at unserved
  obtain ⟨value, found⟩ := labour.unserved unserved
  have nothing : performed (.fresh state session) out.moments = [] :=
    (labour.log_eq _ _ value).symm
  rw [nothing, value] at ending
  have started := tells_of_emit tells
  cases ending with
  | broken logged | rolledBack logged => exact (logged rfl).elim
  | failed _ told =>
    refine ⟨rfl, fun m hm => ?_, ?_⟩
    · simp only [List.mem_cons, List.mem_append, List.not_mem_nil, or_false] at hm
      rcases hm with rfl | hm | hm | hm | rfl
      · rfl
      · exact started.acts_eq_false m hm
      · obtain ⟨finding, rfl⟩ := found m hm
        cases finding <;> rfl
      · exact told.acts_eq_false m hm
      · rfl
    · have silent : eventsOf (Caller.fresh state session).request out.moments = [] := by
        refine List.filterMap_eq_nil_iff.2 fun m hm => ?_
        obtain ⟨finding, rfl⟩ := found m hm
        cases finding <;> rfl
      change eventsOf (Caller.fresh state session).request _ = _
      rw [eventsOf_request started, eventsOf_append, silent, eventsOf_failing told]
      rfl

/-- A request that is served can fail with what its own step raised, or because its rollback
failed. -/
theorem Life.served {session : Option String} {step : Step V} {state : State V}
    {answer? : Option (Answer step.Result)} {moments : List (Moment V)}
    (h : dispatcher.Life session step state answer? moments)
    (served : ¬dispatcher.Unserved (dispatcher.ready step state) step.kind) {error : DispatchError}
    (failed : answer? = some (.error error)) :
    error.isRaised = true ∨ ∃ original failures first,
      error = .rollbackFailed original failures first ∧ original.isRaised = true ∧
        (first.isRaised = true ∨ first.isUnsupported = true) ∧ 1 ≤ failures ∧
          failures ≤ (performed (.fresh state session) moments).length := by
  obtain @⟨ready, opening, out, _, moments, tells, labour, ending⟩ := h
  have same : dispatcher.ready step state = ready := congrArg Outcome.state tells
  rw [same] at served
  have raised : ∀ {error}, out.value.map Prod.fst = some (.error error) → error.isRaised = true := by
    intro error hgiven
    obtain ⟨⟨answer, later⟩, hvalue, rfl⟩ := Option.map_eq_some_iff.1 hgiven
    exact labour.served served error later hvalue
  rw [ending.performed_eq rfl (tells_of_emit tells)]
  generalize hgiven : out.value.map Prod.fst = given? at ending
  cases ending with
  | halted | completed | broken => cases failed
  | failed nothing told =>
    cases failed
    exact .inl (raised hgiven)
  | @rolledBack original errors opening turns closing told logged rolls walk silent tells =>
    cases failed
    cases errors with
    | nil => exact .inl (raised hgiven)
    | cons first others =>
      obtain ⟨through, count⟩ := walk.getsThrough rfl
      refine .inr ⟨original, _, first, rfl, raised hgiven,
        walk.errors rfl first List.mem_cons_self, Nat.le_add_left 1 _, ?_⟩
      calc others.length + 1
        _ = turns.countP (!·.success) := count
        _ ≤ turns.length := List.countP_le_length
        _ = (turns.map Turn.entry).length := (List.length_map _).symm
        _ ≤ (performed (.fresh state session) out.moments).reverse.length := through.order.length_le
        _ = (performed (.fresh state session) out.moments).length := List.length_reverse

/-- Every request that is unserved returns, and whatever a request returns is what a caller can
receive. -/
theorem run_receives (dispatcher : Dispatcher V) (depth : Nat) (session : Option String)
    (step : Step V) (state : State V) :
    (dispatcher.Unserved (dispatcher.ready step state) step.kind →
      (dispatcher.run (depth + 1) session step state).value =
        some (.error (.unsupportedAction step.name))) ∧
    ∀ answer last moments, dispatcher.run depth session step state = ⟨some answer, last, moments⟩ →
      dispatcher.Receives session step state answer moments := by
  refine ⟨fun unserved => ((dispatcher.run_life depth session step state).unserved unserved).1, ?_⟩
  intro answer last moments h
  cases depth with
  | zero => cases h
  | succ depth =>
    have life := dispatcher.run_life depth session step state
    rw [h] at life
    by_cases unserved : dispatcher.Unserved (dispatcher.ready step state) step.kind
    · obtain ⟨same, idle, events⟩ := life.unserved unserved
      cases same
      refine ⟨⟨fun _ => unserved, fun _ => ⟨_, rfl⟩⟩, ?_, ?_, fun _ _ _ same => (nomatch same)⟩
      · intro action same
        cases same
        exact ⟨rfl, idle, events⟩
      · intro error same
        cases same
        exact .inl rfl
    · have fails := fun error (same : answer = .error error) =>
        life.served unserved (congrArg some same)
      have supported : ∀ action, answer ≠ .error (.unsupportedAction action) := by
        intro action same
        rcases fails _ same with ⟨⟨⟩⟩ | ⟨_, _, _, ⟨⟩, _⟩
      refine ⟨⟨fun ⟨action, same⟩ => (supported action same).elim, fun h => (unserved h).elim⟩,
        fun action same => (supported action same).elim, fun error same => .inr ?_, ?_⟩
      · exact (fails error same).imp_right fun ⟨original, failures, first, h, _⟩ =>
          ⟨original, failures, first, h⟩
      · intro original failures first same
        rcases fails _ same with ⟨⟨⟩⟩ | ⟨_, _, _, ⟨⟩, facts⟩
        exact facts

open Widgets

/-- Where no handler is registered, creating widgets is unsupported; and of a replacement whose
rollback stops at its first step, the caller gets both errors. -/
theorem overreaching_replace_received :
    strict.Unserved (strict.ready (execution .create 1) untended) Job.create ∧
      (strict.run 1 "user" (execution .create 1) untended).value =
        some (.error (.unsupportedAction "CreateWidgets")) ∧
      ∃ last moments, strict.run 2 "user" (execution .replace 1) crowded =
          ⟨some (.error (.rollbackFailed (.action "No room") 1 .insufficientRights)), last, moments⟩ ∧
        1 ≤ (performed (.fresh crowded "user") moments).length := by
  have unserved : strict.Unserved (strict.ready (execution .create 1) untended) Job.create :=
    .inl rfl
  obtain ⟨returns, -⟩ := strict.run_receives 0 "user" (execution .create 1) untended
  obtain ⟨-, receives⟩ := strict.run_receives 2 "user" (execution .replace 1) crowded
  refine ⟨unserved, returns unserved, _, _, rfl, ?_⟩
  exact ((receives _ _ _ rfl).rollbackFailed _ _ _ rfl).2.2.2

end Dispatcher

end ActionDispatch
