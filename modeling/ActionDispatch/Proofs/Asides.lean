import ActionDispatch.Dispatcher.Request

/-!
# Asides

Much of what happens in a run is on the side: events and their delivery, log records, the making of
validators, acts outside of any request. `Run.Aside` is closed under `bind`, and each small part of
the engine satisfies it; what is left are lookups, session checks and handler calls.
-/

namespace ActionDispatch

variable {V : Vocabulary} {α β : Type}

/-- Nothing that a context does or that marks off a request. -/
def Moment.Aside : Moment V → Prop
  | .checked caller _ _ _ => caller = none
  | .emitted _ | .observed .. | .logged _ | .created .. | .noted _ => True
  | _ => False

theorem Finding.aside (finding : Finding V) : finding.moment.Aside := by
  cases finding <;> trivial

theorem Found.moments_aside {ρ : Type} (found : Found ρ V) : ∀ m ∈ found.moments, m.Aside := by
  intro m hm
  obtain ⟨finding, -, rfl⟩ := List.mem_map.1 hm
  exact finding.aside

/-- The run finishes, leaves only asides and starts no request. -/
structure Run.Aside (run : Run V α) : Prop where
  finishes : ∀ state, ∃ a, (run state).value = some a
  aside : ∀ state, ∀ m ∈ (run state).moments, m.Aside
  requests : ∀ state, (run state).state.requests = state.requests

namespace Run.Aside

theorem apply {run : Run V α} (h : run.Aside) (state : State V) :
    ∃ a last moments, run state = ⟨some a, last, moments⟩ ∧ (∀ m ∈ moments, m.Aside) ∧
      last.requests = state.requests := by
  obtain ⟨a, ha⟩ := h.finishes state
  exact ⟨a, _, _, by rw [← ha], h.aside state, h.requests state⟩

theorem pure (a : α) : (Pure.pure a : Run V α).Aside :=
  ⟨fun _ => ⟨a, rfl⟩, fun _ _ h => (nomatch h), fun _ => rfl⟩

theorem bind {run : Run V α} {f : α → Run V β} (h : run.Aside) (hf : ∀ a, (f a).Aside) :
    (run >>= f).Aside := by
  constructor <;> intro state <;> obtain ⟨a, ha⟩ := h.finishes state <;>
    simp only [Run.bind_apply, Outcome.andThen, ha]
  · exact (hf a).finishes _
  · intro m hm
    rcases List.mem_append.1 hm with hm | hm
    · exact h.aside state m hm
    · exact (hf a).aside _ m hm
  · rw [Outcome.after_state, (hf a).requests, h.requests]

theorem state : (Run.state : Run V (State V)).Aside :=
  ⟨fun s => ⟨s, rfl⟩, fun _ _ h => (nomatch h), fun _ => rfl⟩

theorem change {f : State V → State V} (h : ∀ state, (f state).requests = state.requests) :
    (Run.change f).Aside :=
  ⟨fun _ => ⟨(), rfl⟩, fun _ _ h => (nomatch h), h⟩

theorem leave {moments : List (Moment V)} (h : ∀ m ∈ moments, m.Aside) :
    (Run.leave moments).Aside :=
  ⟨fun _ => ⟨(), rfl⟩, fun _ => h, fun _ => rfl⟩

theorem log (record : LogRecord) : (Run.log record : Run V Unit).Aside :=
  leave fun _ hm => List.mem_singleton.1 hm ▸ trivial

theorem records (records : List LogRecord) :
    (Run.leave (records.map .logged) : Run V Unit).Aside := by
  refine leave fun m hm => ?_
  obtain ⟨record, -, rfl⟩ := List.mem_map.1 hm
  trivial

end Run.Aside

namespace Dispatcher

theorem deliver_aside (event : Event) (sink : Sink) : (deliver event sink : Run V Unit).Aside := by
  cases sink with
  | channel index =>
    refine .bind .state fun state => ?_
    cases state.channels[index]? with
    | none => exact .pure ()
    | some channel => exact .bind (.change fun _ => rfl) fun _ => .records _
  | tracing => exact .log _
  | observer index => exact .leave fun _ hm => List.mem_singleton.1 hm ▸ trivial

theorem deliver_all_aside (event : Event) (sinks : List Sink) :
    (sinks.forM (deliver event) : Run V Unit).Aside := by
  induction sinks with
  | nil => exact .pure ()
  | cons sink sinks ih => exact .bind (deliver_aside event sink) fun _ => ih

theorem emit_aside (dispatcher : Dispatcher V) (event : Event) : (dispatcher.emit event).Aside :=
  .bind (.leave fun _ hm => List.mem_singleton.1 hm ▸ trivial) fun _ => deliver_all_aside event _

/-- An event is emitted before any sink gets it. -/
theorem emit_apply (dispatcher : Dispatcher V) (event : Event) (state : State V) :
    ∃ last rest, dispatcher.emit event state = ⟨some (), last, .emitted event :: rest⟩ ∧
      (∀ m ∈ rest, m.Aside) ∧ last.requests = state.requests := by
  obtain ⟨_, last, rest, hdeliver, aside, requests⟩ :=
    (deliver_all_aside event dispatcher.sinks).apply state
  refine ⟨last, rest, ?_, aside, requests⟩
  unfold emit
  rw [Run.leave_bind_apply, hdeliver]
  rfl

/-- A record and an event, and then the delivery of the event. -/
theorem tell_apply (dispatcher : Dispatcher V) (record : LogRecord) (event : Event) (a : α)
    (state : State V) :
    ∃ last delivery, (do Run.log record; dispatcher.emit event; pure a : Run V α) state =
        ⟨some a, last, .logged record :: .emitted event :: delivery⟩ ∧
      (∀ m ∈ delivery, m.Aside) ∧ last.requests = state.requests := by
  obtain ⟨last, delivery, hemit, aside, requests⟩ := dispatcher.emit_apply event state
  refine ⟨last, delivery, ?_, aside, requests⟩
  rw [Run.log_bind_apply, Run.bind_apply, hemit]
  simp [Run.pure_apply, Outcome.after]

theorem refuse_aside (dispatcher : Dispatcher V) (caller : Caller) (step : Step V) :
    (dispatcher.refuse caller step).Aside := by
  cases step with
  | execute kind input =>
    exact .bind (.log _) fun _ => .bind (dispatcher.emit_aside _) fun _ => .pure _
  | undo kind input output =>
    refine .bind (dispatcher.emit_aside _) fun _ => ?_
    cases dispatcher.settings.unauthorizedUndo with
    | ignore => exact .bind (.log _) fun _ => .pure _
    | reject => exact .bind (.log _) fun _ => .pure _

end Dispatcher

namespace Application

variable (app : Application V)

theorem ask_aside (id : InstanceId) (session : Option String) :
    (app.ask none id session).Aside := by
  constructor <;> intro state <;> rw [app.ask_apply]
  · exact ⟨_, rfl⟩
  · intro m hm
    exact List.mem_singleton.1 hm ▸ rfl
  · exact app.verdict_requests state id session

/-- An act outside of any request is on the side, whatever it does to the registries or the
world. -/
theorem act_aside (act : Act V) : (app.act act).Aside := by
  cases act with
  | addHandler => exact .bind .state fun _ => .bind (.change fun _ => rfl) fun _ => .records _
  | removeHandler | removeValidator | removeClass | makeValidator | change =>
    exact .bind .state fun _ => .bind (.change fun _ => rfl) fun _ => .pure _
  | clearHandlers | addValidator | addClass | clearValidators => exact .change fun _ => rfl
  | countHandlers | findHandler | countCached => exact .bind .state fun _ => .pure _
  | findValidator kind =>
    exact .bind .state fun _ => .bind (.change fun _ => rfl) fun _ =>
      .bind (.leave (Found.moments_aside _)) fun _ => .pure _
  | check id session => exact app.ask_aside id session
  | note => exact .leave fun _ hm => List.mem_singleton.1 hm ▸ trivial

end Application

end ActionDispatch
