import ActionDispatch.Proofs.Mediation

/-!
# Chronicles

`Dispatcher.Chronicle` divides what a run leaves into pieces of its own and requests that it starts,
which are runs in themselves. What a context leaves of its own is `Work`; what a request leaves of
its own is its `Affair`. Where `Course` follows the log of a context, a chronicle follows to which
request everything belongs, the events included. Steps, requests and clients all are chronicles
(`perform_chronicles`, `run_chronicles`, `serve_chronicles`).
-/

namespace ActionDispatch

variable {V : Vocabulary} {α β : Type}

/-- The context that a moment is of, if it is of one. -/
def Moment.caller? : Moment V → Option Caller
  | .opened caller _ | .resolved caller _ _ | .called caller _ _ | .looked caller _
  | .returned caller _ _ _ | .compensating caller _ | .closed caller _ _ => some caller
  | .checked caller _ _ _ => caller
  | .emitted _ | .observed .. | .logged _ | .created .. | .noted _ => none

/-- The request that a moment is of, if it is of one. -/
def Moment.request? : Moment V → Option RequestId
  | .opened caller _ | .resolved caller _ _ | .called caller _ _ | .looked caller _
  | .returned caller _ _ _ | .compensating caller _ | .closed caller _ _ => some caller.request
  | .checked caller _ _ _ => caller.map Caller.request
  | .emitted event | .observed _ event => some event.request
  | .logged _ | .created .. | .noted _ => none

/-- Whether a request begins or ends. -/
def Moment.isMark : Moment V → Bool
  | .opened .. | .closed .. => true
  | _ => false

/-- The record that a step of a rollback failed. -/
def Moment.isStepFailure : Moment V → Bool
  | .logged (.stepFailed ..) => true
  | _ => false

/-- Of no request, and not the failure of a step. -/
def Moment.Silent (m : Moment V) : Prop :=
  m.request? = none ∧ m.isStepFailure = false

theorem Moment.request?_of_caller? {m : Moment V} {caller : Caller} (h : m.caller? = some caller) :
    m.request? = some caller.request := by
  cases m <;> cases h <;> rfl

theorem Moment.isMark_of_unnamed (m : Moment V) (h : m.request? = none) : m.isMark = false := by
  cases m <;> first | rfl | cases h

theorem Moment.openAfter_of_unmarked {m : Moment V} (h : m.isMark = false) (opened : List Caller) :
    m.openAfter opened = opened := by
  cases m <;> first | rfl | cases h

/-- The event that this observer gets in a moment. -/
def Moment.heard? (index : Nat) : Moment V → Option Event
  | .observed observer event => if observer = index then some event else none
  | _ => none

/-- The event that is emitted in a moment. -/
def Moment.emission? : Moment V → Option Event
  | .emitted event => some event
  | _ => none

/-- A sink gets the event in this moment, or there is a record about that. -/
def Moment.Delivers (event : Event) : Moment V → Prop
  | .observed _ delivered => delivered = event
  | .logged record => (.logged record : Moment V).isStepFailure = false
  | _ => False

theorem Moment.Delivers.silent_or {event : Event} {m : Moment V} (h : m.Delivers event) :
    m.Silent ∨ ∃ index, m = .observed index event := by
  cases m with
  | observed index delivered =>
    cases h
    exact .inr ⟨index, rfl⟩
  | logged record => exact .inl ⟨rfl, h⟩
  | _ => exact h.elim

/-- Sending only ever leaves the record that the event is discarded. -/
theorem Channel.send_records (channel : Channel) (event : Event) :
    ∀ record ∈ (channel.send event).2, record = .discarded event := by
  unfold send
  split <;> simp

namespace Dispatcher

/-- An event is emitted and delivered. Every observing sink gets it, and nothing else is heard. -/
inductive Tells (dispatcher : Dispatcher V) (event : Event) : List (Moment V) → Prop
  | intro {delivery}
      (delivered : ∀ m ∈ delivery, m.Delivers event)
      (heard : ∀ index, delivery.filterMap (Moment.heard? index) =
        List.replicate (dispatcher.sinks.count (.observer index)) event) :
      Tells dispatcher event (.emitted event :: delivery)

theorem deliver_apply (event : Event) (sink : Sink) (state : State V) :
    ∃ last moments, deliver event sink state = ⟨some (), last, moments⟩ ∧
      last.requests = state.requests ∧
      (∀ m ∈ moments, m.Delivers event) ∧
      ∀ index, moments.filterMap (Moment.heard? index) =
        List.replicate ([sink].count (.observer index)) event := by
  cases sink with
  | channel number =>
    dsimp only [deliver]
    rw [Run.state_bind_apply]
    cases state.channels[number]? with
    | none => exact ⟨_, _, rfl, rfl, by simp, by simp⟩
    | some channel =>
      refine ⟨_, (channel.send event).2.map .logged, rfl, rfl, ?_, ?_⟩
      · intro m hm
        obtain ⟨record, hrecord, rfl⟩ := List.mem_map.1 hm
        obtain rfl := channel.send_records event record hrecord
        exact rfl
      · intro index
        rw [List.filterMap_map]
        exact List.filterMap_eq_nil_iff.2 fun _ _ => rfl
  | tracing =>
    exact ⟨_, _, rfl, rfl, by simp [Moment.Delivers, Moment.isStepFailure],
      by simp [Moment.heard?]⟩
  | observer number =>
    refine ⟨_, _, rfl, rfl, by simp [Moment.Delivers], fun index => ?_⟩
    by_cases same : number = index <;> simp [Moment.heard?, same]

theorem deliver_all_apply (event : Event) (sinks : List Sink) (state : State V) :
    ∃ last moments, sinks.forM (deliver event) state = ⟨some (), last, moments⟩ ∧
      last.requests = state.requests ∧
      (∀ m ∈ moments, m.Delivers event) ∧
      ∀ index, moments.filterMap (Moment.heard? index) =
        List.replicate (sinks.count (.observer index)) event := by
  induction sinks generalizing state with
  | nil => exact ⟨_, _, rfl, rfl, by simp, by simp⟩
  | cons sink sinks ih =>
    obtain ⟨middle, before, hfirst, requests₁, delivered₁, heard₁⟩ := deliver_apply event sink state
    obtain ⟨last, after, hrest, requests₂, delivered₂, heard₂⟩ := ih middle
    refine ⟨last, before ++ after, ?_, requests₂.trans requests₁, ?_, fun index => ?_⟩
    · change (deliver event sink >>= fun _ => sinks.forM (deliver event)) state = _
      rw [Run.bind_apply, hfirst, Outcome.andThen_some, hrest]
      rfl
    · intro m hm
      rcases List.mem_append.1 hm with hm | hm
      · exact delivered₁ m hm
      · exact delivered₂ m hm
    · rw [List.filterMap_append, heard₁, heard₂, List.replicate_append_replicate, ← List.count_append]
      rfl

theorem emit_tells (dispatcher : Dispatcher V) (event : Event) (state : State V) :
    ∃ last told, dispatcher.emit event state = ⟨some (), last, told⟩ ∧
      last.requests = state.requests ∧ dispatcher.Tells event told := by
  obtain ⟨last, delivery, hdeliver, requests, delivered, heard⟩ :=
    deliver_all_apply event dispatcher.sinks state
  refine ⟨last, .emitted event :: delivery, ?_, requests, .intro delivered heard⟩
  unfold emit
  rw [Run.leave_bind_apply, hdeliver]
  rfl

end Dispatcher

/-! ### Pieces -/

/-- A moment in a context that is followed by no event. -/
def Moment.Plain (caller : Caller) : Moment V → Prop
  | .resolved c _ _ | .called c _ _ | .looked c _ | .returned c _ (.error _) _ => c = caller
  | .checked c _ _ _ => c = some caller
  | _ => False

theorem Moment.Plain.caller?_eq {caller : Caller} {m : Moment V} (h : m.Plain caller) :
    m.caller? = some caller := by
  cases m with
  | resolved | called | looked | checked =>
    cases h
    rfl
  | returned c step answer log =>
    cases answer with
    | ok => exact h.elim
    | error =>
      cases h
      rfl
  | _ => exact h.elim

theorem Moment.Plain.isMark_eq_false {caller : Caller} {m : Moment V} (h : m.Plain caller) :
    m.isMark = false := by
  cases m <;> first | rfl | exact h.elim

theorem Step.performed_request (step : Step V) (request : RequestId) :
    (step.performed request).request = request := by
  unfold performed
  split <;> rfl

namespace Dispatcher

/-- What is left of a place's own, piece by piece, when steps are performed there. -/
inductive Work (dispatcher : Dispatcher V) : Option Caller → List (Moment V) → Prop
  | silent {place m} (silent : m.Silent) : Work dispatcher place [m]
  | found {caller state kind m} (found : m ∈ (dispatcher.validatorFor state kind).found.moments) :
      Work dispatcher (some caller) [m]
  | plain {caller m} (plain : m.Plain caller) : Work dispatcher (some caller) [m]
  | refused {caller action undo told}
      (tells : dispatcher.Tells (.rejected caller.request action undo) told) :
      Work dispatcher (some caller) told
  | performed {caller} {step : Step V} {output log told}
      (tells : dispatcher.Tells (step.performed caller.request) told) :
      Work dispatcher (some caller) (.returned caller step (.ok output) log :: told)

/-- What is left of a request's own, piece by piece, between its beginning and its end. -/
inductive Affair (dispatcher : Dispatcher V) (request : RequestId) : List (Moment V) → Prop
  | moment {m} (unmarked : m.isMark = false) (mine : ∀ id, m.request? = some id → id = request)
      (unheard : ∀ index, m.heard? index = none) (unsaid : m.emission? = none) :
      Affair dispatcher request [m]
  | told {event told} (mine : event.request = request) (tells : dispatcher.Tells event told) :
      Affair dispatcher request told

/-- A run from one number of requests to another, in pieces of its own and requests that it starts;
without a second number, it is cut short. -/
inductive Chronicle (dispatcher : Dispatcher V) :
    (List (Moment V) → Prop) → Nat → List (Moment V) → Option Nat → Prop
  | cut {Own n} : Chronicle dispatcher Own n [] none
  | nil {Own n} : Chronicle dispatcher Own n [] (some n)
  | append {Own n middle before after stop}
      (first : Chronicle dispatcher Own n before (some middle))
      (second : Chronicle dispatcher Own middle after stop) :
      Chronicle dispatcher Own n (before ++ after) stop
  | own {Own n} {piece : List (Moment V)} (own : Own piece) :
      Chronicle dispatcher Own n piece (some n)
  /-- A request that is cut short. -/
  | begun {Own depth session} {step : Step V} {state last body}
      (run : dispatcher.run depth session step state =
        ⟨none, last, .opened (.fresh state session) step :: body⟩)
      (inside : Chronicle dispatcher (dispatcher.Affair ⟨state.requests⟩) (state.requests + 1) body
        none) :
      Chronicle dispatcher Own state.requests (.opened (.fresh state session) step :: body) none
  | request {Own depth session} {step : Step V} {answer : Answer step.Result} {state last body}
      (run : dispatcher.run depth session step state = ⟨some answer, last,
        .opened (.fresh state session) step :: (body ++ [.closed (.fresh state session) step answer])⟩)
      (inside : Chronicle dispatcher (dispatcher.Affair ⟨state.requests⟩) (state.requests + 1) body
        (some last.requests)) :
      Chronicle dispatcher Own state.requests
        (.opened (.fresh state session) step :: (body ++ [.closed (.fresh state session) step answer]))
        (some last.requests)

/-- Every run of this kind is a chronicle with these pieces. -/
def Chronicles (dispatcher : Dispatcher V) (Own : List (Moment V) → Prop) (run : Run V α) : Prop :=
  ∀ state, dispatcher.Chronicle Own state.requests (run state).moments
    ((run state).value.map fun _ => (run state).state.requests)

variable {dispatcher : Dispatcher V} {Own : List (Moment V) → Prop}

/-- Pieces may be divided further. -/
theorem Chronicle.refine {Finer : List (Moment V) → Prop} {n : Nat} {moments : List (Moment V)}
    {stop : Option Nat} (h : dispatcher.Chronicle Own n moments stop)
    (finer : ∀ n piece, Own piece → dispatcher.Chronicle Finer n piece (some n)) :
    dispatcher.Chronicle Finer n moments stop := by
  induction h with
  | cut => exact .cut
  | nil => exact .nil
  | append _ _ ih₁ ih₂ => exact .append (ih₁ finer) (ih₂ finer)
  | own own => exact finer _ _ own
  | begun run inside => exact .begun run inside
  | request run inside => exact .request run inside

namespace Chronicles

theorem pure (a : α) : dispatcher.Chronicles Own (Pure.pure a : Run V α) := fun _ => .nil

theorem state : dispatcher.Chronicles Own (Run.state : Run V (State V)) := fun _ => .nil

theorem change {f : State V → State V} (same : ∀ state, (f state).requests = state.requests) :
    dispatcher.Chronicles Own (Run.change f) := by
  intro state
  change dispatcher.Chronicle Own state.requests [] (some (f state).requests)
  rw [same]
  exact .nil

theorem leave {piece : List (Moment V)} (own : Own piece) :
    dispatcher.Chronicles Own (Run.leave piece) := fun _ => .own own

/-- Moments that are pieces each by itself. -/
theorem leave_all {moments : List (Moment V)} (own : ∀ m ∈ moments, Own [m]) :
    dispatcher.Chronicles Own (Run.leave moments) := by
  intro state
  change dispatcher.Chronicle Own state.requests moments (some state.requests)
  induction moments with
  | nil => exact .nil
  | cons m moments ih =>
    exact .append (.own (own m List.mem_cons_self))
      (ih fun m hm => own m (List.mem_cons_of_mem _ hm))

theorem bind {run : Run V α} {f : α → Run V β} (h : dispatcher.Chronicles Own run)
    (hf : ∀ a, dispatcher.Chronicles Own (f a)) : dispatcher.Chronicles Own (run >>= f) := by
  intro state
  have h := h state
  rw [Run.bind_apply]
  generalize run state = out at h
  obtain ⟨_ | a, middle, moments⟩ := out
  · exact h
  · exact .append h (hf a middle)

theorem refine {Finer : List (Moment V) → Prop} {run : Run V α}
    (h : dispatcher.Chronicles Own run)
    (finer : ∀ n piece, Own piece → dispatcher.Chronicle Finer n piece (some n)) :
    dispatcher.Chronicles Finer run := fun state => (h state).refine finer

theorem emit {event : Event} (own : ∀ told, dispatcher.Tells event told → Own told) :
    dispatcher.Chronicles Own (dispatcher.emit event) := by
  intro state
  obtain ⟨last, told, hemit, requests, tells⟩ := dispatcher.emit_tells event state
  rw [hemit]
  change dispatcher.Chronicle Own state.requests told (some last.requests)
  rw [requests]
  exact .own (own told tells)

end Chronicles

end Dispatcher

/-! ### Everything is a chronicle -/

/-- Whatever a handler asks of the dispatcher is a chronicle. -/
structure Calls.Chronicled (calls : Calls V) (dispatcher : Dispatcher V) : Prop where
  perform : ∀ caller step log,
    dispatcher.Chronicles (dispatcher.Work (some caller)) (calls.perform caller step log)
  request : ∀ Own session step, dispatcher.Chronicles Own (calls.request session step)

theorem Found.moments_unnamed {ρ : Type} (found : Found ρ V) :
    ∀ m ∈ found.moments, m.request? = none := by
  intro m hm
  obtain ⟨finding, -, rfl⟩ := List.mem_map.1 hm
  cases finding <;> rfl

/-- A lookup that is made for an act logs no failure of a step. -/
theorem ValidatorRegistry.find_silent (registry : ValidatorRegistry V) (store : ValidatorStore V)
    (kind : V.Kind) : ∀ m ∈ (registry.find store kind).moments, m.Silent := by
  have silent : ∀ finding ∈ (registry.find store kind).findings, finding.moment.Silent := by
    cases registry with
    | upFront instances => simp [find]
    | onDemand registry =>
      simp only [find, OnDemandRegistry.find]
      split
      · simp
      · split
        · simp
        · split <;> simp [Finding.moment, Moment.Silent, Moment.request?, Moment.isStepFailure]
  intro m hm
  obtain ⟨finding, hfinding, rfl⟩ := List.mem_map.1 hm
  exact silent finding hfinding

namespace Dispatcher

variable {dispatcher : Dispatcher V} {calls : Calls V} {caller : Caller}
  {Own : List (Moment V) → Prop}

theorem ask_chronicles {asker : Option Caller} {id : InstanceId} {session : Option String}
    (own : ∀ valid, Own [.checked asker id session valid]) :
    dispatcher.Chronicles Own (dispatcher.app.ask asker id session) := by
  intro state
  rw [Application.ask_apply]
  change dispatcher.Chronicle Own state.requests _ (some _)
  rw [Application.verdict_requests]
  exact .own (own _)

theorem act_chronicles (silent : ∀ m : Moment V, m.Silent → Own [m]) (act : Act V) :
    dispatcher.Chronicles Own (dispatcher.app.act act) := by
  cases act with
  | addHandler handler =>
    refine .bind .state fun state => .bind (.change fun _ => rfl) fun _ => .leave_all ?_
    intro m hm
    obtain ⟨record, hrecord, rfl⟩ := List.mem_map.1 hm
    refine silent _ ⟨rfl, ?_⟩
    split at hrecord
    · obtain rfl := List.mem_singleton.1 hrecord
      rfl
    · cases hrecord
  | removeHandler | removeValidator | removeClass | makeValidator | change =>
    exact .bind .state fun _ => .bind (.change fun _ => rfl) fun _ => .pure _
  | clearHandlers | addValidator | addClass | clearValidators => exact .change fun _ => rfl
  | countHandlers | findHandler | countCached => exact .bind .state fun _ => .pure _
  | findValidator kind =>
    refine .bind .state fun state => .bind (.change fun _ => rfl) fun _ => .bind (.leave_all ?_)
      fun _ => .pure _
    exact fun m hm => silent m (state.validators.find_silent _ _ m hm)
  | check id session => exact ask_chronicles fun _ => silent _ ⟨rfl, rfl⟩
  | note => exact .leave (silent _ ⟨rfl, rfl⟩)

theorem interpret_chronicles (h : calls.Chronicled dispatcher) (program : Program V α)
    (log : List (Entry V)) :
    dispatcher.Chronicles (dispatcher.Work (some caller))
      (dispatcher.interpret calls caller program log) := by
  induction program generalizing log with
  | done answer => exact .pure _
  | perform step next ih => exact (h.perform caller step log).bind fun logged => ih _ _
  | request session step next ih => exact (h.request _ session step).bind fun answer => ih answer log
  | look next ih => exact .bind (.leave (.plain rfl)) fun _ => ih _ log
  | act act next ih => exact .bind (act_chronicles (fun _ => .silent) act) fun result => ih result log

theorem resolve_chronicles (kind : V.Kind) :
    dispatcher.Chronicles (dispatcher.Work (some caller)) (dispatcher.resolve caller kind) := by
  refine .bind .state fun state => ?_
  cases dispatcher.handlerAt state kind with
  | none => exact .bind (.change fun _ => rfl) fun _ => .pure _
  | some handler =>
    refine .bind (.change fun _ => rfl) fun _ => .bind (.leave_all fun m => .found) fun _ => ?_
    cases (dispatcher.validatorAt state kind).found.instance? with
    | none => exact .pure _
    | some id => exact .bind (.leave (.plain rfl)) fun _ => .pure _

theorem log_chronicles {place : Option Caller} {record : LogRecord}
    (h : (Moment.logged record : Moment V).isStepFailure = false) :
    dispatcher.Chronicles (dispatcher.Work place) (Run.log record) :=
  .leave (.silent ⟨rfl, h⟩)

theorem refuse_chronicles (step : Step V) :
    dispatcher.Chronicles (dispatcher.Work (some caller)) (dispatcher.refuse caller step) := by
  cases step with
  | execute kind input =>
    exact .bind (log_chronicles rfl) fun _ => .bind (.emit fun _ => .refused) fun _ => .pure _
  | undo kind input output =>
    refine .bind (.emit fun _ => .refused) fun _ => ?_
    cases dispatcher.settings.unauthorizedUndo with
    | ignore => exact .bind (log_chronicles rfl) fun _ => .pure _
    | reject => exact .bind (log_chronicles rfl) fun _ => .pure _

theorem record_chronicles (step : Step V) (logged : Logged V step.Result) :
    dispatcher.Chronicles (dispatcher.Work (some caller)) (dispatcher.record caller step logged) := by
  obtain ⟨answer, log⟩ := logged
  cases answer with
  | error error => exact .bind (.leave (.plain rfl)) fun _ => .pure _
  | ok output =>
    -- The answer and the event that tells of it are one piece.
    intro state
    obtain ⟨last, told, hemit, requests, tells⟩ :=
      dispatcher.emit_tells (step.performed caller.request) state
    have one : dispatcher.Chronicle (dispatcher.Work (some caller)) last.requests
        (.returned caller step (.ok output) (log ++ step.recorded (.ok output)) :: told)
        (some last.requests) := .own (.performed tells)
    rw [requests] at one
    dsimp only [record]
    rw [Run.leave_bind_apply, Run.bind_apply, hemit, Outcome.andThen_some, Run.pure_apply]
    simpa [Outcome.after, requests] using one

theorem perform_chronicles (h : calls.Chronicled dispatcher) (step : Step V) (log : List (Entry V)) :
    dispatcher.Chronicles (dispatcher.Work (some caller))
      (dispatcher.perform calls caller step log) := by
  refine (resolve_chronicles step.kind).bind fun resolved => ?_
  rcases resolved with _ | ⟨handler, id⟩
  · exact .pure _
  · refine (ask_chronicles fun valid => .plain rfl).bind fun valid => ?_
    cases valid with
    | false => exact (refuse_chronicles step).bind fun _ => .pure _
    | true =>
      have begun : (Moment.logged (step.begun caller.request) : Moment V).isStepFailure = false := by
        cases step <;> rfl
      refine (log_chronicles begun).bind fun _ => .bind (.leave (.plain rfl)) fun _ => ?_
      exact (interpret_chronicles h _ log).bind fun logged => record_chronicles step logged

/-! ### Requests -/

section

variable {request : RequestId}

theorem Affair.unnamed {m : Moment V} (h : m.request? = none) : dispatcher.Affair request [m] := by
  refine .moment (m.isMark_of_unnamed h) (fun id hid => ?_) ?_ ?_
  · cases h.symm.trans hid
  · intro index
    cases m <;> first | rfl | cases h
  · cases m <;> first | rfl | cases h

theorem Affair.of_caller {m : Moment V} (h : m.caller? = some caller) (unmarked : m.isMark = false) :
    dispatcher.Affair caller.request [m] := by
  refine .moment unmarked (fun id hid => ?_) ?_ ?_
  · cases (Moment.request?_of_caller? h).symm.trans hid
    rfl
  · intro index
    cases m <;> first | rfl | cases h
  · cases m <;> first | rfl | cases h

/-- What a context leaves is an affair of its request. -/
theorem Work.affair {piece : List (Moment V)} (h : dispatcher.Work (some caller) piece) (n : Nat) :
    dispatcher.Chronicle (dispatcher.Affair caller.request) n piece (some n) := by
  cases h with
  | silent silent => exact .own (.unnamed silent.1)
  | found found => exact .own (.unnamed (Found.moments_unnamed _ _ found))
  | plain plain => exact .own (.of_caller plain.caller?_eq plain.isMark_eq_false)
  | refused tells => exact .own (.told rfl tells)
  | @performed _ step output log _ tells =>
    have answered : dispatcher.Chronicle (dispatcher.Affair caller.request) n
        [.returned caller step (.ok output) log] (some n) := .own (.of_caller rfl rfl)
    exact answered.append (.own (.told (step.performed_request _) tells))

end

variable {perform : Performing V}

theorem compensate_chronicles
    (h : ∀ caller step log, dispatcher.Chronicles (dispatcher.Work (some caller))
      (perform caller step log))
    (entry : Entry V) (log : List (Entry V)) :
    dispatcher.Chronicles (dispatcher.Affair caller.request)
      (dispatcher.compensate perform caller entry log) := by
  refine .bind (.leave (.of_caller rfl rfl)) fun _ => ?_
  refine ((h caller entry.compensation log).refine fun n _ piece => piece.affair n).bind
    fun ⟨answer, later⟩ => ?_
  cases answer with
  | ok output =>
    exact .bind (.leave (.unnamed rfl)) fun _ => .bind (.emit fun _ => .told rfl) fun _ => .pure _
  | error error =>
    exact .bind (.leave (.unnamed rfl)) fun _ => .bind (.emit fun _ => .told rfl) fun _ => .pure _

theorem unwind_chronicles
    (h : ∀ caller step log, dispatcher.Chronicles (dispatcher.Work (some caller))
      (perform caller step log))
    (entries log : List (Entry V)) :
    dispatcher.Chronicles (dispatcher.Affair caller.request)
      (dispatcher.unwind perform caller entries log) := by
  induction entries generalizing log with
  | nil => exact .pure _
  | cons entry older ih =>
    refine (compensate_chronicles h entry log).bind fun ⟨failure, later⟩ => ?_
    cases failure with
    | none => exact ih later
    | some error =>
      dsimp only
      cases dispatcher.settings.rollback with
      | stopOnFailure => exact .pure _
      | bestEffort => exact (ih later).bind fun _ => .pure _

theorem rollback_chronicles
    (h : ∀ caller step log, dispatcher.Chronicles (dispatcher.Work (some caller))
      (perform caller step log))
    (entries : List (Entry V)) (error : DispatchError) :
    dispatcher.Chronicles (dispatcher.Affair caller.request)
      (dispatcher.rollback perform caller entries error) := by
  unfold rollback
  split
  · exact .pure _
  · refine .bind (.leave (.unnamed rfl)) fun _ => .bind (.emit fun _ => .told rfl) fun _ => ?_
    have unwound : dispatcher.Chronicles (dispatcher.Affair caller.request)
        (dispatcher.unwind perform caller.rollback entries.reverse []) :=
      @unwind_chronicles _ _ caller.rollback _ h _ _
    refine unwound.bind fun errors => ?_
    cases errors with
    | nil => exact .bind (.leave (.unnamed rfl)) fun _ => .pure _
    | cons first others => exact .pure _

theorem conclude_chronicles
    (h : ∀ caller step log, dispatcher.Chronicles (dispatcher.Work (some caller))
      (perform caller step log))
    (log : List (Entry V)) (answer : Answer α) :
    dispatcher.Chronicles (dispatcher.Affair caller.request)
      (dispatcher.conclude perform caller log answer) := by
  cases answer with
  | ok output => exact .bind (.emit fun _ => .told rfl) fun _ => .pure _
  | error error =>
    exact (rollback_chronicles h log error).bind fun _ => .bind (.emit fun _ => .told rfl)
      fun _ => .pure _

/-- What happens in a request between its beginning and its end. -/
def inside (dispatcher : Dispatcher V) (perform : Performing V) (caller : Caller) (step : Step V) :
    Run V (Answer step.Result) := do
  dispatcher.emit (.started caller.request step.name)
  let logged ← perform caller step []
  dispatcher.conclude perform caller logged.2 logged.1

theorem request_eq_inside (session : Option String) (step : Step V) (state : State V) :
    dispatcher.request perform session step state =
      Outcome.after [.opened (.fresh state session) step]
        ((dispatcher.inside perform (.fresh state session) step >>= fun answer => do
          Run.leave [.closed (.fresh state session) step answer]
          pure answer) state.started) := by
  rw [request_apply]
  simp only [inside, bind_assoc]
  rfl

theorem inside_chronicles
    (h : ∀ caller step log, dispatcher.Chronicles (dispatcher.Work (some caller))
      (perform caller step log))
    (caller : Caller) (step : Step V) :
    dispatcher.Chronicles (dispatcher.Affair caller.request)
      (dispatcher.inside perform caller step) := by
  refine .bind (.emit fun _ => .told rfl) fun _ => ?_
  refine ((h caller step []).refine fun n _ piece => piece.affair n).bind fun logged => ?_
  exact conclude_chronicles h logged.2 logged.1

/-- A request is a run of its own. -/
theorem run_chronicles {depth : Nat}
    (h : ∀ caller step log, dispatcher.Chronicles (dispatcher.Work (some caller))
      (dispatcher.perform (dispatcher.callsAt depth) caller step log))
    (session : Option String) (step : Step V) :
    dispatcher.Chronicles Own (dispatcher.run (depth + 1) session step) := by
  intro state
  have inside := inside_chronicles h (.fresh state session) step state.started
  have run : dispatcher.run (depth + 1) session step state = _ :=
    request_eq_inside session step state
  rw [Run.bind_apply] at run
  generalize dispatcher.inside _ _ step state.started = out at inside run
  obtain ⟨_ | answer, last, body⟩ := out
  · have run : dispatcher.run (depth + 1) session step state = ⟨none, last, _⟩ := run
    rw [run]
    exact .begun run inside
  · have run : dispatcher.run (depth + 1) session step state = ⟨some answer, last,
        .opened (.fresh state session) step :: (body ++ [.closed (.fresh state session) step answer])⟩ :=
      run
    rw [run]
    exact .request run inside

theorem callsAt_chronicled (dispatcher : Dispatcher V) (depth : Nat) :
    (dispatcher.callsAt depth).Chronicled dispatcher := by
  induction depth with
  | zero => exact ⟨fun _ _ _ _ => .cut, fun _ _ _ _ => .cut⟩
  | succ depth ih =>
    exact ⟨fun caller => perform_chronicles ih, fun Own =>
      run_chronicles fun caller => perform_chronicles ih⟩

/-- Whatever a client does is a chronicle, with nothing of its own but what is silent. -/
theorem serve_chronicles (dispatcher : Dispatcher V) (depth : Nat) (moves : List (Move V)) :
    dispatcher.Chronicles (dispatcher.Work none) (dispatcher.serve depth moves) := by
  induction moves with
  | nil => exact .pure _
  | cons move moves ih =>
    cases move with
    | request session step =>
      exact ((callsAt_chronicled dispatcher depth).request _ session step).bind fun _ =>
        ih.bind fun _ => .pure _
    | act act =>
      exact (act_chronicles (fun _ => .silent) act).bind fun _ => ih.bind fun _ => .pure _
    | drop index => exact .bind (.change fun _ => rfl) fun _ => ih

end Dispatcher

end ActionDispatch
