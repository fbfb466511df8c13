import ActionDispatch.Proofs.Conduct

/-!
# Courses of runs

`Dispatcher.Course` is the grammar of what a run leaves, seen from a place: either one context, or
the client outside of all requests. It follows the log of the place and the number of requests, and
every handler call in it has its admission. Programs, steps, requests and clients all keep to it
(`interpret_follows`, `perform_follows`, `request_follows`, `serve_follows`), so that what holds of
every course holds of every run, also of one that is cut short.
-/

namespace ActionDispatch

variable {V : Vocabulary} {α β : Type}

namespace Caller

/-- The caller in a request that begins in this state. -/
def fresh (state : State V) (session : Option String) : Caller :=
  { request := ⟨state.requests⟩, session }

/-- The context in which a request is taken back. -/
def rollback (caller : Caller) : Caller := { caller with compensating := true }

end Caller

/-- The state in which one more request has been started. -/
def State.started (state : State V) : State V := { state with requests := state.requests + 1 }

/-- Where a place stands: the state of the run, and the log of the context. -/
structure Standing (V : Vocabulary) where
  state : State V
  log : List (Entry V)

namespace Dispatcher

/-- What happens at a place from one standing to another; without a second standing, the run is cut
short there. -/
inductive Course (dispatcher : Dispatcher V) :
    Option Caller → Standing V → List (Moment V) → Option (Standing V) → Prop
  | cut {place start} : Course dispatcher place start [] none
  | aside {place start moments state} (aside : ∀ m ∈ moments, m.Aside)
      (requests : state.requests = start.state.requests) :
      Course dispatcher place start moments (some ⟨state, start.log⟩)
  | trans {place start before middle after stop}
      (first : Course dispatcher place start before (some middle))
      (second : Course dispatcher place middle after stop) :
      Course dispatcher place start (before ++ after) stop
  /-- A session check that refuses. -/
  | refused {caller start moments kind id state} (aside : ∀ m ∈ moments, m.Aside)
      (requests : state.requests = start.state.requests) :
      Course dispatcher (some caller) start
        (moments ++ [.resolved caller kind id, .checked (some caller) id caller.session false])
        (some ⟨state, start.log⟩)
  /-- A handler call that is cut short. -/
  | halted {caller step handler start way state body}
      (admission : dispatcher.Admission caller step handler start.state way state)
      (inside : Course dispatcher (some caller) ⟨state, start.log⟩ body none) :
      Course dispatcher (some caller) start (way ++ .called caller step handler :: body) none
  | returned {caller step handler start way state body last log} (answer : Answer step.Result)
      (admission : dispatcher.Admission caller step handler start.state way state)
      (inside : Course dispatcher (some caller) ⟨state, start.log⟩ body (some ⟨last, log⟩)) :
      Course dispatcher (some caller) start
        (way ++ .called caller step handler ::
          (body ++ [.returned caller step answer (log ++ step.recorded answer)]))
        (some ⟨last, log ++ step.recorded answer⟩)
  /-- A handler looks at its context. -/
  | looked {caller start} :
      Course dispatcher (some caller) start [.looked caller start.log] (some start)
  /-- A rollback turns to an entry. -/
  | turn {caller : Caller} {start} (entry : Entry V) (compensating : caller.compensating) :
      Course dispatcher (some caller) start [.compensating caller entry] (some start)
  /-- A request that is cut short before its step is over. -/
  | begun {place start session step body}
      (inside : Course dispatcher (some (.fresh start.state session)) ⟨start.state.started, []⟩
        body none) :
      Course dispatcher place start (.opened (.fresh start.state session) step :: body) none
  /-- A request that is cut short later. -/
  | broken {place start session step body middle rest}
      (inside : Course dispatcher (some (.fresh start.state session)) ⟨start.state.started, []⟩ body
        (some middle))
      (ending : Course dispatcher (some (Caller.fresh start.state session).rollback)
        ⟨middle.state, []⟩ rest none) :
      Course dispatcher place start (.opened (.fresh start.state session) step :: (body ++ rest))
        none
  | request {place start session step body middle rest last} (answer : Answer step.Result)
      (inside : Course dispatcher (some (.fresh start.state session)) ⟨start.state.started, []⟩ body
        (some middle))
      (ending : Course dispatcher (some (Caller.fresh start.state session).rollback)
        ⟨middle.state, []⟩ rest (some last)) :
      Course dispatcher place start
        (.opened (.fresh start.state session) step ::
          (body ++ (rest ++ [.closed (.fresh start.state session) step answer])))
        (some ⟨last.state, start.log⟩)

/-- Requests are only ever added. -/
theorem Course.requests_le {dispatcher : Dispatcher V} {place : Option Caller} {start : Standing V}
    {moments : List (Moment V)} {stop : Option (Standing V)}
    (h : dispatcher.Course place start moments stop) :
    ∀ last, stop = some last → start.state.requests ≤ last.state.requests := by
  induction h with
  | cut | halted | begun | broken => rintro _ ⟨⟩
  | aside _ requests | refused _ requests =>
    intro _ same
    cases same
    exact Nat.le_of_eq requests.symm
  | trans first second ih₁ ih₂ => exact fun last hlast => Nat.le_trans (ih₁ _ rfl) (ih₂ last hlast)
  | returned answer admission inside ih =>
    intro _ same
    cases same
    have := ih _ rfl
    rwa [admission.requests_eq] at this
  | looked | turn =>
    intro _ same
    cases same
    exact Nat.le_refl _
  | request answer inside ending ih₁ ih₂ =>
    intro _ same
    cases same
    have later := Nat.le_trans (ih₁ _ rfl) (ih₂ _ rfl)
    exact Nat.le_trans (Nat.le_succ _) later

/-! ### Runs that keep to a course -/

/-- Every run of this kind is a course at the place, from this log to the one after the value. -/
def Follows (dispatcher : Dispatcher V) (place : Option Caller) (log : List (Entry V))
    (run : Run V α) (after : α → List (Entry V)) : Prop :=
  ∀ state, dispatcher.Course place ⟨state, log⟩ (run state).moments
    ((run state).value.map fun a => ⟨(run state).state, after a⟩)

/-- Every run of this kind is a course at the place from this log, to whatever log. -/
def Roams (dispatcher : Dispatcher V) (place : Option Caller) (log : List (Entry V))
    (run : Run V α) :
    Prop :=
  ∀ state, ∃ stop, dispatcher.Course place ⟨state, log⟩ (run state).moments stop ∧
    stop.map Standing.state = (run state).value.map fun _ => (run state).state

variable {dispatcher : Dispatcher V} {place : Option Caller} {caller : Caller}
  {log : List (Entry V)}

namespace Follows

theorem bind {run : Run V α} {f : α → Run V β} {after : α → List (Entry V)}
    {last : β → List (Entry V)} (h : dispatcher.Follows place log run after)
    (hf : ∀ a, dispatcher.Follows place (after a) (f a) last) :
    dispatcher.Follows place log (run >>= f) last := by
  intro state
  have h := h state
  rw [Run.bind_apply]
  generalize run state = out at h
  obtain ⟨_ | a, middle, moments⟩ := out
  · exact h
  · exact .trans h (hf a middle)

theorem bind_roams {run : Run V α} {f : α → Run V β} {after : α → List (Entry V)}
    (h : dispatcher.Follows place log run after)
    (hf : ∀ a, dispatcher.Roams place (after a) (f a)) :
    dispatcher.Roams place log (run >>= f) := by
  intro state
  have h := h state
  rw [Run.bind_apply]
  generalize run state = out at h
  obtain ⟨_ | a, middle, moments⟩ := out
  · exact ⟨none, h, rfl⟩
  · obtain ⟨stop, hc, hs⟩ := hf a middle
    exact ⟨stop, .trans h hc, hs⟩

theorem aside {run : Run V α} (h : run.Aside) {after : α → List (Entry V)}
    (same : ∀ state a, (run state).value = some a → after a = log) :
    dispatcher.Follows place log run after := by
  intro state
  obtain ⟨a, ha⟩ := h.finishes state
  rw [ha, Option.map_some, same state a ha]
  exact .aside (h.aside state) (h.requests state)

theorem const {run : Run V α} (h : run.Aside) : dispatcher.Follows place log run fun _ => log :=
  aside h fun _ _ _ => rfl

theorem roams {run : Run V α} {after : α → List (Entry V)}
    (h : dispatcher.Follows place log run after) :
    dispatcher.Roams place log run := fun state =>
  ⟨_, h state, by rw [Option.map_map]; rfl⟩

end Follows

theorem Roams.bind_aside {run : Run V α} {f : α → Run V β} (h : dispatcher.Roams place log run)
    (hf : ∀ a, (f a).Aside) : dispatcher.Roams place log (run >>= f) := by
  intro state
  obtain ⟨stop, hc, hs⟩ := h state
  rw [Run.bind_apply]
  generalize run state = out at hc hs
  obtain ⟨_ | a, middle, moments⟩ := out
  · exact ⟨stop, hc, hs⟩
  · obtain ⟨stop, rfl, rfl⟩ := Option.map_eq_some_iff.1 hs
    exact ⟨_, .trans hc ((Follows.const (hf a)) _), by rw [Option.map_map]; rfl⟩

end Dispatcher

/-- Whatever a handler asks of the dispatcher keeps to a course. -/
structure Calls.Follow (calls : Calls V) (dispatcher : Dispatcher V) : Prop where
  perform : ∀ caller step log,
    dispatcher.Follows (some caller) log (calls.perform caller step log) Prod.snd
  request : ∀ place log session step,
    dispatcher.Follows place log (calls.request session step) fun _ => log

namespace Dispatcher

variable {dispatcher : Dispatcher V} {calls : Calls V} {perform : Performing V}
  {place : Option Caller} {caller : Caller}

theorem interpret_follows (h : calls.Follow dispatcher) (program : Program V α)
    (log : List (Entry V)) :
    dispatcher.Follows (some caller) log (dispatcher.interpret calls caller program log)
      Prod.snd := by
  induction program generalizing log with
  | done answer => exact .aside (.pure _) fun _ _ h => by cases h; rfl
  | perform step next ih => exact (h.perform caller step log).bind fun logged => ih _ _
  | request session step next ih =>
    exact (h.request _ log session step).bind fun answer => ih answer log
  | look next ih =>
    have looked :
        dispatcher.Follows (some caller) log (Run.leave [.looked caller log]) fun _ => log :=
      fun state => .looked
    exact looked.bind fun _ => ih _ log
  | act act next ih =>
    exact (Follows.const (Application.act_aside _ act)).bind fun result => ih result log

theorem invoke_follows (h : calls.Follow dispatcher) {step : Step V} {handler : V.Handler step.kind}
    {log : List (Entry V)} {state admitted : State V} {way : List (Moment V)}
    (admission : dispatcher.Admission caller step handler state way admitted) :
    dispatcher.Course (some caller) ⟨state, log⟩
      (way ++ (dispatcher.invoke calls caller step handler log admitted).moments)
      ((dispatcher.invoke calls caller step handler log admitted).value.map fun a =>
        ⟨(dispatcher.invoke calls caller step handler log admitted).state, a.2⟩) := by
  have inside : dispatcher.Follows (some caller) log _ Prod.snd :=
    interpret_follows h (dispatcher.app.program step handler) log
  have inside := inside admitted
  unfold invoke
  rw [Run.leave_bind_apply, Run.bind_apply]
  generalize dispatcher.interpret calls caller _ log admitted = out at inside
  obtain ⟨_ | ⟨answer, later⟩, last, body⟩ := out
  · exact .halted admission inside
  · have inside : dispatcher.Course (some caller) ⟨admitted, log⟩ body (some ⟨last, later⟩) :=
      inside
    obtain ⟨final, rest, hrecord, aside, requests⟩ :=
      dispatcher.record_apply caller step answer later last
    have call : dispatcher.Course (some caller) ⟨state, log⟩ _ _ :=
      .returned answer admission inside
    simpa [hrecord, Outcome.after] using call.trans (.aside aside requests)

theorem perform_follows (h : calls.Follow dispatcher) (step : Step V) (log : List (Entry V)) :
    dispatcher.Follows (some caller) log (dispatcher.perform calls caller step log) Prod.snd := by
  intro state
  have hconduct := dispatcher.perform_conduct calls caller step log state
  generalize dispatcher.perform calls caller step log state = out at hconduct
  cases hconduct with
  | unserved => exact .aside (fun _ h => (nomatch h)) rfl
  | unguarded => exact .aside (Found.moments_aside _) rfl
  | @refused id _ _ _ _ _ refusal =>
    obtain ⟨_, _, _, hrefuse, aside, requests⟩ := (dispatcher.refuse_aside caller step).apply _
    cases refusal.symm.trans hrefuse
    have same :=
      dispatcher.app.verdict_requests (dispatcher.afterValidator state step.kind) id caller.session
    exact .trans (.refused (Found.moments_aside _) same) (.aside aside requests)
  | invoked admission => exact invoke_follows h admission

/-! ### Requests -/

theorem compensate_follows
    (h : ∀ caller step log, dispatcher.Follows (some caller) log (perform caller step log) Prod.snd)
    (compensating : caller.compensating) (entry : Entry V) (log : List (Entry V)) :
    dispatcher.Follows (some caller) log (dispatcher.compensate perform caller entry log)
      Prod.snd := by
  have turn :
      dispatcher.Follows (some caller) log (Run.leave [.compensating caller entry]) fun _ => log :=
    fun state => .turn entry compensating
  refine turn.bind fun _ => (h caller entry.compensation log).bind fun ⟨answer, later⟩ => ?_
  cases answer with
  | ok output =>
    refine (Follows.const (.log _)).bind fun _ =>
      (Follows.const (dispatcher.emit_aside _)).bind fun _ => ?_
    exact .aside (.pure _) fun _ _ ha => by cases ha; rfl
  | error error =>
    refine (Follows.const (.log _)).bind fun _ =>
      (Follows.const (dispatcher.emit_aside _)).bind fun _ => ?_
    exact .aside (.pure _) fun _ _ ha => by cases ha; rfl

theorem unwind_roams
    (h : ∀ caller step log, dispatcher.Follows (some caller) log (perform caller step log) Prod.snd)
    (compensating : caller.compensating) (entries log : List (Entry V)) :
    dispatcher.Roams (some caller) log (dispatcher.unwind perform caller entries log) := by
  induction entries generalizing log with
  | nil => exact (Follows.const (.pure _)).roams
  | cons entry older ih =>
    refine (compensate_follows h compensating entry log).bind_roams fun ⟨error, later⟩ => ?_
    cases error with
    | none => exact ih later
    | some error =>
      dsimp only
      cases dispatcher.settings.rollback with
      | stopOnFailure => exact (Follows.const (.pure _)).roams
      | bestEffort => exact (ih later).bind_aside fun _ => .pure _

theorem rollbackError_aside (caller : Caller) (error : DispatchError)
    (errors : List DispatchError) :
    (rollbackError caller error errors : Run V DispatchError).Aside := by
  cases errors with
  | nil => exact .bind (.log _) fun _ => .pure _
  | cons first others => exact .pure _

theorem rollback_roams
    (h : ∀ caller step log, dispatcher.Follows (some caller) log (perform caller step log) Prod.snd)
    (caller : Caller) (entries : List (Entry V)) (error : DispatchError) :
    dispatcher.Roams (some caller.rollback) []
      (dispatcher.rollback perform caller entries error) := by
  unfold rollback
  split
  · exact (Follows.const (.pure _)).roams
  · refine (Follows.const (.log _)).bind_roams fun _ =>
      (Follows.const (dispatcher.emit_aside _)).bind_roams fun _ => ?_
    exact (unwind_roams h rfl entries.reverse []).bind_aside fun _ =>
      rollbackError_aside caller error _

theorem conclude_roams
    (h : ∀ caller step log, dispatcher.Follows (some caller) log (perform caller step log) Prod.snd)
    (caller : Caller) (log : List (Entry V)) (answer : Answer α) :
    dispatcher.Roams (some caller.rollback) [] (dispatcher.conclude perform caller log answer) := by
  cases answer with
  | ok output =>
    exact (Follows.const (.bind (dispatcher.emit_aside _) fun _ => .pure _)).roams
  | error error =>
    exact (rollback_roams h caller log error).bind_aside fun _ =>
      .bind (dispatcher.emit_aside _) fun _ => .pure _

/-- A request opens its context in the state it begins in, performs its step there, and settles. -/
theorem request_apply (session : Option String) (step : Step V) (state : State V) :
    dispatcher.request perform session step state =
      Outcome.after [.opened (.fresh state session) step] (((do
        dispatcher.emit (.started (Caller.fresh state session).request step.name)
        perform (.fresh state session) step [] : Run V _) >>= fun logged =>
          dispatcher.settle perform step (.fresh state session, logged)) state.started) := by
  have attempted : dispatcher.attempt perform session step state =
      Outcome.after [.opened (.fresh state session) step] ((do
        dispatcher.emit (.started (Caller.fresh state session).request step.name)
        let logged ← perform (.fresh state session) step []
        pure (Caller.fresh state session, logged) : Run V _) state.started) := rfl
  unfold request
  rw [Run.bind_apply, attempted, Outcome.after_andThen, ← Run.bind_apply]
  simp only [bind_assoc, pure_bind]

/-- How a request begins, if it is not cut short. -/
theorem attempt_eq_some {session : Option String} {step : Step V} {state middle : State V}
    {logged : Logged V step.Result} {moments : List (Moment V)}
    (h : dispatcher.attempt perform session step state = ⟨some (caller, logged), middle, moments⟩) :
    caller = .fresh state session ∧ ∃ ready opening inside,
      dispatcher.emit (.started caller.request step.name) state.started =
        ⟨some (), ready, opening⟩ ∧
      perform caller step [] ready = ⟨some logged, middle, inside⟩ ∧
      moments = .opened caller step :: (opening ++ inside) := by
  unfold attempt openContext at h
  simp only [bind_assoc, pure_bind, Run.state_bind_apply, Run.change_bind_apply,
    Run.leave_bind_apply] at h
  rw [Outcome.after_eq_some_iff] at h
  obtain ⟨own, hown, rfl⟩ := h
  obtain ⟨_, ready, opening, rest, hemit, hrest, rfl⟩ := Run.bind_eq_some_iff.1 hown
  obtain ⟨_, _, inside, _, hperform, hpure, rfl⟩ := Run.bind_eq_some_iff.1 hrest
  cases hpure
  exact ⟨rfl, ready, opening, inside, hemit, hperform, by simp⟩

/-- How a request ends that failed. -/
theorem settle_eq_some {step : Step V} {original : DispatchError} {log : List (Entry V)}
    {answer : Answer step.Result} {state last : State V} {moments : List (Moment V)}
    (h : dispatcher.settle perform step (caller, .error original, log) state =
      ⟨some answer, last, moments⟩) :
    ∃ error rolled inside failing,
      dispatcher.rollback perform caller log original state = ⟨some error, rolled, inside⟩ ∧
      dispatcher.emit (.failed caller.request error.message) rolled = ⟨some (), last, failing⟩ ∧
      answer = .error error ∧
      moments = inside ++ (failing ++ [.closed caller step (.error error)]) := by
  obtain ⟨given, middle, before, after, hconclude, hclose, rfl⟩ := Run.bind_eq_some_iff.1 h
  obtain ⟨error, rolled, inside, rest, hrollback, hrest, rfl⟩ := Run.bind_eq_some_iff.1 hconclude
  obtain ⟨_, _, failing, _, hemit, hpure, rfl⟩ := Run.bind_eq_some_iff.1 hrest
  cases hpure
  cases hclose
  refine ⟨error, rolled, inside, failing, hrollback, hemit, rfl, ?_⟩
  rw [List.append_nil, List.append_assoc]
  rfl

/-- How a rollback goes that has something to take back. -/
theorem rollback_eq_some {entries : List (Entry V)} {original error : DispatchError}
    {state last : State V} {moments : List (Moment V)} (logged : entries ≠ [])
    (h : dispatcher.rollback perform caller entries original state = ⟨some error, last, moments⟩) :
    ∃ ready opening errors middle body closing,
      (do Run.log (.rollingBack caller.request entries.length original.message)
          dispatcher.emit (.rollbackStarted caller.request entries.length) : Run V Unit) state =
        ⟨some (), ready, opening⟩ ∧
      dispatcher.unwind perform caller.rollback entries.reverse [] ready =
        ⟨some errors, middle, body⟩ ∧
      rollbackError caller original errors middle = ⟨some error, last, closing⟩ ∧
      moments = opening ++ (body ++ closing) := by
  unfold rollback at h
  rw [if_neg (by simpa using logged), ← bind_assoc] at h
  obtain ⟨_, ready, opening, rest, hopening, hrest, rfl⟩ := Run.bind_eq_some_iff.1 h
  obtain ⟨errors, middle, body, closing, hunwind, hclosing, rfl⟩ := Run.bind_eq_some_iff.1 hrest
  exact ⟨ready, opening, errors, middle, body, closing, hopening, hunwind, hclosing, rfl⟩

/-- How a request passes that begins in this state: it stays in a context of its own, and then in that
of its rollback. -/
inductive Passage (dispatcher : Dispatcher V) (session : Option String) (step : Step V)
    (state : State V) : Outcome V (Answer step.Result) → Prop
  /-- It is cut short before its step is over. -/
  | begun {last body}
      (inside : dispatcher.Course (some (.fresh state session)) ⟨state.started, []⟩ body none) :
      Passage dispatcher session step state ⟨none, last, .opened (.fresh state session) step :: body⟩
  /-- It is cut short later. -/
  | broken {body middle rest last}
      (inside : dispatcher.Course (some (.fresh state session)) ⟨state.started, []⟩ body (some middle))
      (ending : dispatcher.Course (some (Caller.fresh state session).rollback) ⟨middle.state, []⟩
        rest none) :
      Passage dispatcher session step state
        ⟨none, last, .opened (.fresh state session) step :: (body ++ rest)⟩
  | request {body middle rest last} (answer : Answer step.Result)
      (inside : dispatcher.Course (some (.fresh state session)) ⟨state.started, []⟩ body (some middle))
      (ending : dispatcher.Course (some (Caller.fresh state session).rollback) ⟨middle.state, []⟩
        rest (some last)) :
      Passage dispatcher session step state ⟨some answer, last.state,
        .opened (.fresh state session) step ::
          (body ++ (rest ++ [.closed (.fresh state session) step answer]))⟩

theorem request_passage
    (h : ∀ caller step log, dispatcher.Follows (some caller) log (perform caller step log) Prod.snd)
    (session : Option String) (step : Step V) (state : State V) :
    dispatcher.Passage session step state (dispatcher.request perform session step state) := by
  have inside := (Follows.const (dispatcher.emit_aside
    (.started (Caller.fresh state session).request step.name))).bind
    (fun _ => h (.fresh state session) step []) state.started
  rw [request_apply, Run.bind_apply]
  generalize (dispatcher.emit _ >>= fun _ => perform _ step []) state.started = out at inside ⊢
  obtain ⟨_ | ⟨answer, later⟩, middle, body⟩ := out
  · exact .begun inside
  · have inside : dispatcher.Course (some (.fresh state session)) ⟨state.started, []⟩ body
      (some ⟨middle, later⟩) := inside
    obtain ⟨stop, ending, hstop⟩ := conclude_roams h (.fresh state session) later answer middle
    rw [Outcome.andThen_some]
    dsimp only [settle]
    rw [Run.bind_apply]
    generalize dispatcher.conclude perform _ later answer middle = out at ending hstop
    obtain ⟨_ | final, last, rest⟩ := out
    · obtain rfl : stop = none := Option.map_eq_none_iff.1 hstop
      simpa [Outcome.andThen] using .broken inside ending
    · obtain ⟨stop, rfl, rfl⟩ := Option.map_eq_some_iff.1 hstop
      rw [Outcome.andThen_some, Run.leave_bind_apply, Run.pure_apply]
      simpa [Outcome.after] using .request final inside ending

theorem request_follows
    (h : ∀ caller step log, dispatcher.Follows (some caller) log (perform caller step log) Prod.snd)
    (place : Option Caller) (log : List (Entry V)) (session : Option String) (step : Step V) :
    dispatcher.Follows place log (dispatcher.request perform session step) fun _ => log := by
  intro state
  have passage := request_passage h session step state
  generalize dispatcher.request perform session step state = out at passage
  cases passage with
  | begun inside => exact .begun inside
  | broken inside ending => exact .broken inside ending
  | request answer inside ending => exact .request answer inside ending

/-- Whatever the depth, what a handler asks of the dispatcher keeps to a course. -/
theorem callsAt_follow (dispatcher : Dispatcher V) (depth : Nat) :
    (dispatcher.callsAt depth).Follow dispatcher := by
  induction depth with
  | zero => exact ⟨fun _ _ _ _ => .cut, fun _ _ _ _ _ => .cut⟩
  | succ depth ih =>
    exact ⟨fun _ => perform_follows ih, request_follows fun _ => perform_follows ih⟩

/-- Whatever a client does keeps to a course. -/
theorem serve_follows (dispatcher : Dispatcher V) (depth : Nat) (moves : List (Move V)) :
    dispatcher.Follows none [] (dispatcher.serve depth moves) fun _ => [] := by
  induction moves with
  | nil => exact .const (.pure _)
  | cons move moves ih =>
    cases move with
    | request session step =>
      exact ((callsAt_follow dispatcher depth).request none [] session step).bind fun _ =>
        ih.bind fun _ => .const (.pure _)
    | act act =>
      exact (Follows.const (Application.act_aside _ act)).bind fun _ =>
        ih.bind fun _ => .const (.pure _)
    | drop index =>
      refine Follows.bind (.const ?_) fun _ => ih
      exact .change fun _ => rfl

end Dispatcher

end ActionDispatch
