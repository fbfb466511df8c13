import ActionDispatch.Proofs.Framing
import ActionDispatch.Proofs.Widgets

/-!
# Mediation

Every handler call of every run is directly preceded by its admission: the lookups gave the handler
and a validator for the action type of the step, and the validator accepted the session of the
request that the call belongs to. Which request that is, is read off the run itself: it is the
innermost one that is still open. Its session is the one that it is asked for with (`run_session`).

The invariant is `Dispatcher.Course.mediated`, by induction on a course; `serve_mediated` states it
for all that a client does.
-/

namespace ActionDispatch

variable {V : Vocabulary}

/-- What holds of the caller at a place holds of any caller there. -/
theorem of_some {P : Caller → Prop} {caller : Caller} (h : P caller) :
    ∀ caller', some caller = some caller' → P caller' := by
  intro caller' same
  cases same
  exact h

/-- The caller as the request was opened. -/
def Caller.opening (caller : Caller) : Caller := { caller with compensating := false }

/-- Whether a handler is called. -/
def Moment.isCall : Moment V → Bool
  | .called .. => true
  | _ => false

/-- The number of the request and the session, where a request begins, a validator is asked for one, or a
handler is called. -/
def Moment.bearer? : Moment V → Option (Nat × Option String)
  | .opened caller _ | .called caller _ _ => some (caller.request.number, caller.session)
  | .checked caller _ session _ => caller.map fun caller => (caller.request.number, session)
  | _ => none

/-- The open requests after a moment, innermost first. -/
def Moment.openAfter (opened : List Caller) : Moment V → List Caller
  | .opened caller _ => caller :: opened
  | .closed .. => opened.tail
  | _ => opened

/-- The open requests after these moments, innermost first. -/
def openRequests (opened : List Caller) (moments : List (Moment V)) : List Caller :=
  moments.foldl Moment.openAfter opened

@[simp] theorem openRequests_nil (opened : List Caller) :
    openRequests opened ([] : List (Moment V)) = opened := rfl

@[simp] theorem openRequests_cons (opened : List Caller) (m : Moment V)
    (moments : List (Moment V)) :
    openRequests opened (m :: moments) = openRequests (m.openAfter opened) moments := rfl

@[simp] theorem openRequests_append (opened : List Caller) (before after : List (Moment V)) :
    openRequests opened (before ++ after) = openRequests (openRequests opened before) after :=
  List.foldl_append

theorem Moment.Aside.isCall_eq_false {m : Moment V} (h : m.Aside) : m.isCall = false := by
  cases m <;> first | rfl | exact h.elim

theorem Moment.Aside.openAfter_eq {m : Moment V} (h : m.Aside) (opened : List Caller) :
    m.openAfter opened = opened := by
  cases m <;> first | rfl | exact h.elim

theorem openRequests_of_aside {moments : List (Moment V)} (h : ∀ m ∈ moments, m.Aside)
    (opened : List Caller) : openRequests opened moments = opened := by
  induction moments with
  | nil => rfl
  | cons m moments ih =>
    rw [openRequests_cons, (h m List.mem_cons_self).openAfter_eq]
    exact ih fun m hm => h m (List.mem_cons_of_mem _ hm)

namespace Dispatcher

/-- Every handler call among the moments, when these requests are open before them, comes directly
after its admission, and for the innermost open request. -/
def Mediated (dispatcher : Dispatcher V) (opened : List Caller) (moments : List (Moment V)) :
    Prop :=
  ∀ ⦃before : List (Moment V)⦄ ⦃caller : Caller⦄ ⦃step : Step V⦄ ⦃handler : V.Handler step.kind⦄
    ⦃after : List (Moment V)⦄, moments = before ++ .called caller step handler :: after →
    ∃ earlier way state admitted, before = earlier ++ way ∧
      dispatcher.Admission caller step handler state way admitted ∧
      (openRequests opened earlier).head? = some caller.opening

variable {dispatcher : Dispatcher V} {caller : Caller} {opened : List Caller}

theorem Admission.isCall_eq_false {step : Step V} {handler : V.Handler step.kind}
    {state admitted : State V} {way : List (Moment V)}
    (h : dispatcher.Admission caller step handler state way admitted) :
    ∀ m ∈ way, m.isCall = false := by
  obtain ⟨served, guarded, accepted⟩ := h
  intro m hm
  rcases List.mem_append.1 hm with hm | hm
  · exact (Found.moments_aside _ m hm).isCall_eq_false
  · simp only [List.mem_cons, List.not_mem_nil, or_false] at hm
    rcases hm with rfl | rfl | rfl <;> rfl

theorem Admission.openRequests_eq {step : Step V} {handler : V.Handler step.kind}
    {state admitted : State V} {way : List (Moment V)}
    (h : dispatcher.Admission caller step handler state way admitted) (opened : List Caller) :
    openRequests opened way = opened := by
  obtain ⟨served, guarded, accepted⟩ := h
  rw [openRequests_append, openRequests_of_aside (Found.moments_aside _)]
  rfl

namespace Mediated

theorem of_uncalled {moments : List (Moment V)} (h : ∀ m ∈ moments, m.isCall = false) :
    dispatcher.Mediated opened moments := by
  rintro before caller step handler after rfl
  have := h (.called caller step handler) (by simp)
  cases this

theorem append {before after : List (Moment V)} (h : dispatcher.Mediated opened before)
    (h' : dispatcher.Mediated (openRequests opened before) after) :
    dispatcher.Mediated opened (before ++ after) := by
  intro early caller step handler late split
  rcases List.append_eq_append_iff.1 split with ⟨more, rfl, rfl⟩ | ⟨more, rfl, hmore⟩
  · obtain ⟨earlier, way, state, admitted, rfl, admission, head⟩ := h' rfl
    refine ⟨before ++ earlier, way, state, admitted, by rw [List.append_assoc], admission, ?_⟩
    rw [openRequests_append]
    exact head
  · rcases more with _ | ⟨m, more⟩
    · have first : after = [] ++ .called caller step handler :: late := hmore.symm
      obtain ⟨earlier, way, state, admitted, hway, admission, head⟩ := h' first
      obtain ⟨rfl, rfl⟩ := List.append_eq_nil_iff.1 hway.symm
      refine ⟨early, [], state, admitted, by simp, admission, ?_⟩
      simpa using head
    · obtain ⟨rfl, rfl⟩ := List.cons.inj hmore
      exact h rfl

theorem opening {moments : List (Moment V)} {step : Step V}
    (h : dispatcher.Mediated (caller :: opened) moments) :
    dispatcher.Mediated opened (.opened caller step :: moments) :=
  have first : dispatcher.Mediated opened [.opened caller step] :=
    of_uncalled (by simp [Moment.isCall])
  first.append h

/-- A handler call after its admission, for the innermost open request. -/
theorem call {step : Step V} {handler : V.Handler step.kind} {state admitted : State V}
    {way : List (Moment V)}
    (admission : dispatcher.Admission caller step handler state way admitted)
    (head : opened.head? = some caller.opening) :
    dispatcher.Mediated opened (way ++ [.called caller step handler]) := by
  intro before caller' step' handler' after split
  rcases List.append_eq_append_iff.1 split with ⟨more, rfl, hmore⟩ | ⟨more, rfl, hmore⟩
  · rcases more with _ | ⟨m, more⟩
    · cases hmore
      exact ⟨[], way, state, admitted, by simp, admission, head⟩
    · cases more <;> cases hmore
  · rcases more with _ | ⟨m, more⟩
    · cases hmore
      exact ⟨[], before, state, admitted, rfl, by simpa using admission, head⟩
    · obtain ⟨rfl, -⟩ := List.cons.inj hmore
      cases admission.isCall_eq_false (.called caller' step' handler') (by simp)

end Mediated

/-- A course from a place leaves only mediated calls, and if it is not cut short, the same requests
open. -/
theorem Course.mediated {place : Option Caller} {start : Standing V} {moments : List (Moment V)}
    {stop : Option (Standing V)} (h : dispatcher.Course place start moments stop)
    (opened : List Caller)
    (head : ∀ caller, place = some caller → opened.head? = some caller.opening) :
    dispatcher.Mediated opened moments ∧ (stop.isSome → openRequests opened moments = opened) := by
  induction h generalizing opened with
  | cut => exact ⟨.of_uncalled fun _ hm => (nomatch hm), fun _ => rfl⟩
  | aside aside =>
    exact ⟨.of_uncalled fun m hm => (aside m hm).isCall_eq_false,
      fun _ => openRequests_of_aside aside _⟩
  | trans first second ih₁ ih₂ =>
    obtain ⟨mediated₁, same₁⟩ := ih₁ opened head
    have same₁ := same₁ rfl
    obtain ⟨mediated₂, same₂⟩ := ih₂ opened head
    refine ⟨mediated₁.append (by rwa [same₁]), fun finished => ?_⟩
    rw [openRequests_append, same₁, same₂ finished]
  | refused aside =>
    refine ⟨.append (.of_uncalled fun m hm => (aside m hm).isCall_eq_false) (.of_uncalled ?_),
      fun _ => ?_⟩
    · simp [Moment.isCall]
    · rw [openRequests_append, openRequests_of_aside aside]
      rfl
  | halted admission inside ih =>
    obtain ⟨mediated, -⟩ := ih opened head
    rw [List.append_cons]
    refine ⟨(Mediated.call admission (head _ rfl)).append ?_, fun finished => (nomatch finished)⟩
    rwa [openRequests_append, admission.openRequests_eq]
  | @returned caller step handler start way state body last log answer admission inside ih =>
    obtain ⟨mediated, same⟩ := ih opened head
    have called : openRequests opened (way ++ [.called caller step handler]) = opened := by
      rw [openRequests_append, admission.openRequests_eq]
      rfl
    rw [List.append_cons]
    refine ⟨(Mediated.call admission (head _ rfl)).append ?_, fun _ => ?_⟩
    · rw [called]
      exact mediated.append (.of_uncalled (by simp [Moment.isCall]))
    · rw [openRequests_append, called, openRequests_append, same rfl]
      rfl
  | looked => exact ⟨.of_uncalled (by simp [Moment.isCall]), fun _ => rfl⟩
  | turn entry => exact ⟨.of_uncalled (by simp [Moment.isCall]), fun _ => rfl⟩
  | @begun place start session step body inside ih =>
    obtain ⟨mediated, -⟩ := ih (.fresh start.state session :: opened) (of_some rfl)
    exact ⟨mediated.opening, fun finished => (nomatch finished)⟩
  | @broken place start session step body middle rest inside ending ih₁ ih₂ =>
    obtain ⟨mediated₁, same₁⟩ := ih₁ (.fresh start.state session :: opened) (of_some rfl)
    obtain ⟨mediated₂, -⟩ := ih₂ (.fresh start.state session :: opened) (of_some rfl)
    refine ⟨(mediated₁.append ?_).opening, fun finished => (nomatch finished)⟩
    rw [same₁ rfl]
    exact mediated₂
  | @request place start session step body middle rest last answer inside ending ih₁ ih₂ =>
    obtain ⟨mediated₁, same₁⟩ := ih₁ (.fresh start.state session :: opened) (of_some rfl)
    obtain ⟨mediated₂, same₂⟩ := ih₂ (.fresh start.state session :: opened) (of_some rfl)
    have same₁ := same₁ rfl
    refine ⟨(mediated₁.append ?_).opening, fun _ => ?_⟩
    · rw [same₁]
      exact mediated₂.append (.of_uncalled (by simp [Moment.isCall]))
    · rw [openRequests_cons, openRequests_append, Moment.openAfter, same₁,
        openRequests_append, same₂ rfl]
      rfl

/-- Handlers are called in the context of the place, or in that of a request that begins in the
course. -/
theorem Course.called_in {place : Option Caller} {start : Standing V} {moments : List (Moment V)}
    {stop : Option (Standing V)} (h : dispatcher.Course place start moments stop) {caller : Caller}
    {step : Step V} {handler : V.Handler step.kind} (called : .called caller step handler ∈ moments) :
    place = some caller ∨ start.state.requests ≤ caller.request.number := by
  have not_aside {moments : List (Moment V)} (aside : ∀ m ∈ moments, m.Aside) :
      .called caller step handler ∉ moments := fun hm => aside _ hm
  -- A request is one that begins in the course itself.
  have opened {state : State V} {own : Caller}
      (h : some own = some caller ∨ state.started.requests ≤ caller.request.number)
      (request : own.request = ⟨state.requests⟩) : state.requests ≤ caller.request.number := by
    rcases h with same | le
    · cases same
      exact Nat.le_of_eq (congrArg RequestId.number request).symm
    · exact Nat.le_of_succ_le le
  induction h with
  | cut => cases called
  | aside aside => exact (not_aside aside called).elim
  | trans first second ih₁ ih₂ =>
    rcases List.mem_append.1 called with called | called
    · exact ih₁ called
    · exact (ih₂ called).imp_right (Nat.le_trans (first.requests_le _ rfl))
  | refused aside => simp [not_aside aside] at called
  | halted admission inside ih =>
    rcases List.mem_append.1 called with called | called
    · cases admission.isCall_eq_false _ called
    rcases List.mem_cons.1 called with same | called
    · cases same
      exact .inl rfl
    · exact (ih called).imp_right (admission.requests_eq ▸ ·)
  | returned answer admission inside ih =>
    rcases List.mem_append.1 called with called | called
    · cases admission.isCall_eq_false _ called
    rcases List.mem_cons.1 called with same | called
    · cases same
      exact .inl rfl
    rcases List.mem_append.1 called with called | called
    · exact (ih called).imp_right (admission.requests_eq ▸ ·)
    · cases List.mem_singleton.1 called
  | looked | turn => cases List.mem_singleton.1 called
  | begun inside ih =>
    simp only [List.mem_cons, reduceCtorEq, false_or] at called
    exact .inr (opened (ih called) rfl)
  | broken inside ending ih₁ ih₂ =>
    simp only [List.mem_cons, List.mem_append, reduceCtorEq, false_or] at called
    rcases called with called | called
    · exact .inr (opened (ih₁ called) rfl)
    · exact .inr (opened ((ih₂ called).imp_right (Nat.le_trans (inside.requests_le _ rfl))) rfl)
  | request answer inside ending ih₁ ih₂ =>
    simp only [List.mem_cons, List.mem_append, List.not_mem_nil, reduceCtorEq, false_or, or_false]
      at called
    rcases called with called | called
    · exact .inr (opened (ih₁ called) rfl)
    · exact .inr (opened ((ih₂ called).imp_right (Nat.le_trans (inside.requests_le _ rfl))) rfl)

/-- Of a request, handlers are called in its own context or in that of its rollback. -/
theorem Passage.called_in {session : Option String} {step : Step V} {state : State V}
    {out : Outcome V (Answer step.Result)} (h : dispatcher.Passage session step state out)
    {caller : Caller} {other : Step V} {handler : V.Handler other.kind}
    (called : .called caller other handler ∈ out.moments) :
    caller = .fresh state session ∨ caller = (Caller.fresh state session).rollback ∨
      state.requests < caller.request.number := by
  have here {own : Caller} (same : some own = some caller) : caller = own :=
    (Option.some.inj same).symm
  cases h with
  | begun inside =>
    simp only [List.mem_cons, reduceCtorEq, false_or] at called
    exact (inside.called_in called).imp here .inr
  | broken inside ending =>
    simp only [List.mem_cons, List.mem_append, reduceCtorEq, false_or] at called
    rcases called with called | called
    · exact (inside.called_in called).imp here .inr
    · exact .inr ((ending.called_in called).imp here (Nat.le_trans (inside.requests_le _ rfl)))
  | request answer inside ending =>
    simp only [List.mem_cons, List.mem_append, List.not_mem_nil, reduceCtorEq, false_or, or_false]
      at called
    rcases called with called | called
    · exact (inside.called_in called).imp here .inr
    · exact .inr ((ending.called_in called).imp here (Nat.le_trans (inside.requests_le _ rfl)))

/-- Handlers of a request are called under the session that it is asked for with. -/
theorem run_session (dispatcher : Dispatcher V) (depth : Nat) (session : Option String)
    (step : Step V) (state : State V) {caller : Caller} {other : Step V}
    {handler : V.Handler other.kind}
    (called : .called caller other handler ∈ (dispatcher.run depth session step state).moments)
    (mine : caller.request = ⟨state.requests⟩) : caller.session = session := by
  cases depth with
  | zero => cases called
  | succ depth =>
    rcases (dispatcher.run_passage depth session step state).called_in called with rfl | rfl | later
    · rfl
    · rfl
    · rw [mine] at later
      exact (Nat.lt_irrefl _ later).elim

/-- Whatever clients and handlers do, no handler is called without its admission, and none under
another session than the one that its request is asked for with. -/
theorem serve_mediated (dispatcher : Dispatcher V) (depth : Nat) (moves : List (Move V))
    (state : State V) :
    dispatcher.Mediated [] (dispatcher.serve depth moves state).moments ∧
      dispatcher.RunsAsAsked depth ∧
      ∀ session step start caller other handler,
        .called caller other handler ∈ (dispatcher.run depth session step start).moments →
        caller.request = ⟨start.requests⟩ → caller.session = session :=
  ⟨((serve_follows dispatcher depth moves state).mediated [] fun _ h => (nomatch h)).1,
    dispatcher.runs_as_asked depth, fun session step start _ _ _ called mine =>
      dispatcher.run_session depth session step start called mine⟩

open Widgets in
/-- The deputy that a replacement leaves the deleting to has its own session checked, and the handler is
called for it, while the rest of the replacement is done for the user. -/
theorem delegated_replace_mediated :
    let moments := (delegated.serve 2 [.request (some "user") (execution .replace 1)] shared).moments
    delegated.Mediated [] moments ∧ delegated.RunsAsAsked 2 ∧
      moments.filterMap Moment.bearer? =
        List.replicate 5 (0, some "user") ++ List.replicate 3 (1, some "deputy") ++
          List.replicate 2 (0, some "user") := by
  obtain ⟨mediated, asked, -⟩ :=
    delegated.serve_mediated 2 [.request (some "user") (execution .replace 1)] shared
  exact ⟨mediated, asked, rfl⟩

end Dispatcher

end ActionDispatch
