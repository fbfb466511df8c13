import ActionDispatch.Proofs.Episode
import ActionDispatch.Proofs.Logs

/-!
# Views of a request

What is to be seen of one request in the moments of a run: its events (`eventsOf`), the entries that
its rollback turns to (`turnedTo`), and the failures that are logged while it is the innermost one
(`stepFailures`). `Worked` says how all this looks while steps are performed in a context, whatever
other requests their handlers start.
-/

namespace ActionDispatch

variable {V : Vocabulary}

/-- Tells of a step that was performed. -/
def Event.isPerformed : Event → Bool
  | .executed .. | .undone .. => true
  | _ => false

/-- Tells of a step that was performed or refused. -/
def Event.isStep : Event → Bool
  | .executed .. | .undone .. | .rejected .. => true
  | _ => false

/-- The event that tells of the entry when it is logged. -/
def Entry.event (request : RequestId) (entry : Entry V) : Event :=
  if entry.executed then .executed request entry.name else .undone request entry.name

theorem Step.performed_eq_event (step : Step V) (request : RequestId) (output : step.Result) :
    step.performed request = (step.entry output).event request := by
  cases step <;> rfl

theorem Entry.event_isPerformed (request : RequestId) (entry : Entry V) :
    (entry.event request).isPerformed = true := by
  unfold event
  split <;> rfl

/-- The event of this request that is emitted in a moment. -/
def Moment.eventOf? (request : RequestId) : Moment V → Option Event
  | .emitted event => if event.request = request then some event else none
  | _ => none

/-- The entry that a rollback of this request turns to in a moment. -/
def Moment.turned? (request : RequestId) : Moment V → Option (Entry V)
  | .compensating caller entry => if caller.request = request then some entry else none
  | _ => none

/-- The events of a request, in the order in which they are emitted. -/
def eventsOf (request : RequestId) (moments : List (Moment V)) : List Event :=
  moments.filterMap (Moment.eventOf? request)

/-- The entries that rollbacks of a request turn to, in order. -/
def turnedTo (request : RequestId) (moments : List (Moment V)) : List (Entry V) :=
  moments.filterMap (Moment.turned? request)

/-- How often the failure of a rollback step is logged while this is the innermost open request. -/
def stepFailures (request : RequestId) : List Caller → List (Moment V) → Nat
  | _, [] => 0
  | opened, m :: moments =>
    (if m.isStepFailure ∧ opened.head?.map Caller.request = some request then 1 else 0) +
      stepFailures request (m.openAfter opened) moments

/-! ### Events and turns -/

section

variable {request : RequestId}

@[simp] theorem eventsOf_nil : eventsOf request ([] : List (Moment V)) = [] := rfl

@[simp] theorem eventsOf_append (before after : List (Moment V)) :
    eventsOf request (before ++ after) = eventsOf request before ++ eventsOf request after :=
  List.filterMap_append

@[simp] theorem turnedTo_nil : turnedTo request ([] : List (Moment V)) = [] := rfl

@[simp] theorem turnedTo_append (before after : List (Moment V)) :
    turnedTo request (before ++ after) = turnedTo request before ++ turnedTo request after :=
  List.filterMap_append

theorem eventsOf_cons_of_unsaid {m : Moment V} (unsaid : m.emission? = none)
    (moments : List (Moment V)) : eventsOf request (m :: moments) = eventsOf request moments := by
  refine List.filterMap_cons_none ?_
  cases m <;> first | rfl | cases unsaid

theorem eventsOf_of_absent {moments : List (Moment V)}
    (absent : ∀ m ∈ moments, m.request? ≠ some request) : eventsOf request moments = [] := by
  refine List.filterMap_eq_nil_iff.2 fun m hm => ?_
  cases m with
  | emitted event => exact if_neg fun same => absent _ hm (congrArg some same)
  | _ => rfl

theorem turnedTo_of_absent {moments : List (Moment V)}
    (absent : ∀ m ∈ moments, m.request? ≠ some request) : turnedTo request moments = [] := by
  refine List.filterMap_eq_nil_iff.2 fun m hm => ?_
  cases m with
  | compensating caller entry => exact if_neg fun same => absent _ hm (congrArg some same)
  | _ => rfl

theorem eventsOf_amid {before own after : List (Moment V)}
    (before_not : ∀ m ∈ before, m.request? ≠ some request)
    (after_not : ∀ m ∈ after, m.request? ≠ some request) :
    eventsOf request (before ++ own ++ after) = eventsOf request own := by
  rw [eventsOf_append, eventsOf_append, eventsOf_of_absent before_not,
    eventsOf_of_absent after_not, List.nil_append, List.append_nil]

theorem turnedTo_amid {before own after : List (Moment V)}
    (before_not : ∀ m ∈ before, m.request? ≠ some request)
    (after_not : ∀ m ∈ after, m.request? ≠ some request) :
    turnedTo request (before ++ own ++ after) = turnedTo request own := by
  rw [turnedTo_append, turnedTo_append, turnedTo_of_absent before_not,
    turnedTo_of_absent after_not, List.nil_append, List.append_nil]

theorem turnedTo_of_outside {moments : List (Moment V)}
    (outside : ∀ m ∈ moments, m.caller? = none) : turnedTo request moments = [] := by
  refine List.filterMap_eq_nil_iff.2 fun m hm => ?_
  cases m with
  | compensating => cases outside _ hm
  | _ => rfl

theorem Moment.recorded_eq_nil {caller : Caller} {m : Moment V} (h : m.caller? ≠ some caller) :
    m.recorded (· = caller) = [] := by
  cases m with
  | returned other =>
    exact recorded_returned_of_ne (fun same => h (congrArg some same)) _ _ _
  | _ => rfl

theorem performed_eq_nil {caller : Caller} {moments : List (Moment V)}
    (h : ∀ m ∈ moments, m.caller? ≠ some caller) : performed caller moments = [] :=
  List.flatMap_eq_nil_iff.2 fun m hm => Moment.recorded_eq_nil (h m hm)

theorem performed_of_absent {caller : Caller} {moments : List (Moment V)}
    (absent : ∀ m ∈ moments, m.request? ≠ some caller.request) : performed caller moments = [] :=
  performed_eq_nil fun m hm hcaller => absent m hm (Moment.request?_of_caller? hcaller)

theorem performed_amid {caller : Caller} {before own after : List (Moment V)}
    (before_not : ∀ m ∈ before, m.request? ≠ some caller.request)
    (after_not : ∀ m ∈ after, m.request? ≠ some caller.request) :
    performed caller (before ++ own ++ after) = performed caller own := by
  simp [performed_of_absent before_not, performed_of_absent after_not]

end

namespace Dispatcher

variable {dispatcher : Dispatcher V}

theorem Tells.outside {event : Event} {told : List (Moment V)} (h : dispatcher.Tells event told) :
    ∀ m ∈ told, m.caller? = none := by
  obtain ⟨delivered, -⟩ := h
  intro m hm
  rcases List.mem_cons.1 hm with rfl | hm
  · rfl
  · rcases (delivered m hm).silent_or with silent | ⟨index, rfl⟩
    · cases hcaller : m.caller? with
      | none => rfl
      | some caller => cases silent.1.symm.trans (Moment.request?_of_caller? hcaller)
    · rfl

theorem Tells.isStepFailure_eq_false {event : Event} {told : List (Moment V)}
    (h : dispatcher.Tells event told) : ∀ m ∈ told, m.isStepFailure = false := by
  obtain ⟨delivered, -⟩ := h
  intro m hm
  rcases List.mem_cons.1 hm with rfl | hm
  · rfl
  · rcases (delivered m hm).silent_or with silent | ⟨index, rfl⟩
    · exact silent.2
    · rfl

theorem Tells.eventsOf_eq {event : Event} {told : List (Moment V)}
    (h : dispatcher.Tells event told) : eventsOf event.request told = [event] := by
  obtain ⟨delivered, -⟩ := h
  have emitted : (.emitted event : Moment V).eventOf? event.request = some event := if_pos rfl
  refine (List.filterMap_cons_some emitted).trans (congrArg (event :: ·) ?_)
  refine List.filterMap_eq_nil_iff.2 fun m hm => ?_
  rcases (delivered m hm).silent_or with silent | ⟨index, rfl⟩
  · cases m <;> first | rfl | cases silent.1
  · rfl

theorem Tells.eventsOf_append {event : Event} {told : List (Moment V)}
    (h : dispatcher.Tells event told) (moments : List (Moment V)) :
    eventsOf event.request (told ++ moments) = event :: eventsOf event.request moments := by
  rw [ActionDispatch.eventsOf_append, h.eventsOf_eq]
  rfl

end Dispatcher

/-! ### Work in a context -/

/-- If it is of the same request, it is in this context, and the request does not begin or end in
it. -/
def Moment.KeepsTo (caller : Caller) (m : Moment V) : Prop :=
  m.request? = some caller.request →
    m.isMark = false ∧ ∀ other, m.caller? = some other → other = caller

theorem Moment.KeepsTo.of_unnamed {m : Moment V} (unnamed : m.request? = none) (caller : Caller) :
    m.KeepsTo caller := fun mine => by cases unnamed.symm.trans mine

theorem Dispatcher.Tells.keepsTo {dispatcher : Dispatcher V} {event : Event}
    {told : List (Moment V)} (h : dispatcher.Tells event told) (caller : Caller) :
    ∀ m ∈ told, m.KeepsTo caller := fun m hm _ =>
  ⟨h.unmarked m hm, fun other hother => by cases (h.outside m hm).symm.trans hother⟩

/-- All that the moments show of the request are steps that are performed in this context. -/
structure Worked (caller : Caller) (moments : List (Moment V)) : Prop where
  steps : ∀ event ∈ eventsOf caller.request moments, event.isStep = true
  entries : (eventsOf caller.request moments).filter Event.isPerformed =
    (performed caller moments).map (Entry.event caller.request)
  keeps : ∀ m ∈ moments, m.KeepsTo caller
  unturned : turnedTo caller.request moments = []

namespace Worked

variable {caller : Caller} {before after moments : List (Moment V)}

theorem of_absent (absent : ∀ m ∈ moments, m.request? ≠ some caller.request) :
    Worked caller moments where
  steps := by simp [eventsOf_of_absent absent]
  entries := by
    rw [eventsOf_of_absent absent, performed_of_absent absent]
    rfl
  keeps m hm mine := (absent m hm mine).elim
  unturned := turnedTo_of_absent absent

theorem append (h : Worked caller before) (h' : Worked caller after) :
    Worked caller (before ++ after) where
  steps event hevent := by
    rcases List.mem_append.1 (eventsOf_append before after ▸ hevent) with hevent | hevent
    · exact h.steps event hevent
    · exact h'.steps event hevent
  entries := by simp [h.entries, h'.entries]
  keeps m hm := (List.mem_append.1 hm).elim (h.keeps m) (h'.keeps m)
  unturned := by simp [h.unturned, h'.unturned]

/-- What is told of a step. -/
theorem of_tells {dispatcher : Dispatcher V} {event : Event} (step : event.isStep = true)
    (mine : event.request = caller.request) (tells : dispatcher.Tells event moments)
    (unperformed : event.isPerformed = false) : Worked caller moments where
  steps e he := by
    rw [← mine, tells.eventsOf_eq, List.mem_singleton] at he
    exact he ▸ step
  entries := by
    rw [← mine, tells.eventsOf_eq, performed_eq_nil fun m hm => by simp [tells.outside m hm]]
    simp [unperformed]
  keeps := tells.keepsTo caller
  unturned := turnedTo_of_outside tells.outside

theorem of_plain {m : Moment V} (plain : m.Plain caller) : Worked caller [m] := by
  have unsaid : m.emission? = none := by cases m <;> first | rfl | exact plain.elim
  have events : eventsOf caller.request [m] = [] := eventsOf_cons_of_unsaid unsaid []
  refine ⟨by simp [events], ?_, ?_, ?_⟩
  · have unrecorded : m.recorded (· = caller) = [] := by
      cases m with
      | returned other step answer log =>
        cases answer with
        | ok => exact plain.elim
        | error => rw [Moment.recorded_eq, Step.recorded, ite_self]
      | _ => rfl
    simp [events, unrecorded]
  · intro m' hm' _
    obtain rfl := List.mem_singleton.1 hm'
    refine ⟨plain.isMark_eq_false, fun other hother => ?_⟩
    exact (Option.some.inj (plain.caller?_eq.symm.trans hother)).symm
  · cases m <;> first | rfl | exact plain.elim

end Worked

namespace Dispatcher

variable {dispatcher : Dispatcher V} {caller : Caller} {moments : List (Moment V)}

theorem Work.worked {piece : List (Moment V)} (h : dispatcher.Work (some caller) piece) :
    Worked caller piece := by
  cases h with
  | silent silent => exact .of_absent (by simp [silent.1])
  | found found => exact .of_absent (by simp [Found.moments_unnamed _ _ found])
  | plain plain => exact .of_plain plain
  | refused tells => exact .of_tells rfl rfl tells rfl
  | @performed _ step output log told tells =>
    have events : eventsOf caller.request (.returned caller step (.ok output) log :: told) =
        [(step.entry output).event caller.request] := by
      rw [eventsOf_cons_of_unsaid rfl, ← step.performed_eq_event]
      simpa [step.performed_request] using tells.eventsOf_eq
    have entries : ActionDispatch.performed caller
        (.returned caller step (.ok output) log :: told) = [step.entry output] := by
      have later : ActionDispatch.performed caller told = [] :=
        performed_eq_nil fun m hm => by simp [tells.outside m hm]
      simp [later, Moment.recorded_returned, Step.recorded]
    refine ⟨?_, ?_, ?_, ?_⟩
    · rw [events, ← step.performed_eq_event]
      simp only [List.mem_singleton, forall_eq]
      cases step <;> rfl
    · rw [events, entries]
      simp [Entry.event_isPerformed]
    · intro m hm mine
      rcases List.mem_cons.1 hm with rfl | hm
      · exact ⟨rfl, fun other hother => (Option.some.inj hother).symm⟩
      · exact tells.keepsTo caller m hm mine
    · exact (List.filterMap_cons_none rfl).trans (turnedTo_of_outside tells.outside)

/-- These moments are work in a context of a request that has begun. -/
def WorksIn (dispatcher : Dispatcher V) (caller : Caller) (finished : Bool)
    (moments : List (Moment V)) : Prop :=
  ∃ n stop, dispatcher.Chronicle (dispatcher.Work (some caller)) n moments stop ∧
    caller.request.number < n ∧ stop.isSome = finished

theorem WorksIn.worked {finished : Bool} (h : dispatcher.WorksIn caller finished moments) :
    Worked caller moments := by
  obtain ⟨n, stop, chronicle, begun, -⟩ := h
  exact chronicle.project begun Worked.of_absent Worked.append Work.worked

end Dispatcher

/-! ### Failures in the log -/

section

variable {request : RequestId}

@[simp] theorem stepFailures_nil (opened : List Caller) :
    stepFailures request opened ([] : List (Moment V)) = 0 := rfl

@[simp] theorem stepFailures_append (opened : List Caller) (before after : List (Moment V)) :
    stepFailures request opened (before ++ after) =
      stepFailures request opened before +
        stepFailures request (openRequests opened before) after := by
  induction before generalizing opened with
  | nil => exact (Nat.zero_add _).symm
  | cons m before ih =>
    rw [List.cons_append, stepFailures, stepFailures, ih, openRequests_cons, Nat.add_assoc]

/-- Where there is nothing of a request, it is not open, and no failure of it is logged. -/
theorem stepFailures_of_absent {opened : List Caller} {moments : List (Moment V)}
    (closed : ∀ caller ∈ opened, caller.request ≠ request)
    (absent : ∀ m ∈ moments, m.request? ≠ some request) :
    stepFailures request opened moments = 0 ∧
      ∀ caller ∈ openRequests opened moments, caller.request ≠ request := by
  induction moments generalizing opened with
  | nil => exact ⟨rfl, closed⟩
  | cons m moments ih =>
    have closed' : ∀ caller ∈ m.openAfter opened, caller.request ≠ request := by
      intro caller hcaller
      cases m with
      | opened other step =>
        rcases List.mem_cons.1 hcaller with rfl | hcaller
        · exact fun same => absent _ List.mem_cons_self (congrArg some same)
        · exact closed caller hcaller
      | closed => exact closed caller (List.mem_of_mem_tail hcaller)
      | _ => exact closed caller hcaller
    obtain ⟨none, later⟩ := ih closed' fun m hm => absent m (List.mem_cons_of_mem _ hm)
    refine ⟨?_, later⟩
    rw [stepFailures, none]
    refine if_neg ?_
    rintro ⟨-, head⟩
    obtain ⟨caller, hcaller, same⟩ := Option.map_eq_some_iff.1 head
    exact closed caller (List.mem_of_mem_head? hcaller) same

/-- While these moments pass, so many failures of the request are logged, and in the end the same
requests are open. -/
def Tally (request : RequestId) (opened : List Caller) (moments : List (Moment V)) (failures : Nat) :
    Prop :=
  stepFailures request opened moments = failures ∧ openRequests opened moments = opened

namespace Tally

variable {opened : List Caller}

/-- Nothing is logged of a request before and after its own moments. -/
theorem amid {before own after : List (Moment V)} {failures : Nat}
    (closed : ∀ caller ∈ opened, caller.request ≠ request)
    (before_not : ∀ m ∈ before, m.request? ≠ some request)
    (after_not : ∀ m ∈ after, m.request? ≠ some request)
    (h : Tally request (openRequests opened before) own failures) :
    stepFailures request opened (before ++ own ++ after) = failures := by
  obtain ⟨count, same⟩ := h
  obtain ⟨none₁, closed⟩ := stepFailures_of_absent closed before_not
  obtain ⟨none₂, -⟩ := stepFailures_of_absent closed after_not
  rw [stepFailures_append, stepFailures_append, openRequests_append, none₁, count, same, none₂,
    Nat.zero_add, Nat.add_zero]

theorem append {before after : List (Moment V)} {failures failures' : Nat}
    (h : Tally request opened before failures) (h' : Tally request opened after failures') :
    Tally request opened (before ++ after) (failures + failures') := by
  obtain ⟨count, same⟩ := h
  obtain ⟨count', same'⟩ := h'
  constructor
  · rw [stepFailures_append, count, same, count']
  · rw [openRequests_append, same, same']

/-- Moments in which no request begins or ends and no failure of the request is logged. -/
theorem of_unmarked {moments : List (Moment V)} (unmarked : ∀ m ∈ moments, m.isMark = false)
    (quiet : opened.head?.map Caller.request ≠ some request ∨
      ∀ m ∈ moments, m.isStepFailure = false) : Tally request opened moments 0 := by
  induction moments with
  | nil => exact ⟨rfl, rfl⟩
  | cons m moments ih =>
    have same := Moment.openAfter_of_unmarked (unmarked m List.mem_cons_self) opened
    obtain ⟨none, unchanged⟩ := ih (fun m hm => unmarked m (List.mem_cons_of_mem _ hm))
      (quiet.imp_right fun quiet m hm => quiet m (List.mem_cons_of_mem _ hm))
    rw [Tally, stepFailures, openRequests_cons, same, none, unchanged]
    refine ⟨if_neg ?_, rfl⟩
    rintro ⟨failure, head⟩
    rcases quiet with other | quiet
    · exact other head
    · cases failure.symm.trans (quiet m List.mem_cons_self)

/-- A request from its beginning to its end. -/
theorem around {caller : Caller} {step : Step V} {answer : Answer step.Result}
    {body : List (Moment V)} {failures : Nat}
    (h : Tally request (caller :: opened) body failures) :
    Tally request opened (.opened caller step :: (body ++ [.closed caller step answer]))
      failures := by
  obtain ⟨count, same⟩ := h
  constructor
  · rw [stepFailures, stepFailures_append, Moment.openAfter, count, same]
    exact (Nat.zero_add _).trans rfl
  · rw [openRequests_cons, openRequests_append, Moment.openAfter, same]
    rfl

end Tally

end

namespace Dispatcher

/-- No lookup of a validator logs the failure of a rollback step. -/
def QuietLookups (dispatcher : Dispatcher V) : Prop :=
  ∀ state kind, ∀ m ∈ (dispatcher.validatorFor state kind).found.moments, m.isStepFailure = false

theorem quietLookups_of_registered {dispatcher : Dispatcher V}
    (h : dispatcher.validatorFor = .registered) : dispatcher.QuietLookups := by
  intro state kind m hm
  rw [h] at hm
  exact (state.validators.find_silent state.store kind m hm).2

variable {dispatcher : Dispatcher V} {Own : List (Moment V) → Prop} {n : Nat}
  {moments : List (Moment V)} {stop : Option Nat}

/-- A chronicle leaves the open requests as they are, and in it no failure of a request is logged
that was there before, unless by pieces of its own. -/
theorem Chronicle.stepFailures_eq_zero (h : dispatcher.Chronicle Own n moments stop)
    (unmarked : ∀ piece, Own piece → ∀ m ∈ piece, m.isMark = false) {request : RequestId}
    (old : request.number < n) {opened : List Caller}
    (quiet : opened.head?.map Caller.request ≠ some request ∨
      ∀ piece, Own piece → ∀ m ∈ piece, m.isStepFailure = false) :
    stepFailures request opened moments = 0 ∧
      (stop.isSome = true → openRequests opened moments = opened) := by
  induction h generalizing opened with
  | cut => exact ⟨rfl, fun h => (nomatch h)⟩
  | nil => exact ⟨rfl, fun _ => rfl⟩
  | own own =>
    obtain ⟨none, same⟩ := Tally.of_unmarked (unmarked _ own)
      (quiet.imp_right fun quiet => quiet _ own)
    exact ⟨none, fun _ => same⟩
  | append first second ih₁ ih₂ =>
    obtain ⟨none₁, same₁⟩ := ih₁ unmarked old quiet
    obtain ⟨none₂, same₂⟩ :=
      ih₂ unmarked (Nat.lt_of_lt_of_le old (first.origin.1 _ rfl)) quiet
    rw [stepFailures_append, openRequests_append, same₁ rfl, none₁, none₂]
    exact ⟨rfl, same₂⟩
  | @begun Own depth session step state last body run inside ih =>
    have other : (Caller.fresh state session :: opened).head?.map Caller.request ≠ some request := by
      rintro ⟨⟩
      exact Nat.lt_irrefl _ old
    obtain ⟨none, -⟩ :=
      ih (fun _ affair => affair.unmarked) (Nat.lt_succ_of_lt old) (.inl other)
    exact ⟨(Nat.zero_add _).trans none, fun h => (nomatch h)⟩
  | @request Own depth session step answer state last body run inside ih =>
    have other : (Caller.fresh state session :: opened).head?.map Caller.request ≠ some request := by
      rintro ⟨⟩
      exact Nat.lt_irrefl _ old
    obtain ⟨none, same⟩ :=
      ih (fun _ affair => affair.unmarked) (Nat.lt_succ_of_lt old) (.inl other)
    have tally : Tally request (.fresh state session :: opened) body 0 := ⟨none, same rfl⟩
    exact ⟨tally.around.1, fun _ => tally.around.2⟩

theorem Work.unmarked {caller : Caller} {piece : List (Moment V)}
    (h : dispatcher.Work (some caller) piece) : ∀ m ∈ piece, m.isMark = false := by
  intro m hm
  cases h with
  | silent silent => exact m.isMark_of_unnamed (List.mem_singleton.1 hm ▸ silent.1)
  | found found =>
    exact m.isMark_of_unnamed (List.mem_singleton.1 hm ▸ Found.moments_unnamed _ _ found)
  | plain plain => exact List.mem_singleton.1 hm ▸ plain.isMark_eq_false
  | refused tells => exact tells.unmarked m hm
  | performed tells =>
    rcases List.mem_cons.1 hm with rfl | hm
    · rfl
    · exact tells.unmarked m hm

theorem Work.isStepFailure_eq_false (quiet : dispatcher.QuietLookups) {caller : Caller}
    {piece : List (Moment V)} (h : dispatcher.Work (some caller) piece) :
    ∀ m ∈ piece, m.isStepFailure = false := by
  intro m hm
  cases h with
  | silent silent => exact List.mem_singleton.1 hm ▸ silent.2
  | found found => exact List.mem_singleton.1 hm ▸ quiet _ _ _ found
  | plain plain =>
    obtain rfl := List.mem_singleton.1 hm
    cases m <;> first | rfl | exact plain.elim
  | refused tells => exact tells.isStepFailure_eq_false m hm
  | performed tells =>
    rcases List.mem_cons.1 hm with rfl | hm
    · rfl
    · exact tells.isStepFailure_eq_false m hm

/-- Work in a context of a request logs no failure of its rollback. -/
theorem WorksIn.tally (quiet : dispatcher.QuietLookups) {caller : Caller}
    (h : dispatcher.WorksIn caller true moments) (opened : List Caller) :
    Tally caller.request opened moments 0 := by
  obtain ⟨n, stop, chronicle, begun, finished⟩ := h
  obtain ⟨none, same⟩ := chronicle.stepFailures_eq_zero (fun piece work => work.unmarked) begun
    (.inr fun piece work => work.isStepFailure_eq_false quiet)
  exact ⟨none, same finished⟩

theorem Tells.tally {event : Event} {told : List (Moment V)} (h : dispatcher.Tells event told)
    (request : RequestId) (opened : List Caller) : Tally request opened told 0 :=
  .of_unmarked h.unmarked (.inr h.isStepFailure_eq_false)

end Dispatcher

end ActionDispatch
