import ActionDispatch.Proofs.Mediation
import ActionDispatch.Proofs.Widgets

/-!
# Logs

The log of a context is what was performed in it: the entries of the handler calls made through it
that ended well, in the order in which they ended. `Logbook.Accurate` says so of every moment that
shows a log, and `Logbook.Fits` is the invariant that carries it along a course, where nested
requests have contexts of their own. `Kept` says what a single step leaves in the log.
-/

namespace ActionDispatch

variable {V : Vocabulary}

/-- The entry of a handler call that ends well, if it was made through one of these contexts: the action
with its result, and whether it was executed or undone. -/
def Moment.recorded (among : Caller → Bool) : Moment V → List (Entry V)
  | .returned caller (.execute kind input) (.ok output) _ =>
    if among caller then [⟨kind, input, output, true⟩] else []
  | .returned caller (.undo kind input output) (.ok ()) _ =>
    if among caller then [⟨kind, input, output, false⟩] else []
  | _ => []

/-- What was performed through these contexts, in order of completion. -/
def performedAmong (among : Caller → Bool) (moments : List (Moment V)) : List (Entry V) :=
  moments.flatMap (Moment.recorded among)

/-- What was performed through a context, in order of completion. -/
abbrev performed (caller : Caller) (moments : List (Moment V)) : List (Entry V) :=
  performedAmong (· = caller) moments

/-- The context whose log a moment shows, with that log. -/
def Moment.shown? : Moment V → Option (Caller × List (Entry V))
  | .looked caller log | .returned caller _ _ log => some (caller, log)
  | _ => none

section

variable (among : Caller → Bool)

@[simp] theorem performedAmong_nil : performedAmong among ([] : List (Moment V)) = [] := rfl

@[simp] theorem performedAmong_cons (m : Moment V) (moments : List (Moment V)) :
    performedAmong among (m :: moments) = m.recorded among ++ performedAmong among moments :=
  List.flatMap_cons

@[simp] theorem performedAmong_append (before after : List (Moment V)) :
    performedAmong among (before ++ after) =
      performedAmong among before ++ performedAmong among after :=
  List.flatMap_append

theorem Moment.recorded_eq (caller : Caller) (step : Step V) (answer : Answer step.Result)
    (log : List (Entry V)) :
    (returned caller step answer log).recorded among =
      if among caller then step.recorded answer else [] := by
  cases step <;> cases answer <;> simp [recorded, Step.recorded, Step.entry]

theorem Moment.recorded_of_shown?_eq_none {m : Moment V} (h : m.shown? = none) :
    m.recorded among = [] := by
  cases m <;> first | rfl | cases h

theorem performedAmong_of_unshown {moments : List (Moment V)} (h : ∀ m ∈ moments, m.shown? = none) :
    performedAmong among moments = [] :=
  List.flatMap_eq_nil_iff.2 fun m hm => m.recorded_of_shown?_eq_none among (h m hm)

theorem performedAmong_none (moments : List (Moment V)) :
    performedAmong (fun _ => false) moments = [] := by
  refine List.flatMap_eq_nil_iff.2 fun m _ => ?_
  cases m with
  | returned => exact Moment.recorded_eq _ _ _ _ _
  | _ => rfl

end

theorem Moment.recorded_returned (caller : Caller) (step : Step V) (answer : Answer step.Result)
    (log : List (Entry V)) :
    (returned caller step answer log).recorded (· = caller) = step.recorded answer := by
  rw [recorded_eq, if_pos (decide_eq_true rfl)]

theorem Moment.recorded_returned_of_ne {caller caller' : Caller} (h : caller' ≠ caller)
    (step : Step V) (answer : Answer step.Result) (log : List (Entry V)) :
    (returned caller' step answer log).recorded (· = caller) = [] := by
  simp [recorded_eq, h]

theorem Moment.Aside.shown?_eq_none {m : Moment V} (h : m.Aside) : m.shown? = none := by
  cases m <;> first | rfl | exact h.elim

/-- What a step that was answered so adds to a log: the action with its result, and whether it was
executed or undone. -/
inductive Step.Records : (step : Step V) → Answer step.Result → List (Entry V) → Prop
  | executed {kind input output} :
      Step.Records (.execute kind input) (.ok output) [⟨kind, input, output, true⟩]
  | undone {kind input output} :
      Step.Records (.undo kind input output) (.ok ()) [⟨kind, input, output, false⟩]
  | failed {step error} : Step.Records step (.error error) []

theorem Step.Records.recorded (step : Step V) (answer : Answer step.Result) :
    step.Records answer (step.recorded answer) := by
  rcases answer with error | output
  · exact .failed
  · cases step with
    | execute => exact .executed
    | undo => exact .undone

theorem Step.Records.eq_recorded {step : Step V} {answer : Answer step.Result}
    {own : List (Entry V)} (h : step.Records answer own) : own = step.recorded answer := by
  cases h <;> rfl

/-- The logs of all contexts. -/
def Logbook (V : Vocabulary) := Caller → List (Entry V)

namespace Logbook

/-- No context has logged anything. -/
def blank : Logbook V := fun _ => []

/-- The logs after these moments. -/
def after (book : Logbook V) (moments : List (Moment V)) : Logbook V := fun caller =>
  book caller ++ performed caller moments

theorem after_append (book : Logbook V) (before moments : List (Moment V)) :
    book.after (before ++ moments) = (book.after before).after moments := by
  funext caller
  simp [after]

theorem after_of_unrecorded (book : Logbook V) {moments : List (Moment V)}
    (h : ∀ caller, performed caller moments = []) : book.after moments = book := by
  funext caller
  rw [after, h, List.append_nil]

theorem after_of_unshown (book : Logbook V) {moments : List (Moment V)}
    (h : ∀ m ∈ moments, m.shown? = none) : book.after moments = book :=
  book.after_of_unrecorded fun _ => performedAmong_of_unshown _ h

/-- Every log that the moments show is the one that its context then has. -/
def Accurate (book : Logbook V) (moments : List (Moment V)) : Prop :=
  ∀ ⦃before : List (Moment V)⦄ ⦃m : Moment V⦄ ⦃rest : List (Moment V)⦄ ⦃caller : Caller⦄
    ⦃log : List (Entry V)⦄, moments = before ++ m :: rest → m.shown? = some (caller, log) →
    log = book.after (before ++ [m]) caller

namespace Accurate

variable {book : Logbook V}

theorem of_unshown {moments : List (Moment V)} (h : ∀ m ∈ moments, m.shown? = none) :
    book.Accurate moments := by
  rintro before m rest caller log rfl shown
  rw [h m (by simp)] at shown
  cases shown

theorem singleton {m : Moment V}
    (h : ∀ caller log, m.shown? = some (caller, log) → log = book.after [m] caller) :
    book.Accurate [m] := by
  intro before m' rest caller log split shown
  rcases before with _ | ⟨_, before⟩
  · cases split
    exact h caller log shown
  · cases before <;> cases split

theorem append {before moments : List (Moment V)} (h : book.Accurate before)
    (h' : (book.after before).Accurate moments) : book.Accurate (before ++ moments) := by
  intro early m late caller log split shown
  rcases List.append_eq_append_iff.1 split with ⟨more, rfl, rfl⟩ | ⟨more, rfl, hmore⟩
  · rw [h' rfl shown, ← after_append, List.append_assoc]
  · rcases more with _ | ⟨m', more⟩
    · have first : moments = [] ++ m :: late := hmore.symm
      rw [h' first shown, ← after_append]
      simp
    · obtain ⟨rfl, rfl⟩ := List.cons.inj hmore
      exact h rfl shown

theorem unshown_append {before moments : List (Moment V)} (h : ∀ m ∈ before, m.shown? = none)
    (h' : book.Accurate moments) : book.Accurate (before ++ moments) := by
  refine .append (.of_unshown h) ?_
  rwa [book.after_of_unshown h]

theorem unshown_cons {m : Moment V} {moments : List (Moment V)} (h : m.shown? = none)
    (h' : book.Accurate moments) : book.Accurate (m :: moments) :=
  unshown_append (fun _ hm => List.mem_singleton.1 hm ▸ h) h'

end Accurate

/-- The logbook is right at this place: it has the log of the place, which belongs to a request that
has begun, and nothing of requests that have not. -/
structure Fits (book : Logbook V) (place : Option Caller) (start : Standing V) : Prop where
  here : ∀ caller, place = some caller → book caller = start.log
  begun : ∀ caller, place = some caller → caller.request.number < start.state.requests
  unborn : ∀ caller : Caller, start.state.requests ≤ caller.request.number → book caller = []

theorem Fits.congr {book : Logbook V} {place : Option Caller} {start : Standing V} {state : State V}
    (h : book.Fits place start) (requests : state.requests = start.state.requests) :
    book.Fits place ⟨state, start.log⟩ := by
  refine ⟨h.here, ?_, ?_⟩
  · rw [requests]
    exact h.begun
  · rw [requests]
    exact h.unborn

/-- A request that begins has a place of its own. -/
theorem Fits.fresh {book : Logbook V} {place : Option Caller} {start : Standing V}
    (h : book.Fits place start) (session : Option String) :
    book.Fits (some (.fresh start.state session)) ⟨start.state.started, []⟩ := by
  refine ⟨?_, ?_, fun caller new => h.unborn caller (Nat.le_of_succ_le new)⟩
  · intro _ same
    cases same
    exact h.unborn (.fresh start.state session) (Nat.le_refl _)
  · intro _ same
    cases same
    exact Nat.lt_succ_self _

/-- So has its rollback. -/
theorem Fits.rollback {book : Logbook V} {caller : Caller} {start : Standing V}
    (h : book.Fits (some caller) start) (empty : book caller.rollback = []) :
    book.Fits (some caller.rollback) ⟨start.state, []⟩ := by
  refine ⟨?_, ?_, h.unborn⟩
  · intro _ same
    cases same
    exact empty
  · intro _ same
    cases same
    exact h.begun caller rfl

end Logbook

namespace Dispatcher

variable {dispatcher : Dispatcher V} {place : Option Caller} {start : Standing V}
  {moments : List (Moment V)} {stop : Option (Standing V)}

theorem Admission.shown?_eq_none {caller : Caller} {step : Step V} {handler : V.Handler step.kind}
    {state admitted : State V} {way : List (Moment V)}
    (h : dispatcher.Admission caller step handler state way admitted) :
    ∀ m ∈ way, m.shown? = none := by
  obtain ⟨served, guarded, accepted⟩ := h
  intro m hm
  rcases List.mem_append.1 hm with hm | hm
  · exact (Found.moments_aside _ m hm).shown?_eq_none
  · simp only [List.mem_cons, List.not_mem_nil, or_false] at hm
    rcases hm with rfl | rfl | rfl <;> rfl

/-- Only the place itself and the contexts of later requests matter for what is performed in a
course. -/
theorem Course.performedAmong_congr (h : dispatcher.Course place start moments stop)
    {among among' : Caller → Bool}
    (here : ∀ caller, place = some caller → among caller = among' caller)
    (new : ∀ caller : Caller, start.state.requests ≤ caller.request.number →
      among caller = among' caller) :
    performedAmong among moments = performedAmong among' moments := by
  induction h with
  | cut | looked | turn => rfl
  | aside aside =>
    have unshown := fun m hm => (aside m hm).shown?_eq_none
    rw [performedAmong_of_unshown _ unshown, performedAmong_of_unshown _ unshown]
  | refused aside =>
    have unshown := fun m hm => (aside m hm).shown?_eq_none
    rw [performedAmong_append, performedAmong_append, performedAmong_of_unshown _ unshown,
      performedAmong_of_unshown _ unshown]
    rfl
  | trans first second ih₁ ih₂ =>
    have later := first.requests_le _ rfl
    rw [performedAmong_append, performedAmong_append, ih₁ here new,
      ih₂ here fun caller le => new caller (Nat.le_trans later le)]
  | halted admission inside ih =>
    have inner := ih here fun caller le => new caller (admission.requests_eq ▸ le)
    simp only [performedAmong_append, performedAmong_cons, inner,
      performedAmong_of_unshown _ admission.shown?_eq_none]
    rfl
  | returned answer admission inside ih =>
    have inner := ih here fun caller le => new caller (admission.requests_eq ▸ le)
    simp only [performedAmong_append, performedAmong_cons, performedAmong_nil, inner,
      performedAmong_of_unshown _ admission.shown?_eq_none, Moment.recorded_eq, here _ rfl]
    rfl
  | begun inside ih =>
    refine ih ?_ fun caller le => new caller (Nat.le_of_succ_le le)
    intro _ same
    cases same
    exact new _ (Nat.le_refl _)
  | broken inside ending ih₁ ih₂ =>
    have inner := ih₁ (of_some (new _ (Nat.le_refl _)))
      fun caller le => new caller (Nat.le_of_succ_le le)
    have outer := ih₂ (of_some (new _ (Nat.le_refl _)))
      fun caller le => new caller (Nat.le_trans (Nat.le_of_succ_le (inside.requests_le _ rfl)) le)
    rw [performedAmong_cons, performedAmong_cons, performedAmong_append,
      performedAmong_append, inner, outer]
    rfl
  | request answer inside ending ih₁ ih₂ =>
    have inner := ih₁ (of_some (new _ (Nat.le_refl _)))
      fun caller le => new caller (Nat.le_of_succ_le le)
    have outer := ih₂ (of_some (new _ (Nat.le_refl _)))
      fun caller le => new caller (Nat.le_trans (Nat.le_of_succ_le (inside.requests_le _ rfl)) le)
    simp only [performedAmong_cons, performedAmong_append, inner, outer]
    rfl

/-- Nothing is performed through a context that was there before, except at its own place. -/
theorem Course.performed_eq_nil (h : dispatcher.Course place start moments stop) {caller : Caller}
    (elsewhere : place ≠ some caller) (old : caller.request.number < start.state.requests) :
    performed caller moments = [] := by
  rw [performed, h.performedAmong_congr, performedAmong_none]
  · rintro caller' rfl
    simpa using elsewhere
  · intro caller' new
    refine decide_eq_false ?_
    rintro rfl
    exact Nat.lt_irrefl _ (Nat.lt_of_lt_of_le old new)

/-- At a place, what is performed for its request is performed through its context. -/
theorem Course.performedAmong_request {caller : Caller}
    (h : dispatcher.Course (some caller) start moments stop)
    (begun : caller.request.number < start.state.requests) :
    performedAmong (·.request = caller.request) moments = performed caller moments := by
  refine h.performedAmong_congr ?_ ?_
  · intro _ same
    cases same
    rw [decide_eq_true rfl, decide_eq_true rfl]
  · intro other new
    have ne : other.request ≠ caller.request := fun same =>
      Nat.lt_irrefl _ (Nat.lt_of_lt_of_le begun (same ▸ new))
    rw [decide_eq_false ne, decide_eq_false fun same => ne (congrArg Caller.request same)]

/-- Nothing is performed in the context of a rollback before the rollback. -/
theorem Course.rollback_blank {session : Option String}
    (inside : dispatcher.Course (some (.fresh start.state session)) ⟨start.state.started, []⟩
      moments stop)
    {book : Logbook V} (fits : book.Fits place start) :
    book.after moments (Caller.fresh start.state session).rollback = [] := by
  rw [Logbook.after, fits.unborn (Caller.fresh start.state session).rollback (Nat.le_refl _),
    inside.performed_eq_nil (by rintro ⟨⟩) (Nat.lt_succ_self _)]
  rfl

/-- A course shows only accurate logs, and if it is not cut short, the logbook is right at its
end. -/
theorem Course.accurate (h : dispatcher.Course place start moments stop) (book : Logbook V)
    (fits : book.Fits place start) :
    book.Accurate moments ∧ ∀ last, stop = some last → (book.after moments).Fits place last := by
  induction h generalizing book with
  | cut => exact ⟨.of_unshown fun _ hm => (nomatch hm), fun _ same => (nomatch same)⟩
  | aside aside requests =>
    have unshown := fun m hm => (aside m hm).shown?_eq_none
    refine ⟨.of_unshown unshown, ?_⟩
    intro _ same
    cases same
    rw [book.after_of_unshown unshown]
    exact fits.congr requests
  | trans first second ih₁ ih₂ =>
    obtain ⟨accurate₁, fits₁⟩ := ih₁ book fits
    obtain ⟨accurate₂, fits₂⟩ := ih₂ _ (fits₁ _ rfl)
    rw [book.after_append]
    exact ⟨accurate₁.append accurate₂, fits₂⟩
  | @refused caller start moments kind id state aside requests =>
    have unshown : ∀ m ∈ moments ++
        [.resolved caller kind id, .checked (some caller) id caller.session false],
        m.shown? = none := by
      intro m hm
      rcases List.mem_append.1 hm with hm | hm
      · exact (aside m hm).shown?_eq_none
      · simp only [List.mem_cons, List.not_mem_nil, or_false] at hm
        rcases hm with rfl | rfl <;> rfl
    refine ⟨.of_unshown unshown, ?_⟩
    intro _ same
    cases same
    rw [book.after_of_unshown unshown]
    exact fits.congr requests
  | @looked caller start =>
    have unrecorded : book.after [.looked caller start.log] = book :=
      book.after_of_unrecorded fun _ => rfl
    refine ⟨.singleton ?_, ?_⟩
    · intro _ _ same
      cases same
      rw [unrecorded]
      exact (fits.here _ rfl).symm
    · intro _ same
      cases same
      rw [unrecorded]
      exact fits
  | halted admission inside ih =>
    obtain ⟨accurate, -⟩ := ih book (fits.congr admission.requests_eq)
    exact ⟨.unshown_append admission.shown?_eq_none (.unshown_cons rfl accurate),
      fun _ same => (nomatch same)⟩
  | @returned caller step handler start way state body last log answer admission inside ih =>
    obtain ⟨accurate, fits'⟩ := ih book (fits.congr admission.requests_eq)
    have fits' := fits' _ rfl
    have called : ∀ m ∈ way ++ [.called caller step handler], m.shown? = none := by
      simpa [or_imp, forall_and, Moment.shown?] using admission.shown?_eq_none
    have recorded :
        (book.after body).after [.returned caller step answer (log ++ step.recorded answer)] caller =
          log ++ step.recorded answer := by
      rw [Logbook.after, fits'.here caller rfl]
      simp [Moment.recorded_eq]
    rw [List.append_cons, book.after_append, book.after_of_unshown called, book.after_append]
    constructor
    · refine .unshown_append called (accurate.append (.singleton ?_))
      intro _ _ same
      cases same
      exact recorded.symm
    · intro _ same
      cases same
      refine ⟨?_, fits'.begun, ?_⟩
      · intro _ same
        cases same
        exact recorded
      · intro other new
        have young : caller.request.number < last.requests := fits'.begun caller rfl
        have ne : caller ≠ other := by
          rintro rfl
          exact Nat.lt_irrefl _ (Nat.lt_of_lt_of_le young new)
        rw [Logbook.after, fits'.unborn other new, performed, performedAmong_cons,
          Moment.recorded_returned_of_ne ne]
        rfl
  | @turn caller start entry compensating =>
    have unshown : ∀ m ∈ [Moment.compensating caller entry], m.shown? = none := by
      simp [Moment.shown?]
    refine ⟨.of_unshown unshown, ?_⟩
    intro _ same
    cases same
    rw [book.after_of_unshown unshown]
    exact fits
  | @begun place start session step body inside ih =>
    obtain ⟨accurate, -⟩ := ih book (fits.fresh session)
    exact ⟨.unshown_cons rfl accurate, fun _ same => (nomatch same)⟩
  | @broken place start session step body middle rest inside ending ih₁ ih₂ =>
    obtain ⟨accurate₁, fits₁⟩ := ih₁ book (fits.fresh session)
    obtain ⟨accurate₂, -⟩ := ih₂ _ ((fits₁ _ rfl).rollback (inside.rollback_blank fits))
    exact ⟨.unshown_cons rfl (accurate₁.append accurate₂), fun _ same => (nomatch same)⟩
  | @request place start session step body middle rest last answer inside ending ih₁ ih₂ =>
    obtain ⟨accurate₁, fits₁⟩ := ih₁ book (fits.fresh session)
    obtain ⟨accurate₂, fits₂⟩ := ih₂ _ ((fits₁ _ rfl).rollback (inside.rollback_blank fits))
    have closed : ∀ m ∈ [Moment.closed (.fresh start.state session) step answer],
        m.shown? = none := by
      simp [Moment.shown?]
    constructor
    · exact .unshown_cons rfl (accurate₁.append (accurate₂.append (.of_unshown closed)))
    · intro _ same
      cases same
      -- The request leaves the log of the place alone, whatever the place is.
      have whole : dispatcher.Course none start _ _ := .request answer inside ending
      have le := whole.requests_le _ rfl
      refine ⟨fun caller hplace => ?_, fun caller hplace => ?_, fun caller new => ?_⟩
      · rw [Logbook.after, whole.performed_eq_nil (by simp) (fits.begun caller hplace),
          fits.here caller hplace, List.append_nil]
      · exact Nat.lt_of_lt_of_le (fits.begun caller hplace) le
      · have unborn := (fits₂ _ rfl).unborn caller new
        simpa [Logbook.after, Moment.recorded] using unborn

/-- What a context of a request that has begun has logged, at any place of a course that is its
own. -/
theorem Course.log_eq {caller : Caller} {last : Standing V}
    (h : dispatcher.Course (some caller) start moments (some last))
    (begun : caller.request.number < start.state.requests) :
    last.log = start.log ++ performed caller moments := by
  let book : Logbook V := fun caller' => if caller' = caller then start.log else []
  have fits : book.Fits (some caller) start := by
    refine ⟨?_, ?_, fun caller' new => if_neg ?_⟩
    · intro _ same
      cases same
      exact if_pos rfl
    · intro _ same
      cases same
      exact begun
    · rintro rfl
      exact Nat.lt_irrefl _ (Nat.lt_of_lt_of_le begun new)
  have after := ((h.accurate book fits).2 last rfl).here caller rfl
  rw [← after, Logbook.after, fits.here caller rfl]

/-- What a request performs until it is settled is what it logs. -/
theorem attempt_performed {calls : Calls V} (follow : calls.Follow dispatcher) {caller : Caller}
    {session : Option String} {step : Step V} {answer : Answer step.Result} {log : List (Entry V)}
    {state last : State V}
    (h : dispatcher.attempt (dispatcher.perform calls) session step state =
      ⟨some (caller, answer, log), last, moments⟩) :
    caller.request.number < last.requests ∧
      performedAmong (·.request = caller.request) moments = log := by
  obtain ⟨rfl, ready, opening, inside, hemit, hperform, rfl⟩ := attempt_eq_some h
  have quiet := dispatcher.emit_aside (.started (Caller.fresh state session).request step.name)
  have aside := quiet.aside state.started
  have requests := quiet.requests state.started
  rw [hemit] at aside requests
  have begun : (Caller.fresh state session).request.number < ready.requests :=
    requests ▸ Nat.lt_succ_self _
  have course : dispatcher.Course (some (.fresh state session)) ⟨ready, []⟩ inside
      (some ⟨last, log⟩) := by
    have follows : dispatcher.Follows (some (.fresh state session)) [] _ Prod.snd :=
      perform_follows follow step []
    have course := follows ready
    rwa [hperform] at course
  refine ⟨Nat.lt_of_lt_of_le begun (course.requests_le _ rfl), ?_⟩
  rw [performedAmong_cons, performedAmong_append,
    performedAmong_of_unshown _ fun m hm => (aside m hm).shown?_eq_none,
    course.performedAmong_request begun]
  exact (course.log_eq begun).symm

/-- What it performs after that is what its rollback performs. -/
theorem settle_performed {calls : Calls V} (follow : calls.Follow dispatcher) {caller : Caller}
    (step : Step V) {log : List (Entry V)} {original error : DispatchError}
    {state rolled last : State V} {inside failing : List (Moment V)}
    (begun : caller.request.number < state.requests)
    (hrollback : dispatcher.rollback (dispatcher.perform calls) caller log original state =
      ⟨some error, rolled, inside⟩)
    (hfail : dispatcher.emit (.failed caller.request error.message) rolled =
      ⟨some (), last, failing⟩) :
    performedAmong (·.request = caller.request)
        (inside ++ (failing ++ [.closed caller step (.error error)])) =
      performed caller.rollback inside := by
  have failed := (dispatcher.emit_aside (.failed caller.request error.message)).aside rolled
  rw [hfail] at failed
  obtain ⟨stop, course, -⟩ :=
    rollback_roams (fun _ => perform_follows follow) caller log original state
  rw [hrollback] at course
  have here : performedAmong (·.request = caller.request) inside =
      performed caller.rollback inside :=
    course.performedAmong_request (begun : caller.rollback.request.number < _)
  rw [performedAmong_append, performedAmong_append, here,
    performedAmong_of_unshown _ fun m hm => (failed m hm).shown?_eq_none]
  simp [Moment.recorded]

/-- What a step leaves in the log of its context. -/
inductive Kept (dispatcher : Dispatcher V) (caller : Caller) (step : Step V)
    (log : List (Entry V)) :
    List (Moment V) → Logged V step.Result → Prop
  /-- No handler is called, and nothing is logged: the step is unsupported, or its caller is
  refused. Then an undo counts as done where that is ignored. -/
  | uncalled {moments answer} (uncalled : ∀ m ∈ moments, m.isCall = false)
      (unshown : ∀ m ∈ moments, m.shown? = none)
      (ignored : answer.isOk = true ↔
        step.isUndo = true ∧ dispatcher.settings.unauthorizedUndo = .ignore ∧
          ∃ id, .checked (some caller) id caller.session false ∈ moments) :
      Kept dispatcher caller step log moments (answer, log)
  /-- The handler is called, and answers after what it does itself. Its own entry comes last, unless
  it failed. -/
  | called {handler way body given own rest} (uncalled : ∀ m ∈ way, m.isCall = false)
      (unshown : ∀ m ∈ way, m.shown? = none) (records : step.Records given own)
      (aside : ∀ m ∈ rest, m.Aside) :
      Kept dispatcher caller step log
        (way ++ .called caller step handler :: (body ++
          .returned caller step given (log ++ performed caller body ++ own) :: rest))
        (given.mapError (·.intoService step.name), log ++ performed caller body ++ own)

/-- Only a refused undo can count as done, and does so only where that is ignored. -/
theorem refuse_isOk_iff {caller : Caller} {step : Step V} {answer : Answer step.Result}
    {state last : State V}
    (h : dispatcher.refuse caller step state = ⟨some answer, last, moments⟩) :
    answer.isOk = true ↔ step.isUndo = true ∧ dispatcher.settings.unauthorizedUndo = .ignore := by
  cases step with
  | execute kind input =>
    obtain ⟨_, _, _, _, -, h, -⟩ := Run.bind_eq_some_iff.1 h
    obtain ⟨_, _, _, _, -, h, -⟩ := Run.bind_eq_some_iff.1 h
    cases h
    simp [Step.isUndo, Except.isOk, Except.toBool]
  | undo kind input output =>
    obtain ⟨_, _, _, _, -, h, -⟩ := Run.bind_eq_some_iff.1 h
    cases hset : dispatcher.settings.unauthorizedUndo with
    | ignore =>
      rw [hset] at h
      obtain ⟨_, _, _, _, -, h, -⟩ := Run.bind_eq_some_iff.1 h
      cases h
      simp [Step.isUndo, Except.isOk, Except.toBool]
    | reject =>
      rw [hset] at h
      obtain ⟨_, _, _, _, -, h, -⟩ := Run.bind_eq_some_iff.1 h
      cases h
      simp [Except.isOk, Except.toBool]

theorem perform_kept {calls : Calls V} (follow : calls.Follow dispatcher) {caller : Caller}
    {step : Step V} {log : List (Entry V)} {state last : State V} {logged : Logged V step.Result}
    (begun : caller.request.number < state.requests)
    (h : dispatcher.perform calls caller step log state = ⟨some logged, last, moments⟩) :
    dispatcher.Kept caller step log moments logged := by
  have conduct := dispatcher.perform_conduct calls caller step log state
  have lookups := Found.moments_aside (dispatcher.validatorAt state step.kind).found
  generalize dispatcher.perform calls caller step log state = out at h conduct
  cases conduct with
  | unserved =>
    cases h
    exact .uncalled (by simp) (by simp) (by simp [Except.isOk, Except.toBool])
  | unguarded =>
    cases h
    refine .uncalled (fun m hm => (lookups m hm).isCall_eq_false)
      (fun m hm => (lookups m hm).shown?_eq_none) ⟨fun h => (nomatch h), ?_⟩
    rintro ⟨-, -, id, hm⟩
    cases lookups _ hm
  | @refused id answer last rest guarded refused refusal =>
    cases h
    obtain ⟨_, _, _, hrefuse, aside, -⟩ := (dispatcher.refuse_aside caller step).apply _
    cases refusal.symm.trans hrefuse
    refine .uncalled ?_ ?_ ?_
    · simp only [List.mem_append, List.mem_cons, List.not_mem_nil, or_false]
      rintro m ((hm | rfl | rfl) | hm)
      · exact (lookups m hm).isCall_eq_false
      · rfl
      · rfl
      · exact (aside m hm).isCall_eq_false
    · simp only [List.mem_append, List.mem_cons, List.not_mem_nil, or_false]
      rintro m ((hm | rfl | rfl) | hm)
      · exact (lookups m hm).shown?_eq_none
      · rfl
      · rfl
      · exact (aside m hm).shown?_eq_none
    · rw [refuse_isOk_iff refusal]
      constructor
      · rintro ⟨undo, ignore⟩
        exact ⟨undo, ignore, id, by simp⟩
      · rintro ⟨undo, ignore, -⟩
        exact ⟨undo, ignore⟩
  | @invoked handler way admitted admission =>
    rw [Outcome.after_eq_some_iff] at h
    obtain ⟨own, h, rfl⟩ := h
    obtain ⟨answer, later⟩ := logged
    obtain ⟨given, inner, middle, body, rest, hprogram, rfl, rfl, rfl, aside, -⟩ :=
      dispatcher.invoke_eq_some calls caller h
    have inside : dispatcher.Follows (some caller) log _ Prod.snd :=
      interpret_follows follow (dispatcher.app.program step handler) log
    have inside := inside admitted
    rw [hprogram] at inside
    obtain rfl : inner = log ++ performed caller body :=
      inside.log_eq (admission.requests_eq ▸ begun)
    exact .called admission.isCall_eq_false admission.shown?_eq_none (.recorded step given) aside

theorem Kept.log_eq {caller : Caller} {step : Step V} {log : List (Entry V)}
    {logged : Logged V step.Result} (h : dispatcher.Kept caller step log moments logged) :
    logged.2 = log ++ performed caller moments := by
  cases h with
  | uncalled uncalled unshown ignored =>
    rw [performed, performedAmong_of_unshown _ unshown, List.append_nil]
  | called uncalled unshown records aside =>
    obtain rfl := records.eq_recorded
    have later := fun m hm => (aside m hm).shown?_eq_none
    simp only [performed, performedAmong_append, performedAmong_cons,
      performedAmong_of_unshown _ unshown, performedAmong_of_unshown _ later,
      Moment.recorded_returned]
    simp [Moment.recorded]

theorem serve_accurate (dispatcher : Dispatcher V) (depth : Nat) (moves : List (Move V))
    (state : State V) :
    Logbook.blank.Accurate (dispatcher.serve depth moves state).moments := by
  have fits : Logbook.blank.Fits none (⟨state, []⟩ : Standing V) :=
    ⟨fun _ h => (nomatch h), fun _ h => (nomatch h), fun _ _ => rfl⟩
  exact ((serve_follows dispatcher depth moves state).accurate _ fits).1

/-- Whatever clients and handlers do, every log that is shown is what was performed in its context
until then. A step in the context of a request that has begun adds to the log what was performed in
between: at most what its own nested steps were, and last the step itself. -/
theorem log_eq_performed (dispatcher : Dispatcher V) (depth : Nat) :
    (∀ moves state, Logbook.blank.Accurate (dispatcher.serve depth moves state).moments) ∧
    ∀ caller step log state logged last moments, caller.request.number < state.requests →
      (dispatcher.callsAt depth).perform caller step log state = ⟨some logged, last, moments⟩ →
      logged.2 = log ++ performed caller moments ∧
        dispatcher.Kept caller step log moments logged := by
  refine ⟨serve_accurate dispatcher depth, ?_⟩
  intro caller step log state logged last moments begun h
  cases depth with
  | zero => cases h
  | succ depth =>
    have kept := perform_kept (callsAt_follow dispatcher depth) begun h
    exact ⟨kept.log_eq, kept⟩

open Widgets in
/-- Replacing fails at the second of its steps, and the first one stays in the log. -/
theorem log_of_refused_replace :
    0 < guarded.started.requests ∧
    [executed .create 2] = performed (.fresh guarded "user")
      ((membersOnly.callsAt 2).perform (.fresh guarded "user") (execution .replace 1) []
        guarded.started).moments :=
  ⟨by decide, ((log_eq_performed membersOnly 2).2 (.fresh guarded "user") (execution .replace 1) []
    guarded.started (.error .insufficientRights, [executed .create 2]) _ _ (by decide) rfl).1⟩

end Dispatcher

end ActionDispatch
