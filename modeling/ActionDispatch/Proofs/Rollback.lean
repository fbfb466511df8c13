import ActionDispatch.Proofs.Logs

/-!
# Rollbacks

A rollback turns to the entries of a log, newest first, and the caller gets the error of the request
if every turn succeeds. A turn succeeds when the handler call that takes the entry back ends well
(`Turn.TakenBack`), but also when that call is never made, because the undo is refused and refused
undos are ignored (`Skipped`). `settle_error_iff` says exactly when the first error is given, and
when that means that everything was taken back.
-/

namespace ActionDispatch

variable {V : Vocabulary}

/-- A list has at most one first place where something holds. -/
theorem split_unique {α : Type} {p : α → Bool} {before before' after after' : List α} {a a' : α}
    (h : before ++ a :: after = before' ++ a' :: after') (hbefore : ∀ x ∈ before, p x = false)
    (hbefore' : ∀ x ∈ before', p x = false) (ha : p a = true) (ha' : p a' = true) :
    before = before' ∧ a = a' ∧ after = after' := by
  induction before generalizing before' with
  | nil =>
    cases before' with
    | nil =>
      obtain ⟨rfl, rfl⟩ := List.cons.inj h
      exact ⟨rfl, rfl, rfl⟩
    | cons b' before' =>
      obtain ⟨rfl, -⟩ := List.cons.inj h
      rw [hbefore' a List.mem_cons_self] at ha
      cases ha
  | cons b before ih =>
    cases before' with
    | nil =>
      obtain ⟨rfl, -⟩ := List.cons.inj h
      rw [hbefore b List.mem_cons_self] at ha'
      cases ha'
    | cons b' before' =>
      obtain ⟨rfl, tails⟩ := List.cons.inj h
      obtain ⟨rfl, rest⟩ := ih tails (fun x hx => hbefore x (List.mem_cons_of_mem _ hx))
        fun x hx => hbefore' x (List.mem_cons_of_mem _ hx)
      exact ⟨rfl, rest⟩

/-- And at most one last place. -/
theorem split_unique_last {α : Type} {p : α → Bool} {before before' after after' : List α}
    {a a' : α} (h : before ++ a :: after = before' ++ a' :: after')
    (hafter : ∀ x ∈ after, p x = false) (hafter' : ∀ x ∈ after', p x = false) (ha : p a = true)
    (ha' : p a' = true) : a = a' := by
  have h : after.reverse ++ a :: before.reverse = after'.reverse ++ a' :: before'.reverse := by
    simpa using congrArg List.reverse h
  exact (split_unique h (by simpa using hafter) (by simpa using hafter') ha ha').2.1

/-- What takes an entry back: an execution is undone with its own input and output, and what was undone
is executed again with its own input. -/
inductive Entry.TakenBackBy : Entry V → Step V → Prop
  | executed {kind input output} :
      TakenBackBy ⟨kind, input, output, true⟩ (.undo kind input output)
  | undone {kind input output} : TakenBackBy ⟨kind, input, output, false⟩ (.execute kind input)

theorem Entry.takenBackBy_compensation (entry : Entry V) : entry.TakenBackBy entry.compensation := by
  obtain ⟨kind, input, output, _ | _⟩ := entry
  · exact .undone
  · exact .executed

theorem Entry.TakenBackBy.eq_compensation {entry : Entry V} {step : Step V}
    (h : entry.TakenBackBy step) : step = entry.compensation := by
  cases h <;> rfl

theorem Entry.TakenBackBy.kind_eq {entry : Entry V} {step : Step V} (h : entry.TakenBackBy step) :
    step.kind = entry.kind := by
  cases h <;> rfl

/-- The handler call of a step is made, and ends well. -/
def EndsWell (caller : Caller) (step : Step V) (moments : List (Moment V)) : Prop :=
  ∃ way handler body output log rest,
    moments = way ++ .called caller step handler ::
      (body ++ .returned caller step (.ok output) log :: rest) ∧
    (∀ m ∈ way, m.isCall = false) ∧ ∀ m ∈ rest, m.Aside

/-- One step of a rollback: the entry, what happens until it is over, whether it succeeds, and the
record and the delivery of the event that tell so. -/
structure Turn (V : Vocabulary) where
  entry : Entry V
  inside : List (Moment V)
  success : Bool
  record : LogRecord
  delivery : List (Moment V)

/-- The moments of a turn in the context of a rollback. -/
def Turn.moments (caller : Caller) (turn : Turn V) : List (Moment V) :=
  .compensating caller turn.entry :: (turn.inside ++ .logged turn.record ::
    .emitted (.rollbackStepCompleted caller.request turn.entry.name (!turn.entry.executed)
      turn.success) :: turn.delivery)

/-- The entry is really taken back. -/
def Turn.TakenBack (caller : Caller) (turn : Turn V) : Prop :=
  ∃ step, turn.entry.TakenBackBy step ∧ EndsWell caller step turn.inside

theorem Turn.takenBack_iff {caller : Caller} {turn : Turn V} :
    turn.TakenBack caller ↔ EndsWell caller turn.entry.compensation turn.inside := by
  constructor
  · rintro ⟨step, takesBack, ends⟩
    exact takesBack.eq_compensation ▸ ends
  · intro ends
    exact ⟨_, turn.entry.takenBackBy_compensation, ends⟩

namespace Dispatcher

/-- No handler is called: the entry is to be undone, but its validator refuses, and that is
ignored. -/
def Skipped (dispatcher : Dispatcher V) (caller : Caller) (turn : Turn V) : Prop :=
  turn.entry.executed = true ∧ dispatcher.settings.unauthorizedUndo = .ignore ∧
    (∀ m ∈ turn.inside, m.isCall = false) ∧
    ∃ id, .checked (some caller) id caller.session false ∈ turn.inside

/-- The turns of a rollback follow the order of the entries, and each succeeds when its entry is
taken back or skipped. -/
structure TurnsThrough (dispatcher : Dispatcher V) (caller : Caller) (entries : List (Entry V))
    (turns : List (Turn V)) : Prop where
  order : turns.map Turn.entry <+: entries
  success : ∀ turn ∈ turns,
    turn.success = true ↔ turn.TakenBack caller ∨ dispatcher.Skipped caller turn

variable {dispatcher : Dispatcher V} {calls : Calls V} {caller : Caller} {moments : List (Moment V)}

theorem Skipped.not_takenBack {turn : Turn V} (h : dispatcher.Skipped caller turn) :
    ¬turn.TakenBack caller := by
  rintro ⟨step, -, way, handler, body, output, log, rest, inside, -, -⟩
  have uncalled := h.2.2.1 (.called caller step handler) (by simp [inside])
  cases uncalled

/-- A step is answered well when its handler call ends well, or when there is none and that is
ignored. -/
theorem Kept.isOk_iff {step : Step V} {log later : List (Entry V)} {answer : Answer step.Result}
    (h : dispatcher.Kept caller step log moments (answer, later)) :
    answer.isOk = true ↔ EndsWell caller step moments ∨
      (step.isUndo = true ∧ dispatcher.settings.unauthorizedUndo = .ignore ∧
        (∀ m ∈ moments, m.isCall = false) ∧
        ∃ id, .checked (some caller) id caller.session false ∈ moments) := by
  cases h with
  | uncalled uncalled unshown ignored =>
    have unmade : ¬EndsWell caller step moments := by
      rintro ⟨way, handler, body, output, log, rest, rfl, -, -⟩
      cases uncalled (.called caller step handler) (by simp)
    simp only [unmade, false_or, ignored]
    constructor
    · rintro ⟨undo, ignore, checked⟩
      exact ⟨undo, ignore, uncalled, checked⟩
    · rintro ⟨undo, ignore, -, checked⟩
      exact ⟨undo, ignore, checked⟩
  | @called handler way body given own rest uncalled unshown records aside =>
    have made : ¬∀ m ∈ way ++ .called caller step handler :: (body ++
        .returned caller step given (log ++ performed caller body ++ own) :: rest),
        m.isCall = false := fun h => by cases h (.called caller step handler) (by simp)
    simp only [made, false_and, and_false, or_false]
    cases given with
    | ok output =>
      refine ⟨fun _ => ?_, fun _ => rfl⟩
      exact ⟨way, handler, body, output, _, rest, rfl, uncalled, aside⟩
    | error error =>
      refine ⟨fun h => (nomatch h), ?_⟩
      rintro ⟨way', handler', body', output, log', rest', split, uncalled', aside'⟩
      obtain ⟨-, -, split⟩ := split_unique split uncalled uncalled' rfl rfl
      have same := split_unique_last (p := fun m : Moment V => m.shown?.isSome) split
        (fun m hm => by simp [(aside m hm).shown?_eq_none])
        (fun m hm => by simp [(aside' m hm).shown?_eq_none]) rfl rfl
      cases same

/-- How taking one entry back goes. -/
theorem compensate_turn (follow : calls.Follow dispatcher) {entry : Entry V}
    {log later : List (Entry V)} {failure : Option DispatchError} {state last : State V}
    (begun : caller.request.number < state.requests)
    (h : dispatcher.compensate (dispatcher.perform calls) caller entry log state =
      ⟨some (failure, later), last, moments⟩) :
    ∃ turn : Turn V, turn.entry = entry ∧ moments = turn.moments caller ∧
      turn.success = failure.isNone ∧
      (turn.success = true ↔ turn.TakenBack caller ∨ dispatcher.Skipped caller turn) := by
  unfold compensate at h
  rw [Run.leave_bind_apply, Outcome.after_eq_some_iff] at h
  obtain ⟨own, hown, rfl⟩ := h
  obtain ⟨⟨answer, log'⟩, middle, inside, rest, hperform, hrest, rfl⟩ := Run.bind_eq_some_iff.1 hown
  have kept := (perform_kept follow begun hperform).isOk_iff
  rw [Entry.compensation_isUndo] at kept
  cases answer with
  | ok output =>
    obtain ⟨_, delivery, htell, -, -⟩ := dispatcher.tell_apply
      (.stepSucceeded entry.name (!entry.executed))
      (.rollbackStepCompleted caller.request entry.name (!entry.executed) true)
      ((none : Option DispatchError), log') middle
    cases hrest.symm.trans htell
    refine ⟨⟨entry, inside, true, _, delivery⟩, rfl, rfl, rfl, ?_⟩
    rwa [Turn.takenBack_iff]
  | error error =>
    obtain ⟨_, delivery, htell, -, -⟩ := dispatcher.tell_apply
      (.stepFailed entry.name (!entry.executed) error.message)
      (.rollbackStepCompleted caller.request entry.name (!entry.executed) false)
      (some error, log') middle
    cases hrest.symm.trans htell
    refine ⟨⟨entry, inside, false, _, delivery⟩, rfl, rfl, rfl, ?_⟩
    rwa [Turn.takenBack_iff]

theorem TurnsThrough.cons {turn : Turn V} {entries : List (Entry V)} {turns : List (Turn V)}
    (success : turn.success = true ↔ turn.TakenBack caller ∨ dispatcher.Skipped caller turn)
    (h : dispatcher.TurnsThrough caller entries turns) :
    dispatcher.TurnsThrough caller (turn.entry :: entries) (turn :: turns) := by
  refine ⟨List.cons_prefix_cons.2 ⟨rfl, h.order⟩, ?_⟩
  rintro t (_ | ⟨_, ht⟩)
  · exact success
  · exact h.success t ht

/-- How taking entries back goes, by induction on the entries: there is no error just when all of
them are turned to and all turns succeed. -/
theorem unwind_turns (follow : calls.Follow dispatcher) (compensating : caller.compensating)
    {entries log : List (Entry V)} {errors : List DispatchError} {state last : State V}
    (begun : caller.request.number < state.requests)
    (h : dispatcher.unwind (dispatcher.perform calls) caller entries log state =
      ⟨some errors, last, moments⟩) :
    ∃ turns : List (Turn V), moments = turns.flatMap (Turn.moments caller) ∧
      dispatcher.TurnsThrough caller entries turns ∧
      (errors = [] ↔ turns.map Turn.entry = entries ∧ ∀ turn ∈ turns, turn.success = true) := by
  induction entries generalizing log state moments errors with
  | nil =>
    cases h
    exact ⟨[], rfl, ⟨List.prefix_rfl, by simp⟩, by simp⟩
  | cons entry older ih =>
    obtain ⟨⟨failure, later⟩, middle, before, after, hturn, hrest, rfl⟩ := Run.bind_eq_some_iff.1 h
    obtain ⟨turn, rfl, rfl, hsuccess, success⟩ := compensate_turn follow begun hturn
    have course :=
      compensate_follows (fun _ => perform_follows follow) compensating turn.entry log state
    rw [hturn] at course
    have begun := Nat.lt_of_lt_of_le begun (course.requests_le _ rfl)
    cases failure with
    | none =>
      obtain ⟨turns, rfl, through, noErrors⟩ := ih begun hrest
      refine ⟨turn :: turns, by rw [List.flatMap_cons], through.cons success, ?_⟩
      simp [hsuccess, noErrors]
    | some error =>
      dsimp only at hrest
      cases hpolicy : dispatcher.settings.rollback with
      | stopOnFailure =>
        rw [hpolicy] at hrest
        cases hrest
        exact ⟨[turn], by simp, .cons success ⟨List.nil_prefix, by simp⟩, by simp [hsuccess]⟩
      | bestEffort =>
        rw [hpolicy] at hrest
        obtain ⟨others, _, _, _, hunwind, hpure, rfl⟩ := Run.bind_eq_some_iff.1 hrest
        cases hpure
        obtain ⟨turns, rfl, through, -⟩ := ih begun hunwind
        exact ⟨turn :: turns, by simp, through.cons success, by simp [hsuccess]⟩

/-- The error for the caller, if there are entries to take back. -/
theorem rollback_turns (follow : calls.Follow dispatcher) {entries : List (Entry V)}
    {original error : DispatchError} {state last : State V}
    (begun : caller.request.number < state.requests) (logged : entries ≠ [])
    (h : dispatcher.rollback (dispatcher.perform calls) caller entries original state =
      ⟨some error, last, moments⟩) :
    ∃ (opening closing : List (Moment V)) (turns : List (Turn V)),
      moments = opening ++ turns.flatMap (Turn.moments caller.rollback) ++ closing ∧
      dispatcher.TurnsThrough caller.rollback entries.reverse turns ∧
      (turns.map Turn.entry = entries.reverse ∧ (∀ turn ∈ turns, turn.success = true) →
        error = original) ∧
      (¬(turns.map Turn.entry = entries.reverse ∧ ∀ turn ∈ turns, turn.success = true) →
        ∃ failures first, error = .rollbackFailed original failures first) := by
  obtain ⟨ready, opening, errors, middle, body, closing, hopening, hunwind, hclosing, rfl⟩ :=
    rollback_eq_some logged h
  have aside : (do
      Run.log (.rollingBack caller.request entries.length original.message)
      dispatcher.emit (.rollbackStarted caller.request entries.length) : Run V Unit).Aside :=
    .bind (.log _) fun _ => dispatcher.emit_aside _
  have requests := aside.requests state
  rw [hopening] at requests
  obtain ⟨turns, rfl, through, noErrors⟩ :=
    unwind_turns follow rfl (requests ▸ begun : caller.rollback.request.number < _) hunwind
  refine ⟨opening, closing, turns, (List.append_assoc ..).symm, through, ?_⟩
  cases errors with
  | nil =>
    cases hclosing
    exact ⟨fun _ => rfl, fun h => (h (noErrors.1 rfl)).elim⟩
  | cons first others =>
    cases hclosing
    refine ⟨fun h => ?_, fun _ => ⟨_, _, rfl⟩⟩
    cases noErrors.2 h

theorem rollbackFailed_ne (original first : DispatchError) (failures : Nat) :
    DispatchError.rollbackFailed original failures first ≠ original := by
  intro h
  have size := congrArg sizeOf h
  simp only [DispatchError.rollbackFailed.sizeOf_spec] at size
  omega

/-- When a request has failed and has something to take back, its caller gets the error of the
request just when the rollback turns to every entry, newest first, and each is taken back or
skipped; otherwise an error that says so. The event of each turn tells success just when its entry
is taken back or skipped. So the first error means that everything was taken back, unless the
rollback got through and something was skipped on the way. -/
theorem settle_error_iff (dispatcher : Dispatcher V) (depth : Nat) {session : Option String}
    {step : Step V} {state middle last : State V} {original : DispatchError} {log : List (Entry V)}
    {answer : Answer step.Result} {before after : List (Moment V)}
    (attempted : dispatcher.attempt (dispatcher.perform (dispatcher.callsAt depth)) session
      step state = ⟨some (caller, .error original, log), middle, before⟩)
    (settled : dispatcher.settle (dispatcher.perform (dispatcher.callsAt depth)) step
      (caller, .error original, log) middle = ⟨some answer, last, after⟩)
    (logged : log ≠ []) :
    ∃ (opening closing : List (Moment V)) (turns : List (Turn V)),
      after = opening ++ turns.flatMap (Turn.moments caller.rollback) ++ closing ∧
      dispatcher.TurnsThrough caller.rollback log.reverse turns ∧
      (answer = .error original ↔ turns.map Turn.entry = log.reverse ∧
        ∀ turn ∈ turns, turn.TakenBack caller.rollback ∨ dispatcher.Skipped caller.rollback turn) ∧
      (answer ≠ .error original →
        ∃ failures first, answer = .error (.rollbackFailed original failures first)) ∧
      ((answer = .error original ↔ turns.map Turn.entry = log.reverse ∧
          ∀ turn ∈ turns, turn.TakenBack caller.rollback) ↔
        ¬(answer = .error original ∧ ∃ turn ∈ turns, dispatcher.Skipped caller.rollback turn)) := by
  have follow := callsAt_follow dispatcher depth
  obtain ⟨begun, -⟩ := attempt_performed follow attempted
  obtain ⟨error, rolled, within, failing, hrollback, -, rfl, rfl⟩ := settle_eq_some settled
  obtain ⟨opening, closing, turns, rfl, through, same, other⟩ :=
    rollback_turns follow begun logged hrollback
  have successes : (∀ turn ∈ turns, turn.success = true) ↔ ∀ turn ∈ turns,
      turn.TakenBack caller.rollback ∨
        dispatcher.Skipped caller.rollback turn :=
    forall₂_congr through.success
  rw [successes] at same other
  have error_iff : error = original ↔ turns.map Turn.entry = log.reverse ∧ ∀ turn ∈ turns,
      turn.TakenBack caller.rollback ∨
        dispatcher.Skipped caller.rollback turn := by
    refine ⟨fun h => Classical.byContradiction fun incomplete => ?_, same⟩
    obtain ⟨failures, first, rfl⟩ := other incomplete
    exact rollbackFailed_ne original first failures h
  have answer_iff :
      (Except.error error : Answer step.Result) = .error original ↔ error = original :=
    ⟨Except.error.inj, congrArg _⟩
  refine ⟨opening, _, turns, List.append_assoc _ _ _, through, answer_iff.trans error_iff, ?_, ?_⟩
  · intro h
    obtain ⟨failures, first, rfl⟩ := other fun complete => h (answer_iff.2 (error_iff.2 complete))
    exact ⟨failures, first, rfl⟩
  · rw [answer_iff]
    constructor
    · rintro honest ⟨h, turn, hturn, skipped⟩
      exact skipped.not_takenBack ((honest.1 h).2 turn hturn)
    · intro unskipped
      refine ⟨fun h => ⟨(error_iff.1 h).1, fun turn hturn => ?_⟩, fun h => ?_⟩
      · rcases (error_iff.1 h).2 turn hturn with takenBack | skipped
        · exact takenBack
        · exact (unskipped ⟨h, turn, hturn, skipped⟩).elim
      · exact error_iff.2 ⟨h.1, fun turn hturn => .inl (h.2 turn hturn)⟩

open Widgets

/-- Where a validator accepts only once: the replacement fails, and what was created is not undone.
No handler is called in the rollback, but the caller gets the error of the replacement, and the
event of the step tells success. -/
theorem exhausting_replace :
    ∃ middle before last after,
      counted.attempt (counted.perform (counted.callsAt 1)) "user"
        (execution .replace 1) exhausting =
          ⟨some (.fresh exhausting "user", .error .insufficientRights, [executed .create 2]),
            middle, before⟩ ∧
      counted.settle (counted.perform (counted.callsAt 1)) (execution .replace 1)
        (.fresh exhausting "user", .error .insufficientRights, [executed .create 2]) middle =
          ⟨some (.error .insufficientRights), last, after⟩ ∧
      after.all (!·.isCall) = true ∧
      .emitted (.rollbackStepCompleted ⟨0⟩ "CreateWidgets" false true) ∈ after :=
  ⟨_, _, _, _, rfl, rfl, rfl, List.mem_of_getElem? (i := 8) rfl⟩

/-- The rollback of that replacement skips a step. -/
theorem exhausting_replace_skips :
    ([executed .create 2] : List (Entry (vocabulary Nat))) ≠ [] ∧
      ∃ turn, counted.Skipped (Caller.fresh exhausting "user").rollback turn := by
  have logged : ([executed .create 2] : List (Entry (vocabulary Nat))) ≠ [] := List.cons_ne_nil _ _
  obtain ⟨middle, before, last, after, attempted, settled, uncalled, -⟩ := exhausting_replace
  obtain ⟨opening, closing, turns, rfl, -, error_iff, -, -⟩ :=
    settle_error_iff counted 1 attempted settled logged
  obtain ⟨order, success⟩ := error_iff.1 rfl
  cases turns with
  | nil => cases order
  | cons turn turns =>
    refine ⟨logged, turn, (success turn List.mem_cons_self).resolve_left ?_⟩
    rintro ⟨step, -, way, handler, body, output, log, rest, inside, -, -⟩
    simp [Turn.moments, inside, Moment.isCall] at uncalled

end Dispatcher

end ActionDispatch
