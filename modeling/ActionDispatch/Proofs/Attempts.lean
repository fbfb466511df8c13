import ActionDispatch.Proofs.Comparison
import ActionDispatch.Proofs.Life
import ActionDispatch.Proofs.Widgets

/-!
# How far a rollback gets

A rollback attempts to take back one entry after another, newest first, each where the attempt
before it left the run and the one context that they share (`Attempts`). How far it gets depends on
nothing but the answers of these attempts and on its policy, and so does the error that it gives
(`Settled`). `rollback_attempts` says so for every log, whatever the compensations do; it covers
rollbacks that are cut short as well.
-/

namespace ActionDispatch

variable {V : Vocabulary}

/-- An attempt to take an entry back: the step that does so with its answer, what happened until it was
over, and what was left when that was reported. -/
structure Attempt (V : Vocabulary) where
  entry : Entry V
  step : Step V
  takesBack : entry.TakenBackBy step
  answer : Answer step.Result
  inside : List (Moment V)
  told : List (Moment V)

namespace Attempt

def moments (caller : Caller) (attempt : Attempt V) : List (Moment V) :=
  .compensating caller attempt.entry :: (attempt.inside ++ attempt.told)

/-- The error of an attempt that fails. -/
def error? (attempt : Attempt V) : Option DispatchError :=
  match attempt.answer with
  | .ok _ => none
  | .error error => some error

end Attempt

namespace Dispatcher

/-- Attempts that follow each other from one standing to another. Each performs the step that takes
its entry back, in the context of the caller with the log that the attempts before it left there. -/
inductive Attempts (dispatcher : Dispatcher V) (perform : Performing V) (caller : Caller) :
    Standing V → List (Attempt V) → Standing V → Prop
  | nil {start} : Attempts dispatcher perform caller start [] start
  | cons {start attempt later middle last attempts stop}
      (made : perform caller attempt.step start.log start.state =
        ⟨some (attempt.answer, later), middle, attempt.inside⟩)
      (reported : dispatcher.report caller attempt.entry attempt.answer middle =
        ⟨some (), last, attempt.told⟩)
      (others : Attempts dispatcher perform caller ⟨last, later⟩ attempts stop) :
      Attempts dispatcher perform caller start (attempt :: attempts) stop

/-- How far attempts get with these entries: to all of them, in order, but not beyond a failure if
that is the policy. -/
structure Reaches (dispatcher : Dispatcher V) (entries : List (Entry V))
    (attempts : List (Attempt V)) : Prop where
  order : attempts.map Attempt.entry <+: entries
  stops : dispatcher.settings.rollback = .stopOnFailure →
    ∀ attempt ∈ attempts.dropLast, attempt.error? = none
  complete : dispatcher.settings.rollback = .bestEffort ∨
    (∀ attempt ∈ attempts, attempt.error? = none) → attempts.map Attempt.entry = entries

/-- The attempts so far got to an entry of these, and the step that takes it back is cut short. -/
structure Halts (dispatcher : Dispatcher V) (perform : Performing V) (caller : Caller)
    (entries : List (Entry V)) (attempts : List (Attempt V)) (stop : Standing V) : Prop where
  order : ∃ entry step older, attempts.map Attempt.entry ++ entry :: older = entries ∧
    entry.TakenBackBy step ∧ (perform caller step stop.log stop.state).value = none
  stops : dispatcher.settings.rollback = .stopOnFailure →
    ∀ attempt ∈ attempts, attempt.error? = none

/-- What comes of a rollback of a log that is not cut short: the attempts reach back to one place in
the log, and the error follows from those that failed. -/
structure Settled (dispatcher : Dispatcher V) (log : List (Entry V)) (original : DispatchError)
    (attempts : List (Attempt V)) (error : DispatchError) : Prop where
  /-- Every entry from some place on is attempted once, the newest first. That is all of them if no
  attempt fails, or if the policy is to go on. -/
  order : ∃ place < log.length, attempts.map Attempt.entry = (log.drop place).reverse ∧
    (dispatcher.settings.rollback = .bestEffort ∨
      (∀ attempt ∈ attempts, attempt.error? = none) → place = 0)
  /-- If the policy is to stop, only the last attempt can fail. -/
  stops : dispatcher.settings.rollback = .stopOnFailure →
    ∀ attempt ∈ attempts.dropLast, attempt.error? = none
  restored : (∀ attempt ∈ attempts, attempt.error? = none) → error = original
  /-- The first failure is the reason, and all of them are counted. -/
  failed : ∀ first others, attempts.filterMap Attempt.error? = first :: others →
    error = .rollbackFailed original (others.length + 1) first
  single : dispatcher.settings.rollback = .stopOnFailure →
    (attempts.filterMap Attempt.error?).length ≤ 1

variable {dispatcher : Dispatcher V} {perform : Performing V} {caller : Caller}

/-! ### Attempts -/

theorem report_aside (dispatcher : Dispatcher V) (caller : Caller) (entry : Entry V) {α : Type}
    (answer : Answer α) : (dispatcher.report caller entry answer).Aside := by
  cases answer with
  | ok output => exact .bind (.log _) fun _ => dispatcher.emit_aside _
  | error error => exact .bind (.log _) fun _ => dispatcher.emit_aside _

theorem Attempt.filterMap_error?_eq_nil {attempts : List (Attempt V)} :
    attempts.filterMap Attempt.error? = [] ↔ ∀ attempt ∈ attempts, attempt.error? = none :=
  List.filterMap_eq_nil_iff

theorem Attempt.errors_cons (attempt : Attempt V) (attempts : List (Attempt V)) :
    (attempt :: attempts).filterMap Attempt.error? =
      attempt.error?.toList ++ attempts.filterMap Attempt.error? := by
  rw [List.filterMap_cons]
  cases attempt.error? <;> rfl

namespace Reaches

variable {attempt : Attempt V} {attempts : List (Attempt V)} {older : List (Entry V)}

theorem nil : dispatcher.Reaches ([] : List (Entry V)) [] :=
  ⟨List.prefix_rfl, fun _ _ h => (nomatch h), fun _ => rfl⟩

/-- Attempts stop at a failure. -/
theorem stop (policy : dispatcher.settings.rollback = .stopOnFailure) {error : DispatchError}
    (failed : attempt.error? = some error) :
    dispatcher.Reaches (attempt.entry :: older) [attempt] := by
  refine ⟨List.cons_prefix_cons.2 ⟨rfl, List.nil_prefix⟩, fun _ _ h => (nomatch h), ?_⟩
  rintro (goesOn | succeeded)
  · cases policy.symm.trans goesOn
  · cases failed.symm.trans (succeeded attempt List.mem_cons_self)

theorem cons (goesOn : attempt.error? = none ∨ dispatcher.settings.rollback = .bestEffort)
    (h : dispatcher.Reaches older attempts) :
    dispatcher.Reaches (attempt.entry :: older) (attempt :: attempts) := by
  refine ⟨List.cons_prefix_cons.2 ⟨rfl, h.order⟩, fun policy => ?_, fun all => ?_⟩
  · have succeeded : attempt.error? = none :=
      goesOn.resolve_right fun bestEffort => by cases policy.symm.trans bestEffort
    intro other hother
    cases attempts with
    | nil => cases hother
    | cons next attempts =>
      rcases List.mem_cons.1 hother with rfl | hother
      · exact succeeded
      · exact h.stops policy other hother
  · refine congrArg (attempt.entry :: ·) (h.complete (all.imp_right fun succeeded other hother => ?_))
    exact succeeded other (List.mem_cons_of_mem _ hother)

/-- All attempts but the last one succeed if the policy is to stop, so there is one error at most. -/
theorem single (h : dispatcher.Reaches older attempts)
    (policy : dispatcher.settings.rollback = .stopOnFailure) :
    (attempts.filterMap Attempt.error?).length ≤ 1 := by
  rcases List.eq_nil_or_concat attempts with rfl | ⟨init, last, rfl⟩
  · exact Nat.zero_le _
  · have succeeded : init.filterMap Attempt.error? = [] :=
      Attempt.filterMap_error?_eq_nil.2 fun attempt hattempt =>
        h.stops policy attempt (by simpa using hattempt)
    rw [List.concat_eq_append, List.filterMap_append, succeeded, List.nil_append]
    exact List.length_filterMap_le _ _

end Reaches

theorem Halts.cons {attempt : Attempt V} {attempts : List (Attempt V)} {older : List (Entry V)}
    {stop : Standing V}
    (goesOn : attempt.error? = none ∨ dispatcher.settings.rollback = .bestEffort)
    (h : dispatcher.Halts perform caller older attempts stop) :
    dispatcher.Halts perform caller (attempt.entry :: older) (attempt :: attempts) stop := by
  obtain ⟨⟨entry, step, rest, split, cutShort⟩, stops⟩ := h
  refine ⟨⟨entry, step, rest, congrArg (attempt.entry :: ·) split, cutShort⟩,
    fun policy other hother => ?_⟩
  rcases List.mem_cons.1 hother with rfl | hother
  · exact goesOn.resolve_right fun bestEffort => by cases policy.symm.trans bestEffort
  · exact stops policy other hother

/-- Unless attempts stop at a failure, a rollback goes on with the older entries, and an error of the
attempt comes before theirs. -/
theorem goOn_eq {attempt : Attempt V} {older log : List (Entry V)}
    (goesOn : attempt.error? = none ∨ dispatcher.settings.rollback = .bestEffort) :
    dispatcher.goOn perform caller older (attempt.answer, log) = (do
      let errors ← dispatcher.unwind perform caller older log
      pure (attempt.error?.toList ++ errors)) := by
  obtain ⟨entry, step, takesBack, _ | output, inside, told⟩ := attempt
  · have policy := goesOn.resolve_left (Option.some_ne_none _)
    simp [goOn, policy, Attempt.error?]
  · simp [goOn, Attempt.error?]

theorem goOn_eq_of_stop {attempt : Attempt V} {older log : List (Entry V)} {error : DispatchError}
    (failed : attempt.error? = some error) (policy : dispatcher.settings.rollback = .stopOnFailure) :
    dispatcher.goOn perform caller older (attempt.answer, log) = pure [error] := by
  obtain ⟨entry, step, takesBack, _ | output, inside, told⟩ := attempt
  · cases failed
    simp [goOn, policy]
  · cases failed

/-- Taking entries back makes attempts, by induction on the entries: they get as far as the policy
lets them, unless one of them is cut short. -/
theorem unwind_attempts (dispatcher : Dispatcher V) (perform : Performing V) (caller : Caller)
    (entries log : List (Entry V)) (state : State V) :
    ∃ attempts stop, dispatcher.Attempts perform caller ⟨state, log⟩ attempts stop ∧
      ((dispatcher.Reaches entries attempts ∧
        dispatcher.unwind perform caller entries log state =
          ⟨some (attempts.filterMap Attempt.error?), stop.state,
            attempts.flatMap (Attempt.moments caller)⟩) ∨
      (dispatcher.Halts perform caller entries attempts stop ∧
        (dispatcher.unwind perform caller entries log state).value = none)) := by
  induction entries generalizing log state with
  | nil => exact ⟨[], _, .nil, .inl ⟨.nil, rfl⟩⟩
  | cons entry older ih =>
    cases hperform : perform caller entry.compensation log state with | mk value middle inside
    rcases value with _ | ⟨answer, later⟩
    · have halts : dispatcher.Halts perform caller (entry :: older) [] ⟨state, log⟩ :=
        ⟨⟨entry, _, older, rfl, entry.takenBackBy_compensation, by rw [hperform]⟩,
          fun _ _ h => (nomatch h)⟩
      refine ⟨[], _, .nil, .inr ⟨halts, ?_⟩⟩
      rw [unwind_cons, Run.leave_bind_apply, Run.bind_apply, hperform]
      rfl
    obtain ⟨_, last, told, hreport, -, -⟩ :=
      (dispatcher.report_aside caller entry answer).apply middle
    let attempt : Attempt V :=
      ⟨entry, entry.compensation, entry.takenBackBy_compensation, answer, inside, told⟩
    have parts : dispatcher.unwind perform caller (entry :: older) log state =
        (dispatcher.goOn perform caller older (attempt.answer, later) last).after
          (attempt.moments caller) := by
      rw [unwind_cons, Run.leave_bind_apply, Run.bind_apply, hperform, Outcome.andThen_some,
        Run.bind_apply, hreport, Outcome.andThen_some, Outcome.after_after, Outcome.after_after]
      rfl
    rw [parts]
    by_cases goesOn : attempt.error? = none ∨ dispatcher.settings.rollback = .bestEffort
    · obtain ⟨attempts, stop, chain, outcome⟩ := ih later last
      refine ⟨attempt :: attempts, stop, .cons hperform hreport chain, ?_⟩
      rw [goOn_eq goesOn, Run.bind_apply]
      rcases outcome with ⟨reaches, hunwind⟩ | ⟨halts, hunwind⟩
      · refine .inl ⟨.cons goesOn reaches, ?_⟩
        rw [hunwind, Outcome.andThen_some, Attempt.errors_cons, List.flatMap_cons]
        simp [Outcome.after, Run.pure_apply]
      · refine .inr ⟨halts.cons goesOn, ?_⟩
        simp [Outcome.andThen, hunwind]
    · obtain ⟨error, failed⟩ := Option.ne_none_iff_exists'.1 fun h => goesOn (.inl h)
      have policy : dispatcher.settings.rollback = .stopOnFailure := by
        cases policy : dispatcher.settings.rollback with
        | stopOnFailure => rfl
        | bestEffort => exact absurd (.inr policy) goesOn
      refine ⟨[attempt], _, .cons hperform hreport .nil, .inl ⟨.stop policy failed, ?_⟩⟩
      rw [goOn_eq_of_stop failed policy, Attempt.errors_cons, failed, List.flatMap_cons]
      rfl

/-! ### Rollbacks -/

/-- What a rollback says before it begins. -/
def announce (dispatcher : Dispatcher V) (caller : Caller) (log : List (Entry V))
    (original : DispatchError) : Run V Unit := do
  Run.log (.rollingBack caller.request log.length original.message)
  dispatcher.emit (.rollbackStarted caller.request log.length)

theorem rollback_eq {log : List (Entry V)} (logged : log ≠ []) (original : DispatchError) :
    dispatcher.rollback perform caller log original = (do
      dispatcher.announce caller log original
      let errors ← dispatcher.unwind perform caller.rollback log.reverse []
      rollbackError caller original errors) := by
  unfold rollback announce
  rw [if_neg (by simpa using logged), bind_assoc]
  rfl

/-- The state in which a rollback turns to its first entry. A log without entries is not announced. -/
def unwindsFrom (dispatcher : Dispatcher V) (caller : Caller) (log : List (Entry V))
    (original : DispatchError) (state : State V) : State V :=
  if log.isEmpty then state else (dispatcher.announce caller log original state).state

/-- What follows the rollback of a request: the caller gets this error. -/
def deny (dispatcher : Dispatcher V) (caller : Caller) (step : Step V) (error : DispatchError) :
    Run V (Answer step.Result) := do
  dispatcher.emit (.failed caller.request error.message)
  Run.leave [.closed caller step (.error error)]
  pure (.error error)

theorem settle_eq (step : Step V) (original : DispatchError) (log : List (Entry V)) :
    dispatcher.settle perform step (caller, .error original, log) =
      dispatcher.rollback perform caller log original >>= dispatcher.deny caller step := by
  unfold settle conclude deny
  simp only [bind_assoc, pure_bind]

/-- Denying a request calls nothing. -/
theorem deny_apply (dispatcher : Dispatcher V) (caller : Caller) (step : Step V) (error : DispatchError)
    (state : State V) :
    ∃ last moments, dispatcher.deny caller step error state = ⟨some (.error error), last, moments⟩ ∧
      ∀ m ∈ moments, m.isCall = false := by
  obtain ⟨_, last, failing, hemit, aside, -⟩ :=
    (dispatcher.emit_aside (.failed caller.request error.message)).apply state
  refine ⟨last, failing ++ [.closed caller step (.error error)], ?_, fun m hm => ?_⟩
  · unfold deny
    rw [Run.bind_apply, hemit, Outcome.andThen_some, Run.leave_bind_apply]
    simp [Run.pure_apply, Outcome.after]
  · rcases List.mem_append.1 hm with hm | hm
    · exact (aside m hm).isCall_eq_false
    · exact List.mem_singleton.1 hm ▸ rfl

/-- How a request ends that failed: its log is taken back in attempts, and the error for its caller follows
from those that fail. Apart from the attempts, nothing is called. -/
theorem settle_attempts (dispatcher : Dispatcher V) (perform : Performing V) (caller : Caller)
    (step : Step V) (original : DispatchError) (log : List (Entry V)) (state : State V) :
    ∃ attempts stop,
      dispatcher.Attempts perform caller.rollback
        ⟨dispatcher.unwindsFrom caller log original state, []⟩ attempts stop ∧
      ((dispatcher.Reaches log.reverse attempts ∧ ∃ error opening closing,
        error = original.afterRollback (attempts.filterMap Attempt.error?) ∧
        dispatcher.settle perform step (caller, .error original, log) state =
          ⟨some (.error error), (dispatcher.deny caller step error stop.state).state,
            opening ++ (attempts.flatMap (Attempt.moments caller.rollback) ++ closing)⟩ ∧
        ∀ m ∈ opening ++ closing, m.isCall = false) ∨
      (dispatcher.Halts perform caller.rollback log.reverse attempts stop ∧
        (dispatcher.settle perform step (caller, .error original, log) state).value = none)) := by
  by_cases logged : log = []
  · subst logged
    obtain ⟨last, closing, hdeny, silent⟩ := dispatcher.deny_apply caller step original state
    refine ⟨[], _, .nil, .inl ⟨.nil, original, [], closing, rfl, ?_, silent⟩⟩
    rw [settle_eq, Run.bind_apply]
    change dispatcher.deny caller step original state =
      ⟨_, (dispatcher.deny caller step original state).state, _⟩
    rw [hdeny]
    rfl
  have announced : (dispatcher.announce caller log original).Aside :=
    .bind (.log _) fun _ => dispatcher.emit_aside _
  obtain ⟨_, ready, opening, hannounce, aside, -⟩ := announced.apply state
  obtain ⟨attempts, stop, chain, outcome⟩ := dispatcher.unwind_attempts perform caller.rollback
    log.reverse [] ready
  have begins : dispatcher.unwindsFrom caller log original state = ready := by
    rw [unwindsFrom, if_neg (by simpa using logged), hannounce]
  refine ⟨attempts, stop, begins ▸ chain, ?_⟩
  rw [settle_eq, rollback_eq logged, bind_assoc, Run.bind_apply, hannounce, Outcome.andThen_some,
    bind_assoc, Run.bind_apply]
  rcases outcome with ⟨reaches, hunwind⟩ | ⟨halts, hunwind⟩
  · obtain ⟨_, last, told, herror, aside', -⟩ :=
      (rollbackError_aside caller original (attempts.filterMap Attempt.error?)).apply stop.state
    obtain ⟨told', herror', -⟩ :=
      rollbackError_apply caller original (attempts.filterMap Attempt.error?) stop.state
    cases herror.symm.trans herror'
    obtain ⟨last, closing, hdeny, silent⟩ := dispatcher.deny_apply caller step
      (original.afterRollback (attempts.filterMap Attempt.error?)) stop.state
    refine .inl ⟨reaches, _, opening, told ++ closing, rfl, ?_, fun m hm => ?_⟩
    · rw [hunwind, Outcome.andThen_some, Run.bind_apply, herror, Outcome.andThen_some, hdeny]
      simp [Outcome.after]
    · simp only [List.mem_append] at hm
      rcases hm with hm | hm | hm
      · exact (aside m hm).isCall_eq_false
      · exact (aside' m hm).isCall_eq_false
      · exact silent m hm
  · refine .inr ⟨halts, ?_⟩
    simp [Outcome.andThen, hunwind]

/-- Attempts that get through a log backwards reach back to one place in it. -/
theorem Reaches.settled {log : List (Entry V)} {attempts : List (Attempt V)} (logged : log ≠ [])
    (h : dispatcher.Reaches log.reverse attempts) (original : DispatchError) :
    dispatcher.Settled log original attempts
      (original.afterRollback (attempts.filterMap Attempt.error?)) := by
  have attempted : attempts ≠ [] := by
    rintro rfl
    have := h.complete (.inr fun _ ha => (nomatch ha))
    exact logged (List.reverse_eq_nil_iff.1 this.symm)
  have count : attempts.length ≤ log.length := by simpa using h.order.length_le
  refine ⟨⟨log.length - attempts.length, ?_, ?_, fun all => ?_⟩, h.stops, fun succeeded => ?_, ?_,
    h.single⟩
  · have := List.length_pos_iff.2 attempted
    omega
  · calc attempts.map Attempt.entry
      _ = log.reverse.take (attempts.map Attempt.entry).length := List.prefix_iff_eq_take.1 h.order
      _ = (log.drop (log.length - attempts.length)).reverse := by
        rw [List.take_reverse, List.length_map]
  · have whole := congrArg List.length (h.complete all)
    rw [List.length_map, List.length_reverse] at whole
    rw [whole, Nat.sub_self]
  · rw [Attempt.filterMap_error?_eq_nil.2 succeeded]
    rfl
  · intro first others failures
    rw [failures]
    rfl

/-- A rollback attempts to take the entries of its log back, newest first and each once, all in one
context of its own that starts empty. How far it gets and what error it gives follows from the
answers of these attempts and from its policy, and it gives one unless an attempt is cut short. -/
theorem rollback_attempts (dispatcher : Dispatcher V) (depth : Nat) (caller : Caller)
    {log : List (Entry V)} (logged : log ≠ []) (original : DispatchError) (state : State V) :
    ∃ ready opening attempts stop,
      dispatcher.announce caller log original state = ⟨some (), ready, opening⟩ ∧
      dispatcher.Attempts (dispatcher.perform (dispatcher.callsAt depth)) caller.rollback ⟨ready, []⟩
        attempts stop ∧
      ((∃ error closing, dispatcher.Settled log original attempts error ∧
        dispatcher.rollback (dispatcher.perform (dispatcher.callsAt depth)) caller log original state =
          ⟨some error, stop.state,
            opening ++ (attempts.flatMap (Attempt.moments caller.rollback) ++ closing)⟩ ∧
        ∀ m ∈ closing, m.Silent) ∨
      (dispatcher.Halts (dispatcher.perform (dispatcher.callsAt depth)) caller.rollback log.reverse
          attempts stop ∧
        (dispatcher.rollback (dispatcher.perform (dispatcher.callsAt depth)) caller log original
          state).value = none)) := by
  have announced : (dispatcher.announce caller log original).Aside :=
    .bind (.log _) fun _ => dispatcher.emit_aside _
  obtain ⟨_, ready, opening, hannounce, -, -⟩ := announced.apply state
  obtain ⟨attempts, stop, chain, outcome⟩ := dispatcher.unwind_attempts
    (dispatcher.perform (dispatcher.callsAt depth)) caller.rollback log.reverse [] ready
  refine ⟨ready, opening, attempts, stop, hannounce, chain, ?_⟩
  rw [rollback_eq logged, Run.bind_apply, hannounce, Outcome.andThen_some, Run.bind_apply]
  rcases outcome with ⟨reaches, hunwind⟩ | ⟨halts, hunwind⟩
  · obtain ⟨closing, herror, silent⟩ := rollbackError_apply caller original
      (attempts.filterMap Attempt.error?) stop.state
    refine .inl ⟨_, closing, reaches.settled logged original, ?_, silent⟩
    rw [hunwind, Outcome.andThen_some, herror]
    rfl
  · refine .inr ⟨halts, ?_⟩
    simp [Outcome.andThen, hunwind]

open Widgets

/-- Widgets were created, others deleted, and the creation of one was undone. -/
def mixed : List (Entry (vocabulary Nat)) := [executed .create 2, executed .delete 1, undone .create 1]

/-- That one is created again, but deleting widgets is refused by now, so a rollback that stops at its first
failure fails with the refusal, and does not come to the first creation. -/
theorem strict_rollback_stops :
    mixed ≠ [] ∧
      turnedTo ⟨0⟩ (strict.rollback (strict.perform (strict.callsAt 1)) (.fresh exhausting "user") mixed
        (.action "No room") exhausting).moments = [undone .create 1, executed .delete 1] ∧
      performed (Caller.fresh exhausting "user").rollback
        (strict.rollback (strict.perform (strict.callsAt 1)) (.fresh exhausting "user") mixed
          (.action "No room") exhausting).moments = [executed .create 1] ∧
      ∃ attempts, strict.Settled mixed (.action "No room") attempts
        (.rollbackFailed (.action "No room") 1 .insufficientRights) := by
  have logged : mixed ≠ [] := List.cons_ne_nil _ _
  have fails : (strict.rollback (strict.perform (strict.callsAt 1)) (.fresh exhausting "user") mixed
      (.action "No room") exhausting).value =
        some (.rollbackFailed (.action "No room") 1 .insufficientRights) := rfl
  refine ⟨logged, rfl, rfl, ?_⟩
  obtain ⟨ready, opening, attempts, stop, -, -, outcome⟩ :=
    strict.rollback_attempts 1 (.fresh exhausting "user") logged (.action "No room") exhausting
  rcases outcome with ⟨error, closing, settled, hrollback, -⟩ | ⟨-, hrollback⟩
  · rw [hrollback] at fails
    cases fails
    exact ⟨attempts, settled⟩
  · cases hrollback.symm.trans fails

end Dispatcher

end ActionDispatch
