import ActionDispatch.Proofs.Comparison

/-!
# Where settings decide

Two settings change what a request does: whether a rollback goes on after a turn that failed, and
whether a refused undo is an error. Each is looked up right after the event that tells of the
failure or the refusal. So two runs that differ in one of these settings only are the same up to and
including the first such event, in whatever request it is, and the same to the end if there is none
(`run_parts`).
-/

namespace ActionDispatch

variable {V : Vocabulary} {α β : Type}

/-- The two are the same and this never happens, or they part when it first happens. -/
inductive Outcome.AgreeUntil (happens : Moment V → Bool) : Outcome V α → Outcome V α → Prop
  | same {out} (never : ∀ m ∈ out.moments, happens m = false) : AgreeUntil happens out out
  | parted {out other before m rest rest'} (never : ∀ m ∈ before, happens m = false)
      (now : happens m = true) (ours : out.moments = before ++ m :: rest)
      (theirs : other.moments = before ++ m :: rest') : AgreeUntil happens out other

namespace Outcome.AgreeUntil

variable {happens : Moment V → Bool}

theorem refl (out : Outcome V α) : AgreeUntil happens out out := by
  cases first : out.moments.find? happens with
  | none =>
    refine .same fun m hm => ?_
    simpa using List.find?_eq_none.1 first m hm
  | some m =>
    obtain ⟨now, before, rest, split, never⟩ := List.find?_eq_some_iff_append.1 first
    exact .parted (fun m hm => by simpa using never m hm) now split split

theorem after {moments : List (Moment V)} (never : ∀ m ∈ moments, happens m = false)
    {out other : Outcome V α} (h : AgreeUntil happens out other) :
    AgreeUntil happens (out.after moments) (other.after moments) := by
  have none_before {before : List (Moment V)} (h : ∀ m ∈ before, happens m = false) :
      ∀ m ∈ moments ++ before, happens m = false := by
    intro m hm
    rcases List.mem_append.1 hm with hm | hm
    · exact never m hm
    · exact h m hm
  cases h with
  | same later => exact .same (none_before later)
  | @parted _ before m rest rest' later now ours theirs =>
    have split {out : Outcome V α} {rest : List (Moment V)} (h : out.moments = before ++ m :: rest) :
        (out.after moments).moments = (moments ++ before) ++ m :: rest := by
      rw [after_moments, h, List.append_assoc]
    exact .parted (none_before later) now (split ours) (split theirs)

/-- Once two runs have parted, it does not matter how they go on. -/
theorem andThen {out other : Outcome V α} {f g : α → Run V β} (h : AgreeUntil happens out other)
    (hf : ∀ a state, AgreeUntil happens (f a state) (g a state)) :
    AgreeUntil happens (out.andThen f) (other.andThen g) := by
  cases h with
  | same never =>
    obtain ⟨_ | a, state, moments⟩ := out
    · exact .same never
    · exact (hf a state).after never
  | @parted _ before m rest rest' never now ours theirs =>
    have split {out : Outcome V α} {rest : List (Moment V)} (h : out.moments = before ++ m :: rest)
        (f : α → Run V β) : ∃ more, (out.andThen f).moments = before ++ m :: (rest ++ more) := by
      obtain ⟨more, hmore⟩ := out.moments_prefix_andThen f
      exact ⟨more, by rw [← hmore, h, List.append_assoc, List.cons_append]⟩
    obtain ⟨more, ours⟩ := split ours f
    obtain ⟨more', theirs⟩ := split theirs g
    exact .parted never now ours theirs

end Outcome.AgreeUntil

/-- Runs are compared up to the first time that this happens. -/
def Comparison.until (happens : Moment V → Bool) : Comparison V where
  Alike run other := ∀ state, (run state).AgreeUntil happens (other state)
  pure _ _ := .refl _
  bind h hf state := (h state).andThen hf

/-- A turn of a rollback is over, and has failed. -/
def Moment.endsFailedTurn : Moment V → Bool
  | .emitted (.rollbackStepCompleted _ _ _ success) => !success
  | _ => false

/-- An undo is refused. -/
def Moment.refusesUndo : Moment V → Bool
  | .emitted (.rejected _ _ undo) => undo
  | _ => false

namespace Dispatcher

def withRollback (dispatcher : Dispatcher V) (rollback : RollbackPolicy) : Dispatcher V :=
  { dispatcher with settings := { dispatcher.settings with rollback } }

def withUnauthorizedUndo (dispatcher : Dispatcher V) (unauthorizedUndo : UnauthorizedUndo) :
    Dispatcher V :=
  { dispatcher with settings := { dispatcher.settings with unauthorizedUndo } }

variable {happens : Moment V → Bool}

/-- After an event that parts two runs, they may go on in any way. -/
theorem emit_parts (dispatcher : Dispatcher V) {event : Event}
    (now : happens (.emitted event) = true) (run other : Run V α) :
    (Comparison.until happens).Alike (dispatcher.emit event >>= fun _ => run)
      (dispatcher.emit event >>= fun _ => other) := by
  intro state
  unfold emit
  rw [bind_assoc, bind_assoc, Run.leave_bind_apply, Run.leave_bind_apply]
  have never : ∀ m ∈ ([] : List (Moment V)), happens m = false := fun _ hm => by cases hm
  exact .parted never now rfl rfl

/-- Other settings make no difference at any place but the two where they decide. -/
theorem alike_of_settings (dispatcher : Dispatcher V) (settings : Settings)
    (undo : settings.unauthorizedUndo = dispatcher.settings.unauthorizedUndo ∨
      ∀ request action, happens (.emitted (.rejected request action true)) = true)
    (rollback : settings.rollback = dispatcher.settings.rollback ∨
      ∀ request action redo,
        happens (.emitted (.rollbackStepCompleted request action redo false)) = true) :
    Dispatcher.Alike (.until happens) (fun _ => True) dispatcher { dispatcher with settings } :=
  .of_refl _ (fun _ _ => .refl _) dispatcher settings
    (undo.imp_right fun now _ request action => dispatcher.emit_parts (now request action))
    (rollback.imp_right fun now _ request action redo =>
      dispatcher.emit_parts (now request action redo))

/-- Whether rollbacks stop at failures makes no difference before the first turn fails, and whether
refused undos are errors makes none before the first undo is refused. -/
theorem run_parts (dispatcher : Dispatcher V) (depth : Nat) (session : Option String)
    (step : Step V) (state : State V) :
    ((dispatcher.withRollback .bestEffort).run depth session step state).AgreeUntil
        Moment.endsFailedTurn
        ((dispatcher.withRollback .stopOnFailure).run depth session step state) ∧
      ((dispatcher.withUnauthorizedUndo .ignore).run depth session step state).AgreeUntil
        Moment.refusesUndo
        ((dispatcher.withUnauthorizedUndo .reject).run depth session step state) := by
  constructor
  · have alike : Dispatcher.Alike (.until Moment.endsFailedTurn) (fun _ => True)
        (dispatcher.withRollback .bestEffort) (dispatcher.withRollback .stopOnFailure) :=
      alike_of_settings _ _ (.inl rfl) (.inr fun _ _ _ => rfl)
    exact alike.run (fun _ => .refl _) depth session step state
  · have alike : Dispatcher.Alike (.until Moment.refusesUndo) (fun _ => True)
        (dispatcher.withUnauthorizedUndo .ignore) (dispatcher.withUnauthorizedUndo .reject) :=
      alike_of_settings _ _ (.inr fun _ _ => rfl) (.inl rfl)
    exact alike.run (fun _ => .refl _) depth session step state

end Dispatcher

end ActionDispatch
