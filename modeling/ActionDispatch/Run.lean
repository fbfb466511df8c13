import ActionDispatch.Channel
import ActionDispatch.Program

/-!
# Runs

A run goes from state to state and leaves moments. It may also be cut short, when the depth of nested
handler calls exceeds what it was given; it then has no value, and keeps the moments up to there. A run that
is not cut short gives the same outcome with any greater depth.
-/

namespace ActionDispatch

/-- Everything that outlives a call to the dispatcher. -/
structure State (V : Vocabulary) where
  handlers : HandlerTable V
  validators : ValidatorRegistry V
  store : ValidatorStore V
  channels : List Channel
  requests : Nat
  world : V.World

/-- How a run ends: with a value, unless it was cut short, in a state, and with its moments in order. -/
structure Outcome (V : Vocabulary) (α : Type) where
  value : Option α
  state : State V
  moments : List (Moment V)

/-- A run from any state. -/
def Run (V : Vocabulary) (α : Type) := State V → Outcome V α

variable {V : Vocabulary} {α β : Type}

namespace Outcome

def after (moments : List (Moment V)) (out : Outcome V α) : Outcome V α :=
  { out with moments := moments ++ out.moments }

/-- Goes on where a run ended, unless it was cut short; the moments follow each other. -/
def andThen (out : Outcome V α) (f : α → Run V β) : Outcome V β :=
  match out.value with
  | none => ⟨none, out.state, out.moments⟩
  | some a => (f a out.state).after out.moments

@[simp] theorem after_value (moments : List (Moment V)) (out : Outcome V α) :
    (out.after moments).value = out.value := rfl

@[simp] theorem after_state (moments : List (Moment V)) (out : Outcome V α) :
    (out.after moments).state = out.state := rfl

@[simp] theorem after_moments (moments : List (Moment V)) (out : Outcome V α) :
    (out.after moments).moments = moments ++ out.moments := rfl

@[simp] theorem andThen_some (a : α) (state : State V) (moments : List (Moment V)) (f : α → Run V β) :
    (⟨some a, state, moments⟩ : Outcome V α).andThen f = (f a state).after moments := rfl

@[simp] theorem after_nil (out : Outcome V α) : out.after [] = out := rfl

@[simp] theorem after_after (before moments : List (Moment V)) (out : Outcome V α) :
    (out.after moments).after before = out.after (before ++ moments) := by
  simp [after]

theorem after_andThen (moments : List (Moment V)) (out : Outcome V α) (f : α → Run V β) :
    (out.after moments).andThen f = (out.andThen f).after moments := by
  obtain ⟨_ | a, state, own⟩ := out
  · rfl
  · simp [after]

theorem after_eq_some_iff {before moments : List (Moment V)} {out : Outcome V α} {a : α}
    {state : State V} :
    out.after before = ⟨some a, state, moments⟩ ↔
      ∃ own, out = ⟨some a, state, own⟩ ∧ moments = before ++ own := by
  obtain ⟨value, last, own⟩ := out
  simp only [after, mk.injEq]
  constructor
  · rintro ⟨rfl, rfl, rfl⟩
    exact ⟨own, ⟨rfl, rfl, rfl⟩, rfl⟩
  · rintro ⟨own', ⟨rfl, rfl, rfl⟩, rfl⟩
    exact ⟨rfl, rfl, rfl⟩

theorem andThen_eq_some_iff {out : Outcome V α} {f : α → Run V β} {b : β} {state : State V}
    {moments : List (Moment V)} :
    out.andThen f = ⟨some b, state, moments⟩ ↔
      ∃ a middle before after, out = ⟨some a, middle, before⟩ ∧ f a middle = ⟨some b, state, after⟩ ∧
        moments = before ++ after := by
  obtain ⟨value, middle, before⟩ := out
  cases value with
  | none => simp [andThen]
  | some a =>
    rw [andThen_some, after_eq_some_iff]
    constructor
    · rintro ⟨after, h, rfl⟩
      exact ⟨a, middle, before, after, rfl, h, rfl⟩
    · rintro ⟨a', middle', before', after, ⟨⟩, h, rfl⟩
      exact ⟨after, h, rfl⟩

theorem moments_prefix_andThen (out : Outcome V α) (f : α → Run V β) :
    out.moments <+: (out.andThen f).moments := by
  unfold andThen
  split
  · exact List.prefix_rfl
  · exact List.prefix_append _ _

end Outcome

namespace Run

instance : Monad (Run V) where
  pure a state := ⟨some a, state, []⟩
  bind run f state := (run state).andThen f

theorem pure_apply (a : α) (state : State V) : (pure a : Run V α) state = ⟨some a, state, []⟩ := rfl

theorem bind_apply (run : Run V α) (f : α → Run V β) (state : State V) :
    (run >>= f) state = (run state).andThen f := rfl

/-- A finished run of two parts is a finished run of the first, then one of the second. -/
theorem bind_eq_some_iff {run : Run V α} {f : α → Run V β} {state last : State V} {b : β}
    {moments : List (Moment V)} :
    (run >>= f) state = ⟨some b, last, moments⟩ ↔
      ∃ a middle before after, run state = ⟨some a, middle, before⟩ ∧
        f a middle = ⟨some b, last, after⟩ ∧ moments = before ++ after :=
  Outcome.andThen_eq_some_iff

instance : LawfulMonad (Run V) :=
  LawfulMonad.mk' (Run V)
    (by
      intro α run
      funext state
      change (run state).andThen (fun a state => ⟨some a, state, []⟩) = run state
      obtain ⟨value, state, moments⟩ := run state
      cases value <;> simp [Outcome.andThen, Outcome.after])
    (by
      intro α β a f
      funext state
      change Outcome.andThen ⟨some a, state, []⟩ f = f a state
      simp [Outcome.andThen])
    (by
      intro α β γ run f g
      funext state
      change ((run state).andThen f).andThen g = (run state).andThen fun a state => (f a state).andThen g
      obtain ⟨value, state, moments⟩ := run state
      cases value with
      | none => rfl
      | some a =>
        simp only [Outcome.andThen]
        obtain ⟨value, state, moments⟩ := f a state
        cases value <;> simp [Outcome.after])

def cut : Run V α := fun state => ⟨none, state, []⟩

/-- The state, unchanged. -/
def state : Run V (State V) := fun state => ⟨some state, state, []⟩

def change (f : State V → State V) : Run V Unit := fun state => ⟨some (), f state, []⟩

def leave (moments : List (Moment V)) : Run V Unit := fun state => ⟨some (), state, moments⟩

def log (record : LogRecord) : Run V Unit := leave [.logged record]

@[simp] theorem state_bind_apply (f : State V → Run V β) (state : State V) :
    (Run.state >>= f) state = f state state := rfl

@[simp] theorem change_bind_apply (g : State V → State V) (f : Unit → Run V β) (state : State V) :
    (change g >>= f) state = f () (g state) := rfl

@[simp] theorem leave_bind_apply (moments : List (Moment V)) (f : Unit → Run V β) (state : State V) :
    (leave moments >>= f) state = (f () state).after moments := rfl

@[simp] theorem log_bind_apply (record : LogRecord) (f : Unit → Run V β) (state : State V) :
    (log record >>= f) state = (f () state).after [.logged record] := rfl

end Run

end ActionDispatch
