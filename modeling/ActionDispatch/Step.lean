import ActionDispatch.Error
import ActionDispatch.Vocabulary

/-!
# Steps and log entries

A step is one thing that a request asks for: execute an action, or undo an earlier execution of it. A
performed step is logged as an entry, and every entry has a step that compensates it.
-/

namespace ActionDispatch

/-- Execute an action, or undo an execution of it that had a result. -/
inductive Step (V : Vocabulary)
  | execute (kind : V.Kind) (input : V.Input kind)
  | undo (kind : V.Kind) (input : V.Input kind) (output : V.Output kind)

variable {V : Vocabulary}

namespace Step

def kind : Step V → V.Kind
  | .execute kind _ | .undo kind _ _ => kind

def name (step : Step V) : String := V.kindName step.kind

def isUndo : Step V → Bool
  | .execute .. => false
  | .undo .. => true

/-- What performing a step gives: the result of an execution, and nothing for an undo. -/
abbrev Result : Step V → Type
  | .execute kind _ => V.Output kind
  | .undo .. => Unit

end Step

/-- A performed step: the action, its result, and whether it was executed or undone. -/
structure Entry (V : Vocabulary) where
  kind : V.Kind
  input : V.Input kind
  output : V.Output kind
  executed : Bool

namespace Entry

def name (entry : Entry V) : String := V.kindName entry.kind

def step (entry : Entry V) : Step V :=
  if entry.executed then .execute entry.kind entry.input
  else .undo entry.kind entry.input entry.output

/-- The step that takes an entry back: an execution is undone, an undone action executed again. -/
def compensation (entry : Entry V) : Step V :=
  if entry.executed then .undo entry.kind entry.input entry.output
  else .execute entry.kind entry.input

theorem step_kind (entry : Entry V) : entry.step.kind = entry.kind := by
  unfold step
  split <;> rfl

theorem compensation_kind (entry : Entry V) : entry.compensation.kind = entry.kind := by
  unfold compensation
  split <;> rfl

theorem compensation_isUndo (entry : Entry V) : entry.compensation.isUndo = entry.executed := by
  unfold compensation
  split
  · next executed => exact executed.symm
  · next undone => exact (Bool.not_eq_true _ ▸ undone : entry.executed = false).symm

end Entry

def Step.entry : (step : Step V) → step.Result → Entry V
  | .execute kind input, output => ⟨kind, input, output, true⟩
  | .undo kind input output, () => ⟨kind, input, output, false⟩

theorem Step.step_entry (step : Step V) (output : step.Result) : (step.entry output).step = step := by
  cases step <;> rfl

theorem Step.kind_entry (step : Step V) (output : step.Result) : (step.entry output).kind = step.kind := by
  cases step <;> rfl

/-- What a handler call adds to the log of its context: the entry of its step, unless it failed. -/
def Step.recorded (step : Step V) : Answer step.Result → List (Entry V)
  | .ok output => [step.entry output]
  | .error _ => []

end ActionDispatch
