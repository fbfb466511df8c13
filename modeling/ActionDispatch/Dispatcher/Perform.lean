import ActionDispatch.Dispatcher.Basic

/-!
# Performing a step

A step resolves its handler and validator, asks the validator about the caller's session, runs the handler,
and logs what was performed. A step that is unsupported, refused or failed logs nothing of its own, while
what its nested steps logged stays.
-/

namespace ActionDispatch

variable {V : Vocabulary}

/-- What follows a step: its answer, and the log of the context after it. -/
abbrev Logged (V : Vocabulary) (α : Type) := Answer α × List (Entry V)

/-- The ways in which a running handler calls the dispatcher. -/
structure Calls (V : Vocabulary) where
  perform : Caller → (step : Step V) → List (Entry V) → Run V (Logged V step.Result)
  request : Option String → (step : Step V) → Run V (Answer step.Result)

def Step.begun (step : Step V) (request : RequestId) : LogRecord :=
  if step.isUndo then .undoing step.name request else .executing step.name request

def Step.performed (step : Step V) (request : RequestId) : Event :=
  if step.isUndo then .undone request step.name else .executed request step.name

namespace Dispatcher

variable (dispatcher : Dispatcher V) (calls : Calls V) (caller : Caller)

def interpret {α : Type} : Program V α → List (Entry V) → Run V (Logged V α)
  | .done answer, log => pure (answer, log)
  | .perform step next, log => do
    let (answer, log) ← calls.perform caller step log
    interpret (next answer) log
  | .request session step next, log => do
    let answer ← calls.request session step
    interpret (next answer) log
  | .look next, log => do
    Run.leave [.looked caller log]
    interpret (next ⟨caller.request, caller.session, log.length⟩) log
  | .act act next, log => do
    let result ← dispatcher.app.act act
    interpret (next result) log

/-- A program that goes on with an answer runs its two parts one after the other, on one log. -/
theorem interpret_andThen {α β : Type} (program : Program V α) (f : Answer α → Program V β)
    (log : List (Entry V)) :
    interpret dispatcher calls caller (program.andThen f) log = (do
      let (answer, log) ← interpret dispatcher calls caller program log
      interpret dispatcher calls caller (f answer) log) := by
  induction program generalizing log with
  | done answer => simp [Program.andThen, interpret]
  | perform step next ih => simp [Program.andThen, interpret, ih]
  | request session step next ih => simp [Program.andThen, interpret, ih]
  | look next ih => simp [Program.andThen, interpret, ih]
  | act act next ih => simp [Program.andThen, interpret, ih]

/-- Ends a handler call: logs its step, unless the call failed. -/
def record (step : Step V) : Logged V step.Result → Run V (Logged V step.Result)
  | (answer, log) => do
    let log := log ++ step.recorded answer
    Run.leave [.returned caller step answer log]
    match answer with
    | .ok output =>
      dispatcher.emit (step.performed caller.request)
      pure (.ok output, log)
    | .error error => pure (.error (error.intoService step.name), log)

def invoke (step : Step V) (handler : V.Handler step.kind) (log : List (Entry V)) :
    Run V (Logged V step.Result) := do
  Run.leave [.called caller step handler]
  let answered ← interpret dispatcher calls caller (dispatcher.app.program step handler) log
  record dispatcher caller step answered

/-- Answers a step whose caller was not accepted. An undo may then count as done. -/
def refuse : (step : Step V) → Run V (Answer step.Result)
  | .execute kind _ => do
    Run.log (.executionRefused (V.kindName kind) caller.request)
    dispatcher.emit (.rejected caller.request (V.kindName kind) false)
    pure (.error .insufficientRights)
  | .undo kind _ _ => do
    dispatcher.emit (.rejected caller.request (V.kindName kind) true)
    match dispatcher.settings.unauthorizedUndo with
    | .ignore =>
      Run.log (.undoSkipped (V.kindName kind) caller.request)
      pure (.ok ())
    | .reject =>
      Run.log (.undoRefused (V.kindName kind) caller.request)
      pure (.error .insufficientRights)

def perform (step : Step V) (log : List (Entry V)) : Run V (Logged V step.Result) := do
  match ← dispatcher.resolve caller step.kind with
  | none => pure (.error (.unsupportedAction step.name), log)
  | some (handler, id) =>
    if ← dispatcher.app.ask caller id caller.session then
      Run.log (step.begun caller.request)
      invoke dispatcher calls caller step handler log
    else
      pure (← refuse dispatcher caller step, log)

end Dispatcher

end ActionDispatch
