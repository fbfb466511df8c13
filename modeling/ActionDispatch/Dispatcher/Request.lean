import ActionDispatch.Dispatcher.Perform

/-!
# Requests and their rollback

A request performs one step in a context of its own. If the step fails, what the context logged is taken
back, newest entry first, in a second context for the same request that starts empty. The caller gets the
error of the step if every entry could be taken back, and otherwise an error that holds both.
-/

namespace ActionDispatch

variable {V : Vocabulary}

/-- What a client does: it makes a request, acts outside of all requests, or drops the receiver of a
channel. -/
inductive Move (V : Vocabulary)
  | request (session : Option String) (step : Step V)
  | act (act : Act V)
  | drop (index : Nat)

/-- What a client gets for a move: the answer to a request, or the result of an act. -/
inductive Reply (V : Vocabulary)
  | answered (step : Step V) (answer : Answer step.Result)
  | acted (act : Act V) (result : act.Result)

/-- A way to perform steps in a context. -/
abbrev Performing (V : Vocabulary) :=
  Caller → (step : Step V) → List (Entry V) → Run V (Logged V step.Result)

namespace Dispatcher

variable (dispatcher : Dispatcher V) (perform : Performing V) (caller : Caller)

/-- Takes one entry back in the context of the rollback; gives the error if that failed. -/
def compensate (entry : Entry V) (log : List (Entry V)) :
    Run V (Option DispatchError × List (Entry V)) := do
  Run.leave [.compensating caller entry]
  let (answer, log) ← perform caller entry.compensation log
  let redo := !entry.executed
  match answer with
  | .ok _ =>
    Run.log (.stepSucceeded entry.name redo)
    dispatcher.emit (.rollbackStepCompleted caller.request entry.name redo true)
    pure (none, log)
  | .error error =>
    Run.log (.stepFailed entry.name redo error.message)
    dispatcher.emit (.rollbackStepCompleted caller.request entry.name redo false)
    pure (some error, log)

/-- Takes entries back, newest first, and gives the errors of the steps that failed, in order. -/
def unwind : List (Entry V) → List (Entry V) → Run V (List DispatchError)
  | [], _ => pure []
  | entry :: older, log => do
    match ← compensate dispatcher perform caller entry log with
    | (none, log) => unwind older log
    | (some error, log) =>
      match dispatcher.settings.rollback with
      | .stopOnFailure => pure [error]
      | .bestEffort => do pure (error :: (← unwind older log))

/-- The error for the caller of a failed request, after a rollback with these errors. -/
def rollbackError (error : DispatchError) : List DispatchError → Run V DispatchError
  | [] => do
    Run.log (.rolledBack caller.request)
    pure error
  | first :: others => pure (.rollbackFailed error (others.length + 1) first)

/-- Takes back what a failed request logged, and gives the error for its caller. -/
def rollback (entries : List (Entry V)) (error : DispatchError) : Run V DispatchError := do
  if entries.isEmpty then pure error
  else
    Run.log (.rollingBack caller.request entries.length error.message)
    dispatcher.emit (.rollbackStarted caller.request entries.length)
    let errors ← unwind dispatcher perform { caller with compensating := true } entries.reverse []
    rollbackError caller error errors

/-- Ends a request whose step had this answer, and gives the answer for its caller. -/
def conclude {α : Type} (log : List (Entry V)) : Answer α → Run V (Answer α)
  | .ok output => do
    dispatcher.emit (.completed caller.request)
    pure (.ok output)
  | .error error => do
    let error ← rollback dispatcher perform caller log error
    dispatcher.emit (.failed caller.request error.message)
    pure (.error error)

/-- A context for a request that did not exist before. -/
def openContext (session : Option String) : Run V Caller := do
  let number := (← Run.state).requests
  Run.change fun state => { state with requests := number + 1 }
  pure { request := ⟨number⟩, session }

/-- Begins a request for a session: performs its step in a context of its own. -/
def attempt (session : Option String) (step : Step V) : Run V (Caller × Logged V step.Result) := do
  let caller ← openContext session
  Run.leave [.opened caller step]
  dispatcher.emit (.started caller.request step.name)
  let logged ← perform caller step []
  pure (caller, logged)

def settle (step : Step V) : Caller × Logged V step.Result → Run V (Answer step.Result)
  | (caller, answer, log) => do
    let answer ← conclude dispatcher perform caller log answer
    Run.leave [.closed caller step answer]
    pure answer

/-- Runs a request for a session, from its start to its end. -/
def request (session : Option String) (step : Step V) : Run V (Answer step.Result) := do
  let begun ← attempt dispatcher perform session step
  settle dispatcher perform step begun

/-- The calls that a handler can make when at most `depth` handler calls may be nested in it. -/
def callsAt : Nat → Calls V
  | 0 => ⟨fun _ _ _ => Run.cut, fun _ _ => Run.cut⟩
  | depth + 1 =>
    let perform := dispatcher.perform (callsAt depth)
    ⟨perform, dispatcher.request perform⟩

/-- Runs a step as a request for a session, with at most `depth` nested handler calls. -/
def run (depth : Nat) (session : Option String) (step : Step V) : Run V (Answer step.Result) :=
  (dispatcher.callsAt depth).request session step

def execute (depth : Nat) (session : Option String) (kind : V.Kind) (input : V.Input kind) :
    Run V (Answer (V.Output kind)) :=
  dispatcher.run depth session (.execute kind input)

def undo (depth : Nat) (session : Option String) (kind : V.Kind) (input : V.Input kind)
    (output : V.Output kind) : Run V (Answer Unit) :=
  dispatcher.run depth session (.undo kind input output)

/-- Makes the moves of a client, one after the other, and gives what the client gets for them. -/
def serve (depth : Nat) : List (Move V) → Run V (List (Reply V))
  | [] => pure []
  | .request session step :: moves => do
    let answer ← dispatcher.run depth session step
    pure (.answered step answer :: (← serve depth moves))
  | .act act :: moves => do
    let result ← dispatcher.app.act act
    pure (.acted act result :: (← serve depth moves))
  | .drop index :: moves => do
    Run.change fun state => { state with channels := state.channels.modify index Channel.drop }
    serve depth moves

/-- Moves that follow others are made after them. -/
theorem serve_append (depth : Nat) (moves later : List (Move V)) :
    dispatcher.serve depth (moves ++ later) = (do
      let replies ← dispatcher.serve depth moves
      pure (replies ++ (← dispatcher.serve depth later))) := by
  induction moves with
  | nil => simp [serve]
  | cons move moves ih =>
    cases move with
    | request session step => simp [serve, ih]
    | act act => simp [serve, ih]
    | drop index => simp [serve, ih]

end Dispatcher

end ActionDispatch
