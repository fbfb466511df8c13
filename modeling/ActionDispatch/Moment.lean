import ActionDispatch.LogRecord
import ActionDispatch.Step
import ActionDispatch.Validator.Factory

/-!
# Moments of a run

A run leaves a sequence of moments: everything that an observer of the engine can tell apart, in the order
in which it happens. Events and log records are moments, and so are the lookups, session checks and
handler calls between them.
-/

namespace ActionDispatch

/-- The context on whose behalf a step is performed: the request with its caller's session, and whether
the step belongs to the request's own work or to its rollback. -/
structure Caller where
  request : RequestId
  session : Option String
  compensating : Bool := false
  deriving DecidableEq

/-- One thing that happens in a run. -/
inductive Moment (V : Vocabulary)
  /-- A top-level request begins. -/
  | opened (caller : Caller) (step : Step V)
  /-- The registries give a handler for the action type, and this validator. -/
  | resolved (caller : Caller) (kind : V.Kind) (validator : InstanceId)
  /-- A validator answers for a session; `caller` is missing when something else than the engine asks. -/
  | checked (caller : Option Caller) (validator : InstanceId) (session : Option String) (valid : Bool)
  /-- A handler is called. -/
  | called (caller : Caller) (step : Step V) (handler : V.Handler step.kind)
  /-- A handler looks at its context, which has this log. -/
  | looked (caller : Caller) (log : List (Entry V))
  /-- A handler call ends, before its error becomes one of the dispatcher. The log is that of the context
  when the call is over. -/
  | returned (caller : Caller) (step : Step V) (answer : Answer step.Result) (log : List (Entry V))
  /-- A rollback turns to an entry. -/
  | compensating (caller : Caller) (entry : Entry V)
  /-- A top-level request ends with this answer. -/
  | closed (caller : Caller) (step : Step V) (answer : Answer step.Result)
  /-- The engine emits an event, before any sink gets it. -/
  | emitted (event : Event)
  /-- An observing sink gets an event. -/
  | observed (observer : Nat) (event : Event)
  | logged (record : LogRecord)
  /-- The factory is called for a class. -/
  | created (c : ValidatorClass V) (outcome : Except Fault InstanceId)
  | noted (note : V.Note)

/-- One thing that the lookup of a validator leaves. -/
inductive Finding (V : Vocabulary)
  | created (c : ValidatorClass V) (outcome : Except Fault InstanceId)
  | logged (record : LogRecord)

/-- A finding as a moment of a run. -/
def Finding.moment {V : Vocabulary} : Finding V → Moment V
  | .created c outcome => .created c outcome
  | .logged record => .logged record

end ActionDispatch
