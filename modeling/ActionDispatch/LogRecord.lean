import ActionDispatch.Event

/-!
# Log records

Everything the engine writes to the structured log. A record is named for what it reports; its level,
message and fields follow from that.
-/

namespace ActionDispatch

inductive LogLevel
  | debug | info | warn | error
  deriving DecidableEq

inductive LogValue
  | text (value : String)
  | flag (value : Bool)
  | count (value : Nat)
  | request (value : RequestId)
  deriving DecidableEq

/-- What a log record reports. Action types and validator classes are given by their names. -/
inductive LogRecord
  | built (handlers : Nat) (registry : String)
  | handlerReplaced (action : String)
  | validatorCreated (action validator : String)
  | validatorNotCreated (action validator error : String)
  | executing (action : String) (request : RequestId)
  | undoing (action : String) (request : RequestId)
  | executionRefused (action : String) (request : RequestId)
  | undoSkipped (action : String) (request : RequestId)
  | undoRefused (action : String) (request : RequestId)
  | rollingBack (request : RequestId) (entries : Nat) (error : String)
  | stepSucceeded (action : String) (redo : Bool)
  | stepFailed (action : String) (redo : Bool) (error : String)
  | rolledBack (request : RequestId)
  /-- A channel has no receiver any more. -/
  | discarded (event : Event)
  | traced (event : Event)
  deriving DecidableEq

namespace LogRecord

def level : LogRecord → LogLevel
  | .built .. | .handlerReplaced .. | .validatorCreated .. | .executing .. | .undoing ..
  | .undoSkipped .. | .stepSucceeded .. | .discarded .. => .debug
  | .rolledBack .. => .info
  | .executionRefused .. | .undoRefused .. | .rollingBack .. => .warn
  | .validatorNotCreated .. | .stepFailed .. => .error
  | .traced event =>
    match event with
    | .rejected .. | .failed .. => .warn
    | .rollbackStepCompleted .. => .info
    | _ => .debug

def message : LogRecord → String
  | .built .. => "Built dispatcher"
  | .handlerReplaced .. => "Replaced registered handler"
  | .validatorCreated .. => "Created session validator"
  | .validatorNotCreated .. => "Failed to create session validator"
  | .executing .. => "Executing action"
  | .undoing .. => "Undoing action"
  | .executionRefused .. => "Session not allowed to execute action"
  | .undoSkipped .. => "Skipping undo for unauthorized session"
  | .undoRefused .. => "Session not allowed to undo action"
  | .rollingBack .. => "Dispatch failed, rolling back"
  | .stepSucceeded .. => "Rollback step succeeded"
  | .stepFailed .. => "Rollback step failed"
  | .rolledBack .. => "Rollback completed"
  | .discarded .. => "Event receiver closed, discarding event"
  | .traced event =>
    match event with
    | .rejected .. => "Session rejected"
    | .failed .. => "Request failed"
    | .rollbackStepCompleted .. => "Rollback step completed"
    | _ => "Dispatch event"

def fields : LogRecord → List (String × LogValue)
  | .built handlers registry =>
    [("handlers", .count handlers), ("validator_registry", .text registry)]
  | .handlerReplaced action => [("action", .text action)]
  | .validatorCreated action validator =>
    [("action", .text action), ("validator", .text validator)]
  | .validatorNotCreated action validator error =>
    [("action", .text action), ("validator", .text validator), ("error", .text error)]
  | .executing action request | .undoing action request | .executionRefused action request
  | .undoSkipped action request | .undoRefused action request =>
    [("action", .text action), ("request_id", .request request)]
  | .rollingBack request entries error =>
    [("request_id", .request request), ("entries", .count entries), ("error", .text error)]
  | .stepSucceeded action redo => [("action", .text action), ("redo", .flag redo)]
  | .stepFailed action redo error =>
    [("action", .text action), ("redo", .flag redo), ("error", .text error)]
  | .rolledBack request => [("request_id", .request request)]
  | .discarded event =>
    [("request_id", .request event.request), ("event", .text event.kind)]
  | .traced event =>
    let action := (event.action?).getD "-"
    let request := ("request_id", LogValue.request event.request)
    match event with
    | .rejected _ _ undo => [request, ("action", .text action), ("undo", .flag undo)]
    | .failed _ error => [request, ("error", .text error)]
    | .rollbackStepCompleted _ _ redo success =>
      [request, ("action", .text action), ("redo", .flag redo), ("success", .flag success)]
    | _ => [request, ("event", .text event.kind), ("action", .text action)]

end LogRecord

end ActionDispatch
