/-!
# Errors and their causes

What a caller of the dispatcher can be told, and the faults underneath. Every error has one message
and a chain of sources, outermost first; both are computed here and nowhere else.
-/

namespace ActionDispatch

mutual

inductive DispatchError
  /-- No handler or no session validator is registered for the action type of this name. -/
  | unsupportedAction (action : String)
  /-- An expected rejection in the terms of the domain. It is never wrapped on its way to the caller. -/
  | action (message : String)
  | service (action : String) (detail : String) (cause : Fault)
  /-- The request failed with `cause`, and `failures` of its steps could not be compensated, the first
  of them because of `firstFailure`. -/
  | rollbackFailed (cause : DispatchError) (failures : Nat) (firstFailure : DispatchError)
  | config (message : String)
  /-- Some other fault, shown as it is. -/
  | other (fault : Fault)

inductive Fault
  /-- A text, with the texts of what it wraps, outermost first. -/
  | text (message : String) (beneath : List String)
  | io (message : String)
  /-- A dispatch error that became a fault of its own. -/
  | dispatch (error : DispatchError)

end

mutual

def DispatchError.message : DispatchError → String
  | .unsupportedAction action =>
    "No handler or session validator registered for action \"" ++ action ++ "\""
  | .action message => message
  | .service action detail _ =>
    "Service exception executing action \"" ++ action ++ "\": " ++ detail
  | .rollbackFailed cause failures _ =>
    "Rollback failed (" ++ toString failures ++ " step(s)) after: " ++ cause.message
  | .config message => "Configuration error: " ++ message
  | .other fault => fault.message

/-- The text shown for a fault: that of its outermost layer. -/
def Fault.message : Fault → String
  | .text message _ => message
  | .io message => message
  | .dispatch error => error.message

end

mutual

/-- The texts of what lies beneath an error, outermost first, without its own message. -/
def DispatchError.sources : DispatchError → List String
  | .service _ _ cause => cause.message :: cause.sources
  | .rollbackFailed _ _ firstFailure => firstFailure.message :: firstFailure.sources
  | .other fault => fault.sources
  | .unsupportedAction _ | .action _ | .config _ => []

/-- The texts of what lies beneath a fault, outermost first. -/
def Fault.sources : Fault → List String
  | .text _ beneath => beneath
  | .io _ => []
  | .dispatch error => error.sources

end

def Fault.chain (fault : Fault) : List String :=
  fault.message :: fault.sources

/-- A text fault with further context put around it, the last context outermost. -/
def Fault.ofText (message : String) (contexts : List String) : Fault :=
  match contexts.reverse with
  | [] => .text message []
  | outer :: inner => .text outer (inner ++ [message])

namespace DispatchError

/-- The session may not use the action. -/
def insufficientRights : DispatchError := .action "Insufficient rights"

/-- What the caller sees of an error that a handler for `action` raised: a rejection in the terms of
the domain stays as it is, anything else becomes a service error that keeps it as its cause. -/
def intoService (error : DispatchError) (action : String) : DispatchError :=
  match error with
  | .action message => .action message
  | .other fault => .service action fault.message fault
  | error => .service action error.message (.dispatch error)

def isAction : DispatchError → Bool
  | .action _ => true
  | _ => false

def isUnsupported : DispatchError → Bool
  | .unsupportedAction _ => true
  | _ => false

end DispatchError

/-- The answer of a call: a result or the error it failed with. -/
abbrev Answer (α : Type) := Except DispatchError α

end ActionDispatch
