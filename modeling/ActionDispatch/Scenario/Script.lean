import ActionDispatch.Error
import ActionDispatch.Scenario.Guard

/-!
# Scripts

What a handler of a scenario does is written in the action itself: one script for executing it, one for
undoing it. A script is a list of operations, each of which may be repeated and may have its error caught.
-/

namespace ActionDispatch.Scenario

/-- A validator type as a binding names it: one that can be built without help, or one that cannot. -/
structure GuardClass where
  type : GuardType
  injected : Bool := false

/-- A change to the registries, or a question to them. -/
inductive RegistryOperation
  | addHandler (kind : ActionType) (tag : String)
  | removeHandler (kind : ActionType)
  | clearHandlers
  | handlers
  | findHandler (kind : ActionType)
  | addValidator (kind : ActionType) (guard : Guard)
  /-- Registers an instance that was shown before, by its number. -/
  | addShown (kind : ActionType) (number : Nat)
  | removeValidator (kind : ActionType)
  | addClass (kind : ActionType) (c : GuardClass)
  | removeClass (kind : ActionType) (c : GuardClass)
  | cached
  | clearValidators
  | findValidator (kind : ActionType)
  | isValid (kind : ActionType) (session : Option String)
  /-- Several lookups at once. -/
  | findTogether (kind : ActionType) (count : Nat)

mutual

/-- What an action is about: a label, its two scripts, and the result if that is fixed. -/
inductive Payload
  | mk (label : String) (execute : List Operation) (undo : List Operation) (result : Option String)

/-- A verb that is run a number of times, with or without its errors caught. -/
inductive Operation
  | mk (verb : Verb) (times : Nat) (caught : Bool)

inductive Verb
  /-- Executes an action in the same request; its result is the last one. -/
  | execute (kind : ActionType) (payload : Payload)
  /-- Undoes an action in the same request, by default for the last result. -/
  | undo (kind : ActionType) (payload : Payload) (result : Option String)
  /-- Executes an action as a request of its own. -/
  | request (session : Option String) (kind : ActionType) (payload : Payload)
  /-- Undoes an action as a request of its own. -/
  | requestUndo (session : Option String) (kind : ActionType) (payload : Payload) (result : String)
  | fail (error : DispatchError)
  /-- Counts, and fails at the listed counts. -/
  | failOn (counter : String) (counts : List Nat) (error : DispatchError)
  | note (text : String)
  | last
  | look
  | describe
  | registry (operation : RegistryOperation)

end

namespace Payload

def label : Payload → String
  | .mk label _ _ _ => label

def execute : Payload → List Operation
  | .mk _ execute _ _ => execute

def undo : Payload → List Operation
  | .mk _ _ undo _ => undo

def result : Payload → Option String
  | .mk _ _ _ result => result

end Payload

mutual

/-- How deep handler calls can be nested in a handler of this action, itself included. -/
def Payload.depth : Payload → Nat
  | .mk _ execute undo _ => max (scriptDepth execute) (scriptDepth undo) + 1

def Operation.depth : Operation → Nat
  | .mk verb _ _ => verb.depth

def Verb.depth : Verb → Nat
  | .execute _ payload | .undo _ payload _ | .request _ _ payload | .requestUndo _ _ payload _ =>
    payload.depth
  | .fail _ | .failOn .. | .note _ | .last | .look | .describe | .registry _ => 0

def scriptDepth : List Operation → Nat
  | [] => 0
  | operation :: operations => max operation.depth (scriptDepth operations)

end

/-- A call to a dispatcher: execute an action for a session, or undo it for a session and a result. -/
inductive Call
  | execute (session : Option String) (kind : ActionType) (payload : Payload)
  | undo (session : Option String) (kind : ActionType) (payload : Payload) (result : String)

def Call.depth : Call → Nat
  | .execute _ _ payload | .undo _ _ payload _ => payload.depth

end ActionDispatch.Scenario
