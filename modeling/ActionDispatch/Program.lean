import ActionDispatch.Handler.Table
import ActionDispatch.Validator.Registry

/-!
# What handlers do

A handler is a sequential program. It performs nested steps in the request's own context, starts requests
of its own, looks at the context, and acts on whatever lies outside: the registries and the world. The
answer of a nested step may be an error, and the program decides whether to go on.
-/

namespace ActionDispatch

/-- An act outside the request: on the registries, on the world, or a note for observers. -/
inductive Act (V : Vocabulary)
  | addHandler (handler : AnyHandler V)
  | removeHandler (kind : V.Kind)
  | clearHandlers
  | countHandlers
  | findHandler (kind : V.Kind)
  /-- Makes a validator that no registry holds yet. -/
  | makeValidator (validator : V.Validator)
  | addValidator (kind : V.Kind) (id : InstanceId)
  | removeValidator (kind : V.Kind)
  | addClass (kind : V.Kind) (c : ValidatorClass V)
  | removeClass (kind : V.Kind) (c : ValidatorClass V)
  | countCached
  | clearValidators
  | findValidator (kind : V.Kind)
  /-- Asks a validator about a session. -/
  | check (id : InstanceId) (session : Option String)
  /-- Changes the world and gives the world as it was before. -/
  | change (f : V.World → V.World)
  | note (note : V.Note)

variable {V : Vocabulary}

/-- What an act gives. -/
abbrev Act.Result : Act V → Type
  | .addHandler _ | .clearHandlers | .addValidator .. | .addClass .. | .clearValidators | .note _ => Unit
  | .removeHandler _ | .removeValidator _ | .removeClass .. | .check .. => Bool
  | .countHandlers | .countCached => Nat
  | .findHandler _ => Option (AnyHandler V)
  | .makeValidator _ => InstanceId
  | .findValidator _ => Option InstanceId
  | .change _ => V.World

/-- What a handler sees of the context it runs in. -/
structure ContextView where
  request : RequestId
  session : Option String
  /-- The number of entries logged so far. -/
  entries : Nat

/-- The text that describes a context; the request is given by a text of its own. -/
def ContextView.describe (view : ContextView) (request : String) : String :=
  "ExecutionContext \x7b request_id: " ++ request ++ ", session_id: " ++
    (match view.session with
      | none => "None"
      | some session => "Some(" ++ Text.quote session ++ ")") ++
    ", entries: " ++ toString view.entries ++ " \x7d"

/-- A program that ends with an answer. -/
inductive Program (V : Vocabulary) (α : Type)
  | done (answer : Answer α)
  /-- Performs a nested step as part of the request. -/
  | perform (step : Step V) (next : Answer step.Result → Program V α)
  /-- Starts a request of its own. -/
  | request (session : Option String) (step : Step V) (next : Answer step.Result → Program V α)
  | look (next : ContextView → Program V α)
  | act (act : Act V) (next : act.Result → Program V α)

namespace Program

variable {α β : Type}

/-- Goes on with the answer of a program, be it a result or an error. -/
def andThen : Program V α → (Answer α → Program V β) → Program V β
  | .done answer, f => f answer
  | .perform step next, f => .perform step fun answer => (next answer).andThen f
  | .request session step next, f => .request session step fun answer => (next answer).andThen f
  | .look next, f => .look fun view => (next view).andThen f
  | .act outside next, f => .act outside fun result => (next result).andThen f

/-- Goes on with the result of a program; an error ends it. -/
protected def bind (program : Program V α) (f : α → Program V β) : Program V β :=
  program.andThen fun
    | .ok result => f result
    | .error error => .done (.error error)

instance : Monad (Program V) where
  pure result := .done (.ok result)
  bind := Program.bind

/-- A program that fails. -/
def fail (error : DispatchError) : Program V α := .done (.error error)

/-- The answer of a program, with its error caught. -/
def attempt (program : Program V α) : Program V (Answer α) :=
  program.andThen fun answer => .done (.ok answer)

/-- Performs a step, the error of which is the program's own. -/
def step (step : Step V) : Program V step.Result := .perform step .done

/-- Starts a request, the error of which is the program's own. -/
def fresh (session : Option String) (step : Step V) : Program V step.Result :=
  .request session step .done

def view : Program V ContextView := .look fun view => .done (.ok view)

/-- Acts outside the request. -/
def outside (act : Act V) : Program V act.Result := .act act fun result => .done (.ok result)

end Program

end ActionDispatch
