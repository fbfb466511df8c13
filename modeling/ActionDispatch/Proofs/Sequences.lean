import ActionDispatch.Dispatcher.Request

/-!
# Sequences

A second small application, for handlers that are nested in each other. Places are marked or welded, and a
sequence performs its jobs in order; to undo it, they are undone in reverse order. What is marked can be
unmarked, what is welded cannot, and a job that jams fails whenever it is executed.
-/

namespace ActionDispatch.Sequences

inductive Task
  | mark | weld | jam | sequence
  deriving DecidableEq

inductive Job
  | mark (place : Nat)
  | weld (place : Nat)
  | jam (error : DispatchError)
  | sequence (jobs : List Job)

/-- The sorts of gate: one that has members, and one that cannot be made. -/
inductive Gate
  | members | broken
  deriving DecidableEq

/-- The world is the list of the places that are marked or welded. -/
def vocabulary : Vocabulary where
  Kind := Task
  kindName
    | .mark => "Mark"
    | .weld => "Weld"
    | .jam => "Jam"
    | .sequence => "Sequence"
  Input
    | .mark | .weld => Nat
    | .jam => DispatchError
    | .sequence => List Job
  Output _ := Unit
  Handler _ := Unit
  Class := Gate
  className
    | .members => "Members"
    | .broken => "Broken"
  Validator := List String
  World := List Nat
  Note := Empty

namespace Job

/-- The step that executes a job. -/
def execution : Job → Step vocabulary
  | .mark place => .execute Task.mark place
  | .weld place => .execute Task.weld place
  | .jam error => .execute Task.jam error
  | .sequence jobs => .execute Task.sequence jobs

/-- The step that undoes a job. -/
def reversal : Job → Step vocabulary
  | .mark place => .undo Task.mark place ()
  | .weld place => .undo Task.weld place ()
  | .jam error => .undo Task.jam error ()
  | .sequence jobs => .undo Task.sequence jobs ()

end Job

/-- Performs steps in order, up to the first that fails. -/
def inOrder : List (Step vocabulary) → Program vocabulary Unit
  | [] => .done (.ok ())
  | step :: steps => .perform step fun
    | .ok _ => inOrder steps
    | .error error => .done (.error error)

/-- A gate admits its members. -/
def admits (members : List String) (session : Option String) : Bool × List String :=
  (session.any (· ∈ members), members)

def application : Application vocabulary where
  execute {task} _ input :=
    match task with
    | .mark | .weld => .act (.change fun (places : List Nat) => input :: places) fun _ => .done (.ok ())
    | .jam => .done (.error input)
    | .sequence => inOrder (input.map Job.execution)
  undo {task} _ input _ :=
    match task with
    | .mark => .act (.change fun (places : List Nat) => places.erase input) fun _ => .done (.ok ())
    | .weld => .done (.error (.other (.io "Welded")))
    | .jam => .done (.ok ())
    | .sequence => inOrder (input.reverse.map Job.reversal)
  check gate session _ := admits gate session

def dispatcher : Dispatcher vocabulary := { app := application }

/-- Makes gates that admit the user; a broken one cannot be made. -/
def factory : Factory vocabulary where
  create
    | _, ⟨.members, _⟩ => .ok (.fresh ["user"])
    | _, ⟨.broken, _⟩ => .error (.ofText "No such gate" [])

/-- Handlers for these tasks. -/
def handlers (tasks : List Task) : HandlerTable vocabulary :=
  tasks.foldl (fun table task => table.insert task ⟨task, ()⟩) .empty

/-- These gates for these tasks, to be made when they are needed. -/
def gates (tasks : List (Task × Gate)) : ValidatorRegistry vocabulary :=
  .onDemand (tasks.foldl (fun registry (task, gate) => registry.addClass task ⟨gate, none⟩) { factory })

/-- No place is marked yet. -/
def opening (handlers : HandlerTable vocabulary) (validators : ValidatorRegistry vocabulary) :
    State vocabulary where
  handlers
  validators
  store := {}
  channels := []
  requests := 0
  world := []

/-- Every task has a handler, and the user may use all of them. -/
def workshop : State vocabulary :=
  opening (handlers [.mark, .weld, .jam, .sequence])
    (gates [(.mark, .members), (.weld, .members), (.jam, .members), (.sequence, .members)])

/-- The entry of a job that was executed. -/
def executed (task : Task) (input : vocabulary.Input task) : Entry vocabulary := ⟨task, input, (), true⟩

end ActionDispatch.Sequences
