import ActionDispatch.Builder
import ActionDispatch.Scenario.Script

/-!
# Playing scripts

The application of scenarios: its handlers run the scripts in their actions. A handler is only a tag; all
handlers share one world, which counts.
-/

namespace ActionDispatch.Scenario

structure World where
  /-- The executions that ended well with a result made up by the handler. -/
  finished : Nat := 0
  counters : Table String Nat := .empty
  /-- The validator instances that were shown so far, in order of their first appearance. -/
  shown : List InstanceId := []

namespace World

def finish (world : World) : World := { world with finished := world.finished + 1 }

def count (world : World) (counter : String) : Nat := (world.counters.find? counter).getD 0

/-- The world with one more count. -/
def increase (counter : String) (world : World) : World :=
  { world with counters := world.counters.insert counter (world.count counter + 1) }

/-- The world in which an instance has been shown. -/
def showing (id : InstanceId) (world : World) : World :=
  if id ∈ world.shown then world else { world with shown := world.shown ++ [id] }

/-- The number of an instance, counted in the order of first appearance. -/
def number (world : World) (id : InstanceId) : Nat := world.shown.idxOf id

end World

/-- A handler as it is shown: the name of its key, whether that is the key it was found under, and the action
types that it serves. -/
structure HandlerView where
  name : String
  sameKey : Bool
  serves : List ActionType

/-- The answer to an operation on the registries. Instances are given by number. -/
inductive RegistryReply
  | done
  | flag (value : Bool)
  | count (value : Nat)
  | size (handlers : Nat) (isEmpty : Bool)
  | handler (view : Option HandlerView)
  | shown (instance? : Option Nat)
  | allShown (instances : List (Option Nat))
  | verdict (valid : Option Bool)

inductive Note
  | caught (error : DispatchError)
  /-- A request of the script's own ended well, with this result if it was an execution. -/
  | requested (result : Option String)
  | text (text : String)
  | last (result : String)
  | looked (view : ContextView)
  | described (view : ContextView)
  | registry (reply : RegistryReply)

/-- The types of scenarios. Every action has a payload and results in a text. -/
abbrev vocabulary : Vocabulary where
  Kind := ActionType
  kindName := ActionType.name
  Input _ := Payload
  Output _ := String
  Handler _ := String
  Class := GuardType
  className := GuardType.name
  Validator := Guard
  World := World
  Note := Note

def GuardClass.toClass (c : GuardClass) : ValidatorClass vocabulary :=
  match c.injected, c.type.initial? with
  | false, some guard => .ofInitial c.type guard
  | _, _ => .injected c.type

namespace RegistryOperation

variable {m : Type → Type} [Monad m] (act : (act : Act vocabulary) → m act.Result)

def showing (id : InstanceId) : m Nat := do
  let before ← act (.change (World.showing id))
  pure ((before.showing id).number id)

def showingFound (kind : ActionType) : m (Option Nat) := do
  match ← act (.findValidator kind) with
  | none => pure none
  | some id => pure (some (← showing act id))

def showingAll (kind : ActionType) : Nat → m (List (Option Nat))
  | 0 => pure []
  | count + 1 => do
    let number ← showingFound act kind
    pure (number :: (← showingAll kind count))

/-- A found handler as it is shown for the key it was looked up with. -/
def viewOf (kind : ActionType) (any : AnyHandler vocabulary) : HandlerView where
  name := any.kind.name
  sameKey := any.kind = kind
  serves := ActionType.all.filter fun other => (any.serving? other).isSome

def perform : RegistryOperation → m RegistryReply
  | .addHandler kind tag => do
    act (.addHandler ⟨kind, tag⟩)
    pure .done
  | .removeHandler kind => do pure (.flag (← act (.removeHandler kind)))
  | .clearHandlers => do
    act .clearHandlers
    pure .done
  | .handlers => do
    let count ← act .countHandlers
    pure (.size count (count = 0))
  | .findHandler kind => do
    let found ← act (.findHandler kind)
    pure (.handler (found.map (viewOf kind)))
  | .addValidator kind guard => do
    let id ← act (.makeValidator guard)
    act (.addValidator kind id)
    pure .done
  | .addShown kind number => do
    let world ← act (.change id)
    match world.shown[number]? with
    | none => pure .done
    | some id =>
      act (.addValidator kind id)
      pure .done
  | .removeValidator kind => do pure (.flag (← act (.removeValidator kind)))
  | .addClass kind c => do
    act (.addClass kind c.toClass)
    pure .done
  | .removeClass kind c => do pure (.flag (← act (.removeClass kind c.toClass)))
  | .cached => do pure (.count (← act .countCached))
  | .clearValidators => do
    act .clearValidators
    pure .done
  | .findValidator kind => do pure (.shown (← showingFound act kind))
  | .isValid kind session => do
    match ← act (.findValidator kind) with
    | none => pure (.verdict none)
    | some id => pure (.verdict (some (← act (.check id session))))
  | .findTogether kind count => do pure (.allShown (← showingAll act kind count))

end RegistryOperation

def noting (note : Note) : Program vocabulary Unit := Program.outside (.note note)

/-- Runs a verb once, with the last result before it; gives the last result after it. -/
def Verb.play : Verb → String → Program vocabulary String
  | .execute kind payload, _ => Program.step (.execute kind payload)
  | .undo kind payload result, previous => do
    Program.step (.undo kind payload (result.getD previous))
    pure previous
  | .request session kind payload, previous => do
    let result ← Program.fresh session (.execute kind payload)
    noting (.requested (some result))
    pure previous
  | .requestUndo session kind payload result, previous => do
    Program.fresh session (.undo kind payload result)
    noting (.requested none)
    pure previous
  | .fail error, _ => Program.fail error
  | .failOn counter counts error, previous => do
    let before ← Program.outside (.change (World.increase counter))
    if before.count counter + 1 ∈ counts then Program.fail error else pure previous
  | .note text, previous => do
    noting (.text text)
    pure previous
  | .last, previous => do
    noting (.last previous)
    pure previous
  | .look, previous => do
    noting (.looked (← Program.view))
    pure previous
  | .describe, previous => do
    noting (.described (← Program.view))
    pure previous
  | .registry operation, previous => do
    noting (.registry (← operation.perform Program.outside))
    pure previous

/-- Runs a verb once, and writes its error down if errors are caught. -/
def Verb.playCaught (verb : Verb) (caught : Bool) (previous : String) : Program vocabulary String :=
  if caught then do
    match ← (verb.play previous).attempt with
    | .ok previous => pure previous
    | .error error =>
      noting (.caught error)
      pure previous
  else verb.play previous

def Verb.playTimes (verb : Verb) (caught : Bool) : Nat → String → Program vocabulary String
  | 0, previous => pure previous
  | times + 1, previous => do playTimes verb caught times (← verb.playCaught caught previous)

/-- Runs the operations of a script in order; the first error that is not caught ends it. -/
def playScript : List Operation → String → Program vocabulary Unit
  | [], _ => pure ()
  | .mk verb times caught :: operations, previous => do
    playScript operations (← verb.playTimes caught times previous)

/-- Runs the script of an execution, and gives its result: the one that is fixed, or one that is made up
from the handler's tag, the label and the number of such executions. -/
def playExecution (tag : String) (payload : Payload) : Program vocabulary String := do
  playScript payload.execute ""
  match payload.result with
  | some result => pure result
  | none => do
    let before ← Program.outside (.change World.finish)
    pure (tag ++ "/" ++ payload.label ++ "#" ++ toString (before.finished + 1))

def application : Application vocabulary where
  execute tag payload := playExecution tag payload
  undo _ payload _ := playScript payload.undo ""
  check guard session _ := guard.check session

end ActionDispatch.Scenario
