import ActionDispatch.Dispatcher.Request
import ActionDispatch.Scenario.Setup

/-!
# Reports

A scenario runs step by step, and each step has a report: its answer, the journal of what handlers,
validators, providers and probes did, the log records, and the events that the channels received. All of
it is read off the moments of the run.
-/

namespace ActionDispatch.Scenario

inductive JournalEntry
  | executed (tag name label : String)
  | undone (tag name label result : String)
  | checked (type : GuardType) (session : Option String) (valid : Bool)
  | provided (type : GuardType)
  | event (probe : String) (event : Event)
  | noted (note : Note)

namespace Watch

variable (watch : Watch) (store : ValidatorStore vocabulary)

def entry? : Moment vocabulary → Option JournalEntry
  | .called _ (.execute kind payload) tag => some (.executed tag kind.name payload.label)
  | .called _ (.undo kind payload result) tag => some (.undone tag kind.name payload.label result)
  | .checked _ id session valid =>
    match store.get? id with
    | some guard =>
      if guard.type.isReporting then some (.checked guard.type session valid) else none
    | none => none
  | .created c _ =>
    match watch.container.find? c.id with
    | some (.each _) => some (.provided c.id)
    | _ => none
  | .observed observer event => (watch.sinks.probe? observer).map (.event · event)
  | .noted note => some (.noted note)
  | _ => none

def requests : Moment vocabulary → List RequestId
  | .observed _ event => [event.request]
  | .noted (.looked view) | .noted (.described view) => [view.request]
  | _ => []

end Watch

def logOf (moments : List (Moment vocabulary)) : List LogRecord :=
  moments.filterMap fun
    | .logged record => some record
    | _ => none

def loggedRequests (records : List LogRecord) : List RequestId :=
  records.flatMap fun record => record.fields.filterMap fun
    | (_, .request request) => some request
    | _ => none

inductive StepAnswer
  | built (description : String) (settings : Settings)
  | failed (error : DispatchError)
  /-- A call ended well, with this result if it was an execution. -/
  | ended (result : Option String)
  | replied (reply : RegistryReply)

/-- What is reported of a step. Events are given for each channel, unless its receiver is gone. -/
structure Report where
  answer : StepAnswer
  journal : List JournalEntry
  logs : List LogRecord
  events : List (Option (List Event))
  /-- The requests shown up to the end of the step, in order of their first appearance. -/
  requests : List RequestId

def Report.requestName (report : Report) (request : RequestId) : String :=
  "r" ++ toString (report.requests.idxOf request)

inductive SceneStep
  | call (call : Call)
  | dropChannel (index : Nat)
  | registry (operation : RegistryOperation)

structure Scene where
  setup : SetupChoice
  steps : List SceneStep
  /-- Whether log records are read. -/
  logs : Bool

/-- Lists the requests that a step shows, behind those shown before. A journal names its requests when
it is written, and log records are read when the step is over. -/
def listRequests (logs : Bool) (known : List RequestId) (moments : List (Moment vocabulary)) :
    List RequestId :=
  (moments.flatMap Watch.requests ++ if logs then loggedRequests (logOf moments) else []).foldl
    (fun known request => if request ∈ known then known else known ++ [request]) known

def drainAll (channels : List Channel) : List Channel × List (Option (List Event)) :=
  (channels.map Channel.drain).unzip

def Call.run (dispatcher : Dispatcher vocabulary) (call : Call) : Run vocabulary StepAnswer :=
  let ending {α : Type} (text : α → Option String) (answer : Answer α) : StepAnswer :=
    match answer with
    | .ok result => .ended (text result)
    | .error error => .failed error
  match call with
  | .execute session kind payload => do
    pure (ending some (← dispatcher.execute call.depth session kind payload))
  | .undo session kind payload result => do
    pure (ending (fun _ => none) (← dispatcher.undo call.depth session kind payload result))

def SceneStep.run (dispatcher : Dispatcher vocabulary) : SceneStep → Run vocabulary StepAnswer
  | .call made => made.run dispatcher
  | .dropChannel index => do
    Run.change fun state => { state with channels := state.channels.modify index Channel.drop }
    pure (.ended none)
  | .registry operation => do
    pure (.replied (← operation.perform dispatcher.app.act))

namespace Scene

variable (logs : Bool) (watch : Watch)

/-- The report of a step that ended in a state, and the state without the events that it gives. -/
def report (known : List RequestId) (answer : StepAnswer) (state : State vocabulary)
    (moments : List (Moment vocabulary)) : Report × State vocabulary :=
  let (channels, events) := drainAll state.channels
  ({ answer
     journal := moments.filterMap (watch.entry? state.store)
     logs := logOf moments
     events
     requests := listRequests logs known moments }, { state with channels })

/-- The reports of steps, one after the other. -/
def reports (dispatcher : Dispatcher vocabulary) :
    List SceneStep → List RequestId → State vocabulary → Option (List Report)
  | [], _, _ => some []
  | step :: steps, known, state => do
    let outcome := step.run dispatcher state
    let answer ← outcome.value
    let (report, state) := report logs watch known answer outcome.state outcome.moments
    let rest ← reports dispatcher steps report.requests state
    pure (report :: rest)

/-- The reports of a scenario: one of how its dispatcher was built, and one of each step. -/
def play (scene : Scene) : Option (List Report) :=
  let opening := scene.setup.open
  let watch := opening.watch
  match opening.stage with
  | .error error =>
    some [{
      answer := .failed error
      journal := opening.moments.filterMap (watch.entry? {})
      logs := logOf opening.moments
      events := List.replicate watch.sinks.channels (some [])
      requests := [] }]
  | .ok stage => do
    let answer := .built stage.dispatcher.describe stage.dispatcher.settings
    let (first, state) := report scene.logs watch [] answer stage.state opening.moments
    let rest ← reports scene.logs watch stage.dispatcher scene.steps first.requests state
    pure (first :: rest)

end Scene

/-- What trying a validator class gives: an instance, by number, with its verdicts. -/
abbrev Trial := Except Fault (Nat × List Bool)

def tryClass (factory : Factory vocabulary) (sessions : List (Option String)) (c : GuardClass) :
    Run vocabulary Trial := do
  let (made, store) := (← Run.state).store.create factory c.toClass
  Run.change fun state => { state with store }
  Run.leave [.created c.toClass made]
  match made with
  | .error fault => pure (.error fault)
  | .ok id =>
    let number ← RegistryOperation.showing application.act id
    let verdicts ← sessions.mapM (application.ask none id)
    pure (.ok (number, verdicts))

/-- Tries classes in order, and gives the journal. -/
def tryClasses (choice : FactoryChoice) (sessions : List (Option String)) (classes : List GuardClass) :
    Option (List Trial × List JournalEntry) :=
  let (factory, pool) := Pool.choose {} choice
  let state : State vocabulary :=
    { handlers := .empty, validators := .upFront .empty, store := pool.store, channels := []
      requests := 0, world := {} }
  let watch : Watch := ⟨pool.container, SinkList.start true⟩
  let outcome := classes.mapM (tryClass factory sessions) state
  outcome.value.map (·, outcome.moments.filterMap (watch.entry? outcome.state.store))

end ActionDispatch.Scenario
