import ActionDispatch.Dispatcher.Request

/-!
# Widgets

A small application, to look at single runs: widgets are created and deleted, and replacing some
creates others first. Its validators are gates of any sort.
-/

namespace ActionDispatch.Widgets

inductive Job
  | create | delete | replace
  deriving DecidableEq

variable {Gate : Type}

/-- An action is about a number of widgets, and the world is how many there are. -/
def vocabulary (Gate : Type) : Vocabulary where
  Kind := Job
  kindName
    | .create => "CreateWidgets"
    | .delete => "DeleteWidgets"
    | .replace => "ReplaceWidgets"
  Input _ := Nat
  Output _ := Unit
  Handler _ := Unit
  Class := Unit
  className _ := "Gate"
  Validator := Gate
  World := Int
  Note := Unit

/-- The step that executes an action. -/
def execution (job : Job) (count : Nat) : Step (vocabulary Gate) := .execute job count

/-- The entry of an executed action. -/
def executed (job : Job) (count : Nat) : Entry (vocabulary Gate) := ⟨job, count, (), true⟩

/-- The entry of an undone action. -/
def undone (job : Job) (count : Nat) : Entry (vocabulary Gate) := ⟨job, count, (), false⟩

/-- Adds to the number of widgets. -/
def adding (count : Int) : Program (vocabulary Gate) Unit :=
  .act (.change fun (world : Int) => world + count) fun _ => .done (.ok ())

/-- Creates one widget more than it deletes. -/
def replacing (count : Nat) : Program (vocabulary Gate) Unit := do
  Program.step (execution .create (count + 1))
  Program.step (execution .delete count)

def application (check : Gate → Option String → Bool × Gate) : Application (vocabulary Gate) where
  execute {job} _ count :=
    match job with
    | .create => adding (Int.ofNat count)
    | .delete => adding (-Int.ofNat count)
    | .replace => replacing count
  undo {job} _ count _ :=
    match job with
    | .create => adding (-Int.ofNat count)
    | .delete => adding (Int.ofNat count)
    | .replace => .done (.ok ())
  check gate session _ := check gate session

def dispatcher (check : Gate → Option String → Bool × Gate) : Dispatcher (vocabulary Gate) :=
  { app := application check }

def handlers : HandlerTable (vocabulary Gate) :=
  let simple := (Table.empty.insert Job.create ⟨Job.create, ()⟩).insert Job.delete ⟨Job.delete, ()⟩
  simple.insert Job.replace ⟨Job.replace, ()⟩

/-- No widgets yet, every handler registered, and these gates for creating, deleting and
replacing. -/
def opening (create delete replace : Gate) : State (vocabulary Gate) where
  handlers
  validators :=
    .upFront (((Table.empty.insert Job.create ⟨0⟩).insert Job.delete ⟨1⟩).insert Job.replace ⟨2⟩)
  store := { instances := [create, delete, replace] }
  channels := []
  requests := 0
  world := (0 : Int)

/-- A gate that accepts its members. -/
def members (sessions : List String) (session : Option String) : Bool × List String :=
  (session.any (· ∈ sessions), sessions)

/-- A gate that accepts whoever asks, but only so often. -/
def turnstile (left : Nat) (_ : Option String) : Bool × Nat :=
  match left with
  | 0 => (false, 0)
  | left + 1 => (true, left)

/-- Replacing performs steps, the rest is done at once. -/
def Job.isSimple : Job → Bool
  | .create | .delete => true
  | .replace => false

/-- The number of widgets. -/
def count (world : (vocabulary Gate).World) : Int := world

def membersOnly : Dispatcher (vocabulary (List String)) := dispatcher members

def counted : Dispatcher (vocabulary Nat) := dispatcher turnstile

/-- Replaces widgets, has some more created by a request of its own, and then fails. -/
def overreaching (count : Nat) : Program (vocabulary Gate) Unit := do
  replacing count
  Program.fresh (some "user") (execution .create count)
  Program.fail (.action "No room")

/-- Where replacing always fails in the end, a refused undo fails as well, and a rollback stops at
the first failure. -/
def strict : Dispatcher (vocabulary Nat) where
  app :=
    { application turnstile with
      execute := fun {job} _ count =>
        match job with
        | .create => adding (Int.ofNat count)
        | .delete => adding (-Int.ofNat count)
        | .replace => overreaching count }
  settings := { rollback := .stopOnFailure, unauthorizedUndo := .reject }

/-- Creates widgets, has as many deleted by a request for the deputy, and creates one more. -/
def delegating (count : Nat) : Program (vocabulary Gate) Unit := do
  Program.step (execution .create count)
  Program.fresh (some "deputy") (execution .delete count)
  Program.step (execution .create 1)

/-- Where replacing leaves it to a deputy to delete widgets. -/
def delegated : Dispatcher (vocabulary (List String)) where
  app :=
    { application members with
      execute := fun {job} _ count =>
        match job with
        | .create => adding (Int.ofNat count)
        | .delete => adding (-Int.ofNat count)
        | .replace => delegating count }

/-- The user may create and replace widgets, and the deputy may delete them. -/
def shared : State (vocabulary (List String)) := opening ["user"] ["deputy"] ["user"]

/-- The user may create and replace widgets, but nobody may delete them. -/
def guarded : State (vocabulary (List String)) := opening ["user"] [] ["user"]

/-- Widgets may be created once and replaced once, and never deleted. -/
def exhausting : State (vocabulary Nat) := opening 1 0 1

/-- Widgets may be created three times, deleted once and replaced once. -/
def crowded : State (vocabulary Nat) := opening 3 1 1

/-- The same without any handler. -/
def untended : State (vocabulary Nat) := { crowded with handlers := .empty }

end ActionDispatch.Widgets
