import ActionDispatch.Scenario.Catalogue

/-!
# The session validators of scenarios

A guard is a validator with its state. Only a turnstile changes when it is asked.
-/

namespace ActionDispatch.Scenario

inductive Guard
  /-- Accepts every session. -/
  | default
  /-- Accepts every session that is present. -/
  | loggedIn
  | adminOnly (admin : String)
  | denyAll
  /-- Accepts whoever asks, as often as this, and nobody afterwards. -/
  | turnstile (left : Nat)
  /-- Accepts every session that is present and not empty. -/
  | keyedString
  /-- Accepts what `keyedString` accepts, and is another type. -/
  | keyedVec
  | allow (sessions : List (Option String))
  /-- Accepts every session that is present and not listed. -/
  | block (sessions : List (Option String))

namespace Guard

def type : Guard → GuardType
  | .default => .default
  | .loggedIn => .loggedIn
  | .adminOnly _ => .adminOnly
  | .denyAll => .denyAll
  | .turnstile _ => .turnstile
  | .keyedString => .keyedString
  | .keyedVec => .keyedVec
  | .allow _ => .allow
  | .block _ => .block

/-- The verdict on a session, and the guard after it. -/
def check (guard : Guard) (session : Option String) : Bool × Guard :=
  match guard with
  | .default => (true, guard)
  | .loggedIn => (session.isSome, guard)
  | .adminOnly admin => (session = some admin, guard)
  | .denyAll => (false, guard)
  | .turnstile 0 => (false, guard)
  | .turnstile (left + 1) => (true, .turnstile left)
  | .keyedString | .keyedVec => (session.any (!·.isEmpty), guard)
  | .allow sessions => (session ∈ sessions, guard)
  | .block sessions => (session.isSome && session ∉ sessions, guard)

end Guard

/-- What a guard can be set up with; a guard uses what concerns it. -/
structure GuardOptions where
  admin : String := "admin"
  /-- How often a turnstile opens: never, when this is not above zero. -/
  passes : Int := 2
  sessions : List (Option String) := []

namespace GuardType

def guard (type : GuardType) (options : GuardOptions) : Guard :=
  match type with
  | .default => .default
  | .loggedIn => .loggedIn
  | .adminOnly => .adminOnly options.admin
  | .denyAll => .denyAll
  | .turnstile => .turnstile options.passes.toNat
  | .keyedString => .keyedString
  | .keyedVec => .keyedVec
  | .allow => .allow options.sessions
  | .block => .block options.sessions

/-- The guards that tell the journal about every session they are asked about. They cannot be built
without help. -/
def isReporting : GuardType → Bool
  | .allow | .block => true
  | _ => false

/-- The guard that a type builds without help. -/
def initial? (type : GuardType) : Option Guard :=
  if type.isReporting then none else some (type.guard {})

end GuardType

end ActionDispatch.Scenario
