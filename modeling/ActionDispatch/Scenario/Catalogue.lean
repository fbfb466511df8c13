import ActionDispatch.TypeName

/-!
# The catalogue of scenarios

Scenarios exercise the engine with a fixed set of action types and validator types. Two of the action types
have the same readable name, one has a name of its own choice, and some have type arguments.
-/

namespace ActionDispatch.Scenario

inductive ActionType
  | alpha | beta | gamma | pong | depotAlpha | batchString | batchAlpha | batchTuple
  deriving DecidableEq

namespace ActionType

def all : List ActionType :=
  [.alpha, .beta, .gamma, .pong, .depotAlpha, .batchString, .batchAlpha, .batchTuple]

def label : ActionType → String
  | .alpha => "Alpha"
  | .beta => "Beta"
  | .gamma => "Gamma"
  | .pong => "Pong"
  | .depotAlpha => "DepotAlpha"
  | .batchString => "BatchString"
  | .batchAlpha => "BatchAlpha"
  | .batchTuple => "BatchTuple"

def ofLabel? (label : String) : Option ActionType :=
  all.find? (·.label = label)

def qualified : ActionType → String
  | .alpha => "scenario::Alpha"
  | .beta => "scenario::Beta"
  | .gamma => "scenario::Gamma"
  | .pong => "scenario::Pong"
  | .depotAlpha => "scenario::depot::Alpha"
  | .batchString => "scenario::Batch<text::String>"
  | .batchAlpha => "scenario::Batch<scenario::Alpha>"
  | .batchTuple => "scenario::Batch<(u8, option::Option<scenario::Alpha>, [i64; 4])>"

/-- The readable name: the short form of the type's name, unless the type has chosen its own. -/
def name : ActionType → String
  | .pong => "pong"
  | type => TypeName.short type.qualified

end ActionType

inductive GuardType
  | default | loggedIn | adminOnly | denyAll | turnstile | keyedString | keyedVec | allow | block
  deriving DecidableEq

namespace GuardType

def all : List GuardType :=
  [.default, .loggedIn, .adminOnly, .denyAll, .turnstile, .keyedString, .keyedVec, .allow, .block]

def label : GuardType → String
  | .default => "Default"
  | .loggedIn => "LoggedIn"
  | .adminOnly => "AdminOnly"
  | .denyAll => "DenyAll"
  | .turnstile => "Turnstile"
  | .keyedString => "KeyedString"
  | .keyedVec => "KeyedVec"
  | .allow => "Allow"
  | .block => "Block"

def ofLabel? (label : String) : Option GuardType :=
  all.find? (·.label = label)

def qualified : GuardType → String
  | .default => "dispatch::DefaultSessionValidator"
  | .loggedIn => "scenario::LoggedIn"
  | .adminOnly => "scenario::AdminOnly"
  | .denyAll => "scenario::DenyAll"
  | .turnstile => "scenario::Turnstile"
  | .keyedString => "scenario::Keyed<text::String>"
  | .keyedVec => "scenario::Keyed<list::Vec<option::Option<scenario::AdminOnly>>>"
  | .allow => "scenario::Allow"
  | .block => "scenario::Block"

def name (type : GuardType) : String := TypeName.short type.qualified

end GuardType

end ActionDispatch.Scenario
