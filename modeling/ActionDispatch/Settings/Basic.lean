/-!
# Engine settings

Three choices, each with a default. A choice is written as a word in a settings document and as a
label in descriptions.
-/

namespace ActionDispatch

/-- What to do when a compensating step fails during a rollback. -/
inductive RollbackPolicy
  /-- Go on with the remaining entries and report the first failure. -/
  | bestEffort
  /-- Stop at the first failing step. -/
  | stopOnFailure
  deriving DecidableEq

/-- The outcome of an undo whose session validator refuses the caller. -/
inductive UnauthorizedUndo
  /-- Nothing happens and nothing is reported. -/
  | ignore
  /-- The undo fails for lack of rights. -/
  | reject
  deriving DecidableEq

inductive RegistryKind
  /-- Validators are created on first use. -/
  | onDemand
  /-- Validators are created while the dispatcher is built. -/
  | upFront
  deriving DecidableEq

def RollbackPolicy.word : RollbackPolicy → String
  | .bestEffort => "best_effort"
  | .stopOnFailure => "stop_on_failure"

def RollbackPolicy.label : RollbackPolicy → String
  | .bestEffort => "BestEffort"
  | .stopOnFailure => "StopOnFailure"

def UnauthorizedUndo.word : UnauthorizedUndo → String
  | .ignore => "ignore"
  | .reject => "reject"

def UnauthorizedUndo.label : UnauthorizedUndo → String
  | .ignore => "Ignore"
  | .reject => "Reject"

def RegistryKind.word : RegistryKind → String
  | .onDemand => "lazy"
  | .upFront => "instance"

def RegistryKind.label : RegistryKind → String
  | .onDemand => "Lazy"
  | .upFront => "Instance"

structure Settings where
  rollback : RollbackPolicy := .bestEffort
  unauthorizedUndo : UnauthorizedUndo := .ignore
  validatorRegistry : RegistryKind := .onDemand
  deriving DecidableEq

inductive Setting
  | rollback | unauthorizedUndo | validatorRegistry
  deriving DecidableEq

namespace Setting

/-- The key under which a setting stands in a document. -/
def key : Setting → String
  | .rollback => "rollback"
  | .unauthorizedUndo => "unauthorized_undo"
  | .validatorRegistry => "validator_registry"

def ofKey? : String → Option Setting
  | "rollback" => some .rollback
  | "unauthorized_undo" => some .unauthorizedUndo
  | "validator_registry" => some .validatorRegistry
  | _ => none

/-- The two words that a setting can have as its value, the default first. -/
def words : Setting → String × String
  | .rollback => (RollbackPolicy.bestEffort.word, RollbackPolicy.stopOnFailure.word)
  | .unauthorizedUndo => (UnauthorizedUndo.ignore.word, UnauthorizedUndo.reject.word)
  | .validatorRegistry => (RegistryKind.onDemand.word, RegistryKind.upFront.word)

end Setting

namespace Settings

def word (settings : Settings) : Setting → String
  | .rollback => settings.rollback.word
  | .unauthorizedUndo => settings.unauthorizedUndo.word
  | .validatorRegistry => settings.validatorRegistry.word

def render (settings : Settings) : String :=
  String.join ([Setting.rollback, .unauthorizedUndo, .validatorRegistry].map fun setting =>
    setting.key ++ ": " ++ settings.word setting ++ "\n")

def describe (settings : Settings) : String :=
  "DispatchConfig \x7b rollback: " ++ settings.rollback.label ++
    ", unauthorized_undo: " ++ settings.unauthorizedUndo.label ++
    ", validator_registry: " ++ settings.validatorRegistry.label ++ " \x7d"

end Settings

end ActionDispatch
