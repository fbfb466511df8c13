import ActionDispatch.Settings.Basic

/-!
# Settings from keys and values

Settings are collected from pairs of a key and a word. A setting may be given once, its value must be
one of its two words, keys that name no setting are passed over, and what is not given has its default.
-/

namespace ActionDispatch

inductive PairFault
  | duplicate (setting : Setting)
  | unknownWord (setting : Setting) (word : String)
  deriving DecidableEq

structure Draft where
  rollback : Option RollbackPolicy := none
  unauthorizedUndo : Option UnauthorizedUndo := none
  validatorRegistry : Option RegistryKind := none
  deriving DecidableEq

def RollbackPolicy.ofWord? : String → Option RollbackPolicy
  | "best_effort" => some .bestEffort
  | "stop_on_failure" => some .stopOnFailure
  | _ => none

def UnauthorizedUndo.ofWord? : String → Option UnauthorizedUndo
  | "ignore" => some .ignore
  | "reject" => some .reject
  | _ => none

def RegistryKind.ofWord? : String → Option RegistryKind
  | "lazy" => some .onDemand
  | "instance" => some .upFront
  | _ => none

namespace Draft

/-- Whether a setting was given. -/
def has (draft : Draft) : Setting → Bool
  | .rollback => draft.rollback.isSome
  | .unauthorizedUndo => draft.unauthorizedUndo.isSome
  | .validatorRegistry => draft.validatorRegistry.isSome

/-- The draft with a value for a setting, if the word is one of the setting's two. -/
def fill? (draft : Draft) (setting : Setting) (word : String) : Option Draft :=
  match setting with
  | .rollback => (RollbackPolicy.ofWord? word).map fun v => { draft with rollback := some v }
  | .unauthorizedUndo =>
    (UnauthorizedUndo.ofWord? word).map fun v => { draft with unauthorizedUndo := some v }
  | .validatorRegistry =>
    (RegistryKind.ofWord? word).map fun v => { draft with validatorRegistry := some v }

/-- The settings, with the default for each that was not given. -/
def finish (draft : Draft) : Settings where
  rollback := draft.rollback.getD .bestEffort
  unauthorizedUndo := draft.unauthorizedUndo.getD .ignore
  validatorRegistry := draft.validatorRegistry.getD .onDemand

/-- The draft after one more key. A key that names no setting is passed over and a repeated setting is
refused; only then is the value looked at. -/
def accept {ε : Type} (draft : Draft) (key : String) (repeated : Setting → ε)
    (value : Setting → Except ε Draft) : Except ε Draft :=
  match Setting.ofKey? key with
  | none => .ok draft
  | some setting => if draft.has setting then .error (repeated setting) else value setting

def enter (draft : Draft) (pair : String × String) : Except PairFault Draft :=
  draft.accept pair.1 .duplicate fun setting =>
    match draft.fill? setting pair.2 with
    | some draft => .ok draft
    | none => .error (.unknownWord setting pair.2)

end Draft

def Settings.ofPairs (pairs : List (String × String)) : Except PairFault Settings :=
  (pairs.foldlM Draft.enter {}).map Draft.finish

end ActionDispatch
