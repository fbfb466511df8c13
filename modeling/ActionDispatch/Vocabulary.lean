/-!
# Vocabularies

The engine is independent of what an application dispatches. A vocabulary names the application's action
types with their inputs and results, its handlers, its session validators, and the world they act on.
-/

namespace ActionDispatch

/-- The types of an application. -/
structure Vocabulary where
  /-- The action types. They are told apart by identity, never by name. -/
  Kind : Type
  [kindEq : DecidableEq Kind]
  /-- The readable name of an action type; two types may share one. -/
  kindName : Kind → String
  /-- What an action of a type is about. -/
  Input : Kind → Type
  /-- What executing an action of a type results in. -/
  Output : Kind → Type
  /-- The handlers that serve an action type. -/
  Handler : Kind → Type
  /-- The types of session validator. -/
  Class : Type
  [classEq : DecidableEq Class]
  className : Class → String
  /-- The state of a session validator. -/
  Validator : Type
  /-- Whatever handlers read and change. -/
  World : Type
  /-- What handlers tell an observer of a run. -/
  Note : Type

attribute [instance] Vocabulary.kindEq Vocabulary.classEq

end ActionDispatch
