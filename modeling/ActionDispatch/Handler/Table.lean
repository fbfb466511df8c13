import ActionDispatch.LogRecord
import ActionDispatch.Table
import ActionDispatch.Vocabulary

/-!
# Handlers by action type

A handler keeps the action type that it serves, so a table can hold handlers of all types, and the typed
handler is got back only for its own type.
-/

namespace ActionDispatch

/-- A handler together with the action type that it serves. -/
structure AnyHandler (V : Vocabulary) where
  kind : V.Kind
  handler : V.Handler kind

variable {V : Vocabulary}

/-- The handler as one for `kind`, if that is the type it serves. -/
def AnyHandler.serving? (any : AnyHandler V) (kind : V.Kind) : Option (V.Handler kind) :=
  if h : any.kind = kind then some (h ▸ any.handler) else none

/-- At most one handler for each action type. -/
abbrev HandlerTable (V : Vocabulary) := Table V.Kind (AnyHandler V)

/-- Registers a handler for the type it serves. The last registration wins; a replacement is logged. -/
def HandlerTable.register (table : HandlerTable V) (any : AnyHandler V) :
    HandlerTable V × List LogRecord :=
  (table.insert any.kind any,
    if table.contains any.kind then [.handlerReplaced (V.kindName any.kind)] else [])

end ActionDispatch
