import ActionDispatch.Text.Hex

/-!
# Requests and events

A request is known by a 128-bit number. Whatever happens to it is told as events, in order.
-/

namespace ActionDispatch

structure RequestId where
  number : Nat
  deriving DecidableEq

namespace RequestId

def groups : List Nat := [8, 4, 4, 4, 12]

/-- The digits in groups, with a hyphen between two groups. -/
def hyphenate : List Nat → List Char → List Char
  | [], _ => []
  | [n], cs => cs.take n
  | n :: ns, cs => cs.take n ++ '-' :: hyphenate ns (cs.drop n)

def text (id : RequestId) : String :=
  String.ofList (hyphenate groups (Text.hexDigits 32 id.number))

/-- The digits of a hyphenated form, if the hyphens stand where they belong. -/
def unhyphenate? : List Nat → List Char → Option (List Char)
  | [], cs => if cs.isEmpty then some [] else none
  | [n], cs => if cs.length = n then some cs else none
  | n :: ns, cs =>
    match cs.drop n with
    | '-' :: rest => (unhyphenate? ns rest).map (cs.take n ++ ·)
    | _ => none

/-- Reads a request number: 32 digits, or the hyphenated form, which may stand in braces or follow
`urn:uuid:`. -/
def ofText? (s : String) : Option RequestId :=
  let cs := s.toList
  let simple (cs : List Char) := (Text.hexNumber? cs).map RequestId.mk
  let hyphenated (cs : List Char) := (unhyphenate? groups cs).bind simple
  let named := "urn:uuid:".toList
  if cs.length = 32 then simple cs
  else if cs.length = 38 ∧ cs.head? = some '{' ∧ cs.getLast? = some '}' then
    hyphenated (cs.drop 1).dropLast
  else if cs.take named.length = named then hyphenated (cs.drop named.length)
  else hyphenated cs

end RequestId

/-- What happened to a request. Action types are given by their readable names. -/
inductive Event
  | started (request : RequestId) (action : String)
  | executed (request : RequestId) (action : String)
  | undone (request : RequestId) (action : String)
  /-- The session validator refused the caller. -/
  | rejected (request : RequestId) (action : String) (undo : Bool)
  | rollbackStarted (request : RequestId) (entries : Nat)
  | rollbackStepCompleted (request : RequestId) (action : String) (redo success : Bool)
  | completed (request : RequestId)
  | failed (request : RequestId) (error : String)
  deriving DecidableEq

namespace Event

def request : Event → RequestId
  | .started r _ | .executed r _ | .undone r _ | .rejected r _ _ | .rollbackStarted r _
  | .rollbackStepCompleted r _ _ _ | .completed r | .failed r _ => r

def kind : Event → String
  | .started .. => "started"
  | .executed .. => "executed"
  | .undone .. => "undone"
  | .rejected .. => "rejected"
  | .rollbackStarted .. => "rollback_started"
  | .rollbackStepCompleted .. => "rollback_step_completed"
  | .completed .. => "completed"
  | .failed .. => "failed"

/-- The action an event is about, if it concerns a single one. -/
def action? : Event → Option String
  | .started _ a | .executed _ a | .undone _ a | .rejected _ a _
  | .rollbackStepCompleted _ a _ _ => some a
  | .rollbackStarted .. | .completed .. | .failed .. => none

end Event

end ActionDispatch
