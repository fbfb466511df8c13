import ActionDispatch.LogRecord

/-!
# Channels

A channel hands events to one receiver, in order and without bound. When its receiver is gone, what was
waiting is lost and every later event is discarded. A receiver can be dropped, or go away by itself at any
moment of a run; since it makes no difference before the next event, such a moment is a number of events.
-/

namespace ActionDispatch

/-- The events that were handed to the receiver of a channel and not taken yet, oldest first. -/
structure Channel where
  waiting : List Event := []
  /-- For how many more events the receiver stays; without a number, it does not go away by itself. -/
  stays : Option Nat := none

inductive Received
  | event (event : Event)
  | empty
  | dropped

namespace Channel

/-- There is a receiver. -/
def received (channel : Channel) : Bool := channel.stays ≠ some 0

/-- Sends an event; one that nobody will receive leaves a record. -/
def send (channel : Channel) (event : Event) : Channel × List LogRecord :=
  if channel.received then
    ({ waiting := channel.waiting ++ [event], stays := channel.stays.map (· - 1) }, [])
  else (channel, [.discarded event])

def receive (channel : Channel) : Channel × Received :=
  if channel.received then
    match channel.waiting with
    | [] => (channel, .empty)
    | event :: rest => ({ channel with waiting := rest }, .event event)
  else (channel, .dropped)

/-- Takes all waiting events, or says that the receiver is gone. -/
def drain (channel : Channel) : Channel × Option (List Event) :=
  if channel.received then ({ channel with waiting := [] }, some channel.waiting)
  else (channel, none)

def drop (_ : Channel) : Channel :=
  { stays := some 0 }

end Channel

end ActionDispatch
