import ActionDispatch.Proofs.Course

/-!
# How requests are framed

A request opens in a context of its own, for the session and with the step that it is asked for with,
and closes there with the answer that it gives (`Passage.framed`). Clients ask for requests by their moves,
and handlers by their programs, at any depth, and both go on with just this answer
(`runs_as_asked`).
-/

namespace ActionDispatch

variable {V : Vocabulary}

/-- What is left of a request with this number, session and step that gives this answer, unless it is
cut short. -/
inductive Framed (number : Nat) (session : Option String) (step : Step V) :
    Option (Answer step.Result) → List (Moment V) → Prop
  | cut {body} : Framed number session step none (.opened ⟨⟨number⟩, session, false⟩ step :: body)
  | answered {body} (answer : Answer step.Result) : Framed number session step (some answer)
      (.opened ⟨⟨number⟩, session, false⟩ step ::
        (body ++ [.closed ⟨⟨number⟩, session, false⟩ step answer]))

namespace Dispatcher

/-- Requests are run as they are asked for. -/
structure RunsAsAsked (dispatcher : Dispatcher V) (depth : Nat) : Prop where
  /-- A request has the session and the step it is asked for with, and a number of its own; its answer
  is the one it closes with. -/
  framed : ∀ session step state, Framed state.requests session step
    (dispatcher.run (depth + 1) session step state).value
    (dispatcher.run (depth + 1) session step state).moments
  /-- A move that asks for a request is made by running it, after the moves before it; the client gets
  its answer and goes on. -/
  client : ∀ {moves later session step start replies middle before},
    dispatcher.serve depth moves start = ⟨some replies, middle, before⟩ →
    dispatcher.serve depth (moves ++ .request session step :: later) start =
      ((dispatcher.run depth session step middle).andThen fun answer => do
        let others ← dispatcher.serve depth later
        pure (replies ++ .answered step answer :: others)).after before
  /-- A program that asks for a request has it run, after what the program did before, and goes on with
  its answer, in the context and with the log that it had. -/
  handler : ∀ {α β : Type} {program : Program V α} {f : Answer α → Program V β} {caller log start}
      {given later middle before session step} {next : Answer step.Result → Program V β},
    dispatcher.interpret (dispatcher.callsAt depth) caller program log start =
      ⟨some (given, later), middle, before⟩ →
    f given = .request session step next →
    dispatcher.interpret (dispatcher.callsAt depth) caller (program.andThen f) log start =
      ((dispatcher.run depth session step middle).andThen fun answer =>
        dispatcher.interpret (dispatcher.callsAt depth) caller (next answer) later).after before

variable {dispatcher : Dispatcher V}

theorem Passage.framed {session : Option String} {step : Step V} {state : State V}
    {out : Outcome V (Answer step.Result)} (h : dispatcher.Passage session step state out) :
    Framed state.requests session step out.value out.moments := by
  cases h with
  | begun => exact .cut
  | broken => exact .cut
  | request answer =>
    rw [← List.append_assoc]
    exact .answered answer

theorem run_passage (dispatcher : Dispatcher V) (depth : Nat) (session : Option String)
    (step : Step V) (state : State V) :
    dispatcher.Passage session step state (dispatcher.run (depth + 1) session step state) :=
  request_passage (fun _ => perform_follows (callsAt_follow dispatcher depth)) session step state

theorem runs_as_asked (dispatcher : Dispatcher V) (depth : Nat) : dispatcher.RunsAsAsked depth where
  framed session step state := (dispatcher.run_passage depth session step state).framed
  client {moves later session step start replies middle before} served := by
    rw [serve_append, Run.bind_apply, served, Outcome.andThen_some]
    simp only [serve, bind_assoc, pure_bind]
    rw [Run.bind_apply]
  handler {_ _ program f caller log start given later middle before session step next} ran asks := by
    rw [interpret_andThen, Run.bind_apply, ran, Outcome.andThen_some]
    dsimp only
    rw [asks]
    rfl

end Dispatcher

end ActionDispatch
