import ActionDispatch.Proofs.Walk
import ActionDispatch.Proofs.Widgets

/-!
# The protocol of events

The events of one request, in the order in which they are emitted, form a `Word`: the request is
started, steps are performed or refused, and then it is completed, or it fails, or it is rolled back
block by block and fails. `Life.told` says so of one request, with its answer for the ending, and that
the events of one that is cut short begin such a word; `serve_keepsProtocol` of every request in what
clients and handlers do.
-/

namespace ActionDispatch

variable {V : Vocabulary}

/-- What is told of one turn of a rollback: steps, and then how the turn ended. -/
inductive Block (request : RequestId) : List Event → Prop
  | intro {steps : List Event} {action redo success}
      (all : ∀ event ∈ steps, event.isStep = true) :
      Block request (steps ++ [.rollbackStepCompleted request action redo success])

/-- What is told of the end of a request that is answered well, or not. -/
inductive Finale (request : RequestId) : Bool → List Event → Prop
  | completed : Finale request true [.completed request]
  | failed {message} : Finale request false [.failed request message]
  | rolledBack {entries message} {blocks : List (List Event)} (nonempty : blocks ≠ [])
      (each : ∀ block ∈ blocks, Block request block) :
      Finale request false
        (.rollbackStarted request entries :: (blocks.flatten ++ [.failed request message]))

/-- What is told of a request for this action that is answered well, or not. -/
inductive Word (request : RequestId) (action : String) (ok : Bool) : List Event → Prop
  | intro {steps finale : List Event} (all : ∀ event ∈ steps, event.isStep = true)
      (ends : Finale request ok finale) :
      Word request action ok (.started request action :: (steps ++ finale))

/-- What is told of a request for this action, which is answered well, or not, or is cut short. -/
inductive Told (request : RequestId) (action : String) : Option Bool → List Event → Prop
  | answered {ok events} (word : Word request action ok events) : Told request action (some ok) events
  | cut {events whole} (word : Word request action false whole) (begins : events <+: whole) :
      Told request action none events

namespace Dispatcher

variable {dispatcher : Dispatcher V} {caller : Caller}

theorem Walk.blocks {entries : List (Entry V)} {turns : List (Turn V)} {rest : List (Moment V)}
    {errors? : Option (List DispatchError)} (h : dispatcher.Walk caller entries turns rest errors?) :
    ∀ block ∈ turns.map (Turn.events caller.request), Block caller.request block := by
  intro block hblock
  obtain ⟨turn, hturn, rfl⟩ := List.mem_map.1 hblock
  exact .intro (h.steps turn hturn)

theorem Walk.turns_ne_nil {entries : List (Entry V)} {turns : List (Turn V)}
    {rest : List (Moment V)} {errors : List DispatchError}
    (h : dispatcher.Walk caller entries turns rest (some errors)) (nonempty : entries ≠ []) :
    turns ≠ [] := by
  rintro rfl
  exact nonempty ((h.getsThrough rfl).1.complete (.inl fun _ ht => (nomatch ht))).symm

/-- The events at the end of a request make up its finale. -/
theorem Ending.finale {step : Step V} {log : List (Entry V)}
    {given? answer? : Option (Answer step.Result)} {moments : List (Moment V)}
    (h : dispatcher.Ending caller step log given? answer? moments) {answer : Answer step.Result}
    (finished : answer? = some answer) :
    Finale caller.request answer.isOk (eventsOf caller.request moments) := by
  cases h with
  | halted | broken => cases finished
  | completed tells =>
    cases finished
    rw [eventsOf_completing tells]
    exact .completed
  | failed nothing tells =>
    cases finished
    rw [eventsOf_failing tells]
    exact .failed
  | rolledBack logged rolls walk silent tells =>
    cases finished
    rw [walk.eventsOf_whole rolls silent tells, List.flatMap_def]
    refine .rolledBack (fun none => ?_) walk.blocks
    exact walk.turns_ne_nil (by simpa using logged) (List.map_eq_nil_iff.1 none)

/-- The events at the end of a request that is cut short begin a finale. -/
theorem Ending.finale_prefix {step : Step V} {log : List (Entry V)}
    {given? answer? : Option (Answer step.Result)} {moments : List (Moment V)}
    (h : dispatcher.Ending caller step log given? answer? moments) (unfinished : answer? = none) :
    ∃ finale, Finale caller.request false finale ∧ eventsOf caller.request moments <+: finale := by
  cases h with
  | halted => exact ⟨[.failed caller.request ""], .failed, List.nil_prefix⟩
  | completed | failed | rolledBack => cases unfinished
  | @broken original opening turns rest logged rolls walk =>
    obtain ⟨entry, inside, rfl, works, -⟩ := walk.cutShort rfl
    -- The block that is cut short could still end in one way or the other.
    let unended : Event := .rollbackStepCompleted caller.request entry.name (!entry.executed) false
    have each : ∀ block ∈ turns.map (Turn.events caller.request) ++
        [eventsOf caller.request inside ++ [unended]], Block caller.request block := by
      intro block hblock
      rcases List.mem_append.1 hblock with hblock | hblock
      · exact walk.blocks block hblock
      · exact List.mem_singleton.1 hblock ▸ .intro works.worked.steps
    have finale : Finale caller.request false (.rollbackStarted caller.request log.length ::
        ((turns.map (Turn.events caller.request) ++
          [eventsOf caller.request inside ++ [unended]]).flatten ++ [.failed caller.request ""])) :=
      .rolledBack (by simp) each
    refine ⟨_, finale, [unended, .failed caller.request ""], ?_⟩
    rw [walk.eventsOf_eq rolls, eventsOf_cons_of_unsaid rfl]
    simp [List.flatMap_def]

/-- The events of a request that is answered form a word. -/
theorem Life.word {session : Option String} {step : Step V} {state : State V}
    {answer? : Option (Answer step.Result)} {moments : List (Moment V)}
    (h : dispatcher.Life session step state answer? moments) {answer : Answer step.Result}
    (finished : answer? = some answer) :
    Word ⟨state.requests⟩ step.name answer.isOk (eventsOf ⟨state.requests⟩ moments) := by
  obtain ⟨tells, labour, ending⟩ := h
  change Word (Caller.fresh state session).request _ _ (eventsOf (Caller.fresh state session).request _)
  rw [eventsOf_request (tells_of_emit tells), eventsOf_append]
  exact .intro labour.works.worked.steps (ending.finale finished)

/-- The events of one that is cut short begin a word. -/
theorem Life.word_prefix {session : Option String} {step : Step V} {state : State V}
    {answer? : Option (Answer step.Result)} {moments : List (Moment V)}
    (h : dispatcher.Life session step state answer? moments) (unfinished : answer? = none) :
    ∃ word, Word ⟨state.requests⟩ step.name false word ∧
      eventsOf ⟨state.requests⟩ moments <+: word := by
  obtain ⟨tells, labour, ending⟩ := h
  obtain ⟨finale, ends, begins⟩ := ending.finale_prefix unfinished
  refine ⟨_, .intro labour.works.worked.steps ends, ?_⟩
  change eventsOf (Caller.fresh state session).request _ <+: _
  rw [eventsOf_request (tells_of_emit tells), eventsOf_append]
  exact List.cons_prefix_cons.2 ⟨rfl, (List.prefix_append_right_inj _).2 begins⟩

theorem Life.told {session : Option String} {step : Step V} {state : State V}
    {answer? : Option (Answer step.Result)} {moments : List (Moment V)}
    (h : dispatcher.Life session step state answer? moments) :
    Told ⟨state.requests⟩ step.name (answer?.map Except.isOk)
      (eventsOf ⟨state.requests⟩ moments) := by
  cases answer? with
  | some answer => exact .answered (h.word rfl)
  | none =>
    obtain ⟨_, word, begins⟩ := h.word_prefix rfl
    exact .cut word begins

/-! ### All requests of a run -/

/-- Every request of these moments keeps to the protocol. -/
structure KeepsProtocol (dispatcher : Dispatcher V) (moments : List (Moment V)) (finished : Bool) :
    Prop where
  /-- Every event is of a request that begins. -/
  known : ∀ event, .emitted event ∈ moments →
    ∃ caller step, .opened caller step ∈ moments ∧ caller.request = event.request
  /-- The events of a request that has this answer form a word with the ending for it. -/
  answered : ∀ caller step answer, .closed caller step answer ∈ moments →
    Word caller.request step.name answer.isOk (eventsOf caller.request moments)
  /-- Whatever comes of a request, its events begin a word. -/
  begun : ∀ caller step, .opened caller step ∈ moments →
    ∃ ok word, Word caller.request step.name ok word ∧ eventsOf caller.request moments <+: word
  /-- Unless the run is cut short, every request is answered. -/
  ends : finished = true → ∀ caller step, .opened caller step ∈ moments →
    ∃ answer, .closed caller step answer ∈ moments
  /-- An observing sink gets all events, in the order in which they are emitted. -/
  heard : dispatcher.Heard moments

theorem Ending.closed_mem {step : Step V} {log : List (Entry V)}
    {given? answer? : Option (Answer step.Result)} {moments : List (Moment V)}
    (h : dispatcher.Ending caller step log given? answer? moments) {answer : Answer step.Result}
    (finished : answer? = some answer) : .closed caller step answer ∈ moments := by
  cases h with
  | halted | broken => cases finished
  | completed | failed | rolledBack =>
    cases finished
    simp

/-- Whatever clients and handlers do, every request keeps to the protocol, and what is told of it ends
with the answer that the one who asks for it gets. -/
theorem serve_keepsProtocol (dispatcher : Dispatcher V) (depth : Nat) (moves : List (Move V))
    (state : State V) :
    dispatcher.KeepsProtocol (dispatcher.serve depth moves state).moments
        (dispatcher.serve depth moves state).value.isSome ∧
      dispatcher.RunsAsAsked depth ∧
      ∀ session step start, Told ⟨start.requests⟩ step.name
        ((dispatcher.run (depth + 1) session step start).value.map Except.isOk)
        (eventsOf ⟨start.requests⟩ (dispatcher.run (depth + 1) session step start).moments) := by
  have episodes := dispatcher.serve_episodes depth moves state
  refine ⟨⟨fun event h => ?_, fun caller step answer h => ?_, fun caller step h => ?_,
    fun finished caller step h => ?_, dispatcher.serve_heard depth moves state⟩,
    dispatcher.runs_as_asked depth, fun session step start =>
      (dispatcher.run_life depth session step start).told⟩
  · exact dispatcher.serve_opened depth moves state h rfl
  · obtain ⟨before, own, after, session, start, split, rfl, before_not, after_not, life, -⟩ :=
      (episodes.closed h).life h rfl
    rw [split, eventsOf_amid before_not after_not]
    exact life.word rfl
  · obtain ⟨answer?, episode, -⟩ := episodes.opened h
    obtain ⟨before, own, after, session, start, split, rfl, before_not, after_not, life, -⟩ :=
      episode.life h rfl
    rw [split, eventsOf_amid before_not after_not]
    cases answer? with
    | some answer => exact ⟨_, _, life.word rfl, List.prefix_rfl⟩
    | none => exact ⟨false, life.word_prefix rfl⟩
  · obtain ⟨answer?, episode, answered⟩ := episodes.opened h
    obtain ⟨before, own, after, session, start, split, rfl, -, -, life, -⟩ := episode.life h rfl
    obtain ⟨answer, rfl⟩ := Option.isSome_iff_exists.1 (answered finished)
    refine ⟨answer, ?_⟩
    obtain ⟨tells, labour, ending⟩ := life
    rw [split]
    simp [ending.closed_mem rfl]

open Widgets in
/-- A replacement that fails half-way is told to the end, with the one turn of its rollback. -/
theorem refused_replace_told :
    let out := membersOnly.run 2 (some "user") (execution .replace 1) guarded
    out.value = some (.error .insufficientRights) ∧
      Word ⟨0⟩ "ReplaceWidgets" false (eventsOf ⟨0⟩ out.moments) ∧
      eventsOf ⟨0⟩ out.moments =
        [.started ⟨0⟩ "ReplaceWidgets", .executed ⟨0⟩ "CreateWidgets",
          .rejected ⟨0⟩ "DeleteWidgets" false, .rollbackStarted ⟨0⟩ 1, .undone ⟨0⟩ "CreateWidgets",
          .rollbackStepCompleted ⟨0⟩ "CreateWidgets" false true,
          .failed ⟨0⟩ "Insufficient rights"] := by
  intro out
  obtain ⟨-, -, told⟩ := membersOnly.serve_keepsProtocol 1 [] guarded
  cases told (some "user") (execution .replace 1) guarded with
  | answered word => exact ⟨rfl, word, rfl⟩

end Dispatcher

end ActionDispatch
