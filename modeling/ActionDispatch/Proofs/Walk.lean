import ActionDispatch.Proofs.Life

/-!
# What is to be seen of a rollback

Of a walk through a log: the events of its turns, the entries that it turns to, in which context it
does so, and how far it gets (`Walk.getsThrough`, `Walk.cutShort`).
-/

namespace ActionDispatch

variable {V : Vocabulary}

/-- The events of its request in a turn. -/
def Turn.events (request : RequestId) (turn : Turn V) : List Event :=
  eventsOf request turn.inside ++ [turn.event request]

namespace Dispatcher

variable {dispatcher : Dispatcher V} {caller : Caller}

theorem Turned.eventsOf_eq {turn : Turn V} {failure : Option DispatchError}
    (h : dispatcher.Turned caller turn failure) :
    eventsOf caller.request (turn.moments caller) = turn.events caller.request := by
  have told := h.tells.eventsOf_eq
  change eventsOf caller.request (.compensating caller turn.entry :: (turn.inside ++
    .logged turn.record :: .emitted (turn.event caller.request) :: turn.delivery)) = _
  rw [eventsOf_cons_of_unsaid rfl, eventsOf_append, eventsOf_cons_of_unsaid rfl]
  exact congrArg _ told

theorem Turned.turnedTo_eq {turn : Turn V} {failure : Option DispatchError}
    (h : dispatcher.Turned caller turn failure) :
    turnedTo caller.request (turn.moments caller) = [turn.entry] := by
  have told : turnedTo caller.request (.emitted (turn.event caller.request) :: turn.delivery) = [] :=
    turnedTo_of_outside h.tells.outside
  have turned : (.compensating caller turn.entry : Moment V).turned? caller.request =
      some turn.entry := if_pos rfl
  refine (List.filterMap_cons_some turned).trans (congrArg (turn.entry :: ·) ?_)
  refine (turnedTo_append _ _).trans ?_
  rw [h.works.worked.unturned]
  exact told

theorem Walk.turned {entries : List (Entry V)} {turns : List (Turn V)} {rest : List (Moment V)}
    {errors? : Option (List DispatchError)} (h : dispatcher.Walk caller entries turns rest errors?) :
    ∀ turn ∈ turns, ∃ failure, dispatcher.Turned caller turn failure := by
  induction h with
  | done | halted => exact fun _ ht => (nomatch ht)
  | stopped policy turned => exact fun turn ht => List.mem_singleton.1 ht ▸ ⟨_, turned⟩
  | onward goesOn turned walk ih =>
    intro turn ht
    rcases List.mem_cons.1 ht with rfl | ht
    · exact ⟨_, turned⟩
    · exact ih turn ht

/-- Between the ends of its turns, a rollback tells of steps only. -/
theorem Walk.steps {entries : List (Entry V)} {turns : List (Turn V)} {rest : List (Moment V)}
    {errors? : Option (List DispatchError)} (h : dispatcher.Walk caller entries turns rest errors?) :
    ∀ turn ∈ turns, ∀ event ∈ eventsOf caller.request turn.inside, event.isStep = true := by
  intro turn hturn
  obtain ⟨failure, turned⟩ := h.turned turn hturn
  exact turned.works.worked.steps

theorem eventsOf_turns {turns : List (Turn V)}
    (h : ∀ turn ∈ turns, ∃ failure, dispatcher.Turned caller turn failure) :
    eventsOf caller.request (turns.flatMap (Turn.moments caller)) =
      turns.flatMap (Turn.events caller.request) := by
  induction turns with
  | nil => rfl
  | cons turn turns ih =>
    obtain ⟨failure, turned⟩ := h turn List.mem_cons_self
    rw [List.flatMap_cons, List.flatMap_cons, eventsOf_append, turned.eventsOf_eq,
      ih fun turn ht => h turn (List.mem_cons_of_mem _ ht)]

theorem turnedTo_turns {turns : List (Turn V)}
    (h : ∀ turn ∈ turns, ∃ failure, dispatcher.Turned caller turn failure) :
    turnedTo caller.request (turns.flatMap (Turn.moments caller)) = turns.map Turn.entry := by
  induction turns with
  | nil => rfl
  | cons turn turns ih =>
    obtain ⟨failure, turned⟩ := h turn List.mem_cons_self
    rw [List.flatMap_cons, turnedTo_append, turned.turnedTo_eq,
      ih fun turn ht => h turn (List.mem_cons_of_mem _ ht)]
    rfl

/-- The events of a rollback: its announcement and its turns, before whatever follows. -/
theorem Walk.eventsOf_eq {log : List (Entry V)} {turns : List (Turn V)} {rest : List (Moment V)}
    {errors? : Option (List DispatchError)}
    (walk : dispatcher.Walk caller.rollback log.reverse turns rest errors?)
    {opening : List (Moment V)}
    (rolls : dispatcher.Tells (.rollbackStarted caller.request log.length) opening)
    (record : LogRecord) (moments : List (Moment V)) :
    eventsOf caller.request (.logged record :: (opening ++
        (turns.flatMap (Turn.moments caller.rollback) ++ moments))) =
      .rollbackStarted caller.request log.length ::
        (turns.flatMap (Turn.events caller.request) ++ eventsOf caller.request moments) := by
  have turned : eventsOf caller.request (turns.flatMap (Turn.moments caller.rollback)) =
      turns.flatMap (Turn.events caller.request) := eventsOf_turns walk.turned
  rw [eventsOf_cons_of_unsaid rfl, ← turned, ← eventsOf_append]
  exact rolls.eventsOf_append _

/-- The events of a request begin with its start and go on with those of its work. -/
theorem eventsOf_request {step : Step V} {opening : List (Moment V)}
    (tells : dispatcher.Tells (.started caller.request step.name) opening)
    (moments : List (Moment V)) :
    eventsOf caller.request (.opened caller step :: (opening ++ moments)) =
      .started caller.request step.name :: eventsOf caller.request moments := by
  rw [eventsOf_cons_of_unsaid rfl]
  exact tells.eventsOf_append _

theorem eventsOf_completing {step : Step V} {output : step.Result} {told : List (Moment V)}
    (tells : dispatcher.Tells (.completed caller.request) told) :
    eventsOf caller.request (told ++ [.closed caller step (.ok output)]) =
      [.completed caller.request] :=
  tells.eventsOf_append _

theorem eventsOf_failing {step : Step V} {error : DispatchError} {told : List (Moment V)}
    (tells : dispatcher.Tells (.failed caller.request error.message) told) :
    eventsOf caller.request (told ++ [.closed caller step (.error error)]) =
      [.failed caller.request error.message] :=
  tells.eventsOf_append _

/-- The events of a rollback that is not cut short. -/
theorem Walk.eventsOf_whole {log : List (Entry V)} {turns : List (Turn V)} {rest : List (Moment V)}
    {errors? : Option (List DispatchError)}
    (walk : dispatcher.Walk caller.rollback log.reverse turns rest errors?)
    {opening closing told : List (Moment V)}
    (rolls : dispatcher.Tells (.rollbackStarted caller.request log.length) opening)
    (silent : ∀ m ∈ closing, m.Silent) {error : DispatchError}
    (tells : dispatcher.Tells (.failed caller.request error.message) told) (record : LogRecord)
    (step : Step V) :
    eventsOf caller.request (.logged record :: (opening ++
        (turns.flatMap (Turn.moments caller.rollback) ++
          (closing ++ (told ++ [.closed caller step (.error error)]))))) =
      .rollbackStarted caller.request log.length ::
        (turns.flatMap (Turn.events caller.request) ++ [.failed caller.request error.message]) := by
  have quiet : eventsOf caller.request closing = [] :=
    eventsOf_of_absent fun m hm => by simp [(silent m hm).1]
  rw [walk.eventsOf_eq rolls, eventsOf_append, quiet, eventsOf_failing tells, List.nil_append]

/-- The entries that a rollback turns to, before whatever follows. -/
theorem Walk.turnedTo_eq {log : List (Entry V)} {turns : List (Turn V)} {rest : List (Moment V)}
    {errors? : Option (List DispatchError)}
    (walk : dispatcher.Walk caller.rollback log.reverse turns rest errors?)
    {opening : List (Moment V)}
    (rolls : dispatcher.Tells (.rollbackStarted caller.request log.length) opening)
    (record : LogRecord) (moments : List (Moment V)) :
    turnedTo caller.request (.logged record :: (opening ++
        (turns.flatMap (Turn.moments caller.rollback) ++ moments))) =
      turns.map Turn.entry ++ turnedTo caller.request moments := by
  have turned : turnedTo caller.request (turns.flatMap (Turn.moments caller.rollback)) =
      turns.map Turn.entry := turnedTo_turns walk.turned
  have announced : turnedTo caller.request opening = [] := turnedTo_of_outside rolls.outside
  refine (List.filterMap_cons_none rfl).trans ?_
  change turnedTo caller.request _ = _
  rw [turnedTo_append, turnedTo_append, announced, turned, List.nil_append]

theorem turnedTo_closing {step : Step V} {event : Event} {told : List (Moment V)}
    (tells : dispatcher.Tells event told) (request : RequestId) (answer : Answer step.Result) :
    turnedTo request (told ++ [.closed caller step answer]) = [] := by
  rw [turnedTo_append, turnedTo_of_outside tells.outside]
  rfl

/-- The entries that a rollback turns to that is not cut short. -/
theorem Walk.turnedTo_whole {log : List (Entry V)} {turns : List (Turn V)} {rest : List (Moment V)}
    {errors? : Option (List DispatchError)}
    (walk : dispatcher.Walk caller.rollback log.reverse turns rest errors?)
    {opening closing told : List (Moment V)}
    (rolls : dispatcher.Tells (.rollbackStarted caller.request log.length) opening)
    (silent : ∀ m ∈ closing, m.Silent) {event : Event} (tells : dispatcher.Tells event told)
    (record : LogRecord) (step : Step V) (answer : Answer step.Result) :
    turnedTo caller.request (.logged record :: (opening ++
        (turns.flatMap (Turn.moments caller.rollback) ++
          (closing ++ (told ++ [.closed caller step answer]))))) = turns.map Turn.entry := by
  have quiet : turnedTo caller.request closing = [] :=
    turnedTo_of_absent fun m hm => by simp [(silent m hm).1]
  rw [walk.turnedTo_eq rolls, turnedTo_append, quiet, turnedTo_closing tells]
  simp

/-- How far a rollback gets that is not cut short: to all of its entries, in order, unless it stops
at a failure. -/
structure GetsThrough (dispatcher : Dispatcher V) (entries : List (Entry V))
    (turns : List (Turn V)) : Prop where
  order : turns.map Turn.entry <+: entries
  goesOn : ∀ turn ∈ turns.dropLast,
    turn.success = true ∨ dispatcher.settings.rollback = .bestEffort
  complete : (∀ turn ∈ turns, turn.success = true) ∨ dispatcher.settings.rollback = .bestEffort →
    turns.map Turn.entry = entries

theorem Walk.getsThrough {entries : List (Entry V)} {turns : List (Turn V)} {rest : List (Moment V)}
    {errors? : Option (List DispatchError)} (h : dispatcher.Walk caller entries turns rest errors?)
    {errors : List DispatchError} (finished : errors? = some errors) :
    dispatcher.GetsThrough entries turns ∧ errors.length = turns.countP (!·.success) := by
  induction h generalizing errors with
  | done =>
    cases finished
    exact ⟨⟨List.prefix_rfl, fun _ ht => (nomatch ht), fun _ => rfl⟩, rfl⟩
  | halted => cases finished
  | @stopped turn older error policy turned =>
    cases finished
    have failed : turn.success = false := turned.success
    refine ⟨⟨List.cons_prefix_cons.2 ⟨rfl, List.nil_prefix⟩, fun _ ht => (nomatch ht), ?_⟩, ?_⟩
    · rintro (succeeded | bestEffort)
      · cases failed.symm.trans (succeeded turn List.mem_cons_self)
      · cases policy.symm.trans bestEffort
    · simp [failed]
  | @onward turn older failure turns rest errors? goesOn turned walk ih =>
    obtain ⟨later, rfl, rfl⟩ := Option.map_eq_some_iff.1 finished
    obtain ⟨through, count⟩ := ih rfl
    have outcome : turn.success = failure.isNone := turned.success
    refine ⟨⟨List.cons_prefix_cons.2 ⟨rfl, through.order⟩, ?_, fun h => ?_⟩, ?_⟩
    · intro t ht
      cases turns with
      | nil => cases ht
      | cons next turns =>
        rcases List.mem_cons.1 ht with rfl | ht
        · exact goesOn.imp_left fun none => by rw [outcome, none]; rfl
        · exact through.goesOn t ht
    · refine congrArg (turn.entry :: ·) (through.complete (h.imp_left fun h t ht => ?_))
      exact h t (List.mem_cons_of_mem _ ht)
    · cases failure <;> simp [outcome, count, Nat.add_comm]

/-- Where the walk is cut short, it has come to one entry more. -/
theorem Walk.cutShort {entries : List (Entry V)} {turns : List (Turn V)} {rest : List (Moment V)}
    {errors? : Option (List DispatchError)} (h : dispatcher.Walk caller entries turns rest errors?)
    (unfinished : errors? = none) :
    ∃ entry inside, rest = .compensating caller entry :: inside ∧
      dispatcher.WorksIn caller false inside ∧ turns.map Turn.entry ++ [entry] <+: entries := by
  induction h with
  | done | stopped => cases unfinished
  | halted works =>
    exact ⟨_, _, rfl, works, List.cons_prefix_cons.2 ⟨rfl, List.nil_prefix⟩⟩
  | onward goesOn turned walk ih =>
    obtain ⟨entry, inside, rfl, works, order⟩ := ih (Option.map_eq_none_iff.1 unfinished)
    exact ⟨entry, inside, rfl, works, List.cons_prefix_cons.2 ⟨rfl, order⟩⟩

theorem Turned.keepsTo {turn : Turn V} {failure : Option DispatchError}
    (h : dispatcher.Turned caller turn failure) : ∀ m ∈ turn.moments caller, m.KeepsTo caller := by
  intro m hm mine
  rcases List.mem_cons.1 hm with rfl | hm
  · exact ⟨rfl, fun other hother => (Option.some.inj hother).symm⟩
  rcases List.mem_append.1 hm with hm | hm
  · exact h.works.worked.keeps m hm mine
  rcases List.mem_cons.1 hm with rfl | hm
  · cases mine
  · exact h.tells.keepsTo caller m hm mine

/-- A rollback keeps to its context. -/
theorem Walk.keepsTo {entries : List (Entry V)} {turns : List (Turn V)} {rest : List (Moment V)}
    {errors? : Option (List DispatchError)} (h : dispatcher.Walk caller entries turns rest errors?) :
    ∀ m ∈ turns.flatMap (Turn.moments caller) ++ rest, m.KeepsTo caller := by
  intro m hm
  rcases List.mem_append.1 hm with hm | hm
  · obtain ⟨turn, hturn, hm⟩ := List.mem_flatMap.1 hm
    obtain ⟨failure, turned⟩ := h.turned turn hturn
    exact turned.keepsTo m hm
  · cases errors? with
    | some errors =>
      rw [h.rest_eq_nil rfl] at hm
      cases hm
    | none =>
      obtain ⟨entry, inside, rfl, works, -⟩ := h.cutShort rfl
      rcases List.mem_cons.1 hm with rfl | hm
      · exact fun _ => ⟨rfl, fun other hother => (Option.some.inj hother).symm⟩
      · exact works.worked.keeps m hm

/-- After the work of a request, what is of it is in the context of its rollback, and last the
request ends unless it is cut short. -/
theorem Ending.keepsTo {step : Step V} {log : List (Entry V)}
    {given? answer? : Option (Answer step.Result)} {moments : List (Moment V)}
    (h : dispatcher.Ending caller step log given? answer? moments) :
    ∃ before, moments = before ++ answer?.toList.map (.closed caller step) ∧
      ∀ m ∈ before, m.KeepsTo caller.rollback := by
  have unnamed : ∀ record, (.logged record : Moment V).KeepsTo caller.rollback := fun _ =>
    .of_unnamed rfl _
  cases h with
  | halted => exact ⟨[], rfl, fun _ hm => (nomatch hm)⟩
  | completed tells | failed _ tells => exact ⟨_, rfl, tells.keepsTo _⟩
  | @broken original opening turns rest logged rolls walk =>
    refine ⟨_, (List.append_nil _).symm, fun m hm => ?_⟩
    rcases List.mem_cons.1 hm with rfl | hm
    · exact unnamed _
    rcases List.mem_append.1 hm with hm | hm
    · exact rolls.keepsTo _ m hm
    · exact walk.keepsTo m hm
  | @rolledBack original errors opening turns closing told logged rolls walk silent tells =>
    refine ⟨.logged (.rollingBack caller.request log.length original.message) :: (opening ++
      (turns.flatMap (Turn.moments caller.rollback) ++ (closing ++ told))), by simp, fun m hm => ?_⟩
    rcases List.mem_cons.1 hm with rfl | hm
    · exact unnamed _
    rcases List.mem_append.1 hm with hm | hm
    · exact rolls.keepsTo _ m hm
    rcases List.mem_append.1 hm with hm | hm
    · exact walk.keepsTo m (List.mem_append_left _ hm)
    rcases List.mem_append.1 hm with hm | hm
    · exact .of_unnamed (silent m hm).1 _
    · exact tells.keepsTo _ m hm

/-- Nothing is performed any more through the own context of the request. -/
theorem Ending.unperformed {step : Step V} {log : List (Entry V)}
    {given? answer? : Option (Answer step.Result)} {moments : List (Moment V)}
    (h : dispatcher.Ending caller step log given? answer? moments)
    (forward : caller.compensating = false) : performed caller moments = [] := by
  obtain ⟨before, rfl, keeps⟩ := h.keepsTo
  have none : performed caller before = [] := by
    refine performed_eq_nil fun m hm own => ?_
    have mine : m.request? = some caller.request := Moment.request?_of_caller? own
    have same : caller = caller.rollback := (keeps m hm mine).2 caller own
    cases forward.symm.trans (congrArg Caller.compensating same)
  have ended : performed caller (answer?.toList.map (.closed caller step) : List (Moment V)) = [] := by
    cases answer? <;> rfl
  simp [none, ended]

/-- All that is performed through the own context of a request is performed in its work. -/
theorem Ending.performed_eq {step : Step V} {log : List (Entry V)}
    {given? answer? : Option (Answer step.Result)} {moments : List (Moment V)}
    (h : dispatcher.Ending caller step log given? answer? moments)
    (forward : caller.compensating = false) {event : Event} {opening : List (Moment V)}
    (tells : dispatcher.Tells event opening) (work : List (Moment V)) :
    performed caller (.opened caller step :: (opening ++ (work ++ moments))) =
      performed caller work := by
  have before : performed caller opening = [] :=
    performed_eq_nil fun m hm => by simp [tells.outside m hm]
  simp [before, h.unperformed forward, Moment.recorded]

end Dispatcher

end ActionDispatch
