import ActionDispatch.Proofs.Account

/-!
# Requests are isolated

Requests that handlers start are live at the same time as the requests around them, and so are the
contexts of rollbacks. Still a rollback turns only to what was performed through the own context of
its request, last first, and while a request is open, nothing is done in the contexts that were
there before (`Isolated`, `serve_isolated`).
-/

namespace ActionDispatch

variable {V : Vocabulary}

/-- In these moments, requests and their rollbacks keep to their own contexts. -/
structure Isolated (settings : Settings) (moments : List (Moment V)) : Prop where
  forward : ∀ caller step, .opened caller step ∈ moments → caller.compensating = false
  distinct : ∀ caller step caller' step', .opened caller step ∈ moments →
    .opened caller' step' ∈ moments → caller.request = caller'.request → caller = caller'
  /-- Whatever is done in a context is done in that of a request, as it was opened, or in that of its
  rollback. -/
  context : ∀ m ∈ moments, ∀ context, m.caller? = some context →
    ∃ caller step, .opened caller step ∈ moments ∧ (context = caller ∨ context = caller.rollback)
  /-- A log shows only what was performed in its own context, and all of that. -/
  logs : Logbook.blank.Accurate moments
  /-- While a request is open, there is nothing of those that were opened before. -/
  frame : ∀ before inner step body answer after,
    moments = before ++ .opened inner step :: (body ++ .closed inner step answer :: after) →
    ∀ outer outerStep, .opened outer outerStep ∈ before →
      ∀ m ∈ body, m.request? ≠ some outer.request
  /-- Only a rollback turns to entries. -/
  turning : ∀ context entry, .compensating context entry ∈ moments →
    ∃ caller step, .opened caller step ∈ moments ∧ context = caller.rollback
  /-- It turns to what was performed through the own context of its request, last first. -/
  turned : ∀ caller step, .opened caller step ∈ moments →
    turnedTo caller.request moments <+: (performed caller moments).reverse
  /-- A request that is completed is not taken back. -/
  completed : ∀ caller step output, .closed caller step (.ok output) ∈ moments →
    turnedTo caller.request moments = []
  /-- Each entry that a rollback turned to is reported, in order. -/
  reported : ∀ caller step error, .closed caller step (.error error) ∈ moments →
    (reports (eventsOf caller.request moments)).map (fun report => (report.action, report.redo)) =
      (turnedTo caller.request moments).map fun entry => (entry.name, !entry.executed)
  /-- It turns to everything that was performed if no turn fails, or if its policy is to go on. -/
  complete : ∀ caller step error, .closed caller step (.error error) ∈ moments →
    (∀ report ∈ reports (eventsOf caller.request moments), report.success = true) ∨
      settings.rollback = .bestEffort →
    turnedTo caller.request moments = (performed caller moments).reverse
  /-- It goes on after a turn that fails only if that is its policy. -/
  stops : ∀ caller step error, .closed caller step (.error error) ∈ moments →
    ∀ report ∈ (reports (eventsOf caller.request moments)).dropLast,
      report.success = true ∨ settings.rollback = .bestEffort

/-! ### Beginnings and ends -/

/-- This request begins. -/
def Moment.Begins (request : RequestId) : Moment V → Prop
  | .opened caller _ => caller.request = request
  | _ => False

/-- This request ends. -/
def Moment.Ends (request : RequestId) : Moment V → Prop
  | .closed caller _ _ => caller.request = request
  | _ => False

theorem Moment.Begins.mark {request : RequestId} {m : Moment V} (h : m.Begins request) :
    m.isMark = true ∧ m.request? = some request := by
  cases m with
  | opened => exact ⟨rfl, congrArg some h⟩
  | _ => exact h.elim

theorem Moment.Ends.mark {request : RequestId} {m : Moment V} (h : m.Ends request) :
    m.isMark = true ∧ m.request? = some request := by
  cases m with
  | closed => exact ⟨rfl, congrArg some h⟩
  | _ => exact h.elim

/-- Where something holds in one place only, a list is divided there in one way. -/
theorem split_only {α : Type} {p : α → Prop} {before before' after after' : List α} {a a' : α}
    (h : before ++ a :: after = before' ++ a' :: after') (hbefore : ∀ x ∈ before, ¬p x)
    (hafter : ∀ x ∈ after, ¬p x) (ha' : p a') : before = before' ∧ after = after' := by
  induction before generalizing before' with
  | nil =>
    cases before' with
    | nil => exact ⟨rfl, (List.cons.inj h).2⟩
    | cons b' before' =>
      obtain ⟨-, rfl⟩ := List.cons.inj h
      exact (hafter a' (by simp) ha').elim
  | cons b before ih =>
    cases before' with
    | nil =>
      obtain ⟨rfl, -⟩ := List.cons.inj h
      exact (hbefore b List.mem_cons_self ha').elim
    | cons b' before' =>
      obtain ⟨rfl, tails⟩ := List.cons.inj h
      obtain ⟨rfl, same⟩ := ih tails fun x hx => hbefore x (List.mem_cons_of_mem _ hx)
      exact ⟨rfl, same⟩

namespace Dispatcher

variable {dispatcher : Dispatcher V} {caller : Caller}

/-! ### Turns -/

/-- The end of a request turns to its log, last entry first. -/
theorem Ending.turned {step : Step V} {log : List (Entry V)}
    {given? answer? : Option (Answer step.Result)} {moments : List (Moment V)}
    (h : dispatcher.Ending caller step log given? answer? moments) :
    turnedTo caller.request moments <+: log.reverse := by
  cases h with
  | halted => exact List.nil_prefix
  | completed tells | failed _ tells =>
    rw [turnedTo_closing tells]
    exact List.nil_prefix
  | broken logged rolls walk =>
    obtain ⟨entry, inside, rfl, works, order⟩ := walk.cutShort rfl
    have unturned : turnedTo caller.request inside = [] := works.worked.unturned
    have last : turnedTo caller.request (.compensating caller.rollback entry :: inside) =
        [entry] := by
      have turned : (.compensating caller.rollback entry : Moment V).turned? caller.request =
          some entry := if_pos rfl
      exact (List.filterMap_cons_some turned).trans (congrArg _ unturned)
    rw [walk.turnedTo_eq rolls, last]
    exact order
  | rolledBack logged rolls walk silent tells =>
    rw [walk.turnedTo_whole rolls silent tells]
    exact (walk.getsThrough rfl).1.order

/-- A request turns to entries at its end only. -/
theorem Labour.turnedTo_eq {step : Step V} {log : List (Entry V)} {state : State V}
    {out : Outcome V (Logged V step.Result)} (h : dispatcher.Labour caller step log state out)
    {event : Event} {opening : List (Moment V)} (tells : dispatcher.Tells event opening)
    (moments : List (Moment V)) :
    turnedTo caller.request (.opened caller step :: (opening ++ (out.moments ++ moments))) =
      turnedTo caller.request moments := by
  refine (List.filterMap_cons_none rfl).trans ?_
  change turnedTo caller.request _ = _
  rw [turnedTo_append, turnedTo_append, turnedTo_of_outside tells.outside,
    h.works.worked.unturned, List.nil_append, List.nil_append]

/-! ### Requests -/

section

variable {session : Option String} {step : Step V} {state : State V}
  {answer? : Option (Answer step.Result)} {moments : List (Moment V)}

/-- Between its beginning and its end, a request is in its own context or in that of its rollback,
which alone turns to entries. -/
theorem Life.body (h : dispatcher.Life session step state answer? moments) :
    ∃ body, moments = .opened (.fresh state session) step ::
        (body ++ answer?.toList.map (.closed (.fresh state session) step)) ∧
      ∀ m ∈ body, m.request? = some ⟨state.requests⟩ → m.isMark = false ∧
        ∀ other, m.caller? = some other → other = (Caller.fresh state session).rollback ∨
          other = .fresh state session ∧ ∀ entry, m ≠ .compensating other entry := by
  obtain @⟨ready, opening, out, _, ending, tells, labour, ends⟩ := h
  obtain ⟨before, rfl, keeps⟩ := ends.keepsTo
  have worked := labour.works.worked
  have told := tells_of_emit tells
  refine ⟨opening ++ (out.moments ++ before), by simp, fun m hm mine => ?_⟩
  rcases List.mem_append.1 hm with hm | hm
  · refine ⟨told.unmarked m hm, fun other hother => ?_⟩
    cases (told.outside m hm).symm.trans hother
  rcases List.mem_append.1 hm with hm | hm
  · obtain ⟨unmarked, own⟩ := worked.keeps m hm mine
    refine ⟨unmarked, fun other hother => .inr ⟨own other hother, ?_⟩⟩
    rintro entry rfl
    obtain rfl := own other rfl
    have turned : (.compensating (.fresh state session) entry : Moment V).turned?
        (Caller.fresh state session).request = some entry := if_pos rfl
    have hentry : entry ∈ turnedTo (Caller.fresh state session).request out.moments :=
      List.mem_filterMap.2 ⟨_, hm, turned⟩
    rw [worked.unturned] at hentry
    cases hentry
  · obtain ⟨unmarked, own⟩ := keeps m hm mine
    exact ⟨unmarked, fun other hother => .inl (own other hother)⟩

/-- A request turns to what was performed through its own context, last first. -/
theorem Life.turned (h : dispatcher.Life session step state answer? moments) :
    turnedTo ⟨state.requests⟩ moments <+: (performed (.fresh state session) moments).reverse := by
  obtain ⟨tells, labour, ending⟩ := h
  have told := tells_of_emit tells
  change turnedTo (Caller.fresh state session).request _ <+: _
  rw [ending.performed_eq rfl told, labour.turnedTo_eq told]
  exact ending.turned

theorem Life.turnedTo_of_ok (h : dispatcher.Life session step state answer? moments)
    {output : step.Result} (completed : answer? = some (.ok output)) :
    turnedTo ⟨state.requests⟩ moments = [] := by
  obtain ⟨tells, labour, ending⟩ := h
  change turnedTo (Caller.fresh state session).request _ = _
  rw [labour.turnedTo_eq (tells_of_emit tells)]
  generalize Option.map Prod.fst _ = given? at ending
  cases ending with
  | halted | failed | broken | rolledBack => cases completed
  | completed told =>
    cases completed
    exact turnedTo_closing told _ _

/-- The rollback of a request that fails, which has no turns if there is nothing to take back. -/
theorem Life.rollback (h : dispatcher.Life session step state answer? moments)
    {error : DispatchError} (failed : answer? = some (.error error)) :
    ∃ turns, turnedTo ⟨state.requests⟩ moments = turns.map Turn.entry ∧
      reports (eventsOf ⟨state.requests⟩ moments) = turns.map Turn.report ∧
      dispatcher.GetsThrough (performed (.fresh state session) moments).reverse turns := by
  obtain ⟨tells, labour, ending⟩ := h
  have told := tells_of_emit tells
  have steps := labour.works.worked.steps
  change ∃ turns, turnedTo (Caller.fresh state session).request _ = _ ∧
    reports (eventsOf (Caller.fresh state session).request _) = _ ∧ _
  rw [ending.performed_eq rfl told, labour.turnedTo_eq told, eventsOf_request told,
    eventsOf_append, reports, views_report?.request steps, ← reports]
  generalize Option.map Prod.fst _ = given? at ending
  cases ending with
  | halted | completed | broken => cases failed
  | failed nothing told =>
    cases failed
    rw [nothing, turnedTo_closing told, eventsOf_failing told]
    exact ⟨[], rfl, rfl, List.prefix_rfl, fun _ ht => absurd ht List.not_mem_nil, fun _ => rfl⟩
  | @rolledBack _ _ _ turns _ _ logged rolls walk silent told =>
    cases failed
    rw [walk.turnedTo_whole rolls silent told, walk.eventsOf_whole rolls silent told,
      reports_rollback (Caller.fresh state session).request walk.steps]
    exact ⟨turns, rfl, rfl, (walk.getsThrough rfl).1⟩

end

/-! ### All requests of a run -/

section

variable {moments : List (Moment V)} {finished : Bool}

/-- A request begins once. -/
theorem HasEpisodes.begins_once (h : dispatcher.HasEpisodes moments finished)
    {before after : List (Moment V)} {step : Step V}
    (split : moments = before ++ .opened caller step :: after) :
    (∀ m ∈ before, ¬m.Begins caller.request) ∧ ∀ m ∈ after, ¬m.Begins caller.request := by
  have opened : .opened caller step ∈ moments := by simp [split]
  obtain ⟨answer?, episode, -⟩ := h.opened opened
  obtain ⟨early, own, late, session, start, whole, rfl, early_not, late_not, life, -⟩ :=
    episode.life opened rfl
  obtain ⟨body, rfl, keeps⟩ := life.body
  have before_not : ∀ m ∈ early, ¬m.Begins (Caller.fresh start session).request :=
    fun m hm begins => early_not m hm begins.mark.2
  have after_not : ∀ m ∈ body ++ answer?.toList.map (.closed (.fresh start session) step) ++ late,
      ¬m.Begins (Caller.fresh start session).request := by
    intro m hm begins
    rcases List.mem_append.1 hm with hm | hm
    · rcases List.mem_append.1 hm with hm | hm
      · cases begins.mark.1.symm.trans (keeps m hm begins.mark.2).1
      · obtain ⟨answer, -, rfl⟩ := List.mem_map.1 hm
        exact begins
    · exact late_not m hm begins.mark.2
  have same : early ++ .opened (.fresh start session) step ::
      (body ++ answer?.toList.map (.closed (.fresh start session) step) ++ late) =
        before ++ .opened (.fresh start session) step :: after := by
    rw [← split, whole]
    simp
  obtain ⟨rfl, rfl⟩ := split_only same before_not after_not rfl
  exact ⟨before_not, after_not⟩

/-- Whatever is of a request from the beginning of one to its end, is of one that begins there. -/
theorem HasEpisodes.enclosed (h : dispatcher.HasEpisodes moments finished) {inner : Caller}
    {before body after : List (Moment V)} {step : Step V} {answer : Answer step.Result}
    (split : moments =
      before ++ .opened inner step :: (body ++ .closed inner step answer :: after)) :
    Enclosed (.opened inner step :: (body ++ [.closed inner step answer])) := by
  have closed : .closed inner step answer ∈ moments := by simp [split]
  obtain ⟨early, own, late, session, start, whole, rfl, early_not, late_not, life, enclosed⟩ :=
    (h.closed closed).life closed rfl
  obtain ⟨own, rfl, keeps⟩ := life.body
  have same : before ++ .opened (.fresh start session) step ::
      (body ++ .closed (.fresh start session) step answer :: after) =
        early ++ .opened (.fresh start session) step ::
          (own ++ .closed (.fresh start session) step answer :: late) := by
    rw [← split, whole]
    simp
  obtain ⟨before_not, after_not⟩ := h.begins_once split
  obtain ⟨-, tails⟩ := split_only same before_not after_not rfl
  have own_not : ∀ m ∈ own, ¬m.Ends (Caller.fresh start session).request := by
    intro m hm ends
    cases ends.mark.1.symm.trans (keeps m hm ends.mark.2).1
  obtain ⟨rfl, -⟩ := split_only tails.symm own_not (fun m hm ends => late_not m hm ends.mark.2) rfl
  exact enclosed

/-- While a request is open, there is nothing of those that were opened before. -/
theorem HasEpisodes.frame (h : dispatcher.HasEpisodes moments finished) {inner outer : Caller}
    {before body after : List (Moment V)} {step outerStep : Step V} {answer : Answer step.Result}
    (split : moments = before ++ .opened inner step :: (body ++ .closed inner step answer :: after))
    (opened : .opened outer outerStep ∈ before) : ∀ m ∈ body, m.request? ≠ some outer.request := by
  intro m hm mine
  obtain ⟨again, step', hagain, request⟩ :=
    h.enclosed split m (by simp [hm]) outer.request mine
  -- The outer request would begin twice: before the inner one, and while that is open.
  obtain ⟨first, second, rfl⟩ := List.append_of_mem opened
  have outer_split : moments = first ++ .opened outer outerStep :: (second ++
      .opened inner step :: (body ++ .closed inner step answer :: after)) := by
    rw [split, List.append_assoc]
    rfl
  refine (h.begins_once outer_split).2 (.opened again step') (List.mem_append_right _ ?_) request
  rcases List.mem_cons.1 hagain with same | hagain
  · exact same ▸ List.mem_cons_self
  · rcases List.mem_append.1 hagain with hagain | hagain
    · exact List.mem_cons_of_mem _ (List.mem_append_left _ hagain)
    · cases List.mem_singleton.1 hagain

/-- Whatever is done in the context of a request is done as it was opened, or in its rollback, which
alone turns to entries. -/
theorem HasEpisodes.context (h : dispatcher.HasEpisodes moments finished) {step : Step V}
    (opened : .opened caller step ∈ moments) {m : Moment V} (hm : m ∈ moments) {context : Caller}
    (hcontext : m.caller? = some context) (mine : context.request = caller.request) :
    context = caller.rollback ∨ context = caller ∧ ∀ entry, m ≠ .compensating context entry := by
  have mine : m.request? = some caller.request := mine ▸ Moment.request?_of_caller? hcontext
  obtain ⟨answer?, episode, -⟩ := h.opened opened
  obtain ⟨before, own, after, session, start, rfl, rfl, before_not, after_not, life, -⟩ :=
    episode.life opened rfl
  obtain ⟨body, rfl, keeps⟩ := life.body
  rcases List.mem_append.1 hm with hm | hm
  · rcases List.mem_append.1 hm with hm | hm
    · exact (before_not m hm mine).elim
    rcases List.mem_cons.1 hm with rfl | hm
    · exact .inr ⟨(Option.some.inj hcontext).symm, fun _ same => (nomatch same)⟩
    rcases List.mem_append.1 hm with hm | hm
    · exact (keeps m hm mine).2 context hcontext
    · obtain ⟨answer, -, rfl⟩ := List.mem_map.1 hm
      exact .inr ⟨(Option.some.inj hcontext).symm, fun _ same => (nomatch same)⟩
  · exact (after_not m hm mine).elim

/-- What is to be seen in these moments of the rollback of a request that fails. -/
theorem HasEpisodes.rollback (h : dispatcher.HasEpisodes moments finished) {step : Step V}
    {error : DispatchError} (closed : .closed caller step (.error error) ∈ moments) :
    ∃ turns, turnedTo caller.request moments = turns.map Turn.entry ∧
      reports (eventsOf caller.request moments) = turns.map Turn.report ∧
      dispatcher.GetsThrough (performed caller moments).reverse turns := by
  obtain ⟨before, own, after, session, start, rfl, rfl, before_not, after_not, life, -⟩ :=
    (h.closed closed).life closed rfl
  rw [turnedTo_amid before_not after_not, eventsOf_amid before_not after_not,
    performed_amid before_not after_not]
  exact life.rollback rfl

end

/-- Whatever clients and handlers do, requests and their rollbacks keep to their own contexts, and a
handler that asks for a request goes on in its own. -/
theorem serve_isolated (dispatcher : Dispatcher V) (depth : Nat) (moves : List (Move V))
    (state : State V) :
    Isolated dispatcher.settings (dispatcher.serve depth moves state).moments ∧
      dispatcher.RunsAsAsked depth := by
  refine ⟨?_, dispatcher.runs_as_asked depth⟩
  have episodes := dispatcher.serve_episodes depth moves state
  have contexts : ∀ m ∈ (dispatcher.serve depth moves state).moments, ∀ context,
      m.caller? = some context → ∃ caller step,
        .opened caller step ∈ (dispatcher.serve depth moves state).moments ∧
          (context = caller.rollback ∨
            context = caller ∧ ∀ entry, m ≠ .compensating context entry) := by
    intro m hm context hcontext
    obtain ⟨caller, step, opened, same⟩ :=
      dispatcher.serve_opened depth moves state hm (Moment.request?_of_caller? hcontext)
    exact ⟨caller, step, opened, episodes.context opened hm hcontext same.symm⟩
  refine ⟨fun caller step opened => ?_, fun caller step caller' step' opened opened' same => ?_,
    fun m hm context hcontext => ?_, serve_accurate dispatcher depth moves state,
    fun before inner step body answer after split outer outerStep opened =>
      episodes.frame split opened, fun context entry hm => ?_, fun caller step opened => ?_,
    fun caller step output closed => ?_, fun caller step error closed => ?_,
    fun caller step error closed whole => ?_, fun caller step error closed report hreport => ?_⟩
  · obtain ⟨_, episode, -⟩ := episodes.opened opened
    obtain ⟨_, _, _, _, _, _, rfl, -⟩ := episode.life opened rfl
    rfl
  · obtain ⟨before, after, split⟩ := List.append_of_mem opened
    obtain ⟨before_not, after_not⟩ := episodes.begins_once split
    rw [split] at opened'
    rcases List.mem_append.1 opened' with opened' | opened'
    · exact (before_not _ opened' same.symm).elim
    rcases List.mem_cons.1 opened' with ⟨⟨⟩⟩ | opened'
    · rfl
    · exact (after_not _ opened' same.symm).elim
  · obtain ⟨caller, step, opened, same⟩ := contexts m hm context hcontext
    exact ⟨caller, step, opened, same.symm.imp_left And.left⟩
  · obtain ⟨caller, step, opened, same⟩ := contexts _ hm context rfl
    exact ⟨caller, step, opened, same.resolve_right fun same => same.2 entry rfl⟩
  · obtain ⟨answer?, episode, -⟩ := episodes.opened opened
    obtain ⟨before, own, after, session, start, split, rfl, before_not, after_not, life, -⟩ :=
      episode.life opened rfl
    rw [split, turnedTo_amid before_not after_not, performed_amid before_not after_not]
    exact life.turned
  · obtain ⟨before, own, after, session, start, split, rfl, before_not, after_not, life, -⟩ :=
      (episodes.closed closed).life closed rfl
    rw [split, turnedTo_amid before_not after_not]
    exact life.turnedTo_of_ok rfl
  · obtain ⟨turns, turned, reported, -⟩ := episodes.rollback closed
    simp [turned, reported, Turn.report, Function.comp_def]
  · obtain ⟨turns, turned, reported, through⟩ := episodes.rollback closed
    rw [turned]
    rw [reported] at whole
    exact through.complete (whole.imp_left fun h turn hturn =>
      h turn.report (List.mem_map_of_mem hturn))
  · obtain ⟨turns, -, reported, through⟩ := episodes.rollback closed
    rw [reported, ← List.map_dropLast] at hreport
    obtain ⟨turn, hturn, rfl⟩ := List.mem_map.1 hreport
    exact through.goesOn turn hturn

open Widgets in
/-- Where a rollback stops at its first failure, it leaves out what was performed before. -/
theorem strict_replace_stops :
    .closed (.fresh crowded "user") (execution .replace 1)
        (.error (.rollbackFailed (.action "No room") 1 .insufficientRights)) ∈
      (strict.serve 2 [.request "user" (execution .replace 1)] crowded).moments ∧
    performed (.fresh crowded "user")
        (strict.serve 2 [.request "user" (execution .replace 1)] crowded).moments =
      [executed .create 2, executed .delete 1] ∧
    turnedTo ⟨0⟩ (strict.serve 2 [.request "user" (execution .replace 1)] crowded).moments =
      [executed .delete 1] ∧
    turnedTo ⟨0⟩ (strict.serve 2 [.request "user" (execution .replace 1)] crowded).moments ≠
      (performed (.fresh crowded "user")
        (strict.serve 2 [.request "user" (execution .replace 1)] crowded).moments).reverse :=
  ⟨List.mem_of_getElem? (rfl : _[39]? = _), rfl, rfl, fun same =>
    absurd (congrArg List.length same : 1 = 2) (by decide)⟩

end Dispatcher

end ActionDispatch
