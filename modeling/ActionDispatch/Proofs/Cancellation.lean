import ActionDispatch.Proofs.Logs
import ActionDispatch.Proofs.Position

/-!
# Cancellation

A failed request cancels itself out, if its handlers are divided into leaves and composites, and if
what was admitted once is admitted again. Then every entry of the log can be taken back, and a
rollback without failing leaves makes exactly the inverse calls, in reverse order: it walks the
trail of its position back, entry by entry (`unwind_cancels`). What comes of it is `settle_cancels`.
-/

namespace ActionDispatch

variable {V : Vocabulary} {α β : Type}

namespace Dispatcher

variable {dispatcher : Dispatcher V} {caller : Caller} {leaf : V.Kind → Bool}
  {later : State V → State V → Prop} {start : State V}
  {view : V.World → β} {first : β} {session : Option String} {state last : State V}
  {log inner : List (Entry V)} {moments : List (Moment V)}

/-- The handler call that takes the newest entry back ends well, logs nothing else, and leaves the
position of the older entries. -/
theorem inverse_call (divided : dispatcher.Divided leaf later start)
    (steady : dispatcher.Steady later) (reverts : dispatcher.Reverts leaf later start view)
    {depth : Nat} {entry : Entry V} {older : List (Entry V)}
    {handler : V.Handler entry.compensation.kind} {admitted : State V} {way : List (Moment V)}
    {given : Answer entry.compensation.Result} (reached : later start state)
    (position : dispatcher.Position leaf later start view first session state (older ++ [entry]))
    (admission : dispatcher.Admission caller entry.compensation handler state way admitted)
    (hprogram : dispatcher.interpret (dispatcher.callsAt depth) caller
      (dispatcher.app.program entry.compensation handler) log admitted =
        ⟨some (given, inner), last, moments⟩)
    (unfailing : leaf entry.kind = true → given.isOk = true) :
    inner = log ∧ (∃ output, given = .ok output) ∧
      dispatcher.Position leaf later start view first session last older := by
  have leads := admission.leads steady
  have serves := admission.serves reached
  have same := admission.view_eq reverts reached
  have reached' := steady.trans reached leads
  have moved :=
    divided.program_moves steady (callsAt_move divided steady depth) serves log reached' hprogram
  have ready : ∀ e ∈ older, (leaf e.kind = false → e.executed = true) ∧
      ∃ handler, ∀ final, later last final → dispatcher.Clears final session e.kind handler := by
    intro e he
    obtain ⟨executed, handler, clears⟩ := position.ready e (List.mem_append_left _ he)
    exact ⟨executed, handler, fun final hfinal =>
      clears final (steady.trans leads (steady.trans moved hfinal))⟩
  have trail := position.trail
  cases hleaf : leaf entry.kind with
  | true =>
    have isLeaf : leaf entry.compensation.kind = true := entry.compensation_kind ▸ hleaf
    obtain ⟨-, rfl⟩ := interpret_leaf steady (callsAt_move divided steady depth)
      (divided.leaves entry.compensation handler serves isLeaf) reached' hprogram
    cases given with
    | error error => cases unfailing hleaf
    | ok output =>
      rw [List.filter_append, List.reverse_append] at trail
      simp only [List.filter_cons, hleaf, if_true, List.filter_nil, List.reverse_singleton,
        List.singleton_append] at trail
      obtain ⟨middle, takesBack, trail⟩ := trail
      refine ⟨rfl, ⟨output, rfl⟩, ready, ?_⟩
      rw [takesBack serves reached' same hprogram]
      exact trail
  | false =>
    obtain ⟨kind, input, output, executed⟩ := entry
    obtain rfl : executed = true := (position.ready _ (by simp)).1 hleaf
    have nothing : dispatcher.app.program (Entry.compensation ⟨kind, input, output, true⟩) handler =
      .done (.ok ()) := divided.undoes handler input output serves hleaf
    rw [nothing] at hprogram
    cases hprogram
    refine ⟨rfl, ⟨(), rfl⟩, ready, ?_⟩
    rw [same]
    simpa [hleaf] using trail

/-- Taking the newest entry back succeeds, logs its inverse and leaves the position of the older
entries. -/
theorem compensate_cancels (divided : dispatcher.Divided leaf later start)
    (steady : dispatcher.Steady later) (reverts : dispatcher.Reverts leaf later start view)
    {depth : Nat} {entry : Entry V} {older : List (Entry V)} {failure : Option DispatchError}
    (reached : later start state)
    (position : dispatcher.Position leaf later start view first caller.session state
      (older ++ [entry]))
    (unfailing : ∀ step error log, .returned caller step (.error error) log ∈ moments →
      leaf step.kind = false)
    (hrun : dispatcher.compensate (dispatcher.perform (dispatcher.callsAt depth)) caller entry
      log state = ⟨some (failure, inner), last, moments⟩) :
    failure = none ∧ dispatcher.Position leaf later start view first caller.session last older ∧
      ∃ inverse, inner = log ++ [inverse] ∧ inverse.step = entry.compensation := by
  unfold compensate at hrun
  rw [Run.leave_bind_apply, Outcome.after_eq_some_iff] at hrun
  obtain ⟨own, hown, rfl⟩ := hrun
  obtain ⟨⟨answer, log'⟩, middle, inside, rest, hperform, hrest, rfl⟩ := Run.bind_eq_some_iff.1 hown
  have cleared : ∃ handler,
      dispatcher.Clears state caller.session entry.compensation.kind handler := by
    rw [Entry.compensation_kind]
    obtain ⟨-, handler, clears⟩ := position.ready entry (by simp)
    exact ⟨handler, clears state (steady.refl state)⟩
  obtain ⟨handler, clears⟩ := cleared
  obtain ⟨way, admitted, called, admission, hinvoke, rfl⟩ := clears.invoked hperform
  obtain ⟨given, inner', ended, body, told, hprogram, rfl, rfl, rfl, -, hrecord⟩ :=
    dispatcher.invoke_eq_some _ caller hinvoke
  have succeeds : leaf entry.kind = true → given.isOk = true := by
    intro hleaf
    cases given with
    | ok output => rfl
    | error error =>
      have composite := unfailing entry.compensation error
        (inner' ++ entry.compensation.recorded (.error error)) (by simp)
      rw [Entry.compensation_kind, hleaf] at composite
      cases composite
  obtain ⟨same, ⟨output, rfl⟩, there⟩ :=
    inverse_call divided steady reverts reached position admission hprogram succeeds
  obtain rfl := same.symm
  obtain ⟨_, _, htell, -, -⟩ := dispatcher.tell_apply (.stepSucceeded entry.name (!entry.executed))
    (.rollbackStepCompleted caller.request entry.name (!entry.executed) true)
    ((none : Option DispatchError), log ++ entry.compensation.recorded (.ok output)) middle
  have position := (there.of_quiet steady (dispatcher.record_quiet _ _ _) hrecord).of_quiet steady
    (dispatcher.tell_quiet _ _ _) hrest
  cases hrest.symm.trans htell
  exact ⟨rfl, position, entry.compensation.entry output, rfl, Step.step_entry _ _⟩

/-- Without failing leaves, a rollback succeeds: it takes every leaf back, newest first, and
performs exactly the inverses of the entries. -/
theorem unwind_cancels (divided : dispatcher.Divided leaf later start)
    (steady : dispatcher.Steady later) (reverts : dispatcher.Reverts leaf later start view)
    {depth : Nat} {entries : List (Entry V)} {errors : List DispatchError}
    (reached : later start state) (compensating : caller.compensating)
    (begun : caller.request.number < state.requests)
    (position : dispatcher.Position leaf later start view first caller.session state
      entries.reverse)
    (unfailing : ∀ step error log, .returned caller step (.error error) log ∈ moments →
      leaf step.kind = false)
    (hrun : dispatcher.unwind (dispatcher.perform (dispatcher.callsAt depth)) caller entries
      log state = ⟨some errors, last, moments⟩) :
    errors = [] ∧ dispatcher.Position leaf later start view first caller.session last [] ∧
      (performed caller moments).map Entry.step = entries.map Entry.compensation := by
  induction entries generalizing log state moments with
  | nil =>
    cases hrun
    exact ⟨rfl, position, rfl⟩
  | cons entry older ih =>
    obtain ⟨⟨failure, inner⟩, middle, before, after, hturn, hrest, rfl⟩ :=
      Run.bind_eq_some_iff.1 hrun
    rw [List.reverse_cons] at position
    obtain ⟨rfl, position, inverse, rfl, hinverse⟩ :=
      compensate_cancels divided steady reverts reached position
        (fun step error log hm => unfailing step error log (List.mem_append_left _ hm)) hturn
    have course :=
      compensate_follows (fun _ => perform_follows (callsAt_follow dispatcher depth)) compensating
        entry log state
    rw [hturn] at course
    have hperformed : performed caller before = [inverse] :=
      (List.append_cancel_left (course.log_eq begun)).symm
    have performs : ∀ caller step log,
        (dispatcher.perform (dispatcher.callsAt depth) caller step log).Moves later start :=
      fun _ => perform_moves divided steady (callsAt_move divided steady depth)
    have moved := compensate_moves steady performs entry log reached hturn
    obtain ⟨rfl, final, hinverses⟩ := ih (steady.trans reached moved)
      (Nat.lt_of_lt_of_le begun (course.requests_le _ rfl)) position
      (fun step error log hm => unfailing step error log (List.mem_append_right _ hm)) hrest
    refine ⟨rfl, final, ?_⟩
    rw [performed, performedAmong_append, List.map_append, ← performed, ← performed,
      hperformed, hinverses]
    rw [List.map_singleton, hinverse]
    rfl

/-- Without failing leaves, the rollback of a request gives its error, brings the view back to the
first one, and performs exactly the inverses of the entries. -/
theorem rollback_cancels (divided : dispatcher.Divided leaf later start)
    (steady : dispatcher.Steady later) (reverts : dispatcher.Reverts leaf later start view)
    {depth : Nat} {entries : List (Entry V)} {original error : DispatchError}
    (reached : later start state) (begun : caller.request.number < state.requests)
    (position : dispatcher.Position leaf later start view first caller.session state entries)
    (unfailing : ∀ step error log, .returned caller.rollback step (.error error) log ∈ moments →
      leaf step.kind = false)
    (hrun : dispatcher.rollback (dispatcher.perform (dispatcher.callsAt depth)) caller entries
      original state = ⟨some error, last, moments⟩) :
    error = original ∧ view last.world = first ∧
      (performed caller.rollback moments).map Entry.step =
        entries.reverse.map Entry.compensation := by
  by_cases logged : entries = []
  · subst logged
    cases hrun
    exact ⟨rfl, position.trail, rfl⟩
  · obtain ⟨ready, opening, errors, middle, body, closing, hopening, hunwind, hclosing, rfl⟩ :=
      rollback_eq_some logged hrun
    have quiet : (do
        Run.log (.rollingBack caller.request entries.length original.message)
        dispatcher.emit (.rollbackStarted caller.request entries.length) : Run V Unit).Quiet :=
      .bind (.leave _) fun _ => dispatcher.emit_quiet _
    have aside : (do
        Run.log (.rollingBack caller.request entries.length original.message)
        dispatcher.emit (.rollbackStarted caller.request entries.length) : Run V Unit).Aside :=
      .bind (.log _) fun _ => dispatcher.emit_aside _
    have requests := aside.requests state
    have opened := aside.aside state
    rw [hopening] at requests opened
    have closed := (rollbackError_aside caller original errors).aside middle
    rw [hclosing] at closed
    have position := position.of_quiet steady quiet hopening
    rw [← List.reverse_reverse entries] at position
    obtain ⟨rfl, final, inverses⟩ := unwind_cancels divided steady reverts
      (steady.trans reached (steady.leads_of_quiet quiet hopening)) rfl
      (requests ▸ begun : caller.rollback.request.number < _) position
      (fun step error log hm => unfailing step error log (by simp [hm])) hunwind
    have final := final.of_quiet steady (rollbackError_quiet caller original []) hclosing
    cases hclosing
    refine ⟨rfl, final.trail, ?_⟩
    rw [performed, performedAmong_append, performedAmong_append,
      performedAmong_of_unshown _ fun m hm => (opened m hm).shown?_eq_none,
      performedAmong_of_unshown _ fun m hm => (closed m hm).shown?_eq_none]
    simpa using inverses

/-- Where a request stands that has failed and is not settled yet. -/
theorem attempt_position (divided : dispatcher.Divided leaf later start)
    (steady : dispatcher.Steady later) (reverts : dispatcher.Reverts leaf later start view)
    {depth : Nat} {step : Step V} {middle : State V} {original : DispatchError}
    (attempted : dispatcher.attempt (dispatcher.perform (dispatcher.callsAt depth)) session
      step start = ⟨some (caller, .error original, log), middle, moments⟩) :
    later start middle ∧
      dispatcher.Position leaf later start view (view start.world) caller.session middle log := by
  obtain ⟨rfl, ready, opening, inside, hemit, hperform, rfl⟩ := attempt_eq_some attempted
  have quiet := dispatcher.emit_quiet (.started (Caller.fresh start session).request step.name)
  have same : ready.world = start.started.world := quiet.world_eq hemit
  have reached := steady.started hemit
  have position :
      dispatcher.Position leaf later start view (view start.world) session ready [] :=
    ⟨by simp, congrArg view same⟩
  constructor
  · have moved : later ready middle :=
      perform_moves divided steady (callsAt_move divided steady depth) step [] reached hperform
    exact steady.trans reached moved
  · exact perform_position divided steady reverts (callsAt_tracks divided steady reverts depth)
      (fun _ _ => rfl) reached position hperform

/-- Among inverses, those of leaves are the inverses of the leaves. -/
theorem filter_inverses {entries inverses : List (Entry V)}
    (h : inverses.map Entry.step = entries.reverse.map Entry.compensation) :
    (inverses.filter (leaf ·.kind)).map Entry.step =
      (entries.filter (leaf ·.kind)).reverse.map Entry.compensation := by
  have leaves : (fun entry : Entry V => leaf entry.kind) = (leaf ·.kind) ∘ Entry.step := by
    funext entry
    rw [Function.comp_apply, Entry.step_kind]
  have inverseLeaves :
      (leaf ·.kind) ∘ Entry.compensation = fun entry : Entry V => leaf entry.kind := by
    funext entry
    rw [Function.comp_apply, Entry.compensation_kind]
  calc (inverses.filter (leaf ·.kind)).map Entry.step
      = (inverses.map Entry.step).filter (leaf ·.kind) := by rw [List.filter_map, leaves]
    _ = (entries.reverse.map Entry.compensation).filter (leaf ·.kind) := by rw [h]
    _ = (entries.filter (leaf ·.kind)).reverse.map Entry.compensation := by
      rw [List.filter_map, inverseLeaves, List.filter_reverse]

/-- If a failed request has only leaves and composites for handlers, if what was admitted is
admitted again, and if no leaf fails in the rollback, then the caller gets the error of the request.
The calls of leaves that end well are the logged ones, then their inverses in reverse order, and no
others. So the world is as it was before, as far as anything shows that each inverse takes back. -/
theorem settle_cancels (dispatcher : Dispatcher V) (leaf : V.Kind → Bool)
    (later : State V → State V → Prop) (depth : Nat) {session : Option String} {step : Step V}
    {state middle last : State V} {original : DispatchError} {log : List (Entry V)}
    {answer : Answer step.Result} {before after : List (Moment V)}
    (steady : dispatcher.Steady later) (divided : dispatcher.Divided leaf later state)
    (attempted : dispatcher.attempt (dispatcher.perform (dispatcher.callsAt depth)) session
      step state = ⟨some (caller, .error original, log), middle, before⟩)
    (settled : dispatcher.settle (dispatcher.perform (dispatcher.callsAt depth)) step
      (caller, .error original, log) middle = ⟨some answer, last, after⟩)
    (unfailing : ∀ step error log, .returned caller.rollback step (.error error) log ∈ after →
      leaf step.kind = false) :
    answer = .error original ∧
    (∃ inverses : List (Entry V),
      (performedAmong (·.request = caller.request) (before ++ after)).filter (leaf ·.kind) =
        log.filter (leaf ·.kind) ++ inverses ∧
      inverses.map Entry.step = (log.filter (leaf ·.kind)).reverse.map Entry.compensation) ∧
    ∀ (β : Type) (view : V.World → β), dispatcher.Reverts leaf later state view →
      view last.world = view state.world := by
  have follow := callsAt_follow dispatcher depth
  obtain ⟨begun, forward⟩ := attempt_performed follow attempted
  obtain ⟨error, rolled, within, failing, hrollback, hfail, rfl, rfl⟩ := settle_eq_some settled
  have backward := settle_performed follow step begun hrollback hfail
  -- One argument for every view: what it says of the error and of the calls does not depend on it.
  have main : ∀ (β : Type) (view : V.World → β), dispatcher.Reverts leaf later state view →
      error = original ∧ view rolled.world = view state.world ∧
        (performed caller.rollback within).map Entry.step = log.reverse.map Entry.compensation := by
    intro β view reverts
    obtain ⟨reached, position⟩ := attempt_position divided steady reverts attempted
    exact rollback_cancels divided steady reverts reached begun position
      (fun step error log hm => unfailing step error log (by simp [hm])) hrollback
  obtain ⟨rfl, -, inverses⟩ := main Unit (fun _ => ()) .blind
  refine ⟨rfl, ⟨(performed caller.rollback within).filter (leaf ·.kind), ?_, ?_⟩, ?_⟩
  · rw [performedAmong_append, forward, backward, List.filter_append]
  · exact filter_inverses inverses
  · intro β view reverts
    obtain ⟨-, restored, -⟩ := main β view reverts
    rw [← restored, (dispatcher.emit_quiet _).world_eq hfail]

end Dispatcher

/-! ### Replacing widgets -/

namespace Widgets

variable {Gate : Type}

theorem members_judge :
    membersOnly.app.JudgesBySession fun sessions session => (members sessions session).1 :=
  fun _ _ _ => ⟨rfl, rfl⟩

/-- What members do to the registries: nothing. -/
abbrev Unchanged (state last : State (vocabulary (List String))) : Prop :=
  state.Keeps (fun sessions session => (members sessions session).1) last

theorem membersOnly_steady : membersOnly.Steady Unchanged :=
  Dispatcher.registered_steady rfl rfl members_judge

theorem membersOnly_divided (start : State (vocabulary (List String))) :
    membersOnly.Divided Job.isSimple Unchanged start := by
  have changes (f : Int → Int) : (membersOnly.app.act (.change f)).Moves Unchanged start := by
    intro state world last moments _ hrun
    have kept :=
      members_judge.act_keeps (rfl : (Act.change f : Act (vocabulary _)).registers = false) state
    rwa [hrun] at kept
  constructor
  · intro step handler _ simple
    cases step with
    | execute job count => cases job <;> first | exact ⟨changes _, fun _ => trivial⟩ | cases simple
    | undo job count output =>
      cases job <;> first | exact ⟨changes _, fun _ => trivial⟩ | cases simple
  · intro job handler count _ composite
    cases job with
    | create | delete => cases composite
    | replace =>
      refine ⟨fun undo => (nomatch undo), fun answer => ?_⟩
      cases answer with
      | ok => exact ⟨fun undo => (nomatch undo), fun answer => by cases answer <;> trivial⟩
      | error => trivial
  · intro job handler count output _ composite
    cases job with
    | create | delete => cases composite
    | replace => rfl

/-- What a leaf adds to the number of widgets is what its inverse takes away. -/
theorem leaf_adds {step : Step (vocabulary (List String))} (simple : step.kind.isSimple = true) :
    ∃ n : Int,
      (∀ ⦃depth caller handler log state answer inner last moments⦄,
        membersOnly.interpret (membersOnly.callsAt depth) caller
          (membersOnly.app.program step handler) log state =
          ⟨some (answer, inner), last, moments⟩ →
        count last.world = count state.world + n ∧ answer.isOk = true) ∧
      ∀ ⦃output depth caller handler log state answer inner last moments⦄,
        membersOnly.interpret (membersOnly.callsAt depth) caller
          (membersOnly.app.program (step.entry output).compensation handler) log state =
            ⟨some (answer, inner), last, moments⟩ →
        count last.world = count state.world - n := by
  cases step with
  | execute job number =>
    cases job with
    | create =>
      refine ⟨Int.ofNat number, ?_, ?_⟩
      · intro _ _ _ _ _ _ _ _ _ same
        cases same
        exact ⟨rfl, rfl⟩
      · intro _ _ _ _ _ _ _ _ _ _ same
        cases same
        rfl
    | delete =>
      refine ⟨-Int.ofNat number, ?_, ?_⟩
      · intro _ _ _ _ _ _ _ _ _ same
        cases same
        exact ⟨rfl, rfl⟩
      · intro _ _ _ _ _ _ _ _ _ _ same
        cases same
        exact (Int.sub_neg _ _).symm
    | replace => cases simple
  | undo job number output =>
    cases job with
    | create =>
      refine ⟨-Int.ofNat number, ?_, ?_⟩
      · intro _ _ _ _ _ _ _ _ _ same
        cases same
        exact ⟨rfl, rfl⟩
      · intro _ _ _ _ _ _ _ _ _ _ same
        cases same
        exact (Int.sub_neg _ _).symm
    | delete =>
      refine ⟨Int.ofNat number, ?_, ?_⟩
      · intro _ _ _ _ _ _ _ _ _ same
        cases same
        exact ⟨rfl, rfl⟩
      · intro _ _ _ _ _ _ _ _ _ _ same
        cases same
        rfl
    | replace => cases simple

theorem membersOnly_reverts (start : State (vocabulary (List String))) :
    membersOnly.Reverts Job.isSimple Unchanged start count := by
  refine ⟨fun _ _ _ => rfl, fun _ _ _ => rfl, ?_, ?_⟩
  · intro depth caller step handler log state error inner last moments simple _ _ hrun
    obtain ⟨n, forward, -⟩ := leaf_adds simple
    cases (forward hrun).2
  · intro depth caller step handler log state output inner last moments simple _ _ hrun
    obtain ⟨n, forward, backward⟩ := leaf_adds simple
    intro depth caller handler log state' output inner final moments _ _ same hback
    rw [backward hback, same, (forward hrun).1]
    exact Int.add_sub_cancel _ _

/-- Whether a handler call fails. -/
def isFailure : Moment (vocabulary Gate) → Bool
  | .returned _ _ (.error _) _ => true
  | _ => false

/-- The replacement that is refused half-way leaves no widgets behind. -/
theorem refused_replace_cancels :
    ∃ middle before last after,
      membersOnly.attempt (membersOnly.perform (membersOnly.callsAt 1)) "user"
        (execution .replace 1) guarded =
          ⟨some (.fresh guarded "user", .error .insufficientRights, [executed .create 2]),
            middle, before⟩ ∧
      membersOnly.settle (membersOnly.perform (membersOnly.callsAt 1)) (execution .replace 1)
        (.fresh guarded "user", .error .insufficientRights, [executed .create 2]) middle =
          ⟨some (.error .insufficientRights), last, after⟩ ∧
      count last.world = count guarded.world := by
  have run : ∃ middle before last after,
      membersOnly.attempt (membersOnly.perform (membersOnly.callsAt 1)) "user"
        (execution .replace 1) guarded =
          ⟨some (.fresh guarded "user", .error .insufficientRights, [executed .create 2]),
            middle, before⟩ ∧
      membersOnly.settle (membersOnly.perform (membersOnly.callsAt 1)) (execution .replace 1)
        (.fresh guarded "user", .error .insufficientRights, [executed .create 2]) middle =
          ⟨some (.error .insufficientRights), last, after⟩ ∧
      after.all (!isFailure ·) = true := ⟨_, _, _, _, rfl, rfl, rfl⟩
  obtain ⟨middle, before, last, after, attempted, settled, unfailing⟩ := run
  obtain ⟨-, -, restored⟩ :=
    Dispatcher.settle_cancels membersOnly Job.isSimple Unchanged 1 membersOnly_steady
      (membersOnly_divided guarded) attempted settled fun step error log hm => by
      cases List.all_eq_true.1 unfailing _ hm
  exact ⟨middle, before, last, after, attempted, settled,
    restored Int count (membersOnly_reverts guarded)⟩

end Widgets

end ActionDispatch
