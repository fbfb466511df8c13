import ActionDispatch.Proofs.Leaves

/-!
# Positions

Where a request stands that may still have to be taken back. The invariant is `Position`: every
logged step is still admitted, and the logged leaves are a `Trail` of what they did to the world.
Steps keep it up (`callsAt_tracks`), whatever else they do.
-/

namespace ActionDispatch

variable {V : Vocabulary} {α β : Type}

namespace Dispatcher

variable {dispatcher : Dispatcher V} {calls : Calls V} {caller : Caller} {leaf : V.Kind → Bool}
  {later : State V → State V → Prop} {start : State V}

/-- Whatever takes this entry back leads from the last view to the first one. -/
def TakesBack (dispatcher : Dispatcher V) (later : State V → State V → Prop) (start : State V)
    (view : V.World → β) (entry : Entry V) (first last : β) : Prop :=
  ∀ ⦃depth caller handler log state output inner final moments⦄,
    dispatcher.Serves later start entry.compensation.kind handler → later start state →
    view state.world = last →
    dispatcher.interpret (dispatcher.callsAt depth) caller
      (dispatcher.app.program entry.compensation handler) log state =
        ⟨some (.ok output, inner), final, moments⟩ →
    view final.world = first

/-- As far as the view shows, lookups and failing leaves leave the world alone, and what leaves do
is taken back by their inverses. -/
structure Reverts (dispatcher : Dispatcher V) (leaf : V.Kind → Bool)
    (later : State V → State V → Prop) (start : State V) (view : V.World → β) : Prop where
  handler : ∀ ⦃state⦄ kind, later start state →
    view (dispatcher.afterHandler state kind).world = view state.world
  validator : ∀ ⦃state⦄ kind, later start state →
    view (dispatcher.afterValidator state kind).world = view state.world
  failing : ∀ ⦃depth caller⦄ ⦃step : Step V⦄ ⦃handler log state error inner last moments⦄,
    leaf step.kind = true → dispatcher.Serves later start step.kind handler → later start state →
    dispatcher.interpret (dispatcher.callsAt depth) caller
      (dispatcher.app.program step handler) log state =
      ⟨some (.error error, inner), last, moments⟩ →
    view last.world = view state.world
  takesBack : ∀ ⦃depth caller⦄ ⦃step : Step V⦄ ⦃handler log state output inner last moments⦄,
    leaf step.kind = true → dispatcher.Serves later start step.kind handler → later start state →
    dispatcher.interpret (dispatcher.callsAt depth) caller
      (dispatcher.app.program step handler) log state =
      ⟨some (.ok output, inner), last, moments⟩ →
    dispatcher.TakesBack later start view (step.entry output) (view state.world) (view last.world)

/-- Where nothing shows, everything is reverted. -/
theorem Reverts.blind : dispatcher.Reverts leaf later start fun _ => () := by
  refine ⟨fun _ _ _ => rfl, fun _ _ _ => rfl, ?_, ?_⟩
  · intros
    rfl
  · intros
    unfold TakesBack
    intros
    rfl

/-- Entries, newest first, each of which led from one view to the next. -/
def Trail (leads : Entry V → β → β → Prop) (first : β) : List (Entry V) → β → Prop
  | [], last => last = first
  | entry :: older, last => ∃ middle, leads entry middle last ∧ Trail leads first older middle

/-- Where a request stands: every logged step would be admitted again, composites were executed and
not undone, and the leaves led from the first view to the present one. -/
structure Position (dispatcher : Dispatcher V) (leaf : V.Kind → Bool)
    (later : State V → State V → Prop) (start : State V) (view : V.World → β) (first : β)
    (session : Option String) (state : State V) (log : List (Entry V)) : Prop where
  ready : ∀ entry ∈ log, (leaf entry.kind = false → entry.executed = true) ∧
    ∃ handler, ∀ last, later state last → dispatcher.Clears last session entry.kind handler
  trail : Trail (dispatcher.TakesBack later start view) first (log.filter (leaf ·.kind)).reverse
    (view state.world)

variable {view : V.World → β} {first : β} {session : Option String} {state last : State V}
  {log inner : List (Entry V)} {step : Step V} {moments : List (Moment V)}

namespace Position

theorem of_later (h : dispatcher.Position leaf later start view first session state log)
    (steady : dispatcher.Steady later) (leads : later state last)
    (same : view last.world = view state.world) :
    dispatcher.Position leaf later start view first session last log := by
  refine ⟨fun entry hentry => ?_, same ▸ h.trail⟩
  obtain ⟨executed, handler, clears⟩ := h.ready entry hentry
  exact ⟨executed, handler, fun final hfinal => clears final (steady.trans leads hfinal)⟩

theorem of_quiet (h : dispatcher.Position leaf later start view first session state log)
    (steady : dispatcher.Steady later) {run : Run V α} (quiet : run.Quiet) {a : α}
    (hrun : run state = ⟨some a, last, moments⟩) :
    dispatcher.Position leaf later start view first session last log :=
  h.of_later steady (steady.leads_of_quiet quiet hrun) (congrArg view (quiet.world_eq hrun))

/-- One more entry, of a leaf. -/
theorem append_leaf (h : dispatcher.Position leaf later start view first session state log)
    (steady : dispatcher.Steady later) (leads : later state last) {entry : Entry V}
    (isLeaf : leaf entry.kind = true)
    (clears : ∃ handler, ∀ final, later last final →
      dispatcher.Clears final session entry.kind handler)
    (takesBack : dispatcher.TakesBack later start view entry (view state.world) (view last.world)) :
    dispatcher.Position leaf later start view first session last (log ++ [entry]) := by
  constructor
  · intro e he
    rcases List.mem_append.1 he with he | he
    · obtain ⟨executed, handler, clears⟩ := h.ready e he
      exact ⟨executed, handler, fun final hfinal => clears final (steady.trans leads hfinal)⟩
    · obtain rfl := List.mem_singleton.1 he
      exact ⟨fun isComposite => (nomatch isLeaf.symm.trans isComposite), clears⟩
  · have newest : ((log ++ [entry]).filter (leaf ·.kind)).reverse =
        entry :: (log.filter (leaf ·.kind)).reverse := by
      simp [isLeaf]
    rw [newest]
    exact ⟨view state.world, takesBack, h.trail⟩

/-- One more entry, of a composite that was executed. -/
theorem append_composite (h : dispatcher.Position leaf later start view first session state log)
    {entry : Entry V} (isComposite : leaf entry.kind = false) (executed : entry.executed = true)
    (clears : ∃ handler, ∀ final, later state final →
      dispatcher.Clears final session entry.kind handler) :
    dispatcher.Position leaf later start view first session state (log ++ [entry]) := by
  constructor
  · intro e he
    rcases List.mem_append.1 he with he | he
    · exact h.ready e he
    · obtain rfl := List.mem_singleton.1 he
      exact ⟨fun _ => executed, clears⟩
  · have same : (log ++ [entry]).filter (leaf ·.kind) = log.filter (leaf ·.kind) := by
      simp [isComposite]
    rw [same]
    exact h.trail

end Position

/-- Steps that undo only leaves keep up the position. -/
def Tracks (dispatcher : Dispatcher V) (leaf : V.Kind → Bool) (later : State V → State V → Prop)
    (start : State V) (view : V.World → β) (first : β) (perform : Performing V) : Prop :=
  ∀ ⦃caller step log state answer inner last moments⦄,
    (step.isUndo = true → leaf step.kind = true) →
    later start state → dispatcher.Position leaf later start view first caller.session state log →
    perform caller step log state = ⟨some (answer, inner), last, moments⟩ →
    dispatcher.Position leaf later start view first caller.session last inner

theorem interpret_composite_position (steady : dispatcher.Steady later)
    (move : calls.Move later start)
    (track : dispatcher.Tracks leaf later start view first calls.perform) {program : Program V α}
    (h : program.Composite leaf) {answer : Answer α} (reached : later start state)
    (position : dispatcher.Position leaf later start view first caller.session state log)
    (hrun : dispatcher.interpret calls caller program log state =
      ⟨some (answer, inner), last, moments⟩) :
    dispatcher.Position leaf later start view first caller.session last inner := by
  induction program generalizing log state moments with
  | done answer =>
    cases hrun
    exact position
  | perform step next ih =>
    obtain ⟨⟨result, log'⟩, middle, _, _, hperform, hnext, rfl⟩ := Run.bind_eq_some_iff.1 hrun
    have moved := move.perform caller step log reached hperform
    exact ih _ (h.2 _) (steady.trans reached moved) (track h.1 reached position hperform) hnext
  | request session step next ih => exact h.elim
  | look next ih =>
    obtain ⟨_, middle, _, _, hlook, hnext, rfl⟩ := Run.bind_eq_some_iff.1 hrun
    cases hlook
    exact ih _ (h _) reached position hnext
  | act act next ih => exact h.elim

theorem Admission.view_eq (reverts : dispatcher.Reverts leaf later start view)
    {handler : V.Handler step.kind} {admitted : State V} {way : List (Moment V)}
    (reached : later start state)
    (h : dispatcher.Admission caller step handler state way admitted) :
    view admitted.world = view state.world := by
  obtain ⟨served, guarded, accepted⟩ := h
  rw [Application.verdict_state]
  exact reverts.validator step.kind reached

/-- A step keeps up the position, unless it undoes a composite. -/
theorem perform_position (divided : dispatcher.Divided leaf later start)
    (steady : dispatcher.Steady later) (reverts : dispatcher.Reverts leaf later start view)
    {depth : Nat}
    (track : dispatcher.Tracks leaf later start view first (dispatcher.callsAt depth).perform)
    {answer : Answer step.Result}
    (undone : step.isUndo = true → leaf step.kind = false → answer.isOk = false)
    (reached : later start state)
    (position : dispatcher.Position leaf later start view first caller.session state log)
    (hrun : dispatcher.perform (dispatcher.callsAt depth) caller step log state =
      ⟨some (answer, inner), last, moments⟩) :
    dispatcher.Position leaf later start view first caller.session last inner := by
  have move := callsAt_move divided steady depth
  have conduct := dispatcher.perform_conduct (dispatcher.callsAt depth) caller step log state
  generalize dispatcher.perform (dispatcher.callsAt depth) caller step log state = out
    at hrun conduct
  cases conduct with
  | unserved =>
    cases hrun
    exact position.of_later steady (steady.handler state step.kind)
      (reverts.handler step.kind reached)
  | unguarded =>
    cases hrun
    exact position.of_later steady (steady.validator state step.kind)
      (reverts.validator step.kind reached)
  | @refused id _ _ _ guarded refused refusal =>
    cases hrun
    have asked :=
      steady.trans (steady.validator state step.kind) (steady.verdict _ id caller.session)
    refine (position.of_later steady asked ?_).of_quiet steady
      (dispatcher.refuse_quiet caller step) refusal
    rw [Application.verdict_state]
    exact reverts.validator step.kind reached
  | @invoked handler way admitted admission =>
    rw [Outcome.after_eq_some_iff] at hrun
    obtain ⟨own, hinvoke, rfl⟩ := hrun
    obtain ⟨given, middleLog, middle, body, rest, hprogram, rfl, rfl, -, -, hrecord⟩ :=
      dispatcher.invoke_eq_some _ caller hinvoke
    have leads := admission.leads steady
    have serves := admission.serves reached
    have here := position.of_later steady leads (admission.view_eq reverts reached)
    have reached := steady.trans reached leads
    have moved := divided.program_moves steady move serves log reached hprogram
    have again : ∃ handler, ∀ final, later middle final →
        dispatcher.Clears final caller.session step.kind handler :=
      ⟨handler, fun final hfinal => steady.again admission (steady.trans moved hfinal)⟩
    -- The record of the step comes after all that matters.
    suffices dispatcher.Position leaf later start view first caller.session middle
        (middleLog ++ step.recorded given) from
      this.of_quiet steady (dispatcher.record_quiet caller step (given, middleLog)) hrecord
    cases hleaf : leaf step.kind with
    | true =>
      obtain ⟨-, rfl⟩ :=
        interpret_leaf steady move (divided.leaves step handler serves hleaf) reached hprogram
      cases given with
      | error error =>
        rw [Step.recorded, List.append_nil]
        exact here.of_later steady moved (reverts.failing hleaf serves reached hprogram)
      | ok output =>
        rw [← Step.kind_entry step output] at hleaf again
        exact here.append_leaf steady moved hleaf again
          (reverts.takesBack (Step.kind_entry step output ▸ hleaf) serves reached hprogram)
    | false =>
      cases step with
      | execute kind input =>
        have composite := divided.executes handler input serves hleaf
        have there := interpret_composite_position steady move track composite reached here hprogram
        cases given with
        | error error =>
          rw [Step.recorded, List.append_nil]
          exact there
        | ok output => exact there.append_composite hleaf rfl again
      | undo kind input output =>
        have nothing := divided.undoes handler input output serves hleaf
        simp only [Application.program, nothing] at hprogram
        cases hprogram
        cases undone rfl hleaf

theorem callsAt_tracks (divided : dispatcher.Divided leaf later start)
    (steady : dispatcher.Steady later) (reverts : dispatcher.Reverts leaf later start view)
    (depth : Nat) :
    dispatcher.Tracks leaf later start view first (dispatcher.callsAt depth).perform := by
  induction depth with
  | zero => rintro _ _ _ _ _ _ _ _ - - - ⟨⟩
  | succ depth ih =>
    intro caller step log state answer inner last moments leaves reached position hrun
    refine perform_position divided steady reverts ih (fun undo composite => ?_) reached position
      hrun
    cases (leaves undo).symm.trans composite

end Dispatcher

end ActionDispatch
