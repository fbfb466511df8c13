import ActionDispatch.Proofs.Forests
import ActionDispatch.Proofs.Retention

/-!
# Composites that reverse themselves

A composite can reverse itself: its execution executes its parts in order, and its undo undoes them in
reverse order. What it executed is logged in the same log as itself, so when a request fails after such a
composite has completed, its parts are taken back with it and then once more for themselves. The log of a
request is a forest (`Grows`), every entry of it can be taken back (`Grown.task`), and
`selfReversing_rollback` counts how often that undoes each leaf.
-/

namespace ActionDispatch

variable {V : Vocabulary} {α : Type}

namespace Program

/-- A program that calls nothing, and whose acts are of this sort. -/
def Alone (sort : Act V → Prop) : Program V α → Prop
  | .done _ => True
  | .perform .. | .request .. => False
  | .look next => ∀ view, (next view).Alone sort
  | .act outside next => sort outside ∧ ∀ result, (next result).Alone sort

/-- A program that performs these steps in order. It ends with the error of the first one that fails, and
ends well after the last one. -/
def Performs : List (Step V) → Program V α → Prop
  | [], program => ∃ result, program = .done (.ok result)
  | step :: steps, program => ∃ next, program = .perform step next ∧
    (∀ error, next (.error error) = .done (.error error)) ∧ ∀ output, Performs steps (next (.ok output))

end Program

/-- How the handlers of an application are divided. -/
structure Plan (V : Vocabulary) where
  leaf : V.Kind → Bool
  /-- What a composite executes, in order. -/
  parts : {kind : V.Kind} → V.Handler kind → V.Input kind → List (Action V)
  /-- The actions that are designated to fail. -/
  fails : Action V → Prop

/-- What a leaf is called to do in a moment. -/
def Moment.deed? (leaf : V.Kind → Bool) : Moment V → Option (Bool × Action V)
  | .called _ step _ => if leaf step.kind then some step.deed else none
  | _ => none

/-- What leaves are called to do, in order. -/
def deeds (leaf : V.Kind → Bool) (moments : List (Moment V)) : List (Bool × Action V) :=
  moments.filterMap (Moment.deed? leaf)

theorem deeds_append (leaf : V.Kind → Bool) (before after : List (Moment V)) :
    deeds leaf (before ++ after) = deeds leaf before ++ deeds leaf after :=
  List.filterMap_append

theorem deeds_of_uncalled (leaf : V.Kind → Bool) {moments : List (Moment V)}
    (h : ∀ m ∈ moments, m.isCall = false) :
    deeds leaf moments = [] := by
  refine List.filterMap_eq_nil_iff.2 fun m hm => ?_
  cases m with
  | called => cases h _ hm
  | _ => rfl

namespace Dispatcher

/-- The registered handlers are leaves, which call nothing and fail just for the actions that are designated
to fail, and composites, which execute their parts in order and undo them in reverse order. -/
structure SelfReversing (dispatcher : Dispatcher V) (plan : Plan V) (later : State V → State V → Prop)
    (start : State V) : Prop where
  leaves : ∀ (step : Step V) handler, dispatcher.Serves later start step.kind handler →
    plan.leaf step.kind = true →
    (dispatcher.app.program step handler).Alone fun act => (dispatcher.app.act act).Moves later start
  failing : ∀ ⦃action : Action V⦄ ⦃handler calls caller log state output inner last moments⦄,
    dispatcher.Serves later start action.kind handler → plan.leaf action.kind = true →
    plan.fails action → later start state →
    dispatcher.interpret calls caller (dispatcher.app.execute handler action.input) log state ≠
      ⟨some (.ok output, inner), last, moments⟩
  unfailing : ∀ ⦃step : Step V⦄ ⦃handler calls caller log state error inner last moments⦄,
    dispatcher.Serves later start step.kind handler → plan.leaf step.kind = true →
    ¬plan.fails step.action → later start state →
    dispatcher.interpret calls caller (dispatcher.app.program step handler) log state ≠
      ⟨some (.error error, inner), last, moments⟩
  executes : ∀ {kind} (handler : V.Handler kind) input, dispatcher.Serves later start kind handler →
    plan.leaf kind = false →
    (dispatcher.app.execute handler input).Performs ((plan.parts handler input).map Action.execution)
  undoes : ∀ {kind} (handler : V.Handler kind) input output,
    dispatcher.Serves later start kind handler → plan.leaf kind = false →
    (∀ part ∈ plan.parts handler input, plan.leaf part.kind = true → ¬plan.fails part) →
    ∃ reversal : List (Step V),
      reversal.map Step.deed = (plan.parts handler input).reverse.map (true, ·) ∧
      (dispatcher.app.undo handler input output).Performs reversal

/-- A forest of executions that have completed by now, and that can be taken back ever after. What is below a
composite is what its handler executes. -/
inductive Grown (dispatcher : Dispatcher V) (plan : Plan V) (later : State V → State V → Prop)
    (session : Option String) (now : State V) : Forest V → Prop
  | nil : Grown dispatcher plan later session now .nil
  | leaf {entry rest handler} (executed : entry.executed = true) (isLeaf : plan.leaf entry.kind = true)
      (reliable : ¬plan.fails entry.action)
      (clears : ∀ last, later now last → dispatcher.Clears last session entry.kind handler)
      (others : Grown dispatcher plan later session now rest) :
      Grown dispatcher plan later session now (.leaf entry rest)
  | composite {entry below rest handler} (executed : entry.executed = true)
      (isComposite : plan.leaf entry.kind = false)
      (parts : plan.parts handler entry.input = below.roots.map Entry.action)
      (clears : ∀ last, later now last → dispatcher.Clears last session entry.kind handler)
      (inside : Grown dispatcher plan later session now below)
      (others : Grown dispatcher plan later session now rest) :
      Grown dispatcher plan later session now (.composite entry below rest)

/-- Steps that are performed one after the other, and end well. -/
inductive Completes (perform : Performing V) (caller : Caller) :
    List (Step V) → Standing V → List (Moment V) → Standing V → Prop
  | nil {start} : Completes perform caller [] start [] start
  | cons {step : Step V} {steps start output log state moments rest stop}
      (done : perform caller step start.log start.state = ⟨some (.ok output, log), state, moments⟩)
      (others : Completes perform caller steps ⟨state, log⟩ rest stop) :
      Completes perform caller (step :: steps) start (moments ++ rest) stop

/-- However it is undone later on, the execution of an entry is taken back, and that undoes these leaves. -/
def UndoneWith (plan : Plan V) (later : State V → State V → Prop) (perform : Performing V)
    (caller : Caller) (now : State V) (entry : Entry V) (leaves : List (Entry V)) : Prop :=
  ∀ output log state, later now state → ∃ inner last moments,
    perform caller (.undo entry.kind entry.input output) log state =
      ⟨some (.ok (), inner), last, moments⟩ ∧
    later state last ∧ deeds plan.leaf moments = leaves.map Entry.undoing

/-- However these executions are undone later on, newest first, they are taken back, and that undoes these
leaves. -/
def Reverses (plan : Plan V) (later : State V → State V → Prop) (perform : Performing V)
    (caller : Caller) (now : State V) (roots leaves : List (Entry V)) : Prop :=
  ∀ ⦃reversal : List (Step V)⦄ (first : Standing V),
    reversal.map Step.deed = roots.reverse.map Entry.undoing → later now first.state →
    ∃ moments final, Completes perform caller reversal first moments final ∧
      later first.state final.state ∧ deeds plan.leaf moments = leaves.map Entry.undoing

/-- What was added to a log is a forest, nested at most this deep. If it is complete, these are its roots. -/
def Adds (dispatcher : Dispatcher V) (plan : Plan V) (later : State V → State V → Prop)
    (session : Option String) (depth : Nat) (now : State V) (log inner : List (Entry V))
    (complete : Bool) (roots : List (Action V)) : Prop :=
  ∃ forest, inner = log ++ Forest.log forest ∧ dispatcher.Grown plan later session now forest ∧
    forest.nesting ≤ depth ∧ (complete = true → forest.roots.map Entry.action = roots)

/-- What is executed, nested at most this deep, adds a forest to the log; if it completes, that is a tree. -/
def Grows (dispatcher : Dispatcher V) (plan : Plan V) (later : State V → State V → Prop)
    (start : State V) (depth : Nat) : Prop :=
  ∀ ⦃caller⦄ ⦃action : Action V⦄ ⦃log state answer inner last moments⦄, later start state →
    (dispatcher.callsAt depth).perform caller action.execution log state =
      ⟨some (answer, inner), last, moments⟩ →
    later state last ∧
      dispatcher.Adds plan later caller.session depth last log inner answer.isOk [action]

variable {dispatcher : Dispatcher V} {calls : Calls V} {perform : Performing V} {caller : Caller}
  {plan : Plan V} {later : State V → State V → Prop} {start now state last : State V}
  {session : Option String} {log inner : List (Entry V)} {moments : List (Moment V)} {depth : Nat}

/-- The leaves that are called in a step: the one of the step itself, if it is a leaf, and those that its
handler calls. -/
theorem deeds_perform (leaf : V.Kind → Bool) {step : Step V} {handler : V.Handler step.kind}
    {admitted : State V} {way body rest : List (Moment V)} {given : Answer step.Result}
    (admission : dispatcher.Admission caller step handler state way admitted)
    (aside : ∀ m ∈ rest, m.Aside) :
    deeds leaf (way ++ .called caller step handler :: (body ++ .returned caller step given log :: rest)) =
      (if leaf step.kind then [step.deed] else []) ++ deeds leaf body := by
  have ended : deeds leaf (.returned caller step given log :: rest) = [] :=
    deeds_of_uncalled leaf fun m hm => by
      rcases List.mem_cons.1 hm with rfl | hm
      · rfl
      · exact (aside m hm).isCall_eq_false
  have call : deeds leaf [.called caller step handler] = if leaf step.kind then [step.deed] else [] := by
    cases isLeaf : leaf step.kind <;> simp [deeds, Moment.deed?, isLeaf]
  rw [← List.singleton_append, deeds_append, deeds_append, deeds_append, ended,
    deeds_of_uncalled leaf admission.isCall_eq_false, call, List.append_nil, List.nil_append]

/-- A step that is admitted, and whose handler ends well, ends well. -/
theorem Admission.completes (steady : dispatcher.Steady later) {step : Step V}
    {handler : V.Handler step.kind} {admitted middle : State V} {way body : List (Moment V)}
    {output : step.Result} (admission : dispatcher.Admission caller step handler state way admitted)
    (hprogram : dispatcher.interpret calls caller (dispatcher.app.program step handler) log admitted =
      ⟨some (.ok output, inner), middle, body⟩) (leads : later admitted middle) (leaf : V.Kind → Bool) :
    ∃ log' last moments, dispatcher.perform calls caller step log state =
        ⟨some (.ok output, log'), last, moments⟩ ∧
      later state last ∧
      deeds leaf moments = (if leaf step.kind then [step.deed] else []) ++ deeds leaf body := by
  obtain ⟨last, rest, hinvoke, aside, hrecord⟩ := dispatcher.invoke_apply calls caller hprogram
  refine ⟨_, last, _, (admission.perform_apply calls log).trans (by rw [hinvoke]; rfl), ?_,
    deeds_perform leaf admission aside⟩
  have recorded := steady.leads_of_quiet (dispatcher.record_quiet caller step _) hrecord
  exact steady.trans (admission.leads steady) (steady.trans leads recorded)

/-- A leaf comes to an end, calls nothing and leaves the log alone. -/
theorem interpret_alone (calls : Calls V) (caller : Caller) (log : List (Entry V))
    (steady : dispatcher.Steady later) {program : Program V α}
    (alone : program.Alone fun act => (dispatcher.app.act act).Moves later start)
    (reached : later start state) :
    ∃ answer last moments, dispatcher.interpret calls caller program log state =
        ⟨some (answer, log), last, moments⟩ ∧
      later state last ∧ ∀ m ∈ moments, m.isCall = false := by
  induction program generalizing state with
  | done answer => exact ⟨answer, state, [], rfl, steady.refl _, fun _ hm => (nomatch hm)⟩
  | perform step next ih | request session step next ih => exact alone.elim
  | look next ih =>
    obtain ⟨answer, last, moments, hrun, leads, uncalled⟩ := ih _ (alone _) reached
    refine ⟨answer, last, .looked caller log :: moments, ?_, leads, fun m hm => ?_⟩
    · exact Run.bind_eq_some_iff.2 ⟨(), state, [.looked caller log], _, rfl, hrun, rfl⟩
    · rcases List.mem_cons.1 hm with rfl | hm
      · rfl
      · exact uncalled m hm
  | act act next ih =>
    obtain ⟨result, middle, before, hact, aside, -⟩ := (dispatcher.app.act_aside act).apply state
    have first := alone.1 reached hact
    obtain ⟨answer, last, after, hrun, second, uncalled⟩ :=
      ih result (alone.2 result) (steady.trans reached first)
    refine ⟨answer, last, before ++ after, ?_, steady.trans first second, fun m hm => ?_⟩
    · exact Run.bind_eq_some_iff.2 ⟨result, middle, before, after, hact, hrun, rfl⟩
    · rcases List.mem_append.1 hm with hm | hm
      · exact (aside m hm).isCall_eq_false
      · exact uncalled m hm

/-! ### Steps that complete -/

theorem Completes.append {steps others : List (Step V)} {first middle final : Standing V}
    {before after : List (Moment V)} (h : Completes perform caller steps first before middle)
    (h' : Completes perform caller others middle after final) :
    Completes perform caller (steps ++ others) first (before ++ after) final := by
  induction h with
  | nil => exact h'
  | cons done _ ih =>
    rw [List.append_assoc]
    exact .cons done (ih h')

theorem Completes.interpret {steps : List (Step V)} {program : Program V α} (h : program.Performs steps)
    {first final : Standing V} (completes : Completes calls.perform caller steps first moments final) :
    ∃ output, dispatcher.interpret calls caller program first.log first.state =
      ⟨some (.ok output, final.log), final.state, moments⟩ := by
  induction completes generalizing program with
  | nil =>
    obtain ⟨result, rfl⟩ := h
    exact ⟨result, rfl⟩
  | cons done _ ih =>
    obtain ⟨next, rfl, -, goesOn⟩ := h
    obtain ⟨output, hrest⟩ := ih (goesOn _)
    exact ⟨output, Run.bind_eq_some_iff.2 ⟨_, _, _, _, done, hrest, rfl⟩⟩

/-! ### Forests that can be taken back -/

namespace Grown

variable {forest : Forest V}

theorem of_later (h : dispatcher.Grown plan later session now forest) (steady : dispatcher.Steady later)
    (leads : later now last) : dispatcher.Grown plan later session last forest := by
  induction h with
  | nil => exact .nil
  | leaf executed isLeaf reliable clears _ ih =>
    exact .leaf executed isLeaf reliable (fun final h => clears final (steady.trans leads h)) ih
  | composite executed isComposite parts clears _ _ ihInside ihOthers =>
    exact .composite executed isComposite parts (fun final h => clears final (steady.trans leads h))
      ihInside ihOthers

theorem append {other : Forest V} (h : dispatcher.Grown plan later session now forest)
    (h' : dispatcher.Grown plan later session now other) :
    dispatcher.Grown plan later session now (forest.append other) := by
  induction h with
  | nil => exact h'
  | leaf executed isLeaf reliable clears _ ih => exact .leaf executed isLeaf reliable clears ih
  | composite executed isComposite parts clears inside _ _ ih =>
    exact .composite executed isComposite parts clears inside ih

/-- No leaf that completed is designated to fail. -/
theorem reliable (h : dispatcher.Grown plan later session now forest) :
    ∀ root ∈ forest.roots, plan.leaf root.kind = true → ¬plan.fails root.action := by
  induction h with
  | nil => exact fun _ hroot => (nomatch hroot)
  | leaf _ _ reliable _ _ ih =>
    intro root hroot isLeaf
    rcases List.mem_cons.1 hroot with rfl | hroot
    · exact reliable
    · exact ih root hroot isLeaf
  | composite _ isComposite _ _ _ _ _ ih =>
    intro root hroot isLeaf
    rcases List.mem_cons.1 hroot with rfl | hroot
    · cases isComposite.symm.trans isLeaf
    · exact ih root hroot isLeaf

/-- The leaves of a forest are those of its log. -/
theorem leaves_eq (h : dispatcher.Grown plan later session now forest) :
    forest.leaves = forest.log.filter (plan.leaf ·.kind) := by
  induction h with
  | nil => rfl
  | leaf _ isLeaf _ _ _ ih => simp [Forest.leaves, Forest.log_leaf, isLeaf, ih]
  | composite _ isComposite _ _ _ _ ihInside ihOthers =>
    simp [Forest.leaves, Forest.log_composite, isComposite, ihInside, ihOthers]

theorem executed (h : dispatcher.Grown plan later session now forest) :
    ∀ task ∈ forest.tasks, task.1.executed = true := by
  induction h with
  | nil => exact fun _ htask => (nomatch htask)
  | leaf executed _ _ _ _ ih =>
    intro task htask
    rcases List.mem_cons.1 htask with rfl | htask
    · exact executed
    · exact ih task htask
  | composite executed _ _ _ _ _ ihInside ihOthers =>
    intro task htask
    rcases List.mem_append.1 htask with htask | htask
    · exact ihInside task htask
    · rcases List.mem_cons.1 htask with rfl | htask
      · exact executed
      · exact ihOthers task htask

end Grown

/-- The execution of a leaf is taken back by its undo. -/
theorem undone_leaf (steady : dispatcher.Steady later)
    (reversing : dispatcher.SelfReversing plan later start) (reached : later start now)
    {entry : Entry V} {handler : V.Handler entry.kind} (isLeaf : plan.leaf entry.kind = true)
    (reliable : ¬plan.fails entry.action)
    (clears : ∀ last, later now last → dispatcher.Clears last caller.session entry.kind handler) :
    UndoneWith plan later (dispatcher.perform calls) caller now entry [entry] := by
  intro output log state leads
  have reached := steady.trans reached leads
  obtain ⟨way, admitted, admission⟩ :=
    (clears state leads).admission (.undo entry.kind entry.input output)
  have serves := admission.serves reached
  have reached := steady.trans reached (admission.leads steady)
  have alone := reversing.leaves (.undo entry.kind entry.input output) handler serves isLeaf
  obtain ⟨answer, middle, body, hprogram, moved, uncalled⟩ :=
    interpret_alone calls caller log steady alone reached
  cases answer with
  | error error => exact (reversing.unfailing serves isLeaf reliable reached hprogram).elim
  | ok result =>
    obtain ⟨inner, last, moments, hperform, leads, calls⟩ :=
      admission.completes steady hprogram moved plan.leaf
    refine ⟨inner, last, moments, hperform, leads, calls.trans ?_⟩
    rw [deeds_of_uncalled plan.leaf uncalled, List.append_nil]
    exact if_pos isLeaf

/-- The execution of a composite is taken back by its undo, with all leaves that are below it. -/
theorem undone_composite (steady : dispatcher.Steady later)
    (reversing : dispatcher.SelfReversing plan later start) (reached : later start now)
    {entry : Entry V} {below : Forest V} {handler : V.Handler entry.kind}
    (isComposite : plan.leaf entry.kind = false)
    (parts : plan.parts handler entry.input = below.roots.map Entry.action)
    (clears : ∀ last, later now last → dispatcher.Clears last caller.session entry.kind handler)
    (inside : dispatcher.Grown plan later caller.session now below)
    (reverses : Reverses plan later calls.perform caller now below.roots below.leaves.reverse) :
    UndoneWith plan later (dispatcher.perform calls) caller now entry below.leaves.reverse := by
  intro output log state leads
  obtain ⟨way, admitted, admission⟩ :=
    (clears state leads).admission (.undo entry.kind entry.input output)
  have serves := admission.serves (steady.trans reached leads)
  have reliable : ∀ part ∈ plan.parts handler entry.input, plan.leaf part.kind = true →
      ¬plan.fails part := by
    rw [parts]
    intro part hpart isLeaf
    obtain ⟨root, hroot, rfl⟩ := List.mem_map.1 hpart
    exact inside.reliable root hroot isLeaf
  obtain ⟨reversal, undoes, performs⟩ :=
    reversing.undoes handler entry.input output serves isComposite reliable
  have undoes : reversal.map Step.deed = below.roots.reverse.map Entry.undoing := by
    rw [undoes, parts, ← List.map_reverse, List.map_map]
    rfl
  obtain ⟨body, final, completes, moved, called⟩ := reverses ⟨admitted, log⟩ undoes
    (steady.trans leads (admission.leads steady))
  obtain ⟨result, hprogram⟩ := completes.interpret performs
  obtain ⟨inner, last, moments, hperform, leads, calls⟩ :=
    admission.completes steady hprogram moved plan.leaf
  refine ⟨inner, last, moments, hperform, leads, calls.trans ?_⟩
  rw [called]
  exact congrArg (· ++ _) (if_neg (ne_true_of_eq_false isComposite))

theorem Reverses.nil (steady : dispatcher.Steady later) :
    Reverses plan later perform caller now [] [] := by
  intro reversal first undoes _
  obtain rfl := List.map_eq_nil_iff.1 undoes
  exact ⟨[], first, .nil, steady.refl _, rfl⟩

/-- The oldest execution is taken back last. -/
theorem Reverses.cons (steady : dispatcher.Steady later) {entry : Entry V}
    {roots leaves taken : List (Entry V)} (h : Reverses plan later perform caller now roots leaves)
    (undone : UndoneWith plan later perform caller now entry taken) :
    Reverses plan later perform caller now (entry :: roots) (leaves ++ taken) := by
  intro reversal first undoes leads
  rw [List.reverse_cons, List.map_append] at undoes
  obtain ⟨steps, oldest, rfl, undoesRoots, undoesOldest⟩ := List.map_eq_append_iff.1 undoes
  obtain ⟨step, rfl, undoesEntry⟩ := List.map_eq_singleton_iff.1 undoesOldest
  obtain ⟨output, rfl⟩ := Step.eq_undo_of_deed undoesEntry
  obtain ⟨before, middle, completes, moved, called⟩ := h first undoesRoots leads
  obtain ⟨inner, last, after, done, moved', called'⟩ :=
    undone output middle.log middle.state (steady.trans leads moved)
  refine ⟨before ++ (after ++ []), ⟨last, inner⟩, completes.append (.cons done .nil),
    steady.trans moved moved', ?_⟩
  rw [List.append_nil, deeds_append, called, called', List.map_append]

/-- The roots of a forest can be undone, newest first, and that undoes every leaf of it. -/
theorem Grown.reverses (steady : dispatcher.Steady later)
    (reversing : dispatcher.SelfReversing plan later start) (reached : later start now)
    {forest : Forest V} (grown : dispatcher.Grown plan later caller.session now forest)
    (deep : forest.nesting ≤ depth) :
    Reverses plan later (dispatcher.callsAt depth).perform caller now forest.roots
      forest.leaves.reverse := by
  -- Each call of a composite has one level less for what is below it.
  induction grown generalizing depth with
  | nil => exact .nil steady
  | @leaf entry rest handler executed isLeaf reliable clears _ ih =>
    simp only [Forest.nesting, Nat.max_le] at deep
    obtain ⟨less, rfl⟩ : ∃ less, depth = less + 1 := ⟨depth - 1, by omega⟩
    rw [Forest.leaves, List.reverse_cons]
    exact (ih deep.2).cons steady (undone_leaf steady reversing reached isLeaf reliable clears)
  | @composite entry below rest handler executed isComposite parts clears inside _ ihInside ihOthers =>
    simp only [Forest.nesting, Nat.max_le] at deep
    obtain ⟨less, rfl⟩ : ∃ less, depth = less + 1 := ⟨depth - 1, by omega⟩
    rw [Forest.leaves, List.reverse_append]
    exact (ihOthers deep.2).cons steady (undone_composite steady reversing reached isComposite parts
      clears inside (ihInside (Nat.le_of_succ_le_succ deep.1)))

/-- Every logged execution of a forest can be taken back, with the leaves that its task names. -/
theorem Grown.task (steady : dispatcher.Steady later)
    (reversing : dispatcher.SelfReversing plan later start) (reached : later start now)
    {forest : Forest V} (grown : dispatcher.Grown plan later caller.session now forest)
    (deep : forest.nesting ≤ depth + 1) :
    ∀ task ∈ forest.tasks, UndoneWith plan later (dispatcher.perform (dispatcher.callsAt depth)) caller
      now task.1 task.2 := by
  induction grown with
  | nil => exact fun _ htask => (nomatch htask)
  | @leaf entry rest handler executed isLeaf reliable clears _ ih =>
    simp only [Forest.nesting, Nat.max_le] at deep
    intro task htask
    rcases List.mem_cons.1 htask with rfl | htask
    · exact undone_leaf steady reversing reached isLeaf reliable clears
    · exact ih deep.2 task htask
  | @composite entry below rest handler executed isComposite parts clears inside _ ihInside ihOthers =>
    simp only [Forest.nesting, Nat.max_le] at deep
    intro task htask
    rcases List.mem_append.1 htask with htask | htask
    · exact ihInside (Nat.le_of_succ_le deep.1) task htask
    · rcases List.mem_cons.1 htask with rfl | htask
      · exact undone_composite steady reversing reached isComposite parts clears inside
          (inside.reverses steady reversing reached (Nat.le_of_succ_le_succ deep.1))
      · exact ihOthers deep.2 task htask

/-! ### The rollback -/

theorem UndoneWith.takenBack {entry : Entry V} {leaves : List (Entry V)}
    (undone : UndoneWith plan later perform caller now entry leaves) (executed : entry.executed = true)
    {step : Step V} (takesBack : entry.TakenBackBy step) (log : List (Entry V))
    (leads : later now state) :
    ∃ output inner last moments,
      perform caller step log state = ⟨some (.ok output, inner), last, moments⟩ ∧
      later state last ∧ deeds plan.leaf moments = leaves.map Entry.undoing := by
  cases takesBack with
  | @executed _ _ output => exact ⟨(), undone output log state leads⟩
  | undone => cases executed

/-- An attempt to take back an execution that can be taken back succeeds. -/
theorem UndoneWith.attempt (steady : dispatcher.Steady later) {attempt : Attempt V}
    {leaves : List (Entry V)}
    (undone : UndoneWith plan later perform caller now attempt.entry leaves)
    (executed : attempt.entry.executed = true) {middle : State V}
    (made : perform caller attempt.step log state =
      ⟨some (attempt.answer, inner), middle, attempt.inside⟩)
    (reported : dispatcher.report caller attempt.entry attempt.answer middle =
      ⟨some (), last, attempt.told⟩) (leads : later now state) :
    attempt.error? = none ∧ later state last ∧
      deeds plan.leaf (attempt.moments caller) = leaves.map Entry.undoing := by
  obtain ⟨output, _, _, _, done, moved, called⟩ :=
    undone.takenBack executed attempt.takesBack log leads
  obtain ⟨value, rfl, same⟩ := Outcome.mk.inj (made.symm.trans done)
  have answered : attempt.answer = .ok output := congrArg Prod.fst (Option.some.inj value)
  have told := steady.leads_of_quiet (dispatcher.report_quiet caller _ _) reported
  refine ⟨by rw [Attempt.error?, answered], steady.trans moved told, ?_⟩
  obtain ⟨_, _, _, hreport, aside, -⟩ :=
    (dispatcher.report_aside caller attempt.entry attempt.answer).apply middle
  cases reported.symm.trans hreport
  have turn : deeds plan.leaf [.compensating caller attempt.entry] = [] := rfl
  rw [Attempt.moments, ← List.singleton_append, deeds_append, deeds_append, turn, same, called,
    deeds_of_uncalled plan.leaf fun m hm => (aside m hm).isCall_eq_false, List.nil_append,
    List.append_nil]

/-- Executions that can be taken back are taken back: no attempt fails, and the leaves that are undone are
those of the tasks. -/
theorem Attempts.take_back (steady : dispatcher.Steady later) {attempts : List (Attempt V)}
    {begin final : Standing V} (chain : dispatcher.Attempts perform caller begin attempts final)
    {tasks : List (Entry V × List (Entry V))}
    (undone : ∀ task ∈ tasks, task.1.executed = true ∧
      UndoneWith plan later perform caller now task.1 task.2)
    (same : attempts.map Attempt.entry = tasks.map Prod.fst) (leads : later now begin.state) :
    (∀ attempt ∈ attempts, attempt.error? = none) ∧ later now final.state ∧
      deeds plan.leaf (attempts.flatMap (Attempt.moments caller)) =
        (tasks.flatMap Prod.snd).map Entry.undoing := by
  induction chain generalizing tasks with
  | nil =>
    obtain rfl := List.map_eq_nil_iff.1 same.symm
    exact ⟨fun _ h => (nomatch h), leads, rfl⟩
  | @cons begin attempt inner middle last attempts final made reported _ ih =>
    cases tasks with
    | nil => cases same
    | cons task tasks =>
      obtain ⟨entry, leaves⟩ := task
      obtain ⟨rfl, others⟩ := List.cons.inj same
      obtain ⟨executed, undoneEntry⟩ := undone _ List.mem_cons_self
      obtain ⟨succeeds, moved, called⟩ := undoneEntry.attempt steady executed made reported leads
      obtain ⟨succeed, reached, calledOthers⟩ := ih
        (fun task htask => undone task (List.mem_cons_of_mem _ htask)) others (steady.trans leads moved)
      refine ⟨List.forall_mem_cons.2 ⟨succeeds, succeed⟩, reached, ?_⟩
      rw [List.flatMap_cons, deeds_append, called, calledOthers, List.flatMap_cons, List.map_append]

/-- The attempts of a rollback succeed as far as they get, if the executions can be taken back. -/
theorem Attempts.take_back_some (steady : dispatcher.Steady later) {attempts : List (Attempt V)}
    {begin final : Standing V} (chain : dispatcher.Attempts perform caller begin attempts final)
    {tasks : List (Entry V × List (Entry V))}
    (undone : ∀ task ∈ tasks, task.1.executed = true ∧
      UndoneWith plan later perform caller now task.1 task.2)
    {rest : List (Entry V)} (split : tasks.map Prod.fst = attempts.map Attempt.entry ++ rest)
    (leads : later now begin.state) :
    (∀ attempt ∈ attempts, attempt.error? = none) ∧ later now final.state := by
  obtain ⟨made, others, rfl, same, rfl⟩ := List.map_eq_append_iff.1 split
  obtain ⟨succeed, reached, -⟩ := chain.take_back steady
    (fun task htask => undone task (List.mem_append_left _ htask)) same.symm leads
  exact ⟨succeed, reached⟩

/-- A rollback of executions that can be taken back gets through all of them. -/
theorem Attempts.complete (steady : dispatcher.Steady later) {attempts : List (Attempt V)}
    {begin final : Standing V} (chain : dispatcher.Attempts perform caller begin attempts final)
    {tasks : List (Entry V × List (Entry V))}
    (undone : ∀ task ∈ tasks, task.1.executed = true ∧
      UndoneWith plan later perform caller now task.1 task.2)
    (reaches : dispatcher.Reaches (tasks.map Prod.fst) attempts) (leads : later now begin.state) :
    attempts.map Attempt.entry = tasks.map Prod.fst := by
  obtain ⟨rest, split⟩ := reaches.order
  obtain ⟨succeed, -⟩ := chain.take_back_some steady undone split.symm leads
  exact reaches.complete (.inr succeed)

/-- A rollback of executions that can be taken back is not cut short. -/
theorem Attempts.not_halts (steady : dispatcher.Steady later) {attempts : List (Attempt V)}
    {begin final : Standing V} (chain : dispatcher.Attempts perform caller begin attempts final)
    {tasks : List (Entry V × List (Entry V))}
    (undone : ∀ task ∈ tasks, task.1.executed = true ∧
      UndoneWith plan later perform caller now task.1 task.2)
    (halts : dispatcher.Halts perform caller (tasks.map Prod.fst) attempts final)
    (leads : later now begin.state) : False := by
  obtain ⟨entry, step, older, split, takesBack, cutShort⟩ := halts.order
  obtain ⟨-, reached⟩ := chain.take_back_some steady undone split.symm leads
  have pending : entry ∈ tasks.map Prod.fst := split ▸ by simp
  obtain ⟨task, htask, rfl⟩ := List.mem_map.1 pending
  obtain ⟨executed, undoneEntry⟩ := undone task htask
  obtain ⟨_, _, _, _, done, -⟩ := undoneEntry.takenBack executed takesBack final.log reached
  rw [done] at cutShort
  cases cutShort

/-! ### Growth -/

namespace Adds

variable {final : State V} {outer : List (Entry V)} {complete : Bool} {parts others : List (Action V)}

theorem nothing (log : List (Entry V)) (roots : List (Action V)) :
    dispatcher.Adds plan later session depth now log log false roots :=
  ⟨.nil, (List.append_nil _).symm, .nil, Nat.zero_le _, fun ends => by cases ends⟩

theorem of_later (h : dispatcher.Adds plan later session depth now log inner complete parts)
    (steady : dispatcher.Steady later) (leads : later now last) :
    dispatcher.Adds plan later session depth last log inner complete parts := by
  obtain ⟨forest, rfl, grown, deep, whole⟩ := h
  exact ⟨forest, rfl, grown.of_later steady leads, deep, whole⟩

/-- What was added stays so when what adds it fails. -/
theorem incomplete (h : dispatcher.Adds plan later session depth now log inner complete parts)
    {more : Nat} (deeper : depth ≤ more) (roots : List (Action V)) :
    dispatcher.Adds plan later session more now log inner false roots := by
  obtain ⟨forest, rfl, grown, deep, -⟩ := h
  exact ⟨forest, rfl, grown, Nat.le_trans deep deeper, fun ends => by cases ends⟩

theorem append (h : dispatcher.Adds plan later session depth now log inner true parts)
    (h' : dispatcher.Adds plan later session depth now inner outer complete others) :
    dispatcher.Adds plan later session depth now log outer complete (parts ++ others) := by
  obtain ⟨first, rfl, grown, deep, whole⟩ := h
  obtain ⟨second, rfl, grown', deep', whole'⟩ := h'
  refine ⟨first.append second, ?_, grown.append grown', ?_, fun ends => ?_⟩
  · rw [Forest.log_append, List.append_assoc]
  · exact first.nesting_append second ▸ Nat.max_le.2 ⟨deep, deep'⟩
  · rw [Forest.roots_append, List.map_append, whole rfl, whole' ends]

theorem leaf {entry : Entry V} {handler : V.Handler entry.kind} (log : List (Entry V)) (depth : Nat)
    (executed : entry.executed = true) (isLeaf : plan.leaf entry.kind = true)
    (reliable : ¬plan.fails entry.action)
    (clears : ∀ last, later now last → dispatcher.Clears last session entry.kind handler) :
    dispatcher.Adds plan later session (depth + 1) now log (log ++ [entry]) true [entry.action] := by
  refine ⟨.leaf entry .nil, rfl, .leaf executed isLeaf reliable clears .nil, ?_, fun _ => rfl⟩
  exact Nat.max_le.2 ⟨Nat.le_add_left 1 depth, Nat.zero_le _⟩

/-- A composite is added above its parts. -/
theorem composite {entry : Entry V} {handler : V.Handler entry.kind}
    (h : dispatcher.Adds plan later session depth now log inner true (plan.parts handler entry.input))
    (executed : entry.executed = true) (isComposite : plan.leaf entry.kind = false)
    (clears : ∀ last, later now last → dispatcher.Clears last session entry.kind handler) :
    dispatcher.Adds plan later session (depth + 1) now log (inner ++ [entry]) true [entry.action] := by
  obtain ⟨below, rfl, grown, deep, whole⟩ := h
  refine ⟨.composite entry below .nil, ?_, ?_, ?_, fun _ => rfl⟩
  · rw [Forest.log_composite, List.append_assoc]
    rfl
  · exact .composite executed isComposite (whole rfl).symm clears grown .nil
  · exact Nat.max_le.2 ⟨Nat.succ_le_succ deep, Nat.zero_le _⟩

end Adds

/-- What the parts of a composite add to the log, if they are executed in order. -/
theorem interpret_grows (steady : dispatcher.Steady later) (reached : later start state)
    (grows : dispatcher.Grows plan later start depth) {parts : List (Action V)}
    {program : Program V α} (performs : program.Performs (parts.map Action.execution))
    {answer : Answer α}
    (hrun : dispatcher.interpret (dispatcher.callsAt depth) caller program log state =
      ⟨some (answer, inner), last, moments⟩) :
    later state last ∧
      dispatcher.Adds plan later caller.session depth last log inner answer.isOk parts := by
  induction parts generalizing program log state moments with
  | nil =>
    obtain ⟨result, rfl⟩ := performs
    cases hrun
    exact ⟨steady.refl _, .nil, (List.append_nil _).symm, .nil, Nat.zero_le _, fun _ => rfl⟩
  | cons part parts ih =>
    obtain ⟨next, rfl, fails, goesOn⟩ := performs
    obtain ⟨⟨given, log'⟩, middle, _, _, hperform, hnext, rfl⟩ := Run.bind_eq_some_iff.1 hrun
    obtain ⟨first, adds⟩ := grows reached hperform
    cases given with
    | error error =>
      rw [fails] at hnext
      cases hnext
      exact ⟨first, adds.incomplete (Nat.le_refl _) _⟩
    | ok output =>
      obtain ⟨second, others⟩ := ih (steady.trans reached first) (goesOn output) hnext
      exact ⟨steady.trans first second, (adds.of_later steady second).append others⟩

theorem perform_grows (steady : dispatcher.Steady later)
    (reversing : dispatcher.SelfReversing plan later start)
    (grows : dispatcher.Grows plan later start depth) : dispatcher.Grows plan later start (depth + 1) := by
  intro caller action log state answer inner last moments reached hrun
  have hrun : dispatcher.perform (dispatcher.callsAt depth) caller action.execution log state =
    ⟨some (answer, inner), last, moments⟩ := hrun
  have conduct :=
    dispatcher.perform_conduct (dispatcher.callsAt depth) caller action.execution log state
  generalize dispatcher.perform (dispatcher.callsAt depth) caller action.execution log state = out
    at hrun conduct
  cases conduct with
  | unserved =>
    cases hrun
    exact ⟨steady.handler state _, .nothing log _⟩
  | unguarded =>
    cases hrun
    exact ⟨steady.validator state _, .nothing log _⟩
  | @refused id _ _ _ _ _ refusal =>
    cases hrun
    have unfinished : answer.isOk = false :=
      Bool.eq_false_iff.2 fun ends => by cases ((refuse_isOk_iff refusal).1 ends).1
    exact ⟨steady.refused refusal, unfinished ▸ .nothing log _⟩
  | @invoked handler way admitted admission =>
    rw [Outcome.after_eq_some_iff] at hrun
    obtain ⟨own, hinvoke, rfl⟩ := hrun
    obtain ⟨given, middleLog, middle, body, rest, hprogram, rfl, rfl, -, -, hrecord⟩ :=
      dispatcher.invoke_eq_some _ caller hinvoke
    have serves := admission.serves reached
    have leads := admission.leads steady
    have reached := steady.trans reached leads
    have recorded := steady.leads_of_quiet (dispatcher.record_quiet caller _ _) hrecord
    cases hleaf : plan.leaf action.kind with
    | true =>
      -- A leaf leaves the log alone, so its own entry is all that is added.
      obtain ⟨_, _, _, halone, moved, -⟩ := interpret_alone (dispatcher.callsAt depth) caller log steady
        (reversing.leaves action.execution handler serves hleaf) reached
      cases hprogram.symm.trans halone
      have moved := steady.trans moved recorded
      refine ⟨steady.trans leads moved, ?_⟩
      cases given with
      | error error =>
        rw [Step.recorded, List.append_nil]
        exact .nothing log _
      | ok output =>
        refine .leaf log depth rfl hleaf (fun fails => ?_) fun final later =>
          steady.again admission (steady.trans moved later)
        exact reversing.failing serves hleaf fails reached hprogram
    | false =>
      obtain ⟨moved, adds⟩ := interpret_grows steady reached grows
        (reversing.executes handler action.input serves hleaf) hprogram
      have adds := adds.of_later steady recorded
      have moved := steady.trans moved recorded
      refine ⟨steady.trans leads moved, ?_⟩
      cases given with
      | error error =>
        rw [Step.recorded, List.append_nil]
        exact adds.incomplete (Nat.le_succ _) _
      | ok output =>
        exact .composite adds rfl hleaf fun final later =>
          steady.again admission (steady.trans moved later)

/-- Whatever the depth, what is executed adds a forest to the log. -/
theorem grows (steady : dispatcher.Steady later) (reversing : dispatcher.SelfReversing plan later start)
    (depth : Nat) : dispatcher.Grows plan later start depth := by
  induction depth with
  | zero => rintro _ _ _ _ _ _ _ _ - ⟨⟩
  | succ depth ih => exact perform_grows steady reversing ih

/-- What a request has logged when it is about to be settled is a forest that can be taken back. -/
theorem attempt_grows (steady : dispatcher.Steady later)
    (reversing : dispatcher.SelfReversing plan later start) {action : Action V}
    {answer : Answer action.execution.Result}
    (attempted : dispatcher.attempt (dispatcher.perform (dispatcher.callsAt depth)) session
      action.execution start = ⟨some (caller, answer, log), last, moments⟩) :
    caller.session = session ∧ later start last ∧ ∃ forest, Forest.log forest = log ∧
      dispatcher.Grown plan later session last forest ∧ forest.nesting ≤ depth + 1 := by
  obtain ⟨rfl, ready, opening, inside, hemit, hperform, rfl⟩ := attempt_eq_some attempted
  have started := steady.started hemit
  obtain ⟨moved, forest, rfl, grown, deep, -⟩ :=
    grows steady reversing (depth + 1) started hperform
  exact ⟨rfl, steady.trans started moved, forest, (List.nil_append _).symm, grown, deep⟩

/-- When a request fails whose handlers are reliable leaves and composites that reverse themselves, its
rollback succeeds. The executions that had completed are a forest. The rollback undoes each leaf of it once,
once more for each composite around it, and calls no leaf otherwise. -/
theorem selfReversing_rollback (dispatcher : Dispatcher V) (plan : Plan V)
    {later : State V → State V → Prop} (depth : Nat) {session : Option String} (action : Action V)
    {caller : Caller} {original : DispatchError} {log : List (Entry V)} {before : List (Moment V)}
    {start middle : State V} (steady : dispatcher.Steady later)
    (reversing : dispatcher.SelfReversing plan later start)
    (attempted : dispatcher.attempt (dispatcher.perform (dispatcher.callsAt depth)) session
      action.execution start = ⟨some (caller, .error original, log), middle, before⟩) :
    ∃ forest last after,
      Forest.log forest = performedAmong (·.request = caller.request) before ∧
      (forest.surrounded 0).map Prod.fst =
        (performedAmong (·.request = caller.request) before).filter (plan.leaf ·.kind) ∧
      dispatcher.Grown plan later session middle forest ∧
      dispatcher.settle (dispatcher.perform (dispatcher.callsAt depth)) action.execution
        (caller, .error original, log) middle = ⟨some (.error original), last, after⟩ ∧
      (deeds plan.leaf after).Perm
        ((Forest.repeated (forest.surrounded 0)).map Entry.undoing) := by
  have performed := (attempt_performed (callsAt_follow dispatcher depth) attempted).2
  obtain ⟨rfl, reached, forest, rfl, grown, deep⟩ := attempt_grows steady reversing attempted
  -- The rollback comes to the entries in reverse order, so it takes the tasks in reverse order as well.
  have undone : ∀ task ∈ forest.tasks.reverse, task.1.executed = true ∧
      UndoneWith plan later (dispatcher.perform (dispatcher.callsAt depth)) caller.rollback middle
        task.1 task.2 := by
    intro task htask
    have htask := List.mem_reverse.1 htask
    have grown : dispatcher.Grown plan later caller.rollback.session middle forest := grown
    exact ⟨grown.executed task htask, grown.task steady reversing reached deep task htask⟩
  have begins := unwindsFrom_leads steady caller forest.log original middle
  have newestFirst : forest.log.reverse = forest.tasks.reverse.map Prod.fst := List.map_reverse.symm
  obtain ⟨attempts, stop, chain, outcome⟩ := dispatcher.settle_attempts
    (dispatcher.perform (dispatcher.callsAt depth)) caller action.execution original forest.log middle
  rw [newestFirst] at outcome
  rcases outcome with ⟨reaches, error, opening, closing, rfl, settled, uncalled⟩ | ⟨halts, -⟩
  · have whole := chain.complete steady undone reaches begins
    obtain ⟨succeed, -, called⟩ := chain.take_back steady undone whole begins
    rw [Attempt.filterMap_error?_eq_nil.2 succeed] at settled
    have leaves : (forest.surrounded 0).map Prod.fst = forest.log.filter (plan.leaf ·.kind) :=
      (forest.surrounded_fst 0).trans grown.leaves_eq
    refine ⟨forest, _, _, performed.symm, performed ▸ leaves, grown, settled, ?_⟩
    rw [deeds_append, deeds_append,
      deeds_of_uncalled _ fun m hm => uncalled m (List.mem_append_left _ hm),
      deeds_of_uncalled _ fun m hm => uncalled m (List.mem_append_right _ hm),
      called, List.nil_append, List.append_nil]
    refine List.Perm.map _ ?_
    exact ((List.reverse_perm _).flatMap_right _).trans forest.tasks_perm
  · exact (chain.not_halts steady undone halts begins).elim

end Dispatcher

namespace Sequences

def Job.action (job : Job) : Action vocabulary := job.execution.action

/-- Sequences are the composites, and what jams is designated to fail. -/
def plan : Plan vocabulary where
  leaf
    | .sequence => false
    | _ => true
  parts {task} _ input :=
    match task with
    | .sequence => input.map Job.action
    | _ => []
  fails action := action.kind = .jam

/-- A workshop that does not weld. -/
def weldless : State vocabulary :=
  opening (handlers [.mark, .jam, .sequence])
    (gates [(.mark, .members), (.jam, .members), (.sequence, .members)])

/-- What jobs do to the registries: nothing. -/
abbrev Unchanged (state last : State vocabulary) : Prop :=
  state.Keeps (fun members session => (admits members session).1) last

theorem dispatcher_steady : dispatcher.Steady Unchanged :=
  Dispatcher.registered_steady rfl rfl application_judges

theorem inOrder_performs (steps : List (Step vocabulary)) : (inOrder steps).Performs steps := by
  induction steps with
  | nil => exact ⟨(), rfl⟩
  | cons step steps ih => exact ⟨_, rfl, fun _ => rfl, fun _ => ih⟩

theorem not_serves_weld (handler : vocabulary.Handler .weld) :
    ¬dispatcher.Serves Unchanged weldless Task.weld handler := by
  rintro ⟨state, keeps, served⟩
  have same : dispatcher.handlerAt state Task.weld = dispatcher.handlerAt weldless Task.weld := by
    simp only [Dispatcher.handlerAt, dispatcher, HandlerLookup.registered, keeps.handlers]
  cases served.symm.trans same

theorem Job.execution_action (job : Job) : job.action.execution = job.execution := by
  cases job <;> rfl

theorem Job.deed_reversal (job : Job) : job.reversal.deed = (true, job.action) := by
  cases job <;> rfl

theorem executions_actions (jobs : List Job) :
    (jobs.map Job.action).map Action.execution = jobs.map Job.execution := by
  rw [List.map_map]
  exact List.map_congr_left fun job _ => job.execution_action

theorem deeds_reversals (jobs : List Job) :
    (jobs.reverse.map Job.reversal).map Step.deed = (jobs.map Job.action).reverse.map (true, ·) := by
  rw [List.map_map, ← List.map_reverse, List.map_map]
  exact List.map_congr_left fun job _ => job.deed_reversal

theorem weldless_selfReversing : dispatcher.SelfReversing plan Unchanged weldless := by
  have changes (f : List Nat → List Nat) :
      (dispatcher.app.act (.change f : Act vocabulary)).Moves Unchanged weldless := by
    intro state world last moments _ hrun
    have kept := application_judges.act_keeps (rfl : (Act.change f : Act vocabulary).registers = false) state
    rwa [show application.act (.change f) state = _ from hrun] at kept
  constructor
  case leaves =>
    intro step handler serves isLeaf
    cases step with
    | execute task input =>
      cases task with
      | mark | weld => exact ⟨changes _, fun _ => trivial⟩
      | jam => trivial
      | sequence => cases isLeaf
    | undo task input output =>
      cases task with
      | mark => exact ⟨changes _, fun _ => trivial⟩
      | weld | jam => trivial
      | sequence => cases isLeaf
  case failing =>
    rintro ⟨task, input⟩ _ _ _ _ _ _ _ _ _ _ - fails - hrun
    obtain rfl : task = .jam := fails
    cases hrun
  case unfailing =>
    intro step _ _ _ _ _ _ _ _ _ serves isLeaf reliable _ hrun
    cases step with
    | execute task input =>
      cases task with
      | mark => cases hrun
      | weld => exact not_serves_weld _ serves
      | jam => exact reliable rfl
      | sequence => cases isLeaf
    | undo task input output =>
      cases task with
      | mark => cases hrun
      | weld => exact not_serves_weld _ serves
      | jam => exact reliable rfl
      | sequence => cases isLeaf
  case executes =>
    intro task handler input _ isComposite
    cases task with
    | mark | weld | jam => cases isComposite
    | sequence =>
      have same : (plan.parts handler input).map Action.execution = List.map Job.execution input :=
        executions_actions input
      exact same ▸ inOrder_performs _
  case undoes =>
    intro task handler input output _ isComposite _
    cases task with
    | mark | weld | jam => cases isComposite
    | sequence =>
      exact ⟨_, deeds_reversals input, inOrder_performs _⟩

/-- What undoes the mark of a place. -/
def unmarking (place : Nat) : Bool × Action vocabulary := (true, (Job.mark place).action)

/-- A sequence within another one has completed when the next job jams. -/
def innerMark : Job := .sequence [.sequence [.mark 1], .jam (.action "Jammed")]

/-- One mark has been made, and it is unmarked twice: by the inner sequence, and then for itself. -/
theorem inner_mark_undone_twice :
    dispatcher.Steady Unchanged ∧ dispatcher.SelfReversing plan Unchanged weldless ∧
    ∃ (middle : _) (before : _) (last : _) (after : List (Moment vocabulary)),
      dispatcher.attempt (dispatcher.perform (dispatcher.callsAt 3)) "user" innerMark.execution
        weldless = ⟨some (.fresh weldless "user", .error (.action "Jammed"),
          [executed .mark (1 : Nat), executed .sequence [Job.mark 1]]), middle, before⟩ ∧
      dispatcher.settle (dispatcher.perform (dispatcher.callsAt 3)) innerMark.execution
        (.fresh weldless "user", .error (.action "Jammed"),
          [executed .mark (1 : Nat), executed .sequence [Job.mark 1]]) middle =
        ⟨some (.error (.action "Jammed")), last, after⟩ ∧
      (performedAmong (·.request = (Caller.fresh weldless "user").request) before).filter
        (plan.leaf ·.kind) = [executed .mark (1 : Nat)] ∧
      deeds plan.leaf after = [unmarking 1, unmarking 1] ∧
      ¬(deeds plan.leaf after).Perm ([executed .mark (1 : Nat)].map Entry.undoing) := by
  refine ⟨dispatcher_steady, weldless_selfReversing, _, _, _, _, rfl, rfl, rfl, rfl, fun once => ?_⟩
  cases once.length_eq

/-- A place is marked, then a place within a sequence, then one within a sequence in a sequence, and then the
last job jams. -/
def nestedMarks : Job :=
  .sequence [.mark 1, .sequence [.mark 2, .sequence [.mark 3]], .jam (.action "Jammed")]

/-- The sequences that completed undo their marks before each mark is undone for itself. -/
theorem nested_marks_undone :
    dispatcher.Steady Unchanged ∧ dispatcher.SelfReversing plan Unchanged weldless ∧
    ∃ (log : _) (middle : _) (before : _) (forest : Forest vocabulary) (last : _) (after : _),
      dispatcher.attempt (dispatcher.perform (dispatcher.callsAt 4)) "user" nestedMarks.execution
        weldless = ⟨some (.fresh weldless "user", .error (.action "Jammed"), log), middle, before⟩ ∧
      Forest.log forest = [executed .mark (1 : Nat), executed .mark (2 : Nat), executed .mark (3 : Nat),
        executed .sequence [Job.mark 3], executed .sequence [Job.mark 2, .sequence [.mark 3]]] ∧
      (forest.surrounded 0).map Prod.fst =
        [executed .mark (1 : Nat), executed .mark (2 : Nat), executed .mark (3 : Nat)] ∧
      dispatcher.Grown plan Unchanged "user" middle forest ∧
      dispatcher.settle (dispatcher.perform (dispatcher.callsAt 4)) nestedMarks.execution
        (.fresh weldless "user", .error (.action "Jammed"), log) middle =
          ⟨some (.error (.action "Jammed")), last, after⟩ ∧
      deeds plan.leaf after = [3, 2, 3, 3, 2, 1].map unmarking ∧
      (deeds plan.leaf after).Perm ((Forest.repeated (forest.surrounded 0)).map Entry.undoing) := by
  have run : ∃ (log : _) (middle : _) (before : _) (last : _) (after : _),
      dispatcher.attempt (dispatcher.perform (dispatcher.callsAt 4)) "user" nestedMarks.execution
        weldless = ⟨some (.fresh weldless "user", .error (.action "Jammed"), log), middle, before⟩ ∧
      performedAmong (·.request = (Caller.fresh weldless "user").request) before =
        [executed .mark (1 : Nat), executed .mark (2 : Nat), executed .mark (3 : Nat),
          executed .sequence [Job.mark 3], executed .sequence [Job.mark 2, .sequence [.mark 3]]] ∧
      dispatcher.settle (dispatcher.perform (dispatcher.callsAt 4)) nestedMarks.execution
        (.fresh weldless "user", .error (.action "Jammed"), log) middle =
          ⟨some (.error (.action "Jammed")), last, after⟩ ∧
      deeds plan.leaf after = [3, 2, 3, 3, 2, 1].map unmarking :=
    ⟨_, _, _, _, _, rfl, rfl, rfl, rfl⟩
  obtain ⟨log, middle, before, last, after, attempted, performed, settled, undone⟩ := run
  obtain ⟨forest, _, _, whole, marks, grown, settled', times⟩ := dispatcher.selfReversing_rollback plan 4
    nestedMarks.action dispatcher_steady weldless_selfReversing attempted
  cases settled.symm.trans settled'
  rw [performed] at whole marks
  exact ⟨dispatcher_steady, weldless_selfReversing, log, middle, before, forest, last, after, attempted,
    whole, marks, grown, settled, undone, times⟩

end Sequences

end ActionDispatch
