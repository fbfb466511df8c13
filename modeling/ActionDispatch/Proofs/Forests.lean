import ActionDispatch.Moment
import Mathlib.Data.List.Perm.Basic
import Mathlib.Data.List.Flatten

/-!
# Forests of executions

What a request has executed and completed is a forest: leaves, and composites above what they executed. In
the log, where a composite comes after all that is below it, the forest is laid out flat. If composites are
taken back by taking back what is below them, and so is every entry of the log, then a leaf is taken back
once for itself and once for each composite around it (`Forest.tasks_perm`).
-/

namespace ActionDispatch

variable {V : Vocabulary}

/-- An action of an application. -/
structure Action (V : Vocabulary) where
  kind : V.Kind
  input : V.Input kind

/-- The step that executes an action. -/
def Action.execution (action : Action V) : Step V := .execute action.kind action.input

def Step.action : Step V → Action V
  | .execute kind input | .undo kind input _ => ⟨kind, input⟩

def Entry.action (entry : Entry V) : Action V := ⟨entry.kind, entry.input⟩

/-- What a step does, without the result that an undo starts from. -/
def Step.deed (step : Step V) : Bool × Action V := (step.isUndo, step.action)

/-- What is done to an entry to take its execution back. -/
def Entry.undoing (entry : Entry V) : Bool × Action V := (true, entry.action)

theorem Step.eq_undo_of_deed {step : Step V} {entry : Entry V} (h : step.deed = entry.undoing) :
    ∃ output, step = .undo entry.kind entry.input output := by
  cases step with
  | execute kind input => cases congrArg Prod.fst h
  | undo kind input output =>
    obtain ⟨kind', input', _, _⟩ := entry
    cases congrArg Prod.snd h
    exact ⟨output, rfl⟩

/-- Executions in the order in which they began: leaves, and composites above what they executed. -/
inductive Forest (V : Vocabulary)
  | nil
  | leaf (entry : Entry V) (rest : Forest V)
  | composite (entry : Entry V) (below rest : Forest V)

namespace Forest

def append : Forest V → Forest V → Forest V
  | nil, other => other
  | leaf entry rest, other => leaf entry (rest.append other)
  | composite entry below rest, other => composite entry below (rest.append other)

/-- The executions that are not below any other. -/
def roots : Forest V → List (Entry V)
  | nil => []
  | leaf entry rest | composite entry _ rest => entry :: rest.roots

def leaves : Forest V → List (Entry V)
  | nil => []
  | leaf entry rest => entry :: rest.leaves
  | composite _ below rest => below.leaves ++ rest.leaves

/-- The leaves, each with the number of composites around it. -/
def surrounded (around : Nat) : Forest V → List (Entry V × Nat)
  | nil => []
  | leaf entry rest => (entry, around) :: rest.surrounded around
  | composite _ below rest => below.surrounded (around + 1) ++ rest.surrounded around

/-- The entries in the order in which they are logged, each with the leaves that are taken back with it. -/
def tasks : Forest V → List (Entry V × List (Entry V))
  | nil => []
  | leaf entry rest => (entry, [entry]) :: rest.tasks
  | composite entry below rest => below.tasks ++ (entry, below.leaves.reverse) :: rest.tasks

def log (forest : Forest V) : List (Entry V) := forest.tasks.map Prod.fst

/-- How deep calls are nested when all roots are performed. -/
def nesting : Forest V → Nat
  | nil => 0
  | leaf _ rest => max 1 rest.nesting
  | composite _ below rest => max (below.nesting + 1) rest.nesting

theorem surrounded_fst (forest : Forest V) (around : Nat) :
    (forest.surrounded around).map Prod.fst = forest.leaves := by
  induction forest generalizing around with
  | nil => rfl
  | leaf entry rest ih => exact congrArg (entry :: ·) (ih around)
  | composite entry below rest ihBelow ihRest =>
    rw [surrounded, List.map_append, ihBelow, ihRest, leaves]

theorem log_leaf (entry : Entry V) (rest : Forest V) : (leaf entry rest).log = entry :: rest.log := rfl

theorem log_composite (entry : Entry V) (below rest : Forest V) :
    (composite entry below rest).log = below.log ++ entry :: rest.log := by
  rw [log, tasks, List.map_append, List.map_cons, log, log]

theorem roots_append (forest other : Forest V) :
    (forest.append other).roots = forest.roots ++ other.roots := by
  induction forest with
  | nil => rfl
  | leaf entry rest ih | composite entry below rest _ ih => exact congrArg (entry :: ·) ih

theorem tasks_append (forest other : Forest V) :
    (forest.append other).tasks = forest.tasks ++ other.tasks := by
  induction forest with
  | nil => rfl
  | leaf entry rest ih => exact congrArg ((entry, [entry]) :: ·) ih
  | composite entry below rest _ ih => simp [append, tasks, ih]

theorem log_append (forest other : Forest V) :
    (forest.append other).log = forest.log ++ other.log := by
  simp [log, tasks_append]

theorem nesting_append (forest other : Forest V) :
    (forest.append other).nesting = max forest.nesting other.nesting := by
  induction forest with
  | nil => exact (Nat.zero_max _).symm
  | leaf entry rest ih => simp [append, nesting, ih, Nat.max_assoc]
  | composite entry below rest _ ih => simp [append, nesting, ih, Nat.max_assoc]

/-- Every leaf, once more than there are composites around it. -/
def repeated (leaves : List (Entry V × Nat)) : List (Entry V) :=
  leaves.flatMap fun (entry, around) => List.replicate (around + 1) entry

theorem repeated_append (first second : List (Entry V × Nat)) :
    repeated (first ++ second) = repeated first ++ repeated second :=
  List.flatMap_append

/-- One more composite around a forest is one more time for each leaf. -/
theorem repeated_surrounded_succ (forest : Forest V) (around : Nat) :
    (repeated (forest.surrounded (around + 1))).Perm
      (forest.leaves ++ repeated (forest.surrounded around)) := by
  induction forest generalizing around with
  | nil => exact .nil
  | leaf entry rest ih =>
    calc repeated ((leaf entry rest).surrounded (around + 1))
        = entry :: (List.replicate (around + 1) entry ++ repeated (rest.surrounded (around + 1))) := rfl
      _ |>.Perm (entry :: (List.replicate (around + 1) entry ++
          (rest.leaves ++ repeated (rest.surrounded around)))) := ((ih around).append_left _).cons entry
      _ |>.Perm (entry :: (rest.leaves ++ (List.replicate (around + 1) entry ++
          repeated (rest.surrounded around)))) := (List.perm_append_comm_assoc _ _ _).cons entry
  | composite entry below rest ihBelow ihRest =>
    simp only [surrounded, repeated_append, leaves]
    refine ((ihBelow (around + 1)).append (ihRest around)).trans ?_
    simp only [List.append_assoc]
    exact (List.perm_append_comm_assoc _ _ _).append_left below.leaves

/-- Taken together, the tasks of a forest take every leaf back once, and once more for each composite around
it. -/
theorem tasks_perm (forest : Forest V) :
    (forest.tasks.flatMap Prod.snd).Perm (repeated (forest.surrounded 0)) := by
  induction forest with
  | nil => exact .nil
  | leaf entry rest ih => exact ih.cons entry
  | composite entry below rest ihBelow ihRest =>
    simp only [tasks, surrounded, repeated_append, List.flatMap_append, List.flatMap_cons]
    rw [← List.append_assoc]
    refine List.Perm.append ?_ ihRest
    calc below.tasks.flatMap Prod.snd ++ below.leaves.reverse
        |>.Perm (repeated (below.surrounded 0) ++ below.leaves) :=
          ihBelow.append (List.reverse_perm _)
      _ |>.Perm (below.leaves ++ repeated (below.surrounded 0)) := List.perm_append_comm
      _ |>.Perm (repeated (below.surrounded 1)) := (below.repeated_surrounded_succ 0).symm

end Forest

end ActionDispatch
