import ActionDispatch.Proofs.Comparison

/-!
# Depth

A run is cut short when handler calls are nested deeper than it allows. A run that was not cut short has
the same outcome at every greater depth, so its outcome does not depend on the depth at all; one that was
cut short leaves a beginning of the moments that a deeper run leaves.
-/

namespace ActionDispatch

variable {V : Vocabulary} {α β : Type}

/-- The second run goes at least as far as the first: it has the same outcome where the first finishes, and
elsewhere begins with the same moments. -/
structure Run.Extends (run longer : Run V α) : Prop where
  finished : ∀ {state a}, (run state).value = some a → longer state = run state
  moments : ∀ state, (run state).moments <+: (longer state).moments

namespace Run.Extends

theorem rfl {run : Run V α} : run.Extends run := ⟨fun _ => Eq.refl _, fun _ => List.prefix_rfl⟩

theorem bind {run longer : Run V α} {f g : α → Run V β} (h : run.Extends longer)
    (hf : ∀ a, (f a).Extends (g a)) : (run >>= f).Extends (longer >>= g) := by
  constructor
  · intro state b hb
    obtain ⟨a, middle, before, after, h₁, h₂, -⟩ := Run.bind_eq_some_iff.1
      (show (run >>= f) state = ⟨some b, _, _⟩ by rw [← hb])
    have ha : longer state = run state := h.finished (by rw [h₁])
    have hg : g a middle = f a middle := (hf a).finished (by rw [h₂])
    simp only [Run.bind_apply, ha, h₁, Outcome.andThen, hg]
  · intro state
    cases hv : (run state).value with
    | none =>
      have : ((run >>= f) state).moments = (run state).moments := by
        simp [Run.bind_apply, Outcome.andThen, hv]
      rw [this]
      exact (h.moments state).trans ((longer state).moments_prefix_andThen g)
    | some a =>
      simp only [Run.bind_apply, h.finished hv, Outcome.andThen, hv, Outcome.after_moments,
        List.prefix_append_right_inj]
      exact (hf a).moments _

theorem cut {longer : Run V α} : Run.cut.Extends longer :=
  ⟨fun h => (nomatch h), fun _ => List.nil_prefix⟩

end Run.Extends

/-- Both ways to call the dispatcher go at least as far as the first ones. -/
structure Calls.Extends (calls longer : Calls V) : Prop where
  perform : ∀ caller step log, (calls.perform caller step log).Extends (longer.perform caller step log)
  request : ∀ session step, (calls.request session step).Extends (longer.request session step)

/-- A run is compared with one that goes at least as far. -/
def Comparison.extending : Comparison V where
  Alike := Run.Extends
  pure _ := .rfl
  bind := .bind

namespace Dispatcher

variable {dispatcher : Dispatcher V}

theorem callsAt_extends_succ (dispatcher : Dispatcher V) (depth : Nat) :
    (dispatcher.callsAt depth).Extends (dispatcher.callsAt (depth + 1)) := by
  have alike := Alike.of_refl .extending (fun _ => .rfl) dispatcher dispatcher.settings
    (.inl rfl) (.inl rfl)
  induction depth with
  | zero => exact ⟨fun _ _ _ => .cut, fun _ _ => .cut⟩
  | succ depth ih =>
    have calls : (dispatcher.callsAt depth).Alike .extending (dispatcher.callsAt (depth + 1)) :=
      ⟨ih.perform, ih.request⟩
    exact ⟨alike.perform calls, alike.request (alike.perform calls)⟩

theorem run_extends {depth deeper : Nat} (le : depth ≤ deeper) (session : Option String) (step : Step V) :
    (dispatcher.run depth session step).Extends (dispatcher.run deeper session step) := by
  induction le with
  | refl => exact .rfl
  | @step deeper _ ih =>
    have h := (callsAt_extends_succ dispatcher deeper).request session step
    exact ⟨fun hv => (h.finished (ih.finished hv ▸ hv)).trans (ih.finished hv),
      fun state => (ih.moments state).trans (h.moments state)⟩

/-- A run that was not cut short has the same outcome at every greater depth. -/
theorem run_of_le {depth deeper : Nat} (le : depth ≤ deeper) {session : Option String} {step : Step V}
    {state last : State V} {answer : Answer step.Result} {moments : List (Moment V)}
    (h : dispatcher.run depth session step state = ⟨some answer, last, moments⟩) :
    dispatcher.run deeper session step state = ⟨some answer, last, moments⟩ := by
  have hv : (dispatcher.run depth session step state).value = some answer := by rw [h]
  rw [(run_extends le session step).finished hv, h]

end Dispatcher

end ActionDispatch
