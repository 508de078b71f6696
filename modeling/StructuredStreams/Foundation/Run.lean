import StructuredStreams.Foundation.Guarded

/-!
# Runs of a labelled transition relation

A run is a finite sequence of labelled steps.  `Run.induct` is the invariant
rule: what holds at the start and is carried over by every step, together
with the labels seen so far, holds wherever the run leads.
-/

universe u v

/-- `Run step start labels final`: the labels lead from `start` to `final`,
the latest label last. -/
inductive Run {σ : Type u} {ε : Type v} (step : σ → ε → σ → Prop)
    (start : σ) : List ε → σ → Prop
  | refl : Run step start [] start
  | snoc {labels : List ε} {reached next : σ} (label : ε) :
      Run step start labels reached →
      step reached label next →
      Run step start (labels ++ [label]) next

namespace Run

variable {σ : Type u} {ε : Type v} {step : σ → ε → σ → Prop}

/-- Invariants may speak about the labels of the run so far. -/
theorem induct
    {start final : σ} {labels : List ε}
    (run : Run step start labels final)
    (invariant : List ε → σ → Prop)
    (initial : invariant [] start)
    (preserved :
      ∀ labels reached label next,
        Run step start labels reached →
        invariant labels reached →
        step reached label next →
        invariant (labels ++ [label]) next) :
    invariant labels final := by
  induction run with
  | refl =>
      exact initial
  | snoc label earlier taken inductionHypothesis =>
      exact
        preserved _ _ label _ earlier inductionHypothesis taken

theorem append
    {start middle final : σ} {earlier later : List ε}
    (first : Run step start earlier middle)
    (second : Run step middle later final) :
    Run step start (earlier ++ later) final := by
  induction second with
  | refl =>
      simpa using first
  | snoc label _ taken inductionHypothesis =>
      rw [← List.append_assoc]
      exact Run.snoc label inductionHypothesis taken

theorem single
    {start final : σ} {label : ε} (taken : step start label final) :
    Run step start [label] final := by
  have none : Run step start [] start := Run.refl
  exact none.snoc label taken

/-- Computing one step after the other gives a run. -/
theorem of_foldlM
    {next : σ → ε → Option σ}
    (computes :
      ∀ state label after,
        next state label = some after → step state label after)
    {start final : σ} {labels : List ε}
    (returned : labels.foldlM next start = some final) :
    Run step start labels final := by
  induction labels generalizing start with
  | nil =>
      cases returned
      exact Run.refl
  | cons label labels inductionHypothesis =>
      rw [List.foldlM_cons, bind_eq_some_iff] at returned
      obtain ⟨middle, taken, returned⟩ := returned
      exact
        (Run.single (computes start label middle taken)).append
          (inductionHypothesis returned)

end Run
