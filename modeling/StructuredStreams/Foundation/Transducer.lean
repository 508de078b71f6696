import Mathlib.Data.Nat.Notation

/-!
# Transducers

A transducer reads its input one symbol at a time and may emit several output
symbols for each.  Feeding a list in two parts is the same as feeding it
whole, which is what makes an incremental decoder independent of where its
input is cut.
-/

universe u v w

/-- One state change and its output for each input symbol. -/
structure Transducer (σ : Type u) (ι : Type v) (ο : Type w) where
  step : σ → ι → σ × List ο

namespace Transducer

variable {σ : Type u} {ι : Type v} {ο : Type w}

/-- Feed a list of symbols, collecting the output. -/
def feed (machine : Transducer σ ι ο) : σ → List ι → σ × List ο
  | state, [] => (state, [])
  | state, symbol :: symbols =>
      let (next, output) := machine.step state symbol
      let (final, outputs) := machine.feed next symbols
      (final, output ++ outputs)

/-- What a list of symbols makes the machine emit. -/
def emitted
    (machine : Transducer σ ι ο) (state : σ) (symbols : List ι) :
    List ο :=
  (machine.feed state symbols).2

/-- Where a list of symbols takes the machine. -/
def after
    (machine : Transducer σ ι ο) (state : σ) (symbols : List ι) : σ :=
  (machine.feed state symbols).1

variable (machine : Transducer σ ι ο)

@[simp]
theorem emitted_nil (state : σ) : machine.emitted state [] = [] :=
  rfl

@[simp]
theorem after_nil (state : σ) : machine.after state [] = state :=
  rfl

theorem emitted_cons (state : σ) (symbol : ι) (symbols : List ι) :
    machine.emitted state (symbol :: symbols) =
      (machine.step state symbol).2 ++
        machine.emitted (machine.step state symbol).1 symbols :=
  rfl

theorem after_cons (state : σ) (symbol : ι) (symbols : List ι) :
    machine.after state (symbol :: symbols) =
      machine.after (machine.step state symbol).1 symbols :=
  rfl

theorem after_append (state : σ) (front back : List ι) :
    machine.after state (front ++ back) =
      machine.after (machine.after state front) back := by
  induction front generalizing state with
  | nil =>
      rfl
  | cons symbol front inductionHypothesis =>
      simp only [List.cons_append, after_cons, inductionHypothesis]

theorem emitted_append (state : σ) (front back : List ι) :
    machine.emitted state (front ++ back) =
      machine.emitted state front ++
        machine.emitted (machine.after state front) back := by
  induction front generalizing state with
  | nil =>
      rfl
  | cons symbol front inductionHypothesis =>
      simp only [List.cons_append, emitted_cons, after_cons,
        inductionHypothesis, List.append_assoc]

/-- The invariant rule: what holds at the start and is carried over by every
symbol holds after all of them.  An invariant may speak about the symbols
read so far. -/
theorem after_induct
    (invariant : List ι → σ → Prop)
    (preserved :
      ∀ front state symbol,
        invariant front state →
          invariant (front ++ [symbol]) (machine.step state symbol).1)
    (front : List ι) {state : σ} (initial : invariant front state)
    (symbols : List ι) :
    invariant (front ++ symbols) (machine.after state symbols) := by
  induction symbols generalizing front state with
  | nil =>
      rw [List.append_nil, after_nil]
      exact initial
  | cons symbol symbols inductionHypothesis =>
      have later :=
        inductionHypothesis (front ++ [symbol])
          (preserved front state symbol initial)
      rw [List.append_assoc] at later
      exact later

/-- The simulation rule: machines whose states stay related and that answer
every symbol alike answer every input alike. -/
theorem simulates
    {τ : Type*} {spec : Transducer τ ι ο} {related : σ → τ → Prop}
    (steps :
      ∀ state abstract symbol,
        related state abstract →
          (machine.step state symbol).2 = (spec.step abstract symbol).2 ∧
            related (machine.step state symbol).1
              (spec.step abstract symbol).1)
    {state : σ} {abstract : τ} (initial : related state abstract)
    (symbols : List ι) :
    machine.emitted state symbols = spec.emitted abstract symbols ∧
      related (machine.after state symbols)
        (spec.after abstract symbols) := by
  induction symbols generalizing state abstract with
  | nil =>
      exact ⟨rfl, initial⟩
  | cons symbol symbols inductionHypothesis =>
      obtain ⟨sameAnswer, stillRelated⟩ :=
        steps state abstract symbol initial
      obtain ⟨sameAnswers, finallyRelated⟩ :=
        inductionHypothesis stillRelated
      rw [emitted_cons, emitted_cons, sameAnswer, sameAnswers]
      exact ⟨rfl, finallyRelated⟩

/-- A state that every symbol leaves unchanged and silent. -/
def Sink (state : σ) : Prop :=
  ∀ symbol, machine.step state symbol = (state, [])

variable {machine}

theorem Sink.after_eq
    {state : σ} (sink : machine.Sink state) (symbols : List ι) :
    machine.after state symbols = state := by
  induction symbols with
  | nil =>
      rfl
  | cons symbol symbols inductionHypothesis =>
      rw [after_cons, sink symbol, inductionHypothesis]

theorem Sink.emitted_eq
    {state : σ} (sink : machine.Sink state) (symbols : List ι) :
    machine.emitted state symbols = [] := by
  induction symbols with
  | nil =>
      rfl
  | cons symbol symbols inductionHypothesis =>
      rw [emitted_cons, sink symbol, inductionHypothesis,
        List.append_nil]

end Transducer
