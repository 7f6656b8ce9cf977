import Mathlib.Data.List.Basic
import Mathlib.Tactic.Common

/-!
Owns histories: runs of a labelled step relation with the labels of their steps,
oldest first, what every step of a run keeps, and logs that grow with the labels.
-/

namespace Openobsw.Lib.Histories

variable {σ ι ν : Type*}

/-- From one state to another by steps with these labels. -/
inductive Run (step : σ → ι → σ → Prop) : σ → List ι → σ → Prop
  | done (state : σ) : Run step state [] state
  | next {state middle after : σ} {label : ι} {rest : List ι} (stepped : step state label middle)
      (later : Run step middle rest after) : Run step state (label :: rest) after

namespace Run

variable {step wider : σ → ι → σ → Prop} {state middle after : σ} {labels first second : List ι}

theorem single {label : ι} (stepped : step state label after) : Run step state [label] after :=
  .next stepped (.done after)

theorem append (front : Run step state first middle) (back : Run step middle second after) :
    Run step state (first ++ second) after := by
  induction front with
  | done state => exact back
  | next stepped later inductionHypothesis => exact .next stepped (inductionHypothesis back)

/-- What every step keeps, a run keeps. -/
theorem keeps {P : σ → Prop} (each : ∀ before label next, step before label next → P before → P next)
    (run : Run step state labels after) (holds : P state) : P after := by
  induction run with
  | done state => exact holds
  | next stepped later inductionHypothesis =>
      exact inductionHypothesis (each _ _ _ stepped holds)

/-- A log that every step extends by what its label notes. -/
theorem logged (log : σ → List ν) (notes : ι → List ν)
    (each : ∀ before label next, step before label next → log next = log before ++ notes label)
    (run : Run step state labels after) : log after = log state ++ labels.flatMap notes := by
  induction run with
  | done state => simp
  | next stepped later inductionHypothesis =>
      rw [inductionHypothesis, each _ _ _ stepped, List.flatMap_cons, List.append_assoc]

end Run

end Openobsw.Lib.Histories
