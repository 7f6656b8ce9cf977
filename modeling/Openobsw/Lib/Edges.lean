import Mathlib.Logic.Basic

/-!
Owns rising edges of a condition over a sequence of values: the values at which
the condition holds and did not hold at the value before. Before the first value
it counts as false.
-/

namespace Openobsw.Lib.Edges

variable {α : Type*}

/-- The values at rising edges, with the condition's state before the first one. -/
def edgesFrom (condition : α → Bool) : Bool → List α → List α
  | _, [] => []
  | before, value :: rest =>
      if condition value && !before then value :: edgesFrom condition (condition value) rest
      else edgesFrom condition (condition value) rest

/-- The values at which the condition rises. -/
def risingEdges (condition : α → Bool) (values : List α) : List α :=
  edgesFrom condition false values

/-- The state of the condition after a sequence that began in state `before`. -/
def stateFrom (condition : α → Bool) : Bool → List α → Bool
  | before, [] => before
  | _, value :: rest => stateFrom condition (condition value) rest

/-- The state of the condition after a sequence of values. -/
def lastState (condition : α → Bool) (values : List α) : Bool :=
  stateFrom condition false values

@[simp] theorem risingEdges_nil (condition : α → Bool) : risingEdges condition [] = [] := rfl

@[simp] theorem lastState_nil (condition : α → Bool) : lastState condition [] = false := rfl

theorem stateFrom_concat (condition : α → Bool) (before : Bool) (values : List α) (value : α) :
    stateFrom condition before (values ++ [value]) = condition value := by
  induction values generalizing before with
  | nil => rfl
  | cons first rest inductionHypothesis => exact inductionHypothesis (condition first)

@[simp] theorem lastState_concat (condition : α → Bool) (values : List α) (value : α) :
    lastState condition (values ++ [value]) = condition value :=
  stateFrom_concat condition false values value

theorem edgesFrom_concat (condition : α → Bool) (before : Bool) (values : List α) (value : α) :
    edgesFrom condition before (values ++ [value]) =
      edgesFrom condition before values ++
        (if condition value && !stateFrom condition before values then [value] else []) := by
  induction values generalizing before with
  | nil =>
      show (if condition value && !before then [value] else []) = _
      rfl
  | cons first rest inductionHypothesis =>
      have tail := inductionHypothesis (condition first)
      show (if condition first && !before then first :: edgesFrom _ _ (rest ++ [value])
        else edgesFrom _ _ (rest ++ [value])) =
        (if condition first && !before then first :: edgesFrom _ _ rest else edgesFrom _ _ rest) ++ _
      rw [tail]
      split
      · rfl
      · rfl

/-- One more value adds an edge when the condition holds there and did not before. -/
theorem risingEdges_concat (condition : α → Bool) (values : List α) (value : α) :
    risingEdges condition (values ++ [value]) =
      risingEdges condition values ++
        (if condition value && !lastState condition values then [value] else []) :=
  edgesFrom_concat condition false values value

end Openobsw.Lib.Edges
