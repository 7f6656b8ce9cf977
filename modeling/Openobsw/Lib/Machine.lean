import Mathlib.Data.List.Infix

/-!
Owns machines that read their input element by element and may write after each one:
runs over appended input, input that is answered at its end, and a machine whose output
is the input of the next.
-/

namespace Openobsw.Lib

variable {α β γ σ τ : Type*}

structure Machine (σ α β : Type*) where
  take : σ → α → σ × List β

namespace Machine

/-- The machine reads a list of elements. -/
def run (machine : Machine σ α β) : List α → σ → σ × List β
  | [], state => (state, [])
  | item :: rest, state =>
      let first := machine.take state item
      let later := machine.run rest first.1
      (later.1, first.2 ++ later.2)

@[simp] theorem run_nil (machine : Machine σ α β) (state : σ) :
    machine.run [] state = (state, []) := rfl

@[simp] theorem run_cons (machine : Machine σ α β) (item : α) (rest : List α) (state : σ) :
    machine.run (item :: rest) state =
      ((machine.run rest (machine.take state item).1).1,
        (machine.take state item).2 ++ (machine.run rest (machine.take state item).1).2) := rfl

theorem run_append (machine : Machine σ α β) (front back : List α) (state : σ) :
    machine.run (front ++ back) state =
      ((machine.run back (machine.run front state).1).1,
        (machine.run front state).2 ++ (machine.run back (machine.run front state).1).2) := by
  induction front generalizing state with
  | nil => rfl
  | cons item rest inductionHypothesis =>
      rw [List.cons_append, run_cons, run_cons, inductionHypothesis, List.append_assoc]

/-! ### Answers at the end -/

/-- From `before` the machine writes nothing within the input, and `output` at its end. -/
structure AtEnd (machine : Machine σ α β) (before : σ) (input : List α) (after : σ)
    (output : List β) : Prop where
  silent : ∀ front, front <+: input → front ≠ input → (machine.run front before).2 = []
  whole : machine.run input before = (after, output)

variable {machine : Machine σ α β} {before middle after : σ} {input front back : List α}
  {output : List β}

theorem AtEnd.silent_within (atEnd : AtEnd machine before input after output)
    (split : input = front ++ back) (more : back ≠ []) : (machine.run front before).2 = [] := by
  apply atEnd.silent front ⟨back, split.symm⟩
  intro whole
  rw [← whole] at split
  exact more (List.self_eq_append_right.mp split)

/-- One element is answered at once. -/
theorem AtEnd.single (machine : Machine σ α β) (before : σ) (item : α) :
    AtEnd machine before [item] (machine.take before item).1 (machine.take before item).2 where
  silent := by
    intro front isPrefix short
    rcases List.prefix_cons_iff.mp isPrefix with rfl | ⟨rest, rfl, within⟩
    · rfl
    · rw [List.prefix_nil.mp within] at short
      exact absurd rfl short
  whole := by simp

/-- A silent beginning, and an answer after the rest. -/
theorem AtEnd.append (quiet : AtEnd machine before front middle [])
    (later : AtEnd machine middle back after output) :
    AtEnd machine before (front ++ back) after output where
  silent := by
    intro part isPrefix short
    rcases List.prefix_or_prefix_of_prefix isPrefix (List.prefix_append front back)
      with within | beyond
    · by_cases all : part = front
      · rw [all, quiet.whole]
      · exact quiet.silent part within all
    · obtain ⟨rest, rfl⟩ := beyond
      rw [run_append, quiet.whole, List.nil_append]
      apply later.silent rest ((List.prefix_append_right_inj front).mp isPrefix)
      intro all
      rw [all] at short
      exact short rfl
  whole := by
    rw [run_append, quiet.whole, later.whole, List.nil_append]

/-! ### One machine after the other -/

/-- What the first machine writes, the second reads. -/
def cascade (first : Machine σ α β) (second : Machine τ β γ) : Machine (σ × τ) α γ where
  take state item :=
    let written := first.take state.1 item
    let answered := second.run written.2 state.2
    ((written.1, answered.1), answered.2)

theorem run_cascade (first : Machine σ α β) (second : Machine τ β γ) (input : List α)
    (state : σ × τ) :
    (first.cascade second).run input state =
      (((first.run input state.1).1, (second.run (first.run input state.1).2 state.2).1),
        (second.run (first.run input state.1).2 state.2).2) := by
  induction input generalizing state with
  | nil => rfl
  | cons item rest inductionHypothesis =>
      rw [run_cons, inductionHypothesis, run_cons, run_append]
      rfl

/-- What the first machine writes at the end of the input, the second answers there. -/
theorem AtEnd.cascade (atEnd : AtEnd machine before input after output)
    (second : Machine τ β γ) (state : τ) :
    AtEnd (machine.cascade second) (before, state) input (after, (second.run output state).1)
      (second.run output state).2 where
  silent := by
    intro front isPrefix short
    rw [run_cascade, atEnd.silent front isPrefix short]
    rfl
  whole := by
    rw [run_cascade, atEnd.whole]

end Machine

end Openobsw.Lib
