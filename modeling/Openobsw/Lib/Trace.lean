import Mathlib.Data.List.Basic
import Mathlib.Data.List.Infix
import Mathlib.Tactic.Common

/-!
Owns runs of a deterministic machine over a list of events: the state after them,
invariants that relate the state to the whole history, and the first time something
occurs in a history.
-/

namespace Openobsw.Lib.Trace

variable {σ ε : Type*}

/-! ### Prefixes of a history -/

theorem prefix_concat_iff {front events : List ε} {event : ε} :
    front <+: events ++ [event] ↔ front <+: events ∨ front = events ++ [event] := by
  rw [List.prefix_concat_iff, or_comm]

/-- Each event meets a condition that may look at what came before it. -/
def Conforms (allowed : List ε → ε → Prop) (events : List ε) : Prop :=
  ∀ front event, front ++ [event] <+: events → allowed front event

@[simp] theorem conforms_nil (allowed : List ε → ε → Prop) : Conforms allowed [] := by
  intro front event isPrefix
  exact absurd (List.prefix_nil.mp isPrefix) (by simp)

theorem conforms_concat {allowed : List ε → ε → Prop} {events : List ε} {event : ε} :
    Conforms allowed (events ++ [event]) ↔ Conforms allowed events ∧ allowed events event := by
  constructor
  · intro conforms
    constructor
    · intro front other isPrefix
      exact conforms front other (isPrefix.trans (List.prefix_append events [event]))
    · exact conforms events event (List.prefix_refl _)
  · intro both front other isPrefix
    rcases prefix_concat_iff.mp isPrefix with earlier | last
    · exact both.1 front other earlier
    · obtain ⟨same, lastEvent⟩ := List.append_inj' last rfl
      cases lastEvent
      rw [same]
      exact both.2

/-- A condition that only looks at the event itself. -/
theorem conforms_of_forall {allowed : ε → Prop} {events : List ε}
    (each : ∀ event ∈ events, allowed event) : Conforms (fun _ event => allowed event) events := by
  intro front event isPrefix
  exact each event (isPrefix.subset (List.mem_append_right front List.mem_cons_self))

/-- A history has come to a point where something occurs. -/
def Reached (occurs : List ε → Prop) (events : List ε) : Prop :=
  ∃ front, front <+: events ∧ occurs front

theorem reached_concat {occurs : List ε → Prop} {events : List ε} {event : ε} :
    Reached occurs (events ++ [event]) ↔ Reached occurs events ∨ occurs (events ++ [event]) := by
  unfold Reached
  constructor
  · intro reached
    obtain ⟨front, isPrefix, occurred⟩ := reached
    rcases prefix_concat_iff.mp isPrefix with earlier | last
    · exact .inl ⟨front, earlier, occurred⟩
    · exact .inr (last ▸ occurred)
  · intro reached
    rcases reached with earlier | now
    · obtain ⟨front, isPrefix, occurred⟩ := earlier
      exact ⟨front, isPrefix.trans (List.prefix_append events [event]), occurred⟩
    · exact ⟨_, List.prefix_refl _, now⟩

/-- What has occurred stays so. -/
theorem Reached.mono {occurs : List ε → Prop} {events longer : List ε}
    (reached : Reached occurs events) (isPrefix : events <+: longer) : Reached occurs longer := by
  obtain ⟨front, earlier, occurred⟩ := reached
  exact ⟨front, earlier.trans isPrefix, occurred⟩

/-! ### Runs -/

section Runs

variable (step : σ → ε → σ) (start : σ)

/-- The state after a history. -/
def after (events : List ε) : σ := events.foldl step start

@[simp] theorem after_nil : after step start [] = start := rfl

@[simp] theorem after_concat (events : List ε) (event : ε) :
    after step start (events ++ [event]) = step (after step start events) event := by
  simp [after]

/-- What the events of a history put out, oldest first. -/
def outputs {ω : Type*} (step : σ → ε → σ) (emit : σ → ε → List ω) : σ → List ε → List ω
  | _, [] => []
  | state, event :: rest => emit state event ++ outputs step emit (step state event) rest

@[simp] theorem outputs_nil {ω : Type*} (emit : σ → ε → List ω) :
    outputs step emit start [] = [] := rfl

theorem outputs_concat {ω : Type*} (emit : σ → ε → List ω) (events : List ε) (event : ε) :
    outputs step emit start (events ++ [event]) =
      outputs step emit start events ++ emit (after step start events) event := by
  induction events generalizing start with
  | nil => simp [outputs]
  | cons first rest inductionHypothesis =>
      show emit start first ++ outputs step emit (step start first) (rest ++ [event]) = _
      rw [inductionHypothesis, ← List.append_assoc]
      rfl

variable {step start}

/-- What relates state and history at the start, and is kept by every allowed step, holds
after every history that conforms. -/
theorem invariant (holds : List ε → σ → Prop) {allowed : List ε → ε → Prop}
    (initial : holds [] start)
    (kept : ∀ events event, holds events (after step start events) → allowed events event →
      holds (events ++ [event]) (step (after step start events) event))
    (events : List ε) (conforms : Conforms allowed events) :
    holds events (after step start events) := by
  induction events using List.reverseRecOn with
  | nil => exact initial
  | append_singleton events event inductionHypothesis =>
      obtain ⟨before, last⟩ := conforms_concat.mp conforms
      rw [after_concat]
      exact kept events event (inductionHypothesis before) last

/-- The same for steps that are all allowed. -/
theorem invariant_of_all (holds : List ε → σ → Prop) (initial : holds [] start)
    (kept : ∀ events event, holds events (after step start events) →
      holds (events ++ [event]) (step (after step start events) event))
    (events : List ε) : holds events (after step start events) := by
  have unrestricted : Conforms (fun (_ : List ε) (_ : ε) => True) events := fun _ _ _ => trivial
  exact invariant holds initial (fun front event before _ => kept front event before) events unrestricted

end Runs

end Openobsw.Lib.Trace
