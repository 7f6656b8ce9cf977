import Mathlib.Data.List.Basic
import Mathlib.Logic.Function.Basic
import Mathlib.Tactic.Common

/-!
Owns numbered messages: each source keeps a 16-bit counter that its messages carry and
move on. What a receiver sees of one source are consecutive numbers; what it sees of
several sources together are consecutive numbers only under a condition on their order.
-/

namespace Openobsw.Lib.Numbering

variable {κ : Type} [DecidableEq κ]

/-- The counters after one more message of a source. -/
def bump (counter : κ → UInt16) (source : κ) : κ → UInt16 :=
  Function.update counter source (counter source + 1)

/-- Every message carries the current count of its source. -/
inductive Numbered : (κ → UInt16) → List (κ × UInt16) → (κ → UInt16) → Prop
  | nil (counter : κ → UInt16) : Numbered counter [] counter
  | cons (source : κ) {counter after : κ → UInt16} {later : List (κ × UInt16)}
      (numbered : Numbered (bump counter source) later after) :
      Numbered counter ((source, counter source) :: later) after

/-- Consecutive numbers from a first one on. -/
def consecutive (first : UInt16) (count : Nat) : List UInt16 :=
  (List.range count).map (fun k => first + UInt16.ofNat k)

/-- The numbers that the messages of one source carry. -/
def numbersOf (source : κ) (messages : List (κ × UInt16)) : List UInt16 :=
  (messages.filter (fun message => message.1 = source)).map Prod.snd

theorem consecutive_succ (first : UInt16) (count : Nat) :
    consecutive first (count + 1) = first :: consecutive (first + 1) count := by
  unfold consecutive
  rw [List.range_succ_eq_map, List.map_cons, List.map_map]
  congr 1
  · simp
  · apply List.map_congr_left
    intro k _
    show first + UInt16.ofNat (k + 1) = first + 1 + UInt16.ofNat k
    rw [UInt16.ofNat_add, UInt16.add_assoc, UInt16.add_comm (UInt16.ofNat k)]
    rfl

theorem consecutive_append (first : UInt16) (front back : Nat) :
    consecutive first (front + back) =
      consecutive first front ++ consecutive (first + UInt16.ofNat front) back := by
  induction front generalizing first with
  | zero => simp [consecutive]
  | succ front inductionHypothesis =>
      rw [Nat.succ_add, consecutive_succ, consecutive_succ, inductionHypothesis (first + 1),
        UInt16.add_assoc first 1, UInt16.add_comm 1, UInt16.ofNat_add]
      rfl

theorem Numbered.append {first middle last : κ → UInt16} {front back : List (κ × UInt16)}
    (left : Numbered first front middle) (right : Numbered middle back last) :
    Numbered first (front ++ back) last := by
  induction left with
  | nil counter => exact right
  | cons source _ inductionHypothesis => exact .cons source (inductionHypothesis right)

/-- Messages of one source with consecutive numbers from its counter on. -/
theorem Numbered.of_consecutive (counter : κ → UInt16) (source : κ) (count : Nat) :
    Numbered counter ((Numbering.consecutive (counter source) count).map (Prod.mk source))
      (Function.update counter source (counter source + UInt16.ofNat count)) := by
  induction count generalizing counter with
  | zero =>
      have still : Function.update counter source (counter source + UInt16.ofNat 0) = counter := by
        simp
      rw [still]
      exact .nil counter
  | succ count inductionHypothesis =>
      have next : counter source + UInt16.ofNat (count + 1) =
          counter source + 1 + UInt16.ofNat count := by
        rw [UInt16.ofNat_add, UInt16.add_assoc, UInt16.add_comm (UInt16.ofNat count)]
        rfl
      have later := inductionHypothesis (bump counter source)
      unfold bump at later
      rw [Function.update_self, Function.update_idem] at later
      rw [consecutive_succ, List.map_cons, next]
      exact .cons source later

/-- A receiver sees the messages of each source numbered without a gap, and the source
is left with the next number. -/
theorem Numbered.consecutive {counter after : κ → UInt16} {messages : List (κ × UInt16)}
    (numbered : Numbered counter messages after) (source : κ) :
    numbersOf source messages =
        consecutive (counter source) (numbersOf source messages).length ∧
      after source = counter source + UInt16.ofNat (numbersOf source messages).length := by
  induction numbered with
  | nil counter => exact ⟨rfl, by simp [numbersOf]⟩
  | cons other numbered inductionHypothesis =>
      obtain ⟨laterNumbers, laterCounter⟩ := inductionHypothesis
      by_cases same : other = source
      · subst same
        unfold numbersOf at *
        rw [List.filter_cons_of_pos (by simp), List.map_cons, List.length_cons, consecutive_succ]
        unfold bump at laterNumbers laterCounter
        rw [Function.update_self] at laterNumbers laterCounter
        refine ⟨congrArg _ laterNumbers, ?_⟩
        rw [laterCounter, UInt16.ofNat_add, UInt16.add_assoc, UInt16.add_comm 1]
        rfl
      · unfold numbersOf at *
        rw [List.filter_cons_of_neg (by simpa using same)]
        unfold bump at laterNumbers laterCounter
        rw [Function.update_of_ne (Ne.symm same)] at laterNumbers laterCounter
        exact ⟨laterNumbers, laterCounter⟩

/-- A source whose counter stands where it stood sent nothing, among fewer messages than
its counter has values. -/
theorem Numbered.silent {counter after : κ → UInt16} {messages : List (κ × UInt16)}
    (numbered : Numbered counter messages after) {source : κ}
    (same : after source = counter source) (few : messages.length < 65536) :
    numbersOf source messages = [] := by
  have moved := (numbered.consecutive source).2
  rw [same] at moved
  have still : UInt16.ofNat (numbersOf source messages).length = 0 := by
    rw [← UInt16.add_right_inj (counter source), ← moved, UInt16.add_zero]
  have whole := congrArg UInt16.toNat still
  rw [UInt16.toNat_ofNat'] at whole
  have short : (numbersOf source messages).length ≤ messages.length := by
    unfold numbersOf
    rw [List.length_map]
    exact List.length_filter_le _ _
  apply List.eq_nil_of_length_eq_zero
  change _ % 65536 = 0 at whole
  omega

theorem numbersOf_append (source : κ) (front back : List (κ × UInt16)) :
    numbersOf source (front ++ back) = numbersOf source front ++ numbersOf source back := by
  unfold numbersOf
  rw [List.filter_append, List.map_append]

/-- Of any 65536 consecutive numbers no two are equal. -/
theorem consecutive_distinct {first : UInt16} {i j : Nat}
    (same : first + UInt16.ofNat i = first + UInt16.ofNat j) (near : i < j + 65536)
    (nearer : j < i + 65536) : i = j := by
  have equal := UInt16.toNat_inj.mpr ((UInt16.add_right_inj first).mp same)
  simp only [UInt16.toNat_ofNat'] at equal
  omega

/-! ### A stream of several counters -/

/-- The numbers count up from 0. -/
def Counts (numbers : List UInt16) : Prop := numbers = consecutive 0 numbers.length

theorem consecutive_length (first : UInt16) (count : Nat) :
    (consecutive first count).length = count := by
  simp [consecutive]

/-- Numbers that go on from some counter keep the count exactly if there are none, or
the counter stands where the count does. -/
theorem counts_append_iff (numbers : List UInt16) (next : UInt16) (count : Nat) :
    Counts (numbers ++ consecutive next count) ↔
      Counts numbers ∧ (count = 0 ∨ next = UInt16.ofNat numbers.length) := by
  unfold Counts
  rw [List.length_append, consecutive_length, consecutive_append, UInt16.zero_add]
  constructor
  · intro counted
    obtain ⟨front, back⟩ := List.append_inj counted (consecutive_length 0 _).symm
    refine ⟨front, ?_⟩
    cases count with
    | zero => exact .inl rfl
    | succ count =>
        rw [consecutive_succ, consecutive_succ] at back
        exact .inr (List.cons.inj back).1
  · intro both
    obtain ⟨front, empty | stands⟩ := both
    · rw [← front, empty]
      rfl
    · rw [← front, stands]

/-- Where numbers count up, no two of any 65536 in a row are equal. -/
theorem Counts.distinct {numbers : List UInt16} (counts : Counts numbers) {i j : Nat}
    (before : i < j) (near : j < i + 65536) (inside : j < numbers.length) :
    numbers[i]? ≠ numbers[j]? := by
  have number : ∀ k, k < numbers.length → numbers[k]? = some (0 + UInt16.ofNat k) := by
    intro k bounded
    rw [counts]
    unfold consecutive
    rw [List.getElem?_map, List.getElem?_range bounded]
    rfl
  rw [number i (Nat.lt_trans before inside), number j inside]
  intro same
  have equal := consecutive_distinct (Option.some.inj same) (by omega) near
  omega

end Openobsw.Lib.Numbering
