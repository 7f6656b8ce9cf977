import Mathlib.Algebra.Group.Hom.Basic
import Mathlib.Algebra.Field.ZMod

/-!
Owns linear shift registers over bit streams: a register that is moved by an
additive step after each bit, and where a set bit first adds a fixed tap. The
syndrome of an error pattern is what the register makes of it from zero; a
pattern goes unnoticed exactly when its syndrome is zero.
-/

namespace Openobsw.Lib

variable {V : Type*} [AddCommGroup V]

/-- A register: how it moves, and what a set bit adds before it moves. -/
structure ShiftRegister (V : Type*) [AddCommGroup V] where
  step : V →+ V
  tap : V

namespace ShiftRegister

variable (R : ShiftRegister V)

/-- What a bit adds. -/
def enter (bit : Bool) : V := if bit then R.tap else 0

@[simp] theorem enter_false : R.enter false = 0 := rfl

@[simp] theorem enter_true : R.enter true = R.tap := rfl

/-- One bit. -/
def feed (value : V) (bit : Bool) : V := R.step (value + R.enter bit)

/-- A stream of bits, first bit first. -/
def feedAll (value : V) (bits : List Bool) : V := bits.foldl R.feed value

/-- The register after an error pattern, from zero. -/
def syndrome (bits : List Bool) : V := R.feedAll 0 bits

/-- The register moved without input. -/
def move (n : Nat) (value : V) : V := R.step^[n] value

@[simp] theorem move_zero (value : V) : R.move 0 value = value := rfl

theorem move_succ (n : Nat) (value : V) : R.move (n + 1) value = R.move n (R.step value) := rfl

theorem move_move (m n : Nat) (value : V) : R.move m (R.move n value) = R.move (m + n) value :=
  (Function.iterate_add_apply _ m n value).symm

theorem move_add (n : Nat) (left right : V) :
    R.move n (left + right) = R.move n left + R.move n right := by
  induction n generalizing left right with
  | zero => rfl
  | succ n inductionHypothesis =>
      rw [move_succ, move_succ, move_succ, map_add, inductionHypothesis]

@[simp] theorem move_of_zero (n : Nat) : R.move n (0 : V) = 0 := by
  induction n with
  | zero => rfl
  | succ n inductionHypothesis => rw [move_succ, map_zero, inductionHypothesis]

@[simp] theorem feedAll_nil (value : V) : R.feedAll value [] = value := rfl

@[simp] theorem feedAll_cons (value : V) (bit : Bool) (rest : List Bool) :
    R.feedAll value (bit :: rest) = R.feedAll (R.feed value bit) rest := rfl

theorem syndrome_cons (bit : Bool) (rest : List Bool) :
    R.syndrome (bit :: rest) = R.feedAll (R.feed 0 bit) rest := rfl

theorem feedAll_append (value : V) (front back : List Bool) :
    R.feedAll value (front ++ back) = R.feedAll (R.feedAll value front) back :=
  List.foldl_append

/-- Start value and input act independently. -/
theorem feedAll_eq (value : V) (bits : List Bool) :
    R.feedAll value bits = R.move bits.length value + R.syndrome bits := by
  induction bits generalizing value with
  | nil => exact (add_zero value).symm
  | cons bit rest inductionHypothesis =>
      have first := inductionHypothesis (R.feed 0 bit)
      rw [feedAll_cons, inductionHypothesis, syndrome_cons, first, List.length_cons, move_succ,
        feed, feed, map_add, zero_add, move_add, add_assoc]

theorem syndrome_append (front back : List Bool) :
    R.syndrome (front ++ back) = R.move back.length (R.syndrome front) + R.syndrome back := by
  rw [syndrome, feedAll_append, feedAll_eq]
  rfl

@[simp] theorem syndrome_zeros (n : Nat) : R.syndrome (List.replicate n false) = 0 := by
  induction n with
  | zero => rfl
  | succ n inductionHypothesis =>
      rw [List.replicate_succ, syndrome_cons, feed, enter_false, add_zero, map_zero]
      exact inductionHypothesis

theorem syndrome_one_cons (rest : List Bool) :
    R.syndrome (true :: rest) = R.move (rest.length + 1) R.tap + R.syndrome rest := by
  rw [syndrome_cons, feedAll_eq, feed, enter_true, zero_add, move_succ]

/-- Zeros in front of a pattern do not matter, and zeros behind it only move the register. -/
theorem syndrome_padded (before after : Nat) (pattern : List Bool) :
    R.syndrome (List.replicate before false ++ pattern ++ List.replicate after false) =
      R.move after (R.syndrome pattern) := by
  rw [syndrome_append, syndrome_append, syndrome_zeros, syndrome_zeros, move_of_zero, zero_add,
    add_zero, List.length_replicate]

/-! ### What goes unnoticed -/

/-- A stream with the bits of an error pattern flipped, in a group where everything is its own
negative: the register differs by the syndrome of the pattern. -/
theorem feedAll_flipped (selfInverse : ∀ value : V, value + value = 0) (value : V)
    {bits flips : List Bool} (sameLength : bits.length = flips.length) :
    R.feedAll value (List.zipWith xor bits flips) = R.feedAll value bits + R.syndrome flips := by
  have general : ∀ (bits flips : List Bool) (value error : V), bits.length = flips.length →
      R.feedAll (value + error) (List.zipWith xor bits flips) =
        R.feedAll value bits + R.feedAll error flips := by
    intro bits
    induction bits with
    | nil =>
        intro flips value error same
        rw [List.eq_nil_of_length_eq_zero same.symm]
        rfl
    | cons bit rest inductionHypothesis =>
        intro flips value error same
        cases flips with
        | nil => cases same
        | cons flip others =>
            have entered : R.enter (xor bit flip) = R.enter bit + R.enter flip := by
              cases bit <;> cases flip <;> simp [selfInverse]
            have fed : R.feed (value + error) (xor bit flip) =
                R.feed value bit + R.feed error flip := by
              rw [feed, entered, feed, feed, ← map_add, add_add_add_comm]
            rw [List.zipWith_cons_cons, feedAll_cons, fed,
              inductionHypothesis others _ _ (Nat.succ.inj same)]
            rfl
  have split := general bits flips value 0 sameLength
  rw [add_zero] at split
  exact split

/-! ### Short patterns -/

/-- The sum of the places of the set bits. -/
def pattern (place : Nat → V) : List Bool → V
  | [] => 0
  | bit :: rest => (if bit then place 0 else 0) + pattern (fun i => place (i + 1)) rest

theorem step_pattern (bits : List Bool) {place : Nat → V}
    (moves : ∀ i, i < bits.length → R.step (place (i + 1)) = place i) :
    R.step (pattern (fun i => place (i + 1)) bits) = pattern place bits := by
  induction bits generalizing place with
  | nil => exact map_zero _
  | cons bit rest inductionHypothesis =>
      have first : R.step (if bit then place 1 else 0) = if bit then place 0 else 0 := by
        cases bit with
        | false => exact map_zero _
        | true => exact moves 0 (Nat.zero_lt_succ _)
      have others := @inductionHypothesis (fun i => place (i + 1))
        (fun i bound => moves (i + 1) (Nat.succ_lt_succ bound))
      unfold pattern
      rw [map_add, first, others]

/-- While the register is long enough for the bits, they lie in it side by side: each bit at its
place, the tap being the first. -/
theorem syndrome_eq_pattern (bits : List Bool) {place : Nat → V} (top : place 0 = R.tap)
    (moves : ∀ i, i + 1 < bits.length → R.step (place (i + 1)) = place i) :
    R.syndrome bits = R.move bits.length (pattern place bits) := by
  induction bits with
  | nil => rfl
  | cons bit rest inductionHypothesis =>
      have shorter := inductionHypothesis (fun i bound => moves i (Nat.lt_succ_of_lt bound))
      have moved := R.step_pattern rest (fun i bound => moves i (Nat.succ_lt_succ bound))
      have first : R.feed 0 bit = R.step (if bit then place 0 else 0) := by
        rw [feed, zero_add, top]
        rfl
      rw [syndrome_cons, feedAll_eq, shorter, first, List.length_cons, move_succ, pattern, map_add,
        moved, move_add]

/-! ### Detection -/

/-- The places of a word of `width` bits: the first is the tap, a step moves a bit to the place
before, and no set bits cancel. -/
structure Places (R : ShiftRegister V) (width : Nat) (place : Nat → V) : Prop where
  top : place 0 = R.tap
  moves : ∀ i, i + 1 < width → R.step (place (i + 1)) = place i
  independent : ∀ bits : List Bool, bits.length ≤ width → pattern place bits = 0 →
    true ∉ bits

section Detection

variable {R}

theorem move_eq_zero (injective : Function.Injective R.step) {n : Nat} {value : V}
    (gone : R.move n value = 0) : value = 0 := by
  refine injective.iterate n ?_
  exact gone.trans (R.move_of_zero n).symm

/-- An error burst no longer than the register. -/
theorem syndrome_burst {width : Nat} {place : Nat → V} (injective : Function.Injective R.step)
    (places : Places R width place) {within : List Bool} (short : within.length ≤ width)
    (hit : true ∈ within) (before after : Nat) :
    R.syndrome (List.replicate before false ++ within ++ List.replicate after false) ≠ 0 := by
  intro unnoticed
  rw [syndrome_padded] at unnoticed
  have silent := move_eq_zero injective unnoticed
  rw [R.syndrome_eq_pattern within places.top
    (fun i bound => places.moves i (Nat.lt_of_lt_of_le bound short))] at silent
  exact places.independent within short (move_eq_zero injective silent) hit

/-- An odd number of errors, under a parity that every step keeps and that the tap changes. -/
theorem syndrome_odd {parity : V →+ ZMod 2} (kept : ∀ value, parity (R.step value) = parity value)
    (tap : parity R.tap = 1) {flips : List Bool} (odd : flips.count true % 2 = 1) :
    R.syndrome flips ≠ 0 := by
  have counted : ∀ (flips : List Bool) (value : V),
      parity (R.feedAll value flips) = parity value + (flips.count true : ZMod 2) := by
    intro flips
    induction flips with
    | nil => simp
    | cons flip rest inductionHypothesis =>
        intro value
        rw [feedAll_cons, inductionHypothesis, feed, kept, map_add]
        cases flip with
        | false => simp
        | true => simp [tap, add_assoc, add_comm]
  intro unnoticed
  have zero := counted flips 0
  rw [← syndrome, unnoticed, map_zero, zero_add] at zero
  have even : 2 ∣ flips.count true := (ZMod.natCast_eq_zero_iff _ 2).mp zero.symm
  omega

/-- A pattern with a set bit splits before the first one. -/
theorem exists_first_set {flips : List Bool} (hit : flips.count true ≠ 0) :
    ∃ before rest, flips = List.replicate before false ++ true :: rest ∧
      flips.count true = rest.count true + 1 := by
  induction flips with
  | nil => exact absurd rfl hit
  | cons flip others inductionHypothesis =>
      cases flip with
      | true => exact ⟨0, others, rfl, by simp⟩
      | false =>
          obtain ⟨before, rest, split, count⟩ := inductionHypothesis (by simpa using hit)
          refine ⟨before + 1, rest, ?_, by simpa using count⟩
          rw [List.replicate_succ, split]
          rfl

theorem eq_zeros_of_count {flips : List Bool} (clean : flips.count true = 0) :
    flips = List.replicate flips.length false := by
  rw [List.eq_replicate_iff]
  refine ⟨rfl, fun flip member => ?_⟩
  cases flip with
  | false => rfl
  | true => exact absurd member (List.count_eq_zero.mp clean)

/-- Two errors less than a period of the register apart. -/
theorem syndrome_pair {period : Nat} (injective : Function.Injective R.step)
    (selfInverse : ∀ value : V, value + value = 0)
    (aperiodic : ∀ n, 0 < n → n < period → R.move n R.tap ≠ R.tap) {flips : List Bool}
    (short : flips.length ≤ period) (two : flips.count true = 2) : R.syndrome flips ≠ 0 := by
  obtain ⟨before, rest, split, count⟩ := @exists_first_set flips (by omega)
  obtain ⟨between, last, splitRest, countLast⟩ := @exists_first_set rest (by omega)
  have clean : last = _ := eq_zeros_of_count (by omega)
  have length : flips.length = before + (between + (last.length + 1) + 1) := by
    rw [split, splitRest]
    simp
  have restLength : rest.length = between + (last.length + 1) := by
    rw [splitRest]
    simp
  have restSyndrome : R.syndrome rest = R.move (last.length + 1) R.tap := by
    rw [splitRest, syndrome_append, syndrome_zeros, move_of_zero, zero_add, syndrome_one_cons,
      clean, syndrome_zeros, add_zero, List.length_replicate]
  intro unnoticed
  rw [split, syndrome_append, syndrome_zeros, move_of_zero, zero_add, syndrome_one_cons,
    restSyndrome, restLength] at unnoticed
  -- Both errors together vanish only if the register carries the first to the place of the second.
  have apart : between + (last.length + 1) + 1 = (last.length + 1) + (between + 1) := by omega
  have same : R.move (last.length + 1) (R.move (between + 1) R.tap) =
      R.move (last.length + 1) R.tap := by
    rw [move_move, ← apart]
    exact (add_eq_zero_iff_eq_neg.mp unnoticed).trans
      (add_eq_zero_iff_eq_neg.mp (selfInverse _)).symm
  exact aperiodic (between + 1) (Nat.succ_pos _) (by omega) (injective.iterate _ same)

end Detection

end ShiftRegister

end Openobsw.Lib
