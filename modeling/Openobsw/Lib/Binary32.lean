import Mathlib.Order.Defs.LinearOrder
import Openobsw.Lib.Words

/-!
Owns IEEE 754 single precision values as bit patterns: the NaN test, the order
with NaN comparing false, the conversions from 32-bit integers, and arithmetic rounded to
nearest. Patterns are kept as they are, so a NaN keeps its payload; one that an operation
makes is the quiet one.
-/

namespace Openobsw.Lib.Binary32

/-- A NaN: the exponent is all ones and the fraction is not zero. -/
def isNan (bits : UInt32) : Bool := bits &&& 0x7FFFFFFF > 0x7F800000

/-- The place of a value in the order of all values; both zeros have the same. -/
def rank (bits : UInt32) : Int :=
  if bits < 0x80000000 then bits.toNat else -((bits &&& 0x7FFFFFFF).toNat : Int)

/-- `x < y` -/
def lt (x y : UInt32) : Bool := !isNan x && !isNan y && decide (rank x < rank y)

/-- `(float)value` for an unsigned integer. -/
def ofUInt32 (value : UInt32) : UInt32 := (Float32.Model.ofUInt32 value).toBits

/-- `(float)value` for a signed integer given by its bits. -/
def ofInt32 (value : UInt32) : UInt32 := (Float32.Model.ofInt32 value.toInt32).toBits

theorem lt_iff (x y : UInt32) :
    lt x y = true ↔ isNan x = false ∧ isNan y = false ∧ rank x < rank y := by
  simp [lt, and_assoc]

theorem lt_trans {x y z : UInt32} (first : lt x y = true) (second : lt y z = true) :
    lt x z = true := by
  rw [lt_iff] at first second ⊢
  exact ⟨first.1, second.2.1, Int.lt_trans first.2.2 second.2.2⟩

/-- 1.0 < 2.0, minus one is below zero, the zeros are equal, and NaN compares false. -/
example : lt 0x3F800000 0x40000000 = true ∧ lt 0xBF800000 0x80000000 = true ∧
    lt 0x80000000 0 = false ∧ lt 0x7FC00000 0x3F800000 = false := by
  decide

/-- 2 ^ 24 + 1 is rounded to even, and minus one converts exactly. -/
example : ofUInt32 16777217 = 0x4B800000 ∧ ofInt32 0xFFFFFFFF = 0xBF800000 := by
  decide +kernel

/-! ### Arithmetic -/

/-- `x <= y` -/
def le (x y : UInt32) : Bool := !isNan x && !isNan y && decide (rank x ≤ rank y)

def add (x y : UInt32) : UInt32 := (Float32.Model.ofBits x + Float32.Model.ofBits y).toBits

def sub (x y : UInt32) : UInt32 := (Float32.Model.ofBits x - Float32.Model.ofBits y).toBits

def mul (x y : UInt32) : UInt32 := (Float32.Model.ofBits x * Float32.Model.ofBits y).toBits

def div (x y : UInt32) : UInt32 := (Float32.Model.ofBits x / Float32.Model.ofBits y).toBits

def sqrt (x : UInt32) : UInt32 := (Float32.Model.ofBits x).sqrt.toBits

/-- `-x`: the sign bit is flipped, as the carry out of it is lost. -/
def neg (x : UInt32) : UInt32 := x + 0x80000000

/-- The pattern without its sign, which orders the absolute values. -/
def magnitude (x : UInt32) : Nat := x.toNat % 2 ^ 31

theorem magnitude_eq (x : UInt32) : (x &&& 0x7FFFFFFF).toNat = magnitude x :=
  Words.toNat_and32 31 rfl x

theorem isNan_eq (x : UInt32) : isNan x = decide (0x7F800000 < magnitude x) := by
  unfold isNan
  rw [← magnitude_eq]
  rfl

theorem rank_eq (x : UInt32) :
    rank x = if x.toNat < 2 ^ 31 then (magnitude x : Int) else -(magnitude x : Int) := by
  unfold rank
  rw [magnitude_eq]
  by_cases positive : x.toNat < 2 ^ 31
  · rw [if_pos (UInt32.lt_iff_toNat_lt.mpr positive), if_pos positive, magnitude,
      Nat.mod_eq_of_lt positive]
  · rw [if_neg (fun below => positive (UInt32.lt_iff_toNat_lt.mp below)), if_neg positive]

theorem neg_toNat (x : UInt32) : (neg x).toNat = (x.toNat + 2 ^ 31) % 2 ^ 32 :=
  UInt32.toNat_add x 0x80000000

@[simp] theorem magnitude_neg (x : UInt32) : magnitude (neg x) = magnitude x := by
  unfold magnitude
  rw [neg_toNat]
  omega

@[simp] theorem isNan_neg (x : UInt32) : isNan (neg x) = isNan x := by
  rw [isNan_eq, isNan_eq, magnitude_neg]

@[simp] theorem rank_neg (x : UInt32) : rank (neg x) = -rank x := by
  have bound := x.toNat_lt
  rw [rank_eq, rank_eq, magnitude_neg, neg_toNat]
  split <;> split <;> omega

theorem rank_natAbs (x : UInt32) : (rank x).natAbs = magnitude x := by
  rw [rank_eq]
  split <;> omega

/-! ### Saturation -/

/-- The absolute value is not above that of the limit. Nothing is within a NaN, and a NaN
within nothing. -/
def Within (limit value : UInt32) : Prop :=
  isNan limit = false ∧ isNan value = false ∧ magnitude value ≤ magnitude limit

/-- What saturation ensures: its comparisons let a NaN through, and a limit that is a NaN
limits nothing. -/
def Limited (limit value : UInt32) : Prop :=
  isNan limit = true ∨ isNan value = true ∨ Within limit value

/-- `if (v > max) v = max; if (v < -max) v = -max;` -/
def saturate (max value : UInt32) : UInt32 :=
  let value := if lt max value then max else value
  if lt value (neg max) then neg max else value

/-- Saturation neither makes a NaN nor takes one away. -/
theorem isNan_saturate (max value : UInt32) : isNan (saturate max value) = isNan value := by
  unfold saturate
  simp only
  have capped : isNan (if lt max value then max else value) = isNan value := by
    by_cases high : lt max value = true
    · have numbers := (lt_iff _ _).mp high
      rw [if_pos high, numbers.1, numbers.2.1]
    · rw [if_neg high]
  by_cases low : lt (if lt max value then max else value) (neg max) = true
  · have numbers := (lt_iff _ _).mp low
    rw [if_pos low, ← capped, numbers.1, numbers.2.1]
  · rw [if_neg low, capped]

/-- A negative limit saturates to its absolute value. -/
theorem saturate_within {max value : UInt32} (number : isNan max = false)
    (valueNumber : isNan value = false) : Within max (saturate max value) := by
  refine ⟨number, (isNan_saturate max value).trans valueNumber, ?_⟩
  unfold saturate
  simp only
  generalize capped : (if lt max value then max else value) = upper
  by_cases low : lt upper (neg max) = true
  · rw [if_pos low]
    exact Nat.le_of_eq (magnitude_neg max)
  · rw [if_neg low]
    have below : isNan upper = false ∧ rank upper ≤ rank max := by
      by_cases high : lt max value = true
      · rw [if_pos high] at capped
        exact ⟨capped ▸ number, Int.le_of_eq (congrArg rank capped.symm)⟩
      · rw [if_neg high] at capped
        rw [lt_iff, capped] at high
        refine ⟨capped ▸ valueNumber, ?_⟩
        by_contra above
        exact high ⟨number, capped ▸ valueNumber, by omega⟩
    have above : -rank max ≤ rank upper := by
      rw [lt_iff, isNan_neg, rank_neg] at low
      by_contra beneath
      exact low ⟨below.1, number, by omega⟩
    rw [← rank_natAbs, ← rank_natAbs]
    omega

theorem saturate_limited (max value : UInt32) : Limited max (saturate max value) := by
  by_cases limitNan : isNan max = true
  · exact .inl limitNan
  · by_cases valueNan : isNan value = true
    · exact .inr (.inl ((isNan_saturate max value).trans valueNan))
    · exact .inr (.inr (saturate_within (Bool.eq_false_iff.mpr limitNan)
        (Bool.eq_false_iff.mpr valueNan)))

theorem zero_limited (limit : UInt32) : Limited limit 0 := by
  by_cases nan : isNan limit = true
  · exact .inl nan
  · exact .inr (.inr ⟨Bool.eq_false_iff.mpr nan, by decide, Nat.zero_le _⟩)

/-- 0.1 + 0.2, rounded once, and 1 / 3 * 3. -/
example : add 0x3DCCCCCD 0x3E4CCCCD = 0x3E99999A ∧
    mul (div 0x3F800000 0x40400000) 0x40400000 = 0x3F800000 := by
  decide +kernel

end Openobsw.Lib.Binary32
