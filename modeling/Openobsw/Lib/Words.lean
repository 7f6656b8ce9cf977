import Mathlib.Algebra.Group.Nat.Defs

/-!
Owns machine words as numbers: masks with low ones are remainders, right shifts are
quotients, and fields that do not overlap add up.
-/

namespace Openobsw.Lib.Words

/-- Two numbers without a common bit: one a multiple of a power of two, one below it. -/
theorem or_eq_add {a b : Nat} (i : Nat) (aligned : a % 2 ^ i = 0) (small : b < 2 ^ i) :
    a ||| b = a + b := by
  obtain ⟨quotient, rfl⟩ := Nat.dvd_of_mod_eq_zero aligned
  exact (Nat.two_pow_add_eq_or_of_lt small quotient).symm

theorem toNat_and8 {mask : UInt8} (n : Nat) (ones : mask.toNat = 2 ^ n - 1) (x : UInt8) :
    (x &&& mask).toNat = x.toNat % 2 ^ n := by
  rw [UInt8.toNat_and, ones, Nat.and_two_pow_sub_one_eq_mod]

theorem toNat_and16 {mask : UInt16} (n : Nat) (ones : mask.toNat = 2 ^ n - 1) (x : UInt16) :
    (x &&& mask).toNat = x.toNat % 2 ^ n := by
  rw [UInt16.toNat_and, ones, Nat.and_two_pow_sub_one_eq_mod]

theorem toNat_and32 {mask : UInt32} (n : Nat) (ones : mask.toNat = 2 ^ n - 1) (x : UInt32) :
    (x &&& mask).toNat = x.toNat % 2 ^ n := by
  rw [UInt32.toNat_and, ones, Nat.and_two_pow_sub_one_eq_mod]

theorem toNat_shr8 {k : UInt8} (n : Nat) (places : k.toNat % 8 = n) (x : UInt8) :
    (x >>> k).toNat = x.toNat / 2 ^ n := by
  rw [UInt8.toNat_shiftRight, places, Nat.shiftRight_eq_div_pow]

theorem toNat_shr16 {k : UInt16} (n : Nat) (places : k.toNat % 16 = n) (x : UInt16) :
    (x >>> k).toNat = x.toNat / 2 ^ n := by
  rw [UInt16.toNat_shiftRight, places, Nat.shiftRight_eq_div_pow]

theorem toNat_shr32 {k : UInt32} (n : Nat) (places : k.toNat % 32 = n) (x : UInt32) :
    (x >>> k).toNat = x.toNat / 2 ^ n := by
  rw [UInt32.toNat_shiftRight, places, Nat.shiftRight_eq_div_pow]

/-- A field of a byte moved to its place above the fields of `rest`. -/
theorem toNat_place8 {x rest k : UInt8} (n : Nat) (places : k.toNat = n) (short : n < 8)
    (inside : x.toNat * 2 ^ n < 256) (below : rest.toNat < 2 ^ n) :
    (x <<< k ||| rest).toNat = x.toNat * 2 ^ n + rest.toNat := by
  subst places
  rw [UInt8.toNat_or, UInt8.toNat_shiftLeft, Nat.mod_eq_of_lt short, Nat.shiftLeft_eq,
    Nat.mod_eq_of_lt inside, or_eq_add k.toNat (Nat.mul_mod_left _ _) below]

/-- Two bytes as a 16-bit word. -/
theorem toNat_join16 (high low : UInt8) :
    ((high.toUInt16 <<< 8) ||| low.toUInt16).toNat = high.toNat * 256 + low.toNat := by
  have highFits := high.toNat_lt
  have lowFits := low.toNat_lt
  rw [UInt16.toNat_or, UInt16.toNat_shiftLeft, UInt8.toNat_toUInt16, UInt8.toNat_toUInt16,
    show (8 : UInt16).toNat % 16 = 8 from rfl, Nat.shiftLeft_eq, Nat.mod_eq_of_lt (by omega),
    or_eq_add 8 (Nat.mul_mod_left _ _) lowFits]
  rfl

/-- Taking the high byte out of a joined word leaves the low byte. -/
theorem join16_xor_high (high low : UInt8) :
    ((high.toUInt16 <<< 8) ||| low.toUInt16) ^^^ (high.toUInt16 <<< 8) = low.toUInt16 := by
  have highFits := high.toNat_lt
  have lowFits := low.toNat_lt
  have placed : (high.toUInt16 <<< 8).toNat = high.toNat <<< 8 := by
    rw [UInt16.toNat_shiftLeft, UInt8.toNat_toUInt16, show (8 : UInt16).toNat % 16 = 8 from rfl,
      Nat.shiftLeft_eq, Nat.mod_eq_of_lt (by omega)]
  refine UInt16.toNat_inj.mp (Nat.eq_of_testBit_eq (fun i => ?_))
  rw [UInt16.toNat_xor, UInt16.toNat_or, placed, UInt8.toNat_toUInt16, Nat.testBit_xor,
    Nat.testBit_or, Nat.testBit_shiftLeft]
  by_cases inHigh : i ≥ 8
  · have clear : low.toNat.testBit i = false :=
      Nat.testBit_lt_two_pow (Nat.lt_of_lt_of_le lowFits (Nat.pow_le_pow_right (by decide) inHigh))
    rw [clear, Bool.or_false, Bool.xor_self]
  · rw [decide_eq_false inHigh, Bool.false_and, Bool.false_or, Bool.xor_false]

/-- Four bytes as a 32-bit word. -/
theorem toNat_join32 (p0 p1 p2 p3 : UInt8) :
    ((p0.toUInt32 <<< 24) ||| (p1.toUInt32 <<< 16) ||| (p2.toUInt32 <<< 8) ||| p3.toUInt32).toNat =
      p0.toNat * 2 ^ 24 + (p1.toNat * 2 ^ 16 + (p2.toNat * 2 ^ 8 + p3.toNat)) := by
  have fits0 := p0.toNat_lt
  have fits1 := p1.toNat_lt
  have fits2 := p2.toNat_lt
  have fits3 := p3.toNat_lt
  have low : p2.toNat * 2 ^ 8 ||| p3.toNat = p2.toNat * 2 ^ 8 + p3.toNat :=
    or_eq_add 8 (Nat.mul_mod_left _ _) fits3
  have middle : p1.toNat * 2 ^ 16 ||| (p2.toNat * 2 ^ 8 + p3.toNat) =
      p1.toNat * 2 ^ 16 + (p2.toNat * 2 ^ 8 + p3.toNat) :=
    or_eq_add 16 (Nat.mul_mod_left _ _) (by omega)
  have high : p0.toNat * 2 ^ 24 ||| (p1.toNat * 2 ^ 16 + (p2.toNat * 2 ^ 8 + p3.toNat)) =
      p0.toNat * 2 ^ 24 + (p1.toNat * 2 ^ 16 + (p2.toNat * 2 ^ 8 + p3.toNat)) :=
    or_eq_add 24 (Nat.mul_mod_left _ _) (by omega)
  rw [UInt32.or_assoc, UInt32.or_assoc, UInt32.toNat_or, UInt32.toNat_or, UInt32.toNat_or,
    UInt32.toNat_shiftLeft, UInt32.toNat_shiftLeft, UInt32.toNat_shiftLeft, UInt8.toNat_toUInt32,
    UInt8.toNat_toUInt32, UInt8.toNat_toUInt32, UInt8.toNat_toUInt32,
    show (24 : UInt32).toNat % 32 = 24 from rfl, show (16 : UInt32).toNat % 32 = 16 from rfl,
    show (8 : UInt32).toNat % 32 = 8 from rfl, Nat.shiftLeft_eq, Nat.shiftLeft_eq,
    Nat.shiftLeft_eq, Nat.mod_eq_of_lt (by omega), Nat.mod_eq_of_lt (by omega),
    Nat.mod_eq_of_lt (by omega), low, middle, high]

end Openobsw.Lib.Words
