import Mathlib.Algebra.BigOperators.Group.Finset.Basic
import Openobsw.Ccsds.Crc16
import Openobsw.Lib.ShiftRegister

/-!
Owns CRC-16/CCITT as a linear shift register: its values under exclusive or, one
bit turn as an additive step, and the stream of a buffer's bits, most significant
bit first.
-/

namespace Openobsw.Ccsds

open Openobsw.Lib Openobsw.Lib.ShiftRegister

/-- A value of the CRC variable, under exclusive or. -/
@[ext] structure CrcValue where
  word : UInt16
deriving DecidableEq

namespace CrcValue

instance : Zero CrcValue := ⟨⟨0⟩⟩

instance : Add CrcValue := ⟨fun left right => ⟨left.word ^^^ right.word⟩⟩

instance : Neg CrcValue := ⟨id⟩

@[simp] theorem zero_word : (0 : CrcValue).word = 0 := rfl

@[simp] theorem add_word (left right : CrcValue) :
    (left + right).word = left.word ^^^ right.word := rfl

theorem add_self (value : CrcValue) : value + value = 0 := CrcValue.ext UInt16.xor_self

instance : AddCommGroup CrcValue where
  add_assoc _ _ _ := CrcValue.ext (UInt16.xor_assoc _ _ _)
  zero_add _ := CrcValue.ext UInt16.zero_xor
  add_zero _ := CrcValue.ext UInt16.xor_zero
  neg_add_cancel := add_self
  add_comm _ _ := CrcValue.ext (UInt16.xor_comm _ _)
  nsmul := nsmulRec
  zsmul := zsmulRec

end CrcValue

/-! ### One bit turn -/

theorem topBit_iff (crc : UInt16) : crc &&& 0x8000 ≠ 0 ↔ crc.toNat.testBit 15 = true := by
  have masked : (crc &&& 0x8000).toNat = crc.toNat &&& 2 ^ 15 := rfl
  rw [ne_eq, ← UInt16.toNat_inj, masked, show (0 : UInt16).toNat = 0 from rfl]
  constructor
  · intro set
    by_contra clear
    refine set (Nat.eq_of_testBit_eq (fun i => ?_))
    rw [Nat.testBit_and, Nat.testBit_two_pow, Nat.zero_testBit]
    by_cases here : 15 = i
    · rw [← here, Bool.eq_false_iff.mpr clear, Bool.false_and]
    · rw [decide_eq_false here, Bool.and_false]
  · intro set none
    have bit : (crc.toNat &&& 2 ^ 15).testBit 15 = true := by
      rw [Nat.testBit_and, set, Nat.testBit_two_pow_self]
      rfl
    rw [none, Nat.zero_testBit] at bit
    cases bit

/-- The turn shifts, and subtracts the generator when the top bit is shifted out. -/
theorem crcBit_eq (crc : UInt16) :
    crcBit crc = (crc <<< 1) ^^^ (if crc.toNat.testBit 15 then 0x1021 else 0) := by
  unfold crcBit
  by_cases top : crc.toNat.testBit 15 = true
  · rw [if_pos ((topBit_iff crc).mpr top), if_pos top]
  · rw [if_neg (fun set => top ((topBit_iff crc).mp set)), if_neg top, UInt16.xor_zero]

theorem crcBit_xor (left right : UInt16) :
    crcBit (left ^^^ right) = crcBit left ^^^ crcBit right := by
  rw [crcBit_eq, crcBit_eq, crcBit_eq, UInt16.shiftLeft_xor, UInt16.toNat_xor, Nat.testBit_xor]
  have generator : (if xor (left.toNat.testBit 15) (right.toNat.testBit 15) then (0x1021 : UInt16)
      else 0) = (if left.toNat.testBit 15 then 0x1021 else 0) ^^^
        (if right.toNat.testBit 15 then 0x1021 else 0) := by
    cases left.toNat.testBit 15 <;> cases right.toNat.testBit 15 <;> rfl
  rw [generator]
  ac_rfl

theorem crcBit_eq_zero {crc : UInt16} (gone : crcBit crc = 0) : crc = 0 := by
  have fits := crc.toNat_lt
  have shifted : (crc <<< 1).toNat = 2 * crc.toNat % 65536 := by
    rw [UInt16.toNat_shiftLeft, show (1 : UInt16).toNat % 16 = 1 from rfl, Nat.shiftLeft_eq]
    omega
  have top : crc.toNat.testBit 15 = decide (crc.toNat / 2 ^ 15 % 2 = 1) :=
    Nat.testBit_eq_decide_div_mod_eq
  rw [crcBit_eq] at gone
  have same : crc <<< 1 = if crc.toNat.testBit 15 then 0x1021 else 0 := UInt16.xor_eq_zero_iff.mp gone
  rw [← UInt16.toNat_inj, shifted, top] at same
  by_cases set : crc.toNat / 2 ^ 15 % 2 = 1
  · rw [decide_eq_true set, if_pos rfl, show (0x1021 : UInt16).toNat = 4129 from rfl] at same
    omega
  · rw [decide_eq_false set, if_neg Bool.false_ne_true, show (0 : UInt16).toNat = 0 from rfl] at same
    refine UInt16.toNat_inj.mp ?_
    rw [show (0 : UInt16).toNat = 0 from rfl]
    omega

/-- The register of `obsw_crc16_ccitt`. -/
def crcRegister : ShiftRegister CrcValue where
  step :=
    { toFun := fun value => ⟨crcBit value.word⟩
      map_zero' := rfl
      map_add' := fun left right => CrcValue.ext (crcBit_xor left.word right.word) }
  tap := ⟨0x8000⟩

theorem crcRegister_injective : Function.Injective crcRegister.step := by
  rw [injective_iff_map_eq_zero]
  exact fun value gone => CrcValue.ext (crcBit_eq_zero (congrArg CrcValue.word gone))

/-! ### The generator is divisible by x + 1 -/

/-- A bit as a number modulo two. -/
def bitValue (bit : Bool) : ZMod 2 := if bit then 1 else 0

theorem bitValue_xor (left right : Bool) :
    bitValue (xor left right) = bitValue left + bitValue right := by
  cases left <;> cases right <;> rfl

/-- The number of set bits, modulo two. -/
def crcParity : CrcValue →+ ZMod 2 where
  toFun value := ∑ i ∈ Finset.range 16, bitValue (value.word.toNat.testBit i)
  map_zero' := by
    refine Finset.sum_eq_zero (fun i _ => ?_)
    show bitValue (Nat.testBit 0 i) = 0
    rw [Nat.zero_testBit]
    rfl
  map_add' := by
    intro left right
    rw [← Finset.sum_add_distrib]
    refine Finset.sum_congr rfl (fun i _ => ?_)
    rw [← bitValue_xor, ← Nat.testBit_xor, CrcValue.add_word, UInt16.toNat_xor]

theorem crcParity_apply (value : CrcValue) :
    crcParity value = ∑ i ∈ Finset.range 16, bitValue (value.word.toNat.testBit i) := rfl

theorem crcParity_shift (word : UInt16) :
    crcParity ⟨word <<< 1⟩ = ∑ i ∈ Finset.range 15, bitValue (word.toNat.testBit i) := by
  have bits : ∀ i, (word <<< 1).toNat.testBit i =
      (decide (i < 16) && (decide (i ≥ 1) && word.toNat.testBit (i - 1))) := by
    intro i
    rw [UInt16.toNat_shiftLeft, show (1 : UInt16).toNat % 16 = 1 from rfl, Nat.testBit_mod_two_pow,
      Nat.testBit_shiftLeft]
  have low : bitValue (decide (0 < 16) && (decide (0 ≥ 1) && word.toNat.testBit (0 - 1))) = 0 := rfl
  rw [crcParity_apply, Finset.sum_range_succ', bits 0, low, add_zero]
  refine Finset.sum_congr rfl (fun i member => ?_)
  have bound : i + 1 < 16 := Nat.succ_lt_succ (Finset.mem_range.mp member)
  have positive : i + 1 ≥ 1 := Nat.succ_pos i
  rw [bits (i + 1), decide_eq_true bound, decide_eq_true positive, Nat.add_sub_cancel]
  rfl

theorem crcParity_kept (value : CrcValue) :
    crcParity (crcRegister.step value) = crcParity value := by
  have generator : ∀ set : Bool, crcParity ⟨if set then 0x1021 else 0⟩ = bitValue set := by
    intro set
    cases set <;> decide
  have split : crcRegister.step value = ⟨value.word <<< 1⟩ +
      ⟨if value.word.toNat.testBit 15 then 0x1021 else 0⟩ := CrcValue.ext (crcBit_eq value.word)
  rw [split, map_add, generator, crcParity_shift]
  exact (Finset.sum_range_succ _ 15).symm

/-! ### Where the bits of a short word lie -/

/-- The value with the bit set that `i` more turns bring to the top. -/
def crcPlace (i : Nat) : CrcValue := ⟨UInt16.ofNat (2 ^ (15 - i))⟩

theorem crcPlace_toNat (i : Nat) : (crcPlace i).word.toNat = 2 ^ (15 - i) := by
  have bound : 2 ^ (15 - i) < 2 ^ 16 := Nat.pow_lt_pow_right (by decide) (by omega)
  show (UInt16.ofNat (2 ^ (15 - i))).toNat = _
  rw [UInt16.toNat_ofNat', Nat.mod_eq_of_lt bound]

theorem crcPlace_moves (i : Nat) (bound : i + 1 < 16) :
    crcRegister.step (crcPlace (i + 1)) = crcPlace i := by
  have all : ∀ i < 15, crcBit (UInt16.ofNat (2 ^ (15 - (i + 1)))) = UInt16.ofNat (2 ^ (15 - i)) := by
    decide
  exact CrcValue.ext (all i (Nat.lt_of_succ_lt_succ bound))

/-- Bits placed from `k` on stay below the place before, and cancel only if none is set. -/
theorem crcPattern_toNat (bits : List Bool) (k : Nat) (short : k + bits.length ≤ 16) :
    (pattern (fun i => crcPlace (i + k)) bits).word.toNat < 2 ^ (16 - k) ∧
      (pattern (fun i => crcPlace (i + k)) bits = 0 → true ∉ bits) := by
  induction bits generalizing k with
  | nil => exact ⟨Nat.two_pow_pos _, fun _ => List.not_mem_nil⟩
  | cons bit rest inductionHypothesis =>
      have length : (bit :: rest).length = rest.length + 1 := rfl
      obtain ⟨below, independent⟩ := inductionHypothesis (k + 1) (by omega)
      have shifted : (fun i => crcPlace (i + 1 + k)) = fun i => crcPlace (i + (k + 1)) := by
        funext i
        rw [Nat.add_assoc, Nat.add_comm 1 k]
      have power : 16 - k = 15 - k + 1 := by omega
      have power' : 16 - (k + 1) = 15 - k := by omega
      rw [pattern, shifted, power]
      rw [power'] at below
      generalize pattern (fun i => crcPlace (i + (k + 1))) rest = low at below independent ⊢
      cases bit with
      | false =>
          rw [if_neg Bool.false_ne_true, zero_add]
          refine ⟨below.trans (Nat.pow_lt_pow_right (by decide) (Nat.lt_succ_self _)), ?_⟩
          intro gone
          rw [List.mem_cons, not_or]
          exact ⟨Bool.noConfusion, independent gone⟩
      | true =>
          have sum : (crcPlace (0 + k) + low).word.toNat = 2 ^ (15 - k) ^^^ low.word.toNat := by
            rw [CrcValue.add_word, UInt16.toNat_xor, crcPlace_toNat, Nat.zero_add]
          rw [if_pos rfl, sum]
          refine ⟨Nat.xor_lt_two_pow (Nat.pow_lt_pow_right (by decide) (Nat.lt_succ_self _))
            (below.trans (Nat.pow_lt_pow_right (by decide) (Nat.lt_succ_self _))), ?_⟩
          intro gone
          have same : crcPlace (0 + k) = low := add_eq_zero_iff_eq_neg.mp gone
          rw [← same, crcPlace_toNat, Nat.zero_add] at below
          exact absurd below (Nat.lt_irrefl _)

theorem crcPlaces : Places crcRegister 16 crcPlace where
  top := rfl
  moves := crcPlace_moves
  independent := fun bits short => (crcPattern_toNat bits 0 (by omega)).2

/-! ### The period of the register -/

/-- No turn of the next `n` brings the value back to the top bit alone. -/
def staysAway : Nat → UInt16 → Bool
  | 0, _ => true
  | n + 1, value => crcBit value != 0x8000 && staysAway n (crcBit value)

theorem move_ne_of_staysAway {n k : Nat} {word : UInt16} (away : staysAway n word = true)
    (bound : k < n) : crcRegister.move (k + 1) ⟨word⟩ ≠ crcRegister.tap := by
  induction n generalizing k word with
  | zero => exact absurd bound (Nat.not_lt_zero k)
  | succ n inductionHypothesis =>
      rw [staysAway, Bool.and_eq_true, bne_iff_ne] at away
      rw [move_succ]
      cases k with
      | zero =>
          intro back
          exact away.1 (congrArg CrcValue.word back)
      | succ k => exact inductionHypothesis away.2 (Nat.lt_of_succ_lt_succ bound)

/-- The generator has an order above the longest frame: 8191 turns do not bring the tap back. -/
theorem crc_aperiodic (n : Nat) (positive : 0 < n) (bound : n < 8192) :
    crcRegister.move n crcRegister.tap ≠ crcRegister.tap := by
  have away : staysAway 8191 0x8000 = true := by decide +kernel
  obtain ⟨k, rfl⟩ := Nat.exists_eq_succ_of_ne_zero (Nat.pos_iff_ne_zero.mp positive)
  exact move_ne_of_staysAway away (Nat.lt_of_succ_lt_succ bound)

end Openobsw.Ccsds
