import Mathlib.Tactic.Ring
import Openobsw.Lib.Trace
import Openobsw.Time.Obt

/-!
Owns that on-board time does not drift: whatever the steps it advances by, it is the start
value plus their sum, in the finest unit of its three fields and modulo their range.
-/

namespace Openobsw.Time

open Openobsw.Lib

namespace Obt

/-- The time in thousandths of 1/65536 s. -/
def units (obt : Obt) : Nat :=
  obt.coarse.toNat * 65536000 + obt.fine.toNat * 1000 + obt.rem.toNat

/-- Where the seconds counter wraps. -/
def range : Nat := 4294967296 * 65536000

/-- The intermediate sums of `obsw_obt_advance` fit their 32-bit type. -/
structure NoOverflow (obt : Obt) (dtMs : UInt32) : Prop where
  scaled : dtMs.toNat * 65536 + obt.rem.toNat < 4294967296
  newFine : obt.fine.toNat + (dtMs.toNat * 65536 + obt.rem.toNat) / 1000 < 4294967296

/-- The remainder is one. -/
def Carried (obt : Obt) : Prop := obt.rem.toNat < 1000

theorem noOverflow {obt : Obt} (carried : obt.Carried) {dtMs : UInt32}
    (small : dtMs.toNat < 65536) : NoOverflow obt dtMs := by
  unfold Carried at carried
  have fineFits := obt.fine.toNat_lt
  constructor
  · omega
  · omega

/-! ### One step -/

/-- The high digit of a number in mixed radix wraps, the low one stays. -/
theorem mul_add_mod_mul {digit low radix base : Nat} (fits : low < base) (some : 0 < radix) :
    (digit * base + low) % (radix * base) = digit % radix * base + low := by
  have whole : digit * base + low = radix * base * (digit / radix) + (digit % radix * base + low) := by
    calc digit * base + low
        = (radix * (digit / radix) + digit % radix) * base + low := by rw [Nat.div_add_mod]
      _ = radix * base * (digit / radix) + (digit % radix * base + low) := by ring
  have below : digit % radix * base + low < radix * base := by
    calc digit % radix * base + low
        < digit % radix * base + base := Nat.add_lt_add_left fits _
      _ = (digit % radix + 1) * base := (Nat.succ_mul _ _).symm
      _ ≤ radix * base := Nat.mul_le_mul_right base (Nat.mod_lt digit some)
  rw [whole, Nat.mul_add_mod, Nat.mod_eq_of_lt below]

/-- The carries lose nothing but whole turns of the seconds. -/
theorem carry (coarse fine rem dtMs : Nat) :
    (coarse + (fine + (dtMs * 65536 + rem) / 1000) / 65536) % 4294967296 * 65536000 +
        (fine + (dtMs * 65536 + rem) / 1000) % 65536 * 1000 + (dtMs * 65536 + rem) % 1000 =
      (coarse * 65536000 + fine * 1000 + rem + 65536 * dtMs) % (4294967296 * 65536000) := by
  have sum : (coarse + (fine + (dtMs * 65536 + rem) / 1000) / 65536) * 65536000 +
      ((fine + (dtMs * 65536 + rem) / 1000) % 65536 * 1000 + (dtMs * 65536 + rem) % 1000) =
        coarse * 65536000 + fine * 1000 + rem + 65536 * dtMs := by
    omega
  have low : (fine + (dtMs * 65536 + rem) / 1000) % 65536 * 1000 + (dtMs * 65536 + rem) % 1000 <
      65536000 := by
    omega
  have wrapped := @mul_add_mod_mul (coarse + (fine + (dtMs * 65536 + rem) / 1000) / 65536)
    _ _ _ low (show 0 < 4294967296 by decide)
  exact (Nat.add_assoc _ _ _).trans (wrapped.symm.trans (congrArg (fun n => n % _) sum))

section Step

variable {obt : Obt} {dtMs : UInt32}

theorem scaled_toNat (fits : NoOverflow obt dtMs) :
    (dtMs * 65536 + obt.rem.toUInt32).toNat = dtMs.toNat * 65536 + obt.rem.toNat := by
  have bound := fits.scaled
  rw [UInt32.toNat_add, UInt32.toNat_mul, UInt16.toNat_toUInt32]
  show (dtMs.toNat * 65536 % 4294967296 + obt.rem.toNat) % 4294967296 = _
  omega

theorem newFine_toNat (fits : NoOverflow obt dtMs) :
    (obt.fine.toUInt32 + (dtMs * 65536 + obt.rem.toUInt32) / 1000).toNat =
      obt.fine.toNat + (dtMs.toNat * 65536 + obt.rem.toNat) / 1000 := by
  have bound := fits.newFine
  rw [UInt32.toNat_add, UInt32.toNat_div, scaled_toNat fits, UInt16.toNat_toUInt32]
  exact Nat.mod_eq_of_lt bound

theorem advance_rem (fits : NoOverflow obt dtMs) :
    (obt.advance dtMs).rem.toNat = (dtMs.toNat * 65536 + obt.rem.toNat) % 1000 := by
  show ((dtMs * 65536 + obt.rem.toUInt32) % 1000).toUInt16.toNat = _
  rw [UInt32.toNat_toUInt16, UInt32.toNat_mod, scaled_toNat fits]
  show _ % 1000 % 65536 = _
  omega

theorem advance_fine (fits : NoOverflow obt dtMs) :
    (obt.advance dtMs).fine.toNat =
      (obt.fine.toNat + (dtMs.toNat * 65536 + obt.rem.toNat) / 1000) % 65536 := by
  show ((obt.fine.toUInt32 + (dtMs * 65536 + obt.rem.toUInt32) / 1000) % 65536).toUInt16.toNat = _
  rw [UInt32.toNat_toUInt16, UInt32.toNat_mod, newFine_toNat fits]
  show _ % 65536 % 65536 = _
  omega

theorem advance_coarse (fits : NoOverflow obt dtMs) :
    (obt.advance dtMs).coarse.toNat =
      (obt.coarse.toNat + (obt.fine.toNat + (dtMs.toNat * 65536 + obt.rem.toNat) / 1000) / 65536) %
        4294967296 := by
  show (obt.coarse +
    (obt.fine.toUInt32 + (dtMs * 65536 + obt.rem.toUInt32) / 1000) / 65536).toNat = _
  rw [UInt32.toNat_add, UInt32.toNat_div, newFine_toNat fits]
  rfl

/-- A step adds its milliseconds and keeps the remainder one. -/
theorem advance_units (carried : obt.Carried) (small : dtMs.toNat < 65536) :
    (obt.advance dtMs).Carried ∧
      (obt.advance dtMs).units = (obt.units + 65536 * dtMs.toNat) % range := by
  have fits := noOverflow carried small
  constructor
  · unfold Carried
    rw [advance_rem fits]
    exact Nat.mod_lt _ (by decide)
  · unfold units range
    rw [advance_coarse fits, advance_fine fits, advance_rem fits]
    exact carry _ _ _ _

end Step

/-- Different times are different numbers of units. -/
theorem eq_of_units {left right : Obt} (leftCarried : left.Carried) (rightCarried : right.Carried)
    (same : left.units = right.units) : left = right := by
  unfold units at same
  unfold Carried at leftCarried rightCarried
  have leftFine := left.fine.toNat_lt
  have rightFine := right.fine.toNat_lt
  have coarse : left.coarse.toNat = right.coarse.toNat := by omega
  have fine : left.fine.toNat = right.fine.toNat := by omega
  have rem : left.rem.toNat = right.rem.toNat := by omega
  cases left
  cases right
  rw [Obt.mk.injEq]
  exact ⟨UInt32.toNat_inj.mp coarse, UInt16.toNat_inj.mp fine, UInt16.toNat_inj.mp rem⟩

/-! ### Every sequence of steps -/

/-- The time after steps from a set value on. -/
def afterSteps (coarse : UInt32) (fine : UInt16) (dts : List UInt32) : Obt :=
  Trace.after advance (set coarse fine) dts

/-- The milliseconds of the steps together. -/
def total (dts : List UInt32) : Nat := (dts.map (fun dt => dt.toNat)).sum

theorem total_concat (dts : List UInt32) (dtMs : UInt32) :
    total (dts ++ [dtMs]) = total dts + dtMs.toNat := by
  simp [total]

/-- The remainder is one and the time is the start plus the steps. -/
def Exact (coarse : UInt32) (fine : UInt16) (dts : List UInt32) (obt : Obt) : Prop :=
  obt.Carried ∧ obt.units =
    (coarse.toNat * 65536000 + fine.toNat * 1000 + 65536 * total dts) % range

theorem exact_start (coarse : UInt32) (fine : UInt16) :
    Exact coarse fine [] (set coarse fine) := by
  have coarseFits := coarse.toNat_lt
  have fineFits := fine.toNat_lt
  constructor
  · exact Nat.zero_lt_succ 999
  · unfold units range set total
    simp only [List.map_nil, List.sum_nil, Nat.mul_zero, Nat.add_zero, UInt16.toNat_zero]
    omega

theorem exact_afterSteps (coarse : UInt32) (fine : UInt16) {dts : List UInt32}
    (small : ∀ dt ∈ dts, dt.toNat < 65536) :
    Exact coarse fine dts (afterSteps coarse fine dts) := by
  apply Trace.invariant (Exact coarse fine) (exact_start coarse fine) _ dts (Trace.conforms_of_forall small)
  intro front dt before fits
  obtain ⟨carried, units⟩ := before
  obtain ⟨stillCarried, moved⟩ := advance_units carried fits
  refine ⟨stillCarried, ?_⟩
  rw [moved, units, total_concat, Nat.mul_add, ← Nat.add_assoc, Nat.mod_add_mod]

/-- On-board time is exact after each of any steps below 65536 ms, without an overflow in
between, and two sequences of steps of the same total lead to the same time. -/
theorem advance_exact (coarse : UInt32) (fine : UInt16) {dts : List UInt32}
    (small : ∀ dt ∈ dts, dt.toNat < 65536) :
    (∀ front dt, front ++ [dt] <+: dts → NoOverflow (afterSteps coarse fine front) dt) ∧
    (∀ front, front <+: dts →
      (afterSteps coarse fine front).rem.toNat < 1000 ∧
      (afterSteps coarse fine front).coarse.toNat * 65536000 +
          (afterSteps coarse fine front).fine.toNat * 1000 +
          (afterSteps coarse fine front).rem.toNat =
        (coarse.toNat * 65536000 + fine.toNat * 1000 + 65536 * total front) %
          (2 ^ 32 * 65536000)) ∧
    ∀ others : List UInt32, (∀ dt ∈ others, dt.toNat < 65536) → total others = total dts →
      afterSteps coarse fine others = afterSteps coarse fine dts := by
  refine ⟨?_, ?_, ?_⟩
  · intro front dt isPrefix
    have smallFront : ∀ other ∈ front, other.toNat < 65536 := fun other member =>
      small other (isPrefix.subset (List.mem_append_left _ member))
    have smallDt := small dt (isPrefix.subset (List.mem_append_right _ List.mem_cons_self))
    exact noOverflow (exact_afterSteps coarse fine smallFront).1 smallDt
  · intro front isPrefix
    exact exact_afterSteps coarse fine (fun dt member => small dt (isPrefix.subset member))
  · intro others smallOthers sameTotal
    obtain ⟨leftCarried, leftUnits⟩ := exact_afterSteps coarse fine smallOthers
    obtain ⟨rightCarried, rightUnits⟩ := exact_afterSteps coarse fine small
    apply eq_of_units leftCarried rightCarried
    rw [leftUnits, rightUnits, sameTotal]

/-- Ten steps of 100 ms and one of a second, over the wrap of the seconds. -/
theorem advance_exact_second :
    afterSteps 0xFFFFFFFF 65535 (List.replicate 10 100) = afterSteps 0xFFFFFFFF 65535 [1000] :=
  (@advance_exact 0xFFFFFFFF 65535 [1000] (by simp)).2.2 (List.replicate 10 100)
    (by simp) (by decide)

end Obt

end Openobsw.Time
