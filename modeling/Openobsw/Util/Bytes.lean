import Openobsw.Lib.Words

/-!
Owns big-endian byte extraction (`util/bytes.h`) and the matching byte stores
that the services write out by hand. A buffer is the list of the bytes its
pointer may read, so a read past the end is `none`.
-/

namespace Openobsw.Util

open Openobsw.Lib.Words

/-- `obsw_be16` at `buf + offset`. -/
def obswBe16 (buf : List UInt8) (offset : Nat) : Option UInt16 := do
  let p0 ← buf[offset]?
  let p1 ← buf[offset + 1]?
  return (p0.toUInt16 <<< 8) ||| p1.toUInt16

/-- `obsw_be32` at `buf + offset`. -/
def obswBe32 (buf : List UInt8) (offset : Nat) : Option UInt32 := do
  let p0 ← buf[offset]?
  let p1 ← buf[offset + 1]?
  let p2 ← buf[offset + 2]?
  let p3 ← buf[offset + 3]?
  return (p0.toUInt32 <<< 24) ||| (p1.toUInt32 <<< 16) ||| (p2.toUInt32 <<< 8) ||| p3.toUInt32

/-- The source range of a copy out of a buffer. -/
def sliceBytes (buf : List UInt8) (offset len : Nat) : Option (List UInt8) :=
  if offset + len ≤ buf.length then some ((buf.drop offset).take len) else none

/-- `buf[0] = (uint8_t)(value >> 8); buf[1] = (uint8_t)(value & 0xFF)`. -/
def putBe16 (value : UInt16) : List UInt8 :=
  [(value >>> 8).toUInt8, (value &&& 0xFF).toUInt8]

/-- The four stores of a 32-bit value, most significant byte first. -/
def putBe32 (value : UInt32) : List UInt8 :=
  [(value >>> 24).toUInt8, (value >>> 16).toUInt8, (value >>> 8).toUInt8, (value &&& 0xFF).toUInt8]

@[simp] theorem putBe16_length (value : UInt16) : (putBe16 value).length = 2 := rfl

@[simp] theorem putBe32_length (value : UInt32) : (putBe32 value).length = 4 := rfl

/-! ### Reads inside the buffer succeed -/

theorem obswBe16_isSome (buf : List UInt8) (offset : Nat) (fits : offset + 2 ≤ buf.length) :
    ∃ value, obswBe16 buf offset = some value := by
  unfold obswBe16
  rw [List.getElem?_eq_getElem (by omega), List.getElem?_eq_getElem (by omega)]
  exact ⟨_, rfl⟩

theorem obswBe32_isSome (buf : List UInt8) (offset : Nat) (fits : offset + 4 ≤ buf.length) :
    ∃ value, obswBe32 buf offset = some value := by
  unfold obswBe32
  rw [List.getElem?_eq_getElem (by omega), List.getElem?_eq_getElem (by omega),
    List.getElem?_eq_getElem (by omega), List.getElem?_eq_getElem (by omega)]
  exact ⟨_, rfl⟩

theorem sliceBytes_eq (buf : List UInt8) (offset len : Nat) (fits : offset + len ≤ buf.length) :
    sliceBytes buf offset len = some ((buf.drop offset).take len) :=
  if_pos fits

theorem getElem?_isSome (buf : List UInt8) (index : Nat) (fits : index < buf.length) :
    ∃ value, buf[index]? = some value :=
  ⟨_, List.getElem?_eq_getElem fits⟩

/-! ### Stored values are read back -/

theorem highByte_toNat (value : UInt16) : (value >>> 8).toUInt8.toNat = value.toNat / 256 := by
  have fits := value.toNat_lt
  rw [UInt16.toNat_toUInt8, toNat_shr16 8 rfl]
  omega

theorem lowByte_toNat (value : UInt16) : (value &&& 0xFF).toUInt8.toNat = value.toNat % 256 := by
  rw [UInt16.toNat_toUInt8, toNat_and16 8 rfl]
  omega

/-- The two bytes of a word, as a number. -/
theorem putBe16_toNat (value : UInt16) :
    (value >>> 8).toUInt8.toNat * 256 + (value &&& 0xFF).toUInt8.toNat = value.toNat := by
  rw [highByte_toNat, lowByte_toNat]
  omega

theorem join16_putBe16 (value : UInt16) :
    ((value >>> 8).toUInt8.toUInt16 <<< 8) ||| (value &&& 0xFF).toUInt8.toUInt16 = value := by
  refine UInt16.toNat_inj.mp ?_
  rw [toNat_join16, putBe16_toNat]

theorem join32_putBe32 (value : UInt32) :
    ((value >>> 24).toUInt8.toUInt32 <<< 24) ||| ((value >>> 16).toUInt8.toUInt32 <<< 16) |||
        ((value >>> 8).toUInt8.toUInt32 <<< 8) ||| (value &&& 0xFF).toUInt8.toUInt32 = value := by
  have fits := value.toNat_lt
  refine UInt32.toNat_inj.mp ?_
  rw [toNat_join32, UInt32.toNat_toUInt8, UInt32.toNat_toUInt8, UInt32.toNat_toUInt8,
    UInt32.toNat_toUInt8, toNat_shr32 24 rfl, toNat_shr32 16 rfl, toNat_shr32 8 rfl,
    toNat_and32 8 rfl]
  omega

theorem obswBe16_putBe16 (before : List UInt8) (value : UInt16) (after : List UInt8) :
    obswBe16 (before ++ (putBe16 value ++ after)) before.length = some value := by
  unfold obswBe16 putBe16
  rw [List.getElem?_append_right (Nat.le_refl _), List.getElem?_append_right (Nat.le_add_right _ 1),
    Nat.sub_self, Nat.add_sub_cancel_left]
  exact congrArg some (join16_putBe16 value)

theorem obswBe32_putBe32 (before : List UInt8) (value : UInt32) (after : List UInt8) :
    obswBe32 (before ++ (putBe32 value ++ after)) before.length = some value := by
  unfold obswBe32 putBe32
  rw [List.getElem?_append_right (Nat.le_refl _),
    List.getElem?_append_right (Nat.le_add_right _ 1),
    List.getElem?_append_right (Nat.le_add_right _ 2),
    List.getElem?_append_right (Nat.le_add_right _ 3),
    Nat.sub_self, Nat.add_sub_cancel_left, Nat.add_sub_cancel_left, Nat.add_sub_cancel_left]
  exact congrArg some (join32_putBe32 value)

end Openobsw.Util
