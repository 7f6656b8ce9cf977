import Openobsw.Ccsds.CrcRegister
import Openobsw.Ccsds.TcFrame

/-!
Owns the detection of transmission errors by the frame error control field: which
corruptions of an accepted TC frame the decoder refuses, wherever they fall.
-/

namespace Openobsw.Ccsds

open Openobsw.Lib Openobsw.Lib.ShiftRegister Openobsw.Lib.Words Openobsw.Util

/-! ### A buffer as a stream of bits -/

/-- The bits of a byte, most significant bit first. -/
def byteBits (byte : UInt8) : List Bool :=
  (List.range 8).map (fun i => byte.toNat.testBit (7 - i))

/-- The bits of a buffer in their order of transmission. -/
def frameBits (buf : List UInt8) : List Bool := buf.flatMap byteBits

@[simp] theorem byteBits_length (byte : UInt8) : (byteBits byte).length = 8 := rfl

theorem frameBits_length (buf : List UInt8) : (frameBits buf).length = 8 * buf.length := by
  induction buf with
  | nil => rfl
  | cons byte rest inductionHypothesis =>
      show (byteBits byte ++ frameBits rest).length = _
      rw [List.length_append, inductionHypothesis, byteBits_length, List.length_cons]
      omega

/-- The bits of a byte, placed side by side, are the byte in the upper half. -/
theorem pattern_byteBits (byte : UInt8) :
    pattern crcPlace (byteBits byte) = ⟨byte.toUInt16 <<< 8⟩ := by
  have all : ∀ n < 256, pattern crcPlace (byteBits (UInt8.ofNat n)) =
      ⟨(UInt8.ofNat n).toUInt16 <<< 8⟩ := by
    decide +kernel
  have found := all byte.toNat byte.toNat_lt
  rw [UInt8.ofNat_toNat] at found
  exact found

/-- The outer loop feeds the bits of the byte, most significant bit first. -/
theorem crcByte_eq_feedAll (crc : UInt16) (byte : UInt8) :
    crcRegister.feedAll ⟨crc⟩ (byteBits byte) = ⟨crcByte crc byte⟩ := by
  have placed := crcRegister.syndrome_eq_pattern (byteBits byte) crcPlaces.top
    (fun i bound => crcPlaces.moves i (Nat.lt_trans bound (by decide : 8 < 16)))
  rw [feedAll_eq, placed, pattern_byteBits, ← move_add]
  rfl

theorem foldl_crcByte_eq_feedAll (buf : List UInt8) (crc : UInt16) :
    crcRegister.feedAll ⟨crc⟩ (frameBits buf) = ⟨buf.foldl crcByte crc⟩ := by
  induction buf generalizing crc with
  | nil => rfl
  | cons byte rest inductionHypothesis =>
      show crcRegister.feedAll ⟨crc⟩ (byteBits byte ++ frameBits rest) = _
      rw [feedAll_append, crcByte_eq_feedAll, inductionHypothesis]
      rfl

/-- The CRC of a buffer is what the register makes of its bits. -/
theorem crc16Ccitt_eq_feedAll (buf : List UInt8) :
    crcRegister.feedAll ⟨0xFFFF⟩ (frameBits buf) = ⟨crc16Ccitt buf⟩ :=
  foldl_crcByte_eq_feedAll buf 0xFFFF

/-! ### The CRC over a whole frame -/

theorem repeat_crcBit_low (low : UInt8) :
    Nat.repeat crcBit 8 low.toUInt16 = low.toUInt16 <<< 8 := by
  have all : ∀ n < 256, Nat.repeat crcBit 8 (UInt8.ofNat n).toUInt16 =
      (UInt8.ofNat n).toUInt16 <<< 8 := by
    decide +kernel
  have found := all low.toNat low.toNat_lt
  rw [UInt8.ofNat_toNat] at found
  exact found

/-- Behind its own CRC the register is zero. -/
theorem crc16Ccitt_closed {body : List UInt8} {high low : UInt8}
    (checked : crc16Ccitt body = (high.toUInt16 <<< 8) ||| low.toUInt16) :
    crc16Ccitt (body ++ [high, low]) = 0 := by
  have split : crc16Ccitt (body ++ [high, low]) = crcByte (crcByte (crc16Ccitt body) high) low :=
    List.foldl_append
  have first : crcByte (crc16Ccitt body) high = low.toUInt16 <<< 8 := by
    unfold crcByte
    rw [checked, join16_xor_high, repeat_crcBit_low]
  rw [split, first]
  unfold crcByte
  rw [UInt16.xor_self]
  rfl

theorem crc16Ccitt_of_fecf {buf : List UInt8} (long : tcFrameMinLen ≤ buf.length)
    (checked : obswBe16 buf (buf.length - 2) = some (crc16Ccitt (buf.take (buf.length - 2)))) :
    crc16Ccitt buf = 0 := by
  have enough : 8 ≤ buf.length := long
  obtain ⟨high, highEq, afterHigh⟩ := Option.bind_eq_some_iff.mp checked
  obtain ⟨low, lowEq, joined⟩ := Option.bind_eq_some_iff.mp afterHigh
  have tail : buf.drop (buf.length - 2) = [high, low] := by
    refine List.ext_getElem? (fun i => ?_)
    rw [List.getElem?_drop]
    match i with
    | 0 => exact highEq
    | 1 => exact lowEq
    | i + 2 => exact List.getElem?_eq_none (by omega)
  have whole := List.take_append_drop (buf.length - 2) buf
  rw [tail] at whole
  rw [← whole]
  exact crc16Ccitt_closed (Option.some.inj joined).symm

/-! ### Corruptions -/

/-- The bits in which two buffers differ. -/
def flips (sent received : List UInt8) : List Bool :=
  List.zipWith xor (frameBits sent) (frameBits received)

/-- The flipped bits are confined to 16 consecutive ones, odd in number, or two. -/
inductive Detectable (flipped : List Bool) : Prop
  | burst (before after : Nat) (within : List Bool) (short : within.length ≤ 16)
      (hit : true ∈ within)
      (located : flipped = List.replicate before false ++ within ++ List.replicate after false)
  | odd (number : flipped.count true % 2 = 1)
  | pair (number : flipped.count true = 2)

theorem zipWith_xor_cancel {left right : List Bool} (same : left.length = right.length) :
    List.zipWith xor left (List.zipWith xor left right) = right := by
  induction left generalizing right with
  | nil => exact (List.eq_nil_of_length_eq_zero same.symm).symm
  | cons bit rest inductionHypothesis =>
      cases right with
      | nil => cases same
      | cons other others =>
          rw [List.zipWith_cons_cons, List.zipWith_cons_cons,
            inductionHypothesis (Nat.succ.inj same), ← Bool.xor_assoc, Bool.xor_self,
            Bool.false_xor]

/-- No detectable pattern of at most 8192 bits has the syndrome zero. -/
theorem syndrome_ne_zero {flipped : List Bool} (short : flipped.length ≤ 8192)
    (detectable : Detectable flipped) : crcRegister.syndrome flipped ≠ 0 := by
  cases detectable with
  | burst before after within narrow hit located =>
      rw [located]
      exact syndrome_burst crcRegister_injective crcPlaces narrow hit before after
  | odd number => exact syndrome_odd crcParity_kept (by decide) number
  | pair number =>
      exact syndrome_pair crcRegister_injective CrcValue.add_self crc_aperiodic short number

/-- A corrupted frame has a CRC that differs by the syndrome of the flipped bits. -/
theorem crc16Ccitt_corrupted {sent received : List UInt8} (same : received.length = sent.length) :
    (⟨crc16Ccitt received⟩ : CrcValue) =
      ⟨crc16Ccitt sent⟩ + crcRegister.syndrome (flips sent received) := by
  have lengths : (frameBits sent).length = (frameBits received).length := by
    rw [frameBits_length, frameBits_length, same]
  have flipsLength : (frameBits sent).length = (flips sent received).length := by
    unfold flips
    rw [List.length_zipWith, ← lengths, Nat.min_self]
  have flipped := crcRegister.feedAll_flipped CrcValue.add_self ⟨0xFFFF⟩ flipsLength
  rw [flips, zipWith_xor_cancel lengths, crc16Ccitt_eq_feedAll, crc16Ccitt_eq_feedAll] at flipped
  exact flipped

/-- Every detectable corruption of an accepted frame is refused as a CRC error. -/
theorem corrupted_refused (sent : List UInt8) (frame : TcFrame)
    (accepted : tcFrameDecode sent = some (.ok frame)) (received : List UInt8)
    (same : received.length = sent.length) (detectable : Detectable (flips sent received)) :
    tcFrameDecode received = some (.error .crc) := by
  obtain ⟨long, short, checked⟩ := tcFrameDecode_accepted accepted
  refine tcFrameDecode_crc (same ▸ long) ?_
  intro matched
  have sentZero := crc16Ccitt_of_fecf long checked
  have receivedZero := crc16Ccitt_of_fecf (same ▸ long) matched
  have difference := crc16Ccitt_corrupted same
  rw [sentZero, receivedZero] at difference
  refine syndrome_ne_zero ?_ detectable ?_
  · unfold flips
    rw [List.length_zipWith, frameBits_length, frameBits_length, same, Nat.min_self]
    omega
  · exact (zero_add _).symm.trans difference.symm

/-- The shortest frame: five header bytes, one data byte and the error control field. -/
def shortestFrame : List UInt8 := [0, 0, 0, 7, 0, 0x2A, 0x0E, 0xA8]

/-- One bit in the length field and one in the data. -/
theorem shortestFrame_corrupted :
    tcFrameDecode [0, 0, 0, 6, 0, 0x2B, 0x0E, 0xA8] = some (.error .crc) :=
  corrupted_refused shortestFrame
    ⟨tcFrameHeaderOfBytes 0 0 0 7 0, [0x2A]⟩ (by decide +kernel) _ rfl (.pair (by decide +kernel))

end Openobsw.Ccsds
