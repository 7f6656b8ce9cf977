import Openobsw.Util.Bytes

/-!
Owns the ground side of the TM downlink (`tools/ping_uart.py`): the decoder that picks TM
packets out of the bytes received, whatever stands between them.
-/

namespace Openobsw.Tools

open Openobsw.Lib.Words Openobsw.Util

/-- What `decode_tm_packets` appends to its results for a packet. -/
def tmResult (pkt : List UInt8) : List (UInt8 × UInt8 × List UInt8) :=
  if long : pkt.length ≥ 9 then [(pkt[7], pkt[8], pkt.drop 9)] else []

/-- `decode_tm_packets` on the bytes from `data[i]` on. -/
def decodeTmPackets : List UInt8 → List (UInt8 × UInt8 × List UInt8)
  | [] => []
  | b :: rest =>
      if b = 0xFF then decodeTmPackets rest
      else if b ≠ 0x04 then decodeTmPackets rest
      else
        match rest with
        | high :: low :: body =>
            let length := high.toNat * 256 + low.toNat
            if length > body.length then []
            else tmResult (body.take length) ++ decodeTmPackets (body.drop length)
        | _ => []
termination_by data => data.length
decreasing_by
  · exact Nat.lt_succ_self _
  · exact Nat.lt_succ_self _
  · rw [List.length_drop, List.length_cons, List.length_cons, List.length_cons]
    omega

@[simp] theorem decodeTmPackets_nil : decodeTmPackets [] = [] := by
  unfold decodeTmPackets
  rfl

/-- Every byte but the mark of a packet is skipped. -/
theorem decodeTmPackets_skip {b : UInt8} (other : b ≠ 0x04) (rest : List UInt8) :
    decodeTmPackets (b :: rest) = decodeTmPackets rest := by
  conv => lhs; unfold decodeTmPackets
  by_cases tick : b = 0xFF
  · rw [if_pos tick]
  · rw [if_neg tick, if_pos other]

theorem decodeTmPackets_skips {bytes : List UInt8} (others : ∀ b ∈ bytes, b ≠ 0x04)
    (rest : List UInt8) : decodeTmPackets (bytes ++ rest) = decodeTmPackets rest := by
  induction bytes with
  | nil => rfl
  | cons b bytes inductionHypothesis =>
      rw [List.cons_append, decodeTmPackets_skip (others b List.mem_cons_self),
        inductionHypothesis (fun other member => others other (List.mem_cons_of_mem b member))]

theorem decodeTmPackets_mark (high low : UInt8) (body : List UInt8) :
    decodeTmPackets (0x04 :: high :: low :: body) =
      if high.toNat * 256 + low.toNat > body.length then []
      else tmResult (body.take (high.toNat * 256 + low.toNat)) ++
        decodeTmPackets (body.drop (high.toNat * 256 + low.toNat)) := by
  rw [decodeTmPackets, if_neg (by decide), if_neg (by decide)]

/-- A marked packet is read as a whole. -/
theorem decodeTmPackets_packet {len : UInt16} {pkt : List UInt8} (counted : len.toNat = pkt.length)
    (rest : List UInt8) :
    decodeTmPackets (0x04 :: (putBe16 len ++ (pkt ++ rest))) =
      tmResult pkt ++ decodeTmPackets rest := by
  have length := (putBe16_toNat len).trans counted
  have enough : ¬ pkt.length > (pkt ++ rest).length := by
    rw [List.length_append]
    omega
  show decodeTmPackets (0x04 :: (len >>> 8).toUInt8 :: (len &&& 0xFF).toUInt8 :: (pkt ++ rest)) = _
  rw [decodeTmPackets_mark, length, if_neg enough, List.take_left, List.drop_left]

/-- Nothing is made of a marked packet before its last byte. -/
theorem decodeTmPackets_cut {len : UInt16} {pkt front : List UInt8}
    (counted : len.toNat = pkt.length) (isPrefix : front <+: 0x04 :: (putBe16 len ++ pkt))
    (incomplete : front ≠ 0x04 :: (putBe16 len ++ pkt)) : decodeTmPackets front = [] := by
  have length := (putBe16_toNat len).trans counted
  match front, isPrefix, incomplete with
  | [], _, _ => exact decodeTmPackets_nil
  | [mark], isPrefix, _ =>
      obtain ⟨rfl, _⟩ := List.cons_prefix_cons.mp isPrefix
      unfold decodeTmPackets
      rw [if_neg (by decide), if_neg (by decide)]
  | [mark, high], isPrefix, _ =>
      obtain ⟨rfl, _⟩ := List.cons_prefix_cons.mp isPrefix
      unfold decodeTmPackets
      rw [if_neg (by decide), if_neg (by decide)]
  | mark :: high :: low :: body, isPrefix, incomplete =>
      obtain ⟨rfl, afterMark⟩ := List.cons_prefix_cons.mp isPrefix
      obtain ⟨rfl, afterHigh⟩ := List.cons_prefix_cons.mp afterMark
      obtain ⟨rfl, within⟩ := List.cons_prefix_cons.mp afterHigh
      have shorter : body.length < pkt.length := by
        refine Nat.lt_of_le_of_ne within.length_le ?_
        intro same
        exact incomplete (congrArg (fun body => 0x04 :: _ :: _ :: body) (within.eq_of_length same))
      rw [decodeTmPackets_mark, length, if_pos shorter]

/-! ### What the tool sends -/

namespace PingUart

/-- `TC_PING` -/
def tcPing : List UInt8 :=
  [0x18, 0x01, 0xC0, 0x00, 0x00, 0x04, 0x11, 0x11, 0x01, 0x00, 0x00]

/-- `frame_tc` -/
def frameTc (packet : List UInt8) : List UInt8 :=
  0x01 :: (putBe16 (UInt16.ofNat packet.length) ++ packet)

/-- `bytes(519)`, which `run` writes first. -/
def flush : List UInt8 := List.replicate 519 0x00

/-- The pings that `run` writes after that. -/
def pings (count : Nat) : List UInt8 := (List.replicate count (frameTc tcPing)).flatten

end PingUart

end Openobsw.Tools
