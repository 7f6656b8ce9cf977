import Openobsw.Util.Bytes

/-!
Owns the ping test of the MSP430 build under Renode (`renode/test_ping.py`): the telecommand that
it sends, and how it judges what it receives.
-/

namespace Openobsw.Tools.RenodePing

open Openobsw.Util

/-- `frame` -/
def sentFrame : List UInt8 :=
  [0x18, 0x10, 0xC0, 0x00, 0x00, 0x04, 0x20, 0x11, 0x01, 0x00, 0x00]

/-- `struct.pack(">H", len(frame)) + frame` -/
def framed (frame : List UInt8) : List UInt8 := putBe16 (UInt16.ofNat frame.length) ++ frame

/-- `packet` -/
def pingPacket : List UInt8 := framed sentFrame

/-- What the body of the loop prints of a packet: its service and subservice. -/
def label (pkt : List UInt8) : List (UInt8 × UInt8) :=
  match pkt[7]?, pkt[8]? with
  | some svc, some subsvc => [(svc, subsvc)]
  | _, _ => []

/-- `parse_packets` on the bytes from `raw[offset]` on: the packets that it prints and counts. -/
def parsePackets : List UInt8 → List (UInt8 × UInt8)
  | high :: low :: body =>
      let length := high.toNat * 256 + low.toNat
      if length = 0 ∨ length > 256 then parsePackets (low :: body)
      else if length > body.length then []
      else label (body.take length) ++ parsePackets (body.drop length)
  | _ => []
termination_by raw => raw.length
decreasing_by
  · exact Nat.lt_succ_self _
  · rw [List.length_drop, List.length_cons, List.length_cons]
    omega

inductive Verdict where
  | success
  | other (count : Nat)
  | noResponse
deriving DecidableEq, Repr

/-- What `main` prints of the bytes received. -/
def verdict (raw : List UInt8) : Verdict :=
  if raw = [] then .noResponse
  else
    let count := (parsePackets raw).length
    if count = 3 then .success else .other count

/-! ### Streams of packets -/

theorem parsePackets_short {raw : List UInt8} (short : raw.length < 2) : parsePackets raw = [] := by
  unfold parsePackets
  split
  · rw [List.length_cons, List.length_cons] at short
    omega
  · rfl

/-- A byte that begins no length is skipped. -/
theorem parsePackets_skip {high : UInt8} (large : 1 < high.toNat) (rest : List UInt8) :
    parsePackets (high :: rest) = parsePackets rest := by
  cases rest with
  | nil => rw [parsePackets_short (by simp), parsePackets_short (by simp)]
  | cons low body =>
      conv => lhs; unfold parsePackets
      exact if_pos (.inr (by omega))

/-- A packet behind its length is printed as a whole. -/
theorem parsePackets_packet {pkt : List UInt8} (nonempty : pkt ≠ []) (short : pkt.length ≤ 256)
    (rest : List UInt8) :
    parsePackets ([UInt8.ofNat (pkt.length / 256), UInt8.ofNat pkt.length] ++ pkt ++ rest) =
      label pkt ++ parsePackets rest := by
  have positive := List.length_pos_iff.mpr nonempty
  have length : (UInt8.ofNat (pkt.length / 256)).toNat * 256 + (UInt8.ofNat pkt.length).toNat =
      pkt.length := by
    simp only [UInt8.toNat_ofNat']
    omega
  conv => lhs; unfold parsePackets
  simp only [List.cons_append, List.nil_append, length]
  rw [if_neg (by omega), if_neg (by rw [List.length_append]; omega), List.take_left,
    List.drop_left]

end Openobsw.Tools.RenodePing
