import Openobsw.Ccsds.Crc16
import Openobsw.Util.Bytes

/-!
Owns the TC transfer frame decoder (`obsw_tc_frame_decode` of `tc_frame.c`): the
length check, the frame error control field, the primary header and the slice of
the data field. Reading a byte outside the buffer is `none`.
-/

namespace Openobsw.Ccsds

open Openobsw.Lib.Words Openobsw.Util

/-- The negative codes of `obsw_tc_frame_err_t` that a decode of a buffer can give. -/
inductive TcFrameErr where
  | tooShort
  | crc
deriving DecidableEq, Repr

/-- `obsw_tc_frame_header_t` -/
structure TcFrameHeader where
  version : UInt8
  bypassFlag : UInt8
  ctrlCmdFlag : UInt8
  spacecraftId : UInt16
  virtualChannelId : UInt8
  frameLen : UInt16
  frameSeqNum : UInt8
deriving DecidableEq, Repr

/-- `obsw_tc_frame_t`. `data` is the slice of `data_len` bytes. -/
structure TcFrame where
  header : TcFrameHeader
  data : List UInt8
deriving DecidableEq, Repr

def tcFramePrimaryHdrLen : Nat := 5

def tcFrameCrcLen : Nat := 2

def tcFrameMinLen : Nat := tcFramePrimaryHdrLen + tcFrameCrcLen + 1

/-- The primary header held by the first five bytes. -/
def tcFrameHeaderOfBytes (b0 b1 b2 b3 b4 : UInt8) : TcFrameHeader where
  version := (b0 >>> 6) &&& 0x03
  bypassFlag := (b0 >>> 5) &&& 0x01
  ctrlCmdFlag := (b0 >>> 4) &&& 0x01
  spacecraftId := ((b0 &&& 0x03).toUInt16 <<< 8) ||| b1.toUInt16
  virtualChannelId := (b2 >>> 2) &&& 0x3F
  frameLen := ((b2 &&& 0x03).toUInt16 <<< 8) ||| b3.toUInt16
  frameSeqNum := b4

/-- `obsw_tc_frame_decode`. The sum `frame_len + 1U` is taken in more than 16 bits. -/
def tcFrameDecode (buf : List UInt8) : Option (Except TcFrameErr TcFrame) :=
  if buf.length < tcFrameMinLen then return .error .tooShort
  else do
    let computed := crc16Ccitt (buf.take (buf.length - 2))
    let received ← obswBe16 buf (buf.length - 2)
    if computed ≠ received then return .error .crc
    else do
      let b0 ← buf[0]?
      let b1 ← buf[1]?
      let b2 ← buf[2]?
      let b3 ← buf[3]?
      let b4 ← buf[4]?
      let header := tcFrameHeaderOfBytes b0 b1 b2 b3 b4
      if header.frameLen.toNat + 1 ≠ buf.length then return .error .tooShort
      else
        let dataLen := (buf.length - tcFramePrimaryHdrLen - tcFrameCrcLen) % 65536
        return .ok {
          header := header
          data := (buf.drop tcFramePrimaryHdrLen).take dataLen }

/-- A buffer of sufficient length whose last two bytes are not its CRC is refused for that. -/
theorem tcFrameDecode_crc {buf : List UInt8} (long : tcFrameMinLen ≤ buf.length)
    (differs : obswBe16 buf (buf.length - 2) ≠ some (crc16Ccitt (buf.take (buf.length - 2)))) :
    tcFrameDecode buf = some (.error .crc) := by
  have enough : 8 ≤ buf.length := long
  obtain ⟨received, receivedEq⟩ := obswBe16_isSome buf (buf.length - 2) (by omega)
  have other : crc16Ccitt (buf.take (buf.length - 2)) ≠ received := by
    intro same
    rw [receivedEq, same] at differs
    exact differs rfl
  unfold tcFrameDecode
  rw [if_neg (Nat.not_lt_of_le long), receivedEq]
  exact if_pos other

theorem tcFrameHeaderOfBytes_frameLen (b0 b1 b2 b3 b4 : UInt8) :
    (tcFrameHeaderOfBytes b0 b1 b2 b3 b4).frameLen.toNat = b2.toNat % 4 * 256 + b3.toNat := by
  show (((b2 &&& 0x03).toUInt16 <<< 8) ||| b3.toUInt16).toNat = _
  rw [toNat_join16, toNat_and8 2 rfl]
  rfl

/-- An accepted frame is as long as its header says, at most 1024 bytes, and its last two bytes
are the CRC of those before. -/
theorem tcFrameDecode_accepted {buf : List UInt8} {frame : TcFrame}
    (accepted : tcFrameDecode buf = some (.ok frame)) :
    tcFrameMinLen ≤ buf.length ∧ buf.length ≤ 1024 ∧
      obswBe16 buf (buf.length - 2) = some (crc16Ccitt (buf.take (buf.length - 2))) := by
  unfold tcFrameDecode at accepted
  by_cases short : buf.length < tcFrameMinLen
  · rw [if_pos short] at accepted
    cases accepted
  rw [if_neg short] at accepted
  obtain ⟨received, receivedEq, afterCrc⟩ := Option.bind_eq_some_iff.mp accepted
  by_cases differs : crc16Ccitt (buf.take (buf.length - 2)) ≠ received
  · rw [if_pos differs] at afterCrc
    cases afterCrc
  rw [if_neg differs] at afterCrc
  obtain ⟨b0, _, afterB0⟩ := Option.bind_eq_some_iff.mp afterCrc
  obtain ⟨b1, _, afterB1⟩ := Option.bind_eq_some_iff.mp afterB0
  obtain ⟨b2, _, afterB2⟩ := Option.bind_eq_some_iff.mp afterB1
  obtain ⟨b3, _, afterB3⟩ := Option.bind_eq_some_iff.mp afterB2
  obtain ⟨b4, _, afterB4⟩ := Option.bind_eq_some_iff.mp afterB3
  by_cases other : (tcFrameHeaderOfBytes b0 b1 b2 b3 b4).frameLen.toNat + 1 ≠ buf.length
  · rw [if_pos other] at afterB4
    cases afterB4
  have announced := Decidable.of_not_not other
  have longest := tcFrameHeaderOfBytes_frameLen b0 b1 b2 b3 b4
  have lowFits := b3.toNat_lt
  refine ⟨Nat.le_of_not_lt short, by omega, ?_⟩
  rw [receivedEq, Decidable.of_not_not differs]

end Openobsw.Ccsds
