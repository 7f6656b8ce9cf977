import Openobsw.Ccsds.Crc16
import Openobsw.Util.Bytes

/-!
Owns the TM transfer frame builder (`tm_frame.c`): primary header, data field with its idle
packet, and frame error control field, all written over what the output buffer holds. An
access outside a buffer is `none`.
-/

namespace Openobsw.Ccsds

open Openobsw.Util

/-- The negative codes of `obsw_tm_frame_err_t` that a build with a configuration and an
output buffer can give. -/
inductive TmFrameErr where
  | null
  | bufSmall
deriving DecidableEq, Repr

/-- `obsw_tm_frame_config_t` -/
structure TmFrameConfig where
  spacecraftId : UInt16
  virtualChannelId : UInt8
  masterChannelFrameCount : UInt8
  virtualChannelFrameCount : UInt8
  enableFecf : UInt8
  frameDataFieldLen : UInt16
deriving DecidableEq, Repr

def tmFramePrimaryHdrLen : Nat := 6

def tmFrameFecfLen : Nat := 2

/-- No packet starts in this frame. -/
def fhpNoPacket : UInt16 := 0x07FF

/-- A packet header starts at offset 0. -/
def fhpStartZero : UInt16 := 0x0000

/-- Stores of consecutive bytes from an offset on. -/
def storeBytes (buf : List UInt8) (offset : Nat) (bytes : List UInt8) : Option (List UInt8) :=
  if offset + bytes.length ≤ buf.length then
    some (buf.take offset ++ (bytes ++ buf.drop (offset + bytes.length)))
  else none

/-- The header of an idle packet of `len` bytes. -/
def idleHeader (len : UInt16) : List UInt8 := [0x07, 0xFF, 0xC0, 0x00] ++ putBe16 (len - 7)

/-- `write_idle_packet` at `buf + offset`. A length below that of any packet leaves the
buffer as it is. -/
def writeIdlePacket (buf : List UInt8) (offset : Nat) (len : UInt16) : Option (List UInt8) :=
  if len < 7 then some buf
  else do
    let buf ← storeBytes buf offset (List.replicate len.toNat 0)
    storeBytes buf offset (idleHeader len)

namespace TmFrameConfig

def fecf (cfg : TmFrameConfig) : Bool := cfg.enableFecf != 0

/-- The size of a frame. -/
def total (cfg : TmFrameConfig) : Nat :=
  tmFramePrimaryHdrLen + cfg.frameDataFieldLen.toNat + if cfg.fecf then tmFrameFecfLen else 0

/-- The six bytes of the primary header. -/
def header (cfg : TmFrameConfig) (payloadLen : UInt16) : List UInt8 :=
  let fhp := if payloadLen > 0 then fhpStartZero else fhpNoPacket
  let dfst := ((3 : UInt16) <<< 11) ||| (fhp &&& 0x07FF)
  [ ((cfg.spacecraftId >>> 4) &&& 0x3F).toUInt8,
    (((cfg.spacecraftId &&& 0x0F) <<< 4) |||
      ((cfg.virtualChannelId &&& 0x07).toUInt16 <<< 1)).toUInt8,
    cfg.masterChannelFrameCount,
    cfg.virtualChannelFrameCount,
    (dfst >>> 8).toUInt8,
    (dfst &&& 0xFF).toUInt8 ]

end TmFrameConfig

/-- `memcpy` of the payload into the data zone. -/
def copyPayload (payload : List UInt8) (len : Nat) (buf : List UInt8) : Option (List UInt8) := do
  let bytes ← sliceBytes payload 0 len
  storeBytes buf tmFramePrimaryHdrLen bytes

/-- The data field part of `obsw_tm_frame_build`. -/
def writeDataField (cfg : TmFrameConfig) (payload : List UInt8) (payloadLen : UInt16)
    (buf : List UInt8) : Option (List UInt8) :=
  let zoneLen := cfg.frameDataFieldLen
  if payloadLen ≥ zoneLen then copyPayload payload zoneLen.toNat buf
  else do
    let buf ← (if payloadLen > 0 then copyPayload payload payloadLen.toNat buf else some buf)
    let fill := zoneLen - payloadLen
    writeIdlePacket buf (tmFramePrimaryHdrLen + payloadLen.toNat) fill

/-- The FECF part of `obsw_tm_frame_build`. -/
def writeFecf (cfg : TmFrameConfig) (buf : List UInt8) : Option (List UInt8) :=
  if cfg.fecf then
    let crc := crc16Ccitt (buf.take (cfg.total - tmFrameFecfLen))
    storeBytes buf (cfg.total - tmFrameFecfLen) (putBe16 crc)
  else some buf

/-- `obsw_tm_frame_build`: the buffer after it and the number of bytes reported. `payload` is
what its pointer may read, or nothing for a null pointer. -/
def tmFrameBuild (cfg : TmFrameConfig) (payload : Option (List UInt8)) (payloadLen : UInt16)
    (buf : List UInt8) : Option (Except TmFrameErr (List UInt8 × Nat)) :=
  if payload.isNone ∧ payloadLen ≠ 0 then return .error .null
  else if buf.length < cfg.total then return .error .bufSmall
  else do
    let buf ← storeBytes buf 0 (cfg.header payloadLen)
    let buf ← writeDataField cfg (payload.getD []) payloadLen buf
    let buf ← writeFecf cfg buf
    return .ok (buf, cfg.total)

/-! ### What is written where -/

theorem storeBytes_append {old new : List UInt8} (same : new.length = old.length)
    (before after : List UInt8) :
    storeBytes (before ++ (old ++ after)) before.length new = some (before ++ (new ++ after)) := by
  have fits : before.length + new.length ≤ (before ++ (old ++ after)).length := by
    rw [List.length_append, List.length_append]
    omega
  unfold storeBytes
  rw [if_pos fits, List.take_left, same, ← List.drop_drop, List.drop_left, List.drop_left]

/-- An idle packet of `len` bytes. -/
def idlePacket (len : UInt16) : List UInt8 := idleHeader len ++ List.replicate (len.toNat - 6) 0

/-- The bytes behind the payload, where `old` was in the buffer. -/
def fillBytes (len : UInt16) (old : List UInt8) : List UInt8 :=
  if len < 7 then old else idlePacket len

theorem seven_le {len : UInt16} (long : ¬ len < 7) : 7 ≤ len.toNat :=
  Nat.le_of_not_lt fun less => long (UInt16.lt_iff_toNat_lt.mpr less)

theorem idlePacket_length {len : UInt16} (long : ¬ len < 7) :
    (idlePacket len).length = len.toNat := by
  have enough := seven_le long
  unfold idlePacket
  rw [List.length_append, List.length_replicate]
  show 6 + (len.toNat - 6) = _
  omega

theorem fillBytes_length {len : UInt16} {old : List UInt8} (sized : old.length = len.toNat) :
    (fillBytes len old).length = len.toNat := by
  unfold fillBytes
  by_cases short : len < 7
  · rw [if_pos short, sized]
  · rw [if_neg short, idlePacket_length short]

theorem writeIdlePacket_append {len : UInt16} {old : List UInt8} (sized : old.length = len.toNat)
    (before after : List UInt8) :
    writeIdlePacket (before ++ (old ++ after)) before.length len =
      some (before ++ (fillBytes len old ++ after)) := by
  unfold writeIdlePacket fillBytes
  by_cases short : len < 7
  · rw [if_pos short, if_pos short]
  · have enough := seven_le short
    have zeros : List.replicate len.toNat (0 : UInt8) =
        List.replicate 6 0 ++ List.replicate (len.toNat - 6) 0 := by
      rw [List.replicate_append_replicate]
      exact congrArg (List.replicate · 0) (by omega)
    have cleared := storeBytes_append
      (show (List.replicate len.toNat 0).length = old.length by rw [List.length_replicate, sized])
      before after
    have headed := storeBytes_append (show (idleHeader len).length = (List.replicate 6 0).length from rfl)
      before (List.replicate (len.toNat - 6) 0 ++ after)
    rw [if_neg short, if_neg short, cleared, Option.bind_eq_bind, Option.bind_some, zeros,
      List.append_assoc, headed]
    unfold idlePacket
    rw [List.append_assoc]

section

variable {cfg : TmFrameConfig} {payload : List UInt8} {payloadLen : UInt16}

theorem sliceBytes_all (payload : List UInt8) :
    sliceBytes payload 0 payload.length = some payload := by
  rw [sliceBytes_eq payload 0 payload.length (by omega), List.drop_zero, List.take_length]

/-- The data field gets the payload and what fills the rest. -/
theorem writeDataField_append (counted : payloadLen.toNat = payload.length)
    (fits : payload.length ≤ cfg.frameDataFieldLen.toNat) {header zone fill : List UInt8}
    (headerSized : header.length = 6) (zoneSized : zone.length = payload.length)
    (fillSized : fill.length = cfg.frameDataFieldLen.toNat - payload.length)
    (after : List UInt8) :
    writeDataField cfg payload payloadLen (header ++ (zone ++ (fill ++ after))) =
      some (header ++ (payload ++ (fillBytes (cfg.frameDataFieldLen - payloadLen) fill ++ after))) := by
  have fillLen : (cfg.frameDataFieldLen - payloadLen).toNat =
      cfg.frameDataFieldLen.toNat - payload.length := by
    rw [← counted]
    exact UInt16.toNat_sub_of_le _ _ (UInt16.le_iff_toNat_le.mpr (by rw [counted]; exact fits))
  have copied : copyPayload payload payload.length (header ++ (zone ++ (fill ++ after))) =
      some (header ++ (payload ++ (fill ++ after))) := by
    have stored := storeBytes_append zoneSized.symm header (fill ++ after)
    rw [headerSized] at stored
    unfold copyPayload
    rw [sliceBytes_all]
    exact stored
  unfold writeDataField
  by_cases whole : payloadLen ≥ cfg.frameDataFieldLen
  · have same : cfg.frameDataFieldLen.toNat = payload.length := by
      have least : cfg.frameDataFieldLen.toNat ≤ payloadLen.toNat := UInt16.le_iff_toNat_le.mp whole
      omega
    have nothing : fill = [] := List.eq_nil_of_length_eq_zero (by omega)
    have unfilled : fillBytes (cfg.frameDataFieldLen - payloadLen) fill = fill := by
      refine if_pos (UInt16.lt_iff_toNat_lt.mpr ?_)
      rw [fillLen, same, Nat.sub_self]
      decide
    rw [if_pos whole, same, copied, unfilled]
  · have idle := writeIdlePacket_append (fillSized.trans fillLen.symm) (header ++ payload) after
    rw [List.length_append, headerSized, List.append_assoc, List.append_assoc] at idle
    have front : (if payloadLen > 0 then
          copyPayload payload payloadLen.toNat (header ++ (zone ++ (fill ++ after)))
        else some (header ++ (zone ++ (fill ++ after)))) =
        some (header ++ (payload ++ (fill ++ after))) := by
      by_cases some : payloadLen > 0
      · rw [if_pos some, counted, copied]
      · have zero : payload.length = 0 := by
          rw [← counted]
          exact Nat.eq_zero_of_not_pos fun positive => some (UInt16.lt_iff_toNat_lt.mpr positive)
        rw [if_neg some, List.eq_nil_of_length_eq_zero zero,
          List.eq_nil_of_length_eq_zero (zoneSized.trans zero)]
    rw [if_neg whole, front, Option.bind_eq_bind, Option.bind_some, counted]
    exact idle

/-- The frame error control field of a frame, when there is one. -/
def fecfBytes (cfg : TmFrameConfig) (body : List UInt8) : List UInt8 :=
  if cfg.fecf then putBe16 (crc16Ccitt body) else []

theorem writeFecf_append {body fecf : List UInt8}
    (bodySized : body.length = 6 + cfg.frameDataFieldLen.toNat)
    (fecfSized : fecf.length = if cfg.fecf then 2 else 0) (after : List UInt8) :
    writeFecf cfg (body ++ (fecf ++ after)) = some (body ++ (fecfBytes cfg body ++ after)) := by
  unfold writeFecf fecfBytes
  cases enabled : cfg.fecf with
  | true =>
      rw [enabled, if_pos rfl] at fecfSized
      have covered : cfg.total - tmFrameFecfLen = body.length := by
        unfold TmFrameConfig.total
        rw [enabled, bodySized]
        rfl
      rw [covered, List.take_left]
      have sized : (putBe16 (crc16Ccitt body)).length = fecf.length := fecfSized.symm
      exact storeBytes_append sized body after
  | false =>
      rw [enabled] at fecfSized
      rw [List.eq_nil_of_length_eq_zero fecfSized]
      rfl

/-- A frame around a payload, where `old` was in the part behind the payload. -/
def frameOf (cfg : TmFrameConfig) (payload : List UInt8) (payloadLen : UInt16)
    (old : List UInt8) : List UInt8 :=
  let body := cfg.header payloadLen ++
    (payload ++ fillBytes (cfg.frameDataFieldLen - payloadLen) old)
  body ++ fecfBytes cfg body

/-- A build for a payload that fits the data field. -/
theorem tmFrameBuild_eq {pointer : Option (List UInt8)} (counted : payloadLen.toNat = payload.length)
    (pointed : pointer.getD [] = payload) (fits : payload.length ≤ cfg.frameDataFieldLen.toNat)
    {header zone fill fecf : List UInt8} (headerSized : header.length = 6)
    (zoneSized : zone.length = payload.length)
    (fillSized : fill.length = cfg.frameDataFieldLen.toNat - payload.length)
    (fecfSized : fecf.length = if cfg.fecf then 2 else 0) (after : List UInt8) :
    tmFrameBuild cfg pointer payloadLen (header ++ (zone ++ (fill ++ (fecf ++ after)))) =
      some (.ok (frameOf cfg payload payloadLen fill ++ after, cfg.total)) := by
  have nonNull : ¬ (pointer.isNone ∧ payloadLen ≠ 0) := by
    intro null
    rw [Option.isNone_iff_eq_none] at null
    rw [null.1] at pointed
    rw [← pointed] at counted
    exact null.2 (UInt16.toNat_inj.mp counted)
  have large : ¬ (header ++ (zone ++ (fill ++ (fecf ++ after)))).length < cfg.total := by
    unfold TmFrameConfig.total tmFramePrimaryHdrLen tmFrameFecfLen
    simp only [List.length_append]
    omega
  have headed := storeBytes_append (show (cfg.header payloadLen).length = header.length from
    headerSized.symm) [] (zone ++ (fill ++ (fecf ++ after)))
  have filled := writeDataField_append counted fits (show (cfg.header payloadLen).length = 6 from rfl)
    zoneSized fillSized (fecf ++ after)
  have remains : (cfg.frameDataFieldLen - payloadLen).toNat = fill.length := by
    rw [fillSized, ← counted]
    exact UInt16.toNat_sub_of_le _ _ (UInt16.le_iff_toNat_le.mpr (by rw [counted]; exact fits))
  have bodySized : (cfg.header payloadLen ++
      (payload ++ fillBytes (cfg.frameDataFieldLen - payloadLen) fill)).length =
        6 + cfg.frameDataFieldLen.toNat := by
    rw [List.length_append, List.length_append, fillBytes_length remains.symm]
    show 6 + _ = _
    omega
  have closed := writeFecf_append bodySized fecfSized after
  rw [List.append_assoc, List.append_assoc] at closed
  unfold tmFrameBuild
  rw [if_neg nonNull, if_neg large, pointed]
  show Option.bind (storeBytes ([] ++ (header ++ _)) ([] : List UInt8).length _) _ = _
  rw [headed, Option.bind_some, List.nil_append]
  show Option.bind _ _ = _
  rw [filled, Option.bind_some]
  show Option.bind _ _ = _
  rw [closed, Option.bind_some]
  unfold frameOf
  simp only [List.append_assoc]
  rfl

end

end Openobsw.Ccsds
