import Openobsw.Ccsds.SpacePacket
import Openobsw.Ccsds.TmFrame
import Openobsw.Lib.Framing
import Openobsw.Properties.FrameErrors

/-!
Owns the data zone of TM frames: what a receiver extracts from it by the packets' own length
fields, and when the frame is a function of configuration and payload alone. A rest of one to
six bytes is too short for an idle packet and keeps what was in the output buffer.
-/

namespace Openobsw.Ccsds

open Openobsw.Lib.Framing Openobsw.Lib.Words Openobsw.Util

/-! ### Packets in a data zone -/

/-- The length that a packet's own header gives it. -/
def packetLength (zone : List UInt8) : Option Nat := (obswBe16 zone 4).map spTotalLen

theorem seven_le_packetLength {zone : List UInt8} {len : Nat}
    (announced : packetLength zone = some len) : 7 ≤ len := by
  obtain ⟨dataLen, _, rfl⟩ := Option.map_eq_some_iff.mp announced
  unfold spTotalLen spPrimaryHeaderLen
  omega

/-- What follows a header does not change its length. -/
theorem packetLength_append {zone : List UInt8} {len : Nat}
    (announced : packetLength zone = some len) (rest : List UInt8) :
    packetLength (zone ++ rest) = some len := by
  obtain ⟨dataLen, read, counted⟩ := Option.map_eq_some_iff.mp announced
  obtain ⟨p0, p0Eq, afterP0⟩ := Option.bind_eq_some_iff.mp read
  obtain ⟨p1, p1Eq, joined⟩ := Option.bind_eq_some_iff.mp afterP0
  have inside : 5 < zone.length := (List.getElem?_eq_some_iff.mp p1Eq).1
  have same : obswBe16 (zone ++ rest) 4 = some dataLen := by
    unfold obswBe16
    rw [List.getElem?_append_left (by omega), List.getElem?_append_left (by omega)]
    exact read
  unfold packetLength
  rw [same]
  exact congrArg some counted

/-- The packets that a receiver extracts from offset 0 on. -/
def extractPackets (zone : List UInt8) : List (List UInt8) :=
  match _announced : packetLength zone with
  | none => []
  | some len =>
      if len ≤ zone.length then zone.take len :: extractPackets (zone.drop len) else []
termination_by zone.length
decreasing_by
  have some := seven_le_packetLength _announced
  rw [List.length_drop]
  omega

/-- A space packet as long as its own header says. -/
structure CompletePacket where
  bytes : List UInt8
  complete : packetLength bytes = some bytes.length

namespace CompletePacket

/-- The packet has the APID of idle packets. -/
def IsIdle (pkt : CompletePacket) : Prop :=
  ∃ hdr, spDecodePrimary pkt.bytes = some (.ok hdr) ∧ hdr.apid = 0x7FF

end CompletePacket

theorem extractPackets_eq {zone : List UInt8} {len : Nat} (announced : packetLength zone = some len) :
    extractPackets zone =
      if len ≤ zone.length then zone.take len :: extractPackets (zone.drop len) else [] := by
  conv => lhs; unfold extractPackets
  split
  · rename_i none
    rw [announced] at none
    cases none
  · rename_i other same
    rw [announced] at same
    cases same
    rfl

theorem extractPackets_none {zone : List UInt8} (none : packetLength zone = none) :
    extractPackets zone = [] := by
  unfold extractPackets
  split
  · rfl
  · rename_i same
    rw [none] at same
    cases same

/-- The receiver reads complete packets one after the other. -/
theorem packets_framed :
    Framed extractPackets CompletePacket.bytes (fun pkt => [pkt.bytes]) where
  nothing := extractPackets_none rfl
  whole := by
    intro pkt rest
    have enough : pkt.bytes.length ≤ (pkt.bytes ++ rest).length := by
      rw [List.length_append]
      omega
    rw [extractPackets_eq (packetLength_append pkt.complete rest), if_pos enough, List.take_left,
      List.drop_left]
    rfl
  cut := by
    intro pkt front isPrefix
    obtain ⟨rest, whole⟩ := isPrefix
    cases announced : packetLength front with
    | none =>
        rw [extractPackets_none announced]
        exact List.nil_prefix
    | some len =>
        have same := packetLength_append announced rest
        rw [whole, pkt.complete] at same
        rw [extractPackets_eq announced, ← Option.some.inj same]
        by_cases all : pkt.bytes.length ≤ front.length
        · have nothing : rest = [] := by
            rw [← whole, List.length_append] at all
            exact List.eq_nil_of_length_eq_zero (by omega)
          rw [nothing, List.append_nil] at whole
          rw [if_pos all, whole, List.take_length, List.drop_length, extractPackets_none rfl]
        · rw [if_neg all]
          exact List.nil_prefix

/-! ### The idle packet -/

theorem idlePacket_complete {len : UInt16} (long : ¬ len < 7) :
    packetLength (idlePacket len) = some (idlePacket len).length := by
  have enough := seven_le long
  have read : obswBe16 (idlePacket len) 4 = some (len - 7) :=
    obswBe16_putBe16 [0x07, 0xFF, 0xC0, 0x00] (len - 7) (List.replicate (len.toNat - 6) 0)
  have dataLen : (len - 7).toNat = len.toNat - 7 :=
    UInt16.toNat_sub_of_le len 7 (UInt16.le_iff_toNat_le.mpr enough)
  unfold packetLength
  rw [read, idlePacket_length long]
  unfold spTotalLen spPrimaryHeaderLen
  rw [Option.map_some, dataLen]
  exact congrArg some (by omega)

/-- The packet that fills a rest of seven bytes or more. -/
def idleOf (len : UInt16) (long : ¬ len < 7) : CompletePacket where
  bytes := idlePacket len
  complete := idlePacket_complete long

theorem idleOf_isIdle (len : UInt16) (long : ¬ len < 7) : (idleOf len long).IsIdle :=
  ⟨primaryHdrOfBytes 0x07 0xFF 0xC0 0x00 _ _, rfl, rfl⟩

/-! ### Frames -/

/-- The payload made of packets. -/
def payloadOf (packets : List CompletePacket) : List UInt8 := packets.flatMap CompletePacket.bytes

def dataZone (cfg : TmFrameConfig) (frame : List UInt8) : List UInt8 :=
  (frame.drop tmFramePrimaryHdrLen).take cfg.frameDataFieldLen.toNat

/-- Every build for the packets makes this frame and leaves the rest of the buffer alone; a
receiver finds the packets in its data zone, and after them at most an idle one. -/
structure BuildsFrame (cfg : TmFrameConfig) (pointer : Option (List UInt8))
    (packets : List CompletePacket) (frame : List UInt8) (idle : List CompletePacket) : Prop where
  sized : frame.length = cfg.total
  built : ∀ buf, cfg.total ≤ buf.length →
    tmFrameBuild cfg pointer (UInt16.ofNat (payloadOf packets).length) buf =
      some (.ok (frame ++ buf.drop cfg.total, cfg.total))
  atMostOne : idle.length ≤ 1
  isIdle : ∀ pkt ∈ idle, pkt.IsIdle
  extracted : extractPackets (dataZone cfg frame) = (packets ++ idle).map CompletePacket.bytes
  covered : dataZone cfg frame = payloadOf (packets ++ idle)
  closed : cfg.fecf = true → crc16Ccitt frame = 0

section

variable {cfg : TmFrameConfig} {pointer : Option (List UInt8)} {packets : List CompletePacket}

/-- The bytes of the data zone that the payload leaves. -/
def restOf (cfg : TmFrameConfig) (packets : List CompletePacket) : Nat :=
  cfg.frameDataFieldLen.toNat - (payloadOf packets).length

/-- What a build finds in the buffer behind the payload. -/
def staleOf (cfg : TmFrameConfig) (packets : List CompletePacket) (buf : List UInt8) : List UInt8 :=
  (buf.drop (6 + (payloadOf packets).length)).take (restOf cfg packets)

def builtOf (cfg : TmFrameConfig) (packets : List CompletePacket) (old : List UInt8) : List UInt8 :=
  frameOf cfg (payloadOf packets) (UInt16.ofNat (payloadOf packets).length) old

/-- The rest, in the width of the builder's own variable. -/
def fillLen (cfg : TmFrameConfig) (packets : List CompletePacket) : UInt16 :=
  cfg.frameDataFieldLen - UInt16.ofNat (payloadOf packets).length

section

variable (fits : (payloadOf packets).length ≤ cfg.frameDataFieldLen.toNat)

include fits

theorem payloadLen_counted :
    (UInt16.ofNat (payloadOf packets).length).toNat = (payloadOf packets).length := by
  have zoneFits := cfg.frameDataFieldLen.toNat_lt
  exact Nat.mod_eq_of_lt (by omega)

theorem fillLen_toNat : (fillLen cfg packets).toNat = restOf cfg packets := by
  have counted := payloadLen_counted fits
  unfold fillLen restOf
  rw [UInt16.toNat_sub_of_le _ _ (UInt16.le_iff_toNat_le.mpr (by rw [counted]; exact fits)), counted]

theorem total_eq : cfg.total = 6 + (payloadOf packets).length + restOf cfg packets +
    if cfg.fecf then 2 else 0 := by
  unfold TmFrameConfig.total tmFramePrimaryHdrLen tmFrameFecfLen restOf
  omega

theorem staleOf_length {buf : List UInt8} (large : cfg.total ≤ buf.length) :
    (staleOf cfg packets buf).length = restOf cfg packets := by
  have total := total_eq fits
  unfold staleOf
  rw [List.length_take, List.length_drop]
  omega

end

theorem drop_split (buf : List UInt8) (offset count : Nat) :
    buf.drop offset = (buf.drop offset).take count ++ buf.drop (offset + count) := by
  rw [← List.drop_drop, List.take_append_drop]

/-- A build is a frame over what it finds behind the payload. -/
theorem tmFrameBuild_builtOf (pointed : pointer.getD [] = payloadOf packets)
    (fits : (payloadOf packets).length ≤ cfg.frameDataFieldLen.toNat) {buf : List UInt8}
    (large : cfg.total ≤ buf.length) :
    tmFrameBuild cfg pointer (UInt16.ofNat (payloadOf packets).length) buf =
      some (.ok (builtOf cfg packets (staleOf cfg packets buf) ++ buf.drop cfg.total, cfg.total)) := by
  have total := total_eq fits
  have headerPart := drop_split buf 0 6
  have zonePart := drop_split buf 6 (payloadOf packets).length
  have fillPart := drop_split buf (6 + (payloadOf packets).length) (restOf cfg packets)
  have fecfPart := drop_split buf (6 + (payloadOf packets).length + restOf cfg packets)
    (if cfg.fecf then 2 else 0)
  rw [← total] at fecfPart
  have headerSized : ((buf.drop 0).take 6).length = 6 := by
    rw [List.length_take, List.length_drop]
    omega
  have zoneSized : ((buf.drop 6).take (payloadOf packets).length).length =
      (payloadOf packets).length := by
    rw [List.length_take, List.length_drop]
    omega
  have fecfSized : ((buf.drop (6 + (payloadOf packets).length + restOf cfg packets)).take
      (if cfg.fecf then 2 else 0)).length = if cfg.fecf then 2 else 0 := by
    rw [List.length_take, List.length_drop]
    omega
  have build := tmFrameBuild_eq (payloadLen_counted fits) pointed fits headerSized zoneSized
    (staleOf_length fits large) fecfSized (buf.drop cfg.total)
  unfold staleOf at build
  rw [← fecfPart, ← fillPart, ← zonePart, ← headerPart] at build
  exact build

/-! ### What is in a frame -/

section

variable (fits : (payloadOf packets).length ≤ cfg.frameDataFieldLen.toNat) {old : List UInt8}
  (sized : old.length = restOf cfg packets)

include fits sized

theorem filled_length :
    (payloadOf packets ++ fillBytes (fillLen cfg packets) old).length =
      cfg.frameDataFieldLen.toNat := by
  rw [List.length_append, fillBytes_length (sized.trans (fillLen_toNat fits).symm),
    fillLen_toNat fits]
  unfold restOf
  omega

theorem builtOf_length : (builtOf cfg packets old).length = cfg.total := by
  have filled := filled_length fits sized
  unfold builtOf frameOf fecfBytes TmFrameConfig.total tmFramePrimaryHdrLen tmFrameFecfLen
  show (_ ++ (_ ++ fillBytes (fillLen cfg packets) old) ++ _).length = _
  rw [List.length_append, List.length_append, filled]
  cases cfg.fecf <;> rfl

theorem dataZone_builtOf :
    dataZone cfg (builtOf cfg packets old) =
      payloadOf packets ++ fillBytes (fillLen cfg packets) old := by
  have filled := filled_length fits sized
  have headerSized : (cfg.header (UInt16.ofNat (payloadOf packets).length)).length =
      tmFramePrimaryHdrLen := rfl
  unfold dataZone builtOf frameOf
  rw [← filled, List.append_assoc, List.drop_left' headerSized]
  exact List.take_left

end

theorem builtOf_closed (enabled : cfg.fecf = true) (old : List UInt8) :
    crc16Ccitt (builtOf cfg packets old) = 0 := by
  unfold builtOf frameOf fecfBytes
  rw [enabled]
  exact crc16Ccitt_closed (join16_putBe16 _).symm

/-! ### Frames that do not depend on the buffer -/

/-- What is behind the payload when the rest is empty or long enough for a packet. -/
theorem exists_idle (fits : (payloadOf packets).length ≤ cfg.frameDataFieldLen.toNat)
    (regular : restOf cfg packets = 0 ∨ 7 ≤ restOf cfg packets) :
    ∃ idle : List CompletePacket, idle.length ≤ 1 ∧ (∀ pkt ∈ idle, pkt.IsIdle) ∧
      ∀ old : List UInt8, old.length = restOf cfg packets →
        fillBytes (fillLen cfg packets) old = payloadOf idle := by
  have counted := fillLen_toNat fits
  unfold fillBytes
  rcases regular with none | long
  · refine ⟨[], Nat.zero_le 1, fun pkt member => absurd member List.not_mem_nil, ?_⟩
    intro old sized
    rw [none] at sized counted
    rw [if_pos (UInt16.lt_iff_toNat_lt.mpr (by rw [counted]; decide))]
    exact List.eq_nil_of_length_eq_zero sized
  · have enough : ¬ fillLen cfg packets < 7 := by
      rw [UInt16.lt_iff_toNat_lt, counted]
      exact Nat.not_lt.mpr long
    refine ⟨[idleOf _ enough], Nat.le_refl 1, ?_, ?_⟩
    · intro pkt member
      rw [List.mem_singleton.mp member]
      exact idleOf_isIdle _ enough
    · intro old _
      rw [if_neg enough]
      exact (List.append_nil _).symm

theorem buildsFrame (pointed : pointer.getD [] = payloadOf packets)
    (fits : (payloadOf packets).length ≤ cfg.frameDataFieldLen.toNat)
    (regular : restOf cfg packets = 0 ∨ 7 ≤ restOf cfg packets) :
    ∃ frame idle, BuildsFrame cfg pointer packets frame idle := by
  obtain ⟨idle, atMostOne, isIdle, filled⟩ := exists_idle fits regular
  have zeros : (List.replicate (restOf cfg packets) (0 : UInt8)).length = restOf cfg packets :=
    List.length_replicate
  have zone : dataZone cfg (builtOf cfg packets (List.replicate (restOf cfg packets) 0)) =
      payloadOf (packets ++ idle) := by
    rw [dataZone_builtOf fits zeros, filled _ zeros]
    exact List.flatMap_append.symm
  refine ⟨builtOf cfg packets (List.replicate (restOf cfg packets) 0), idle, ?_⟩
  constructor
  · exact builtOf_length fits zeros
  · intro buf large
    have same : builtOf cfg packets (staleOf cfg packets buf) =
        builtOf cfg packets (List.replicate (restOf cfg packets) 0) := by
      have stale : fillBytes (cfg.frameDataFieldLen - UInt16.ofNat (payloadOf packets).length)
          (staleOf cfg packets buf) = payloadOf idle := filled _ (staleOf_length fits large)
      have zeroed : fillBytes (cfg.frameDataFieldLen - UInt16.ofNat (payloadOf packets).length)
          (List.replicate (restOf cfg packets) 0) = payloadOf idle := filled _ zeros
      unfold builtOf frameOf
      rw [stale, zeroed]
    rw [tmFrameBuild_builtOf pointed fits large, same]
  · exact atMostOne
  · exact isIdle
  · rw [zone]
    exact (packets_framed.decode_stream (packets ++ idle)).trans List.map_eq_flatMap.symm
  · exact zone
  · intro enabled
    exact builtOf_closed enabled _

/-- Different bytes in a rest too short for a packet make different frames. -/
theorem builtOf_injective (fits : (payloadOf packets).length ≤ cfg.frameDataFieldLen.toNat)
    (short : restOf cfg packets < 7) {first second : List UInt8}
    (firstSized : first.length = restOf cfg packets) (secondSized : second.length = restOf cfg packets)
    (same : builtOf cfg packets first = builtOf cfg packets second) : first = second := by
  have kept (old : List UInt8) : fillBytes (fillLen cfg packets) old = old :=
    if_pos (UInt16.lt_iff_toNat_lt.mpr (by rw [fillLen_toNat fits]; exact short))
  have zones := congrArg (dataZone cfg) same
  rw [dataZone_builtOf fits firstSized, dataZone_builtOf fits secondSized, kept, kept] at zones
  exact List.append_cancel_left zones

theorem staleOf_replicate (fits : (payloadOf packets).length ≤ cfg.frameDataFieldLen.toNat)
    (byte : UInt8) :
    staleOf cfg packets (List.replicate cfg.total byte) =
      List.replicate (restOf cfg packets) byte := by
  have total := total_eq fits
  unfold staleOf
  rw [List.drop_replicate, List.take_replicate]
  exact congrArg (List.replicate · byte) (by omega)

/-- A builder whose frame does not depend on the buffer leaves no rest that is too short. -/
theorem rest_of_buildsFrame (pointed : pointer.getD [] = payloadOf packets)
    (fits : (payloadOf packets).length ≤ cfg.frameDataFieldLen.toNat)
    {frame : List UInt8} {idle : List CompletePacket}
    (builds : BuildsFrame cfg pointer packets frame idle) :
    restOf cfg packets = 0 ∨ 7 ≤ restOf cfg packets := by
  by_contra irregular
  have short : restOf cfg packets < 7 := by omega
  have some : 0 < restOf cfg packets := by omega
  -- Two buffers that differ in every byte.
  have frameOver (byte : UInt8) : frame = builtOf cfg packets
      (staleOf cfg packets (List.replicate cfg.total byte)) := by
    have large : cfg.total ≤ (List.replicate cfg.total byte).length := by
      rw [List.length_replicate]
    have build := tmFrameBuild_builtOf pointed fits large
    rw [builds.built _ large] at build
    have buffers := congrArg Prod.fst (Except.ok.inj (Option.some.inj build))
    exact List.append_cancel_right buffers
  have same := builtOf_injective fits short (staleOf_length fits List.length_replicate.ge)
    (staleOf_length fits List.length_replicate.ge) ((frameOver 0).symm.trans (frameOver 1))
  rw [staleOf_replicate fits, staleOf_replicate fits, List.replicate_inj] at same
  rcases same.2 with none | equal
  · omega
  · exact absurd equal (by decide)

end

/-- The builder makes one frame of the packets, whatever the buffer held, exactly when they
leave no rest of the data zone or one of at least seven bytes. -/
theorem tmFrame_fill_iff (cfg : TmFrameConfig) {pointer : Option (List UInt8)}
    {packets : List CompletePacket} (pointed : pointer.getD [] = payloadOf packets)
    (fits : (payloadOf packets).length ≤ cfg.frameDataFieldLen.toNat) :
    (∃ frame idle, BuildsFrame cfg pointer packets frame idle) ↔
      restOf cfg packets = 0 ∨ 7 ≤ restOf cfg packets := by
  constructor
  · intro built
    obtain ⟨frame, idle, builds⟩ := built
    exact rest_of_buildsFrame pointed fits builds
  · exact buildsFrame pointed fits

/-- A data zone of the given length, with a frame error control field. -/
def zoneConfig (len : UInt16) : TmFrameConfig where
  spacecraftId := 1
  virtualChannelId := 0
  masterChannelFrameCount := 0
  virtualChannelFrameCount := 0
  enableFecf := 1
  frameDataFieldLen := len

/-- The shortest space packet. -/
def shortestPacket : CompletePacket where
  bytes := [0x08, 0x01, 0xC0, 0, 0, 0, 0x2A]
  complete := rfl

theorem shortestPacket_fill :
    (∃ frame idle, BuildsFrame (zoneConfig 14) (some shortestPacket.bytes) [shortestPacket] frame idle) ↔
      restOf (zoneConfig 14) [shortestPacket] = 0 ∨ 7 ≤ restOf (zoneConfig 14) [shortestPacket] :=
  tmFrame_fill_iff (zoneConfig 14) rfl (by decide)

/-- A rest of three bytes holds what was in the buffer, and the receiver is left with them. -/
theorem shortestPacket_stale :
    (∃ stale, tmFrameBuild (zoneConfig 10) (some shortestPacket.bytes) 7 (List.replicate 18 0xEE) =
        some (.ok (stale, 18)) ∧
      dataZone (zoneConfig 10) stale = shortestPacket.bytes ++ [0xEE, 0xEE, 0xEE]) ∧
    ¬ ∃ frame idle, BuildsFrame (zoneConfig 10) (some shortestPacket.bytes) [shortestPacket] frame
      idle := by
  have fits : (payloadOf [shortestPacket]).length ≤ (zoneConfig 10).frameDataFieldLen.toNat := by
    decide
  have large : (zoneConfig 10).total ≤ (List.replicate 18 (0xEE : UInt8)).length := by decide
  refine ⟨⟨_, tmFrameBuild_builtOf rfl fits large, ?_⟩, ?_⟩
  · exact dataZone_builtOf fits (staleOf_length fits large)
  · intro built
    obtain ⟨frame, idle, builds⟩ := built
    exact absurd (rest_of_buildsFrame rfl fits builds) (by decide)

end Openobsw.Ccsds
