import Openobsw.Ccsds.TcFrame

/-!
Owns the format of TC transfer frames: which buffers the decoder accepts, that it reads back
every frame laid out by the header's fields, and that its data slice ends before the frame
error control field.
-/

namespace Openobsw.Ccsds

open Openobsw.Lib.Words Openobsw.Util

/-! ### The layout of a frame -/

/-- The fields of the primary header without its length field, each within its width. -/
structure TcFrameFields where
  version : Fin (2 ^ 2)
  bypassFlag : Fin (2 ^ 1)
  ctrlCmdFlag : Fin (2 ^ 1)
  reserved : Fin (2 ^ 2)
  spacecraftId : Fin (2 ^ 10)
  virtualChannelId : Fin (2 ^ 6)
  frameSeqNum : Fin (2 ^ 8)
deriving DecidableEq, Repr

/-- Fields of given widths, one after the other from the most significant bit on. -/
def joinFields (fields : List (Nat × Nat)) : Nat :=
  fields.foldl (fun joined field => joined * 2 ^ field.1 + field.2) 0

namespace TcFrameFields

/-- The header as a number of 40 bits. -/
def bits (fields : TcFrameFields) (frameLen : Nat) : Nat :=
  joinFields [(2, fields.version), (1, fields.bypassFlag), (1, fields.ctrlCmdFlag),
    (2, fields.reserved), (10, fields.spacecraftId), (6, fields.virtualChannelId),
    (10, frameLen), (8, fields.frameSeqNum)]

/-- The five bytes of the header. -/
def headerBytes (fields : TcFrameFields) (frameLen : Nat) : List UInt8 :=
  [32, 24, 16, 8, 0].map fun place => UInt8.ofNat (fields.bits frameLen / 2 ^ place)

/-- A frame: header, data and frame error control field. -/
def frameBytes (fields : TcFrameFields) (data : List UInt8) : List UInt8 :=
  let covered := fields.headerBytes (data.length + 6) ++ data
  covered ++ putBe16 (crc16Ccitt covered)

/-- The header that a receiver is to find. -/
def header (fields : TcFrameFields) (frameLen : Nat) : TcFrameHeader where
  version := UInt8.ofNat fields.version
  bypassFlag := UInt8.ofNat fields.bypassFlag
  ctrlCmdFlag := UInt8.ofNat fields.ctrlCmdFlag
  spacecraftId := UInt16.ofNat fields.spacecraftId
  virtualChannelId := UInt8.ofNat fields.virtualChannelId
  frameLen := UInt16.ofNat frameLen
  frameSeqNum := UInt8.ofNat fields.frameSeqNum

end TcFrameFields

/-- The 10 bits of the length field. -/
def lengthField (buf : List UInt8) : Option Nat := do
  let b2 ← buf[2]?
  let b3 ← buf[3]?
  return b2.toNat % 2 ^ 2 * 2 ^ 8 + b3.toNat

/-- The buffer is a frame: long enough, closed by the CRC of what is before, and as long as its
length field says. -/
structure IsTcFrame (buf : List UInt8) : Prop where
  long : 8 ≤ buf.length
  closed : buf.drop (buf.length - 2) = putBe16 (crc16Ccitt (buf.take (buf.length - 2)))
  announced : (lengthField buf).map (· + 1) = some buf.length

/-- What the decoder owes to the frame format: over any buffer, and over a frame laid out from
fields and data. -/
structure TcFrameLaw (buf : List UInt8) (fields : TcFrameFields) (data : List UInt8) : Prop where
  accepts_iff : (∃ frame, tcFrameDecode buf = some (.ok frame)) ↔ IsTcFrame buf
  decoded : tcFrameDecode (fields.frameBytes data) =
    some (.ok ⟨fields.header (data.length + 6), data⟩)
  inside : ∀ frame, tcFrameDecode buf = some (.ok frame) →
    ∃ header fecf : List UInt8, header.length = 5 ∧ fecf.length = 2 ∧
      buf = header ++ frame.data ++ fecf

/-! ### Buffers in their parts -/

theorem putBe16_eq_iff (value : UInt16) (high low : UInt8) :
    [high, low] = putBe16 value ↔ value = (high.toUInt16 <<< 8) ||| low.toUInt16 := by
  constructor
  · intro stored
    rw [putBe16, List.cons_eq_cons, List.cons_eq_cons] at stored
    rw [stored.1, stored.2.1, join16_putBe16]
  · intro joined
    have highFits := high.toNat_lt
    have lowFits := low.toNat_lt
    have number : value.toNat = high.toNat * 256 + low.toNat := by rw [joined, toNat_join16]
    have first : (value >>> 8).toUInt8 = high :=
      UInt8.toNat_inj.mp (by rw [highByte_toNat]; omega)
    have second : (value &&& 0xFF).toUInt8 = low :=
      UInt8.toNat_inj.mp (by rw [lowByte_toNat]; omega)
    rw [putBe16, first, second]

/-- Five header bytes, data, and two bytes at the end. -/
structure FrameParts where
  b0 : UInt8
  b1 : UInt8
  b2 : UInt8
  b3 : UInt8
  b4 : UInt8
  data : List UInt8
  high : UInt8
  low : UInt8
  nonempty : 1 ≤ data.length

namespace FrameParts

variable (parts : FrameParts)

def covered : List UInt8 := [parts.b0, parts.b1, parts.b2, parts.b3, parts.b4] ++ parts.data

def bytes : List UInt8 := parts.covered ++ [parts.high, parts.low]

def header : TcFrameHeader :=
  tcFrameHeaderOfBytes parts.b0 parts.b1 parts.b2 parts.b3 parts.b4

theorem covered_length : parts.covered.length = parts.data.length + 5 := by
  unfold covered
  rw [List.length_append, Nat.add_comm]
  rfl

theorem bytes_length : parts.bytes.length = parts.data.length + 7 := by
  unfold bytes
  rw [List.length_append, covered_length]
  rfl

theorem covered_end : parts.bytes.length - 2 = parts.covered.length := by
  rw [bytes_length, covered_length]
  rfl

theorem received : obswBe16 parts.bytes parts.covered.length =
    some ((parts.high.toUInt16 <<< 8) ||| parts.low.toUInt16) := by
  unfold obswBe16 bytes
  rw [List.getElem?_append_right (Nat.le_refl _), List.getElem?_append_right (Nat.le_add_right _ 1),
    Nat.sub_self, Nat.add_sub_cancel_left]
  rfl

/-- The slice that the decoder cuts out, when the data is of a frame's length. -/
theorem slice (short : parts.data.length < 65536) :
    (parts.bytes.drop tcFramePrimaryHdrLen).take
      ((parts.bytes.length - tcFramePrimaryHdrLen - tcFrameCrcLen) % 65536) = parts.data := by
  have count : (parts.bytes.length - tcFramePrimaryHdrLen - tcFrameCrcLen) % 65536 =
      parts.data.length := by
    rw [bytes_length]
    exact Nat.mod_eq_of_lt short
  rw [count]
  exact List.take_left

/-- The decoder on a buffer of sufficient length. -/
theorem decode_eq : tcFrameDecode parts.bytes = some (
    if crc16Ccitt parts.covered ≠ (parts.high.toUInt16 <<< 8) ||| parts.low.toUInt16 then
      .error .crc
    else if parts.header.frameLen.toNat + 1 ≠ parts.data.length + 7 then .error .tooShort
    else .ok ⟨parts.header, parts.data⟩) := by
  have long : ¬ parts.bytes.length < tcFrameMinLen := by
    rw [bytes_length]
    exact Nat.not_lt.mpr (Nat.add_le_add_right parts.nonempty 7)
  have before : parts.bytes.take parts.covered.length = parts.covered := List.take_left
  unfold tcFrameDecode
  rw [if_neg long, covered_end, before, received]
  by_cases crc : crc16Ccitt parts.covered ≠ (parts.high.toUInt16 <<< 8) ||| parts.low.toUInt16
  · rw [if_pos crc]
    exact if_pos crc
  · rw [if_neg crc]
    refine (if_neg crc).trans ?_
    show (if parts.header.frameLen.toNat + 1 ≠ parts.bytes.length then _ else _) = _
    rw [bytes_length]
    by_cases other : parts.header.frameLen.toNat + 1 ≠ parts.data.length + 7
    · rw [if_pos other, if_pos other]
      rfl
    · have announced := Decidable.of_not_not other
      have field := parts.header.frameLen.toNat_lt
      have slice := parts.slice (by omega)
      rw [if_neg other, if_neg other, ← bytes_length, slice]
      rfl

theorem lengthField_eq : lengthField parts.bytes = some parts.header.frameLen.toNat := by
  unfold header
  rw [tcFrameHeaderOfBytes_frameLen]
  rfl

theorem isTcFrame_iff : IsTcFrame parts.bytes ↔
    crc16Ccitt parts.covered = (parts.high.toUInt16 <<< 8) ||| parts.low.toUInt16 ∧
      parts.header.frameLen.toNat + 1 = parts.data.length + 7 := by
  have before : parts.bytes.take parts.covered.length = parts.covered := List.take_left
  have after : parts.bytes.drop parts.covered.length = [parts.high, parts.low] := List.drop_left
  constructor
  · intro shaped
    have closed := shaped.closed
    have announced := shaped.announced
    rw [covered_end, before, after, putBe16_eq_iff] at closed
    rw [lengthField_eq, bytes_length] at announced
    exact ⟨closed, Option.some.inj announced⟩
  · rintro ⟨closed, announced⟩
    constructor
    · rw [bytes_length]
      exact Nat.add_le_add_right parts.nonempty 7
    · rw [covered_end, before, after, putBe16_eq_iff]
      exact closed
    · rw [lengthField_eq, bytes_length]
      exact congrArg some announced

/-- The decoder accepts exactly the frames, with the slice between header and error control. -/
theorem decode_iff (frame : TcFrame) : tcFrameDecode parts.bytes = some (.ok frame) ↔
    IsTcFrame parts.bytes ∧ frame = ⟨parts.header, parts.data⟩ := by
  rw [isTcFrame_iff, decode_eq]
  constructor
  · intro accepted
    split at accepted
    · cases accepted
    · rename_i closed
      split at accepted
      · cases accepted
      · rename_i announced
        cases accepted
        exact ⟨⟨Decidable.of_not_not closed, Decidable.of_not_not announced⟩, rfl⟩
  · rintro ⟨⟨closed, announced⟩, rfl⟩
    rw [if_neg (not_not_intro closed), if_neg (not_not_intro announced)]

end FrameParts

theorem exists_parts {buf : List UInt8} (long : 8 ≤ buf.length) :
    ∃ parts : FrameParts, buf = parts.bytes := by
  match buf, long with
  | b0 :: b1 :: b2 :: b3 :: b4 :: rest, long =>
      have enough : 3 ≤ rest.length := Nat.le_of_add_le_add_right (show 3 + 5 ≤ rest.length + 5 from long)
      have last : (rest.drop (rest.length - 2)).length = 2 := by
        rw [List.length_drop]
        omega
      match tail : rest.drop (rest.length - 2), last with
      | [high, low], _ =>
          refine ⟨⟨b0, b1, b2, b3, b4, rest.take (rest.length - 2), high, low, ?_⟩, ?_⟩
          · rw [List.length_take]
            omega
          · show _ = [b0, b1, b2, b3, b4] ++ rest.take (rest.length - 2) ++ [high, low]
            rw [List.append_assoc, ← tail, List.take_append_drop]
            rfl

/-! ### Accepted buffers -/

theorem tcFrameDecode_accepts_iff (buf : List UInt8) :
    (∃ frame, tcFrameDecode buf = some (.ok frame)) ↔ IsTcFrame buf := by
  constructor
  · rintro ⟨frame, accepted⟩
    obtain ⟨parts, rfl⟩ := exists_parts (tcFrameDecode_accepted accepted).1
    exact ((parts.decode_iff frame).mp accepted).1
  · intro shaped
    obtain ⟨parts, rfl⟩ := exists_parts shaped.long
    exact ⟨_, (parts.decode_iff _).mpr ⟨shaped, rfl⟩⟩

theorem tcFrameDecode_inside {buf : List UInt8} {frame : TcFrame}
    (accepted : tcFrameDecode buf = some (.ok frame)) :
    ∃ header fecf : List UInt8, header.length = 5 ∧ fecf.length = 2 ∧
      buf = header ++ frame.data ++ fecf := by
  obtain ⟨parts, rfl⟩ := exists_parts (tcFrameDecode_accepted accepted).1
  obtain ⟨_, rfl⟩ := (parts.decode_iff frame).mp accepted
  exact ⟨[parts.b0, parts.b1, parts.b2, parts.b3, parts.b4], [parts.high, parts.low], rfl, rfl, rfl⟩

/-! ### Frames laid out from fields -/

namespace TcFrameFields

variable (fields : TcFrameFields)

theorem bits_eq (frameLen : Nat) : fields.bits frameLen =
    (((((((fields.version : Nat) * 2 + fields.bypassFlag) * 2 + fields.ctrlCmdFlag) * 4 +
      fields.reserved) * 1024 + fields.spacecraftId) * 64 + fields.virtualChannelId) * 1024 +
      frameLen) * 256 + fields.frameSeqNum := by
  show (((((((0 * 4 + (fields.version : Nat)) * 2 + fields.bypassFlag) * 2 + fields.ctrlCmdFlag) *
    4 + fields.reserved) * 1024 + fields.spacecraftId) * 64 + fields.virtualChannelId) * 1024 +
    frameLen) * 256 + fields.frameSeqNum = _
  rw [Nat.zero_mul, Nat.zero_add]

/-- Where the fields behind the flags end up in the five bytes. -/
theorem headerBytes_of_joined {joined flags spacecraft channel frameLen seqNum : Nat}
    (bits : joined =
      (((flags * 1024 + spacecraft) * 64 + channel) * 1024 + frameLen) * 256 + seqNum)
    (channelFits : channel < 64) (short : frameLen < 2 ^ 10) (seqNumFits : seqNum < 256) :
    joined / 2 ^ 32 = flags * 4 + spacecraft / 256 ∧
      joined / 2 ^ 24 % 2 ^ 8 = spacecraft % 256 ∧
      joined / 2 ^ 16 % 2 ^ 8 = channel * 4 + frameLen / 256 ∧
      joined / 2 ^ 8 % 2 ^ 8 = frameLen % 256 ∧
      joined / 2 ^ 0 % 2 ^ 8 = seqNum := by
  have last : joined / 2 ^ 8 = ((flags * 1024 + spacecraft) * 64 + channel) * 1024 + frameLen := by
    omega
  have fourth : joined / 2 ^ 16 = ((flags * 1024 + spacecraft) * 64 + channel) * 4 +
      frameLen / 256 := by
    rw [show 2 ^ 16 = 2 ^ 8 * 2 ^ 8 from rfl, ← Nat.div_div_eq_div_mul, last]
    omega
  have third : joined / 2 ^ 24 = flags * 1024 + spacecraft := by
    rw [show 2 ^ 24 = 2 ^ 16 * 2 ^ 8 from rfl, ← Nat.div_div_eq_div_mul, fourth]
    omega
  have second : joined / 2 ^ 32 = flags * 4 + spacecraft / 256 := by
    rw [show 2 ^ 32 = 2 ^ 24 * 2 ^ 8 from rfl, ← Nat.div_div_eq_div_mul, third]
    omega
  refine ⟨second, ?_, ?_, ?_, ?_⟩
  · rw [third]
    omega
  · rw [fourth]
    omega
  · rw [last]
    omega
  · omega

/-- The fields of the first byte. -/
theorem firstByte_fields {first version bypass ctrlCmd reserved rest : Nat}
    (byte : first = (((version * 2 + bypass) * 2 + ctrlCmd) * 4 + reserved) * 4 + rest)
    (versionFits : version < 2 ^ 2) (bypassFits : bypass < 2 ^ 1) (ctrlCmdFits : ctrlCmd < 2 ^ 1)
    (reservedFits : reserved < 2 ^ 2) (restFits : rest < 2 ^ 2) :
    first % 2 ^ 8 / 2 ^ 6 % 2 ^ 2 = version ∧ first % 2 ^ 8 / 2 ^ 5 % 2 ^ 1 = bypass ∧
      first % 2 ^ 8 / 2 ^ 4 % 2 ^ 1 = ctrlCmd ∧ first % 2 ^ 8 % 2 ^ 2 = rest := by
  have small : first % 2 ^ 8 = first := Nat.mod_eq_of_lt (by omega)
  rw [small]
  refine ⟨?_, ?_, ?_, ?_⟩ <;> omega

/-- The receiver's header from the five bytes. -/
theorem header_ofBytes {frameLen : Nat} (short : frameLen < 2 ^ 10) :
    tcFrameHeaderOfBytes (UInt8.ofNat (fields.bits frameLen / 2 ^ 32))
      (UInt8.ofNat (fields.bits frameLen / 2 ^ 24)) (UInt8.ofNat (fields.bits frameLen / 2 ^ 16))
      (UInt8.ofNat (fields.bits frameLen / 2 ^ 8)) (UInt8.ofNat (fields.bits frameLen / 2 ^ 0)) =
      fields.header frameLen := by
  have spacecraftFits := fields.spacecraftId.isLt
  have channelFits := fields.virtualChannelId.isLt
  have channel : ((fields.virtualChannelId : Nat) * 4 + frameLen / 256) / 2 ^ 2 % 2 ^ 6 =
      (fields.virtualChannelId : Nat) % 2 ^ 8 := by omega
  have lengthHigh : ((fields.virtualChannelId : Nat) * 4 + frameLen / 256) % 2 ^ 2 =
      frameLen / 256 := by omega
  obtain ⟨byte0, byte1, byte2, byte3, byte4⟩ :=
    headerBytes_of_joined (fields.bits_eq frameLen) channelFits short fields.frameSeqNum.isLt
  obtain ⟨version, bypass, ctrlCmd, spacecraftHigh⟩ :=
    firstByte_fields byte0 fields.version.isLt fields.bypassFlag.isLt fields.ctrlCmdFlag.isLt
      fields.reserved.isLt (by omega)
  have joined {value : Nat} (fits : value < 2 ^ 10) :
      value / 256 * 256 + value % 256 = value % 2 ^ 16 := by
    rw [Nat.div_add_mod']
    exact (Nat.mod_eq_of_lt (Nat.lt_trans fits (by decide))).symm
  have narrow {value width : Nat} (fits : value < 2 ^ width) (inByte : width ≤ 8) :
      value = value % 2 ^ 8 :=
    (Nat.mod_eq_of_lt (Nat.lt_of_lt_of_le fits (Nat.pow_le_pow_right Nat.two_pos inByte))).symm
  unfold tcFrameHeaderOfBytes header
  congr 1
  · refine UInt8.toNat_inj.mp ?_
    rw [toNat_and8 2 rfl, toNat_shr8 6 rfl, UInt8.toNat_ofNat', UInt8.toNat_ofNat', version]
    exact narrow fields.version.isLt (by decide)
  · refine UInt8.toNat_inj.mp ?_
    rw [toNat_and8 1 rfl, toNat_shr8 5 rfl, UInt8.toNat_ofNat', UInt8.toNat_ofNat', bypass]
    exact narrow fields.bypassFlag.isLt (by decide)
  · refine UInt8.toNat_inj.mp ?_
    rw [toNat_and8 1 rfl, toNat_shr8 4 rfl, UInt8.toNat_ofNat', UInt8.toNat_ofNat', ctrlCmd]
    exact narrow fields.ctrlCmdFlag.isLt (by decide)
  · refine UInt16.toNat_inj.mp ?_
    rw [toNat_join16, toNat_and8 2 rfl, UInt8.toNat_ofNat', UInt8.toNat_ofNat',
      UInt16.toNat_ofNat', spacecraftHigh, byte1]
    exact joined spacecraftFits
  · refine UInt8.toNat_inj.mp ?_
    rw [toNat_and8 6 rfl, toNat_shr8 2 rfl, UInt8.toNat_ofNat', UInt8.toNat_ofNat', byte2]
    exact channel
  · refine UInt16.toNat_inj.mp ?_
    rw [toNat_join16, toNat_and8 2 rfl, UInt8.toNat_ofNat', UInt8.toNat_ofNat',
      UInt16.toNat_ofNat', byte2, byte3, lengthHigh]
    exact joined short
  · refine UInt8.toNat_inj.mp ?_
    rw [UInt8.toNat_ofNat', UInt8.toNat_ofNat', byte4]
    exact narrow fields.frameSeqNum.isLt (by decide)

/-- A laid-out frame in its parts. -/
def parts (data : List UInt8) (nonempty : 1 ≤ data.length) : FrameParts :=
  let bits := fields.bits (data.length + 6)
  let crc := crc16Ccitt (fields.headerBytes (data.length + 6) ++ data)
  { b0 := UInt8.ofNat (bits / 2 ^ 32)
    b1 := UInt8.ofNat (bits / 2 ^ 24)
    b2 := UInt8.ofNat (bits / 2 ^ 16)
    b3 := UInt8.ofNat (bits / 2 ^ 8)
    b4 := UInt8.ofNat (bits / 2 ^ 0)
    data := data
    high := (crc >>> 8).toUInt8
    low := (crc &&& 0xFF).toUInt8
    nonempty := nonempty }

theorem decode_frameBytes {data : List UInt8} (nonempty : 1 ≤ data.length)
    (short : data.length ≤ 1017) :
    tcFrameDecode (fields.frameBytes data) = some (.ok ⟨fields.header (data.length + 6), data⟩) := by
  have header : (fields.parts data nonempty).header = fields.header (data.length + 6) :=
    fields.header_ofBytes (by omega)
  have closed : crc16Ccitt (fields.parts data nonempty).covered = _ := (join16_putBe16 _).symm
  have announced : (fields.header (data.length + 6)).frameLen.toNat + 1 = data.length + 7 := by
    show (data.length + 6) % 2 ^ 16 + 1 = _
    omega
  show tcFrameDecode (fields.parts data nonempty).bytes = _
  rw [FrameParts.decode_iff, FrameParts.isTcFrame_iff, header]
  exact ⟨⟨closed, announced⟩, rfl⟩

end TcFrameFields

/-- The decoder accepts exactly the frames, reads back every frame of 1 to 1017 data bytes, and
keeps its data slice between header and error control field. -/
theorem tcFrameFormat (buf : List UInt8) (fields : TcFrameFields) (data : List UInt8)
    (nonempty : 1 ≤ data.length) (short : data.length ≤ 1017) : TcFrameLaw buf fields data where
  accepts_iff := tcFrameDecode_accepts_iff buf
  decoded := fields.decode_frameBytes nonempty short
  inside := fun _ accepted => tcFrameDecode_inside accepted

/-- All fields at their largest values. -/
def onesFields : TcFrameFields where
  version := 3
  bypassFlag := 1
  ctrlCmdFlag := 1
  reserved := 3
  spacecraftId := 1023
  virtualChannelId := 63
  frameSeqNum := 255

theorem onesFields_law : TcFrameLaw [0, 0, 0, 7, 0, 0x2A, 0x0E, 0xA8] onesFields [0x2A] :=
  tcFrameFormat _ onesFields [0x2A] (by decide) (by decide)

end Openobsw.Ccsds
