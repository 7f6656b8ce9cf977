import Openobsw.Util.Bytes

/-!
Owns the CCSDS space packet primary header (`space_packet.c`): encoding,
decoding and the slice of the data field. Reading a byte outside the buffer is
`none`; a refused packet is a return code.
-/

namespace Openobsw.Ccsds

open Openobsw.Lib.Words
open Openobsw.Util

/-- The negative return codes of `space_packet.h` these functions can give. -/
inductive SpErr where
  | bufTooSmall
  | badVersion
  | badLength
deriving DecidableEq, Repr

/-- `obsw_sp_primary_hdr_t` -/
structure PrimaryHdr where
  version : UInt8
  type : UInt8
  secHdrFlag : UInt8
  apid : UInt16
  seqFlags : UInt8
  seqCount : UInt16
  dataLen : UInt16
deriving DecidableEq, Repr

def spTypeTm : UInt8 := 0

def spTypeTc : UInt8 := 1

def spSeqUnsegmented : UInt8 := 3

def spPrimaryHeaderLen : Nat := 6

/-- `obsw_sp_encode_primary`: the six header bytes. -/
def spEncodePrimary (hdr : PrimaryHdr) : List UInt8 :=
  [ ((hdr.version &&& 0x07) <<< 5) ||| ((hdr.type &&& 0x01) <<< 4) |||
      ((hdr.secHdrFlag &&& 0x01) <<< 3) ||| ((hdr.apid >>> 8) &&& 0x07).toUInt8,
    (hdr.apid &&& 0xFF).toUInt8,
    ((hdr.seqFlags &&& 0x03) <<< 6) ||| ((hdr.seqCount >>> 8) &&& 0x3F).toUInt8,
    (hdr.seqCount &&& 0xFF).toUInt8,
    (hdr.dataLen >>> 8).toUInt8,
    (hdr.dataLen &&& 0xFF).toUInt8 ]

@[simp] theorem spEncodePrimary_length (hdr : PrimaryHdr) :
    (spEncodePrimary hdr).length = 6 := rfl

/-- The fields of a primary header held by the first six bytes. -/
def primaryHdrOfBytes (b0 b1 b2 b3 b4 b5 : UInt8) : PrimaryHdr where
  version := (b0 >>> 5) &&& 0x07
  type := (b0 >>> 4) &&& 0x01
  secHdrFlag := (b0 >>> 3) &&& 0x01
  apid := ((b0 &&& 0x07).toUInt16 <<< 8) ||| b1.toUInt16
  seqFlags := (b2 >>> 6) &&& 0x03
  seqCount := ((b2 &&& 0x3F).toUInt16 <<< 8) ||| b3.toUInt16
  dataLen := (b4.toUInt16 <<< 8) ||| b5.toUInt16

/-- `obsw_sp_decode_primary` -/
def spDecodePrimary (buf : List UInt8) : Option (Except SpErr PrimaryHdr) :=
  if buf.length < spPrimaryHeaderLen then return .error .bufTooSmall
  else do
    let b0 ← buf[0]?
    let b1 ← buf[1]?
    let b2 ← buf[2]?
    let b3 ← buf[3]?
    let b4 ← buf[4]?
    let b5 ← buf[5]?
    let hdr := primaryHdrOfBytes b0 b1 b2 b3 b4 b5
    if hdr.version ≠ 0 then return .error .badVersion
    else return .ok hdr

/-- `obsw_sp_total_len` -/
def spTotalLen (dataLen : UInt16) : Nat :=
  spPrimaryHeaderLen + dataLen.toNat + 1

/-- `obsw_sp_packet_t`. `payload` is the slice of `payload_len` bytes. -/
structure SpPacket where
  hdr : PrimaryHdr
  payload : List UInt8
deriving DecidableEq, Repr

/-- `obsw_sp_parse`. `payload_len` is 16 bits wide, so the sum
`data_len + 1` wraps to zero at the largest data length. -/
def spParse (buf : List UInt8) : Option (Except SpErr SpPacket) := do
  match ← spDecodePrimary buf with
  | .error code => return .error code
  | .ok hdr =>
      if buf.length < spTotalLen hdr.dataLen then return .error .badLength
      else
        let payloadLen : UInt16 := hdr.dataLen + 1
        return .ok { hdr := hdr, payload := (buf.drop spPrimaryHeaderLen).take payloadLen.toNat }

/-! ### The parser reads only inside the buffer -/

theorem spDecodePrimary_isSome (buf : List UInt8) :
    ∃ result, spDecodePrimary buf = some result := by
  unfold spDecodePrimary
  by_cases short : buf.length < spPrimaryHeaderLen
  · exact ⟨_, if_pos short⟩
  · have long : 6 ≤ buf.length := Nat.le_of_not_lt short
    rw [if_neg short, List.getElem?_eq_getElem (by omega), List.getElem?_eq_getElem (by omega),
      List.getElem?_eq_getElem (by omega), List.getElem?_eq_getElem (by omega),
      List.getElem?_eq_getElem (by omega), List.getElem?_eq_getElem (by omega)]
    simp only [Option.bind_eq_bind, Option.bind_some]
    split
    · exact ⟨_, rfl⟩
    · exact ⟨_, rfl⟩

theorem spParse_isSome (buf : List UInt8) : ∃ result, spParse buf = some result := by
  obtain ⟨decoded, decodedEq⟩ := spDecodePrimary_isSome buf
  unfold spParse
  rw [decodedEq]
  cases decoded with
  | error code => exact ⟨_, rfl⟩
  | ok hdr =>
      simp only [Option.bind_eq_bind, Option.bind_some]
      split
      · exact ⟨_, rfl⟩
      · exact ⟨_, rfl⟩

/-! ### The encoded header as numbers -/

/-- The first byte: version, type, secondary header flag and the high bits of the APID. -/
theorem packetIdByte_toNat (version type secHdrFlag : UInt8) (apid : UInt16) :
    (((version &&& 0x07) <<< 5) ||| ((type &&& 0x01) <<< 4) ||| ((secHdrFlag &&& 0x01) <<< 3) |||
        ((apid >>> 8) &&& 0x07).toUInt8).toNat =
      version.toNat % 8 * 32 + (type.toNat % 2 * 16 +
        (secHdrFlag.toNat % 2 * 8 + apid.toNat / 256 % 8)) := by
  have versionEq : (version &&& 0x07).toNat = version.toNat % 2 ^ 3 := toNat_and8 3 rfl version
  have typeEq : (type &&& 0x01).toNat = type.toNat % 2 ^ 1 := toNat_and8 1 rfl type
  have flagEq : (secHdrFlag &&& 0x01).toNat = secHdrFlag.toNat % 2 ^ 1 :=
    toNat_and8 1 rfl secHdrFlag
  have apidEq : ((apid >>> 8) &&& 0x07).toUInt8.toNat = apid.toNat / 256 % 8 := by
    rw [UInt16.toNat_toUInt8, toNat_and16 3 rfl, toNat_shr16 8 rfl]
    omega
  -- From the lowest field up, each lands above all those already placed.
  have flagPlaced : ((secHdrFlag &&& 0x01) <<< 3 ||| ((apid >>> 8) &&& 0x07).toUInt8).toNat = _ :=
    toNat_place8 3 rfl (by omega) (by omega) (by omega)
  have typePlaced : ((type &&& 0x01) <<< 4 ||| ((secHdrFlag &&& 0x01) <<< 3 |||
      ((apid >>> 8) &&& 0x07).toUInt8)).toNat = _ :=
    toNat_place8 4 rfl (by omega) (by omega) (by omega)
  have versionPlaced : ((version &&& 0x07) <<< 5 ||| ((type &&& 0x01) <<< 4 |||
      ((secHdrFlag &&& 0x01) <<< 3 ||| ((apid >>> 8) &&& 0x07).toUInt8))).toNat = _ :=
    toNat_place8 5 rfl (by omega) (by omega) (by omega)
  rw [UInt8.or_assoc, UInt8.or_assoc, versionPlaced, typePlaced, flagPlaced, versionEq, typeEq,
    flagEq, apidEq]
  rfl

theorem sequenceByte_toNat (seqFlags : UInt8) (seqCount : UInt16) :
    (((seqFlags &&& 0x03) <<< 6) ||| ((seqCount >>> 8) &&& 0x3F).toUInt8).toNat =
      seqFlags.toNat % 4 * 64 + seqCount.toNat / 256 % 64 := by
  have flagsEq : (seqFlags &&& 0x03).toNat = seqFlags.toNat % 2 ^ 2 := toNat_and8 2 rfl seqFlags
  have countEq : ((seqCount >>> 8) &&& 0x3F).toUInt8.toNat = seqCount.toNat / 256 % 64 := by
    rw [UInt16.toNat_toUInt8, toNat_and16 6 rfl, toNat_shr16 8 rfl]
    omega
  rw [toNat_place8 6 rfl (by omega) (by omega) (by omega), flagsEq, countEq]
  rfl

/-! ### The decoded header as numbers -/

section Decoded

variable (b0 b1 b2 b3 b4 b5 : UInt8)

@[simp] theorem primaryHdrOfBytes_version :
    (primaryHdrOfBytes b0 b1 b2 b3 b4 b5).version.toNat = b0.toNat / 32 := by
  have fits := b0.toNat_lt
  show ((b0 >>> 5) &&& 0x07).toNat = _
  rw [toNat_and8 3 rfl, toNat_shr8 5 rfl]
  omega

@[simp] theorem primaryHdrOfBytes_type :
    (primaryHdrOfBytes b0 b1 b2 b3 b4 b5).type.toNat = b0.toNat / 16 % 2 := by
  show ((b0 >>> 4) &&& 0x01).toNat = _
  rw [toNat_and8 1 rfl, toNat_shr8 4 rfl]
  rfl

@[simp] theorem primaryHdrOfBytes_secHdrFlag :
    (primaryHdrOfBytes b0 b1 b2 b3 b4 b5).secHdrFlag.toNat = b0.toNat / 8 % 2 := by
  show ((b0 >>> 3) &&& 0x01).toNat = _
  rw [toNat_and8 1 rfl, toNat_shr8 3 rfl]
  rfl

@[simp] theorem primaryHdrOfBytes_apid :
    (primaryHdrOfBytes b0 b1 b2 b3 b4 b5).apid.toNat = b0.toNat % 8 * 256 + b1.toNat := by
  show (((b0 &&& 0x07).toUInt16 <<< 8) ||| b1.toUInt16).toNat = _
  rw [toNat_join16, toNat_and8 3 rfl]
  rfl

@[simp] theorem primaryHdrOfBytes_seqFlags :
    (primaryHdrOfBytes b0 b1 b2 b3 b4 b5).seqFlags.toNat = b2.toNat / 64 := by
  have fits := b2.toNat_lt
  show ((b2 >>> 6) &&& 0x03).toNat = _
  rw [toNat_and8 2 rfl, toNat_shr8 6 rfl]
  omega

@[simp] theorem primaryHdrOfBytes_seqCount :
    (primaryHdrOfBytes b0 b1 b2 b3 b4 b5).seqCount.toNat = b2.toNat % 64 * 256 + b3.toNat := by
  show (((b2 &&& 0x3F).toUInt16 <<< 8) ||| b3.toUInt16).toNat = _
  rw [toNat_join16, toNat_and8 6 rfl]
  rfl

@[simp] theorem primaryHdrOfBytes_dataLen :
    (primaryHdrOfBytes b0 b1 b2 b3 b4 b5).dataLen.toNat = b4.toNat * 256 + b5.toNat := by
  show ((b4.toUInt16 <<< 8) ||| b5.toUInt16).toNat = _
  rw [toNat_join16]

end Decoded

/-- The fields of a header fit the widths the packet gives them. -/
structure PrimaryHdr.InRange (hdr : PrimaryHdr) : Prop where
  version : hdr.version = 0
  type : hdr.type.toNat < 2
  secHdrFlag : hdr.secHdrFlag.toNat < 2
  apid : hdr.apid.toNat < 2 ^ 11
  seqFlags : hdr.seqFlags.toNat < 4
  seqCount : hdr.seqCount.toNat < 2 ^ 14

/-- The header the packet holds once the fields are cut to their widths. -/
def PrimaryHdr.truncated (hdr : PrimaryHdr) : PrimaryHdr where
  version := hdr.version &&& 0x07
  type := hdr.type &&& 0x01
  secHdrFlag := hdr.secHdrFlag &&& 0x01
  apid := hdr.apid &&& 0x7FF
  seqFlags := hdr.seqFlags &&& 0x03
  seqCount := hdr.seqCount &&& 0x3FFF
  dataLen := hdr.dataLen

theorem PrimaryHdr.eq_of_fields {left right : PrimaryHdr}
    (version : left.version.toNat = right.version.toNat)
    (type : left.type.toNat = right.type.toNat)
    (secHdrFlag : left.secHdrFlag.toNat = right.secHdrFlag.toNat)
    (apid : left.apid.toNat = right.apid.toNat)
    (seqFlags : left.seqFlags.toNat = right.seqFlags.toNat)
    (seqCount : left.seqCount.toNat = right.seqCount.toNat)
    (dataLen : left.dataLen.toNat = right.dataLen.toNat) : left = right := by
  cases left
  cases right
  rw [PrimaryHdr.mk.injEq]
  exact ⟨UInt8.toNat_inj.mp version, UInt8.toNat_inj.mp type, UInt8.toNat_inj.mp secHdrFlag,
    UInt16.toNat_inj.mp apid, UInt8.toNat_inj.mp seqFlags, UInt16.toNat_inj.mp seqCount,
    UInt16.toNat_inj.mp dataLen⟩

section Truncated

variable (hdr : PrimaryHdr)

@[simp] theorem PrimaryHdr.truncated_version :
    hdr.truncated.version.toNat = hdr.version.toNat % 8 :=
  toNat_and8 3 rfl hdr.version

@[simp] theorem PrimaryHdr.truncated_type : hdr.truncated.type.toNat = hdr.type.toNat % 2 :=
  toNat_and8 1 rfl hdr.type

@[simp] theorem PrimaryHdr.truncated_secHdrFlag :
    hdr.truncated.secHdrFlag.toNat = hdr.secHdrFlag.toNat % 2 :=
  toNat_and8 1 rfl hdr.secHdrFlag

@[simp] theorem PrimaryHdr.truncated_apid :
    hdr.truncated.apid.toNat = hdr.apid.toNat % 2 ^ 11 :=
  toNat_and16 11 rfl hdr.apid

@[simp] theorem PrimaryHdr.truncated_seqFlags :
    hdr.truncated.seqFlags.toNat = hdr.seqFlags.toNat % 4 :=
  toNat_and8 2 rfl hdr.seqFlags

@[simp] theorem PrimaryHdr.truncated_seqCount :
    hdr.truncated.seqCount.toNat = hdr.seqCount.toNat % 2 ^ 14 :=
  toNat_and16 14 rfl hdr.seqCount

@[simp] theorem PrimaryHdr.truncated_dataLen : hdr.truncated.dataLen = hdr.dataLen := rfl

end Truncated

theorem PrimaryHdr.InRange.truncated {hdr : PrimaryHdr} (inRange : hdr.InRange) :
    hdr.truncated = hdr := by
  refine PrimaryHdr.eq_of_fields ?_ ?_ ?_ ?_ ?_ ?_ ?_
  · rw [PrimaryHdr.truncated_version, inRange.version]
    rfl
  · rw [PrimaryHdr.truncated_type, Nat.mod_eq_of_lt inRange.type]
  · rw [PrimaryHdr.truncated_secHdrFlag, Nat.mod_eq_of_lt inRange.secHdrFlag]
  · rw [PrimaryHdr.truncated_apid, Nat.mod_eq_of_lt inRange.apid]
  · rw [PrimaryHdr.truncated_seqFlags, Nat.mod_eq_of_lt inRange.seqFlags]
  · rw [PrimaryHdr.truncated_seqCount, Nat.mod_eq_of_lt inRange.seqCount]
  · rfl

/-! ### Round trips -/

/-- Six bytes hold the fields of a header: what `spEncodePrimary` writes, as numbers. -/
structure PrimaryHdr.Encoded (hdr : PrimaryHdr) (b0 b1 b2 b3 b4 b5 : UInt8) : Prop where
  packetId : b0.toNat = hdr.version.toNat % 8 * 32 + (hdr.type.toNat % 2 * 16 +
    (hdr.secHdrFlag.toNat % 2 * 8 + hdr.apid.toNat / 256 % 8))
  apidLow : b1.toNat = hdr.apid.toNat % 256
  sequence : b2.toNat = hdr.seqFlags.toNat % 4 * 64 + hdr.seqCount.toNat / 256 % 64
  countLow : b3.toNat = hdr.seqCount.toNat % 256
  lengthHigh : b4.toNat = hdr.dataLen.toNat / 256
  lengthLow : b5.toNat = hdr.dataLen.toNat % 256

theorem spEncodePrimary_encoded (hdr : PrimaryHdr) :
    ∃ b0 b1 b2 b3 b4 b5, spEncodePrimary hdr = [b0, b1, b2, b3, b4, b5] ∧
      hdr.Encoded b0 b1 b2 b3 b4 b5 :=
  ⟨_, _, _, _, _, _, rfl,
    { packetId := packetIdByte_toNat hdr.version hdr.type hdr.secHdrFlag hdr.apid
      apidLow := lowByte_toNat hdr.apid
      sequence := sequenceByte_toNat hdr.seqFlags hdr.seqCount
      countLow := lowByte_toNat hdr.seqCount
      lengthHigh := highByte_toNat hdr.dataLen
      lengthLow := lowByte_toNat hdr.dataLen }⟩

/-- Decoding gives the fields back, cut to their widths. -/
theorem PrimaryHdr.Encoded.decoded {hdr : PrimaryHdr} {b0 b1 b2 b3 b4 b5 : UInt8}
    (encoded : hdr.Encoded b0 b1 b2 b3 b4 b5) :
    primaryHdrOfBytes b0 b1 b2 b3 b4 b5 = hdr.truncated := by
  obtain ⟨packetId, apidLow, sequence, countLow, lengthHigh, lengthLow⟩ := encoded
  have apidFits := hdr.apid.toNat_lt
  refine PrimaryHdr.eq_of_fields ?_ ?_ ?_ ?_ ?_ ?_ ?_
  · rw [primaryHdrOfBytes_version, PrimaryHdr.truncated_version]
    omega
  · rw [primaryHdrOfBytes_type, PrimaryHdr.truncated_type]
    omega
  · rw [primaryHdrOfBytes_secHdrFlag, PrimaryHdr.truncated_secHdrFlag]
    omega
  · rw [primaryHdrOfBytes_apid, PrimaryHdr.truncated_apid]
    omega
  · rw [primaryHdrOfBytes_seqFlags, PrimaryHdr.truncated_seqFlags]
    omega
  · rw [primaryHdrOfBytes_seqCount, PrimaryHdr.truncated_seqCount]
    omega
  · rw [primaryHdrOfBytes_dataLen, PrimaryHdr.truncated_dataLen]
    omega

/-- Encoding a decoded header writes the same six bytes. -/
theorem spEncodePrimary_ofBytes (b0 b1 b2 b3 b4 b5 : UInt8) :
    spEncodePrimary (primaryHdrOfBytes b0 b1 b2 b3 b4 b5) = [b0, b1, b2, b3, b4, b5] := by
  obtain ⟨c0, c1, c2, c3, c4, c5, bytes, encoded⟩ :=
    spEncodePrimary_encoded (primaryHdrOfBytes b0 b1 b2 b3 b4 b5)
  obtain ⟨packetId, apidLow, sequence, countLow, lengthHigh, lengthLow⟩ := encoded
  have fits0 := b0.toNat_lt
  have fits1 := b1.toNat_lt
  have fits2 := b2.toNat_lt
  have fits3 := b3.toNat_lt
  have fits4 := b4.toNat_lt
  have fits5 := b5.toNat_lt
  rw [primaryHdrOfBytes_version, primaryHdrOfBytes_type, primaryHdrOfBytes_secHdrFlag,
    primaryHdrOfBytes_apid] at packetId
  rw [primaryHdrOfBytes_apid] at apidLow
  rw [primaryHdrOfBytes_seqFlags, primaryHdrOfBytes_seqCount] at sequence
  rw [primaryHdrOfBytes_seqCount] at countLow
  rw [primaryHdrOfBytes_dataLen] at lengthHigh lengthLow
  have same0 : c0 = b0 := UInt8.toNat_inj.mp (by omega)
  have same1 : c1 = b1 := UInt8.toNat_inj.mp (by omega)
  have same2 : c2 = b2 := UInt8.toNat_inj.mp (by omega)
  have same3 : c3 = b3 := UInt8.toNat_inj.mp (by omega)
  have same4 : c4 = b4 := UInt8.toNat_inj.mp (by omega)
  have same5 : c5 = b5 := UInt8.toNat_inj.mp (by omega)
  rw [bytes, same0, same1, same2, same3, same4, same5]

/-! ### The parser on a buffer with a whole header -/

theorem spDecodePrimary_cons (b0 b1 b2 b3 b4 b5 : UInt8) (rest : List UInt8) :
    spDecodePrimary (b0 :: b1 :: b2 :: b3 :: b4 :: b5 :: rest) =
      some (if (primaryHdrOfBytes b0 b1 b2 b3 b4 b5).version ≠ 0 then .error .badVersion
        else .ok (primaryHdrOfBytes b0 b1 b2 b3 b4 b5)) := by
  have long : ¬ (b0 :: b1 :: b2 :: b3 :: b4 :: b5 :: rest).length < spPrimaryHeaderLen := by
    simp only [List.length_cons, spPrimaryHeaderLen]
    omega
  unfold spDecodePrimary
  rw [if_neg long]
  show (if (primaryHdrOfBytes b0 b1 b2 b3 b4 b5).version ≠ 0
    then some (Except.error SpErr.badVersion)
    else some (Except.ok (primaryHdrOfBytes b0 b1 b2 b3 b4 b5))) = _
  by_cases version : (primaryHdrOfBytes b0 b1 b2 b3 b4 b5).version ≠ 0
  · rw [if_pos version, if_pos version]
  · rw [if_neg version, if_neg version]

theorem exists_header {buf : List UInt8} (long : spPrimaryHeaderLen ≤ buf.length) :
    ∃ b0 b1 b2 b3 b4 b5 rest, buf = b0 :: b1 :: b2 :: b3 :: b4 :: b5 :: rest := by
  match buf, long with
  | b0 :: b1 :: b2 :: b3 :: b4 :: b5 :: rest, _ => exact ⟨b0, b1, b2, b3, b4, b5, rest, rfl⟩

theorem spParse_cons (b0 b1 b2 b3 b4 b5 : UInt8) (rest : List UInt8) :
    spParse (b0 :: b1 :: b2 :: b3 :: b4 :: b5 :: rest) =
      some (if (primaryHdrOfBytes b0 b1 b2 b3 b4 b5).version ≠ 0 then .error .badVersion
        else if rest.length < (primaryHdrOfBytes b0 b1 b2 b3 b4 b5).dataLen.toNat + 1 then
          .error .badLength
        else .ok ⟨primaryHdrOfBytes b0 b1 b2 b3 b4 b5,
          rest.take ((primaryHdrOfBytes b0 b1 b2 b3 b4 b5).dataLen + 1).toNat⟩) := by
  generalize hdrEq : primaryHdrOfBytes b0 b1 b2 b3 b4 b5 = hdr
  have decoded := spDecodePrimary_cons b0 b1 b2 b3 b4 b5 rest
  rw [hdrEq] at decoded
  unfold spParse
  rw [decoded]
  by_cases version : hdr.version ≠ 0
  · rw [if_pos version, if_pos version]
    rfl
  · rw [if_neg version, if_neg version]
    show (if rest.length + 6 < 6 + hdr.dataLen.toNat + 1 then some (Except.error SpErr.badLength)
      else some (Except.ok (SpPacket.mk hdr (rest.take (hdr.dataLen + 1).toNat)))) = _
    by_cases short : rest.length < hdr.dataLen.toNat + 1
    · rw [if_pos short, if_pos (by omega)]
    · rw [if_neg short, if_neg (by omega)]

/-- A packet too short for its header, or for what its header announces, is refused. -/
theorem spParse_short {buf : List UInt8} (short : buf.length < spPrimaryHeaderLen) :
    spParse buf = some (.error .bufTooSmall) := by
  unfold spParse spDecodePrimary
  rw [if_pos short]
  rfl

/-- An accepted buffer holds its header first, has the version zero, and is whole. -/
theorem spParse_accepted {buf : List UInt8} {packet : SpPacket}
    (accepted : spParse buf = some (.ok packet)) :
    ∃ b0 b1 b2 b3 b4 b5 rest, buf = b0 :: b1 :: b2 :: b3 :: b4 :: b5 :: rest ∧
      packet.hdr = primaryHdrOfBytes b0 b1 b2 b3 b4 b5 ∧ packet.hdr.version = 0 ∧
      packet.hdr.dataLen.toNat + 1 ≤ rest.length ∧
      packet.payload = rest.take (packet.hdr.dataLen + 1).toNat := by
  by_cases short : buf.length < spPrimaryHeaderLen
  · rw [spParse_short short] at accepted
    cases accepted
  · obtain ⟨b0, b1, b2, b3, b4, b5, rest, rfl⟩ := exists_header (Nat.le_of_not_lt short)
    rw [spParse_cons] at accepted
    refine ⟨b0, b1, b2, b3, b4, b5, rest, rfl, ?_⟩
    split at accepted
    · cases accepted
    · rename_i version
      split at accepted
      · cases accepted
      · rename_i whole
        cases accepted
        exact ⟨rfl, Decidable.of_not_not version, Nat.le_of_not_lt whole, rfl⟩

end Openobsw.Ccsds
