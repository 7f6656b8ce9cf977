import Openobsw.Ccsds.SpacePacket

/-!
Owns the round trip of space packets through `space_packet.c`: what the encoder
writes the parser reads back, what is too short or of another version it
refuses, and a header it accepted encodes to the bytes it came from.
-/

namespace Openobsw.Ccsds

/-- The parser refuses the buffer with a return code. -/
def Refuses (buf : List UInt8) : Prop :=
  ∃ code, spParse buf = some (.error code)

/-- The data length the header of a buffer announces. -/
def announcedLen (buf : List UInt8) : Option Nat := do
  let high ← buf[4]?
  let low ← buf[5]?
  return high.toNat * 256 + low.toNat

/-- The version number the header of a buffer carries. -/
def announcedVersion (buf : List UInt8) : Option Nat :=
  buf[0]?.map (·.toNat / 32)

/-- What encoder and parser owe each other: over a packet built from a header, and over any
buffer received. -/
structure PacketLaw (hdr : PrimaryHdr) (payload trailing buf : List UInt8) : Prop where
  parsed : spParse (spEncodePrimary hdr ++ payload ++ trailing) = some (.ok ⟨hdr, payload⟩)
  noHeader : buf.length < 6 → Refuses buf
  cutShort : ∀ dataLen, announcedLen buf = some dataLen → buf.length < 7 + dataLen → Refuses buf
  otherVersion : ∀ version, announcedVersion buf = some version → version ≠ 0 → Refuses buf
  encodedAgain : ∀ packet, spParse buf = some (.ok packet) →
    spEncodePrimary packet.hdr = buf.take 6

theorem refuses_of_not_accepted {buf : List UInt8}
    (refused : ∀ packet, spParse buf ≠ some (.ok packet)) : Refuses buf := by
  obtain ⟨result, resultEq⟩ := spParse_isSome buf
  cases result with
  | error code => exact ⟨code, resultEq⟩
  | ok packet => exact absurd resultEq (refused packet)

theorem refuses_cut_short {buf : List UInt8} {dataLen : Nat}
    (announced : announcedLen buf = some dataLen) (short : buf.length < 7 + dataLen) :
    Refuses buf := by
  refine refuses_of_not_accepted ?_
  intro packet accepted
  obtain ⟨b0, b1, b2, b3, b4, b5, rest, rfl, hdr, _, whole, _⟩ := spParse_accepted accepted
  have lengthEq : b4.toNat * 256 + b5.toNat = dataLen := Option.some.inj announced
  have bytes : (b0 :: b1 :: b2 :: b3 :: b4 :: b5 :: rest).length = rest.length + 6 := rfl
  rw [hdr, primaryHdrOfBytes_dataLen] at whole
  omega

theorem refuses_other_version {buf : List UInt8} {version : Nat}
    (announced : announcedVersion buf = some version) (other : version ≠ 0) : Refuses buf := by
  refine refuses_of_not_accepted ?_
  intro packet accepted
  obtain ⟨b0, b1, b2, b3, b4, b5, rest, rfl, hdr, zero, _, _⟩ := spParse_accepted accepted
  have versionEq : b0.toNat / 32 = version := Option.some.inj announced
  have carried := primaryHdrOfBytes_version b0 b1 b2 b3 b4 b5
  rw [← hdr, zero, versionEq] at carried
  exact other carried.symm

theorem encoded_again {buf : List UInt8} {packet : SpPacket}
    (accepted : spParse buf = some (.ok packet)) :
    spEncodePrimary packet.hdr = buf.take 6 := by
  obtain ⟨b0, b1, b2, b3, b4, b5, rest, rfl, hdr, _, _, _⟩ := spParse_accepted accepted
  rw [hdr, spEncodePrimary_ofBytes]
  rfl

/-- The parser on an encoded packet of version zero: the payload slice is as long as the
sixteen-bit `payload_len` says. -/
theorem spParse_encode {hdr : PrimaryHdr} (version : hdr.version.toNat % 8 = 0)
    {rest : List UInt8} (whole : hdr.dataLen.toNat + 1 ≤ rest.length) :
    spParse (spEncodePrimary hdr ++ rest) =
      some (.ok ⟨hdr.truncated, rest.take (hdr.dataLen + 1).toNat⟩) := by
  obtain ⟨b0, b1, b2, b3, b4, b5, bytes, encoded⟩ := spEncodePrimary_encoded hdr
  have zero : ¬ hdr.truncated.version ≠ 0 := by
    refine not_not_intro (UInt8.toNat_inj.mp ?_)
    rw [PrimaryHdr.truncated_version, version]
    rfl
  have long : ¬ rest.length < hdr.truncated.dataLen.toNat + 1 := Nat.not_lt_of_le whole
  rw [bytes]
  show spParse (b0 :: b1 :: b2 :: b3 :: b4 :: b5 :: rest) = _
  rw [spParse_cons, encoded.decoded, if_neg zero, if_neg long, PrimaryHdr.truncated_dataLen]

/-- The length the parser stores for the payload is the length of the payload, below the largest
data length. -/
theorem payloadLen_toNat {dataLen : UInt16} (below : dataLen ≠ 0xFFFF) :
    (dataLen + 1).toNat = dataLen.toNat + 1 := by
  have fits := dataLen.toNat_lt
  have notLast : dataLen.toNat ≠ 65535 := fun last => below (UInt16.toNat_inj.mp last)
  rw [UInt16.toNat_add, show (1 : UInt16).toNat = 1 from rfl]
  omega

theorem spParse_packet_iff {hdr : PrimaryHdr} (inRange : hdr.InRange)
    {payload : List UInt8} (sized : payload.length = hdr.dataLen.toNat + 1)
    (trailing : List UInt8) :
    spParse (spEncodePrimary hdr ++ payload ++ trailing) = some (.ok ⟨hdr, payload⟩) ↔
      hdr.dataLen ≠ 0xFFFF := by
  have version : hdr.version.toNat % 8 = 0 := by
    rw [inRange.version]
    rfl
  have whole : hdr.dataLen.toNat + 1 ≤ (payload ++ trailing).length := by
    rw [List.length_append]
    omega
  rw [List.append_assoc, spParse_encode version whole, inRange.truncated]
  constructor
  · intro parsed last
    have slice : (payload ++ trailing).take (hdr.dataLen + 1).toNat = payload := by
      injection parsed with parsed
      injection parsed with parsed
      injection parsed with _ slice
    rw [last, show ((0xFFFF : UInt16) + 1).toNat = 0 from rfl, List.take_zero] at slice
    rw [← slice] at sized
    exact absurd sized (Nat.succ_ne_zero _).symm
  · intro below
    rw [payloadLen_toNat below, ← sized, List.take_left]

/-- Encoder and parser agree on every packet except those of the largest data length, whose
payload comes back empty. -/
theorem packetLaw_iff (hdr : PrimaryHdr) (inRange : hdr.InRange) (payload : List UInt8)
    (sized : payload.length = hdr.dataLen.toNat + 1) (trailing buf : List UInt8) :
    PacketLaw hdr payload trailing buf ↔ hdr.dataLen ≠ 0xFFFF := by
  constructor
  · intro law
    exact (spParse_packet_iff inRange sized trailing).mp law.parsed
  · intro below
    exact
      { parsed := (spParse_packet_iff inRange sized trailing).mpr below
        noHeader := fun short => ⟨_, spParse_short short⟩
        cutShort := fun _ announced short => refuses_cut_short announced short
        otherVersion := fun _ announced other => refuses_other_version announced other
        encodedAgain := fun _ accepted => encoded_again accepted }

/-- A telecommand header with APID 1 and the given data length. -/
def commandHdr (dataLen : UInt16) : PrimaryHdr where
  version := 0
  type := spTypeTc
  secHdrFlag := 1
  apid := 1
  seqFlags := spSeqUnsegmented
  seqCount := 0
  dataLen := dataLen

theorem commandHdr_inRange (dataLen : UInt16) : (commandHdr dataLen).InRange where
  version := rfl
  type := show (1 : UInt8).toNat < 2 by decide
  secHdrFlag := show (1 : UInt8).toNat < 2 by decide
  apid := show (1 : UInt16).toNat < 2 ^ 11 by decide
  seqFlags := show (3 : UInt8).toNat < 4 by decide
  seqCount := show (0 : UInt16).toNat < 2 ^ 14 by decide

/-- A packet of one data byte goes through, in front of a buffer that holds half a header. -/
theorem packetLaw_oneByte : PacketLaw (commandHdr 0) [0x2A] [] [0x18, 0x01, 0xC0] :=
  (packetLaw_iff (commandHdr 0) (commandHdr_inRange 0) [0x2A] rfl [] [0x18, 0x01, 0xC0]).mpr
    (by decide)

/-- A payload of 65536 bytes is legal, is accepted, and comes back with no bytes. -/
theorem largest_packet_loses_payload :
    ¬ ∀ (hdr : PrimaryHdr), hdr.InRange → ∀ (payload : List UInt8),
      payload.length = hdr.dataLen.toNat + 1 → ∀ trailing buf : List UInt8,
        PacketLaw hdr payload trailing buf := by
  intro law
  have inRange := commandHdr_inRange 0xFFFF
  have sized : (List.replicate 65536 (0 : UInt8)).length = (commandHdr 0xFFFF).dataLen.toNat + 1 :=
    List.length_replicate
  exact (spParse_packet_iff inRange sized []).mp (law _ inRange _ sized [] []).parsed rfl

end Openobsw.Ccsds
