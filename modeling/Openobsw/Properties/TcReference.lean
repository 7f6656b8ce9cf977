import Openobsw.Properties.Verification

/-!
Owns the request reference in the verification reports: the four bytes that
`encode_tc_ref` rebuilds from the parsed packet, beside the four it was sent with.
-/

namespace Openobsw.System

open Openobsw.Ccsds Openobsw.Lib.Words Openobsw.Pus Openobsw.Pus.S1 Openobsw.Util

variable {cfg : Config}

/-! ### What is rebuilt -/

theorem packetId_toNat (apid : UInt16) :
    (((1 : UInt16) <<< 12) ||| ((1 : UInt16) <<< 11) ||| (apid &&& 0x7FF)).toNat =
      6144 + apid.toNat % 2048 := by
  have apidEq : (apid &&& 0x7FF).toNat = apid.toNat % 2 ^ 11 := toNat_and16 11 rfl apid
  rw [UInt16.toNat_or, apidEq]
  exact or_eq_add 11 rfl (Nat.mod_lt _ (by decide))

theorem sequenceControl_toNat (seqCount : UInt16) :
    (((3 : UInt16) <<< 14) ||| (seqCount &&& 0x3FFF)).toNat = 49152 + seqCount.toNat % 16384 := by
  have countEq : (seqCount &&& 0x3FFF).toNat = seqCount.toNat % 2 ^ 14 := toNat_and16 14 rfl seqCount
  rw [UInt16.toNat_or, countEq]
  exact or_eq_add 14 rfl (Nat.mod_lt _ (by decide))

/-- The reference names a telecommand with a secondary header, unsegmented. -/
theorem encodeTcRef_eq_iff (tc : Tc) (b0 b1 b2 b3 : UInt8) :
    encodeTcRef tc = [b0, b1, b2, b3] ↔
      b0.toNat = 24 + tc.apid.toNat / 256 % 8 ∧ b1.toNat = tc.apid.toNat % 256 ∧
        b2.toNat = 192 + tc.seqCount.toNat / 256 % 64 ∧ b3.toNat = tc.seqCount.toNat % 256 := by
  have apid := packetId_toNat tc.apid
  have count := sequenceControl_toNat tc.seqCount
  unfold encodeTcRef putBe16
  simp only [List.cons_append, List.nil_append, List.cons.injEq, and_true]
  rw [← UInt8.toNat_inj, ← UInt8.toNat_inj, ← UInt8.toNat_inj, ← UInt8.toNat_inj,
    highByte_toNat, lowByte_toNat, highByte_toNat, lowByte_toNat, apid, count]
  omega

/-- The header of the packet is that of a telecommand sent as one packet. -/
def IsUnsegmentedTc (frame : List UInt8) : Prop :=
  ∃ pkt, spParse frame = some (.ok pkt) ∧ pkt.hdr.type = spTypeTc ∧
    pkt.hdr.seqFlags = spSeqUnsegmented

/-- What the dispatcher keeps of the header of a packet it accepts. -/
theorem tcParse_header {frame : List UInt8} {tc : Tc} (parsed : tcParse frame = some (some tc)) :
    ∃ pkt, spParse frame = some (.ok pkt) ∧ pkt.hdr.secHdrFlag ≠ 0 ∧
      tc.apid = pkt.hdr.apid ∧ tc.seqCount = pkt.hdr.seqCount := by
  obtain ⟨result, resultEq⟩ := spParse_isSome frame
  unfold tcParse at parsed
  rw [resultEq] at parsed
  cases result with
  | error code => cases parsed
  | ok pkt =>
      refine ⟨pkt, resultEq, ?_⟩
      simp only [Option.bind_eq_bind, Option.bind_some] at parsed
      split at parsed
      · cases parsed
      · rename_i accepted
        obtain ⟨found, cut, same⟩ := Option.bind_eq_some_iff.mp parsed
        cases same
        obtain ⟨service, _, cut⟩ := Option.bind_eq_some_iff.mp cut
        obtain ⟨subservice, _, cut⟩ := Option.bind_eq_some_iff.mp cut
        cases cut
        exact ⟨fun none => accepted (.inl none), rfl, rfl⟩

/-- The rebuilt reference is the packet's own exactly for an unsegmented telecommand: the packet
type and the sequence flags are the two fields that the parsed packet does not keep. -/
theorem encodeTcRef_iff {frame : List UInt8} {tc : Tc} (parsed : tcParse frame = some (some tc)) :
    encodeTcRef tc = frame.take 4 ↔ IsUnsegmentedTc frame := by
  obtain ⟨pkt, pktEq, flagged, apid, seqCount⟩ := tcParse_header parsed
  obtain ⟨b0, b1, b2, b3, b4, b5, rest, rfl, hdr, version, _, _⟩ := spParse_accepted pktEq
  have versionEq := primaryHdrOfBytes_version b0 b1 b2 b3 b4 b5
  have typeEq := primaryHdrOfBytes_type b0 b1 b2 b3 b4 b5
  have flagEq := primaryHdrOfBytes_secHdrFlag b0 b1 b2 b3 b4 b5
  have apidEq := primaryHdrOfBytes_apid b0 b1 b2 b3 b4 b5
  have seqFlagsEq := primaryHdrOfBytes_seqFlags b0 b1 b2 b3 b4 b5
  have seqCountEq := primaryHdrOfBytes_seqCount b0 b1 b2 b3 b4 b5
  rw [← hdr] at versionEq typeEq flagEq apidEq seqFlagsEq seqCountEq
  have zero : pkt.hdr.version.toNat = 0 := congrArg UInt8.toNat version
  have raised : pkt.hdr.secHdrFlag.toNat ≠ 0 := fun none => flagged (UInt8.toNat_inj.mp none)
  have header : IsUnsegmentedTc (b0 :: b1 :: b2 :: b3 :: b4 :: b5 :: rest) ↔
      pkt.hdr.type.toNat = 1 ∧ pkt.hdr.seqFlags.toNat = 3 := by
    unfold IsUnsegmentedTc
    rw [pktEq]
    constructor
    · intro found
      obtain ⟨other, same, type, seqFlags⟩ := found
      cases same
      exact ⟨congrArg UInt8.toNat type, congrArg UInt8.toNat seqFlags⟩
    · intro fields
      exact ⟨pkt, rfl, UInt8.toNat_inj.mp fields.1, UInt8.toNat_inj.mp fields.2⟩
  have byte1 := b1.toNat_lt
  have byte3 := b3.toNat_lt
  rw [header]
  show encodeTcRef tc = [b0, b1, b2, b3] ↔ _
  rw [encodeTcRef_eq_iff, apid, seqCount]
  omega

/-! ### What the reports carry -/

/-- Every verification report among the TMs begins with the first four bytes of the packet. -/
def Identifies (frame : List UInt8) (built : List TmBuilt) : Prop :=
  ∀ tm ∈ built, tm.request.svc = 1 → tm.request.data.take 4 = frame.take 4

/-- The reports for one packet all carry one reference, and there is one at least. -/
structure References (reference : List UInt8) (built : List TmBuilt) : Prop where
  some : ∃ tm ∈ built, tm.request.svc = 1
  all : ∀ tm ∈ built, tm.request.svc = 1 → tm.request.data.take 4 = reference

theorem References.identifies_iff {reference frame : List UInt8} {built : List TmBuilt}
    (references : References reference built) :
    Identifies frame built ↔ reference = frame.take 4 := by
  constructor
  · intro identifies
    obtain ⟨tm, member, own⟩ := references.some
    exact (references.all tm member own).symm.trans (identifies tm member own)
  · intro same tm member own
    exact (references.all tm member own).trans same

theorem IsReport.reference {tc : Tc} {subsvc : UInt8} {rest : List UInt8} {tm : TmBuilt}
    (report : IsReport subsvc (encodeTcRef tc ++ rest) tm) :
    tm.request.data.take 4 = encodeTcRef tc := by
  rw [report.sameData]
  exact List.take_left' (encodeTcRef_length tc)

theorem references_single {tc : Tc} {subsvc : UInt8} {rest : List UInt8} {tm : TmBuilt}
    (report : IsReport subsvc (encodeTcRef tc ++ rest) tm) :
    References (encodeTcRef tc) [tm] where
  some := ⟨tm, List.mem_singleton.mpr rfl, report.svc⟩
  all := by
    intro other member _
    rw [List.mem_singleton.mp member]
    exact report.reference

theorem references_executed {tc : Tc} {first last : TmBuilt} {others : List TmBuilt}
    {subsvc : UInt8} {rest : List UInt8} (acceptance : IsReport 1 (encodeTcRef tc ++ []) first)
    (foreign : ∀ tm ∈ others, tm.request.svc ≠ 1)
    (completion : IsReport subsvc (encodeTcRef tc ++ rest) last) :
    References (encodeTcRef tc) (first :: others ++ [last]) where
  some := ⟨first, List.mem_cons_self, acceptance.svc⟩
  all := by
    intro tm member own
    rcases List.mem_append.mp member with front | back
    · rcases List.mem_cons.mp front with here | inOthers
      · rw [here]
        exact acceptance.reference
      · exact absurd own (foreign tm inOthers)
    · rw [List.mem_singleton.mp back]
      exact completion.reference

theorem Verified.references {w : Wiring cfg} {frame : List UInt8} {board : Board cfg} {rc : TcRc}
    {built : List TmBuilt} {tc : Tc} (verified : Verified w frame board rc built)
    (parsed : tcParse frame = some (some tc)) : References (encodeTcRef tc) built := by
  have same : ∀ {other : Tc}, tcParse frame = some (some other) → other = tc := by
    intro other otherParsed
    rw [parsed] at otherParsed
    cases otherParsed
    rfl
  cases verified with
  | dropped nothing =>
      rw [parsed] at nothing
      cases nothing
  | gated other otherParsed refused tm report =>
      cases same otherParsed
      exact references_single report
  | illegalService other otherParsed admitted unserved tm report =>
      cases same otherParsed
      exact references_single report
  | illegalSubservice other otherParsed admitted served missing tm report =>
      cases same otherParsed
      exact references_single report
  | rejected other otherParsed admitted entry takes code known tm report =>
      cases same otherParsed
      exact references_single report
  | completed other otherParsed admitted entry takes first last others acceptance foreign done =>
      cases same otherParsed
      have plain : IsReport 7 (encodeTcRef tc ++ []) last := done
      exact references_executed acceptance foreign plain
  | failed other otherParsed admitted entry takes first last others acceptance foreign failure =>
      cases same otherParsed
      exact references_executed acceptance foreign failure

/-- Every accepted packet is answered, in every state a board can be in, with reports that name
it exactly when its header is that of an unsegmented telecommand. -/
theorem feed_identifies_iff (w : Wiring cfg) (origin : Origin) (frame : List UInt8) (tc : Tc)
    (parsed : tcParse frame = some (some tc)) (obsw : Obsw cfg) :
    (∀ rc after, feed w origin frame obsw = some (rc, after) →
      (Identifies frame (issued obsw.link after.link) ↔ IsUnsegmentedTc frame)) ∧
    (Sound obsw.board → ∃ rc after, feed w origin frame obsw = some (rc, after)) := by
  constructor
  · intro rc after ran
    rw [((verified_of_feed ran).references parsed).identifies_iff, encodeTcRef_iff parsed]
  · intro sound
    obtain ⟨rc, after, ran, _⟩ := feed_taken w origin frame sound
    exact ⟨rc, after, ran⟩

theorem cold_ping_identified :
    ∃ rc after,
      feed (pingWiring false) .uplink pingFrame (Obsw.cold Config.default) = some (rc, after) ∧
      (Identifies pingFrame (issued (Obsw.cold Config.default).link after.link) ↔
        IsUnsegmentedTc pingFrame) := by
  have law := feed_identifies_iff (pingWiring false) .uplink pingFrame pingTc (by decide)
    (Obsw.cold Config.default)
  obtain ⟨rc, after, ran⟩ := law.2 (cold_booted _).sound
  exact ⟨rc, after, ran, law.1 rc after ran⟩

/-- The ping sent as the first of several segments, which the dispatcher accepts. -/
def segmentedPing : List UInt8 := [0x18, 0x10, 0x40, 0, 0, 4, 0x20, 17, 1, 0, 0]

/-- The segmented ping is answered, with reports that name an unsegmented packet. -/
theorem segmented_ping_unidentified :
    ¬ ∀ (w : Wiring Config.default) (origin : Origin) (frame : List UInt8) (tc : Tc),
      tcParse frame = some (some tc) → ∀ (obsw : Obsw Config.default) (rc : TcRc)
        (after : Obsw Config.default), feed w origin frame obsw = some (rc, after) →
        Identifies frame (issued obsw.link after.link) := by
  intro always
  have parsed : tcParse segmentedPing = some (some pingTc) := by decide
  obtain ⟨rc, after, ran, _⟩ :=
    feed_taken (pingWiring false) .uplink segmentedPing (cold_booted Config.default).sound
  have identified := always (pingWiring false) .uplink segmentedPing pingTc parsed
    (Obsw.cold Config.default) rc after ran
  have reference := ((verified_of_feed ran).references parsed).identifies_iff.mp identified
  exact absurd reference (by decide)

end Openobsw.System
