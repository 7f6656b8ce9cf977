import Mathlib.Logic.Basic
import Openobsw.Tc.Dispatcher

/-!
Owns the comparison of the two acceptance tests of the dispatcher: the check of a
stored packet and the one inlined in the feed. They differ on the packet type.
-/

namespace Openobsw

open Openobsw.Ccsds

variable {σ : Type}

/-- The packet has a secondary header and room for the PUS fields. -/
def HasPusHeader (pkt : SpPacket) : Prop :=
  pkt.hdr.secHdrFlag ≠ 0 ∧ pusTcSecHdrLen ≤ pkt.payload.length

theorem not_hasPusHeader_iff (pkt : SpPacket) :
    (pkt.hdr.secHdrFlag = 0 ∨ pkt.payload.length < pusTcSecHdrLen) ↔ ¬ HasPusHeader pkt := by
  unfold HasPusHeader
  rw [not_and_or, not_not, Nat.not_le]

/-! ### The two tests -/

/-- The feed goes on with every packet that has the PUS header. -/
theorem tcParse_accepts_iff (frame : List UInt8) :
    (∃ tc, tcParse frame = some (some tc)) ↔
      ∃ pkt, spParse frame = some (.ok pkt) ∧ HasPusHeader pkt := by
  obtain ⟨result, resultEq⟩ := spParse_isSome frame
  unfold tcParse
  rw [resultEq]
  cases result with
  | error code => simp
  | ok pkt =>
      simp only [Option.bind_eq_bind, Option.bind_some, Option.some.injEq, Except.ok.injEq,
        exists_eq_left']
      by_cases header : HasPusHeader pkt
      · obtain ⟨tc, tcEq⟩ := tcOfPacket_isSome pkt (Nat.not_lt.mpr header.2)
        rw [if_neg (fun short => (not_hasPusHeader_iff pkt).mp short header), tcEq]
        exact ⟨fun _ => header, fun _ => ⟨tc, rfl⟩⟩
      · rw [if_pos ((not_hasPusHeader_iff pkt).mpr header)]
        simp [header]

/-- The stored-packet check also asks for the TC type. -/
theorem tcPacketCheck_accepts_iff (frame : List UInt8) :
    (∃ service, tcPacketCheck frame = some (some service)) ↔
      ∃ pkt, spParse frame = some (.ok pkt) ∧ pkt.hdr.type = spTypeTc ∧ HasPusHeader pkt := by
  obtain ⟨result, resultEq⟩ := spParse_isSome frame
  unfold tcPacketCheck
  rw [resultEq]
  cases result with
  | error code => simp
  | ok pkt =>
      simp only [Option.bind_eq_bind, Option.bind_some, Option.some.injEq, Except.ok.injEq,
        exists_eq_left']
      by_cases accepted : pkt.hdr.type = spTypeTc ∧ HasPusHeader pkt
      · have long : 5 ≤ pkt.payload.length := accepted.2.2
        have passes : ¬ (pkt.hdr.type ≠ spTypeTc ∨ pkt.hdr.secHdrFlag = 0 ∨
            pkt.payload.length < pusTcSecHdrLen) := by
          rw [not_hasPusHeader_iff]
          rintro (other | short)
          · exact other accepted.1
          · exact short accepted.2
        rw [if_neg passes, List.getElem?_eq_getElem (by omega)]
        exact ⟨fun _ => accepted, fun _ => ⟨_, rfl⟩⟩
      · rw [if_pos (by rwa [not_hasPusHeader_iff, ne_eq, ← not_and_or])]
        simp [accepted]

/-- Only a packet that the acceptance test drops is answered with `errParse`. -/
theorem feed_errParse_iff (d : Dispatcher σ) (frame : List UInt8) (state : σ) :
    (∃ after, tcDispatcherFeed d frame state = some (.errParse, after)) ↔
      ¬ ∃ tc, tcParse frame = some (some tc) := by
  have outcome := feed_outcome d frame state
  generalize tcDispatcherFeed d frame state = result at outcome ⊢
  cases outcome with
  | dropped parsed => simp [parsed]
  | gated tc parsed gate installed refused => simp [parsed]
  | passed tc parsed allowed looked =>
      cases looked with
      | handled route member addressed subservice =>
          simp only [parsed, Option.some.injEq, exists_eq', not_true_eq_false, iff_false]
          rintro ⟨after, same⟩
          obtain ⟨out, _, coded⟩ := Option.map_eq_some_iff.mp same
          have code : (if out.1 = 0 then TcRc.ok else .errHandler) = .errParse :=
            congrArg Prod.fst coded
          split at code <;> cases code
      | unrouted missing => simp [parsed]

/-- A dropped packet reaches neither handler nor responder. -/
theorem feed_of_dropped {frame : List UInt8} (dropped : ¬ ∃ tc, tcParse frame = some (some tc))
    (d : Dispatcher σ) (state : σ) : tcDispatcherFeed d frame state = some (.errParse, state) := by
  have outcome := feed_outcome d frame state
  generalize tcDispatcherFeed d frame state = result at outcome ⊢
  cases outcome with
  | dropped parsed => rfl
  | gated tc parsed gate installed refused => exact absurd ⟨tc, parsed⟩ dropped
  | passed tc parsed allowed looked => exact absurd ⟨tc, parsed⟩ dropped

/-! ### Where they agree -/

/-- The check and the feed agree on the bytes: one accepts them when the other does,
the packet is routed on the reported service, and a packet that is not of TC type is
dropped by the feed. -/
structure ChecksAgree (frame : List UInt8) : Prop where
  verdict : ∀ (σ : Type) (d : Dispatcher σ) (state : σ),
    (∃ service, tcPacketCheck frame = some (some service)) ↔
      ¬ ∃ after, tcDispatcherFeed d frame state = some (.errParse, after)
  routed : ∀ service, tcPacketCheck frame = some (some service) →
    ∃ tc, tcParse frame = some (some tc) ∧ tc.service = service
  typed : ∀ pkt, spParse frame = some (.ok pkt) → pkt.hdr.type ≠ spTypeTc →
    ∀ (σ : Type) (d : Dispatcher σ) (state : σ),
      tcDispatcherFeed d frame state = some (.errParse, state)

/-- What the feed misses: a complete packet of another type than TC with a PUS header. -/
def WrongType (frame : List UInt8) : Prop :=
  ∃ pkt, spParse frame = some (.ok pkt) ∧ pkt.hdr.type ≠ spTypeTc ∧ HasPusHeader pkt

/-- A dispatcher without routes and gate, to state what a feed does to the bytes alone. -/
def bareDispatcher : Dispatcher Unit where
  table := []
  responder _ _ _ := some ()
  gate := none

/-- The two tests agree exactly on the bytes that are no complete PUS packet of
another type than TC. -/
theorem checksAgree_iff (frame : List UInt8) : ChecksAgree frame ↔ ¬ WrongType frame := by
  constructor
  · rintro agree ⟨pkt, parsed, type, header⟩
    have dropped := agree.typed pkt parsed type Unit bareDispatcher ()
    exact (feed_errParse_iff bareDispatcher frame ()).mp ⟨(), dropped⟩
      ((tcParse_accepts_iff frame).mpr ⟨pkt, parsed, header⟩)
  · intro right
    constructor
    · intro σ d state
      rw [feed_errParse_iff, not_not, tcPacketCheck_accepts_iff, tcParse_accepts_iff]
      constructor
      · rintro ⟨pkt, parsed, _, header⟩
        exact ⟨pkt, parsed, header⟩
      · rintro ⟨pkt, parsed, header⟩
        by_cases type : pkt.hdr.type = spTypeTc
        · exact ⟨pkt, parsed, type, header⟩
        · exact absurd ⟨pkt, parsed, type, header⟩ right
    · intro service checked
      obtain ⟨pkt, parsed, _, header⟩ := (tcPacketCheck_accepts_iff frame).mp ⟨service, checked⟩
      obtain ⟨tc, tcEq⟩ := (tcParse_accepts_iff frame).mpr ⟨pkt, parsed, header⟩
      exact ⟨tc, tcEq, service_of_packetCheck checked tcEq⟩
    · intro pkt parsed type σ d state
      apply feed_of_dropped
      intro accepted
      obtain ⟨other, otherParsed, header⟩ := (tcParse_accepts_iff frame).mp accepted
      rw [parsed] at otherParsed
      cases otherParsed
      exact right ⟨pkt, parsed, type, header⟩

/-- A ping whose packet type bit is clear: the stored-packet check refuses it, and the
dispatcher hands it to the handler. -/
def tmTypedPing : List UInt8 := [0x08, 0x10, 0xC0, 0, 0, 4, 0x20, 17, 1, 0, 0]

theorem not_checksAgree_tmTypedPing :
    tcPacketCheck tmTypedPing = some none ∧
      (tcDispatcherFeed { bareDispatcher with
        table := [⟨0xFFFF, 17, 1, fun _ state => some (0, state)⟩] } tmTypedPing () =
          some (.ok, ())) ∧
      ¬ ChecksAgree tmTypedPing := by
  have refused : tcPacketCheck tmTypedPing = some none := by decide
  have handled : tcDispatcherFeed { bareDispatcher with
      table := [⟨0xFFFF, 17, 1, fun _ state => some (0, state)⟩] } tmTypedPing () =
        some (.ok, ()) := by rfl
  refine ⟨refused, handled, ?_⟩
  intro agree
  have accepted := (agree.verdict Unit _ ()).mpr (by
    rintro ⟨after, dropped⟩
    rw [handled] at dropped
    cases dropped)
  obtain ⟨service, checked⟩ := accepted
  rw [refused] at checked
  cases checked

end Openobsw
