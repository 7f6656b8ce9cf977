import Openobsw.Properties.PacketCheck
import Openobsw.Tc.Calls

/-!
Owns the routing of PUS packets: the gate is asked first, then the first entry of the table
that serves the packet gets it, and a packet without one is rejected once, with the reason
that the whole table gives.
-/

namespace Openobsw.Calls

open Openobsw.Ccsds

variable {m : Type → Type} {κ : Type}

/-! ### What a feed has to call -/

/-- The entry is for the packet's APID and service. -/
def Route.ServesService (route : Route m κ) (tc : Tc) : Prop :=
  (route.apid = tc.apid ∨ route.apid = 0xFFFF) ∧ route.service = tc.service

instance (route : Route m κ) (tc : Tc) : Decidable (route.ServesService tc) :=
  inferInstanceAs (Decidable ((route.apid = tc.apid ∨ route.apid = 0xFFFF) ∧
    route.service = tc.service))

/-- The entry matches the packet. -/
def Route.Serves (route : Route m κ) (tc : Tc) : Prop :=
  route.ServesService tc ∧ route.subservice = tc.subservice

instance (route : Route m κ) (tc : Tc) : Decidable (route.Serves tc) :=
  inferInstanceAs (Decidable (route.ServesService tc ∧ route.subservice = tc.subservice))

/-- The first entry that matches the packet. -/
def firstServing (table : List (Route m κ)) (tc : Tc) : Option (Route m κ) :=
  table.find? fun route => route.Serves tc

/-- The reason for a packet that no entry matches. -/
def unroutedReason (table : List (Route m κ)) (tc : Tc) (otherwise : UInt8) : UInt8 :=
  if table.any fun route => route.ServesService tc then tcRejectSubsvc else otherwise

/-- The TC carries the fields of the packet in a frame, and as user data the bytes after the
secondary header, when there are any. -/
structure Carries (frame : List UInt8) (pkt : SpPacket) (tc : Tc) : Prop where
  apid : tc.apid = pkt.hdr.apid
  seqCount : tc.seqCount = pkt.hdr.seqCount
  service : pkt.payload[1]? = some tc.service
  subservice : pkt.payload[2]? = some tc.subservice
  userData : tc.userData =
    if pkt.payload.length = pusTcSecHdrLen then none else some (pkt.payload.drop pusTcSecHdrLen)
  userDataLen : tc.userDataLen = pkt.payload.length - pusTcSecHdrLen
  payload : pkt.payload = (frame.drop spPrimaryHeaderLen).take (pkt.hdr.dataLen.toNat + 1)
  inFrame : spPrimaryHeaderLen + pkt.payload.length ≤ frame.length

section

variable [Monad m]

/-- One reject, with the dispatcher's own context. -/
def Dispatcher.reject (d : Dispatcher m κ) (reason : UInt8) (rc : TcRc) (tc : Tc) : m TcRc := do
  d.responder (tcAckReject ||| reason) tc d.responderCtx
  return rc

/-- The calls for a packet that the gate lets through. -/
def Dispatcher.serve (d : Dispatcher m κ) (tc : Tc) (table : List (Route m κ))
    (otherwise : UInt8) : m TcRc :=
  match firstServing table tc with
  | some route => do
      let rc ← route.handler tc d.responder route.ctx
      return if rc = 0 then .ok else .errHandler
  | none => d.reject (unroutedReason table tc otherwise) .errNoRoute tc

/-- The calls for a packet, the gate first. -/
def Dispatcher.route (d : Dispatcher m κ) (tc : Tc) : m TcRc := do
  if ← d.consult tc then d.serve tc d.table tcRejectSvc
  else d.reject tcRejectGated .errGated tc

end

/-! ### The lookup loop -/

section

variable {route : Route m κ} {rest : List (Route m κ)} {tc : Tc}

theorem firstServing_cons (serves : route.Serves tc) :
    firstServing (route :: rest) tc = some route :=
  List.find?_cons_of_pos (decide_eq_true serves)

theorem firstServing_skip (other : ¬ route.Serves tc) :
    firstServing (route :: rest) tc = firstServing rest tc :=
  List.find?_cons_of_neg (by rwa [decide_eq_true_iff])

theorem unroutedReason_mark (addressed : route.ServesService tc) (otherwise : UInt8) :
    unroutedReason (route :: rest) tc otherwise = unroutedReason rest tc tcRejectSubsvc := by
  simp [unroutedReason, addressed]

theorem unroutedReason_skip (other : ¬ route.ServesService tc) (otherwise : UInt8) :
    unroutedReason (route :: rest) tc otherwise = unroutedReason rest tc otherwise := by
  simp [unroutedReason, other]

theorem skips_iff_not_servesService :
    (route.apid ≠ 0xFFFF ∧ route.apid ≠ tc.apid) ∨ route.service ≠ tc.service ↔
      ¬ route.ServesService tc := by
  unfold Route.ServesService
  grind

end

variable [Monad m]

/-- The loop finds the first matching entry and, without one, the reason of the table. -/
theorem Dispatcher.lookup_eq_serve (d : Dispatcher m κ) (tc : Tc) (table : List (Route m κ))
    (reason : UInt8) : d.lookup tc table reason = d.serve tc table reason := by
  induction table generalizing reason with
  | nil => rfl
  | cons route rest inductionHypothesis =>
      unfold Dispatcher.lookup
      by_cases addressed : route.ServesService tc
      · rw [if_neg (fun skips => skips_iff_not_servesService.mp skips addressed)]
        by_cases served : route.subservice = tc.subservice
        · rw [if_pos served]
          unfold Dispatcher.serve
          rw [firstServing_cons ⟨addressed, served⟩]
        · rw [if_neg served, inductionHypothesis]
          unfold Dispatcher.serve
          rw [firstServing_skip (fun serves => served serves.2), unroutedReason_mark addressed]
      · rw [if_pos (skips_iff_not_servesService.mpr addressed), inductionHypothesis]
        unfold Dispatcher.serve
        rw [firstServing_skip (fun serves => addressed serves.1), unroutedReason_skip addressed]

/-! ### The packet -/

theorem spParse_payload {frame : List UInt8} {pkt : SpPacket}
    (parsed : spParse frame = some (.ok pkt)) :
    pkt.payload = (frame.drop spPrimaryHeaderLen).take (pkt.hdr.dataLen + 1).toNat ∧
      spTotalLen pkt.hdr.dataLen ≤ frame.length := by
  unfold spParse at parsed
  cases decoded : spDecodePrimary frame with
  | none =>
      rw [decoded] at parsed
      cases parsed
  | some outcome =>
      rw [decoded] at parsed
      cases outcome with
      | error code => cases parsed
      | ok hdr =>
          simp only [Option.bind_eq_bind, Option.bind_some] at parsed
          split at parsed
          · cases parsed
          · rename_i long
            cases parsed
            exact ⟨rfl, Nat.le_of_not_lt long⟩

/-- A packet with a PUS header is cut out of its frame as it is. -/
theorem tcParse_carries {frame : List UInt8} {pkt : SpPacket}
    (parsed : spParse frame = some (.ok pkt)) (header : HasPusHeader pkt) :
    ∃ tc, tcParse frame = some (some tc) ∧ Carries frame pkt tc := by
  obtain ⟨slice, enough⟩ := spParse_payload parsed
  have long : 5 ≤ pkt.payload.length := header.2
  have total : spTotalLen pkt.hdr.dataLen = 7 + pkt.hdr.dataLen.toNat := by
    unfold spTotalLen spPrimaryHeaderLen
    omega
  -- A payload that holds the PUS header shows that its length has not wrapped.
  have counted : (pkt.hdr.dataLen + 1).toNat = pkt.hdr.dataLen.toNat + 1 := by
    have wraps : (pkt.hdr.dataLen + 1).toNat = (pkt.hdr.dataLen.toNat + 1) % 2 ^ 16 :=
      UInt16.toNat_add pkt.hdr.dataLen 1
    have within : pkt.payload.length ≤ (pkt.hdr.dataLen + 1).toNat := by
      rw [slice]
      exact List.length_take_le _ _
    have bound := pkt.hdr.dataLen.toNat_lt
    omega
  have size : pkt.payload.length = pkt.hdr.dataLen.toNat + 1 := by
    rw [slice, counted, List.length_take, List.length_drop]
    unfold spPrimaryHeaderLen
    omega
  obtain ⟨tc, tcEq⟩ := tcOfPacket_isSome pkt (Nat.not_lt.mpr long)
  refine ⟨tc, ?_, ?_⟩
  · unfold tcParse
    rw [parsed]
    simp only [Option.bind_eq_bind, Option.bind_some]
    rw [if_neg (fun short => (not_hasPusHeader_iff pkt).mp short header), tcEq]
    rfl
  · unfold tcOfPacket at tcEq
    rw [List.getElem?_eq_getElem (show 1 < pkt.payload.length by omega),
      List.getElem?_eq_getElem (show 2 < pkt.payload.length by omega)] at tcEq
    cases tcEq
    refine ⟨rfl, rfl, List.getElem?_eq_getElem _, List.getElem?_eq_getElem _, ?_, ?_,
      counted ▸ slice, ?_⟩
    · show (if pkt.payload.length > 5 then _ else _) = if pkt.payload.length = 5 then _ else _
      by_cases bare : pkt.payload.length = 5
      · rw [if_neg (by omega), if_pos bare]
      · rw [if_pos (by omega), if_neg bare]
    · show ((if pkt.payload.length > 5 then _ else none : Option (List UInt8)).getD []).length = _
      by_cases bare : pkt.payload.length = 5
      · rw [if_neg (by omega), bare]
        rfl
      · rw [if_pos (by omega)]
        exact List.length_drop
    · rw [size]
      unfold spPrimaryHeaderLen
      omega

/-! ### Routing -/

/-- For every dispatcher and every packet with a PUS header, a feed makes the calls of the
routing and no others. -/
theorem Dispatcher.feed_routes (d : Dispatcher m κ) {frame : List UInt8} {pkt : SpPacket}
    (parsed : spParse frame = some (.ok pkt)) (header : HasPusHeader pkt) :
    ∃ tc, Carries frame pkt tc ∧ d.feed frame = some (d.route tc) := by
  obtain ⟨tc, tcEq, carries⟩ := tcParse_carries parsed header
  refine ⟨tc, carries, ?_⟩
  unfold Dispatcher.feed Dispatcher.route
  rw [tcEq, ← d.lookup_eq_serve]
  rfl

/-- A dispatcher with two entries for one service; its calls write down their contexts. -/
def noting : Dispatcher (StateM (List Nat)) Nat where
  table := [
    { apid := 0x20, service := 17, subservice := 1, ctx := 1,
      handler := fun _ _ ctx notes => (0, notes ++ [ctx]) },
    { apid := 0xFFFF, service := 17, subservice := 1, ctx := 2,
      handler := fun _ _ ctx notes => (0, notes ++ [ctx]) }]
  responder := fun _ _ ctx notes => ((), notes ++ [ctx])
  responderCtx := 3
  gate := some fun _ ctx notes => (true, notes ++ [ctx])
  gateCtx := 4

/-- TC(17,1) for APID 0x10, with one byte of user data. -/
def pingFrame : List UInt8 := [0x18, 0x10, 0xC0, 0, 0, 5, 0x2F, 17, 1, 0, 0, 0xAA]

theorem noting_routes : ∃ tc, Carries pingFrame
      { hdr := primaryHdrOfBytes 0x18 0x10 0xC0 0 0 5, payload := [0x2F, 17, 1, 0, 0, 0xAA] } tc ∧
    noting.feed pingFrame = some (noting.route tc) :=
  noting.feed_routes (by rfl) ⟨by decide, by decide⟩

example : (noting.feed pingFrame).map (fun calls => (calls []).2) = some [4, 2] := by rfl

end Openobsw.Calls
