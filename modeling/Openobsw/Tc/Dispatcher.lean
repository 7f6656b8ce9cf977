import Openobsw.Ccsds.SpacePacket

/-!
Owns the TC dispatcher (`tc/dispatcher.c`): the stored-packet check and the
routing of one packet, over an arbitrary state type. Handlers, responder and
gate are functions of that state; `none` is an access outside an object.
-/

namespace Openobsw

open Openobsw.Ccsds

/-- `obsw_tc_t`. `userData` is the slice `user_data[0..user_data_len)`. -/
structure Tc where
  apid : UInt16
  service : UInt8
  subservice : UInt8
  seqCount : UInt16
  userData : Option (List UInt8)
deriving DecidableEq, Repr

/-- `tc->user_data_len` -/
def Tc.userDataLen (tc : Tc) : Nat := (tc.userData.getD []).length

inductive TcRc where
  | ok
  | errNoRoute
  | errHandler
  | errParse
  | errGated
deriving DecidableEq, Repr

def tcAckReject : UInt8 := 0x80

def tcRejectSvc : UInt8 := 0x10

def tcRejectSubsvc : UInt8 := 0x20

def tcRejectGated : UInt8 := 0x40

def pusTcSecHdrLen : Nat := 5

/-- `obsw_tc_packet_check`: the packet's service type when it returns
`OBSW_TC_OK`, nothing when it returns `OBSW_TC_ERR_PARSE`. -/
def tcPacketCheck (pkt : List UInt8) : Option (Option UInt8) := do
  match ← spParse pkt with
  | .error _ => return none
  | .ok sp =>
      if sp.hdr.type ≠ spTypeTc ∨ sp.hdr.secHdrFlag = 0 ∨ sp.payload.length < pusTcSecHdrLen then
        return none
      else do
        let service ← sp.payload[1]?
        return some service

/-- `obsw_tc_route_t`; the handler carries its context. -/
structure Route (σ : Type) where
  apid : UInt16
  service : UInt8
  subservice : UInt8
  handler : Tc → σ → Option (Int × σ)

/-- `obsw_tc_dispatcher_t` -/
structure Dispatcher (σ : Type) where
  table : List (Route σ)
  responder : UInt8 → Tc → σ → Option σ
  gate : Option (Tc → σ → Bool)

variable {σ : Type}

/-- The test of the lookup loop on APID and service. -/
def Route.matchesService (route : Route σ) (tc : Tc) : Bool :=
  !((route.apid != 0xFFFF && route.apid != tc.apid) || route.service != tc.service)

/-- The lookup loop of `obsw_tc_dispatcher_feed` with the reject that follows it. -/
def lookup (responder : UInt8 → Tc → σ → Option σ) (tc : Tc) :
    List (Route σ) → UInt8 → σ → Option (TcRc × σ)
  | [], reason, state => do
      let state ← responder (tcAckReject ||| reason) tc state
      return (.errNoRoute, state)
  | route :: rest, reason, state =>
      if route.matchesService tc = false then lookup responder tc rest reason state
      else if route.subservice = tc.subservice then do
        let (rc, state) ← route.handler tc state
        return (if rc = 0 then .ok else .errHandler, state)
      else lookup responder tc rest tcRejectSubsvc state

/-- The TC that `obsw_tc_dispatcher_feed` cuts out of a parsed packet. -/
def tcOfPacket (pkt : SpPacket) : Option Tc := do
  let service ← pkt.payload[1]?
  let subservice ← pkt.payload[2]?
  return {
    apid := pkt.hdr.apid
    service := service
    subservice := subservice
    seqCount := pkt.hdr.seqCount
    userData := if pkt.payload.length > pusTcSecHdrLen then
        some (pkt.payload.drop pusTcSecHdrLen) else none }

/-- The acceptance part of `obsw_tc_dispatcher_feed`: the TC it goes on with, or
nothing when it returns `OBSW_TC_ERR_PARSE`. -/
def tcParse (frame : List UInt8) : Option (Option Tc) := do
  match ← spParse frame with
  | .error _ => return none
  | .ok pkt =>
      if pkt.hdr.secHdrFlag = 0 ∨ pkt.payload.length < pusTcSecHdrLen then return none
      else do
        let tc ← tcOfPacket pkt
        return some tc

/-- `obsw_tc_dispatcher_feed` -/
def tcDispatcherFeed (d : Dispatcher σ) (frame : List UInt8) (state : σ) :
    Option (TcRc × σ) := do
  match ← tcParse frame with
  | none => return (.errParse, state)
  | some tc =>
      let refused := match d.gate with
        | some gate => !gate tc state
        | none => false
      if refused then do
        let state ← d.responder (tcAckReject ||| tcRejectGated) tc state
        return (.errGated, state)
      else lookup d.responder tc d.table tcRejectSvc state

/-! ### Parsing reads only inside the packet -/

theorem tcOfPacket_isSome (pkt : SpPacket) (long : ¬ pkt.payload.length < pusTcSecHdrLen) :
    ∃ tc, tcOfPacket pkt = some tc := by
  have bound : 5 ≤ pkt.payload.length := Nat.le_of_not_lt long
  unfold tcOfPacket
  rw [List.getElem?_eq_getElem (by omega), List.getElem?_eq_getElem (by omega)]
  exact ⟨_, rfl⟩

theorem tcParse_isSome (frame : List UInt8) : ∃ parsed, tcParse frame = some parsed := by
  obtain ⟨result, resultEq⟩ := spParse_isSome frame
  unfold tcParse
  rw [resultEq]
  cases result with
  | error code => exact ⟨_, rfl⟩
  | ok pkt =>
      simp only [Option.bind_eq_bind, Option.bind_some]
      split
      · exact ⟨_, rfl⟩
      · rename_i accepted
        obtain ⟨tc, tcEq⟩ := tcOfPacket_isSome pkt (fun short => accepted (.inr short))
        rw [tcEq]
        exact ⟨_, rfl⟩

theorem tcPacketCheck_isSome (pkt : List UInt8) :
    ∃ result, tcPacketCheck pkt = some result := by
  obtain ⟨parsed, parsedEq⟩ := spParse_isSome pkt
  unfold tcPacketCheck
  rw [parsedEq]
  cases parsed with
  | error code => exact ⟨_, rfl⟩
  | ok sp =>
      simp only [Option.bind_eq_bind, Option.bind_some]
      split
      · exact ⟨_, rfl⟩
      · rename_i accepted
        have long : 5 ≤ sp.payload.length :=
          Nat.le_of_not_lt (fun short => accepted (.inr (.inr short)))
        rw [List.getElem?_eq_getElem (by omega)]
        exact ⟨_, rfl⟩

/-- The dispatcher routes a packet on the service the stored-packet check reports. -/
theorem service_of_packetCheck {pkt : List UInt8} {service : UInt8} {tc : Tc}
    (checked : tcPacketCheck pkt = some (some service))
    (parsed : tcParse pkt = some (some tc)) : tc.service = service := by
  unfold tcPacketCheck at checked
  unfold tcParse at parsed
  cases result : spParse pkt with
  | none =>
      rw [result] at checked
      cases checked
  | some outcome =>
      rw [result] at checked parsed
      cases outcome with
      | error code => cases checked
      | ok sp =>
          simp only [Option.bind_eq_bind, Option.bind_some] at checked parsed
          split at checked
          · cases checked
          split at parsed
          · cases parsed
          unfold tcOfPacket at parsed
          cases first : sp.payload[1]? with
          | none =>
              rw [first] at checked
              cases checked
          | some byte =>
              rw [first] at checked parsed
              cases second : sp.payload[2]? with
              | none =>
                  rw [second] at parsed
                  cases parsed
              | some other =>
                  rw [second] at parsed
                  simp only [Option.bind_eq_bind, Option.bind_some, Option.pure_def,
                    Option.some.injEq] at checked parsed
                  rw [← parsed, ← checked]

/-! ### What one feed does -/

/-- How a handler's return code is passed on by the dispatcher. -/
def handlerRc (out : Int × σ) : TcRc × σ := (if out.1 = 0 then .ok else .errHandler, out.2)

/-- A route that passes the test of the lookup loop serves the packet's service. -/
theorem Route.service_of_matches {route : Route σ} {tc : Tc}
    (addressed : route.matchesService tc = true) : route.service = tc.service := by
  simp only [matchesService, Bool.not_eq_eq_eq_not, Bool.not_true, Bool.or_eq_false_iff,
    bne_eq_false_iff_eq] at addressed
  exact addressed.2

/-- The reject reason of a packet that no route serves: its subservice, when some
route serves its service, and else what the loop started with. -/
def rejectReason (table : List (Route σ)) (tc : Tc) (reason : UInt8) : UInt8 :=
  if table.any (fun route => route.matchesService tc) then tcRejectSubsvc else reason

/-- The ways the lookup loop ends: in the handler of a matching route, or in one
reject with the reason for it. -/
inductive LookupOutcome (responder : UInt8 → Tc → σ → Option σ) (tc : Tc)
    (table : List (Route σ)) (reason : UInt8) (state : σ) : Option (TcRc × σ) → Prop
  | handled (route : Route σ) (member : route ∈ table)
      (addressed : route.matchesService tc = true) (subservice : route.subservice = tc.subservice) :
      LookupOutcome responder tc table reason state ((route.handler tc state).map handlerRc)
  | unrouted
      (missing : ∀ route ∈ table, route.matchesService tc = true →
        route.subservice ≠ tc.subservice) :
      LookupOutcome responder tc table reason state
        ((responder (tcAckReject ||| rejectReason table tc reason) tc state).map
          (fun out => (.errNoRoute, out)))

/-- A route for another service is passed over. -/
theorem LookupOutcome.skip {responder : UInt8 → Tc → σ → Option σ} {tc : Tc}
    {rest : List (Route σ)} {reason : UInt8} {state : σ} {result : Option (TcRc × σ)}
    {route : Route σ} (other : route.matchesService tc = false)
    (outcome : LookupOutcome responder tc rest reason state result) :
    LookupOutcome responder tc (route :: rest) reason state result := by
  cases outcome with
  | handled found member addressed subservice =>
      exact .handled found (List.mem_cons_of_mem _ member) addressed subservice
  | unrouted missing =>
      have same : rejectReason (route :: rest) tc reason = rejectReason rest tc reason := by
        simp [rejectReason, other]
      rw [← same]
      apply LookupOutcome.unrouted
      intro found member addressed
      rcases List.mem_cons.mp member with here | later
      · rw [here, other] at addressed
        cases addressed
      · exact missing found later addressed

/-- A route for another subservice of the service leaves its mark in the reason. -/
theorem LookupOutcome.mark {responder : UInt8 → Tc → σ → Option σ} {tc : Tc}
    {rest : List (Route σ)} {reason : UInt8} {state : σ} {result : Option (TcRc × σ)}
    {route : Route σ} (addressed : route.matchesService tc = true)
    (other : route.subservice ≠ tc.subservice)
    (outcome : LookupOutcome responder tc rest tcRejectSubsvc state result) :
    LookupOutcome responder tc (route :: rest) reason state result := by
  cases outcome with
  | handled found member addressed subservice =>
      exact .handled found (List.mem_cons_of_mem _ member) addressed subservice
  | unrouted missing =>
      have same : rejectReason (route :: rest) tc reason = rejectReason rest tc tcRejectSubsvc := by
        simp [rejectReason, addressed]
      rw [← same]
      apply LookupOutcome.unrouted
      intro found member serves
      rcases List.mem_cons.mp member with here | later
      · rw [here]
        exact other
      · exact missing found later serves

theorem lookup_outcome (responder : UInt8 → Tc → σ → Option σ) (tc : Tc)
    (table : List (Route σ)) (reason : UInt8) (state : σ) :
    LookupOutcome responder tc table reason state (lookup responder tc table reason state) := by
  induction table generalizing reason with
  | nil =>
      have rejected : LookupOutcome responder tc [] reason state _ := .unrouted (by simp)
      simp only [lookup]
      cases answer : responder (tcAckReject ||| reason) tc state <;>
        simpa [answer, rejectReason] using rejected
  | cons route rest inductionHypothesis =>
      simp only [lookup]
      cases addressed : route.matchesService tc with
      | false =>
          rw [if_pos rfl]
          exact (inductionHypothesis reason).skip addressed
      | true =>
          rw [if_neg (by simp)]
          by_cases exact : route.subservice = tc.subservice
          · have called : LookupOutcome responder tc (route :: rest) reason state _ :=
              .handled route List.mem_cons_self addressed exact
            rw [if_pos exact]
            cases answer : route.handler tc state <;>
              simpa [answer, handlerRc] using called
          · rw [if_neg exact]
            exact (inductionHypothesis tcRejectSubsvc).mark addressed exact

/-- Everything a feed can do: drop the packet, refuse it at the gate, or look up
a packet that the gate let through. -/
inductive FeedOutcome (d : Dispatcher σ) (frame : List UInt8) (state : σ) :
    Option (TcRc × σ) → Prop
  | dropped (parsed : tcParse frame = some none) :
      FeedOutcome d frame state (some (.errParse, state))
  | gated (tc : Tc) (parsed : tcParse frame = some (some tc)) (gate : Tc → σ → Bool)
      (installed : d.gate = some gate) (refused : gate tc state = false) :
      FeedOutcome d frame state
        ((d.responder (tcAckReject ||| tcRejectGated) tc state).map (fun out => (.errGated, out)))
  | passed (tc : Tc) (parsed : tcParse frame = some (some tc))
      (allowed : ∀ gate, d.gate = some gate → gate tc state = true)
      {result : Option (TcRc × σ)}
      (looked : LookupOutcome d.responder tc d.table tcRejectSvc state result) :
      FeedOutcome d frame state result

theorem feed_outcome (d : Dispatcher σ) (frame : List UInt8) (state : σ) :
    FeedOutcome d frame state (tcDispatcherFeed d frame state) := by
  obtain ⟨parsed, parsedEq⟩ := tcParse_isSome frame
  unfold tcDispatcherFeed
  rw [parsedEq]
  simp only [Option.bind_eq_bind, Option.bind_some]
  cases parsed with
  | none => exact .dropped parsedEq
  | some tc =>
      have looked := lookup_outcome d.responder tc d.table tcRejectSvc state
      cases installed : d.gate with
      | none =>
          refine .passed tc parsedEq ?_ (by simpa using looked)
          intro gate same
          rw [installed] at same
          cases same
      | some gate =>
          cases answer : gate tc state with
          | true =>
              refine .passed tc parsedEq ?_ (by simpa [answer] using looked)
              intro other same
              rw [installed] at same
              cases same
              exact answer
          | false =>
              have refused := FeedOutcome.gated tc parsedEq gate installed answer
              cases reply : d.responder (tcAckReject ||| tcRejectGated) tc state <;>
                simpa [answer, reply] using refused

end Openobsw
