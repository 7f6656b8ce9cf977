import Openobsw.System.Handlers

/-!
Owns the dispatcher of the whole software: how it is wired, and everything one
fed packet can do to the board, the telemetry and the two records kept beside
them: the packets fed, and the handler invocations with the mode at that moment.
-/

namespace Openobsw.System

open Openobsw.Fdir Openobsw.Lib Openobsw.Pus Openobsw.Pus.S1 Openobsw.Pus.Handler

/-- The three callers of `obsw_tc_dispatcher_feed`. -/
inductive Origin where
  | uplink
  | schedule
  | eventAction
deriving DecidableEq, Repr

/-- `handler` was invoked for `tc` while the satellite was in `mode`, and returned `rc`. -/
structure Invocation where
  handler : Handler
  tc : Tc
  mode : Mode
  rc : Int
deriving DecidableEq, Repr

/-- The on-board software: the board and its S1 link. -/
structure Obsw (cfg : Config) where
  board : Board cfg
  link : Link cfg
  /-- Ghost: the packets fed to the dispatcher, oldest first. -/
  fed : List (Origin × List UInt8)
  /-- Ghost: the handler invocations, oldest first. -/
  invoked : List Invocation

structure RouteEntry where
  apid : UInt16
  service : UInt8
  subservice : UInt8
  handler : Handler
deriving DecidableEq, Repr

/-- The tables the application sets up: the routes of the dispatcher, whether
`obsw_fsm_tc_gate` is installed, and the S8 functions. The largest S1 report, of
23 bytes, fits one packet; so do then the headers of a TM(6,6), without which the
unsigned difference `S6_MAX_DUMP_DATA` would wrap. -/
structure Wiring (cfg : Config) where
  routes : List RouteEntry
  gated : Bool
  functions : List (Function cfg)
  reportsFit : 23 ≤ cfg.tmMaxPacketLen

variable {cfg : Config}

/-- A handler as the dispatcher calls it. -/
def Handler.invoke (functions : List (Function cfg)) (handler : Handler) (tc : Tc)
    (obsw : Obsw cfg) : Option (Int × Obsw cfg) := do
  let (rc, board, link) ← handler.handle functions tc obsw.board obsw.link
  return (rc, { obsw with
    board := board
    link := link
    invoked := obsw.invoked ++ [⟨handler, tc, obsw.board.fsm.mode, rc⟩] })

def RouteEntry.route (functions : List (Function cfg)) (entry : RouteEntry) : Route (Obsw cfg) where
  apid := entry.apid
  service := entry.service
  subservice := entry.subservice
  handler := entry.handler.invoke functions

namespace Wiring

def dispatcher (w : Wiring cfg) : Dispatcher (Obsw cfg) where
  table := w.routes.map (RouteEntry.route w.functions)
  responder flags tc obsw := do
    let link ← dispatchResponder flags tc obsw.link
    return { obsw with link := link }
  gate := if w.gated then some (fun tc obsw => Fsm.tcGate tc obsw.board.fsm) else none

/-- The gate lets the packet through. -/
def Admits (w : Wiring cfg) (tc : Tc) (board : Board cfg) : Prop :=
  w.gated = true → board.fsm.tcAllowed tc.service tc.subservice = true

/-- Some route serves the packet's service. -/
def serves (w : Wiring cfg) (tc : Tc) : Bool :=
  w.routes.any (fun entry => (entry.route w.functions).matchesService tc)

/-- The S1 failure code of a packet that no route takes. -/
def missingCode (w : Wiring cfg) (tc : Tc) : UInt16 :=
  if w.serves tc then failIllegalSubsvc else failIllegalSvc

/-- The route takes the packet. -/
def Takes (w : Wiring cfg) (tc : Tc) (entry : RouteEntry) : Prop :=
  entry ∈ w.routes ∧ (entry.route w.functions).matchesService tc = true ∧
    entry.subservice = tc.subservice

end Wiring

/-- `obsw_tc_dispatcher_feed` as called from `origin`. -/
def feed (w : Wiring cfg) (origin : Origin) (frame : List UInt8) (obsw : Obsw cfg) :
    Option (TcRc × Obsw cfg) :=
  tcDispatcherFeed w.dispatcher frame { obsw with fed := obsw.fed ++ [(origin, frame)] }

/-- The packet is answered with a TM(1,2). -/
def Obsw.rejected (obsw : Obsw cfg) (tc : Tc) (code : UInt16) : Obsw cfg :=
  { obsw with link := obsw.link.rejected tc code }

/-- Everything one packet can do. -/
inductive Result (w : Wiring cfg) (frame : List UInt8) (obsw : Obsw cfg) :
    Option (TcRc × Obsw cfg) → Prop
  | dropped (parsed : tcParse frame = some none) :
      Result w frame obsw (some (.errParse, obsw))
  | gated (tc : Tc) (parsed : tcParse frame = some (some tc)) (refused : ¬ w.Admits tc obsw.board) :
      Result w frame obsw (some (.errGated, obsw.rejected tc failModeGated))
  | unrouted (tc : Tc) (parsed : tcParse frame = some (some tc)) (admitted : w.Admits tc obsw.board)
      (missing : ∀ entry, ¬ w.Takes tc entry) :
      Result w frame obsw (some (.errNoRoute, obsw.rejected tc (w.missingCode tc)))
  | handled (tc : Tc) (parsed : tcParse frame = some (some tc)) (admitted : w.Admits tc obsw.board)
      (entry : RouteEntry) (takes : w.Takes tc entry) :
      Result w frame obsw ((entry.handler.invoke w.functions tc obsw).map handlerRc)

theorem responder_eq (w : Wiring cfg) {flags : UInt8} (isReject : flags &&& tcAckReject ≠ 0)
    (tc : Tc) (obsw : Obsw cfg) :
    w.dispatcher.responder flags tc obsw = some (obsw.rejected tc (dispatchCode flags)) := by
  show (dispatchResponder flags tc obsw.link).bind _ = _
  rw [dispatchResponder_eq isReject]
  rfl

theorem rejectReason_eq (w : Wiring cfg) (tc : Tc) :
    rejectReason w.dispatcher.table tc tcRejectSvc =
      if w.serves tc then tcRejectSubsvc else tcRejectSvc := by
  have served : w.dispatcher.table.any (fun route => route.matchesService tc) = w.serves tc :=
    List.any_map
  unfold rejectReason
  rw [served]

/-- The responder answers an unrouted packet with the code for what is missing. -/
theorem missing_eq (w : Wiring cfg) (tc : Tc) (obsw : Obsw cfg) :
    w.dispatcher.responder (tcAckReject ||| rejectReason w.dispatcher.table tc tcRejectSvc) tc obsw =
      some (obsw.rejected tc (w.missingCode tc)) := by
  rw [rejectReason_eq]
  unfold Wiring.missingCode
  cases w.serves tc with
  | true =>
      rw [if_pos rfl, if_pos rfl, ← dispatchCode_subsvc]
      exact responder_eq w (by decide) tc obsw
  | false =>
      rw [if_neg Bool.false_ne_true, if_neg Bool.false_ne_true, ← dispatchCode_svc]
      exact responder_eq w (by decide) tc obsw

theorem result_of_lookup {w : Wiring cfg} {frame : List UInt8} {obsw : Obsw cfg} {tc : Tc}
    {result : Option (TcRc × Obsw cfg)} (parsed : tcParse frame = some (some tc))
    (admitted : w.Admits tc obsw.board)
    (looked : LookupOutcome w.dispatcher.responder tc w.dispatcher.table tcRejectSvc obsw result) :
    Result w frame obsw result := by
  cases looked with
  | handled route member addressed subservice =>
      obtain ⟨entry, listed, rfl⟩ := List.mem_map.mp member
      exact .handled tc parsed admitted entry ⟨listed, addressed, subservice⟩
  | unrouted missing =>
      have absent : ∀ entry, ¬ w.Takes tc entry := by
        rintro entry ⟨listed, addressed, subservice⟩
        exact missing _ (List.mem_map_of_mem listed) addressed subservice
      rw [missing_eq]
      exact .unrouted tc parsed admitted absent

theorem feed_result (w : Wiring cfg) (origin : Origin) (frame : List UInt8) (obsw : Obsw cfg) :
    Result w frame { obsw with fed := obsw.fed ++ [(origin, frame)] } (feed w origin frame obsw) := by
  have outcome := feed_outcome w.dispatcher frame
    { obsw with fed := obsw.fed ++ [(origin, frame)] }
  unfold feed
  generalize tcDispatcherFeed w.dispatcher frame _ = result at outcome ⊢
  cases outcome with
  | dropped parsed => exact .dropped parsed
  | gated tc parsed gate installed refused =>
      have flag : w.gated = true := by
        cases flag : w.gated with
        | true => rfl
        | false =>
            simp only [Wiring.dispatcher, flag] at installed
            cases installed
      simp only [Wiring.dispatcher, flag, if_true, Option.some.injEq] at installed
      subst installed
      rw [responder_eq w (by decide), dispatchCode_gated]
      apply Result.gated tc parsed
      intro admitted
      have allowed := admitted flag
      rw [show Fsm.tcAllowed _ tc.service tc.subservice = false from refused] at allowed
      cases allowed
  | passed tc parsed allowed looked =>
      apply result_of_lookup parsed _ looked
      intro flag
      have gate : w.dispatcher.gate = some (fun tc obsw => Fsm.tcGate tc obsw.board.fsm) :=
        if_pos flag
      exact allowed _ gate

/-- A packet that one route takes is handled by it. -/
theorem feed_eq {w : Wiring cfg} {frame : List UInt8} {obsw : Obsw cfg} {tc : Tc}
    {entry : RouteEntry} (parsed : tcParse frame = some (some tc))
    (admitted : w.Admits tc obsw.board) (takes : w.Takes tc entry)
    (only : ∀ other, w.Takes tc other → other = entry) (origin : Origin) :
    feed w origin frame obsw = (entry.handler.invoke w.functions tc
      { obsw with fed := obsw.fed ++ [(origin, frame)] }).map handlerRc := by
  have result := feed_result w origin frame obsw
  generalize feed w origin frame obsw = out at result ⊢
  cases result with
  | dropped dropped =>
      rw [parsed] at dropped
      cases dropped
  | gated other otherParsed refused =>
      rw [parsed] at otherParsed
      cases otherParsed
      exact absurd admitted refused
  | unrouted other otherParsed _ missing =>
      rw [parsed] at otherParsed
      cases otherParsed
      exact absurd takes (missing entry)
  | handled other otherParsed _ found otherTakes =>
      rw [parsed] at otherParsed
      cases otherParsed
      rw [only found otherTakes]

/-! ### Feeding a sound board -/

/-- A packet for `service` may change what the handlers routed under it may change. -/
def Wiring.mayChange (w : Wiring cfg) (service : UInt8) (part : Part) : Prop :=
  ∃ entry ∈ w.routes, entry.service = service ∧ entry.handler.mayChange part

/-- What a fed packet came to: it reached no handler and the board is as it was, or
one handler took it, and its invocation was noted. -/
inductive Served (w : Wiring cfg) (frame : List UInt8) (obsw after : Obsw cfg) : Prop
  | unhandled (board : after.board = obsw.board) (invoked : after.invoked = obsw.invoked)
  | handled (tc : Tc) (parsed : tcParse frame = some (some tc)) (admitted : w.Admits tc obsw.board)
      (entry : RouteEntry) (takes : w.Takes tc entry) (rc : Int)
      (ran : entry.handler.handle w.functions tc obsw.board obsw.link =
        some (rc, after.board, after.link))
      (changes : Changes entry.handler.mayChange obsw.board after.board)
      (invoked : after.invoked = obsw.invoked ++ [⟨entry.handler, tc, obsw.board.fsm.mode, rc⟩])

/-- What a fed packet leaves behind. -/
structure Taken (w : Wiring cfg) (origin : Origin) (frame : List UInt8) (obsw after : Obsw cfg) :
    Prop where
  fed : after.fed = obsw.fed ++ [(origin, frame)]
  served : Served w frame obsw after

theorem feed_taken (w : Wiring cfg) (origin : Origin) (frame : List UInt8) {obsw : Obsw cfg}
    (sound : Sound obsw.board) :
    ∃ rc after, feed w origin frame obsw = some (rc, after) ∧ Taken w origin frame obsw after := by
  have result := feed_result w origin frame obsw
  generalize feed w origin frame obsw = fedOut at result ⊢
  cases result with
  | dropped parsed => exact ⟨_, _, rfl, rfl, .unhandled rfl rfl⟩
  | gated tc parsed refused => exact ⟨_, _, rfl, rfl, .unhandled rfl rfl⟩
  | unrouted tc parsed admitted missing => exact ⟨_, _, rfl, rfl, .unhandled rfl rfl⟩
  | handled tc parsed admitted entry takes =>
      obtain ⟨rc, after, later, ran, changes⟩ := Handler.handle_returns sound w.functions
        entry.handler (fun _ => (Nat.le_succ 22).trans w.reportsFit) tc obsw.link
      unfold Handler.invoke
      simp only [ran, Option.bind_eq_bind, Option.bind_some]
      exact ⟨_, _, rfl, rfl, .handled tc parsed admitted entry takes rc ran changes rfl⟩

section

variable {w : Wiring cfg} {origin : Origin} {frame : List UInt8} {obsw after : Obsw cfg}

theorem Taken.invoked (taken : Taken w origin frame obsw after) :
    after.invoked = obsw.invoked ∨
      ∃ tc handler rc, tcParse frame = some (some tc) ∧ w.Admits tc obsw.board ∧
        after.invoked = obsw.invoked ++ [⟨handler, tc, obsw.board.fsm.mode, rc⟩] := by
  cases taken.served with
  | unhandled board invoked => exact .inl invoked
  | handled tc parsed admitted entry takes rc ran changes invoked =>
      exact .inr ⟨tc, entry.handler, rc, parsed, admitted, invoked⟩

theorem Taken.changes (taken : Taken w origin frame obsw after) :
    after.board = obsw.board ∨
      ∃ tc, tcParse frame = some (some tc) ∧
        Changes (w.mayChange tc.service) obsw.board after.board := by
  cases taken.served with
  | unhandled board invoked => exact .inl board
  | handled tc parsed admitted entry takes rc ran changes invoked =>
      refine .inr ⟨tc, parsed, changes.mono ?_⟩
      intro part changed
      exact ⟨entry, takes.1, Route.service_of_matches takes.2.1, changed⟩

end

theorem Taken.sound {w : Wiring cfg} {origin : Origin} {frame : List UInt8}
    {obsw after : Obsw cfg} (taken : Taken w origin frame obsw after) (sound : Sound obsw.board) :
    Sound after.board := by
  rcases taken.changes with same | ⟨tc, _, changes⟩
  · rw [same]
    exact sound
  · exact sound.changes changes

/-! ### Commands of one service -/

/-- A command of one service was carried out for `tc`, and its handler returned `rc`. -/
structure Commanded (γ : Type) where
  command : γ
  tc : Tc
  rc : Int
deriving DecidableEq, Repr

/-- The command of an invocation, if its handler is of the service. -/
def Invocation.commanded {γ : Type} (service : Handler → Option γ) (invocation : Invocation) :
    Option (Commanded γ) :=
  (service invocation.handler).map (fun command => ⟨command, invocation.tc, invocation.rc⟩)

/-- The commands of one service among the handler invocations so far, oldest first. -/
def Obsw.commanded {γ : Type} (service : Handler → Option γ) (obsw : Obsw cfg) :
    List (Commanded γ) :=
  obsw.invoked.filterMap (Invocation.commanded service)

/-- The TCs for which a command was executed, oldest first. -/
def Obsw.executed {γ : Type} [DecidableEq γ] (service : Handler → Option γ) (command : γ)
    (obsw : Obsw cfg) : List Tc :=
  ((obsw.commanded service).filter (fun done => done.command = command ∧ done.rc = 0)).map
    (fun done => done.tc)

theorem commanded_append {γ : Type} {service : Handler → Option γ} {obsw after : Obsw cfg}
    {invocation : Invocation} (invoked : after.invoked = obsw.invoked ++ [invocation]) :
    after.commanded service =
      obsw.commanded service ++ (invocation.commanded service).toList := by
  unfold Obsw.commanded
  rw [invoked, List.filterMap_append]
  cases found : invocation.commanded service with
  | none => simp [found]
  | some done => simp [found]

theorem executed_append {γ : Type} [DecidableEq γ] {service : Handler → Option γ} {command : γ}
    {obsw after : Obsw cfg} {invocation : Invocation}
    (invoked : after.invoked = obsw.invoked ++ [invocation]) :
    after.executed service command = obsw.executed service command ++
      if service invocation.handler = some command ∧ invocation.rc = 0 then [invocation.tc]
      else [] := by
  unfold Obsw.executed
  rw [commanded_append invoked, List.filter_append, List.map_append]
  congr 1
  unfold Invocation.commanded
  cases service invocation.handler with
  | none => simp
  | some other =>
      by_cases same : other = command
      · by_cases succeeded : invocation.rc = 0
        · simp [same, succeeded]
        · simp [same, succeeded]
      · simp [same]

/-! ### What each caller fed -/

/-- The packets that came to the dispatcher from one caller. -/
def fedFrom (origin : Origin) (obsw : Obsw cfg) : List (List UInt8) :=
  (obsw.fed.filter (fun entry => entry.1 == origin)).map Prod.snd

theorem Taken.fedFrom_same {w : Wiring cfg} {origin : Origin} {frame : List UInt8}
    {obsw after : Obsw cfg} (taken : Taken w origin frame obsw after) :
    fedFrom origin after = fedFrom origin obsw ++ [frame] := by
  unfold fedFrom
  rw [taken.fed, List.filter_append, List.map_append]
  simp

theorem Taken.fedFrom_other {w : Wiring cfg} {origin other : Origin} {frame : List UInt8}
    {obsw after : Obsw cfg} (taken : Taken w origin frame obsw after) (different : origin ≠ other) :
    fedFrom other after = fedFrom other obsw := by
  unfold fedFrom
  rw [taken.fed, List.filter_append, List.map_append]
  simp [different]

end Openobsw.System
