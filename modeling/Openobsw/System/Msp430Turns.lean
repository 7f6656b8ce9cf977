import Openobsw.System.Msp430

/-!
Owns what a turn of the main loop of the MSP430 build does: what a telecommand can change, the
housekeeping set, the packets that a turn writes, and the invariant that every turn keeps.
-/

namespace Openobsw.Msp430

open Openobsw.Fdir Openobsw.Lib Openobsw.Pus Openobsw.Pus.Handler Openobsw.Pus.S1 Openobsw.Srdb
  Openobsw.System Openobsw.Tm

/-! ### Housekeeping -/

/-- The set table: the set of the boot, enabled or not, with any interval. -/
structure Housekeeping (s : S3.Ctx) : Prop where
  sets : ∃ set, s.sets = [set] ∧ set.params = boundSet.params ∧ set.paramCount = 3

theorem Housekeeping.modifySet {s : S3.Ctx} (housekeeping : Housekeeping s) (index : Nat)
    {change : S3.HkSet → S3.HkSet} (params : ∀ set, (change set).params = set.params)
    (count : ∀ set, (change set).paramCount = set.paramCount) :
    Housekeeping (S3.modifySet index change s) := by
  obtain ⟨set, sets, bound, three⟩ := housekeeping.sets
  have shown : (S3.modifySet index change s).sets = [set].modify index change :=
    congrArg (fun table => List.modify table index change) sets
  cases index with
  | zero => exact ⟨change set, shown, (params set).trans bound, (count set).trans three⟩
  | succ index => exact ⟨set, shown.trans (by simp), bound, three⟩

theorem enable_updates (tc : Tc) {s : S3.Ctx} (housekeeping : Housekeeping s) (link : Link cfg) :
    Updates tc s link (fun after => Housekeeping after ∧ after.msgCounter = s.msgCounter)
      (S3.enable tc s link) := by
  apply requireUserData_updates
  intro u _ long
  obtain ⟨interval, intervalEq⟩ := Util.obswBe32_isSome u 1 (by omega)
  simp only [List.getElem?_eq_getElem (show 0 < u.length by omega), intervalEq,
    Option.bind_eq_bind, Option.bind_some]
  cases S3.findSet s.sets u[0] with
  | none => exact reject_updates handlerCode_execError _ _ _ _
  | some index =>
      exact execute_updates tc link rfl
        ⟨housekeeping.modifySet index (fun _ => rfl) (fun _ => rfl), rfl⟩

theorem disable_updates (tc : Tc) {s : S3.Ctx} (housekeeping : Housekeeping s) (link : Link cfg) :
    Updates tc s link (fun after => Housekeeping after ∧ after.msgCounter = s.msgCounter)
      (S3.disable tc s link) := by
  apply requireUserData_updates
  intro u _ long
  simp only [List.getElem?_eq_getElem (show 0 < u.length by omega), Option.bind_eq_bind,
    Option.bind_some]
  cases S3.findSet s.sets u[0] with
  | none => exact reject_updates handlerCode_execError _ _ _ _
  | some index =>
      exact execute_updates tc link rfl
        ⟨housekeeping.modifySet index (fun _ => rfl) (fun _ => rfl), rfl⟩

/-- The set is reported in ten bytes. -/
theorem serialise_bound {s : S3.Ctx} (vars : S3.Variables) {set : S3.HkSet}
    (params : set.params = boundSet.params) (count : set.paramCount = 3) :
    ∃ bytes, S3.serialiseSet s vars set (S3.reportBufLen cfg) = some (some bytes) ∧
      bytes.length = 10 := by
  unfold S3.serialiseSet S3.setParams
  rw [params, count]
  exact ⟨_, rfl, rfl⟩

theorem ticked_params (set : S3.HkSet) :
    set.ticked.2.params = set.params ∧ set.ticked.2.paramCount = set.paramCount := by
  unfold S3.HkSet.ticked
  split
  · exact ⟨rfl, rfl⟩
  · generalize (if set.countdown > 0 then set.countdown - 1 else set.countdown) = countdown
    by_cases due : countdown = 0
    · simp only [if_pos due, and_self]
    · simp only [if_neg due, and_self]

/-- A set makes a report if it is due, and keeps its parameters. -/
theorem tickSet_sends (vars : S3.Variables) (s : S3.Ctx) {set : S3.HkSet}
    (params : set.params = boundSet.params) (count : set.paramCount = 3) (tm : Port cfg) :
    ∃ counted requests, S3.tickSet vars 0 set s tm =
        some (S3.modifySet 0 (fun _ => set.ticked.2) counted, tm.afterAll requests) ∧
      counted.sets = s.sets ∧ requests.length ≤ 1 ∧
      NextOf cfg 3 s.msgCounter requests counted.msgCounter := by
  unfold S3.tickSet
  cases reports : set.ticked.1 with
  | false =>
      simp only [reports, Bool.false_eq_true, if_false]
      exact ⟨s, [], rfl, rfl, Nat.zero_le 1, .nil cfg 3 _⟩
  | true =>
      obtain ⟨bytes, serialised, length⟩ := serialise_bound (s := s) vars params count
      have fits : (S3.request s set bytes).Fits cfg := by
        show 17 + (bytes.length + 1) ≤ 64
        omega
      have inside : (S3.request s set bytes).Inside cfg := by
        apply TmRequest.inside_of_small
        show bytes.length + 1 ≤ _
        omega
      unfold S3.emitHkReport
      simp only [reports, serialised, pusTmBuild_eq_put inside, Option.bind_eq_bind,
        Option.bind_some, if_true]
      exact ⟨{ s with msgCounter := s.msgCounter + 1 }, [S3.request s set bytes], rfl, rfl,
        Nat.le_refl 1, .cons fits rfl rfl (.nil cfg 3 _)⟩

theorem housekeeping_tick (vars : S3.Variables) {s : S3.Ctx} (housekeeping : Housekeeping s)
    (tm : Port cfg) :
    ∃ after requests, S3.tick vars s tm = some (after, tm.afterAll requests) ∧
      Housekeeping after ∧ requests.length ≤ 1 ∧
      NextOf cfg 3 s.msgCounter requests after.msgCounter := by
  obtain ⟨set, sets, bound, three⟩ := housekeeping.sets
  obtain ⟨counted, requests, ran, same, few, next⟩ := tickSet_sends vars s bound three tm
  refine ⟨S3.modifySet 0 (fun _ => set.ticked.2) counted, requests, ?_, ?_, few, next⟩
  · unfold S3.tick
    rw [show s.sets.length = 1 from congrArg List.length sets]
    unfold S3.tickFrom
    simp only [show s.sets[0]? = some set from congrArg (fun table => table[0]?) sets, ran,
      Option.bind_eq_bind, Option.bind_some]
    rfl
  · obtain ⟨params, count⟩ := ticked_params set
    refine ⟨set.ticked.2, ?_, params.trans bound, count.trans three⟩
    show counted.sets.modify 0 _ = _
    rw [same, sets]
    rfl

/-! ### The board between two calls -/

/-- What no input changes: the set table and its pointers, the calls of S5, and the machine
that never was in SAFE. -/
structure Kept (board : Board cfg) : Prop where
  housekeeping : Housekeeping board.s3
  unsafed : board.fsm.mode ≠ .safe
  unhooked : board.fsm.hooks = []
  config : board.fsm.config = fsmConfig
  reported : board.s5.calls = [⟨.info, Mission.eventBootComplete, ⟨[], State.noAux_fits⟩⟩]

theorem Kept.rest {board after : Board cfg} (kept : Kept board)
    (housekeeping : Housekeeping after.s3) (fsm : after.fsm = board.fsm)
    (events : after.s5 = board.s5) : Kept after where
  housekeeping := housekeeping
  unsafed := by
    rw [fsm]
    exact kept.unsafed
  unhooked := by
    rw [fsm]
    exact kept.unhooked
  config := by
    rw [fsm]
    exact kept.config
  reported := by
    rw [events]
    exact kept.reported

theorem limits : Limits cfg where
  atLeast := by decide
  atMost := by decide

theorem toNominal_hooks {fsm : Fsm} (unsafed : fsm.mode ≠ .safe) :
    fsm.toNominal.hooks = fsm.hooks := by
  unfold Fsm.toNominal
  split
  · rfl
  · exact if_neg (fun both => unsafed both.1)

theorem Kept.toNominal {board : Board cfg} (kept : Kept board) :
    Kept { board with fsm := board.fsm.toNominal } where
  housekeeping := kept.housekeeping
  unsafed := by
    show board.fsm.toNominal.mode ≠ .safe
    rw [Fsm.toNominal_mode]
    decide
  unhooked := (toNominal_hooks kept.unsafed).trans kept.unhooked
  config := (Fsm.toNominal_config board.fsm).trans kept.config
  reported := kept.reported

/-- A TC(8,1) is rejected, or the machine goes to NOMINAL. -/
theorem recover_cases (tc : Tc) (board : Board cfg) (link : Link cfg) :
    (∃ code, S8.perform (wiring.functions.map Function.entry) tc board link =
        some (-1, board, link.rejected tc code)) ∨
      S8.perform (wiring.functions.map Function.entry) tc board link =
        some (0, { board with fsm := board.fsm.toNominal }, (link.accepted tc).completed tc) := by
  rcases S8.perform_calls (wiring.functions.map Function.entry) tc board link with
    ⟨_, code, _, rejected⟩ | ⟨entry, args, called, performed⟩
  · exact .inl ⟨code, rejected⟩
  · have same := List.mem_singleton.mp (S8.calledEntry_mem called)
    have entered : entry.fn args board (link.accepted tc) =
        some (0, { board with fsm := board.fsm.toNominal }, link.accepted tc) := by
      rw [same]
      rfl
    rw [S8.call_eq entered, if_pos rfl] at performed
    exact .inr performed

/-- The handlers that have a route. -/
def Routed (handler : Handler) : Prop :=
  handler = .s17 ∨ handler = .s8 ∨ handler = .s3 .enable ∨ handler = .s3 .disable

theorem routed_of_mem {entry : RouteEntry} (listed : entry ∈ wiring.routes) :
    Routed entry.handler := by
  simp only [wiring, routes, List.map_cons, List.map_nil, List.mem_cons, List.not_mem_nil,
    or_false] at listed
  rcases listed with rfl | rfl | rfl | rfl
  · exact .inl rfl
  · exact .inr (.inl rfl)
  · exact .inr (.inr (.inl rfl))
  · exact .inr (.inr (.inr rfl))

theorem sets_kept {command : S3.Command} {tc : Tc} {board : Board cfg} {link : Link cfg}
    (kept : Kept board)
    (updates : Updates tc board.s3 link
      (fun after => Housekeeping after ∧ after.msgCounter = board.s3.msgCounter)
      (S3.handle board.s20.table command tc board.s3 link)) :
    Answers (.s3 command) tc board link
        ((Handler.s3 command).handle wiring.functions tc board link) ∧
      ∀ rc after later, (Handler.s3 command).handle wiring.functions tc board link =
        some (rc, after, later) → Kept after := by
  have whole := within_updates Board.sets updates
  constructor
  · apply answers_of_updates limits whole _ (fun _ => rfl) rfl
    rintro after ⟨s, ⟨_, uncounted⟩, rfl⟩ other
    have same := counters_sets board other s
    rw [uncounted] at same
    exact same.trans (Function.update_eq_self 3 (counters board other))
  · intro rc after later ran
    rw [show within Board.sets _ tc board link = _ from ran] at whole
    cases whole with
    | rejected code known => exact kept
    | executed _ updated =>
        obtain ⟨s, ⟨housekeeping, _⟩, rfl⟩ := updated
        exact kept.rest housekeeping rfl rfl

/-- A handler with a route returns and keeps the board. -/
theorem handle_kept {handler : Handler} (routed : Routed handler) (tc : Tc) {board : Board cfg}
    (kept : Kept board) (link : Link cfg) :
    Answers handler tc board link (handler.handle wiring.functions tc board link) ∧
      ∀ rc after later, handler.handle wiring.functions tc board link = some (rc, after, later) →
        Kept after := by
  rcases routed with rfl | rfl | rfl | rfl
  · have ping := within_eq Board.test (S17.ping_eq tc board.s17 link)
    constructor
    · exact answers_emitted limits rfl (by show 17 + 0 ≤ 64; omega) rfl
        (fun other => counters_test board other _) (by simp) ping rfl rfl
    · intro rc after later ran
      rw [show within Board.test S17.ping tc board link = _ from ran] at ping
      cases ping
      exact kept.rest kept.housekeeping rfl rfl
  · constructor
    · apply perform_answers limits
      intro function listed
      rw [List.mem_singleton.mp listed]
      exact Function.quiet_of_calls [.toNominal] (fun _ _ _ => rfl) (by simp [AppCall.quiet])
    · intro rc after later ran
      rcases recover_cases tc board link with ⟨code, rejected⟩ | performed
      · rw [show S8.perform _ tc board link = _ from ran] at rejected
        cases rejected
        exact kept
      · rw [show S8.perform _ tc board link = _ from ran] at performed
        cases performed
        exact kept.toNominal
  · exact sets_kept kept (enable_updates tc kept.housekeeping link)
  · exact sets_kept kept (disable_updates tc kept.housekeeping link)

/-- A packet of the uplink is answered with at most three TMs and keeps the board. -/
theorem feed_kept (frame : List UInt8) {obsw : Obsw cfg} (kept : Kept obsw.board) :
    ∃ rc after requests, feed wiring .uplink frame obsw = some (rc, after) ∧ Kept after.board ∧
      Sends requests obsw.board after.board obsw.link after.link ∧ requests.length ≤ 3 := by
  have result := feed_result wiring .uplink frame obsw
  generalize feed wiring .uplink frame obsw = out at result ⊢
  cases result with
  | dropped parsed => exact ⟨_, _, [], rfl, kept, .refl _ _, Nat.zero_le 3⟩
  | gated tc parsed refused =>
      obtain ⟨requests, sent, count⟩ := sends_rejected limits obsw.board obsw.link tc failModeGated
      exact ⟨_, _, requests, rfl, kept, sent, by omega⟩
  | unrouted tc parsed admitted missing =>
      obtain ⟨requests, sent, count⟩ :=
        sends_rejected limits obsw.board obsw.link tc (wiring.missingCode tc)
      exact ⟨_, _, requests, rfl, kept, sent, by omega⟩
  | handled tc parsed admitted entry takes =>
      obtain ⟨answers, keeps⟩ := handle_kept (routed_of_mem takes.1) tc kept obsw.link
      obtain ⟨rc, after, later, requests, ran, sent, count⟩ := answers
      have few := entry.handler.demand_le tc obsw.board rc
      unfold Handler.invoke
      simp only [ran, Option.bind_eq_bind, Option.bind_some]
      exact ⟨_, _, requests, rfl, keeps rc after later ran, sent, by omega⟩

/-! ### The state between two steps -/

/-- The packets that were written. -/
def packets (written : List Written) : Tm.Queue :=
  written.filterMap (fun
    | .packet pkt => some pkt
    | .sentinel => none)

namespace State

/-- The packets that wait in the TM store, oldest first. -/
def waiting (state : State) : Tm.Queue := state.obsw.link.tm.queue

/-- The TM builds so far. -/
def built (state : State) : List TmRequest :=
  state.obsw.link.tm.log.map (fun tm => tm.request)

theorem waiting_le (state : State) : state.waiting.length ≤ 3 := by
  unfold waiting Port.queue
  rw [Store.queue_length]
  exact Nat.le_of_lt_succ (Ring.held_lt _ _)

end State

/-- Every packet that was stored is written or waits. -/
structure Ledger (state : State) : Prop where
  stored : packets state.written ++ state.waiting = storedPackets state.obsw.link.tm.log
  short : ∀ pkt ∈ state.waiting, pkt.length ≤ cfg.tmMaxPacketLen

structure Settled (state : State) : Prop extends Ledger state where
  kept : Kept state.obsw.board

/-- The packet is a report that no telecommand asked for. -/
def Unasked (pkt : List UInt8) : Prop := pkt[7]? = some 3 ∨ pkt[7]? = some 5

/-- The loop is at the beginning of a turn. -/
structure Looping (state : State) : Prop extends Settled state where
  watchdog : state.watchdog = initWatchdog.kick
  unasked : ∀ pkt ∈ state.waiting, Unasked pkt

variable {state : State}

/-- Calls that build TMs. -/
theorem Ledger.builds {obsw : Obsw cfg} {requests : List TmRequest} (ledger : Ledger state)
    (port : obsw.link.tm = state.obsw.link.tm.afterAll requests)
    (fits : ∀ request ∈ requests, request.Fits cfg) :
    Ledger { state with obsw := obsw } ∧
      obsw.link.tm.queue = (state.waiting ++ requests.map TmRequest.packet).take 3 ∧
      obsw.link.tm.log.map (fun tm => tm.request) = state.built ++ requests := by
  obtain ⟨built, recorded, _⟩ := afterAll_built limits.atMost fits state.obsw.link.tm
  refine ⟨⟨?_, ?_⟩, ?_, ?_⟩
  · show packets state.written ++ obsw.link.tm.queue = storedPackets obsw.link.tm.log
    rw [port, recorded.queue, recorded.log]
    unfold storedPackets
    rw [List.filter_append, List.map_append, ← List.append_assoc]
    exact congrArg (fun front => front ++ storedPackets built) ledger.stored
  · show ∀ pkt ∈ obsw.link.tm.queue, _
    rw [port, recorded.queue]
    exact List.forall_mem_append.mpr ⟨ledger.short, recorded.short⟩
  · rw [port]
    exact afterAll_queue limits.atMost fits state.waiting_le
  · rw [port]
    exact afterAll_requests state.obsw.link.tm requests

/-! ### The drain -/

/-- The drain wrote every waiting packet, and did nothing else. -/
structure Drained (before after : State) : Prop where
  board : after.obsw.board = before.obsw.board
  log : after.obsw.link.tm.log = before.obsw.link.tm.log
  watchdog : after.watchdog = before.watchdog
  tick : after.tick = before.tick
  written : after.written = before.written ++ before.waiting.map Written.packet
  empty : after.waiting = []

theorem drainLoop_drained (turns : Nat) {state : State} (enough : state.waiting.length < turns)
    (short : ∀ pkt ∈ state.waiting, pkt.length ≤ cfg.tmMaxPacketLen) :
    ∃ after, State.drainLoop turns state = some after ∧ Drained state after := by
  induction turns generalizing state with
  | zero => omega
  | succ turns inductionHypothesis =>
      unfold State.drainLoop
      cases queued : state.waiting with
      | nil =>
          have empty : (state.obsw.link.tm.store.dequeue cfg.tmMaxPacketLen).1 = .errEmpty :=
            dequeue_none queued _
          simp only [empty]
          refine ⟨state, rfl, rfl, rfl, rfl, rfl, ?_, queued⟩
          rw [queued, List.map_nil, List.append_nil]
      | cons oldest rest =>
          rw [queued] at short enough
          obtain ⟨fits, others⟩ := List.forall_mem_cons.mp short
          obtain ⟨store, taken, left⟩ := dequeue_oldest queued fits
          simp only [taken, if_true]
          let middle : State := { state with
            obsw := { state.obsw with
              link := { state.obsw.link with tm := { state.obsw.link.tm with store := store } } }
            written := state.written ++ [.packet oldest] }
          have middleWaiting : middle.waiting = rest := left
          obtain ⟨after, ran, drained⟩ := @inductionHypothesis middle
            (by rw [middleWaiting]; exact Nat.lt_of_succ_lt_succ enough)
            (by rw [middleWaiting]; exact others)
          refine ⟨after, ran, drained.board, drained.log, drained.watchdog, drained.tick, ?_,
            drained.empty⟩
          rw [drained.written, middleWaiting, queued]
          show (state.written ++ [Written.packet oldest]) ++ _ = _
          rw [List.append_assoc]
          rfl

theorem packets_append (front back : List Written) :
    packets (front ++ back) = packets front ++ packets back :=
  List.filterMap_append

theorem packets_map (queue : Tm.Queue) : packets (queue.map Written.packet) = queue := by
  unfold packets
  rw [List.filterMap_map]
  exact List.filterMap_some

theorem Drained.settled {after : State} (drained : Drained state after) (settled : Settled state) :
    Settled after where
  kept := by
    rw [drained.board]
    exact settled.kept
  stored := by
    rw [drained.log, ← settled.stored, drained.written, packets_append, packets_map,
      drained.empty, List.append_nil]
  short := by simp [drained.empty]

/-! ### The steps of a turn -/

/-- A frame was answered with `requests`. As many packets as the store has room for were
written, those that waited first. -/
structure Served (frame : List UInt8) (state after : State) (requests : List TmRequest) :
    Prop where
  ran : state.serve frame = some after
  settled : Settled after
  watchdog : after.watchdog = state.watchdog
  tick : after.tick = state.tick
  empty : after.waiting = []
  built : after.built = state.built ++ requests
  written : after.written = state.written ++
    ((state.waiting ++ requests.map TmRequest.packet).take 3).map Written.packet

theorem serve_fed {frame : List UInt8} {rc : TcRc} {obsw : Obsw cfg} {requests : List TmRequest}
    (settled : Settled state) (fed : feed wiring .uplink frame state.obsw = some (rc, obsw))
    (kept : Kept obsw.board) (port : obsw.link.tm = state.obsw.link.tm.afterAll requests)
    (fits : ∀ request ∈ requests, request.Fits cfg) :
    ∃ after, Served frame state after requests := by
  obtain ⟨middle, queue, builds⟩ := settled.builds port fits
  obtain ⟨after, ran, drained⟩ := drainLoop_drained cfg.tmStoreSlots
    (Nat.lt_succ_of_le (State.waiting_le { state with obsw := obsw })) middle.short
  refine ⟨after, ?_, drained.settled ⟨middle, kept⟩, drained.watchdog, drained.tick,
    drained.empty, ?_, ?_⟩
  · unfold State.serve
    rw [fed]
    exact ran
  · unfold State.built
    rw [drained.log]
    exact builds
  · rw [drained.written]
    exact congrArg (fun waits => state.written ++ waits.map Written.packet) queue

theorem serve_returns (frame : List UInt8) (settled : Settled state) :
    ∃ after requests, Served frame state after requests ∧ requests.length ≤ 3 := by
  obtain ⟨rc, obsw, requests, fed, kept, sent, few⟩ := feed_kept frame settled.kept
  obtain ⟨after, served⟩ := serve_fed settled fed kept sent.port sent.fits
  exact ⟨after, requests, served, few⟩

/-- The answers to a TC(17,1): its acceptance, TM(17,2) and its completion. -/
def pingAnswers (tc : Tc) (obsw : Obsw cfg) : List TmRequest :=
  [S1.request obsw.link.ctx 1 (encodeTcRef tc), S17.pongRequest obsw.board.s17,
    S1.request (obsw.link.accepted tc).ctx 7 (encodeTcRef tc)]

theorem pingAnswers_fits (tc : Tc) (obsw : Obsw cfg) :
    ∀ request ∈ pingAnswers tc obsw, request.Fits cfg := by
  intro request listed
  simp only [pingAnswers, List.mem_cons, List.not_mem_nil, or_false] at listed
  rcases listed with rfl | rfl | rfl
  · show 17 + (encodeTcRef tc).length ≤ 64
    simp
  · show 17 + 0 ≤ 64
    omega
  · show 17 + (encodeTcRef tc).length ≤ 64
    simp

/-- A ping is admitted in both modes. -/
theorem Kept.admits_ping {board : Board cfg} (kept : Kept board) {tc : Tc}
    (service : tc.service = 17) (subservice : tc.subservice = 1) : wiring.Admits tc board := by
  intro _
  rw [service, subservice]
  by_cases nominal : board.fsm.mode = .nominal
  · exact if_pos nominal
  · rw [Fsm.tcAllowed_iff nominal, kept.config]
    exact ⟨Mission.safeTcWhitelist, rfl, by decide⟩

theorem serve_ping {frame : List UInt8} {tc : Tc} (parsed : tcParse frame = some (some tc))
    (service : tc.service = 17) (subservice : tc.subservice = 1) (settled : Settled state) :
    ∃ after, Served frame state after (pingAnswers tc state.obsw) := by
  have takes : wiring.Takes tc ⟨0xFFFF, 17, 1, .s17⟩ := by
    refine ⟨by decide, ?_, subservice.symm⟩
    unfold Route.matchesService
    rw [service]
    rfl
  have only : ∀ other, wiring.Takes tc other → other = ⟨0xFFFF, 17, 1, .s17⟩ := by
    rintro other ⟨listed, addressed, _⟩
    have same := (Route.service_of_matches addressed).trans service
    simp only [wiring, routes, List.map_cons, List.map_nil, List.mem_cons, List.not_mem_nil,
      or_false] at listed
    rcases listed with rfl | rfl | rfl | rfl
    · rfl
    · cases same
    · cases same
    · cases same
  have fed := feed_eq parsed (settled.kept.admits_ping service subservice) takes only .uplink
  unfold Handler.invoke at fed
  simp only [show Handler.handle wiring.functions .s17 tc state.obsw.board state.obsw.link = _ from
    within_eq Board.test (S17.ping_eq tc state.obsw.board.s17 state.obsw.link),
    Option.bind_eq_bind, Option.bind_some] at fed
  exact serve_fed settled fed (settled.kept.rest settled.kept.housekeeping rfl rfl) rfl
    (pingAnswers_fits tc state.obsw)

theorem Settled.same {other : State} (settled : Settled state) (obsw : other.obsw = state.obsw)
    (written : other.written = state.written) : Settled other where
  kept := by
    rw [obsw]
    exact settled.kept
  stored := by
    unfold State.waiting
    rw [obsw, written]
    exact settled.stored
  short := by
    unfold State.waiting
    rw [obsw]
    exact settled.short

theorem Settled.assign (settled : Settled state) (name : Var) (value : UInt32) :
    Settled (state.assign name value) where
  kept := settled.kept.rest settled.kept.housekeeping rfl rfl
  stored := settled.stored
  short := settled.short

theorem hkTick_kept {obsw : Obsw cfg} (kept : Kept obsw.board) :
    ∃ after requests, hkTick obsw = some after ∧ Kept after.board ∧
      after.link.tm = obsw.link.tm.afterAll requests ∧ requests.length ≤ 1 ∧
      (∀ request ∈ requests, request.Fits cfg) ∧ ∀ request ∈ requests, request.svc = 3 := by
  obtain ⟨s, requests, ran, housekeeping, few, next⟩ :=
    housekeeping_tick obsw.board.hkVariables kept.housekeeping obsw.link.tm
  refine ⟨{ obsw with
    board := { obsw.board with s3 := s }
    link := { obsw.link with tm := obsw.link.tm.afterAll requests } }, requests, ?_,
    kept.rest housekeeping rfl rfl, rfl, few, next.fits, next.own⟩
  unfold hkTick
  rw [ran]
  rfl

/-- The watchdog was kicked since its last tick, so it starts again. -/
theorem wdTick_eq (watchdog : state.watchdog = initWatchdog.kick) :
    state.wdTick = some { state with watchdog := initWatchdog } := by
  have ticked : state.watchdog.tick = initWatchdog := by
    rw [watchdog]
    exact Watchdog.tick_kicked rfl rfl
  unfold State.wdTick
  rw [ticked, watchdog]
  rfl

/-- What ends a turn: the sentinel, every thousandth time. -/
def ending (state : State) : List Written :=
  if state.tick + 1 ≥ 1000 then [.sentinel] else []

theorem packets_ending (state : State) : packets (ending state) = [] := by
  unfold ending
  split <;> rfl

/-- The end of a turn makes at most one report, which waits. -/
theorem periodic_writes (settled : Settled state) (watchdog : state.watchdog = initWatchdog.kick) :
    ∃ after requests, state.periodic = some after ∧ Settled after ∧
      after.watchdog.kick = initWatchdog.kick ∧ requests.length ≤ 1 ∧
      (∀ request ∈ requests, request.svc = 3) ∧
      after.built = state.built ++ requests ∧
      after.waiting = (state.waiting ++ requests.map TmRequest.packet).take 3 ∧
      after.written = state.written ++ ending state := by
  unfold State.periodic ending
  by_cases due : state.tick + 1 ≥ 1000
  · have restarted : Settled { state with tick := 0 } := settled.same rfl rfl
    have counted := restarted.assign .wdTicksRem state.watchdog.countdown
    have noted : Settled ({ state with tick := 0 }.assign .wdTicksRem
        state.watchdog.countdown).countEntries := counted.assign .safeEntryCount _
    obtain ⟨obsw, requests, ran, kept, port, few, fits, own⟩ := hkTick_kept noted.kept
    obtain ⟨reported, queue, builds⟩ := noted.builds port fits
    have ticked : State.wdTick
        { ({ state with tick := 0 }.assign .wdTicksRem
          state.watchdog.countdown).countEntries with obsw := obsw } = some _ :=
      wdTick_eq watchdog
    simp only [if_pos due, ran, ticked, Option.bind_eq_bind, Option.bind_some]
    refine ⟨_, requests, rfl, ⟨⟨?_, reported.short⟩, kept⟩, rfl, few, own, builds, queue,
      rfl⟩
    have stored := reported.stored
    rw [← List.append_nil (packets _)] at stored
    show packets (state.written ++ [Written.sentinel]) ++ _ = _
    rw [packets_append]
    exact stored
  · simp only [if_neg due]
    refine ⟨{ state with tick := state.tick + 1 }, [], rfl, settled.same rfl rfl, ?_,
      Nat.zero_le 1, by simp, (List.append_nil _).symm, ?_, (List.append_nil _).symm⟩
    · show state.watchdog.kick = _
      rw [watchdog]
      rfl
    · rw [List.map_nil, List.append_nil]
      exact (List.take_of_length_le state.waiting_le).symm

theorem packet_service (request : TmRequest) : request.packet[7]? = some request.svc := rfl

/-- The reports at the end of a turn wait behind packets that nobody asked for. -/
theorem unasked_waits {waits : Tm.Queue} (unasked : ∀ pkt ∈ waits, Unasked pkt)
    {reports : List TmRequest} (own : ∀ request ∈ reports, request.svc = 3) :
    ∀ pkt ∈ (waits ++ reports.map TmRequest.packet).take 3, Unasked pkt := by
  intro pkt member
  rcases List.mem_append.mp (List.mem_of_mem_take member) with before | reported
  · exact unasked pkt before
  · obtain ⟨request, listed, rfl⟩ := List.mem_map.mp reported
    left
    rw [packet_service, own request listed]

theorem Settled.kick (settled : Settled state) (watchdog : state.watchdog.kick = initWatchdog.kick)
    (unasked : ∀ pkt ∈ state.waiting, Unasked pkt) : Looping state.kick where
  toSettled := by
    have kicked : Settled { state with watchdog := state.watchdog.kick } := settled.same rfl rfl
    exact kicked.assign .wdKickCount _
  watchdog := watchdog
  unasked := unasked

/-! ### Turns -/

/-- A turn that built `requests` before its end: what it has written, and what of `waits` and
of a report at its end waits for the next frame. -/
structure Turned (state after : State) (requests : List TmRequest) (sent waits : Tm.Queue) :
    Prop where
  looping : Looping after
  written : after.written = state.written ++ sent.map Written.packet ++ ending state
  reports : ∃ reports, reports.length ≤ 1 ∧ after.built = state.built ++ requests ++ reports ∧
    after.waiting = (waits ++ reports.map TmRequest.packet).take 3

theorem Turned.packets {after : State} {requests : List TmRequest} {sent waits : Tm.Queue}
    (turned : Turned state after requests sent waits) :
    packets after.written = packets state.written ++ sent := by
  rw [turned.written, packets_append, packets_append, packets_map, packets_ending,
    List.append_nil]

/-- A turn without a frame writes no packet. -/
theorem turn_idle (looping : Looping state) :
    ∃ after, state.turn none = some after ∧ Turned state after [] [] state.waiting := by
  obtain ⟨after, reports, ran, settled, watchdog, few, own, builds, queue, written⟩ :=
    periodic_writes looping.toSettled looping.watchdog
  have unasked := unasked_waits looping.unasked own
  rw [← queue] at unasked
  refine ⟨after.kick, ?_, settled.kick watchdog unasked, ?_, reports, few, ?_, queue⟩
  · unfold State.turn
    simp only [ran, Option.bind_eq_bind, Option.bind_some]
    rfl
  · rw [List.map_nil, List.append_nil]
    exact written
  · rw [List.append_nil]
    exact builds

/-- A turn with a frame writes the first three of the packets that wait and that answer it. -/
theorem Served.turn {frame : List UInt8} {served : State} {requests : List TmRequest}
    (serves : Served frame state served requests) (looping : Looping state) :
    ∃ after, state.turn (some frame) = some after ∧ Turned state after requests
      ((state.waiting ++ requests.map TmRequest.packet).take 3) [] := by
  obtain ⟨after, reports, ran, settled, watchdog, one, own, builds, queue, written⟩ :=
    periodic_writes serves.settled (serves.watchdog.trans looping.watchdog)
  have drained : ∀ pkt ∈ served.waiting, Unasked pkt := by simp [serves.empty]
  have unasked := unasked_waits drained own
  rw [← queue] at unasked
  refine ⟨after.kick, ?_, settled.kick watchdog unasked, ?_, reports, one, ?_, ?_⟩
  · unfold State.turn
    simp only [serves.ran, ran, Option.bind_eq_bind, Option.bind_some]
    rfl
  · have same : ending served = ending state := by
      unfold ending
      rw [serves.tick]
    rw [← same, ← serves.written]
    exact written
  · rw [← serves.built]
    exact builds
  · rw [← serves.empty]
    exact queue

theorem turn_loops (frame : Option (List UInt8)) (looping : Looping state) :
    ∃ after requests sent waits, state.turn frame = some after ∧
      Turned state after requests sent waits := by
  cases frame with
  | none =>
      obtain ⟨after, ran, turned⟩ := turn_idle looping
      exact ⟨after, _, _, _, ran, turned⟩
  | some frame =>
      obtain ⟨served, requests, serves, _⟩ := serve_returns frame looping.toSettled
      obtain ⟨after, ran, turned⟩ := serves.turn looping
      exact ⟨after, _, _, _, ran, turned⟩

/-! ### Sessions -/

/-- The event of the boot waits for the first frame. -/
theorem boot_looping :
    ∃ booted request, State.boot = some booted ∧ Looping booted ∧ booted.written = [] ∧
      booted.built = [request] ∧ booted.waiting = [request.packet] ∧ request.svc = 5 := by
  let call : S5.Call := ⟨.info, Mission.eventBootComplete, ⟨[], State.noAux_fits⟩⟩
  let request := S5.request initBoard.s5 call.severity call.eventId call.aux
  obtain ⟨rc, reported⟩ := initBoard.report_eq call init.obsw.link
  have fits : ∀ other ∈ [request], other.Fits cfg := by
    intro other listed
    rw [List.mem_singleton.mp listed]
    show 17 + 2 ≤ 64
    omega
  have first : Ledger init := ⟨rfl, by simp [init, State.waiting, Port.queue]⟩
  have kept : Kept (initBoard.reported rc call) := by
    have fsm : (initBoard.reported rc call).fsm = initBoard.fsm :=
      if_neg (fun all => absurd all.2.1 (by decide))
    refine ⟨⟨boundSet, rfl, rfl, rfl⟩, ?_, ?_, ?_, rfl⟩
    · rw [fsm]
      decide
    · rw [fsm]
      rfl
    · rw [fsm]
      rfl
  let obsw : Obsw cfg := { init.obsw with
    board := initBoard.reported rc call
    link := init.obsw.link.emitted request }
  obtain ⟨ledger, queue, builds⟩ := @Ledger.builds init obsw [request] first rfl fits
  have settled : Settled { init with obsw := obsw } := ⟨ledger, kept⟩
  rw [show State.waiting init = [] from Store.init_queue cfg] at queue
  have unasked : ∀ pkt ∈ obsw.link.tm.queue, Unasked pkt := by
    intro pkt member
    rw [queue] at member
    rw [List.mem_singleton.mp member]
    right
    exact packet_service request
  refine ⟨State.kick { init with obsw := obsw }, request, ?_, settled.kick rfl unasked, rfl, builds,
    queue, rfl⟩
  unfold State.boot State.report
  rw [show init.obsw.board = initBoard from rfl, reported]
  rfl

/-- Turns in a row go on, and what they write is what the program writes on their frames. -/
theorem run_loops (frames : List (Option (List UInt8))) (looping : Looping state) :
    ∃ after sent, State.run frames state = some after ∧ Looping after ∧
      after.written = state.written ++ sent ∧
      turns.run frames (some state) = (some after, sent.flatMap Written.bytes) := by
  induction frames generalizing state with
  | nil => exact ⟨state, [], rfl, looping, (List.append_nil _).symm, rfl⟩
  | cons frame rest inductionHypothesis =>
      obtain ⟨middle, requests, sent, waits, first, turned⟩ := turn_loops frame looping
      obtain ⟨after, more, later, last, written, wrote⟩ := inductionHypothesis turned.looping
      rw [turned.written, List.append_assoc, List.append_assoc] at written
      refine ⟨after, _, ?_, last, written, ?_⟩
      · unfold State.run
        rw [List.foldlM_cons, first]
        exact later
      · have take : turns.take (some state) frame =
            (some middle, (sent.map Written.packet ++ ending state).flatMap Written.bytes) := by
          simp only [turns, first, turned.written, List.append_assoc, List.drop_left]
        rw [Machine.run_cons, take, wrote, ← List.append_assoc]
        exact congrArg (Prod.mk (some after)) List.flatMap_append.symm

/-- The turns on the frames of a session, from the boot on. -/
def State.session (frames : List (Option (List UInt8))) : Option State := do
  let state ← State.boot
  state.run frames

/-- After every session the loop goes on, and the program has written what the session has. -/
theorem session_loops (frames : List (Option (List UInt8))) :
    ∃ after, State.session frames = some after ∧ Looping after ∧
      turns.run frames State.boot = (some after, after.written.flatMap Written.bytes) := by
  obtain ⟨booted, _, ran, looping, unwritten, _⟩ := boot_looping
  obtain ⟨after, sent, rest, last, written, wrote⟩ := run_loops frames looping
  rw [unwritten, List.nil_append] at written
  refine ⟨after, ?_, last, ?_⟩
  · unfold State.session
    rw [ran]
    exact rest
  · rw [ran, written]
    exact wrote

/-- Without a frame, a packet that waits goes on waiting. -/
theorem run_waits {frames : List (Option (List UInt8))} (idle : ∀ frame ∈ frames, frame = none)
    (looping : Looping state) (waits : 0 < state.waiting.length) {after : State}
    (ran : State.run frames state = some after) : 0 < after.waiting.length := by
  induction frames generalizing state with
  | nil =>
      cases ran
      exact waits
  | cons frame rest inductionHypothesis =>
      obtain ⟨middle, first, turned⟩ := turn_idle looping
      obtain ⟨reports, _, _, waiting⟩ := turned.reports
      have still : 0 < middle.waiting.length := by
        rw [waiting, List.length_take, List.length_append]
        omega
      rw [idle frame List.mem_cons_self] at ran
      unfold State.run at ran
      rw [List.foldlM_cons, first] at ran
      exact inductionHypothesis (fun other member => idle other (List.mem_cons_of_mem frame member))
        turned.looping still ran

/-- Before the first frame, the event of the boot waits. -/
theorem session_waits {frames : List (Option (List UInt8))} (idle : ∀ frame ∈ frames, frame = none)
    {after : State} (ran : State.session frames = some after) : 0 < after.waiting.length := by
  obtain ⟨booted, request, first, looping, _, _, waiting, _⟩ := boot_looping
  unfold State.session at ran
  rw [first] at ran
  exact run_waits idle looping (by rw [waiting]; exact Nat.one_pos) ran

end Openobsw.Msp430
