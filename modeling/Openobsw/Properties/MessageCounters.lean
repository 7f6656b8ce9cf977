import Openobsw.System.Target

/-!
Owns the message counters of the FreeRTOS build. A service that one context reports is
numbered without a gap in every run; events are reported by three contexts, and each of
them counts on its own.
-/

namespace Openobsw.Target

open Openobsw.Fdir Openobsw.Lib Openobsw.Lib.Numbering Openobsw.Pus Openobsw.Srdb
open Openobsw.System Openobsw.Task

/-! ### What the ground sees -/

/-- The message counters of the TMs of a service, in the order they were built. -/
def State.numbers (state : State) (svc : UInt8) : List UInt16 :=
  numbersOf svc (state.obsw.link.tm.log.map (fun tm => tm.request.message))

/-- The reports of a service count up from 0, so that no two of any 65536 in a row carry
the same counter. -/
structure NumbersReports (svc : UInt8) (state : State) : Prop where
  counts : Counts (state.numbers svc)
  distinct : ∀ i j, i < j → j < i + 65536 → j < (state.numbers svc).length →
    (state.numbers svc)[i]? ≠ (state.numbers svc)[j]?

theorem numbersReports_iff (svc : UInt8) (state : State) :
    NumbersReports svc state ↔ Counts (state.numbers svc) := by
  constructor
  · exact NumbersReports.counts
  · intro counts
    refine ⟨counts, ?_⟩
    intro i j before near inside
    exact counts.distinct before near inside

/-- The next turn of the Mode Manager ends in another mode than the one it last saw. -/
def State.ChangesMode (state : State) : Prop :=
  state.modeTask.processRequests.autoTransition.fsm.mode ≠ state.last

/-- Whichever S5 context reports in the turn, the counters of the two others add up to 0
when it does. -/
def State.ReportsAlone (state : State) : Turn → Prop
  | .mode => state.ChangesMode →
      state.obsw.board.s5.msgCounter + state.fdirS5.msgCounter = 0
  | .fdir =>
      (state.obsw.checkDemand ≠ 0 → state.modeS5.msgCounter + state.fdirS5.msgCounter = 0) ∧
        (state.bootSent = false → state.modeS5.msgCounter +
          (state.obsw.board.s5.msgCounter + UInt16.ofNat state.obsw.checkDemand) = 0)
  | .dispatch _ | .scheduleRun | .actionRun | .aocs _ | .downlink => True

/-- All turns of the run meet the condition. -/
def AllAlone : List Turn → State → Prop
  | [], _ => True
  | turn :: rest, state =>
      state.ReportsAlone turn ∧ ∀ after, state.step turn = some after → AllAlone rest after

/-! ### Calls on the board -/

/-- The calls between two states sent TMs, `events` of them event reports. -/
structure Sent (events : Nat) (obsw after : Obsw cfg) : Prop where
  steady : Steady after.board
  sends : ∃ requests, Sends requests obsw.board after.board obsw.link after.link ∧
    (numbersOf 5 (requests.map TmRequest.message)).length = events

namespace Sent

variable {events more : Nat} {obsw middle after : Obsw cfg}

theorem refl (steady : Steady obsw.board) : Sent 0 obsw obsw where
  steady := steady
  sends := ⟨[], .refl _ _, rfl⟩

theorem trans (first : Sent events obsw middle) (second : Sent more middle after) :
    Sent (events + more) obsw after where
  steady := second.steady
  sends := by
    obtain ⟨front, firstSends, firstCount⟩ := first.sends
    obtain ⟨back, secondSends, secondCount⟩ := second.sends
    refine ⟨front ++ back, firstSends.trans secondSends, ?_⟩
    rw [List.map_append, numbersOf_append, List.length_append, firstCount, secondCount]

theorem reported (sent : Sent events obsw after) :
    after.board.s5.msgCounter = obsw.board.s5.msgCounter + UInt16.ofNat events := by
  obtain ⟨requests, sends, count⟩ := sent.sends
  rw [← count]
  exact (sends.numbered.consecutive 5).2

/-- A change of the board that no counter notices. -/
theorem unnoticed (sent : Sent events obsw middle) {board : Board cfg} (steady : Steady board)
    (same : counters board middle.link = counters middle.board middle.link) :
    Sent events obsw { middle with board := board } := by
  have still : Sent 0 middle { middle with board := board } :=
    ⟨steady, [], .unsent rfl same, rfl⟩
  exact sent.trans still

end Sent

theorem feed_sent (origin : Origin) (frame : List UInt8) {obsw : Obsw cfg}
    (steady : Steady obsw.board) :
    ∃ rc after, feed wiring origin frame obsw = some (rc, after) ∧ Sent 0 obsw after := by
  obtain ⟨rc, after, requests, ran, steadyAfter, sends, count, contained⟩ :=
    feed_sends ready origin frame steady
  refine ⟨rc, after, ran, steadyAfter, requests, sends, ?_⟩
  have few : (requests.map TmRequest.message).length < 65536 := by
    have bound := wiring.demand_le frame obsw
    rw [List.length_map, count]
    omega
  have unreported : counters after.board after.link 5 = counters obsw.board obsw.link 5 :=
    contained.unreported
  rw [sends.numbered.silent unreported few]
  rfl

theorem schedule_closed (start : Obsw cfg) :
    S11.Closed cfg (Obsw.core.comp Board.schedule) (feed wiring .schedule) (Sent 0 start) where
  total pkt obsw sent := by
    obtain ⟨rc, after, ran, more⟩ := feed_sent .schedule pkt sent.steady
    exact ⟨rc, after, ran, sent.trans more⟩
  wellFormed obsw sent := sent.steady.sound.schedule
  released obsw a tNow rest sent perm := by
    have changes : Changes (fun part => part = .release) obsw.board _ :=
      .single (.release a tNow rest perm) rfl
    exact sent.unnoticed (sent.steady.changes (by simp) changes) rfl

theorem action_closed (start : Obsw cfg) :
    S19.Closed (Obsw.core.comp Board.events) (feed wiring .eventAction) (Sent 0 start) where
  total pkt obsw sent := by
    obtain ⟨rc, after, ran, more⟩ := feed_sent .eventAction pkt sent.steady
    exact ⟨rc, after, ran, sent.trans more⟩
  emptied obsw sent := by
    have changes : Changes (fun part => part = .eventAction) obsw.board _ :=
      .single (.eventAction _ .taken) rfl
    exact sent.unnoticed (sent.steady.changes (by simp) changes) rfl

theorem scheduleRun_sent (now : Time.Obt) {obsw : Obsw cfg} (steady : Steady obsw.board) :
    ∃ count after, scheduleRun wiring now obsw = some (count, after) ∧ Sent 0 obsw after :=
  S11.run_closed (schedule_closed obsw) now (.refl steady)

theorem actionRun_sent {obsw : Obsw cfg} (steady : Steady obsw.board) :
    ∃ count after, actionRun wiring obsw = some (count, after) ∧ Sent 0 obsw after := by
  obtain ⟨actions, after, ran, sent, _⟩ := S19.run_dispatches (action_closed obsw) (.refl steady)
  exact ⟨_, after, ran, sent⟩

/-- Of the messages of one service, all or none are event reports. -/
theorem numbersOf_same {svc : UInt8} {requests : List TmRequest}
    (own : ∀ request ∈ requests, request.svc = svc) :
    (numbersOf 5 (requests.map TmRequest.message)).length =
      if svc = 5 then requests.length else 0 := by
  have filtered : (requests.map TmRequest.message).filter (fun message => message.1 = 5) =
      if svc = 5 then requests.map TmRequest.message else [] := by
    split
    · rename_i five
      apply List.filter_eq_self.mpr
      intro message member
      obtain ⟨request, inRequests, rfl⟩ := List.mem_map.mp member
      exact decide_eq_true ((own request inRequests).trans five)
    · rename_i other
      apply List.filter_eq_nil_iff.mpr
      intro message member
      obtain ⟨request, inRequests, rfl⟩ := List.mem_map.mp member
      have same : request.message.1 = svc := own request inRequests
      simpa [same] using other
  unfold numbersOf
  rw [filtered]
  split
  · rw [List.length_map, List.length_map]
  · rfl

theorem check_sent {obsw : Obsw cfg} (steady : Steady obsw.board) :
    ∃ after, monitoringCheck obsw = some after ∧ Sent obsw.checkDemand obsw after := by
  obtain ⟨after, requests, ran, steadyAfter, sends, count, own, _⟩ := check_sends limits steady
  refine ⟨after, ran, steadyAfter, requests, sends, ?_⟩
  rw [numbersOf_same own, if_pos rfl, count]

theorem tick_sent {obsw : Obsw cfg} (steady : Steady obsw.board) :
    ∃ after, hkTick obsw = some after ∧ Sent 0 obsw after := by
  obtain ⟨after, requests, ran, steadyAfter, sends, _, own, _⟩ := tick_sends limits steady
  refine ⟨after, ran, steadyAfter, requests, sends, ?_⟩
  rw [numbersOf_same own, if_neg (by decide)]

/-! ### The numbers of a run -/

/-- How far the contexts that report a service have counted together. -/
def State.spent (state : State) (svc : UInt8) : UInt16 :=
  if svc = 5 then
    state.obsw.board.s5.msgCounter + (state.modeS5.msgCounter + state.fdirS5.msgCounter)
  else counters state.obsw.board state.obsw.link svc

/-- What holds between any two turns. -/
structure Kept (state : State) : Prop where
  steady : Steady state.obsw.board
  uncoupled : state.modeS5.fsm = false
  accounted : ∀ svc, state.spent svc = UInt16.ofNat (state.numbers svc).length

/-- The numbers of a service go on from `next`. -/
structure Continues (state after : State) (svc : UInt8) (next : UInt16) (count : Nat) : Prop where
  numbers : after.numbers svc = state.numbers svc ++ consecutive next count
  spent : after.spent svc = state.spent svc + UInt16.ofNat count

theorem Continues.accounted {state after : State} {svc : UInt8} {next : UInt16} {count : Nat}
    (continues : Continues state after svc next count) (kept : Kept state) :
    after.spent svc = UInt16.ofNat (after.numbers svc).length := by
  rw [continues.spent, continues.numbers, kept.accounted, List.length_append, consecutive_length,
    UInt16.ofNat_add]

theorem Continues.counts_iff {state after : State} {svc : UInt8} {next : UInt16} {count : Nat}
    (continues : Continues state after svc next count) (kept : Kept state) :
    Counts (after.numbers svc) ↔
      Counts (state.numbers svc) ∧ (count = 0 ∨ next = state.spent svc) := by
  rw [continues.numbers, counts_append_iff, kept.accounted]

/-- Between two states every other service goes on counting, and events do so exactly if
`alone`. -/
structure Moves (alone : Prop) (state after : State) : Prop where
  kept : Kept after
  others : ∀ svc, svc ≠ 5 → Counts (state.numbers svc) → Counts (after.numbers svc)
  events : Counts (after.numbers 5) ↔ Counts (state.numbers 5) ∧ alone

namespace Moves

variable {alone more : Prop} {state middle after : State}

theorem trans (first : Moves alone state middle) (second : Moves more middle after) :
    Moves (alone ∧ more) state after where
  kept := second.kept
  others svc other counts := second.others svc other (first.others svc other counts)
  events := by
    rw [second.events, first.events, and_assoc]

theorem congr (moves : Moves alone state after) (same : alone ↔ more) : Moves more state after where
  kept := moves.kept
  others := moves.others
  events := by
    rw [moves.events, same]

theorem of_continues (kept : Kept state) (steady : Steady after.obsw.board)
    (uncoupled : after.modeS5.fsm = false)
    (others : ∀ svc, svc ≠ 5 → ∃ count, Continues state after svc (state.spent svc) count)
    {next : UInt16} {count : Nat} (events : Continues state after 5 next count) :
    Moves (count = 0 ∨ next = state.spent 5) state after where
  kept := {
    steady := steady
    uncoupled := uncoupled
    accounted := by
      intro svc
      by_cases five : svc = 5
      · rw [five]
        exact events.accounted kept
      · obtain ⟨count, continues⟩ := others svc five
        exact continues.accounted kept }
  others := by
    intro svc other counts
    obtain ⟨count, continues⟩ := others svc other
    exact (continues.counts_iff kept).mpr ⟨counts, .inr rfl⟩
  events := events.counts_iff kept

/-- A step that builds no TM. -/
theorem still (kept : Kept state) (steady : Steady after.obsw.board)
    (log : after.obsw.link.tm.log = state.obsw.link.tm.log)
    (same : counters after.obsw.board after.obsw.link =
      counters state.obsw.board state.obsw.link)
    (mode : after.modeS5 = state.modeS5) (fdir : after.fdirS5 = state.fdirS5) :
    Moves True state after := by
  have events : after.obsw.board.s5.msgCounter = state.obsw.board.s5.msgCounter := congrFun same 5
  have each : ∀ svc next, Continues state after svc next 0 := by
    intro svc next
    constructor
    · unfold State.numbers
      rw [log]
      exact (List.append_nil _).symm
    · unfold State.spent
      rw [events, mode, fdir, same]
      exact (UInt16.add_zero _).symm
  have moved := of_continues kept steady (mode ▸ kept.uncoupled)
    (fun svc _ => ⟨0, each svc _⟩) (each 5 0)
  exact moved.congr (by simp)

end Moves

theorem numbers_afterAll {state after : State} {requests : List TmRequest}
    (port : after.obsw.link.tm = state.obsw.link.tm.afterAll requests) (svc : UInt8) :
    after.numbers svc = state.numbers svc ++ numbersOf svc (requests.map TmRequest.message) := by
  have log := afterAll_requests state.obsw.link.tm requests
  rw [← port] at log
  have messages := congrArg (List.map TmRequest.message) log
  rw [List.map_append, List.map_map, List.map_map] at messages
  unfold State.numbers
  rw [← numbersOf_append]
  exact congrArg (numbersOf svc) messages

/-- The calls on the board keep the count of events exactly if they make none, or the two
other contexts add nothing to it. -/
theorem Sent.moves {state : State} {obsw : Obsw cfg} {events : Nat} (kept : Kept state)
    (sent : Sent events state.obsw obsw) :
    Moves (events ≠ 0 → state.modeS5.msgCounter + state.fdirS5.msgCounter = 0) state
      { state with obsw := obsw } := by
  obtain ⟨requests, sends, count⟩ := sent.sends
  have numbers (svc : UInt8) : State.numbers { state with obsw := obsw } svc =
      state.numbers svc ++ consecutive (counters state.obsw.board state.obsw.link svc)
        (numbersOf svc (requests.map TmRequest.message)).length := by
    rw [← (sends.numbered.consecutive svc).1]
    exact numbers_afterAll sends.port svc
  have counted (svc : UInt8) := (sends.numbered.consecutive svc).2
  have others : ∀ svc, svc ≠ 5 → ∃ count, Continues state { state with obsw := obsw } svc
      (state.spent svc) count := by
    intro svc other
    have own : state.spent svc = counters state.obsw.board state.obsw.link svc := if_neg other
    refine ⟨(numbersOf svc (requests.map TmRequest.message)).length, ?_, ?_⟩
    · rw [own]
      exact numbers svc
    · rw [own]
      exact (if_neg other).trans (counted svc)
  have continues : Continues state { state with obsw := obsw } 5
      state.obsw.board.s5.msgCounter events := by
    constructor
    · rw [← count]
      exact numbers 5
    · unfold State.spent
      rw [if_pos rfl, if_pos rfl, sent.reported, UInt16.add_assoc, UInt16.add_assoc,
        UInt16.add_comm (UInt16.ofNat events)]
  have moves := @Moves.of_continues state { state with obsw := obsw } kept sent.steady
    kept.uncoupled others _ _ continues
  apply moves.congr
  have stands : state.obsw.board.s5.msgCounter = state.spent 5 ↔
      state.modeS5.msgCounter + state.fdirS5.msgCounter = 0 := by
    unfold State.spent
    rw [if_pos rfl]
    grind
  rw [stands]
  tauto

/-- A report on a context of a task's own keeps the count exactly if it carries the next
number of all of them. -/
theorem moves_reported {state after : State} {request : TmRequest} (kept : Kept state)
    (steady : Steady after.obsw.board) (uncoupled : after.modeS5.fsm = false)
    (port : after.obsw.link.tm = state.obsw.link.tm.after request) (event : request.svc = 5)
    (spent : after.spent 5 = state.spent 5 + 1)
    (same : counters after.obsw.board after.obsw.link =
      counters state.obsw.board state.obsw.link) :
    Moves (request.msgCounter = state.spent 5) state after := by
  have numbers := @numbers_afterAll state after [request] port
  have others : ∀ svc, svc ≠ 5 → ∃ count, Continues state after svc (state.spent svc) count := by
    intro svc other
    refine ⟨0, ?_, ?_⟩
    · rw [numbers svc]
      have silent : numbersOf svc ([request].map TmRequest.message) = [] := by
        have foreign : request.message.1 ≠ svc := fun own => other (own.symm.trans event)
        simp [numbersOf, foreign]
      rw [silent]
      rfl
    · unfold State.spent
      rw [if_neg other, if_neg other, same]
      exact (UInt16.add_zero _).symm
  have continues : Continues state after 5 request.msgCounter 1 := by
    refine ⟨?_, spent⟩
    rw [numbers 5]
    have own : numbersOf 5 ([request].map TmRequest.message) = [request.msgCounter] := by
      have eventual : request.message.1 = 5 := event
      unfold numbersOf
      rw [List.map_singleton, List.filter_cons_of_pos (by rw [eventual]; rfl)]
      rfl
    rw [own]
    simp [consecutive]
  exact (Moves.of_continues kept steady uncoupled others continues).congr (by simp)

/-! ### Every turn -/

theorem assign_moves {state : State} (kept : Kept state) (values : List (Var × UInt32)) :
    Moves True state (state.assign values) := by
  have changes : Changes (fun part => part = .appVars) state.obsw.board
      (state.assign values).obsw.board := .single (.appVars _) rfl
  exact .still kept (kept.steady.changes (by simp) changes) rfl rfl rfl rfl

theorem advance_moves {state : State} (kept : Kept state) (dtMs : UInt32) :
    Moves True state (state.advance dtMs) := by
  have changes : Changes (fun part => part = .clock) state.obsw.board
      (state.advance dtMs).obsw.board := .single (.clock _) rfl
  exact .still kept (kept.steady.changes (by simp) changes) rfl rfl rfl rfl

theorem aocsTurn_moves {state : State} (kept : Kept state) (reading : Reading) :
    Moves True state (state.aocsTurn reading) := by
  unfold State.aocsTurn
  simp only
  split
  · exact .still kept kept.steady rfl rfl rfl rfl
  · have sensed := assign_moves kept [(.magX, reading.magX), (.magY, reading.magY),
      (.magZ, reading.magZ), (.magValid, reading.magValid.toUInt32)]
    split
    · exact (sensed.trans (assign_moves sensed.kept _)).congr (by simp)
    · exact sensed

theorem countEntries_moves {state : State} (kept : Kept state) :
    Moves True state state.countEntries := by
  unfold State.countEntries
  simp only
  split
  · have counted := assign_moves kept
      [(.safeModeCount, ((state.var .safeModeCount).toUInt16 + 1).toUInt32)]
    exact .still kept counted.kept.steady rfl rfl rfl rfl
  · exact .still kept kept.steady rfl rfl rfl rfl

theorem kick_moves {state : State} (kept : Kept state) : Moves True state state.kick := by
  have kicked := assign_moves kept [(.kickCountHk, state.kickCount + 1)]
  exact .still kept kicked.kept.steady rfl rfl rfl rfl

/-- The mode machine is no part of what keeps a board steady. -/
theorem steady_fsm {board : Board cfg} (steady : Steady board) (fsm : Fsm) :
    Steady { board with fsm := fsm } where
  sound := ⟨steady.sound.sets, steady.sound.schedule, steady.sound.monitoring,
    steady.sound.eventAction⟩
  fitted := steady.fitted

theorem modeTurn_moves {state : State} (kept : Kept state) :
    ∃ after, state.modeTurn = some after ∧ Moves (state.ReportsAlone .mode) state after := by
  have ticked := @ModeTask.tick_eq cfg state.modeTask kept.uncoupled state.obsw.link.tm
  have turned : state.modeTurn = some (state.afterMode state.modeTask.ticked
      (state.obsw.link.tm.afterAll state.modeTask.reports)) := by
    unfold State.modeTurn
    rw [ticked]
    rfl
  have assigned := assign_moves kept ([(Var.reqSafe, state.modeTask.ticked.requests.safe),
    (Var.reqNominal, state.modeTask.ticked.requests.nominal),
    (Var.reqStandby, state.modeTask.ticked.requests.standby)].map
      (fun flag => (flag.1, flag.2.toUInt32)))
  have steady := steady_fsm assigned.kept.steady state.modeTask.ticked.fsm
  refine ⟨_, turned, ?_⟩
  by_cases changed : state.ChangesMode
  · obtain ⟨call, emitted, reports⟩ := @ModeTask.ticked_changed state.modeTask changed
    have uncoupled : state.modeTask.ticked.s5.fsm = false := by
      rw [emitted]
      exact kept.uncoupled
    have counted : state.modeTask.ticked.s5.msgCounter = state.modeS5.msgCounter + 1 := by
      rw [emitted]
      rfl
    rw [reports]
    let request := S5.request state.modeS5 call.severity call.eventId call.aux
    let after := state.afterMode state.modeTask.ticked (state.obsw.link.tm.afterAll [request])
    have spent : after.spent 5 = state.spent 5 + 1 := by
      show state.obsw.board.s5.msgCounter +
        (state.modeTask.ticked.s5.msgCounter + state.fdirS5.msgCounter) =
          state.obsw.board.s5.msgCounter + (state.modeS5.msgCounter + state.fdirS5.msgCounter) + 1
      rw [counted]
      grind
    have moves := @moves_reported state after request kept steady uncoupled rfl rfl spent rfl
    apply moves.congr
    have stands : state.modeS5.msgCounter = state.spent 5 ↔
        state.obsw.board.s5.msgCounter + state.fdirS5.msgCounter = 0 := by
      unfold State.spent
      rw [if_pos rfl]
      grind
    have condition : state.ReportsAlone .mode ↔
        state.obsw.board.s5.msgCounter + state.fdirS5.msgCounter = 0 :=
      forall_prop_of_true changed
    exact stands.trans condition.symm
  · obtain ⟨silent, reports⟩ :=
      @ModeTask.ticked_unchanged state.modeTask (not_not.mp changed)
    rw [reports]
    have moves := @Moves.still state (state.afterMode state.modeTask.ticked _) kept steady rfl rfl
      silent rfl
    exact moves.congr (by simp [State.ReportsAlone, changed])

theorem bootReport_moves {state : State} (kept : Kept state) :
    ∃ after, state.bootReport = some after ∧
      Moves (state.bootSent = false →
        state.modeS5.msgCounter + state.obsw.board.s5.msgCounter = 0) state after := by
  cases sent : state.bootSent with
  | true =>
      refine ⟨state, ?_, (Moves.still kept kept.steady rfl rfl rfl rfl).congr (by simp)⟩
      unfold State.bootReport
      rw [sent]
      rfl
  | false =>
      let request := S5.request state.fdirS5 .info Mission.eventBootComplete ⟨[], Nat.zero_le 255⟩
      let env := S5.reported none .info Mission.eventBootComplete ⟨[], Nat.zero_le 255⟩ state.fdirEnv
      let after : State := { state.afterFdir env with bootSent := true }
      have ran : state.bootReport = some after := by
        unfold State.bootReport
        rw [sent, if_neg Bool.false_ne_true, S5.report_eq]
        rfl
      have spent : after.spent 5 = state.spent 5 + 1 := by
        show state.obsw.board.s5.msgCounter +
          (state.modeS5.msgCounter + (state.fdirS5.msgCounter + 1)) =
            state.obsw.board.s5.msgCounter + (state.modeS5.msgCounter + state.fdirS5.msgCounter) + 1
        grind
      have moves := @moves_reported state after request kept (steady_fsm kept.steady env.fsm)
        kept.uncoupled rfl rfl spent rfl
      have stands : state.fdirS5.msgCounter = state.spent 5 ↔
          state.modeS5.msgCounter + state.obsw.board.s5.msgCounter = 0 := by
        unfold State.spent
        rw [if_pos rfl]
        grind
      have condition : (false = false →
          state.modeS5.msgCounter + state.obsw.board.s5.msgCounter = 0) ↔
            state.modeS5.msgCounter + state.obsw.board.s5.msgCounter = 0 :=
        forall_prop_of_true rfl
      exact ⟨after, ran, moves.congr (stands.trans condition.symm)⟩

theorem housekeep_moves {state : State} (kept : Kept state) :
    ∃ after, state.housekeep = some after ∧ Moves True state after := by
  obtain ⟨obsw, ran, sent⟩ := tick_sent kept.steady
  refine ⟨{ state with obsw := obsw }, ?_, (sent.moves kept).congr (by simp)⟩
  unfold State.housekeep
  rw [ran]
  rfl

/-- The check reports first, then the boot event; nothing else in the turn is an event. -/
theorem fdirTurn_moves {state : State} (kept : Kept state) :
    ∃ after, state.fdirTurn = some after ∧ Moves (state.ReportsAlone .fdir) state after := by
  have advanced := advance_moves kept 1000
  obtain ⟨obsw, checked, sent⟩ := check_sent advanced.kept.steady
  have monitored := sent.moves advanced.kept
  have kicked := kick_moves monitored.kept
  obtain ⟨booted, boots, reported⟩ := bootReport_moves kicked.kept
  have counted := countEntries_moves reported.kept
  obtain ⟨after, housekept, last⟩ := housekeep_moves counted.kept
  have stepped : (state.advance 1000).check = some { state.advance 1000 with obsw := obsw } := by
    unfold State.check
    rw [checked]
    rfl
  refine ⟨after, ?_, ?_⟩
  · unfold State.fdirTurn
    rw [stepped]
    show (State.bootReport _).bind _ = _
    rw [boots]
    exact housekept
  · have moves := ((((advanced.trans monitored).trans kicked).trans reported).trans counted).trans last
    apply moves.congr
    have counter : obsw.board.s5.msgCounter =
        state.obsw.board.s5.msgCounter + UInt16.ofNat state.obsw.checkDemand := sent.reported
    show (((((True ∧ (state.obsw.checkDemand ≠ 0 → _)) ∧ True) ∧ (state.bootSent = false →
      state.modeS5.msgCounter + obsw.board.s5.msgCounter = 0)) ∧ True) ∧ True) ↔ _
    rw [counter]
    simp only [true_and, and_true]
    rfl

/-! ### Every run -/

theorem dispatched_moves {state : State} (kept : Kept state) {obsw : Obsw cfg}
    (sent : Sent 0 state.obsw obsw) : Moves True state { state with obsw := obsw } :=
  (sent.moves kept).congr (by simp)

theorem step_moves {state : State} (kept : Kept state) (turn : Turn) :
    ∃ after, state.step turn = some after ∧ Moves (state.ReportsAlone turn) state after := by
  cases turn with
  | dispatch frame =>
      obtain ⟨rc, obsw, ran, sent⟩ := feed_sent .uplink frame kept.steady
      refine ⟨{ state with obsw := obsw }, ?_, dispatched_moves kept sent⟩
      show (feed wiring .uplink frame state.obsw).bind _ = _
      rw [ran]
      rfl
  | scheduleRun =>
      obtain ⟨count, obsw, ran, sent⟩ := scheduleRun_sent state.obsw.board.obt kept.steady
      refine ⟨{ state with obsw := obsw }, ?_, dispatched_moves kept sent⟩
      show (scheduleRun wiring state.obsw.board.obt state.obsw).bind _ = _
      rw [ran]
      rfl
  | actionRun =>
      obtain ⟨count, obsw, ran, sent⟩ := actionRun_sent kept.steady
      refine ⟨{ state with obsw := obsw }, ?_, dispatched_moves kept sent⟩
      show (actionRun wiring state.obsw).bind _ = _
      rw [ran]
      rfl
  | mode => exact modeTurn_moves kept
  | fdir => exact fdirTurn_moves kept
  | aocs reading => exact ⟨_, rfl, aocsTurn_moves kept reading⟩
  | downlink => exact ⟨_, rfl, .still kept kept.steady rfl rfl rfl rfl⟩

theorem run_moves (turns : List Turn) {state : State} (kept : Kept state) :
    ∃ after, state.run turns = some after ∧ Moves (AllAlone turns state) state after := by
  induction turns generalizing state with
  | nil => exact ⟨state, rfl, .still kept kept.steady rfl rfl rfl rfl⟩
  | cons turn rest inductionHypothesis =>
      obtain ⟨middle, stepped, first⟩ := step_moves kept turn
      obtain ⟨after, ran, later⟩ := inductionHypothesis first.kept
      refine ⟨after, ?_, (first.trans later).congr ?_⟩
      · unfold State.run at ran ⊢
        rw [List.foldlM_cons, stepped]
        exact ran
      · show _ ↔ state.ReportsAlone turn ∧
          ∀ other, state.step turn = some other → AllAlone rest other
        constructor
        · intro both
          refine ⟨both.1, ?_⟩
          intro other same
          rw [stepped] at same
          cases same
          exact both.2
        · intro both
          exact ⟨both.1, both.2 middle stepped⟩

theorem boot_kept (flash : Nat → UInt8) : Kept (boot flash) where
  steady := boot_steady flash
  uncoupled := rfl
  accounted := by
    intro svc
    show State.spent _ svc = 0
    unfold State.spent counters
    split
    · rfl
    · simp only [boot, bootBoard, ite_self]

/-- No run faults, and the reports of every service but event reporting are numbered
without a gap. The events are exactly if in every turn at most one of the three S5
contexts has a number that the others have not used up. -/
theorem reports_numbered_iff (flash : Nat → UInt8) (turns : List Turn) :
    ∃ state, (boot flash).run turns = some state ∧
      (∀ svc, svc ≠ 5 → NumbersReports svc state) ∧
      (NumbersReports 5 state ↔ AllAlone turns (boot flash)) := by
  obtain ⟨state, ran, moves⟩ := run_moves turns (boot_kept flash)
  have start (svc : UInt8) : Counts ((boot flash).numbers svc) := rfl
  refine ⟨state, ran, ?_, ?_⟩
  · intro svc other
    exact (numbersReports_iff svc state).mpr (moves.others svc other (start svc))
  · rw [numbersReports_iff, moves.events]
    exact ⟨And.right, And.intro (start 5)⟩

/-- A full tick of the FDIR task, a TC(8,1) for SAFE, and a turn of the Mode Manager. -/
def bootThenSafe : List Turn := [.fdir, .dispatch (tcFrame 8 1 0 [0, 2, 0]), .mode]

/-- BOOT_COMPLETE and SAFE_MODE_ENTRY both carry the counter 0. -/
theorem events_share_counter :
    ¬ ∀ (flash : Nat → UInt8) (turns : List Turn) (state : State),
      (boot flash).run turns = some state → ∀ svc, NumbersReports svc state := by
  intro numbered
  have shared : ((boot (fun _ => 0)).run bootThenSafe).map (fun state => state.numbers 5) =
      some [0, 0] := by
    decide +kernel
  cases ran : (boot (fun _ => 0)).run bootThenSafe with
  | none =>
      rw [ran] at shared
      cases shared
  | some state =>
      rw [ran] at shared
      have both : state.numbers 5 = [0, 0] := Option.some.inj shared
      have counts := (numbered _ _ state ran 5).counts
      rw [both] at counts
      cases counts

end Openobsw.Target
