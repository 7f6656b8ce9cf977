import Openobsw.System.HostMoments

/-!
Owns the law of one frame of the host simulation: it never faults, it leaves the TM
store empty, and it loses no TM exactly if its calls ask for no more than fit.
-/

namespace Openobsw.HostSim

open Openobsw.Fdir Openobsw.Lib Openobsw.Pus Openobsw.Srdb Openobsw.System Openobsw.Tm

/-! ### The rest of a sensor frame -/

theorem Traced.checkDemand_le {sim : Sim} (traced : Traced sim) : sim.obsw.checkDemand ≤ 16 := by
  have bound := traced.steady.checkDemand_le
  rw [traced.sized.monitoring] at bound
  exact bound

theorem Traced.dueSets_le {sim : Sim} (traced : Traced sim) : sim.obsw.board.s3.dueSets ≤ 9 := by
  have bound := traced.steady.fitted.dueSets_le
  rw [traced.sized.sets] at bound
  exact bound

theorem Progress.check {start sim : Sim} {moments : List Moment} {requests : List TmRequest}
    (progress : Progress start sim moments requests) :
    ∃ after more, sim.check = some after ∧
      Progress start after (moments ++ [.checked sim.obsw after.obsw]) more := by
  obtain ⟨after, more, ran, steady, sends, count, _, sized⟩ :=
    check_sends limits progress.traced.steady
  refine ⟨_, _, ?_, progress.next (.checked sim.obsw after) rfl ran steady sized sends count⟩
  unfold Sim.check
  rw [ran]
  rfl

theorem countEntries_steady {board : Board cfg} (steady : Steady board) :
    Steady (Sim.countEntries board) := by
  have changes : Changes (fun part => part = .appVars) board (Sim.countEntries board) :=
    .single (.appVars _) rfl
  exact steady.changes (by simp) changes

theorem Progress.tick {start sim : Sim} {moments : List Moment} {requests : List TmRequest}
    (progress : Progress start sim moments requests) :
    ∃ before after more, sim.tick = some after ∧ before.board.s3.dueSets ≤ 9 ∧
      Progress start after (moments ++ [.ticked before after.obsw]) more := by
  have counted := progress.between (countEntries_steady progress.traced.steady) ⟨rfl, rfl⟩ rfl
  obtain ⟨after, more, ran, steady, sends, count, _, sized⟩ :=
    tick_sends limits counted.traced.steady
  refine ⟨_, _, _, ?_, counted.traced.dueSets_le, counted.next
    (.ticked { sim.obsw with board := Sim.countEntries sim.obsw.board } after) rfl ran steady sized
    sends count⟩
  unfold Sim.tick
  simp only
  rw [show hkTick { sim.obsw with board := Sim.countEntries sim.obsw.board } = some after from ran]
  rfl

theorem control_steady (sensor : Sensor) {board : Board cfg} (steady : Steady board) :
    Steady (control sensor board) := by
  let after := control sensor board
  have valued : Changes (fun part => part ≠ .sets) board { board with s20 := after.s20 } := by
    refine .single (.values after.s20 ?_) (by simp)
    exact (setParam_ids _ _ _).trans ((setParam_ids _ _ _).trans (setParam_ids _ _ _))
  have varied : Changes (fun part => part ≠ .sets) { board with s20 := after.s20 }
      { board with s20 := after.s20, appVars := after.appVars } :=
    .single (.appVars after.appVars) (by simp)
  have timed : Changes (fun part => part ≠ .sets)
      { board with s20 := after.s20, appVars := after.appVars } after :=
    .single (.clock after.obt) (by simp)
  exact steady.changes (by simp) ((valued.trans varied).trans timed)

/-- The TMs that a frame can ask for at most, by the state before it: three for a
packet, one for a definition and one for a set. -/
def mostTms (sim : Sim) : Frame → Nat
  | .tc _ => 3
  | .sensor _ => 3 * (dueActivities sim + sim.obsw.board.s19.queue.length) + 16 + 9
  | .other => 0

/-- A sensor frame releases, acts, checks and reports without a fault. -/
theorem sense_progress (sensor : Sensor) {start : Sim} (traced : Traced start) :
    ∃ controller after moments requests, start.sense sensor = some (controller, after) ∧
      Progress start after moments requests ∧ load moments ≤ mostTms start (.sensor sensor) := by
  obtain ⟨released, first, scheduled, firstRan, fed, due⟩ := schedule_feeding traced
  obtain ⟨run, second, feds, secondRan, feeding, short⟩ := actions_feeding fed
  have light := feeding.light
  have steady := control_steady sensor feeding.steady
  obtain ⟨requests, progress⟩ := feeding.progress
  have controlled := progress.between steady ⟨rfl, rfl⟩ rfl
  obtain ⟨third, more, thirdRan, checked⟩ := controlled.check
  obtain ⟨before, last, most, lastRan, sets, ticked⟩ := checked.tick
  refine ⟨(aocsStep sensor second.obsw.board.fsm.mode).1, last, _, most, ?_, ticked, ?_⟩
  · unfold Sim.sense
    simp only [firstRan, secondRan, thirdRan, lastRan, Option.bind_eq_bind, Option.bind_some]
    rfl
  · have definitions := controlled.traced.checkDemand_le
    have single (moment : Moment) : load [moment] = moment.demand := Nat.add_zero _
    rw [load_append, load_append, single, single]
    show _ + Obsw.checkDemand _ + S3.Ctx.dueSets _ ≤ 3 * (_ + _) + 16 + 9
    omega

/-! ### The drain -/

/-- The packets that wait in the TM store, oldest first. -/
def waiting (sim : Sim) : Tm.Queue := sim.obsw.link.tm.queue

/-- The drain wrote every waiting packet, and did nothing else. -/
structure Drained (before after : Sim) : Prop where
  board : after.obsw.board = before.obsw.board
  log : after.obsw.link.tm.log = before.obsw.link.tm.log
  moments : after.moments = before.moments
  output : after.output = before.output ++ (waiting before).map Output.tm
  empty : waiting after = []

theorem drainLoop_drained (turns : Nat) {sim : Sim} (enough : (waiting sim).length < turns)
    (short : ∀ pkt ∈ waiting sim, pkt.length ≤ cfg.tmMaxPacketLen) :
    ∃ after, Sim.drainLoop turns sim = some after ∧ Drained sim after := by
  induction turns generalizing sim with
  | zero => omega
  | succ turns inductionHypothesis =>
      unfold Sim.drainLoop
      cases queued : waiting sim with
      | nil =>
          have empty : (sim.obsw.link.tm.store.dequeue cfg.tmMaxPacketLen).1 = .errEmpty :=
            dequeue_none queued _
          simp only [empty]
          refine ⟨sim, rfl, rfl, rfl, rfl, ?_, queued⟩
          rw [queued, List.map_nil, List.append_nil]
      | cons oldest rest =>
          rw [queued] at short enough
          obtain ⟨fits, others⟩ := List.forall_mem_cons.mp short
          obtain ⟨store, taken, left⟩ := dequeue_oldest queued fits
          simp only [taken, if_true]
          let middle : Sim := { sim with
            obsw := { sim.obsw with
              link := { sim.obsw.link with tm := { sim.obsw.link.tm with store := store } } }
            output := sim.output ++ [.tm oldest] }
          have middleWaiting : waiting middle = rest := left
          obtain ⟨after, ran, drained⟩ := @inductionHypothesis middle
            (by rw [middleWaiting]; exact Nat.lt_of_succ_lt_succ enough)
            (by rw [middleWaiting]; exact others)
          refine ⟨after, ran, drained.board, drained.log, drained.moments, ?_, drained.empty⟩
          rw [drained.output, middleWaiting, queued]
          show (sim.output ++ [Output.tm oldest]) ++ _ = _
          rw [List.append_assoc]
          rfl

theorem waiting_lt (sim : Sim) : (waiting sim).length < cfg.tmStoreSlots := by
  unfold waiting Port.queue
  rw [Store.queue_length]
  exact Ring.held_lt _ _

/-! ### Frames -/

/-- Between two frames no packet waits. -/
structure Idle (sim : Sim) : Prop where
  traced : Traced sim
  empty : waiting sim = []

theorem boot_idle : Idle boot where
  traced := {
    steady := boot_steady
    sized := ⟨rfl, rfl⟩
    ran := by simp [boot]
    passes := .boot }
  empty := Store.init_queue cfg

/-- The usable slots of the TM store. -/
def usableSlots : Nat := cfg.tmStoreSlots - 1

/-- What a frame does: its calls build TMs, those that were stored are written, and
then the `ending`. All of them were stored if the calls asked for no more TMs than the
store has room for. -/
structure Framed (before after : Sim) (moments : List Moment) (built : List TmBuilt)
    (ending : List Output) : Prop where
  idle : Idle after
  trace : after.moments = before.moments ++ moments
  log : after.obsw.link.tm.log = before.obsw.link.tm.log ++ built
  output : after.output = before.output ++ (storedPackets built).map Output.tm ++ ending
  stored : (∀ tm ∈ built, tm.rc = .ok) ↔ load moments ≤ usableSlots

theorem drain_framed {start sim : Sim} {moments : List Moment} {requests : List TmRequest}
    (idle : Idle start) (progress : Progress start sim moments requests) :
    ∃ after built, sim.drain = some after ∧ Framed start after moments built [] := by
  obtain ⟨built, recorded, room⟩ :=
    afterAll_built limits.atMost progress.fits start.obsw.link.tm
  have nothing : start.obsw.link.tm.queue = [] := idle.empty
  have queued : waiting sim = storedPackets built := by
    unfold waiting
    rw [progress.port, recorded.queue, nothing, List.nil_append]
  obtain ⟨after, ran, drained⟩ := drainLoop_drained cfg.tmStoreSlots (waiting_lt sim)
    (by rw [queued]; exact recorded.short)
  refine ⟨after, built, ran, ⟨⟨⟨?_, ?_, ?_, ?_⟩, drained.empty⟩, ?_, ?_, ?_, ?_⟩⟩
  · rw [drained.board]
    exact progress.traced.steady
  · rw [drained.board]
    exact progress.traced.sized
  · rw [drained.moments]
    exact progress.traced.ran
  · rw [drained.moments, drained.board]
    exact progress.traced.passes
  · rw [drained.moments, progress.trace]
  · rw [drained.log, progress.port, recorded.log]
  · rw [drained.output, progress.output, queued, List.append_nil]
  · rw [nothing, progress.count, List.length_nil, Nat.zero_add] at room
    exact room (Nat.zero_le _)

theorem Framed.write {before after : Sim} {moments : List Moment} {built : List TmBuilt}
    {ending : List Output} (framed : Framed before after moments built ending) (last : Output) :
    Framed before (after.write last) moments built (ending ++ [last]) where
  idle := {
    traced := {
      steady := framed.idle.traced.steady
      sized := framed.idle.traced.sized
      ran := framed.idle.traced.ran
      passes := framed.idle.traced.passes }
    empty := framed.idle.empty }
  trace := framed.trace
  log := framed.log
  output := by
    show after.output ++ [last] = _
    rw [framed.output, List.append_assoc]
  stored := framed.stored

/-- After its telemetry a frame writes the actuator frame, if it has one, and the
end-of-tick byte. -/
def Ending (ending : List Output) : Prop :=
  ending = [.sync] ∨ ∃ controller, ending = [.actuator controller, .sync]

/-- A frame never faults, and empties the TM store. -/
theorem step_framed {before : Sim} (idle : Idle before) (frame : Frame) :
    ∃ after moments built ending, before.step frame = some after ∧
      Framed before after moments built ending ∧ Ending ending ∧
      load moments ≤ mostTms before frame := by
  cases frame with
  | tc frame =>
      obtain ⟨rc, middle, moment, fed, feeding, _⟩ :=
        (Feeding.refl idle.traced).feed .uplink frame
      obtain ⟨requests, progress⟩ := feeding.progress
      obtain ⟨after, built, drained, framed⟩ := drain_framed idle progress
      refine ⟨_, _, built, _, ?_, framed.write .sync, .inl rfl, ?_⟩
      · unfold Sim.step
        simp only [fed, drained, Option.bind_eq_bind, Option.bind_some]
        rfl
      · exact feeding.light.trans (Nat.mul_le_mul_left 3 (List.length_filterMap_le _ _))
  | sensor sensor =>
      obtain ⟨controller, middle, moments, requests, sensed, progress, bound⟩ :=
        sense_progress sensor idle.traced
      obtain ⟨after, built, drained, framed⟩ := drain_framed idle progress
      refine ⟨_, moments, built, _, ?_, (framed.write (.actuator controller)).write .sync,
        .inr ⟨controller, rfl⟩, bound⟩
      unfold Sim.step
      simp only [sensed, drained, Option.bind_eq_bind, Option.bind_some]
      rfl
  | other =>
      have untouched : Framed before before [] [] [] :=
        ⟨idle, (List.append_nil _).symm, (List.append_nil _).symm, by simp [storedPackets],
          by simp [load]⟩
      exact ⟨_, [], [], _, rfl, untouched.write .sync, .inl rfl, Nat.le_refl 0⟩

theorem run_cons {before middle : Sim} {frame : Frame} (rest : List Frame)
    (stepped : before.step frame = some middle) :
    Sim.run (frame :: rest) before = Sim.run rest middle := by
  unfold Sim.run
  rw [List.foldlM_cons, stepped]
  rfl

/-- A run of frames never faults. -/
theorem run_idle (frames : List Frame) {before : Sim} (idle : Idle before) :
    ∃ after, Sim.run frames before = some after ∧ Idle after := by
  induction frames generalizing before with
  | nil => exact ⟨before, rfl, idle⟩
  | cons frame rest inductionHypothesis =>
      obtain ⟨middle, _, _, _, stepped, framed, _, _⟩ := step_framed idle frame
      obtain ⟨after, ran, afterIdle⟩ := inductionHypothesis framed.idle
      exact ⟨after, (run_cons rest stepped).trans ran, afterIdle⟩

end Openobsw.HostSim
