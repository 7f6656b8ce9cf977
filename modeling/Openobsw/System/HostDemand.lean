import Openobsw.System.HostFrames

/-!
Owns the number of TMs that a frame of the host simulation asks for, as a function of the
software before the frame. The store, the output and the packets built so far have no part
in it.
-/

namespace Openobsw.HostSim

open Openobsw.Lib Openobsw.Pus Openobsw.System Openobsw.Tm

/-! ### The count -/

/-- The software with the number of TMs that were asked for. -/
structure Tally where
  asked : Nat
  obsw : Obsw cfg

namespace Tally

def core : Component Tally (Board cfg) where
  get tally := tally.obsw.board
  set board tally := { tally with obsw := { tally.obsw with board := board } }
  get_set _ _ := rfl
  set_get _ := rfl

/-- `obsw_tc_dispatcher_feed` with the TMs that answer the packet. -/
def feed (origin : Origin) (frame : List UInt8) (tally : Tally) : Option (TcRc × Tally) := do
  let (rc, obsw) ← System.feed wiring origin frame tally.obsw
  return (rc, { asked := tally.asked + wiring.demand frame tally.obsw, obsw := obsw })

/-- A sensor frame up to the housekeeping tick: the due activities and the queued actions
are fed, then the limits are checked, then the sets that are due are counted. -/
def sense (sensor : Sensor) (tally : Tally) : Option Nat := do
  let (_, tally) ←
    S11.run cfg (core.comp Board.schedule) (feed .schedule) tally.obsw.board.obt tally
  let (_, tally) ← S19.run (core.comp Board.events) (feed .eventAction) tally
  let before := { tally.obsw with board := control sensor tally.obsw.board }
  let after ← monitoringCheck before
  return tally.asked + before.checkDemand + after.board.s3.dueSets

end Tally

/-- The TMs that the calls of a frame ask for. -/
def demand (obsw : Obsw cfg) : Frame → Nat
  | .tc frame => wiring.demand frame obsw
  | .sensor sensor => (Tally.sense sensor { asked := 0, obsw := obsw }).getD 0
  | .other => 0

/-! ### The count is that of the simulation -/

/-- The count so far is the load of the moments so far. -/
def Sim.tally (sim : Sim) : Tally where
  asked := load sim.moments
  obsw := sim.obsw

theorem tally_shown : Sim.core.Shown Tally.core Sim.tally where
  get _ := rfl
  set _ _ := rfl

theorem tally_feed (origin : Origin) (frame : List UInt8) (sim : Sim) :
    Tally.feed origin frame sim.tally =
      (sim.feed origin frame).map (fun out => (out.1, out.2.tally)) := by
  unfold Tally.feed Sim.feed
  show Option.bind (System.feed wiring origin frame sim.obsw) _ = _
  cases System.feed wiring origin frame sim.obsw with
  | none => rfl
  | some out =>
      have counted : load (sim.moments ++ [.fed origin frame sim.obsw out.2]) =
          load sim.moments + wiring.demand frame sim.obsw := by
        rw [load_append]
        rfl
      simp only [Option.bind_eq_bind, Option.bind_some, Option.pure_def, Option.map_some]
      unfold Sim.tally
      rw [counted]

/-- TMs that were asked for before are counted on. -/
def Tally.add (earlier : Nat) (tally : Tally) : Tally :=
  { tally with asked := earlier + tally.asked }

theorem add_shown (earlier : Nat) : Tally.core.Shown Tally.core (Tally.add earlier) where
  get _ := rfl
  set _ _ := rfl

theorem add_feed (earlier : Nat) (origin : Origin) (frame : List UInt8) (tally : Tally) :
    Tally.feed origin frame (tally.add earlier) =
      (tally.feed origin frame).map (fun out => (out.1, out.2.add earlier)) := by
  unfold Tally.feed
  show Option.bind (System.feed wiring origin frame tally.obsw) _ = _
  cases System.feed wiring origin frame tally.obsw with
  | none => rfl
  | some out =>
      simp only [Option.bind_eq_bind, Option.bind_some, Option.pure_def, Option.map_some]
      unfold Tally.add
      rw [Nat.add_assoc]

theorem add_sense (earlier : Nat) (sensor : Sensor) (tally : Tally) :
    (tally.add earlier).sense sensor = (tally.sense sensor).map (fun asked => earlier + asked) := by
  unfold Tally.sense
  rw [S11.run_view ((add_shown earlier).comp Board.schedule) (add_feed earlier .schedule)]
  show Option.bind (Option.map _ (S11.run _ _ _ tally.obsw.board.obt tally)) _ = _
  cases S11.run cfg (Tally.core.comp Board.schedule) (Tally.feed .schedule) tally.obsw.board.obt
      tally with
  | none => rfl
  | some released =>
      simp only [Option.map_some, Option.bind_eq_bind, Option.bind_some]
      rw [S19.run_view ((add_shown earlier).comp Board.events) (add_feed earlier .eventAction)]
      cases S19.run (Tally.core.comp Board.events) (Tally.feed .eventAction) released.2 with
      | none => rfl
      | some acted =>
          simp only [Option.map_some, Option.bind_some]
          show Option.bind (monitoringCheck { acted.2.obsw with
            board := control sensor acted.2.obsw.board }) _ = _
          cases monitoringCheck { acted.2.obsw with
              board := control sensor acted.2.obsw.board } with
          | none => rfl
          | some after =>
              show some (earlier + acted.2.asked + _ + _) = some (earlier + (acted.2.asked + _ + _))
              rw [Nat.add_assoc, Nat.add_assoc, Nat.add_assoc]
              rfl

theorem sense_tally {sensor : Sensor} {sim after : Sim} {controller : UInt8}
    (ran : sim.sense sensor = some (controller, after)) :
    sim.tally.sense sensor = some (load after.moments) := by
  unfold Sim.sense at ran
  obtain ⟨released, first, ran⟩ := Option.bind_eq_some_iff.mp ran
  obtain ⟨acted, second, ran⟩ := Option.bind_eq_some_iff.mp ran
  obtain ⟨checked, third, ran⟩ := Option.bind_eq_some_iff.mp ran
  obtain ⟨last, fourth, ran⟩ := Option.bind_eq_some_iff.mp ran
  obtain ⟨obsw, check, third⟩ := Option.bind_eq_some_iff.mp third
  obtain ⟨final, tick, fourth⟩ := Option.bind_eq_some_iff.mp fourth
  cases third
  cases fourth
  cases ran
  unfold Tally.sense
  rw [S11.run_view (tally_shown.comp Board.schedule) (tally_feed .schedule)]
  show Option.bind (Option.map _ (S11.run _ _ _ sim.obsw.board.obt sim)) _ = _
  rw [first]
  simp only [Option.map_some, Option.bind_eq_bind, Option.bind_some]
  rw [S19.run_view (tally_shown.comp Board.events) (tally_feed .eventAction), second]
  simp only [Option.map_some, Option.bind_some]
  show Option.bind (monitoringCheck (Sim.core.set (control sensor acted.2.obsw.board) acted.2).obsw)
    _ = _
  rw [check]
  simp only [load_append, Option.bind_some]
  rfl

/-! ### A frame -/

theorem drainLoop_moments (turns : Nat) {sim after : Sim}
    (ran : Sim.drainLoop turns sim = some after) : after.moments = sim.moments := by
  induction turns generalizing sim with
  | zero => cases ran
  | succ turns inductionHypothesis =>
      unfold Sim.drainLoop at ran
      simp only at ran
      split at ran
      · exact (inductionHypothesis ran).trans rfl
      · cases ran
        rfl

/-- The calls of a frame ask for its demand. -/
theorem step_demand {sim after : Sim} {frame : Frame} (stepped : sim.step frame = some after) :
    load after.moments = load sim.moments + demand sim.obsw frame := by
  cases frame with
  | tc frame =>
      obtain ⟨fed, first, stepped⟩ := Option.bind_eq_some_iff.mp stepped
      obtain ⟨drained, second, stepped⟩ := Option.bind_eq_some_iff.mp stepped
      cases stepped
      obtain ⟨out, _, first⟩ := Option.bind_eq_some_iff.mp first
      cases first
      show load drained.moments = _
      rw [drainLoop_moments _ second, load_append]
      rfl
  | sensor sensor =>
      obtain ⟨sensed, first, stepped⟩ := Option.bind_eq_some_iff.mp stepped
      obtain ⟨drained, second, stepped⟩ := Option.bind_eq_some_iff.mp stepped
      cases stepped
      have counted := sense_tally first
      have fresh : sim.tally = Tally.add (load sim.moments) { asked := 0, obsw := sim.obsw } := rfl
      rw [fresh, add_sense] at counted
      obtain ⟨asked, own, total⟩ := Option.map_eq_some_iff.mp counted
      show load drained.moments = _
      rw [drainLoop_moments _ second, ← total]
      show _ = load sim.moments + (Tally.sense sensor { asked := 0, obsw := sim.obsw }).getD 0
      rw [own]
      rfl
  | other =>
      cases stepped
      rfl

end Openobsw.HostSim
