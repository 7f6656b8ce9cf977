import Openobsw.System.HostDemand

/-!
Owns the telemetry of a frame of the host simulation: every TM built for it is stored
and written before its end-of-tick byte exactly if the frame asks, in the state before it,
for no more TMs than the TM store holds. The tables are large enough for a frame that asks for more.
-/

namespace Openobsw.HostSim

open Openobsw.Pus Openobsw.System

/-- Every TM built in the frame was stored, and the frame wrote all of them, in order,
before its ending. -/
def Delivered (before after : Sim) : Prop :=
  ∃ built ending, after.obsw.link.tm.log = before.obsw.link.tm.log ++ built ∧
    (∀ tm ∈ built, tm.rc = .ok) ∧
    after.output = before.output ++ built.map (fun tm => Output.tm tm.request.packet) ++ ending ∧
    Ending ending

theorem storedPackets_of_ok {built : List TmBuilt} (stored : ∀ tm ∈ built, tm.rc = .ok) :
    storedPackets built = built.map (fun tm => tm.request.packet) := by
  unfold storedPackets
  rw [List.filter_eq_self.mpr]
  intro tm member
  rw [stored tm member]
  rfl

theorem Framed.delivered_iff {before after : Sim} {moments : List Moment} {built : List TmBuilt}
    {ending : List Output} (framed : Framed before after moments built ending)
    (ends : Ending ending) : Delivered before after ↔ load moments ≤ usableSlots := by
  rw [← framed.stored]
  constructor
  · rintro ⟨others, _, log, stored, _, _⟩
    rw [framed.log] at log
    rw [List.append_cancel_left log]
    exact stored
  · intro stored
    refine ⟨built, ending, framed.log, stored, ?_, ends⟩
    rw [framed.output, storedPackets_of_ok stored, List.map_map]
    rfl

/-- In every state between two frames, the next frame delivers its telemetry if and only if
its demand, which is what its calls ask for, is no more than the usable slots of the TM store;
and it does so whenever what is due, by the tables before the frame, cannot ask for more. -/
theorem frame_delivered_iff (frames : List Frame) (frame : Frame) :
    ∃ before after moments, Sim.run frames boot = some before ∧
      before.step frame = some after ∧ after.moments = before.moments ++ moments ∧
      load moments = demand before.obsw frame ∧
      (Delivered before after ↔ demand before.obsw frame ≤ usableSlots) ∧
      (mostTms before frame ≤ usableSlots → Delivered before after) := by
  obtain ⟨before, ran, idle⟩ := run_idle frames boot_idle
  obtain ⟨after, moments, built, ending, stepped, framed, ends, bound⟩ := step_framed idle frame
  have counted := step_demand stepped
  rw [framed.trace, load_append] at counted
  have asked : load moments = demand before.obsw frame := Nat.add_left_cancel counted
  have delivered := framed.delivered_iff ends
  rw [asked] at delivered bound
  exact ⟨before, after, moments, ran, stepped, framed.trace, asked, delivered,
    fun small => delivered.mpr (bound.trans small)⟩

/-! ### A frame that loses a TM -/

/-- The user data of a TC(12,3) with both limits at zero. -/
def zeroLimits (high low : UInt8) : List UInt8 :=
  [high, low, 0, 0, 0, 0, 0, 0, 0, 0, 0x10, 0x00, 0x10, 0x01, 1]

/-- Ground commands NOMINAL, schedules eight pings for time zero, and monitors eight
parameters that are above their limit. -/
def crowdingFrames : List Frame :=
  (tcFrame 8 1 0 [0, 1, 0] ::
    ([0, 1, 2, 3, 4, 5, 6, 7].map (fun seqCount =>
        tcFrame 11 4 0 ([0, 0, 0, 0, 0, 0] ++ tcFrame 17 1 seqCount [])) ++
      [(0x30, 0x01), (0x30, 0x02), (0x30, 0x10), (0x30, 0x11), (0x30, 0x12), (0x30, 0x20),
          (0x30, 0x30), (0x30, 0x31)].map (fun paramId =>
        tcFrame 12 3 0 (zeroLimits paramId.1 paramId.2)))).map Frame.tc

/-- A sensor frame in which no sensor is valid. -/
def blindFrame : Frame :=
  .sensor {
    magValid := false
    stValid := false
    gyroValid := false
    adcs := none
    simTime := 0
    dtMs := 100 }

/-- The return codes of the TMs that were built between two states. -/
def codesBetween (before after : Sim) : List TmRc :=
  (after.obsw.link.tm.log.drop before.obsw.link.tm.log.length).map (fun tm => tm.rc)

theorem codes_of_delivered {before after : Sim} (delivered : Delivered before after) :
    ∀ rc ∈ codesBetween before after, rc = .ok := by
  obtain ⟨built, _, log, stored, _, _⟩ := delivered
  intro rc member
  unfold codesBetween at member
  rw [log, List.drop_left] at member
  obtain ⟨tm, inBuilt, rfl⟩ := List.mem_map.mp member
  exact stored tm inBuilt

theorem crowdingFrames_codes :
    ((Sim.run crowdingFrames boot).bind fun before =>
        (before.step blindFrame).map fun after => codesBetween before after) =
      some (List.replicate 31 .ok ++ [.errStore]) := by
  decide +kernel

/-- The next tick asks for 32 TMs, of which the last is lost. -/
theorem crowded_frame_undelivered :
    ¬ ∀ frames frame before after, Sim.run frames boot = some before →
      before.step frame = some after → Delivered before after := by
  intro always
  obtain ⟨before, ran, stepped⟩ := Option.bind_eq_some_iff.mp crowdingFrames_codes
  obtain ⟨after, last, codes⟩ := Option.map_eq_some_iff.mp stepped
  have lost : TmRc.errStore ∈ codesBetween before after := by
    rw [codes]
    simp
  cases codes_of_delivered (always crowdingFrames blindFrame before after ran last) _ lost

end Openobsw.HostSim
