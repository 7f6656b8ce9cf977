import Openobsw.Lib.TypedFrames
import Openobsw.System.HostControl

/-!
Owns the program around the host simulation: the loop of `main` on the bytes of standard
input, and the bytes that it writes to standard output for them.
-/

namespace Openobsw.HostSim

open Openobsw.Fdir Openobsw.Lib Openobsw.Lib.TypedFrames Openobsw.Pus Openobsw.Srdb
  Openobsw.System

/-! ### Frames on the pipes -/

/-- `OBSW_FRAME_TC` -/
def frameTc : UInt8 := 0x01

/-- `OBSW_FRAME_SENSOR` -/
def frameSensor : UInt8 := 0x02

/-- `OBSW_FRAME_ACTUATOR` -/
def frameActuator : UInt8 := 0x03

/-- `OBSW_FRAME_TM` -/
def frameTm : UInt8 := 0x04

/-- The byte of `write_sync_byte`. -/
def syncByte : UInt8 := 0xFF

/-- `sizeof(frame)` -/
def frameBufLen : Nat := 1024

/-- `obsw_sim_read_frame` on the input that is left: the type, the frame and the rest of
the input. The type is 0 at the end of the input and for a length that the buffer does not
hold. -/
def simReadFrame (bufLen : Nat) : List UInt8 → UInt8 × List UInt8 × List UInt8
  | type :: high :: low :: rest =>
      let length := lengthOf high low
      if length = 0 ∨ bufLen < length then (0, [], rest)
      else if rest.length < length then (0, [], [])
      else (type, rest.take length, rest.drop length)
  | _ => (0, [], [])

/-- What `obsw_sim_read_frame` accepts, as rules of a reader. -/
def simRules : Rules where
  mark _ := false
  refuses length := decide (length = 0 ∨ frameBufLen < length)

/-- `write_tm_packet`, `write_actuator_frame` and `write_sync_byte` -/
def Output.item (act : ActuatorFrame) : Output → Item
  | .tm pkt => .frame frameTm pkt
  | .actuator _ => .frame frameActuator act.bytes
  | .sync => .mark syncByte

/-! ### A turn of the loop -/

/-- What `main` keeps from one turn of its loop to the next. The actuator frame is the one
written last. -/
structure Server where
  sim : Sim
  controllers : Controllers
  act : ActuatorFrame

/-- The state in which `main` enters its loop; no actuator frame is written yet. -/
def Server.boot : Server := ⟨HostSim.boot, Controllers.init, ⟨.zero, .zero, 0, 0⟩⟩

/-- The activities that are due, and the actions of the last tick's events. -/
def Sim.release (sim : Sim) : Option Sim := do
  let (_, sim) ← S11.run cfg (Sim.core.comp Board.schedule) (Sim.feed .schedule)
    sim.obsw.board.obt sim
  let (_, sim) ← S19.run (Sim.core.comp Board.events) (Sim.feed .eventAction) sim
  return sim

/-- What a sensor frame does before the drain. -/
def Server.sense (libm : Aocs.Libm) (frame : SensorFrame) (server : Server) : Option Server := do
  let sim ← server.sim.release
  let board := sim.obsw.board
  let controlled ← controlStep libm board.fsm.mode board.s20.table frame server.controllers
  let sensor := frame.sensed libm server.controllers.lastSimTime controlled.adcs
  let sim ← (Sim.core.set (control sensor board) sim).check
  let sim ← sim.tick
  return ⟨sim, controlled.controllers, controlled.act⟩

/-- The turn of the loop for a frame whose type is not 0. -/
def Server.turn (libm : Aocs.Libm) (type : UInt8) (frame : List UInt8) (server : Server) :
    Option Server :=
  if type = frameTc then do
    let (_, sim) ← server.sim.feed .uplink frame
    let sim ← sim.drain
    return { server with sim := sim.write .sync }
  else if type = frameSensor then
    match simParseSensor frame with
    | some sensor => do
        let server ← server.sense libm sensor
        let sim ← server.sim.drain
        return { server with
          sim := (sim.write (.actuator server.act.controller)).write .sync }
    | none => some { server with sim := server.sim.write .sync }
  else some { server with sim := server.sim.write .sync }

/-- The bytes written since an earlier state, with at most one actuator frame in them. -/
def Server.writtenSince (before after : Server) : List UInt8 :=
  ((after.sim.output.drop before.sim.output.length).map (Output.item after.act)).flatMap Item.bytes

/-- The loop of `main` until it breaks: the bytes it writes, and the state it returns in.
`none` is a fault, or a loop of more turns than the bound. -/
def mainLoop (libm : Aocs.Libm) : Nat → List UInt8 → Server → Option (List UInt8 × Server)
  | 0, _, _ => none
  | turns + 1, input, server =>
      let (type, frame, rest) := simReadFrame frameBufLen input
      if type = 0 then some ([], server)
      else do
        let after ← server.turn libm type frame
        let (written, last) ← mainLoop libm turns rest after
        return (server.writtenSince after ++ written, last)

/-! ### The program byte by byte -/

/-- The program in its loop, after it, or after a fault. -/
inductive Program where
  | looping (server : Server)
  | returned
  | faulted

/-- What the program does with a frame, or with a length that it does not accept. -/
def Program.take (libm : Aocs.Libm) : Program → Item → Program × List UInt8
  | .looping server, .frame type frame =>
      if type = 0 then (.returned, [])
      else
        match server.turn libm type frame with
        | some after => (.looping after, server.writtenSince after)
        | none => (.faulted, [])
  | .looping _, _ => (.returned, [])
  | .returned, _ => (.returned, [])
  | .faulted, _ => (.faulted, [])

def turns (libm : Aocs.Libm) : Machine Program Item UInt8 where
  take := Program.take libm

/-- The program as its input arrives: it reads a frame and writes the answer, and blocks
within a frame. -/
def program (libm : Aocs.Libm) : Machine (Reading × Program) UInt8 UInt8 :=
  simRules.reader.cascade (turns libm)

/-! ### What a turn writes -/

/-- A sound server: no packet waits, and the torque limit is the one of `main`. -/
structure Server.Ready (server : Server) : Prop where
  idle : Idle server.sim
  limited : server.controllers.Limited

theorem boot_ready : Server.boot.Ready := ⟨boot_idle, init_limited⟩

/-- The frame carries sensor data. -/
def senses (type : UInt8) (frame : List UInt8) : Bool :=
  type == frameSensor && decide (sensorFrameLen ≤ frame.length)

/-- The items that end the answer to a frame. -/
def ending (type : UInt8) (frame : List UInt8) (act : ActuatorFrame) : List Item :=
  if senses type frame then [.frame frameActuator act.bytes, .mark syncByte]
  else [.mark syncByte]

/-- What the program writes for a frame: the stored telemetry, then the actuator frame if
the frame carries sensor data, and last the end-of-tick byte. -/
structure Turned (type : UInt8) (frame : List UInt8) (before after : Server)
    (packets : List (List UInt8)) : Prop where
  ready : after.Ready
  short : ∀ pkt ∈ packets, pkt.length ≤ cfg.tmMaxPacketLen
  output : after.sim.output.drop before.sim.output.length =
    packets.map Output.tm ++
      (if senses type frame then [.actuator after.act.controller, .sync] else [.sync])

theorem Turned.written {type : UInt8} {frame : List UInt8} {before after : Server}
    {packets : List (List UInt8)} (turned : Turned type frame before after packets) :
    before.writtenSince after =
      (packets.map (Item.frame frameTm) ++ ending type frame after.act).flatMap Item.bytes := by
  unfold Server.writtenSince ending
  rw [turned.output, List.map_append, List.map_map]
  cases senses type frame <;> rfl

/-! ### The law of a turn -/

/-- The drain writes packets that its buffer holds. -/
theorem drainLoop_short (turns : Nat) {sim after : Sim}
    (ran : Sim.drainLoop turns sim = some after) :
    ∃ packets : List (List UInt8), (∀ pkt ∈ packets, pkt.length ≤ cfg.tmMaxPacketLen) ∧
      after.output = sim.output ++ packets.map Output.tm := by
  induction turns generalizing sim with
  | zero => cases ran
  | succ turns inductionHypothesis =>
      unfold Sim.drainLoop at ran
      unfold Tm.Store.dequeue at ran
      by_cases nothing : sim.obsw.link.tm.store.head = sim.obsw.link.tm.store.tail
      · rw [if_pos nothing] at ran
        cases ran
        exact ⟨[], by simp, (List.append_nil _).symm⟩
      · rw [if_neg nothing] at ran
        generalize sim.obsw.link.tm.store.slots[sim.obsw.link.tm.store.tail] = pkt at ran
        by_cases long : cfg.tmMaxPacketLen < pkt.length
        · simp only [if_pos long] at ran
          cases ran
          exact ⟨[], by simp, (List.append_nil _).symm⟩
        · simp only [if_neg long] at ran
          obtain ⟨packets, short, output⟩ := inductionHypothesis ran
          refine ⟨pkt :: packets, ?_, ?_⟩
          · intro other member
            rcases List.mem_cons.mp member with rfl | later
            · exact Nat.le_of_not_lt long
            · exact short other later
          · rw [output, List.map_cons]
            exact List.append_assoc _ _ _

/-- A turn that drains and then writes the ending. -/
theorem Turned.of_drain {type : UInt8} {frame : List UInt8} {before after : Server}
    {moments : List Moment} {built : List TmBuilt} {ending : List Output} {filled drained : Sim}
    (framed : Framed before.sim after.sim moments built ending)
    (ran : filled.drain = some drained) (filling : filled.output = before.sim.output)
    (limited : after.controllers.Limited) (written : after.sim.output = drained.output ++ ending)
    (ends : ending =
      if senses type frame then [.actuator after.act.controller, .sync] else [.sync]) :
    ∃ packets, Turned type frame before after packets := by
  obtain ⟨packets, short, output⟩ := drainLoop_short _ ran
  refine ⟨packets, ⟨framed.idle, limited⟩, short, ?_⟩
  rw [written, output, filling, ends, List.append_assoc, List.drop_left]

/-- The part of a sensor frame before the drain is the one of `Sim.sense`, with the answers
of the control laws. -/
theorem sense_steered (libm : Aocs.Libm) (frame : SensorFrame) {server : Server}
    (ready : server.Ready) :
    ∃ released controlled middle moments requests, server.sim.release = some released ∧
      Steered libm released.obsw.board.fsm.mode released.obsw.board.s20.table frame
        server.controllers controlled ∧
      server.sense libm frame = some ⟨middle, controlled.controllers, controlled.act⟩ ∧
      Progress server.sim middle moments requests := by
  obtain ⟨_, first, _, firstRan, fed, _⟩ := schedule_feeding ready.idle.traced
  obtain ⟨_, second, _, secondRan, _, _⟩ := actions_feeding fed
  have released : server.sim.release = some second := by
    unfold Sim.release
    simp only [firstRan, secondRan, Option.bind_eq_bind, Option.bind_some]
    rfl
  obtain ⟨controlled, ran, steered⟩ := controlStep_steered libm second.obsw.board.fsm.mode
    second.obsw.board.s20.table frame ready.limited
  let sensor := frame.sensed libm server.controllers.lastSimTime controlled.adcs
  obtain ⟨controller, middle, moments, requests, sensed, progress, _⟩ :=
    sense_progress sensor ready.idle.traced
  have later : ((Sim.core.set (control sensor second.obsw.board) second).check.bind fun sim =>
      sim.tick.bind fun sim =>
        some ((aocsStep sensor second.obsw.board.fsm.mode).1, sim)) = some (controller, middle) := by
    rw [← sensed]
    unfold Sim.sense
    simp only [firstRan, secondRan, Option.bind_eq_bind, Option.bind_some]
    rfl
  obtain ⟨checked, checks, later⟩ := Option.bind_eq_some_iff.mp later
  obtain ⟨ticked, ticks, same⟩ := Option.bind_eq_some_iff.mp later
  obtain ⟨rfl, rfl⟩ := Prod.mk.inj (Option.some.inj same)
  refine ⟨second, controlled, ticked, moments, requests, released, steered, ?_, progress⟩
  unfold Server.sense
  simp only [released, ran, Option.bind_eq_bind, Option.bind_some]
  rw [show (Sim.core.set (control sensor second.obsw.board) second).check = some checked from checks]
  simp only [Option.bind_some, ticks]
  rfl

/-- A TC frame is answered with telemetry alone. -/
theorem turn_tc (libm : Aocs.Libm) (frame : List UInt8) {server : Server} (ready : server.Ready) :
    ∃ rc fed drained packets, server.sim.feed .uplink frame = some (rc, fed) ∧
      fed.drain = some drained ∧
      server.turn libm frameTc frame = some { server with sim := drained.write .sync } ∧
      Turned frameTc frame server { server with sim := drained.write .sync } packets := by
  obtain ⟨rc, fed, moment, ran, feeding, _⟩ := (Feeding.refl ready.idle.traced).feed .uplink frame
  obtain ⟨requests, progress⟩ := feeding.progress
  obtain ⟨drained, built, drains, framed⟩ := drain_framed ready.idle progress
  have written := framed.write .sync
  obtain ⟨packets, turned⟩ := @Turned.of_drain frameTc frame server
    { server with sim := drained.write .sync } _ _ _ _ _ written drains progress.output
    ready.limited rfl rfl
  refine ⟨rc, fed, drained, packets, ran, drains, ?_, turned⟩
  unfold Server.turn
  rw [if_pos rfl]
  simp only [ran, drains, Option.bind_eq_bind, Option.bind_some]
  rfl

/-- A sensor frame is answered with telemetry and the actuator frame. -/
theorem turn_sensor (libm : Aocs.Libm) {frame : List UInt8} {sensor : SensorFrame}
    (parsed : simParseSensor frame = some sensor) {server : Server} (ready : server.Ready) :
    ∃ released after packets, server.sim.release = some released ∧
      server.turn libm frameSensor frame = some after ∧
      Turned frameSensor frame server after packets ∧
      ActLaw released.obsw.board.fsm.mode released.obsw.board.s20.table sensor after.act := by
  obtain ⟨released, controlled, middle, moments, requests, release, steered, sensed, progress⟩ :=
    sense_steered libm sensor ready
  obtain ⟨drained, built, drains, framed⟩ := drain_framed ready.idle progress
  have written := (framed.write (.actuator controlled.act.controller)).write .sync
  have long : senses frameSensor frame = true := by
    unfold simParseSensor at parsed
    by_cases short : frame.length < sensorFrameLen
    · rw [if_pos short] at parsed
      cases parsed
    · simpa [senses] using short
  obtain ⟨packets, turned⟩ := @Turned.of_drain frameSensor frame server
    ⟨(drained.write (.actuator controlled.act.controller)).write .sync, controlled.controllers,
      controlled.act⟩ _ _ _ _ _ written drains progress.output steered.limited
    (List.append_assoc _ _ _) (by rw [long]; rfl)
  refine ⟨released, _, packets, release, ?_, turned, steered.commanded⟩
  unfold Server.turn
  rw [if_neg (by decide), if_pos rfl]
  simp only [parsed, sensed, drains, Option.bind_eq_bind, Option.bind_some]
  rfl

/-- Any other frame is answered with the end-of-tick byte. -/
theorem turn_other (libm : Aocs.Libm) {type : UInt8} {frame : List UInt8} {server : Server}
    (ready : server.Ready) (plain : type ≠ frameTc) (senseless : senses type frame = false) :
    server.turn libm type frame = some { server with sim := server.sim.write .sync } ∧
      Turned type frame server { server with sim := server.sim.write .sync } [] := by
  have untouched : Framed server.sim server.sim [] [] [] :=
    ⟨ready.idle, (List.append_nil _).symm, (List.append_nil _).symm, by simp [storedPackets],
      by simp [load]⟩
  constructor
  · unfold Server.turn
    rw [if_neg plain]
    by_cases sensor : type = frameSensor
    · have short : frame.length < sensorFrameLen := by
        simpa [senses, sensor] using senseless
      rw [if_pos sensor]
      unfold simParseSensor
      rw [if_pos short]
    · rw [if_neg sensor]
  · exact {
      ready := ⟨(untouched.write .sync).idle, ready.limited⟩
      short := by simp
      output := by
        show (server.sim.output ++ [Output.sync]).drop _ = _
        rw [List.drop_left, senseless]
        rfl }

/-- A turn of the loop never faults. -/
theorem turn_turned (libm : Aocs.Libm) (type : UInt8) (frame : List UInt8) {server : Server}
    (ready : server.Ready) :
    ∃ after packets, server.turn libm type frame = some after ∧
      Turned type frame server after packets := by
  by_cases tc : type = frameTc
  · subst tc
    obtain ⟨_, _, _, packets, _, _, turns, turned⟩ := turn_tc libm frame ready
    exact ⟨_, packets, turns, turned⟩
  · cases sensor : senses type frame with
    | false =>
        obtain ⟨turns, turned⟩ := turn_other libm ready tc sensor
        exact ⟨_, [], turns, turned⟩
    | true =>
        obtain ⟨same, long⟩ : type = frameSensor ∧ sensorFrameLen ≤ frame.length := by
          simpa [senses] using sensor
        subst same
        obtain ⟨_, after, packets, _, turns, turned, _⟩ := turn_sensor libm
          (show simParseSensor frame = some _ from if_neg (Nat.not_lt.mpr long)) ready
        exact ⟨after, packets, turns, turned⟩

/-! ### The input -/

/-- A frame that the loop takes a turn for. -/
structure Kept (frame : UInt8 × List UInt8) : Prop where
  typed : frame.1 ≠ 0
  filled : frame.2 ≠ []
  fits : frame.2.length ≤ frameBufLen

/-- The bytes of frames on the pipe. -/
def encode (frames : List (UInt8 × List UInt8)) : List UInt8 :=
  frames.flatMap (fun frame => (Item.frame frame.1 frame.2).bytes)

theorem Kept.knows {frame : UInt8 × List UInt8} (kept : Kept frame) :
    simRules.Knows (.frame frame.1 frame.2) := by
  have positive := List.length_pos_iff.mpr kept.filled
  have fits := kept.fits
  refine ⟨rfl, Nat.lt_of_le_of_lt fits (by decide), ?_⟩
  exact decide_eq_false (by omega)

/-- What the loop breaks at: the beginning of a frame, a length that does not fit, or a
frame of type 0. -/
inductive Breaks : List UInt8 → Prop
  | unfinished {tail : List UInt8} (unfinished : simRules.Unfinished tail) : Breaks tail
  | refused {type : UInt8} {length : Nat} {rest : List UInt8}
      (known : simRules.Knows (.refused type length)) :
      Breaks ((Item.refused type length).bytes ++ rest)
  | ended {frame rest : List UInt8} (known : simRules.Knows (.frame 0 frame)) :
      Breaks ((Item.frame 0 frame).bytes ++ rest)

/-- Any input is frames, and what the loop breaks at. -/
theorem input_split (input : List UInt8) :
    ∃ (frames : List (UInt8 × List UInt8)) (tail : List UInt8),
      (∀ frame ∈ frames, Kept frame) ∧ input = encode frames ++ tail ∧ Breaks tail := by
  induction length : input.length using Nat.strong_induction_on generalizing input with
  | h count inductionHypothesis =>
      rcases simRules.split input with ⟨item, rest, known, split⟩ | unfinished
      · cases item with
        | mark byte => exact absurd known Bool.false_ne_true
        | refused type refusedLength => exact ⟨[], input, by simp, rfl, split ▸ .refused known⟩
        | frame type frame =>
            by_cases last : type = 0
            · subst last
              exact ⟨[], input, by simp, rfl, split ▸ .ended known⟩
            have fewer : rest.length < count := by
              have positive := List.length_pos_iff.mpr (Item.bytes_ne_nil (.frame type frame))
              rw [← length, split, List.length_append]
              omega
            have accepted := of_decide_eq_false known.2.2
            have filled : frame ≠ [] := by
              intro nothing
              simp [nothing] at accepted
            obtain ⟨frames, tail, kept, same, breaks⟩ := inductionHypothesis _ fewer rest rfl
            refine ⟨(type, frame) :: frames, tail, ?_, ?_, breaks⟩
            · intro other member
              rcases List.mem_cons.mp member with rfl | later
              · exact ⟨last, filled, show frame.length ≤ frameBufLen by omega⟩
              · exact kept other later
            · rw [split, same]
              exact (List.append_assoc _ _ _).symm
      · exact ⟨[], input, by simp, rfl, .unfinished unfinished⟩

/-- A frame is read from the input. -/
theorem simReadFrame_kept {frame : UInt8 × List UInt8} (kept : Kept frame) (rest : List UInt8) :
    simReadFrame frameBufLen ((Item.frame frame.1 frame.2).bytes ++ rest) =
      (frame.1, frame.2, rest) := by
  have positive := List.length_pos_iff.mpr kept.filled
  have fits := kept.fits
  have length := lengthOf_header (Nat.lt_of_le_of_lt fits (by decide))
  rw [Item.bytes_frame]
  unfold header simReadFrame
  simp only [List.cons_append, List.nil_append, length]
  rw [if_neg (by omega), if_neg (by simp), List.take_left, List.drop_left]

theorem Breaks.reads {tail : List UInt8} (breaks : Breaks tail) :
    (simReadFrame frameBufLen tail).1 = 0 := by
  cases breaks with
  | unfinished unfinished =>
      rcases unfinished.short with brief | ⟨type, high, low, frame, rfl, accepted, short⟩
      · match tail, brief with
        | [], _ => rfl
        | [_], _ => rfl
        | [_, _], _ => rfl
      · unfold simReadFrame
        simp only
        rw [if_neg (of_decide_eq_false accepted), if_pos short]
  | @refused type length rest known =>
      obtain ⟨_, fits, refuses⟩ := known
      rw [Item.bytes_refused]
      unfold header simReadFrame
      simp only [List.cons_append, lengthOf_header fits]
      rw [if_pos (of_decide_eq_true refuses)]
  | @ended frame rest known =>
      obtain ⟨_, fits, accepted⟩ := known
      have kept := of_decide_eq_false accepted
      rw [Item.bytes_frame]
      unfold header simReadFrame
      simp only [List.cons_append, List.nil_append, lengthOf_header fits]
      rw [if_neg kept, if_neg (by simp)]

/-! ### The program on its input -/

/-- The turns for frames, with the answers to them. -/
inductive Served (libm : Aocs.Libm) :
    List (UInt8 × List UInt8) → Server → List (List Item) → Server → Prop
  | nil (server : Server) : Served libm [] server [] server
  | cons {type : UInt8} {frame : List UInt8} {rest : List (UInt8 × List UInt8)}
      {before middle last : Server} {packets : List (List UInt8)} {replies : List (List Item)}
      (turn : before.turn libm type frame = some middle)
      (turned : Turned type frame before middle packets)
      (later : Served libm rest middle replies last) :
      Served libm ((type, frame) :: rest) before
        ((packets.map (Item.frame frameTm) ++ ending type frame middle.act) :: replies) last

variable {libm : Aocs.Libm}

theorem served_of_ready (libm : Aocs.Libm) (frames : List (UInt8 × List UInt8)) {server : Server}
    (ready : server.Ready) : ∃ replies last, Served libm frames server replies last := by
  induction frames generalizing server with
  | nil => exact ⟨[], server, .nil server⟩
  | cons frame rest inductionHypothesis =>
      obtain ⟨middle, packets, turn, turned⟩ := turn_turned libm frame.1 frame.2 ready
      obtain ⟨replies, last, later⟩ := inductionHypothesis turned.ready
      exact ⟨_, last, .cons turn turned later⟩

theorem Served.ready {frames : List (UInt8 × List UInt8)} {server last : Server}
    {replies : List (List Item)} (served : Served libm frames server replies last)
    (ready : server.Ready) : last.Ready := by
  induction served with
  | nil => exact ready
  | cons turn turned later inductionHypothesis => exact inductionHypothesis turned.ready

/-- The bytes of the answers. -/
def answerBytes (replies : List (List Item)) : List UInt8 :=
  replies.flatMap (fun reply => reply.flatMap Item.bytes)

theorem Served.mainLoop {frames : List (UInt8 × List UInt8)} {server last : Server}
    {replies : List (List Item)} (served : Served libm frames server replies last)
    (kept : ∀ frame ∈ frames, Kept frame) {tail : List UInt8} (breaks : Breaks tail)
    {bound : Nat} (enough : frames.length < bound) :
    mainLoop libm bound (encode frames ++ tail) server = some (answerBytes replies, last) := by
  induction served generalizing bound with
  | nil server =>
      cases bound with
      | zero => cases enough
      | succ bound =>
          have reads : (simReadFrame frameBufLen (encode [] ++ tail)).1 = 0 := breaks.reads
          unfold HostSim.mainLoop
          generalize simReadFrame frameBufLen (encode [] ++ tail) = read at reads
          obtain ⟨type, frame, rest⟩ := read
          exact if_pos reads
  | @cons type frame rest before middle last packets replies turn turned later
      inductionHypothesis =>
      cases bound with
      | zero => cases enough
      | succ bound =>
          have own := kept (type, frame) List.mem_cons_self
          have read := simReadFrame_kept own (encode rest ++ tail)
          have others := inductionHypothesis
            (fun other member => kept other (List.mem_cons_of_mem _ member))
            (Nat.lt_of_succ_lt_succ enough)
          have whole : encode ((type, frame) :: rest) ++ tail =
              (Item.frame type frame).bytes ++ (encode rest ++ tail) :=
            List.append_assoc _ _ _
          unfold HostSim.mainLoop
          rw [whole, read]
          simp only
          rw [if_neg own.typed]
          simp only [turn, others, Option.bind_eq_bind, Option.bind_some]
          rw [turned.written]
          rfl

/-- Up to the last byte of a frame the program is silent; there it writes the answer. -/
theorem Turned.atEnd {type : UInt8} {frame : List UInt8} {before after : Server}
    {packets : List (List UInt8)} (turned : Turned type frame before after packets)
    (turn : before.turn libm type frame = some after) (kept : Kept (type, frame)) :
    (program libm).AtEnd (.type, .looping before) (Item.frame type frame).bytes
      (.type, .looping after)
      ((packets.map (Item.frame frameTm) ++ ending type frame after.act).flatMap Item.bytes) := by
  have answered : (turns libm).run [.frame type frame] (.looping before) =
      (.looping after, before.writtenSince after) := by
    rw [Machine.run_cons, Machine.run_nil]
    have taken : Program.take libm (.looping before) (.frame type frame) =
        (.looping after, before.writtenSince after) := by
      unfold Program.take
      simp only [turn]
      exact if_neg kept.typed
    rw [show (turns libm).take (.looping before) (.frame type frame) = _ from taken]
    exact congrArg _ (List.append_nil _)
  have atEnd := (item_atEnd kept.knows).cascade (turns libm) (.looping before)
  rw [answered, turned.written] at atEnd
  exact atEnd

/-- After the loop the program writes nothing. -/
theorem turns_returned (libm : Aocs.Libm) (items : List Item) :
    (turns libm).run items .returned = (.returned, []) := by
  induction items with
  | nil => rfl
  | cons item rest inductionHypothesis =>
      rw [Machine.run_cons]
      have taken : (turns libm).take .returned item = (.returned, []) := rfl
      rw [taken, inductionHypothesis]
      rfl

theorem Breaks.silent {tail : List UInt8} (breaks : Breaks tail) (server : Server) :
    ((program libm).run tail (.type, .looping server)).2 = [] := by
  have leaves {item : Item} {rest : List UInt8} (known : simRules.Knows item)
      (returns : (turns libm).take (.looping server) item = (.returned, [])) :
      ((program libm).run (item.bytes ++ rest) (.type, .looping server)).2 = [] := by
    unfold program
    rw [Machine.run_cascade, Machine.run_append, (item_atEnd known).whole]
    simp only [List.singleton_append, Machine.run_cons, returns, turns_returned]
    rfl
  cases breaks with
  | unfinished unfinished =>
      unfold program
      rw [Machine.run_cascade, unfinished.quiet]
      rfl
  | refused known => exact leaves known rfl
  | ended known => exact leaves known rfl

theorem Served.program {frames : List (UInt8 × List UInt8)} {server last : Server}
    {replies : List (List Item)} (served : Served libm frames server replies last)
    (kept : ∀ frame ∈ frames, Kept frame) :
    (program libm).run (encode frames) (.type, .looping server) =
      ((.type, .looping last), answerBytes replies) := by
  induction served with
  | nil => rfl
  | @cons type frame rest before middle last packets replies turn turned later
      inductionHypothesis =>
      have own := (turned.atEnd turn (kept (type, frame) List.mem_cons_self)).whole
      have others := inductionHypothesis
        (fun other member => kept other (List.mem_cons_of_mem _ member))
      have whole : encode ((type, frame) :: rest) =
          (Item.frame type frame).bytes ++ encode rest := rfl
      rw [whole, Machine.run_append, own, others]
      rfl

end Openobsw.HostSim
