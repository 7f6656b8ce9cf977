import Openobsw.Lib.Lockstep
import Openobsw.Tools.WireProto

/-!
Owns sessions of a harness with the host simulation: the program answers every frame of its
input and nothing else, and a harness that calls it over the two pipes gets what the
simulation computes, however the two processes are scheduled.
-/

namespace Openobsw.Tools

open Openobsw.HostSim Openobsw.Lib Openobsw.Lib.Lockstep Openobsw.Lib.TypedFrames

/-! ### The program on any input -/

/-- On every input the program returns without a fault: it has answered the frames up to the
first that it breaks at, and it writes the same bytes when the input arrives piece by
piece. -/
theorem mainLoop_answers (libm : Aocs.Libm) (input : List UInt8) :
    ∃ frames tail replies last, (∀ frame ∈ frames, Kept frame) ∧ input = encode frames ++ tail ∧
      (simReadFrame frameBufLen tail).1 = 0 ∧
      Served libm frames Server.boot replies last ∧
      mainLoop libm (input.length + 1) input Server.boot = some (answerBytes replies, last) ∧
      ((program libm).run input (.type, .looping Server.boot)).2 = answerBytes replies := by
  obtain ⟨frames, tail, kept, split, breaks⟩ := input_split input
  obtain ⟨replies, last, served⟩ := served_of_ready libm frames boot_ready
  have few := length_le_encode frames
  refine ⟨frames, tail, replies, last, kept, split, breaks.reads, served, ?_, ?_⟩
  · rw [split]
    apply served.mainLoop kept breaks
    rw [List.length_append]
    omega
  · rw [split, Machine.run_append, served.program kept, breaks.silent, List.append_nil]

/-! ### Calls of the harness -/

/-- A call of a harness: a command, a tick, or the query of a parameter. -/
inductive Request where
  | tc (tcBytes : List UInt8)
  | tick (sensor : SensorFrame)
  | query (apid paramId : UInt16) (default : UInt32)
deriving DecidableEq, Repr

/-- What the call returns. -/
inductive Result where
  | drained
  | ticked (act : ActuatorFrame)
  | value (raw : UInt32)
deriving DecidableEq, Repr

namespace Request

def frame : Request → UInt8 × List UInt8
  | .tc tcBytes => (frameTc, tcBytes)
  | .tick sensor => (frameSensor, packSensor sensor)
  | .query apid paramId _ => (frameTc, queryTc apid paramId)

/-- How the call reads the answer: `drain_tc_response`, `recv_tick` or the loop of
`query_s20_float`. -/
def read : Request → List UInt8 → Option (Result × List UInt8)
  | .tc _, stream => (drainTcResponse stream).map (Prod.map (fun _ => .drained) id)
  | .tick _, stream => (recvTick stream).map (Prod.map .ticked id)
  | .query _ paramId default, stream =>
      (readS20Float paramId default stream).map (Prod.map .value id)

/-- The result that the frames of an answer give. -/
def result : Request → List (UInt8 × List UInt8) → Result
  | .tc _, _ => .drained
  | .tick _, frames =>
      .ticked (frames.foldl (fun act frame => keepActuator act frame.1 frame.2)
        ⟨.zero, .zero, 0, 0⟩)
  | .query _ paramId default, frames =>
      .value (frames.foldl (fun value frame => keepS20 paramId value frame.1 frame.2) default)

/-- The call over the pipes. It has its result once what has arrived is an answer. -/
def call (request : Request) : Call (List UInt8) UInt8 UInt8 Result where
  request := (Item.frame request.frame.1 request.frame.2).bytes
  start := []
  take data byte := data ++ [byte]
  result data := (request.read data).map Prod.fst

/-- The call as if the simulation were a function. -/
def serve (libm : Aocs.Libm) (request : Request) (server : Server) : Option (Result × Server) := do
  let after ← server.turn libm request.frame.1 request.frame.2
  let (result, _) ← request.read (server.writtenSince after)
  return (result, after)

/-- A telecommand is not empty, and fits the buffer of the simulation. -/
def Fits : Request → Prop
  | .tc tcBytes => tcBytes ≠ [] ∧ tcBytes.length ≤ frameBufLen
  | .tick _ => True
  | .query _ _ _ => True

theorem Fits.kept {request : Request} (fits : request.Fits) : Kept request.frame := by
  cases request with
  | tc tcBytes => exact ⟨by simp [frame, frameTc], fits.1, fits.2⟩
  | tick sensor =>
      exact ⟨by simp [frame, frameSensor], List.cons_ne_nil _ _, by simp [frame, frameBufLen]⟩
  | query apid paramId default =>
      exact ⟨by simp [frame, frameTc], List.cons_ne_nil _ _,
        by simp [frame, queryTc, buildTc, frameBufLen]⟩

theorem read_answer (request : Request) {frames : List (UInt8 × List UInt8)}
    (answers : ∀ frame ∈ frames, Answers frame) :
    request.read (answer frames) = some (request.result frames, []) := by
  have whole := List.append_nil (answer frames)
  cases request with
  | tc tcBytes =>
      have read := readAnswer_answer (fun _ _ _ => ()) answers () []
      rw [whole] at read
      exact congrArg (Option.map (Prod.map (fun _ => Result.drained) id)) read
  | tick sensor =>
      have read := readAnswer_answer keepActuator answers ⟨.zero, .zero, 0, 0⟩ []
      rw [whole] at read
      exact congrArg (Option.map (Prod.map Result.ticked id)) read
  | query apid paramId default =>
      have read := readAnswer_answer (keepS20 paramId) answers default []
      rw [whole] at read
      exact congrArg (Option.map (Prod.map Result.value id)) read

theorem read_waits (request : Request) {frames : List (UInt8 × List UInt8)}
    (answers : ∀ frame ∈ frames, Answers frame) {front back : List UInt8}
    (split : answer frames = front ++ back) (more : back ≠ []) : request.read front = none := by
  cases request with
  | tc tcBytes =>
      exact congrArg (Option.map (Prod.map (fun _ => Result.drained) id))
        (untilEot_waits (fun _ _ _ => ()) answers _ () split more)
  | tick sensor =>
      exact congrArg (Option.map (Prod.map Result.ticked id))
        (untilEot_waits keepActuator answers _ ⟨.zero, .zero, 0, 0⟩ split more)
  | query apid paramId default =>
      exact congrArg (Option.map (Prod.map Result.value id))
        (untilEot_waits (keepS20 paramId) answers _ default split more)

end Request

/-! ### One call -/

/-- The frames of the answer to a frame. -/
def answerFrames (type : UInt8) (frame : List UInt8) (act : ActuatorFrame)
    (packets : List (List UInt8)) : List (UInt8 × List UInt8) :=
  packets.map (fun pkt => (frameTm, pkt)) ++
    (if senses type frame then [(frameActuator, act.bytes)] else [])

theorem answer_eq (type : UInt8) (frame : List UInt8) (act : ActuatorFrame)
    (packets : List (List UInt8)) :
    answer (answerFrames type frame act packets) =
      (packets.map (Item.frame frameTm) ++ ending type frame act).flatMap Item.bytes := by
  have telemetry : encode (packets.map (fun pkt => (frameTm, pkt))) =
      (packets.map (Item.frame frameTm)).flatMap Item.bytes := by
    unfold encode
    rw [List.flatMap_map, List.flatMap_map]
  unfold answer answerFrames ending
  rw [List.flatMap_append, ← telemetry]
  cases senses type frame with
  | false =>
      rw [if_neg Bool.false_ne_true, if_neg Bool.false_ne_true, List.append_nil]
      rfl
  | true =>
      rw [if_pos rfl, if_pos rfl]
      unfold encode
      rw [List.flatMap_append, List.append_assoc]
      rfl

theorem answerFrames_answers {type : UInt8} {frame : List UInt8} {before after : Server}
    {packets : List (List UInt8)} (turned : Turned type frame before after packets) :
    ∀ answered ∈ answerFrames type frame after.act packets, Answers answered := by
  intro answered member
  rcases List.mem_append.mp member with telemetry | actuator
  · obtain ⟨pkt, found, rfl⟩ := List.mem_map.mp telemetry
    exact ⟨show frameTm ≠ syncByte by decide,
      Nat.lt_of_le_of_lt (turned.short pkt found) (by decide)⟩
  · by_cases sensor : senses type frame = true
    · rw [if_pos sensor] at actuator
      rw [List.mem_singleton.mp actuator]
      exact ⟨show frameActuator ≠ syncByte by decide, by simp⟩
    · rw [if_neg sensor] at actuator
      cases actuator

theorem call_reading (request : Request) (data : List UInt8) :
    request.call.reading data = data := by
  have appended (front : List UInt8) :
      data.foldl (fun data byte => data ++ [byte]) front = front ++ data := by
    induction data generalizing front with
    | nil => exact (List.append_nil front).symm
    | cons byte rest inductionHypothesis =>
        rw [List.foldl_cons, inductionHypothesis, List.append_assoc]
        rfl
  exact appended []

/-- What a call does over the pipes: the simulation answers at the end of the request, and
the harness has its result at the end of the answer. -/
theorem request_answered (libm : Aocs.Libm) {request : Request} (fits : request.Fits)
    {before after : Server} {packets : List (List UInt8)}
    (turn : before.turn libm request.frame.1 request.frame.2 = some after)
    (turned : Turned request.frame.1 request.frame.2 before after packets) :
    Answered (program libm) request.call (.type, .looping before) (.type, .looping after)
      (answer (answerFrames request.frame.1 request.frame.2 after.act packets))
      (request.result (answerFrames request.frame.1 request.frame.2 after.act packets)) where
  served := by
    rw [answer_eq]
    exact turned.atEnd turn fits.kept
  replies := List.append_ne_nil_of_right_ne_nil _ (List.cons_ne_nil _ _)
  waits := by
    intro front isPrefix short
    obtain ⟨back, split⟩ := isPrefix
    rw [call_reading]
    have waits := request.read_waits (answerFrames_answers turned) split.symm (by
      rintro rfl
      rw [List.append_nil] at split
      exact short split)
    exact congrArg (Option.map Prod.fst) waits
  reads := by
    rw [call_reading]
    exact congrArg (Option.map Prod.fst) (request.read_answer (answerFrames_answers turned))

/-- The same call on the simulation as a function. -/
theorem serve_eq {libm : Aocs.Libm} (request : Request) {before after : Server}
    {packets : List (List UInt8)}
    (turn : before.turn libm request.frame.1 request.frame.2 = some after)
    (turned : Turned request.frame.1 request.frame.2 before after packets) :
    request.serve libm before =
      some (request.result (answerFrames request.frame.1 request.frame.2 after.act packets),
        after) := by
  have written : before.writtenSince after =
      answer (answerFrames request.frame.1 request.frame.2 after.act packets) := by
    rw [turned.written, answer_eq]
  unfold Request.serve
  simp only [turn, written, request.read_answer (answerFrames_answers turned),
    Option.bind_eq_bind, Option.bind_some]
  rfl

/-! ### Sessions -/

/-- The calls one after the other, as if the simulation were a function. -/
def serveAll (libm : Aocs.Libm) : List Request → Server → Option (List Result × Server)
  | [], server => some ([], server)
  | request :: rest, server => do
      let (result, server) ← request.serve libm server
      let (results, server) ← serveAll libm rest server
      return (result :: results, server)

theorem session_of_ready (libm : Aocs.Libm) {requests : List Request}
    (fits : ∀ request ∈ requests, request.Fits) {server : Server} (ready : server.Ready) :
    ∃ results last cost, serveAll libm requests server = some (results, last) ∧ last.Ready ∧
      Session (program libm) (requests.map Request.call) (.type, .looping server) results
        (.type, .looping last) cost := by
  induction requests generalizing server with
  | nil => exact ⟨[], server, 0, rfl, ready, .nil _⟩
  | cons request rest inductionHypothesis =>
      obtain ⟨middle, packets, turn, turned⟩ :=
        turn_turned libm request.frame.1 request.frame.2 ready
      obtain ⟨results, last, cost, served, lastReady, session⟩ := inductionHypothesis
        (fun other member => fits other (List.mem_cons_of_mem request member)) turned.ready
      have answered := request_answered libm (fits request List.mem_cons_self) turn turned
      refine ⟨_, last, _, ?_, lastReady, .cons answered session⟩
      unfold serveAll
      simp only [serve_eq request turn turned, served, Option.bind_eq_bind, Option.bind_some]
      rfl

/-- However the harness and the simulation are scheduled, a session ends, and each call
returns what it would if the simulation were a function; neither process waits for the other
before. -/
theorem harness_lockstep (libm : Aocs.Libm) (requests : List Request)
    (fits : ∀ request ∈ requests, request.Fits) :
    ∃ results last cost, serveAll libm requests Server.boot = some (results, last) ∧
      ∀ (steps : Nat) (world : World (Reading × Program) (List UInt8) UInt8 UInt8 Result),
        Run (program libm)
            (World.start (requests.map Request.call) (.type, .looping Server.boot)) steps world →
          steps ≤ cost ∧ world.results <+: results ∧
            (world = World.finished (.type, .looping last) results ∨
              ∃ next, Step (program libm) world next) := by
  obtain ⟨results, last, cost, served, _, session⟩ := session_of_ready libm fits boot_ready
  exact ⟨results, last, cost, served, fun steps world run => session.lockstep run⟩

/-- A ping, a tick without a valid sensor and a query. -/
def shortSession : List Request :=
  [.tc (buildTc 0x010 17 1 []), .tick ⟨⟨0, 0, 0⟩, 0, ⟨0, 0, 0, 0⟩, 0, ⟨0, 0, 0⟩, 0, 0⟩,
    .query 0x010 0x20A3 0]

theorem shortSession_lockstep : ∃ results last cost,
    serveAll ⟨id, id, id, id⟩ shortSession Server.boot = some (results, last) ∧
      ∀ (steps : Nat) (world : World (Reading × Program) (List UInt8) UInt8 UInt8 Result),
        Run (program ⟨id, id, id, id⟩)
            (World.start (shortSession.map Request.call) (.type, .looping Server.boot)) steps
            world →
          steps ≤ cost ∧ world.results <+: results ∧
            (world = World.finished (.type, .looping last) results ∨
              ∃ next, Step (program ⟨id, id, id, id⟩) world next) := by
  apply harness_lockstep ⟨id, id, id, id⟩ shortSession
  intro request member
  rcases List.mem_cons.mp member with rfl | member
  · exact ⟨List.cons_ne_nil _ _, by decide⟩
  rcases List.mem_cons.mp member with rfl | member
  · trivial
  rw [List.mem_singleton.mp member]
  trivial

/-! ### Ticks -/

/-- Telemetry does not reach the actuator frame that `recv_tick` returns. -/
theorem tick_result (sensor : SensorFrame) (act : ActuatorFrame) (packets : List (List UInt8)) :
    (Request.tick sensor).result (answerFrames frameSensor (packSensor sensor) act packets) =
      .ticked act := by
  have skips (start : ActuatorFrame) :
      (packets.map (fun pkt => (frameTm, pkt))).foldl
        (fun act frame => keepActuator act frame.1 frame.2) start = start := by
    induction packets with
    | nil => rfl
    | cons pkt rest inductionHypothesis =>
        have skipped : keepActuator start frameTm pkt = start :=
          if_neg (fun both => absurd both.1 (by decide))
        rw [List.map_cons, List.foldl_cons, skipped]
        exact inductionHypothesis
  have long : senses frameSensor (packSensor sensor) = true := by
    simp [senses, sensorFrameLen]
  have kept (start : ActuatorFrame) : keepActuator start frameActuator act.bytes = act := by
    unfold keepActuator
    rw [if_pos ⟨rfl, act.bytes_length⟩, unpackActuator_bytes]
  unfold Request.result answerFrames
  simp only
  rw [if_pos long, List.foldl_append, skips, List.foldl_cons, List.foldl_nil, kept]

/-- Whatever the harness has sent before, each of its ticks returns the actuator frame of
that tick, and the frame is within the law of the mode and the parameters in force: the
magnetorquers only in SAFE with a valid magnetometer, the reaction wheels only in NOMINAL with
a valid star tracker and gyro, and no number beyond its limit. -/
theorem tick_commanded (libm : Aocs.Libm) {requests : List Request}
    (fits : ∀ request ∈ requests, request.Fits) (sensor : SensorFrame) :
    ∃ results server released act after,
      serveAll libm requests Server.boot = some (results, server) ∧
      server.sim.release = some released ∧
      (Request.tick sensor).serve libm server = some (.ticked act, after) ∧
      ActLaw released.obsw.board.fsm.mode released.obsw.board.s20.table sensor act := by
  obtain ⟨results, server, _, served, ready, _⟩ := session_of_ready libm fits boot_ready
  obtain ⟨released, after, packets, release, turn, turned, commanded⟩ :=
    turn_sensor libm (simParseSensor_pack sensor) ready
  refine ⟨results, server, released, after.act, after, served, release, ?_, commanded⟩
  have ticked := serve_eq (.tick sensor) turn turned
  rw [ticked]
  exact congrArg (fun result => some (result, after)) (tick_result sensor after.act packets)

theorem firstTick_commanded : ∃ results server released act after,
    serveAll ⟨id, id, id, id⟩ [.tc (buildTc 0x010 17 1 [])] Server.boot = some (results, server) ∧
      server.sim.release = some released ∧
      (Request.tick ⟨⟨0, 0, 0⟩, 1, ⟨0, 0, 0, 0⟩, 0, ⟨0, 0, 0⟩, 0, 0⟩).serve ⟨id, id, id, id⟩ server =
        some (.ticked act, after) ∧
      ActLaw released.obsw.board.fsm.mode released.obsw.board.s20.table
        ⟨⟨0, 0, 0⟩, 1, ⟨0, 0, 0, 0⟩, 0, ⟨0, 0, 0⟩, 0, 0⟩ act :=
  tick_commanded ⟨id, id, id, id⟩
    (by
      intro request member
      rw [List.mem_singleton.mp member]
      exact ⟨List.cons_ne_nil _ _, by decide⟩)
    ⟨⟨0, 0, 0⟩, 1, ⟨0, 0, 0, 0⟩, 0, ⟨0, 0, 0⟩, 0, 0⟩

end Openobsw.Tools
