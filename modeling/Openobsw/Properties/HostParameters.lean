import Openobsw.Properties.HostSessions
import Openobsw.System.HostParams

/-!
Owns the parameters of the host simulation as a harness sees them: a query returns the value
that was stored last, and what the mode gate does to a value that a harness stores.
-/

namespace Openobsw.Tools

open Openobsw.Fdir Openobsw.HostSim Openobsw.Lib Openobsw.Pus Openobsw.Pus.S1
  Openobsw.System Openobsw.Util

/-! ### The packets of a query -/

/-- A packet of another service does not reach the result of a query. -/
theorem keepS20_other (paramId : UInt16) (result : UInt32) {request : TmRequest}
    (other : request.svc ≠ 20) : keepS20 paramId result frameTm request.packet = result := by
  have service : byteAt request.packet 7 = request.svc := rfl
  unfold keepS20
  rw [service, if_neg]
  rintro ⟨_, _, same, _⟩
  exact other same

/-- The answer of `obsw_s20_get` is the result of the query. -/
theorem keepS20_value (paramId : UInt16) (result value : UInt32) (s : S20.Ctx) :
    keepS20 paramId result frameTm (S20.valueRequest s paramId value).packet = value := by
  have length : (S20.valueRequest s paramId value).packet.length = 23 := rfl
  have service : byteAt (S20.valueRequest s paramId value).packet 7 = 20 := rfl
  have subservice : byteAt (S20.valueRequest s paramId value).packet 8 = 2 := rfl
  have target : unpackBe16 ((S20.valueRequest s paramId value).packet.drop 17) = paramId.toNat :=
    putBe16_toNat paramId
  have word : beWordAt (S20.valueRequest s paramId value).packet 19 = value :=
    join32_putBe32 value
  unfold keepS20
  rw [if_pos ⟨rfl, by rw [length], service, subservice⟩, if_pos target, word]

/-- The builds of a query: the S1 reports, and the value between them if the parameter
exists. -/
def queryRequests (tc : Tc) (s : S20.Ctx) (link : Link cfg) (paramId : UInt16) : List TmRequest :=
  match paramValue s.table paramId with
  | none => [request link.ctx 2 (encodeTcRef tc ++ putBe16 failExecError)]
  | some value =>
      [request link.ctx 1 (encodeTcRef tc), S20.valueRequest s paramId value,
        request (link.accepted tc).ctx 7 (encodeTcRef tc)]

theorem queryRequests_fits (tc : Tc) (s : S20.Ctx) (link : Link cfg) (paramId : UInt16) :
    ∀ built ∈ queryRequests tc s link paramId, built.Fits cfg := by
  unfold queryRequests
  intro built member
  cases found : paramValue s.table paramId with
  | none =>
      rw [found] at member
      rw [List.mem_singleton.mp member]
      exact (by decide : 23 ≤ cfg.tmMaxPacketLen)
  | some value =>
      rw [found] at member
      rcases List.mem_cons.mp member with rfl | member
      · exact (by decide : 21 ≤ cfg.tmMaxPacketLen)
      rcases List.mem_cons.mp member with rfl | member
      · exact (by decide : 23 ≤ cfg.tmMaxPacketLen)
      rw [List.mem_singleton.mp member]
      exact (by decide : 21 ≤ cfg.tmMaxPacketLen)

theorem queryRequests_length (tc : Tc) (s : S20.Ctx) (link : Link cfg) (paramId : UInt16) :
    (queryRequests tc s link paramId).length ≤ usableSlots := by
  unfold queryRequests
  cases paramValue s.table paramId with
  | none => exact (by decide : 1 ≤ usableSlots)
  | some value => exact (by decide : 3 ≤ usableSlots)

/-- What `query_s20_float` makes of these packets. -/
theorem queryRequests_result (tc : Tc) (s : S20.Ctx) (link : Link cfg) (paramId : UInt16)
    (default : UInt32) :
    ((queryRequests tc s link paramId).map (fun built => (frameTm, built.packet))).foldl
      (fun value frame => keepS20 paramId value frame.1 frame.2) default =
        (paramValue s.table paramId).getD default := by
  unfold queryRequests
  cases paramValue s.table paramId with
  | none =>
      exact @keepS20_other paramId default
        (request link.ctx 2 (encodeTcRef tc ++ putBe16 failExecError)) (by simp [request])
  | some value =>
      simp only [List.map_cons, List.map_nil, List.foldl_cons, List.foldl_nil]
      rw [keepS20_other paramId default (by simp [request]), keepS20_value,
        keepS20_other paramId value (by simp [request])]
      rfl

/-! ### A query in any state -/

/-- The packet of a query, as the dispatcher sees it. -/
def queryPacket (apid paramId : UInt16) : Tc where
  apid := apid &&& 0x7FF
  service := 20
  subservice := 3
  seqCount := 0
  userData := some (putBe16 paramId)

/-- `obsw_s20_get` through its handler. -/
theorem get_handled (apid paramId : UInt16) (board : Board cfg) (link : Link cfg) :
    ∃ rc s later, Handler.handle wiring.functions (.s20 .get) (queryPacket apid paramId) board link =
        some (rc, { board with s20 := s }, later) ∧
      s.table = board.s20.table ∧
      later.tm = link.tm.afterAll
        (queryRequests (queryPacket apid paramId) board.s20 link paramId) := by
  have target : obswBe16 (putBe16 paramId) 0 = some paramId := obswBe16_putBe16 [] paramId []
  have got := get_value (queryPacket apid paramId) rfl (Nat.le_refl 2) target board.s20 link
  unfold queryRequests
  cases found : paramValue board.s20.table paramId with
  | none =>
      rw [found] at got
      exact ⟨_, _, _, Handler.within_eq Board.parameters got, rfl, rfl⟩
  | some value =>
      rw [found] at got
      exact ⟨_, _, _, Handler.within_eq Board.parameters got, rfl, rfl⟩

/-- A query goes through the dispatcher, changes no value, and builds its packets. -/
theorem query_feed (apid paramId : UInt16) {server : Server} (settled : Settled server) :
    ∃ rc fed, server.sim.feed .uplink (queryTc apid paramId) = some (rc, fed) ∧
      fed.obsw.link.tm = server.sim.obsw.link.tm.afterAll
        (queryRequests (queryPacket apid paramId) server.sim.obsw.board.s20 server.sim.obsw.link
          paramId) := by
  have parsed : tcParse (queryTc apid paramId) = some (some (queryPacket apid paramId)) :=
    tcParse_buildTc apid 20 3 (putBe16 paramId) (show 2 + 5 < 65536 by decide)
  obtain ⟨takes, only⟩ := query_takes (queryPacket apid paramId) rfl rfl
  have fed := feed_eq parsed (query_admitted settled.configured rfl rfl) takes only .uplink
  obtain ⟨rc, s, later, handled, _, port⟩ :=
    get_handled apid paramId server.sim.obsw.board server.sim.obsw.link
  unfold Handler.invoke at fed
  simp only [handled, Option.bind_eq_bind, Option.bind_some] at fed
  unfold Sim.feed
  simp only [fed, Option.bind_eq_bind]
  exact ⟨_, _, rfl, port⟩

/-- The result that the frames of the answer give. -/
theorem query_result (apid paramId : UInt16) (default : UInt32) (frame : List UInt8)
    (act : ActuatorFrame) (requests : List TmRequest) :
    (Request.query apid paramId default).result
        (answerFrames frameTc frame act (requests.map (fun built => built.packet))) =
      .value ((requests.map (fun built => (frameTm, built.packet))).foldl
        (fun value frame => keepS20 paramId value frame.1 frame.2) default) := by
  have telemetry : answerFrames frameTc frame act (requests.map (fun built => built.packet)) =
      requests.map (fun built => (frameTm, built.packet)) := by
    unfold answerFrames
    rw [List.map_map, if_neg (by simp [senses, frameTc, frameSensor]), List.append_nil]
    rfl
  rw [telemetry]
  rfl

/-- What `query_s20_float` returns. -/
theorem query_served (libm : Aocs.Libm) (apid paramId : UInt16) (default : UInt32)
    {server : Server} (settled : Settled server) :
    ∃ after, (Request.query apid paramId default).serve libm server =
      some (.value ((paramValue server.sim.obsw.board.s20.table paramId).getD default), after) := by
  obtain ⟨rc, fed, ran, port⟩ := query_feed apid paramId settled
  obtain ⟨drained, _, _, turn, turned⟩ := tc_turn libm settled.ready ran port
    (queryRequests_fits _ _ _ _) (queryRequests_length _ _ _ _)
  have served := serve_eq (.query apid paramId default) turn turned
  rw [show (Request.query apid paramId default).frame.1 = frameTc from rfl, query_result,
    queryRequests_result] at served
  exact ⟨_, served⟩

/-! ### Queries over sessions -/

theorem serveAll_settled (libm : Aocs.Libm) (requests : List Request) {server : Server}
    (settled : Settled server) :
    ∃ results last, serveAll libm requests server = some (results, last) ∧ Settled last := by
  induction requests generalizing server with
  | nil => exact ⟨[], server, rfl, settled⟩
  | cons request rest inductionHypothesis =>
      obtain ⟨middle, packets, turn, turned⟩ :=
        turn_turned libm request.frame.1 request.frame.2 settled.ready
      obtain ⟨results, last, served, lastSettled⟩ :=
        inductionHypothesis (settled.turn turn turned)
      refine ⟨request.result (answerFrames request.frame.1 request.frame.2 middle.act packets) ::
        results, last, ?_, lastSettled⟩
      unfold serveAll
      simp only [serve_eq request turn turned, served, Option.bind_eq_bind, Option.bind_some]
      rfl

/-- In every mode and after any session, a query returns the value of the last TC(20,1) for
the parameter that was carried out, whoever sent it, and otherwise the value at boot; only
three parameters are not such a memory, which every sensor frame overwrites. -/
theorem query_remembered (libm : Aocs.Libm) (requests : List Request) (apid : UInt16)
    {paramId : UInt16} (plain : ¬ overwritten paramId) (default : UInt32) :
    ∃ results server after, serveAll libm requests Server.boot = some (results, server) ∧
      (Request.query apid paramId default).serve libm server =
        some (.value ((remembered server.sim.obsw.invoked paramId).getD default), after) := by
  obtain ⟨results, server, served, settled⟩ := serveAll_settled libm requests boot_settled
  obtain ⟨after, queried⟩ := query_served libm apid paramId default settled
  rw [settled.remembers.values paramId plain] at queried
  exact ⟨results, server, after, served, queried⟩

/-- The set-up of `bdot_hpf_validation.py`: a time constant for the filter. -/
def setHpfTau (tau : UInt32) : Request := .tc (buildTc 0x010 20 1 (putBe16 0x20A3 ++ putBe32 tau))

/-- In NOMINAL the time constant 10.0 is stored, and a query returns it. -/
theorem hpfTau_remembered : ∃ results server after,
    serveAll ⟨id, id, id, id⟩ [.tc (buildTc 0x010 8 1 [0, 1, 0]), setHpfTau 0x41200000]
        Server.boot = some (results, server) ∧
      (Request.query 0x010 0x20A3 0).serve ⟨id, id, id, id⟩ server =
        some (.value 0x41200000, after) := by
  obtain ⟨results, server, after, served, queried⟩ := query_remembered ⟨id, id, id, id⟩
    [.tc (buildTc 0x010 8 1 [0, 1, 0]), setHpfTau 0x41200000] 0x010
    (show ¬ overwritten 0x20A3 by decide) 0
  have stored : (serveAll ⟨id, id, id, id⟩ [.tc (buildTc 0x010 8 1 [0, 1, 0]), setHpfTau 0x41200000]
      Server.boot).map (fun out => remembered out.2.sim.obsw.invoked 0x20A3) =
        some (some 0x41200000) := by
    decide +kernel
  rw [served, Option.map_some, Option.some.injEq] at stored
  rw [stored] at queried
  exact ⟨results, server, after, served, queried⟩

/-! ### The validation of the high-pass filter -/

/-- The law that drives the magnetorquers in SAFE, with the parameters of the boot. -/
def detumbling (libm : Aocs.Libm) : List SensorFrame → Controllers → Option (List ActuatorFrame)
  | [], _ => some []
  | sensor :: rest, controllers => do
      let controlled ← controlStep libm .safe s20Params sensor controllers
      let acts ← detumbling libm rest controlled.controllers
      return controlled.act :: acts

/-- SAFE, and nothing that could change the mode by itself. -/
structure Calm (board : Board cfg) : Prop where
  mode : board.fsm.mode = .safe
  acts : board.s11.acts = []
  queue : board.s19.queue = []
  defs : board.s12.defs = []

theorem boot_calm : Calm boot.obsw.board := ⟨rfl, rfl, rfl, rfl⟩

/-- With nothing due and no event queued, a frame releases nothing. -/
theorem Calm.release {sim : Sim} (calm : Calm sim.obsw.board) :
    ∃ released, sim.release = some released ∧ Calm released.obsw.board ∧
      released.obsw.board.s20 = sim.obsw.board.s20 := by
  have scheduled : S11.run cfg (Sim.core.comp Board.schedule) (Sim.feed .schedule)
      sim.obsw.board.obt sim = some (0, sim) := by
    have nothing : ((Sim.core.comp Board.schedule).get sim).acts = [] := calm.acts
    unfold S11.run
    simp only [nothing, List.length_nil]
    split <;> rfl
  have acted : S19.run (Sim.core.comp Board.events) (Sim.feed .eventAction) sim =
      some (0, (Sim.core.comp Board.events).set sim.obsw.board.s19.emptied sim) := by
    have nothing : ((Sim.core.comp Board.events).get sim).queue = [] := calm.queue
    unfold S19.run
    simp only [nothing]
    rfl
  refine ⟨(Sim.core.comp Board.events).set sim.obsw.board.s19.emptied sim, ?_,
    ⟨calm.mode, calm.acts, rfl, calm.defs⟩, rfl⟩
  unfold Sim.release
  simp only [scheduled, acted, Option.bind_eq_bind, Option.bind_some]
  rfl

/-- Without definitions the check raises nothing. -/
theorem Calm.check {sim : Sim} (calm : Calm sim.obsw.board) :
    ∃ after, sim.check = some after ∧ after.obsw.board = sim.obsw.board := by
  have checked (env : S5.Env cfg (S19.Ctx cfg)) : S12.check sim.obsw.board.hook
      sim.obsw.board.s20.table sim.obsw.board.s12 env = some (sim.obsw.board.s12, env) := by
    unfold S12.check
    rw [calm.defs]
    split <;> rfl
  unfold Sim.check monitoringCheck
  simp only [checked, Option.bind_eq_bind, Option.bind_some]
  exact ⟨_, rfl, rfl⟩

theorem tuned_congr {table : List S20.Param}
    (same : ∀ paramId, ¬ overwritten paramId → paramValue table paramId =
      paramValue s20Params paramId) (controllers : Controllers) :
    controllers.tuned table = controllers.tuned s20Params := by
  have each (paramId : UInt16) (plain : ¬ overwritten paramId) (default : UInt32) :
      s20GetF32 table paramId default = s20GetF32 s20Params paramId default := by
    rw [s20GetF32_eq, s20GetF32_eq, same paramId plain]
  unfold Controllers.tuned
  rw [each 0x20A0 (by decide), each 0x20A1 (by decide), each 0x20A2 (by decide),
    each 0x20A3 (by decide), each 0x3020 (by decide)]

/-- In SAFE the control step does not depend on parameters that frames overwrite. -/
theorem controlStep_congr (libm : Aocs.Libm) {table : List S20.Param}
    (same : ∀ paramId, ¬ overwritten paramId → paramValue table paramId =
      paramValue s20Params paramId) (sensor : SensorFrame) (controllers : Controllers) :
    controlStep libm .safe table sensor controllers =
      controlStep libm .safe s20Params sensor controllers := by
  have off : ¬ (decide (Mode.safe = .nominal) && sensor.stValid != 0 && sensor.gyroValid != 0) =
      true := by
    simp
  unfold controlStep
  simp only
  rw [if_neg off, if_neg off, tuned_congr same]

/-- What a session of the validation starts each frame from. -/
structure Validating (server : Server) : Prop where
  settled : Settled server
  calm : Calm server.sim.obsw.board
  values : ∀ paramId, ¬ overwritten paramId →
    paramValue server.sim.obsw.board.s20.table paramId = paramValue s20Params paramId

theorem boot_validating : Validating Server.boot := ⟨boot_settled, boot_calm, fun _ _ => rfl⟩

theorem drain_board {turns : Nat} {sim after : Sim}
    (ran : Sim.drainLoop turns sim = some after) : after.obsw.board = sim.obsw.board := by
  induction turns generalizing sim with
  | zero => cases ran
  | succ turns inductionHypothesis =>
      unfold Sim.drainLoop at ran
      generalize sim.obsw.link.tm.store.dequeue cfg.tmMaxPacketLen = reply at ran
      obtain ⟨rc, pkt, store⟩ := reply
      by_cases ok : rc = .ok
      · simp only [if_pos ok] at ran
        exact (inductionHypothesis ran).trans rfl
      · simp only [if_neg ok] at ran
        cases ran
        rfl

/-- The gate refuses TC(20,1) outside NOMINAL. -/
theorem set_refused {board : Board cfg} (configured : board.fsm.config = fsmConfig)
    (safe : board.fsm.mode = .safe) {tc : Tc} (service : tc.service = 20)
    (subservice : tc.subservice = 1) : ¬ wiring.Admits tc board := by
  intro admits
  have allowed := admits rfl
  unfold Fsm.tcAllowed at allowed
  rw [safe, if_neg (by decide), configured, service, subservice] at allowed
  exact absurd allowed (by decide)

/-- A value that the harness stores in SAFE is not stored. -/
theorem Validating.set (libm : Aocs.Libm) (tau : UInt32) {server : Server}
    (validating : Validating server) :
    ∃ after, (setHpfTau tau).serve libm server = some (.drained, after) ∧ Validating after ∧
      after.controllers = server.controllers := by
  obtain ⟨rc, fed, drained, packets, ran, drains, turn, turned⟩ :=
    turn_tc libm (buildTc 0x010 20 1 (putBe16 0x20A3 ++ putBe32 tau)) validating.settled.ready
  have parsed := tcParse_buildTc 0x010 20 1 (putBe16 0x20A3 ++ putBe32 tau)
    (show 6 + 5 < 65536 by decide)
  have board : fed.obsw.board = server.sim.obsw.board := by
    have result := feed_result wiring .uplink (buildTc 0x010 20 1 (putBe16 0x20A3 ++ putBe32 tau))
      server.sim.obsw
    rw [feed_obsw ran] at result
    generalize same : (some (rc, fed.obsw) : Option (TcRc × Obsw cfg)) = out at result
    cases result with
    | dropped _ =>
        rw [(Prod.mk.inj (Option.some.inj same)).2]
    | gated tc _ _ =>
        rw [(Prod.mk.inj (Option.some.inj same)).2]
        rfl
    | unrouted tc _ _ _ =>
        rw [(Prod.mk.inj (Option.some.inj same)).2]
        rfl
    | handled tc found admits entry takes =>
        rw [parsed] at found
        cases found
        exact absurd admits (set_refused validating.settled.configured validating.calm.mode rfl rfl)
  have kept : drained.obsw.board = server.sim.obsw.board := (drain_board drains).trans board
  have served := serve_eq (setHpfTau tau) turn turned
  refine ⟨_, served, ⟨validating.settled.turn turn turned, ?_, ?_⟩, rfl⟩
  · show Calm drained.obsw.board
    rw [kept]
    exact validating.calm
  · show ∀ paramId, ¬ overwritten paramId → paramValue drained.obsw.board.s20.table paramId = _
    rw [kept]
    exact validating.values

theorem Calm.tick {sim after : Sim} (calm : Calm sim.obsw.board) (ran : sim.tick = some after) :
    Calm after.obsw.board ∧ after.obsw.board.s20 = sim.obsw.board.s20 := by
  unfold Sim.tick hkTick at ran
  obtain ⟨obsw, housekept, ran⟩ := Option.bind_eq_some_iff.mp ran
  obtain ⟨reply, _, housekept⟩ := Option.bind_eq_some_iff.mp housekept
  cases housekept
  cases ran
  exact ⟨⟨calm.mode, calm.acts, calm.queue, calm.defs⟩, rfl⟩

/-- A tick of the validation is a step of the law. -/
theorem Validating.tick (libm : Aocs.Libm) (sensor : SensorFrame) {server : Server}
    (validating : Validating server) :
    ∃ controlled after,
      controlStep libm .safe s20Params sensor server.controllers = some controlled ∧
      (Request.tick sensor).serve libm server = some (.ticked controlled.act, after) ∧
      Validating after ∧ after.controllers = controlled.controllers := by
  obtain ⟨released, release, calm, sameTable⟩ := validating.calm.release
  obtain ⟨_, after, packets, _, turn, turned, _⟩ :=
    turn_sensor libm (simParseSensor_pack sensor) validating.settled.ready
  have turning := turn
  unfold Server.turn at turning
  rw [if_neg (by decide), if_pos rfl, simParseSensor_pack] at turning
  obtain ⟨sensed, senses, turning⟩ := Option.bind_eq_some_iff.mp turning
  obtain ⟨drained, drains, turning⟩ := Option.bind_eq_some_iff.mp turning
  unfold Server.sense at senses
  obtain ⟨_, releases, senses⟩ := Option.bind_eq_some_iff.mp senses
  rw [release] at releases
  cases releases
  obtain ⟨controlled, controls, senses⟩ := Option.bind_eq_some_iff.mp senses
  obtain ⟨checked, checks, senses⟩ := Option.bind_eq_some_iff.mp senses
  obtain ⟨ticked, ticks, senses⟩ := Option.bind_eq_some_iff.mp senses
  cases senses
  cases turning
  rw [calm.mode, sameTable, controlStep_congr libm validating.values] at controls
  let data := sensor.sensed libm server.controllers.lastSimTime controlled.adcs
  have controlledCalm :
      Calm (Sim.core.set (control data released.obsw.board) released).obsw.board :=
    ⟨calm.mode, calm.acts, calm.queue, calm.defs⟩
  obtain ⟨_, same, checkedBoard⟩ := controlledCalm.check
  rw [show (Sim.core.set (control data released.obsw.board) released).check = some checked
    from checks] at same
  cases same
  have checkedCalm : Calm checked.obsw.board := by
    rw [checkedBoard]
    exact controlledCalm
  obtain ⟨tickedCalm, tickedTable⟩ := checkedCalm.tick ticks
  have table : drained.obsw.board.s20.table = (control data released.obsw.board).s20.table := by
    rw [drain_board drains, tickedTable, checkedBoard]
    rfl
  have served := (serve_eq (.tick sensor) turn turned).trans
    (congrArg (fun result => some (result, _)) (tick_result sensor _ packets))
  refine ⟨controlled, _, controls, served, ⟨validating.settled.turn turn turned, ?_, ?_⟩, rfl⟩
  · show Calm drained.obsw.board
    rw [drain_board drains]
    exact tickedCalm
  · intro paramId plain
    show paramValue drained.obsw.board.s20.table paramId = _
    rw [table, control_values data (by rw [sameTable]; exact validating.settled.remembers.ids) plain,
      sameTable]
    exact validating.values paramId plain

theorem validating_ticks (libm : Aocs.Libm) (sensors : List SensorFrame) {server : Server}
    (validating : Validating server) :
    ∃ acts last, detumbling libm sensors server.controllers = some acts ∧
      serveAll libm (sensors.map .tick) server = some (acts.map .ticked, last) := by
  induction sensors generalizing server with
  | nil => exact ⟨[], server, rfl, rfl⟩
  | cons sensor rest inductionHypothesis =>
      obtain ⟨controlled, after, controls, served, next, kept⟩ := validating.tick libm sensor
      obtain ⟨acts, last, law, later⟩ := inductionHypothesis next
      rw [kept] at law
      refine ⟨controlled.act :: acts, last, ?_, ?_⟩
      · unfold detumbling
        simp only [controls, law, Option.bind_eq_bind, Option.bind_some]
        rfl
      · rw [List.map_cons]
        unfold serveAll
        simp only [served, later, Option.bind_eq_bind, Option.bind_some]
        rfl

/-- The validation of the high-pass filter drives the simulation with the time constant of
the boot: whatever it sets, each tick is the same step of the law, because the simulation boots
into SAFE, whose gate refuses TC(20,1). -/
theorem validation_ignores_tau (libm : Aocs.Libm) (tau : UInt32) (sensors : List SensorFrame) :
    ∃ acts last, detumbling libm sensors Controllers.init = some acts ∧
      serveAll libm (setHpfTau tau :: sensors.map .tick) Server.boot =
        some (.drained :: acts.map .ticked, last) := by
  obtain ⟨after, set, validating, kept⟩ := boot_validating.set libm tau
  obtain ⟨acts, last, law, served⟩ := validating_ticks libm sensors validating
  rw [kept] at law
  refine ⟨acts, last, law, ?_⟩
  unfold serveAll
  simp only [set, served, Option.bind_eq_bind, Option.bind_some]
  rfl

end Openobsw.Tools
