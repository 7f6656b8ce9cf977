import Mathlib.Logic.Function.Basic
import Openobsw.Srdb.Mission
import Openobsw.System.Telemetry

/-!
Owns the host simulation (`sim/main.c`): its boot configuration, and what it does with
a frame from standard input. What the control laws compute in floating point is part of
the frame.
-/

namespace Openobsw.HostSim

open Openobsw.Fdir Openobsw.Lib Openobsw.Pus Openobsw.Srdb Openobsw.System

/-! ### Boot configuration -/

/-- The configuration that the headers define. -/
abbrev cfg : Config := Config.default

/-- The variables that the boot-time housekeeping sets point to. -/
inductive HkVar where
  | obcTemperature
  | obcV3v3
  | obcV5v
  | obcUptime
  | safeEntryCount
  | wdKickCount
  | wdTicksRemaining
  | obcMode
  | obcObt
  | obcWdStatus
  | obcMemPct
  | obcHealth
  | obcResetCount
  | obcCpuLoad
  | bdotGain
  | adcsKp
  | adcsKd
  | aocsErr
  | aocsOmega
  | aocsCtrl
deriving DecidableEq, Repr

/-- A set of `hk_sets` with its entry of `hk_sizes`. The widths of its parameters are
bound by `obsw_s3_bind_sizes`; until then they are not read. -/
structure BootSet where
  setId : UInt8
  vars : List HkVar
  sizes : List UInt8
  interval : UInt32

def BootSet.unbound (boot : BootSet) : S3.HkSet where
  setId := boot.setId
  params := .boot (boot.vars.map (fun var => { ptr := .app var.ctorIdx, size := .u8 }))
  paramCount := UInt8.ofNat boot.vars.length
  intervalTicks := boot.interval
  countdown := boot.interval
  enabled := true

def bootSets : List BootSet := [
  { setId := 1
    vars := [.obcTemperature, .obcV3v3, .obcV5v, .obcUptime]
    sizes := [2, 2, 2, 4]
    interval := 10 },
  { setId := 2
    vars := [.safeEntryCount, .wdKickCount, .wdTicksRemaining]
    sizes := [2, 4, 4]
    interval := 60 },
  { setId := 3
    vars := [.obcMode, .obcObt, .obcWdStatus, .obcMemPct, .obcHealth, .obcResetCount, .obcCpuLoad]
    sizes := [1, 4, 1, 1, 1, 2, 1]
    interval := 10 },
  { setId := 4
    vars := [.bdotGain, .adcsKp, .adcsKd]
    sizes := [4, 4, 4]
    interval := 5 },
  { setId := 6
    vars := [.aocsErr, .aocsOmega, .aocsCtrl]
    sizes := [4, 4, 1]
    interval := 5 }]

/-- The set after `obsw_s3_bind_sizes`. -/
def BootSet.bound (boot : BootSet) : S3.HkSet :=
  match S3.bindSizes boot.unbound boot.sizes boot.unbound.paramCount with
  | some (_, set) => set
  | none => boot.unbound

/-- The widths match the layouts, so `main` does not return 1. -/
theorem bootSets_bind : ∀ boot ∈ bootSets,
    S3.bindSizes boot.unbound boot.sizes boot.unbound.paramCount = some (true, boot.bound) := by
  decide

/-- `s20_params` -/
def s20Params : List S20.Param :=
  [(0x0001, 0), (0x0002, 3300), (0x0003, 5000), (0x0004, 0), (0x0005, 0), (0x0006, 0),
    (0x0007, 30)].map (fun entry => ⟨entry.1, entry.2, .u32⟩) ++
  [(0x20A0, 0x461C4000), (0x20A3, 0x41700000), (0x20A1, 0x3F000000), (0x20A2, 0x3DCCCCCD),
    (0x3001, 0x44098000), (0x3002, 0x42C2CCCD), (0x3010, 0x3B03126F), (0x3011, 0x3B23D70A),
    (0x3012, 0x3AC49BA6), (0x3020, 0x41200000), (0x3030, 0x3F000000), (0x3031, 0x3F000000),
    (0x3032, 0x3F000000)].map (fun entry => ⟨entry.1, entry.2, .f32⟩)

/-- The FSM configuration; `on_enter_safe` counts. -/
def fsmConfig : FsmConfig where
  onEnterSafe := true
  onExitSafe := false
  safeTcWhitelist := some Mission.safeTcWhitelist
  whitelistLen := Mission.safeTcCount

/-- The board after the set-up part of `main`, which ends in SAFE. -/
def bootBoard : Board cfg where
  s3 := {
    apid := Mission.apidDefault
    msgCounter := 0
    timestamp := 0
    sets := bootSets.map BootSet.bound
    setCapacity := 9
    paramPool := some []
    paramPoolLen := 32
    paramTableLen := 20 }
  s5 := {
    apid := Mission.apidDefault
    msgCounter := 0
    timestamp := 0
    fsm := true
    safeTriggerIds := Mission.safeTriggerIds
    calls := [] }
  s6 := {
    apid := Mission.apidDefault
    msgCounter := 0
    timestamp := 0
    regions := some [⟨0, 4096, 0x1000, S6.accessRead ||| S6.accessWrite⟩]
    memory := fun _ => 0 }
  obt := ⟨0, 0, 0⟩
  s11 := S11.init 8
  s12 := S12.init 20 16
  s17 := {
    apid := Mission.apidDefault
    msgCounter := 0
    timestamp := 0 }
  s19 := S19.init cfg 8
  s20 := {
    apid := Mission.apidDefault
    msgCounter := 0
    timestamp := 0
    table := s20Params }
  fsm := (Fsm.init fsmConfig).toSafe
  appVars := fun _ => 0
  eventAction := true

/-- `fn_recover_nominal` -/
def fnRecoverNominal : Function cfg where
  functionId := 1
  body _ _ _ := (0, [.toNominal])

/-- `fn_request_safe` -/
def fnRequestSafe : Function cfg where
  functionId := 2
  body _ _ _ := (0, [.toSafe])

/-- `fn_request_standby` -/
def fnRequestStandby : Function cfg where
  functionId := 3
  body _ _ _ := (0, [.toStandby])

/-- `routes`; every one is for all APIDs. -/
def routes : List RouteEntry :=
  [(17, 1, .s17), (8, 1, .s8), (3, 1, .s3 .define), (3, 3, .s3 .delete), (3, 5, .s3 .enable),
    (3, 6, .s3 .disable), (20, 1, .s20 .set), (20, 3, .s20 .get), (9, 128, .s9),
    (6, 2, .s6 .load), (6, 5, .s6 .check), (6, 9, .s6 .dump), (12, 1, .s12 .enable),
    (12, 2, .s12 .disable), (12, 3, .s12 .add), (12, 4, .s12 .delete), (12, 5, .s12 .deleteAll),
    (11, 4, .s11 .insert), (11, 5, .s11 .delete), (11, 6, .s11 .deleteAll), (11, 17, .s11 .enable),
    (11, 18, .s11 .disable), (19, 1, .s19 .add), (19, 2, .s19 .delete), (19, 3, .s19 .deleteAll),
    (19, 4, .s19 .enable), (19, 5, .s19 .disable)].map
      (fun entry => ⟨0xFFFF, entry.1, entry.2.1, entry.2.2⟩)

def wiring : Wiring cfg where
  routes := routes
  gated := true
  functions := [fnRecoverNominal, fnRequestSafe, fnRequestStandby]
  reportsFit := default_reportsFit

/-! ### State -/

/-- What the simulation writes to standard output: a TM packet, the actuator frame with
its controller byte, or the end-of-tick byte. -/
inductive Output where
  | tm (pkt : List UInt8)
  | actuator (controller : UInt8)
  | sync
deriving DecidableEq, Repr

/-- One step of a frame that may send telemetry: a packet fed to the dispatcher, the
monitoring check or the housekeeping tick, with the software before and after it. -/
inductive Moment where
  | fed (origin : Origin) (frame : List UInt8) (before after : Obsw cfg)
  | checked (before after : Obsw cfg)
  | ticked (before after : Obsw cfg)

structure Sim where
  obsw : Obsw cfg
  output : List Output
  /-- Ghost: the moments so far, oldest first. -/
  moments : List Moment

/-- The state in which `main` enters its loop. -/
def boot : Sim where
  obsw := {
    board := bootBoard
    link := {
      ctx := {
        apid := Mission.apidDefault
        msgCounter := 0
        timestamp := 0 }
      tm := {
        store := Tm.Store.init cfg
        log := [] } }
    fed := []
    invoked := [] }
  output := []
  moments := []

/-- What a sensor frame brings in, with the results of the control laws on it: whether
each sensor is valid, the angle error and rate of a successful `obsw_adcs_step`, and
the conversions `(uint32_t)sensor.sim_time` and `(uint32_t)(dt * 1000.0f + 0.5f)`. -/
structure Sensor where
  magValid : Bool
  stValid : Bool
  gyroValid : Bool
  adcs : Option (UInt32 × UInt32)
  simTime : UInt32
  dtMs : UInt32
deriving DecidableEq, Repr

/-- A frame from standard input; `other` has an unknown type, or is a sensor frame that
is too short. -/
inductive Frame where
  | tc (frame : List UInt8)
  | sensor (sensor : Sensor)
  | other
deriving DecidableEq, Repr

/-! ### The control part of a sensor frame -/

/-- `s20_get_f32` on the raw value. -/
def s20GetF32 (table : List S20.Param) (paramId : UInt16) (defaultVal : UInt32) : UInt32 :=
  ((table.find? (fun param => param.paramId == paramId)).map (fun param => param.value)).getD
    defaultVal

/-- `s20_params[index].value` -/
def s20Value (table : List S20.Param) (index : Nat) : UInt32 :=
  ((table[index]?).map (fun param => param.value)).getD 0

def assign (vars : Nat → UInt32) (values : List (HkVar × UInt32)) : Nat → UInt32 :=
  values.foldl (fun vars entry => Function.update vars entry.1.ctorIdx entry.2) vars

/-- `param_safe_entry_count`, which `on_enter_safe` increments. -/
def paramSafeEntryCount (fsm : Fsm) : UInt16 := UInt16.ofNat (fsm.hooks.count .enterSafe)

/-- The mode gate of the control step: the controller byte of the actuator frame, and
what the step leaves in the AOCS variables. -/
def aocsStep (sensor : Sensor) : Mode → UInt8 × List (HkVar × UInt32)
  | .nominal =>
      if sensor.stValid && sensor.gyroValid then
        match sensor.adcs with
        | some (err, omega) =>
            (1, [(.aocsErr, err), (.aocsOmega, omega), (.aocsCtrl, Mission.aocsControllerPd)])
        | none => (0, [])
      else (0, [(.aocsCtrl, Mission.aocsControllerOff)])
  | .safe =>
      if sensor.magValid then (0, [(.aocsCtrl, Mission.aocsControllerBdot)])
      else (0, [(.aocsCtrl, Mission.aocsControllerOff)])
  | .standby => (0, [(.aocsCtrl, Mission.aocsControllerOff)])

/-- The variables that the control part sets. The watchdog is kicked, but nothing ticks
it: its countdown stays 30, and `param_wd_kick_count` stays 0. -/
def controlVars (sensor : Sensor) (board : Board cfg) (obt : Time.Obt) : List (HkVar × UInt32) :=
  let table := board.s20.table
  (aocsStep sensor board.fsm.mode).2 ++
    [(.obcTemperature, (s20Value table 0).toUInt16.toUInt32),
      (.obcV3v3, (s20Value table 1).toUInt16.toUInt32),
      (.obcV5v, (s20Value table 2).toUInt16.toUInt32),
      (.obcUptime, sensor.simTime),
      (.wdTicksRemaining, 30),
      (.bdotGain, s20GetF32 table 0x20A0 0x461C4000),
      (.adcsKp, s20GetF32 table 0x20A1 0x3F000000),
      (.adcsKd, s20GetF32 table 0x20A2 0x3DCCCCCD),
      (.obcMode, Mission.obcMode board.fsm.mode),
      (.obcObt, obt.coarse),
      (.obcWdStatus, 0)]

/-- The part of a sensor frame between `obsw_s19_run` and `obsw_s12_check`. -/
def control (sensor : Sensor) (board : Board cfg) : Board cfg :=
  let obt := board.obt.advance sensor.dtMs
  { board with
    appVars := assign board.appVars (controlVars sensor board obt)
    s20 := { board.s20 with
      table := S20.setValue 5 0 (S20.setValue 4 (paramSafeEntryCount board.fsm).toUInt32
        (S20.setValue 3 sensor.simTime board.s20.table)) }
    obt := obt }

/-! ### Frames -/

namespace Sim

def core : Component Sim (Board cfg) where
  get sim := sim.obsw.board
  set board sim := { sim with obsw := { sim.obsw with board := board } }
  get_set _ _ := rfl
  set_get _ := rfl

/-- `obsw_tc_dispatcher_feed` -/
def feed (origin : Origin) (frame : List UInt8) (sim : Sim) : Option (TcRc × Sim) := do
  let (rc, obsw) ← System.feed wiring origin frame sim.obsw
  return (rc, { sim with
    obsw := obsw
    moments := sim.moments ++ [.fed origin frame sim.obsw obsw] })

/-- `obsw_s12_check` -/
def check (sim : Sim) : Option Sim := do
  let obsw ← monitoringCheck sim.obsw
  return { sim with
    obsw := obsw
    moments := sim.moments ++ [.checked sim.obsw obsw] }

/-- The counter of SAFE entries as housekeeping reads it. -/
def countEntries (board : Board cfg) : Board cfg :=
  { board with
    appVars := assign board.appVars
      [(.safeEntryCount, (paramSafeEntryCount board.fsm).toUInt32)] }

/-- `obsw_s3_tick` -/
def tick (sim : Sim) : Option Sim := do
  let before := { sim.obsw with board := countEntries sim.obsw.board }
  let obsw ← hkTick before
  return { sim with
    obsw := obsw
    moments := sim.moments ++ [.ticked before obsw] }

/-- The drain loop with a bound on its turns; `none` when the bound is reached. -/
def drainLoop : Nat → Sim → Option Sim
  | 0, _ => none
  | turns + 1, sim =>
      let (rc, pkt, store) := sim.obsw.link.tm.store.dequeue cfg.tmMaxPacketLen
      if rc = .ok then
        drainLoop turns { sim with
          obsw := { sim.obsw with
            link := { sim.obsw.link with tm := { sim.obsw.link.tm with store := store } } }
          output := sim.output ++ [.tm pkt] }
      else some sim

/-- The drain loop. A store holds fewer packets than it has slots, so the last turn
finds it empty. -/
def drain (sim : Sim) : Option Sim := drainLoop cfg.tmStoreSlots sim

def write (output : Output) (sim : Sim) : Sim := { sim with output := sim.output ++ [output] }

/-- What a sensor frame does before the drain, with the controller byte it leaves. -/
def sense (sensor : Sensor) (sim : Sim) : Option (UInt8 × Sim) := do
  let (_, sim) ← S11.run cfg (core.comp Board.schedule) (feed .schedule) sim.obsw.board.obt sim
  let (_, sim) ← S19.run (core.comp Board.events) (feed .eventAction) sim
  let controller := (aocsStep sensor sim.obsw.board.fsm.mode).1
  let sim ← check (core.set (control sensor sim.obsw.board) sim)
  let sim ← tick sim
  return (controller, sim)

/-- One turn of the loop of `main`. -/
def step (sim : Sim) : Frame → Option Sim
  | .tc frame => do
      let (_, sim) ← sim.feed .uplink frame
      let sim ← sim.drain
      return sim.write .sync
  | .sensor sensor => do
      let (controller, sim) ← sim.sense sensor
      let sim ← sim.drain
      return (sim.write (.actuator controller)).write .sync
  | .other => some (sim.write .sync)

/-- The run of a sequence of frames; `none` is a fault in one of them. -/
def run (frames : List Frame) (sim : Sim) : Option Sim := frames.foldlM step sim

end Sim

end Openobsw.HostSim
