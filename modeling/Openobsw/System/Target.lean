import Openobsw.Srdb.Mission
import Openobsw.System.Telemetry
import Openobsw.Task.Mode

/-!
Owns the FreeRTOS build for the STM32H7 (`task/*.c`): its boot configuration, and the
turns that its tasks take. The services hang on one board; besides the S5 context of
S12 there, the Mode Manager and the FDIR task have one each.
-/

namespace Openobsw.Target

open Openobsw.Fdir Openobsw.Lib Openobsw.Pus Openobsw.Srdb Openobsw.System Openobsw.Task

/-! ### Boot configuration -/

/-- The configuration that the headers define. -/
abbrev cfg : Config := Config.default

/-- The variables that the housekeeping sets point to, and the request flags of the
Mode Manager. -/
inductive Var where
  | safeModeCount
  | kickCountHk
  | wdgTicksRem
  | magX
  | magY
  | magZ
  | mCmdX
  | mCmdY
  | mCmdZ
  | magValid
  | reqSafe
  | reqNominal
  | reqStandby
deriving DecidableEq, Repr

/-- A set of `s_hk_sets` with its entry of `s_*_sizes`. The widths of its parameters are
bound by `obsw_s3_bind_sizes`; until then they are not read. -/
structure StaticSet where
  setId : UInt8
  vars : List Var
  sizes : List UInt8
  interval : UInt32

def StaticSet.unbound (static : StaticSet) : S3.HkSet where
  setId := static.setId
  params := .boot (static.vars.map (fun var => { ptr := .app var.ctorIdx, size := .u8 }))
  paramCount := UInt8.ofNat static.vars.length
  intervalTicks := static.interval
  countdown := static.interval
  enabled := false

/-- The set after `obsw_s3_bind_sizes`; one that does not bind reports nothing. -/
def StaticSet.bound (static : StaticSet) : S3.HkSet :=
  match S3.bindSizes static.unbound static.sizes static.unbound.paramCount with
  | some (true, set) => set
  | some (false, set) => { set with paramCount := 0 }
  | none => static.unbound

def staticSets : List StaticSet := [
  { setId := 2
    vars := [.safeModeCount, .kickCountHk, .wdgTicksRem]
    sizes := [2, 4, 4]
    interval := 60 },
  { setId := 7
    vars := [.magX, .magY, .magZ, .mCmdX, .mCmdY, .mCmdZ, .magValid]
    sizes := [4, 4, 4, 4, 4, 4, 1]
    interval := 10 }]

/-- `s20_params` -/
def s20Params : List S20.Param :=
  [(0x0004, 0), (0x0005, 0), (0x0006, 0)].map (fun entry => ⟨entry.1, entry.2, .u32⟩) ++
  [(0x20A0, 0x461C4000), (0x20A3, 0x41700000), (0x20A1, 0x3F000000), (0x20A2, 0x3DCCCCCD)].map
    (fun entry => ⟨entry.1, entry.2, .f32⟩)

def s6FlashAddr : Nat := 0x08000000

/-- `s6_regions`: the patch RAM and, to read only, the internal flash. -/
def s6Regions : List S6.Region := [
  { start := 0
    size := 4096
    base := 0
    access := S6.accessRead ||| S6.accessWrite },
  { start := 0x08000000
    size := 131072
    base := s6FlashAddr
    access := S6.accessRead }]

/-- The board after the init functions; `flash` is the flashed image. -/
def bootBoard (flash : Nat → UInt8) : Board cfg where
  s3 := {
    apid := Mission.apidDefault
    msgCounter := 0
    timestamp := 0
    sets := staticSets.map StaticSet.bound
    setCapacity := 6
    paramPool := some []
    paramPoolLen := 32
    paramTableLen := 7 }
  s5 := {
    apid := Mission.apidDefault
    msgCounter := 0
    timestamp := 0
    fsm := false
    safeTriggerIds := []
    calls := [] }
  s6 := {
    apid := Mission.apidDefault
    msgCounter := 0
    timestamp := 0
    regions := some s6Regions
    memory := fun address =>
      if address < s6FlashAddr then 0 else flash (address - s6FlashAddr) }
  obt := ⟨0, 0, 0⟩
  s11 := S11.init 4
  s12 := S12.init 7 8
  s17 := {
    apid := Mission.apidDefault
    msgCounter := 0
    timestamp := 0 }
  s19 := S19.init cfg 4
  s20 := {
    apid := Mission.apidDefault
    msgCounter := 0
    timestamp := 0
    table := s20Params }
  fsm := ModeTask.init.fsm
  appVars := fun name => if name = Var.wdgTicksRem.ctorIdx then 4 else 0
  eventAction := true

/-- `fn_recover_nominal` -/
def fnRecoverNominal : Function cfg where
  functionId := 1
  body _ _ _ := (0, [.setVariable Var.reqNominal.ctorIdx 1])

/-- `fn_request_safe` -/
def fnRequestSafe : Function cfg where
  functionId := 2
  body _ _ _ := (0, [.setVariable Var.reqSafe.ctorIdx 1, .setVariable Var.reqNominal.ctorIdx 0])

/-- `fn_request_standby` -/
def fnRequestStandby : Function cfg where
  functionId := 3
  body _ _ _ := (0, [.setVariable Var.reqStandby.ctorIdx 1, .setVariable Var.reqNominal.ctorIdx 0])

/-- `s_routes`; every one is for all APIDs. -/
def routes : List RouteEntry :=
  [(3, 5, .s3 .enable), (3, 6, .s3 .disable), (3, 1, .s3 .define), (3, 3, .s3 .delete), (8, 1, .s8),
    (17, 1, .s17), (20, 1, .s20 .set), (20, 3, .s20 .get), (9, 128, .s9), (12, 1, .s12 .enable),
    (12, 2, .s12 .disable), (12, 3, .s12 .add), (12, 4, .s12 .delete), (12, 5, .s12 .deleteAll),
    (11, 4, .s11 .insert), (11, 5, .s11 .delete), (11, 6, .s11 .deleteAll), (11, 17, .s11 .enable),
    (11, 18, .s11 .disable), (19, 1, .s19 .add), (19, 2, .s19 .delete), (19, 3, .s19 .deleteAll),
    (19, 4, .s19 .enable), (19, 5, .s19 .disable), (6, 2, .s6 .load), (6, 5, .s6 .check),
    (6, 9, .s6 .dump)].map (fun entry => ⟨0xFFFF, entry.1, entry.2.1, entry.2.2⟩)

def wiring : Wiring cfg where
  routes := routes
  gated := true
  functions := [fnRecoverNominal, fnRequestSafe, fnRequestStandby]
  reportsFit := default_reportsFit

/-! ### State -/

/-- The board with the S1 link, and the statics and loop locals of the two other tasks
that report events. The mode machine of the Mode Manager is the board's. -/
structure State where
  obsw : Obsw cfg
  modeS5 : S5.Ctx
  standbyTicks : UInt32
  last : Mode
  fdirS5 : S5.Ctx
  bootSent : Bool
  kickCount : UInt32
  lastMode : Mode

/-- `s_s5` of `fdir.c` after `obsw_fdir_task_init` -/
def bootFdirS5 : S5.Ctx where
  apid := Mission.apidDefault
  msgCounter := 0
  timestamp := 0
  fsm := true
  safeTriggerIds := [Mission.eventTemperatureHardLimit, Mission.eventPowerFault3v3,
    Mission.eventPowerFault5v]
  calls := []

/-- The state in which the scheduler starts the tasks. -/
def boot (flash : Nat → UInt8) : State where
  obsw := {
    board := bootBoard flash
    link := {
      ctx := {
        apid := Mission.apidDefault
        msgCounter := 0
        timestamp := 0 }
      tm := {
        store := Tm.Store.init cfg
        log := [] } }
    fed := []
    invoked := [] }
  modeS5 := ModeTask.init.s5
  standbyTicks := ModeTask.init.standbyTicks
  last := ModeTask.init.last
  fdirS5 := bootFdirS5
  bootSent := false
  kickCount := 0
  lastMode := ModeTask.init.fsm.mode

namespace State

def core : Component State (Board cfg) where
  get state := state.obsw.board
  set board state := { state with obsw := { state.obsw with board := board } }
  get_set _ _ := rfl
  set_get _ := rfl

def var (state : State) (name : Var) : UInt32 := state.obsw.board.appVars name.ctorIdx

/-- Writes to variables, in order. -/
def assign (values : List (Var × UInt32)) (state : State) : State :=
  let vars := values.foldl
    (fun vars entry => Function.update vars entry.1.ctorIdx entry.2) state.obsw.board.appVars
  core.set { state.obsw.board with appVars := vars } state

/-! ### The Mode Manager -/

def requests (state : State) : Requests where
  safe := state.var .reqSafe ≠ 0
  nominal := state.var .reqNominal ≠ 0
  standby := state.var .reqStandby ≠ 0

/-- The Mode Manager task as it finds its data. -/
def modeTask (state : State) : ModeTask where
  fsm := state.obsw.board.fsm
  s5 := state.modeS5
  requests := state.requests
  standbyTicks := state.standbyTicks
  last := state.last

/-- The Mode Manager task and the TM store put back. -/
def afterMode (task : ModeTask) (tm : Port cfg) (state : State) : State :=
  let flags := [(Var.reqSafe, task.requests.safe), (Var.reqNominal, task.requests.nominal),
    (Var.reqStandby, task.requests.standby)].map (fun flag => (flag.1, flag.2.toUInt32))
  let state := state.assign flags
  { state with
    obsw := { state.obsw with
      board := { state.obsw.board with fsm := task.fsm }
      link := { state.obsw.link with tm := tm } }
    modeS5 := task.s5
    standbyTicks := task.standbyTicks
    last := task.last }

/-- A turn of the loop of `mode_task`. -/
def modeTurn (state : State) : Option State := do
  let (task, tm) ← state.modeTask.tick state.obsw.link.tm
  return state.afterMode task tm

/-! ### The FDIR task -/

/-- `obsw_pus_obt_advance` -/
def advance (dtMs : UInt32) (state : State) : State :=
  core.set { state.obsw.board with obt := state.obsw.board.obt.advance dtMs } state

/-- `obsw_pus_s12_check` -/
def check (state : State) : Option State := do
  let obsw ← monitoringCheck state.obsw
  return { state with obsw := obsw }

/-- The kick counter and its copy for housekeeping. -/
def kick (state : State) : State :=
  let state := { state with kickCount := state.kickCount + 1 }
  state.assign [(.kickCountHk, state.kickCount)]

/-- What the boot event touches: the FDIR task's own S5 context, without an event hook. -/
def fdirEnv (state : State) : S5.Env cfg Unit where
  ctx := state.fdirS5
  tm := state.obsw.link.tm
  fsm := state.obsw.board.fsm
  hook := ()

def afterFdir (env : S5.Env cfg Unit) (state : State) : State :=
  { state with
    obsw := { state.obsw with
      board := { state.obsw.board with fsm := env.fsm }
      link := { state.obsw.link with tm := env.tm } }
    fdirS5 := env.ctx }

/-- The boot event, once. -/
def bootReport (state : State) : Option State := do
  if state.bootSent then return state
  else do
    let (_, env) ← S5.report none .info Mission.eventBootComplete ⟨[], Nat.zero_le 255⟩
      state.fdirEnv
    return { state.afterFdir env with bootSent := true }

/-- The SAFE entries that the task has seen, for housekeeping. -/
def countEntries (state : State) : State :=
  let mode := state.obsw.board.fsm.mode
  let seen :=
    if mode = .safe ∧ state.lastMode ≠ .safe then
      state.assign [(.safeModeCount, ((state.var .safeModeCount).toUInt16 + 1).toUInt32)]
    else state
  { seen with lastMode := mode }

/-- `obsw_s3_tick` -/
def housekeep (state : State) : Option State := do
  let obsw ← hkTick state.obsw
  return { state with obsw := obsw }

/-- A full tick of `fdir_task`. -/
def fdirTurn (state : State) : Option State := do
  let state ← (state.advance 1000).check
  let state ← state.kick.bootReport
  state.countEntries.housekeep

end State

/-! ### Turns -/

/-- What a turn of the AOCS task reads, and the command that `obsw_bdot_step` computes. -/
structure Reading where
  magX : UInt32
  magY : UInt32
  magZ : UInt32
  magValid : Bool
  mCmdX : UInt32
  mCmdY : UInt32
  mCmdZ : UInt32
deriving DecidableEq, Repr

/-- What a turn of `aocs_task` leaves in its housekeeping variables. -/
def State.aocsTurn (reading : Reading) (state : State) : State :=
  let mode := state.obsw.board.fsm.mode
  if mode = .standby then state
  else
    let state := state.assign [(.magX, reading.magX), (.magY, reading.magY), (.magZ, reading.magZ),
      (.magValid, reading.magValid.toUInt32)]
    if mode = .safe ∧ reading.magValid then
      state.assign [(.mCmdX, reading.mCmdX), (.mCmdY, reading.mCmdY), (.mCmdZ, reading.mCmdZ)]
    else state

/-- The steps of the tasks: the three parts of a turn of the PUS task, a turn of the Mode
Manager, of the FDIR and of the AOCS task, and one packet that the TMTC task takes from
the TM store. -/
inductive Turn where
  | dispatch (frame : List UInt8)
  | scheduleRun
  | actionRun
  | mode
  | fdir
  | aocs (reading : Reading)
  | downlink
deriving DecidableEq, Repr

def State.step (state : State) : Turn → Option State
  | .dispatch frame => do
      let (_, obsw) ← feed wiring .uplink frame state.obsw
      return { state with obsw := obsw }
  | .scheduleRun => do
      let (_, obsw) ← System.scheduleRun wiring state.obsw.board.obt state.obsw
      return { state with obsw := obsw }
  | .actionRun => do
      let (_, obsw) ← System.actionRun wiring state.obsw
      return { state with obsw := obsw }
  | .mode => state.modeTurn
  | .fdir => state.fdirTurn
  | .aocs reading => some (state.aocsTurn reading)
  | .downlink => some { state with obsw := drain cfg.tmMaxPacketLen state.obsw }

/-- The run of a sequence of turns, in whatever order the scheduler takes them; `none` is
a fault in one of them. -/
def State.run (turns : List Turn) (state : State) : Option State := turns.foldlM step state

/-! ### The boot state -/

theorem staticSets_bind : ∀ static ∈ staticSets,
    S3.bindSizes static.unbound static.sizes static.unbound.paramCount =
      some (true, static.bound) := by
  decide

theorem limits : Limits cfg where
  atLeast := by decide
  atMost := by decide

theorem quiet_functions : ∀ function ∈ wiring.functions, function.Quiet := by
  intro function listed
  rcases List.mem_cons.mp listed with recover | others
  · rw [recover]
    exact Function.quiet_of_calls _ (fun _ _ _ => rfl) (by decide)
  · rcases List.mem_cons.mp others with safe | last
    · rw [safe]
      exact Function.quiet_of_calls _ (fun _ _ _ => rfl) (by decide)
    · rw [List.mem_singleton.mp last]
      exact Function.quiet_of_calls _ (fun _ _ _ => rfl) (by decide)

theorem ready : wiring.Ready where
  limits := limits
  quiet := quiet_functions
  distinct := by decide

theorem staticSets_fit : ∀ set ∈ staticSets.map StaticSet.bound,
    set.arrayFits s20Params.length = true ∧ set.bootStructure.Compact cfg := by
  unfold S3.Structure.Compact
  decide

theorem boot_sets (flash : Nat → UInt8) :
    S3.Boot (bootBoard flash).s20.table (bootBoard flash).s3 where
  arrays set member := S3.HkSet.array_of_fits (staticSets_fit set member).1
  idsDistinct := show ((staticSets.map StaticSet.bound).map _).Nodup by decide
  fits := show (staticSets.map StaticSet.bound).length ≤ 6 by decide
  unused := rfl

theorem boot_booted (flash : Nat → UInt8) : Booted (boot flash).obsw where
  sets := boot_sets flash
  schedule := ⟨4, rfl⟩
  monitoring := ⟨7, 8, rfl⟩
  eventAction := ⟨4, rfl⟩
  nothingFed := rfl
  nothingInvoked := rfl

theorem boot_steady (flash : Nat → UInt8) : Steady (boot flash).obsw.board :=
  (boot_booted flash).steady (fun set member => (staticSets_fit set member).2)

end Openobsw.Target
