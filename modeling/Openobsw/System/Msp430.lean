import Mathlib.Logic.Function.Basic
import Openobsw.Fdir.Watchdog
import Openobsw.Lib.Machine
import Openobsw.Srdb.Mission
import Openobsw.System.Telemetry

/-!
Owns the build for the MSP430FR5969 under Renode (`targets/msp430-fr5969`): its boot
configuration, and its main loop as it reads the UART byte by byte.
-/

namespace Openobsw.Msp430

open Openobsw.Fdir Openobsw.Lib Openobsw.Pus Openobsw.Srdb Openobsw.System

/-! ### Boot configuration -/

/-- The configuration of the profile, with the defaults of the headers where it sets none. -/
abbrev cfg : Config where
  tmMaxPacketLen := 64
  tmStoreSlots := 4
  s11TcMaxLen := 64
  s19ActionMaxLen := 64
  s19QueueLen := 4
  packetNonempty := by decide
  slotsPowerOfTwo := ⟨1, rfl⟩
  queueCountFits := Config.default.queueCountFits

/-- `OBSW_TC_FRAME_MAX_LEN` of the profile -/
def tcFrameMaxLen : Nat := 128

/-- The variables that the housekeeping set points to. -/
inductive Var where
  | safeEntryCount
  | wdKickCount
  | wdTicksRem
deriving DecidableEq, Repr

/-- `fdir_hk_params`; the widths are bound by `obsw_s3_bind_sizes`. -/
def fdirHkParams : List S3.Param :=
  [.safeEntryCount, .wdKickCount, .wdTicksRem].map
    (fun var : Var => { ptr := .app var.ctorIdx, size := .u8 })

/-- `hk_sets` before its widths are bound -/
def unboundSet : S3.HkSet where
  setId := 2
  params := .boot fdirHkParams
  paramCount := 3
  intervalTicks := 60
  countdown := 60
  enabled := true

/-- `hk_sets` after `obsw_s3_bind_sizes`; a set that does not bind reports nothing. -/
def boundSet : S3.HkSet :=
  match S3.bindSizes unboundSet [2, 4, 4] 3 with
  | some (true, set) => set
  | some (false, set) => { set with paramCount := 0 }
  | none => unboundSet

/-- The FSM configuration; `on_enter_safe` counts. -/
def fsmConfig : FsmConfig where
  onEnterSafe := true
  onExitSafe := false
  safeTcWhitelist := some Mission.safeTcWhitelist
  whitelistLen := Mission.safeTcCount

/-- The board before the boot event. S6, S11, S12, S19, S20 and the on-board time have no
context in this build, and no route leads to them. -/
def initBoard : Board cfg where
  s3 := {
    apid := Mission.apidDefault
    msgCounter := 0
    timestamp := 0
    sets := [boundSet]
    setCapacity := 0
    paramPool := none
    paramPoolLen := 0
    paramTableLen := 0 }
  s5 := {
    apid := Mission.apidDefault
    msgCounter := 0
    timestamp := 0
    fsm := true
    safeTriggerIds := Mission.safeTriggerIds
    calls := [] }
  s6 := {
    apid := 0
    msgCounter := 0
    timestamp := 0
    regions := none
    memory := fun _ => 0 }
  obt := ⟨0, 0, 0⟩
  s11 := S11.init 0
  s12 := S12.init 0 0
  s17 := {
    apid := Mission.apidDefault
    msgCounter := 0
    timestamp := 0 }
  s19 := S19.init cfg 0
  s20 := {
    apid := 0
    msgCounter := 0
    timestamp := 0
    table := [] }
  fsm := Fsm.init fsmConfig
  appVars := fun _ => 0
  eventAction := false

/-- `fn_recover_nominal` -/
def fnRecoverNominal : Function cfg where
  functionId := 1
  body _ _ _ := (0, [.toNominal])

/-- `routes`; every one is for all APIDs. -/
def routes : List RouteEntry :=
  [(17, 1, .s17), (8, 1, .s8), (3, 5, .s3 .enable), (3, 6, .s3 .disable)].map
    (fun entry => ⟨0xFFFF, entry.1, entry.2.1, entry.2.2⟩)

def wiring : Wiring cfg where
  routes := routes
  gated := true
  functions := [fnRecoverNominal]
  reportsFit := by decide

/-- `obsw_wd_init(&watchdog, 100, on_watchdog_expiry, &s5)` -/
def initWatchdog : Watchdog where
  timeoutTicks := 100
  countdown := 100
  kicked := false
  expired := false
  expirations := 0

/-! ### State -/

/-- What the board writes to the UART: a packet behind its length, or the byte that the
sentinel of the emulation adds at the end of a control cycle. -/
inductive Written where
  | packet (pkt : List UInt8)
  | sentinel
deriving DecidableEq, Repr

def Written.bytes : Written → List UInt8
  | .packet pkt => [UInt8.ofNat (pkt.length / 256), UInt8.ofNat pkt.length] ++ pkt
  | .sentinel => [0xFF]

structure State where
  obsw : Obsw cfg
  watchdog : Watchdog
  tick : UInt32
  written : List Written

/-- Before the boot event -/
def init : State where
  obsw := {
    board := initBoard
    link := {
      ctx := {
        apid := Mission.apidDefault
        msgCounter := 0
        timestamp := 0 }
      tm := {
        store := Tm.Store.init cfg
        log := [] } }
    fed := []
    invoked := [] }
  watchdog := initWatchdog
  tick := 0
  written := []

namespace State

/-- A write to a variable -/
def assign (name : Var) (value : UInt32) (state : State) : State :=
  let vars := Function.update state.obsw.board.appVars name.ctorIdx value
  { state with obsw := { state.obsw with board := { state.obsw.board with appVars := vars } } }

def var (name : Var) (state : State) : UInt32 := state.obsw.board.appVars name.ctorIdx

theorem noAux_fits : ([] : List UInt8).length ≤ 255 := Nat.zero_le 255

/-- `obsw_s5_report` on the board's S5 context, without auxiliary data -/
def report (severity : S5.Severity) (eventId : UInt16) (state : State) : Option State := do
  let (_, board, link) ← state.obsw.board.report ⟨severity, eventId, ⟨[], noAux_fits⟩⟩
    state.obsw.link
  return { state with obsw := { state.obsw with board := board, link := link } }

/-! ### The main loop -/

/-- Step 1 of the loop -/
def kick (state : State) : State :=
  { state with watchdog := state.watchdog.kick }.assign .wdKickCount (state.var .wdKickCount + 1)

/-- The drain loop with a bound on its turns; `none` when the bound is reached. -/
def drainLoop : Nat → State → Option State
  | 0, _ => none
  | turns + 1, state =>
      let (rc, pkt, store) := state.obsw.link.tm.store.dequeue cfg.tmMaxPacketLen
      if rc = .ok then
        drainLoop turns { state with
          obsw := { state.obsw with
            link := { state.obsw.link with tm := { state.obsw.link.tm with store := store } } }
          written := state.written ++ [.packet pkt] }
      else some state

/-- Step 2 of the loop, with the frame read -/
def serve (frame : List UInt8) (state : State) : Option State := do
  let (_, obsw) ← feed wiring .uplink frame state.obsw
  drainLoop cfg.tmStoreSlots { state with obsw := obsw }

/-- `obsw_wd_tick`, with `on_watchdog_expiry` -/
def wdTick (state : State) : Option State :=
  let watchdog := state.watchdog.tick
  let ticked := { state with watchdog := watchdog }
  if watchdog.expirations = state.watchdog.expirations then some ticked
  else ticked.report .high Mission.eventWatchdogExpiry

/-- `param_safe_entry_count`, which `on_enter_safe` increments -/
def countEntries (state : State) : State :=
  state.assign .safeEntryCount
    (UInt16.ofNat (state.obsw.board.fsm.hooks.count .enterSafe)).toUInt32

/-- Step 3 of the loop -/
def periodic (state : State) : Option State :=
  let state := { state with tick := state.tick + 1 }
  if state.tick ≥ 1000 then do
    let state := ({ state with tick := 0 }.assign .wdTicksRem state.watchdog.countdown).countEntries
    let obsw ← hkTick state.obsw
    let state ← { state with obsw := obsw }.wdTick
    return { state with written := state.written ++ [.sentinel] }
  else some state

/-- A turn of the loop from one header to the next; `none` is a length without a frame. -/
def turn (frame : Option (List UInt8)) (state : State) : Option State := do
  let state ← match frame with
    | some frame => state.serve frame
    | none => some state
  let state ← state.periodic
  return state.kick

/-- The state in which the loop waits for its first header. -/
def boot : Option State := do
  let state ← init.report .info Mission.eventBootComplete
  return state.kick

/-- Turns in a row -/
def run (frames : List (Option (List UInt8))) (state : State) : Option State :=
  frames.foldlM (fun state frame => state.turn frame) state

end State

/-! ### The program byte by byte -/

/-- The byte that `uart_read_exact` waits for. -/
inductive Reading where
  | hi
  | lo (hi : UInt8)
  | body (length : Nat) (data : List UInt8)
deriving DecidableEq, Repr

/-- The header and the frame, byte by byte; `none` is a length without a frame. -/
def Reading.take : Reading → UInt8 → Reading × List (Option (List UInt8))
  | .hi, byte => (.lo byte, [])
  | .lo first, byte =>
      let length := first.toNat * 256 + byte.toNat
      if 0 < length ∧ length ≤ tcFrameMaxLen then (.body length [], []) else (.hi, [none])
  | .body length data, byte =>
      let data := data ++ [byte]
      if data.length < length then (.body length data, []) else (.hi, [some data])

def reader : Machine Reading UInt8 (Option (List UInt8)) where
  take := Reading.take

/-- What a turn writes; after a fault, nothing more. -/
def turns : Machine (Option State) (Option (List UInt8)) UInt8 where
  take
    | none, _ => (none, [])
    | some state, frame =>
        match state.turn frame with
        | none => (none, [])
        | some after =>
            (some after, (after.written.drop state.written.length).flatMap Written.bytes)

/-- The program as its input arrives. -/
def program : Machine (Reading × Option State) UInt8 UInt8 := reader.cascade turns

end Openobsw.Msp430
