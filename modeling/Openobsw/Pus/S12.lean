import Openobsw.Lib.Binary32
import Openobsw.Lib.Tables
import Openobsw.Pus.S20
import Openobsw.Pus.S5

/-!
Owns on-board monitoring (`s12.c`): the definition table, its five TC handlers
and the periodic check. A ghost trace records, in the order they happen, the
values the check sees, the reports it makes, and what resets the latches.
-/

namespace Openobsw.Pus.S12

open Openobsw.Lib Openobsw.Lib.Tables Openobsw.Pus.S1 Openobsw.Pus.Handler Openobsw.Util

/-- Which of the two limits of a definition. -/
inductive Limit where
  | low
  | high
deriving DecidableEq, Repr

/-- `obsw_s12_def_t`; the limits are bit patterns of single precision values. -/
structure Def where
  paramId : UInt16
  low : UInt32
  high : UInt32
  eventLow : UInt16
  eventHigh : UInt16
  severity : S5.Severity
  inLow : Bool
  inHigh : Bool
deriving DecidableEq, Repr

/-- An entry of the ghost trace. -/
inductive Event where
  /-- A definition was added or replaced. -/
  | installed (paramId : UInt16)
  /-- Every latch was cleared. -/
  | cleared
  /-- An enabled check saw a value. -/
  | seen (paramId : UInt16) (value : UInt32)
  /-- A check made a report for a limit. -/
  | raised (paramId : UInt16) (limit : Limit) (call : S5.Call)
deriving DecidableEq, Repr

/-- `obsw_s12_ctx_t`; `defs` is the table `defs[0..count)`, and the parameters
are the first `paramCount` of the S20 table. -/
structure Ctx where
  paramCount : UInt8
  defs : List Def
  capacity : UInt8
  enabled : Bool
  /-- Ghost: what happened so far, oldest first. -/
  trace : List Event
deriving DecidableEq, Repr

/-- `obsw_s12_init` with the storage and the parameters it is given. -/
def init (paramCount capacity : UInt8) : Ctx where
  paramCount := paramCount
  defs := []
  capacity := capacity
  enabled := true
  trace := []

/-- `obsw_s20_as_float` -/
def asFloat (p : S20.Param) : UInt32 :=
  match p.type with
  | .f32 => p.value
  | .i32 => Binary32.ofInt32 p.value
  | .u32 => Binary32.ofUInt32 p.value

/-- `find_def` -/
def findDef (defs : List Def) (paramId : UInt16) : Option Nat :=
  findKey Def.paramId defs paramId

/-- The parameter lookup through the context's table and count. -/
def findParam (s : Ctx) (table : List S20.Param) (paramId : UInt16) : Option Nat :=
  S20.find (table.take s.paramCount.toNat) paramId

/-- Note an event in the ghost trace. -/
def Ctx.noted (s : Ctx) (event : Event) : Ctx := { s with trace := s.trace ++ [event] }

variable {cfg : Config}

/-! ### TC handlers -/

def Def.unlatched (d : Def) : Def := { d with inLow := false, inHigh := false }

/-- `obsw_s12_enable` -/
def enable (tc : Tc) (s : Ctx) (link : Link cfg) : Option (Int × Ctx × Link cfg) :=
  execute tc (fun s => some { s.noted .cleared with
    defs := s.defs.map Def.unlatched
    enabled := true }) s link

/-- `obsw_s12_disable` -/
def disable (tc : Tc) (s : Ctx) (link : Link cfg) : Option (Int × Ctx × Link cfg) :=
  execute tc (fun s => some { s with enabled := false }) s link

/-- The limits are comparable and the wrong way round. -/
def crossed (low high : UInt32) : Bool :=
  !Binary32.isNan low && !Binary32.isNan high && Binary32.lt high low

/-- The state change of an accepted TC(12,3). -/
def install (u : List UInt8) (found : Option Nat) (paramId : UInt16) (low high : UInt32)
    (severity : UInt8) (s : Ctx) : Option Ctx := do
  let eventLow ← obswBe16 u 10
  let eventHigh ← obswBe16 u 12
  let severity ← S5.Severity.ofUInt8? severity
  let d : Def := {
    paramId := paramId
    low := low
    high := high
    eventLow := eventLow
    eventHigh := eventHigh
    severity := severity
    inLow := false
    inHigh := false }
  match found with
  | some index => return { s.noted (.installed paramId) with defs := s.defs.set index d }
  | none => do
      let defs ← pushWithin s.capacity.toNat s.defs d
      return { s.noted (.installed paramId) with defs := defs }

/-- `obsw_s12_add` -/
def add (table : List S20.Param) (tc : Tc) (s : Ctx) (link : Link cfg) :
    Option (Int × Ctx × Link cfg) :=
  requireUserData 15 tc s link fun u => do
    let paramId ← obswBe16 u 0
    let low ← obswBe32 u 2
    let high ← obswBe32 u 6
    let severity ← u[14]?
    if findParam s table paramId = none ∨ severity < 1 ∨ severity > 4 ∨ crossed low high = true then
      reject tc failIllegalAppData s link
    else
      let found := findDef s.defs paramId
      if found = none ∧ s.defs.length ≥ s.capacity.toNat then reject tc failExecError s link
      else execute tc (install u found paramId low high severity) s link

/-- `s->count--; *d = s->defs[s->count]` -/
def removeDef (index : Nat) (s : Ctx) : Option Ctx := do
  let defs ← swapRemove s.defs index
  return { s with defs := defs }

/-- `obsw_s12_delete` -/
def delete (tc : Tc) (s : Ctx) (link : Link cfg) : Option (Int × Ctx × Link cfg) :=
  deleteByKey (fun s paramId => findDef s.defs paramId) (fun _ index => removeDef index) tc s link

/-- `obsw_s12_delete_all` -/
def deleteAll (tc : Tc) (s : Ctx) (link : Link cfg) : Option (Int × Ctx × Link cfg) :=
  execute tc (fun s => some { s with defs := [] }) s link

/-! ### Periodic check -/

/-- The comparison with a limit; a NaN on either side compares false. -/
def Def.beyond (d : Def) : Limit → UInt32 → Bool
  | .low, value => Binary32.lt value d.low
  | .high, value => Binary32.lt d.high value

/-- The latch of a limit. -/
def Def.latch (d : Def) : Limit → Bool
  | .low => d.inLow
  | .high => d.inHigh

def Def.setLatch (d : Def) (flag : Bool) : Limit → Def
  | .low => { d with inLow := flag }
  | .high => { d with inHigh := flag }

/-- The report a definition makes for a limit: `report` with the value as data. -/
def Def.call (d : Def) (limit : Limit) (value : UInt32) : S5.Call where
  severity := d.severity
  eventId := match limit with
    | .low => d.eventLow
    | .high => d.eventHigh
  aux := { data := putBe32 value, bounded := by simp }

variable {η : Type}

/-- One of the two limit tests of the check loop. -/
def checkLimit (onEvent : Option (UInt16 → η → η)) (limit : Limit) (index : Nat) (value : UInt32)
    (s : Ctx) (env : S5.Env cfg η) : Option (Ctx × S5.Env cfg η) := do
  let d ← s.defs[index]?
  if d.beyond limit value then
    if d.latch limit = false then do
      let s := { s with defs := s.defs.set index (d.setLatch true limit) }
      let call := d.call limit value
      let (_, env) ← S5.report onEvent call.severity call.eventId call.aux env
      return (s.noted (.raised d.paramId limit call), env)
    else return (s, env)
  else return ({ s with defs := s.defs.set index (d.setLatch false limit) }, env)

/-- The body of the check loop on the definition at `index`. -/
def checkDef (onEvent : Option (UInt16 → η → η)) (table : List S20.Param) (index : Nat) (s : Ctx)
    (env : S5.Env cfg η) : Option (Ctx × S5.Env cfg η) := do
  let d ← s.defs[index]?
  match findParam s table d.paramId with
  | none => return (s, env)
  | some position => do
      let p ← table[position]?
      let value := asFloat p
      let (s, env) ← checkLimit onEvent .low index value (s.noted (.seen d.paramId value)) env
      checkLimit onEvent .high index value s env

/-- The check loop from position `index` on, for `turns` more definitions. -/
def checkFrom (onEvent : Option (UInt16 → η → η)) (table : List S20.Param) :
    Nat → Nat → Ctx → S5.Env cfg η → Option (Ctx × S5.Env cfg η)
  | 0, _, s, env => some (s, env)
  | turns + 1, index, s, env => do
      let (s, env) ← checkDef onEvent table index s env
      checkFrom onEvent table turns (index + 1) s env

/-- `obsw_s12_check` -/
def check (onEvent : Option (UInt16 → η → η)) (table : List S20.Param) (s : Ctx)
    (env : S5.Env cfg η) : Option (Ctx × S5.Env cfg η) :=
  if s.enabled = false then some (s, env)
  else checkFrom onEvent table s.defs.length 0 s env

end Openobsw.Pus.S12
