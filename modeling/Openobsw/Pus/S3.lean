import Openobsw.Lib.Tables
import Openobsw.Pus.S20

/-!
Owns housekeeping (`s3.c`): the set table, the parameter pool that TC(3,1)
allocates from, the four TC handlers, the tick and the on-demand report.
-/

namespace Openobsw.Pus.S3

open Openobsw.Lib.Tables Openobsw.Pus.S1 Openobsw.Pus.Handler Openobsw.Util

/-- `obsw_s3_param_size_t` -/
inductive ParamSize where
  | u8
  | u16
  | u32
deriving DecidableEq, Repr

/-- The value of the enumerator. -/
def ParamSize.bytes : ParamSize → Nat
  | .u8 => 1
  | .u16 => 2
  | .u32 => 4

/-- What a parameter points to: the value of an entry of the S20 table, or a
variable of the application. -/
inductive VarPtr where
  | s20 (index : Nat)
  | app (name : Nat)
deriving DecidableEq, Repr

/-- `obsw_s3_param_t` -/
structure Param where
  ptr : VarPtr
  size : ParamSize
deriving DecidableEq, Repr

/-- `set->params`: an offset into the pool, or a boot-time array with its contents. -/
inductive ParamsPtr where
  | pool (offset : Nat)
  | boot (params : List Param)
deriving DecidableEq, Repr

/-- `obsw_s3_set_t` -/
structure HkSet where
  setId : UInt8
  params : ParamsPtr
  paramCount : UInt8
  intervalTicks : UInt32
  countdown : UInt32
  enabled : Bool
deriving DecidableEq, Repr

/-- `obsw_s3_ctx_t`; `sets` is `sets[0..set_count)` and `paramPool` is
`param_pool[0..param_pool_used)`, absent when the pointer is null. The entries
TC(3,1) may refer to are the first `paramTableLen` of the S20 table. -/
structure Ctx where
  apid : UInt16
  msgCounter : UInt16
  timestamp : UInt32
  sets : List HkSet
  setCapacity : UInt8
  paramPool : Option (List Param)
  paramPoolLen : UInt16
  paramTableLen : UInt8
deriving DecidableEq, Repr

/-- `param_pool_used` -/
def Ctx.paramPoolUsed (s : Ctx) : Nat := (s.paramPool.getD []).length

/-- The variables that parameters point to. -/
structure Variables where
  table : List S20.Param
  app : Nat → UInt32

/-- `find_set` -/
def findSet (sets : List HkSet) (setId : UInt8) : Option Nat :=
  findKey HkSet.setId sets setId

/-- `find_param` -/
def findParam (s : Ctx) (table : List S20.Param) (id : UInt16) : Option Nat :=
  S20.find (table.take s.paramTableLen.toNat) id

/-! ### Reports -/

/-- The value behind a parameter pointer. -/
def Variables.read (vars : Variables) : VarPtr → Option UInt32
  | .s20 index => vars.table[index]?.map (fun param => param.value)
  | .app name => some (vars.app name)

/-- `put_be` -/
def putBe (value : UInt32) : ParamSize → List UInt8
  | .u8 => [value.toUInt8]
  | .u16 => putBe16 value.toUInt16
  | .u32 => putBe32 value

/-- The parameters `set->params[0..param_count)`. -/
def setParams (s : Ctx) (set : HkSet) : Option (List Param) :=
  let count := set.paramCount.toNat
  match set.params with
  | .boot params => if count ≤ params.length then some (params.take count) else none
  | .pool offset => do
      let pool ← s.paramPool
      if offset + count ≤ pool.length then some ((pool.drop offset).take count) else none

/-- The loop of `serialise_set` over the parameters left, with the bytes written
so far; nothing when the buffer is too short. -/
def serialiseParams (vars : Variables) (bufLen : Nat) :
    List Param → List UInt8 → Option (Option (List UInt8))
  | [], written => some (some written)
  | p :: rest, written =>
      if written.length + p.size.bytes > bufLen then some none
      else do
        let value ← vars.read p.ptr
        serialiseParams vars bufLen rest (written ++ putBe value p.size)

/-- `serialise_set` -/
def serialiseSet (s : Ctx) (vars : Variables) (set : HkSet) (bufLen : Nat) :
    Option (Option (List UInt8)) := do
  let params ← setParams s set
  serialiseParams vars bufLen params []

/-- `(uint16_t)(sizeof(buf) - 1U)` -/
def reportBufLen (cfg : Config) : Nat := (cfg.tmMaxPacketLen - 1) % 65536

variable {cfg : Config}

/-- The build request of a TM(3,25) report. -/
def request (s : Ctx) (set : HkSet) (bytes : List UInt8) : TmRequest where
  apid := s.apid
  seqCount := s.msgCounter
  svc := 3
  subsvc := 25
  msgCounter := s.msgCounter
  destId := 0
  timestamp := s.timestamp
  data := set.setId :: bytes

/-- `emit_hk_report`. Every parameter is at least one byte, so the length zero of
an overflow is told apart from that of an empty set by `param_count`. -/
def emitHkReport (vars : Variables) (set : HkSet) (s : Ctx) (tm : Port cfg) :
    Option (TmRc × Ctx × Port cfg) := do
  match ← serialiseSet s vars set (reportBufLen cfg) with
  | none => return (.errTooLarge, s, tm)
  | some bytes => do
      let (rc, tm) ← pusTmBuild (request s set bytes) tm
      return (rc, { s with msgCounter := s.msgCounter + 1 }, tm)

/-! ### Widths of boot-time sets -/

/-- `(obsw_s3_param_size_t)size`, for the values that `obsw_s3_bind_sizes` lets through. -/
def ParamSize.ofByte (size : UInt8) : Option ParamSize :=
  if size = 1 then some .u8 else if size = 2 then some .u16 else if size = 4 then some .u32 else none

/-- `obsw_s3_bind_sizes` on a boot-time set. Both arrays hold at least `count` entries;
a shorter one is outside. -/
def bindSizes (set : HkSet) (sizes : List UInt8) (count : UInt8) : Option (Bool × HkSet) :=
  match set.params with
  | .pool _ => none
  | .boot params =>
      if set.paramCount ≠ count then some (false, set)
      else if sizes.length < count.toNat ∨ params.length < count.toNat then none
      else match (sizes.take count.toNat).mapM ParamSize.ofByte with
        | none => some (false, set)
        | some bound =>
            let written := List.zipWith (fun p size => { p with size }) params bound
            some (true, { set with params := .boot (written ++ params.drop count.toNat) })

/-- `S3_MAX_REPORT_DATA`, a 32-bit unsigned difference. -/
def maxReportData (cfg : Config) : Nat := (cfg.tmMaxPacketLen + 2 ^ 32 - 17) % 2 ^ 32

/-! ### TC handlers -/

/-- The `n` parameter IDs that follow the header of a TC(3,1). -/
def paramIds (u : List UInt8) (n : Nat) : Option (List UInt16) :=
  (List.range n).mapM (fun i => obswBe16 u (6 + 2 * i))

/-- The pool entry TC(3,1) makes for a parameter ID. -/
def poolParam (s : Ctx) (table : List S20.Param) (id : UInt16) : Option Param :=
  (findParam s table id).map (fun index => { ptr := .s20 index, size := .u32 })

/-- The state change of an accepted TC(3,1). -/
def create (table : List S20.Param) (setId : UInt8) (interval : UInt32) (n : UInt8)
    (ids : List UInt16) (s : Ctx) : Option Ctx := do
  let pool ← s.paramPool
  let params ← ids.mapM (poolParam s table)
  let extended ← appendWithin s.paramPoolLen.toNat pool params
  let set : HkSet := {
    setId := setId
    params := .pool pool.length
    paramCount := n
    intervalTicks := interval
    countdown := interval
    enabled := false }
  let sets ← pushWithin s.setCapacity.toNat s.sets set
  return { s with sets := sets, paramPool := some extended }

/-- `obsw_s3_define` -/
def define (table : List S20.Param) (tc : Tc) (s : Ctx) (link : Link cfg) :
    Option (Int × Ctx × Link cfg) :=
  requireUserData 6 tc s link fun u => do
    let setId ← u[0]?
    let interval ← obswBe32 u 1
    let n ← u[5]?
    if n = 0 ∨ tc.userDataLen ≠ 6 + 2 * n.toNat ∨ (findSet s.sets setId).isSome ∨
        1 + 4 * n.toNat > maxReportData cfg then
      reject tc failIllegalAppData s link
    else do
      let ids ← paramIds u n.toNat
      if ids.any (fun id => (findParam s table id).isNone) then reject tc failIllegalAppData s link
      else if s.paramPool = none ∨ s.sets.length ≥ s.setCapacity.toNat ∨
          s.paramPoolLen.toNat - s.paramPoolUsed < n.toNat then
        reject tc failExecError s link
      else execute tc (create table setId interval n ids) s link

/-- `pool_offset`: the offset of a set whose parameters start inside the used pool. -/
def poolOffset (s : Ctx) (set : HkSet) : Option Nat :=
  match set.params with
  | .pool offset => if offset < s.paramPoolUsed then some offset else none
  | .boot _ => none

/-- A later TC(3,1) set is shifted down by the `n` entries that are freed. -/
def shiftDown (s : Ctx) (stop n : Nat) (set : HkSet) : HkSet :=
  match poolOffset s set with
  | some offset => if offset ≥ stop then { set with params := .pool (offset - n) } else set
  | none => set

/-- `remove_defined` on the set at `index`. The callers have checked that it is a
TC(3,1) set; a slice past the used part of the pool is outside it. -/
def removeDefined (index : Nat) (s : Ctx) : Option Ctx := do
  let set ← s.sets[index]?
  let pool ← s.paramPool
  let offset ← poolOffset s set
  let n := set.paramCount.toNat
  if offset + n > pool.length then none
  else
    let shifted := s.sets.mapIdx (fun i other =>
      if i = index then other else shiftDown s (offset + n) n other)
    return { s with
      sets := closeGap shifted index 1
      paramPool := some (closeGap pool offset n) }

/-- The test TC(3,3) makes on each set ID it lists. -/
def removable (s : Ctx) (setId : UInt8) : Bool :=
  match (findSet s.sets setId).bind (fun index => s.sets[index]?) with
  | some set => !set.enabled && (poolOffset s set).isSome
  | none => false

/-- The removal loop of TC(3,3). -/
def removeAll : List UInt8 → Ctx → Option Ctx
  | [], s => some s
  | setId :: rest, s => do
      let index ← findSet s.sets setId
      let s ← removeDefined index s
      removeAll rest s

/-- The checks of `obsw_s3_delete`: the set IDs to remove, or nothing when they fail. -/
def deletedIds (tc : Tc) (s : Ctx) : Option (Option (List UInt8)) :=
  match tc.userData with
  | none => some none
  | some u =>
      if u.length < 1 then some none
      else do
        let n ← u[0]?
        if n = 0 ∨ s.paramPool = none ∨ u.length ≠ 1 + n.toNat then return none
        else do
          let ids ← (List.range n.toNat).mapM (fun i => u[1 + i]?)
          if ids.all (removable s) ∧ ids.Nodup then return some ids else return none

/-- `obsw_s3_delete` -/
def delete (tc : Tc) (s : Ctx) (link : Link cfg) : Option (Int × Ctx × Link cfg) := do
  match ← deletedIds tc s with
  | none => reject tc failIllegalAppData s link
  | some ids => execute tc (removeAll ids) s link

/-- `s->sets[index]` is changed in place. -/
def modifySet (index : Nat) (change : HkSet → HkSet) (s : Ctx) : Ctx :=
  { s with sets := s.sets.modify index change }

def HkSet.started (set : HkSet) (interval : UInt32) : HkSet :=
  { set with intervalTicks := interval, countdown := interval, enabled := true }

def HkSet.stopped (set : HkSet) : HkSet := { set with enabled := false }

/-- `obsw_s3_enable` -/
def enable (tc : Tc) (s : Ctx) (link : Link cfg) : Option (Int × Ctx × Link cfg) :=
  requireUserData 5 tc s link fun u => do
    let setId ← u[0]?
    let interval ← obswBe32 u 1
    match findSet s.sets setId with
    | none => reject tc failExecError s link
    | some index =>
        execute tc (fun s => some (modifySet index (fun set => set.started interval) s)) s link

/-- `obsw_s3_disable` -/
def disable (tc : Tc) (s : Ctx) (link : Link cfg) : Option (Int × Ctx × Link cfg) :=
  requireUserData 1 tc s link fun u => do
    let setId ← u[0]?
    match findSet s.sets setId with
    | none => reject tc failExecError s link
    | some index => execute tc (fun s => some (modifySet index HkSet.stopped s)) s link

/-! ### Tick and on-demand report -/

/-- One turn of the tick loop on a set: whether it reports, and its new countdown. -/
def HkSet.ticked (set : HkSet) : Bool × HkSet :=
  if set.enabled = false ∨ set.intervalTicks = 0 then (false, set)
  else
    let countdown := if set.countdown > 0 then set.countdown - 1 else set.countdown
    if countdown = 0 then (true, { set with countdown := set.intervalTicks })
    else (false, { set with countdown := countdown })

/-- The body of the tick loop on the set at `index`. -/
def tickSet (vars : Variables) (index : Nat) (set : HkSet) (s : Ctx) (tm : Port cfg) :
    Option (Ctx × Port cfg) :=
  let (reports, after) := set.ticked
  if reports then do
    let (_, s, tm) ← emitHkReport vars set s tm
    return (modifySet index (fun _ => after) s, tm)
  else some (modifySet index (fun _ => after) s, tm)

/-- The tick loop from position `index` on, for `turns` more sets. -/
def tickFrom (vars : Variables) : Nat → Nat → Ctx → Port cfg → Option (Ctx × Port cfg)
  | 0, _, s, tm => some (s, tm)
  | turns + 1, index, s, tm => do
      let set ← s.sets[index]?
      let (s, tm) ← tickSet vars index set s tm
      tickFrom vars turns (index + 1) s tm

/-- `obsw_s3_tick` -/
def tick (vars : Variables) (s : Ctx) (tm : Port cfg) : Option (Ctx × Port cfg) :=
  tickFrom vars s.sets.length 0 s tm

/-- `obsw_s3_report`; nothing is returned for an unknown set. -/
def report (vars : Variables) (setId : UInt8) (s : Ctx) (tm : Port cfg) :
    Option (Option TmRc × Ctx × Port cfg) :=
  match findSet s.sets setId with
  | none => some (none, s, tm)
  | some index => do
      let set ← s.sets[index]?
      let (rc, s, tm) ← emitHkReport vars set s tm
      return (some rc, s, tm)

end Openobsw.Pus.S3
