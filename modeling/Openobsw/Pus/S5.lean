import Openobsw.Fdir.Fsm
import Openobsw.Pus.TmBuild

/-!
Owns event reporting (`s5.c`): the TM(5,x) report, the safe-trigger coupling
into the mode machine, and the event hook. `Env` is what one report touches;
the hook is a function of the state its own context pointer leads to.
-/

namespace Openobsw.Pus.S5

open Openobsw.Fdir Openobsw.Util

/-- `obsw_s5_severity_t` -/
inductive Severity where
  | info
  | low
  | medium
  | high
deriving DecidableEq, Repr

/-- The value of the enumerator, which is the TM subservice. -/
def Severity.toUInt8 : Severity → UInt8
  | .info => 1
  | .low => 2
  | .medium => 3
  | .high => 4

/-- `(obsw_s5_severity_t)value` for a value of the enumeration. -/
def Severity.ofUInt8? (value : UInt8) : Option Severity :=
  if value = 1 then some .info
  else if value = 2 then some .low
  else if value = 3 then some .medium
  else if value = 4 then some .high
  else none

/-- The pair `(data, data_len)`: the length argument is 8 bits wide. -/
structure AuxData where
  data : List UInt8
  bounded : data.length ≤ 255
deriving DecidableEq, Repr

/-- One call of `obsw_s5_report`. -/
structure Call where
  severity : Severity
  eventId : UInt16
  aux : AuxData
deriving DecidableEq, Repr

/-- `obsw_s5_ctx_t` without its pointers: `fsm` says whether `fsm` is set, and
`safeTriggerIds` is `safe_trigger_ids[0..safe_trigger_count)`. -/
structure Ctx where
  apid : UInt16
  msgCounter : UInt16
  timestamp : UInt32
  fsm : Bool
  safeTriggerIds : List UInt16
  /-- Ghost: the reports asked for so far, oldest first. -/
  calls : List Call
deriving DecidableEq, Repr

/-- The context after one more call: the message counter is spent either way. -/
def Ctx.called (ctx : Ctx) (severity : Severity) (eventId : UInt16) (aux : AuxData) : Ctx :=
  { ctx with
    msgCounter := ctx.msgCounter + 1
    calls := ctx.calls ++ [⟨severity, eventId, aux⟩] }

structure Env (cfg : Config) (η : Type) where
  ctx : Ctx
  tm : Port cfg
  fsm : Fsm
  hook : η

variable {cfg : Config} {η : Type}

/-- The build request of a TM(5,x) report. -/
def request (ctx : Ctx) (severity : Severity) (eventId : UInt16) (aux : AuxData) :
    TmRequest where
  apid := ctx.apid
  seqCount := ctx.msgCounter
  svc := 5
  subsvc := severity.toUInt8
  msgCounter := ctx.msgCounter
  destId := 0
  timestamp := ctx.timestamp
  data := putBe16 eventId ++ aux.data

/-- The coupling into the mode machine, guarded by the return code of the build. -/
def couple (rc : TmRc) (severity : Severity) (eventId : UInt16) (ctx : Ctx) (fsm : Fsm) : Fsm :=
  if rc = .ok ∧ severity = .high ∧ ctx.fsm = true then
    if ctx.safeTriggerIds.any (fun id => id == eventId) then fsm.toSafe else fsm
  else fsm

/-- `obsw_s5_report` -/
def report (onEvent : Option (UInt16 → η → η)) (severity : Severity) (eventId : UInt16)
    (aux : AuxData) (env : Env cfg η) : Option (TmRc × Env cfg η) := do
  let ctx := env.ctx.called severity eventId aux
  let (rc, tm) ← pusTmBuild (request env.ctx severity eventId aux) env.tm
  let fsm := couple rc severity eventId ctx env.fsm
  let hook := match onEvent with
    | some hook => hook eventId env.hook
    | none => env.hook
  return (rc, { ctx := ctx, tm := tm, fsm := fsm, hook := hook })

/-! ### What a report does -/

/-- The return code of a report made in `env`. -/
def reportRc (severity : Severity) (eventId : UInt16) (aux : AuxData) (env : Env cfg η) : TmRc :=
  (env.tm.put (request env.ctx severity eventId aux)).1

/-- The environment after a report. -/
def reported (onEvent : Option (UInt16 → η → η)) (severity : Severity) (eventId : UInt16)
    (aux : AuxData) (env : Env cfg η) : Env cfg η where
  ctx := env.ctx.called severity eventId aux
  tm := env.tm.after (request env.ctx severity eventId aux)
  fsm := couple (reportRc severity eventId aux env) severity eventId env.ctx env.fsm
  hook := match onEvent with
    | some hook => hook eventId env.hook
    | none => env.hook

theorem request_dataLen (ctx : Ctx) (severity : Severity) (eventId : UInt16) (aux : AuxData) :
    (request ctx severity eventId aux).dataLen = 2 + aux.data.length := by
  have bounded := aux.bounded
  simp only [TmRequest.dataLen, request, List.length_append, putBe16_length]
  omega

/-- A report never writes outside its buffers. -/
theorem report_eq (onEvent : Option (UInt16 → η → η)) (severity : Severity) (eventId : UInt16)
    (aux : AuxData) (env : Env cfg η) :
    report onEvent severity eventId aux env =
      some (reportRc severity eventId aux env, reported onEvent severity eventId aux env) := by
  have inside : (request env.ctx severity eventId aux).Inside cfg := by
    left
    have bounded := aux.bounded
    rw [request_dataLen]
    omega
  unfold report
  rw [pusTmBuild_eq_put inside]
  rfl

/-- The environment after one recorded call. -/
def Env.called (onEvent : Option (UInt16 → η → η)) (env : Env cfg η) (call : Call) : Env cfg η :=
  reported onEvent call.severity call.eventId call.aux env

/-- The environment after a sequence of calls, oldest first. -/
def Env.calledAll (onEvent : Option (UInt16 → η → η)) (env : Env cfg η) (calls : List Call) :
    Env cfg η :=
  calls.foldl (Env.called onEvent) env

theorem Env.calledAll_append (onEvent : Option (UInt16 → η → η)) (env : Env cfg η)
    (first second : List Call) :
    env.calledAll onEvent (first ++ second) =
      (env.calledAll onEvent first).calledAll onEvent second :=
  List.foldl_append

/-- A report is stored exactly when its packet fits the limit and a slot is free. -/
theorem reportRc_ok_iff (severity : Severity) (eventId : UInt16) (aux : AuxData)
    (env : Env cfg η) :
    reportRc severity eventId aux env = .ok ↔
      19 + aux.data.length ≤ cfg.tmMaxPacketLen ∧ env.tm.store.full = false := by
  have bounded := aux.bounded
  have length := request_dataLen env.ctx severity eventId aux
  unfold reportRc
  rw [put_ok_iff env.tm _ (by omega), length]
  constructor
  · rintro ⟨fits, free⟩
    exact ⟨by omega, free⟩
  · rintro ⟨fits, free⟩
    exact ⟨by omega, free⟩

/-- The events the context couples to SAFE. -/
def Triggers (ctx : Ctx) (severity : Severity) (eventId : UInt16) : Prop :=
  severity = .high ∧ eventId ∈ ctx.safeTriggerIds

theorem couple_of_not_triggers {ctx : Ctx} {severity : Severity} {eventId : UInt16}
    (other : ¬ Triggers ctx severity eventId) (rc : TmRc) (fsm : Fsm) :
    couple rc severity eventId ctx fsm = fsm := by
  unfold couple
  split
  · rename_i armed
    have absent : eventId ∉ ctx.safeTriggerIds := fun member => other ⟨armed.2.1, member⟩
    rw [if_neg]
    simpa using absent
  · rfl

theorem couple_of_triggers {ctx : Ctx} {severity : Severity} {eventId : UInt16}
    (triggers : Triggers ctx severity eventId) (armed : ctx.fsm = true) (rc : TmRc) (fsm : Fsm) :
    couple rc severity eventId ctx fsm = if rc = .ok then fsm.toSafe else fsm := by
  unfold couple
  obtain ⟨high, member⟩ := triggers
  have listed : ctx.safeTriggerIds.any (fun id => id == eventId) = true := by
    simpa using member
  by_cases stored : rc = .ok
  · rw [if_pos ⟨stored, high, armed⟩, if_pos listed, if_pos stored]
  · rw [if_neg (fun all => stored all.1), if_neg stored]

/-- The coupling either leaves the mode machine alone or commands SAFE. -/
theorem couple_cases (rc : TmRc) (severity : Severity) (eventId : UInt16) (ctx : Ctx)
    (fsm : Fsm) :
    couple rc severity eventId ctx fsm = fsm ∨ couple rc severity eventId ctx fsm = fsm.toSafe := by
  unfold couple
  split
  · split
    · exact .inr rfl
    · exact .inl rfl
  · exact .inl rfl

@[simp] theorem couple_config (rc : TmRc) (severity : Severity) (eventId : UInt16) (ctx : Ctx)
    (fsm : Fsm) : (couple rc severity eventId ctx fsm).config = fsm.config := by
  rcases couple_cases rc severity eventId ctx fsm with same | safe
  · rw [same]
  · rw [safe, Fsm.toSafe_config]

end Openobsw.Pus.S5
