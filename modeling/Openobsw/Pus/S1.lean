import Openobsw.Pus.TmBuild
import Openobsw.Tc.Dispatcher

/-!
Owns TC verification (`s1.c`): the four report functions and the dispatcher
responder. A `Link` is the S1 context together with the TM store it points to;
every other service reports through one. The failure codes are the
`OBSW_S1_FAIL_*` of `s1.h`.
-/

namespace Openobsw.Pus

open Openobsw.Util

namespace S1

/-- `obsw_s1_ctx_t` without its store pointer. -/
structure Ctx where
  apid : UInt16
  msgCounter : UInt16
  timestamp : UInt32
deriving DecidableEq, Repr

structure Link (cfg : Config) where
  ctx : Ctx
  tm : Port cfg

def failIllegalSvc : UInt16 := 0x0002

def failIllegalSubsvc : UInt16 := 0x0003

def failExecError : UInt16 := 0x0004

def failIllegalAppData : UInt16 := 0x0005

def failMemAccess : UInt16 := 0x0006

def failModeGated : UInt16 := 0x0007

/-- `encode_tc_ref` -/
def encodeTcRef (tc : Tc) : List UInt8 :=
  let pktId : UInt16 := ((1 : UInt16) <<< 12) ||| ((1 : UInt16) <<< 11) ||| (tc.apid &&& 0x7FF)
  let seq : UInt16 := ((3 : UInt16) <<< 14) ||| (tc.seqCount &&& 0x3FFF)
  putBe16 pktId ++ putBe16 seq

@[simp] theorem encodeTcRef_length (tc : Tc) : (encodeTcRef tc).length = 4 := rfl

/-- The build request of a TM(1,`subsvc`) report. -/
def request (ctx : Ctx) (subsvc : UInt8) (data : List UInt8) : TmRequest where
  apid := ctx.apid
  seqCount := ctx.msgCounter
  svc := 1
  subsvc := subsvc
  msgCounter := ctx.msgCounter
  destId := 0
  timestamp := ctx.timestamp
  data := data

variable {cfg : Config}

/-- The common body of the four report functions. -/
def report (subsvc : UInt8) (data : List UInt8) (link : Link cfg) :
    Option (TmRc × Link cfg) := do
  let ctx := { link.ctx with msgCounter := link.ctx.msgCounter + 1 }
  let (rc, tm) ← pusTmBuild (request link.ctx subsvc data) link.tm
  return (rc, { ctx := ctx, tm := tm })

/-- `obsw_s1_accept_success` -/
def acceptSuccess (tc : Tc) : Link cfg → Option (TmRc × Link cfg) :=
  report 1 (encodeTcRef tc)

/-- `obsw_s1_accept_failure` -/
def acceptFailure (tc : Tc) (failureCode : UInt16) : Link cfg → Option (TmRc × Link cfg) :=
  report 2 (encodeTcRef tc ++ putBe16 failureCode)

/-- `obsw_s1_completion_success` -/
def completionSuccess (tc : Tc) : Link cfg → Option (TmRc × Link cfg) :=
  report 7 (encodeTcRef tc)

/-- `obsw_s1_completion_failure` -/
def completionFailure (tc : Tc) (failureCode : UInt16) : Link cfg → Option (TmRc × Link cfg) :=
  report 8 (encodeTcRef tc ++ putBe16 failureCode)

/-- The failure code `obsw_s1_dispatch_responder` selects from the flags. -/
def dispatchCode (flags : UInt8) : UInt16 :=
  if flags &&& tcRejectGated ≠ 0 then failModeGated
  else if flags &&& tcRejectSubsvc ≠ 0 then failIllegalSubsvc
  else failIllegalSvc

/-- `obsw_s1_dispatch_responder` -/
def dispatchResponder (flags : UInt8) (tc : Tc) (link : Link cfg) : Option (Link cfg) := do
  if flags &&& tcAckReject = 0 then return link
  else
    let (_, link) ← acceptFailure tc (dispatchCode flags) link
    return link

/-- One TM of a handler's own service, through the store the link holds. -/
def emit (request : TmRequest) (link : Link cfg) : Option (TmRc × Link cfg) := do
  let (rc, tm) ← pusTmBuild request link.tm
  return (rc, { link with tm := tm })

/-! ### Reports never fault -/

namespace Link

/-- The link after a TM(1,`subsvc`) report. -/
def reported (link : Link cfg) (subsvc : UInt8) (data : List UInt8) : Link cfg where
  ctx := { link.ctx with msgCounter := link.ctx.msgCounter + 1 }
  tm := link.tm.after (request link.ctx subsvc data)

/-- After TM(1,1). -/
def accepted (link : Link cfg) (tc : Tc) : Link cfg := link.reported 1 (encodeTcRef tc)

/-- After TM(1,2). -/
def rejected (link : Link cfg) (tc : Tc) (code : UInt16) : Link cfg :=
  link.reported 2 (encodeTcRef tc ++ putBe16 code)

/-- After TM(1,7). -/
def completed (link : Link cfg) (tc : Tc) : Link cfg := link.reported 7 (encodeTcRef tc)

/-- After TM(1,8). -/
def failed (link : Link cfg) (tc : Tc) (code : UInt16) : Link cfg :=
  link.reported 8 (encodeTcRef tc ++ putBe16 code)

/-- After one TM of another service. -/
def emitted (link : Link cfg) (request : TmRequest) : Link cfg :=
  { link with tm := link.tm.after request }

end Link

theorem report_eq (subsvc : UInt8) {data : List UInt8} (small : data.length ≤ 6)
    (link : Link cfg) :
    ∃ rc, report subsvc data link = some (rc, link.reported subsvc data) := by
  have inside : (request link.ctx subsvc data).Inside cfg :=
    TmRequest.inside_of_small cfg (small.trans (by omega))
  unfold report
  rw [pusTmBuild_eq_put inside]
  exact ⟨_, rfl⟩

theorem emit_eq {request : TmRequest} (inside : request.Inside cfg) (link : Link cfg) :
    ∃ rc, emit request link = some (rc, link.emitted request) := by
  unfold emit
  rw [pusTmBuild_eq_put inside]
  exact ⟨_, rfl⟩

theorem acceptSuccess_eq (tc : Tc) (link : Link cfg) :
    ∃ rc, acceptSuccess tc link = some (rc, link.accepted tc) :=
  report_eq 1 (by simp) link

theorem acceptFailure_eq (tc : Tc) (code : UInt16) (link : Link cfg) :
    ∃ rc, acceptFailure tc code link = some (rc, link.rejected tc code) :=
  report_eq 2 (by simp) link

theorem completionSuccess_eq (tc : Tc) (link : Link cfg) :
    ∃ rc, completionSuccess tc link = some (rc, link.completed tc) :=
  report_eq 7 (by simp) link

theorem completionFailure_eq (tc : Tc) (code : UInt16) (link : Link cfg) :
    ∃ rc, completionFailure tc code link = some (rc, link.failed tc code) :=
  report_eq 8 (by simp) link

/-- A flag byte with the reject bit is answered with one TM(1,2). -/
theorem dispatchResponder_eq {flags : UInt8} (isReject : flags &&& tcAckReject ≠ 0) (tc : Tc)
    (link : Link cfg) :
    dispatchResponder flags tc link = some (link.rejected tc (dispatchCode flags)) := by
  obtain ⟨rc, reported⟩ := acceptFailure_eq tc (dispatchCode flags) link
  unfold dispatchResponder
  rw [if_neg isReject, reported]
  rfl

@[simp] theorem dispatchCode_gated : dispatchCode (tcAckReject ||| tcRejectGated) = failModeGated := by
  decide

@[simp] theorem dispatchCode_svc : dispatchCode (tcAckReject ||| tcRejectSvc) = failIllegalSvc := by
  decide

@[simp] theorem dispatchCode_subsvc :
    dispatchCode (tcAckReject ||| tcRejectSubsvc) = failIllegalSubsvc := by
  decide

/-- The report a link's next TM(1,`subsvc`) call asks for, with its outcome. -/
def Link.nextBuilt (link : Link cfg) (subsvc : UInt8) (data : List UInt8) : TmBuilt where
  request := request link.ctx subsvc data
  rc := (link.tm.put (request link.ctx subsvc data)).1

@[simp] theorem reported_log (link : Link cfg) (subsvc : UInt8) (data : List UInt8) :
    (link.reported subsvc data).tm.log = link.tm.log ++ [link.nextBuilt subsvc data] :=
  after_log _ _

end S1

end Openobsw.Pus
