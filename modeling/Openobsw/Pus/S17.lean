import Openobsw.Pus.Handler

/-!
Owns the are-you-alive test (`s17.c`).
-/

namespace Openobsw.Pus.S17

open Openobsw.Pus.S1 Openobsw.Pus.Handler

/-- `obsw_s17_ctx_t` -/
structure Ctx where
  apid : UInt16
  msgCounter : UInt16
  timestamp : UInt32
deriving DecidableEq, Repr

variable {cfg : Config}

def pongRequest (s : Ctx) : TmRequest where
  apid := s.apid
  seqCount := s.msgCounter
  svc := 17
  subsvc := 2
  msgCounter := s.msgCounter
  destId := 0
  timestamp := s.timestamp
  data := []

/-- `obsw_s17_ping` -/
def ping (tc : Tc) (s : Ctx) (link : Link cfg) : Option (Int × Ctx × Link cfg) :=
  respond tc (pongRequest s) { s with msgCounter := s.msgCounter + 1 } link

/-- A ping is never rejected: it answers with one TM(17,2) between the S1 reports. -/
theorem ping_eq (tc : Tc) (s : Ctx) (link : Link cfg) :
    ping tc s link = some (0, { s with msgCounter := s.msgCounter + 1 },
      ((link.accepted tc).emitted (pongRequest s)).completed tc) :=
  respond_eq tc (TmRequest.inside_of_small cfg (by simp [pongRequest])) _ link

end Openobsw.Pus.S17
