import Openobsw.Ccsds.SpacePacket
import Openobsw.Tm.Store

/-!
Owns `obsw_pus_tm_build` (`pus_tm.c`), the single entry point of all telemetry.
A `Port` is the TM store a context points to, with a ghost record of every
build performed on it: the arguments of the call and its return code.
-/

namespace Openobsw.Pus

open Openobsw.Ccsds Openobsw.Util

/-- The arguments of `obsw_pus_tm_build`, in its order. An absent data pointer
of length zero is the empty list. -/
structure TmRequest where
  apid : UInt16
  seqCount : UInt16
  svc : UInt8
  subsvc : UInt8
  msgCounter : UInt16
  destId : UInt16
  timestamp : UInt32
  data : List UInt8
deriving DecidableEq, Repr

inductive TmRc where
  | ok
  | errTooLarge
  | errStore
deriving DecidableEq, Repr

/-- One call of `obsw_pus_tm_build` and what it returned. -/
structure TmBuilt where
  request : TmRequest
  rc : TmRc
deriving DecidableEq, Repr

structure Port (cfg : Config) where
  store : Tm.Store cfg
  /-- Ghost: the builds performed so far, oldest first. -/
  log : List TmBuilt

def pusTmSecHdrLen : Nat := 11

def pusVersion : UInt8 := 0x20

/-- The eleven bytes of the PUS-C TM secondary header. -/
def tmSecondaryHeader (request : TmRequest) : List UInt8 :=
  [pusVersion, request.svc, request.subsvc] ++ putBe16 request.msgCounter ++
    putBe16 request.destId ++ putBe32 request.timestamp

@[simp] theorem tmSecondaryHeader_length (request : TmRequest) :
    (tmSecondaryHeader request).length = 11 := rfl

namespace TmRequest

/-- `data_len`: the length argument is 16 bits wide. -/
def dataLen (request : TmRequest) : Nat := request.data.length % 65536

/-- `payload_len = (uint16_t)(OBSW_PUS_TM_SEC_HDR_LEN + data_len)` -/
def payloadLen (request : TmRequest) : Nat := (pusTmSecHdrLen + request.dataLen) % 65536

/-- `total = (uint16_t)(OBSW_SP_PRIMARY_HEADER_LEN + payload_len)` -/
def total (request : TmRequest) : Nat := (spPrimaryHeaderLen + request.payloadLen) % 65536

/-- The primary header; its length field is `(uint16_t)(payload_len - 1)`. -/
def primaryHdr (request : TmRequest) : PrimaryHdr where
  version := 0
  type := spTypeTm
  secHdrFlag := 1
  apid := request.apid
  seqFlags := spSeqUnsegmented
  seqCount := request.seqCount
  dataLen := UInt16.ofNat request.payloadLen - 1

/-- The bytes written into the packet buffer. -/
def packet (request : TmRequest) : List UInt8 :=
  spEncodePrimary request.primaryHdr ++ tmSecondaryHeader request ++
    request.data.take request.dataLen

theorem dataLen_le (request : TmRequest) : request.dataLen ≤ request.data.length :=
  Nat.mod_le _ _

theorem packet_length (request : TmRequest) :
    request.packet.length = 17 + request.dataLen := by
  have short : request.dataLen ≤ request.data.length := Nat.mod_le _ _
  simp only [packet, List.length_append, spEncodePrimary_length, tmSecondaryHeader_length,
    List.length_take]
  omega

end TmRequest

namespace Port

variable {cfg : Config}

/-- Record a build that returned `rc`. -/
def noted (port : Port cfg) (request : TmRequest) (rc : TmRc) : Port cfg :=
  { port with log := port.log ++ [⟨request, rc⟩] }

/-- The effect of a build whose packet stays inside its buffer. -/
def put (port : Port cfg) (request : TmRequest) : TmRc × Port cfg :=
  if request.total > cfg.tmMaxPacketLen then (.errTooLarge, port.noted request .errTooLarge)
  else
    let (rc, store) := port.store.enqueue (request.packet.take request.total)
    let built : TmRc := if rc = .ok then .ok else .errStore
    (built, { port with store := store }.noted request built)

/-- The port after a build. -/
def after (port : Port cfg) (request : TmRequest) : Port cfg := (port.put request).2

end Port

variable {cfg : Config}

/-- `obsw_pus_tm_build`. `none` is a write past `buf[OBSW_TM_MAX_PACKET_LEN]`:
the size check compares a 16-bit sum, the copies use the full lengths. -/
def pusTmBuild (request : TmRequest) (port : Port cfg) : Option (TmRc × Port cfg) :=
  if request.total > cfg.tmMaxPacketLen then
    return (.errTooLarge, port.noted request .errTooLarge)
  else if request.packet.length > cfg.tmMaxPacketLen then none
  else
    let (rc, store) := port.store.enqueue (request.packet.take request.total)
    let built : TmRc := if rc = .ok then .ok else .errStore
    return (built, { port with store := store }.noted request built)

/-! ### What a build does -/

/-- The 16-bit length sum does not wrap, or the packet fits its buffer anyway. -/
def TmRequest.Inside (cfg : Config) (request : TmRequest) : Prop :=
  request.dataLen ≤ 65518 ∨ 17 + request.dataLen ≤ cfg.tmMaxPacketLen

theorem TmRequest.inside_of_small (cfg : Config) {request : TmRequest}
    (small : request.data.length ≤ 65518) : request.Inside cfg :=
  .inl (request.dataLen_le.trans small)

theorem TmRequest.inside_of_fits {cfg : Config} {request : TmRequest}
    (fits : 17 + request.data.length ≤ cfg.tmMaxPacketLen) : request.Inside cfg :=
  .inr ((Nat.add_le_add_left request.dataLen_le 17).trans fits)

/-- Such a build is refused by the size check or writes inside its buffer. -/
theorem pusTmBuild_eq_put {request : TmRequest} (inside : request.Inside cfg) (port : Port cfg) :
    pusTmBuild request port = some (port.put request) := by
  unfold pusTmBuild Port.put
  by_cases large : request.total > cfg.tmMaxPacketLen
  · rw [if_pos large, if_pos large]
    rfl
  · rw [if_neg large, if_neg large]
    have fits : ¬ request.packet.length > cfg.tmMaxPacketLen := by
      rw [TmRequest.packet_length]
      rcases inside with small | room
      · have exact : request.total = 17 + request.dataLen := by
          unfold TmRequest.total TmRequest.payloadLen spPrimaryHeaderLen pusTmSecHdrLen
          omega
        omega
      · omega
    rw [if_neg fits]
    rfl

/-- A build that returns has had the effect of `put`. -/
theorem pusTmBuild_some {request : TmRequest} {port : Port cfg} {out : TmRc × Port cfg}
    (built : pusTmBuild request port = some out) : out = port.put request := by
  unfold pusTmBuild at built
  unfold Port.put
  split at built
  · rename_i large
    rw [if_pos large]
    cases built
    rfl
  · rename_i small
    rw [if_neg small]
    split at built
    · cases built
    · cases built
      rfl

@[simp] theorem put_log (port : Port cfg) (request : TmRequest) :
    (port.put request).2.log = port.log ++ [⟨request, (port.put request).1⟩] := by
  unfold Port.put
  split <;> rfl

@[simp] theorem after_log (port : Port cfg) (request : TmRequest) :
    (port.after request).log = port.log ++ [⟨request, (port.put request).1⟩] :=
  put_log port request

/-- The sixteen-bit length of the packet does not wrap. -/
theorem TmRequest.total_of_small (request : TmRequest) (small : request.dataLen ≤ 65518) :
    request.total = 17 + request.dataLen := by
  unfold total payloadLen spPrimaryHeaderLen pusTmSecHdrLen
  omega

theorem TmRequest.take_total (request : TmRequest) (small : request.dataLen ≤ 65518) :
    request.packet.take request.total = request.packet := by
  apply List.take_of_length_le
  rw [TmRequest.packet_length, request.total_of_small small]

/-- A build of moderate size is stored exactly when it fits the packet limit and
the store has a free slot. -/
theorem put_ok_iff (port : Port cfg) (request : TmRequest) (small : request.dataLen ≤ 65518) :
    (port.put request).1 = .ok ↔
      17 + request.dataLen ≤ cfg.tmMaxPacketLen ∧ port.store.full = false := by
  have exact := request.total_of_small small
  have whole := request.take_total small
  unfold Port.put
  by_cases large : request.total > cfg.tmMaxPacketLen
  · rw [if_pos large]
    constructor
    · intro impossible
      cases impossible
    · intro fits
      omega
  · rw [if_neg large, whole]
    have stored := Tm.Store.enqueue_ok_iff port.store request.packet
    rw [TmRequest.packet_length] at stored
    simp only
    rw [← stored]
    by_cases ok : (port.store.enqueue request.packet).1 = .ok
    · simp [ok]
    · simp [ok]

/-- A packet within the limit is stored unless the store is full. -/
theorem put_of_fits (port : Port cfg) (request : TmRequest) (small : request.dataLen ≤ 65518)
    (fits : 17 + request.dataLen ≤ cfg.tmMaxPacketLen) :
    (port.put request).1 = if port.store.full then .errStore else .ok := by
  have stored := put_ok_iff port request small
  have exact := request.total_of_small small
  cases filled : port.store.full with
  | false => exact stored.mpr ⟨fits, filled⟩
  | true =>
      have refused : (port.put request).1 ≠ .ok := by
        intro ok
        rw [(stored.mp ok).2] at filled
        cases filled
      unfold Port.put at refused ⊢
      rw [if_neg (by omega)] at refused ⊢
      simp only at refused ⊢
      split at refused
      · exact absurd rfl refused
      · rename_i failed
        rw [if_neg failed]
        rfl

end Openobsw.Pus
