import Openobsw.Properties.PacketQueue
import Openobsw.Properties.SpacePacketRoundTrip
import Openobsw.Pus.TmBuild

/-!
Owns the packet `obsw_pus_tm_build` leaves in the store: it is a space packet
the parser accepts, and its fields are those of the call. Owns also the size
check in front of it, which looks at a sixteen-bit sum.
-/

namespace Openobsw.Pus

open Openobsw.Ccsds Openobsw.Util

variable {cfg : Config}

/-- What a reader of a TM packet finds in it. -/
structure TmRequest.Decoded (request : TmRequest) (pkt : SpPacket) : Prop where
  type : pkt.hdr.type = spTypeTm
  secHdrFlag : pkt.hdr.secHdrFlag = 1
  apid : pkt.hdr.apid.toNat = request.apid.toNat % 2 ^ 11
  seqCount : pkt.hdr.seqCount.toNat = request.seqCount.toNat % 2 ^ 14
  dataLen : pkt.hdr.dataLen.toNat = 10 + request.data.length
  pusVersion : pkt.payload[0]? = some pusVersion
  svc : pkt.payload[1]? = some request.svc
  subsvc : pkt.payload[2]? = some request.subsvc
  msgCounter : obswBe16 pkt.payload 3 = some request.msgCounter
  destId : obswBe16 pkt.payload 5 = some request.destId
  timestamp : obswBe32 pkt.payload 7 = some request.timestamp
  data : pkt.payload.drop 11 = request.data

/-- What a caller of the builder may rely on. -/
structure BuildLaw (request : TmRequest) (port : Port cfg) : Prop where
  insideBuffer : pusTmBuild request port ≠ none
  tooLarge : cfg.tmMaxPacketLen < 17 + request.data.length →
    ∃ after, pusTmBuild request port = some (.errTooLarge, after) ∧ after.store = port.store
  appended : 17 + request.data.length ≤ cfg.tmMaxPacketLen → port.store.full = false →
    ∃ after packet parsed, pusTmBuild request port = some (.ok, after) ∧
      after.store.queue = port.store.queue ++ [packet] ∧
      spParse packet = some (.ok parsed) ∧ request.Decoded parsed

/-! ### The packet reads back -/

namespace TmRequest

/-- The data field of the packet: the secondary header and the data of the call. -/
def field (request : TmRequest) : List UInt8 :=
  tmSecondaryHeader request ++ request.data

section Lengths

variable {request : TmRequest}

theorem dataLen_eq (sized : request.data.length < 65536) :
    request.dataLen = request.data.length :=
  Nat.mod_eq_of_lt sized

theorem total_eq (small : request.data.length ≤ 65518) :
    request.total = 17 + request.data.length := by
  have exact : request.dataLen = request.data.length := dataLen_eq (by omega)
  rw [request.total_of_small (by omega), exact]

theorem total_wraps (large : 65518 < request.data.length) (sized : request.data.length < 65536) :
    request.total = request.data.length - 65519 := by
  have exact := dataLen_eq sized
  unfold total payloadLen spPrimaryHeaderLen pusTmSecHdrLen
  omega

end Lengths

theorem packet_eq {request : TmRequest} (sized : request.data.length < 65536) :
    request.packet = spEncodePrimary request.primaryHdr ++ request.field := by
  unfold packet field
  rw [dataLen_eq sized, List.take_length, List.append_assoc]

theorem field_length (request : TmRequest) : request.field.length = 11 + request.data.length := by
  unfold field
  rw [List.length_append, tmSecondaryHeader_length]

theorem primaryHdr_dataLen {request : TmRequest} (small : request.data.length ≤ 65518) :
    request.primaryHdr.dataLen.toNat = 10 + request.data.length := by
  have exact : request.dataLen = request.data.length := dataLen_eq (by omega)
  have payload : request.payloadLen = 11 + request.data.length := by
    unfold payloadLen pusTmSecHdrLen
    omega
  show (UInt16.ofNat request.payloadLen - 1).toNat = _
  rw [payload, UInt16.toNat_sub, show (1 : UInt16).toNat = 1 from rfl, UInt16.toNat_ofNat']
  omega

theorem field_decoded {request : TmRequest} {pkt : SpPacket}
    (small : request.data.length ≤ 65518) (hdr : pkt.hdr = request.primaryHdr.truncated)
    (payload : pkt.payload = request.field) : request.Decoded pkt where
  type := by
    rw [hdr]
    exact (by decide : spTypeTm &&& 0x01 = spTypeTm)
  secHdrFlag := by
    rw [hdr]
    exact (by decide : (1 : UInt8) &&& 0x01 = 1)
  apid := by
    rw [hdr, PrimaryHdr.truncated_apid]
    rfl
  seqCount := by
    rw [hdr, PrimaryHdr.truncated_seqCount]
    rfl
  dataLen := by
    rw [hdr, PrimaryHdr.truncated_dataLen, primaryHdr_dataLen small]
  pusVersion := by
    rw [payload]
    rfl
  svc := by
    rw [payload]
    rfl
  subsvc := by
    rw [payload]
    rfl
  msgCounter := by
    rw [payload]
    exact obswBe16_putBe16 [Pus.pusVersion, request.svc, request.subsvc] request.msgCounter
      (putBe16 request.destId ++ putBe32 request.timestamp ++ request.data)
  destId := by
    rw [payload]
    exact obswBe16_putBe16
      ([Pus.pusVersion, request.svc, request.subsvc] ++ putBe16 request.msgCounter)
      request.destId (putBe32 request.timestamp ++ request.data)
  timestamp := by
    rw [payload]
    exact obswBe32_putBe32 ([Pus.pusVersion, request.svc, request.subsvc] ++
      putBe16 request.msgCounter ++ putBe16 request.destId) request.timestamp request.data
  data := by
    rw [payload]
    exact @List.drop_left _ (tmSecondaryHeader request) request.data

/-- The parser accepts the packet and finds the fields of the call in it. -/
theorem packet_parsed {request : TmRequest} (small : request.data.length ≤ 65518) :
    ∃ parsed, spParse request.packet = some (.ok parsed) ∧ request.Decoded parsed := by
  have length := primaryHdr_dataLen small
  have field := request.field_length
  have sliceLen : (request.primaryHdr.dataLen + 1).toNat = request.field.length := by
    rw [UInt16.toNat_add, show (1 : UInt16).toNat = 1 from rfl]
    omega
  have slice : request.field.take (request.primaryHdr.dataLen + 1).toNat = request.field := by
    rw [sliceLen, List.take_length]
  have whole : request.primaryHdr.dataLen.toNat + 1 ≤ request.field.length := by omega
  have parsed := @spParse_encode request.primaryHdr rfl request.field whole
  rw [slice] at parsed
  rw [packet_eq (by omega)]
  exact ⟨_, parsed, field_decoded small rfl rfl⟩

end TmRequest

/-! ### What the size check decides -/

theorem put_tooLarge {request : TmRequest} {port : Port cfg}
    (large : cfg.tmMaxPacketLen < request.total) :
    pusTmBuild request port = some (.errTooLarge, port.noted request .errTooLarge) :=
  if_pos large

/-- A packet the size check passes and the buffer holds is stored when a slot is free. -/
theorem put_stored {request : TmRequest} {port : Port cfg}
    (fits : request.packet.length ≤ cfg.tmMaxPacketLen)
    (within : request.total ≤ cfg.tmMaxPacketLen) (room : port.store.full = false) :
    ∃ after, pusTmBuild request port = some (.ok, after) ∧
      after.store.queue = port.store.queue ++ [request.packet.take request.total] := by
  have cut : (request.packet.take request.total).length ≤ cfg.tmMaxPacketLen :=
    (List.length_take_le' _ _).trans fits
  have stored : (port.store.enqueue (request.packet.take request.total)).1 = .ok :=
    (Tm.Store.enqueue_ok_iff _ _).mpr ⟨cut, room⟩
  have notFull : ¬ port.store.queue.length = cfg.tmStoreSlots - 1 := by
    rw [← Tm.Store.full_iff, room]
    exact Bool.false_ne_true
  have queued := congrArg Prod.snd
    (Tm.Store.enqueue_queue port.store (request.packet.take request.total))
  unfold Tm.Queue.enqueue at queued
  rw [if_neg (Nat.not_lt_of_le cut), if_neg notFull] at queued
  unfold pusTmBuild
  rw [if_neg (Nat.not_lt_of_le within), if_neg (Nat.not_lt_of_le fits)]
  show ∃ after, some (if (port.store.enqueue (request.packet.take request.total)).1 = .ok then
    TmRc.ok else TmRc.errStore, _) = some (TmRc.ok, after) ∧ _
  rw [if_pos stored]
  exact ⟨_, rfl, queued⟩

/-- A packet the size check passes and the buffer does not hold is written past its end. -/
theorem put_overruns {request : TmRequest} {port : Port cfg}
    (within : ¬ cfg.tmMaxPacketLen < request.total)
    (overruns : cfg.tmMaxPacketLen < request.packet.length) : pusTmBuild request port = none := by
  unfold pusTmBuild
  rw [if_neg within, if_pos overruns]

theorem put_inside {request : TmRequest} {port : Port cfg}
    (fits : request.packet.length ≤ cfg.tmMaxPacketLen) : pusTmBuild request port ≠ none := by
  unfold pusTmBuild
  by_cases large : cfg.tmMaxPacketLen < request.total
  · rw [if_pos large]
    exact Option.some_ne_none _
  · rw [if_neg large, if_neg (Nat.not_lt_of_le fits)]
    exact Option.some_ne_none _

/-! ### The law and its limit -/

theorem buildLaw_of_small {request : TmRequest} (port : Port cfg)
    (small : request.data.length ≤ 65518) : BuildLaw request port where
  insideBuffer := by
    rw [pusTmBuild_eq_put (TmRequest.inside_of_small cfg small)]
    exact Option.some_ne_none _
  tooLarge := by
    intro large
    rw [← TmRequest.total_eq small] at large
    exact ⟨_, put_tooLarge large, rfl⟩
  appended := by
    intro within room
    have total := TmRequest.total_eq small
    have length := request.packet_length
    rw [TmRequest.dataLen_eq (by omega)] at length
    obtain ⟨after, built, queue⟩ := put_stored (length ▸ within) (total ▸ within) room
    obtain ⟨parsed, accepted, decoded⟩ := TmRequest.packet_parsed small
    rw [total, ← length, List.take_length] at queue
    exact ⟨after, request.packet, parsed, built, queue, accepted, decoded⟩

/-- With the sum wrapped, at most sixteen bytes are stored, fewer than a packet needs. -/
theorem not_appended_of_wrapped {request : TmRequest} {port : Port cfg}
    (large : 65518 < request.data.length) (sized : request.data.length < 65536)
    (within : 17 + request.data.length ≤ cfg.tmMaxPacketLen) (room : port.store.full = false) :
    ¬ BuildLaw request port := by
  intro law
  have total := TmRequest.total_wraps large sized
  have length := request.packet_length
  rw [TmRequest.dataLen_eq sized] at length
  obtain ⟨after, built, queue⟩ := put_stored (length ▸ within)
    (by omega : request.total ≤ cfg.tmMaxPacketLen) room
  obtain ⟨after', packet, parsed, built', queue', accepted, decoded⟩ := law.appended within room
  have same : after = after' := by
    rw [built] at built'
    injection built' with built'
    injection built'
  have stored : packet = request.packet.take request.total := by
    rw [← same, queue] at queue'
    have tails := List.append_cancel_left queue'
    injection tails with tails
    exact tails.symm
  obtain ⟨b0, b1, b2, b3, b4, b5, rest, bytes, _, _, whole, _⟩ := spParse_accepted accepted
  have short : packet.length ≤ request.total := by
    rw [stored]
    exact List.length_take_le _ _
  rw [decoded.dataLen] at whole
  rw [bytes] at short
  simp only [List.length_cons] at short
  omega

/-- The builder keeps its law for every call whose length sum fits sixteen bits. Beyond, only a
packet limit below the wrapped sum, or a full store under a limit that wide, hides the wrap. -/
theorem buildLaw_iff (request : TmRequest) (sized : request.data.length < 65536)
    (port : Port cfg) :
    BuildLaw request port ↔
      request.data.length ≤ 65518 ∨ cfg.tmMaxPacketLen < request.data.length - 65519 ∨
        (17 + request.data.length ≤ cfg.tmMaxPacketLen ∧ port.store.full = true) := by
  by_cases small : request.data.length ≤ 65518
  · exact ⟨fun _ => .inl small, fun _ => buildLaw_of_small port small⟩
  have total := TmRequest.total_wraps (Nat.lt_of_not_le small) sized
  have length := request.packet_length
  rw [TmRequest.dataLen_eq sized] at length
  constructor
  · intro law
    refine .inr ?_
    by_cases refused : cfg.tmMaxPacketLen < request.data.length - 65519
    · exact .inl refused
    refine .inr ?_
    have within : 17 + request.data.length ≤ cfg.tmMaxPacketLen := by
      refine Nat.le_of_not_lt (fun overruns => law.insideBuffer ?_)
      exact put_overruns (total ▸ refused) (length ▸ overruns)
    cases filled : port.store.full with
    | true => exact ⟨within, rfl⟩
    | false =>
        exact absurd law (not_appended_of_wrapped (Nat.lt_of_not_le small) sized within filled)
  · intro condition
    rcases condition with fits | refused | ⟨within, filled⟩
    · exact absurd fits small
    · have built := @put_tooLarge _ request port (total.symm ▸ refused)
      exact
        { insideBuffer := fun nothing => Option.some_ne_none _ (built.symm.trans nothing)
          tooLarge := fun _ => ⟨_, built, rfl⟩
          appended := fun within => by omega }
    · exact
        { insideBuffer := put_inside (length ▸ within)
          tooLarge := fun large => absurd within (Nat.not_le_of_lt large)
          appended := fun _ room => absurd (filled.symm.trans room) Bool.noConfusion }

/-- A store as initialised, in the default configuration. -/
def freshPort : Port Config.default where
  store := Tm.Store.init Config.default
  log := []

/-- A connection test report carrying the given data. -/
def reportOf (data : List UInt8) : TmRequest where
  apid := 1
  seqCount := 0
  svc := 17
  subsvc := 2
  msgCounter := 0
  destId := 0
  timestamp := 0
  data := data

theorem buildLaw_oneByte : BuildLaw (reportOf [0x2A]) freshPort :=
  (buildLaw_iff (reportOf [0x2A]) (by decide) freshPort).mpr (.inl (by decide))

/-- The largest data length a caller can pass gets past the size check and overruns the buffer. -/
theorem largest_data_overruns :
    ¬ ∀ request : TmRequest, request.data.length < 65536 → BuildLaw request freshPort := by
  intro law
  have length : (reportOf (List.replicate 65535 0)).data.length = 65535 := List.length_replicate
  have total : (reportOf (List.replicate 65535 0)).total = 16 := by
    rw [TmRequest.total_wraps (by omega) (by omega), length]
  have packet := (reportOf (List.replicate 65535 0)).packet_length
  rw [TmRequest.dataLen_eq (by omega), length] at packet
  refine (law (reportOf (List.replicate 65535 0)) (by omega)).insideBuffer (put_overruns ?_ ?_)
  · rw [total]
    exact (by decide : ¬ (1024 : Nat) < 16)
  · rw [packet]
    exact (by decide : (1024 : Nat) < 17 + 65535)

end Openobsw.Pus
