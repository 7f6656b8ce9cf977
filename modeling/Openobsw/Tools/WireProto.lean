import Openobsw.Properties.SpacePacketRoundTrip
import Openobsw.System.HostServer
import Openobsw.Tc.Dispatcher

/-!
Owns the harness side of the host simulation (`sim/wire_proto.py`): the packets and frames
it sends, and how it reads the answers. A reader blocks on a pipe, so it is a function of
the bytes that have arrived: `none` while bytes are missing, which is an `EOFError` once
the pipe is closed. A `float` is the bit pattern that crosses the pipe.
-/

namespace Openobsw.Tools

open Openobsw.Aocs Openobsw.Ccsds Openobsw.HostSim Openobsw.Lib.TypedFrames
  Openobsw.Lib.Words Openobsw.Tc Openobsw.Util

/-! ### What it sends -/

/-- `build_tc` -/
def buildTc (apid : UInt16) (svc subsvc : UInt8) (data : List UInt8) : List UInt8 :=
  putBe16 (0x1800 ||| (apid &&& 0x7FF)) ++ putBe16 0xC000 ++
    putBe16 (UInt16.ofNat (6 + 5 + data.length - 7)) ++ [0x20, svc, subsvc, 0, 0] ++ data

/-- What `send_tc` writes. -/
def sendTc (tcBytes : List UInt8) : List UInt8 := (Item.frame frameTc tcBytes).bytes

/-- The words of a quaternion. -/
def putQuat (q : Quat) : List UInt8 := putWord q.w ++ putWord q.x ++ putWord q.y ++ putWord q.z

/-- `struct.pack(SENSOR_FMT, …)` -/
def packSensor (sensor : SensorFrame) : List UInt8 :=
  putVec3 sensor.mag ++ [sensor.magValid] ++ putQuat sensor.stQ ++ [sensor.stValid] ++
    putVec3 sensor.gyro ++ [sensor.gyroValid] ++ putWord sensor.simTime

/-- What `send_sensor` writes. -/
def sendSensor (sensor : SensorFrame) : List UInt8 :=
  (Item.frame frameSensor (packSensor sensor)).bytes

/-! ### What it reads -/

/-- `read_exact`, with what has arrived behind the bytes. -/
def readExact (stream : List UInt8) (n : Nat) : Option (List UInt8 × List UInt8) :=
  if stream.length < n then none else some (stream.take n, stream.drop n)

/-- The number that `struct.unpack('>H', …)` reads. -/
def unpackBe16 (bytes : List UInt8) : Nat := (byteAt bytes 0).toNat * 256 + (byteAt bytes 1).toNat

/-- The loop in which each reader takes frames up to the end-of-tick byte; `keep` is what it
does with a frame. A loop of more turns than the bound is `none`. -/
def untilEot {ρ : Type} (keep : ρ → UInt8 → List UInt8 → ρ) :
    Nat → ρ → List UInt8 → Option (ρ × List UInt8)
  | 0, _, _ => none
  | turns + 1, result, stream => do
      let (first, stream) ← readExact stream 1
      let ftype := byteAt first 0
      if ftype = syncByte then return (result, stream)
      let (second, stream) ← readExact stream 2
      let (payload, stream) ← readExact stream (unpackBe16 second)
      untilEot keep turns (keep result ftype payload) stream

/-- Every turn takes a byte, so the bound is not reached. -/
def readAnswer {ρ : Type} (keep : ρ → UInt8 → List UInt8 → ρ) (result : ρ)
    (stream : List UInt8) : Option (ρ × List UInt8) :=
  untilEot keep (stream.length + 1) result stream

/-- `drain_tc_response` -/
def drainTcResponse : List UInt8 → Option (Unit × List UInt8) :=
  readAnswer (fun _ _ _ => ()) ()

/-- `struct.unpack(ACTUAT_FMT, payload)` -/
def unpackActuator (payload : List UInt8) : ActuatorFrame where
  mtqDipole := ⟨wordAt payload 0, wordAt payload 4, wordAt payload 8⟩
  rwTorque := ⟨wordAt payload 12, wordAt payload 16, wordAt payload 20⟩
  controller := byteAt payload 24
  simTime := wordAt payload 25

/-- `ACTUAT_LEN` -/
def actuatLen : Nat := 29

/-- `recv_tick` on a frame. -/
def keepActuator (act : ActuatorFrame) (ftype : UInt8) (payload : List UInt8) : ActuatorFrame :=
  if ftype = frameActuator ∧ payload.length = actuatLen then unpackActuator payload else act

/-- `recv_tick` -/
def recvTick : List UInt8 → Option (ActuatorFrame × List UInt8) :=
  readAnswer keepActuator ⟨.zero, .zero, 0, 0⟩

/-- The value at an offset of a packet, most significant byte first. -/
def beWordAt (payload : List UInt8) (offset : Nat) : UInt32 :=
  ((byteAt payload offset).toUInt32 <<< 24) ||| ((byteAt payload (offset + 1)).toUInt32 <<< 16) |||
    ((byteAt payload (offset + 2)).toUInt32 <<< 8) ||| (byteAt payload (offset + 3)).toUInt32

/-- `query_s20_float` on a frame. -/
def keepS20 (paramId : UInt16) (result : UInt32) (ftype : UInt8) (payload : List UInt8) : UInt32 :=
  if ftype = frameTm ∧ 23 ≤ payload.length ∧ byteAt payload 7 = 20 ∧ byteAt payload 8 = 2 then
    if unpackBe16 (payload.drop 17) = paramId.toNat then beWordAt payload 19 else result
  else result

/-- What `query_s20_float` reads after its TC. -/
def readS20Float (paramId : UInt16) (default : UInt32) :
    List UInt8 → Option (UInt32 × List UInt8) :=
  readAnswer (keepS20 paramId) default

/-- The TC of `query_s20_float`. -/
def queryTc (apid paramId : UInt16) : List UInt8 := buildTc apid 20 3 (putBe16 paramId)

/-! ### Reading an answer -/

section Reading

variable {ρ : Type} (keep : ρ → UInt8 → List UInt8 → ρ)

theorem readExact_append {front : List UInt8} {n : Nat} (length : front.length = n)
    (rest : List UInt8) : readExact (front ++ rest) n = some (front, rest) := by
  unfold readExact
  rw [if_neg (by rw [List.length_append]; omega), ← length, List.take_left, List.drop_left]

theorem readExact_short {stream : List UInt8} {n : Nat} (short : stream.length < n) :
    readExact stream n = none := if_pos short

/-- The end-of-tick byte ends the answer. -/
theorem untilEot_sync (turns : Nat) (result : ρ) (rest : List UInt8) :
    untilEot keep (turns + 1) result (syncByte :: rest) = some (result, rest) := by
  have first : readExact (syncByte :: rest) 1 = some ([syncByte], rest) := rfl
  unfold untilEot
  rw [first]
  rfl

/-- The first byte of a frame. -/
theorem untilEot_type (turns : Nat) (result : ρ) {ftype : UInt8} (plain : ftype ≠ syncByte)
    (rest : List UInt8) :
    untilEot keep (turns + 1) result (ftype :: rest) =
      (readExact rest 2).bind fun second =>
        (readExact second.2 (unpackBe16 second.1)).bind fun third =>
          untilEot keep turns (keep result ftype third.1) third.2 := by
  have first : readExact (ftype :: rest) 1 = some ([ftype], rest) := rfl
  rw [untilEot, first]
  exact if_neg plain

/-- A frame is kept, and the rest of the answer is read. -/
theorem untilEot_frame (turns : Nat) (result : ρ) {ftype : UInt8} (plain : ftype ≠ syncByte)
    {payload : List UInt8} (fits : payload.length < 65536) (rest : List UInt8) :
    untilEot keep (turns + 1) result ((Item.frame ftype payload).bytes ++ rest) =
      untilEot keep turns (keep result ftype payload) rest := by
  let high := UInt8.ofNat (payload.length / 256)
  let low := UInt8.ofNat payload.length
  have length : unpackBe16 [high, low] = payload.length := lengthOf_header fits
  have second : readExact ([high, low] ++ (payload ++ rest)) 2 = some ([high, low], payload ++ rest) :=
    readExact_append rfl _
  have third : readExact (payload ++ rest) (unpackBe16 [high, low]) = some (payload, rest) :=
    readExact_append length.symm rest
  have whole : (Item.frame ftype payload).bytes ++ rest =
      ftype :: ([high, low] ++ (payload ++ rest)) := by
    rw [Item.bytes_frame]
    simp [header, high, low]
  rw [whole, untilEot_type keep turns result plain, second, Option.bind_some, third,
    Option.bind_some]

/-- The reader waits within a frame. -/
theorem untilEot_within (turns : Nat) (result : ρ) {ftype : UInt8} (plain : ftype ≠ syncByte)
    {payload front back : List UInt8} (fits : payload.length < 65536)
    (split : (Item.frame ftype payload).bytes = front ++ back) (more : back ≠ []) :
    untilEot keep turns result front = none := by
  cases turns with
  | zero => rfl
  | succ turns =>
      have length : unpackBe16 [UInt8.ofNat (payload.length / 256), UInt8.ofNat payload.length] =
          payload.length := lengthOf_header fits
      have positive := List.length_pos_iff.mpr more
      rw [Item.bytes_frame] at split
      change ftype :: _ :: _ :: payload = front ++ back at split
      generalize UInt8.ofNat (payload.length / 256) = high at split length
      generalize UInt8.ofNat payload.length = low at split length
      match front, split with
      | [], _ => rfl
      | first :: front, split =>
          simp only [List.cons_append, List.cons.injEq] at split
          obtain ⟨rfl, split⟩ := split
          rw [untilEot_type keep turns result plain]
          match front, split with
          | [], _ => rfl
          | [_], _ => rfl
          | second :: third :: body, split =>
              simp only [List.cons_append, List.cons.injEq] at split
              obtain ⟨rfl, rfl, split⟩ := split
              have short : body.length < payload.length := by
                rw [split, List.length_append]
                omega
              have second : readExact (high :: low :: body) 2 = some ([high, low], body) := rfl
              rw [second, Option.bind_some, length, readExact_short short]
              rfl

/-- An answer is the frames before the end-of-tick byte. -/
def answer (frames : List (UInt8 × List UInt8)) : List UInt8 := encode frames ++ [syncByte]

/-- A frame that the reader tells from the end of the answer. -/
structure Answers (frame : UInt8 × List UInt8) : Prop where
  plain : frame.1 ≠ syncByte
  fits : frame.2.length < 65536

theorem encode_cons (frame : UInt8 × List UInt8) (rest : List (UInt8 × List UInt8)) :
    encode (frame :: rest) = (Item.frame frame.1 frame.2).bytes ++ encode rest := rfl

theorem length_le_encode (frames : List (UInt8 × List UInt8)) :
    frames.length ≤ (encode frames).length := by
  induction frames with
  | nil => exact Nat.le_refl 0
  | cons frame rest inductionHypothesis =>
      have positive := List.length_pos_iff.mpr (Item.bytes_ne_nil (.frame frame.1 frame.2))
      rw [encode_cons, List.length_cons, List.length_append]
      omega

theorem untilEot_answer {frames : List (UInt8 × List UInt8)}
    (answers : ∀ frame ∈ frames, Answers frame) {turns : Nat} (enough : frames.length < turns)
    (result : ρ) (rest : List UInt8) :
    untilEot keep turns result (answer frames ++ rest) =
      some (frames.foldl (fun result frame => keep result frame.1 frame.2) result, rest) := by
  induction frames generalizing turns result with
  | nil =>
      cases turns with
      | zero => cases enough
      | succ turns => exact untilEot_sync keep turns result rest
  | cons frame later inductionHypothesis =>
      cases turns with
      | zero => cases enough
      | succ turns =>
          have own := answers frame List.mem_cons_self
          have whole : answer (frame :: later) ++ rest =
              (Item.frame frame.1 frame.2).bytes ++ (answer later ++ rest) := by
            unfold answer
            rw [encode_cons]
            simp only [List.append_assoc]
          rw [whole, untilEot_frame keep turns result own.plain own.fits,
            inductionHypothesis (fun other member => answers other (List.mem_cons_of_mem _ member))
              (Nat.lt_of_succ_lt_succ enough)]
          rfl

/-- A reader takes an answer, and leaves what follows it. -/
theorem readAnswer_answer {frames : List (UInt8 × List UInt8)}
    (answers : ∀ frame ∈ frames, Answers frame) (result : ρ) (rest : List UInt8) :
    readAnswer keep result (answer frames ++ rest) =
      some (frames.foldl (fun result frame => keep result frame.1 frame.2) result, rest) := by
  apply untilEot_answer keep answers
  have few := length_le_encode frames
  unfold answer
  rw [List.length_append, List.length_append, List.length_singleton]
  omega

/-- Before the end of an answer a reader waits. -/
theorem untilEot_waits {frames : List (UInt8 × List UInt8)}
    (answers : ∀ frame ∈ frames, Answers frame) (turns : Nat) (result : ρ)
    {front back : List UInt8} (split : answer frames = front ++ back) (more : back ≠ []) :
    untilEot keep turns result front = none := by
  induction frames generalizing turns result front with
  | nil =>
      cases turns with
      | zero => rfl
      | succ turns =>
          cases front with
          | nil => rfl
          | cons first front =>
              obtain ⟨_, nothing⟩ := List.cons.inj split
              exact absurd (List.append_eq_nil_iff.mp nothing.symm).2 more
  | cons frame later inductionHypothesis =>
      have own := answers frame List.mem_cons_self
      have whole : answer (frame :: later) =
          (Item.frame frame.1 frame.2).bytes ++ answer later := by
        unfold answer
        rw [encode_cons, List.append_assoc]
      rw [whole] at split
      rcases List.append_eq_append_iff.mp split with ⟨beyond, frontEq, laterEq⟩ | ⟨within, itemEq, backEq⟩
      · cases turns with
        | zero => rfl
        | succ turns =>
            rw [frontEq, untilEot_frame keep turns result own.plain own.fits]
            exact inductionHypothesis
              (fun other member => answers other (List.mem_cons_of_mem _ member)) _ _ laterEq
      · by_cases all : within = []
        · subst all
          rw [List.append_nil] at itemEq
          cases turns with
          | zero => rfl
          | succ turns =>
              have read := untilEot_frame keep turns result own.plain own.fits []
              rw [List.append_nil, itemEq] at read
              rw [read]
              exact @inductionHypothesis
                (fun other member => answers other (List.mem_cons_of_mem _ member)) _ _ []
                backEq.symm
        · exact untilEot_within keep turns result own.plain own.fits itemEq all

end Reading

/-! ### What a packed structure gives back -/

/-- The four bytes of a word. -/
def joinWord (word : UInt32) : UInt32 :=
  ((word >>> 24).toUInt8.toUInt32 <<< 24) ||| ((word >>> 16).toUInt8.toUInt32 <<< 16) |||
    ((word >>> 8).toUInt8.toUInt32 <<< 8) ||| (word &&& 0xFF).toUInt8.toUInt32

@[simp] theorem joinWord_eq (word : UInt32) : joinWord word = word := join32_putBe32 word

/-- The harness reads the actuator frame that the simulation wrote. -/
@[simp] theorem unpackActuator_bytes (act : ActuatorFrame) : unpackActuator act.bytes = act := by
  have read : unpackActuator act.bytes =
      ⟨⟨joinWord act.mtqDipole.x, joinWord act.mtqDipole.y, joinWord act.mtqDipole.z⟩,
        ⟨joinWord act.rwTorque.x, joinWord act.rwTorque.y, joinWord act.rwTorque.z⟩,
        act.controller, joinWord act.simTime⟩ := rfl
  rw [read]
  simp only [joinWord_eq]

@[simp] theorem packSensor_length (sensor : SensorFrame) : (packSensor sensor).length = 47 := rfl

/-- A word behind other bytes. -/
theorem wordAt_append (front rest : List UInt8) (offset : Nat) :
    wordAt (front ++ rest) (front.length + offset) = wordAt rest offset := by
  have byte (k : Nat) : byteAt (front ++ rest) (front.length + k) = byteAt rest k := by
    unfold byteAt
    rw [List.getD_append_right _ _ _ _ (Nat.le_add_right _ k), Nat.add_sub_cancel_left]
  unfold wordAt
  rw [Nat.add_assoc, Nat.add_assoc, Nat.add_assoc, byte, byte, byte, byte]

theorem wordAt_putWord (word : UInt32) (rest : List UInt8) :
    wordAt (putWord word ++ rest) 0 = word := joinWord_eq word

/-- The words of a vector behind other bytes. -/
theorem wordAt_putVec3 (v : Vec3) (rest : List UInt8) :
    wordAt (putVec3 v ++ rest) 0 = v.x ∧ wordAt (putVec3 v ++ rest) 4 = v.y ∧
      wordAt (putVec3 v ++ rest) 8 = v.z := by
  unfold putVec3
  rw [List.append_assoc, List.append_assoc]
  refine ⟨wordAt_putWord _ _, ?_, ?_⟩
  · exact (wordAt_append (putWord v.x) _ 0).trans (wordAt_putWord _ _)
  · exact (wordAt_append (putWord v.x) _ 4).trans
      ((wordAt_append (putWord v.y) _ 0).trans (wordAt_putWord _ _))

theorem wordAt_putQuat (q : Quat) (rest : List UInt8) :
    wordAt (putQuat q ++ rest) 0 = q.w ∧ wordAt (putQuat q ++ rest) 4 = q.x ∧
      wordAt (putQuat q ++ rest) 8 = q.y ∧ wordAt (putQuat q ++ rest) 12 = q.z := by
  unfold putQuat
  rw [List.append_assoc, List.append_assoc, List.append_assoc]
  refine ⟨wordAt_putWord _ _, ?_, ?_, ?_⟩
  · exact (wordAt_append (putWord q.w) _ 0).trans (wordAt_putWord _ _)
  · exact (wordAt_append (putWord q.w) _ 4).trans
      ((wordAt_append (putWord q.x) _ 0).trans (wordAt_putWord _ _))
  · exact (wordAt_append (putWord q.w) _ 8).trans ((wordAt_append (putWord q.x) _ 4).trans
      ((wordAt_append (putWord q.y) _ 0).trans (wordAt_putWord _ _)))

/-- The simulation reads the sensor frame that the harness packed. -/
theorem simParseSensor_pack (sensor : SensorFrame) :
    simParseSensor (packSensor sensor) = some sensor := by
  let afterMag := putQuat sensor.stQ ++ ([sensor.stValid] ++ (putVec3 sensor.gyro ++
    ([sensor.gyroValid] ++ putWord sensor.simTime)))
  have split : packSensor sensor = putVec3 sensor.mag ++ ([sensor.magValid] ++ afterMag) := by
    simp only [packSensor, afterMag, List.append_assoc]
  have behind (offset : Nat) : wordAt (packSensor sensor) (13 + offset) = wordAt afterMag offset := by
    rw [split, ← List.append_assoc]
    exact wordAt_append (putVec3 sensor.mag ++ [sensor.magValid]) afterMag offset
  have behindQ (offset : Nat) : wordAt (packSensor sensor) (30 + offset) =
      wordAt (putVec3 sensor.gyro ++ ([sensor.gyroValid] ++ putWord sensor.simTime)) offset := by
    rw [show 30 + offset = 13 + (17 + offset) by omega, behind]
    exact wordAt_append (putQuat sensor.stQ ++ [sensor.stValid]) _ offset
  have time : wordAt (packSensor sensor) 43 = sensor.simTime :=
    (behindQ 13).trans ((wordAt_append (putVec3 sensor.gyro ++ [sensor.gyroValid]) _ 0).trans
      (joinWord_eq sensor.simTime))
  obtain ⟨magX, magY, magZ⟩ := wordAt_putVec3 sensor.mag ([sensor.magValid] ++ afterMag)
  obtain ⟨w, x, y, z⟩ := wordAt_putQuat sensor.stQ ([sensor.stValid] ++ (putVec3 sensor.gyro ++
    ([sensor.gyroValid] ++ putWord sensor.simTime)))
  obtain ⟨gyroX, gyroY, gyroZ⟩ := wordAt_putVec3 sensor.gyro
    ([sensor.gyroValid] ++ putWord sensor.simTime)
  rw [← split] at magX magY magZ
  have flags : byteAt (packSensor sensor) 12 = sensor.magValid ∧
      byteAt (packSensor sensor) 29 = sensor.stValid ∧
      byteAt (packSensor sensor) 42 = sensor.gyroValid := ⟨rfl, rfl, rfl⟩
  unfold simParseSensor
  rw [if_neg (by simp [sensorFrameLen]), magX, magY, magZ, (behind 0).trans w, (behind 4).trans x,
    (behind 8).trans y, (behind 12).trans z, (behindQ 0).trans gyroX, (behindQ 4).trans gyroY,
    (behindQ 8).trans gyroZ, time, flags.1, flags.2.1, flags.2.2]

/-! ### What a built packet is -/

/-- The primary header of `build_tc`. -/
def buildHdr (apid : UInt16) (dataLen : UInt16) : PrimaryHdr where
  version := 0
  type := spTypeTc
  secHdrFlag := 1
  apid := apid
  seqFlags := spSeqUnsegmented
  seqCount := 0
  dataLen := dataLen

theorem buildTc_eq (apid : UInt16) (svc subsvc : UInt8) (data : List UInt8) :
    buildTc apid svc subsvc data =
      spEncodePrimary (buildHdr apid (UInt16.ofNat (6 + 5 + data.length - 7))) ++
        ([0x20, svc, subsvc, 0, 0] ++ data) := by
  have masked : (apid &&& 0x7FF).toNat = apid.toNat % 2 ^ 11 := toNat_and16 11 rfl apid
  have joined : (0x1800 ||| (apid &&& 0x7FF)).toNat = 0x1800 + apid.toNat % 2 ^ 11 := by
    rw [UInt16.toNat_or, masked]
    exact or_eq_add 11 rfl (Nat.mod_lt _ (by decide))
  have fits := apid.toNat_lt
  have first : ((0x1800 ||| (apid &&& 0x7FF)) >>> 8).toUInt8 =
      (((0 : UInt8) &&& 0x07) <<< 5) ||| ((spTypeTc &&& 0x01) <<< 4) |||
        (((1 : UInt8) &&& 0x01) <<< 3) ||| ((apid >>> 8) &&& 0x07).toUInt8 := by
    apply UInt8.toNat_inj.mp
    rw [highByte_toNat, joined, packetIdByte_toNat]
    show _ = 0 % 8 * 32 + (1 % 2 * 16 + (1 % 2 * 8 + apid.toNat / 256 % 8))
    omega
  have second : ((0x1800 ||| (apid &&& 0x7FF)) &&& 0xFF).toUInt8 = (apid &&& 0xFF).toUInt8 := by
    apply UInt8.toNat_inj.mp
    rw [lowByte_toNat, joined, lowByte_toNat]
    omega
  have third : putBe16 0xC000 = [((spSeqUnsegmented &&& 0x03) <<< 6) |||
      (((0 : UInt16) >>> 8) &&& 0x3F).toUInt8, ((0 : UInt16) &&& 0xFF).toUInt8] := by
    decide
  unfold buildTc
  rw [third, List.append_assoc]
  unfold putBe16 spEncodePrimary buildHdr
  rw [first, second]
  rfl

/-- The dispatcher reads the packet that `build_tc` built. -/
theorem tcParse_buildTc (apid : UInt16) (svc subsvc : UInt8) (data : List UInt8)
    (fits : data.length + 5 < 65536) :
    tcParse (buildTc apid svc subsvc data) = some (some {
      apid := apid &&& 0x7FF
      service := svc
      subservice := subsvc
      seqCount := 0
      userData := if data = [] then none else some data }) := by
  have length : (UInt16.ofNat (6 + 5 + data.length - 7)).toNat = data.length + 4 := by
    rw [UInt16.toNat_ofNat']
    omega
  rw [buildTc_eq]
  generalize UInt16.ofNat (6 + 5 + data.length - 7) = dataLen at length
  let payload : List UInt8 := [0x20, svc, subsvc, 0, 0] ++ data
  have payloadLength : payload.length = data.length + 5 := by
    simp only [payload, List.length_append, List.length_cons, List.length_nil]
    omega
  have below : dataLen ≠ 0xFFFF := by
    intro last
    rw [last, show (0xFFFF : UInt16).toNat = 65535 from rfl] at length
    omega
  have parsed : spParse (spEncodePrimary (buildHdr apid dataLen) ++ payload) =
      some (.ok ⟨(buildHdr apid dataLen).truncated, payload.take (dataLen + 1).toNat⟩) :=
    spParse_encode rfl (by
      rw [payloadLength]
      show dataLen.toNat + 1 ≤ _
      omega)
  rw [payloadLen_toNat below, List.take_of_length_le (by omega)] at parsed
  have long : ¬ payload.length < pusTcSecHdrLen := by
    rw [payloadLength]
    exact Nat.not_lt.mpr (Nat.le_add_left 5 _)
  have accepted : ¬ ((buildHdr apid dataLen).truncated.secHdrFlag = 0 ∨
      payload.length < pusTcSecHdrLen) := by
    rintro (none | short)
    · exact absurd (show (1 : UInt8) &&& 0x01 = 0 from none) (by decide)
    · exact long short
  have user : (if payload.length > pusTcSecHdrLen then some (payload.drop pusTcSecHdrLen)
      else none) = if data = [] then none else some data := by
    cases data with
    | nil => rfl
    | cons first rest =>
        rw [if_pos (by rw [payloadLength]; exact Nat.succ_le_succ (Nat.le_add_left 5 _)),
          if_neg (List.cons_ne_nil first rest)]
        rfl
  unfold tcParse
  rw [show spParse _ = _ from parsed]
  simp only [Option.bind_eq_bind, Option.bind_some]
  rw [if_neg accepted]
  show some (some (Tc.mk (apid &&& 0x7FF) svc subsvc (0 &&& 0x3FFF) _)) = _
  rw [user]
  rfl

end Openobsw.Tools
