import Openobsw.Properties.TmPacket
import Openobsw.Pus.S3Reports

/-!
Owns the content of TM(3,25): an attempt to report a set appends one packet with the set ID
and the value of each parameter, or returns an error and leaves the store alone. Which of the
two happens is decided by the length of the packet and a free slot.
-/

namespace Openobsw.Pus.S3

open Openobsw.Ccsds Openobsw.Lib.Tables Openobsw.Pus.S1 Openobsw.Pus.Handler Openobsw.Util

variable {cfg : Config} {table : List S20.Param} {vars : Variables} {s : Ctx} {set : HkSet}
  {params : List Param}

/-! ### What a report says -/

/-- The number a list of bytes stands for, most significant byte first. -/
def bigEndian (bytes : List UInt8) : Nat :=
  bytes.foldl (fun value byte => value * 256 + byte.toNat) 0

/-- The bytes that the values of these parameters take. -/
def valuesLength (params : List Param) : Nat := (params.map (fun p => p.size.bytes)).sum

/-- The length of the whole TM(3,25): primary and secondary header, set ID and values. -/
def reportLength (params : List Param) : Nat := 6 + 11 + 1 + valuesLength params

/-- The data is the set ID and then each value, big-endian at its size and without a gap. -/
structure Content (vars : Variables) (setId : UInt8) (params : List Param) (data : List UInt8) :
    Prop where
  setId : data[0]? = some setId
  length : data.length = 1 + valuesLength params
  values : ∀ i p, params[i]? = some p → ∃ value, vars.read p.ptr = some value ∧
    bigEndian ((data.drop (1 + valuesLength (params.take i))).take p.size.bytes) =
      value.toNat % 256 ^ p.size.bytes

/-- The variables of the parameters can be read. -/
def Readable (vars : Variables) (params : List Param) : Prop :=
  ∀ p ∈ params, ∃ value, vars.read p.ptr = some value

/-- What an attempt to report a set does to the store, and what it returns. -/
structure Attempt (vars : Variables) (setId : UInt8) (params : List Param)
    (before after : Port cfg) (rc : TmRc) : Prop where
  appended : reportLength params ≤ cfg.tmMaxPacketLen → before.store.full = false →
    rc = .ok ∧ ∃ packet parsed, after.store.queue = before.store.queue ++ [packet] ∧
      packet.length = reportLength params ∧ spParse packet = some (.ok parsed) ∧
      parsed.payload[1]? = some 3 ∧ parsed.payload[2]? = some 25 ∧
      Content vars setId params (parsed.payload.drop 11)
  refused : ¬ (reportLength params ≤ cfg.tmMaxPacketLen ∧ before.store.full = false) →
    rc ≠ .ok ∧ after.store = before.store

/-! ### The values -/

theorem bigEndian_putBe (value : UInt32) (size : ParamSize) :
    bigEndian (putBe value size) = value.toNat % 256 ^ size.bytes := by
  have fits := value.toNat_lt
  cases size with
  | u8 =>
      show 0 * 256 + value.toUInt8.toNat = _
      rw [UInt32.toNat_toUInt8]
      show _ = value.toNat % 256 ^ 1
      omega
  | u16 =>
      show (0 * 256 + (value.toUInt16 >>> 8).toUInt8.toNat) * 256 +
        (value.toUInt16 &&& 0xFF).toUInt8.toNat = _
      rw [highByte_toNat, lowByte_toNat, UInt32.toNat_toUInt16]
      show _ = value.toNat % 256 ^ 2
      omega
  | u32 =>
      show (((0 * 256 + (value >>> 24).toUInt8.toNat) * 256 + (value >>> 16).toUInt8.toNat) * 256 +
        (value >>> 8).toUInt8.toNat) * 256 + (value &&& 0xFF).toUInt8.toNat = _
      rw [UInt32.toNat_toUInt8, UInt32.toNat_toUInt8, UInt32.toNat_toUInt8, UInt32.toNat_toUInt8,
        Lib.Words.toNat_shr32 24 rfl, Lib.Words.toNat_shr32 16 rfl, Lib.Words.toNat_shr32 8 rfl,
        Lib.Words.toNat_and32 8 rfl]
      show _ = value.toNat % 256 ^ 4
      omega

/-- What the reporting loop writes is the content of the report. -/
theorem content_values (readable : Readable vars params) (setId : UInt8) :
    Content vars setId params (setId :: params.flatMap vars.bytes) where
  setId := rfl
  length := by
    rw [List.length_cons, flatMap_bytes_length, Nat.add_comm]
    rfl
  values := by
    intro i p place
    obtain ⟨value, read⟩ := readable p (List.mem_of_getElem? place)
    have bytes : vars.bytes p = putBe value p.size := by
      simp [Variables.bytes, Variables.value, read]
    refine ⟨value, read, ?_⟩
    rw [Nat.add_comm 1, List.drop_succ_cons]
    have slice := bytes_slice vars place
    unfold valuesLength
    rw [slice, bytes, bigEndian_putBe]

/-! ### One attempt -/

theorem setParams_length (selected : setParams s set = some params) :
    params.length = set.paramCount.toNat := by
  unfold setParams at selected
  cases pointer : set.params with
  | boot entries =>
      rw [pointer] at selected
      simp only at selected
      split at selected
      · rename_i enough
        cases selected
        rw [List.length_take, Nat.min_eq_left enough]
      · cases selected
  | pool offset =>
      rw [pointer] at selected
      obtain ⟨pool, _, selected⟩ := Option.bind_eq_some_iff.mp selected
      split at selected
      · rename_i enough
        cases selected
        rw [List.length_take, List.length_drop]
        omega
      · cases selected

/-- A refused build leaves the store alone. -/
theorem put_store_of_refused {request : TmRequest} {port : Port cfg}
    (refused : (port.put request).1 ≠ .ok) : (port.put request).2.store = port.store := by
  unfold Port.put at refused ⊢
  split
  · rfl
  · rename_i within
    rw [if_neg within] at refused
    have failed : (port.store.enqueue (request.packet.take request.total)).1 ≠ .ok := by
      intro stored
      apply refused
      exact if_pos stored
    show (port.store.enqueue (request.packet.take request.total)).2 = port.store
    unfold Tm.Store.enqueue at failed ⊢
    split
    · rfl
    · rename_i short
      rw [if_neg short] at failed
      split
      · rfl
      · rename_i room
        rw [if_neg room] at failed
        exact absurd rfl failed

/-- Every attempt on a set whose variables can be read runs to its end and obeys the law. -/
theorem emitHkReport_attempt (atMost : cfg.tmMaxPacketLen ≤ 65535)
    (selected : setParams s set = some params) (readable : Readable vars params) (tm : Port cfg) :
    ∃ rc counter after,
      emitHkReport vars set s tm = some (rc, { s with msgCounter := counter }, after) ∧
        Attempt vars set.setId params tm after rc := by
  have count := setParams_length selected
  have bounded := set.paramCount.toNat_lt
  have few : params.length ≤ 255 := by omega
  have length : (params.flatMap vars.bytes).length = valuesLength params :=
    flatMap_bytes_length vars params
  have limit := flatMap_bytes_length_le vars params
  have positive := cfg.packetNonempty
  have buffer : reportBufLen cfg = cfg.tmMaxPacketLen - 1 := Nat.mod_eq_of_lt (by omega)
  rw [emitHkReport_eq selected few readable, buffer, length]
  by_cases inside : valuesLength params ≤ cfg.tmMaxPacketLen - 1
  · rw [if_pos inside]
    have size : (request s set (params.flatMap vars.bytes)).data.length =
        1 + valuesLength params := by
      show (set.setId :: params.flatMap vars.bytes).length = _
      rw [List.length_cons, length, Nat.add_comm]
    have small : (request s set (params.flatMap vars.bytes)).data.length ≤ 65518 := by omega
    refine ⟨_, _, _, rfl, ?_⟩
    constructor
    case appended =>
      intro fits room
      have within : 17 + (request s set (params.flatMap vars.bytes)).data.length ≤
          cfg.tmMaxPacketLen := by
        rw [size]
        unfold reportLength at fits
        omega
      have total := TmRequest.total_eq small
      have whole := (request s set (params.flatMap vars.bytes)).packet_length
      rw [TmRequest.dataLen_eq (by omega)] at whole
      obtain ⟨after, built, queue⟩ := put_stored (whole ▸ within) (total ▸ within) room
      obtain ⟨parsed, accepted, decoded⟩ := TmRequest.packet_parsed small
      rw [total, ← whole, List.take_length] at queue
      rw [pusTmBuild_eq_put (TmRequest.inside_of_small cfg small)] at built
      have outcome := Option.some.inj built
      refine ⟨congrArg Prod.fst outcome, _, parsed, ?_, ?_, accepted, decoded.svc,
        decoded.subsvc, ?_⟩
      · rw [← queue]
        exact congrArg (fun out => out.2.store.queue) outcome
      · rw [whole, size]
        unfold reportLength
        omega
      · rw [decoded.data]
        exact content_values readable set.setId
    case refused =>
      intro refused
      have failed : (tm.put (request s set (params.flatMap vars.bytes))).1 ≠ .ok := by
        intro ok
        apply refused
        have stored := (put_ok_iff tm _ (Nat.le_trans (TmRequest.dataLen_le _) small)).mp ok
        rw [TmRequest.dataLen_eq (by omega), size] at stored
        unfold reportLength
        exact ⟨by omega, stored.2⟩
      exact ⟨failed, put_store_of_refused failed⟩
  · rw [if_neg inside]
    refine ⟨_, s.msgCounter, tm, rfl, ?_⟩
    constructor
    case appended =>
      intro fits _
      unfold reportLength at fits
      omega
    case refused =>
      intro _
      exact ⟨by decide, rfl⟩

/-! ### The two callers -/

/-- Attempts on a list of sets, one after the other. -/
inductive Attempts (s : Ctx) (vars : Variables) : List HkSet → Port cfg → Port cfg → Prop
  | nil (port : Port cfg) : Attempts s vars [] port port
  | cons {set : HkSet} {rest : List HkSet} {params : List Param} {before middle after : Port cfg}
      {rc : TmRc} (selected : setParams s set = some params)
      (first : Attempt vars set.setId params before middle rc)
      (others : Attempts s vars rest middle after) : Attempts s vars (set :: rest) before after

/-- The sets can be reported: each has its parameters, and their variables can be read. -/
def SetsReadable (s : Ctx) (vars : Variables) (sets : List HkSet) : Prop :=
  ∀ set ∈ sets, ∃ params, setParams s set = some params ∧ Readable vars params

theorem tickFrom_attempts (atMost : cfg.tmMaxPacketLen ≤ 65535) {rest : List HkSet}
    (reportable : SetsReadable s vars (reporting rest)) :
    ∀ {now : Ctx} (tm : Port cfg) (index : Nat), now.paramPool = s.paramPool →
      now.sets.drop index = rest →
      ∃ after later, tickFrom vars rest.length index now tm = some (after, later) ∧
        Attempts s vars (reporting rest) tm later := by
  induction rest with
  | nil =>
      intro now tm index _ _
      exact ⟨now, tm, rfl, .nil tm⟩
  | cons set rest inductionHypothesis =>
      intro now tm index samePool ahead
      have place := getElem?_of_drop ahead
      have behind : ∀ (counter : UInt16) (change : HkSet → HkSet),
          (modifySet index change { now with msgCounter := counter }).sets.drop (index + 1) =
            rest :=
        fun _ change => drop_succ_modify ahead change
      have others : SetsReadable s vars (reporting rest) := by
        intro other member
        apply reportable other
        unfold reporting at member ⊢
        rw [List.mem_filter] at member ⊢
        exact ⟨List.mem_cons_of_mem set member.1, member.2⟩
      show ∃ after later, tickFrom vars (rest.length + 1) index now tm = _ ∧ _
      unfold tickFrom tickSet
      simp only [place, Option.bind_eq_bind, Option.bind_some]
      cases due : set.ticked.1 with
      | false =>
          have skipped : reporting (set :: rest) = reporting rest :=
            List.filter_cons_of_neg (by simp [due])
          obtain ⟨after, later, ran, attempts⟩ := @inductionHypothesis others
            (modifySet index (fun _ => set.ticked.2) now) tm (index + 1) samePool
            (behind now.msgCounter _)
          refine ⟨after, later, ran, ?_⟩
          rw [skipped]
          exact attempts
      | true =>
          have listed : reporting (set :: rest) = set :: reporting rest :=
            List.filter_cons_of_pos due
          obtain ⟨params, selected, readable⟩ :=
            reportable set (by rw [listed]; exact List.mem_cons_self)
          have selectedNow : setParams now set = some params := by
            unfold setParams at selected ⊢
            rw [samePool]
            exact selected
          obtain ⟨rc, counter, middle, emitted, attempt⟩ :=
            emitHkReport_attempt atMost selectedNow readable tm
          obtain ⟨after, later, ran, attempts⟩ := @inductionHypothesis others
            (modifySet index (fun _ => set.ticked.2) { now with msgCounter := counter })
            middle (index + 1) samePool (behind counter _)
          refine ⟨after, later, ?_, ?_⟩
          · simp only [if_true, emitted, Option.bind_some]
            exact ran
          · rw [listed]
            exact .cons selected attempt attempts

/-! ### Sets made by TC(3,1) -/

theorem valuesLength_u32 {params : List Param} (wide : ∀ p ∈ params, p.size = .u32) :
    valuesLength params = 4 * params.length := by
  induction params with
  | nil => rfl
  | cons p rest inductionHypothesis =>
      have tail := inductionHypothesis (fun q member => wide q (List.mem_cons_of_mem p member))
      unfold valuesLength at tail ⊢
      rw [List.map_cons, List.sum_cons, tail, wide p List.mem_cons_self, List.length_cons]
      show 4 + 4 * rest.length = _
      omega

/-- The set that TC(3,1) makes points to the entries it has put behind the used pool. -/
theorem create_setParams {setId n : UInt8} {interval : UInt32} {ids : List UInt16} {after : Ctx}
    (count : ids.length = n.toNat)
    (created : create table setId interval n ids s = some after) :
    ∃ set params, after.sets = s.sets ++ [set] ∧ setParams after set = some params ∧
      params.length = n.toNat ∧ ∀ p ∈ params, p.size = .u32 := by
  unfold create at created
  obtain ⟨pool, _, created⟩ := Option.bind_eq_some_iff.mp created
  obtain ⟨params, entries, created⟩ := Option.bind_eq_some_iff.mp created
  obtain ⟨extended, appended, created⟩ := Option.bind_eq_some_iff.mp created
  obtain ⟨sets, pushed, created⟩ := Option.bind_eq_some_iff.mp created
  unfold appendWithin at appended
  unfold pushWithin at pushed
  split at appended
  case isFalse => cases appended
  split at pushed
  case isFalse => cases pushed
  cases appended
  cases pushed
  cases created
  have length : params.length = n.toNat :=
    ((mapM_eq_some_iff.mp entries).length_eq.symm).trans count
  refine ⟨_, params, rfl, ?_, length, ?_⟩
  · show (if pool.length + n.toNat ≤ (pool ++ params).length then _ else _) = _
    rw [if_pos (by rw [List.length_append]; omega), List.drop_left, ← length, List.take_length]
  · intro p member
    obtain ⟨id, _, entry⟩ := exists_of_mem_mapM entries member
    obtain ⟨index, _, same⟩ := Option.map_eq_some_iff.mp entry
    rw [← same]

/-- An accepted TC(3,1) makes a set whose report fits. -/
theorem define_fits (atLeast : 17 ≤ cfg.tmMaxPacketLen) (atMost : cfg.tmMaxPacketLen ≤ 65535)
    {tc : Tc} {link later : Link cfg} {after : Ctx}
    (ran : define table tc s link = some (0, after, later)) :
    ∃ set params, after.sets = s.sets ++ [set] ∧ setParams after set = some params ∧
      reportLength params ≤ cfg.tmMaxPacketLen := by
  rcases define_cases table tc s link with rejected | accepted
  · obtain ⟨code, _, shape⟩ := rejected
    rw [shape, reject_eq] at ran
    cases ran
  · obtain ⟨u, setId, interval, n, ids, _, requested, shape⟩ := accepted
    rw [shape] at ran
    cases created : create table setId interval n ids s with
    | none =>
        rw [execute_none tc created] at ran
        cases ran
    | some made =>
        rw [execute_eq tc created] at ran
        cases ran
        obtain ⟨set, params, sets, selected, length, wide⟩ :=
          create_setParams requested.length created
        have fits := requested.fits
        refine ⟨set, params, sets, selected, ?_⟩
        unfold maxReportData at fits
        unfold reportLength
        rw [valuesLength_u32 wide, length]
        omega

/-! ### Every report -/

/-- The sets of a table that represents structures can all be reported. -/
theorem Represents.setsReadable {structures : List Structure}
    (represents : Represents cfg table s structures) (same : vars.table = table) :
    SetsReadable s vars s.sets := by
  intro set member
  obtain ⟨index, place⟩ := List.mem_iff_getElem?.mp member
  have inside : index < structures.length := by
    obtain ⟨inRange, _⟩ := List.getElem?_eq_some_iff.mp place
    rwa [represents.sets, layout_length] at inRange
  have split : structures =
      structures.take index ++ structures[index] :: structures.drop (index + 1) := by
    rw [List.getElem_cons_drop, List.take_append_drop]
  have rendered := represents.getElem?_eq split
  rw [List.length_take, Nat.min_eq_left (Nat.le_of_lt inside), place] at rendered
  cases rendered
  exact ⟨_, represents.setParams_eq split, represents.readable (List.getElem_mem inside) same⟩

/-- What TM(3,25) can be relied on for, in every state of the service and of the TM store. The
sets that a run from a boot configuration leads to are readable. -/
structure ReportsContent (cfg : Config) : Prop where
  onDemand : ∀ (vars : Variables) (s : Ctx) (tm : Port cfg) (setId : UInt8) (index : Nat)
    (set : HkSet) (params : List Param), findSet s.sets setId = some index →
    s.sets[index]? = some set → setParams s set = some params → Readable vars params →
    ∃ rc s' after, report vars setId s tm = some (some rc, s', after) ∧
      Attempt vars setId params tm after rc
  periodic : ∀ (vars : Variables) (s : Ctx) (tm : Port cfg),
    SetsReadable s vars (reporting s.sets) →
    ∃ s' after, tick vars s tm = some (s', after) ∧ Attempts s vars (reporting s.sets) tm after
  defined : ∀ (table : List S20.Param) (tc : Tc) (s after : Ctx) (link later : Link cfg),
    define table tc s link = some (0, after, later) →
    ∃ set params, after.sets = s.sets ++ [set] ∧ setParams after set = some params ∧
      reportLength params ≤ cfg.tmMaxPacketLen
  reached : ∀ (vars : Variables) (s : Ctx) (structures : List Structure),
    Represents cfg vars.table s structures → SetsReadable s vars s.sets

/-- Each report attempt, in a tick or on demand, appends one packet with the set ID and the
values of the parameters when the packet is within the limit and a slot is free, and otherwise
returns an error and leaves the store alone. The sets of TC(3,1) are within the limit. -/
theorem reports_content (atLeast : 17 ≤ cfg.tmMaxPacketLen)
    (atMost : cfg.tmMaxPacketLen ≤ 65535) : ReportsContent cfg where
  onDemand := by
    intro vars s tm setId index set params found place selected readable
    obtain ⟨other, otherPlace, named⟩ := findKey_some found
    rw [place] at otherPlace
    cases otherPlace
    obtain ⟨rc, counter, after, emitted, attempt⟩ :=
      emitHkReport_attempt atMost selected readable tm
    rw [named] at attempt
    refine ⟨rc, { s with msgCounter := counter }, after, ?_, attempt⟩
    unfold report
    simp only [found, place, emitted, Option.bind_eq_bind, Option.bind_some]
    rfl
  periodic := by
    intro vars s tm readable
    exact tickFrom_attempts atMost readable tm 0 rfl List.drop_zero
  defined := by
    intro table tc s after link later ran
    exact define_fits atLeast atMost ran
  reached := by
    intro vars s structures represents
    exact represents.setsReadable rfl

theorem reports_content_default : ReportsContent Config.default :=
  reports_content (by decide) (by decide)

end Openobsw.Pus.S3
