import Openobsw.Tm.Store
import Openobsw.Util.Bytes

/-!
Owns the TMTC task (`task/tmtc.c`): the loop that assembles uplink frames byte by byte, and
the drain of the TM store onto the UART with a label behind each packet. Other tasks put
telemetry into the store at any time. `none` is an access outside an object.
-/

namespace Openobsw.Task

open Openobsw.Tm Openobsw.Util

variable {cfg : Config}

def wireTc : UInt8 := 0x01

def wireTm : UInt8 := 0x04

def wireEot : UInt8 := 0xFF

/-- `OBSW_TC_FRAME_MAX` -/
def tcFrameMax : Nat := 512

def tmLogDepth : Nat := 8

/-! ### TM downlink -/

/-- `obsw_tm_log_entry_t` -/
structure TmLogEntry where
  svc : UInt8
  subsvc : UInt8
deriving DecidableEq, Repr

/-- The part of `obsw_tm_log_t` that this task writes. -/
structure TmLog where
  buf : Vector TmLogEntry tmLogDepth
  writeIdx : UInt8

def TmLog.init : TmLog where
  buf := Vector.replicate tmLogDepth ⟨0, 0⟩
  writeIdx := 0

theorem TmLog.index_lt (log : TmLog) : log.writeIdx.toNat % tmLogDepth < tmLogDepth :=
  Nat.mod_lt _ (by decide)

def TmLog.write (log : TmLog) (entry : TmLogEntry) : TmLog where
  buf := log.buf.set (log.writeIdx.toNat % tmLogDepth) entry log.index_lt
  writeIdx := log.writeIdx + 1

/-- `uint8_t buf[16]` of `tm_uart_label` -/
def labelBufLen : Nat := 16

/-- The stores `buf[i++] = byte` of some bytes, in order. -/
def labelStore (buf bytes : List UInt8) : Option (List UInt8) :=
  if buf.length + bytes.length ≤ labelBufLen then some (buf ++ bytes) else none

/-- The one or two characters of a number; past 99 the first one is no digit. -/
def labelNumber (value : UInt8) : List UInt8 :=
  if value ≥ 10 then [0x30 + value / 10, 0x30 + value % 10] else [0x30 + value % 10]

/-- `tm_uart_label`: the bytes written to the UART. -/
def tmUartLabel (svc subsvc : UInt8) : Option (List UInt8) := do
  let buf ← labelStore [] [0x23, 0x20, 0x54, 0x4D, 0x28]
  let buf ← labelStore buf (labelNumber svc)
  let buf ← labelStore buf [0x2C]
  let buf ← labelStore buf (labelNumber subsvc)
  labelStore buf [0x29, 0x0D, 0x0A]

/-- What the downlink works on. `uart` is what has been written, and `drained` the packets
that have been taken out of the store. -/
structure Downlink (cfg : Config) where
  tmStore : Store cfg
  tmLog : TmLog
  uart : List UInt8
  drained : List (List UInt8)

namespace Downlink

def init (cfg : Config) : Downlink cfg where
  tmStore := Store.init cfg
  tmLog := TmLog.init
  uart := []
  drained := []

def write (down : Downlink cfg) (bytes : List UInt8) : Downlink cfg :=
  { down with uart := down.uart ++ bytes }

/-- The body of the loop of `flush_tm` for a packet taken out of the store. -/
def emit (down : Downlink cfg) (pkt : List UInt8) : Option (Downlink cfg) :=
  let plen := UInt16.ofNat pkt.length
  let down := (down.write (wireTm :: putBe16 plen)).write pkt
  if plen ≥ 9 then do
    let svc ← pkt[7]?
    let subsvc ← pkt[8]?
    let label ← tmUartLabel svc subsvc
    return { down with tmLog := down.tmLog.write ⟨svc, subsvc⟩ }.write label
  else return down

/-- One turn of the loop of `flush_tm`; the inner `none` ends it. -/
def drain (down : Downlink cfg) : Option (Option (Downlink cfg)) :=
  match down.tmStore.dequeue cfg.tmMaxPacketLen with
  | (.ok, pkt, tmStore) =>
      ({ down with tmStore := tmStore, drained := down.drained ++ [pkt] }.emit pkt).map some
  | (_, _, _) => some none

/-- The loop of `flush_tm`, for at most `count` turns. -/
def flushLoop : Nat → Downlink cfg → Option (Downlink cfg)
  | 0, down => some down
  | count + 1, down => do
      match ← down.drain with
      | none => return down
      | some down => flushLoop count down

/-- `flush_tm`. The store holds fewer packets than it has slots. -/
def flushTm (down : Downlink cfg) : Option (Downlink cfg) := flushLoop cfg.tmStoreSlots down

end Downlink

/-! ### TC uplink -/

/-- The `uart_getc` in which the loop waits for a byte, with its local variables. -/
inductive Reading where
  | type
  | hi (type : UInt8)
  | lo (type hi : UInt8)
  | data (type : UInt8) (flen : UInt16) (data : List UInt8)
deriving DecidableEq, Repr

/-- What the uplink works on. `position` counts the bytes read, and `starts` has the positions
at which the type of a frame was read. -/
structure Uplink where
  reading : Reading
  position : Nat
  starts : List Nat
  tcQueue : List (List UInt8)
deriving DecidableEq, Repr

namespace Uplink

def init : Uplink where
  reading := .type
  position := 0
  starts := []
  tcQueue := []

/-- `xQueueSend(s_tc_queue, &item, 0)` to a queue with room. -/
def send (up : Uplink) (item : List UInt8) : Uplink :=
  { up with tcQueue := up.tcQueue ++ [item] }

/-- The loop of `tmtc_task` from one `uart_getc` to the next. -/
def getc (up : Uplink) (byte : UInt8) : Uplink :=
  let next := { up with position := up.position + 1 }
  match up.reading with
  | .type => { next with reading := .hi byte, starts := up.starts ++ [up.position] }
  | .hi type => { next with reading := .lo type byte }
  | .lo type hi =>
      let flen := (hi.toUInt16 <<< 8) ||| byte.toUInt16
      if flen = 0 ∨ flen.toNat > tcFrameMax then { next with reading := .type }
      else { next with reading := .data type flen [] }
  | .data type flen data =>
      let data := data ++ [byte]
      if data.length < flen.toNat then { next with reading := .data type flen data }
      else
        let next := { next with reading := .type }
        if type = wireTc then next.send data else next

end Uplink

/-! ### The task -/

structure Tmtc (cfg : Config) where
  up : Uplink
  down : Downlink cfg

/-- A packet as it is passed to `obsw_tm_store_enqueue`, whose length is a `uint16_t`. -/
structure TmPacket where
  bytes : List UInt8
  lenFits : bytes.length < 2 ^ 16

/-- What happens to the task: a byte is read, a turn finds no byte, or another task stores
telemetry. -/
inductive TmtcEvent where
  | received (byte : UInt8)
  | idle
  | telemetry (pkt : TmPacket)

namespace Tmtc

def init (cfg : Config) : Tmtc cfg where
  up := Uplink.init
  down := Downlink.init cfg

/-- A byte is read; a turn that is over with it flushes and writes the end-of-tick byte. -/
def getc (task : Tmtc cfg) (byte : UInt8) : Option (Tmtc cfg) :=
  let up := task.up.getc byte
  if up.reading = .type then do
    let down ← task.down.flushTm
    return ⟨up, down.write [wireEot]⟩
  else return ⟨up, task.down⟩

/-- A turn that finds the receiver empty. Within a frame the loop waits for the byte instead. -/
def idle (task : Tmtc cfg) : Option (Tmtc cfg) :=
  if task.up.reading = .type then do
    let down ← task.down.flushTm
    return ⟨task.up, down⟩
  else return task

def step (task : Tmtc cfg) : TmtcEvent → Option (Tmtc cfg)
  | .received byte => task.getc byte
  | .idle => task.idle
  | .telemetry pkt =>
      some { task with down := { task.down with
        tmStore := (task.down.tmStore.enqueue pkt.bytes).2 } }

def run (events : List TmtcEvent) (task : Tmtc cfg) : Option (Tmtc cfg) :=
  events.foldlM step task

end Tmtc

/-! ### Every access is inside its object -/

theorem labelStore_eq {buf bytes : List UInt8} (fits : buf.length + bytes.length ≤ labelBufLen) :
    labelStore buf bytes = some (buf ++ bytes) := if_pos fits

theorem labelNumber_length (value : UInt8) : (labelNumber value).length ≤ 2 := by
  unfold labelNumber
  split
  · exact Nat.le_refl 2
  · exact Nat.le_succ 1

/-- The label takes at most 13 of the 16 bytes of its buffer. -/
theorem tmUartLabel_eq (svc subsvc : UInt8) :
    tmUartLabel svc subsvc = some ([0x23, 0x20, 0x54, 0x4D, 0x28] ++ labelNumber svc ++ [0x2C] ++
      labelNumber subsvc ++ [0x29, 0x0D, 0x0A]) := by
  have first := labelNumber_length svc
  have second := labelNumber_length subsvc
  unfold tmUartLabel
  simp only [Option.bind_eq_bind]
  rw [labelStore_eq (by decide), Option.bind_some,
    labelStore_eq (by simp [labelBufLen]; omega), Option.bind_some,
    labelStore_eq (by simp [labelBufLen]; omega), Option.bind_some,
    labelStore_eq (by simp [labelBufLen]; omega), Option.bind_some,
    labelStore_eq (by simp [labelBufLen]; omega)]
  rfl

namespace Downlink

theorem emit_isSome (down : Downlink cfg) (pkt : List UInt8) :
    ∃ after, down.emit pkt = some after := by
  unfold emit
  simp only
  by_cases labelled : UInt16.ofNat pkt.length ≥ 9
  · have long : 9 ≤ pkt.length := by
      have counted : 9 ≤ pkt.length % 65536 := UInt16.le_iff_toNat_le.mp labelled
      exact Nat.le_trans counted (Nat.mod_le _ _)
    rw [if_pos labelled, List.getElem?_eq_getElem (show 7 < pkt.length by omega),
      List.getElem?_eq_getElem (show 8 < pkt.length by omega)]
    simp only [Option.bind_eq_bind, Option.bind_some, tmUartLabel_eq]
    exact ⟨_, rfl⟩
  · rw [if_neg labelled]
    exact ⟨_, rfl⟩

theorem drain_isSome (down : Downlink cfg) : ∃ turn, down.drain = some turn := by
  unfold drain
  split
  · rename_i pkt tmStore taken
    obtain ⟨after, afterEq⟩ := emit_isSome
      { down with tmStore := tmStore, drained := down.drained ++ [pkt] } pkt
    exact ⟨some after, congrArg (Option.map some) afterEq⟩
  · exact ⟨none, rfl⟩

theorem flushLoop_isSome (count : Nat) (down : Downlink cfg) :
    ∃ after, flushLoop count down = some after := by
  induction count generalizing down with
  | zero => exact ⟨down, rfl⟩
  | succ count inductionHypothesis =>
      obtain ⟨turn, turnEq⟩ := down.drain_isSome
      unfold flushLoop
      rw [turnEq]
      cases turn with
      | none => exact ⟨down, rfl⟩
      | some next => exact inductionHypothesis next

theorem flushTm_isSome (down : Downlink cfg) : ∃ after, down.flushTm = some after :=
  flushLoop_isSome _ down

end Downlink

namespace Tmtc

/-- What an event does to the uplink. -/
def uplinkStep (up : Uplink) : TmtcEvent → Uplink
  | .received byte => up.getc byte
  | .idle | .telemetry _ => up

theorem step_up (task : Tmtc cfg) (event : TmtcEvent) :
    ∃ after, task.step event = some after ∧ after.up = uplinkStep task.up event := by
  obtain ⟨flushed, flushedEq⟩ := task.down.flushTm_isSome
  cases event with
  | received byte =>
      unfold step getc
      by_cases isOver : (task.up.getc byte).reading = .type
      · simp only [if_pos isOver, flushedEq]
        exact ⟨_, rfl, rfl⟩
      · simp only [if_neg isOver]
        exact ⟨_, rfl, rfl⟩
  | idle =>
      unfold step idle
      by_cases waiting : task.up.reading = .type
      · rw [if_pos waiting, flushedEq]
        exact ⟨_, rfl, rfl⟩
      · rw [if_neg waiting]
        exact ⟨_, rfl, rfl⟩
  | telemetry pkt => exact ⟨_, rfl, rfl⟩

/-- The bytes read in a run. -/
def received (events : List TmtcEvent) : List UInt8 :=
  events.filterMap fun
    | .received byte => some byte
    | .idle | .telemetry _ => none

/-- A run always goes on, and its uplink depends on the bytes read alone. -/
theorem run_up (events : List TmtcEvent) (task : Tmtc cfg) :
    ∃ after, run events task = some after ∧
      after.up = (received events).foldl Uplink.getc task.up := by
  induction events generalizing task with
  | nil => exact ⟨task, rfl, rfl⟩
  | cons event rest inductionHypothesis =>
      obtain ⟨next, nextEq, up⟩ := task.step_up event
      obtain ⟨after, afterEq, upAfter⟩ := inductionHypothesis next
      refine ⟨after, ?_, ?_⟩
      · unfold run
        rw [List.foldlM_cons, nextEq]
        exact afterEq
      · rw [upAfter, up]
        cases event <;> rfl

end Tmtc

end Openobsw.Task
