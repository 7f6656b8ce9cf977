import Mathlib.Data.List.Basic
import Openobsw.Lib.Framing
import Openobsw.Properties.PacketQueue
import Openobsw.Task.Tmtc
import Openobsw.Tools.PingUart

/-!
Owns the TM downlink from the store to the ground tool: packets, labels and end-of-tick bytes
share one stream without escapes, and the ground tool finds the packets in it, also while it
is still being received.
-/

namespace Openobsw.Task

open Openobsw.Lib Openobsw.Lib.Framing Openobsw.Tm Openobsw.Tools Openobsw.Util

variable {cfg : Config}

/-! ### What is in the stream -/

/-- An item of the stream. -/
inductive DownlinkItem where
  | packet (pkt : TmPacket)
  | eot

/-- The label behind a packet, for the terminal. -/
def labelBytes (pkt : List UInt8) : List UInt8 :=
  if 9 ≤ pkt.length then (tmUartLabel (pkt.getD 7 0) (pkt.getD 8 0)).getD [] else []

namespace DownlinkItem

def bytes : DownlinkItem → List UInt8
  | packet pkt =>
      wireTm :: (putBe16 (UInt16.ofNat pkt.bytes.length) ++ pkt.bytes) ++ labelBytes pkt.bytes
  | eot => [wireEot]

/-- What the ground tool is to find in an item. -/
def result : DownlinkItem → List (UInt8 × UInt8 × List UInt8)
  | packet pkt => tmResult pkt.bytes
  | eot => []

/-- The packet of an item. -/
def drained : DownlinkItem → List (List UInt8)
  | packet pkt => [pkt.bytes]
  | eot => []

end DownlinkItem

/-! ### Label bytes are no marks -/

theorem digit_ne_mark {digit : UInt8} (small : digit.toNat < 26) : 0x30 + digit ≠ 0x04 := by
  intro equal
  have value := congrArg UInt8.toNat equal
  rw [UInt8.toNat_add] at value
  change (48 + digit.toNat) % 256 = 4 at value
  omega

theorem labelNumber_ne_mark {value byte : UInt8} (member : byte ∈ labelNumber value) :
    byte ≠ 0x04 := by
  have range := value.toNat_lt
  have tens : (value / 10).toNat < 26 := by
    rw [UInt8.toNat_div]
    change value.toNat / 10 < 26
    omega
  have ones : (value % 10).toNat < 26 := by
    rw [UInt8.toNat_mod]
    change value.toNat % 10 < 26
    omega
  unfold labelNumber at member
  split at member
  · rcases List.mem_cons.mp member with rfl | last
    · exact digit_ne_mark tens
    · rw [List.mem_singleton.mp last]
      exact digit_ne_mark ones
  · rw [List.mem_singleton.mp member]
    exact digit_ne_mark ones

theorem labelBytes_ne_mark {pkt : List UInt8} {byte : UInt8} (member : byte ∈ labelBytes pkt) :
    byte ≠ 0x04 := by
  unfold labelBytes at member
  split at member
  · rw [tmUartLabel_eq, Option.getD_some] at member
    simp only [List.mem_append] at member
    rcases member with (((opening | svc) | comma) | subsvc) | closing
    · rintro rfl
      simp at opening
    · exact labelNumber_ne_mark svc
    · rintro rfl
      simp at comma
    · exact labelNumber_ne_mark subsvc
    · rintro rfl
      simp at closing
  · cases member

theorem decode_label {pkt front rest : List UInt8} (isPrefix : front <+: labelBytes pkt) :
    decodeTmPackets (front ++ rest) = decodeTmPackets rest :=
  decodeTmPackets_skips (fun _ member => labelBytes_ne_mark (isPrefix.subset member)) rest

/-! ### The ground tool reads the items -/

theorem lenFits_toNat (pkt : TmPacket) :
    (UInt16.ofNat pkt.bytes.length).toNat = pkt.bytes.length :=
  Nat.mod_eq_of_lt pkt.lenFits

theorem decode_item (item : DownlinkItem) (rest : List UInt8) :
    decodeTmPackets (item.bytes ++ rest) = item.result ++ decodeTmPackets rest := by
  cases item with
  | packet pkt =>
      have body := decodeTmPackets_packet (lenFits_toNat pkt) (labelBytes pkt.bytes ++ rest)
      rw [decode_label (List.prefix_refl _)] at body
      show decodeTmPackets (wireTm :: (putBe16 _ ++ pkt.bytes) ++ labelBytes pkt.bytes ++ rest) = _
      rw [List.append_assoc, List.cons_append, List.append_assoc]
      exact body
  | eot => exact decodeTmPackets_skip (by decide) rest

theorem decode_item_cut (item : DownlinkItem) (front : List UInt8)
    (isPrefix : front <+: item.bytes) : decodeTmPackets front <+: item.result := by
  cases item with
  | packet pkt =>
      have counted := lenFits_toNat pkt
      have framed : wireTm :: (putBe16 (UInt16.ofNat pkt.bytes.length) ++ pkt.bytes) <+:
          (DownlinkItem.packet pkt).bytes := List.prefix_append _ _
      by_cases complete : wireTm :: (putBe16 (UInt16.ofNat pkt.bytes.length) ++ pkt.bytes) <+: front
      · obtain ⟨label, rfl⟩ := complete
        have inLabel : label <+: labelBytes pkt.bytes :=
          (List.prefix_append_right_inj _).mp isPrefix
        have body := decodeTmPackets_packet counted label
        have nothing := @decode_label pkt.bytes label [] inLabel
        rw [List.append_nil, decodeTmPackets_nil] at nothing
        rw [nothing, List.append_nil] at body
        rw [List.cons_append, List.append_assoc]
        exact body ▸ List.prefix_refl _
      · have within := (List.prefix_or_prefix_of_prefix isPrefix framed).resolve_right complete
        have incomplete : front ≠ _ := fun same => complete (same ▸ List.prefix_refl _)
        rw [decodeTmPackets_cut counted within incomplete]
        exact List.nil_prefix
  | eot =>
      have noMark : ∀ b ∈ front, b ≠ wireTm := by
        intro b member
        rw [List.mem_singleton.mp (isPrefix.subset member)]
        decide
      have nothing := decodeTmPackets_skips noMark []
      rw [List.append_nil, decodeTmPackets_nil] at nothing
      rw [nothing]
      exact List.nil_prefix

theorem downlink_framed :
    Framed decodeTmPackets DownlinkItem.bytes DownlinkItem.result where
  nothing := decodeTmPackets_nil
  whole := decode_item
  cut := decode_item_cut

/-! ### What the task writes -/

/-- What happens to the downlink: another task stores a packet, the loop of `flush_tm` makes a
turn, or the end-of-tick byte is written. -/
inductive DownlinkEvent where
  | store (pkt : TmPacket)
  | drain
  | eot

namespace Downlink

def step (down : Downlink cfg) : DownlinkEvent → Option (Downlink cfg)
  | .store pkt => some { down with tmStore := (down.tmStore.enqueue pkt.bytes).2 }
  | .drain => down.drain.map fun turn => turn.getD down
  | .eot => some (down.write [wireEot])

def run (events : List DownlinkEvent) (down : Downlink cfg) : Option (Downlink cfg) :=
  events.foldlM step down

/-- The UART holds the bytes of items, whose packets are those drained, and the store only
holds packets whose length a `uint16_t` can count. -/
structure Written (items : List DownlinkItem) (down : Downlink cfg) : Prop where
  uart : down.uart = items.flatMap DownlinkItem.bytes
  drained : down.drained = items.flatMap DownlinkItem.drained
  lenFits : ∀ pkt ∈ down.tmStore.queue, pkt.length < 2 ^ 16

theorem written_init (cfg : Config) : Written [] (init cfg) where
  uart := rfl
  drained := rfl
  lenFits := by
    intro pkt held
    rw [show (init cfg).tmStore.queue = [] from Store.init_queue cfg] at held
    cases held

variable {items : List DownlinkItem} {down : Downlink cfg}

theorem Written.item (written : Written items down) (item : DownlinkItem) {after : Downlink cfg}
    (uart : after.uart = down.uart ++ item.bytes)
    (drained : after.drained = down.drained ++ item.drained)
    (lenFits : ∀ pkt ∈ after.tmStore.queue, pkt ∈ down.tmStore.queue) :
    Written (items ++ [item]) after where
  uart := by
    rw [uart, written.uart, List.flatMap_append, List.flatMap_singleton]
  drained := by
    rw [drained, written.drained, List.flatMap_append, List.flatMap_singleton]
  lenFits := fun pkt held => written.lenFits pkt (lenFits pkt held)

theorem Written.store (written : Written items down) (pkt : TmPacket) :
    Written items { down with tmStore := (down.tmStore.enqueue pkt.bytes).2 } where
  uart := written.uart
  drained := written.drained
  lenFits := by
    intro held member
    have queue : (down.tmStore.enqueue pkt.bytes).2.queue =
        (Queue.enqueue cfg down.tmStore.queue pkt.bytes).2 :=
      congrArg Prod.snd (down.tmStore.enqueue_queue pkt.bytes)
    rw [show Store.queue _ = _ from queue] at member
    unfold Queue.enqueue at member
    split at member
    · exact written.lenFits held member
    · split at member
      · exact written.lenFits held member
      · rcases List.mem_append.mp member with older | newest
        · exact written.lenFits held older
        · rw [List.mem_singleton.mp newest]
          exact pkt.lenFits

/-- The body of the loop writes the bytes of the packet's item. -/
theorem emit_eq (down : Downlink cfg) (pkt : TmPacket) :
    ∃ after, down.emit pkt.bytes = some after ∧
      after.uart = down.uart ++ (DownlinkItem.packet pkt).bytes ∧
      after.drained = down.drained ∧ after.tmStore = down.tmStore := by
  have counted := lenFits_toNat pkt
  unfold emit
  simp only
  by_cases long : 9 ≤ pkt.bytes.length
  · have labelled : UInt16.ofNat pkt.bytes.length ≥ 9 := by
      show (9 : UInt16) ≤ _
      rw [UInt16.le_iff_toNat_le, counted]
      exact long
    have present : ∀ index < 9, pkt.bytes[index]? = some (pkt.bytes.getD index 0) := by
      intro index inside
      have bound : index < pkt.bytes.length := by omega
      rw [List.getD_eq_getElem?_getD, List.getElem?_eq_getElem bound, Option.getD_some]
    rw [if_pos labelled, present 7 (by omega), present 8 (by omega)]
    simp only [Option.bind_eq_bind, Option.bind_some, tmUartLabel_eq]
    refine ⟨_, rfl, ?_, rfl, rfl⟩
    have label : labelBytes pkt.bytes = (tmUartLabel _ _).getD [] := if_pos long
    show down.uart ++ wireTm :: putBe16 _ ++ pkt.bytes ++ _ =
      down.uart ++ (wireTm :: (putBe16 _ ++ pkt.bytes) ++ labelBytes pkt.bytes)
    rw [label, tmUartLabel_eq, Option.getD_some]
    simp only [List.append_assoc, List.cons_append]
  · have unlabelled : ¬ UInt16.ofNat pkt.bytes.length ≥ 9 := by
      show ¬ (9 : UInt16) ≤ _
      rw [UInt16.le_iff_toNat_le, counted]
      exact long
    rw [if_neg unlabelled]
    refine ⟨_, rfl, ?_, rfl, rfl⟩
    have label : labelBytes pkt.bytes = [] := if_neg long
    show down.uart ++ wireTm :: putBe16 _ ++ pkt.bytes =
      down.uart ++ (wireTm :: (putBe16 _ ++ pkt.bytes) ++ labelBytes pkt.bytes)
    rw [label]
    simp only [List.append_assoc, List.cons_append, List.append_nil]

/-- A turn of the loop ends it or writes the oldest packet of the store. -/
theorem Written.drain (written : Written items down) :
    ∃ turn, down.drain = some turn ∧ ∃ more, Written (items ++ more) (turn.getD down) := by
  unfold Downlink.drain
  split
  · rename_i pkt tmStore taken
    have held := Store.queue_of_dequeue taken
    have lenFits := written.lenFits pkt (by rw [held]; exact List.mem_cons_self)
    obtain ⟨after, afterEq, uart, drained, store⟩ := emit_eq
      { down with tmStore := tmStore, drained := down.drained ++ [pkt] } ⟨pkt, lenFits⟩
    refine ⟨some after, congrArg (Option.map some) afterEq, [.packet ⟨pkt, lenFits⟩], ?_⟩
    refine written.item (.packet ⟨pkt, lenFits⟩) uart drained ?_
    intro other member
    have remains : other ∈ after.tmStore.queue := member
    rw [show after.tmStore = tmStore from store] at remains
    rw [held]
    exact List.mem_cons_of_mem pkt remains
  · exact ⟨none, rfl, [], (List.append_nil items).symm ▸ written⟩

/-- Every event goes through and adds items to the stream. -/
theorem Written.step (written : Written items down) (event : DownlinkEvent) :
    ∃ after, down.step event = some after ∧ ∃ more, Written (items ++ more) after := by
  cases event with
  | store pkt => exact ⟨_, rfl, [], (List.append_nil items).symm ▸ written.store pkt⟩
  | drain =>
      obtain ⟨turn, turnEq, more, writtenMore⟩ := written.drain
      exact ⟨turn.getD down, congrArg (Option.map _) turnEq, more, writtenMore⟩
  | eot =>
      exact ⟨_, rfl, [.eot], written.item .eot rfl (List.append_nil _).symm fun _ member => member⟩

theorem Written.run (written : Written items down) (events : List DownlinkEvent) :
    ∃ after, Downlink.run events down = some after ∧ ∃ more, Written (items ++ more) after := by
  induction events generalizing items down with
  | nil => exact ⟨down, rfl, [], (List.append_nil items).symm ▸ written⟩
  | cons event rest inductionHypothesis =>
      obtain ⟨next, nextEq, more, writtenNext⟩ := written.step event
      obtain ⟨after, afterEq, last, writtenAfter⟩ := inductionHypothesis writtenNext
      refine ⟨after, ?_, more ++ last, (List.append_assoc items more last) ▸ writtenAfter⟩
      unfold Downlink.run
      rw [List.foldlM_cons, nextEq]
      exact afterEq

/-! ### The task as a run of its downlink -/

theorem run_append (first second : List DownlinkEvent) (down : Downlink cfg) :
    Downlink.run (first ++ second) down = (Downlink.run first down).bind (Downlink.run second) :=
  List.foldlM_append

theorem run_single (event : DownlinkEvent) (down : Downlink cfg) :
    Downlink.run [event] down = down.step event := by
  show (down.step event).bind (fun next => some next) = _
  cases down.step event <;> rfl

/-- The loop of `flush_tm` is a number of drains. -/
theorem flushLoop_run {count : Nat} {after : Downlink cfg}
    (flushed : flushLoop count down = some after) :
    ∃ drains : List DownlinkEvent, Downlink.run drains down = some after := by
  induction count generalizing down with
  | zero => exact ⟨[], flushed⟩
  | succ count inductionHypothesis =>
      unfold flushLoop at flushed
      obtain ⟨turn, turnEq, rest⟩ := Option.bind_eq_some_iff.mp flushed
      cases turn with
      | none => exact ⟨[], rest⟩
      | some next =>
          obtain ⟨drains, drainsEq⟩ := inductionHypothesis rest
          refine ⟨.drain :: drains, ?_⟩
          have stepped : down.step .drain = some next := congrArg (Option.map _) turnEq
          unfold Downlink.run at drainsEq ⊢
          rw [List.foldlM_cons, stepped]
          exact drainsEq

theorem emit_tmStore {pkt : List UInt8} {after : Downlink cfg}
    (emitted : down.emit pkt = some after) : after.tmStore = down.tmStore := by
  unfold emit at emitted
  simp only at emitted
  split at emitted
  · obtain ⟨svc, _, emitted⟩ := Option.bind_eq_some_iff.mp emitted
    obtain ⟨subsvc, _, emitted⟩ := Option.bind_eq_some_iff.mp emitted
    obtain ⟨label, _, emitted⟩ := Option.bind_eq_some_iff.mp emitted
    cases emitted
    rfl
  · cases emitted
    rfl

/-- A turn of the loop that goes on leaves one packet less in the store. -/
theorem drain_queue {next : Downlink cfg} (drained : down.drain = some (some next)) :
    down.tmStore.queue.length = next.tmStore.queue.length + 1 := by
  unfold drain at drained
  split at drained
  · rename_i pkt tmStore taken
    obtain ⟨after, emitted, same⟩ := Option.map_eq_some_iff.mp drained
    cases same
    rw [Store.queue_of_dequeue taken, emit_tmStore emitted]
    rfl
  · cases drained

theorem flushLoop_ends {count : Nat} {after : Downlink cfg}
    (few : down.tmStore.queue.length < count) (flushed : flushLoop count down = some after) :
    after.drain = some none := by
  induction count generalizing down with
  | zero => exact absurd few (Nat.not_lt_zero _)
  | succ count inductionHypothesis =>
      unfold flushLoop at flushed
      obtain ⟨turn, turnEq, rest⟩ := Option.bind_eq_some_iff.mp flushed
      cases turn with
      | none =>
          cases rest
          exact turnEq
      | some next =>
          have fewer := drain_queue turnEq
          exact inductionHypothesis (by omega) rest

/-- As many turns as the store has slots are enough for the loop to end by itself. -/
theorem flushTm_ends {after : Downlink cfg} (flushed : down.flushTm = some after) :
    after.drain = some none := by
  refine flushLoop_ends ?_ flushed
  rw [Store.queue_length]
  exact Ring.held_lt _ _

end Downlink

namespace Tmtc

theorem step_down {task after : Tmtc cfg} {event : TmtcEvent}
    (stepped : task.step event = some after) :
    ∃ events, Downlink.run events task.down = some after.down := by
  cases event with
  | received byte =>
      unfold step getc at stepped
      simp only at stepped
      split at stepped
      · obtain ⟨flushed, flushedEq, stepped⟩ := Option.bind_eq_some_iff.mp stepped
        obtain ⟨drains, drainsEq⟩ := Downlink.flushLoop_run flushedEq
        cases stepped
        refine ⟨drains ++ [.eot], ?_⟩
        rw [Downlink.run_append, drainsEq, Option.bind_some, Downlink.run_single]
        rfl
      · cases stepped
        exact ⟨[], rfl⟩
  | idle =>
      unfold step idle at stepped
      simp only at stepped
      split at stepped
      · obtain ⟨flushed, flushedEq, stepped⟩ := Option.bind_eq_some_iff.mp stepped
        cases stepped
        exact Downlink.flushLoop_run flushedEq
      · cases stepped
        exact ⟨[], rfl⟩
  | telemetry pkt =>
      cases stepped
      exact ⟨[.store pkt], rfl⟩

theorem run_down {events : List TmtcEvent} {task after : Tmtc cfg}
    (ran : run events task = some after) :
    ∃ events, Downlink.run events task.down = some after.down := by
  induction events generalizing task with
  | nil =>
      cases ran
      exact ⟨[], rfl⟩
  | cons event rest inductionHypothesis =>
      unfold run at ran
      rw [List.foldlM_cons] at ran
      obtain ⟨next, nextEq, ran⟩ := Option.bind_eq_some_iff.mp ran
      obtain ⟨first, firstEq⟩ := step_down nextEq
      obtain ⟨later, laterEq⟩ := inductionHypothesis ran
      refine ⟨first ++ later, ?_⟩
      rw [Downlink.run_append, firstEq]
      exact laterEq

end Tmtc

/-- What the ground tool owes to the downlink: it finds the packets drained, in order, and a
part of them in every part of the stream. -/
structure Parseable (down : Downlink cfg) : Prop where
  whole : decodeTmPackets down.uart = down.drained.flatMap tmResult
  part : ∀ front, front <+: down.uart → decodeTmPackets front <+: down.drained.flatMap tmResult

theorem Downlink.Written.parseable {items : List DownlinkItem} {down : Downlink cfg}
    (written : Downlink.Written items down) : Parseable down := by
  have results : items.flatMap DownlinkItem.result = down.drained.flatMap tmResult := by
    rw [written.drained, List.flatMap_assoc]
    refine congrArg (items.flatMap ·) (funext fun item => ?_)
    cases item with
    | packet pkt => exact (List.append_nil _).symm
    | eot => rfl
  constructor
  · rw [written.uart, downlink_framed.decode_stream, results]
  · intro front isPrefix
    rw [written.uart] at isPrefix
    rw [← results]
    exact downlink_framed.decode_prefix isPrefix

/-- Whatever is stored, drained and marked, in any order, the ground tool finds the packets
drained, a flush goes on until the store has no packet left, and every label fits its buffer. -/
theorem downlink_parseable (cfg : Config) (events : List DownlinkEvent) :
    ∃ after, Downlink.run events (Downlink.init cfg) = some after ∧ Parseable after ∧
      (∃ flushed, after.flushTm = some flushed ∧ flushed.drain = some none) ∧
      ∀ svc subsvc, ∃ label, tmUartLabel svc subsvc = some label ∧ label.length ≤ labelBufLen := by
  obtain ⟨after, afterEq, items, written⟩ := (Downlink.written_init cfg).run events
  obtain ⟨flushed, flushedEq⟩ := after.flushTm_isSome
  refine ⟨after, afterEq, written.parseable, ⟨flushed, flushedEq, Downlink.flushTm_ends flushedEq⟩, ?_⟩
  intro svc subsvc
  have first := labelNumber_length svc
  have second := labelNumber_length subsvc
  refine ⟨_, tmUartLabel_eq svc subsvc, ?_⟩
  simp [labelBufLen]
  omega

/-- The stream of the task is parseable in every run. -/
theorem Tmtc.parseable {events : List TmtcEvent} {after : Tmtc cfg}
    (ran : Tmtc.run events (Tmtc.init cfg) = some after) : Parseable after.down := by
  obtain ⟨downEvents, downRan⟩ := Tmtc.run_down ran
  obtain ⟨down, downEq, items, written⟩ := (Downlink.written_init cfg).run downEvents
  rw [show (Tmtc.init cfg).down = Downlink.init cfg from rfl, downEq] at downRan
  cases downRan
  exact written.parseable

end Openobsw.Task
