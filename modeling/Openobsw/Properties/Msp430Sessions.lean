import Openobsw.Lib.SharedRing
import Openobsw.System.Msp430Turns
import Openobsw.Tools.RenodePing

/-!
Owns sessions with the MSP430 build: what no input can bring about, which packets are written
and which are lost, what its ping test makes of them, and that the interrupt of the UART may come
at any moment.
-/

namespace Openobsw.Msp430

open Openobsw.Fdir Openobsw.Lib Openobsw.Lib.SharedRing Openobsw.Pus Openobsw.Pus.S1 Openobsw.Srdb
  Openobsw.System Openobsw.Tools.RenodePing Openobsw.Util

/-! ### Every session -/

/-- Whatever arrives, the board does not fault, its machine never enters SAFE, its watchdog never
expires, and the only event that it reports is that of the boot. -/
theorem session_calm (frames : List (Option (List UInt8))) :
    ∃ after, State.session frames = some after ∧ after.obsw.board.fsm.mode ≠ .safe ∧
      after.obsw.board.fsm.hooks = [] ∧ after.watchdog.expired = false ∧
      after.watchdog.expirations = 0 ∧
      after.obsw.board.s5.calls.map (fun call => (call.severity, call.eventId)) =
        [(.info, Mission.eventBootComplete)] := by
  obtain ⟨after, ran, looping, _⟩ := session_loops frames
  refine ⟨after, ran, looping.kept.unsafed, looping.kept.unhooked, ?_, ?_, ?_⟩
  · rw [looping.watchdog]
    rfl
  · rw [looping.watchdog]
    rfl
  · rw [looping.kept.reported]
    rfl

/-! ### Packets -/

/-- The packets that were stored are written once each in their order, but for those that wait.
A frame is answered with at most three TMs, and the first three of the packets that wait and of
its answers are written. -/
theorem session_writes (frames : List (Option (List UInt8))) (frame : List UInt8) :
    ∃ before after answers reports, State.session frames = some before ∧
      before.turn (some frame) = some after ∧
      packets before.written ++ before.waiting = storedPackets before.obsw.link.tm.log ∧
      answers.length ≤ 3 ∧ reports.length ≤ 1 ∧
      after.built = before.built ++ answers ++ reports ∧
      packets after.written = packets before.written ++
        (before.waiting ++ answers.map TmRequest.packet).take 3 ∧
      after.waiting = reports.map TmRequest.packet := by
  obtain ⟨before, ran, looping, _⟩ := session_loops frames
  obtain ⟨served, answers, serves, few⟩ := serve_returns frame looping.toSettled
  obtain ⟨after, turn, turned⟩ := serves.turn looping
  obtain ⟨reports, one, builds, waits⟩ := turned.reports
  refine ⟨before, after, answers, reports, ran, turn, looping.stored, few, one, builds,
    turned.packets, waits.trans ?_⟩
  rw [List.nil_append]
  apply List.take_of_length_le
  rw [List.length_map]
  omega

/-- A ping is answered with TM(1,1), TM(17,2) and TM(1,7). A packet that waits for it takes the
place of the last of these, and before the first frame of a session there is one. -/
theorem ping_answered (frames : List (Option (List UInt8))) {frame : List UInt8} {tc : Tc}
    (parsed : tcParse frame = some (some tc)) (service : tc.service = 17)
    (subservice : tc.subservice = 1) :
    ∃ before after reports, State.session frames = some before ∧
      before.turn (some frame) = some after ∧
      after.built = before.built ++ pingAnswers tc before.obsw ++ reports ∧
      packets after.written = packets before.written ++ before.waiting ++
        ((pingAnswers tc before.obsw).take (3 - before.waiting.length)).map TmRequest.packet ∧
      ((∀ frame ∈ frames, frame = none) → 0 < before.waiting.length) := by
  obtain ⟨before, ran, looping, _⟩ := session_loops frames
  obtain ⟨served, serves⟩ := serve_ping parsed service subservice looping.toSettled
  obtain ⟨after, turn, turned⟩ := serves.turn looping
  obtain ⟨reports, _, builds, _⟩ := turned.reports
  refine ⟨before, after, reports, ran, turn, builds, ?_, fun idle => session_waits idle ran⟩
  rw [turned.packets, List.take_append, List.take_of_length_le before.waiting_le, List.map_take,
    List.append_assoc]

/-- The first ping of a session loses its completion to the event of the boot. -/
theorem firstPing_answered :
    ∃ tc before after, tcParse sentFrame = some (some tc) ∧ State.session [] = some before ∧
      before.turn (some sentFrame) = some after ∧
      packets after.written = packets before.written ++ before.waiting ++
        ((pingAnswers tc before.obsw).take (3 - before.waiting.length)).map TmRequest.packet ∧
      0 < before.waiting.length := by
  have parsed : tcParse sentFrame = some (some ⟨0x010, 17, 1, 0, none⟩) := rfl
  obtain ⟨before, after, reports, ran, turn, _, written, waits⟩ := ping_answered [] parsed rfl rfl
  exact ⟨_, before, after, parsed, ran, turn, written, waits (by simp)⟩

/-! ### The ping test -/

theorem label_packet (request : TmRequest) :
    label request.packet = [(request.svc, request.subsvc)] := rfl

/-- The test prints the packets that were written, whatever sentinels stand between them. -/
theorem parsePackets_written {written : List Written}
    (bounded : ∀ pkt ∈ packets written, pkt ≠ [] ∧ pkt.length ≤ 256) :
    parsePackets (written.flatMap Written.bytes) = (packets written).flatMap label := by
  induction written with
  | nil => exact parsePackets_short (by simp)
  | cons item rest inductionHypothesis =>
      cases item with
      | sentinel =>
          rw [List.flatMap_cons]
          exact (parsePackets_skip (by decide) _).trans (inductionHypothesis bounded)
      | packet pkt =>
          obtain ⟨⟨nonempty, short⟩, others⟩ := List.forall_mem_cons.mp bounded
          rw [List.flatMap_cons]
          refine (parsePackets_packet nonempty short _).trans ?_
          rw [inductionHypothesis others]
          rfl

/-- A packet that waits was built. -/
theorem Ledger.waiting_packet {state : State} (ledger : Ledger state) {pkt : List UInt8}
    (waits : pkt ∈ state.waiting) : ∃ request : TmRequest, pkt = request.packet := by
  have stored := List.mem_append_right (packets state.written) waits
  rw [ledger.stored] at stored
  obtain ⟨tm, _, same⟩ := List.mem_map.mp stored
  exact ⟨tm.request, same.symm⟩

theorem labels_length {queue : Tm.Queue}
    (built : ∀ pkt ∈ queue, ∃ request : TmRequest, pkt = request.packet) :
    (queue.flatMap label).length = queue.length := by
  induction queue with
  | nil => rfl
  | cons pkt rest inductionHypothesis =>
      obtain ⟨⟨request, same⟩, others⟩ := List.forall_mem_cons.mp built
      rw [List.flatMap_cons, same, label_packet, List.length_append, inductionHypothesis others,
        List.length_cons]
      exact Nat.add_comm 1 rest.length

theorem labels_requests (requests : List TmRequest) :
    (requests.map TmRequest.packet).flatMap label =
      requests.map (fun request => (request.svc, request.subsvc)) := by
  rw [List.flatMap_map]
  exact (List.flatMap_congr (fun request _ => label_packet request)).trans
    List.map_eq_flatMap.symm

theorem unasked_label {pkt : List UInt8} (unasked : Unasked pkt) : (1, 7) ∉ label pkt := by
  intro labelled
  unfold label at labelled
  split at labelled
  · rename_i svc subsvc service _
    have first : 1 = svc := congrArg Prod.fst (List.mem_singleton.mp labelled)
    unfold Unasked at unasked
    rw [service, ← first] at unasked
    simp at unasked
  · cases labelled

/-- What the board writes on the packet of the test. -/
theorem ping_written {state : State} (looping : Looping state) :
    ∃ tc, (program.run pingPacket (.hi, some state)).2 =
      (((state.waiting ++ (pingAnswers tc state.obsw).map TmRequest.packet).take 3).map
        Written.packet ++ ending state).flatMap Written.bytes := by
  obtain ⟨tc, parsed, service, subservice⟩ : ∃ tc, tcParse sentFrame = some (some tc) ∧
      tc.service = 17 ∧ tc.subservice = 1 := ⟨_, rfl, rfl, rfl⟩
  obtain ⟨served, serves⟩ := serve_ping parsed service subservice looping.toSettled
  obtain ⟨after, turn, turned⟩ := serves.turn looping
  refine ⟨tc, ?_⟩
  have read : reader.run pingPacket .hi = (.hi, [some sentFrame]) := rfl
  unfold program
  rw [Machine.run_cascade, read]
  simp only [Machine.run_cons, Machine.run_nil, turns, turn, turned.written, List.append_assoc,
    List.drop_left, List.append_nil]

/-- The packets that are written on a ping. -/
def pingWritten (tc : Tc) (state : State) : Tm.Queue :=
  (state.waiting ++ (pingAnswers tc state.obsw).map TmRequest.packet).take 3

theorem pingWritten_length (tc : Tc) (state : State) : (pingWritten tc state).length = 3 := by
  have most := state.waiting_le
  have three : ((pingAnswers tc state.obsw).map TmRequest.packet).length = 3 := rfl
  unfold pingWritten
  rw [List.length_take, List.length_append, three]
  omega

theorem pingWritten_built (tc : Tc) {state : State} (looping : Looping state) :
    ∀ pkt ∈ pingWritten tc state,
      (∃ request : TmRequest, pkt = request.packet) ∧ pkt.length ≤ cfg.tmMaxPacketLen := by
  intro pkt member
  rcases List.mem_append.mp (List.mem_of_mem_take member) with waits | answered
  · exact ⟨looping.waiting_packet waits, looping.short pkt waits⟩
  · obtain ⟨request, listed, rfl⟩ := List.mem_map.mp answered
    exact ⟨⟨request, rfl⟩, packet_length_of_fits (pingAnswers_fits tc state.obsw request listed)⟩

/-- The completion is among them if nothing waited. -/
theorem pingWritten_completed (tc : Tc) {state : State} (looping : Looping state) :
    (1, 7) ∈ (pingWritten tc state).flatMap label ↔ state.waiting = [] := by
  have most := state.waiting_le
  have places : ∀ waits ≤ 3, ((1, 7) : UInt8 × UInt8) ∈
      [(1, 1), (17, 2), (1, 7)].take (3 - waits) ↔ waits = 0 := by decide
  have completed := places state.waiting.length most
  rw [List.length_eq_zero_iff] at completed
  unfold pingWritten
  rw [List.take_append, List.take_of_length_le most, List.flatMap_append, List.mem_append,
    ← List.map_take, labels_requests, List.map_take]
  refine Iff.trans (or_iff_right ?_) completed
  intro labelled
  obtain ⟨pkt, waits, labelled⟩ := List.mem_flatMap.mp labelled
  exact unasked_label (looping.unasked pkt waits) labelled

/-- The test prints the packets that are written on its ping. -/
theorem ping_printed {state : State} (looping : Looping state) :
    ∃ tc, parsePackets (program.run pingPacket (.hi, some state)).2 =
      (pingWritten tc state).flatMap label := by
  obtain ⟨tc, raw⟩ := ping_written looping
  have only : packets ((pingWritten tc state).map Written.packet ++ ending state) =
      pingWritten tc state := by
    rw [packets_append, packets_map, packets_ending, List.append_nil]
  refine ⟨tc, ?_⟩
  rw [raw]
  show parsePackets (((pingWritten tc state).map Written.packet ++ ending state).flatMap _) = _
  rw [parsePackets_written, only]
  rw [only]
  intro pkt member
  obtain ⟨⟨request, rfl⟩, short⟩ := pingWritten_built tc looping pkt member
  refine ⟨?_, short.trans (by decide)⟩
  apply List.ne_nil_of_length_pos
  rw [TmRequest.packet_length]
  omega

theorem verdict_of_three {raw : List UInt8} (three : (parsePackets raw).length = 3) :
    verdict raw = .success := by
  have received : raw ≠ [] := by
    intro none
    rw [none, parsePackets_short (by decide)] at three
    cases three
  unfold verdict
  rw [if_neg received, if_pos three]

/-- After every session the test succeeds, for it counts three packets. But it has the completion
of its ping only if no packet waited, and before the first frame of a session one does. -/
theorem ping_verdict (frames : List (Option (List UInt8))) :
    ∃ before, State.session frames = some before ∧
      verdict (program.run pingPacket (.hi, some before)).2 = .success ∧
      ((1, 7) ∈ parsePackets (program.run pingPacket (.hi, some before)).2 ↔
        before.waiting = []) ∧
      ((∀ frame ∈ frames, frame = none) → before.waiting ≠ []) := by
  obtain ⟨before, ran, looping, _⟩ := session_loops frames
  obtain ⟨tc, printed⟩ := ping_printed looping
  have built := pingWritten_built tc looping
  refine ⟨before, ran, ?_, ?_, ?_⟩
  · apply verdict_of_three
    rw [printed, labels_length (fun pkt member => (built pkt member).1)]
    exact pingWritten_length tc before
  · rw [printed]
    exact pingWritten_completed tc looping
  · intro idle empty
    have waits := session_waits idle ran
    rw [empty] at waits
    cases waits

/-! ### Framed telecommands -/

/-- The bytes of a frame up to its last one. -/
theorem reader_body {length : Nat} {data rest : List UInt8} (nonempty : rest ≠ [])
    (whole : data.length + rest.length = length) :
    reader.run rest (.body length data) = (.hi, [some (data ++ rest)]) := by
  induction rest generalizing data with
  | nil => exact absurd rfl nonempty
  | cons byte rest inductionHypothesis =>
      rw [List.length_cons] at whole
      by_cases last : rest = []
      · rw [last, List.length_nil] at whole
        have full : ¬ (data ++ [byte]).length < length := by
          rw [List.length_append, List.length_singleton]
          omega
        have take : reader.take (.body length data) byte = (.hi, [some (data ++ [byte])]) :=
          if_neg full
        rw [last, Machine.run_cons, take]
        rfl
      · have more : (data ++ [byte]).length < length := by
          have some := List.length_pos_iff.mpr last
          rw [List.length_append, List.length_singleton]
          omega
        have take : reader.take (.body length data) byte = (.body length (data ++ [byte]), []) :=
          if_pos more
        have onward := @inductionHypothesis (data ++ [byte]) last (by
          rw [List.length_append, List.length_singleton]
          omega)
        rw [Machine.run_cons, take, onward, List.append_assoc]
        rfl

/-- A frame behind its length is read as a whole. -/
theorem reader_framed {frame : List UInt8} (nonempty : frame ≠ [])
    (short : frame.length ≤ tcFrameMaxLen) :
    reader.run (framed frame) .hi = (.hi, [some frame]) := by
  have positive := List.length_pos_iff.mpr nonempty
  have most : frame.length ≤ 128 := short
  have counted : (UInt16.ofNat frame.length).toNat = frame.length :=
    Nat.mod_eq_of_lt (by omega)
  have length := (putBe16_toNat (UInt16.ofNat frame.length)).trans counted
  have header : reader.run (putBe16 (UInt16.ofNat frame.length)) .hi =
      (.body frame.length [], []) := by
    show reader.run [_, _] .hi = _
    rw [Machine.run_cons, Machine.run_cons, Machine.run_nil]
    simp only [reader, Reading.take, length, List.nil_append]
    rw [if_pos ⟨positive, short⟩]
    rfl
  unfold framed
  rw [Machine.run_append, header, reader_body nonempty (Nat.zero_add _)]
  rfl

theorem reader_frames {frames : List (List UInt8)}
    (fits : ∀ frame ∈ frames, frame ≠ [] ∧ frame.length ≤ tcFrameMaxLen) :
    reader.run (frames.flatMap framed) .hi = (.hi, frames.map some) := by
  induction frames with
  | nil => rfl
  | cons frame rest inductionHypothesis =>
      obtain ⟨⟨nonempty, short⟩, others⟩ := List.forall_mem_cons.mp fits
      rw [List.flatMap_cons, Machine.run_append, reader_framed nonempty short,
        inductionHypothesis others]
      rfl

/-! ### The UART -/

/-- The interrupt of the UART may come between any two accesses of the loop. Still the loop takes
the bytes that found room, in their order, and writes what the session on them writes; and it
comes to have taken all that the buffer holds. -/
theorem uart_session (slots : Vector UInt8 64) (index : Fin 64)
    {world : World UInt8 UInt8 (Reading × Option State) 64}
    (run : Run program (World.start slots index (.hi, State.boot)) world) :
    (world.taken ++ world.ring.held).Sublist world.arrived ∧
      (∃ after, State.session (reader.run world.taken .hi).2 = some after ∧
        world.state = ((reader.run world.taken .hi).1, some after) ∧
        world.written = after.written.flatMap Written.bytes) ∧
      ∃ next, Run program world next ∧ next.arrived = world.arrived ∧
        next.taken = world.taken ++ world.ring.held ∧ next.ring.held = [] := by
  have sound := (start_sound program slots index (.hi, State.boot)).run run
  refine ⟨sound.order, ?_, sound.empties⟩
  obtain ⟨after, ran, _, wrote⟩ := session_loops (reader.run world.taken .hi).2
  have whole := sound.ran
  unfold program at whole
  rw [Machine.run_cascade, wrote] at whole
  obtain ⟨state, written⟩ := Prod.mk.inj whole
  exact ⟨after, ran, state.symm, written.symm⟩

/-- The bytes of a telecommand arrive before the loop looks, between its look and its load, and
between its load and the move of its index. -/
theorem shortFrame_session :
    ∃ world next after, Run program (World.start (Vector.replicate 64 0) 0 (.hi, State.boot)) world ∧
      world.taken = [0x00] ∧ world.arrived = [0x00, 0x01, 0x2A] ∧ Run program world next ∧
      next.taken = [0x00, 0x01, 0x2A] ∧ next.ring.held = [] ∧
      State.session [some [0x2A]] = some after ∧
      next.written = after.written.flatMap Written.bytes := by
  have first : Run program (World.start (Vector.replicate 64 0) 0 (.hi, State.boot)) _ :=
    .single (.interrupt _ 0x00)
  have looked := first.tail (.look _ rfl (by decide))
  have second := looked.tail (.interrupt _ 0x01)
  have loaded := second.tail (.load _ rfl)
  have third := loaded.tail (.interrupt _ 0x2A)
  have moved := third.tail (.move _ _ rfl)
  obtain ⟨next, onward, _, taken, empty⟩ := (uart_session (Vector.replicate 64 0) 0 moved).2.2
  obtain ⟨after, ran, _, wrote⟩ :=
    (uart_session (Vector.replicate 64 0) 0 (moved.trans onward)).2.1
  rw [taken] at ran
  exact ⟨_, next, after, moved, rfl, rfl, onward, taken, empty, ran, wrote⟩

/-- As long as no byte arrives while 63 wait, the board comes to write what the session on all
bytes that arrived writes. Of telecommands behind their lengths that is the session on them. -/
theorem uart_paced (slots : Vector UInt8 64) (index : Fin 64)
    {world : World UInt8 UInt8 (Reading × Option State) 64}
    (run : PacedRun program (World.start slots index (.hi, State.boot)) world) :
    ∃ next after, Run program world next ∧ next.arrived = world.arrived ∧
      State.session (reader.run world.arrived .hi).2 = some after ∧
      next.written = after.written.flatMap Written.bytes ∧
      ∀ frames : List (List UInt8),
        (∀ frame ∈ frames, frame ≠ [] ∧ frame.length ≤ tcFrameMaxLen) →
        world.arrived = frames.flatMap framed →
        (reader.run world.arrived .hi).2 = frames.map some := by
  have start := start_sound program slots index (.hi, State.boot)
  have whole : world.Whole := start.whole (by
    show [] ++ Shared.held ⟨slots, index, index⟩ = []
    rw [Shared.held_empty rfl]
    rfl) run
  have sound := start.run run.run
  obtain ⟨next, onward, arrived, taken, _⟩ := sound.empties
  have last := (sound.run onward).ran
  obtain ⟨after, ran, _, wrote⟩ := session_loops (reader.run world.arrived .hi).2
  rw [taken, whole] at last
  unfold program at last
  rw [Machine.run_cascade, wrote] at last
  refine ⟨next, after, onward, arrived, ran, (Prod.mk.inj last).2.symm, ?_⟩
  intro frames fits framed
  rw [framed, reader_frames fits]

/-- A telecommand of one byte, received before the loop has looked. -/
theorem shortFrame_paced :
    ∃ next after, Run program
        ((((World.start (Vector.replicate 64 0) 0 (Reading.hi, State.boot)).arrive 0x00).arrive
          0x01).arrive 0x2A) next ∧
      next.arrived = [0x00, 0x01, 0x2A] ∧ State.session [some [0x2A]] = some after ∧
      next.written = after.written.flatMap Written.bytes := by
  have first := (Relation.ReflTransGen.refl).tail (r := PacedStep program)
    ⟨.interrupt (World.start (Vector.replicate 64 0) 0 (Reading.hi, State.boot)) 0x00, by decide⟩
  have second := first.tail ⟨.interrupt _ 0x01, by decide⟩
  have third := second.tail ⟨.interrupt _ 0x2A, by decide⟩
  obtain ⟨next, after, onward, arrived, ran, written, frames⟩ :=
    uart_paced (Vector.replicate 64 0) 0 third
  rw [frames [[0x2A]] (by decide) rfl] at ran
  exact ⟨next, after, onward, arrived, ran, written⟩

end Openobsw.Msp430
