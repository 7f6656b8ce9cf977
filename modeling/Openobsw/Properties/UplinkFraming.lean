import Openobsw.Task.Tmtc

/-!
Owns the framing of the uplink: over a stream of whole frames, which bodies the TMTC task puts
on its queue and where it starts a frame. The body of a frame that is too long is left in the
stream, and its first byte is taken for the start of the next frame.
-/

namespace Openobsw.Task

open Openobsw.Lib Openobsw.Lib.Words Openobsw.Util

variable {cfg : Config}

/-! ### Streams of frames -/

/-- A frame of the wire protocol. -/
structure WireFrame where
  type : UInt8
  body : List UInt8
  lenFits : body.length < 2 ^ 16

namespace WireFrame

/-- `[type][uint16 BE len][len bytes]` -/
def bytes (frame : WireFrame) : List UInt8 :=
  frame.type :: (putBe16 (UInt16.ofNat frame.body.length) ++ frame.body)

/-- The frames whose bodies belong on the TC queue. -/
def IsCommand (frame : WireFrame) : Prop :=
  frame.type = wireTc ∧ 1 ≤ frame.body.length ∧ frame.body.length ≤ tcFrameMax

instance (frame : WireFrame) : Decidable frame.IsCommand :=
  inferInstanceAs (Decidable (frame.type = wireTc ∧ 1 ≤ frame.body.length ∧
    frame.body.length ≤ tcFrameMax))

/-- The body is longer than the item that is to hold it. -/
def TooLong (frame : WireFrame) : Prop := tcFrameMax < frame.body.length

theorem bytes_length (frame : WireFrame) : frame.bytes.length = frame.body.length + 3 := by
  simp [bytes, putBe16]

end WireFrame

def wireStream (frames : List WireFrame) : List UInt8 := frames.flatMap WireFrame.bytes

/-- The bodies of the commands of a stream. -/
def commands (frames : List WireFrame) : List (List UInt8) :=
  (frames.filter fun frame => frame.IsCommand).map WireFrame.body

/-- The positions at which the frames of a stream begin. -/
def boundaries : Nat → List WireFrame → List Nat
  | _, [] => []
  | position, frame :: rest => position :: boundaries (position + frame.bytes.length) rest

/-- The uplink is in step with a stream that it has read: it has queued the commands, and
started frames only where frames begin. -/
structure InStep (frames : List WireFrame) (up : Uplink) : Prop where
  queued : up.tcQueue = commands frames
  started : ∀ start ∈ up.starts, start ∈ boundaries 0 frames

theorem le_of_mem_boundaries {frames : List WireFrame} {position start : Nat}
    (member : start ∈ boundaries position frames) : position ≤ start := by
  induction frames generalizing position with
  | nil => cases member
  | cons frame rest inductionHypothesis =>
      rcases List.mem_cons.mp member with here | later
      · exact Nat.le_of_eq here.symm
      · exact Nat.le_trans (Nat.le_add_right _ _) (inductionHypothesis later)

/-! ### One frame -/

namespace Uplink

/-- The uplink after a frame that it has read as a whole. -/
def past (up : Uplink) (frame : WireFrame) : Uplink where
  reading := .type
  position := up.position + frame.bytes.length
  starts := up.starts ++ [up.position]
  tcQueue := up.tcQueue ++ commands [frame]

/-- The uplink behind the header of a frame. -/
def pastHeader (up : Uplink) (type : UInt8) (flen : UInt16) : Uplink where
  reading := if flen = 0 ∨ flen.toNat > tcFrameMax then .type else .data type flen []
  position := up.position + 3
  starts := up.starts ++ [up.position]
  tcQueue := up.tcQueue

theorem foldl_header {up : Uplink} (waiting : up.reading = .type) (type : UInt8) (flen : UInt16) :
    (type :: putBe16 flen).foldl getc up = up.pastHeader type flen := by
  have joined : ((flen >>> 8).toUInt8.toUInt16 <<< 8) ||| (flen &&& 0xFF).toUInt8.toUInt16 = flen :=
    join16_putBe16 flen
  obtain ⟨reading, position, starts, tcQueue⟩ := up
  cases waiting
  show getc ⟨.lo type (flen >>> 8).toUInt8, position + 1 + 1, starts ++ [position], tcQueue⟩
    (flen &&& 0xFF).toUInt8 = _
  unfold getc pastHeader
  simp only [joined]
  by_cases refused : flen = 0 ∨ flen.toNat > tcFrameMax
  · rw [if_pos refused, if_pos refused]
  · rw [if_neg refused, if_neg refused]

/-- The rest of a body, up to its last byte. -/
theorem foldl_body {up : Uplink} {type : UInt8} {flen : UInt16} {data rest : List UInt8}
    (reading : up.reading = .data type flen data) (nonempty : rest ≠ [])
    (whole : data.length + rest.length = flen.toNat) :
    rest.foldl getc up =
      { reading := .type
        position := up.position + rest.length
        starts := up.starts
        tcQueue := up.tcQueue ++ if type = wireTc then [data ++ rest] else [] } := by
  induction rest generalizing up data with
  | nil => exact absurd rfl nonempty
  | cons byte rest inductionHypothesis =>
      obtain ⟨_, position, starts, tcQueue⟩ := up
      cases reading
      rw [List.foldl_cons]
      have longer : (data ++ [byte]).length = data.length + 1 := by simp
      rw [List.length_cons] at whole
      by_cases last : rest = []
      · rw [last, List.length_nil] at whole
        have full : ¬ (data ++ [byte]).length < flen.toNat := by omega
        rw [last]
        show getc _ byte = _
        unfold getc
        simp only [if_neg full]
        by_cases command : type = wireTc
        · rw [if_pos command, if_pos command]
          rfl
        · rw [if_neg command, if_neg command, List.append_nil]
          rfl
      · have room : (data ++ [byte]).length < flen.toNat := by
          have more : 0 < rest.length := List.length_pos_iff.mpr last
          omega
        have next : getc ⟨.data type flen data, position, starts, tcQueue⟩ byte =
            ⟨.data type flen (data ++ [byte]), position + 1, starts, tcQueue⟩ := by
          unfold getc
          simp only [if_pos room]
        rw [next, inductionHypothesis rfl last (by omega)]
        simp only [List.append_assoc, List.singleton_append, List.length_cons, Uplink.mk.injEq,
          true_and, and_true]
        omega

theorem commands_single (frame : WireFrame) :
    commands [frame] = if frame.IsCommand then [frame.body] else [] := by
  unfold commands
  by_cases command : frame.IsCommand
  · simp [command]
  · simp [command]

theorem flen_toNat (frame : WireFrame) :
    (UInt16.ofNat frame.body.length).toNat = frame.body.length :=
  Nat.mod_eq_of_lt frame.lenFits

theorem bytes_eq (frame : WireFrame) :
    frame.bytes = (frame.type :: putBe16 (UInt16.ofNat frame.body.length)) ++ frame.body := rfl

/-- A frame that is not too long is read as a whole. -/
theorem foldl_frame {up : Uplink} (waiting : up.reading = .type) {frame : WireFrame}
    (short : ¬ frame.TooLong) : frame.bytes.foldl getc up = up.past frame := by
  have counted := flen_toNat frame
  have most : frame.body.length ≤ tcFrameMax := Nat.le_of_not_lt short
  have length := frame.bytes_length
  rw [bytes_eq, List.foldl_append, foldl_header waiting]
  unfold past
  rw [commands_single, length]
  by_cases empty : frame.body = []
  · have zero : UInt16.ofNat frame.body.length = 0 := by rw [empty]; rfl
    have noCommand : ¬ frame.IsCommand := by
      intro command
      have some := command.2.1
      rw [empty] at some
      cases some
    unfold pastHeader
    rw [empty, if_pos (.inl (empty ▸ zero)), if_neg noCommand, List.append_nil]
    rfl
  · have some : 1 ≤ frame.body.length := List.length_pos_iff.mpr empty
    have goes : ¬ (UInt16.ofNat frame.body.length = 0 ∨
        (UInt16.ofNat frame.body.length).toNat > tcFrameMax) := by
      rw [counted]
      rintro (zero | more)
      · rw [zero] at counted
        exact absurd counted (by show (0 : Nat) ≠ _; omega)
      · omega
    have reading : (up.pastHeader frame.type (UInt16.ofNat frame.body.length)).reading =
        .data frame.type (UInt16.ofNat frame.body.length) [] := if_neg goes
    rw [foldl_body reading empty (by rw [counted]; exact Nat.zero_add _)]
    have queued : (if frame.type = wireTc then [[] ++ frame.body] else []) =
        if frame.IsCommand then [frame.body] else [] := by
      by_cases command : frame.type = wireTc
      · rw [if_pos command, if_pos ⟨command, some, most⟩]
        rfl
      · rw [if_neg command, if_neg (fun all => command all.1)]
    rw [queued]
    unfold pastHeader
    simp only [Uplink.mk.injEq, true_and, and_true]
    omega

theorem starts_subset_foldl (up : Uplink) (bytes : List UInt8) :
    up.starts ⊆ (bytes.foldl getc up).starts := by
  induction bytes generalizing up with
  | nil => exact fun _ member => member
  | cons byte rest inductionHypothesis =>
      have kept : up.starts ⊆ (up.getc byte).starts := by
        unfold getc send
        split
        · exact List.subset_append_left _ _
        · exact fun _ member => member
        · simp only
          split <;> exact fun _ member => member
        · simp only
          split
          · exact fun _ member => member
          · split <;> exact fun _ member => member
      exact fun _ member => inductionHypothesis (up.getc byte) (kept member)

/-- After the header of a frame that is too long, the next byte starts a frame. -/
theorem foldl_tooLong {up : Uplink} (waiting : up.reading = .type) {frame : WireFrame}
    (long : frame.TooLong) : up.position + 3 ∈ (frame.bytes.foldl getc up).starts := by
  have counted := flen_toNat frame
  have refused : UInt16.ofNat frame.body.length = 0 ∨
      (UInt16.ofNat frame.body.length).toNat > tcFrameMax := .inr (by rw [counted]; exact long)
  rw [bytes_eq, List.foldl_append, foldl_header waiting]
  match body : frame.body, long with
  | [], long =>
      unfold WireFrame.TooLong at long
      rw [body] at long
      cases long
  | byte :: rest, _ =>
      rw [List.foldl_cons]
      apply starts_subset_foldl
      unfold pastHeader
      rw [← body, if_pos refused]
      exact List.mem_append_right _ List.mem_cons_self

/-! ### A stream of frames -/

theorem foldl_stream {up : Uplink} (waiting : up.reading = .type) {frames : List WireFrame}
    (short : ∀ frame ∈ frames, ¬ frame.TooLong) :
    (wireStream frames).foldl getc up =
      { reading := .type
        position := up.position + (wireStream frames).length
        starts := up.starts ++ boundaries up.position frames
        tcQueue := up.tcQueue ++ commands frames } := by
  induction frames generalizing up with
  | nil =>
      obtain ⟨_, position, starts, tcQueue⟩ := up
      cases waiting
      show _ = Uplink.mk .type position (starts ++ []) (tcQueue ++ [])
      rw [List.append_nil, List.append_nil]
      rfl
  | cons frame rest inductionHypothesis =>
      have shortRest : ∀ other ∈ rest, ¬ other.TooLong :=
        fun other member => short other (List.mem_cons_of_mem frame member)
      have stream : wireStream (frame :: rest) = frame.bytes ++ wireStream rest := rfl
      have split : commands (frame :: rest) = commands [frame] ++ commands rest := by
        unfold commands
        rw [← List.map_append, ← List.filter_append]
        rfl
      have starts : boundaries up.position (frame :: rest) =
          up.position :: boundaries (up.position + frame.bytes.length) rest := rfl
      rw [stream, List.foldl_append, foldl_frame waiting (short frame List.mem_cons_self),
        inductionHypothesis rfl shortRest, split, starts]
      unfold past
      simp only [List.length_append, List.append_assoc, List.singleton_append, Nat.add_assoc]

/-- Behind a frame that is too long a frame is started where none begins. -/
theorem foldl_out_of_step {up : Uplink} (waiting : up.reading = .type) {frames : List WireFrame}
    {frame : WireFrame} (member : frame ∈ frames) (long : frame.TooLong) :
    ∃ start ∈ ((wireStream frames).foldl getc up).starts,
      up.position < start ∧ start ∉ boundaries up.position frames := by
  induction frames generalizing up with
  | nil => cases member
  | cons first rest inductionHypothesis =>
      have stream : wireStream (first :: rest) = first.bytes ++ wireStream rest := rfl
      have length := first.bytes_length
      rw [stream, List.foldl_append]
      by_cases tooLong : first.TooLong
      · refine ⟨up.position + 3, starts_subset_foldl _ _ (foldl_tooLong waiting tooLong),
          by omega, ?_⟩
        intro boundary
        unfold WireFrame.TooLong at tooLong
        rcases List.mem_cons.mp boundary with here | later
        · omega
        · have far := le_of_mem_boundaries later
          omega
      · have elsewhere : frame ∈ rest := by
          rcases List.mem_cons.mp member with here | later
          · exact absurd (here ▸ long) tooLong
          · exact later
        rw [foldl_frame waiting tooLong]
        obtain ⟨start, started, beyond, outside⟩ := inductionHypothesis
          (show (up.past first).reading = .type from rfl) elsewhere
        have moved : (up.past first).position = up.position + first.bytes.length := rfl
        rw [moved] at beyond
        refine ⟨start, started, by omega, ?_⟩
        intro boundary
        rcases List.mem_cons.mp boundary with here | later
        · omega
        · exact outside later

end Uplink

/-! ### Every stream and every run -/

/-- In every run over a stream of whole frames the task stays in step with it exactly when no
frame is too long. -/
theorem uplink_inStep_iff (cfg : Config) (frames : List WireFrame) {events : List TmtcEvent}
    (stream : Tmtc.received events = wireStream frames) :
    ∃ after, Tmtc.run events (Tmtc.init cfg) = some after ∧
      (InStep frames after.up ↔ ∀ frame ∈ frames, ¬ frame.TooLong) := by
  obtain ⟨after, afterEq, up⟩ := Tmtc.run_up events (Tmtc.init cfg)
  rw [stream] at up
  refine ⟨after, afterEq, ?_, ?_⟩
  · intro inStep frame member long
    obtain ⟨start, started, _, outside⟩ :=
      Uplink.foldl_out_of_step (show Uplink.init.reading = .type from rfl) member long
    rw [up] at inStep
    exact outside (inStep.started start started)
  · intro short
    rw [up, show (Tmtc.init cfg).up = Uplink.init from rfl, Uplink.foldl_stream rfl short]
    exact ⟨rfl, fun start started => started⟩

/-- The events of a stream that is read without a pause. -/
def unpaused (frames : List WireFrame) : List TmtcEvent := (wireStream frames).map .received

theorem received_unpaused (frames : List WireFrame) :
    Tmtc.received (unpaused frames) = wireStream frames := by
  unfold Tmtc.received unpaused
  rw [List.filterMap_map]
  exact List.filterMap_some

/-- Two frames, one of them empty. -/
theorem uplink_inStep_two :
    ∃ after, Tmtc.run (unpaused [⟨0x02, [], by decide⟩, ⟨0x01, [0x2A], by decide⟩])
        (Tmtc.init Config.default) = some after ∧
      (InStep [⟨0x02, [], by decide⟩, ⟨0x01, [0x2A], by decide⟩] after.up ↔
        ∀ frame ∈ ([⟨0x02, [], by decide⟩, ⟨0x01, [0x2A], by decide⟩] : List WireFrame),
          ¬ frame.TooLong) :=
  uplink_inStep_iff Config.default _ (received_unpaused _)

/-- A frame of another type, one byte too long; its body begins with a whole command. -/
def hidingFrame : WireFrame where
  type := 0x02
  body := [0x01, 0, 1, 0xAA] ++ List.replicate 509 0
  lenFits := by rw [List.length_append, List.length_replicate]; decide

/-- The command in the body is queued. -/
theorem hidingFrame_queued :
    ∃ after, Tmtc.run (unpaused [hidingFrame]) (Tmtc.init Config.default) = some after ∧
      after.up.tcQueue = [[0xAA]] ∧ ¬ InStep [hidingFrame] after.up := by
  obtain ⟨after, afterEq, up⟩ := Tmtc.run_up (unpaused [hidingFrame]) (Tmtc.init Config.default)
  have queue : ((wireStream [hidingFrame]).foldl Uplink.getc Uplink.init).tcQueue = [[0xAA]] := by
    decide +kernel
  have none : commands [hidingFrame] = [] := by
    rw [Uplink.commands_single]
    exact if_neg (fun command => absurd command.1 (by decide))
  rw [received_unpaused] at up
  refine ⟨after, afterEq, ?_, ?_⟩
  · rw [up]
    exact queue
  · intro inStep
    have queued := inStep.queued
    rw [up, none] at queued
    exact absurd (queue.symm.trans queued) (List.cons_ne_nil _ _)

end Openobsw.Task
