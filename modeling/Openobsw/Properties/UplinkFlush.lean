import Openobsw.Properties.UplinkFraming
import Openobsw.Tools.PingUart

/-!
Owns the flush with which the ground tool begins: from any reading that the TMTC task may be
stuck in, what the zero bytes leave it in, and how many of the pings behind them it takes.
-/

namespace Openobsw.Task

open Openobsw.Lib Openobsw.Lib.Words Openobsw.Tools.PingUart Openobsw.Util

variable {cfg : Config}

/-! ### Zero bytes -/

namespace Reading

/-- The zero bytes that bring the loop to the type of a frame. -/
def owed : Reading → Nat
  | .type => 0
  | .hi _ => 2
  | .lo _ high => if high = 1 then 257 else if high = 2 then 513 else 1
  | .data _ flen body => flen.toNat - body.length

/-- A body that is read is not whole, and fits its item. -/
def Underway : Reading → Prop
  | .data _ flen body => body.length < flen.toNat ∧ flen.toNat ≤ tcFrameMax
  | .type | .hi _ | .lo _ _ => True

/-- The readings within frames of zero bytes. -/
def Zeroed (reading : Reading) : Prop :=
  reading = .type ∨ reading = .hi 0 ∨ reading = .lo 0 0

theorem Underway.owed_le {reading : Reading} (part : reading.Underway) : reading.owed ≤ 513 := by
  cases reading with
  | type => exact Nat.zero_le 513
  | hi first => exact (show 2 ≤ 513 by omega)
  | lo first high =>
      unfold owed
      simp only
      split
      · omega
      · split <;> omega
  | data first flen body => exact (Nat.sub_le _ _).trans (part.2.trans (by decide))

end Reading

namespace Uplink

variable {up : Uplink}

theorem getc_underway (part : up.reading.Underway) (byte : UInt8) :
    (up.getc byte).reading.Underway := by
  obtain ⟨reading, position, starts, tcQueue⟩ := up
  cases reading with
  | type => trivial
  | hi first => trivial
  | lo first high =>
      unfold getc
      simp only
      split
      · trivial
      · rename_i goes
        rw [not_or] at goes
        refine ⟨Nat.pos_of_ne_zero ?_, Nat.le_of_not_lt goes.2⟩
        intro zero
        exact goes.1 (UInt16.toNat_inj.mp zero)
  | data first flen body =>
      unfold getc
      simp only
      split
      · rename_i room
        exact ⟨room, part.2⟩
      · split <;> trivial

theorem foldl_underway (bytes : List UInt8) (part : up.reading.Underway) :
    (bytes.foldl getc up).reading.Underway := by
  induction bytes generalizing up with
  | nil => exact part
  | cons byte rest inductionHypothesis => exact inductionHypothesis (getc_underway part byte)

/-- A zero byte pays one of the bytes owed. -/
theorem getc_zero_owed (part : up.reading.Underway) (within : up.reading ≠ .type) :
    (up.getc 0).reading.owed + 1 = up.reading.owed := by
  obtain ⟨reading, position, starts, tcQueue⟩ := up
  cases reading with
  | type => exact absurd rfl within
  | hi first => rfl
  | lo first high =>
      by_cases one : high = 1
      · subst one
        rfl
      · by_cases two : high = 2
        · subst two
          rfl
        · have joined := toNat_join16 high 0
          have notOne : high.toNat ≠ 1 := fun same => one (UInt8.toNat_inj.mp same)
          have notTwo : high.toNat ≠ 2 := fun same => two (UInt8.toNat_inj.mp same)
          have refused : (high.toUInt16 <<< 8) ||| (0 : UInt8).toUInt16 = 0 ∨
              ((high.toUInt16 <<< 8) ||| (0 : UInt8).toUInt16).toNat > tcFrameMax := by
            rw [← UInt16.toNat_inj, joined]
            show high.toNat * 256 + 0 = 0 ∨ high.toNat * 256 + 0 > 512
            omega
          unfold getc Reading.owed
          simp only [if_pos refused, if_neg one, if_neg two]
  | data first flen body =>
      have short := part.1
      unfold getc Reading.owed
      by_cases room : (body ++ [0]).length < flen.toNat
      · simp only [if_pos room]
        rw [List.length_append, List.length_singleton]
        omega
      · rw [List.length_append, List.length_singleton] at room
        have ends : (getc ⟨.data first flen body, position, starts, tcQueue⟩ 0).reading =
            .type := by
          unfold getc
          simp only [List.length_append, List.length_singleton, if_neg room]
          split <;> rfl
        unfold getc at ends
        rw [ends]
        simp only
        omega

theorem getc_zeroed (zeroed : up.reading.Zeroed) : (up.getc 0).reading.Zeroed := by
  obtain ⟨reading, position, starts, tcQueue⟩ := up
  rcases zeroed with rfl | rfl | rfl
  · exact .inr (.inl rfl)
  · exact .inr (.inr rfl)
  · exact .inl rfl

/-- What zero bytes leave: once the frame at hand is over, a frame of zero bytes is read, and of
its three bytes as many are owed as before, up to whole frames. -/
theorem foldl_zeros (part : up.reading.Underway) (count : Nat) :
    (((List.replicate count 0).foldl getc up).reading.Zeroed ∨
      ((List.replicate count 0).foldl getc up).reading.owed + count = up.reading.owed) ∧
      (((List.replicate count 0).foldl getc up).reading.owed + count) % 3 =
        up.reading.owed % 3 := by
  induction count with
  | zero => exact ⟨.inr rfl, rfl⟩
  | succ count inductionHypothesis =>
      have partBefore := foldl_underway (List.replicate count 0) part
      rw [List.replicate_succ', List.foldl_append, List.foldl_cons, List.foldl_nil]
      generalize (List.replicate count 0).foldl getc up = middle at inductionHypothesis partBefore ⊢
      obtain ⟨before, modulo⟩ := inductionHypothesis
      by_cases begins : middle.reading = .type
      · have zeroed : (middle.getc 0).reading.Zeroed := getc_zeroed (.inl begins)
        have three : (middle.getc 0).reading.owed = 2 ∧ middle.reading.owed = 0 := by
          obtain ⟨_, position, starts, tcQueue⟩ := middle
          cases begins
          exact ⟨rfl, rfl⟩
        refine ⟨.inl zeroed, ?_⟩
        omega
      · have paid := getc_zero_owed partBefore begins
        constructor
        · rcases before with zeroed | counted
          · exact .inl (getc_zeroed zeroed)
          · right
            omega
        · omega

/-- What the flush leaves the loop in. -/
theorem foldl_flush (part : up.reading.Underway) :
    (flush.foldl getc up).reading =
      if up.reading.owed % 3 = 0 then .type
      else if up.reading.owed % 3 = 1 then .lo 0 0
      else .hi 0 := by
  have most := part.owed_le
  obtain ⟨leaves, modulo⟩ := foldl_zeros part 519
  unfold flush
  rcases leaves with (zeroed | zeroed | zeroed) | counted
  · rw [zeroed] at modulo ⊢
    change (0 + 519) % 3 = _ at modulo
    rw [if_pos (by omega)]
  · rw [zeroed] at modulo ⊢
    change (2 + 519) % 3 = _ at modulo
    rw [if_neg (by omega), if_neg (by omega)]
  · rw [zeroed] at modulo ⊢
    change (1 + 519) % 3 = _ at modulo
    rw [if_neg (by omega), if_pos (by omega)]
  · omega

/-! ### Pings -/

theorem pings_length (count : Nat) : (pings count).length = 14 * count := by
  induction count with
  | zero => rfl
  | succ count inductionHypothesis =>
      show (frameTc tcPing ++ pings count).length = _
      rw [List.length_append, inductionHypothesis]
      show 14 + 14 * count = _
      omega

/-- From the type of a frame on, every ping is taken. -/
theorem foldl_pings (waiting : up.reading = .type) (count : Nat) :
    ((pings count).foldl getc up).tcQueue = up.tcQueue ++ List.replicate count tcPing := by
  induction count generalizing up with
  | zero => exact (List.append_nil _).symm
  | succ count inductionHypothesis =>
      have first : ((frameTc tcPing).foldl getc up).reading = .type ∧
          ((frameTc tcPing).foldl getc up).tcQueue = up.tcQueue ++ [tcPing] := by
        obtain ⟨_, position, starts, tcQueue⟩ := up
        cases waiting
        exact ⟨rfl, rfl⟩
      show ((frameTc tcPing ++ pings count).foldl getc up).tcQueue = _
      rw [List.foldl_append, inductionHypothesis first.1, first.2, List.append_assoc]
      rfl

/-- Bytes within a body reach nothing. -/
theorem foldl_within {first : UInt8} {flen : UInt16} {body bytes : List UInt8}
    (reading : up.reading = .data first flen body)
    (room : body.length + bytes.length < flen.toNat) :
    (bytes.foldl getc up).tcQueue = up.tcQueue := by
  induction bytes generalizing up body with
  | nil => rfl
  | cons byte rest inductionHypothesis =>
      obtain ⟨_, position, starts, tcQueue⟩ := up
      cases reading
      rw [List.length_cons] at room
      have more : (body ++ [byte]).length < flen.toNat := by
        rw [List.length_append, List.length_singleton]
        omega
      have next : getc ⟨.data first flen body, position, starts, tcQueue⟩ byte =
          ⟨.data first flen (body ++ [byte]), position + 1, starts, tcQueue⟩ := by
        unfold getc
        simp only [if_pos more]
      rw [List.foldl_cons, next]
      apply inductionHypothesis rfl
      rw [List.length_append, List.length_singleton]
      omega

/-- In the low byte of a length, the first ping is taken for the end of a frame. -/
theorem foldl_pings_low (inLength : up.reading = .lo 0 0) (count : Nat) :
    ((pings count).foldl getc up).tcQueue = up.tcQueue ++ List.replicate (count - 1) tcPing := by
  cases count with
  | zero => exact (List.append_nil _).symm
  | succ count =>
      have first : ((frameTc tcPing).foldl getc up).reading = .type ∧
          ((frameTc tcPing).foldl getc up).tcQueue = up.tcQueue := by
        obtain ⟨_, position, starts, tcQueue⟩ := up
        cases inLength
        exact ⟨rfl, rfl⟩
      show ((frameTc tcPing ++ pings count).foldl getc up).tcQueue = _
      rw [List.foldl_append, foldl_pings first.1, first.2]
      rfl

/-- In the high byte of a length, the pings are taken for the body of a frame of 256 bytes. -/
theorem foldl_pings_high (inLength : up.reading = .hi 0) {count : Nat} (few : count ≤ 18) :
    ((pings count).foldl getc up).tcQueue = up.tcQueue := by
  cases count with
  | zero => rfl
  | succ count =>
      obtain ⟨_, position, starts, tcQueue⟩ := up
      cases inLength
      have header : getc (getc ⟨.hi 0, position, starts, tcQueue⟩ 0x01) 0x00 =
          ⟨.data 0 256 [], position + 1 + 1, starts, tcQueue⟩ := rfl
      show (((frameTc tcPing).drop 2 ++ pings count).foldl getc
        (getc (getc ⟨.hi 0, position, starts, tcQueue⟩ 0x01) 0x00)).tcQueue = tcQueue
      rw [header]
      apply foldl_within rfl
      rw [List.length_append, pings_length]
      show 0 + (12 + 14 * count) < 256
      omega

end Uplink

/-! ### The flush in every run -/

/-- Whatever the task has read before the tool starts, with any telemetry and pauses in between:
its flush brings the task to the beginning of a frame only if the bytes that were owed come in
threes. With one byte more, the first ping is lost, and with two more all of the first 18. -/
theorem flush_hears (cfg : Config) (stream : List UInt8) (count : Nat) {events : List TmtcEvent}
    (received : Tmtc.received events = stream ++ (flush ++ pings count)) :
    ∃ stuck flushed after, stuck = stream.foldl Uplink.getc Uplink.init ∧
      flushed = flush.foldl Uplink.getc stuck ∧
      Tmtc.run events (Tmtc.init cfg) = some after ∧
      (flushed.reading = .type ↔ stuck.reading.owed % 3 = 0) ∧
      (stuck.reading.owed % 3 = 0 →
        after.up.tcQueue = flushed.tcQueue ++ List.replicate count tcPing) ∧
      (stuck.reading.owed % 3 = 1 →
        after.up.tcQueue = flushed.tcQueue ++ List.replicate (count - 1) tcPing) ∧
      (stuck.reading.owed % 3 = 2 → count ≤ 18 → after.up.tcQueue = flushed.tcQueue) := by
  obtain ⟨after, ran, up⟩ := Tmtc.run_up events (Tmtc.init cfg)
  rw [received, List.foldl_append, List.foldl_append] at up
  change after.up = (pings count).foldl Uplink.getc
    (flush.foldl Uplink.getc (stream.foldl Uplink.getc Uplink.init)) at up
  have part : (stream.foldl Uplink.getc Uplink.init).reading.Underway :=
    Uplink.foldl_underway stream trivial
  have leaves := Uplink.foldl_flush part
  refine ⟨_, _, after, rfl, rfl, ran, ?_, ?_, ?_, ?_⟩
  · rw [leaves]
    constructor
    · intro begins
      by_contra owes
      rw [if_neg owes] at begins
      split at begins <;> cases begins
    · exact fun even => if_pos even
  · intro even
    rw [if_pos even] at leaves
    rw [up]
    exact Uplink.foldl_pings leaves count
  · intro one
    rw [if_neg (by omega), if_pos one] at leaves
    rw [up]
    exact Uplink.foldl_pings_low leaves count
  · intro two few
    rw [if_neg (by omega), if_neg (by omega)] at leaves
    rw [up]
    exact Uplink.foldl_pings_high leaves few

/-- A task that has read the type of a frame takes none of the three pings of the tool. -/
theorem stuckFlush_hears :
    ∃ after, Tmtc.run (([0x01] ++ (flush ++ pings 3)).map .received) (Tmtc.init Config.default) =
        some after ∧
      after.up.tcQueue =
        (flush.foldl Uplink.getc ([0x01].foldl Uplink.getc Uplink.init)).tcQueue := by
  have received : Tmtc.received (([0x01] ++ (flush ++ pings 3)).map .received) =
      [0x01] ++ (flush ++ pings 3) := by
    unfold Tmtc.received
    rw [List.filterMap_map]
    exact List.filterMap_some
  obtain ⟨stuck, flushed, after, stuckIs, flushedIs, ran, _, _, _, high⟩ :=
    flush_hears Config.default [0x01] 3 received
  have two : stuck.reading.owed % 3 = 2 := by
    rw [stuckIs]
    rfl
  refine ⟨after, ran, ?_⟩
  rw [← stuckIs, ← flushedIs]
  exact high two (by decide)

end Openobsw.Task
