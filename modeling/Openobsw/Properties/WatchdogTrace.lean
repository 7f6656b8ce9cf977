import Openobsw.Fdir.Watchdog
import Openobsw.Lib.Trace

/-!
Owns the law of the watchdog's trace: it expires in the first tick that completes a
timeout of ticks without a kick, once, and stays expired.
-/

namespace Openobsw.Fdir

open Openobsw.Lib

namespace Watchdog

/-! ### Quiet ticks -/

/-- No call since the start or since a tick. -/
def AfterTick (calls : List WdCall) : Prop :=
  calls = [] ∨ ∃ front, calls = front ++ [.tick]

/-- The calls end with ticks that had no kick between them and the tick before, or the start. -/
def Completes (count : Nat) (calls : List WdCall) : Prop :=
  ∃ front, calls = front ++ List.replicate count .tick ∧ AfterTick front

theorem completes_nil_iff {count : Nat} : Completes count [] ↔ count = 0 := by
  unfold Completes
  constructor
  · intro complete
    obtain ⟨front, split, _⟩ := complete
    have none := (List.append_eq_nil_iff.mp split.symm).2
    simpa using none
  · intro none
    exact ⟨[], by rw [none]; rfl, .inl rfl⟩

theorem not_completes_kick (count : Nat) (calls : List WdCall) :
    ¬ Completes count (calls ++ [.kick]) := by
  intro complete
  obtain ⟨front, split, afterTick⟩ := complete
  cases count with
  | zero =>
      rw [List.replicate_zero, List.append_nil] at split
      rw [← split] at afterTick
      rcases afterTick with empty | ⟨earlier, same⟩
      · exact absurd empty (by simp)
      · cases List.append_inj_right' same rfl
  | succ count =>
      rw [List.replicate_succ', ← List.append_assoc] at split
      cases List.append_inj_right' split rfl

theorem completes_zero_tick (calls : List WdCall) : Completes 0 (calls ++ [.tick]) :=
  ⟨_, (List.append_nil _).symm, .inr ⟨calls, rfl⟩⟩

theorem completes_succ_tick {count : Nat} {calls : List WdCall} :
    Completes (count + 1) (calls ++ [.tick]) ↔ Completes count calls := by
  unfold Completes
  simp only [List.replicate_succ', ← List.append_assoc, List.append_left_inj]

/-- Quiet ticks leave no kick behind them. -/
theorem Completes.zero {count : Nat} {calls : List WdCall} (complete : Completes count calls) :
    Completes 0 calls := by
  obtain ⟨front, split, afterTick⟩ := complete
  cases count with
  | zero => exact ⟨front, split, afterTick⟩
  | succ count =>
      rw [split, List.replicate_succ', ← List.append_assoc]
      exact completes_zero_tick _

/-! ### The invariant -/

/-- A running watchdog has counted the quiet ticks. -/
structure Counting (calls : List WdCall) (wd : Watchdog) : Prop where
  expired : wd.expired = false
  expirations : wd.expirations = 0
  before : ¬ Trace.Reached (Completes wd.timeoutTicks.toNat) calls
  positive : 0 < wd.countdown.toNat
  atMost : wd.countdown.toNat ≤ wd.timeoutTicks.toNat
  kicked : wd.kicked = true ↔ ¬ Completes 0 calls
  quiet : wd.kicked = false → ∀ count, Completes count calls ↔
    count ≤ wd.timeoutTicks.toNat - wd.countdown.toNat

/-- An expired one has called back once. -/
structure Expired (calls : List WdCall) (wd : Watchdog) : Prop where
  expired : wd.expired = true
  expirations : wd.expirations = 1
  reached : Trace.Reached (Completes wd.timeoutTicks.toNat) calls

/-- What the watchdog knows of the calls so far. -/
def Watches (timeout : UInt32) (calls : List WdCall) (wd : Watchdog) : Prop :=
  wd.timeoutTicks = timeout ∧ (Counting calls wd ∨ Expired calls wd)

theorem Counting.kick {calls : List WdCall} {wd : Watchdog} (counting : Counting calls wd) :
    Counting (calls ++ [.kick]) wd.kick where
  expired := counting.expired
  expirations := counting.expirations
  before := by
    intro reached
    rcases Trace.reached_concat.mp reached with earlier | now
    · exact counting.before earlier
    · exact not_completes_kick _ _ now
  positive := counting.positive
  atMost := counting.atMost
  kicked := iff_of_true rfl (not_completes_kick 0 calls)
  quiet := fun never => absurd never.symm Bool.false_ne_true

/-- A tick after a kick starts the count again. -/
theorem Counting.reload {calls : List WdCall} {wd : Watchdog} (counting : Counting calls wd)
    (kicked : wd.kicked = true) : Counting (calls ++ [.tick]) wd.tick := by
  have noneBefore (count : Nat) : ¬ Completes count calls :=
    fun complete => counting.kicked.mp kicked complete.zero
  have exactly (count : Nat) : Completes count (calls ++ [.tick]) ↔ count = 0 := by
    cases count with
    | zero => exact iff_of_true (completes_zero_tick calls) rfl
    | succ count =>
        rw [completes_succ_tick]
        exact iff_of_false (noneBefore count) (Nat.succ_ne_zero count)
  have timeout : 0 < wd.timeoutTicks.toNat := Nat.lt_of_lt_of_le counting.positive counting.atMost
  rw [tick_kicked counting.expired kicked]
  refine ⟨counting.expired, counting.expirations, ?_, timeout, Nat.le_refl _, ?_, ?_⟩
  · intro reached
    rcases Trace.reached_concat.mp reached with earlier | now
    · exact counting.before earlier
    · exact Nat.ne_of_gt timeout ((exactly _).mp now)
  · exact iff_of_false Bool.false_ne_true (fun none => none (completes_zero_tick calls))
  · intro _ count
    rw [exactly, Nat.sub_self, Nat.le_zero]

theorem Counting.completes_tick {calls : List WdCall} {wd : Watchdog}
    (counting : Counting calls wd) (quiet : wd.kicked = false) (count : Nat) :
    Completes count (calls ++ [.tick]) ↔
      count ≤ wd.timeoutTicks.toNat - (wd.countdown.toNat - 1) := by
  have positive := counting.positive
  have atMost := counting.atMost
  cases count with
  | zero => exact iff_of_true (completes_zero_tick calls) (Nat.zero_le _)
  | succ count =>
      rw [completes_succ_tick, counting.quiet quiet]
      omega

/-- A quiet tick before the last counts down. -/
theorem Counting.count {calls : List WdCall} {wd : Watchdog} (counting : Counting calls wd)
    (quiet : wd.kicked = false) (more : 1 < wd.countdown.toNat) :
    Counting (calls ++ [.tick]) wd.tick := by
  obtain ⟨ticked, lower⟩ := tick_counts counting.expired quiet more
  have exactly := counting.completes_tick quiet
  have atMost := counting.atMost
  rw [ticked]
  refine ⟨counting.expired, counting.expirations, ?_, ?_, ?_, ?_, ?_⟩
  · intro reached
    rcases Trace.reached_concat.mp reached with earlier | now
    · exact counting.before earlier
    · have enough : wd.timeoutTicks.toNat ≤ _ := (exactly _).mp now
      omega
  · rw [lower]
    omega
  · rw [lower]
    exact Nat.le_trans (Nat.sub_le _ _) atMost
  · rw [quiet]
    exact iff_of_false Bool.false_ne_true (fun none => none (completes_zero_tick calls))
  · intro _ count
    rw [exactly, lower]

/-- The last quiet tick completes the timeout. -/
theorem Counting.expire {calls : List WdCall} {wd : Watchdog} (counting : Counting calls wd)
    (quiet : wd.kicked = false) (last : wd.countdown = 1) :
    Expired (calls ++ [.tick]) wd.tick := by
  have exactly := counting.completes_tick quiet
  rw [tick_expires counting.expired quiet last]
  refine ⟨rfl, ?_, ?_⟩
  · show wd.expirations + 1 = 1
    rw [counting.expirations]
  · apply Trace.reached_concat.mpr
    right
    rw [exactly, last]
    exact Nat.le_refl _

theorem Expired.call {calls : List WdCall} {wd : Watchdog} (expired : Expired calls wd)
    (next : WdCall) : Expired (calls ++ [next]) (wd.call next) := by
  have reached := expired.reached.mono (List.prefix_append calls [next])
  cases next with
  | kick => exact ⟨expired.expired, expired.expirations, reached⟩
  | tick =>
      show Expired _ wd.tick
      rw [tick_expired expired.expired]
      exact ⟨expired.expired, expired.expirations, reached⟩

theorem call_timeoutTicks (wd : Watchdog) (next : WdCall) :
    (wd.call next).timeoutTicks = wd.timeoutTicks := by
  cases next with
  | kick => rfl
  | tick =>
      show wd.tick.timeoutTicks = _
      unfold tick
      split
      · rfl
      · split
        · rfl
        · exact expireAtZero_timeoutTicks _

theorem Watches.call {timeout : UInt32} {calls : List WdCall} {wd : Watchdog}
    (watches : Watches timeout calls wd) (next : WdCall) :
    Watches timeout (calls ++ [next]) (wd.call next) := by
  obtain ⟨sameTimeout, state⟩ := watches
  refine ⟨(call_timeoutTicks wd next).trans sameTimeout, ?_⟩
  rcases state with counting | expired
  · cases next with
    | kick => exact .inl counting.kick
    | tick =>
        by_cases kicked : wd.kicked = true
        · exact .inl (counting.reload kicked)
        · have quiet := Bool.eq_false_iff.mpr kicked
          by_cases last : wd.countdown = 1
          · exact .inr (counting.expire quiet last)
          · have positive := counting.positive
            have other : wd.countdown.toNat ≠ 1 := fun one => last (UInt32.toNat_inj.mp one)
            exact .inl (counting.count quiet (by omega))
  · exact .inr (expired.call next)

theorem watches_init {timeout : UInt32} {start : Watchdog}
    (initialised : init timeout true = .ok start) : Watches timeout [] start := by
  unfold init at initialised
  rw [if_neg Bool.true_eq_false.mp] at initialised
  by_cases zero : timeout = 0
  · rw [if_pos zero] at initialised
    cases initialised
  · rw [if_neg zero] at initialised
    cases initialised
    have positive : 0 < timeout.toNat :=
      Nat.pos_of_ne_zero (fun none => zero (UInt32.toNat_inj.mp none))
    refine ⟨rfl, .inl ⟨rfl, rfl, ?_, positive, Nat.le_refl _, ?_, ?_⟩⟩
    · intro reached
      obtain ⟨front, isPrefix, complete⟩ := reached
      rw [List.prefix_nil.mp isPrefix] at complete
      exact Nat.ne_of_gt positive (completes_nil_iff.mp complete)
    · exact iff_of_false Bool.false_ne_true (fun none => none (completes_nil_iff.mpr rfl))
    · intro _ count
      rw [completes_nil_iff, Nat.sub_self, Nat.le_zero]

/-! ### Every trace -/

/-- The watchdog after calls. -/
def calls (start : Watchdog) (history : List WdCall) : Watchdog := Trace.after call start history

/-- The watchdog has expired exactly when the timeout has been completed, with one callback. -/
theorem calls_expired {timeout : UInt32} {start : Watchdog}
    (initialised : init timeout true = .ok start) (history : List WdCall) :
    ((start.calls history).expired = true ↔ Trace.Reached (Completes timeout.toNat) history) ∧
      (start.calls history).expirations =
        if (start.calls history).expired then 1 else 0 := by
  obtain ⟨sameTimeout, state⟩ : Watches timeout history (start.calls history) :=
    Trace.invariant_of_all (Watches timeout) (watches_init initialised) (fun _ next watches => watches.call next)
      history
  rcases state with counting | expired
  · rw [← sameTimeout, counting.expired, counting.expirations]
    exact ⟨iff_of_false Bool.false_ne_true counting.before, rfl⟩
  · rw [← sameTimeout, expired.expired, expired.expirations]
    exact ⟨iff_of_true rfl expired.reached, rfl⟩

/-- After any calls the callback was made at most once, it is made exactly in the first tick
that completes the timeout, and the watchdog is expired from then on and not before. -/
theorem trace_law {timeout : UInt32} {start : Watchdog}
    (initialised : init timeout true = .ok start) (history : List WdCall) :
    (start.calls history).expirations ≤ 1 ∧
    (∀ front next, front ++ [next] <+: history →
      ((start.calls (front ++ [next])).expirations ≠ (start.calls front).expirations ↔
        Completes timeout.toNat (front ++ [next]) ∧
          ¬ Trace.Reached (Completes timeout.toNat) front)) ∧
    ∀ front, front <+: history →
      ((start.calls front).expired = true ↔
        Trace.Reached (Completes timeout.toNat) front) := by
  have each := calls_expired initialised
  refine ⟨?_, ?_, fun front _ => (each front).1⟩
  · rw [(each history).2]
    split
    · exact Nat.le_refl 1
    · exact Nat.zero_le 1
  · intro front next _
    obtain ⟨beforeIff, beforeCount⟩ := each front
    obtain ⟨afterIff, afterCount⟩ := each (front ++ [next])
    rw [Trace.reached_concat] at afterIff
    rw [beforeCount, afterCount]
    by_cases before : Trace.Reached (Completes timeout.toNat) front
    · rw [if_pos (beforeIff.mpr before), if_pos (afterIff.mpr (.inl before))]
      exact iff_of_false (fun differ => differ rfl) (fun first => first.2 before)
    · rw [if_neg (fun expired => before (beforeIff.mp expired))]
      by_cases now : Completes timeout.toNat (front ++ [next])
      · rw [if_pos (afterIff.mpr (.inr now))]
        exact iff_of_true Nat.one_ne_zero ⟨now, before⟩
      · rw [if_neg (fun expired => (afterIff.mp expired).elim before now)]
        exact iff_of_false (fun differ => differ rfl) (fun first => now first.1)

/-- A watchdog with a timeout of two ticks. -/
def twoTicks : Watchdog where
  timeoutTicks := 2
  countdown := 2
  kicked := false
  expired := false
  expirations := 0

theorem twoTicks_law :
    (twoTicks.calls [.tick, .kick, .tick, .tick, .tick]).expirations ≤ 1 ∧
      ((twoTicks.calls [.tick, .kick, .tick, .tick, .tick]).expired = true ↔
        Trace.Reached (Completes 2) [.tick, .kick, .tick, .tick, .tick]) := by
  have law := trace_law (show init 2 true = .ok twoTicks from rfl)
    [.tick, .kick, .tick, .tick, .tick]
  exact ⟨law.1, law.2.2 _ (List.prefix_refl _)⟩

/-- The kick in the second tick's place puts the expiry off to the fifth call. -/
example : (twoTicks.calls [.tick, .kick, .tick, .tick]).expired = false ∧
    (twoTicks.calls [.tick, .kick, .tick, .tick, .tick]).expired = true := by decide

end Watchdog

end Openobsw.Fdir
