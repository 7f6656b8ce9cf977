import Mathlib.Tactic.Common

/-!
Owns the software watchdog (`fdir/watchdog.c`): the countdown, the latched kick, and the
callback of its expiry.
-/

namespace Openobsw.Fdir

inductive WdErr where
  | null
  | param
deriving DecidableEq, Repr

/-- `obsw_wd_ctx_t` -/
structure Watchdog where
  timeoutTicks : UInt32
  countdown : UInt32
  kicked : Bool
  expired : Bool
  /-- Ghost: the calls of `expire_cb` so far. -/
  expirations : Nat
deriving DecidableEq, Repr

/-- A call on an initialised watchdog. -/
inductive WdCall where
  | kick
  | tick
deriving DecidableEq, Repr

namespace Watchdog

/-- `obsw_wd_init`; the flag says whether `expire_cb` is set. -/
def init (timeoutTicks : UInt32) (expireCb : Bool) : Except WdErr Watchdog :=
  if expireCb = false then .error .null
  else if timeoutTicks = 0 then .error .param
  else .ok {
    timeoutTicks := timeoutTicks
    countdown := timeoutTicks
    kicked := false
    expired := false
    expirations := 0 }

/-- `obsw_wd_kick` -/
def kick (wd : Watchdog) : Watchdog := { wd with kicked := true }

/-- The end of `obsw_wd_tick`: at zero the watchdog expires. -/
def expireAtZero (wd : Watchdog) : Watchdog :=
  if wd.countdown = 0 then { wd with expired := true, expirations := wd.expirations + 1 } else wd

/-- `obsw_wd_tick` -/
def tick (wd : Watchdog) : Watchdog :=
  if wd.expired then wd
  else if wd.kicked then { wd with countdown := wd.timeoutTicks, kicked := false }
  else
    expireAtZero { wd with
      countdown := if wd.countdown > 0 then wd.countdown - 1 else wd.countdown }

def call (wd : Watchdog) : WdCall → Watchdog
  | .kick => wd.kick
  | .tick => wd.tick

/-! ### What one tick does -/

variable {wd : Watchdog}

@[simp] theorem expireAtZero_timeoutTicks (wd : Watchdog) :
    wd.expireAtZero.timeoutTicks = wd.timeoutTicks := by
  unfold expireAtZero
  split <;> rfl

theorem tick_expired (expired : wd.expired = true) : wd.tick = wd := if_pos expired

theorem tick_kicked (running : wd.expired = false) (kicked : wd.kicked = true) :
    wd.tick = { wd with countdown := wd.timeoutTicks, kicked := false } := by
  unfold tick
  rw [if_neg (by rw [running]; exact Bool.false_ne_true), if_pos kicked]

/-- A tick without a kick counts down. -/
theorem tick_counts (running : wd.expired = false) (quiet : wd.kicked = false)
    (more : 1 < wd.countdown.toNat) :
    wd.tick = { wd with countdown := wd.countdown - 1 } ∧
      (wd.countdown - 1).toNat = wd.countdown.toNat - 1 := by
  have lower : (wd.countdown - 1).toNat = wd.countdown.toNat - 1 :=
    UInt32.toNat_sub_of_le _ _ (Nat.le_of_lt more)
  refine ⟨?_, lower⟩
  have positive : wd.countdown > 0 := Nat.lt_of_succ_lt more
  have nonzero : wd.countdown - 1 ≠ 0 := by
    intro zero
    rw [zero] at lower
    have none : (0 : UInt32).toNat = 0 := rfl
    omega
  unfold tick expireAtZero
  rw [if_neg (by rw [running]; exact Bool.false_ne_true),
    if_neg (by rw [quiet]; exact Bool.false_ne_true), if_pos positive]
  exact if_neg nonzero

/-- The last one makes the watchdog expire. -/
theorem tick_expires (running : wd.expired = false) (quiet : wd.kicked = false)
    (last : wd.countdown = 1) :
    wd.tick = { wd with countdown := 0, expired := true, expirations := wd.expirations + 1 } := by
  unfold tick expireAtZero
  rw [if_neg (by rw [running]; exact Bool.false_ne_true),
    if_neg (by rw [quiet]; exact Bool.false_ne_true), last]
  rfl

end Watchdog

end Openobsw.Fdir
