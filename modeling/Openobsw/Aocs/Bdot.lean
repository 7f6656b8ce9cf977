import Openobsw.Lib.Binary32

/-!
Owns the B-dot detumbling controller (`aocs/bdot.c`). Floats are kept as bit patterns.
-/

namespace Openobsw.Aocs

open Openobsw.Lib

/-- A `float[3]`. -/
structure Vec3 where
  x : UInt32
  y : UInt32
  z : UInt32
deriving DecidableEq, Repr

namespace Vec3

def zero : Vec3 := ⟨0, 0, 0⟩

def map (f : UInt32 → UInt32) (v : Vec3) : Vec3 := ⟨f v.x, f v.y, f v.z⟩

def map2 (f : UInt32 → UInt32 → UInt32) (v w : Vec3) : Vec3 := ⟨f v.x w.x, f v.y w.y, f v.z w.z⟩

/-- Each component is within the limit or a NaN, unless the limit is a NaN. -/
structure Limited (limit : UInt32) (v : Vec3) : Prop where
  x : Binary32.Limited limit v.x
  y : Binary32.Limited limit v.y
  z : Binary32.Limited limit v.z

theorem zero_limited (limit : UInt32) : Limited limit zero :=
  ⟨Binary32.zero_limited limit, Binary32.zero_limited limit, Binary32.zero_limited limit⟩

theorem saturate_limited (limit : UInt32) (v : Vec3) :
    Limited limit (v.map (Binary32.saturate limit)) :=
  ⟨Binary32.saturate_limited limit v.x, Binary32.saturate_limited limit v.y,
    Binary32.saturate_limited limit v.z⟩

end Vec3

namespace Bdot

/-- `obsw_bdot_config_t` -/
structure Config where
  gain : UInt32
  maxDipole : UInt32
  hpfTau : UInt32
deriving DecidableEq, Repr

/-- `obsw_bdot_ctx_t` -/
structure Ctx where
  config : Config
  bPrev : Vec3
  dbdtRawPrev : Vec3
  dbdtFilt : Vec3
  initialised : Bool
deriving DecidableEq, Repr

/-- `obsw_bdot_output_t` -/
structure Output where
  mCmd : Vec3
  dbdt : Vec3
  dbdtFilt : Vec3
deriving DecidableEq, Repr

/-- `obsw_bdot_init` -/
def init (config : Config) : Ctx where
  config := config
  bPrev := .zero
  dbdtRawPrev := .zero
  dbdtFilt := .zero
  initialised := false

/-- The high-pass filter: the context it leaves, and what the control law uses. -/
def highPass (dbdt : Vec3) (dt : UInt32) (ctx : Ctx) : Ctx × Vec3 :=
  let tau := ctx.config.hpfTau
  if Binary32.lt 0 tau then
    let alpha := Binary32.div tau (Binary32.add tau dt)
    let filt := ((ctx.dbdtFilt.map2 Binary32.add dbdt).map2 Binary32.sub ctx.dbdtRawPrev).map
      (Binary32.mul alpha)
    ({ ctx with dbdtFilt := filt, dbdtRawPrev := dbdt }, filt)
  else (ctx, dbdt)

/-- `obsw_bdot_step`. It leaves its output as it was when the time step is not positive. -/
def step (ctx : Ctx) (b : Vec3) (dt : UInt32) : Ctx × Option Output :=
  if Binary32.le dt 0 then (ctx, none)
  else if ctx.initialised = false then
    ({ ctx with bPrev := b, initialised := true }, some ⟨.zero, .zero, .zero⟩)
  else
    let dbdt := (b.map2 Binary32.sub ctx.bPrev).map (fun d => Binary32.div d dt)
    let (ctx, eff) := highPass dbdt dt ctx
    let m := eff.map (Binary32.mul (Binary32.neg ctx.config.gain))
    ({ ctx with bPrev := b },
      some ⟨m.map (Binary32.saturate ctx.config.maxDipole), dbdt, eff⟩)

theorem highPass_config (dbdt : Vec3) (dt : UInt32) (ctx : Ctx) :
    (highPass dbdt dt ctx).1.config = ctx.config := by
  unfold highPass
  simp only
  split <;> rfl

/-- A step with a positive time step, or one that is not a number, commands a dipole. -/
theorem step_isSome (ctx : Ctx) (b : Vec3) {dt : UInt32} (onward : Binary32.le dt 0 = false) :
    ∃ out, (step ctx b dt).2 = some out := by
  unfold step
  rw [if_neg (by simp [onward])]
  split <;> exact ⟨_, rfl⟩

/-- No dipole command that is a number exceeds a limit that is one. -/
theorem step_limited {ctx : Ctx} {b : Vec3} {dt : UInt32} {out : Output}
    (stepped : (step ctx b dt).2 = some out) : out.mCmd.Limited ctx.config.maxDipole := by
  unfold step at stepped
  split at stepped
  · cases stepped
  · split at stepped
    · cases stepped
      exact Vec3.zero_limited _
    · simp only [highPass_config] at stepped
      cases stepped
      exact Vec3.saturate_limited _ _

end Bdot

end Openobsw.Aocs
