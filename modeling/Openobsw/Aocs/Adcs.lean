import Openobsw.Aocs.Bdot

/-!
Owns the PD attitude controller (`aocs/adcs.c`) with its quaternion arithmetic. Floats are
kept as bit patterns; the library functions are a parameter.
-/

namespace Openobsw.Aocs

open Openobsw.Lib Openobsw.Lib.Binary32

/-- The functions of the C library that the control laws call, and the conversion
`(uint32_t)x`, which C leaves undefined outside the range of its result. -/
structure Libm where
  sinf : UInt32 → UInt32
  cosf : UInt32 → UInt32
  acosf : UInt32 → UInt32
  toUInt32 : UInt32 → UInt32

/-- `obsw_quat_t` -/
structure Quat where
  w : UInt32
  x : UInt32
  y : UInt32
  z : UInt32
deriving DecidableEq, Repr

namespace Quat

def map (f : UInt32 → UInt32) (q : Quat) : Quat := ⟨f q.w, f q.x, f q.y, f q.z⟩

/-- `obsw_quat_normalise`; nothing when it returns false and leaves the quaternion. -/
def normalise (q : Quat) : Option Quat :=
  let norm := sqrt (add (add (add (mul q.w q.w) (mul q.x q.x)) (mul q.y q.y)) (mul q.z q.z))
  if lt norm 0x2EDBE6FF then none
  else some (q.map (fun part => mul part (div 0x3F800000 norm)))

/-- `obsw_quat_conjugate` -/
def conjugate (q : Quat) : Quat := ⟨q.w, neg q.x, neg q.y, neg q.z⟩

/-- `obsw_quat_multiply` -/
def multiply (a b : Quat) : Quat where
  w := sub (sub (sub (mul a.w b.w) (mul a.x b.x)) (mul a.y b.y)) (mul a.z b.z)
  x := sub (add (add (mul a.w b.x) (mul a.x b.w)) (mul a.y b.z)) (mul a.z b.y)
  y := add (add (sub (mul a.w b.y) (mul a.x b.z)) (mul a.y b.w)) (mul a.z b.x)
  z := add (sub (add (mul a.w b.z) (mul a.x b.y)) (mul a.y b.x)) (mul a.z b.w)

end Quat

namespace Adcs

/-- `obsw_adcs_config_t` -/
structure Config where
  kp : UInt32
  kd : UInt32
  maxTorque : UInt32
deriving DecidableEq, Repr

/-- `obsw_adcs_ctx_t` -/
structure Ctx where
  config : Config
  qCmd : Quat
deriving DecidableEq, Repr

/-- `obsw_adcs_output_t` -/
structure Output where
  torqueCmd : Vec3
  qErr : Quat
  angleErrRad : UInt32
deriving DecidableEq, Repr

/-- `obsw_adcs_init` -/
def init (config : Config) : Ctx where
  config := config
  qCmd := ⟨0x3F800000, 0, 0, 0⟩

/-- The context with a target, unless it could not be normalised. -/
def aim (ctx : Ctx) : Option Quat → Ctx
  | none => ctx
  | some target => { ctx with qCmd := target }

/-- `obsw_adcs_set_target` -/
def setTarget (ctx : Ctx) (q : Quat) : Bool × Ctx := (q.normalise.isSome, aim ctx q.normalise)

/-- The short-path error quaternion of `obsw_adcs_step`. -/
def errorQuat (ctx : Ctx) (measured : Quat) : Quat :=
  let product := ctx.qCmd.conjugate.multiply measured
  let qErr := product.normalise.getD product
  if lt qErr.w 0 then qErr.map neg else qErr

/-- `obsw_adcs_step`; nothing when it returns false. -/
def step (libm : Libm) (ctx : Ctx) (qMeas : Quat) (omega : Vec3) : Option Output := do
  let measured ← qMeas.normalise
  let qErr := errorQuat ctx measured
  let axis : Vec3 := ⟨qErr.x, qErr.y, qErr.z⟩
  let tau := (axis.map (mul (neg ctx.config.kp))).map2 sub (omega.map (mul ctx.config.kd))
  return {
    torqueCmd := tau.map (saturate ctx.config.maxTorque)
    qErr := qErr
    angleErrRad := mul 0x40000000 (libm.acosf qErr.w) }

theorem aim_config (ctx : Ctx) (target : Option Quat) : (aim ctx target).config = ctx.config := by
  cases target <;> rfl

theorem setTarget_config (ctx : Ctx) (q : Quat) : (setTarget ctx q).2.config = ctx.config :=
  aim_config ctx q.normalise

/-- No torque command that is a number exceeds a limit that is one. -/
theorem step_limited {libm : Libm} {ctx : Ctx} {qMeas : Quat} {omega : Vec3} {out : Output}
    (stepped : step libm ctx qMeas omega = some out) :
    out.torqueCmd.Limited ctx.config.maxTorque := by
  obtain ⟨measured, _, same⟩ := Option.bind_eq_some_iff.mp stepped
  cases same
  exact Vec3.saturate_limited _ _

end Adcs

end Openobsw.Aocs
