import Openobsw.Aocs.Adcs
import Openobsw.System.HostFrames

/-!
Owns the sensor and actuator frames of the host simulation (`sensor_inject.c`) and the
control step between them: the part of a sensor frame in `main` that computes in floating
point.
-/

namespace Openobsw.HostSim

open Openobsw.Aocs Openobsw.Fdir Openobsw.Lib Openobsw.Lib.Binary32 Openobsw.Pus Openobsw.Srdb

/-! ### Frames -/

/-- `obsw_sensor_frame_t` -/
structure SensorFrame where
  mag : Vec3
  magValid : UInt8
  stQ : Quat
  stValid : UInt8
  gyro : Vec3
  gyroValid : UInt8
  simTime : UInt32
deriving DecidableEq, Repr

/-- `OBSW_SENSOR_FRAME_LEN` -/
def sensorFrameLen : Nat := 47

/-- The `uint8_t` at an offset of a packed structure. -/
def byteAt (buf : List UInt8) (offset : Nat) : UInt8 := buf.getD offset 0

/-- The `float` at an offset of a packed structure, least significant byte first. -/
def wordAt (buf : List UInt8) (offset : Nat) : UInt32 :=
  ((byteAt buf (offset + 3)).toUInt32 <<< 24) ||| ((byteAt buf (offset + 2)).toUInt32 <<< 16) |||
    ((byteAt buf (offset + 1)).toUInt32 <<< 8) ||| (byteAt buf offset).toUInt32

/-- `obsw_sim_parse_sensor` -/
def simParseSensor (buf : List UInt8) : Option SensorFrame :=
  if buf.length < sensorFrameLen then none
  else some {
    mag := ⟨wordAt buf 0, wordAt buf 4, wordAt buf 8⟩
    magValid := byteAt buf 12
    stQ := ⟨wordAt buf 13, wordAt buf 17, wordAt buf 21, wordAt buf 25⟩
    stValid := byteAt buf 29
    gyro := ⟨wordAt buf 30, wordAt buf 34, wordAt buf 38⟩
    gyroValid := byteAt buf 42
    simTime := wordAt buf 43 }

/-- `obsw_actuator_frame_t` -/
structure ActuatorFrame where
  mtqDipole : Vec3
  rwTorque : Vec3
  controller : UInt8
  simTime : UInt32
deriving DecidableEq, Repr

/-- A `float` as it lies in memory. -/
def putWord (value : UInt32) : List UInt8 :=
  [(value &&& 0xFF).toUInt8, (value >>> 8).toUInt8, (value >>> 16).toUInt8, (value >>> 24).toUInt8]

def putVec3 (v : Vec3) : List UInt8 := putWord v.x ++ putWord v.y ++ putWord v.z

/-- The bytes of the packed structure. -/
def ActuatorFrame.bytes (act : ActuatorFrame) : List UInt8 :=
  putVec3 act.mtqDipole ++ putVec3 act.rwTorque ++ [act.controller] ++ putWord act.simTime

@[simp] theorem ActuatorFrame.bytes_length (act : ActuatorFrame) : act.bytes.length = 29 := rfl

/-! ### The target attitude -/

/-- The quaternion of a rotation matrix given by its columns, by Shepperd's method. -/
def shepperd (v h r : Vec3) : Quat :=
  let one := 0x3F800000
  let half := 0x3F000000
  let quarter := 0x3E800000
  let two := 0x40000000
  let tr := add (add v.x h.y) r.z
  if lt 0 tr then
    let s := div half (sqrt (add tr one))
    ⟨div quarter s, mul (sub h.z r.y) s, mul (sub r.x v.z) s, mul (sub v.y h.x) s⟩
  else if lt h.y v.x && lt r.z v.x then
    let s := mul two (sqrt (sub (sub (add one v.x) h.y) r.z))
    ⟨div (sub h.z r.y) s, mul quarter s, div (add h.x v.y) s, div (add r.x v.z) s⟩
  else if lt r.z h.y then
    let s := mul two (sqrt (sub (sub (add one h.y) v.x) r.z))
    ⟨div (sub r.x v.z) s, div (add h.x v.y) s, mul quarter s, div (add h.z r.y) s⟩
  else
    let s := mul two (sqrt (sub (sub (add one r.z) v.x) h.y))
    ⟨div (sub v.y h.x) s, div (add r.x v.z) s, div (add h.z r.y) s, mul quarter s⟩

/-- `compute_nadir_quat` -/
def computeNadirQuat (libm : Libm) (tS altKm incDeg : UInt32) : Quat :=
  let muEarth := 0x57B54333
  let rEarth := 0x4AC26D70
  let deg2rad := div 0x40490FDB 0x43340000
  let rOrbit := add rEarth (mul altKm 0x447A0000)
  let omegaOrb := sqrt (div muEarth (mul (mul rOrbit rOrbit) rOrbit))
  let nu := mul omegaOrb tS
  let inc := mul incDeg deg2rad
  let r : Vec3 := ⟨libm.cosf nu, mul (libm.sinf nu) (libm.cosf inc),
    mul (libm.sinf nu) (libm.sinf inc)⟩
  let v : Vec3 := ⟨neg (libm.sinf nu), mul (libm.cosf nu) (libm.cosf inc),
    mul (libm.cosf nu) (libm.sinf inc)⟩
  let h : Vec3 := ⟨sub (mul r.y v.z) (mul r.z v.y), sub (mul r.z v.x) (mul r.x v.z),
    sub (mul r.x v.y) (mul r.y v.x)⟩
  let hn := sqrt (add (add (mul h.x h.x) (mul h.y h.y)) (mul h.z h.z))
  let h := if lt 0x2EDBE6FF hn then h.map (fun part => div part hn) else h
  let q := shepperd v h r
  q.normalise.getD q

/-! ### The control step -/

/-- What the control step keeps: the contexts of the two controllers, and
`last_sim_time`. -/
structure Controllers where
  bdot : Bdot.Ctx
  adcs : Adcs.Ctx
  lastSimTime : UInt32
deriving DecidableEq, Repr

/-- The controllers as `main` initialises them. -/
def Controllers.init : Controllers where
  bdot := Bdot.init {
    gain := 0x461C4000
    maxDipole := 0x41200000
    hpfTau := s20GetF32 s20Params 0x20A3 0x41700000 }
  adcs := Adcs.init {
    kp := 0x3F000000
    kd := 0x3DCCCCCD
    maxTorque := 0x3E4CCCCD }
  lastSimTime := 0

/-- The gains that the ground can tune, synchronised before each control step. -/
def Controllers.tuned (table : List S20.Param) (controllers : Controllers) : Controllers :=
  { controllers with
    adcs := { controllers.adcs with
      config := { controllers.adcs.config with
        kp := s20GetF32 table 0x20A1 0x3F000000
        kd := s20GetF32 table 0x20A2 0x3DCCCCCD } }
    bdot := { controllers.bdot with
      config := {
        gain := s20GetF32 table 0x20A0 0x461C4000
        maxDipole := s20GetF32 table 0x3020 0x41200000
        hpfTau := s20GetF32 table 0x20A3 0x41700000 } } }

/-- The time step since the last sensor frame; one that is not positive becomes 0.1. -/
def timeStep (simTime lastSimTime : UInt32) : UInt32 :=
  let dt := sub simTime lastSimTime
  if le dt 0 then 0x3DCCCCCD else dt

/-- What a control step leaves: the controllers, the actuator frame, and the results of
the control laws that housekeeping reads. -/
structure Controlled where
  controllers : Controllers
  act : ActuatorFrame
  adcs : Option (UInt32 × UInt32)

/-- The controller with its target set from an orbit. -/
def nadirTarget (libm : Libm) (simTime altKm incDeg : UInt32) (ctx : Adcs.Ctx) : Adcs.Ctx :=
  (Adcs.setTarget ctx (computeNadirQuat libm simTime altKm incDeg)).2

/-- The magnitude of the rate, for housekeeping. -/
def rate (omega : Vec3) : UInt32 :=
  sqrt (add (add (mul omega.x omega.x) (mul omega.y omega.y)) (mul omega.z omega.z))

/-- What `main` does with the answer of `obsw_adcs_step`. -/
def pointed (sensor : SensorFrame) (controllers : Controllers) (act : ActuatorFrame) :
    Option Adcs.Output → Controlled
  | none => ⟨controllers, act, none⟩
  | some out =>
      ⟨controllers, { act with rwTorque := out.torqueCmd, controller := 1 },
        some (out.angleErrRad, rate sensor.gyro)⟩

/-- The pointing part with the target set. -/
def pointAt (libm : Libm) (sensor : SensorFrame) (controllers : Controllers)
    (act : ActuatorFrame) (adcs : Adcs.Ctx) : Controlled :=
  pointed sensor { controllers with adcs := adcs } act
    (Adcs.step libm adcs sensor.stQ sensor.gyro)

/-- The pointing part: the target attitude and the PD law. -/
def pointStep (libm : Libm) (table : List S20.Param) (sensor : SensorFrame)
    (controllers : Controllers) (act : ActuatorFrame) : Controlled :=
  pointAt libm sensor controllers act
    (nadirTarget libm sensor.simTime (s20GetF32 table 0x3001 0x44098000)
      (s20GetF32 table 0x3002 0x42C2CCCD) controllers.adcs)

/-- What `main` does with the answer of `obsw_bdot_step`. `none` is a read of the output
that it left uninitialised. -/
def detumbled (controllers : Controllers) (act : ActuatorFrame) :
    Bdot.Ctx × Option Bdot.Output → Option Controlled
  | (_, none) => none
  | (bdot, some out) =>
      some ⟨{ controllers with bdot := bdot }, { act with mtqDipole := out.mCmd }, none⟩

/-- The detumbling part. -/
def detumbleStep (sensor : SensorFrame) (dt : UInt32) (controllers : Controllers)
    (act : ActuatorFrame) : Option Controlled :=
  detumbled controllers act (Bdot.step controllers.bdot sensor.mag dt)

/-- The control step of `main`, from the time step on. -/
def controlStep (libm : Libm) (mode : Mode) (table : List S20.Param) (sensor : SensorFrame)
    (controllers : Controllers) : Option Controlled :=
  let dt := timeStep sensor.simTime controllers.lastSimTime
  let controllers := { controllers.tuned table with lastSimTime := sensor.simTime }
  let act : ActuatorFrame := ⟨.zero, .zero, 0, sensor.simTime⟩
  if mode = .nominal && sensor.stValid != 0 && sensor.gyroValid != 0 then
    some (pointStep libm table sensor controllers act)
  else if mode = .safe && sensor.magValid != 0 then detumbleStep sensor dt controllers act
  else some ⟨controllers, act, none⟩

/-- What the rest of a sensor frame takes from it. -/
def SensorFrame.sensed (libm : Libm) (sensor : SensorFrame) (lastSimTime : UInt32)
    (adcs : Option (UInt32 × UInt32)) : Sensor where
  magValid := sensor.magValid != 0
  stValid := sensor.stValid != 0
  gyroValid := sensor.gyroValid != 0
  adcs := adcs
  simTime := libm.toUInt32 sensor.simTime
  dtMs := libm.toUInt32 (add (mul (timeStep sensor.simTime lastSimTime) 0x447A0000) 0x3F000000)

/-! ### What a control step commands -/

theorem le_timeStep (simTime lastSimTime : UInt32) : le (timeStep simTime lastSimTime) 0 = false := by
  unfold timeStep
  simp only
  by_cases past : le (sub simTime lastSimTime) 0 = true
  · rw [if_pos past]
    decide
  · rw [if_neg past]
    exact Bool.eq_false_iff.mpr past

/-- Only SAFE mode drives the magnetorquers, only NOMINAL the reaction wheels. A command that
is a number is within its limit; one that is a NaN is sent as it is, and a dipole limit that
the ground has set to a NaN limits nothing. -/
structure ActLaw (mode : Mode) (table : List S20.Param) (sensor : SensorFrame)
    (act : ActuatorFrame) : Prop where
  dipole : mode ≠ .safe ∨ sensor.magValid = 0 → act.mtqDipole = .zero
  torque : mode ≠ .nominal ∨ sensor.stValid = 0 ∨ sensor.gyroValid = 0 → act.rwTorque = .zero
  dipoleLimit : act.mtqDipole.Limited (s20GetF32 table 0x3020 0x41200000)
  torqueLimit : act.rwTorque.Limited 0x3E4CCCCD
  time : act.simTime = sensor.simTime

/-- The controllers keep the torque limit they were initialised with. -/
def Controllers.Limited (controllers : Controllers) : Prop :=
  controllers.adcs.config.maxTorque = 0x3E4CCCCD

theorem init_limited : Controllers.init.Limited := rfl

/-- What a control step of limited controllers leaves. -/
structure Steered (libm : Libm) (mode : Mode) (table : List S20.Param) (sensor : SensorFrame)
    (controllers : Controllers) (controlled : Controlled) : Prop where
  limited : controlled.controllers.Limited
  commanded : ActLaw mode table sensor controlled.act
  controller : controlled.act.controller =
    (aocsStep (sensor.sensed libm controllers.lastSimTime controlled.adcs) mode).1

/-- A step that commands nothing. -/
theorem idle_commanded (mode : Mode) (table : List S20.Param) (sensor : SensorFrame) :
    ActLaw mode table sensor ⟨.zero, .zero, 0, sensor.simTime⟩ where
  dipole _ := rfl
  torque _ := rfl
  dipoleLimit := Vec3.zero_limited _
  torqueLimit := Vec3.zero_limited _
  time := rfl

/-- The frame before the control laws have run. -/
def restFrame (sensor : SensorFrame) : ActuatorFrame := ⟨.zero, .zero, 0, sensor.simTime⟩

theorem nadirTarget_config (libm : Libm) (simTime altKm incDeg : UInt32) (ctx : Adcs.Ctx) :
    (nadirTarget libm simTime altKm incDeg ctx).config = ctx.config :=
  Adcs.setTarget_config ctx _

/-- What the pointing part leaves. -/
theorem pointAt_cases (libm : Libm) (sensor : SensorFrame) (controllers : Controllers)
    (act : ActuatorFrame) {adcs : Adcs.Ctx} (limited : adcs.config.maxTorque = 0x3E4CCCCD) :
    ∃ after : Controllers, after.Limited ∧
      (pointAt libm sensor controllers act adcs = ⟨after, act, none⟩ ∨
        ∃ found torque, torque.Limited 0x3E4CCCCD ∧
          pointAt libm sensor controllers act adcs =
            ⟨after, { act with rwTorque := torque, controller := 1 }, some found⟩) := by
  refine ⟨{ controllers with adcs := adcs }, limited, ?_⟩
  unfold pointAt
  cases stepped : Adcs.step libm adcs sensor.stQ sensor.gyro with
  | none => exact .inl rfl
  | some out =>
      have bounded := Adcs.step_limited stepped
      rw [limited] at bounded
      exact .inr ⟨_, _, bounded, rfl⟩

/-- What the detumbling part leaves. -/
theorem detumbleStep_cases (sensor : SensorFrame) {dt : UInt32} (onward : le dt 0 = false)
    {controllers : Controllers} (limited : controllers.Limited) (act : ActuatorFrame) :
    ∃ (after : Controllers) (dipole : Vec3), after.Limited ∧
      dipole.Limited controllers.bdot.config.maxDipole ∧
      detumbleStep sensor dt controllers act =
        some ⟨after, { act with mtqDipole := dipole }, none⟩ := by
  unfold detumbleStep
  obtain ⟨out, written⟩ := Bdot.step_isSome controllers.bdot sensor.mag onward
  have bounded := Bdot.step_limited written
  generalize Bdot.step controllers.bdot sensor.mag dt = stepped at written
  obtain ⟨bdot, answer⟩ := stepped
  rw [show answer = some out from written]
  exact ⟨{ controllers with bdot := bdot }, out.mCmd, limited, bounded, rfl⟩

/-- The controllers that a control step starts from. -/
def Controllers.ready (table : List S20.Param) (sensor : SensorFrame) (controllers : Controllers) :
    Controllers :=
  { controllers.tuned table with lastSimTime := sensor.simTime }

theorem ready_limited (table : List S20.Param) (sensor : SensorFrame) {controllers : Controllers}
    (limited : controllers.Limited) : (controllers.ready table sensor).Limited :=
  limited

/-- The pointing part in NOMINAL with both of its sensors valid. -/
theorem pointAt_steered (libm : Libm) {mode : Mode} (nominal : mode = .nominal)
    (table : List S20.Param) (sensor : SensorFrame) (star : sensor.stValid ≠ 0)
    (gyro : sensor.gyroValid ≠ 0) (before controllers : Controllers) {adcs : Adcs.Ctx}
    (limited : adcs.config.maxTorque = 0x3E4CCCCD) :
    Steered libm mode table sensor before
      (pointAt libm sensor controllers (restFrame sensor) adcs) := by
  subst nominal
  obtain ⟨after, kept, failed | ⟨found, torque, bounded, commanded⟩⟩ :=
    pointAt_cases libm sensor controllers (restFrame sensor) limited
  · rw [failed]
    exact {
      limited := kept
      commanded := idle_commanded _ _ _
      controller := by
        simp [aocsStep, SensorFrame.sensed, restFrame, star, gyro] }
  · rw [commanded]
    exact {
      limited := kept
      commanded := {
        dipole := fun _ => rfl
        torque := fun off => absurd off (by simp [star, gyro])
        dipoleLimit := Vec3.zero_limited _
        torqueLimit := bounded
        time := rfl }
      controller := by
        simp [aocsStep, SensorFrame.sensed, star, gyro] }

/-- The detumbling part in SAFE with a valid magnetometer. -/
theorem detumbleStep_steered (libm : Libm) {mode : Mode} (safe : mode = .safe)
    (table : List S20.Param) (sensor : SensorFrame) (mag : sensor.magValid ≠ 0) {dt : UInt32}
    (onward : le dt 0 = false) (before : Controllers) {controllers : Controllers}
    (limited : controllers.Limited)
    (tuned : controllers.bdot.config.maxDipole = s20GetF32 table 0x3020 0x41200000) :
    ∃ controlled, detumbleStep sensor dt controllers (restFrame sensor) = some controlled ∧
      Steered libm mode table sensor before controlled := by
  subst safe
  obtain ⟨after, dipole, kept, bounded, stepped⟩ :=
    detumbleStep_cases sensor onward limited (restFrame sensor)
  rw [tuned] at bounded
  refine ⟨_, stepped, ?_⟩
  exact {
    limited := kept
    commanded := {
      dipole := fun off => absurd off (by simp [mag])
      torque := fun _ => rfl
      dipoleLimit := bounded
      torqueLimit := Vec3.zero_limited _
      time := rfl }
    controller := by
      simp [aocsStep, SensorFrame.sensed, restFrame, mag] }

/-- A frame on which neither law runs. -/
theorem rest_steered (libm : Libm) {mode : Mode} (table : List S20.Param) (sensor : SensorFrame)
    (before : Controllers) {controllers : Controllers} (limited : controllers.Limited)
    (off : mode = .nominal → sensor.stValid = 0 ∨ sensor.gyroValid = 0) :
    Steered libm mode table sensor before ⟨controllers, restFrame sensor, none⟩ where
  limited := limited
  commanded := idle_commanded mode table sensor
  controller := by
    cases mode with
    | nominal =>
        rcases off rfl with star | gyro
        · simp [aocsStep, SensorFrame.sensed, restFrame, star]
        · simp [aocsStep, SensorFrame.sensed, restFrame, gyro]
    | safe =>
        by_cases mag : sensor.magValid = 0 <;> simp [aocsStep, SensorFrame.sensed, restFrame, mag]
    | standby => rfl

/-- The control step never reads an output that a controller left uninitialised, keeps the
torque limit, and commands by the law of its mode. -/
theorem controlStep_steered (libm : Libm) (mode : Mode) (table : List S20.Param)
    (sensor : SensorFrame) {controllers : Controllers} (limited : controllers.Limited) :
    ∃ controlled, controlStep libm mode table sensor controllers = some controlled ∧
      Steered libm mode table sensor controllers controlled := by
  have onward := le_timeStep sensor.simTime controllers.lastSimTime
  have kept := ready_limited table sensor limited
  unfold controlStep
  by_cases nominal : mode = .nominal && sensor.stValid != 0 && sensor.gyroValid != 0
  · rw [if_pos nominal]
    simp only [Bool.and_eq_true, decide_eq_true_eq, bne_iff_ne] at nominal
    obtain ⟨⟨nominal, star⟩, gyro⟩ := nominal
    refine ⟨_, rfl, pointAt_steered libm nominal table sensor star gyro controllers _ ?_⟩
    rw [nadirTarget_config]
    exact kept
  · rw [if_neg nominal]
    by_cases safe : mode = .safe && sensor.magValid != 0
    · rw [if_pos safe]
      simp only [Bool.and_eq_true, decide_eq_true_eq, bne_iff_ne] at safe
      exact detumbleStep_steered libm safe.1 table sensor safe.2 onward controllers kept rfl
    · rw [if_neg safe]
      refine ⟨_, rfl, rest_steered libm table sensor controllers kept ?_⟩
      intro same
      simpa [same, Decidable.imp_iff_not_or] using nominal

end Openobsw.HostSim
