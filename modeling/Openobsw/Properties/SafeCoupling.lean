import Openobsw.Pus.S5

/-!
Owns the coupling of high-severity events into SAFE mode. The coupling sits
behind the return code of the TM build, so it holds exactly when the report
could be stored or the satellite already is in SAFE.
-/

namespace Openobsw.Pus.S5

open Openobsw.Fdir

variable {cfg : Config} {η : Type}

/-- A safe-trigger event leaves the mode machine in SAFE; every other event
leaves the mode and the entry count alone. -/
def SafeCoupling (onEvent : Option (UInt16 → η → η)) (severity : Severity) (eventId : UInt16)
    (aux : AuxData) (env : Env cfg η) : Prop :=
  ∃ rc after, report onEvent severity eventId aux env = some (rc, after) ∧
    (Triggers env.ctx severity eventId → after.fsm.mode = .safe) ∧
    (¬ Triggers env.ctx severity eventId →
      after.fsm.mode = env.fsm.mode ∧ after.fsm.safeEntryCount = env.fsm.safeEntryCount)

/-- The report of the event fits one packet and the TM store has a free slot. -/
def Storable (cfg : Config) (aux : AuxData) (store : Tm.Store cfg) : Prop :=
  19 + aux.data.length ≤ cfg.tmMaxPacketLen ∧ store.full = false

theorem reported_fsm_of_triggers {severity : Severity} {eventId : UInt16}
    (onEvent : Option (UInt16 → η → η)) (aux : AuxData) (env : Env cfg η)
    (armed : env.ctx.fsm = true) (triggers : Triggers env.ctx severity eventId) :
    (reported onEvent severity eventId aux env).fsm.mode = .safe ↔
      env.fsm.mode = .safe ∨ Storable cfg aux env.tm.store := by
  have stored := reportRc_ok_iff severity eventId aux env
  show (couple _ _ _ _ _).mode = .safe ↔ _
  rw [couple_of_triggers triggers armed]
  by_cases ok : reportRc severity eventId aux env = .ok
  · rw [if_pos ok]
    exact ⟨fun _ => .inr (stored.mp ok), fun _ => Fsm.toSafe_mode _⟩
  · rw [if_neg ok]
    constructor
    · intro already
      exact .inl already
    · rintro (already | room)
      · exact already
      · exact absurd (stored.mpr room) ok

theorem SafeCoupling.room {onEvent : Option (UInt16 → η → η)} {severity : Severity}
    {eventId : UInt16} {aux : AuxData} {env : Env cfg η}
    (coupling : SafeCoupling onEvent severity eventId aux env) (armed : env.ctx.fsm = true)
    (triggers : Triggers env.ctx severity eventId) :
    env.fsm.mode = .safe ∨ Storable cfg aux env.tm.store := by
  obtain ⟨rc, after, ran, coupled, _⟩ := coupling
  rw [report_eq] at ran
  cases ran
  exact (reported_fsm_of_triggers onEvent aux env armed triggers).mp (coupled triggers)

/-- The coupling holds exactly when a triggering report can be stored, or finds
the satellite in SAFE already. -/
theorem safeCoupling_iff_storable (onEvent : Option (UInt16 → η → η)) (severity : Severity)
    (eventId : UInt16) (aux : AuxData) (env : Env cfg η) (armed : env.ctx.fsm = true) :
    SafeCoupling onEvent severity eventId aux env ↔
      (Triggers env.ctx severity eventId →
        env.fsm.mode = .safe ∨ Storable cfg aux env.tm.store) := by
  constructor
  · intro coupling triggers
    exact coupling.room armed triggers
  · intro room
    refine ⟨_, _, report_eq onEvent severity eventId aux env, ?_, ?_⟩
    · intro triggers
      exact (reported_fsm_of_triggers onEvent aux env armed triggers).mpr (room triggers)
    · intro other
      show (couple _ _ _ _ _).mode = _ ∧ (couple _ _ _ _ _).safeEntryCount = _
      rw [couple_of_not_triggers other]
      exact ⟨rfl, rfl⟩

/-- The TM store after `count` one-byte packets. -/
def loadedStore (count : Nat) : Tm.Store Config.default :=
  Nat.repeat (fun store => (store.enqueue [0]).2) count (Tm.Store.init Config.default)

/-- A NOMINAL satellite whose event 7 is a safe trigger, with `queued` packets waiting. -/
def nominalEnv (queued : Nat) : Env Config.default Unit where
  ctx := {
    apid := 0x010
    msgCounter := 0
    timestamp := 0
    fsm := true
    safeTriggerIds := [7]
    calls := [] }
  tm := { store := loadedStore queued, log := [] }
  fsm := {
    mode := .nominal
    config := {
      onEnterSafe := false
      onExitSafe := false
      safeTcWhitelist := none
      whitelistLen := 0 }
    safeEntryCount := 0
    hooks := [] }
  hook := ()

theorem nominalEnv_coupled :
    (nominalEnv 30).ctx.fsm = true ∧
      (SafeCoupling none .high 7 ⟨[], by decide⟩ (nominalEnv 30) ↔
        (Triggers (nominalEnv 30).ctx .high 7 →
          (nominalEnv 30).fsm.mode = .safe ∨
            Storable Config.default ⟨[], by decide⟩ (nominalEnv 30).tm.store)) :=
  ⟨rfl, safeCoupling_iff_storable none .high 7 ⟨[], by decide⟩ (nominalEnv 30) rfl⟩

/-- With all 31 usable slots taken the safe-trigger event leaves the satellite in NOMINAL. -/
theorem nominalEnv_overloaded :
    Triggers (nominalEnv 31).ctx .high 7 ∧ (nominalEnv 31).fsm.mode = .nominal ∧
      ¬ SafeCoupling none .high 7 ⟨[], by decide⟩ (nominalEnv 31) := by
  have triggers : Triggers (nominalEnv 31).ctx .high 7 := ⟨rfl, List.mem_singleton.mpr rfl⟩
  refine ⟨triggers, rfl, ?_⟩
  intro coupling
  have filled : (nominalEnv 31).tm.store.full = true := by decide +kernel
  rcases coupling.room rfl triggers with already | ⟨_, free⟩
  · cases already
  · rw [filled] at free
    cases free

end Openobsw.Pus.S5
