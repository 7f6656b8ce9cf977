import Openobsw.Tc.Dispatcher

/-!
Owns the satellite mode machine (`fdir/fsm.c`): its three transitions, the
entry and exit hooks, and the TC whitelist.
-/

namespace Openobsw.Fdir

/-- `obsw_fsm_mode_t` -/
inductive Mode where
  | nominal
  | safe
  | standby
deriving DecidableEq, Repr

/-- `obsw_fsm_tc_entry_t` -/
structure TcEntry where
  service : UInt8
  subservice : UInt8
deriving DecidableEq, Repr

/-- `obsw_fsm_config_t`. The two flags say whether the hook pointer is set. -/
structure FsmConfig where
  onEnterSafe : Bool
  onExitSafe : Bool
  safeTcWhitelist : Option (List TcEntry)
  whitelistLen : UInt8
deriving DecidableEq, Repr

inductive Hook where
  | enterSafe
  | exitSafe
deriving DecidableEq, Repr

/-- `obsw_fsm_ctx_t` -/
structure Fsm where
  mode : Mode
  config : FsmConfig
  safeEntryCount : UInt32
  /-- Ghost: the hook calls made so far, oldest first. -/
  hooks : List Hook
deriving DecidableEq, Repr

namespace Fsm

/-- `obsw_fsm_init` -/
def init (config : FsmConfig) : Fsm where
  mode := .standby
  config := config
  safeEntryCount := 0
  hooks := []

/-- `obsw_fsm_to_standby` -/
def toStandby (fsm : Fsm) : Fsm :=
  if fsm.mode = .standby then fsm else { fsm with mode := .standby }

/-- `obsw_fsm_to_safe` -/
def toSafe (fsm : Fsm) : Fsm :=
  if fsm.mode = .safe then fsm
  else
    { fsm with
      mode := .safe
      safeEntryCount := fsm.safeEntryCount + 1
      hooks := if fsm.config.onEnterSafe then fsm.hooks ++ [.enterSafe] else fsm.hooks }

/-- `obsw_fsm_to_nominal` -/
def toNominal (fsm : Fsm) : Fsm :=
  if fsm.mode = .nominal then fsm
  else
    { fsm with
      mode := .nominal
      hooks := if fsm.mode = .safe ∧ fsm.config.onExitSafe then fsm.hooks ++ [.exitSafe]
        else fsm.hooks }

/-- `obsw_fsm_tc_allowed` -/
def tcAllowed (fsm : Fsm) (svc subsvc : UInt8) : Bool :=
  if fsm.mode = .nominal then true
  else
    match fsm.config.safeTcWhitelist with
    | none => false
    | some whitelist =>
        (whitelist.take fsm.config.whitelistLen.toNat).any
          (fun entry => entry.service == svc && entry.subservice == subsvc)

/-- `obsw_fsm_tc_gate` -/
def tcGate (tc : Tc) (fsm : Fsm) : Bool :=
  fsm.tcAllowed tc.service tc.subservice

/-- The change of mode between two states of the machine, when there is one. -/
def change (before after : Fsm) : List (Mode × Mode) :=
  if after.mode = before.mode then [] else [(before.mode, after.mode)]

/-- The (service, subservice) pairs of the configured whitelist. -/
def Whitelisted (config : FsmConfig) (svc subsvc : UInt8) : Prop :=
  ∃ whitelist, config.safeTcWhitelist = some whitelist ∧
    ⟨svc, subsvc⟩ ∈ whitelist.take config.whitelistLen.toNat

@[simp] theorem toSafe_mode (fsm : Fsm) : fsm.toSafe.mode = .safe := by
  unfold toSafe
  split
  · assumption
  · rfl

@[simp] theorem toStandby_mode (fsm : Fsm) : fsm.toStandby.mode = .standby := by
  unfold toStandby
  split
  · assumption
  · rfl

@[simp] theorem toNominal_mode (fsm : Fsm) : fsm.toNominal.mode = .nominal := by
  unfold toNominal
  split
  · assumption
  · rfl

@[simp] theorem toSafe_config (fsm : Fsm) : fsm.toSafe.config = fsm.config := by
  unfold toSafe
  split <;> rfl

@[simp] theorem toStandby_config (fsm : Fsm) : fsm.toStandby.config = fsm.config := by
  unfold toStandby
  split <;> rfl

@[simp] theorem toNominal_config (fsm : Fsm) : fsm.toNominal.config = fsm.config := by
  unfold toNominal
  split <;> rfl

/-- Outside NOMINAL the gate lets through exactly the whitelisted pairs. -/
theorem tcAllowed_iff {fsm : Fsm} (gated : fsm.mode ≠ .nominal) (svc subsvc : UInt8) :
    fsm.tcAllowed svc subsvc = true ↔ Whitelisted fsm.config svc subsvc := by
  unfold tcAllowed Whitelisted
  rw [if_neg gated]
  cases fsm.config.safeTcWhitelist with
  | none => simp
  | some whitelist =>
      simp only [List.any_eq_true, Bool.and_eq_true, beq_iff_eq, Option.some.injEq,
        exists_eq_left']
      constructor
      · rintro ⟨entry, member, rfl, rfl⟩
        exact member
      · intro member
        exact ⟨_, member, rfl, rfl⟩

end Fsm

end Openobsw.Fdir
