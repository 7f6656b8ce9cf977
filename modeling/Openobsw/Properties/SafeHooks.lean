import Openobsw.Fdir.Fsm
import Openobsw.Lib.Trace

/-!
Owns the pairing of the SAFE hooks: an entry call for each change into SAFE and an exit call
for each change out of it. `obsw_fsm_to_standby` has no exit call, so the pairing holds up to
the first time it leaves SAFE.
-/

namespace Openobsw.Fdir

open Openobsw.Lib

/-- A call that may change the mode. -/
inductive FsmCall where
  | toSafe
  | toNominal
  | toStandby
deriving DecidableEq, Repr

namespace Fsm

def call (fsm : Fsm) : FsmCall → Fsm
  | .toSafe => fsm.toSafe
  | .toNominal => fsm.toNominal
  | .toStandby => fsm.toStandby

/-- A configuration with both hooks. -/
def bothHooks (safeTcWhitelist : Option (List TcEntry)) (whitelistLen : UInt8) : FsmConfig where
  onEnterSafe := true
  onExitSafe := true
  safeTcWhitelist := safeTcWhitelist
  whitelistLen := whitelistLen

section

variable (config : FsmConfig)

/-- The machine after calls from its initialisation on. -/
def calls (history : List FsmCall) : Fsm := Trace.after call (init config) history

/-- The changes of mode that calls make, oldest first. -/
def changes (history : List FsmCall) : List (Mode × Mode) :=
  Trace.outputs call (fun fsm next => fsm.change (fsm.call next)) (init config) history

end

/-! ### What is paired -/

/-- The hook that belongs to a change of mode. -/
def hookOf (change : Mode × Mode) : List Hook :=
  if change.2 = .safe then [.enterSafe] else if change.1 = .safe then [.exitSafe] else []

/-- The changes into SAFE. -/
def entries (changes : List (Mode × Mode)) : List (Mode × Mode) :=
  changes.filter (fun change => change.2 = .safe)

/-- An entry and an exit call in turn, and an entry call that is open in SAFE. -/
def Alternating (mode : Mode) (hooks : List Hook) : Prop :=
  ∃ pairs, hooks = (List.replicate pairs [Hook.enterSafe, Hook.exitSafe]).flatten ++
    if mode = .safe then [.enterSafe] else []

/-- The hook calls so far are those of the changes, in their order; the entries are counted. -/
structure Paired (changes : List (Mode × Mode)) (fsm : Fsm) : Prop where
  hooks : fsm.hooks = changes.flatMap hookOf
  counted : fsm.safeEntryCount.toNat = (entries changes).length
  alternating : Alternating fsm.mode fsm.hooks

/-- A call that keeps the pairing: SAFE is not left for STANDBY, and the entry counter, whose
32 bits are full, is not moved on. -/
def KeepsPairing (fsm : Fsm) (next : FsmCall) : Prop :=
  ¬ (next = .toStandby ∧ fsm.mode = .safe) ∧
    ¬ (next = .toSafe ∧ fsm.mode ≠ .safe ∧ fsm.safeEntryCount = 0xFFFFFFFF)

/-! ### One call -/

section

variable {fsm : Fsm} {changes : List (Mode × Mode)}

theorem change_self (fsm : Fsm) : fsm.change fsm = [] := if_pos rfl

theorem Paired.same (paired : Paired changes fsm) : Paired (changes ++ fsm.change fsm) fsm := by
  rw [change_self, List.append_nil]
  exact paired

/-- Entering SAFE from another mode. -/
theorem Paired.enter (paired : Paired changes fsm) (both : fsm.config.onEnterSafe = true)
    (outside : fsm.mode ≠ .safe) (room : fsm.safeEntryCount ≠ 0xFFFFFFFF) :
    Paired (changes ++ fsm.change fsm.toSafe) fsm.toSafe := by
  have changed : fsm.change fsm.toSafe = [(fsm.mode, .safe)] := by
    unfold change
    rw [toSafe_mode, if_neg outside.symm]
  have entered : fsm.toSafe = { fsm with
      mode := .safe
      safeEntryCount := fsm.safeEntryCount + 1
      hooks := fsm.hooks ++ [.enterSafe] } := by
    unfold toSafe
    rw [if_neg outside, if_pos both]
  have next : (fsm.safeEntryCount + 1).toNat = fsm.safeEntryCount.toNat + 1 := by
    have fits := fsm.safeEntryCount.toNat_lt
    have below : fsm.safeEntryCount.toNat ≠ 4294967295 :=
      fun full => room (UInt32.toNat_inj.mp full)
    rw [UInt32.toNat_add]
    exact Nat.mod_eq_of_lt (by show fsm.safeEntryCount.toNat + 1 < 4294967296; omega)
  obtain ⟨pairs, alternating⟩ := paired.alternating
  rw [if_neg outside, List.append_nil] at alternating
  rw [changed, entered]
  refine ⟨?_, ?_, pairs, ?_⟩
  · rw [List.flatMap_append, ← paired.hooks]
    rfl
  · show (fsm.safeEntryCount + 1).toNat = _
    rw [next, paired.counted, entries, entries, List.filter_append, List.length_append]
    rfl
  · rw [if_pos rfl, ← alternating]

/-- Leaving SAFE for NOMINAL. -/
theorem Paired.exit (paired : Paired changes fsm) (both : fsm.config.onExitSafe = true)
    (inside : fsm.mode = .safe) :
    Paired (changes ++ fsm.change fsm.toNominal) fsm.toNominal := by
  have changed : fsm.change fsm.toNominal = [(.safe, .nominal)] := by
    unfold change
    rw [toNominal_mode, inside]
    rfl
  have left : fsm.toNominal = { fsm with mode := .nominal, hooks := fsm.hooks ++ [.exitSafe] } := by
    unfold toNominal
    rw [if_neg (by rw [inside]; decide), if_pos ⟨inside, both⟩]
  obtain ⟨pairs, alternating⟩ := paired.alternating
  rw [if_pos inside] at alternating
  rw [changed, left]
  refine ⟨?_, ?_, pairs + 1, ?_⟩
  · rw [List.flatMap_append, ← paired.hooks]
    rfl
  · rw [paired.counted, entries, entries, List.filter_append, List.length_append]
    rfl
  · show fsm.hooks ++ [.exitSafe] = _ ++ []
    rw [List.append_nil, List.replicate_succ', List.flatten_append, alternating, List.append_assoc]
    rfl

/-- A change between STANDBY and NOMINAL concerns no hook. -/
theorem Paired.elsewhere (paired : Paired changes fsm) {mode : Mode} (outside : fsm.mode ≠ .safe)
    (target : mode ≠ .safe) (other : mode ≠ fsm.mode) :
    Paired (changes ++ fsm.change { fsm with mode := mode }) { fsm with mode := mode } := by
  have changed : fsm.change { fsm with mode := mode } = [(fsm.mode, mode)] := if_neg other
  have noHook : hookOf (fsm.mode, mode) = [] := by
    unfold hookOf
    rw [if_neg target, if_neg outside]
  obtain ⟨pairs, alternating⟩ := paired.alternating
  rw [if_neg outside] at alternating
  rw [changed]
  refine ⟨?_, ?_, pairs, ?_⟩
  · rw [List.flatMap_append, ← paired.hooks, List.flatMap_singleton, noHook, List.append_nil]
  · rw [paired.counted, entries, entries, List.filter_append, List.length_append,
      List.filter_singleton]
    simp [target]
  · rw [if_neg target]
    exact alternating

theorem call_config (fsm : Fsm) (next : FsmCall) : (fsm.call next).config = fsm.config := by
  cases next with
  | toSafe => exact toSafe_config fsm
  | toNominal => exact toNominal_config fsm
  | toStandby => exact toStandby_config fsm

theorem Paired.call (paired : Paired changes fsm) (enter : fsm.config.onEnterSafe = true)
    (exit : fsm.config.onExitSafe = true) {next : FsmCall} (keeps : KeepsPairing fsm next) :
    Paired (changes ++ fsm.change (fsm.call next)) (fsm.call next) := by
  cases next with
  | toSafe =>
      show Paired (changes ++ fsm.change fsm.toSafe) fsm.toSafe
      by_cases inside : fsm.mode = .safe
      · have idle : fsm.toSafe = fsm := if_pos inside
        rw [idle]
        exact paired.same
      · exact paired.enter enter inside (fun full => keeps.2 ⟨rfl, inside, full⟩)
  | toNominal =>
      show Paired (changes ++ fsm.change fsm.toNominal) fsm.toNominal
      by_cases nominal : fsm.mode = .nominal
      · have idle : fsm.toNominal = fsm := if_pos nominal
        rw [idle]
        exact paired.same
      · by_cases inside : fsm.mode = .safe
        · exact paired.exit exit inside
        · have moved : fsm.toNominal = { fsm with mode := .nominal } := by
            unfold toNominal
            rw [if_neg nominal, if_neg (fun both => inside both.1)]
          rw [moved]
          exact paired.elsewhere inside Mode.noConfusion (Ne.symm nominal)
  | toStandby =>
      show Paired (changes ++ fsm.change fsm.toStandby) fsm.toStandby
      by_cases standby : fsm.mode = .standby
      · have idle : fsm.toStandby = fsm := if_pos standby
        rw [idle]
        exact paired.same
      · have moved : fsm.toStandby = { fsm with mode := .standby } := if_neg standby
        have outside : fsm.mode ≠ .safe := fun inside => keeps.1 ⟨rfl, inside⟩
        rw [moved]
        exact paired.elsewhere outside Mode.noConfusion (Ne.symm standby)

/-- A call that does not keep the pairing breaks it. -/
theorem keepsPairing_of_paired {next : FsmCall} (before : Paired changes fsm)
    (after : Paired (changes ++ fsm.change (fsm.call next)) (fsm.call next)) :
    KeepsPairing fsm next := by
  constructor
  · rintro ⟨rfl, inside⟩
    have moved : fsm.toStandby = { fsm with mode := .standby } :=
      if_neg (by rw [inside]; exact Mode.noConfusion)
    have changed : fsm.change fsm.toStandby = [(.safe, .standby)] := by
      unfold change
      rw [toStandby_mode, inside]
      rfl
    -- the change has an exit hook, the call makes none
    have hooks : fsm.hooks = (changes ++ fsm.change fsm.toStandby).flatMap hookOf := by
      have same := after.hooks
      rwa [show (fsm.call .toStandby).hooks = fsm.hooks by rw [show fsm.call .toStandby = _ from moved]]
        at same
    rw [changed, List.flatMap_append, ← before.hooks] at hooks
    exact absurd hooks.symm (by simp [hookOf])
  · rintro ⟨rfl, outside, full⟩
    have entered : (fsm.call .toSafe).safeEntryCount = 0 := by
      show fsm.toSafe.safeEntryCount = 0
      unfold toSafe
      rw [if_neg outside]
      show fsm.safeEntryCount + 1 = 0
      rw [full]
      rfl
    have changed : fsm.change (fsm.call .toSafe) = [(fsm.mode, .safe)] := by
      show fsm.change fsm.toSafe = _
      unfold change
      rw [toSafe_mode, if_neg (Ne.symm outside)]
    -- the counter is back at zero after an entry
    have counted := after.counted
    rw [entered, changed, entries, List.filter_append, List.length_append] at counted
    exact absurd counted.symm (Nat.succ_ne_zero _)

end

/-! ### Every sequence of calls -/

section

variable (config : FsmConfig)

theorem calls_config (history : List FsmCall) : (calls config history).config = config := by
  apply Trace.invariant_of_all (fun (_ : List FsmCall) (fsm : Fsm) => fsm.config = config) rfl
  intro front next same
  exact (call_config _ next).trans same

theorem calls_concat (history : List FsmCall) (next : FsmCall) :
    calls config (history ++ [next]) = (calls config history).call next :=
  Trace.after_concat call (init config) history next

theorem changes_concat (history : List FsmCall) (next : FsmCall) :
    changes config (history ++ [next]) =
      changes config history ++
        (calls config history).change ((calls config history).call next) :=
  Trace.outputs_concat call (init config) _ history next

theorem paired_init : Paired [] (init config) := ⟨rfl, rfl, 0, rfl⟩

end

/-- With both hooks configured, they are paired with the changes of mode after every prefix of
a sequence of calls exactly when no call of it leaves SAFE for STANDBY or overflows the
entry counter. -/
theorem hooks_paired_iff (safeTcWhitelist : Option (List TcEntry)) (whitelistLen : UInt8)
    (history : List FsmCall) :
    (∀ front, front <+: history →
      Paired (changes (bothHooks safeTcWhitelist whitelistLen) front)
        (calls (bothHooks safeTcWhitelist whitelistLen) front)) ↔
      ∀ front next, front ++ [next] <+: history →
        KeepsPairing (calls (bothHooks safeTcWhitelist whitelistLen) front) next := by
  generalize configured : bothHooks safeTcWhitelist whitelistLen = config
  have enter (front : List FsmCall) : (calls config front).config.onEnterSafe = true := by
    rw [calls_config, ← configured]
    rfl
  have exit (front : List FsmCall) : (calls config front).config.onExitSafe = true := by
    rw [calls_config, ← configured]
    rfl
  constructor
  · intro paired front next isPrefix
    have earlier := (List.prefix_append front [next]).trans isPrefix
    have after := paired _ isPrefix
    rw [changes_concat, calls_concat] at after
    exact keepsPairing_of_paired (paired front earlier) after
  · intro keeps front isPrefix
    have conforms : Trace.Conforms (fun earlier next => KeepsPairing (calls config earlier) next)
        front := fun earlier next within => keeps earlier next (within.trans isPrefix)
    apply Trace.invariant (fun (earlier : List FsmCall) (fsm : Fsm) =>
      Paired (changes config earlier) fsm) (paired_init config) _ front conforms
    intro earlier next paired kept
    rw [changes_concat]
    exact paired.call (enter earlier) (exit earlier) kept

/-- SAFE is entered and left for STANDBY without the exit call. -/
theorem hooks_unpaired :
    ¬ ∀ history front, front <+: history →
      Paired (changes (bothHooks none 0) front) (calls (bothHooks none 0) front) := by
  intro paired
  have hooks := (paired [.toSafe, .toStandby] _ (List.prefix_refl _)).hooks
  exact absurd hooks (by decide)

end Fsm

end Openobsw.Fdir
