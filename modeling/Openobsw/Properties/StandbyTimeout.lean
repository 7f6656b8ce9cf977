import Openobsw.Lib.Trace
import Openobsw.Properties.ModeEvents

/-!
Owns the timeout of STANDBY: the Mode Manager ends a stay by itself in its 300th turn. The
turn counter survives the turn in which the timeout fires, so a STANDBY request that the
next turn serves starts its stay with a spent counter.
-/

namespace Openobsw.Task

open Openobsw.Fdir Openobsw.Lib Openobsw.Pus

variable {cfg : Config}

/-! ### Stays in STANDBY -/

/-- The modes of one turn: before it, after its pending requests, and at its end. -/
structure Turn where
  before : Mode
  found : Mode
  after : Mode
deriving DecidableEq, Repr

/-- The turn moves from STANDBY to SAFE without being asked to. -/
def Turn.TimesOut (turn : Turn) : Prop := turn.found = .standby ∧ turn.after = .safe

/-- The turns of the stay in STANDBY that a turn belongs to, up to it. -/
def Turn.stay (earlier : Nat) (turn : Turn) : Nat :=
  if turn.found = .standby then if turn.before = .standby then earlier + 1 else 1 else 0

/-- The consecutive turns at the end of a run that found STANDBY, since the latest entry. -/
def standing (turns : List Turn) : Nat := turns.foldl Turn.stay 0

theorem standing_concat (turns : List Turn) (turn : Turn) :
    standing (turns ++ [turn]) = turn.stay (standing turns) := by
  simp [standing]

/-- The turn that the task is about to make. -/
def ModeTask.turn (task : ModeTask) : Turn where
  before := task.fsm.mode
  found := task.processRequests.fsm.mode
  after := task.ticked.fsm.mode

def turnOf (task : ModeTask) : ModeAction cfg → List Turn
  | .tick => [task.turn]
  | .requestSafe | .requestNominal | .requestStandby | .directSafe | .others _ => []

/-- The task after actions from its initialisation on. -/
def taskAfter (actions : List (ModeAction cfg)) : ModeTask :=
  Trace.after (fun task action => action.effect task) ModeTask.init actions

/-- The turns that actions make. -/
def turns (actions : List (ModeAction cfg)) : List Turn :=
  Trace.outputs (fun task (action : ModeAction cfg) => action.effect task) turnOf ModeTask.init
    actions

theorem turns_concat (actions : List (ModeAction cfg)) (action : ModeAction cfg) :
    turns (actions ++ [action]) = turns actions ++ turnOf (taskAfter actions) action :=
  Trace.outputs_concat (fun task (action : ModeAction cfg) => action.effect task) ModeTask.init
    turnOf actions action

/-- The turn after the actions times out exactly when it is the 300th of its stay. -/
def TimesOutExactly (actions : List (ModeAction cfg)) : Prop :=
  (taskAfter actions).turn.TimesOut ↔
    standing (turns (actions ++ [.tick])) = standbySafeTimeoutS.toNat

/-- The next turn serves a STANDBY request although the counter of the last stay, which the
timeout has ended, is still there. -/
def ModeTask.ReentersEarly (task : ModeTask) : Prop :=
  task.fsm.mode ≠ .standby ∧ task.requests.safe = false ∧ task.requests.standby = true ∧
    task.standbyTicks ≠ 0

/-! ### One turn -/

/-- The counter is that of the stay, or is left over from a timeout. -/
structure Timed (stay : Nat) (task : ModeTask) : Prop where
  waiting : task.fsm.mode = .standby → task.standbyTicks.toNat = stay ∧ stay < 300
  elsewhere : task.fsm.mode ≠ .standby → task.standbyTicks.toNat = 0 ∨ task.standbyTicks.toNat = 300

section

variable {task : ModeTask} {stay : Nat}

theorem turn_found (task : ModeTask) :
    task.turn.found = requestedMode task.requests task.fsm.mode := task.processRequests_mode

theorem turn_after (task : ModeTask) :
    task.turn.after = timedMode task.timeoutDue task.turn.found := by
  rw [turn_found]
  exact task.ticked_mode

/-- The counter at the end of a turn. -/
theorem ticked_standbyTicks (task : ModeTask) :
    task.ticked.standbyTicks =
      if task.turn.found = .standby then task.standbyTicks + 1 else 0 := by
  unfold ModeTask.ticked ModeTask.autoTransition
  rw [ModeTask.emitted_standbyTicks]
  show (if task.processRequests.fsm.mode = .standby then _ else _ : ModeTask).standbyTicks =
    if task.processRequests.fsm.mode = .standby then _ else _
  by_cases waiting : task.processRequests.fsm.mode = .standby
  · rw [if_pos waiting, if_pos waiting, ModeTask.processRequests_standbyTicks]
  · rw [if_neg waiting, if_neg waiting]

/-- A turn is a new stay's first exactly when it serves a STANDBY request elsewhere. -/
theorem enters_iff (elsewhere : task.fsm.mode ≠ .standby) :
    task.turn.found = .standby ↔ task.requests.safe = false ∧ task.requests.standby = true := by
  rw [turn_found]
  unfold requestedMode
  cases task.requests.safe with
  | true => simp
  | false =>
      cases task.requests.standby with
      | true => simp
      | false =>
          simp only [Bool.false_eq_true, ↓reduceIte, and_false, iff_false]
          split
          · exact Mode.noConfusion
          · exact elsewhere

theorem timesOut_iff (task : ModeTask) :
    task.turn.TimesOut ↔ task.turn.found = .standby ∧ task.timeoutDue = true := by
  unfold Turn.TimesOut
  rw [turn_after]
  apply and_congr_right
  intro found
  rw [found]
  unfold timedMode
  cases task.timeoutDue <;> simp

theorem timeoutDue_iff (task : ModeTask) {next : Nat}
    (counted : (task.standbyTicks + 1).toNat = next) : task.timeoutDue = true ↔ 300 ≤ next := by
  unfold ModeTask.timeoutDue
  rw [decide_eq_true_iff, ← counted]
  exact UInt32.le_iff_toNat_le

theorem nextTicks_toNat (few : task.standbyTicks.toNat ≤ 300) :
    (task.standbyTicks + 1).toNat = task.standbyTicks.toNat + 1 := by
  rw [UInt32.toNat_add]
  exact Nat.mod_eq_of_lt (by show task.standbyTicks.toNat + 1 < 4294967296; omega)

theorem Timed.few (timed : Timed stay task) : task.standbyTicks.toNat ≤ 300 := by
  by_cases waiting : task.fsm.mode = .standby
  · obtain ⟨same, below⟩ := timed.waiting waiting
    omega
  · rcases timed.elsewhere waiting with zero | spent
    · omega
    · omega

/-- Without an early entry, the counter of a turn that finds STANDBY is that of its stay. -/
theorem Timed.counted (timed : Timed stay task) (regular : ¬ task.ReentersEarly)
    (found : task.turn.found = .standby) :
    (task.standbyTicks + 1).toNat = task.turn.stay stay ∧ task.turn.stay stay ≤ 300 := by
  have next := nextTicks_toNat timed.few
  unfold Turn.stay
  rw [if_pos found, next]
  by_cases waiting : task.fsm.mode = .standby
  · obtain ⟨same, below⟩ := timed.waiting waiting
    rw [show task.turn.before = task.fsm.mode from rfl, if_pos waiting, same]
    exact ⟨rfl, below⟩
  · obtain ⟨noSafe, wanted⟩ := (enters_iff waiting).mp found
    have zero : task.standbyTicks = 0 :=
      Decidable.byContradiction fun spent => regular ⟨waiting, noSafe, wanted, spent⟩
    rw [show task.turn.before = task.fsm.mode from rfl, if_neg waiting, zero]
    exact ⟨rfl, by decide⟩

/-- A turn that is no early entry times out exactly at the end of a full stay. -/
theorem Timed.exactly (timed : Timed stay task) (regular : ¬ task.ReentersEarly) :
    task.turn.TimesOut ↔ task.turn.stay stay = 300 := by
  rw [timesOut_iff]
  by_cases found : task.turn.found = .standby
  · obtain ⟨counted, atMost⟩ := timed.counted regular found
    rw [timeoutDue_iff task counted]
    constructor
    · intro due
      exact Nat.le_antisymm atMost due.2
    · intro full
      exact ⟨found, Nat.le_of_eq full.symm⟩
  · unfold Turn.stay
    rw [if_neg found]
    exact iff_of_false (fun due => found due.1) (by decide)

theorem Timed.ticked (timed : Timed stay task) (regular : ¬ task.ReentersEarly) :
    Timed (task.turn.stay stay) task.ticked := by
  have ticks := ticked_standbyTicks task
  have mode : task.ticked.fsm.mode = timedMode task.timeoutDue task.turn.found := turn_after task
  by_cases found : task.turn.found = .standby
  · obtain ⟨counted, atMost⟩ := timed.counted regular found
    rw [if_pos found] at ticks
    rw [found] at mode
    unfold timedMode at mode
    cases due : task.timeoutDue with
    | true =>
        rw [due, if_pos ⟨rfl, rfl⟩] at mode
        have full := (timeoutDue_iff task counted).mp due
        constructor
        · intro waiting
          rw [mode] at waiting
          cases waiting
        · intro _
          right
          rw [ticks, counted]
          omega
    | false =>
        have notDue : ¬ 300 ≤ task.turn.stay stay := by
          rw [← timeoutDue_iff task counted, due]
          exact Bool.false_ne_true
        rw [due, if_neg (fun both => Bool.false_ne_true both.2)] at mode
        constructor
        · intro _
          rw [ticks]
          exact ⟨counted, Nat.lt_of_not_le notDue⟩
        · intro elsewhere
          exact absurd mode elsewhere
  · rw [if_neg found] at ticks
    have other : task.ticked.fsm.mode ≠ .standby := by
      rw [mode]
      unfold timedMode
      rw [if_neg (fun both => found both.1)]
      exact found
    constructor
    · intro waiting
      exact absurd waiting other
    · intro _
      left
      rw [ticks]
      rfl

/-- An early entry is thrown out in its first turn. -/
theorem Timed.early (timed : Timed stay task) (early : task.ReentersEarly) :
    ¬ (task.turn.TimesOut ↔ task.turn.stay stay = 300) := by
  obtain ⟨elsewhere, noSafe, wanted, nonzero⟩ := early
  have found := (enters_iff elsewhere).mpr ⟨noSafe, wanted⟩
  have spent : task.standbyTicks.toNat = 300 := by
    rcases timed.elsewhere elsewhere with zero | spent
    · exact absurd (UInt32.toNat_inj.mp zero) nonzero
    · exact spent
  have counted := nextTicks_toNat timed.few
  have due := (timeoutDue_iff task counted).mpr (by omega)
  have first : task.turn.stay stay = 1 := by
    unfold Turn.stay
    rw [if_pos found]
    exact if_neg elsewhere
  intro exactly
  have full := exactly.mp ((timesOut_iff task).mpr ⟨found, due⟩)
  rw [first] at full
  cases full

end

/-! ### Runs without another driver -/

/-- Nothing but the Mode Manager itself commands the mode machine. -/
def Undriven (actions : List (ModeAction cfg)) : Prop := ModeAction.directSafe ∉ actions

/-- Counter and stay agree after the actions. -/
def TimedAfter (actions : List (ModeAction cfg)) (task : ModeTask) : Prop :=
  Timed (standing (turns actions)) task

theorem timed_init : TimedAfter ([] : List (ModeAction cfg)) ModeTask.init where
  waiting := fun _ => ⟨rfl, Nat.zero_lt_succ 299⟩
  elsewhere := fun elsewhere => absurd rfl elsewhere

theorem TimedAfter.action {actions : List (ModeAction cfg)} {action : ModeAction cfg}
    (timed : TimedAfter actions (taskAfter actions)) (undriven : action ≠ .directSafe)
    (regular : action = .tick → ¬ (taskAfter actions).ReentersEarly) :
    TimedAfter (actions ++ [action]) (action.effect (taskAfter actions)) := by
  unfold TimedAfter
  rw [turns_concat]
  cases action with
  | tick =>
      show Timed (standing (turns actions ++ [(taskAfter actions).turn])) _
      rw [standing_concat]
      exact timed.ticked (regular rfl)
  | directSafe => exact absurd rfl undriven
  | requestSafe | requestNominal | requestStandby | others =>
      show Timed (standing (turns actions ++ [])) _
      rw [List.append_nil]
      exact ⟨timed.waiting, timed.elsewhere⟩

theorem timesOutExactly_iff (actions : List (ModeAction cfg)) :
    TimesOutExactly actions ↔ ((taskAfter actions).turn.TimesOut ↔
      (taskAfter actions).turn.stay (standing (turns actions)) = 300) := by
  unfold TimesOutExactly
  rw [turns_concat]
  show (_ ↔ standing (turns actions ++ [(taskAfter actions).turn]) = _) ↔ _
  rw [standing_concat]
  rfl

/-- Counter and stay agree in a run each of whose turns times out exactly or is no early entry. -/
theorem timedAfter {actions : List (ModeAction cfg)} (undriven : Undriven actions)
    (each : ∀ front, front ++ [.tick] <+: actions →
      TimesOutExactly front ∨ ¬ (taskAfter front).ReentersEarly) :
    TimedAfter actions (taskAfter actions) := by
  have conforms : Trace.Conforms (fun (front : List (ModeAction cfg)) action =>
      action ≠ .directSafe ∧ (action = .tick →
        TimesOutExactly front ∨ ¬ (taskAfter front).ReentersEarly)) actions := by
    intro front action within
    constructor
    · intro direct
      rw [direct] at within
      exact undriven (within.subset (List.mem_append_right front List.mem_cons_self))
    · intro turn
      rw [turn] at within
      exact each front within
  apply Trace.invariant TimedAfter timed_init _ actions conforms
  intro front action timed allowed
  apply TimedAfter.action timed allowed.1
  intro turn early
  rcases allowed.2 turn with exactly | regular
  · exact Timed.early timed early ((timesOutExactly_iff front).mp exactly)
  · exact regular early

/-- Without another driver, every turn of a run times out exactly at the end of a full stay in
STANDBY if and only if no turn enters STANDBY with the counter of a timeout before it. -/
theorem standbyTimeout_iff (tm : Port cfg) {actions : List (ModeAction cfg)}
    (undriven : Undriven actions) :
    (∀ front, front <+: actions → ∃ after, ModeState.run front (ModeState.start tm) =
      some { task := taskAfter front, tm := after }) ∧
    ((∀ front, front ++ [.tick] <+: actions → TimesOutExactly front) ↔
      ∀ front, front ++ [.tick] <+: actions → ¬ (taskAfter front).ReentersEarly) := by
  have undrivenFront {front : List (ModeAction cfg)} (within : front <+: actions) :
      Undriven front := fun direct => undriven (within.subset direct)
  have earlier {front : List (ModeAction cfg)} (within : front ++ [.tick] <+: actions) :
      front <+: actions := (List.prefix_append front [.tick]).trans within
  refine ⟨fun front _ => ModeState.run_eq front rfl, ?_, ?_⟩
  · intro exactly front within early
    have timed := timedAfter (undrivenFront (earlier within))
      (fun first inFront => .inl (exactly first (inFront.trans (earlier within))))
    exact Timed.early timed early ((timesOutExactly_iff front).mp (exactly front within))
  · intro regular front within
    have timed := timedAfter (undrivenFront (earlier within))
      (fun first inFront => .inr (regular first (inFront.trans (earlier within))))
    exact (timesOutExactly_iff front).mpr (Timed.exactly timed (regular front within))

/-! ### A stay after a timeout -/

/-- In STANDBY since some turns, with nothing requested. -/
structure Resting (count : Nat) (task : ModeTask) : Prop where
  unrequested : task.requests = ⟨false, false, false⟩
  mode : task.fsm.mode = .standby
  ticks : task.standbyTicks.toNat = count

theorem ticked_requests {task : ModeTask} (unrequested : task.requests = ⟨false, false, false⟩) :
    task.ticked.requests = ⟨false, false, false⟩ := by
  have idle : task.processRequests = task := by
    unfold ModeTask.processRequests
    rw [unrequested]
    rfl
  unfold ModeTask.ticked
  rw [ModeTask.emitted_requests, ModeTask.autoTransition_requests, idle, unrequested]

theorem Resting.found {count : Nat} {task : ModeTask} (resting : Resting count task) :
    task.turn.found = .standby := by
  rw [turn_found, resting.unrequested, resting.mode]
  rfl

theorem Resting.ticked {count : Nat} {task : ModeTask} (resting : Resting count task)
    (few : count < 300) :
    task.ticked.requests = ⟨false, false, false⟩ ∧ task.ticked.standbyTicks.toNat = count + 1 ∧
      task.ticked.fsm.mode = if 300 ≤ count + 1 then .safe else .standby := by
  have counted : (task.standbyTicks + 1).toNat = count + 1 := by
    rw [nextTicks_toNat (by rw [resting.ticks]; omega), resting.ticks]
  refine ⟨ticked_requests resting.unrequested, ?_, ?_⟩
  · rw [ticked_standbyTicks, if_pos resting.found, counted]
  · rw [show task.ticked.fsm.mode = _ from turn_after task, resting.found]
    unfold timedMode
    simp only [timeoutDue_iff task counted, true_and]

theorem resting_after {count : Nat} (few : count < 300) :
    Resting count (taskAfter (List.replicate count (ModeAction.tick : ModeAction cfg))) := by
  induction count with
  | zero => exact ⟨rfl, rfl, rfl⟩
  | succ count inductionHypothesis =>
      have before := inductionHypothesis (by omega)
      obtain ⟨unrequested, ticks, mode⟩ := before.ticked (by omega)
      rw [if_neg (by omega)] at mode
      unfold taskAfter at unrequested ticks mode ⊢
      rw [List.replicate_succ', Trace.after_concat]
      exact ⟨unrequested, mode, ticks⟩

/-- Turns up to the timeout of the first stay, and a STANDBY request before the next turn. -/
def timedOutThenStandby (count : Nat) : List (ModeAction cfg) :=
  List.replicate count .tick ++ [.tick] ++ [.requestStandby]

theorem undriven_timedOutThenStandby (count : Nat) :
    Undriven (timedOutThenStandby count ++ [.tick] : List (ModeAction cfg)) := by
  intro direct
  unfold timedOutThenStandby at direct
  simp only [List.mem_append, List.mem_singleton] at direct
  rcases direct with ((turn | turn) | request) | turn
  · cases List.eq_of_mem_replicate turn
  · cases turn
  · cases request
  · cases turn

theorem taskAfter_timedOutThenStandby (count : Nat) :
    taskAfter (timedOutThenStandby count : List (ModeAction cfg)) =
      (taskAfter (List.replicate count (ModeAction.tick : ModeAction cfg))).ticked.requestStandby := by
  unfold timedOutThenStandby taskAfter
  rw [Trace.after_concat, Trace.after_concat]
  rfl

/-- A stay that begins right after a timeout ends in its first turn. -/
theorem not_timesOutExactly {count : Nat} (last : count + 1 = 300) :
    ¬ TimesOutExactly (timedOutThenStandby count : List (ModeAction cfg)) := by
  obtain ⟨unrequested, ticks, mode⟩ := (@resting_after cfg count (by omega)).ticked (by omega)
  rw [if_pos (by omega)] at mode
  rw [timesOutExactly_iff, taskAfter_timedOutThenStandby]
  generalize (taskAfter (List.replicate count (ModeAction.tick : ModeAction cfg))).ticked = task
    at unrequested ticks mode
  have elsewhere : task.requestStandby.fsm.mode ≠ .standby := by
    show task.fsm.mode ≠ .standby
    rw [mode]
    exact Mode.noConfusion
  refine Timed.early ⟨fun waiting => absurd waiting elsewhere, fun _ => .inr (ticks.trans last)⟩
    ⟨elsewhere, ?_, rfl, ?_⟩
  · show task.requests.safe = false
    rw [unrequested]
  · intro zero
    have none : task.standbyTicks.toNat = 0 := congrArg UInt32.toNat zero
    omega

/-- From boot, the timeout fires in the 300th turn; the turn after it serves a STANDBY request
and goes back to SAFE at once. -/
theorem standby_after_timeout :
    Undriven (timedOutThenStandby 299 ++ [.tick] : List (ModeAction Config.default)) ∧
      ¬ TimesOutExactly (timedOutThenStandby 299 : List (ModeAction Config.default)) :=
  ⟨undriven_timedOutThenStandby 299, not_timesOutExactly rfl⟩

/-- A run in which a STANDBY request follows the boot's first turn. -/
theorem standbyTimeout_early_request :
    (∀ front, front ++ [.tick] <+: [ModeAction.tick, .requestStandby, .tick] →
      @TimesOutExactly Config.default front) ↔
    ∀ front, front ++ [.tick] <+: [ModeAction.tick, .requestStandby, .tick] →
      ¬ (@taskAfter Config.default front).ReentersEarly :=
  (standbyTimeout_iff (idlePort Config.default) (by unfold Undriven; simp)).2

end Openobsw.Task
