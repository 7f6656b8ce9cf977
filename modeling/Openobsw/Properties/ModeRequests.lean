import Openobsw.Task.Mode

/-!
Owns what becomes of a SAFE request: the mode stays SAFE from the next turn of the
Mode Manager on, unless a STANDBY request was already pending when it was made.
-/

namespace Openobsw.Task

open Openobsw.Fdir Openobsw.Pus

variable {cfg : Config}

/-- The action makes no request. -/
def ModeAction.isRequest : ModeAction cfg → Bool
  | .requestSafe | .requestNominal | .requestStandby => true
  | .tick | .directSafe | .others _ => false

/-- SAFE is commanded and nothing pending can undo it. -/
structure Committed (task : ModeTask) : Prop where
  commanded : task.requests.safe = true ∨ task.fsm.mode = .safe
  noStandby : task.requests.standby = false
  noNominal : task.requests.nominal = false

namespace Committed

variable {task : ModeTask}

/-- The next turn carries the command out. -/
theorem processed (committed : Committed task) :
    task.processRequests.fsm.mode = .safe ∧ Committed task.processRequests := by
  have quiet : task.requests.safe = false → task.processRequests = task := by
    intro unrequested
    unfold ModeTask.processRequests
    rw [unrequested, committed.noStandby, committed.noNominal]
    rfl
  cases requested : task.requests.safe with
  | false =>
      have safe : task.fsm.mode = .safe := by
        rcases committed.commanded with pending | safe
        · rw [requested] at pending
          cases pending
        · exact safe
      rw [quiet requested]
      exact ⟨safe, committed⟩
  | true =>
      have served : task.processRequests = { task with
          requests := { task.requests with safe := false }
          fsm := task.fsm.toSafe } := by
        unfold ModeTask.processRequests
        rw [requested]
        rfl
      rw [served]
      exact ⟨Fsm.toSafe_mode _, .inr (Fsm.toSafe_mode _), committed.noStandby,
        committed.noNominal⟩

theorem ticked (committed : Committed task) :
    task.ticked.fsm.mode = .safe ∧ Committed task.ticked := by
  obtain ⟨safe, still⟩ := committed.processed
  have sameFsm : task.ticked.fsm = task.processRequests.fsm := by
    unfold ModeTask.ticked ModeTask.autoTransition
    rw [ModeTask.emitted_fsm, if_neg (by rw [safe]; decide)]
  have sameRequests : task.ticked.requests = task.processRequests.requests := by
    simp [ModeTask.ticked]
  have inSafe : task.ticked.fsm.mode = .safe := by
    rw [sameFsm]
    exact safe
  refine ⟨inSafe, .inr inSafe, ?_, ?_⟩
  · rw [sameRequests]
    exact still.noStandby
  · rw [sameRequests]
    exact still.noNominal

/-- Only a request ends the commitment. -/
theorem effect (committed : Committed task) {action : ModeAction cfg}
    (noRequest : action.isRequest = false) : Committed (action.effect task) := by
  cases action with
  | tick => exact committed.ticked.2
  | directSafe => exact ⟨.inr (Fsm.toSafe_mode _), committed.noStandby, committed.noNominal⟩
  | others tm => exact committed
  | requestSafe => cases noRequest
  | requestNominal => cases noRequest
  | requestStandby => cases noRequest

theorem effects (committed : Committed task) (actions : List (ModeAction cfg))
    (noRequest : ∀ action ∈ actions, action.isRequest = false) :
    Committed (ModeAction.effects actions task) := by
  induction actions generalizing task with
  | nil => exact committed
  | cons action rest inductionHypothesis =>
      have here := committed.effect (noRequest action List.mem_cons_self)
      exact inductionHypothesis here
        (fun other member => noRequest other (List.mem_cons_of_mem _ member))

end Committed

/-- The state at the end of a turn that follows a SAFE request and further actions. -/
def afterSafeRequest (later : List (ModeAction cfg)) (task : ModeTask) : ModeTask :=
  (ModeAction.effects later task.requestSafe).ticked

/-- A STANDBY request that was pending comes through one turn after the SAFE request. -/
theorem standby_after_safe {task : ModeTask} (pending : task.requests.standby = true) :
    (afterSafeRequest [(.tick : ModeAction cfg)] task).fsm.mode = .standby := by
  have first : task.requestSafe.ticked.requests = ⟨false, false, true⟩ := by
    simp [ModeTask.ticked, ModeTask.processRequests, ModeTask.requestSafe, pending]
  have inSafe : task.requestSafe.processRequests.fsm.mode = .safe := Fsm.toSafe_mode _
  have counted : task.requestSafe.ticked.standbyTicks = 0 := by
    unfold ModeTask.ticked ModeTask.autoTransition
    rw [ModeTask.emitted_standbyTicks, if_neg (by rw [inSafe]; decide)]
  show task.requestSafe.ticked.ticked.fsm.mode = .standby
  generalize task.requestSafe.ticked = middle at first counted
  have served : middle.processRequests = { middle with
      requests := ⟨false, false, false⟩
      fsm := middle.fsm.toStandby } := by
    unfold ModeTask.processRequests
    rw [first]
    rfl
  unfold ModeTask.ticked
  rw [ModeTask.emitted_fsm, served]
  unfold ModeTask.autoTransition
  rw [if_pos (Fsm.toStandby_mode _), counted]
  exact Fsm.toStandby_mode _

/-- A SAFE request made in `state` is kept: without a later request the mode is SAFE at
the end of every later turn. -/
def SafeRequestKept (state : ModeState cfg) : Prop :=
  ∀ later : List (ModeAction cfg), (∀ action ∈ later, action.isRequest = false) →
    ∃ after, ModeState.run (.requestSafe :: later ++ [.tick]) state = some after ∧
      after.task.fsm.mode = .safe

theorem safeRequestKept_iff {state : ModeState cfg} (uncoupled : state.task.s5.fsm = false) :
    SafeRequestKept state ↔ state.task.requests.standby = false := by
  have reaches (later : List (ModeAction cfg)) : ∃ last,
      ModeState.run (.requestSafe :: later ++ [.tick]) state =
        some { task := afterSafeRequest later state.task, tm := last } := by
    obtain ⟨last, finished⟩ := ModeState.run_eq (.requestSafe :: later ++ [.tick]) uncoupled
    refine ⟨last, finished.trans ?_⟩
    rw [ModeAction.effects_concat]
    rfl
  constructor
  · intro kept
    cases pending : state.task.requests.standby with
    | false => rfl
    | true =>
        obtain ⟨after, finished, safe⟩ := kept [.tick] (by simp [ModeAction.isRequest])
        obtain ⟨last, reached⟩ := reaches [.tick]
        rw [reached] at finished
        cases finished
        rw [standby_after_safe pending] at safe
        cases safe
  · intro idle later noRequest
    obtain ⟨last, reached⟩ := reaches later
    refine ⟨_, reached, ?_⟩
    have requested : Committed state.task.requestSafe := ⟨.inl rfl, idle, rfl⟩
    exact (requested.effects later noRequest).ticked.1

/-- After any run, a SAFE request is kept exactly when no STANDBY request was pending as
it was made. -/
theorem safe_request_kept_iff (before : List (ModeAction cfg)) (tm : Port cfg) :
    ∃ state, ModeState.run before (ModeState.start tm) = some state ∧
      (SafeRequestKept state ↔ state.task.requests.standby = false) := by
  obtain ⟨after, ran⟩ := @ModeState.run_eq cfg before (ModeState.start tm) rfl
  exact ⟨_, ran, safeRequestKept_iff (ModeAction.effects_s5_fsm before ModeTask.init)⟩

/-- A store port that nothing has used. -/
def idlePort (cfg : Config) : Port cfg where
  store := Tm.Store.init cfg
  log := []

/-- STANDBY is requested and then SAFE before the Mode Manager's next turn: after one
turn the mode is SAFE, after the next it is STANDBY. -/
theorem safe_request_undone :
    ∃ first second,
      ModeState.run [.requestStandby, .requestSafe, .tick]
          (ModeState.start (idlePort Config.default)) = some first ∧
        first.task.fsm.mode = .safe ∧
        ModeState.run [.tick] first = some second ∧ second.task.fsm.mode = .standby := by
  obtain ⟨tm, ran⟩ := @ModeState.run_eq Config.default [.requestStandby, .requestSafe, .tick]
    (ModeState.start (idlePort Config.default)) rfl
  obtain ⟨last, finished⟩ := @ModeState.run_eq Config.default [.tick]
    ⟨ModeAction.effects [(.requestStandby : ModeAction Config.default), .requestSafe, .tick]
      ModeTask.init, tm⟩ rfl
  exact ⟨_, _, ran, rfl, finished, rfl⟩

end Openobsw.Task
