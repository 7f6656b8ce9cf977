import Openobsw.Pus.Sending
import Openobsw.Pus.S5
import Openobsw.Srdb.Mission

/-!
Owns the Mode Manager task (`task/mode.c`): the three request flags, one turn of
its loop, and what happens to it between turns. Only the flags and the direct
call of `obsw_fsm_to_safe` reach it from outside.
-/

namespace Openobsw.Task

open Openobsw.Fdir Openobsw.Pus Openobsw.Srdb

variable {cfg : Config}

/-! ### The task -/

/-- `STANDBY_SAFE_TIMEOUT_S` -/
def standbySafeTimeoutS : UInt32 := 300

/-- The flags `s_req_safe`, `s_req_nominal` and `s_req_standby`. -/
structure Requests where
  safe : Bool
  nominal : Bool
  standby : Bool
deriving DecidableEq, Repr

/-- The statics of `mode.c` and the locals of its task body. -/
structure ModeTask where
  fsm : Fsm
  s5 : S5.Ctx
  requests : Requests
  standbyTicks : UInt32
  last : Mode
deriving DecidableEq, Repr

namespace ModeTask

/-- `obsw_mode_task_init`, up to the first turn of the loop. -/
def init : ModeTask where
  fsm := Fsm.init {
    onEnterSafe := true
    onExitSafe := true
    safeTcWhitelist := some Mission.safeTcWhitelist
    whitelistLen := Mission.safeTcCount }
  s5 := {
    apid := Mission.apidDefault
    msgCounter := 0
    timestamp := 0
    fsm := false
    safeTriggerIds := []
    calls := [] }
  requests := ⟨false, false, false⟩
  standbyTicks := 0
  last := .standby

/-- `obsw_mode_request_safe` -/
def requestSafe (task : ModeTask) : ModeTask :=
  { task with requests := { task.requests with safe := true, nominal := false } }

/-- `obsw_mode_request_nominal` -/
def requestNominal (task : ModeTask) : ModeTask :=
  { task with requests := { task.requests with nominal := true } }

/-- `obsw_mode_request_standby` -/
def requestStandby (task : ModeTask) : ModeTask :=
  { task with requests := { task.requests with standby := true, nominal := false } }

/-- The loop's first part: at most one pending request, by priority. -/
def processRequests (task : ModeTask) : ModeTask :=
  let cur := task.fsm.mode
  if task.requests.safe then
    { task with
      requests := { task.requests with safe := false }
      fsm := task.fsm.toSafe }
  else if task.requests.standby then
    { task with
      requests := { task.requests with standby := false }
      fsm := task.fsm.toStandby }
  else if task.requests.nominal then
    { task with
      requests := { task.requests with nominal := false }
      fsm := if cur = .safe then task.fsm.toNominal else task.fsm }
  else task

/-- The loop's second part: STANDBY ends after the timeout. -/
def autoTransition (task : ModeTask) : ModeTask :=
  if task.fsm.mode = .standby then
    let standbyTicks := task.standbyTicks + 1
    { task with
      standbyTicks := standbyTicks
      fsm := if standbyTicks ≥ standbySafeTimeoutS then task.fsm.toSafe else task.fsm }
  else { task with standbyTicks := 0 }

/-- The report the loop makes on seeing the mode changed. -/
def entryCall : Mode → S5.Call
  | .safe => ⟨.high, Mission.eventSafeModeEntry, ⟨[], by decide⟩⟩
  | .nominal => ⟨.info, Mission.eventNominalEntry, ⟨[], by decide⟩⟩
  | .standby => ⟨.info, Mission.eventStandbyEntry, ⟨[], by decide⟩⟩

/-- What a report of the task touches; its S5 context has no event hook. -/
def env (task : ModeTask) (tm : Port cfg) : S5.Env cfg Unit where
  ctx := task.s5
  tm := tm
  fsm := task.fsm
  hook := ()

/-- `obsw_s5_report` on the task's own context. -/
def report (call : S5.Call) (task : ModeTask) (tm : Port cfg) :
    Option (ModeTask × Port cfg) := do
  let (_, env) ← S5.report none call.severity call.eventId call.aux (task.env tm)
  return ({ task with s5 := env.ctx, fsm := env.fsm }, env.tm)

/-- The loop's third part: report a mode other than the last one seen. -/
def emitEvents (task : ModeTask) (tm : Port cfg) : Option (ModeTask × Port cfg) := do
  let cur := task.fsm.mode
  if cur ≠ task.last then do
    let (task, tm) ← task.report (entryCall cur) tm
    return ({ task with last := cur }, tm)
  else return (task, tm)

/-- One turn of the loop of `mode_task`. -/
def tick (task : ModeTask) (tm : Port cfg) : Option (ModeTask × Port cfg) :=
  task.processRequests.autoTransition.emitEvents tm

end ModeTask

/-! ### Runs -/

/-- The task with the TM store it shares with the others. -/
structure ModeState (cfg : Config) where
  task : ModeTask
  tm : Port cfg

/-- What can happen: a turn of the loop, a request, an S5 safe trigger that calls
`obsw_fsm_to_safe`, and what the other tasks do to the TM store. -/
inductive ModeAction (cfg : Config) where
  | tick
  | requestSafe
  | requestNominal
  | requestStandby
  | directSafe
  | others (tm : Port cfg)

namespace ModeState

def start (tm : Port cfg) : ModeState cfg := { task := ModeTask.init, tm := tm }

def onTask (state : ModeState cfg) (update : ModeTask → ModeTask) : ModeState cfg :=
  { state with task := update state.task }

def step (state : ModeState cfg) : ModeAction cfg → Option (ModeState cfg)
  | .tick => do
      let (task, tm) ← state.task.tick state.tm
      return { task := task, tm := tm }
  | .requestSafe => some (state.onTask ModeTask.requestSafe)
  | .requestNominal => some (state.onTask ModeTask.requestNominal)
  | .requestStandby => some (state.onTask ModeTask.requestStandby)
  | .directSafe => some (state.onTask (fun task => { task with fsm := task.fsm.toSafe }))
  | .others tm => some { state with tm := tm }

/-- The run of a sequence of actions; `none` is a fault in one of them. -/
def run (actions : List (ModeAction cfg)) (state : ModeState cfg) : Option (ModeState cfg) :=
  actions.foldlM step state

end ModeState

/-! ### What an action does -/

namespace ModeTask

/-- The task after its report of the mode it sees. -/
def emitted (task : ModeTask) : ModeTask :=
  if task.fsm.mode ≠ task.last then
    { task with
      s5 := task.s5.called (entryCall task.fsm.mode).severity (entryCall task.fsm.mode).eventId
        (entryCall task.fsm.mode).aux
      last := task.fsm.mode }
  else task

/-- The TM of its report of the mode it sees. -/
def emits (task : ModeTask) : List TmRequest :=
  if task.fsm.mode ≠ task.last then
    [S5.request task.s5 (entryCall task.fsm.mode).severity (entryCall task.fsm.mode).eventId
      (entryCall task.fsm.mode).aux]
  else []

/-- The task after a turn of its loop. -/
def ticked (task : ModeTask) : ModeTask := task.processRequests.autoTransition.emitted

/-- The TMs that a turn of its loop builds. -/
def reports (task : ModeTask) : List TmRequest := task.processRequests.autoTransition.emits

/-- Without the coupling of its S5 context a report leaves the mode machine alone. -/
theorem report_eq {task : ModeTask} (uncoupled : task.s5.fsm = false) (call : S5.Call)
    (tm : Port cfg) :
    task.report call tm =
      some ({ task with s5 := task.s5.called call.severity call.eventId call.aux },
        tm.after (S5.request task.s5 call.severity call.eventId call.aux)) := by
  unfold report
  rw [S5.report_eq]
  have alone (rc : TmRc) : S5.couple rc call.severity call.eventId task.s5 task.fsm = task.fsm := by
    unfold S5.couple
    rw [if_neg]
    rintro ⟨_, _, coupled⟩
    rw [uncoupled] at coupled
    cases coupled
  simp only [S5.reported, env, alone, Option.bind_eq_bind, Option.bind_some]
  rfl

theorem emitEvents_eq {task : ModeTask} (uncoupled : task.s5.fsm = false) (tm : Port cfg) :
    task.emitEvents tm = some (task.emitted, tm.afterAll task.emits) := by
  unfold emitEvents emitted emits
  by_cases changed : task.fsm.mode ≠ task.last
  · rw [if_pos changed, if_pos changed, if_pos changed, report_eq uncoupled]
    rfl
  · rw [if_neg changed, if_neg changed, if_neg changed]
    rfl

@[simp] theorem processRequests_s5 (task : ModeTask) : task.processRequests.s5 = task.s5 := by
  unfold processRequests
  split
  · rfl
  split
  · rfl
  split <;> rfl

@[simp] theorem processRequests_last (task : ModeTask) :
    task.processRequests.last = task.last := by
  unfold processRequests
  split
  · rfl
  split
  · rfl
  split <;> rfl

@[simp] theorem processRequests_standbyTicks (task : ModeTask) :
    task.processRequests.standbyTicks = task.standbyTicks := by
  unfold processRequests
  split
  · rfl
  split
  · rfl
  split <;> rfl

@[simp] theorem autoTransition_s5 (task : ModeTask) : task.autoTransition.s5 = task.s5 := by
  unfold autoTransition
  split <;> rfl

@[simp] theorem autoTransition_last (task : ModeTask) : task.autoTransition.last = task.last := by
  unfold autoTransition
  split <;> rfl

@[simp] theorem autoTransition_requests (task : ModeTask) :
    task.autoTransition.requests = task.requests := by
  unfold autoTransition
  split <;> rfl

@[simp] theorem emitted_fsm (task : ModeTask) : task.emitted.fsm = task.fsm := by
  unfold emitted
  split <;> rfl

@[simp] theorem emitted_requests (task : ModeTask) : task.emitted.requests = task.requests := by
  unfold emitted
  split <;> rfl

@[simp] theorem emitted_standbyTicks (task : ModeTask) :
    task.emitted.standbyTicks = task.standbyTicks := by
  unfold emitted
  split <;> rfl

/-- After its report the task has seen the current mode. -/
@[simp] theorem emitted_last (task : ModeTask) : task.emitted.last = task.fsm.mode := by
  unfold emitted
  split
  · rfl
  · rename_i same
    exact (not_not.mp same).symm

@[simp] theorem emitted_s5_fsm (task : ModeTask) : task.emitted.s5.fsm = task.s5.fsm := by
  unfold emitted
  split <;> rfl

theorem emitted_calls (task : ModeTask) :
    task.emitted.s5.calls =
      task.s5.calls ++ if task.fsm.mode = task.last then [] else [entryCall task.fsm.mode] := by
  unfold emitted
  by_cases same : task.fsm.mode = task.last
  · rw [if_neg (not_not.mpr same), if_pos same, List.append_nil]
  · rw [if_pos same, if_neg same]
    rfl

@[simp] theorem ticked_s5_fsm (task : ModeTask) : task.ticked.s5.fsm = task.s5.fsm := by
  simp [ticked]

/-- A turn that ends in another mode than the one last seen makes one report. -/
theorem ticked_changed {task : ModeTask}
    (changed : task.processRequests.autoTransition.fsm.mode ≠ task.last) :
    ∃ call : S5.Call, task.ticked.s5 = task.s5.called call.severity call.eventId call.aux ∧
      task.reports = [S5.request task.s5 call.severity call.eventId call.aux] := by
  refine ⟨entryCall task.processRequests.autoTransition.fsm.mode, ?_, ?_⟩
  · unfold ticked emitted
    rw [if_pos (by simpa using changed), autoTransition_s5, processRequests_s5]
  · unfold reports emits
    rw [if_pos (by simpa using changed), autoTransition_s5, processRequests_s5]

theorem ticked_unchanged {task : ModeTask}
    (same : task.processRequests.autoTransition.fsm.mode = task.last) :
    task.ticked.s5 = task.s5 ∧ task.reports = [] := by
  constructor
  · unfold ticked emitted
    rw [if_neg (by simpa using same), autoTransition_s5, processRequests_s5]
  · unfold reports emits
    rw [if_neg (by simpa using same)]

theorem tick_eq {task : ModeTask} (uncoupled : task.s5.fsm = false) (tm : Port cfg) :
    task.tick tm = some (task.ticked, tm.afterAll task.reports) :=
  emitEvents_eq (by simpa using uncoupled) tm

end ModeTask

namespace ModeAction

/-- What an action does to the task. -/
def effect : ModeAction cfg → ModeTask → ModeTask
  | .tick => ModeTask.ticked
  | .requestSafe => ModeTask.requestSafe
  | .requestNominal => ModeTask.requestNominal
  | .requestStandby => ModeTask.requestStandby
  | .directSafe => fun task => { task with fsm := task.fsm.toSafe }
  | .others _ => id

@[simp] theorem effect_s5_fsm (action : ModeAction cfg) (task : ModeTask) :
    (action.effect task).s5.fsm = task.s5.fsm := by
  cases action with
  | tick => exact ModeTask.ticked_s5_fsm task
  | _ => rfl

/-- The task after a sequence of actions. -/
def effects (actions : List (ModeAction cfg)) (task : ModeTask) : ModeTask :=
  actions.foldl (fun task action => action.effect task) task

@[simp] theorem effects_concat (actions : List (ModeAction cfg)) (action : ModeAction cfg)
    (task : ModeTask) :
    effects (actions ++ [action]) task = action.effect (effects actions task) := by
  simp [effects]

@[simp] theorem effects_s5_fsm (actions : List (ModeAction cfg)) (task : ModeTask) :
    (effects actions task).s5.fsm = task.s5.fsm := by
  induction actions generalizing task with
  | nil => rfl
  | cons action rest inductionHypothesis =>
      exact (inductionHypothesis (action.effect task)).trans (effect_s5_fsm action task)

end ModeAction

/-! ### The mode changes of a run -/

namespace ModeAction

/-- The changes of mode that an action makes, oldest first: a turn of the loop may
command the mode machine in its first part and again in its second. -/
def changes : ModeAction cfg → ModeTask → List (Mode × Mode)
  | .tick, task =>
      task.fsm.change task.processRequests.fsm ++
        task.processRequests.fsm.change task.processRequests.autoTransition.fsm
  | .directSafe, task => task.fsm.change task.fsm.toSafe
  | .requestSafe, _ | .requestNominal, _ | .requestStandby, _ | .others _, _ => []

/-- The changes of mode that a sequence of actions makes. -/
def history : List (ModeAction cfg) → ModeTask → List (Mode × Mode)
  | [], _ => []
  | action :: rest, task => action.changes task ++ history rest (action.effect task)

theorem history_concat (actions : List (ModeAction cfg)) (action : ModeAction cfg)
    (task : ModeTask) :
    history (actions ++ [action]) task =
      history actions task ++ action.changes (effects actions task) := by
  induction actions generalizing task with
  | nil => simp [history, effects]
  | cons first rest inductionHypothesis =>
      show first.changes task ++ history (rest ++ [action]) (first.effect task) = _
      rw [inductionHypothesis, ← List.append_assoc]
      rfl

end ModeAction

/-! ### Runs do not fault -/

theorem ModeState.step_eq {state : ModeState cfg} (uncoupled : state.task.s5.fsm = false)
    (action : ModeAction cfg) :
    ∃ tm, state.step action = some { task := action.effect state.task, tm := tm } := by
  cases action with
  | tick =>
      refine ⟨state.tm.afterAll state.task.reports, ?_⟩
      unfold step
      rw [ModeTask.tick_eq uncoupled state.tm]
      rfl
  | others tm => exact ⟨tm, rfl⟩
  | _ => exact ⟨state.tm, rfl⟩

/-- A run never faults; the task goes through the effects of its actions. -/
theorem ModeState.run_eq (actions : List (ModeAction cfg)) {state : ModeState cfg}
    (uncoupled : state.task.s5.fsm = false) :
    ∃ tm, run actions state =
      some { task := ModeAction.effects actions state.task, tm := tm } := by
  induction actions generalizing state with
  | nil => exact ⟨state.tm, rfl⟩
  | cons action rest inductionHypothesis =>
      obtain ⟨middle, stepped⟩ := step_eq uncoupled action
      have stillUncoupled : (action.effect state.task).s5.fsm = false := by
        rw [ModeAction.effect_s5_fsm]
        exact uncoupled
      obtain ⟨tm, ran⟩ := @inductionHypothesis ⟨action.effect state.task, middle⟩ stillUncoupled
      refine ⟨tm, ?_⟩
      unfold run at ran ⊢
      rw [List.foldlM_cons, stepped]
      exact ran

end Openobsw.Task
