import Mathlib.Data.Fintype.Basic
import Openobsw.Properties.ModeRequests

/-!
Owns the mode events of the Mode Manager against the modes that were entered. A turn
of its loop compares the mode with the one it saw at the turn before, so two entries
between two turns leave at most one event.
-/

namespace Openobsw.Task

open Openobsw.Fdir Openobsw.Pus Openobsw.Srdb

variable {cfg : Config}

instance : Fintype Mode where
  elems := {.nominal, .safe, .standby}
  complete mode := by cases mode <;> decide

/-! ### One turn, on modes -/

/-- The mode entered between two moments, when they differ. -/
def entry (before after : Mode) : List Mode :=
  if after = before then [] else [after]

/-- The mode after the pending requests of a turn. -/
def requestedMode (requests : Requests) (mode : Mode) : Mode :=
  if requests.safe then .safe
  else if requests.standby then .standby
  else if requests.nominal ∧ mode = .safe then .nominal
  else mode

/-- The mode after the timeout part of a turn. -/
def timedMode (timeout : Bool) (mode : Mode) : Mode :=
  if mode = .standby ∧ timeout then .safe else mode

/-- A turn hides a mode entry: a direct entry into SAFE is followed by a request in the
turn that would report it, or a STANDBY request meets a timeout that has already run. -/
def MaskingTurn (mode last : Mode) (requests : Requests) (timeout : Bool) : Prop :=
  requests.safe = false ∧
    ((mode = .safe ∧ last ≠ .safe ∧ (requests.standby ∨ requests.nominal)) ∨
      (requests.standby ∧ mode ≠ .standby ∧ timeout))

instance (mode last : Mode) (requests : Requests) (timeout : Bool) :
    Decidable (MaskingTurn mode last requests timeout) :=
  inferInstanceAs (Decidable (requests.safe = false ∧
    ((mode = .safe ∧ last ≠ .safe ∧ (requests.standby ∨ requests.nominal)) ∨
      (requests.standby ∧ mode ≠ .standby ∧ timeout))))

/-- The entries since the last turn together with those of the turn. -/
def turnEntries (mode last : Mode) (requests : Requests) (timeout : Bool) : List Mode :=
  entry last mode ++ entry mode (requestedMode requests mode) ++
    entry (requestedMode requests mode) (timedMode timeout (requestedMode requests mode))

/-- The one event of a turn covers its entries, unless the turn masks one. -/
theorem turnEntries_spec :
    ∀ (mode last : Mode) (safe nominal standby timeout : Bool), mode = last ∨ mode = .safe →
      let requests : Requests := ⟨safe, nominal, standby⟩
      let event := entry last (timedMode timeout (requestedMode requests mode))
      if MaskingTurn mode last requests timeout then
        event.length < (turnEntries mode last requests timeout).length
      else event = turnEntries mode last requests timeout := by
  decide

/-! ### One turn of the task -/

theorem map_snd_change (before after : Fsm) :
    (before.change after).map Prod.snd = entry before.mode after.mode := by
  unfold Fsm.change entry
  split <;> rfl

namespace ModeTask

/-- The timeout is due at the next turn that finds the mode in STANDBY. -/
def timeoutDue (task : ModeTask) : Bool := decide (task.standbyTicks + 1 ≥ standbySafeTimeoutS)

/-- The task is about to hide a mode entry. -/
def Masks (task : ModeTask) : Prop :=
  MaskingTurn task.fsm.mode task.last task.requests task.timeoutDue

theorem processRequests_mode (task : ModeTask) :
    task.processRequests.fsm.mode = requestedMode task.requests task.fsm.mode := by
  unfold processRequests requestedMode
  split
  · exact Fsm.toSafe_mode _
  split
  · exact Fsm.toStandby_mode _
  split
  · rename_i wanted
    simp only [wanted, true_and]
    split
    · exact Fsm.toNominal_mode _
    · rfl
  · rename_i unwanted
    simp [unwanted]

theorem autoTransition_mode (task : ModeTask) :
    task.autoTransition.fsm.mode = timedMode task.timeoutDue task.fsm.mode := by
  unfold autoTransition timedMode timeoutDue
  split
  · rename_i waiting
    simp only [waiting, true_and, decide_eq_true_eq]
    split
    · exact Fsm.toSafe_mode _
    · exact waiting
  · rename_i other
    simp [other]

theorem processRequests_timeoutDue (task : ModeTask) :
    task.processRequests.timeoutDue = task.timeoutDue := by
  simp [timeoutDue]

theorem ticked_mode (task : ModeTask) :
    task.ticked.fsm.mode =
      timedMode task.timeoutDue (requestedMode task.requests task.fsm.mode) := by
  unfold ticked
  rw [emitted_fsm, autoTransition_mode, processRequests_timeoutDue, processRequests_mode]

theorem ticked_last (task : ModeTask) : task.ticked.last = task.ticked.fsm.mode := by
  unfold ticked
  rw [emitted_last, emitted_fsm]

theorem ticked_calls (task : ModeTask) :
    task.ticked.s5.calls = task.s5.calls ++ (entry task.last task.ticked.fsm.mode).map entryCall := by
  unfold ticked
  rw [emitted_calls, emitted_fsm, autoTransition_s5, processRequests_s5, autoTransition_last,
    processRequests_last]
  unfold entry
  split <;> rfl

end ModeTask

/-- A turn that masks an entry reports less than was entered. -/
theorem masked_turn {task : ModeTask} (between : task.fsm.mode = task.last ∨ task.fsm.mode = .safe)
    (masks : task.Masks) :
    (entry task.last task.ticked.fsm.mode).length <
      (turnEntries task.fsm.mode task.last task.requests task.timeoutDue).length := by
  have turn := turnEntries_spec task.fsm.mode task.last task.requests.safe task.requests.nominal
    task.requests.standby task.timeoutDue between
  rw [ModeTask.ticked_mode]
  exact Eq.mp (if_pos masks) turn

/-- Any other turn reports exactly what was entered. -/
theorem clear_turn {task : ModeTask} (between : task.fsm.mode = task.last ∨ task.fsm.mode = .safe)
    (clear : ¬ task.Masks) :
    entry task.last task.ticked.fsm.mode =
      turnEntries task.fsm.mode task.last task.requests task.timeoutDue := by
  have turn := turnEntries_spec task.fsm.mode task.last task.requests.safe task.requests.nominal
    task.requests.standby task.timeoutDue between
  rw [ModeTask.ticked_mode]
  exact Eq.mp (if_neg clear) turn

theorem tick_entries (task : ModeTask) :
    entry task.last task.fsm.mode ++
        ((ModeAction.tick : ModeAction cfg).changes task).map Prod.snd =
      turnEntries task.fsm.mode task.last task.requests task.timeoutDue := by
  unfold ModeAction.changes
  rw [List.map_append, map_snd_change, map_snd_change, ModeTask.autoTransition_mode,
    ModeTask.processRequests_timeoutDue, ModeTask.processRequests_mode, ← List.append_assoc]
  rfl

/-! ### Runs -/

/-- The modes entered in a run. -/
def entered (actions : List (ModeAction cfg)) (task : ModeTask) : List Mode :=
  (ModeAction.history actions task).map Prod.snd

theorem entered_concat (actions : List (ModeAction cfg)) (action : ModeAction cfg)
    (task : ModeTask) :
    entered (actions ++ [action]) task =
      entered actions task ++ (action.changes (ModeAction.effects actions task)).map Prod.snd := by
  unfold entered
  rw [ModeAction.history_concat, List.map_append]

/-- No turn of the run masks a mode entry. -/
def Unmasked (actions : List (ModeAction cfg)) (task : ModeTask) : Prop :=
  ∀ first later, actions = first ++ .tick :: later → ¬ (ModeAction.effects first task).Masks

theorem unmasked_concat_iff (actions : List (ModeAction cfg)) (action : ModeAction cfg)
    (task : ModeTask) :
    Unmasked (actions ++ [action]) task ↔
      Unmasked actions task ∧ (action = .tick → ¬ (ModeAction.effects actions task).Masks) := by
  constructor
  · intro unmasked
    constructor
    · intro first later split
      exact unmasked first (later ++ [action]) (by rw [split]; simp)
    · intro turn
      exact unmasked actions [] (by rw [turn])
  · rintro ⟨before, here⟩ first later split
    rcases List.eq_nil_or_concat later with nothing | ⟨rest, last, more⟩
    · rw [nothing] at split
      obtain ⟨sameActions, sameAction⟩ := List.append_inj' split rfl
      rw [← sameActions]
      exact here (List.cons.inj sameAction).1
    · rw [more, List.concat_eq_append, ← List.cons_append, ← List.append_assoc] at split
      exact before first rest (List.append_inj' split rfl).1

/-- The reports made and the one still due, against the modes entered. -/
structure Accounted (task : ModeTask) (modes : List Mode) (unmasked : Prop) : Prop where
  between : task.fsm.mode = task.last ∨ task.fsm.mode = .safe
  covered : unmasked →
    task.s5.calls ++ (entry task.last task.fsm.mode).map ModeTask.entryCall =
      modes.map ModeTask.entryCall
  short : ¬ unmasked →
    task.s5.calls.length + (entry task.last task.fsm.mode).length < modes.length

@[simp] theorem entry_self (mode : Mode) : entry mode mode = [] := if_pos rfl

namespace Accounted

variable {task : ModeTask} {modes : List Mode} {unmasked : Prop}

/-- The reports never outnumber the entries. -/
theorem bounded (accounted : Accounted task modes unmasked) :
    task.s5.calls.length + (entry task.last task.fsm.mode).length ≤ modes.length := by
  by_cases all : unmasked
  · have lengths := congrArg List.length (accounted.covered all)
    simp only [List.length_append, List.length_map] at lengths
    omega
  · exact (accounted.short all).le

/-- A turn reports everything entered since the one before, unless it masks an entry. -/
theorem tick (accounted : Accounted task modes unmasked) :
    Accounted task.ticked
      (modes ++ ((ModeAction.tick : ModeAction cfg).changes task).map Prod.snd)
      (unmasked ∧ ¬ task.Masks) := by
  have entries := @tick_entries cfg task
  have settled : entry task.ticked.last task.ticked.fsm.mode = [] := by
    rw [ModeTask.ticked_last, entry_self]
  refine ⟨.inl (ModeTask.ticked_last task).symm, ?_, ?_⟩
  · rintro ⟨all, clear⟩
    have event := clear_turn accounted.between clear
    rw [settled, List.map_nil, List.append_nil, ModeTask.ticked_calls, event, ← entries,
      List.map_append, ← List.append_assoc, accounted.covered all, List.map_append]
  · intro some
    rw [settled, ModeTask.ticked_calls]
    have lengths := congrArg List.length entries
    have before := accounted.bounded
    simp only [List.length_append, List.length_map, List.length_nil, Nat.add_zero] at lengths ⊢
    by_cases masks : task.Masks
    · have event := masked_turn accounted.between masks
      omega
    · have event := congrArg List.length (clear_turn accounted.between masks)
      have earlier := accounted.short (fun all => some ⟨all, masks⟩)
      omega

/-- Between turns only a direct call enters a mode, and that mode is still to report. -/
theorem between_turns (accounted : Accounted task modes unmasked) {action : ModeAction cfg}
    (turn : action ≠ .tick) :
    Accounted (action.effect task) (modes ++ (action.changes task).map Prod.snd) unmasked := by
  have quiet (after : ModeTask) (sameMode : after.fsm.mode = task.fsm.mode)
      (sameLast : after.last = task.last) (sameCalls : after.s5 = task.s5) :
      Accounted after (modes ++ []) unmasked := by
    rw [List.append_nil]
    constructor
    · rw [sameMode, sameLast]
      exact accounted.between
    · rw [sameMode, sameLast, sameCalls]
      exact accounted.covered
    · rw [sameMode, sameLast, sameCalls]
      exact accounted.short
  cases action with
  | tick => exact absurd rfl turn
  | requestSafe => exact quiet _ rfl rfl rfl
  | requestNominal => exact quiet _ rfl rfl rfl
  | requestStandby => exact quiet _ rfl rfl rfl
  | others tm => exact quiet _ rfl rfl rfl
  | directSafe =>
      have mode : task.fsm.toSafe.mode = .safe := Fsm.toSafe_mode _
      have made : ((ModeAction.directSafe : ModeAction cfg).changes task).map Prod.snd =
          entry task.fsm.mode .safe := by
        unfold ModeAction.changes
        rw [map_snd_change, mode]
      have joined : entry task.last .safe =
          entry task.last task.fsm.mode ++ entry task.fsm.mode .safe := by
        rcases accounted.between with seen | safe
        · rw [seen, entry_self, List.nil_append]
        · rw [safe, entry_self, List.append_nil]
      rw [made]
      constructor
      · exact .inr mode
      · intro all
        show task.s5.calls ++ (entry task.last task.fsm.toSafe.mode).map _ = _
        rw [mode, joined, List.map_append, ← List.append_assoc, accounted.covered all,
          List.map_append]
      · intro some
        have earlier := accounted.short some
        show task.s5.calls.length + (entry task.last task.fsm.toSafe.mode).length < _
        rw [mode, joined]
        simp only [List.length_append]
        omega

end Accounted

/-- In every run the reports are accounted for. -/
theorem accounted_run (actions : List (ModeAction cfg)) :
    Accounted (ModeAction.effects actions ModeTask.init) (entered actions ModeTask.init)
      (Unmasked actions ModeTask.init) := by
  induction actions using List.reverseRecOn with
  | nil =>
      constructor
      · exact .inl rfl
      · exact fun _ => rfl
      · intro masked
        exact absurd (fun first later split => absurd split (by simp)) masked
  | append_singleton actions action inductionHypothesis =>
      rw [ModeAction.effects_concat, entered_concat, unmasked_concat_iff]
      by_cases turn : action = .tick
      · subst turn
        rw [forall_prop_of_true rfl]
        exact inductionHypothesis.tick
      · have after := inductionHypothesis.between_turns turn
        simpa [turn] using after

/-! ### The count of SAFE entries -/

/-- The SAFE entries between two states of the mode machine are counted. -/
def Counted (before after : Fsm) : Prop :=
  after.safeEntryCount =
    before.safeEntryCount + UInt32.ofNat ((entry before.mode after.mode).count .safe)

namespace Counted

theorem refl (fsm : Fsm) : Counted fsm fsm := by
  simp [Counted]

theorem toSafe (fsm : Fsm) : Counted fsm fsm.toSafe := by
  unfold Counted Fsm.toSafe entry
  by_cases safe : fsm.mode = .safe
  · simp [safe]
  · have other : ¬ Mode.safe = fsm.mode := fun same => safe same.symm
    simp [safe, other]

theorem toStandby (fsm : Fsm) : Counted fsm fsm.toStandby := by
  unfold Counted Fsm.toStandby entry
  split
  · simp
  · split <;> simp

theorem toNominal (fsm : Fsm) : Counted fsm fsm.toNominal := by
  unfold Counted Fsm.toNominal entry
  by_cases nominal : fsm.mode = .nominal
  · simp [nominal]
  · have other : ¬ Mode.nominal = fsm.mode := fun same => nominal same.symm
    simp [nominal, other]

theorem processRequests (task : ModeTask) : Counted task.fsm task.processRequests.fsm := by
  unfold ModeTask.processRequests
  split
  · exact toSafe task.fsm
  split
  · exact toStandby task.fsm
  split
  · show Counted task.fsm (if task.fsm.mode = .safe then task.fsm.toNominal else task.fsm)
    split
    · exact toNominal task.fsm
    · exact refl task.fsm
  · exact refl task.fsm

theorem autoTransition (task : ModeTask) : Counted task.fsm task.autoTransition.fsm := by
  unfold ModeTask.autoTransition
  split
  · show Counted task.fsm
      (if task.standbyTicks + 1 ≥ standbySafeTimeoutS then task.fsm.toSafe else task.fsm)
    split
    · exact toSafe task.fsm
    · exact refl task.fsm
  · exact refl task.fsm

end Counted

theorem effect_counted (action : ModeAction cfg) (task : ModeTask) :
    (action.effect task).fsm.safeEntryCount =
      task.fsm.safeEntryCount +
        UInt32.ofNat (((action.changes task).map Prod.snd).count .safe) := by
  cases action with
  | tick =>
      have first := Counted.processRequests task
      have second := Counted.autoTransition task.processRequests
      unfold Counted at first second
      unfold ModeAction.effect ModeTask.ticked ModeAction.changes
      rw [ModeTask.emitted_fsm, second, first, List.map_append, map_snd_change, map_snd_change,
        List.count_append, UInt32.ofNat_add, UInt32.add_assoc]
  | directSafe =>
      unfold ModeAction.changes
      rw [map_snd_change]
      exact Counted.toSafe task.fsm
  | _ => simp [ModeAction.changes, ModeAction.effect, ModeTask.requestSafe,
      ModeTask.requestNominal, ModeTask.requestStandby]

/-- `safe_entry_count` counts the entries into SAFE, modulo its width. -/
theorem safeEntryCount_run (actions : List (ModeAction cfg)) :
    (ModeAction.effects actions ModeTask.init).fsm.safeEntryCount =
      UInt32.ofNat ((entered actions ModeTask.init).count .safe) := by
  induction actions using List.reverseRecOn with
  | nil => rfl
  | append_singleton actions action inductionHypothesis =>
      rw [ModeAction.effects_concat, entered_concat, effect_counted, inductionHypothesis,
        List.count_append, UInt32.ofNat_add]

/-! ### Every change reported -/

/-- The mode events of the task, in the order of the calls. -/
def modeEvents (task : ModeTask) : List UInt16 := task.s5.calls.map (fun call => call.eventId)

/-- The event of an entry into the mode. -/
def entryEvent (mode : Mode) : UInt16 := (ModeTask.entryCall mode).eventId

/-- At the end of a turn the events of the run are those of the modes entered, and the
SAFE entries among them are as many as `safe_entry_count` counts in its 32 bits. -/
def ChangesReported (modes : List Mode) (task : ModeTask) : Prop :=
  modeEvents task = modes.map entryEvent ∧
    UInt32.ofNat ((modeEvents task).count Mission.eventSafeModeEntry) = task.fsm.safeEntryCount

theorem count_entryEvent (modes : List Mode) :
    (modes.map entryEvent).count Mission.eventSafeModeEntry = modes.count .safe := by
  induction modes with
  | nil => rfl
  | cons mode rest inductionHypothesis =>
      rw [List.map_cons, List.count_cons, List.count_cons, inductionHypothesis]
      cases mode <;> rfl

/-- Up to the end of any turn, every mode change of a run is reported exactly when no
turn of the run masks one. -/
theorem changes_reported_iff (actions : List (ModeAction cfg)) (tm : Port cfg) :
    ∃ state, ModeState.run (actions ++ [.tick]) (ModeState.start tm) = some state ∧
      (ChangesReported (entered (actions ++ [(.tick : ModeAction cfg)]) ModeTask.init) state.task ↔
        Unmasked (actions ++ [(.tick : ModeAction cfg)]) ModeTask.init) := by
  obtain ⟨after, ran⟩ := @ModeState.run_eq cfg (actions ++ [.tick]) (ModeState.start tm) rfl
  refine ⟨_, ran, ?_⟩
  have accounted := accounted_run (actions ++ [(.tick : ModeAction cfg)])
  have counted := safeEntryCount_run (actions ++ [(.tick : ModeAction cfg)])
  have settled : entry (ModeAction.effects (actions ++ [(.tick : ModeAction cfg)]) ModeTask.init).last
      (ModeAction.effects (actions ++ [(.tick : ModeAction cfg)]) ModeTask.init).fsm.mode = [] := by
    rw [ModeAction.effects_concat]
    show entry (ModeTask.ticked _).last (ModeTask.ticked _).fsm.mode = []
    rw [ModeTask.ticked_last, entry_self]
  show ChangesReported _ (ModeAction.effects (actions ++ [.tick]) ModeTask.init) ↔ _
  generalize ModeAction.effects (actions ++ [.tick]) ModeTask.init = task
    at accounted counted settled ⊢
  constructor
  · rintro ⟨events, _⟩
    by_contra masked
    have lengths := congrArg List.length events
    have fewer := accounted.short masked
    rw [settled] at fewer
    simp only [modeEvents, List.length_map, List.length_nil] at lengths fewer
    omega
  · intro unmasked
    have calls := accounted.covered unmasked
    rw [settled, List.map_nil, List.append_nil] at calls
    have events : modeEvents task =
        (entered (actions ++ [(.tick : ModeAction cfg)]) ModeTask.init).map entryEvent := by
      unfold modeEvents
      rw [calls, List.map_map]
      rfl
    refine ⟨events, ?_⟩
    rw [events, count_entryEvent, counted]

/-- An S5 safe trigger and then a STANDBY request before the first turn: SAFE and STANDBY
are entered, `safe_entry_count` is one, and no event is reported. -/
theorem changes_unreported :
    ∃ state, ModeState.run [.directSafe, .requestStandby, .tick]
        (ModeState.start (idlePort Config.default)) = some state ∧
      entered [(.directSafe : ModeAction Config.default), .requestStandby, .tick] ModeTask.init =
        [.safe, .standby] ∧
      modeEvents state.task = [] ∧ state.task.fsm.safeEntryCount = 1 ∧
      ¬ ChangesReported [.safe, .standby] state.task := by
  obtain ⟨after, ran⟩ := @ModeState.run_eq Config.default [.directSafe, .requestStandby, .tick]
    (ModeState.start (idlePort Config.default)) rfl
  refine ⟨_, ran, rfl, rfl, rfl, ?_⟩
  rintro ⟨events, _⟩
  cases events

end Openobsw.Task
