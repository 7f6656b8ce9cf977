import Openobsw.System.HostMoments

/-!
Owns on-board monitoring over whole runs: what each definition has reported since
its latches were last reset, and that its reports are the S5 reports that the
checks really made.
-/

namespace Openobsw.System

open Openobsw.Lib.Edges Openobsw.Lib.Histories Openobsw.Pus Openobsw.Pus.S1 Openobsw.Pus.Handler
open Openobsw.Util

variable {cfg : Config}

/-! ### The reports of the checks -/

def Input.checks : Input → Bool
  | .monitoringCheck => true
  | _ => false

/-- The S5 reports that a step made if it is a monitoring check. -/
def reportedBy (input : Input) (obsw after : Obsw cfg) : List S5.Call :=
  if input.checks then after.board.s5.calls.drop obsw.board.s5.calls.length else []

/-- The S5 reports that the monitoring checks of a run made, oldest first. -/
def checkCalls (w : Wiring cfg) : List Input → Obsw cfg → List S5.Call
  | [], _ => []
  | input :: rest, obsw =>
      match step w obsw input with
      | none => []
      | some after => reportedBy input obsw after ++ checkCalls w rest after

theorem no_check (w : Wiring cfg) (service : UInt8) : ¬ w.mayChange service .check := by
  rintro ⟨entry, _, _, changes⟩
  exact entry.handler.not_check changes

theorem Input.reaches_check {input : Input} (other : input.checks = false) :
    ¬ input.reaches .check := by
  cases input with
  | monitoringCheck => cases other
  | _ => simp [Input.reaches, appPart]

/-- A command notes no report. -/
theorem callsOf_step {s after : S12.Ctx} (step : S12.Step s after) :
    S12.callsOf after.trace = S12.callsOf s.trace := by
  cases step with
  | enabled => exact (S12.callsOf_append s.trace _).trans (List.append_nil _)
  | replaced index d found unlatched ordered =>
      exact (S12.callsOf_append s.trace _).trans (List.append_nil _)
  | appended d absent room unlatched ordered =>
      exact (S12.callsOf_append s.trace _).trans (List.append_nil _)
  | disabled => rfl
  | removed d rest perm => rfl
  | emptied => rfl

/-- Only a check notes reports. -/
theorem Changes.callsOf_unchanged {allowed : Part → Prop} {board after : Board cfg}
    (noCheck : ¬ allowed .check) (changes : Changes allowed board after) :
    S12.callsOf after.s12.trace = S12.callsOf board.s12.trace := by
  apply changes.keeps (P := fun other =>
    S12.callsOf other.s12.trace = S12.callsOf board.s12.trace) _ rfl
  intro part first second permitted change same
  cases change with
  | checked s kept => exact absurd permitted noCheck
  | monitoring s step => exact (callsOf_step step).trans same
  | _ => exact same

theorem callsOf_feedInductive (w : Wiring cfg) (calls : List S5.Call) :
    FeedInductive w (fun obsw => S12.callsOf obsw.board.s12.trace = calls) where
  taken := by
    intro origin frame obsw after _ same taken
    rcases taken.changes with unchanged | ⟨tc, _, changes⟩
    · rw [unchanged]
      exact same
    · exact (changes.callsOf_unchanged (no_check w tc.service)).trans same
  released _ _ _ _ same _ := same
  emptied _ same := same

theorem step_reported (w : Wiring cfg) (input : Input) {obsw : Obsw cfg}
    (sound : Sound obsw.board) :
    ∃ after, step w obsw input = some after ∧ Sound after.board ∧
      S12.callsOf after.board.s12.trace =
        S12.callsOf obsw.board.s12.trace ++ reportedBy input obsw after := by
  cases checks : input.checks with
  | true =>
      cases input with
      | monitoringCheck =>
          obtain ⟨⟨board, link, ran, changes⟩, after, sameRan, monitored⟩ :=
            monitoringCheck_quiet sound
          rw [ran] at sameRan
          cases sameRan
          refine ⟨_, ran, sound.changes changes, ?_⟩
          unfold reportedBy
          rw [if_pos checks, monitored.trace, monitored.calls, List.drop_left, S12.callsOf_append]
      | _ => cases checks
  | false =>
      have none : ∀ after, reportedBy input obsw after = [] := by
        intro after
        unfold reportedBy
        rw [checks]
        rfl
      cases silent : input.feeds with
      | false =>
          obtain ⟨board, link, ran, changes⟩ := step_quiet w sound silent
          refine ⟨_, ran, sound.changes changes, ?_⟩
          rw [none, List.append_nil]
          exact changes.callsOf_unchanged (Input.reaches_check checks)
      | true =>
          obtain ⟨after, ran, afterSound, same⟩ :=
            (callsOf_feedInductive w _).step silent ⟨sound, rfl⟩
          refine ⟨after, ran, afterSound, ?_⟩
          rw [none, List.append_nil]
          exact same

theorem runs_reported (w : Wiring cfg) (inputs : List Input) {obsw : Obsw cfg}
    (sound : Sound obsw.board) :
    ∃ reached, runs w inputs obsw = some reached ∧ Sound reached.board ∧
      S12.callsOf reached.board.s12.trace =
        S12.callsOf obsw.board.s12.trace ++ checkCalls w inputs obsw := by
  induction inputs generalizing obsw with
  | nil => exact ⟨obsw, rfl, sound, (List.append_nil _).symm⟩
  | cons input rest inductionHypothesis =>
      obtain ⟨middle, stepped, middleSound, first⟩ := step_reported w input sound
      obtain ⟨reached, ran, reachedSound, later⟩ := inductionHypothesis middleSound
      refine ⟨reached, (runs_cons stepped).trans ran, reachedSound, ?_⟩
      unfold checkCalls
      rw [stepped, later, first, List.append_assoc]

/-! ### What happens to the monitoring table -/

/-- A command of the service reaches its handler, or the definitions are checked
against the values of a parameter table. -/
inductive Monitoring where
  | commanded (done : Commanded S12.Command)
  | checked (table : List S20.Param)

/-- The commands of an occurrence. -/
def Monitoring.commands : Monitoring → List (Commanded S12.Command)
  | .commanded done => [done]
  | .checked _ => []

/-- One occurrence, on a parameter table with these IDs. -/
inductive MonitoringStep (ids : List UInt16) (s : S12.Ctx) : Monitoring → S12.Ctx → Prop
  | executed (table : List S20.Param) (sameIds : table.map (fun param => param.paramId) = ids)
      (command : S12.Command) (tc : Tc) (after : S12.Ctx)
      (executes : S12.Executes table command tc s after) :
      MonitoringStep ids s (.commanded ⟨command, tc, 0⟩) after
  | refused (table : List S20.Param) (sameIds : table.map (fun param => param.paramId) = ids)
      (command : S12.Command) (tc : Tc) (impossible : ∀ after, ¬ S12.Executes table command tc s after) :
      MonitoringStep ids s (.commanded ⟨command, tc, -1⟩) s
  | checked (table : List S20.Param) (sameIds : table.map (fun param => param.paramId) = ids) :
      MonitoringStep ids s (.checked table) (s.afterCheck table)

/-- A sequence of occurrences through well-formed states. -/
def MonitoringRun (ids : List UInt16) : S12.Ctx → List Monitoring → S12.Ctx → Prop :=
  Run (fun s occurrence after => MonitoringStep ids s occurrence after ∧ S12.WellFormed after)

/-- The IDs of the parameter table, which no run changes. -/
def Board.paramIds (board : Board cfg) : List UInt16 :=
  board.s20.table.map (fun param => param.paramId)

/-- Between two states of the software, monitoring went through these occurrences: the
commands are the invocations of the S12 handlers, in their order. -/
structure MonitoringHistory (obsw : Obsw cfg) (occurrences : List Monitoring) (after : Obsw cfg) :
    Prop where
  ids : after.board.paramIds = obsw.board.paramIds
  steps : MonitoringRun obsw.board.paramIds obsw.board.s12 occurrences after.board.s12
  commands : after.commanded Handler.s12? =
    obsw.commanded Handler.s12? ++ occurrences.flatMap Monitoring.commands

theorem MonitoringHistory.refl (obsw : Obsw cfg) : MonitoringHistory obsw [] obsw where
  ids := rfl
  steps := .done _
  commands := (List.append_nil _).symm

theorem MonitoringHistory.trans {obsw middle after : Obsw cfg} {first second : List Monitoring}
    (front : MonitoringHistory obsw first middle) (back : MonitoringHistory middle second after) :
    MonitoringHistory obsw (first ++ second) after where
  ids := back.ids.trans front.ids
  steps := by
    have steps := back.steps
    rw [front.ids] at steps
    exact front.steps.append steps
  commands := by rw [back.commands, front.commands, List.flatMap_append, List.append_assoc]

/-- Without a command or a check, the monitoring table and the parameter IDs stay. -/
theorem Changes.monitoring_unchanged {allowed : Part → Prop} {board after : Board cfg}
    (noCommand : ¬ allowed .monitoring) (noCheck : ¬ allowed .check)
    (changes : Changes allowed board after) :
    after.s12 = board.s12 ∧ after.paramIds = board.paramIds := by
  apply changes.keeps (P := fun other => other.s12 = board.s12 ∧ other.paramIds = board.paramIds) _
    ⟨rfl, rfl⟩
  rintro part first second permitted change ⟨same, sameIds⟩
  cases change with
  | monitoring s step => exact absurd permitted noCommand
  | checked s kept => exact absurd permitted noCheck
  | values s ids => exact ⟨same, ids.trans sameIds⟩
  | _ => exact ⟨same, sameIds⟩

theorem monitoringHistory_silent {obsw after : Obsw cfg}
    (same : after.board.s12 = obsw.board.s12 ∧ after.board.paramIds = obsw.board.paramIds)
    (commands : after.commanded Handler.s12? = obsw.commanded Handler.s12?) :
    MonitoringHistory obsw [] after where
  ids := same.2
  steps := by
    rw [same.1]
    exact .done _
  commands := commands.trans (List.append_nil _).symm

/-- A command of the service is one occurrence. -/
theorem commanded_monitoringHistory {functions : List (Function cfg)} {command : S12.Command}
    {tc : Tc} {rc : Int} {obsw after : Obsw cfg} (sound : Sound obsw.board)
    (ran : Handler.handle functions (.s12 command) tc obsw.board obsw.link =
      some (rc, after.board, after.link))
    (invoked : after.invoked =
      obsw.invoked ++ [⟨.s12 command, tc, obsw.board.fsm.mode, rc⟩]) :
    MonitoringHistory obsw [.commanded ⟨command, tc, rc⟩] after := by
  obtain ⟨s, handled, boardEq⟩ := within_some Board.monitoring ran
  have decides := S12.handle_decides obsw.board.s20.table command tc obsw.board.s12 obsw.link
  rw [show S12.handle obsw.board.s20.table command tc obsw.board.s12 obsw.link =
    some (rc, s, after.link) from handled] at decides
  have table : after.board.s12 = s := by
    rw [boardEq]
    rfl
  have step : MonitoringStep obsw.board.paramIds obsw.board.s12 (.commanded ⟨command, tc, rc⟩) s ∧
      S12.WellFormed s := by
    generalize after.link = later at decides
    cases decides with
    | refused code known impossible =>
        exact ⟨.refused _ rfl command tc impossible, sound.monitoring⟩
    | executed _ executes =>
        exact ⟨.executed _ rfl command tc s executes, sound.monitoring.step executes.step⟩
  constructor
  · rw [boardEq]
    rfl
  · rw [table]
    exact .single step
  · exact commanded_append invoked

/-! ### Every call -/

/-- The software has come from `start` without a monitoring check. -/
def Unchecked (start obsw : Obsw cfg) : Prop :=
  ∃ occurrences, MonitoringHistory start occurrences obsw ∧
    ∀ table, Monitoring.checked table ∉ occurrences

theorem Unchecked.refl (obsw : Obsw cfg) : Unchecked obsw obsw :=
  ⟨[], .refl obsw, by simp⟩

theorem Unchecked.trans {start obsw after : Obsw cfg} (front : Unchecked start obsw)
    (back : Unchecked obsw after) : Unchecked start after := by
  obtain ⟨first, firstHistory, firstUnchecked⟩ := front
  obtain ⟨second, secondHistory, secondUnchecked⟩ := back
  refine ⟨first ++ second, firstHistory.trans secondHistory, fun table => ?_⟩
  rw [List.mem_append]
  rintro (early | late)
  · exact firstUnchecked table early
  · exact secondUnchecked table late

theorem Taken.unchecked {w : Wiring cfg} {origin : Origin} {frame : List UInt8}
    {obsw after : Obsw cfg} (sound : Sound obsw.board) (taken : Taken w origin frame obsw after) :
    Unchecked obsw after := by
  cases taken.served with
  | unhandled board invoked =>
      refine ⟨[], monitoringHistory_silent (by rw [board]; exact ⟨rfl, rfl⟩) ?_, by simp⟩
      unfold Obsw.commanded
      rw [invoked]
  | handled tc parsed admitted entry takes rc ran changes invoked =>
      cases routed : entry.handler with
      | s12 command =>
          rw [routed] at ran invoked
          exact ⟨_, commanded_monitoringHistory sound ran invoked, by simp⟩
      | _ =>
          rw [routed] at changes invoked
          have unchanged := changes.monitoring_unchanged (by simp [Handler.mayChange, appPart])
            (by simp [Handler.mayChange, appPart])
          refine ⟨[], monitoringHistory_silent unchanged ?_, by simp⟩
          exact (commanded_append invoked).trans (List.append_nil _)

theorem unchecked_feedInductive (w : Wiring cfg) (start : Obsw cfg) :
    FeedInductive w (Unchecked start) where
  taken _ _ _ _ sound before taken := before.trans (taken.unchecked sound)
  released _ _ _ _ before _ :=
    before.trans ⟨[], monitoringHistory_silent ⟨rfl, rfl⟩ rfl, by simp⟩
  emptied _ before := before.trans ⟨[], monitoringHistory_silent ⟨rfl, rfl⟩ rfl, by simp⟩

theorem Input.reaches_monitoring (input : Input) : ¬ input.reaches .monitoring := by
  cases input <;> simp [Input.reaches, appPart]

/-- What one call of the main loop is to monitoring: a check is one occurrence, on the
parameters as they are; any other call has commands alone. -/
structure MonitoringLaw (input : Input) (obsw after : Obsw cfg) : Prop where
  history : ∃ occurrences, MonitoringHistory obsw occurrences after ∧
    if input.checks then occurrences = [.checked obsw.board.s20.table]
    else ∀ table, Monitoring.checked table ∉ occurrences
  wellFormed : S12.WellFormed after.board.s12
  check : input.checks = true →
    Monitored obsw (obsw.board.s12.eventsOfCheck obsw.board.s20.table) after

theorem Unchecked.law {input : Input} {obsw after : Obsw cfg} (other : input.checks = false)
    (sound : Sound after.board) (unchecked : Unchecked obsw after) :
    MonitoringLaw input obsw after where
  history := by
    obtain ⟨occurrences, history, none⟩ := unchecked
    refine ⟨occurrences, history, ?_⟩
    rw [if_neg (by simp [other])]
    exact none
  wellFormed := sound.monitoring
  check checks := by
    rw [other] at checks
    cases checks

theorem step_monitoringLaw (w : Wiring cfg) (input : Input) {obsw : Obsw cfg}
    (sound : Sound obsw.board) :
    ∃ after, step w obsw input = some after ∧ Sound after.board ∧
      MonitoringLaw input obsw after := by
  cases checks : input.checks with
  | true =>
      cases input with
      | monitoringCheck =>
          obtain ⟨⟨board, link, ran, changes⟩, after, sameRan, monitored⟩ :=
            monitoringCheck_quiet sound
          rw [ran] at sameRan
          cases sameRan
          have afterSound := sound.changes changes
          have ids : board.paramIds = obsw.board.paramIds := by
            apply changes.keeps (P := fun other => other.paramIds = obsw.board.paramIds) _ rfl
            intro part first second permitted change same
            cases change with
            | values s sameIds => rcases permitted with impossible | impossible <;> cases impossible
            | _ => exact same
          refine ⟨_, ran, afterSound, ⟨[.checked obsw.board.s20.table], ⟨ids, ?_, ?_⟩, rfl⟩,
            afterSound.monitoring, fun _ => monitored⟩
          · have step : MonitoringStep obsw.board.paramIds obsw.board.s12
                (.checked obsw.board.s20.table) board.s12 := by
              rw [show board.s12 = _ from monitored.table]
              exact .checked _ rfl
            exact .single ⟨step, afterSound.monitoring⟩
          · exact (List.append_nil _).symm
      | _ => cases checks
  | false =>
      cases silent : input.feeds with
      | false =>
          obtain ⟨board, link, ran, changes⟩ := step_quiet w sound silent
          have unchanged := changes.monitoring_unchanged input.reaches_monitoring
            (Input.reaches_check checks)
          have unchecked : Unchecked obsw { obsw with board := board, link := link } :=
            ⟨[], monitoringHistory_silent unchanged rfl, by simp⟩
          exact ⟨_, ran, sound.changes changes, unchecked.law checks (sound.changes changes)⟩
      | true =>
          obtain ⟨after, ran, afterSound, unchecked⟩ :=
            (unchecked_feedInductive w obsw).step silent ⟨sound, .refl obsw⟩
          exact ⟨after, ran, afterSound, unchecked.law checks afterSound⟩

/-! ### What resets the latches -/

/-- The resets of a trace, oldest first. -/
def resetsOf (trace : List S12.Event) : List S12.Event :=
  trace.filter (fun event =>
    match event with
    | .installed _ | .cleared => true
    | .seen _ _ | .raised _ _ _ => false)

/-- The reset that an invocation of an S12 handler is: an executed TC(12,1) clears
every latch, an executed TC(12,3) installs the parameter it names. -/
def resetBy (done : Commanded S12.Command) : List S12.Event :=
  if done.rc = 0 then
    match done.command with
    | .enable => [.cleared]
    | .add => (keyOf done.tc).toList.map .installed
    | .disable | .delete | .deleteAll => []
  else []

theorem resetsOf_append (first second : List S12.Event) :
    resetsOf (first ++ second) = resetsOf first ++ resetsOf second :=
  List.filter_append first second

theorem resetsOf_raises (d : S12.Def) (limit : S12.Limit) (value : UInt32) :
    resetsOf (d.raises limit value) = [] := by
  unfold S12.Def.raises
  split <;> rfl

theorem resetsOf_checkEvents (s : S12.Ctx) (table : List S20.Param) (defs : List S12.Def) :
    resetsOf (s.checkEvents table defs) = [] := by
  induction defs with
  | nil => rfl
  | cons d rest inductionHypothesis =>
      have split : s.checkEvents table (d :: rest) =
          ((s.sees table d.paramId).map d.checkEvents).getD [] ++ s.checkEvents table rest :=
        List.flatMap_cons
      rw [split, resetsOf_append, inductionHypothesis, List.append_nil]
      cases s.sees table d.paramId with
      | none => rfl
      | some value =>
          show resetsOf (.seen d.paramId value :: (d.raises .low value ++ d.raises .high value)) = []
          have first : resetsOf [.seen d.paramId value] = [] := rfl
          rw [← List.singleton_append, resetsOf_append, first, resetsOf_append, resetsOf_raises,
            resetsOf_raises]
          rfl

theorem keyOf_asked {table : List S20.Param} {s : S12.Ctx} {tc : Tc} {d : S12.Def}
    (asked : S12.Asks table s tc d) : keyOf tc = some d.paramId := by
  obtain ⟨u, present, _, named, _⟩ := asked.fields
  exact (keyOf_eq present).trans named

/-- An executed command notes its reset, and nothing else that resets. -/
theorem resetsOf_executes {table : List S20.Param} {command : S12.Command} {tc : Tc}
    {s after : S12.Ctx} (executes : S12.Executes table command tc s after) :
    resetsOf after.trace = resetsOf s.trace ++ resetBy ⟨command, tc, 0⟩ := by
  cases executes with
  | enabled => exact resetsOf_append s.trace [.cleared]
  | replaced index d asked found =>
      unfold resetBy
      rw [if_pos rfl, keyOf_asked asked]
      exact resetsOf_append s.trace [.installed d.paramId]
  | appended d asked absent room =>
      unfold resetBy
      rw [if_pos rfl, keyOf_asked asked]
      exact resetsOf_append s.trace [.installed d.paramId]
  | disabled => exact (List.append_nil _).symm
  | removed d rest named perm => exact (List.append_nil _).symm
  | emptied => exact (List.append_nil _).symm

theorem MonitoringStep.resets {ids : List UInt16} {s after : S12.Ctx} {occurrence : Monitoring}
    (step : MonitoringStep ids s occurrence after) :
    resetsOf after.trace = resetsOf s.trace ++ occurrence.commands.flatMap resetBy := by
  cases step with
  | executed table sameIds command tc _ executes =>
      rw [resetsOf_executes executes]
      exact congrArg (resetsOf s.trace ++ ·) (List.append_nil _).symm
  | refused table sameIds command tc impossible => exact (List.append_nil _).symm
  | checked table sameIds =>
      unfold S12.Ctx.afterCheck
      split
      · show resetsOf (s.trace ++ s.checkEvents table s.defs) = _
        rw [resetsOf_append, resetsOf_checkEvents]
        rfl
      · exact (List.append_nil _).symm

/-- The resets noted so far are those of the executed commands, in order. -/
def ResetsNoted (obsw : Obsw cfg) : Prop :=
  resetsOf obsw.board.s12.trace = (obsw.commanded Handler.s12?).flatMap resetBy

theorem Booted.resetsNoted {obsw : Obsw cfg} (booted : Booted obsw) : ResetsNoted obsw := by
  obtain ⟨paramCount, capacity, initial⟩ := booted.monitoring
  unfold ResetsNoted Obsw.commanded
  rw [booted.nothingInvoked, initial]
  rfl

theorem MonitoringHistory.resetsNoted {obsw after : Obsw cfg} {occurrences : List Monitoring}
    (history : MonitoringHistory obsw occurrences after) (noted : ResetsNoted obsw) :
    ResetsNoted after := by
  have logged := history.steps.logged (fun s => resetsOf s.trace)
    (fun occurrence => occurrence.commands.flatMap resetBy)
    (fun _ _ _ stepped => stepped.1.resets)
  unfold ResetsNoted at *
  rw [logged, noted, history.commands, List.flatMap_append, List.flatMap_assoc]

/-! ### Every run -/

/-- In every state that a run from boot reaches: parameter IDs are distinct, the table
keeps its capacity, severities are in range, and no definition is latched low and
high at once. The reports noted for a limit since the latches were reset are the
rising edges of the comparison over the values seen since, each as the definition
says. The noted resets are the executed TC(12,1) and TC(12,3) of the run, and the
noted reports the S5 reports its checks made. Every call of the run is lawful: the
commands of the service do what they ask for or are refused because they cannot, and
a check sees the values of its moment and makes the reports it notes, as does the
next one. -/
theorem runs_monitoring (w : Wiring cfg) (inputs : List Input) {obsw : Obsw cfg}
    (booted : Booted obsw) :
    ∃ reached, runs w inputs obsw = some reached ∧
      (reached.board.s12.defs.map (fun d => d.paramId)).Nodup ∧
      reached.board.s12.defs.length ≤ reached.board.s12.capacity.toNat ∧
      (∀ d ∈ reached.board.s12.defs,
        (1 ≤ d.severity.toUInt8 ∧ d.severity.toUInt8 ≤ 4) ∧
        ¬ (d.inLow = true ∧ d.inHigh = true) ∧
        ∀ limit, S12.raisedSince d.paramId limit reached.board.s12.trace =
          (risingEdges (d.beyond limit)
            (S12.valuesSince d.paramId reached.board.s12.trace)).map (d.call limit)) ∧
      ResetsNoted reached ∧
      S12.callsOf reached.board.s12.trace = checkCalls w inputs obsw ∧
      Run (fun before input after => step w before input = some after ∧
        MonitoringLaw input before after) obsw inputs reached ∧
      ∃ after, monitoringCheck reached = some after ∧
        Monitored reached (reached.board.s12.eventsOfCheck reached.board.s20.table) after := by
  obtain ⟨reached, ran, sound, history⟩ :=
    runs_lawful (fun input _ sound => step_monitoringLaw w input sound) inputs booted.sound
  obtain ⟨same, sameRan, _, reported⟩ := runs_reported w inputs booted.sound
  rw [ran] at sameRan
  cases sameRan
  have monitoring := sound.monitoring
  refine ⟨reached, ran, monitoring.idsDistinct, monitoring.fits, ?_, ?_, ?_, history,
    (monitoringCheck_quiet sound).2⟩
  · intro d member
    have tracks := monitoring.tracks d member
    exact ⟨S12.severity_range d.severity, tracks.not_latched_both, tracks.raised⟩
  · apply history.keeps (P := ResetsNoted) _ booted.resetsNoted
    intro before input after lawful noted
    obtain ⟨occurrences, monitoringHistory, _⟩ := lawful.2.history
    exact monitoringHistory.resetsNoted noted
  · obtain ⟨paramCount, capacity, initial⟩ := booted.monitoring
    rw [reported, initial]
    rfl

/-- A TC(12,3) that wants parameter 1, the temperature, between 10 and 100, with events
256 below and 257 above. -/
def limitFrame : List UInt8 :=
  tcFrame 12 3 0 (putBe16 1 ++ putBe32 0x41200000 ++ putBe32 0x42C80000 ++ putBe16 256 ++
    putBe16 257 ++ [2])

/-- The temperature is 0 for two checks, then 200 for one; a TC(12,1) clears the latches
before the next. -/
def limitInputs : List Input :=
  [.application .toNominal, .uplink limitFrame, .monitoringCheck, .monitoringCheck,
    .application (.setParam 0 200), .monitoringCheck, .uplink (tcFrame 12 1 1 []),
    .monitoringCheck]

/-- In the host simulation each crossing is reported once, and the high one again after
the latches are cleared. -/
theorem boot_monitoring :
    ∃ reached, runs HostSim.wiring limitInputs HostSim.boot.obsw = some reached ∧
      (∀ d ∈ reached.board.s12.defs, ∀ limit,
        S12.raisedSince d.paramId limit reached.board.s12.trace =
          (risingEdges (d.beyond limit)
            (S12.valuesSince d.paramId reached.board.s12.trace)).map (d.call limit)) ∧
      S12.callsOf reached.board.s12.trace =
        checkCalls HostSim.wiring limitInputs HostSim.boot.obsw ∧
      Run (fun before input after => step HostSim.wiring before input = some after ∧
        MonitoringLaw input before after) HostSim.boot.obsw limitInputs reached ∧
      reached.board.s12.defs.map (fun d => d.paramId) = [1] ∧
      (S12.callsOf reached.board.s12.trace).map (fun call => (call.eventId, call.aux.data)) =
        [(256, putBe32 0), (257, putBe32 0x43480000), (257, putBe32 0x43480000)] ∧
      resetsOf reached.board.s12.trace = [.installed 1, .cleared] ∧
      (S12.raisedSince 1 .high reached.board.s12.trace).length = 1 := by
  obtain ⟨reached, ran, _, _, edges, _, reported, history, _⟩ :=
    runs_monitoring HostSim.wiring limitInputs HostSim.boot_booted
  have outcome : (runs HostSim.wiring limitInputs HostSim.boot.obsw).map (fun reached =>
      (reached.board.s12.defs.map (fun d => d.paramId),
        (S12.callsOf reached.board.s12.trace).map (fun call => (call.eventId, call.aux.data)))) =
      some ([1], [(256, putBe32 0), (257, putBe32 0x43480000), (257, putBe32 0x43480000)]) := by
    decide +kernel
  have resets : (runs HostSim.wiring limitInputs HostSim.boot.obsw).map (fun reached =>
      (resetsOf reached.board.s12.trace,
        (S12.raisedSince 1 .high reached.board.s12.trace).length)) =
      some ([.installed 1, .cleared], 1) := by
    decide +kernel
  rw [ran] at outcome resets
  simp only [Option.map_some, Option.some.injEq, Prod.mk.injEq] at outcome resets
  exact ⟨reached, ran, fun d member => (edges d member).2.2, reported, history, outcome.1,
    outcome.2, resets⟩

end Openobsw.System
