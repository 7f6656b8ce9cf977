import Openobsw.System.Runs

/-!
Owns event-action over whole runs: which events are queued, which are dropped, and
what a run dispatches of them.
-/

namespace Openobsw.System

open Openobsw.Lib Openobsw.Lib.Histories Openobsw.Pus Openobsw.Pus.S1 Openobsw.Pus.Handler

variable {cfg : Config}

/-- Only service-19 routes reach the S19 handlers. -/
def Wiring.ConfinesEvents (w : Wiring cfg) : Prop :=
  ∀ entry ∈ w.routes, ∀ command, entry.handler = .s19 command → entry.service = 19

/-! ### What happens to event-action -/

/-- The software reports an event, a command of the service reaches its handler, or a
run takes its batch. -/
inductive Occurrence where
  | reported (call : S5.Call)
  | commanded (done : Commanded S19.Command)
  | taken
deriving DecidableEq

namespace Occurrence

/-- The S5 reports of an occurrence. -/
def calls : Occurrence → List S5.Call
  | .reported call => [call]
  | .commanded _ | .taken => []

/-- The commands of an occurrence. -/
def commands : Occurrence → List (Commanded S19.Command)
  | .commanded done => [done]
  | .reported _ | .taken => []

end Occurrence

/-- One occurrence, where `installed` says whether the event hook is. A report queues
its event, drops it or leaves event-action alone; a command does what it asks for or
is refused because it cannot. -/
inductive EventActionStep (installed : Bool) (s : S19.Ctx cfg) : Occurrence → S19.Ctx cfg → Prop
  | queued (call : S5.Call) (after : S19.Ctx cfg) (hooked : installed = true)
      (queues : S19.Queues s call.eventId) (queue : after.queue = s.queue ++ [call.eventId])
      (dropped : after.dropped = s.dropped)
      (frame : after.defs = s.defs ∧ after.capacity = s.capacity ∧ after.enabled = s.enabled) :
      EventActionStep installed s (.reported call) after
  | dropped (call : S5.Call) (hooked : installed = true) (drops : S19.Drops s call.eventId) :
      EventActionStep installed s (.reported call) { s with dropped := s.dropped + 1 }
  | ignored (call : S5.Call) (unqueued : ¬ (installed = true ∧ S19.Queues s call.eventId))
      (undropped : ¬ (installed = true ∧ S19.Drops s call.eventId)) :
      EventActionStep installed s (.reported call) s
  | executed (command : S19.Command) (tc : Tc) (after : S19.Ctx cfg)
      (executes : S19.Executes command tc s after) :
      EventActionStep installed s (.commanded ⟨command, tc, 0⟩) after
  | refused (command : S19.Command) (tc : Tc)
      (impossible : ∀ after, ¬ S19.Executes command tc s after) :
      EventActionStep installed s (.commanded ⟨command, tc, -1⟩) s
  | taken : EventActionStep installed s .taken s.emptied

theorem reported_step (board : Board cfg) (rc : TmRc) (call : S5.Call) :
    EventActionStep board.eventAction board.s19 (.reported call) (board.reported rc call).s19 := by
  cases installed : board.eventAction with
  | false =>
      have same : (board.reported rc call).s19 = board.s19 := by
        unfold Board.reported
        rw [installed]
        rfl
      rw [same]
      exact .ignored call (by simp) (by simp)
  | true =>
      have heard : (board.reported rc call).s19 = S19.onEvent call.eventId board.s19 := by
        unfold Board.reported
        rw [installed]
        rfl
      rw [heard]
      by_cases queues : S19.Queues board.s19 call.eventId
      · obtain ⟨queue, dropped⟩ := S19.onEvent_queues queues
        exact .queued call _ rfl queues queue dropped (S19.onEvent_frame call.eventId board.s19)
      · by_cases drops : S19.Drops board.s19 call.eventId
        · rw [S19.onEvent_drops drops]
          exact .dropped call rfl drops
        · rw [S19.onEvent_ignored queues drops]
          exact .ignored call (fun both => queues both.2) (fun both => drops both.2)

/-- A sequence of occurrences through well-formed states. -/
def EventActionRun (installed : Bool) : S19.Ctx cfg → List Occurrence → S19.Ctx cfg → Prop :=
  Run (fun s occurrence after => EventActionStep installed s occurrence after ∧ S19.WellFormed after)

/-- Between two states of the software, event-action went through these occurrences:
the reports are the S5 reports made in between, and the commands are the invocations
of the S19 handlers, each in their order. -/
structure EventHistory (obsw : Obsw cfg) (occurrences : List Occurrence) (after : Obsw cfg) :
    Prop where
  installed : after.board.eventAction = obsw.board.eventAction
  steps : EventActionRun obsw.board.eventAction obsw.board.s19 occurrences after.board.s19
  calls : after.board.s5.calls = obsw.board.s5.calls ++ occurrences.flatMap Occurrence.calls
  commands : after.commanded Handler.s19? =
    obsw.commanded Handler.s19? ++ occurrences.flatMap Occurrence.commands

theorem EventHistory.refl (obsw : Obsw cfg) : EventHistory obsw [] obsw where
  installed := rfl
  steps := .done _
  calls := (List.append_nil _).symm
  commands := (List.append_nil _).symm

theorem EventHistory.trans {obsw middle after : Obsw cfg} {first second : List Occurrence}
    (front : EventHistory obsw first middle) (back : EventHistory middle second after) :
    EventHistory obsw (first ++ second) after where
  installed := back.installed.trans front.installed
  steps := by
    have steps := back.steps
    rw [front.installed] at steps
    exact front.steps.append steps
  calls := by rw [back.calls, front.calls, List.flatMap_append, List.append_assoc]
  commands := by rw [back.commands, front.commands, List.flatMap_append, List.append_assoc]

theorem flatMap_reported (calls : List S5.Call) :
    (calls.map Occurrence.reported).flatMap Occurrence.calls = calls ∧
      (calls.map Occurrence.reported).flatMap Occurrence.commands = [] := by
  induction calls with
  | nil => exact ⟨rfl, rfl⟩
  | cons call rest inductionHypothesis =>
      obtain ⟨sameCalls, noCommands⟩ := inductionHypothesis
      simp only [List.map_cons, List.flatMap_cons, sameCalls, noCommands]
      exact ⟨rfl, rfl⟩

/-- Without a command of its own, event-action goes through the reports made. -/
theorem Changes.eventActionRun {allowed : Part → Prop} {board after : Board cfg}
    (sound : Sound board) (noCommand : ¬ allowed .eventAction)
    (changes : Changes allowed board after) :
    after.eventAction = board.eventAction ∧
      ∃ calls : List S5.Call, after.s5.calls = board.s5.calls ++ calls ∧
        EventActionRun board.eventAction board.s19 (calls.map .reported) after.s19 := by
  have both : Sound after ∧ after.eventAction = board.eventAction ∧
      ∃ calls : List S5.Call, after.s5.calls = board.s5.calls ++ calls ∧
        EventActionRun board.eventAction board.s19 (calls.map .reported) after.s19 := by
    apply changes.keeps (P := fun other => Sound other ∧ other.eventAction = board.eventAction ∧
      ∃ calls : List S5.Call, other.s5.calls = board.s5.calls ++ calls ∧
        EventActionRun board.eventAction board.s19 (calls.map .reported) other.s19) _
      ⟨sound, rfl, [], (List.append_nil _).symm, .done _⟩
    rintro part first second permitted change ⟨firstSound, installed, calls, logged, run⟩
    refine ⟨firstSound.change change, ?_⟩
    have secondSound := firstSound.change change
    cases change with
    | eventAction s step => exact absurd permitted noCommand
    | event rc call =>
        have step := reported_step first rc call
        rw [installed] at step
        refine ⟨installed, calls ++ [call], ?_, ?_⟩
        · show first.s5.calls ++ [call] = _
          rw [logged, List.append_assoc]
        · rw [List.map_append]
          exact run.append (.single ⟨step, secondSound.eventAction⟩)
    | _ => exact ⟨installed, calls, logged, run⟩
  exact both.2

theorem Changes.eventHistory {allowed : Part → Prop} {obsw after : Obsw cfg}
    (sound : Sound obsw.board) (noCommand : ¬ allowed .eventAction)
    (changes : Changes allowed obsw.board after.board)
    (commands : after.commanded Handler.s19? = obsw.commanded Handler.s19?) :
    ∃ calls : List S5.Call, EventHistory obsw (calls.map .reported) after := by
  obtain ⟨installed, calls, logged, run⟩ := changes.eventActionRun sound noCommand
  obtain ⟨sameCalls, noCommands⟩ := flatMap_reported calls
  refine ⟨calls, installed, run, ?_, ?_⟩
  · rw [sameCalls]
    exact logged
  · rw [noCommands, List.append_nil]
    exact commands

/-- A command of the service is one occurrence. -/
theorem commanded_eventHistory {functions : List (Function cfg)} {command : S19.Command} {tc : Tc}
    {rc : Int} {obsw after : Obsw cfg} (sound : Sound obsw.board)
    (ran : Handler.handle functions (.s19 command) tc obsw.board obsw.link =
      some (rc, after.board, after.link))
    (invoked : after.invoked =
      obsw.invoked ++ [⟨.s19 command, tc, obsw.board.fsm.mode, rc⟩]) :
    EventHistory obsw [.commanded ⟨command, tc, rc⟩] after := by
  obtain ⟨s, handled, boardEq⟩ := within_some Board.events ran
  have decides := S19.handle_decides command tc obsw.board.s19 obsw.link
  rw [show S19.handle command tc obsw.board.s19 obsw.link = some (rc, s, after.link) from handled]
    at decides
  have table : after.board.s19 = s := by
    rw [boardEq]
    rfl
  have step : EventActionStep obsw.board.eventAction obsw.board.s19 (.commanded ⟨command, tc, rc⟩)
      s ∧ S19.WellFormed s := by
    generalize after.link = later at decides
    cases decides with
    | refused code known impossible =>
        exact ⟨.refused command tc impossible, sound.eventAction⟩
    | executed _ executes =>
        exact ⟨.executed command tc s executes, sound.eventAction.step executes.step⟩
  constructor
  · rw [boardEq]
    rfl
  · rw [table]
    exact .single step
  · rw [boardEq]
    exact (List.append_nil _).symm
  · exact commanded_append invoked

/-! ### Every step -/

/-- The software has come from `start` without taking a batch. -/
def Reacting (start obsw : Obsw cfg) : Prop :=
  ∃ occurrences, EventHistory start occurrences obsw ∧ .taken ∉ occurrences

theorem Reacting.refl (obsw : Obsw cfg) : Reacting obsw obsw :=
  ⟨[], .refl obsw, by simp⟩

theorem Reacting.trans {start obsw after : Obsw cfg} (front : Reacting start obsw)
    (back : Reacting obsw after) : Reacting start after := by
  obtain ⟨first, firstHistory, firstUntaken⟩ := front
  obtain ⟨second, secondHistory, secondUntaken⟩ := back
  refine ⟨first ++ second, firstHistory.trans secondHistory, ?_⟩
  rw [List.mem_append]
  rintro (early | late)
  · exact firstUntaken early
  · exact secondUntaken late

theorem Changes.reacting {allowed : Part → Prop} {obsw after : Obsw cfg}
    (sound : Sound obsw.board) (noCommand : ¬ allowed .eventAction)
    (changes : Changes allowed obsw.board after.board)
    (commands : after.commanded Handler.s19? = obsw.commanded Handler.s19?) :
    Reacting obsw after := by
  obtain ⟨calls, history⟩ := changes.eventHistory sound noCommand commands
  exact ⟨_, history, by simp⟩

theorem Taken.reacting {w : Wiring cfg} {origin : Origin} {frame : List UInt8}
    {obsw after : Obsw cfg} (sound : Sound obsw.board) (taken : Taken w origin frame obsw after) :
    Reacting obsw after := by
  cases taken.served with
  | unhandled board invoked =>
      have none : Changes (fun _ => False) obsw.board after.board := by
        rw [board]
        exact .refl _
      apply none.reacting sound (fun impossible => impossible)
      unfold Obsw.commanded
      rw [invoked]
  | handled tc parsed admitted entry takes rc ran changes invoked =>
      cases routed : entry.handler with
      | s19 command =>
          rw [routed] at ran invoked
          exact ⟨_, commanded_eventHistory sound ran invoked, by simp⟩
      | _ =>
          rw [routed] at changes invoked
          apply changes.reacting sound (by simp [Handler.mayChange, appPart])
          exact (commanded_append invoked).trans (List.append_nil _)

theorem reacting_releaseInductive (w : Wiring cfg) (start : Obsw cfg) :
    ReleaseInductive w (Reacting start) where
  taken _ _ _ _ sound before taken := before.trans (taken.reacting sound)
  released obsw a tNow rest before _ := by
    have silent : EventHistory obsw [] (obsw.released a tNow rest) :=
      ⟨rfl, .done _, (List.append_nil _).symm, (List.append_nil _).symm⟩
    exact before.trans ⟨[], silent, by simp⟩

theorem Input.reaches_eventAction (input : Input) : ¬ input.reaches .eventAction := by
  cases input <;> simp [Input.reaches, appPart]

/-! ### One run -/

/-- A run that fed `actions`. -/
structure ActionsRun (w : Wiring cfg) (obsw : Obsw cfg) (actions : List (List UInt8))
    (after : Obsw cfg) : Prop where
  dispatches : S19.Dispatches (Obsw.core.comp Board.events) (feed w .eventAction)
    obsw.board.s19.queue obsw.batchTaken actions after
  packets : fedFrom .eventAction after = fedFrom .eventAction obsw ++ actions
  reacting : Reacting obsw.batchTaken after
  /-- Where only service-19 routes reach the S19 handlers, the packets fed change
  nothing in event-action but by the events they raise. -/
  confined : w.ConfinesEvents →
    actions = obsw.board.s19.queue.filterMap (S19.actionOf obsw.board.s19.defs) ∧
      after.board.s19.defs = obsw.board.s19.defs ∧ Follows obsw.batchTaken.board after.board

theorem dispatches_fed {w : Wiring cfg} {batch : List UInt16} {obsw after : Obsw cfg}
    {actions : List (List UInt8)}
    (dispatches : S19.Dispatches (Obsw.core.comp Board.events) (feed w .eventAction) batch obsw
      actions after) (sound : Sound obsw.board) :
    fedFrom .eventAction after = fedFrom .eventAction obsw ++ actions := by
  induction dispatches with
  | done obsw => exact (List.append_nil _).symm
  | skipped undefined later inductionHypothesis => exact inductionHypothesis sound
  | fed d stored action ran later inductionHypothesis =>
      obtain ⟨rc, middle, fedEq, taken⟩ := feed_taken w .eventAction d.action sound
      rw [ran] at fedEq
      cases fedEq
      rw [inductionHypothesis (taken.sound sound), taken.fedFrom_same, List.append_assoc]
      rfl

theorem Wiring.ConfinesEvents.no_command {w : Wiring cfg} (confined : w.ConfinesEvents)
    {service : UInt8} (foreign : service ≠ 19) : ¬ w.mayChange service .eventAction := by
  rintro ⟨entry, listed, served, changes⟩
  obtain ⟨command, routed⟩ := Handler.s19_of_eventAction changes
  exact foreign (served.symm.trans (confined entry listed command routed))

/-- A stored action reaches event-action by the events it raises and no other way. -/
theorem action_follows {w : Wiring cfg} (confined : w.ConfinesEvents) {obsw after : Obsw cfg}
    {d : S19.Def} {rc : TcRc} (sound : Sound obsw.board) (stored : d ∈ obsw.board.s19.defs)
    (ran : feed w .eventAction d.action obsw = some (rc, after)) :
    Sound after.board ∧ Follows obsw.board after.board := by
  obtain ⟨sameRc, same, fedEq, taken⟩ := feed_taken w .eventAction d.action sound
  rw [ran] at fedEq
  cases fedEq
  refine ⟨taken.sound sound, ?_⟩
  rcases taken.changes with unchanged | ⟨tc, parsed, changes⟩
  · rw [unchanged]
    exact .refl _
  · obtain ⟨service, checked, foreign⟩ := (sound.eventAction.actions d stored).foreign
    rw [service_of_packetCheck checked parsed] at changes
    exact changes.follows (confined.no_command foreign)

theorem actionRun_law (w : Wiring cfg) {obsw : Obsw cfg} (sound : Sound obsw.board) :
    ∃ actions after, actionRun w obsw = some (actions.length, after) ∧ Sound after.board ∧
      ActionsRun w obsw actions after := by
  have emptied : Sound obsw.batchTaken.board := sound.change (.eventAction _ .taken)
  have closed := (inductive_changes w obsw.board).feeding.events
  obtain ⟨actions, after, ran, ⟨afterSound, _⟩, taken⟩ :=
    S19.run_dispatches closed ⟨sound, .refl obsw.board⟩
  have dispatches : S19.Dispatches (Obsw.core.comp Board.events) (feed w .eventAction)
      obsw.board.s19.queue obsw.batchTaken actions after := taken
  have reacting := (reacting_releaseInductive w obsw.batchTaken).taken.dispatches dispatches
    ⟨emptied, .refl _⟩
  have packets : fedFrom .eventAction after = fedFrom .eventAction obsw.batchTaken ++ actions :=
    dispatches_fed dispatches emptied
  refine ⟨actions, after, ran, afterSound, dispatches, packets, reacting.2, ?_⟩
  intro confined
  obtain ⟨same, _, follows⟩ := dispatches.actions_eq
    (P := fun other => Sound other.board ∧ Follows obsw.batchTaken.board other.board)
    (fun d state middle rc kept stored fedEq =>
      have step := action_follows confined kept.1 stored fedEq
      ⟨⟨step.1, kept.2.trans step.2⟩, step.2.defs⟩)
    ⟨emptied, .refl _⟩
  exact ⟨same, follows.defs, follows⟩

/-! ### Every run -/

/-- A run takes its batch first; no other call takes one. -/
def Input.batches (input : Input) (occurrences : List Occurrence) : Prop :=
  match input with
  | .actionRun => ∃ later, occurrences = .taken :: later ∧ .taken ∉ later
  | _ => .taken ∉ occurrences

/-- What one call of the main loop is to event-action. -/
structure EventLaw (w : Wiring cfg) (input : Input) (obsw after : Obsw cfg) : Prop where
  history : ∃ occurrences, EventHistory obsw occurrences after ∧ input.batches occurrences
  wellFormed : S19.WellFormed after.board.s19
  run : input = .actionRun → ∃ actions, ActionsRun w obsw actions after

theorem Reacting.law {w : Wiring cfg} {input : Input} {obsw after : Obsw cfg}
    (other : input ≠ .actionRun) (sound : Sound after.board) (reacting : Reacting obsw after) :
    EventLaw w input obsw after where
  history := by
    obtain ⟨occurrences, history, untaken⟩ := reacting
    refine ⟨occurrences, history, ?_⟩
    cases input with
    | actionRun => exact absurd rfl other
    | _ => exact untaken
  wellFormed := sound.eventAction
  run same := absurd same other

theorem step_eventLaw (w : Wiring cfg) (input : Input) {obsw : Obsw cfg}
    (sound : Sound obsw.board) :
    ∃ after, step w obsw input = some after ∧ Sound after.board ∧ EventLaw w input obsw after := by
  have keeps := reacting_releaseInductive w obsw
  cases silent : input.feeds with
  | false =>
      obtain ⟨board, link, ran, changes⟩ := step_quiet w sound silent
      have reacting : Reacting obsw { obsw with board := board, link := link } :=
        changes.reacting sound input.reaches_eventAction rfl
      have other : input ≠ .actionRun := by
        rintro rfl
        cases silent
      exact ⟨_, ran, sound.changes changes, reacting.law other (sound.changes changes)⟩
  | true =>
      cases input with
      | uplink frame =>
          obtain ⟨after, ran, afterSound, reacting⟩ :=
            keeps.taken.uplink frame ⟨sound, .refl obsw⟩
          exact ⟨after, ran, afterSound, reacting.law (by simp) afterSound⟩
      | scheduleRun now =>
          obtain ⟨after, ran, afterSound, reacting⟩ := keeps.scheduleRun now ⟨sound, .refl obsw⟩
          exact ⟨after, ran, afterSound, reacting.law (by simp) afterSound⟩
      | actionRun =>
          obtain ⟨actions, after, ran, afterSound, law⟩ := actionRun_law w sound
          obtain ⟨later, history, untaken⟩ := law.reacting
          have emptied : S19.WellFormed obsw.board.s19.emptied := sound.eventAction.step .taken
          have batch : EventHistory obsw [.taken] obsw.batchTaken :=
            ⟨rfl, .single ⟨.taken, emptied⟩, (List.append_nil _).symm, (List.append_nil _).symm⟩
          refine ⟨after, by simp only [step, ran, Option.map_some], afterSound,
            ⟨_, batch.trans history, later, rfl, untaken⟩, afterSound.eventAction, fun _ => ?_⟩
          exact ⟨actions, law⟩
      | _ => cases silent

/-- Every run from boot is a history of lawful calls. In each of them the S5 reports
queue or drop their events by the queueing law, the commands of the service do what
they ask for or are refused because they cannot, and an event-action run dispatches
the batch it takes. All states are well formed: distinct event IDs within the
capacity, and an empty queue while disabled; and never more than
`OBSW_S19_QUEUE_LEN` entries wait. From the state reached, an event-action run
dispatches exactly what waits there. -/
theorem runs_eventAction (w : Wiring cfg) (inputs : List Input) {obsw : Obsw cfg}
    (booted : Booted obsw) :
    ∃ reached, runs w inputs obsw = some reached ∧
      Run (fun before input after =>
        step w before input = some after ∧ EventLaw w input before after) obsw inputs reached ∧
      S19.WellFormed reached.board.s19 ∧
      reached.board.s19.queue.length ≤ cfg.s19QueueLen ∧
      ∃ actions after, actionRun w reached = some (actions.length, after) ∧
        ActionsRun w reached actions after := by
  obtain ⟨reached, ran, sound, history⟩ :=
    runs_lawful (fun input _ sound => step_eventLaw w input sound) inputs booted.sound
  obtain ⟨actions, after, actionsRan, _, law⟩ := actionRun_law w sound
  exact ⟨reached, ran, history, sound.eventAction, reached.board.s19.queueFits, actions, after,
    actionsRan, law⟩

/-- A dispatcher with routes for TC(19,1), TC(19,5) and the ping. -/
def eventWiring : Wiring Config.default where
  routes := [⟨0xFFFF, 19, 1, .s19 .add⟩, ⟨0xFFFF, 19, 5, .s19 .disable⟩, ⟨0xFFFF, 17, 1, .s17⟩]
  gated := false
  functions := []
  reportsFit := default_reportsFit

theorem alarm_bounded : ([] : List UInt8).length ≤ 255 := Nat.zero_le 255

/-- A report of event 7 without auxiliary data. -/
def alarm : S5.Call where
  severity := .low
  eventId := 7
  aux := {
    data := []
    bounded := alarm_bounded }

/-- A ping is defined for event 7, which is reported, dispatched and reported again;
then event-action is disabled. -/
def alarmInputs : List Input :=
  [.uplink (tcFrame 19 1 0 ([0, 7] ++ pingFrame)), .application (.report alarm), .actionRun,
    .application (.report alarm), .uplink (tcFrame 19 5 1 [])]

/-- The first report's ping is fed, and the disabling empties the queue of the second. -/
theorem cold_eventAction :
    ∃ reached, runs eventWiring alarmInputs (Obsw.cold Config.default) = some reached ∧
      Run (fun before input after => step eventWiring before input = some after ∧
        EventLaw eventWiring input before after) (Obsw.cold Config.default) alarmInputs reached ∧
      fedFrom .eventAction reached = [pingFrame] ∧
      reached.board.s5.calls = [alarm, alarm] ∧
      (reached.commanded Handler.s19?).map (fun done => (done.command, done.rc)) =
        [(.add, 0), (.disable, 0)] ∧
      reached.board.s19.queue = [] ∧ reached.board.s19.enabled = false := by
  obtain ⟨reached, ran, history, _⟩ :=
    runs_eventAction eventWiring alarmInputs (cold_booted Config.default)
  have outcome : (runs eventWiring alarmInputs (Obsw.cold Config.default)).map (fun reached =>
      (fedFrom .eventAction reached, reached.board.s5.calls, reached.board.s19.queue,
        reached.board.s19.enabled)) = some ([pingFrame], [alarm, alarm], [], false) := by
    decide +kernel
  have commands : (runs eventWiring alarmInputs (Obsw.cold Config.default)).map (fun reached =>
      (reached.commanded Handler.s19?).map (fun done => (done.command, done.rc))) =
        some [(.add, 0), (.disable, 0)] := by
    decide +kernel
  rw [ran] at outcome commands
  simp only [Option.map_some, Option.some.injEq, Prod.mk.injEq] at outcome commands
  exact ⟨reached, ran, history, outcome.1, outcome.2.1, commands, outcome.2.2⟩

end Openobsw.System
