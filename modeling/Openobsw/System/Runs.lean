import Openobsw.Lib.Histories
import Openobsw.Pus.S11Run
import Openobsw.System.Feed

/-!
Owns runs of the whole software: the calls of the main loop in any order, from a
boot state. No run ever faults, and every state it reaches is sound.
-/

namespace Openobsw.System

open Openobsw.Fdir Openobsw.Lib Openobsw.Lib.Histories Openobsw.Pus Openobsw.Pus.S1
open Openobsw.Time

variable {cfg : Config}

/-! ### Steps -/

def Obsw.core : Component (Obsw cfg) (Board cfg) where
  get obsw := obsw.board
  set board obsw := { obsw with board := board }
  get_set _ _ := rfl
  set_get _ := rfl

/-- `obsw_s11_run` on the board's schedule. -/
def scheduleRun (w : Wiring cfg) (now : Obt) (obsw : Obsw cfg) : Option (Nat × Obsw cfg) :=
  S11.run cfg (Obsw.core.comp Board.schedule) (feed w .schedule) now obsw

/-- `obsw_s19_run` on the board's event-action. -/
def actionRun (w : Wiring cfg) (obsw : Obsw cfg) : Option (Nat × Obsw cfg) :=
  S19.run (Obsw.core.comp Board.events) (feed w .eventAction) obsw

/-- `obsw_s12_check` on the board. -/
def monitoringCheck (obsw : Obsw cfg) : Option (Obsw cfg) := do
  let board := obsw.board
  let (s, env) ← S12.check board.hook board.s20.table board.s12 (board.env obsw.link)
  return { obsw with
    board := { board.withEnv env with s12 := s }
    link := { obsw.link with tm := env.tm } }

/-- `obsw_s3_tick` on the board. -/
def hkTick (obsw : Obsw cfg) : Option (Obsw cfg) := do
  let (s, tm) ← S3.tick obsw.board.hkVariables obsw.board.s3 obsw.link.tm
  return { obsw with
    board := { obsw.board with s3 := s }
    link := { obsw.link with tm := tm } }

/-- `obsw_s3_report` on the board. -/
def hkReport (setId : UInt8) (obsw : Obsw cfg) : Option (Obsw cfg) := do
  let (_, s, tm) ← S3.report obsw.board.hkVariables setId obsw.board.s3 obsw.link.tm
  return { obsw with
    board := { obsw.board with s3 := s }
    link := { obsw.link with tm := tm } }

def application (call : AppCall) (obsw : Obsw cfg) : Option (Obsw cfg) := do
  let (board, link) ← call.run obsw.board obsw.link
  return { obsw with board := board, link := link }

/-- `obsw_tm_store_dequeue` into a buffer of `bufLen` bytes. -/
def drain (bufLen : Nat) (obsw : Obsw cfg) : Obsw cfg :=
  let (_, _, store) := obsw.link.tm.store.dequeue bufLen
  { obsw with link := { obsw.link with tm := { obsw.link.tm with store := store } } }

/-- The calls of the main loop. The time of a schedule run is what its pointer
leads to when it starts: the on-board time, or a copy of it. -/
inductive Input where
  | uplink (frame : List UInt8)
  | scheduleRun (now : Obt)
  | actionRun
  | monitoringCheck
  | hkTick
  | hkReport (setId : UInt8)
  | application (call : AppCall)
  | advance (dtMs : UInt32)
  | drain (bufLen : Nat)

def step (w : Wiring cfg) (obsw : Obsw cfg) : Input → Option (Obsw cfg)
  | .uplink frame => (feed w .uplink frame obsw).map Prod.snd
  | .scheduleRun now => (scheduleRun w now obsw).map Prod.snd
  | .actionRun => (actionRun w obsw).map Prod.snd
  | .monitoringCheck => monitoringCheck obsw
  | .hkTick => hkTick obsw
  | .hkReport setId => hkReport setId obsw
  | .application call => application call obsw
  | .advance dtMs => some { obsw with
      board := { obsw.board with obt := obsw.board.obt.advance dtMs } }
  | .drain bufLen => some (drain bufLen obsw)

/-- The run of a sequence of calls; `none` is a fault in one of them. -/
def runs (w : Wiring cfg) (inputs : List Input) (obsw : Obsw cfg) : Option (Obsw cfg) :=
  inputs.foldlM (step w) obsw

theorem runs_cons {w : Wiring cfg} {input : Input} {rest : List Input} {obsw middle : Obsw cfg}
    (stepped : step w obsw input = some middle) :
    runs w (input :: rest) obsw = runs w rest middle := by
  unfold runs
  rw [List.foldlM_cons, stepped]
  rfl

theorem runs_append {w : Wiring cfg} {first second : List Input} {obsw middle : Obsw cfg}
    (ran : runs w first obsw = some middle) : runs w (first ++ second) obsw = runs w second middle := by
  unfold runs at *
  rw [List.foldlM_append, ran]
  rfl

/-- The state after start-up: the tables as their init functions leave them, and a
boot configuration of housekeeping. Everything else is arbitrary. -/
structure Booted (obsw : Obsw cfg) : Prop where
  sets : S3.Boot obsw.board.s20.table obsw.board.s3
  schedule : ∃ capacity, obsw.board.s11 = S11.init capacity
  monitoring : ∃ paramCount capacity, obsw.board.s12 = S12.init paramCount capacity
  eventAction : ∃ capacity, obsw.board.s19 = S19.init cfg capacity
  nothingFed : obsw.fed = []
  nothingInvoked : obsw.invoked = []

theorem Booted.sound {obsw : Obsw cfg} (booted : Booted obsw) : Sound obsw.board := by
  obtain ⟨scheduleCapacity, schedule⟩ := booted.schedule
  obtain ⟨paramCount, monitoringCapacity, monitoring⟩ := booted.monitoring
  obtain ⟨actionCapacity, eventAction⟩ := booted.eventAction
  refine ⟨⟨_, booted.sets.represents⟩, ?_, ?_, ?_⟩
  · rw [schedule]
    exact S11.wellFormed_init scheduleCapacity
  · rw [monitoring]
    exact S12.wellFormed_init paramCount monitoringCapacity
  · rw [eventAction]
    exact S19.wellFormed_init cfg actionCapacity

/-- A software that starts with empty tables, in STANDBY with nothing whitelisted. -/
def Obsw.cold (cfg : Config) : Obsw cfg where
  board := {
    s3 := {
      apid := 0
      msgCounter := 0
      timestamp := 0
      sets := []
      setCapacity := 8
      paramPool := some []
      paramPoolLen := 32
      paramTableLen := 0 }
    s5 := {
      apid := 0
      msgCounter := 0
      timestamp := 0
      fsm := true
      safeTriggerIds := []
      calls := [] }
    s6 := {
      apid := 0
      msgCounter := 0
      timestamp := 0
      regions := none
      memory := fun _ => 0 }
    obt := {
      coarse := 0
      fine := 0
      rem := 0 }
    s11 := S11.init 16
    s12 := S12.init 0 16
    s17 := {
      apid := 0
      msgCounter := 0
      timestamp := 0 }
    s19 := S19.init cfg 16
    s20 := {
      apid := 0
      msgCounter := 0
      timestamp := 0
      table := [] }
    fsm := Fsm.init {
      onEnterSafe := false
      onExitSafe := false
      safeTcWhitelist := none
      whitelistLen := 0 }
    appVars := fun _ => 0
    eventAction := true }
  link := {
    ctx := {
      apid := 0
      msgCounter := 0
      timestamp := 0 }
    tm := {
      store := Tm.Store.init cfg
      log := [] } }
  fed := []
  invoked := []

theorem cold_booted (cfg : Config) : Booted (Obsw.cold cfg) where
  sets := {
    arrays := by simp [Obsw.cold]
    idsDistinct := by simp [Obsw.cold]
    fits := by simp [Obsw.cold]
    unused := rfl }
  schedule := ⟨16, rfl⟩
  monitoring := ⟨0, 16, rfl⟩
  eventAction := ⟨16, rfl⟩
  nothingFed := rfl
  nothingInvoked := rfl

theorem default_reportsFit : 23 ≤ Config.default.tmMaxPacketLen := by decide

/-- A dispatcher with one route, the ping. -/
def pingWiring (gated : Bool) : Wiring Config.default where
  routes := [⟨0xFFFF, 17, 1, .s17⟩]
  gated := gated
  functions := []
  reportsFit := default_reportsFit

/-- A PUS packet for APID 16 with less than 250 bytes of user data. -/
def tcFrame (service subservice seqCount : UInt8) (userData : List UInt8) : List UInt8 :=
  [0x18, 0x10, 0xC0, seqCount, 0x00, UInt8.ofNat (userData.length + 4), 0x20, service, subservice,
    0, 0] ++ userData

/-- TC(17,1) without user data. -/
def pingFrame : List UInt8 := tcFrame 17 1 0 []

def pingTc : Tc where
  apid := 0x010
  service := 17
  subservice := 1
  seqCount := 0
  userData := none

/-! ### Steps that feed nothing -/

/-- A step that feeds no packet: it returns, and its changes are about `reached`. -/
def Quiet (reached : Part → Prop) (obsw : Obsw cfg) (result : Option (Obsw cfg)) : Prop :=
  ∃ board link, result = some { obsw with board := board, link := link } ∧
    Changes reached obsw.board board

/-- The effect of a sequence of reports on the board and the S1 link. -/
theorem calledAll_changes (calls : List S5.Call) (board : Board cfg) (link : Link cfg) :
    ∃ after, (board.env link).calledAll board.hook calls =
        after.env { link with tm := ((board.env link).calledAll board.hook calls).tm } ∧
      board.withEnv ((board.env link).calledAll board.hook calls) = after ∧
      after.s5.calls = board.s5.calls ++ calls ∧ Changes (fun part => part = .event) board after := by
  induction calls generalizing board link with
  | nil => exact ⟨board, rfl, rfl, (List.append_nil _).symm, .refl board⟩
  | cons call rest inductionHypothesis =>
      let rc := S5.reportRc call.severity call.eventId call.aux (board.env link)
      let later : Link cfg :=
        link.emitted (S5.request board.s5 call.severity call.eventId call.aux)
      have first : (board.env link).called board.hook call = (board.reported rc call).env later := by
        unfold S5.Env.called S5.reported Board.reported Board.hook
        cases board.eventAction <;> rfl
      have sameHook : (board.reported rc call).hook = board.hook := rfl
      obtain ⟨after, envEq, boardEq, logged, changes⟩ :=
        inductionHypothesis (board.reported rc call) later
      have unfolded : (board.env link).calledAll board.hook (call :: rest) =
          ((board.reported rc call).env later).calledAll (board.reported rc call).hook rest := by
        show S5.Env.calledAll board.hook (S5.Env.called board.hook (board.env link) call) rest = _
        rw [first, sameHook]
      refine ⟨after, ?_, ?_, ?_, ?_⟩
      · rw [unfolded]
        exact envEq
      · rw [unfolded]
        exact boardEq
      · rw [logged]
        show (board.s5.calls ++ [call]) ++ rest = _
        rw [List.append_assoc]
        rfl
      · have heard : Changes (fun part => part = .event) board (board.reported rc call) :=
          .single (.event rc call) rfl
        exact heard.trans changes

/-- A monitoring check makes the reports it notes in its trace, and only these. -/
structure Monitored (obsw : Obsw cfg) (events : List S12.Event) (after : Obsw cfg) : Prop where
  trace : after.board.s12.trace = obsw.board.s12.trace ++ events
  calls : after.board.s5.calls = obsw.board.s5.calls ++ S12.callsOf events
  table : after.board.s12 = obsw.board.s12.afterCheck obsw.board.s20.table
  invoked : after.invoked = obsw.invoked

theorem monitoringCheck_quiet {obsw : Obsw cfg} (sound : Sound obsw.board) :
    Quiet (fun part => part = .event ∨ part = .check) obsw (monitoringCheck obsw) ∧
      ∃ after, monitoringCheck obsw = some after ∧
        Monitored obsw (obsw.board.s12.eventsOfCheck obsw.board.s20.table) after := by
  obtain ⟨env, ran, checked⟩ := S12.check_checked obsw.board.hook obsw.board.s20.table
    sound.monitoring (obsw.board.env obsw.link)
  obtain ⟨board, _, boardEq, logged, changes⟩ := calledAll_changes
    (S12.callsOf (obsw.board.s12.eventsOfCheck obsw.board.s20.table)) obsw.board obsw.link
  rw [← checked.reported] at boardEq
  have result : monitoringCheck obsw = some { obsw with
      board := { board with s12 := obsw.board.s12.afterCheck obsw.board.s20.table }
      link := { obsw.link with tm := env.tm } } := by
    unfold monitoringCheck
    simp only [ran, Option.bind_eq_bind, Option.bind_some, boardEq]
    rfl
  refine ⟨⟨_, _, result, ?_⟩, _, result, checked.trace, logged, rfl, rfl⟩
  exact (changes.mono (fun _ => Or.inl)).trans (.single (.checked _ checked.wellFormed) (.inr rfl))

theorem hkTick_quiet {obsw : Obsw cfg} (sound : Sound obsw.board) :
    Quiet (fun part => part = .sets) obsw (hkTick obsw) := by
  obtain ⟨structures, represents⟩ := sound.sets
  have each : ∀ others, S3.Represents cfg obsw.board.s20.table obsw.board.s3 others →
      ∃ after next, S3.tick obsw.board.hkVariables obsw.board.s3 obsw.link.tm = some (after, next) ∧
        S3.Represents cfg obsw.board.s20.table after (others.map (fun a => a.ticked.2)) := by
    intro others represented
    obtain ⟨after, next, ran, kept, _⟩ :=
      represented.tick obsw.board.hkVariables rfl obsw.link.tm
    exact ⟨after, next, ran, kept⟩
  obtain ⟨s, tm, ran, _⟩ := each structures represents
  refine ⟨{ obsw.board with s3 := s }, { obsw.link with tm := tm }, ?_, .single (.sets s ?_) rfl⟩
  · unfold hkTick
    simp only [ran, Option.bind_eq_bind, Option.bind_some]
    rfl
  · intro others represented
    obtain ⟨after, next, same, kept⟩ := each others represented
    rw [ran] at same
    cases same
    exact ⟨_, kept⟩

theorem hkReport_quiet (setId : UInt8) {obsw : Obsw cfg} (sound : Sound obsw.board) :
    Quiet (fun part => part = .sets) obsw (hkReport setId obsw) := by
  obtain ⟨structures, represents⟩ := sound.sets
  obtain ⟨rc, s, tm, ran, _⟩ :=
    represents.report obsw.board.hkVariables rfl setId obsw.link.tm
  refine ⟨{ obsw.board with s3 := s }, { obsw.link with tm := tm }, ?_, .single (.sets s ?_) rfl⟩
  · unfold hkReport
    simp only [ran, Option.bind_eq_bind, Option.bind_some]
    rfl
  · intro others represented
    obtain ⟨otherRc, after, next, same, kept, _⟩ :=
      represented.report obsw.board.hkVariables rfl setId obsw.link.tm
    rw [ran] at same
    cases same
    exact ⟨_, kept⟩

theorem application_quiet (call : AppCall) (obsw : Obsw cfg) :
    Quiet appPart obsw (application call obsw) := by
  obtain ⟨board, link, ran, changes, _⟩ := call.run_changes obsw.board obsw.link
  refine ⟨board, link, ?_, changes⟩
  unfold application
  rw [ran]
  rfl

/-- The steps that go through the dispatcher. -/
def Input.feeds : Input → Bool
  | .uplink _ | .scheduleRun _ | .actionRun => true
  | .monitoringCheck | .hkTick | .hkReport _ | .application _ | .advance _ | .drain _ => false

/-- The parts that a step reaches without the dispatcher. -/
def Input.reaches : Input → Part → Prop
  | .uplink _, _ | .scheduleRun _, _ | .actionRun, _ | .drain _, _ => False
  | .monitoringCheck, part => part = .event ∨ part = .check
  | .hkTick, part | .hkReport _, part => part = .sets
  | .application _, part => appPart part
  | .advance _, part => part = .clock

theorem step_quiet (w : Wiring cfg) {obsw : Obsw cfg} (sound : Sound obsw.board) {input : Input}
    (silent : input.feeds = false) : Quiet input.reaches obsw (step w obsw input) := by
  cases input with
  | uplink frame => cases silent
  | scheduleRun now => cases silent
  | actionRun => cases silent
  | monitoringCheck => exact (monitoringCheck_quiet sound).1
  | hkTick => exact hkTick_quiet sound
  | hkReport setId => exact hkReport_quiet setId sound
  | application call => exact application_quiet call obsw
  | advance dtMs => exact ⟨_, obsw.link, rfl, .single (.clock _) rfl⟩
  | drain bufLen => exact ⟨obsw.board, _, rfl, .refl _⟩

/-! ### Every step, every run -/

/-- The software when an event-action run has taken its batch. -/
def Obsw.batchTaken (obsw : Obsw cfg) : Obsw cfg :=
  { obsw with board := { obsw.board with s19 := obsw.board.s19.emptied } }

/-- The software when a schedule run at `tNow` has taken an activity out of the table. -/
def Obsw.released (obsw : Obsw cfg) (a : S11.Activity) (tNow : UInt64)
    (rest : List S11.Activity) : Obsw cfg :=
  { obsw with board := { obsw.board with
      s11 := obsw.board.s11.removed a (.released tNow obsw.board.s11.enabled) rest } }

/-- A property that fed packets keep. -/
def FedKeeps (w : Wiring cfg) (P : Obsw cfg → Prop) : Prop :=
  ∀ origin frame obsw after, Sound obsw.board → P obsw → Taken w origin frame obsw after → P after

/-- A property that fed packets keep, and what a schedule run does besides. -/
structure ReleaseInductive (w : Wiring cfg) (P : Obsw cfg → Prop) : Prop where
  taken : FedKeeps w P
  released : ∀ obsw a tNow rest, P obsw → obsw.board.s11.acts.Perm (a :: rest) →
    P (obsw.released a tNow rest)

/-- The same, and what an event-action run does besides. -/
structure FeedInductive (w : Wiring cfg) (P : Obsw cfg → Prop) : Prop extends
    ReleaseInductive w P where
  emptied : ∀ obsw, P obsw → P obsw.batchTaken

/-- A property that everything keeps. -/
structure Inductive (w : Wiring cfg) (P : Obsw cfg → Prop) : Prop where
  taken : FedKeeps w P
  changed : ∀ obsw part board, P obsw → Change obsw.board part board →
    P { obsw with board := board }
  linked : ∀ obsw link, P obsw → P { obsw with link := link }

variable {w : Wiring cfg} {P : Obsw cfg → Prop}

theorem FedKeeps.feed (keeps : FedKeeps w P) (origin : Origin) (frame : List UInt8)
    {obsw : Obsw cfg} (holds : Sound obsw.board ∧ P obsw) :
    ∃ rc after, feed w origin frame obsw = some (rc, after) ∧ Sound after.board ∧ P after := by
  obtain ⟨rc, after, fedEq, taken⟩ := feed_taken w origin frame holds.1
  exact ⟨rc, after, fedEq, taken.sound holds.1,
    keeps origin frame obsw after holds.1 holds.2 taken⟩

/-- What every packet keeps, the dispatch of a batch keeps. -/
theorem FedKeeps.dispatches (keeps : FedKeeps w P) {batch : List UInt16} {obsw after : Obsw cfg}
    {actions : List (List UInt8)}
    (dispatches : S19.Dispatches (Obsw.core.comp Board.events) (System.feed w .eventAction) batch
      obsw actions after) (holds : Sound obsw.board ∧ P obsw) : Sound after.board ∧ P after := by
  induction dispatches with
  | done obsw => exact holds
  | skipped undefined later inductionHypothesis => exact inductionHypothesis holds
  | fed d stored action ran later inductionHypothesis =>
      obtain ⟨rc, middle, fedEq, kept⟩ := keeps.feed .eventAction d.action holds
      rw [ran] at fedEq
      cases fedEq
      exact inductionHypothesis kept

theorem ReleaseInductive.schedule (keeps : ReleaseInductive w P) :
    S11.Closed cfg (Obsw.core.comp Board.schedule) (System.feed w .schedule)
      (fun obsw => Sound obsw.board ∧ P obsw) where
  total pkt _ holds := keeps.taken.feed .schedule pkt holds
  wellFormed _ holds := holds.1.schedule
  released obsw a tNow rest holds perm :=
    ⟨holds.1.change (.release a tNow rest perm), keeps.released obsw a tNow rest holds.2 perm⟩

theorem FeedInductive.events (keeps : FeedInductive w P) :
    S19.Closed (Obsw.core.comp Board.events) (System.feed w .eventAction)
      (fun obsw => Sound obsw.board ∧ P obsw) where
  total pkt _ holds := keeps.taken.feed .eventAction pkt holds
  emptied obsw holds :=
    ⟨holds.1.change (.eventAction _ .taken), keeps.emptied obsw holds.2⟩

theorem FedKeeps.uplink (keeps : FedKeeps w P) (frame : List UInt8) {obsw : Obsw cfg}
    (holds : Sound obsw.board ∧ P obsw) :
    ∃ after, step w obsw (.uplink frame) = some after ∧ Sound after.board ∧ P after := by
  obtain ⟨rc, after, ran, sound, kept⟩ := keeps.feed .uplink frame holds
  exact ⟨after, by simp only [System.step, ran, Option.map_some], sound, kept⟩

theorem ReleaseInductive.scheduleRun (keeps : ReleaseInductive w P) (now : Obt) {obsw : Obsw cfg}
    (holds : Sound obsw.board ∧ P obsw) :
    ∃ after, step w obsw (.scheduleRun now) = some after ∧ Sound after.board ∧ P after := by
  obtain ⟨count, after, ran, sound, kept⟩ := S11.run_closed keeps.schedule now holds
  exact ⟨after, by simp only [System.step, System.scheduleRun, ran, Option.map_some], sound, kept⟩

theorem FeedInductive.step (keeps : FeedInductive w P) {input : Input}
    (feeds : input.feeds = true) {obsw : Obsw cfg} (holds : Sound obsw.board ∧ P obsw) :
    ∃ after, step w obsw input = some after ∧ Sound after.board ∧ P after := by
  cases input with
  | uplink frame => exact keeps.taken.uplink frame holds
  | scheduleRun now => exact keeps.scheduleRun now holds
  | actionRun =>
      obtain ⟨actions, after, ran, ⟨sound, kept⟩, _⟩ := S19.run_dispatches keeps.events holds
      exact ⟨after, by simp only [System.step, actionRun, ran, Option.map_some], sound, kept⟩
  | _ => cases feeds

theorem Inductive.feeding (keeps : Inductive w P) : FeedInductive w P where
  taken := keeps.taken
  released obsw a tNow rest holds perm :=
    keeps.changed obsw .release _ holds (.release a tNow rest perm)
  emptied obsw holds := keeps.changed obsw .eventAction _ holds (.eventAction _ .taken)

theorem Inductive.changes (keeps : Inductive w P) {allowed : Part → Prop} {obsw : Obsw cfg}
    {board : Board cfg} (changes : Changes allowed obsw.board board) (holds : P obsw) :
    P { obsw with board := board } :=
  changes.keeps (P := fun other => P { obsw with board := other })
    (fun part first second _ change before =>
      keeps.changed { obsw with board := first } part second before change) holds

theorem Inductive.step (keeps : Inductive w P) (input : Input) {obsw : Obsw cfg}
    (holds : Sound obsw.board ∧ P obsw) :
    ∃ after, step w obsw input = some after ∧ Sound after.board ∧ P after := by
  cases silent : input.feeds with
  | false =>
      obtain ⟨board, link, ran, changes⟩ := step_quiet w holds.1 silent
      exact ⟨_, ran, holds.1.changes changes,
        keeps.linked { obsw with board := board } link (keeps.changes changes holds.2)⟩
  | true => exact keeps.feeding.step silent holds

/-- A run never faults, its states stay sound, and an inductive property stays. -/
theorem Inductive.runs (keeps : Inductive w P) (inputs : List Input) {obsw : Obsw cfg}
    (holds : Sound obsw.board ∧ P obsw) :
    ∃ after, runs w inputs obsw = some after ∧ Sound after.board ∧ P after := by
  induction inputs generalizing obsw with
  | nil => exact ⟨obsw, rfl, holds⟩
  | cons input rest inductionHypothesis =>
      obtain ⟨middle, stepped, middleHolds⟩ := keeps.step input holds
      obtain ⟨after, ran, afterHolds⟩ := inductionHypothesis middleHolds
      exact ⟨after, (runs_cons stepped).trans ran, afterHolds⟩

/-- Where every step is lawful, a run is a history of lawful steps. -/
theorem runs_lawful {Law : Input → Obsw cfg → Obsw cfg → Prop}
    (each : ∀ input (obsw : Obsw cfg), Sound obsw.board →
      ∃ after, step w obsw input = some after ∧ Sound after.board ∧ Law input obsw after)
    (inputs : List Input) {obsw : Obsw cfg} (sound : Sound obsw.board) :
    ∃ reached, runs w inputs obsw = some reached ∧ Sound reached.board ∧
      Run (fun before input after => step w before input = some after ∧ Law input before after)
        obsw inputs reached := by
  induction inputs generalizing obsw with
  | nil => exact ⟨obsw, rfl, sound, .done obsw⟩
  | cons input rest inductionHypothesis =>
      obtain ⟨middle, stepped, middleSound, lawful⟩ := each input obsw sound
      obtain ⟨reached, ran, reachedSound, history⟩ := inductionHypothesis middleSound
      exact ⟨reached, (runs_cons stepped).trans ran, reachedSound, .next ⟨stepped, lawful⟩ history⟩

/-- Everything that happens is a sequence of elementary changes. -/
theorem inductive_changes (w : Wiring cfg) (start : Board cfg) :
    Inductive w (fun obsw => Changes (fun _ => True) start obsw.board) where
  taken := by
    intro origin frame obsw after _ before taken
    rcases taken.changes with same | ⟨tc, _, changes⟩
    · rw [same]
      exact before
    · exact before.trans (changes.mono (fun _ _ => trivial))
  changed obsw part board before change := before.trans (.single change trivial)
  linked _ _ before := before

/-- Every run from a boot state ends in a sound state, by elementary changes. -/
theorem runs_sound (w : Wiring cfg) (inputs : List Input) {obsw : Obsw cfg}
    (booted : Booted obsw) :
    ∃ after, runs w inputs obsw = some after ∧ Sound after.board ∧
      Changes (fun _ => True) obsw.board after.board :=
  (inductive_changes w obsw.board).runs inputs ⟨booted.sound, .refl _⟩

end Openobsw.System
