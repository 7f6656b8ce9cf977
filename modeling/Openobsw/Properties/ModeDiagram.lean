import Openobsw.System.HostFrames
import Openobsw.Task.Mode

/-!
Owns the mode diagram against the two reference builds: the Mode Manager never leaves
it, and the host simulation leaves it exactly where function 1 is called in STANDBY.
-/

namespace Openobsw.HostSim

open Openobsw.Fdir Openobsw.Lib Openobsw.Pus Openobsw.System Openobsw.Task

/-! ### The diagram -/

/-- An edge of the mode diagram: into STANDBY, into SAFE, or from SAFE to NOMINAL. -/
def Edge (change : Mode × Mode) : Prop :=
  change.2 = .standby ∨ change.2 = .safe ∨ change = (.safe, .nominal)

theorem edge_toSafe (fsm : Fsm) : ∀ change ∈ fsm.change fsm.toSafe, Edge change := by
  intro change member
  unfold Fsm.change at member
  split at member
  · cases member
  · rw [List.mem_singleton.mp member]
    exact .inr (.inl (Fsm.toSafe_mode fsm))

theorem edge_toStandby (fsm : Fsm) : ∀ change ∈ fsm.change fsm.toStandby, Edge change := by
  intro change member
  unfold Fsm.change at member
  split at member
  · cases member
  · rw [List.mem_singleton.mp member]
    exact .inl (Fsm.toStandby_mode fsm)

theorem change_self (fsm : Fsm) : fsm.change fsm = [] := if_pos rfl

/-- The command to NOMINAL follows an edge unless it is given in STANDBY. -/
theorem edge_toNominal_iff (fsm : Fsm) :
    (∀ change ∈ fsm.change fsm.toNominal, Edge change) ↔ fsm.mode ≠ .standby := by
  unfold Fsm.change
  rw [Fsm.toNominal_mode]
  cases fsm.mode <;> simp [Edge]

/-! ### The Mode Manager -/

theorem edge_processRequests (task : ModeTask) :
    ∀ change ∈ task.fsm.change task.processRequests.fsm, Edge change := by
  unfold ModeTask.processRequests
  split
  · exact edge_toSafe task.fsm
  split
  · exact edge_toStandby task.fsm
  split
  · -- the request for NOMINAL is granted in SAFE alone
    by_cases safe : task.fsm.mode = .safe
    · simp only [if_pos safe]
      exact (edge_toNominal_iff task.fsm).mpr (by simp [safe])
    · simp [if_neg safe, change_self]
  · simp [change_self]

theorem edge_autoTransition (task : ModeTask) :
    ∀ change ∈ task.fsm.change task.autoTransition.fsm, Edge change := by
  unfold ModeTask.autoTransition
  split
  · simp only
    split
    · exact edge_toSafe task.fsm
    · simp [change_self]
  · simp [change_self]

theorem edge_changes {cfg : Config} (action : ModeAction cfg) (task : ModeTask) :
    ∀ change ∈ action.changes task, Edge change := by
  cases action with
  | tick =>
      exact List.forall_mem_append.mpr
        ⟨edge_processRequests task, edge_autoTransition task.processRequests⟩
  | directSafe => exact edge_toSafe task.fsm
  | _ => simp [ModeAction.changes]

/-- Every run of the Mode Manager keeps to the diagram. -/
theorem edge_history {cfg : Config} (actions : List (ModeAction cfg)) (task : ModeTask) :
    ∀ change ∈ ModeAction.history actions task, Edge change := by
  induction actions generalizing task with
  | nil => simp [ModeAction.history]
  | cons action rest inductionHypothesis =>
      exact List.forall_mem_append.mpr
        ⟨edge_changes action task, inductionHypothesis (action.effect task)⟩

/-! ### One moment of the host simulation -/

/-- Without a command of the mode machine only the coupling of events reaches it. -/
theorem fsm_coupled {cfg : Config} {allowed : Part → Prop} {board after : Board cfg}
    (noMode : ¬ allowed .mode) (changes : Changes allowed board after) :
    after.fsm = board.fsm ∨ after.fsm = board.fsm.toSafe := by
  apply changes.keeps (P := fun other =>
    other.fsm = board.fsm ∨ other.fsm = board.fsm.toSafe) _ (.inl rfl)
  intro part first second permitted change before
  cases change with
  | mode fsm sameConfig => exact absurd permitted noMode
  | event rc call =>
      have again : board.fsm.toSafe.toSafe = board.fsm.toSafe := if_pos (Fsm.toSafe_mode board.fsm)
      rcases S5.couple_cases rc call.severity call.eventId first.s5 first.fsm with same | safe
      · exact before.imp same.trans same.trans
      · right
        rcases before with unchanged | entered
        · exact safe.trans (congrArg Fsm.toSafe unchanged)
        · exact safe.trans ((congrArg Fsm.toSafe entered).trans again)
  | _ => exact before

theorem quiet_fsm {cfg : Config} {reached : Part → Prop} {before after : Obsw cfg}
    {result : Option (Obsw cfg)} (quiet : Quiet reached before result)
    (ran : result = some after) (noMode : ¬ reached .mode) :
    after.board.fsm = before.board.fsm ∨ after.board.fsm = before.board.fsm.toSafe := by
  obtain ⟨board, link, same, changes⟩ := quiet
  rw [ran] at same
  cases same
  exact fsm_coupled noMode changes

theorem Handler.not_mode {handler : Handler} (other : handler ≠ .s8) :
    ¬ handler.mayChange .mode := by
  cases handler <;> simp_all [Handler.mayChange]

/-- Whether the mode machine was commanded to NOMINAL, or else what can have happened. -/
inductive Commanded (recover : Prop) (before after : Fsm) : Prop
  | nominal (asked : recover) (same : after = before.toNominal)
  | other (unasked : ¬ recover)
      (result : after = before ∨ after = before.toSafe ∨ after = before.toStandby)

/-- A TC(8,1) for function 1. -/
def RecoverTc (frame : List UInt8) : Prop :=
  ∃ tc, tcParse frame = some (some tc) ∧ tc.service = 8 ∧ tc.subservice = 1 ∧
    S8.functionIdOf tc = some 1

def entries : List (S8.Entry cfg (Board cfg)) := wiring.functions.map Function.entry

/-- The function that a TC(8,1) calls gives one command to the mode machine. -/
theorem called_fsm {tc : Tc} {entry : S8.Entry cfg (Board cfg)}
    (called : S8.calledEntry entries tc = some entry) (args : List UInt8) (board : Board cfg)
    (link : S1.Link cfg) :
    ∃ fsm, entry.fn args board link = some (0, { board with fsm := fsm }, link) ∧
      Commanded (S8.functionIdOf tc = some 1) board.fsm fsm := by
  obtain ⟨fnId, named, found⟩ := Option.bind_eq_some_iff.mp called
  have listedAs : entries.find? (fun other => other.functionId == fnId) = some entry := found
  have matched := List.find?_some listedAs
  rw [beq_iff_eq] at matched
  obtain ⟨function, listed, rfl⟩ := List.mem_map.mp (List.mem_of_find?_eq_some listedAs)
  rw [named, ← matched]
  rcases List.mem_cons.mp listed with recover | others
  · rw [recover]
    exact ⟨board.fsm.toNominal, rfl, .nominal rfl rfl⟩
  · rcases List.mem_cons.mp others with safe | last
    · rw [safe]
      exact ⟨board.fsm.toSafe, rfl, .other (by decide) (.inr (.inl rfl))⟩
    · rw [List.mem_singleton.mp last]
      exact ⟨board.fsm.toStandby, rfl, .other (by decide) (.inr (.inr rfl))⟩

theorem recover_called {tc : Tc} (named : S8.functionIdOf tc = some 1) :
    S8.calledEntry entries tc = some fnRecoverNominal.entry := by
  unfold S8.calledEntry
  rw [named]
  rfl

theorem perform_fsm (tc : Tc) (board : Board cfg) (link : S1.Link cfg) :
    ∃ rc after later, S8.perform entries tc board link = some (rc, after, later) ∧
      Commanded (S8.functionIdOf tc = some 1) board.fsm after.fsm := by
  rcases S8.perform_calls entries tc board link with
    ⟨uncalled, code, _, rejected⟩ | ⟨entry, args, called, performed⟩
  · refine ⟨_, _, _, rejected, .other ?_ (.inl rfl)⟩
    intro named
    rw [recover_called named] at uncalled
    cases uncalled
  · obtain ⟨fsm, ran, commanded⟩ := called_fsm called args board (link.accepted tc)
    rw [S8.call_eq ran, if_pos rfl] at performed
    exact ⟨_, _, _, performed, commanded⟩

/-- The routes and the whitelist let a TC(8,1) reach the function table in every mode. -/
theorem recover_admitted {tc : Tc} (service : tc.service = 8) (subservice : tc.subservice = 1)
    {board : Board cfg} (config : board.fsm.config = fsmConfig) : wiring.Admits tc board := by
  intro _
  by_cases nominal : board.fsm.mode = .nominal
  · exact if_pos nominal
  · rw [Fsm.tcAllowed_iff nominal, config, service, subservice]
    exact ⟨Srdb.Mission.safeTcWhitelist, rfl, by decide⟩

theorem recover_routed {tc : Tc} (service : tc.service = 8) (subservice : tc.subservice = 1) :
    wiring.Takes tc ⟨0xFFFF, 8, 1, .s8⟩ := by
  refine ⟨by decide, ?_, subservice.symm⟩
  unfold Route.matchesService RouteEntry.route
  rw [service]
  simp

theorem s8_route {entry : RouteEntry} (listed : entry ∈ routes) :
    entry.handler = .s8 ↔ entry.service = 8 ∧ entry.subservice = 1 := by
  revert entry
  decide

theorem fed_fsm {origin : Origin} {frame : List UInt8} {before after : Obsw cfg} {rc : TcRc}
    (steady : Steady before.board) (config : before.board.fsm.config = fsmConfig)
    (ran : System.feed wiring origin frame before = some (rc, after)) :
    Commanded (RecoverTc frame) before.board.fsm after.board.fsm := by
  have result := feed_result wiring origin frame before
  rw [ran] at result
  generalize sameOut : some (rc, after) = out at result
  cases result with
  | dropped parsed =>
      cases sameOut
      refine .other ?_ (.inl rfl)
      rintro ⟨tc, other, _⟩
      rw [parsed] at other
      cases other
  | gated tc parsed refused =>
      cases sameOut
      refine .other ?_ (.inl rfl)
      rintro ⟨other, otherParsed, service, subservice, _⟩
      rw [parsed] at otherParsed
      cases otherParsed
      exact refused (recover_admitted service subservice config)
  | unrouted tc parsed admitted missing =>
      cases sameOut
      refine .other ?_ (.inl rfl)
      rintro ⟨other, otherParsed, service, subservice, _⟩
      rw [parsed] at otherParsed
      cases otherParsed
      exact missing _ (recover_routed service subservice)
  | handled tc parsed admitted entry takes =>
      have only : RecoverTc frame ↔ entry.handler = .s8 ∧ S8.functionIdOf tc = some 1 := by
        have sameService : entry.service = tc.service := Route.service_of_matches takes.2.1
        rw [s8_route takes.1, sameService, takes.2.2]
        constructor
        · rintro ⟨other, otherParsed, service, subservice, named⟩
          rw [parsed] at otherParsed
          cases otherParsed
          exact ⟨⟨service, subservice⟩, named⟩
        · rintro ⟨⟨service, subservice⟩, named⟩
          exact ⟨tc, parsed, service, subservice, named⟩
      by_cases function : entry.handler = .s8
      · obtain ⟨code, board, later, performed, commanded⟩ :=
          perform_fsm tc before.board before.link
        have handled : entry.handler.handle wiring.functions tc before.board before.link =
            some (code, board, later) := by
          rw [function]
          exact performed
        unfold Handler.invoke at sameOut
        simp only [handled, Option.bind_eq_bind, Option.bind_some] at sameOut
        cases sameOut
        cases commanded with
        | nominal named same => exact .nominal (only.mpr ⟨function, named⟩) same
        | other unnamed result => exact .other (fun asked => unnamed (only.mp asked).2) result
      · obtain ⟨code, board, later, _, handled, _, changes, _⟩ :=
          entry.handler.handle_steady ready steady tc before.link
        unfold Handler.invoke at sameOut
        simp only [handled, Option.bind_eq_bind, Option.bind_some] at sameOut
        cases sameOut
        have coupled := fsm_coupled (Handler.not_mode function) changes
        exact .other (fun asked => function (only.mp asked).1)
          (coupled.imp_right Or.inl)

/-! ### Every run -/

namespace Moment

/-- The moment is a TC(8,1) for function 1. -/
def Recovers : Moment → Prop
  | .fed _ frame _ _ => RecoverTc frame
  | .checked _ _ => False
  | .ticked _ _ => False

/-- Function 1 is called in STANDBY. -/
def SkipsSafe (moment : Moment) : Prop :=
  moment.Recovers ∧ moment.before.board.fsm.mode = .standby

theorem fsm {moment : Moment} (steady : Steady moment.before.board) (ran : moment.Ran)
    (config : moment.before.board.fsm.config = fsmConfig) :
    Commanded moment.Recovers moment.before.board.fsm moment.after.board.fsm := by
  cases moment with
  | fed origin frame before after =>
      obtain ⟨rc, fed⟩ := ran
      exact fed_fsm steady config fed
  | checked before after =>
      have coupled := quiet_fsm (monitoringCheck_quiet steady.sound).1 ran (by simp)
      exact .other id (coupled.imp_right Or.inl)
  | ticked before after =>
      have coupled := quiet_fsm (hkTick_quiet steady.sound) ran (by simp)
      exact .other id (coupled.imp_right Or.inl)

end Moment

namespace Commanded

variable {recover : Prop} {before after : Fsm}

theorem config (commanded : Commanded recover before after) : after.config = before.config := by
  cases commanded with
  | nominal asked same => rw [same, Fsm.toNominal_config]
  | other unasked result =>
      rcases result with same | safe | standby
      · rw [same]
      · rw [safe, Fsm.toSafe_config]
      · rw [standby, Fsm.toStandby_config]

/-- A command leaves the diagram when it is for NOMINAL and given in STANDBY. -/
theorem edge_iff (commanded : Commanded recover before after) :
    (∀ change ∈ before.change after, Edge change) ↔ ¬ (recover ∧ before.mode = .standby) := by
  cases commanded with
  | nominal asked same =>
      rw [same, edge_toNominal_iff]
      simp [asked]
  | other unasked result =>
      have always : ∀ change ∈ before.change after, Edge change := by
        rcases result with same | safe | standby
        · rw [same, change_self]
          simp
        · rw [safe]
          exact edge_toSafe before
        · rw [standby]
          exact edge_toStandby before
      exact iff_of_true always (fun both => unasked both.1)

end Commanded

/-- The whitelist is the one of the boot configuration throughout. -/
theorem Passes.config {moments : List Moment} {fsm : Fsm}
    (passes : Passes bootBoard.fsm moments fsm)
    (ran : ∀ moment ∈ moments, Steady moment.before.board ∧ moment.Ran) :
    fsm.config = fsmConfig ∧
      ∀ moment ∈ moments, moment.before.board.fsm.config = fsmConfig := by
  induction passes with
  | boot => exact ⟨Fsm.toSafe_config _, by simp⟩
  | moment next rest inductionHypothesis =>
      obtain ⟨before, others⟩ := inductionHypothesis
        (fun moment member => ran moment (List.mem_append_left _ member))
      obtain ⟨steady, nextRan⟩ := ran next (by simp)
      refine ⟨(Moment.fsm steady nextRan before).config.trans before, ?_⟩
      intro moment member
      rcases List.mem_append.mp member with earlier | last
      · exact others moment earlier
      · rw [List.mem_singleton.mp last]
        exact before

/-- The changes of mode over a sequence of moments, oldest first. -/
def modeChanges (moments : List Moment) : List (Mode × Mode) :=
  moments.flatMap (fun moment => moment.before.board.fsm.change moment.after.board.fsm)

theorem edges_iff {sim : Sim} (traced : Traced sim) :
    (∀ change ∈ modeChanges sim.moments, Edge change) ↔
      ∀ moment ∈ sim.moments, ¬ moment.SkipsSafe := by
  have configs := (traced.passes.config traced.ran).2
  have each : ∀ moment ∈ sim.moments,
      (∀ change ∈ moment.before.board.fsm.change moment.after.board.fsm, Edge change) ↔
        ¬ moment.SkipsSafe := by
    intro moment member
    obtain ⟨steady, ran⟩ := traced.ran moment member
    exact (Moment.fsm steady ran (configs moment member)).edge_iff
  constructor
  · intro edges moment member
    apply (each moment member).mp
    intro change made
    exact edges change (List.mem_flatMap.mpr ⟨moment, member, made⟩)
  · intro kept change made
    obtain ⟨moment, member, within⟩ := List.mem_flatMap.mp made
    exact (each moment member).mpr (kept moment member) change within

/-- Every run of the Mode Manager keeps to the mode diagram. A run of the host
simulation keeps to it exactly if function 1 is never called in STANDBY; in between
the calls of a frame the mode machine rests. -/
theorem nominal_entered_from_safe (build : Config) (tm : Port build)
    (actions : List (ModeAction build)) (frames : List Frame) :
    ((∃ later, ModeState.run actions (ModeState.start tm) =
        some { task := ModeAction.effects actions ModeTask.init, tm := later }) ∧
      ∀ change ∈ ModeAction.history actions ModeTask.init, Edge change) ∧
    ∃ sim, Sim.run frames boot = some sim ∧
      Passes bootBoard.fsm sim.moments sim.obsw.board.fsm ∧
      ((∀ change ∈ modeChanges sim.moments, Edge change) ↔
        ∀ moment ∈ sim.moments, ¬ moment.SkipsSafe) := by
  constructor
  · exact ⟨ModeState.run_eq actions rfl, edge_history actions ModeTask.init⟩
  · obtain ⟨sim, ran, idle⟩ := run_idle frames boot_idle
    exact ⟨sim, ran, idle.traced.passes, edges_iff idle.traced⟩

/-- TC(8,1) for function 3, then for function 1. -/
def skippingFrames : List Frame :=
  [.tc (tcFrame 8 1 0 [0, 3, 0]), .tc (tcFrame 8 1 1 [0, 1, 0])]

theorem skippingFrames_changes :
    (Sim.run skippingFrames boot).map (fun sim => modeChanges sim.moments) =
      some [(.safe, .standby), (.standby, .nominal)] := by
  decide +kernel

/-- Ground commands STANDBY and then NOMINAL: the host simulation enters NOMINAL
without passing SAFE. -/
theorem nominal_entered_from_standby :
    ¬ ∀ frames sim, Sim.run frames boot = some sim →
      ∀ change ∈ modeChanges sim.moments, Edge change := by
  intro always
  obtain ⟨sim, ran, changes⟩ := Option.map_eq_some_iff.mp skippingFrames_changes
  have edge := always skippingFrames sim ran (.standby, .nominal) (by rw [changes]; simp)
  simp [Edge] at edge

end Openobsw.HostSim
