import Openobsw.Properties.Schedule
import Openobsw.System.HostSim

/-!
Owns what the calls of a frame of the host simulation do to it: the moments, the TMs
that each of them asks for, and the packets that the schedule and event-action feed.
-/

namespace Openobsw.HostSim

open Openobsw.Fdir Openobsw.Lib Openobsw.Pus Openobsw.Srdb Openobsw.System Openobsw.Tm

/-! ### The boot state -/

theorem limits : Limits cfg where
  atLeast := by decide
  atMost := by decide

theorem quiet_functions : ∀ function ∈ wiring.functions, function.Quiet := by
  intro function listed
  rcases List.mem_cons.mp listed with recover | others
  · rw [recover]
    exact Function.quiet_of_calls _ (fun _ _ _ => rfl) (by decide)
  · rcases List.mem_cons.mp others with safe | last
    · rw [safe]
      exact Function.quiet_of_calls _ (fun _ _ _ => rfl) (by decide)
    · rw [List.mem_singleton.mp last]
      exact Function.quiet_of_calls _ (fun _ _ _ => rfl) (by decide)

theorem ready : wiring.Ready where
  limits := limits
  quiet := quiet_functions
  distinct := by decide

/-- The parameters of a boot-time set. -/
def BootSet.array (boot : BootSet) : List S3.Param :=
  match boot.bound.params with
  | .boot params => params
  | .pool _ => []

/-- The boot-time sets read variables of the simulation, not values of the S20 table. -/
theorem bound_params : ∀ boot ∈ bootSets,
    boot.bound.params = .boot boot.array ∧
      boot.bound.paramCount.toNat ≤ boot.array.length ∧
      ∀ p ∈ boot.array, p.ptr ∈ (boot.vars.map (fun var => S3.VarPtr.app var.ctorIdx)) := by
  decide

theorem boot_sets : S3.Boot bootBoard.s20.table bootBoard.s3 where
  arrays := by
    intro set member
    obtain ⟨boot, listed, rfl⟩ := List.mem_map.mp member
    obtain ⟨pointer, bounded, own⟩ := bound_params boot listed
    refine ⟨boot.array, pointer, bounded, ?_⟩
    intro p inArray index points
    obtain ⟨var, _, named⟩ := List.mem_map.mp (own p inArray)
    rw [points] at named
    cases named
  idsDistinct := by decide
  fits := by decide
  unused := rfl

theorem boot_booted : Booted boot.obsw where
  sets := boot_sets
  schedule := ⟨8, rfl⟩
  monitoring := ⟨20, 16, rfl⟩
  eventAction := ⟨8, rfl⟩
  nothingFed := rfl
  nothingInvoked := rfl

theorem boot_compact : ∀ set ∈ bootBoard.s3.sets, set.bootStructure.Compact cfg := by
  unfold S3.Structure.Compact
  decide

theorem boot_steady : Steady boot.obsw.board := boot_booted.steady boot_compact

/-! ### Moments -/

namespace Moment

def before : Moment → Obsw cfg
  | .fed _ _ before _ => before
  | .checked before _ => before
  | .ticked before _ => before

def after : Moment → Obsw cfg
  | .fed _ _ _ after => after
  | .checked _ after => after
  | .ticked _ after => after

/-- The call of the moment, on the state before it, ends in the state after it. -/
def Ran : Moment → Prop
  | .fed origin frame before after => ∃ rc, System.feed wiring origin frame before = some (rc, after)
  | .checked before after => monitoringCheck before = some after
  | .ticked before after => hkTick before = some after

/-- The TMs that the call of the moment asks for, by the state before it. -/
def demand : Moment → Nat
  | .fed _ frame before _ => wiring.demand frame before
  | .checked before _ => before.checkDemand
  | .ticked before _ => before.board.s3.dueSets

end Moment

def load (moments : List Moment) : Nat := (moments.map Moment.demand).sum

theorem load_append (front back : List Moment) : load (front ++ back) = load front + load back := by
  simp [load]

/-- The mode machine goes through the moments and rests in between. -/
inductive Passes (first : Fsm) : List Moment → Fsm → Prop
  | boot : Passes first [] first
  | moment {moments : List Moment} (next : Moment) (rest : Passes first moments next.before.board.fsm) :
      Passes first (moments ++ [next]) next.after.board.fsm

/-- What holds of the simulation between any two calls. -/
structure Traced (sim : Sim) : Prop where
  steady : Steady sim.obsw.board
  sized : SameSize bootBoard sim.obsw.board
  ran : ∀ moment ∈ sim.moments, Steady moment.before.board ∧ moment.Ran
  passes : Passes bootBoard.fsm sim.moments sim.obsw.board.fsm

/-- What the calls of a frame have done so far: nothing is written yet, and the TMs they
asked for were built. -/
structure Progress (start sim : Sim) (moments : List Moment) (requests : List TmRequest) : Prop where
  traced : Traced sim
  output : sim.output = start.output
  trace : sim.moments = start.moments ++ moments
  port : sim.obsw.link.tm = start.obsw.link.tm.afterAll requests
  fits : ∀ request ∈ requests, request.Fits cfg
  count : requests.length = load moments

namespace Progress

variable {start sim : Sim} {moments : List Moment} {requests : List TmRequest}

theorem refl (traced : Traced start) : Progress start start [] [] where
  traced := traced
  output := rfl
  trace := (List.append_nil _).symm
  port := rfl
  fits := by simp
  count := rfl

/-- One more call. -/
theorem next (progress : Progress start sim moments requests) (moment : Moment)
    (begins : moment.before = sim.obsw) (ran : moment.Ran) (steady : Steady moment.after.board)
    (sized : SameSize moment.before.board moment.after.board)
    {more : List TmRequest} (sends : Sends more moment.before.board moment.after.board
      moment.before.link moment.after.link) (count : more.length = moment.demand) :
    Progress start { sim with obsw := moment.after, moments := sim.moments ++ [moment] }
      (moments ++ [moment]) (requests ++ more) where
  traced := {
    steady := steady
    sized := progress.traced.sized.trans (begins ▸ sized)
    ran := by
      intro other member
      rcases List.mem_append.mp member with earlier | last
      · exact progress.traced.ran other earlier
      · rw [List.mem_singleton.mp last, begins]
        exact ⟨progress.traced.steady, ran⟩
    passes := .moment moment (begins ▸ progress.traced.passes) }
  output := progress.output
  trace := by
    rw [← List.append_assoc, ← progress.trace]
  port := by
    show moment.after.link.tm = _
    rw [sends.port, begins, progress.port, afterAll_append]
  fits := List.forall_mem_append.mpr ⟨progress.fits, sends.fits⟩
  count := by
    rw [List.length_append, load_append, progress.count, count]
    rfl

/-- A change between the calls, which leaves the mode machine alone. -/
theorem between (progress : Progress start sim moments requests) {board : Board cfg}
    (steady : Steady board) (sized : SameSize sim.obsw.board board)
    (sameFsm : board.fsm = sim.obsw.board.fsm) :
    Progress start (Sim.core.set board sim) moments requests where
  traced := {
    steady := steady
    sized := progress.traced.sized.trans sized
    ran := progress.traced.ran
    passes := by
      show Passes _ _ board.fsm
      rw [sameFsm]
      exact progress.traced.passes }
  output := progress.output
  trace := progress.trace
  port := progress.port
  fits := progress.fits
  count := progress.count

end Progress

/-! ### Fed packets -/

/-- The packets that were fed in the moments. -/
def framesOf (moments : List Moment) : List (List UInt8) :=
  moments.filterMap (fun moment =>
    match moment with
    | .fed _ frame _ _ => some frame
    | .checked _ _ => none
    | .ticked _ _ => none)

theorem framesOf_append (front back : List Moment) :
    framesOf (front ++ back) = framesOf front ++ framesOf back :=
  List.filterMap_append

/-- The state is reached from `start` by feeding packets: each is answered with three
TMs at most, and no event is queued. -/
structure Feeding (start sim : Sim) (moments : List Moment) : Prop where
  progress : ∃ requests, Progress start sim moments requests
  light : load moments ≤ 3 * (framesOf moments).length
  queue : sim.obsw.board.s19.queue.length ≤ start.obsw.board.s19.queue.length

namespace Feeding

variable {start sim : Sim} {moments : List Moment}

theorem refl (traced : Traced start) : Feeding start start [] where
  progress := ⟨[], .refl traced⟩
  light := Nat.le_refl 0
  queue := Nat.le_refl _

theorem steady (feeding : Feeding start sim moments) : Steady sim.obsw.board := by
  obtain ⟨requests, progress⟩ := feeding.progress
  exact progress.traced.steady

theorem frames (feeding : Feeding start sim moments) :
    framesOf sim.moments = framesOf start.moments ++ framesOf moments := by
  obtain ⟨requests, progress⟩ := feeding.progress
  rw [progress.trace, framesOf_append]

theorem feed (feeding : Feeding start sim moments) (origin : Origin) (frame : List UInt8) :
    ∃ rc after moment, sim.feed origin frame = some (rc, after) ∧
      Feeding start after (moments ++ [moment]) ∧
      framesOf after.moments = framesOf sim.moments ++ [frame] := by
  obtain ⟨requests, progress⟩ := feeding.progress
  obtain ⟨rc, after, more, ran, steady, sends, count, contained⟩ :=
    feed_sends ready origin frame progress.traced.steady
  let moment : Moment := .fed origin frame sim.obsw after
  have next := progress.next moment rfl ⟨rc, ran⟩ steady contained.sized sends count
  refine ⟨rc, { sim with obsw := after, moments := sim.moments ++ [moment] }, moment, ?_,
    ⟨⟨_, next⟩, ?_, contained.queue.trans feeding.queue⟩, framesOf_append sim.moments [moment]⟩
  · unfold Sim.feed
    rw [ran]
    rfl
  · have light := feeding.light
    have own : load [moment] ≤ 3 := wiring.demand_le frame sim.obsw
    rw [load_append, framesOf_append, List.length_append]
    show _ ≤ 3 * (_ + 1)
    omega

theorem between (feeding : Feeding start sim moments) {board : Board cfg} (steady : Steady board)
    (sized : SameSize sim.obsw.board board) (sameFsm : board.fsm = sim.obsw.board.fsm)
    (queue : board.s19.queue.length ≤ sim.obsw.board.s19.queue.length) :
    Feeding start (Sim.core.set board sim) moments := by
  obtain ⟨requests, progress⟩ := feeding.progress
  exact ⟨⟨requests, progress.between steady sized sameFsm⟩, feeding.light,
    queue.trans feeding.queue⟩

end Feeding

theorem feed_obsw {origin : Origin} {frame : List UInt8} {sim after : Sim} {rc : TcRc}
    (ran : sim.feed origin frame = some (rc, after)) :
    System.feed wiring origin frame sim.obsw = some (rc, after.obsw) := by
  unfold Sim.feed at ran
  obtain ⟨reply, fed, ran⟩ := Option.bind_eq_some_iff.mp ran
  cases ran
  exact fed

theorem confines : wiring.ConfinesSchedule := by
  have each : ∀ entry ∈ routes, entry.service ≠ 11 →
      ∀ command ∈ [S11.Command.insert, .delete, .deleteAll, .enable, .disable],
        entry.handler ≠ .s11 command := by
    decide
  intro entry listed command routed
  by_contra foreign
  exact each entry listed foreign command (by cases command <;> simp) routed

/-- The release loop feeds the dispatcher of the simulation. -/
theorem schedule_feeder (start : Sim) :
    S11.Feeder cfg (Sim.core.comp Board.schedule) (Sim.feed .schedule)
      (fun sim => ∃ moments, Feeding start sim moments) (fun sim => framesOf sim.moments) where
  total := by
    intro pkt sim safe
    obtain ⟨moments, feeding⟩ := safe
    obtain ⟨rc, after, moment, ran, fed, frames⟩ := feeding.feed .schedule pkt
    exact ⟨rc, after, ran, ⟨_, fed⟩, frames⟩
  frame := by
    intro pkt service sim rc after safe checked foreign ran
    obtain ⟨moments, feeding⟩ := safe
    exact (scheduleFeeder confines).frame pkt service sim.obsw rc after.obsw feeding.steady.sound
      checked foreign (feed_obsw ran)
  replace := by
    intro s sim safe wf
    obtain ⟨moments, feeding⟩ := safe
    have sound := feeding.steady.sound
    exact ⟨moments, feeding.between
      ⟨⟨sound.sets, wf, sound.monitoring, sound.eventAction⟩, feeding.steady.fitted⟩ ⟨rfl, rfl⟩ rfl
      (Nat.le_refl _)⟩
  kept _ _ := rfl

/-- The activities that a schedule run would release now. -/
def dueActivities (sim : Sim) : Nat :=
  if sim.obsw.board.s11.enabled then
    (sim.obsw.board.s11.acts.filter
      (S11.due (S11.tagKey sim.obsw.board.obt.coarse sim.obsw.board.obt.fine))).length
  else 0

theorem released_length {tNow : UInt64} {acts released rest : List S11.Activity}
    (releases : S11.Releases tNow acts released rest) :
    released.length = (acts.filter (S11.due tNow)).length := by
  have kept : rest.filter (S11.due tNow) = [] := by
    apply List.filter_eq_nil_iff.mpr
    intro a member
    simp [releases.notDue a member]
  have same := (releases.perm.filter (S11.due tNow)).length_eq
  rw [List.filter_append, List.filter_eq_self.mpr releases.wasDue, kept, List.append_nil] at same
  exact same.symm

theorem schedule_feeding {start : Sim} (traced : Traced start) :
    ∃ released after moments,
      S11.run cfg (Sim.core.comp Board.schedule) (Sim.feed .schedule) start.obsw.board.obt start =
          some (released, after) ∧
        Feeding start after moments ∧ (framesOf moments).length = dueActivities start := by
  have feeding := Feeding.refl traced
  cases enabled : start.obsw.board.s11.enabled with
  | false =>
      refine ⟨0, start, [], S11.run_disabled _ enabled, feeding, ?_⟩
      unfold dueActivities
      rw [enabled]
      rfl
  | true =>
      obtain ⟨released, rest, after, ran, law⟩ := S11.run_ran (schedule_feeder start)
        start.obsw.board.obt ⟨[], feeding⟩ traced.steady.sound.schedule enabled
      obtain ⟨moments, fed⟩ := law.safe
      have packets := law.packets
      rw [fed.frames] at packets
      refine ⟨released.length, after, moments, ran, fed, ?_⟩
      rw [List.append_cancel_left packets, List.length_map, released_length law.releases]
      unfold dueActivities
      rw [enabled]
      rfl

theorem actions_closed (start : Sim) :
    S19.Closed (Sim.core.comp Board.events) (Sim.feed .eventAction)
      (fun sim => ∃ moments, Feeding start sim moments) where
  total := by
    intro pkt sim safe
    obtain ⟨moments, feeding⟩ := safe
    obtain ⟨rc, after, moment, ran, fed, _⟩ := feeding.feed .eventAction pkt
    exact ⟨rc, after, ran, _, fed⟩
  emptied := by
    intro sim safe
    obtain ⟨moments, feeding⟩ := safe
    have changes : Changes (fun part => part = .eventAction) sim.obsw.board _ :=
      .single (.eventAction _ .taken) rfl
    exact ⟨moments, feeding.between (feeding.steady.changes (by simp) changes) ⟨rfl, rfl⟩ rfl
      (Nat.zero_le _)⟩

theorem dispatches_frames {batch : List UInt16} {sim after : Sim} {actions : List (List UInt8)}
    (dispatches : S19.Dispatches (Sim.core.comp Board.events) (Sim.feed .eventAction) batch sim
      actions after) :
    framesOf after.moments = framesOf sim.moments ++ actions ∧ actions.length ≤ batch.length := by
  induction dispatches with
  | done state => exact ⟨(List.append_nil _).symm, Nat.le_refl 0⟩
  | skipped undefined later inductionHypothesis =>
      exact ⟨inductionHypothesis.1, inductionHypothesis.2.trans (Nat.le_succ _)⟩
  | fed d stored action ran later inductionHypothesis =>
      obtain ⟨frames, short⟩ := inductionHypothesis
      unfold Sim.feed at ran
      obtain ⟨reply, fed, ran⟩ := Option.bind_eq_some_iff.mp ran
      cases ran
      refine ⟨?_, Nat.succ_le_succ short⟩
      rw [frames, framesOf_append, List.append_assoc]
      rfl

theorem actions_feeding {start sim : Sim} {moments : List Moment}
    (feeding : Feeding start sim moments) :
    ∃ run after later,
      S19.run (Sim.core.comp Board.events) (Sim.feed .eventAction) sim = some (run, after) ∧
        Feeding start after later ∧
        (framesOf later).length ≤
          (framesOf moments).length + start.obsw.board.s19.queue.length := by
  obtain ⟨actions, after, ran, ⟨later, fed⟩, dispatches⟩ :=
    S19.run_dispatches (actions_closed start) ⟨moments, feeding⟩
  obtain ⟨appended, short⟩ := dispatches_frames dispatches
  refine ⟨actions.length, after, later, ran, fed, ?_⟩
  have frames : framesOf after.moments = framesOf sim.moments ++ actions := appended
  rw [fed.frames, feeding.frames, List.append_assoc] at frames
  rw [List.append_cancel_left frames, List.length_append]
  have queue : actions.length ≤ sim.obsw.board.s19.queue.length := short
  have shrunk := feeding.queue
  omega

end Openobsw.HostSim
