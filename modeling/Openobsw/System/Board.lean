import Mathlib.Logic.Relation
import Openobsw.Lib.Component
import Openobsw.Pus.S11Steps
import Openobsw.Pus.S12Check
import Openobsw.Pus.S17
import Openobsw.Pus.S19Steps
import Openobsw.Pus.S3Reports
import Openobsw.Pus.S6
import Openobsw.Time.Obt

/-!
Owns the state of the whole on-board software: the service contexts and the mode
machine wired together as `sim/main.c` does. Everything that can happen to it is
one of a few elementary changes, and what is invariant follows from them.
-/

namespace Openobsw.System

open Openobsw.Fdir Openobsw.Lib Openobsw.Pus Openobsw.Pus.S1 Openobsw.Time

/-- The contexts behind the handlers. The S20 table is shared by S3 and S12, the
S5 context by S12 and the application; `eventAction` says whether its `on_event`
is set to `obsw_s19_on_event`. -/
structure Board (cfg : Config) where
  s3 : S3.Ctx
  s5 : S5.Ctx
  s6 : S6.Ctx
  obt : Obt
  s11 : S11.Ctx
  s12 : S12.Ctx
  s17 : S17.Ctx
  s19 : S19.Ctx cfg
  s20 : S20.Ctx
  fsm : Fsm
  /-- The application variables that boot-time housekeeping sets point to. -/
  appVars : Nat → UInt32
  eventAction : Bool

variable {cfg : Config}

namespace Board

def sets : Component (Board cfg) S3.Ctx where
  get board := board.s3
  set s board := { board with s3 := s }
  get_set _ _ := rfl
  set_get _ := rfl

def memory : Component (Board cfg) S6.Ctx where
  get board := board.s6
  set s board := { board with s6 := s }
  get_set _ _ := rfl
  set_get _ := rfl

def clock : Component (Board cfg) Obt where
  get board := board.obt
  set obt board := { board with obt := obt }
  get_set _ _ := rfl
  set_get _ := rfl

def schedule : Component (Board cfg) S11.Ctx where
  get board := board.s11
  set s board := { board with s11 := s }
  get_set _ _ := rfl
  set_get _ := rfl

def monitoring : Component (Board cfg) S12.Ctx where
  get board := board.s12
  set s board := { board with s12 := s }
  get_set _ _ := rfl
  set_get _ := rfl

def test : Component (Board cfg) S17.Ctx where
  get board := board.s17
  set s board := { board with s17 := s }
  get_set _ _ := rfl
  set_get _ := rfl

def events : Component (Board cfg) (S19.Ctx cfg) where
  get board := board.s19
  set s board := { board with s19 := s }
  get_set _ _ := rfl
  set_get _ := rfl

def parameters : Component (Board cfg) S20.Ctx where
  get board := board.s20
  set s board := { board with s20 := s }
  get_set _ _ := rfl
  set_get _ := rfl

/-! ### Event reports -/

/-- `s5.on_event` -/
def hook (board : Board cfg) : Option (UInt16 → S19.Ctx cfg → S19.Ctx cfg) :=
  if board.eventAction then some S19.onEvent else none

/-- What an S5 report of this board touches. -/
def env (board : Board cfg) (link : Link cfg) : S5.Env cfg (S19.Ctx cfg) where
  ctx := board.s5
  tm := link.tm
  fsm := board.fsm
  hook := board.s19

def withEnv (board : Board cfg) (env : S5.Env cfg (S19.Ctx cfg)) : Board cfg :=
  { board with s5 := env.ctx, fsm := env.fsm, s19 := env.hook }

/-- The board after an S5 report whose TM build returned `rc`. -/
def reported (board : Board cfg) (rc : TmRc) (call : S5.Call) : Board cfg :=
  { board with
    s5 := board.s5.called call.severity call.eventId call.aux
    fsm := S5.couple rc call.severity call.eventId board.s5 board.fsm
    s19 := if board.eventAction then S19.onEvent call.eventId board.s19 else board.s19 }

/-- The variables that housekeeping reads. -/
def hkVariables (board : Board cfg) : S3.Variables where
  table := board.s20.table
  app := board.appVars

end Board

/-! ### Elementary changes -/

/-- What a change of the board is about. -/
inductive Part where
  | sets
  | schedule
  | release
  | monitoring
  | check
  | eventAction
  | event
  | values
  | memory
  | clock
  | test
  | appVars
  | mode
deriving DecidableEq, Repr

/-- Everything that can happen to the board. -/
inductive Change (board : Board cfg) : Part → Board cfg → Prop
  | sets (s : S3.Ctx)
      (kept : ∀ structures, S3.Represents cfg board.s20.table board.s3 structures →
        ∃ others, S3.Represents cfg board.s20.table s others) :
      Change board .sets { board with s3 := s }
  | schedule (s : S11.Ctx) (step : S11.Step cfg board.s11 s) :
      Change board .schedule { board with s11 := s }
  | release (a : S11.Activity) (tNow : UInt64) (rest : List S11.Activity)
      (perm : board.s11.acts.Perm (a :: rest)) :
      Change board .release { board with
        s11 := board.s11.removed a (.released tNow board.s11.enabled) rest }
  | monitoring (s : S12.Ctx) (step : S12.Step board.s12 s) :
      Change board .monitoring { board with s12 := s }
  | checked (s : S12.Ctx) (kept : S12.WellFormed s) :
      Change board .check { board with s12 := s }
  | eventAction (s : S19.Ctx cfg) (step : S19.Step board.s19 s) :
      Change board .eventAction { board with s19 := s }
  | event (rc : TmRc) (call : S5.Call) : Change board .event (board.reported rc call)
  | values (s : S20.Ctx)
      (sameIds : s.table.map (fun param => param.paramId) =
        board.s20.table.map (fun param => param.paramId)) :
      Change board .values { board with s20 := s }
  | memory (s : S6.Ctx) : Change board .memory { board with s6 := s }
  | clock (obt : Obt) : Change board .clock { board with obt := obt }
  | test (s : S17.Ctx) : Change board .test { board with s17 := s }
  | appVars (values : Nat → UInt32) : Change board .appVars { board with appVars := values }
  | mode (fsm : Fsm) (sameConfig : fsm.config = board.fsm.config) :
      Change board .mode { board with fsm := fsm }

/-- Any number of changes, each about an allowed part. -/
def Changes (allowed : Part → Prop) : Board cfg → Board cfg → Prop :=
  Relation.ReflTransGen (fun before after => ∃ part, allowed part ∧ Change before part after)

namespace Changes

variable {allowed : Part → Prop} {before middle after : Board cfg}

theorem refl (board : Board cfg) : Changes allowed board board := Relation.ReflTransGen.refl

theorem single {part : Part} (change : Change before part after) (permitted : allowed part) :
    Changes allowed before after :=
  Relation.ReflTransGen.single ⟨part, permitted, change⟩

theorem trans (first : Changes allowed before middle) (second : Changes allowed middle after) :
    Changes allowed before after :=
  Relation.ReflTransGen.trans first second

theorem mono {wider : Part → Prop} (changes : Changes allowed before after)
    (widen : ∀ part, allowed part → wider part) : Changes wider before after := by
  refine Relation.ReflTransGen.mono ?_ _ _ changes
  rintro first second ⟨part, permitted, change⟩
  exact ⟨part, widen part permitted, change⟩

/-- What every allowed change keeps, any number of them keeps. -/
theorem keeps {P : Board cfg → Prop}
    (step : ∀ part first second, allowed part → Change first part second → P first → P second)
    (changes : Changes allowed before after) (holds : P before) : P after := by
  induction changes with
  | refl => exact holds
  | tail _ last inductionHypothesis =>
      obtain ⟨part, permitted, change⟩ := last
      exact step part _ _ permitted change inductionHypothesis

end Changes

/-! ### What no change breaks -/

/-- The invariants of the services' tables. -/
structure Sound (board : Board cfg) : Prop where
  sets : ∃ structures, S3.Represents cfg board.s20.table board.s3 structures
  schedule : S11.WellFormed cfg board.s11
  monitoring : S12.WellFormed board.s12
  eventAction : S19.WellFormed board.s19

theorem Sound.change {board after : Board cfg} {part : Part} (sound : Sound board)
    (change : Change board part after) : Sound after := by
  obtain ⟨structures, represents⟩ := sound.sets
  cases change with
  | sets s kept =>
      exact ⟨kept structures represents, sound.schedule, sound.monitoring, sound.eventAction⟩
  | schedule s step =>
      exact ⟨sound.sets, sound.schedule.step step, sound.monitoring, sound.eventAction⟩
  | release a tNow rest perm =>
      exact ⟨sound.sets, sound.schedule.removed _ perm, sound.monitoring, sound.eventAction⟩
  | monitoring s step =>
      exact ⟨sound.sets, sound.schedule, sound.monitoring.step step, sound.eventAction⟩
  | checked s kept => exact ⟨sound.sets, sound.schedule, kept, sound.eventAction⟩
  | eventAction s step =>
      exact ⟨sound.sets, sound.schedule, sound.monitoring, sound.eventAction.step step⟩
  | event rc call =>
      refine ⟨sound.sets, sound.schedule, sound.monitoring, ?_⟩
      unfold Board.reported
      simp only
      split
      · exact sound.eventAction.event call.eventId
      · exact sound.eventAction
  | values s sameIds =>
      exact ⟨⟨structures, represents.revalue sameIds⟩, sound.schedule, sound.monitoring,
        sound.eventAction⟩
  | memory s => exact ⟨sound.sets, sound.schedule, sound.monitoring, sound.eventAction⟩
  | clock obt => exact ⟨sound.sets, sound.schedule, sound.monitoring, sound.eventAction⟩
  | test s => exact ⟨sound.sets, sound.schedule, sound.monitoring, sound.eventAction⟩
  | appVars values => exact ⟨sound.sets, sound.schedule, sound.monitoring, sound.eventAction⟩
  | mode fsm sameConfig => exact ⟨sound.sets, sound.schedule, sound.monitoring, sound.eventAction⟩

theorem Sound.changes {allowed : Part → Prop} {board after : Board cfg} (sound : Sound board)
    (changes : Changes allowed board after) : Sound after :=
  changes.keeps (fun _ _ _ _ change first => first.change change) sound

/-- The whitelist is a constant of the software. -/
theorem Changes.fsmConfig {allowed : Part → Prop} {board after : Board cfg}
    (changes : Changes allowed board after) : after.fsm.config = board.fsm.config := by
  apply changes.keeps (P := fun other => other.fsm.config = board.fsm.config) _ rfl
  intro part first second _ change same
  cases change with
  | mode fsm sameConfig => exact sameConfig.trans same
  | event rc call => exact (S5.couple_config _ _ _ _ _).trans same
  | _ => exact same

/-- Without a change of the schedule's own, the schedule stays as it was. -/
theorem Changes.schedule_unchanged {allowed : Part → Prop} {board after : Board cfg}
    (noCommand : ¬ allowed .schedule) (noRelease : ¬ allowed .release)
    (changes : Changes allowed board after) : after.s11 = board.s11 := by
  apply changes.keeps (P := fun other => other.s11 = board.s11) _ rfl
  intro part first second permitted change same
  cases change with
  | schedule s step => exact absurd permitted noCommand
  | release a tNow rest perm => exact absurd permitted noRelease
  | _ => exact same

/-- What events do to event-action when its hook is installed. -/
def Board.heard (board : Board cfg) (events : List UInt16) : S19.Ctx cfg :=
  if board.eventAction then S19.onEvents events board.s19 else board.s19

/-- The event-action state follows from the S5 reports made in between. -/
def Follows (board after : Board cfg) : Prop :=
  after.eventAction = board.eventAction ∧
    ∃ calls : List S5.Call, after.s5.calls = board.s5.calls ++ calls ∧
      after.s19 = board.heard (calls.map (fun call => call.eventId))

namespace Follows

variable {board middle after : Board cfg}

theorem refl (board : Board cfg) : Follows board board := by
  refine ⟨rfl, [], (List.append_nil _).symm, ?_⟩
  simp [Board.heard]

theorem trans (first : Follows board middle) (second : Follows middle after) :
    Follows board after := by
  obtain ⟨firstFlag, calls, firstLogged, firstHeard⟩ := first
  obtain ⟨secondFlag, later, secondLogged, secondHeard⟩ := second
  refine ⟨secondFlag.trans firstFlag, calls ++ later, ?_, ?_⟩
  · rw [secondLogged, firstLogged, List.append_assoc]
  · rw [secondHeard, List.map_append]
    unfold Board.heard at *
    rw [firstFlag, firstHeard]
    cases board.eventAction with
    | false => rfl
    | true => exact (S19.onEvents_append _ _ board.s19).symm

theorem reported (board : Board cfg) (rc : TmRc) (call : S5.Call) :
    Follows board (board.reported rc call) :=
  ⟨rfl, [call], rfl, rfl⟩

/-- Events leave the definitions alone. -/
theorem defs (follows : Follows board after) : after.s19.defs = board.s19.defs := by
  obtain ⟨_, calls, _, heard⟩ := follows
  rw [heard]
  unfold Board.heard
  split
  · exact (S19.onEvents_frame _ _).1
  · rfl

end Follows

/-- Without a command of event-action's own, only events reach it. -/
theorem Changes.follows {allowed : Part → Prop} {board after : Board cfg}
    (noCommand : ¬ allowed .eventAction) (changes : Changes allowed board after) :
    Follows board after := by
  apply changes.keeps (P := Follows board) _ (.refl board)
  intro part first second permitted change follows
  cases change with
  | eventAction s step => exact absurd permitted noCommand
  | event rc call => exact follows.trans (.reported first rc call)
  | _ => exact follows

end Openobsw.System
