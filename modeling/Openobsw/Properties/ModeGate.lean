import Openobsw.System.Runs

/-!
Owns the mode gate over whole runs: outside NOMINAL only whitelisted packets reach
a handler, whichever way they come to the dispatcher, and a refused packet leaves
nothing behind but its TM(1,2).
-/

namespace Openobsw.System

open Openobsw.Fdir Openobsw.Pus Openobsw.Pus.S1 Openobsw.Util

variable {cfg : Config}

/-- Made in NOMINAL, or for a pair on the whitelist. -/
def Permitted (config : FsmConfig) (invocation : Invocation) : Prop :=
  invocation.mode ≠ .nominal →
    Fsm.Whitelisted config invocation.tc.service invocation.tc.subservice

/-- Made for a packet that was fed to the dispatcher. -/
def Dispatched (fed : List (Origin × List UInt8)) (invocation : Invocation) : Prop :=
  ∃ origin frame, (origin, frame) ∈ fed ∧ tcParse frame = some (some invocation.tc)

/-- The whitelist is still `config`, and every invocation so far was lawful. -/
structure Gatekept (config : FsmConfig) (obsw : Obsw cfg) : Prop where
  sameConfig : obsw.board.fsm.config = config
  invoked : ∀ invocation ∈ obsw.invoked,
    Permitted config invocation ∧ Dispatched obsw.fed invocation

theorem permitted_of_admits {w : Wiring cfg} (gated : w.gated = true) {tc : Tc}
    {board : Board cfg} (admitted : w.Admits tc board) (handler : Handler) (rc : Int) :
    Permitted board.fsm.config ⟨handler, tc, board.fsm.mode, rc⟩ := by
  intro outside
  exact (Fsm.tcAllowed_iff outside tc.service tc.subservice).mp (admitted gated)

theorem Dispatched.later {fed more : List (Origin × List UInt8)} {invocation : Invocation}
    (dispatched : Dispatched fed invocation) : Dispatched (fed ++ more) invocation := by
  obtain ⟨origin, frame, member, parsed⟩ := dispatched
  exact ⟨origin, frame, List.mem_append_left more member, parsed⟩

theorem Gatekept.taken {w : Wiring cfg} (gated : w.gated = true) {config : FsmConfig}
    {origin : Origin} {frame : List UInt8} {obsw after : Obsw cfg} (kept : Gatekept config obsw)
    (taken : Taken w origin frame obsw after) : Gatekept config after := by
  have earlier : ∀ invocation ∈ obsw.invoked,
      Permitted config invocation ∧ Dispatched after.fed invocation := by
    intro invocation member
    obtain ⟨permitted, dispatched⟩ := kept.invoked invocation member
    rw [taken.fed]
    exact ⟨permitted, dispatched.later⟩
  constructor
  · rcases taken.changes with same | ⟨tc, _, changes⟩
    · rw [same]
      exact kept.sameConfig
    · rw [changes.fsmConfig]
      exact kept.sameConfig
  · rcases taken.invoked with same | ⟨tc, handler, rc, parsed, admitted, invoked⟩
    · rw [same]
      exact earlier
    · rw [invoked]
      intro invocation member
      rcases List.mem_append.mp member with before | last
      · exact earlier invocation before
      · rw [List.mem_singleton.mp last]
        refine ⟨kept.sameConfig ▸ permitted_of_admits gated admitted handler rc, origin, frame, ?_,
          parsed⟩
        rw [taken.fed]
        exact List.mem_append_right _ (List.mem_singleton.mpr rfl)

theorem gatekept_inductive {w : Wiring cfg} (gated : w.gated = true) (config : FsmConfig) :
    Inductive w (Gatekept config) where
  taken _ _ _ _ _ kept taken := kept.taken gated taken
  changed obsw part board kept change := by
    have changes : Changes (fun _ => True) obsw.board board := .single change trivial
    exact ⟨changes.fsmConfig.trans kept.sameConfig, kept.invoked⟩
  linked _ _ kept := ⟨kept.sameConfig, kept.invoked⟩

/-- A packet that the gate refuses changes nothing on the board, reaches no handler
and is answered with one TM(1,2). -/
def RefusedAlone (tc : Tc) (obsw after : Obsw cfg) : Prop :=
  after.board = obsw.board ∧ after.invoked = obsw.invoked ∧
    ∃ rc, after.link.tm.log = obsw.link.tm.log ++
      [⟨S1.request obsw.link.ctx 2 (encodeTcRef tc ++ putBe16 0x0007), rc⟩]

theorem feed_refused {w : Wiring cfg} (gated : w.gated = true) (origin : Origin)
    {frame : List UInt8} {tc : Tc} {obsw : Obsw cfg} (parsed : tcParse frame = some (some tc))
    (refused : obsw.board.fsm.tcAllowed tc.service tc.subservice = false) :
    ∃ after, feed w origin frame obsw = some (.errGated, after) ∧ RefusedAlone tc obsw after := by
  have result := feed_result w origin frame obsw
  have notAdmitted : ∀ {other : Tc}, tcParse frame = some (some other) →
      ¬ w.Admits other obsw.board := by
    intro other otherParsed admitted
    rw [parsed] at otherParsed
    cases otherParsed
    rw [admitted gated] at refused
    cases refused
  generalize feed w origin frame obsw = out at result ⊢
  cases result with
  | dropped dropped =>
      rw [parsed] at dropped
      cases dropped
  | gated other otherParsed _ =>
      rw [parsed] at otherParsed
      cases otherParsed
      exact ⟨_, rfl, rfl, rfl, _, reported_log _ _ _⟩
  | unrouted other otherParsed admitted _ => exact absurd admitted (notAdmitted otherParsed)
  | handled other otherParsed admitted entry _ => exact absurd admitted (notAdmitted otherParsed)

/-- With the gate installed, every handler invocation of every run is permitted at
the moment it is made, and every refusal, in whatever state, leaves the board alone. -/
theorem runs_modeGate {w : Wiring cfg} (gated : w.gated = true) :
    (∀ inputs (obsw : Obsw cfg), Booted obsw →
      ∃ after, runs w inputs obsw = some after ∧
        ∀ invocation ∈ after.invoked,
          Permitted obsw.board.fsm.config invocation ∧ Dispatched after.fed invocation) ∧
    ∀ origin frame tc (obsw : Obsw cfg), tcParse frame = some (some tc) →
      obsw.board.fsm.tcAllowed tc.service tc.subservice = false →
      ∃ after, feed w origin frame obsw = some (.errGated, after) ∧
        RefusedAlone tc obsw after := by
  constructor
  · intro inputs obsw booted
    have start : Gatekept obsw.board.fsm.config obsw := by
      refine ⟨rfl, ?_⟩
      rw [booted.nothingInvoked]
      simp
    obtain ⟨after, ran, _, kept⟩ :=
      (gatekept_inductive gated obsw.board.fsm.config).runs inputs ⟨booted.sound, start⟩
    exact ⟨after, ran, kept.invoked⟩
  · intro origin frame tc obsw parsed refused
    exact feed_refused gated origin parsed refused

/-- A cold software, in STANDBY with nothing whitelisted, refuses the ping. -/
theorem cold_ping_refused :
    (∃ after, runs (pingWiring true) [.uplink pingFrame] (Obsw.cold Config.default) = some after ∧
      ∀ invocation ∈ after.invoked,
        Permitted (Obsw.cold Config.default).board.fsm.config invocation ∧
          Dispatched after.fed invocation) ∧
    ∃ after, feed (pingWiring true) .uplink pingFrame (Obsw.cold Config.default) =
        some (.errGated, after) ∧ RefusedAlone pingTc (Obsw.cold Config.default) after := by
  have law := runs_modeGate (w := pingWiring true) rfl
  exact ⟨law.1 _ _ (cold_booted _), law.2 .uplink pingFrame pingTc _ (by decide +kernel) rfl⟩

end Openobsw.System
