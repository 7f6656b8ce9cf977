import Openobsw.Properties.Verification

/-!
Owns what holds of every TC handler on its own: a rejected TC has changed nothing,
and in every reachable state no TC makes a handler reach outside an object.
-/

namespace Openobsw.System

open Openobsw.Pus Openobsw.Pus.S1 Openobsw.Pus.Handler Openobsw.Util

variable {cfg : Config}

/-- A handler that answers with a TM(1,2), in whatever state and for whatever user
data, has left the whole board as it was; of the link only the S1 message counter
and the TM store have moved. -/
theorem handle_rejected (functions : List (Function cfg)) (handler : Handler) (tc : Tc)
    (board after : Board cfg) (link later : Link cfg) (rc : Int)
    (ran : handler.handle functions tc board link = some (rc, after, later))
    (answered : Reports (issued link later) 2) :
    after = board ∧ later.ctx = { link.ctx with msgCounter := link.ctx.msgCounter + 1 } := by
  have outcome := handler.handle_disciplined functions tc board link _ ran
  -- only a rejection issues a TM(1,2): the other outcomes begin with a TM(1,1)
  have executed : ∀ {middle : Link cfg} {subsvc : UInt8} {data : List UInt8},
      Silent (link.accepted tc) middle → subsvc ≠ 2 →
      ¬ Reports (issued link (middle.reported subsvc data)) 2 := by
    intro middle subsvc data silent other
    obtain ⟨others, built, foreign⟩ := issued_executed silent subsvc data
    rw [built]
    rintro ⟨tm, member, own, same⟩
    rcases List.mem_append.mp member with front | back
    · rcases List.mem_cons.mp front with here | inOthers
      · rw [here] at same
        exact absurd same (show (1 : UInt8) ≠ 2 by decide)
      · exact foreign tm inOthers own
    · rw [List.mem_singleton.mp back] at same
      exact other same
  cases outcome with
  | rejected code known => exact ⟨rfl, rfl⟩
  | completed _ middle silent => exact absurd answered (executed silent (by decide))
  | failed _ middle silent => exact absurd answered (executed silent (by decide))

/-- A TC(11,5) without user data. -/
def emptyDelete : Tc := { pingTc with service := 11, subservice := 5 }

theorem cold_delete_refused :
    ∃ later, (Handler.s11 .delete).handle [] emptyDelete (Obsw.cold Config.default).board
        (Obsw.cold Config.default).link = some (-1, (Obsw.cold Config.default).board, later) ∧
      later.ctx.msgCounter = 1 := by
  let link := (Obsw.cold Config.default).link
  have ran : (Handler.s11 .delete).handle [] emptyDelete (Obsw.cold Config.default).board link =
      some (-1, (Obsw.cold Config.default).board, link.rejected emptyDelete failIllegalAppData) :=
    within_eq _ (reject_eq emptyDelete failIllegalAppData _ link)
  have answered : Reports (issued link (link.rejected emptyDelete failIllegalAppData)) 2 := by
    rw [issued_rejected]
    exact ⟨_, List.mem_singleton_self _, rfl, rfl⟩
  obtain ⟨_, counted⟩ := handle_rejected [] (.s11 .delete) emptyDelete _ _ link _ _ ran answered
  refine ⟨_, ran, ?_⟩
  rw [counted]
  rfl

/-- In every state of every run, no handler faults on any TC: neither on reads of the
user data or of an embedded packet, nor on writes to a table or a packet buffer. -/
theorem reachable_handle_returns (w : Wiring cfg) (inputs : List Input) (obsw : Obsw cfg)
    (booted : Booted obsw) :
    ∃ after, runs w inputs obsw = some after ∧
      ∀ (handler : Handler) (tc : Tc) (link : Link cfg),
        ∃ rc board later,
          handler.handle w.functions tc after.board link = some (rc, board, later) := by
  obtain ⟨after, ran, sound, _⟩ := runs_sound w inputs booted
  refine ⟨after, ran, ?_⟩
  intro handler tc link
  obtain ⟨rc, board, later, handled, _⟩ := handler.handle_returns sound w.functions
    (fun _ => (Nat.le_succ 22).trans w.reportsFit) tc link
  exact ⟨rc, board, later, handled⟩

theorem cold_handlers_return :
    ∃ after, runs (pingWiring true) [.uplink pingFrame, .hkTick] (Obsw.cold Config.default) =
        some after ∧
      ∀ (handler : Handler) (tc : Tc) (link : Link Config.default),
        ∃ rc board later, handler.handle [] tc after.board link = some (rc, board, later) :=
  reachable_handle_returns (pingWiring true) [.uplink pingFrame, .hkTick] _
    (cold_booted Config.default)

end Openobsw.System
