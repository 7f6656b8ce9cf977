import Openobsw.System.Runs

/-!
Owns the verification protocol: the S1 reports that one fed packet is answered
with, in every state, and that a rejected packet changes nothing on board.
-/

namespace Openobsw.System

open Openobsw.Fdir Openobsw.Pus Openobsw.Pus.S1 Openobsw.Pus.Handler Openobsw.Util

variable {cfg : Config}

/-! ### What a packet is answered with -/

/-- A TM(1,`subsvc`) with these application data, stored unless the store was full. -/
structure IsReport (subsvc : UInt8) (data : List UInt8) (built : TmBuilt) : Prop where
  svc : built.request.svc = 1
  sameSubsvc : built.request.subsvc = subsvc
  sameData : built.request.data = data
  stored : built.rc ≠ .errStore → built.rc = .ok

/-- The TMs built between two states of the link. -/
def issued (before after : Link cfg) : List TmBuilt :=
  after.tm.log.drop before.tm.log.length

theorem issued_of_append {before after : Link cfg} {built : List TmBuilt}
    (logged : after.tm.log = before.tm.log ++ built) : issued before after = built := by
  unfold issued
  rw [logged, List.drop_left]

theorem nextBuilt_isReport (w : Wiring cfg) (link : Link cfg) (subsvc : UInt8) {data : List UInt8}
    (small : data.length ≤ 6) : IsReport subsvc data (link.nextBuilt subsvc data) := by
  refine ⟨rfl, rfl, rfl, ?_⟩
  have limit := w.reportsFit
  have bounded : (S1.request link.ctx subsvc data).dataLen ≤ 6 :=
    (TmRequest.dataLen_le _).trans small
  have outcome := put_of_fits link.tm (S1.request link.ctx subsvc data) (by omega) (by omega)
  show (link.tm.put _).1 ≠ .errStore → (link.tm.put _).1 = .ok
  rw [outcome]
  cases link.tm.store.full with
  | true => exact fun free => absurd rfl free
  | false => exact fun _ => rfl

theorem issued_rejected (link : Link cfg) (tc : Tc) (code : UInt16) :
    issued link (link.rejected tc code) =
      [link.nextBuilt 2 (encodeTcRef tc ++ putBe16 code)] :=
  issued_of_append (reported_log _ _ _)

/-- An acceptance, TMs of other services, and one last report. -/
theorem issued_executed {link middle : Link cfg} {tc : Tc}
    (silent : Silent (link.accepted tc) middle) (subsvc : UInt8) (data : List UInt8) :
    ∃ others, issued link (middle.reported subsvc data) =
        link.nextBuilt 1 (encodeTcRef tc) :: others ++ [middle.nextBuilt subsvc data] ∧
      ∀ tm ∈ others, tm.request.svc ≠ 1 := by
  obtain ⟨_, others, logged, other⟩ := silent
  refine ⟨others, ?_, other⟩
  apply issued_of_append
  rw [reported_log, logged, show (link.accepted tc).tm.log = _ from reported_log _ _ _]
  simp

/-- The answers to one packet: what is reported, and the return code of the feed. -/
inductive Verified (w : Wiring cfg) (frame : List UInt8) (board : Board cfg) :
    TcRc → List TmBuilt → Prop
  | dropped (parsed : tcParse frame = some none) : Verified w frame board .errParse []
  | gated (tc : Tc) (parsed : tcParse frame = some (some tc)) (refused : ¬ w.Admits tc board)
      (tm : TmBuilt) (report : IsReport 2 (encodeTcRef tc ++ putBe16 0x0007) tm) :
      Verified w frame board .errGated [tm]
  | illegalService (tc : Tc) (parsed : tcParse frame = some (some tc))
      (admitted : w.Admits tc board) (unserved : w.serves tc = false)
      (tm : TmBuilt) (report : IsReport 2 (encodeTcRef tc ++ putBe16 0x0002) tm) :
      Verified w frame board .errNoRoute [tm]
  | illegalSubservice (tc : Tc) (parsed : tcParse frame = some (some tc))
      (admitted : w.Admits tc board) (served : w.serves tc = true)
      (missing : ∀ entry, ¬ w.Takes tc entry)
      (tm : TmBuilt) (report : IsReport 2 (encodeTcRef tc ++ putBe16 0x0003) tm) :
      Verified w frame board .errNoRoute [tm]
  | rejected (tc : Tc) (parsed : tcParse frame = some (some tc)) (admitted : w.Admits tc board)
      (entry : RouteEntry) (takes : w.Takes tc entry) (code : UInt16)
      (known : code = 0x0004 ∨ code = 0x0005 ∨ code = 0x0006)
      (tm : TmBuilt) (report : IsReport 2 (encodeTcRef tc ++ putBe16 code) tm) :
      Verified w frame board .errHandler [tm]
  | completed (tc : Tc) (parsed : tcParse frame = some (some tc)) (admitted : w.Admits tc board)
      (entry : RouteEntry) (takes : w.Takes tc entry) (first last : TmBuilt)
      (others : List TmBuilt) (acceptance : IsReport 1 (encodeTcRef tc) first)
      (foreign : ∀ tm ∈ others, tm.request.svc ≠ 1)
      (completion : IsReport 7 (encodeTcRef tc) last) :
      Verified w frame board .ok (first :: others ++ [last])
  | failed (tc : Tc) (parsed : tcParse frame = some (some tc)) (admitted : w.Admits tc board)
      (entry : RouteEntry) (takes : w.Takes tc entry) (first last : TmBuilt)
      (others : List TmBuilt) (acceptance : IsReport 1 (encodeTcRef tc) first)
      (foreign : ∀ tm ∈ others, tm.request.svc ≠ 1)
      (failure : IsReport 8 (encodeTcRef tc ++ putBe16 0x0004) last) :
      Verified w frame board .errHandler (first :: others ++ [last])

theorem verified_of_handled {w : Wiring cfg} {frame : List UInt8} {obsw after : Obsw cfg}
    {rc : TcRc} {tc : Tc} {entry : RouteEntry} (parsed : tcParse frame = some (some tc))
    (admitted : w.Admits tc obsw.board) (takes : w.Takes tc entry)
    (ran : (entry.handler.invoke w.functions tc obsw).map handlerRc = some (rc, after)) :
    Verified w frame obsw.board rc (issued obsw.link after.link) := by
  obtain ⟨invoked, invokeEq, same⟩ := Option.map_eq_some_iff.mp ran
  obtain ⟨out, handleEq, called⟩ := Option.bind_eq_some_iff.mp invokeEq
  have outcome := entry.handler.handle_disciplined w.functions tc obsw.board obsw.link out handleEq
  cases called
  cases same
  cases outcome with
  | rejected code known =>
      show Verified w frame obsw.board .errHandler
        (issued obsw.link (obsw.link.rejected tc code))
      rw [issued_rejected]
      exact .rejected tc parsed admitted entry takes code known _ (nextBuilt_isReport w _ _ (by simp))
  | completed board middle silent =>
      obtain ⟨others, built, foreign⟩ := issued_executed silent 7 (encodeTcRef tc)
      show Verified w frame obsw.board .ok (issued obsw.link (middle.reported _ _))
      rw [built]
      exact .completed tc parsed admitted entry takes _ _ others (nextBuilt_isReport w _ _ (by simp)) foreign
        (nextBuilt_isReport w _ _ (by simp))
  | failed board middle silent =>
      obtain ⟨others, built, foreign⟩ :=
        issued_executed silent 8 (encodeTcRef tc ++ putBe16 failExecError)
      show Verified w frame obsw.board .errHandler (issued obsw.link (middle.reported _ _))
      rw [built]
      exact .failed tc parsed admitted entry takes _ _ others (nextBuilt_isReport w _ _ (by simp)) foreign
        (nextBuilt_isReport w _ _ (by simp))

theorem verified_of_feed {w : Wiring cfg} {origin : Origin} {frame : List UInt8}
    {obsw after : Obsw cfg} {rc : TcRc} (ran : feed w origin frame obsw = some (rc, after)) :
    Verified w frame obsw.board rc (issued obsw.link after.link) := by
  have result := feed_result w origin frame obsw
  rw [ran] at result
  generalize outEq : some (rc, after) = out at result
  cases result with
  | dropped parsed =>
      cases outEq
      rw [issued_of_append (List.append_nil _).symm]
      exact .dropped parsed
  | gated tc parsed refused =>
      cases outEq
      show Verified w frame obsw.board .errGated
        (issued obsw.link (obsw.link.rejected tc failModeGated))
      rw [issued_rejected]
      exact .gated tc parsed refused _ (nextBuilt_isReport w _ _ (by simp))
  | unrouted tc parsed admitted missing =>
      cases outEq
      show Verified w frame obsw.board .errNoRoute
        (issued obsw.link (obsw.link.rejected tc (w.missingCode tc)))
      rw [issued_rejected]
      unfold Wiring.missingCode
      cases served : w.serves tc with
      | false => exact .illegalService tc parsed admitted served _ (nextBuilt_isReport w _ _ (by simp))
      | true =>
          exact .illegalSubservice tc parsed admitted served missing _ (nextBuilt_isReport w _ _ (by simp))
  | handled tc parsed admitted entry takes =>
      have verified := verified_of_handled parsed admitted takes outEq.symm
      exact verified

/-- The S1 reports of a verified packet are stored, as far as the store has room. -/
theorem Verified.stored {w : Wiring cfg} {frame : List UInt8} {board : Board cfg} {rc : TcRc}
    {built : List TmBuilt} (verified : Verified w frame board rc built) :
    ∀ tm ∈ built, tm.request.svc = 1 → tm.rc ≠ .errStore → tm.rc = .ok := by
  have executed : ∀ {first last : TmBuilt} {others : List TmBuilt} {subsvc : UInt8}
      {acceptance completion : List UInt8}, IsReport 1 acceptance first →
      (∀ tm ∈ others, tm.request.svc ≠ 1) → IsReport subsvc completion last →
      ∀ tm ∈ first :: others ++ [last], tm.request.svc = 1 → tm.rc ≠ .errStore → tm.rc = .ok := by
    intro first last others subsvc acceptance completion accepted foreign completed tm member own
    rcases List.mem_append.mp member with front | back
    · rcases List.mem_cons.mp front with here | inOthers
      · rw [here]
        exact accepted.stored
      · exact absurd own (foreign tm inOthers)
    · rw [List.mem_singleton.mp back]
      exact completed.stored
  have single : ∀ {tm : TmBuilt} {subsvc : UInt8} {data : List UInt8}, IsReport subsvc data tm →
      ∀ other ∈ [tm], other.request.svc = 1 → other.rc ≠ .errStore → other.rc = .ok := by
    intro tm subsvc data report other member _
    rw [List.mem_singleton.mp member]
    exact report.stored
  cases verified with
  | dropped parsed => simp
  | gated tc parsed refused tm report => exact single report
  | illegalService tc parsed admitted unserved tm report => exact single report
  | illegalSubservice tc parsed admitted served missing tm report => exact single report
  | rejected tc parsed admitted entry takes code known tm report => exact single report
  | completed tc parsed admitted entry takes first last others acceptance foreign completion =>
      exact executed acceptance foreign completion
  | failed tc parsed admitted entry takes first last others acceptance foreign failure =>
      exact executed acceptance foreign failure

/-- A TM(1,`subsvc`) is among the TMs. -/
def Reports (built : List TmBuilt) (subsvc : UInt8) : Prop :=
  ∃ tm ∈ built, tm.request.svc = 1 ∧ tm.request.subsvc = subsvc

theorem reports_single {tm : TmBuilt} {subsvc other : UInt8} {data : List UInt8}
    (report : IsReport subsvc data tm) : Reports [tm] other ↔ subsvc = other := by
  constructor
  · rintro ⟨found, member, _, same⟩
    rw [List.mem_singleton.mp member] at same
    exact report.sameSubsvc.symm.trans same
  · intro same
    exact ⟨tm, List.mem_singleton.mpr rfl, report.svc, report.sameSubsvc.trans same⟩

theorem reports_executed {first last : TmBuilt} {others : List TmBuilt} {subsvc other : UInt8}
    {acceptance completion : List UInt8} (accepted : IsReport 1 acceptance first)
    (foreign : ∀ tm ∈ others, tm.request.svc ≠ 1) (completed : IsReport subsvc completion last) :
    Reports (first :: others ++ [last]) other ↔ other = 1 ∨ other = subsvc := by
  constructor
  · rintro ⟨found, member, own, same⟩
    rcases List.mem_append.mp member with front | back
    · rcases List.mem_cons.mp front with here | inOthers
      · rw [here, accepted.sameSubsvc] at same
        exact .inl same.symm
      · exact absurd own (foreign found inOthers)
    · rw [List.mem_singleton.mp back, completed.sameSubsvc] at same
      exact .inr same.symm
  · rintro (same | same)
    · exact ⟨first, by simp, accepted.svc, accepted.sameSubsvc.trans same.symm⟩
    · exact ⟨last, by simp, completed.svc, completed.sameSubsvc.trans same.symm⟩

/-- The feed returns `OBSW_TC_OK` exactly when a TM(1,7) was issued. -/
theorem Verified.ok_iff {w : Wiring cfg} {frame : List UInt8} {board : Board cfg} {rc : TcRc}
    {built : List TmBuilt} (verified : Verified w frame board rc built) :
    rc = .ok ↔ Reports built 7 := by
  cases verified with
  | dropped parsed => simp [Reports]
  | gated tc parsed refused tm report => simp [reports_single report]
  | illegalService tc parsed admitted unserved tm report => simp [reports_single report]
  | illegalSubservice tc parsed admitted served missing tm report =>
      simp [reports_single report]
  | rejected tc parsed admitted entry takes code known tm report => simp [reports_single report]
  | completed tc parsed admitted entry takes first last others acceptance foreign completion =>
      rw [reports_executed acceptance foreign completion]
      simp
  | failed tc parsed admitted entry takes first last others acceptance foreign failure =>
      rw [reports_executed acceptance foreign failure]
      simp

/-- No build of a packet found the TM store full. -/
def NeverFull (built : List TmBuilt) : Prop := ∀ tm ∈ built, tm.rc ≠ .errStore

/-- Every packet, in every state, is answered as the verification protocol says, with
its S1 reports stored while the TM store has room; in sound states the feed returns. -/
theorem feed_verified (w : Wiring cfg) (origin : Origin) (frame : List UInt8) (obsw : Obsw cfg) :
    (∀ rc after, feed w origin frame obsw = some (rc, after) →
      Verified w frame obsw.board rc (issued obsw.link after.link) ∧
      (rc = .ok ↔ Reports (issued obsw.link after.link) 7) ∧
      (NeverFull (issued obsw.link after.link) →
        ∀ tm ∈ issued obsw.link after.link, tm.request.svc = 1 → tm.rc = .ok)) ∧
    (Sound obsw.board → ∃ rc after, feed w origin frame obsw = some (rc, after)) := by
  constructor
  · intro rc after ran
    have verified := verified_of_feed ran
    refine ⟨verified, verified.ok_iff, ?_⟩
    intro room tm member own
    exact verified.stored tm member own (room tm member)
  · intro sound
    obtain ⟨rc, after, ran, _⟩ := feed_taken w origin frame sound
    exact ⟨rc, after, ran⟩

theorem cold_ping_verified :
    ∃ rc after,
      feed (pingWiring false) .uplink pingFrame (Obsw.cold Config.default) = some (rc, after) ∧
      Verified (pingWiring false) pingFrame (Obsw.cold Config.default).board rc
        (issued (Obsw.cold Config.default).link after.link) := by
  have law := feed_verified (pingWiring false) .uplink pingFrame (Obsw.cold Config.default)
  obtain ⟨rc, after, ran⟩ := law.2 (cold_booted _).sound
  exact ⟨rc, after, ran, (law.1 rc after ran).1⟩

end Openobsw.System
