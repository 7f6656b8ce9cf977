import Mathlib.Data.List.Pairwise
import Openobsw.Properties.Schedule

/-!
Owns the order in which a schedule run releases: by time tag, and for equal tags
by request ID, which is the order of acceptance until the 16-bit counter behind
the IDs comes round.
-/

namespace Openobsw.System

open Openobsw.Lib Openobsw.Pus Openobsw.Time Openobsw.Util

variable {cfg : Config}

/-! ### Acceptance order -/

/-- By time tag, and for equal tags in the order of acceptance. -/
def InOrder (released : List S11.Activity) : Prop :=
  released.Pairwise (fun a b => a.tag < b.tag ∨ (a.tag = b.tag ∧ a.serial < b.serial))

/-- Among the due activities of a table, those with equal tags have request IDs in
the order of their acceptance. -/
def IdsFollowAcceptance (tNow : UInt64) (acts : List S11.Activity) : Prop :=
  ∀ a ∈ acts, ∀ b ∈ acts, S11.due tNow a = true → S11.due tNow b = true →
    a.tag = b.tag → a.serial < b.serial → a.requestId < b.requestId

theorem serials_nodup {s : S11.Ctx} (ledger : S11.Ledger s) :
    (s.acts.map (fun a => a.serial)).Nodup := by
  have whole : ((s.acts ++ s.fates.map Prod.fst).map (fun a => a.serial)).Nodup := by
    have perm := ledger.account.map (fun a => a.serial)
    rw [← perm.nodup_iff, List.map_map]
    exact ledger.serials ▸ List.nodup_range
  rw [List.map_append] at whole
  exact (List.nodup_append'.mp whole).1

theorem releases_tags {tNow : UInt64} {acts released rest : List S11.Activity}
    (releases : S11.Releases tNow acts released rest) :
    released.Pairwise (fun a b => a.tag ≤ b.tag) :=
  releases.ordered.imp (fun ordered => S11.releaseKey_tag_le ordered.le)

/-- A due activity is released, for what stays is not due. -/
theorem mem_released {tNow : UInt64} {acts released rest : List S11.Activity}
    (releases : S11.Releases tNow acts released rest) {a : S11.Activity} (member : a ∈ acts)
    (ready : S11.due tNow a = true) : a ∈ released := by
  rcases List.mem_append.mp (releases.perm.mem_iff.mp member) with gone | stays
  · exact gone
  · rw [releases.notDue a stays] at ready
    cases ready

theorem inOrder_of_ids {tNow : UInt64} {acts released rest : List S11.Activity}
    (releases : S11.Releases tNow acts released rest)
    (distinct : (acts.map (fun a => a.serial)).Nodup) (follow : IdsFollowAcceptance tNow acts) :
    InOrder released := by
  apply releases.ordered.imp_of_mem
  intro a b aReleased bReleased ordered
  have inActs : ∀ c ∈ released, c ∈ acts :=
    fun c member => releases.perm.mem_iff.mpr (List.mem_append_left rest member)
  rcases UInt64.lt_or_eq_of_le (S11.releaseKey_tag_le ordered.le) with earlier | same
  · exact .inl earlier
  · refine .inr ⟨same, ?_⟩
    have ids := (S11.releaseKey_lt_iff_of_tag same).mp ordered
    rcases lt_trichotomy a.serial b.serial with before | equal | after
    · exact before
    · have one := List.inj_on_of_nodup_map distinct (inActs a aReleased) (inActs b bReleased) equal
      rw [one] at ids
      exact absurd ids (UInt16.lt_irrefl _)
    · have reversed := follow b (inActs b bReleased) a (inActs a aReleased)
        (releases.wasDue b bReleased) (releases.wasDue a aReleased) same.symm after
      exact absurd reversed (UInt16.lt_asymm ids)

theorem ids_of_inOrder {tNow : UInt64} {acts released rest : List S11.Activity}
    (releases : S11.Releases tNow acts released rest) (ordered : InOrder released) :
    IdsFollowAcceptance tNow acts := by
  intro a aIn b bIn aDue bDue sameTag accepted
  let both : S11.Activity → S11.Activity → Prop := fun x y =>
    x.releaseKey < y.releaseKey ∧ (x.tag < y.tag ∨ (x.tag = y.tag ∧ x.serial < y.serial))
  have pairs : released.Pairwise (fun x y => both x y ∨ both y x) :=
    (releases.ordered.and ordered).imp Or.inl
  have symmetric : Std.Symm (fun x y => both x y ∨ both y x) := ⟨fun _ _ => Or.symm⟩
  have different : a ≠ b := fun same => absurd (same ▸ accepted) (lt_irrefl _)
  rcases pairs.forall (mem_released releases aIn aDue) (mem_released releases bIn bDue) different with
    ⟨forward, _⟩ | ⟨_, backward⟩
  · exact (S11.releaseKey_lt_iff_of_tag sameTag).mp forward
  · rcases backward with earlier | ⟨_, later⟩
    · rw [sameTag] at earlier
      exact absurd earlier (UInt64.lt_irrefl _)
    · exact absurd later accepted.asymm

/-- Until the 65536th acceptance, request IDs are in the order of acceptance. -/
theorem idsFollow_of_numbered {s : S11.Ctx} (ledger : S11.Ledger s)
    (short : s.accepted.length < 65536) (tNow : UInt64) : IdsFollowAcceptance tNow s.acts := by
  intro a aIn b bIn _ _ _ accepted
  obtain ⟨_, ids⟩ := ledger.numbered short
  rw [UInt16.lt_iff_toNat_lt, ids a aIn, ids b bIn]
  omega

/-- In every state that a run from boot reaches, an enabled schedule run releases by
time tag; and it releases equal tags in the order of acceptance exactly if the due
activities with equal tags have their request IDs in that order, as they have until
the 65536th acceptance. -/
theorem runs_releaseOrder {w : Wiring cfg} (confined : w.ConfinesSchedule) (inputs : List Input)
    {obsw : Obsw cfg} (booted : Booted obsw) :
    ∃ reached, runs w inputs obsw = some reached ∧
      ∀ now, reached.board.s11.enabled = true →
        ∃ released rest after, scheduleRun w now reached = some (released.length, after) ∧
          fedFrom .schedule after = fedFrom .schedule reached ++ released.map (fun a => a.tc) ∧
          S11.Releases (S11.tagKey now.coarse now.fine) reached.board.s11.acts released rest ∧
          released.Pairwise (fun a b => a.tag ≤ b.tag) ∧
          (InOrder released ↔
            IdsFollowAcceptance (S11.tagKey now.coarse now.fine) reached.board.s11.acts) ∧
          (reached.board.s11.accepted.length < 65536 → InOrder released) := by
  obtain ⟨reached, ran, sound, accounted⟩ :=
    runs_accounted confined inputs booted.sound booted.accounted
  refine ⟨reached, ran, ?_⟩
  intro now enabled
  obtain ⟨released, rest, after, finished, _, law⟩ :=
    scheduleRun_released confined now sound enabled
  have distinct := serials_nodup accounted.ledger
  refine ⟨released, rest, after, finished, law.packets, law.releases,
    releases_tags law.releases, ⟨?_, ?_⟩, ?_⟩
  · exact ids_of_inOrder law.releases
  · exact inOrder_of_ids law.releases distinct
  · intro short
    exact inOrder_of_ids law.releases distinct (idsFollow_of_numbered accounted.ledger short _)

/-! ### The counter comes round -/

/-- The TC of a frame made by `tcFrame`. -/
def uplinkedTc (subservice : UInt8) (userData : Option (List UInt8)) : Tc where
  apid := 0x010
  service := 11
  subservice := subservice
  seqCount := 0
  userData := userData

theorem scheduleWiring_unique : ∀ first ∈ scheduleWiring.routes,
    ∀ second ∈ scheduleWiring.routes, first.subservice = second.subservice → first = second := by
  decide

theorem scheduleWiring_step {frame : List UInt8} {subservice : UInt8}
    {userData : Option (List UInt8)} {command : S11.Command}
    (listed : ⟨0xFFFF, 11, subservice, .s11 command⟩ ∈ scheduleWiring.routes)
    (parsed : tcParse frame = some (some (uplinkedTc subservice userData)))
    {obsw : Obsw Config.default} {s : S11.Ctx} {later : S1.Link Config.default}
    (ran : S11.handle command (uplinkedTc subservice userData) obsw.board.s11 obsw.link =
      some (0, s, later)) :
    ∃ after, step scheduleWiring obsw (.uplink frame) = some after ∧ after.board.s11 = s := by
  have takes : scheduleWiring.Takes (uplinkedTc subservice userData)
      ⟨0xFFFF, 11, subservice, .s11 command⟩ := ⟨listed, rfl, rfl⟩
  have only : ∀ other, scheduleWiring.Takes (uplinkedTc subservice userData) other →
      other = ⟨0xFFFF, 11, subservice, .s11 command⟩ := by
    rintro other ⟨otherListed, _, same⟩
    exact scheduleWiring_unique other otherListed _ listed same
  have admitted : scheduleWiring.Admits (uplinkedTc subservice userData) obsw.board :=
    fun gated => by cases gated
  have fed := feed_eq parsed admitted takes only .uplink
  have handled : Handler.handle scheduleWiring.functions (.s11 command)
      (uplinkedTc subservice userData) obsw.board obsw.link =
        some (0, { obsw.board with s11 := s }, later) := Handler.within_eq _ ran
  have stepped : step scheduleWiring obsw (.uplink frame) = some { obsw with
      board := { obsw.board with s11 := s }
      link := later
      fed := obsw.fed ++ [(.uplink, frame)]
      invoked := obsw.invoked ++
        [⟨.s11 command, uplinkedTc subservice userData, obsw.board.fsm.mode, 0⟩] } := by
    show (feed scheduleWiring .uplink frame obsw).map Prod.snd = _
    rw [fed]
    unfold Handler.invoke
    simp only [handled, Option.bind_eq_bind, Option.bind_some]
    rfl
  exact ⟨_, stepped, rfl⟩

def clearFrame : List UInt8 := tcFrame 11 6 0 []

/-- The activity that `insertFrame` asks for, with the ID and the serial it gets. -/
def pingActivity (seqCount : UInt8) (requestId : UInt16) (serial : Nat) : S11.Activity where
  requestId := requestId
  coarse := 1
  fine := 0
  tc := tcFrame 17 1 seqCount []
  serial := serial

theorem clear_step (obsw : Obsw Config.default) :
    ∃ after, step scheduleWiring obsw (.uplink clearFrame) = some after ∧
      after.board.s11 = obsw.board.s11.cleared := by
  have parsed : tcParse clearFrame = some (some (uplinkedTc 6 none)) := by decide +kernel
  have ran : S11.handle .deleteAll (uplinkedTc 6 none) obsw.board.s11 obsw.link = some _ :=
    Handler.execute_eq (uplinkedTc 6 none) rfl obsw.link
  exact scheduleWiring_step (by simp [scheduleWiring]) parsed ran

theorem insert_step (obsw : Obsw Config.default) {seqCount : UInt8} {requestId : UInt16}
    (known : seqCount = 0 ∨ seqCount = 1)
    (taken : S11.takeId obsw.board.s11.acts obsw.board.s11.nextId = some requestId)
    (room : obsw.board.s11.acts.length < obsw.board.s11.capacity.toNat) :
    ∃ after, step scheduleWiring obsw (.uplink (insertFrame seqCount)) = some after ∧
      after.board.s11 = obsw.board.s11.inserted (pingAt seqCount)
        (pingActivity seqCount requestId obsw.board.s11.accepted.length) := by
  have parsed : tcParse (insertFrame seqCount) =
      some (some (uplinkedTc 4 (some (pingAt seqCount)))) := by
    rcases known with rfl | rfl <;> decide +kernel
  have accepted : S11.embeddedTc Config.default (uplinkedTc 4 (some (pingAt seqCount))) =
      some (some (pingAt seqCount, (pingAt seqCount).drop S11.tagLen)) := by
    rcases known with rfl | rfl <;> decide +kernel
  have tagged : S11.UplinkedAs (pingAt seqCount)
      (pingActivity seqCount requestId obsw.board.s11.accepted.length) := ⟨rfl, rfl, rfl⟩
  have short : (tcFrame 17 1 seqCount []).length ≤ Config.default.s11TcMaxLen := by
    show 11 ≤ Config.default.s11TcMaxLen
    decide
  have ran : S11.handle .insert (uplinkedTc 4 (some (pingAt seqCount))) obsw.board.s11 obsw.link =
      some _ :=
    S11.insert_eq accepted tagged short taken rfl room obsw.link
  exact scheduleWiring_step (by simp [scheduleWiring]) parsed ran

/-- A schedule that has been filled with one ping and emptied again `rounds` times. -/
structure Rounds (rounds : Nat) (s : S11.Ctx) : Prop where
  empty : s.acts = []
  nextId : s.nextId.toNat = rounds + 1
  capacity : s.capacity = 16
  enabled : s.enabled = true
  count : s.accepted.length = rounds

theorem Rounds.takeId {rounds : Nat} {s : S11.Ctx} (before : Rounds rounds s) :
    S11.takeId s.acts s.nextId = some s.nextId := by
  have free : ¬ (s.nextId = 0 ∨ (S11.findAct s.acts s.nextId).isSome) := by
    rintro (zero | found)
    · have value := before.nextId
      rw [zero] at value
      cases value
    · rw [before.empty] at found
      cases found
  exact if_neg free

theorem Rounds.room {rounds : Nat} {s : S11.Ctx} (before : Rounds rounds s) :
    s.acts.length < s.capacity.toNat := by
  rw [before.empty, before.capacity]
  decide

def round : List Input := [.uplink (insertFrame 0), .uplink clearFrame]

theorem round_runs {rounds : Nat} (short : rounds < 65534) {obsw : Obsw Config.default}
    (before : Rounds rounds obsw.board.s11) :
    ∃ after, runs scheduleWiring round obsw = some after ∧ Rounds (rounds + 1) after.board.s11 := by
  obtain ⟨middle, inserted, table⟩ := insert_step obsw (.inl rfl) before.takeId before.room
  obtain ⟨after, cleared, emptied⟩ := clear_step middle
  refine ⟨after, ?_, ?_⟩
  · unfold round
    rw [runs_cons inserted, runs_cons cleared]
    rfl
  · rw [emptied, table]
    constructor
    · rfl
    · show (obsw.board.s11.nextId + 1).toNat = _
      rw [UInt16.toNat_add, before.nextId]
      show (rounds + 1 + 1) % 65536 = _
      omega
    · exact before.capacity
    · exact before.enabled
    · show (obsw.board.s11.accepted ++ [_]).length = _
      rw [List.length_append, before.count]
      rfl

/-- As many rounds as there are IDs left. -/
theorem rounds_run {rounds : Nat} (short : rounds ≤ 65534) :
    ∃ after, runs scheduleWiring (List.replicate rounds round).flatten (Obsw.cold Config.default) =
      some after ∧ Rounds rounds after.board.s11 := by
  induction rounds with
  | zero => exact ⟨_, rfl, ⟨rfl, rfl, rfl, rfl, rfl⟩⟩
  | succ rounds inductionHypothesis =>
      obtain ⟨middle, ran, before⟩ := inductionHypothesis (by omega)
      obtain ⟨after, last, reached⟩ := round_runs (by omega) before
      refine ⟨after, ?_, reached⟩
      rw [List.replicate_succ', List.flatten_append, runs_append ran]
      exact last

/-- The history that brings the counter to its last ID before two pings for the same time. -/
def wrapHistory : List Input :=
  (List.replicate 65534 round).flatten ++ [.uplink (insertFrame 0), .uplink (insertFrame 1)]

/-- The first of the two pings gets the last ID, the second the first. -/
theorem wrapHistory_runs :
    ∃ reached, runs scheduleWiring wrapHistory (Obsw.cold Config.default) = some reached ∧
      reached.board.s11.enabled = true ∧
      reached.board.s11.acts = [pingActivity 0 65535 65534, pingActivity 1 1 65535] := by
  obtain ⟨start, ran, before⟩ := rounds_run (Nat.le_refl 65534)
  obtain ⟨middle, first, firstTable⟩ := insert_step start (.inl rfl) before.takeId before.room
  have lastId : start.board.s11.nextId = 65535 := UInt16.toNat_inj.mp before.nextId
  have acts : middle.board.s11.acts = [pingActivity 0 65535 65534] := by
    rw [firstTable]
    show start.board.s11.acts ++ [_] = _
    rw [before.empty, lastId, before.count]
    rfl
  have next : middle.board.s11.nextId = 0 := by
    rw [firstTable]
    show start.board.s11.nextId + 1 = 0
    rw [lastId]
    rfl
  have accepted : middle.board.s11.accepted.length = 65535 := by
    rw [firstTable]
    show (start.board.s11.accepted ++ [_]).length = 65535
    rw [List.length_append, before.count]
    rfl
  have taken : S11.takeId middle.board.s11.acts middle.board.s11.nextId = some 1 := by
    rw [acts, next]
    decide +kernel
  have room : middle.board.s11.acts.length < middle.board.s11.capacity.toNat := by
    rw [acts, firstTable]
    show 1 < start.board.s11.capacity.toNat
    rw [before.capacity]
    decide
  obtain ⟨reached, second, secondTable⟩ := insert_step middle (.inr rfl) taken room
  refine ⟨reached, ?_, ?_, ?_⟩
  · unfold wrapHistory
    rw [runs_append ran, runs_cons first, runs_cons second]
    rfl
  · rw [secondTable, firstTable]
    exact before.enabled
  · rw [secondTable]
    show middle.board.s11.acts ++ [_] = _
    rw [acts, accepted]
    rfl

/-- A release of two activities with equal tags starts with the smaller ID. -/
theorem releases_pair {tNow : UInt64} {a b : S11.Activity} {released rest : List S11.Activity}
    (releases : S11.Releases tNow [a, b] released rest) (aDue : S11.due tNow a = true)
    (bDue : S11.due tNow b = true) (ids : b.releaseKey < a.releaseKey) : released = [b, a] := by
  have staysNot : rest = [] := by
    apply List.eq_nil_iff_forall_not_mem.mpr
    intro c stays
    have inTable : c ∈ [a, b] := releases.perm.mem_iff.mpr (List.mem_append_right released stays)
    have notDue := releases.notDue c stays
    rcases List.mem_pair.mp inTable with rfl | rfl
    · rw [aDue] at notDue
      cases notDue
    · rw [bDue] at notDue
      cases notDue
  have perm : released.Perm [b, a] := by
    have whole := releases.perm
    rw [staysNot, List.append_nil] at whole
    exact whole.symm.trans (List.Perm.swap b a [])
  have sorted : [b, a].Pairwise (fun x y => x.releaseKey < y.releaseKey) := by
    simp [ids]
  exact perm.eq_of_pairwise (fun x y _ _ less more => absurd less more.asymm) releases.ordered sorted

/-- Two pings for the same time, the first accepted with ID 65535 and the second with
ID 1: the run releases the second before the first. -/
theorem wrapped_outOfOrder :
    ∃ reached, runs scheduleWiring wrapHistory (Obsw.cold Config.default) = some reached ∧
      reached.board.s11.acts = [pingActivity 0 65535 65534, pingActivity 1 1 65535] ∧
      ∃ after, scheduleRun scheduleWiring ⟨1, 0, 0⟩ reached = some (2, after) ∧
        fedFrom .schedule after = fedFrom .schedule reached ++
          [tcFrame 17 1 1 [], tcFrame 17 1 0 []] ∧
        ¬ InOrder [pingActivity 1 1 65535, pingActivity 0 65535 65534] := by
  obtain ⟨reached, ran, enabled, acts⟩ := wrapHistory_runs
  obtain ⟨same, sameRan, sound, accounted⟩ := runs_accounted scheduleWiring_confines wrapHistory
    (cold_booted Config.default).sound (cold_booted Config.default).accounted
  rw [ran] at sameRan
  cases sameRan
  obtain ⟨released, rest, after, finished, _, law⟩ :=
    scheduleRun_released scheduleWiring_confines ⟨1, 0, 0⟩ sound enabled
  have releases := law.releases
  rw [acts] at releases
  have reversed : released = [pingActivity 1 1 65535, pingActivity 0 65535 65534] :=
    releases_pair releases (by decide) (by decide) (by decide)
  rw [reversed] at finished
  have packets := law.packets
  rw [reversed] at packets
  refine ⟨reached, ran, acts, after, finished, packets, ?_⟩
  intro ordered
  rcases (List.pairwise_pair.mp ordered) with earlier | ⟨_, accepted⟩
  · exact absurd earlier (UInt64.lt_irrefl _)
  · exact absurd accepted (by decide)

/-- The order of two pings released from a cold start. -/
theorem cold_releaseOrder :
    ∃ reached, runs scheduleWiring [.uplink (insertFrame 0), .uplink (insertFrame 1)]
        (Obsw.cold Config.default) = some reached ∧
      ∀ now, reached.board.s11.enabled = true →
        ∃ released after, scheduleRun scheduleWiring now reached = some (released.length, after) ∧
          (reached.board.s11.accepted.length < 65536 → InOrder released) := by
  obtain ⟨reached, ran, order⟩ := runs_releaseOrder scheduleWiring_confines
    [.uplink (insertFrame 0), .uplink (insertFrame 1)] (cold_booted Config.default)
  refine ⟨reached, ran, ?_⟩
  intro now enabled
  obtain ⟨released, _, after, finished, _, _, _, _, inOrder⟩ := order now enabled
  exact ⟨released, after, finished, inOrder⟩

end Openobsw.System
