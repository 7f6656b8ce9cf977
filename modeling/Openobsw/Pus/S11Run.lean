import Openobsw.Pus.S11Steps

/-!
Owns the law of `obsw_s11_run`: over any state that contains a schedule, and any
feed that leaves the schedule alone, a run terminates and has released exactly
the due activities, ordered by tag and request ID.
-/

namespace Openobsw.Pus.S11

open Openobsw.Lib Openobsw.Lib.Selection Openobsw.Lib.Tables Openobsw.Pus.S1
open Openobsw.Time

variable {cfg : Config} {σ : Type}

/-- What the release loop needs of the dispatcher behind it: from `Safe` states it
takes any packet, logs it in `fed`, and on packets of other services leaves the
schedule as it was. -/
structure Feeder (cfg : Config) (schedule : Component σ Ctx)
    (feed : List UInt8 → σ → Option (TcRc × σ)) (Safe : σ → Prop)
    (fed : σ → List (List UInt8)) : Prop where
  total : ∀ pkt state, Safe state →
    ∃ rc after, feed pkt state = some (rc, after) ∧ Safe after ∧ fed after = fed state ++ [pkt]
  frame : ∀ pkt service state rc after, Safe state → tcPacketCheck pkt = some (some service) →
    service ≠ 11 → feed pkt state = some (rc, after) → schedule.get after = schedule.get state
  replace : ∀ s state, Safe state → WellFormed cfg s → Safe (schedule.set s state)
  kept : ∀ s state, fed (schedule.set s state) = fed state

/-- The order of release as one number: the tag, then the request ID. -/
def Activity.releaseKey (a : Activity) : Nat := a.tag.toNat * 65536 + a.requestId.toNat

theorem precedes_iff (a next : Activity) :
    precedes a next = true ↔ a.releaseKey < next.releaseKey := by
  have first := a.requestId.toNat_lt
  have second := next.requestId.toNat_lt
  unfold precedes Activity.releaseKey
  simp only [Bool.or_eq_true, decide_eq_true_eq, Bool.and_eq_true, beq_iff_eq,
    UInt64.lt_iff_toNat_lt, UInt16.lt_iff_toNat_lt, ← UInt64.toNat_inj]
  omega

theorem due_iff (tNow : UInt64) (a : Activity) : due tNow a = true ↔ a.tag ≤ tNow := by
  simp [due]

theorem releaseKey_tag_le {a b : Activity} (ordered : a.releaseKey ≤ b.releaseKey) :
    a.tag ≤ b.tag := by
  have first := a.requestId.toNat_lt
  have second := b.requestId.toNat_lt
  unfold Activity.releaseKey at ordered
  rw [UInt64.le_iff_toNat_le]
  omega

theorem releaseKey_ne {a b : Activity} (other : a.requestId ≠ b.requestId) :
    a.releaseKey ≠ b.releaseKey := by
  intro same
  apply other
  have first := a.requestId.toNat_lt
  have second := b.requestId.toNat_lt
  unfold Activity.releaseKey at same
  rw [← UInt16.toNat_inj]
  omega

theorem releaseKey_lt_iff_of_tag {a b : Activity} (same : a.tag = b.tag) :
    a.releaseKey < b.releaseKey ↔ a.requestId < b.requestId := by
  unfold Activity.releaseKey
  rw [same, UInt16.lt_iff_toNat_lt]
  omega

/-- The schedule after a run at `tNow` released `released` and kept `rest`. -/
def Ctx.ran (s : Ctx) (tNow : UInt64) (released rest : List Activity) : Ctx :=
  { s with
    acts := rest
    fates := s.fates ++ released.map (fun a => (a, .released tNow s.enabled)) }

/-- A release of `released`, in this order, out of `acts`, leaving `rest`. -/
structure Releases (tNow : UInt64) (acts released rest : List Activity) : Prop where
  perm : acts.Perm (released ++ rest)
  wasDue : ∀ a ∈ released, due tNow a = true
  notDue : ∀ a ∈ rest, due tNow a = false
  ordered : released.Pairwise (fun a b => a.releaseKey < b.releaseKey)

theorem Releases.none {tNow : UInt64} {acts : List Activity}
    (early : ∀ a ∈ acts, due tNow a = false) : Releases tNow acts [] acts where
  perm := List.Perm.refl _
  wasDue := by simp
  notDue := early
  ordered := List.Pairwise.nil

/-- Releasing the earliest due activity first, and then the rest in order, is a
release in order. -/
theorem Releases.cons {tNow : UInt64} {acts others released rest : List Activity}
    {a : Activity} (perm : acts.Perm (a :: others))
    (distinct : (acts.map (fun b => b.requestId)).Nodup) (ready : due tNow a = true)
    (least : ∀ b ∈ acts, due tNow b = true → a.releaseKey ≤ b.releaseKey)
    (later : Releases tNow others released rest) :
    Releases tNow acts (a :: released) rest where
  perm := perm.trans (later.perm.cons a)
  wasDue := by
    intro b member
    rcases List.mem_cons.mp member with same | inLater
    · rw [same]
      exact ready
    · exact later.wasDue b inLater
  notDue := later.notDue
  ordered := by
    apply List.Pairwise.cons _ later.ordered
    intro b inLater
    have inOthers : b ∈ others := later.perm.mem_iff.mpr (List.mem_append_left _ inLater)
    have inActs : b ∈ acts := perm.mem_iff.mpr (List.mem_cons_of_mem a inOthers)
    have ids : ((a :: others).map (fun b => b.requestId)).Nodup :=
      (perm.map (fun b => b.requestId)).nodup_iff.mp distinct
    have other : a.requestId ≠ b.requestId := by
      intro same
      exact (List.nodup_cons.mp ids).1 (List.mem_map.mpr ⟨b, inOthers, same.symm⟩)
    exact lt_of_le_of_ne (least b inActs (later.wasDue b inLater)) (releaseKey_ne other)

theorem earliestDue_isBest (tNow : UInt64) (acts : List Activity) :
    IsBest (due tNow) Activity.releaseKey acts (earliestDue tNow acts) :=
  selectBest_isBest precedes_iff acts

/-- One turn removes one due activity, so the due ones left are one fewer. -/
theorem dueCount_cons {tNow : UInt64} {acts others : List Activity} {a : Activity}
    (perm : acts.Perm (a :: others)) (ready : due tNow a = true) :
    (acts.filter (due tNow)).length = (others.filter (due tNow)).length + 1 := by
  have same := (perm.filter (due tNow)).length_eq
  rw [List.filter_cons_of_pos ready] at same
  exact same

variable {schedule : Component σ Ctx} {feed : List UInt8 → σ → Option (TcRc × σ)}
  {Safe : σ → Prop} {fed : σ → List (List UInt8)}

/-- What a run leaves behind when it released `released` out of the schedule `s`. -/
structure Ran (schedule : Component σ Ctx) (Safe : σ → Prop) (fed : σ → List (List UInt8))
    (tNow : UInt64) (before : σ) (released rest : List Activity) (after : σ) : Prop where
  safe : Safe after
  table : schedule.get after = (schedule.get before).ran tNow released rest
  releases : Releases tNow (schedule.get before).acts released rest
  packets : fed after = fed before ++ released.map (fun a => a.tc)

theorem releaseLoop_ran (feeder : Feeder cfg schedule feed Safe fed) (tNow : UInt64)
    (turns : Nat) (state : σ) (safe : Safe state) (wf : WellFormed cfg (schedule.get state))
    (enough : ((schedule.get state).acts.filter (due tNow)).length ≤ turns) :
    ∃ released rest after,
      releaseLoop cfg schedule feed tNow turns state = some (released.length, after) ∧
      Ran schedule Safe fed tNow state released rest after := by
  induction turns generalizing state with
  | zero =>
      have early : ∀ a ∈ (schedule.get state).acts, due tNow a = false := by
        have none := List.length_eq_zero_iff.mp (Nat.le_zero.mp enough)
        intro a member
        simpa using List.filter_eq_nil_iff.mp none a member
      refine ⟨[], _, state, rfl, safe, ?_, Releases.none early, by simp⟩
      simp [Ctx.ran]
  | succ turns inductionHypothesis =>
      have best := earliestDue_isBest tNow (schedule.get state).acts
      unfold releaseLoop
      cases selected : earliestDue tNow (schedule.get state).acts with
      | none =>
          rw [selected] at best
          refine ⟨[], _, state, ?_, safe, ?_, Releases.none best, by simp⟩
          · simp only [selected, List.length_nil]
          · simp [Ctx.ran]
      | some choice =>
          obtain ⟨index, a⟩ := choice
          rw [selected] at best
          obtain ⟨place, ready, least⟩ := best
          have member : a ∈ (schedule.get state).acts := List.mem_of_getElem? place
          obtain ⟨short, service, checked, foreign⟩ := wf.packets a member
          obtain ⟨others, removed, perm⟩ :=
            removeAt_eq (.released tNow (schedule.get state).enabled) place
          let taken := (schedule.get state).removed a
            (.released tNow (schedule.get state).enabled) others
          have takenWf : WellFormed cfg taken := wf.removed _ perm
          have takenSafe := feeder.replace taken state safe takenWf
          obtain ⟨rc, middle, fedEq, middleSafe, logged⟩ := feeder.total a.tc _ takenSafe
          have unchanged : schedule.get middle = taken := by
            rw [feeder.frame a.tc service _ rc middle takenSafe checked foreign fedEq,
              schedule.get_set]
          have fewer : ((schedule.get middle).acts.filter (due tNow)).length ≤ turns := by
            have count := dueCount_cons perm ready
            rw [unchanged]
            show (others.filter (due tNow)).length ≤ turns
            omega
          obtain ⟨released, rest, after, ran, law⟩ :=
            inductionHypothesis middle middleSafe (unchanged ▸ takenWf) fewer
          have fits : ([] : List UInt8).length + a.tc.length ≤ cfg.s11TcMaxLen := by
            simpa using short
          have later : Releases tNow others released rest := by
            have releases := law.releases
            rwa [unchanged] at releases
          refine ⟨a :: released, rest, after, ?_, law.safe, ?_, later.cons perm
            wf.idsDistinct ready least, ?_⟩
          · simp only [selected, appendWithin_eq fits, removed, Option.bind_eq_bind, Option.bind_some,
              List.nil_append]
            show Option.bind (feed a.tc (schedule.set taken state)) _ = _
            simp only [fedEq, Option.bind_some, ran]
            rfl
          · rw [law.table, unchanged]
            simp [Ctx.ran, taken, Ctx.removed]
          · rw [law.packets, logged, feeder.kept]
            simp

/-- A run of an enabled schedule terminates, releases exactly the due activities
in order, and feeds each of them once. -/
theorem run_ran (feeder : Feeder cfg schedule feed Safe fed) (now : Obt) {state : σ}
    (safe : Safe state) (wf : WellFormed cfg (schedule.get state))
    (enabled : (schedule.get state).enabled = true) :
    ∃ released rest after,
      run cfg schedule feed now state = some (released.length, after) ∧
      Ran schedule Safe fed (tagKey now.coarse now.fine) state released rest after := by
  unfold run
  rw [if_neg (by simp [enabled])]
  exact releaseLoop_ran feeder _ _ state safe wf (List.length_filter_le _ _)

theorem run_disabled (now : Obt) {state : σ} (disabled : (schedule.get state).enabled = false) :
    run cfg schedule feed now state = some (0, state) :=
  if_pos disabled

/-! ### Runs on a view of the state -/

section View

variable {τ : Type} {shown : Component τ Ctx} {view : σ → τ}
  {feedShown : List UInt8 → τ → Option (TcRc × τ)}

theorem releaseLoop_view (same : schedule.Shown shown view)
    (fedAlike : ∀ pkt state,
      feedShown pkt (view state) = (feed pkt state).map (fun out => (out.1, view out.2)))
    (tNow : UInt64) (turns : Nat) (state : σ) :
    releaseLoop cfg shown feedShown tNow turns (view state) =
      (releaseLoop cfg schedule feed tNow turns state).map (fun out => (out.1, view out.2)) := by
  induction turns generalizing state with
  | zero => rfl
  | succ turns inductionHypothesis =>
      unfold releaseLoop
      rw [same.get]
      cases selected : earliestDue tNow (schedule.get state).acts with
      | none =>
          simp only [selected]
          rfl
      | some choice =>
          simp only [selected, Option.bind_eq_bind]
          cases appendWithin cfg.s11TcMaxLen [] choice.2.tc with
          | none => rfl
          | some pkt =>
              simp only [Option.bind_some]
              cases removeAt (.released tNow (schedule.get state).enabled) choice.1
                  (schedule.get state) with
              | none => rfl
              | some s =>
                  simp only [Option.bind_some, same.set, fedAlike]
                  cases feed pkt (schedule.set s state) with
                  | none => rfl
                  | some out =>
                      simp only [Option.map_some, Option.bind_some, inductionHypothesis]
                      cases releaseLoop cfg schedule feed tNow turns out.2 with
                      | none => rfl
                      | some final => rfl

/-- Where a view shows the schedule and what is fed, it shows the run. -/
theorem run_view (same : schedule.Shown shown view)
    (fedAlike : ∀ pkt state,
      feedShown pkt (view state) = (feed pkt state).map (fun out => (out.1, view out.2)))
    (now : Obt) (state : σ) :
    run cfg shown feedShown now (view state) =
      (run cfg schedule feed now state).map (fun out => (out.1, view out.2)) := by
  cases enabled : (schedule.get state).enabled with
  | false =>
      have shownEnabled := (congrArg Ctx.enabled (same.get state)).trans enabled
      rw [run_disabled now enabled, run_disabled now shownEnabled]
      rfl
  | true =>
      unfold run
      simp only [same.get, enabled, Bool.true_eq_false, if_false]
      exact releaseLoop_view same fedAlike _ _ state

end View

/-! ### Whatever is fed -/

/-- The dispatcher behind the loop may do anything that keeps `Safe`. -/
structure Closed (cfg : Config) (schedule : Component σ Ctx)
    (feed : List UInt8 → σ → Option (TcRc × σ)) (Safe : σ → Prop) : Prop where
  total : ∀ pkt state, Safe state → ∃ rc after, feed pkt state = some (rc, after) ∧ Safe after
  wellFormed : ∀ state, Safe state → WellFormed cfg (schedule.get state)
  released : ∀ state a tNow rest, Safe state → (schedule.get state).acts.Perm (a :: rest) →
    Safe (schedule.set ((schedule.get state).removed a
      (.released tNow (schedule.get state).enabled) rest) state)

theorem releaseLoop_closed (closed : Closed cfg schedule feed Safe) (tNow : UInt64) (turns : Nat)
    {state : σ} (safe : Safe state) :
    ∃ released after, releaseLoop cfg schedule feed tNow turns state = some (released, after) ∧
      Safe after := by
  induction turns generalizing state with
  | zero => exact ⟨0, state, rfl, safe⟩
  | succ turns inductionHypothesis =>
      have best := earliestDue_isBest tNow (schedule.get state).acts
      unfold releaseLoop
      cases selected : earliestDue tNow (schedule.get state).acts with
      | none => exact ⟨0, state, by simp only [selected], safe⟩
      | some choice =>
          obtain ⟨index, a⟩ := choice
          rw [selected] at best
          obtain ⟨place, _, _⟩ := best
          obtain ⟨short, _⟩ := (closed.wellFormed state safe).packets a (List.mem_of_getElem? place)
          obtain ⟨others, removed, perm⟩ :=
            removeAt_eq (.released tNow (schedule.get state).enabled) place
          have takenSafe := closed.released state a tNow others safe perm
          obtain ⟨rc, middle, fedEq, middleSafe⟩ := closed.total a.tc _ takenSafe
          obtain ⟨released, after, ran, afterSafe⟩ := inductionHypothesis middleSafe
          have fits : ([] : List UInt8).length + a.tc.length ≤ cfg.s11TcMaxLen := by
            simpa using short
          refine ⟨released + 1, after, ?_, afterSafe⟩
          simp only [selected, appendWithin_eq fits, removed, Option.bind_eq_bind, Option.bind_some,
            List.nil_append]
          show Option.bind (feed a.tc _) _ = _
          rw [fedEq]
          simp only [Option.bind_some, ran]
          rfl

/-- A run terminates and keeps what each of its releases keeps. -/
theorem run_closed (closed : Closed cfg schedule feed Safe) (now : Obt) {state : σ}
    (safe : Safe state) :
    ∃ released after, run cfg schedule feed now state = some (released, after) ∧ Safe after := by
  unfold run
  simp only
  split
  · exact ⟨0, state, rfl, safe⟩
  · exact releaseLoop_closed closed _ _ safe

theorem Releases.lawful {tNow : UInt64} {acts released rest : List Activity}
    (releases : Releases tNow acts released rest) {enabled : Bool} (switched : enabled = true) :
    ∀ a ∈ released, FateOf a (.released tNow enabled) := by
  intro a member
  exact ⟨(due_iff tNow a).mp (releases.wasDue a member), switched⟩

/-! ### The account of a run -/

/-- The packets of the released activities, in the order of their release. -/
def releasedPackets (fates : List (Activity × Fate)) : List (List UInt8) :=
  fates.filterMap (fun entry =>
    match entry.2 with
    | .released _ _ => some entry.1.tc
    | .deleted _ => none
    | .cleared => none)

theorem releasedPackets_append (first second : List (Activity × Fate)) :
    releasedPackets (first ++ second) = releasedPackets first ++ releasedPackets second :=
  List.filterMap_append

/-- No command releases anything. -/
theorem Step.releasedPackets {s after : Ctx} (step : Step cfg s after) :
    releasedPackets after.fates = releasedPackets s.fates := by
  cases step with
  | inserted u a taken uplinked serial storable room => rfl
  | deleted a rest perm =>
      show S11.releasedPackets (s.fates ++ [(a, .deleted a.requestId)]) = _
      rw [releasedPackets_append]
      exact List.append_nil _
  | cleared =>
      show S11.releasedPackets (s.fates ++ s.acts.map (fun a => (a, .cleared))) = _
      have none : S11.releasedPackets (s.acts.map (fun a => (a, Fate.cleared))) = [] := by
        apply List.filterMap_eq_nil_iff.mpr
        intro entry member
        obtain ⟨a, _, rfl⟩ := List.mem_map.mp member
        rfl
      rw [releasedPackets_append, none, List.append_nil]
  | switched flag => rfl

theorem releasedPackets_ran (s : Ctx) (tNow : UInt64) (released rest : List Activity) :
    releasedPackets (s.ran tNow released rest).fates =
      releasedPackets s.fates ++ released.map (fun a => a.tc) := by
  show releasedPackets (s.fates ++ released.map (fun a => (a, .released tNow s.enabled))) = _
  rw [releasedPackets_append]
  congr 1
  unfold releasedPackets
  rw [List.filterMap_map, ← List.filterMap_eq_map]
  rfl

/-- A run moves the activities it releases from the table to the fates. -/
theorem Ledger.ran {s : Ctx} (ledger : Ledger s) {tNow : UInt64}
    {released rest : List Activity} (releases : Releases tNow s.acts released rest)
    (enabled : s.enabled = true) : Ledger (s.ran tNow released rest) where
  account := by
    show (s.accepted.map Prod.snd).Perm
      (rest ++ (s.fates ++ released.map (fun a => (a, Fate.released tNow s.enabled))).map Prod.fst)
    have fates : (released.map (fun a => (a, Fate.released tNow s.enabled))).map Prod.fst =
        released := by
      rw [List.map_map]
      exact List.map_id' _
    rw [List.map_append, fates, ← List.append_assoc]
    have table : (s.acts ++ s.fates.map Prod.fst).Perm
        ((released ++ rest) ++ s.fates.map Prod.fst) := releases.perm.append_right _
    have turned : ((released ++ rest) ++ s.fates.map Prod.fst).Perm
        ((rest ++ s.fates.map Prod.fst) ++ released) := by
      rw [List.append_assoc]
      exact List.perm_append_comm
    exact (ledger.account.trans table).trans turned
  serials := ledger.serials
  uplinked := ledger.uplinked
  lawful := by
    intro entry member
    rcases List.mem_append.mp member with before | later
    · exact ledger.lawful entry before
    · obtain ⟨a, inReleased, rfl⟩ := List.mem_map.mp later
      exact releases.lawful enabled a inReleased
  numbered := ledger.numbered.kept rfl rfl
    (fun _ member => releases.perm.mem_iff.mpr (List.mem_append_right released member))

end Openobsw.Pus.S11
