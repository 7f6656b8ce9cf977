import Openobsw.Pus.S19

/-!
Owns what can happen to event-action: one step relation for the TC handlers and
the run, what the hook does to an event, the invariants all of it keeps, and the
law of one run.
-/

namespace Openobsw.Pus.S19

open Openobsw.Lib Openobsw.Lib.Tables Openobsw.Pus.S1 Openobsw.Pus.Handler Openobsw.Util

variable {cfg : Config}

/-- A stored action fits its entry and is a TC packet of another service. -/
structure Storable (cfg : Config) (pkt : List UInt8) : Prop where
  short : pkt.length ≤ cfg.s19ActionMaxLen
  foreign : ∃ service, tcPacketCheck pkt = some (some service) ∧ service ≠ 19

/-- Everything a command or the start of a run can do to event-action. -/
inductive Step (s : Ctx cfg) : Ctx cfg → Prop
  | replaced (index : Nat) (d : Def) (found : findDef s.defs d.eventId = some index)
      (storable : Storable cfg d.action) : Step s { s with defs := s.defs.set index d }
  | appended (d : Def) (absent : findDef s.defs d.eventId = none)
      (room : s.defs.length < s.capacity.toNat) (storable : Storable cfg d.action) :
      Step s { s with defs := s.defs ++ [d] }
  | removed (d : Def) (rest : List Def) (perm : s.defs.Perm (d :: rest)) :
      Step s { s with defs := rest }
  | cleared : Step s { s with defs := [] }
  | enabled : Step s { s with enabled := true }
  | disabled : Step s { s.emptied with enabled := false }
  | taken : Step s s.emptied

/-- The five handlers of the service. -/
inductive Command where
  | add
  | delete
  | deleteAll
  | enable
  | disable
deriving DecidableEq, Repr

/-- A TC(19,1) that asks for the definition `d`. -/
structure Asks (cfg : Config) (tc : Tc) (d : Def) : Prop where
  event : keyOf tc = some d.eventId
  action : ∀ u, tc.userData = some u → d.action = u.drop 2
  storable : Storable cfg d.action

/-- What a command does to event-action when it is executed. -/
inductive Executes : Command → Tc → Ctx cfg → Ctx cfg → Prop
  | replaced {tc : Tc} {s : Ctx cfg} (index : Nat) (d : Def) (asked : Asks cfg tc d)
      (found : findDef s.defs d.eventId = some index) :
      Executes .add tc s { s with defs := s.defs.set index d }
  | appended {tc : Tc} {s : Ctx cfg} (d : Def) (asked : Asks cfg tc d)
      (absent : findDef s.defs d.eventId = none) (room : s.defs.length < s.capacity.toNat) :
      Executes .add tc s { s with defs := s.defs ++ [d] }
  | removed {tc : Tc} {s : Ctx cfg} (d : Def) (rest : List Def) (named : keyOf tc = some d.eventId)
      (perm : s.defs.Perm (d :: rest)) : Executes .delete tc s { s with defs := rest }
  | cleared {tc : Tc} {s : Ctx cfg} : Executes .deleteAll tc s { s with defs := [] }
  | enabled {tc : Tc} {s : Ctx cfg} : Executes .enable tc s { s with enabled := true }
  | disabled {tc : Tc} {s : Ctx cfg} : Executes .disable tc s { s.emptied with enabled := false }

theorem Executes.step {command : Command} {tc : Tc} {s after : Ctx cfg}
    (executes : Executes command tc s after) : Step s after := by
  cases executes with
  | replaced index d asked found => exact .replaced index d found asked.storable
  | appended d asked absent room => exact .appended d absent room asked.storable
  | removed d rest named perm => exact .removed d rest perm
  | cleared => exact .cleared
  | enabled => exact .enabled
  | disabled => exact .disabled

/-! ### The handlers take such steps -/

theorem actionValid_cases (cfg : Config) (pkt : List UInt8) :
    actionValid cfg pkt = some false ∧ ¬ Storable cfg pkt ∨
      actionValid cfg pkt = some true ∧ Storable cfg pkt := by
  unfold actionValid
  by_cases short : pkt.length ≤ cfg.s19ActionMaxLen
  · rw [if_pos short]
    obtain ⟨result, resultEq⟩ := tcPacketCheck_isSome pkt
    rw [resultEq]
    cases result with
    | none =>
        refine .inl ⟨rfl, ?_⟩
        rintro ⟨_, service, checked, _⟩
        rw [resultEq] at checked
        cases checked
    | some service =>
        by_cases foreign : service = 19
        · refine .inl ⟨by simp [foreign], ?_⟩
          rintro ⟨_, other, checked, otherForeign⟩
          rw [resultEq] at checked
          cases checked
          exact otherForeign foreign
        · exact .inr ⟨by simp [foreign], short, service, resultEq, foreign⟩
  · exact .inl ⟨if_neg short, fun storable => short storable.short⟩

/-- An executed TC(19,1) stores what it asks for, in the place of the event or in a free one. -/
theorem Executes.asked {tc : Tc} {s after : Ctx cfg} (executes : Executes .add tc s after) :
    ∃ d, Asks cfg tc d ∧
      (findDef s.defs d.eventId = none → s.defs.length < s.capacity.toNat) := by
  cases executes with
  | replaced index d asked found =>
      refine ⟨d, asked, fun absent => ?_⟩
      rw [found] at absent
      cases absent
  | appended d asked absent room => exact ⟨d, asked, fun _ => room⟩

theorem add_decides (tc : Tc) (s : Ctx cfg) (link : Link cfg) :
    Decides tc s link (Executes .add tc s) (add tc s link) := by
  apply requireUserData_decides
  · intro after executes
    obtain ⟨d, asked, _⟩ := executes.asked
    obtain ⟨u, present, long, _⟩ := userData_of_keyOf asked.event
    exact ⟨u, present, long⟩
  intro u present long
  rcases actionValid_cases cfg (u.drop 2) with ⟨invalid, unstorable⟩ | ⟨valid, storable⟩
  · simp only [invalid, Option.bind_eq_bind, Option.bind_some, if_pos]
    apply reject_decides handlerCode_illegalAppData
    intro after executes
    obtain ⟨d, asked, _⟩ := executes.asked
    have stored := asked.storable
    rw [asked.action u present] at stored
    exact unstorable stored
  · obtain ⟨eventId, eventIdEq⟩ := obswBe16_isSome u 0 (by omega)
    have named : keyOf tc = some eventId := (keyOf_eq present).trans eventIdEq
    have fits : ([] : List UInt8).length + (u.drop 2).length ≤ cfg.s19ActionMaxLen := by
      simpa using storable.short
    simp only [valid, eventIdEq, Option.bind_eq_bind, Option.bind_some, Bool.true_eq_false,
      if_false]
    let d : Def := { eventId := eventId, action := u.drop 2 }
    have asked : Asks cfg tc d := by
      refine ⟨named, ?_, storable⟩
      intro other otherPresent
      rw [present] at otherPresent
      cases otherPresent
      rfl
    cases found : findDef s.defs eventId with
    | some index =>
        rw [if_neg (by simp)]
        apply execute_decides tc link _ (Executes.replaced index d asked found)
        unfold putDef
        rw [appendWithin_eq fits]
        rfl
    | none =>
        by_cases filled : s.defs.length ≥ s.capacity.toNat
        · rw [if_pos ⟨rfl, filled⟩]
          apply reject_decides handlerCode_execError
          intro after executes
          obtain ⟨other, otherAsked, room⟩ := executes.asked
          have sameEvent := otherAsked.event
          rw [named] at sameEvent
          cases sameEvent
          exact Nat.not_lt_of_le filled (room found)
        · rw [if_neg (fun both => filled both.2)]
          have room := Nat.lt_of_not_ge filled
          apply execute_decides tc link _ (Executes.appended d asked found room)
          unfold putDef
          rw [appendWithin_eq fits]
          show (pushWithin s.capacity.toNat s.defs d).bind _ = _
          rw [pushWithin_eq d room]
          rfl

theorem delete_decides (tc : Tc) (s : Ctx cfg) (link : Link cfg) :
    Decides tc s link (Executes .delete tc s) (delete tc s link) := by
  apply deleteByKey_decides
  · intro after executes
    cases executes with
    | removed d rest named perm =>
        have listed : d.eventId ∈ s.defs.map Def.eventId :=
          List.mem_map_of_mem (perm.mem_iff.mpr List.mem_cons_self)
        cases found : findDef s.defs d.eventId with
        | none => exact absurd listed ((findKey_eq_none_iff Def.eventId s.defs d.eventId).mp found)
        | some index => exact ⟨d.eventId, index, named, found⟩
  · intro eventId index named found
    obtain ⟨d, place, same⟩ := findKey_some found
    obtain ⟨inRange, _⟩ := List.getElem?_eq_some_iff.mp place
    obtain ⟨rest, removed, _⟩ := swapRemove_perm inRange
    subst same
    refine ⟨{ s with defs := rest }, ?_,
      .removed d rest named (perm_cons_of_swapRemove place removed)⟩
    unfold removeDef
    rw [removed]
    rfl

theorem deleteAll_decides (tc : Tc) (s : Ctx cfg) (link : Link cfg) :
    Decides tc s link (Executes .deleteAll tc s) (deleteAll tc s link) :=
  execute_decides tc link rfl .cleared

theorem enable_decides (tc : Tc) (s : Ctx cfg) (link : Link cfg) :
    Decides tc s link (Executes .enable tc s) (enable tc s link) :=
  execute_decides tc link rfl .enabled

theorem disable_decides (tc : Tc) (s : Ctx cfg) (link : Link cfg) :
    Decides tc s link (Executes .disable tc s) (disable tc s link) :=
  execute_decides tc link rfl .disabled

def handle : Command → Tc → Ctx cfg → Link cfg → Option (Int × Ctx cfg × Link cfg)
  | .add => add
  | .delete => delete
  | .deleteAll => deleteAll
  | .enable => enable
  | .disable => disable

theorem handle_decides (command : Command) (tc : Tc) (s : Ctx cfg) (link : Link cfg) :
    Decides tc s link (Executes command tc s) (handle command tc s link) := by
  cases command with
  | add => exact add_decides tc s link
  | delete => exact delete_decides tc s link
  | deleteAll => exact deleteAll_decides tc s link
  | enable => exact enable_decides tc s link
  | disable => exact disable_decides tc s link

theorem handle_updates (command : Command) (tc : Tc) (s : Ctx cfg) (link : Link cfg) :
    Updates tc s link (Step s) (handle command tc s link) :=
  (handle_decides command tc s link).updates (fun _ executes => executes.step)

/-! ### The event hook -/

/-- The conditions under which an event is queued. -/
def Queues (s : Ctx cfg) (eventId : UInt16) : Prop :=
  s.enabled = true ∧ eventId ∈ s.defs.map (fun d => d.eventId) ∧
    s.queue.length < cfg.s19QueueLen

/-- The conditions under which an event is lost to a full queue. -/
def Drops (s : Ctx cfg) (eventId : UInt16) : Prop :=
  s.enabled = true ∧ eventId ∈ s.defs.map (fun d => d.eventId) ∧
    ¬ s.queue.length < cfg.s19QueueLen

theorem ignored_iff (s : Ctx cfg) (eventId : UInt16) :
    s.enabled = false ∨ findDef s.defs eventId = none ↔
      ¬ (s.enabled = true ∧ eventId ∈ s.defs.map (fun d => d.eventId)) := by
  have absent := findKey_eq_none_iff Def.eventId s.defs eventId
  rw [findDef, absent]
  cases s.enabled <;> simp

theorem onEvent_queues {s : Ctx cfg} {eventId : UInt16} (queues : Queues s eventId) :
    (onEvent eventId s).queue = s.queue ++ [eventId] ∧
      (onEvent eventId s).dropped = s.dropped := by
  obtain ⟨enabled, defined, room⟩ := queues
  unfold onEvent
  rw [if_neg (fun ignored => (ignored_iff s eventId).mp ignored ⟨enabled, defined⟩), dif_pos room]
  exact ⟨rfl, rfl⟩

theorem onEvent_drops {s : Ctx cfg} {eventId : UInt16} (drops : Drops s eventId) :
    onEvent eventId s = { s with dropped := s.dropped + 1 } := by
  obtain ⟨enabled, defined, full⟩ := drops
  unfold onEvent
  rw [if_neg (fun ignored => (ignored_iff s eventId).mp ignored ⟨enabled, defined⟩), dif_neg full]

theorem onEvent_ignored {s : Ctx cfg} {eventId : UInt16} (other : ¬ Queues s eventId)
    (kept : ¬ Drops s eventId) : onEvent eventId s = s := by
  unfold onEvent
  rw [if_pos]
  rw [ignored_iff]
  rintro ⟨enabled, defined⟩
  by_cases room : s.queue.length < cfg.s19QueueLen
  · exact other ⟨enabled, defined, room⟩
  · exact kept ⟨enabled, defined, room⟩

theorem onEvent_frame (eventId : UInt16) (s : Ctx cfg) :
    (onEvent eventId s).defs = s.defs ∧ (onEvent eventId s).capacity = s.capacity ∧
      (onEvent eventId s).enabled = s.enabled := by
  unfold onEvent
  split
  · exact ⟨rfl, rfl, rfl⟩
  · split
    · exact ⟨rfl, rfl, rfl⟩
    · exact ⟨rfl, rfl, rfl⟩

/-- The hook on a sequence of events, oldest first. -/
def onEvents (events : List UInt16) (s : Ctx cfg) : Ctx cfg :=
  events.foldl (fun s eventId => onEvent eventId s) s

@[simp] theorem onEvents_nil (s : Ctx cfg) : onEvents [] s = s := rfl

theorem onEvents_append (first second : List UInt16) (s : Ctx cfg) :
    onEvents (first ++ second) s = onEvents second (onEvents first s) :=
  List.foldl_append

theorem onEvents_frame (events : List UInt16) (s : Ctx cfg) :
    (onEvents events s).defs = s.defs ∧ (onEvents events s).capacity = s.capacity ∧
      (onEvents events s).enabled = s.enabled := by
  induction events generalizing s with
  | nil => exact ⟨rfl, rfl, rfl⟩
  | cons eventId rest inductionHypothesis =>
      obtain ⟨defs, capacity, enabled⟩ := inductionHypothesis (onEvent eventId s)
      obtain ⟨sameDefs, sameCapacity, sameEnabled⟩ := onEvent_frame eventId s
      exact ⟨defs.trans sameDefs, capacity.trans sameCapacity, enabled.trans sameEnabled⟩

/-! ### What every step keeps -/

structure WellFormed (s : Ctx cfg) : Prop where
  idsDistinct : (s.defs.map (fun d => d.eventId)).Nodup
  fits : s.defs.length ≤ s.capacity.toNat
  actions : ∀ d ∈ s.defs, Storable cfg d.action
  disabledEmpty : s.enabled = false → s.queue = []

theorem wellFormed_init (cfg : Config) (capacity : UInt8) : WellFormed (init cfg capacity) where
  idsDistinct := by simp [init]
  fits := by simp [init]
  actions := by simp [init]
  disabledEmpty := by simp [init]

theorem WellFormed.event {s : Ctx cfg} (wf : WellFormed s) (eventId : UInt16) :
    WellFormed (onEvent eventId s) := by
  obtain ⟨defs, capacity, enabled⟩ := onEvent_frame eventId s
  refine ⟨by rw [defs]; exact wf.idsDistinct, by rw [defs, capacity]; exact wf.fits,
    by rw [defs]; exact wf.actions, ?_⟩
  intro disabled
  rw [enabled] at disabled
  have ignored : onEvent eventId s = s := if_pos (.inl disabled)
  rw [ignored]
  exact wf.disabledEmpty disabled

theorem WellFormed.step {s after : Ctx cfg} (wf : WellFormed s) (step : Step s after) :
    WellFormed after := by
  cases step with
  | replaced index d found storable =>
      refine ⟨?_, ?_, ?_, wf.disabledEmpty⟩
      · show ((s.defs.set index d).map (fun d => d.eventId)).Nodup
        rw [map_set_of_findKey Def.eventId found]
        exact wf.idsDistinct
      · show (s.defs.set index d).length ≤ s.capacity.toNat
        rw [List.length_set]
        exact wf.fits
      · intro other member
        rcases List.mem_or_eq_of_mem_set member with before | same
        · exact wf.actions other before
        · rw [same]
          exact storable
  | appended d absent room storable =>
      refine ⟨?_, ?_, ?_, wf.disabledEmpty⟩
      · show ((s.defs ++ [d]).map (fun d => d.eventId)).Nodup
        rw [List.map_append]
        apply List.Nodup.append wf.idsDistinct (List.nodup_singleton _)
        intro eventId before last
        rw [List.mem_singleton.mp last] at before
        exact (findKey_eq_none_iff Def.eventId s.defs d.eventId).mp absent before
      · show (s.defs ++ [d]).length ≤ s.capacity.toNat
        rw [List.length_append]
        exact room
      · intro other member
        rcases List.mem_append.mp member with before | last
        · exact wf.actions other before
        · rw [List.mem_singleton.mp last]
          exact storable
  | removed d rest perm =>
      have ids : ((d :: rest).map (fun d => d.eventId)).Nodup :=
        (perm.map (fun d => d.eventId)).nodup_iff.mp wf.idsDistinct
      refine ⟨(List.nodup_cons.mp ids).2, ?_, ?_, wf.disabledEmpty⟩
      · have count : s.defs.length = rest.length + 1 := perm.length_eq
        have fits := wf.fits
        show rest.length ≤ s.capacity.toNat
        omega
      · intro other member
        exact wf.actions other (perm.mem_iff.mpr (List.mem_cons_of_mem d member))
  | cleared => exact ⟨by simp, by simp, by simp, wf.disabledEmpty⟩
  | enabled => exact ⟨wf.idsDistinct, wf.fits, wf.actions, by simp⟩
  | disabled => exact ⟨wf.idsDistinct, wf.fits, wf.actions, fun _ => rfl⟩
  | taken => exact ⟨wf.idsDistinct, wf.fits, wf.actions, fun _ => rfl⟩

/-- Only an event makes the queue longer or is dropped. -/
theorem Step.queue {s after : Ctx cfg} (step : Step s after) :
    (after.queue = s.queue ∨ after.queue = []) ∧ after.dropped = s.dropped := by
  cases step with
  | disabled => exact ⟨.inr rfl, rfl⟩
  | taken => exact ⟨.inr rfl, rfl⟩
  | _ => exact ⟨.inl rfl, rfl⟩

/-! ### The law of one run -/

variable {σ : Type}

/-- The batch is gone through in order: an entry without a definition is skipped,
for any other the action stored at that moment is fed. -/
inductive Dispatches (part : Component σ (Ctx cfg)) (feed : List UInt8 → σ → Option (TcRc × σ)) :
    List UInt16 → σ → List (List UInt8) → σ → Prop
  | done (state : σ) : Dispatches part feed [] state [] state
  | skipped {eventId : UInt16} {rest : List UInt16} {state after : σ} {actions : List (List UInt8)}
      (undefined : actionOf (part.get state).defs eventId = none)
      (later : Dispatches part feed rest state actions after) :
      Dispatches part feed (eventId :: rest) state actions after
  | fed {eventId : UInt16} {rest : List UInt16} {state middle after : σ}
      {actions : List (List UInt8)} {rc : TcRc} (d : Def) (stored : d ∈ (part.get state).defs)
      (action : actionOf (part.get state).defs eventId = some d.action)
      (ran : feed d.action state = some (rc, middle))
      (later : Dispatches part feed rest middle actions after) :
      Dispatches part feed (eventId :: rest) state (d.action :: actions) after

/-- The dispatcher behind the run may do anything that keeps `Safe`. -/
structure Closed (part : Component σ (Ctx cfg)) (feed : List UInt8 → σ → Option (TcRc × σ))
    (Safe : σ → Prop) : Prop where
  total : ∀ pkt state, Safe state → ∃ rc after, feed pkt state = some (rc, after) ∧ Safe after
  emptied : ∀ state, Safe state → Safe (part.set (part.get state).emptied state)

variable {part : Component σ (Ctx cfg)} {feed : List UInt8 → σ → Option (TcRc × σ)}
  {Safe : σ → Prop}

theorem runBatch_dispatches (closed : Closed part feed Safe) (batch : List UInt16) {state : σ}
    (safe : Safe state) :
    ∃ actions after, runBatch part feed batch state = some (actions.length, after) ∧ Safe after ∧
      Dispatches part feed batch state actions after := by
  induction batch generalizing state with
  | nil => exact ⟨[], state, rfl, safe, .done state⟩
  | cons eventId rest inductionHypothesis =>
      unfold runBatch
      cases found : findDef (part.get state).defs eventId with
      | none =>
          obtain ⟨actions, after, ran, afterSafe, later⟩ := inductionHypothesis safe
          exact ⟨actions, after, ran, afterSafe, .skipped (actionOf_none found) later⟩
      | some index =>
          obtain ⟨d, stored, place, action⟩ := findDef_action found
          obtain ⟨rc, middle, fedEq, middleSafe⟩ := closed.total d.action state safe
          obtain ⟨actions, after, ran, afterSafe, later⟩ := inductionHypothesis middleSafe
          refine ⟨d.action :: actions, after, ?_, afterSafe, .fed d stored action fedEq later⟩
          simp only [place, fedEq, ran, Option.bind_eq_bind, Option.bind_some]
          rfl

/-- A run ends, keeps what each action it feeds keeps, and dispatches exactly the
entries that waited when it started. -/
theorem run_dispatches (closed : Closed part feed Safe) {state : σ} (safe : Safe state) :
    ∃ actions after, run part feed state = some (actions.length, after) ∧ Safe after ∧
      Dispatches part feed (part.get state).queue (part.set (part.get state).emptied state)
        actions after :=
  runBatch_dispatches closed _ (closed.emptied state safe)

section View

variable {τ : Type} {shown : Component τ (Ctx cfg)} {view : σ → τ}
  {feedShown : List UInt8 → τ → Option (TcRc × τ)}

theorem runBatch_view (same : part.Shown shown view)
    (fedAlike : ∀ pkt state,
      feedShown pkt (view state) = (feed pkt state).map (fun out => (out.1, view out.2)))
    (batch : List UInt16) (state : σ) :
    runBatch shown feedShown batch (view state) =
      (runBatch part feed batch state).map (fun out => (out.1, view out.2)) := by
  induction batch generalizing state with
  | nil => rfl
  | cons eventId rest inductionHypothesis =>
      unfold runBatch
      rw [same.get]
      cases findDef (part.get state).defs eventId with
      | none => exact inductionHypothesis state
      | some index =>
          cases place : (part.get state).defs[index]? with
          | none =>
              simp only [place]
              rfl
          | some d =>
              simp only [place, Option.bind_eq_bind, Option.bind_some, fedAlike]
              cases feed d.action state with
              | none => rfl
              | some out =>
                  simp only [Option.map_some, Option.bind_some, inductionHypothesis]
                  cases runBatch part feed rest out.2 with
                  | none => rfl
                  | some final => rfl

/-- Where a view shows the service and what is fed, it shows the run. -/
theorem run_view (same : part.Shown shown view)
    (fedAlike : ∀ pkt state,
      feedShown pkt (view state) = (feed pkt state).map (fun out => (out.1, view out.2)))
    (state : σ) :
    run shown feedShown (view state) =
      (run part feed state).map (fun out => (out.1, view out.2)) := by
  unfold run
  simp only [same.get, same.set]
  exact runBatch_view same fedAlike _ _

end View

/-- Where the actions fed keep the definitions, they are those stored at the start. -/
theorem Dispatches.actions_eq {P : σ → Prop} {batch : List UInt16} {state after : σ}
    {actions : List (List UInt8)} (dispatches : Dispatches part feed batch state actions after)
    (frame : ∀ d state middle rc, P state → d ∈ (part.get state).defs →
      feed d.action state = some (rc, middle) →
      P middle ∧ (part.get middle).defs = (part.get state).defs)
    (kept : P state) :
    actions = batch.filterMap (actionOf (part.get state).defs) ∧ P after := by
  induction dispatches with
  | done state => exact ⟨rfl, kept⟩
  | skipped undefined later inductionHypothesis =>
      rw [List.filterMap_cons_none undefined]
      exact inductionHypothesis kept
  | fed d stored action ran later inductionHypothesis =>
      obtain ⟨middleKept, sameDefs⟩ := frame d _ _ _ kept stored ran
      obtain ⟨same, afterKept⟩ := inductionHypothesis middleKept
      rw [List.filterMap_cons_some action, same, sameDefs]
      exact ⟨rfl, afterKept⟩

end Openobsw.Pus.S19
