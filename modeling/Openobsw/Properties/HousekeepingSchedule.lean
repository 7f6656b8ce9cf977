import Openobsw.Properties.HousekeepingSets

/-!
Owns the schedule of housekeeping: at which ticks a set attempts a TM(3,25) by itself, over
every interleaving of ticks and commands, and in which order within one tick.
-/

namespace Openobsw.Pus.S3

open Openobsw.Lib.Tables Openobsw.Pus.S1 Openobsw.Pus.Handler Openobsw.Util

variable {cfg : Config} {table : List S20.Param} {s : Ctx} {structures : List Structure}

/-! ### The attempts of a run -/

/-- The tick loop with the IDs of the sets on which it calls `emit_hk_report`. -/
def tickFromCalls (vars : Variables) :
    Nat → Nat → Ctx → Port cfg → Option (List UInt8 × Ctx × Port cfg)
  | 0, _, s, tm => some ([], s, tm)
  | turns + 1, index, s, tm => do
      let set ← s.sets[index]?
      let (reports, after) := set.ticked
      if reports then do
        let (_, s, tm) ← emitHkReport vars set s tm
        let (calls, s, tm) ←
          tickFromCalls vars turns (index + 1) (modifySet index (fun _ => after) s) tm
        return (set.setId :: calls, s, tm)
      else tickFromCalls vars turns (index + 1) (modifySet index (fun _ => after) s) tm

/-- `obsw_s3_tick` with its calls of `emit_hk_report`. -/
def tickCalls (vars : Variables) (s : Ctx) (tm : Port cfg) :
    Option (List UInt8 × Ctx × Port cfg) :=
  tickFromCalls vars s.sets.length 0 s tm

/-- An operation with the attempts it makes: for a tick, the list of its attempts. -/
def Operation.attempts (world : World cfg) :
    Operation → Option (List (List UInt8) × World cfg)
  | .tick => do
      let (calls, s3, tm) ← tickCalls world.vars world.s3 world.link.tm
      return ([calls], { world with s3 := s3, link := { world.link with tm := tm } })
  | operation => do
      let after ← operation.run world
      return ([], after)

/-- A sequence of operations with the attempts of each of its ticks. -/
def attempts : List Operation → World cfg → Option (List (List UInt8) × World cfg)
  | [], world => some ([], world)
  | operation :: rest, world => do
      let (first, world) ← operation.attempts world
      let (later, world) ← attempts rest world
      return (first ++ later, world)

theorem emitHkReport_sets {vars : Variables} {set : HkSet} {tm : Port cfg}
    {out : TmRc × Ctx × Port cfg} (ran : emitHkReport vars set s tm = some out) :
    out.2.1.sets = s.sets := by
  obtain ⟨written, _, rest⟩ := Option.bind_eq_some_iff.mp ran
  cases written with
  | none =>
      cases rest
      rfl
  | some bytes =>
      obtain ⟨built, _, same⟩ := Option.bind_eq_some_iff.mp rest
      cases same
      rfl

/-- Recording the calls changes nothing, and the calls are those on the sets that are due. -/
theorem tickFromCalls_eq (vars : Variables) {rest : List HkSet} :
    ∀ (s : Ctx) (tm : Port cfg) (index : Nat), s.sets.drop index = rest →
      tickFromCalls vars rest.length index s tm =
        (tickFrom vars rest.length index s tm).map (fun out =>
          ((reporting rest).map (fun set => set.setId), out)) := by
  induction rest with
  | nil =>
      intro s tm index _
      rfl
  | cons set rest inductionHypothesis =>
      intro s tm index ahead
      have place := getElem?_of_drop ahead
      have behind : ∀ (now : Ctx) (change : HkSet → HkSet), now.sets = s.sets →
          (modifySet index change now).sets.drop (index + 1) = rest :=
        fun now change same => drop_succ_modify (same ▸ ahead) change
      show tickFromCalls vars (rest.length + 1) index s tm =
        (tickFrom vars (rest.length + 1) index s tm).map _
      unfold tickFromCalls tickFrom tickSet
      simp only [place, Option.bind_eq_bind, Option.bind_some]
      cases due : set.ticked.1 with
      | false =>
          have skipped : reporting (set :: rest) = reporting rest :=
            List.filter_cons_of_neg (by simp [due])
          rw [skipped]
          exact inductionHypothesis _ tm (index + 1) (behind s _ rfl)
      | true =>
          have listed : reporting (set :: rest) = set :: reporting rest :=
            List.filter_cons_of_pos due
          rw [listed]
          simp only [if_true]
          cases emitted : emitHkReport vars set s tm with
          | none => rfl
          | some out =>
              have later := inductionHypothesis (modifySet index (fun _ => set.ticked.2) out.2.1)
                out.2.2 (index + 1) (behind out.2.1 _ (emitHkReport_sets emitted))
              simp only [Option.bind_some, Option.pure_def, later]
              cases tickFrom vars rest.length (index + 1)
                (modifySet index (fun _ => set.ticked.2) out.2.1) out.2.2 with
              | none => rfl
              | some final => rfl

theorem tickCalls_eq (vars : Variables) (s : Ctx) (tm : Port cfg) :
    tickCalls vars s tm = (tick vars s tm).map (fun out =>
      ((reporting s.sets).map (fun set => set.setId), out)) :=
  tickFromCalls_eq vars s tm 0 List.drop_zero

/-- The calls of an operation: those of a tick are on the sets that are due, in table order. -/
def Operation.calls (world : World cfg) : Operation → List (List UInt8)
  | .tick => [(reporting world.s3.sets).map (fun set => set.setId)]
  | _ => []

theorem Operation.attempts_eq (operation : Operation) (world : World cfg) :
    operation.attempts world =
      (operation.run world).map (fun after => (operation.calls world, after)) := by
  cases operation with
  | tick =>
      show Option.bind _ _ = Option.map _ (Option.bind _ _)
      rw [tickCalls_eq]
      cases S3.tick world.vars world.s3 world.link.tm with
      | none => rfl
      | some out => rfl
  | _ =>
      unfold Operation.attempts
      simp only [Option.bind_eq_bind]
      generalize Operation.run world _ = result
      cases result with
      | none => rfl
      | some after => rfl

/-- The attempts are recorded beside the run. -/
theorem attempts_run (operations : List Operation) (world : World cfg) :
    (attempts operations world).map (fun out => out.2) = runs operations world := by
  induction operations generalizing world with
  | nil => rfl
  | cons operation rest inductionHypothesis =>
      unfold attempts runs
      rw [List.foldlM_cons, operation.attempts_eq world]
      cases operation.run world with
      | none => rfl
      | some after =>
          have later := inductionHypothesis after
          unfold runs at later
          simp only [Option.bind_eq_bind, Option.bind_some, Option.map_some]
          rw [← later]
          cases attempts rest after with
          | none => rfl
          | some final => rfl

/-! ### What a tick attempts -/

/-- The IDs of the structures that are due, in table order. -/
def dueIds (structures : List Structure) : List UInt8 :=
  (structures.filter (fun a => a.ticked.1)).map (fun a => a.setId)

theorem layout_reporting (offset : Nat) (structures : List Structure) :
    (reporting (layout offset structures)).map (fun set => set.setId) = dueIds structures := by
  induction structures generalizing offset with
  | nil => rfl
  | cons a rest inductionHypothesis =>
      have tail := inductionHypothesis (offset + a.source.ids.length)
      unfold reporting dueIds at tail ⊢
      show ((a.render offset :: layout _ rest).filter _).map _ = _
      rw [List.filter_cons, List.filter_cons, render_ticked]
      cases a.ticked.1 with
      | false => exact tail
      | true =>
          simp only [if_true, List.map_cons, tail]
          rfl

/-- A tick attempts the structures that are due; no other operation attempts any. -/
theorem World.Holds.calls_eq {world : World cfg} (holds : world.Holds structures)
    (operation : Operation) :
    operation.calls world =
      match operation with
      | .tick => [dueIds structures]
      | _ => [] := by
  cases operation with
  | tick =>
      show [(reporting world.s3.sets).map (fun set => set.setId)] = _
      rw [holds.sets, layout_reporting]
  | _ => rfl

/-! ### A set that runs -/

/-- An operation is a TC(3,5) for a set, long enough to be read. -/
def Operation.Enables (setId : UInt8) (operation : Operation) : Prop :=
  ∃ tc u, operation = .handled .enable tc ∧ tc.userData = some u ∧ 5 ≤ u.length ∧
    u[0]? = some setId

/-- An operation is a TC(3,6) for a set. -/
def Operation.Disables (setId : UInt8) (operation : Operation) : Prop :=
  ∃ tc u, operation = .handled .disable tc ∧ tc.userData = some u ∧ u[0]? = some setId

/-- `k` ticks after it was enabled with interval `T`, what is left of the interval under way is
in the countdown. -/
structure Structure.Running (T : UInt32) (k : Nat) (a : Structure) : Prop where
  enabled : a.enabled = true
  interval : a.intervalTicks = T
  countdown : T ≠ 0 → a.countdown.toNat = T.toNat - k % T.toNat

theorem Structure.started_running (T : UInt32) (a : Structure) : (a.started T).Running T 0 :=
  ⟨rfl, rfl, fun _ => rfl⟩

theorem succ_mod_eq {T : Nat} (positive : 0 < T) (k : Nat) :
    (k + 1) % T = if k % T + 1 = T then 0 else k % T + 1 := by
  have below := Nat.mod_lt k positive
  rw [← Nat.mod_add_mod]
  split
  · rename_i last
    rw [last, Nat.mod_self]
  · rename_i inside
    exact Nat.mod_eq_of_lt (by omega)

/-- A running structure is due at the multiples of its interval, and runs on. -/
theorem Structure.Running.ticked {T : UInt32} {k : Nat} {a : Structure} (running : a.Running T k) :
    (a.ticked.1 = true ↔ T ≠ 0 ∧ T.toNat ∣ k + 1) ∧ a.ticked.2.Running T (k + 1) := by
  have enabled := running.enabled
  have interval := running.interval
  unfold Structure.ticked
  by_cases zero : T = 0
  · rw [if_pos (.inr (interval.trans zero))]
    exact ⟨by simp [zero], enabled, interval, fun nonzero => absurd zero nonzero⟩
  have countdown := running.countdown zero
  have positive : 0 < T.toNat :=
    Nat.pos_of_ne_zero (fun none => zero (UInt32.toNat_inj.mp none))
  have below := Nat.mod_lt k positive
  have counting : a.countdown > 0 := by
    rw [gt_iff_lt, UInt32.lt_iff_toNat_lt]
    show 0 < a.countdown.toNat
    omega
  have left : (a.countdown - 1).toNat = T.toNat - k % T.toNat - 1 := by
    rw [UInt32.toNat_sub_of_le _ _ (by rw [UInt32.le_iff_toNat_le]; show 1 ≤ a.countdown.toNat; omega),
      countdown]
    rfl
  have next := succ_mod_eq positive k
  rw [if_neg (by simp [enabled, interval, zero])]
  simp only [if_pos counting, Nat.dvd_iff_mod_eq_zero, next]
  by_cases last : k % T.toNat + 1 = T.toNat
  · have elapsed : a.countdown - 1 = 0 := UInt32.toNat_inj.mp (by rw [left]; show _ = 0; omega)
    rw [if_pos elapsed, if_pos last]
    refine ⟨by simp [zero], enabled, interval, fun _ => ?_⟩
    show a.intervalTicks.toNat = _
    rw [interval, next, if_pos last, Nat.sub_zero]
  · have ahead : a.countdown - 1 ≠ 0 := by
      intro elapsed
      rw [elapsed] at left
      have none : (0 : UInt32).toNat = 0 := rfl
      omega
    rw [if_neg ahead, if_neg last]
    refine ⟨by simp, enabled, interval, fun _ => ?_⟩
    show (a.countdown - 1).toNat = _
    rw [left, next, if_neg last]
    omega

theorem obswBe32_long {u : List UInt8} {value : UInt32} (read : obswBe32 u 1 = some value) :
    5 ≤ u.length := by
  obtain ⟨_, _, rest⟩ := Option.bind_eq_some_iff.mp read
  obtain ⟨_, _, rest⟩ := Option.bind_eq_some_iff.mp rest
  obtain ⟨_, _, rest⟩ := Option.bind_eq_some_iff.mp rest
  obtain ⟨_, last, _⟩ := Option.bind_eq_some_iff.mp rest
  obtain ⟨inside, _⟩ := List.getElem?_eq_some_iff.mp last
  exact inside

theorem mem_changed_other {setId : UInt8} {change : Structure → Structure} {a : Structure}
    (member : a ∈ structures) (other : a.setId ≠ setId) :
    a ∈ changed setId change structures := by
  have kept : (if a.setId = setId then change a else a) = a := if_neg other
  rw [← kept]
  exact List.mem_map_of_mem (f := fun b : Structure => if b.setId = setId then change b else b) member

/-- Only a tick or a command for the set itself changes an enabled structure. -/
theorem Evolves.enabled_kept {others : List Structure} {operation : Operation}
    (evolves : Evolves cfg table s structures operation others)
    (distinct : (structures.map (fun a => a.setId)).Nodup) {a : Structure}
    (member : a ∈ structures) (enabled : a.enabled = true)
    (calm : ¬ operation.Enables a.setId ∧ ¬ operation.Disables a.setId) :
    (match operation with
      | .tick => a.ticked.2
      | _ => a) ∈ others := by
  cases evolves with
  | @commanded command tc others feasible done =>
      cases done with
      | define u created present from_ => exact List.mem_append_left _ member
      | delete u setIds present lists removables =>
          refine List.mem_filter.mpr ⟨member, decide_eq_true ?_⟩
          intro removed
          obtain ⟨b, bMember, named, disabled, _⟩ := removables a.setId removed
          rw [List.inj_on_of_nodup_map distinct bMember member named, enabled] at disabled
          cases disabled
      | enable u setId interval present named read =>
          refine mem_changed_other member ?_
          intro same
          exact calm.1 ⟨tc, u, rfl, present, obswBe32_long read, same ▸ named⟩
      | disable u setId present named =>
          refine mem_changed_other member ?_
          intro same
          exact calm.2 ⟨tc, u, rfl, present, same ▸ named⟩
  | ticked => exact List.mem_map_of_mem (f := fun b : Structure => b.ticked.2) member
  | _ => exact member

theorem mem_dueIds_iff (distinct : (structures.map (fun a => a.setId)).Nodup) {a : Structure}
    (member : a ∈ structures) : a.setId ∈ dueIds structures ↔ a.ticked.1 = true := by
  constructor
  · intro listed
    obtain ⟨b, due, named⟩ := List.mem_map.mp listed
    rw [List.mem_filter] at due
    rw [← List.inj_on_of_nodup_map distinct due.1 member named]
    exact due.2
  · intro due
    exact List.mem_map_of_mem (List.mem_filter.mpr ⟨member, due⟩)

def Operation.isTick : Operation → Bool
  | .tick => true
  | _ => false

/-- One operation from a world that holds structures, with the attempts it makes. -/
theorem World.Holds.attempts_step {world : World cfg} (holds : world.Holds structures)
    (operation : Operation) :
    ∃ after others, operation.attempts world = some (operation.calls world, after) ∧
      Evolves cfg world.s20.table world.s3 structures operation others ∧ after.Holds others := by
  obtain ⟨after, others, ran, evolves, afterHolds, _⟩ := holds.step ⟨rfl, .refl world.s3⟩ operation
  refine ⟨after, others, ?_, evolves, afterHolds⟩
  rw [operation.attempts_eq, ran]
  rfl

theorem attempts_cons {operation : Operation} {rest : List Operation} {world middle after : World cfg}
    {first later : List (List UInt8)} (head : operation.attempts world = some (first, middle))
    (tail : attempts rest middle = some (later, after)) :
    attempts (operation :: rest) world = some (first ++ later, after) := by
  unfold attempts
  rw [head]
  simp only [Option.bind_eq_bind, Option.bind_some, tail]
  rfl

/-- A run on which no command names the set: a structure that was enabled `k` ticks before is
attempted at each multiple of its interval, counted from then, and at no other tick. -/
theorem World.Holds.running {setId : UInt8} {T : UInt32} {rest : List Operation}
    (calm : ∀ operation ∈ rest, ¬ operation.Enables setId ∧ ¬ operation.Disables setId) :
    ∀ {world : World cfg} {structures : List Structure} {a : Structure} {k : Nat},
      world.Holds structures → a ∈ structures → a.setId = setId → a.Running T k →
      ∃ lists after, attempts rest world = some (lists, after) ∧
        lists.length = rest.countP Operation.isTick ∧
        ∀ i calls, lists[i]? = some calls →
          (setId ∈ calls ↔ T ≠ 0 ∧ T.toNat ∣ k + i + 1) := by
  induction rest with
  | nil =>
      intro world structures a k _ _ _ _
      exact ⟨[], world, rfl, rfl, fun i calls place => by simp at place⟩
  | cons operation rest inductionHypothesis =>
      intro world structures a k holds member named running
      have quiet := calm operation List.mem_cons_self
      rw [← named] at quiet
      obtain ⟨middle, others, head, evolves, middleHolds⟩ := holds.attempts_step operation
      have kept := evolves.enabled_kept holds.idsDistinct member running.enabled quiet
      have made := holds.calls_eq operation
      have continued := fun {b} {n} => @inductionHypothesis
        (fun other inRest => calm other (List.mem_cons_of_mem operation inRest)) middle others b n
        middleHolds
      cases operation with
      | tick =>
          obtain ⟨due, next⟩ := running.ticked
          obtain ⟨later, after, tail, count, schedule⟩ :=
            continued kept ((ticked_keeps a).1.trans named) next
          refine ⟨_, after, attempts_cons head tail, ?_, ?_⟩
          · rw [made, List.length_append, count, List.countP_cons_of_pos rfl]
            exact Nat.add_comm _ _
          · intro i calls place
            rw [made] at place
            cases i with
            | zero =>
                cases place
                rw [← named, mem_dueIds_iff holds.idsDistinct member]
                exact due
            | succ i =>
                have counted := schedule i calls place
                rw [Nat.add_right_comm k 1 i] at counted
                exact counted
      | _ =>
          obtain ⟨later, after, tail, count, schedule⟩ := continued kept named running
          refine ⟨_, after, attempts_cons head tail, ?_, ?_⟩
          · rw [made]
            exact count
          · intro i calls place
            rw [made] at place
            exact schedule i calls place

/-! ### A set that does not run -/

/-- No structure with the ID is enabled with an interval. -/
def Idle (setId : UInt8) (structures : List Structure) : Prop :=
  ∀ a ∈ structures, a.setId = setId → a.enabled = false ∨ a.intervalTicks = 0

theorem ticked_of_idle {a : Structure} (idle : a.enabled = false ∨ a.intervalTicks = 0) :
    a.ticked = (false, a) := if_pos idle

/-- Only a TC(3,5) for the set makes it run. -/
theorem Evolves.idle {setId : UInt8} {others : List Structure} {operation : Operation}
    (evolves : Evolves cfg table s structures operation others) (calm : ¬ operation.Enables setId)
    (idle : Idle setId structures) : Idle setId others := by
  cases evolves with
  | @commanded command tc others feasible done =>
      intro a member named
      cases done with
      | define u created present from_ =>
          rcases List.mem_append.mp member with before | last
          · exact idle a before named
          · rw [List.mem_singleton.mp last]
            exact .inl from_.disabled
      | delete u setIds present lists removables =>
          exact idle a (List.mem_of_mem_filter member) named
      | enable u other interval present read intervalRead =>
          obtain ⟨b, bMember, same⟩ := List.mem_map.mp member
          by_cases hit : b.setId = other
          · rw [if_pos hit] at same
            subst same
            exact absurd ⟨tc, u, rfl, present, obswBe32_long intervalRead,
              by rw [read, ← hit, ← named]; rfl⟩ calm
          · rw [if_neg hit] at same
            subst same
            exact idle b bMember named
      | disable u other present read =>
          obtain ⟨b, bMember, same⟩ := List.mem_map.mp member
          by_cases hit : b.setId = other
          · rw [if_pos hit] at same
            subst same
            exact .inl rfl
          · rw [if_neg hit] at same
            subst same
            exact idle b bMember named
  | ticked =>
      intro a member named
      obtain ⟨b, bMember, same⟩ := List.mem_map.mp member
      subst same
      obtain ⟨countdown, ticked⟩ := ticked_countdown b
      rw [ticked] at named ⊢
      exact idle b bMember named
  | _ => exact idle

theorem not_mem_dueIds {setId : UInt8} (idle : Idle setId structures) :
    setId ∉ dueIds structures := by
  intro listed
  obtain ⟨a, due, named⟩ := List.mem_map.mp listed
  obtain ⟨member, reports⟩ := List.mem_filter.mp due
  rw [ticked_of_idle (idle a member named)] at reports
  cases reports

/-- A set that is not running is not attempted until a TC(3,5) names it. -/
theorem World.Holds.idle {setId : UInt8} {rest : List Operation}
    (calm : ∀ operation ∈ rest, ¬ operation.Enables setId) :
    ∀ {world : World cfg} {structures : List Structure}, world.Holds structures →
      Idle setId structures → ∃ lists after, attempts rest world = some (lists, after) ∧
        ∀ calls ∈ lists, setId ∉ calls := by
  induction rest with
  | nil =>
      intro world structures _ _
      exact ⟨[], world, rfl, by simp⟩
  | cons operation rest inductionHypothesis =>
      intro world structures holds idle
      obtain ⟨middle, others, head, evolves, middleHolds⟩ := holds.attempts_step operation
      have made := holds.calls_eq operation
      obtain ⟨later, after, tail, quiet⟩ := inductionHypothesis
        (fun other inRest => calm other (List.mem_cons_of_mem operation inRest)) middleHolds
        (evolves.idle (calm operation List.mem_cons_self) idle)
      refine ⟨_, after, attempts_cons head tail, ?_⟩
      intro calls member
      rw [made] at member
      cases operation with
      | tick =>
          rcases List.mem_append.mp member with first | inLater
          · rw [List.mem_singleton.mp first]
            exact not_mem_dueIds idle
          · exact quiet calls inLater
      | _ => exact quiet calls member

/-! ### Every schedule -/

theorem enable_accepted {tc : Tc} {link later : Link cfg} {after : Ctx}
    (ran : enable tc s link = some (0, after, later)) :
    ∃ (u : List UInt8) (setId : UInt8) (interval : UInt32) (index : Nat),
      tc.userData = some u ∧ u[0]? = some setId ∧ obswBe32 u 1 = some interval ∧
      findSet s.sets setId = some index ∧
      after = modifySet index (fun set => set.started interval) s := by
  rcases requireUserData_cases 5 tc s link _ with short | long
  · rw [enable, short] at ran
    cases ran
  · obtain ⟨u, present, enough, bodyEq⟩ := long
    obtain ⟨setId, setIdEq⟩ := getElem?_isSome u 0 (by omega)
    obtain ⟨interval, intervalEq⟩ := obswBe32_isSome u 1 (by omega)
    rw [enable, bodyEq] at ran
    simp only [setIdEq, intervalEq, Option.bind_eq_bind, Option.bind_some] at ran
    cases found : findSet s.sets setId with
    | none =>
        rw [found] at ran
        simp only [reject_eq] at ran
        cases ran
    | some index =>
        rw [found] at ran
        have executed := @execute_eq cfg Ctx
          (fun s => some (modifySet index (fun set => set.started interval) s)) s _ tc rfl link
        have same := executed.symm.trans ran
        cases same
        exact ⟨u, setId, interval, index, present, setIdEq, intervalEq, found, rfl⟩

theorem mem_layout {a : Structure} (member : a ∈ structures) (offset : Nat) :
    ∃ place, a.render place ∈ layout offset structures := by
  induction structures generalizing offset with
  | nil => cases member
  | cons b rest inductionHypothesis =>
      rcases List.mem_cons.mp member with same | inRest
      · subst same
        exact ⟨offset, List.mem_cons_self⟩
      · obtain ⟨place, listed⟩ := inductionHypothesis inRest (offset + b.source.ids.length)
        exact ⟨place, List.mem_cons_of_mem _ listed⟩

/-- The schedule of the sets from a state on. -/
structure ScheduleKept (now : World cfg) : Prop where
  enabled : ∀ (tc : Tc) (u : List UInt8) (setId : UInt8) (T : UInt32) (s3 : Ctx)
    (link : Link cfg), tc.userData = some u → u[0]? = some setId → obswBe32 u 1 = some T →
    handle now.s20.table .enable tc now.s3 now.link = some (0, s3, link) →
    ∀ rest : List Operation,
      (∀ operation ∈ rest, ¬ operation.Enables setId ∧ ¬ operation.Disables setId) →
      ∃ lists after, attempts (.handled .enable tc :: rest) now = some (lists, after) ∧
        lists.length = rest.countP Operation.isTick ∧
        ∀ i calls, lists[i]? = some calls → (setId ∈ calls ↔ T ≠ 0 ∧ T.toNat ∣ i + 1)
  idle : ∀ setId : UInt8,
    (∀ set ∈ now.s3.sets, set.setId = setId → set.enabled = false ∨ set.intervalTicks = 0) →
    ∀ rest : List Operation, (∀ operation ∈ rest, ¬ operation.Enables setId) →
      ∃ lists after, attempts rest now = some (lists, after) ∧ ∀ calls ∈ lists, setId ∉ calls
  ordered : ∃ calls after, Operation.attempts now .tick = some ([calls], after) ∧ calls.Nodup ∧
    List.Sublist calls (now.s3.sets.map (fun set => set.setId))

theorem World.Holds.scheduleKept {now : World cfg} (holds : now.Holds structures) :
    ScheduleKept now where
  enabled := by
    intro tc u setId T s3 link present named read ran rest calm
    obtain ⟨v, other, interval, index, presentV, namedV, readV, found, same⟩ :=
      enable_accepted ran
    rw [present] at presentV
    cases presentV
    rw [named] at namedV
    cases namedV
    rw [read] at readV
    cases readV
    obtain ⟨before, a, behind, split, _, aNamed⟩ := holds.findSet_some found
    have member : a ∈ structures := by rw [split]; simp
    have started : a.started T ∈ changed setId (Structure.started T) structures :=
      List.mem_map.mpr ⟨a, member, if_pos aNamed⟩
    have after : World.Holds { now with s3 := s3, link := link }
        (changed setId (Structure.started T) structures) := by
      have represented := @Represents.modifySet _ _ _ _ holds setId index (Structure.started T)
        (fun set => set.started T) found (fun _ => rfl) (fun _ => rfl) (fun _ _ => rfl)
      rw [← same] at represented
      exact represented
    have head : Operation.attempts now (.handled .enable tc) =
        some ([], { now with s3 := s3, link := link }) := by
      rw [Operation.attempts_eq]
      show Option.map _ (Option.bind _ _) = _
      rw [ran]
      rfl
    obtain ⟨lists, final, tail, count, schedule⟩ :=
      after.running calm started aNamed (a.started_running T)
    refine ⟨lists, final, attempts_cons head tail, count, ?_⟩
    intro i calls place
    have counted := schedule i calls place
    rw [Nat.zero_add] at counted
    exact counted
  idle := by
    intro setId quiet rest calm
    apply holds.idle calm
    intro a member named
    obtain ⟨place, listed⟩ := mem_layout member 0
    rw [← holds.sets] at listed
    exact quiet _ listed named
  ordered := by
    obtain ⟨after, others, head, _, _⟩ := holds.attempts_step .tick
    have order : List.Sublist (dueIds structures) (structures.map (fun a => a.setId)) :=
      List.filter_sublist.map _
    rw [holds.calls_eq] at head
    refine ⟨_, after, head, order.nodup holds.idsDistinct, ?_⟩
    rw [holds.sets, layout_setIds]
    exact order

/-- From every state that a run from a boot configuration reaches: a set enabled with interval
`T` is attempted exactly at the ticks `T`, `2T`, `3T`, … after that command, whatever happens
to other sets, until it is enabled again or disabled; a set that is disabled or has no interval
is never attempted; and one tick attempts sets in table order, each at most once. -/
theorem schedule_kept (earlier : List Operation) {world : World cfg}
    (boot : Boot world.s20.table world.s3) :
    ∃ now lists, attempts earlier world = some (lists, now) ∧ runs earlier world = some now ∧
      ScheduleKept now := by
  have holds : world.Holds (world.s3.sets.map HkSet.bootStructure) := boot.represents
  obtain ⟨now, structures, ran, _, nowHolds, _⟩ :=
    holds.runs ⟨rfl, .refl world.s3⟩ (boot_identities _) (List.prefix_refl _) earlier
  have recorded := attempts_run earlier world
  rw [ran] at recorded
  obtain ⟨out, recordedEq, same⟩ := Option.map_eq_some_iff.mp recorded
  refine ⟨now, out.1, ?_, ran, nowHolds.scheduleKept⟩
  rw [recordedEq, ← same]

/-- The schedule after a TC(3,1) for set 5 and a tick. -/
theorem bootWorld_schedule :
    ∃ now lists,
      attempts [.handled .define ⟨0x010, 3, 1, 0, some [5, 0, 0, 0, 9, 2, 1, 0, 2, 0]⟩, .tick]
        bootWorld = some (lists, now) ∧
      runs [.handled .define ⟨0x010, 3, 1, 0, some [5, 0, 0, 0, 9, 2, 1, 0, 2, 0]⟩, .tick]
        bootWorld = some now ∧ ScheduleKept now :=
  schedule_kept _ bootWorld_boot

end Openobsw.Pus.S3
