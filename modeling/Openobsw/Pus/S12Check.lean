import Openobsw.Pus.S12Latches

/-!
Owns the law of the periodic check: it runs without a fault, reaches the rest of
the software through S5 reports alone, and keeps every definition in step with
the trace.
-/

namespace Openobsw.Pus.S12

open Openobsw.Lib Openobsw.Lib.Edges Openobsw.Lib.Tables

variable {cfg : Config} {η : Type}

/-! ### One limit -/

/-- The value crosses the limit and the latch is still open. -/
def Def.rises (d : Def) (limit : Limit) (value : UInt32) : Bool :=
  d.beyond limit value && !d.latch limit

/-- What one limit test reports. -/
def Def.raises (d : Def) (limit : Limit) (value : UInt32) : List Event :=
  if d.rises limit value then [.raised d.paramId limit (d.call limit value)] else []

/-- The definition after one limit test. -/
def Def.tested (d : Def) (limit : Limit) (value : UInt32) : Def :=
  d.setLatch (d.beyond limit value) limit

theorem setLatch_self (d : Def) {flag : Bool} {limit : Limit} (same : d.latch limit = flag) :
    d.setLatch flag limit = d := by
  cases limit
  · show { d with inLow := flag } = d
    rw [← same]
    rfl
  · show { d with inHigh := flag } = d
    rw [← same]
    rfl

theorem set_append_cons {before after : List Def} (d other : Def) :
    (before ++ d :: after).set before.length other = before ++ other :: after := by
  rw [List.set_append_right _ _ (Nat.le_refl _), Nat.sub_self]
  rfl

theorem checkLimit_eq (onEvent : Option (UInt16 → η → η)) (limit : Limit) (value : UInt32)
    {s : Ctx} {before after : List Def} {d : Def} (split : s.defs = before ++ d :: after)
    (env : S5.Env cfg η) :
    checkLimit onEvent limit before.length value s env =
      some ({ s with
          defs := before ++ d.tested limit value :: after
          trace := s.trace ++ d.raises limit value },
        env.calledAll onEvent (callsOf (d.raises limit value))) := by
  have place : s.defs[before.length]? = some d := by
    rw [split, List.getElem?_append_right (Nat.le_refl _), Nat.sub_self]
    rfl
  unfold checkLimit Def.raises Def.tested Def.rises
  rw [place]
  simp only [Option.bind_eq_bind, Option.bind_some]
  cases beyond : d.beyond limit value with
  | false =>
      rw [if_neg (by simp), split, set_append_cons]
      simp [callsOf, S5.Env.calledAll]
  | true =>
      cases latched : d.latch limit with
      | false =>
          rw [if_pos rfl, if_pos rfl, S5.report_eq, split, set_append_cons]
          rfl
      | true =>
          rw [if_pos rfl, if_neg (by simp), setLatch_self d latched, ← split]
          simp [callsOf, S5.Env.calledAll]

/-! ### One definition -/

/-- The definition after a check that saw `value`. -/
def Def.checked (d : Def) (value : UInt32) : Def := (d.tested .low value).tested .high value

/-- What a check of the definition adds to the trace. -/
def Def.checkEvents (d : Def) (value : UInt32) : List Event :=
  .seen d.paramId value :: (d.raises .low value ++ d.raises .high value)

/-- Testing the low limit changes nothing the test of the high limit looks at. -/
theorem raises_tested_low (d : Def) (value : UInt32) :
    (d.tested .low value).raises .high value = d.raises .high value := rfl

/-- The value a check sees for a parameter, if the table has it. -/
def Ctx.sees (s : Ctx) (table : List S20.Param) (paramId : UInt16) : Option UInt32 := do
  let position ← findParam s table paramId
  let p ← table[position]?
  return asFloat p

/-- What a check of all definitions adds to the trace: one after the other, in table
order, those whose parameter is found. -/
def Ctx.checkEvents (s : Ctx) (table : List S20.Param) (defs : List Def) : List Event :=
  defs.flatMap (fun d => ((s.sees table d.paramId).map d.checkEvents).getD [])

/-- The definition after a check of all definitions: one whose parameter is not found
stays as it was. -/
def Ctx.checkedDef (s : Ctx) (table : List S20.Param) (d : Def) : Def :=
  ((s.sees table d.paramId).map d.checked).getD d

theorem checkDef_eq (onEvent : Option (UInt16 → η → η)) (table : List S20.Param) {s : Ctx}
    {before after : List Def} {d : Def} (split : s.defs = before ++ d :: after)
    (env : S5.Env cfg η) :
    (s.sees table d.paramId = none ∧
        checkDef onEvent table before.length s env = some (s, env)) ∨
      ∃ value, s.sees table d.paramId = some value ∧
        checkDef onEvent table before.length s env =
          some ({ s with
              defs := before ++ d.checked value :: after
              trace := s.trace ++ d.checkEvents value },
            env.calledAll onEvent (callsOf (d.checkEvents value))) := by
  have place : s.defs[before.length]? = some d := by
    rw [split, List.getElem?_append_right (Nat.le_refl _), Nat.sub_self]
    rfl
  unfold checkDef Ctx.sees
  rw [place]
  simp only [Option.bind_eq_bind, Option.bind_some]
  cases found : findParam s table d.paramId with
  | none => exact .inl ⟨rfl, rfl⟩
  | some position =>
      right
      obtain ⟨p, inPrefix, _⟩ := findKey_some found
      have inTable : table[position]? = some p := getElem?_of_take inPrefix
      simp only [inTable, Option.bind_some]
      refine ⟨asFloat p, rfl, ?_⟩
      rw [checkLimit_eq onEvent .low (asFloat p) (s := s.noted (.seen d.paramId (asFloat p)))
        split]
      simp only [Option.bind_some]
      rw [checkLimit_eq onEvent .high (asFloat p) rfl, raises_tested_low]
      simp only [Ctx.noted, Def.checkEvents, List.append_assoc, List.singleton_append]
      have calls : callsOf (.seen d.paramId (asFloat p) ::
          (d.raises .low (asFloat p) ++ d.raises .high (asFloat p))) =
            callsOf (d.raises .low (asFloat p)) ++ callsOf (d.raises .high (asFloat p)) :=
        callsOf_append _ _
      rw [calls, S5.Env.calledAll_append]
      rfl

/-! ### The check keeps definitions in step -/

theorem valuesSince_raises (paramId : UInt16) (trace : List Event) (d : Def) (limit : Limit)
    (value : UInt32) :
    valuesSince paramId (trace ++ d.raises limit value) = valuesSince paramId trace := by
  unfold Def.raises
  split
  · exact valuesSince_raised _ _ _ _ _
  · rw [List.append_nil]

theorem raisedSince_raises (paramId : UInt16) (limit which : Limit) (trace : List Event) (d : Def)
    (value : UInt32) :
    raisedSince paramId limit (trace ++ d.raises which value) =
      raisedSince paramId limit trace ++
        (if d.paramId = paramId ∧ which = limit ∧ d.rises which value = true
          then [d.call which value] else []) := by
  unfold Def.raises
  by_cases rises : d.rises which value = true
  · rw [if_pos rises, raisedSince_raised]
    by_cases here : d.paramId = paramId ∧ which = limit
    · rw [if_pos here, if_pos ⟨here.1, here.2, rises⟩]
    · rw [if_neg here, if_neg (fun all => here ⟨all.1, all.2.1⟩), List.append_nil]
  · rw [if_neg rises, if_neg (fun all => rises all.2.2), List.append_nil, List.append_nil]

theorem valuesSince_checkEvents (paramId : UInt16) (trace : List Event) (d : Def)
    (value : UInt32) :
    valuesSince paramId (trace ++ d.checkEvents value) =
      if d.paramId = paramId then valuesSince paramId trace ++ [value]
      else valuesSince paramId trace := by
  have shape : trace ++ d.checkEvents value =
      ((trace ++ [.seen d.paramId value]) ++ d.raises .low value) ++ d.raises .high value := by
    simp [Def.checkEvents]
  rw [shape, valuesSince_raises, valuesSince_raises, valuesSince_seen]

theorem raisedSince_checkEvents (paramId : UInt16) (limit : Limit) (trace : List Event) (d : Def)
    (value : UInt32) :
    raisedSince paramId limit (trace ++ d.checkEvents value) =
      raisedSince paramId limit trace ++
        (if d.paramId = paramId ∧ d.rises limit value = true then [d.call limit value] else []) := by
  have shape : trace ++ d.checkEvents value =
      ((trace ++ [.seen d.paramId value]) ++ d.raises .low value) ++ d.raises .high value := by
    simp [Def.checkEvents]
  rw [shape, raisedSince_raises, raisedSince_raises, raisedSince_seen]
  cases limit <;> simp

theorem checked_paramId (d : Def) (value : UInt32) : (d.checked value).paramId = d.paramId := rfl

theorem checked_beyond (d : Def) (value : UInt32) (limit : Limit) :
    (d.checked value).beyond limit = d.beyond limit := by
  cases limit <;> rfl

theorem checked_call (d : Def) (value : UInt32) (limit : Limit) :
    (d.checked value).call limit = d.call limit := by
  cases limit <;> rfl

theorem checked_latch (d : Def) (value : UInt32) (limit : Limit) :
    (d.checked value).latch limit = d.beyond limit value := by
  cases limit <;> rfl

/-- The definition that was checked stays in step: one more value, and one more
report exactly at a rising edge. -/
theorem Tracks.checked {trace : List Event} {d : Def} (tracks : Tracks trace d) (value : UInt32) :
    Tracks (trace ++ d.checkEvents value) (d.checked value) where
  latch := by
    intro limit
    rw [checked_latch, checked_beyond, checked_paramId, valuesSince_checkEvents, if_pos rfl,
      lastState_concat]
  raised := by
    intro limit
    rw [checked_beyond, checked_call, checked_paramId, valuesSince_checkEvents, if_pos rfl,
      raisedSince_checkEvents, risingEdges_concat, List.map_append, tracks.raised limit]
    unfold Def.rises
    rw [← tracks.latch limit]
    split
    · rename_i rises
      rw [if_pos rises.2]
      rfl
    · rename_i steady
      rw [if_neg (fun rises => steady ⟨rfl, rises⟩)]
      rfl
  ordered := tracks.ordered

/-- A definition of another parameter does not notice the check. -/
theorem Tracks.checked_other {trace : List Event} {d : Def} (tracks : Tracks trace d)
    {other : Def} (different : other.paramId ≠ d.paramId) (value : UInt32) :
    Tracks (trace ++ other.checkEvents value) d where
  latch := by
    intro limit
    rw [valuesSince_checkEvents, if_neg different]
    exact tracks.latch limit
  raised := by
    intro limit
    rw [valuesSince_checkEvents, raisedSince_checkEvents, if_neg different,
      if_neg (fun both => different both.1), List.append_nil]
    exact tracks.raised limit
  ordered := tracks.ordered

theorem WellFormed.checkDef {s : Ctx} (wf : WellFormed s) {before after : List Def} {d : Def}
    (split : s.defs = before ++ d :: after) (value : UInt32) :
    WellFormed { s with
      defs := before ++ d.checked value :: after
      trace := s.trace ++ d.checkEvents value } := by
  have ids : (before ++ d.checked value :: after).map (fun d => d.paramId) =
      s.defs.map (fun d => d.paramId) := by
    rw [split, List.map_append, List.map_append, List.map_cons, List.map_cons, checked_paramId]
  have distinct := wf.idsDistinct
  rw [split, List.map_append, List.map_cons] at distinct
  have parts := List.nodup_append'.mp distinct
  have notAfter : d.paramId ∉ after.map (fun d => d.paramId) := (List.nodup_cons.mp parts.2.1).1
  have notBefore : d.paramId ∉ before.map (fun d => d.paramId) :=
    fun member => parts.2.2 member List.mem_cons_self
  have others : ∀ other ∈ s.defs, other.paramId ≠ d.paramId →
      Tracks (s.trace ++ d.checkEvents value) other :=
    fun other member different => (wf.tracks other member).checked_other different.symm value
  refine ⟨by rw [ids]; exact wf.idsDistinct, ?_, ?_⟩
  · have fits := wf.fits
    rw [split] at fits
    simpa using fits
  · intro other member
    rcases List.mem_append.mp member with inBefore | rest
    · apply others other (by rw [split]; exact List.mem_append_left _ inBefore)
      intro same
      rw [← same] at notBefore
      exact notBefore (List.mem_map_of_mem (f := fun d : Def => d.paramId) inBefore)
    · rcases List.mem_cons.mp rest with here | inAfter
      · rw [here]
        exact (wf.tracks d (by rw [split]; simp)).checked value
      · apply others other (by rw [split]; simp [inAfter])
        intro same
        rw [← same] at notAfter
        exact notAfter (List.mem_map_of_mem (f := fun d : Def => d.paramId) inAfter)

/-! ### The whole check -/

/-- What a check does: it adds `events` to the trace, makes their reports through
S5 in order, and changes latches only. -/
structure Checked (onEvent : Option (UInt16 → η → η)) (events : List Event) (s : Ctx)
    (env : S5.Env cfg η) (after : Ctx) (later : S5.Env cfg η) : Prop where
  trace : after.trace = s.trace ++ events
  reported : later = env.calledAll onEvent (callsOf events)
  wellFormed : WellFormed after
  paramCount : after.paramCount = s.paramCount
  capacity : after.capacity = s.capacity
  enabled : after.enabled = s.enabled

theorem Checked.refl {onEvent : Option (UInt16 → η → η)} {s : Ctx} (wf : WellFormed s)
    (env : S5.Env cfg η) : Checked onEvent [] s env s env where
  trace := (List.append_nil _).symm
  reported := rfl
  wellFormed := wf
  paramCount := rfl
  capacity := rfl
  enabled := rfl

theorem Checked.trans {onEvent : Option (UInt16 → η → η)} {first second third : Ctx}
    {env middle later : S5.Env cfg η} {front back : List Event}
    (left : Checked onEvent front first env second middle)
    (right : Checked onEvent back second middle third later) :
    Checked onEvent (front ++ back) first env third later where
  trace := by rw [right.trace, left.trace, List.append_assoc]
  reported := by rw [right.reported, left.reported, callsOf_append, S5.Env.calledAll_append]
  wellFormed := right.wellFormed
  paramCount := right.paramCount.trans left.paramCount
  capacity := right.capacity.trans left.capacity
  enabled := right.enabled.trans left.enabled

/-- What a check sees depends on the context through the parameter count alone. -/
theorem sees_congr {s other : Ctx} (same : s.paramCount = other.paramCount)
    (table : List S20.Param) (paramId : UInt16) :
    s.sees table paramId = other.sees table paramId := by
  unfold Ctx.sees findParam
  rw [same]

theorem checkEvents_congr {s other : Ctx} (same : s.paramCount = other.paramCount)
    (table : List S20.Param) (defs : List Def) :
    s.checkEvents table defs = other.checkEvents table defs := by
  unfold Ctx.checkEvents
  simp only [sees_congr same]

theorem checkedDef_congr {s other : Ctx} (same : s.paramCount = other.paramCount)
    (table : List S20.Param) : s.checkedDef table = other.checkedDef table := by
  funext d
  unfold Ctx.checkedDef
  rw [sees_congr same]

theorem checkFrom_checked (onEvent : Option (UInt16 → η → η)) (table : List S20.Param)
    (rest : List Def) :
    ∀ {s : Ctx} {env : S5.Env cfg η} (done : List Def), s.defs = done ++ rest → WellFormed s →
      ∃ after later, checkFrom onEvent table rest.length done.length s env = some (after, later) ∧
        after.defs = done ++ rest.map (s.checkedDef table) ∧
        Checked onEvent (s.checkEvents table rest) s env after later := by
  induction rest with
  | nil =>
      intro s env done split wf
      exact ⟨s, env, rfl, split, Checked.refl wf env⟩
  | cons d rest inductionHypothesis =>
      intro s env done split wf
      have step : ∃ middle between events,
          checkDef onEvent table done.length s env = some (middle, between) ∧
            middle.defs = (done ++ [s.checkedDef table d]) ++ rest ∧
            ((s.sees table d.paramId).map d.checkEvents).getD [] = events ∧
            Checked onEvent events s env middle between := by
        rcases checkDef_eq onEvent table split env with
          ⟨absent, skipped⟩ | ⟨value, seen, checked⟩
        · have same : s.checkedDef table d = d := by
            unfold Ctx.checkedDef
            rw [absent]
            rfl
          rw [same]
          exact ⟨s, env, [], skipped, by simpa using split, by simp [absent], Checked.refl wf env⟩
        · have changed : s.checkedDef table d = d.checked value := by
            unfold Ctx.checkedDef
            rw [seen]
            rfl
          rw [changed]
          exact ⟨_, _, _, checked, by simp, by simp [seen],
            ⟨rfl, rfl, wf.checkDef split value, rfl, rfl, rfl⟩⟩
      obtain ⟨middle, between, events, ran, next, same, law⟩ := step
      obtain ⟨after, later, finished, defs, tail⟩ :=
        inductionHypothesis (done ++ [s.checkedDef table d]) next law.wellFormed
      rw [checkEvents_congr law.paramCount] at tail
      rw [checkedDef_congr law.paramCount] at defs
      rw [List.length_append] at finished
      refine ⟨after, later, ?_, ?_, ?_⟩
      · show checkFrom onEvent table (rest.length + 1) done.length s env = _
        unfold checkFrom
        simp only [ran, Option.bind_eq_bind, Option.bind_some]
        exact finished
      · rw [defs, List.append_assoc]
        rfl
      · have whole := law.trans tail
        rw [← same] at whole
        exact whole

/-- What a check adds to the trace. -/
def Ctx.eventsOfCheck (s : Ctx) (table : List S20.Param) : List Event :=
  if s.enabled then s.checkEvents table s.defs else []

/-- The context after a check. -/
def Ctx.afterCheck (s : Ctx) (table : List S20.Param) : Ctx :=
  if s.enabled then { s with
    defs := s.defs.map (s.checkedDef table)
    trace := s.trace ++ s.checkEvents table s.defs }
  else s

/-- A check runs to its end and keeps the latching law. -/
theorem check_checked (onEvent : Option (UInt16 → η → η)) (table : List S20.Param) {s : Ctx}
    (wf : WellFormed s) (env : S5.Env cfg η) :
    ∃ later, check onEvent table s env = some (s.afterCheck table, later) ∧
      Checked onEvent (s.eventsOfCheck table) s env (s.afterCheck table) later := by
  unfold check Ctx.eventsOfCheck Ctx.afterCheck
  by_cases disabled : s.enabled = false
  · rw [if_pos disabled, if_neg (by simp [disabled]), if_neg (by simp [disabled])]
    exact ⟨env, rfl, Checked.refl wf env⟩
  · have enabled : s.enabled = true := by simpa using disabled
    rw [if_neg disabled, if_pos enabled, if_pos enabled]
    have whole : ∃ after later, checkFrom onEvent table s.defs.length 0 s env = some (after, later) ∧
        after.defs = s.defs.map (s.checkedDef table) ∧
        Checked onEvent (s.checkEvents table s.defs) s env after later :=
      checkFrom_checked onEvent table s.defs [] rfl wf
    obtain ⟨after, later, ran, defs, law⟩ := whole
    have same : after = { s with
        defs := s.defs.map (s.checkedDef table)
        trace := s.trace ++ s.checkEvents table s.defs } := by
      cases after
      simp only [Ctx.mk.injEq]
      exact ⟨law.paramCount, defs, law.capacity, law.enabled, law.trace⟩
    rw [← same]
    exact ⟨later, ran, law⟩

/-! ### How much a check reports -/

/-- A value is not beyond both limits. -/
theorem not_both_beyond {d : Def} (ordered : crossed d.low d.high = false) (value : UInt32) :
    ¬ (d.beyond .low value = true ∧ d.beyond .high value = true) := by
  rintro ⟨below, above⟩
  have wrongWay : Binary32.lt d.high d.low = true := Binary32.lt_trans above below
  obtain ⟨highNumber, lowNumber, _⟩ := (Binary32.lt_iff _ _).mp wrongWay
  unfold crossed at ordered
  rw [highNumber, lowNumber, wrongWay] at ordered
  cases ordered

theorem callsOf_checkEvents_le {d : Def} (ordered : crossed d.low d.high = false) (value : UInt32) :
    (callsOf (d.checkEvents value)).length ≤ 1 := by
  have notBoth := not_both_beyond ordered value
  unfold Def.checkEvents Def.raises Def.rises
  cases below : d.beyond .low value with
  | false =>
      simp only [Bool.false_and, Bool.false_eq_true, if_false, List.nil_append]
      split <;> simp [callsOf]
  | true =>
      have notAbove : d.beyond .high value = false := by
        cases above : d.beyond .high value with
        | false => rfl
        | true => exact absurd ⟨below, above⟩ notBoth
      simp only [notAbove, Bool.false_and, Bool.false_eq_true, if_false, List.append_nil]
      split <;> simp [callsOf]

/-- A check makes at most one report for each definition. -/
theorem WellFormed.calls_le {s : Ctx} (wf : WellFormed s) (table : List S20.Param) :
    (callsOf (s.eventsOfCheck table)).length ≤ s.defs.length := by
  have each : ∀ defs : List Def, (∀ d ∈ defs, crossed d.low d.high = false) →
      (callsOf (s.checkEvents table defs)).length ≤ defs.length := by
    intro defs ordered
    induction defs with
    | nil => exact Nat.le_refl 0
    | cons d rest inductionHypothesis =>
        have tail := inductionHypothesis (fun other member => ordered other (List.mem_cons_of_mem d member))
        have head : (callsOf (((s.sees table d.paramId).map d.checkEvents).getD [])).length ≤ 1 := by
          cases s.sees table d.paramId with
          | none => exact Nat.zero_le 1
          | some value => exact callsOf_checkEvents_le (ordered d List.mem_cons_self) value
        have split : s.checkEvents table (d :: rest) =
            ((s.sees table d.paramId).map d.checkEvents).getD [] ++ s.checkEvents table rest :=
          List.flatMap_cons
        rw [split, callsOf_append, List.length_append, List.length_cons]
        omega
  unfold Ctx.eventsOfCheck
  split
  · exact each s.defs (fun d member => (wf.tracks d member).ordered)
  · exact Nat.zero_le _

theorem Step.capacity {s after : Ctx} (step : Step s after) : after.capacity = s.capacity := by
  cases step <;> rfl

end Openobsw.Pus.S12
