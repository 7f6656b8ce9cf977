import Mathlib.Data.List.Nodup
import Openobsw.Lib.Edges
import Openobsw.Pus.S12

/-!
Owns the latching law: for every definition, the reports made for a limit since
its latches were last reset are the rising edges of "value beyond the limit" in
the values its checks saw since then. Every command and every check keeps it.
-/

namespace Openobsw.Pus.S12

open Openobsw.Lib Openobsw.Lib.Edges Openobsw.Lib.Tables Openobsw.Pus.S1
open Openobsw.Pus.Handler Openobsw.Util

/-! ### Reading the trace -/

/-- The values seen for a parameter since its latches were last reset. -/
def valuesSince (paramId : UInt16) (trace : List Event) : List UInt32 :=
  trace.foldl (fun values event =>
    match event with
    | .installed other => if other = paramId then [] else values
    | .cleared => []
    | .seen other value => if other = paramId then values ++ [value] else values
    | .raised _ _ _ => values) []

/-- The reports made for a limit of a parameter since its latches were last reset. -/
def raisedSince (paramId : UInt16) (limit : Limit) (trace : List Event) : List S5.Call :=
  trace.foldl (fun calls event =>
    match event with
    | .installed other => if other = paramId then [] else calls
    | .cleared => []
    | .seen _ _ => calls
    | .raised other which call => if other = paramId ∧ which = limit then calls ++ [call] else calls)
    []

/-- Every report of a trace, in order. -/
def callsOf (trace : List Event) : List S5.Call :=
  trace.filterMap (fun event =>
    match event with
    | .raised _ _ call => some call
    | _ => none)

variable (paramId other : UInt16) (limit which : Limit) (trace : List Event)

@[simp] theorem valuesSince_installed :
    valuesSince paramId (trace ++ [.installed other]) =
      if other = paramId then [] else valuesSince paramId trace := by
  simp [valuesSince]

@[simp] theorem valuesSince_cleared : valuesSince paramId (trace ++ [.cleared]) = [] := by
  simp [valuesSince]

@[simp] theorem valuesSince_seen (value : UInt32) :
    valuesSince paramId (trace ++ [.seen other value]) =
      if other = paramId then valuesSince paramId trace ++ [value]
      else valuesSince paramId trace := by
  simp [valuesSince]

@[simp] theorem valuesSince_raised (call : S5.Call) :
    valuesSince paramId (trace ++ [.raised other which call]) = valuesSince paramId trace := by
  simp [valuesSince]

@[simp] theorem raisedSince_installed :
    raisedSince paramId limit (trace ++ [.installed other]) =
      if other = paramId then [] else raisedSince paramId limit trace := by
  simp [raisedSince]

@[simp] theorem raisedSince_cleared : raisedSince paramId limit (trace ++ [.cleared]) = [] := by
  simp [raisedSince]

@[simp] theorem raisedSince_seen (value : UInt32) :
    raisedSince paramId limit (trace ++ [.seen other value]) =
      raisedSince paramId limit trace := by
  simp [raisedSince]

@[simp] theorem raisedSince_raised (call : S5.Call) :
    raisedSince paramId limit (trace ++ [.raised other which call]) =
      if other = paramId ∧ which = limit then raisedSince paramId limit trace ++ [call]
      else raisedSince paramId limit trace := by
  simp [raisedSince]

theorem callsOf_append (first second : List Event) :
    callsOf (first ++ second) = callsOf first ++ callsOf second :=
  List.filterMap_append

/-! ### The invariant -/

/-- A definition is in step with the trace: its latches hold the last comparison,
its reports are the rising edges, and its limits are the right way round or NaN. -/
structure Tracks (trace : List Event) (d : Def) : Prop where
  latch : ∀ limit, d.latch limit = lastState (d.beyond limit) (valuesSince d.paramId trace)
  raised : ∀ limit, raisedSince d.paramId limit trace =
    (risingEdges (d.beyond limit) (valuesSince d.paramId trace)).map (d.call limit)
  ordered : crossed d.low d.high = false

structure WellFormed (s : Ctx) : Prop where
  idsDistinct : (s.defs.map (fun d => d.paramId)).Nodup
  fits : s.defs.length ≤ s.capacity.toNat
  tracks : ∀ d ∈ s.defs, Tracks s.trace d

theorem wellFormed_init (paramCount capacity : UInt8) : WellFormed (init paramCount capacity) where
  idsDistinct := by simp [init]
  fits := by simp [init]
  tracks := by simp [init]

/-- No value is below the low limit and above the high one. -/
theorem not_beyond_both {d : Def} (ordered : crossed d.low d.high = false) (value : UInt32) :
    ¬ (d.beyond .low value = true ∧ d.beyond .high value = true) := by
  rintro ⟨below, above⟩
  have chain := Binary32.lt_trans above below
  have valid := (Binary32.lt_iff d.high d.low).mp chain
  simp [crossed, chain, valid.1, valid.2.1] at ordered

/-- A definition in step with the trace is never latched low and high at once. -/
theorem Tracks.not_latched_both {trace : List Event} {d : Def} (tracks : Tracks trace d) :
    ¬ (d.inLow = true ∧ d.inHigh = true) := by
  rintro ⟨low, high⟩
  have lowState := tracks.latch .low
  have highState := tracks.latch .high
  rcases List.eq_nil_or_concat (valuesSince d.paramId trace) with empty | ⟨before, last, split⟩
  · rw [empty, lastState_nil] at lowState
    rw [show d.inLow = false from lowState] at low
    cases low
  · rw [split, List.concat_eq_append, lastState_concat] at lowState highState
    exact not_beyond_both tracks.ordered last ⟨lowState.symm.trans low, highState.symm.trans high⟩

/-! ### Commands -/

/-- Everything a command can do to the monitoring table. -/
inductive Step (s : Ctx) : Ctx → Prop
  | enabled : Step s { s.noted .cleared with
      defs := s.defs.map Def.unlatched
      enabled := true }
  | disabled : Step s { s with enabled := false }
  | replaced (index : Nat) (d : Def) (found : findDef s.defs d.paramId = some index)
      (unlatched : d.unlatched = d) (ordered : crossed d.low d.high = false) :
      Step s { s.noted (.installed d.paramId) with defs := s.defs.set index d }
  | appended (d : Def) (absent : findDef s.defs d.paramId = none)
      (room : s.defs.length < s.capacity.toNat) (unlatched : d.unlatched = d)
      (ordered : crossed d.low d.high = false) :
      Step s { s.noted (.installed d.paramId) with defs := s.defs ++ [d] }
  | removed (d : Def) (rest : List Def) (perm : s.defs.Perm (d :: rest)) :
      Step s { s with defs := rest }
  | emptied : Step s { s with defs := [] }

/-- The five handlers of the service. -/
inductive Command where
  | enable
  | disable
  | add
  | delete
  | deleteAll
deriving DecidableEq, Repr

/-- A TC(12,3) that asks for the definition `d` of a parameter of the table. -/
structure Asks (table : List S20.Param) (s : Ctx) (tc : Tc) (d : Def) : Prop where
  fields : ∃ u, tc.userData = some u ∧ 15 ≤ u.length ∧ obswBe16 u 0 = some d.paramId ∧
    obswBe32 u 2 = some d.low ∧ obswBe32 u 6 = some d.high ∧ obswBe16 u 10 = some d.eventLow ∧
    obswBe16 u 12 = some d.eventHigh ∧ u[14]? = some d.severity.toUInt8
  known : findParam s table d.paramId ≠ none
  unlatched : d.unlatched = d
  ordered : crossed d.low d.high = false

/-- What a command does to the monitoring table when it is executed. -/
inductive Executes (table : List S20.Param) : Command → Tc → Ctx → Ctx → Prop
  | enabled {tc : Tc} {s : Ctx} : Executes table .enable tc s { s.noted .cleared with
      defs := s.defs.map Def.unlatched
      enabled := true }
  | disabled {tc : Tc} {s : Ctx} : Executes table .disable tc s { s with enabled := false }
  | replaced {tc : Tc} {s : Ctx} (index : Nat) (d : Def) (asked : Asks table s tc d)
      (found : findDef s.defs d.paramId = some index) :
      Executes table .add tc s { s.noted (.installed d.paramId) with defs := s.defs.set index d }
  | appended {tc : Tc} {s : Ctx} (d : Def) (asked : Asks table s tc d)
      (absent : findDef s.defs d.paramId = none) (room : s.defs.length < s.capacity.toNat) :
      Executes table .add tc s { s.noted (.installed d.paramId) with defs := s.defs ++ [d] }
  | removed {tc : Tc} {s : Ctx} (d : Def) (rest : List Def) (named : keyOf tc = some d.paramId)
      (perm : s.defs.Perm (d :: rest)) : Executes table .delete tc s { s with defs := rest }
  | emptied {tc : Tc} {s : Ctx} : Executes table .deleteAll tc s { s with defs := [] }

theorem Executes.step {table : List S20.Param} {command : Command} {tc : Tc} {s after : Ctx}
    (executes : Executes table command tc s after) : Step s after := by
  cases executes with
  | enabled => exact .enabled
  | disabled => exact .disabled
  | replaced index d asked found => exact .replaced index d found asked.unlatched asked.ordered
  | appended d asked absent room =>
      exact .appended d absent room asked.unlatched asked.ordered
  | removed d rest named perm => exact .removed d rest perm
  | emptied => exact .emptied

/-- An executed TC(12,3) stores what it asks for, in the parameter's place or in a free one. -/
theorem Executes.asked {table : List S20.Param} {tc : Tc} {s after : Ctx}
    (executes : Executes table .add tc s after) :
    ∃ d, Asks table s tc d ∧
      (findDef s.defs d.paramId = none → s.defs.length < s.capacity.toNat) := by
  cases executes with
  | replaced index d asked found =>
      refine ⟨d, asked, fun absent => ?_⟩
      rw [found] at absent
      cases absent
  | appended d asked absent room => exact ⟨d, asked, fun _ => room⟩

variable {cfg : Config}

theorem severity_of_range {severity : UInt8} (atLeast : ¬ severity < 1) (atMost : ¬ severity > 4) :
    ∃ known, S5.Severity.ofUInt8? severity = some known ∧ known.toUInt8 = severity := by
  have low : 1 ≤ severity.toNat := UInt8.le_iff_toNat_le.mp (UInt8.not_lt.mp atLeast)
  have high : severity.toNat ≤ 4 := UInt8.le_iff_toNat_le.mp (UInt8.not_lt.mp atMost)
  have cases : severity = 1 ∨ severity = 2 ∨ severity = 3 ∨ severity = 4 := by
    simp only [← UInt8.toNat_inj]
    show severity.toNat = 1 ∨ severity.toNat = 2 ∨ severity.toNat = 3 ∨ severity.toNat = 4
    omega
  rcases cases with rfl | rfl | rfl | rfl
  · exact ⟨.info, rfl, rfl⟩
  · exact ⟨.low, rfl, rfl⟩
  · exact ⟨.medium, rfl, rfl⟩
  · exact ⟨.high, rfl, rfl⟩

/-- The severities are 1 to 4. -/
theorem severity_range (severity : S5.Severity) :
    1 ≤ severity.toUInt8 ∧ severity.toUInt8 ≤ 4 := by
  cases severity <;> decide

theorem add_decides (table : List S20.Param) (tc : Tc) (s : Ctx) (link : Link cfg) :
    Decides tc s link (Executes table .add tc s) (add table tc s link) := by
  apply requireUserData_decides
  · intro after executes
    obtain ⟨d, asked, _⟩ := executes.asked
    obtain ⟨u, present, long, _⟩ := asked.fields
    exact ⟨u, present, long⟩
  intro u present long
  obtain ⟨paramId, paramIdEq⟩ := obswBe16_isSome u 0 (by omega)
  obtain ⟨low, lowEq⟩ := obswBe32_isSome u 2 (by omega)
  obtain ⟨high, highEq⟩ := obswBe32_isSome u 6 (by omega)
  obtain ⟨eventLow, eventLowEq⟩ := obswBe16_isSome u 10 (by omega)
  obtain ⟨eventHigh, eventHighEq⟩ := obswBe16_isSome u 12 (by omega)
  obtain ⟨severity, severityEq⟩ := getElem?_isSome u 14 (by omega)
  -- whatever definition the TC asks for has the fields just read
  have asks : ∀ other, Asks table s tc other → other.paramId = paramId ∧ other.low = low ∧
      other.high = high ∧ other.severity.toUInt8 = severity := by
    intro other asked
    obtain ⟨_, otherPresent, _, otherId, otherLow, otherHigh, _, _, otherSeverity⟩ := asked.fields
    rw [present] at otherPresent
    cases otherPresent
    rw [paramIdEq] at otherId
    rw [lowEq] at otherLow
    rw [highEq] at otherHigh
    rw [severityEq] at otherSeverity
    exact ⟨(Option.some.inj otherId).symm, (Option.some.inj otherLow).symm,
      (Option.some.inj otherHigh).symm, (Option.some.inj otherSeverity).symm⟩
  simp only [paramIdEq, lowEq, highEq, severityEq, Option.bind_eq_bind, Option.bind_some]
  split
  · rename_i wrong
    apply reject_decides handlerCode_illegalAppData
    intro after executes
    obtain ⟨d, asked, _⟩ := executes.asked
    obtain ⟨rfl, rfl, rfl, rfl⟩ := asks d asked
    obtain ⟨atLeast, atMost⟩ := severity_range d.severity
    rcases wrong with unknown | below | above | wrongWay
    · exact asked.known unknown
    · exact UInt8.not_lt.mpr atLeast below
    · exact UInt8.not_lt.mpr atMost above
    · rw [asked.ordered] at wrongWay
      cases wrongWay
  rename_i good
  have ordered : crossed low high = false := by
    cases wrong : crossed low high with
    | false => rfl
    | true => exact absurd (.inr (.inr (.inr wrong))) good
  obtain ⟨severityOf, knownEq, same⟩ := severity_of_range
    (fun below => good (.inr (.inl below))) (fun above => good (.inr (.inr (.inl above))))
  let d : Def := {
    paramId := paramId
    low := low
    high := high
    eventLow := eventLow
    eventHigh := eventHigh
    severity := severityOf
    inLow := false
    inHigh := false }
  have asked : Asks table s tc d :=
    ⟨⟨u, present, long, paramIdEq, lowEq, highEq, eventLowEq, eventHighEq, by rw [severityEq, same]⟩,
      fun unknown => good (.inl unknown), rfl, ordered⟩
  cases found : findDef s.defs paramId with
  | some index =>
      rw [if_neg (by simp)]
      apply execute_decides tc link _ (Executes.replaced index d asked found)
      unfold install
      simp only [eventLowEq, eventHighEq, knownEq, Option.bind_eq_bind, Option.bind_some]
      rfl
  | none =>
      by_cases filled : s.defs.length ≥ s.capacity.toNat
      · rw [if_pos ⟨rfl, filled⟩]
        apply reject_decides handlerCode_execError
        intro after executes
        obtain ⟨other, otherAsked, room⟩ := executes.asked
        rw [(asks other otherAsked).1] at room
        exact Nat.not_lt_of_le filled (room found)
      · rw [if_neg (fun both => filled both.2)]
        have room := Nat.lt_of_not_ge filled
        apply execute_decides tc link _ (Executes.appended d asked found room)
        unfold install
        simp only [eventLowEq, eventHighEq, knownEq, Option.bind_eq_bind, Option.bind_some]
        rw [pushWithin_eq _ room]
        rfl

theorem delete_decides (table : List S20.Param) (tc : Tc) (s : Ctx) (link : Link cfg) :
    Decides tc s link (Executes table .delete tc s) (delete tc s link) := by
  apply deleteByKey_decides
  · intro after executes
    cases executes with
    | removed d rest named perm =>
        have listed : d.paramId ∈ s.defs.map Def.paramId :=
          List.mem_map_of_mem (perm.mem_iff.mpr List.mem_cons_self)
        cases found : findDef s.defs d.paramId with
        | none => exact absurd listed ((findKey_eq_none_iff Def.paramId s.defs d.paramId).mp found)
        | some index => exact ⟨d.paramId, index, named, found⟩
  · intro paramId index named found
    obtain ⟨d, place, same⟩ := findKey_some found
    obtain ⟨inRange, _⟩ := List.getElem?_eq_some_iff.mp place
    obtain ⟨rest, removed, _⟩ := swapRemove_perm inRange
    subst same
    refine ⟨{ s with defs := rest }, ?_,
      .removed d rest named (perm_cons_of_swapRemove place removed)⟩
    unfold removeDef
    rw [removed]
    rfl

theorem enable_decides (table : List S20.Param) (tc : Tc) (s : Ctx) (link : Link cfg) :
    Decides tc s link (Executes table .enable tc s) (enable tc s link) :=
  execute_decides tc link rfl .enabled

theorem disable_decides (table : List S20.Param) (tc : Tc) (s : Ctx) (link : Link cfg) :
    Decides tc s link (Executes table .disable tc s) (disable tc s link) :=
  execute_decides tc link rfl .disabled

theorem deleteAll_decides (table : List S20.Param) (tc : Tc) (s : Ctx) (link : Link cfg) :
    Decides tc s link (Executes table .deleteAll tc s) (deleteAll tc s link) :=
  execute_decides tc link rfl .emptied

def handle (table : List S20.Param) :
    Command → Tc → Ctx → Link cfg → Option (Int × Ctx × Link cfg)
  | .enable => enable
  | .disable => disable
  | .add => add table
  | .delete => delete
  | .deleteAll => deleteAll

theorem handle_decides (table : List S20.Param) (command : Command) (tc : Tc) (s : Ctx)
    (link : Link cfg) :
    Decides tc s link (Executes table command tc s) (handle table command tc s link) := by
  cases command with
  | enable => exact enable_decides table tc s link
  | disable => exact disable_decides table tc s link
  | add => exact add_decides table tc s link
  | delete => exact delete_decides table tc s link
  | deleteAll => exact deleteAll_decides table tc s link

theorem handle_updates (table : List S20.Param) (command : Command) (tc : Tc) (s : Ctx)
    (link : Link cfg) : Updates tc s link (Step s) (handle table command tc s link) :=
  (handle_decides table command tc s link).updates (fun _ executes => executes.step)

/-- A definition whose window has just begun. -/
theorem tracks_fresh {trace : List Event} {d : Def} (unlatched : d.unlatched = d)
    (noValues : valuesSince d.paramId trace = [])
    (noReports : ∀ limit, raisedSince d.paramId limit trace = [])
    (ordered : crossed d.low d.high = false) : Tracks trace d where
  latch := by
    intro limit
    rw [noValues, lastState_nil, ← unlatched]
    cases limit <;> rfl
  raised := by
    intro limit
    rw [noValues, noReports]
    rfl
  ordered := ordered

/-- A definition of another parameter does not notice an installation. -/
theorem Tracks.installed_other {trace : List Event} {d : Def} (tracks : Tracks trace d)
    {other : UInt16} (different : other ≠ d.paramId) :
    Tracks (trace ++ [.installed other]) d where
  latch := by
    intro limit
    rw [valuesSince_installed, if_neg different]
    exact tracks.latch limit
  raised := by
    intro limit
    rw [valuesSince_installed, raisedSince_installed, if_neg different, if_neg different]
    exact tracks.raised limit
  ordered := tracks.ordered

theorem tracks_installed (trace : List Event) {d : Def} (unlatched : d.unlatched = d)
    (ordered : crossed d.low d.high = false) : Tracks (trace ++ [.installed d.paramId]) d :=
  tracks_fresh unlatched (by simp) (by simp) ordered

theorem WellFormed.step {s after : Ctx} (wf : WellFormed s) (step : Step s after) :
    WellFormed after := by
  cases step with
  | enabled =>
      refine ⟨?_, by simpa [Ctx.noted] using wf.fits, ?_⟩
      · show ((s.defs.map Def.unlatched).map (fun d => d.paramId)).Nodup
        rw [List.map_map]
        exact wf.idsDistinct
      · intro d member
        obtain ⟨old, inOld, rfl⟩ := List.mem_map.mp member
        exact tracks_fresh rfl (valuesSince_cleared _ _) (fun _ => raisedSince_cleared _ _ _)
          (wf.tracks old inOld).ordered
  | disabled => exact ⟨wf.idsDistinct, wf.fits, wf.tracks⟩
  | replaced index d found unlatched ordered =>
      have ids := map_set_of_findKey Def.paramId found
      refine ⟨?_, ?_, ?_⟩
      · show ((s.defs.set index d).map (fun d => d.paramId)).Nodup
        rw [ids]
        exact wf.idsDistinct
      · show (s.defs.set index d).length ≤ s.capacity.toNat
        rw [List.length_set]
        exact wf.fits
      · intro other member
        by_cases same : other = d
        · rw [same]
          exact tracks_installed s.trace unlatched ordered
        · have distinct : ((s.defs.set index d).map (fun d => d.paramId)).Nodup := by
            rw [ids]
            exact wf.idsDistinct
          obtain ⟨old, place, _⟩ := findKey_some found
          have dMember : d ∈ s.defs.set index d :=
            List.mem_set (List.getElem?_eq_some_iff.mp place).1 d
          have different : d.paramId ≠ other.paramId := by
            intro equal
            exact same (List.inj_on_of_nodup_map distinct member dMember equal.symm)
          rcases List.mem_or_eq_of_mem_set member with before | equal
          · exact (wf.tracks other before).installed_other different
          · exact absurd equal same
  | appended d absent room unlatched ordered =>
      have fresh := (findKey_eq_none_iff Def.paramId s.defs d.paramId).mp absent
      refine ⟨?_, ?_, ?_⟩
      · show ((s.defs ++ [d]).map (fun d => d.paramId)).Nodup
        rw [List.map_append]
        apply List.Nodup.append wf.idsDistinct (List.nodup_singleton _)
        intro paramId before last
        rw [List.mem_singleton.mp last] at before
        exact fresh before
      · show (s.defs ++ [d]).length ≤ s.capacity.toNat
        rw [List.length_append]
        exact room
      · intro other member
        rcases List.mem_append.mp member with before | last
        · apply (wf.tracks other before).installed_other
          intro equal
          rw [equal] at fresh
          exact fresh (List.mem_map_of_mem (f := fun d : Def => d.paramId) before)
        · rw [List.mem_singleton.mp last]
          exact tracks_installed s.trace unlatched ordered
  | removed d rest perm =>
      have ids : ((d :: rest).map (fun d => d.paramId)).Nodup :=
        (perm.map (fun d => d.paramId)).nodup_iff.mp wf.idsDistinct
      refine ⟨(List.nodup_cons.mp ids).2, ?_, ?_⟩
      · have count : s.defs.length = rest.length + 1 := perm.length_eq
        have fits := wf.fits
        show rest.length ≤ s.capacity.toNat
        omega
      · intro other member
        exact wf.tracks other (perm.mem_iff.mpr (List.mem_cons_of_mem d member))
  | emptied => exact ⟨by simp, by simp, by simp⟩

end Openobsw.Pus.S12
