import Mathlib.Data.List.Nodup
import Openobsw.Pus.S3

/-!
Owns the abstract view of housekeeping: an ordered list of report structures,
each with the parameters it was created from, and the proof that the set table
with its pool represents such a list under every command and tick.
-/

namespace Openobsw.Pus.S3

open Openobsw.Lib.Tables Openobsw.Pus.S1 Openobsw.Pus.Handler Openobsw.Util

/-- Where a structure's parameters come from: a boot-time array of which `count`
entries are used, or the parameter IDs of its TC(3,1). -/
inductive Source where
  | boot (params : List Param) (count : UInt8)
  | created (ids : List UInt16)
deriving DecidableEq, Repr

/-- A housekeeping report structure, with no pool and no pointers. -/
structure Structure where
  setId : UInt8
  source : Source
  intervalTicks : UInt32
  countdown : UInt32
  enabled : Bool
deriving DecidableEq, Repr

/-- The parameter IDs a structure keeps in the pool. -/
def Source.ids : Source → List UInt16
  | .boot _ _ => []
  | .created ids => ids

def Source.count : Source → UInt8
  | .boot _ count => count
  | .created ids => UInt8.ofNat ids.length

def Source.pointer : Source → Nat → ParamsPtr
  | .boot params _, _ => .boot params
  | .created _, offset => .pool offset

/-- The set of a structure whose pool slice, if it has one, starts at `offset`. -/
def Structure.render (a : Structure) (offset : Nat) : HkSet where
  setId := a.setId
  params := a.source.pointer offset
  paramCount := a.source.count
  intervalTicks := a.intervalTicks
  countdown := a.countdown
  enabled := a.enabled

/-- The set table of a list of structures, their slices in order from `offset` on. -/
def layout : Nat → List Structure → List HkSet
  | _, [] => []
  | offset, a :: rest => a.render offset :: layout (offset + a.source.ids.length) rest

/-- The parameter IDs behind the used part of the pool. -/
def poolIds (structures : List Structure) : List UInt16 :=
  structures.flatMap (fun a => a.source.ids)

/-- The pool entry of a known parameter ID. -/
def poolEntry (s : Ctx) (table : List S20.Param) (id : UInt16) : Param where
  ptr := .s20 ((findParam s table id).getD 0)
  size := .u32

/-- A structure's parameters can be reported: a boot-time array holds the entries
in use and its S20 pointers are inside the table; a created one lists at least one
known parameter, and no more than fit one report. -/
def Source.Reportable (cfg : Config) (s : Ctx) (table : List S20.Param) : Source → Prop
  | .boot params count =>
      count.toNat ≤ params.length ∧
        ∀ p ∈ params, ∀ index, p.ptr = .s20 index → index < table.length
  | .created ids =>
      ids ≠ [] ∧ ids.length ≤ 255 ∧ 1 + 4 * ids.length ≤ maxReportData cfg ∧
        ∀ id ∈ ids, (findParam s table id).isSome = true

/-- The set table and the pool hold exactly these structures. -/
structure Represents (cfg : Config) (table : List S20.Param) (s : Ctx)
    (structures : List Structure) : Prop where
  sets : s.sets = layout 0 structures
  pool : s.paramPool.getD [] = (poolIds structures).map (poolEntry s table)
  idsDistinct : (structures.map (fun a => a.setId)).Nodup
  setsFit : structures.length ≤ s.setCapacity.toNat
  poolFits : (poolIds structures).length ≤ s.paramPoolLen.toNat
  reportable : ∀ a ∈ structures, a.source.Reportable cfg s table

/-! ### Layout -/

theorem layout_append (offset : Nat) (first second : List Structure) :
    layout offset (first ++ second) =
      layout offset first ++ layout (offset + (poolIds first).length) second := by
  induction first generalizing offset with
  | nil => rfl
  | cons a rest inductionHypothesis =>
      have split : (poolIds (a :: rest)).length =
          a.source.ids.length + (poolIds rest).length := by
        simp [poolIds]
      show a.render offset :: layout _ (rest ++ second) = _
      rw [inductionHypothesis, split, ← Nat.add_assoc]
      rfl

theorem layout_setIds (offset : Nat) (structures : List Structure) :
    (layout offset structures).map (fun set => set.setId) =
      structures.map (fun a => a.setId) := by
  induction structures generalizing offset with
  | nil => rfl
  | cons a rest inductionHypothesis =>
      show a.setId :: (layout _ rest).map _ = _
      rw [inductionHypothesis]
      rfl

@[simp] theorem layout_length (offset : Nat) (structures : List Structure) :
    (layout offset structures).length = structures.length := by
  have same := congrArg List.length (layout_setIds offset structures)
  simpa using same

theorem poolIds_append (first second : List Structure) :
    poolIds (first ++ second) = poolIds first ++ poolIds second :=
  List.flatMap_append

theorem poolIds_cons (a : Structure) (rest : List Structure) :
    poolIds (a :: rest) = a.source.ids ++ poolIds rest :=
  List.flatMap_cons

variable {cfg : Config} {table : List S20.Param} {s : Ctx} {structures : List Structure}

theorem Represents.used (represents : Represents cfg table s structures) :
    s.paramPoolUsed = (poolIds structures).length := by
  unfold Ctx.paramPoolUsed
  rw [represents.pool, List.length_map]

theorem Represents.pool_some (represents : Represents cfg table s structures)
    {pool : List Param} (allocated : s.paramPool = some pool) :
    pool = (poolIds structures).map (poolEntry s table) := by
  have same := represents.pool
  rwa [allocated] at same

/-- A set ID is found where its structure stands. -/
theorem Represents.findSet_some (represents : Represents cfg table s structures) {setId : UInt8}
    {index : Nat} (found : findSet s.sets setId = some index) :
    ∃ before a after, structures = before ++ a :: after ∧ before.length = index ∧
      a.setId = setId := by
  obtain ⟨inRange, matched, _⟩ := List.findIdx?_eq_some_iff_getElem.mp found
  have below : index < structures.length := by
    rwa [represents.sets, layout_length] at inRange
  refine ⟨structures.take index, structures[index], structures.drop (index + 1), ?_, ?_, ?_⟩
  · rw [List.getElem_cons_drop, List.take_append_drop]
  · rw [List.length_take]
    omega
  · have place : (s.sets.map (fun set => set.setId))[index]? = some setId := by
      rw [List.getElem?_map, List.getElem?_eq_getElem inRange]
      simpa using matched
    rw [represents.sets, layout_setIds, List.getElem?_map, List.getElem?_eq_getElem below] at place
    exact Option.some.inj place

theorem Represents.getElem?_eq (represents : Represents cfg table s structures)
    {before after : List Structure} {a : Structure} (split : structures = before ++ a :: after) :
    s.sets[before.length]? = some (a.render (poolIds before).length) := by
  have length : (layout 0 before).length = before.length := layout_length 0 before
  rw [represents.sets, split, layout_append, Nat.zero_add,
    List.getElem?_append_right (by omega), length, Nat.sub_self]
  rfl

/-! ### Removing a created set -/

theorem shiftDown_boot (s : Ctx) (stop n : Nat) {a : Structure} {params : List Param}
    {count : UInt8} (boot : a.source = .boot params count) (offset : Nat) :
    shiftDown s stop n (a.render offset) = a.render offset := by
  simp [shiftDown, poolOffset, Structure.render, boot, Source.pointer]

/-- Sets whose slices end before the gap stay where they are. -/
theorem layout_shiftDown_before (s : Ctx) {stop : Nat} (n offset : Nat) (before : List Structure)
    (below : offset + (poolIds before).length ≤ stop)
    (nonempty : ∀ a ∈ before, ∀ ids, a.source = .created ids → ids ≠ []) :
    (layout offset before).map (shiftDown s stop n) = layout offset before := by
  induction before generalizing offset with
  | nil => rfl
  | cons a rest inductionHypothesis =>
      rw [poolIds_cons, List.length_append] at below
      have tail := inductionHypothesis (offset + a.source.ids.length) (by omega)
        (fun b member => nonempty b (List.mem_cons_of_mem a member))
      have head : shiftDown s stop n (a.render offset) = a.render offset := by
        cases source : a.source with
        | boot params count => exact shiftDown_boot s stop n source offset
        | created ids =>
            have positive := List.length_pos_iff.mpr (nonempty a List.mem_cons_self ids source)
            have width : a.source.ids.length = ids.length := by rw [source]; rfl
            simp only [shiftDown, poolOffset, Structure.render, source, Source.pointer]
            split
            · rename_i found inside
              split at inside
              · cases inside
                rw [if_neg (by omega)]
              · cases inside
            · rfl
      show shiftDown s stop n (a.render offset) :: (layout _ rest).map _ = _
      rw [head, tail]
      rfl

/-- Sets whose slices start after the gap move down by its width. -/
theorem layout_shiftDown_after (s : Ctx) {stop n : Nat} (offset : Nat) (after : List Structure)
    (above : stop ≤ offset + n) (inside : offset + n + (poolIds after).length ≤ s.paramPoolUsed)
    (nonempty : ∀ a ∈ after, ∀ ids, a.source = .created ids → ids ≠ []) :
    (layout (offset + n) after).map (shiftDown s stop n) = layout offset after := by
  induction after generalizing offset with
  | nil => rfl
  | cons a rest inductionHypothesis =>
      rw [poolIds_cons, List.length_append] at inside
      have tail := inductionHypothesis (offset + a.source.ids.length) (by omega)
        (by omega) (fun b member => nonempty b (List.mem_cons_of_mem a member))
      have head : shiftDown s stop n (a.render (offset + n)) = a.render offset := by
        cases source : a.source with
        | boot params count =>
            rw [shiftDown_boot s stop n source]
            simp [Structure.render, source, Source.pointer]
        | created ids =>
            have positive := List.length_pos_iff.mpr (nonempty a List.mem_cons_self ids source)
            have width : a.source.ids.length = ids.length := by rw [source]; rfl
            simp only [shiftDown, poolOffset, Structure.render, source, Source.pointer]
            rw [if_pos (by omega)]
            show (if offset + n ≥ stop then _ else _) = _
            rw [if_pos above, Nat.add_sub_cancel]
      have shift : offset + n + a.source.ids.length = offset + a.source.ids.length + n := by
        omega
      show shiftDown s stop n (a.render (offset + n)) :: (layout _ rest).map _ = _
      rw [head, shift, tail]
      rfl

theorem Represents.nonempty (represents : Represents cfg table s structures) :
    ∀ a ∈ structures, ∀ ids, a.source = .created ids → ids ≠ [] := by
  intro a member ids source
  have reportable := represents.reportable a member
  rw [source] at reportable
  exact reportable.1

/-- The set table after the shift and the removal of its entry. -/
theorem mapIdx_shiftDown (before after : List HkSet) (s : Ctx) (set : HkSet) (stop n : Nat) :
    closeGap ((before ++ set :: after).mapIdx (fun i other =>
      if i = before.length then other else shiftDown s stop n other)) before.length 1 =
      before.map (shiftDown s stop n) ++ after.map (shiftDown s stop n) := by
  have front : before.mapIdx (fun i other =>
      if i = before.length then other else shiftDown s stop n other) =
        before.map (shiftDown s stop n) := by
    apply List.ext_getElem?
    intro i
    rw [List.getElem?_mapIdx, List.getElem?_map]
    by_cases inside : i < before.length
    · rw [List.getElem?_eq_getElem inside]
      simp [Nat.ne_of_lt inside]
    · rw [List.getElem?_eq_none (by omega)]
      rfl
  have back : after.mapIdx (fun i other =>
      if i + 1 + before.length = before.length then other else shiftDown s stop n other) =
        after.map (shiftDown s stop n) := by
    apply List.ext_getElem?
    intro i
    rw [List.getElem?_mapIdx, List.getElem?_map]
    cases after[i]? with
    | none => rfl
    | some other => simp
  rw [closeGap_one _ _ (by simp), List.mapIdx_append, List.mapIdx_cons, front]
  have length : (before.map (shiftDown s stop n)).length = before.length := List.length_map _
  rw [List.eraseIdx_append_of_length_le (by omega), length, Nat.sub_self, List.eraseIdx_cons_zero]
  exact congrArg _ back

/-- The table of sets behind a removal is that of the other structures. -/
theorem closeGap_layout {before after : List Structure} {a : Structure} {ids : List UInt16}
    (sourceIds : a.source.ids = ids) (positive : 0 < ids.length)
    (nonempty : ∀ b ∈ before ++ a :: after, ∀ ids, b.source = .created ids → ids ≠ [])
    (total : s.paramPoolUsed =
      (poolIds before).length + (ids.length + (poolIds after).length)) :
    closeGap ((layout 0 (before ++ a :: after)).mapIdx (fun i other =>
        if i = before.length then other
        else shiftDown s ((poolIds before).length + ids.length) ids.length other))
      before.length 1 = layout 0 (before ++ after) := by
  have length : (layout 0 before).length = before.length := layout_length 0 before
  have shape := mapIdx_shiftDown (layout 0 before)
    (layout ((poolIds before).length + a.source.ids.length) after) s
    (a.render (poolIds before).length) ((poolIds before).length + ids.length) ids.length
  rw [length] at shape
  rw [layout_append, Nat.zero_add]
  refine shape.trans ?_
  rw [sourceIds, layout_shiftDown_before s _ 0 before (by omega)
    (fun b member => nonempty b (List.mem_append_left _ member)),
    layout_shiftDown_after s _ after (by omega) (by omega)
    (fun b member => nonempty b (List.mem_append_right _ (List.mem_cons_of_mem a member))),
    layout_append, Nat.zero_add]

/-- The pool behind a removal is that of the other structures. -/
theorem closeGap_pool (entry : UInt16 → Param) (front ids back : List UInt16) :
    closeGap ((front ++ (ids ++ back)).map entry) front.length ids.length =
      (front ++ back).map entry := by
  have first : (front.map entry).length = front.length := List.length_map _
  have second : (ids.map entry).length = ids.length := List.length_map _
  rw [closeGap_eq _ _ _ (by rw [List.length_map, List.length_append, List.length_append]; omega),
    List.map_append, List.map_append, List.map_append, List.take_left' first,
    ← List.append_assoc, List.drop_left' (by rw [List.length_append, first, second])]

/-- Fewer structures of the same kind fit where all of them did. -/
theorem Represents.dropped (represents : Represents cfg table s structures)
    {before after : List Structure} {a : Structure} (split : structures = before ++ a :: after) :
    Represents cfg table { s with
      sets := layout 0 (before ++ after)
      paramPool := some ((poolIds (before ++ after)).map (poolEntry s table)) }
      (before ++ after) := by
  have fewer : (before ++ after).Sublist structures := by
    rw [split]
    exact (List.sublist_cons_self a after).append_left before
  refine ⟨rfl, rfl, (fewer.map _).nodup represents.idsDistinct,
    fewer.length_le.trans represents.setsFit, ?_,
    fun b member => represents.reportable b (fewer.subset member)⟩
  have fits := represents.poolFits
  rw [split, poolIds_append, poolIds_cons] at fits
  show (poolIds (before ++ after)).length ≤ s.paramPoolLen.toNat
  rw [poolIds_append]
  simp only [List.length_append] at fits ⊢
  omega

/-- Removing a created set leaves exactly the other structures, in order. -/
theorem Represents.removeDefined (represents : Represents cfg table s structures)
    {before after : List Structure} {a : Structure} {ids : List UInt16}
    (split : structures = before ++ a :: after) (source : a.source = .created ids) :
    ∃ removed, removeDefined before.length s = some removed ∧
      Represents cfg table removed (before ++ after) := by
  have nonempty := represents.nonempty
  have positive : 0 < ids.length :=
    List.length_pos_iff.mpr (nonempty a (by rw [split]; simp) ids source)
  have bounded : ids.length ≤ 255 := by
    have reportable := represents.reportable a (by rw [split]; simp)
    rw [source] at reportable
    exact reportable.2.1
  have used := represents.used
  have sourceIds : a.source.ids = ids := by rw [source]; rfl
  have allIds : poolIds structures = poolIds before ++ (ids ++ poolIds after) := by
    rw [split, poolIds_append, poolIds_cons, sourceIds]
  have total : s.paramPoolUsed =
      (poolIds before).length + (ids.length + (poolIds after).length) := by
    rw [used, allIds, List.length_append, List.length_append]
  cases allocated : s.paramPool with
  | none =>
      have zero : s.paramPoolUsed = 0 := by
        unfold Ctx.paramPoolUsed
        rw [allocated]
        rfl
      omega
  | some pool =>
      have poolEq := represents.pool_some allocated
      have poolLength : pool.length = s.paramPoolUsed := by
        rw [poolEq, List.length_map, ← used]
      have count : (a.render (poolIds before).length).paramCount.toNat = ids.length := by
        simp only [Structure.render, source, Source.count, UInt8.toNat_ofNat']
        omega
      have offset : poolOffset s (a.render (poolIds before).length) =
          some (poolIds before).length := by
        simp only [poolOffset, Structure.render, source, Source.pointer]
        rw [if_pos (by omega)]
      refine ⟨_, ?_, represents.dropped split⟩
      unfold S3.removeDefined
      rw [represents.getElem?_eq split, allocated]
      simp only [Option.bind_eq_bind, Option.bind_some, offset, count]
      rw [if_neg (by omega), represents.sets, split,
        closeGap_layout sourceIds positive (split ▸ nonempty) total, poolEq, allIds, closeGap_pool,
        poolIds_append]
      rfl

/-! ### Boot configurations -/

/-- The sets the application registers at start-up: distinct IDs, parameter arrays
outside the pool that hold the entries in use, and nothing allocated yet. -/
structure Boot (table : List S20.Param) (s : Ctx) : Prop where
  arrays : ∀ set ∈ s.sets, ∃ params, set.params = .boot params ∧
    set.paramCount.toNat ≤ params.length ∧
    ∀ p ∈ params, ∀ index, p.ptr = .s20 index → index < table.length
  idsDistinct : (s.sets.map (fun set => set.setId)).Nodup
  fits : s.sets.length ≤ s.setCapacity.toNat
  unused : s.paramPoolUsed = 0

/-- The set has an array that holds the entries in use, which point into a table of
`tableLen` entries or to variables. -/
def HkSet.arrayFits (tableLen : Nat) (set : HkSet) : Bool :=
  match set.params with
  | .pool _ => false
  | .boot params => decide (set.paramCount.toNat ≤ params.length) && params.all (fun p =>
      match p.ptr with
      | .s20 index => decide (index < tableLen)
      | .app _ => true)

theorem HkSet.array_of_fits {tableLen : Nat} {set : HkSet} (fits : set.arrayFits tableLen = true) :
    ∃ params, set.params = .boot params ∧ set.paramCount.toNat ≤ params.length ∧
      ∀ p ∈ params, ∀ index, p.ptr = .s20 index → index < tableLen := by
  unfold arrayFits at fits
  split at fits
  · cases fits
  · rename_i params pointer
    rw [Bool.and_eq_true, decide_eq_true_eq, List.all_eq_true] at fits
    refine ⟨params, pointer, fits.1, ?_⟩
    intro p member index points
    have inside := fits.2 p member
    rw [points, decide_eq_true_eq] at inside
    exact inside

/-- The structure of a boot-time set. -/
def HkSet.bootStructure (set : HkSet) : Structure where
  setId := set.setId
  source := .boot (match set.params with | .boot params => params | .pool _ => []) set.paramCount
  intervalTicks := set.intervalTicks
  countdown := set.countdown
  enabled := set.enabled

theorem layout_bootStructure (offset : Nat) {sets : List HkSet}
    (arrays : ∀ set ∈ sets, ∃ params, set.params = .boot params) :
    layout offset (sets.map HkSet.bootStructure) = sets := by
  induction sets with
  | nil => rfl
  | cons set rest inductionHypothesis =>
      obtain ⟨params, pointer⟩ := arrays set List.mem_cons_self
      have tail := inductionHypothesis (fun other member => arrays other (List.mem_cons_of_mem set member))
      have head : set.bootStructure.render offset = set := by
        cases set with
        | mk setId setPointer paramCount intervalTicks countdown enabled =>
            subst pointer
            rfl
      show set.bootStructure.render offset :: layout (offset + 0) _ = _
      rw [head, Nat.add_zero, tail]

/-- A boot configuration represents the structures of its sets. -/
theorem Boot.represents (boot : Boot table s) :
    Represents cfg table s (s.sets.map HkSet.bootStructure) := by
  have noIds : poolIds (s.sets.map HkSet.bootStructure) = [] := by
    apply List.flatMap_eq_nil_iff.mpr
    intro a member
    obtain ⟨set, _, rfl⟩ := List.mem_map.mp member
    rfl
  refine ⟨?_, ?_, ?_, ?_, ?_, ?_⟩
  · symm
    apply layout_bootStructure
    intro set member
    obtain ⟨params, pointer, _⟩ := boot.arrays set member
    exact ⟨params, pointer⟩
  · rw [noIds]
    exact List.length_eq_zero_iff.mp boot.unused
  · rw [List.map_map]
    exact boot.idsDistinct
  · rw [List.length_map]
    exact boot.fits
  · rw [noIds]
    exact Nat.zero_le _
  · intro a member
    obtain ⟨set, inSets, rfl⟩ := List.mem_map.mp member
    obtain ⟨params, pointer, enough, inside⟩ := boot.arrays set inSets
    unfold HkSet.bootStructure
    rw [pointer]
    exact ⟨enough, inside⟩

end Openobsw.Pus.S3
