import Openobsw.Pus.S3Sets

/-!
Owns what each housekeeping command does to the structures the set table
represents, and that every command and tick runs without a fault.
-/

namespace Openobsw.Pus.S3

open Openobsw.Lib.Tables Openobsw.Pus.S1 Openobsw.Pus.Handler Openobsw.Util

variable {cfg : Config} {table : List S20.Param} {s : Ctx} {structures : List Structure}

/-! ### TC(3,1) -/

/-- The structure a TC(3,1) with user data `u` asks for. -/
structure CreatedFrom (u : List UInt8) (a : Structure) : Prop where
  setId : u[0]? = some a.setId
  interval : obswBe32 u 1 = some a.intervalTicks
  countdown : a.countdown = a.intervalTicks
  disabled : a.enabled = false
  source : ∃ n ids, u[5]? = some n ∧ paramIds u n.toNat = some ids ∧ a.source = .created ids

theorem paramIds_isSome {u : List UInt8} {n : Nat} (fits : 6 + 2 * n ≤ u.length) :
    ∃ ids, paramIds u n = some ids ∧ ids.length = n := by
  have each : ∀ i ∈ List.range n, ∃ id, obswBe16 u (6 + 2 * i) = some id := by
    intro i member
    have below := List.mem_range.mp member
    exact obswBe16_isSome u _ (by omega)
  obtain ⟨ids, read, length⟩ := mapM_isSome each
  exact ⟨ids, read, by simpa using length⟩

theorem poolParam_eq {id : UInt16} (known : (findParam s table id).isSome = true) :
    poolParam s table id = some (poolEntry s table id) := by
  obtain ⟨index, found⟩ := Option.isSome_iff_exists.mp known
  unfold poolParam poolEntry
  rw [found]
  rfl

/-- A created structure goes to the end of the table and of the pool. -/
theorem Represents.create (represents : Represents cfg table s structures) {a : Structure}
    {ids : List UInt16} {n : UInt8} (source : a.source = .created ids)
    (count : n.toNat = ids.length) (countdown : a.countdown = a.intervalTicks)
    (disabled : a.enabled = false) (fresh : findSet s.sets a.setId = none)
    (reportable : a.source.Reportable cfg s table) (allocated : s.paramPool ≠ none)
    (slot : s.sets.length < s.setCapacity.toNat)
    (room : ids.length ≤ s.paramPoolLen.toNat - s.paramPoolUsed) :
    ∃ after, create table a.setId a.intervalTicks n ids s = some after ∧
      Represents cfg table after (structures ++ [a]) := by
  obtain ⟨pool, poolSome⟩ := Option.ne_none_iff_exists'.mp allocated
  have poolEq := represents.pool_some poolSome
  have used := represents.used
  have poolLength : pool.length = (poolIds structures).length := by
    rw [poolEq, List.length_map]
  have fitsPool := represents.poolFits
  have known : ∀ id ∈ ids, (findParam s table id).isSome = true := by
    rw [source] at reportable
    exact reportable.2.2.2
  have params := mapM_eq_map (fun id member => poolParam_eq (known id member))
  have enough : pool.length + (ids.map (poolEntry s table)).length ≤ s.paramPoolLen.toNat := by
    rw [List.length_map]
    omega
  have sourceIds : a.source.ids = ids := by rw [source]; rfl
  have rendered : a.render pool.length = {
      setId := a.setId
      params := .pool pool.length
      paramCount := n
      intervalTicks := a.intervalTicks
      countdown := a.intervalTicks
      enabled := false } := by
    have sameCount : UInt8.ofNat ids.length = n := by rw [← count, UInt8.ofNat_toNat]
    simp [Structure.render, source, Source.pointer, Source.count, sameCount, countdown, disabled]
  refine ⟨{ s with
    sets := s.sets ++ [a.render pool.length]
    paramPool := some (pool ++ ids.map (poolEntry s table)) }, ?_, ?_⟩
  · unfold S3.create
    rw [poolSome, params]
    simp only [Option.bind_eq_bind, Option.bind_some]
    rw [appendWithin_eq enough, rendered]
    simp only [Option.bind_some]
    rw [pushWithin_eq _ slot]
    rfl
  · constructor
    · show s.sets ++ [a.render pool.length] = layout 0 (structures ++ [a])
      rw [layout_append, represents.sets, Nat.zero_add, poolLength]
      rfl
    · show pool ++ ids.map (poolEntry s table) = (poolIds (structures ++ [a])).map _
      rw [poolIds_append, poolIds_cons, sourceIds, List.map_append, List.map_append, poolEq]
      simp [poolIds]
      rfl
    · rw [List.map_append]
      apply List.Nodup.append represents.idsDistinct (List.nodup_singleton _)
      intro setId before last
      rw [List.mem_singleton.mp last] at before
      apply (findKey_eq_none_iff HkSet.setId s.sets a.setId).mp fresh
      rwa [represents.sets, layout_setIds]
    · have same : s.sets.length = structures.length := by
        rw [represents.sets, layout_length]
      rw [List.length_append]
      show structures.length + 1 ≤ s.setCapacity.toNat
      omega
    · show (poolIds (structures ++ [a])).length ≤ s.paramPoolLen.toNat
      rw [poolIds_append, poolIds_cons, sourceIds, List.length_append, List.length_append]
      show (poolIds structures).length + (ids.length + 0) ≤ s.paramPoolLen.toNat
      omega
    · intro b member
      rcases List.mem_append.mp member with before | last
      · exact represents.reportable b before
      · rw [List.mem_singleton.mp last]
        exact reportable

/-- What the checks of the handler establish: user data `u` is read as a set ID, an interval and
`n` parameter IDs, and there is room for the set. -/
structure Requested (cfg : Config) (table : List S20.Param) (s : Ctx) (u : List UInt8)
    (setId : UInt8) (interval : UInt32) (n : UInt8) (ids : List UInt16) : Prop where
  setIdRead : u[0]? = some setId
  intervalRead : obswBe32 u 1 = some interval
  countRead : u[5]? = some n
  idsRead : paramIds u n.toNat = some ids
  exactLength : u.length = 6 + 2 * n.toNat
  nonzero : n ≠ 0
  fresh : findSet s.sets setId = none
  fits : 1 + 4 * n.toNat ≤ maxReportData cfg
  known : ∀ id ∈ ids, (findParam s table id).isSome = true
  allocated : s.paramPool ≠ none
  slot : s.sets.length < s.setCapacity.toNat
  room : n.toNat ≤ s.paramPoolLen.toNat - s.paramPoolUsed

theorem any_unknown_iff (table : List S20.Param) (s : Ctx) (ids : List UInt16) :
    ids.any (fun id => (findParam s table id).isNone) = true ↔
      ¬ ∀ id ∈ ids, (findParam s table id).isSome = true := by
  simp

/-- A TC(3,1) is rejected, or it passes every check and its set is created. -/
theorem define_cases (table : List S20.Param) (tc : Tc) (s : Ctx) (link : Link cfg) :
    (∃ code, HandlerCode code ∧ define table tc s link = reject tc code s link) ∨
      ∃ (u : List UInt8) (setId : UInt8) (interval : UInt32) (n : UInt8) (ids : List UInt16),
        tc.userData = some u ∧ Requested cfg table s u setId interval n ids ∧
        define table tc s link = execute tc (create table setId interval n ids) s link := by
  unfold define requireUserData
  cases present : tc.userData with
  | none => exact .inl ⟨_, handlerCode_illegalAppData, rfl⟩
  | some u =>
      by_cases long : u.length < 6
      · exact .inl ⟨_, handlerCode_illegalAppData, if_pos long⟩
      obtain ⟨setId, setIdRead⟩ := getElem?_isSome u 0 (by omega)
      obtain ⟨interval, intervalRead⟩ := obswBe32_isSome u 1 (by omega)
      obtain ⟨n, countRead⟩ := getElem?_isSome u 5 (by omega)
      have size : tc.userDataLen = u.length := by simp [Tc.userDataLen, present]
      simp only [if_neg long, setIdRead, intervalRead, countRead, Option.bind_eq_bind,
        Option.bind_some]
      by_cases malformed : n = 0 ∨ tc.userDataLen ≠ 6 + 2 * n.toNat ∨
          (findSet s.sets setId).isSome = true ∨ 1 + 4 * n.toNat > maxReportData cfg
      · exact .inl ⟨_, handlerCode_illegalAppData, if_pos malformed⟩
      rw [if_neg malformed]
      simp only [not_or, Decidable.not_not, size] at malformed
      obtain ⟨nonzero, exactLength, fresh, fits⟩ := malformed
      obtain ⟨ids, idsRead, _⟩ := paramIds_isSome (u := u) (n := n.toNat) (by omega)
      simp only [idsRead, Option.bind_some]
      by_cases unknown : ids.any (fun id => (findParam s table id).isNone) = true
      · exact .inl ⟨_, handlerCode_illegalAppData, if_pos unknown⟩
      rw [if_neg unknown]
      by_cases full : s.paramPool = none ∨ s.sets.length ≥ s.setCapacity.toNat ∨
          s.paramPoolLen.toNat - s.paramPoolUsed < n.toNat
      · exact .inl ⟨_, handlerCode_execError, if_pos full⟩
      rw [if_neg full]
      simp only [not_or] at full
      obtain ⟨allocated, slot, room⟩ := full
      rw [any_unknown_iff, not_not] at unknown
      exact .inr ⟨u, setId, interval, n, ids, rfl,
        { setIdRead, intervalRead, countRead, idsRead, exactLength, nonzero, allocated,
          fresh := Option.not_isSome_iff_eq_none.mp fresh
          fits := by omega
          known := unknown
          slot := by omega
          room := by omega }, rfl⟩

theorem define_requested {tc : Tc} {u : List UInt8} {setId : UInt8} {interval : UInt32} {n : UInt8}
    {ids : List UInt16} (present : tc.userData = some u)
    (requested : Requested cfg table s u setId interval n ids) (link : Link cfg) :
    define table tc s link = execute tc (create table setId interval n ids) s link := by
  have length := requested.exactLength
  have size : tc.userDataLen = u.length := by simp [Tc.userDataLen, present]
  have shaped : ¬ (n = 0 ∨ tc.userDataLen ≠ 6 + 2 * n.toNat ∨
      (findSet s.sets setId).isSome = true ∨ 1 + 4 * n.toNat > maxReportData cfg) := by
    have fits := requested.fits
    simp [requested.nonzero, requested.fresh, size, length]
    omega
  have known : ¬ ids.any (fun id => (findParam s table id).isNone) = true := by
    rw [any_unknown_iff, not_not]
    exact requested.known
  have space : ¬ (s.paramPool = none ∨ s.sets.length ≥ s.setCapacity.toNat ∨
      s.paramPoolLen.toNat - s.paramPoolUsed < n.toNat) := by
    have slot := requested.slot
    have room := requested.room
    simp only [requested.allocated, false_or]
    omega
  unfold define requireUserData
  simp only [present]
  rw [if_neg (by omega)]
  simp only [requested.setIdRead, requested.intervalRead, requested.countRead, requested.idsRead,
    Option.bind_eq_bind, Option.bind_some]
  rw [if_neg shaped, if_neg known, if_neg space]

theorem Requested.length {u : List UInt8} {setId : UInt8} {interval : UInt32} {n : UInt8}
    {ids : List UInt16} (requested : Requested cfg table s u setId interval n ids) :
    ids.length = n.toNat := by
  have length := requested.exactLength
  obtain ⟨others, read, count⟩ := paramIds_isSome (u := u) (n := n.toNat) (by omega)
  rw [requested.idsRead] at read
  cases read
  exact count

theorem define_updates (represents : Represents cfg table s structures) (tc : Tc)
    (link : Link cfg) :
    Updates tc s link
      (fun after => ∃ u a, tc.userData = some u ∧ CreatedFrom u a ∧
        Represents cfg table after (structures ++ [a]))
      (define table tc s link) := by
  rcases define_cases table tc s link with rejected | accepted
  · obtain ⟨code, known, shape⟩ := rejected
    rw [shape]
    exact reject_updates known _ _ _ _
  · obtain ⟨u, setId, interval, n, ids, present, requested, shape⟩ := accepted
    have length := requested.length
    have bounded := n.toNat_lt
    have nonempty : ids ≠ [] := by
      intro empty
      rw [empty] at length
      exact requested.nonzero (UInt8.toNat_inj.mp length.symm)
    let a : Structure := {
      setId := setId
      source := .created ids
      intervalTicks := interval
      countdown := interval
      enabled := false }
    have reportable : a.source.Reportable cfg s table :=
      ⟨nonempty, by omega, length ▸ requested.fits, requested.known⟩
    obtain ⟨after, created, represented⟩ := represents.create (a := a) (n := n) rfl length.symm rfl
      rfl requested.fresh reportable requested.allocated requested.slot (length ▸ requested.room)
    rw [shape]
    exact execute_updates tc link created ⟨u, a, present, ⟨requested.setIdRead,
      requested.intervalRead, rfl, rfl, n, ids, requested.countRead, requested.idsRead, rfl⟩,
      represented⟩

/-! ### TC(3,3) -/

/-- The structures left after the removal of those with the listed IDs. -/
def without (setIds : List UInt8) (structures : List Structure) : List Structure :=
  structures.filter (fun a => decide (a.setId ∉ setIds))

/-- A structure TC(3,3) may remove: created by TC(3,1) and disabled. -/
def Removable (structures : List Structure) (setId : UInt8) : Prop :=
  ∃ a ∈ structures, a.setId = setId ∧ a.enabled = false ∧ ∃ ids, a.source = .created ids

theorem Represents.removable (represents : Represents cfg table s structures) {setId : UInt8}
    (checked : removable s setId = true) : Removable structures setId := by
  unfold S3.removable at checked
  cases found : findSet s.sets setId with
  | none =>
      rw [found] at checked
      cases checked
  | some index =>
      obtain ⟨before, a, after, split, length, named⟩ := represents.findSet_some found
      rw [found] at checked
      subst length
      simp only [Option.bind_some, represents.getElem?_eq split, Bool.and_eq_true,
        Bool.not_eq_true', Structure.render, poolOffset] at checked
      refine ⟨a, by rw [split]; simp, named, checked.1, ?_⟩
      cases source : a.source with
      | created ids => exact ⟨ids, rfl⟩
      | boot params count =>
          rw [source] at checked
          cases checked.2

/-- Dropping one structure of distinct IDs is dropping all with its ID. -/
theorem without_singleton {before after : List Structure} {a : Structure}
    (distinct : ((before ++ a :: after).map (fun b => b.setId)).Nodup) :
    without [a.setId] (before ++ a :: after) = before ++ after := by
  rw [List.map_append, List.map_cons] at distinct
  have parts := List.nodup_append'.mp distinct
  have notAfter : a.setId ∉ after.map (fun b => b.setId) := (List.nodup_cons.mp parts.2.1).1
  have notBefore : a.setId ∉ before.map (fun b => b.setId) :=
    fun member => parts.2.2 member List.mem_cons_self
  have keep : ∀ others : List Structure, a.setId ∉ others.map (fun b => b.setId) →
      without [a.setId] others = others := by
    intro others absent
    apply List.filter_eq_self.mpr
    intro b member
    have other : b.setId ≠ a.setId := fun same => absent (same ▸ List.mem_map_of_mem member)
    simpa using other
  unfold without at keep ⊢
  rw [List.filter_append, keep before notBefore, List.filter_cons_of_neg (by simp),
    keep after notAfter]

theorem without_cons (setId : UInt8) (rest : List UInt8) (structures : List Structure) :
    without rest (without [setId] structures) = without (setId :: rest) structures := by
  unfold without
  rw [List.filter_filter]
  apply List.filter_congr
  intro a _
  simp [Bool.and_comm]

theorem Represents.removeAll {setIds : List UInt8} :
    ∀ {s : Ctx} {structures : List Structure}, Represents cfg table s structures →
      setIds.Nodup → (∀ setId ∈ setIds, Removable structures setId) →
      ∃ after, removeAll setIds s = some after ∧
        Represents cfg table after (without setIds structures) := by
  induction setIds with
  | nil =>
      intro s structures represents _ _
      refine ⟨s, rfl, ?_⟩
      have all : without [] structures = structures := List.filter_eq_self.mpr (by simp)
      rwa [all]
  | cons setId rest inductionHypothesis =>
      intro s structures represents distinct removables
      obtain ⟨absent, restDistinct⟩ := List.nodup_cons.mp distinct
      have present : findSet s.sets setId ≠ none := by
        obtain ⟨a, member, named, _⟩ := removables setId List.mem_cons_self
        intro none
        apply (findKey_eq_none_iff HkSet.setId s.sets setId).mp none
        rw [represents.sets]
        show setId ∈ (layout 0 structures).map (fun set => set.setId)
        rw [layout_setIds, ← named]
        exact List.mem_map_of_mem member
      obtain ⟨index, found⟩ := Option.ne_none_iff_exists'.mp present
      obtain ⟨before, a, after, split, length, named⟩ := represents.findSet_some found
      have distinctIds := represents.idsDistinct
      obtain ⟨b, bMember, bNamed, _, ids, bSource⟩ := removables setId List.mem_cons_self
      have sameStructure : b = a := by
        have aMember : a ∈ structures := by rw [split]; simp
        exact List.inj_on_of_nodup_map distinctIds bMember aMember (bNamed.trans named.symm)
      rw [sameStructure] at bSource
      obtain ⟨middle, removed, middleRepresents⟩ := represents.removeDefined split bSource
      have left : without [setId] structures = before ++ after := by
        rw [split] at distinctIds ⊢
        rw [← named]
        exact without_singleton distinctIds
      rw [← left] at middleRepresents
      have later : ∀ other ∈ rest, Removable (without [setId] structures) other := by
        intro other member
        obtain ⟨c, cMember, cNamed, cRest⟩ := removables other (List.mem_cons_of_mem setId member)
        refine ⟨c, List.mem_filter.mpr ⟨cMember, ?_⟩, cNamed, cRest⟩
        have different : c.setId ≠ setId := by
          intro same
          rw [cNamed] at same
          exact absent (same ▸ member)
        simpa using different
      obtain ⟨final, finished, represented⟩ :=
        inductionHypothesis middleRepresents restDistinct later
      rw [without_cons] at represented
      refine ⟨final, ?_, represented⟩
      subst length
      unfold S3.removeAll
      simp only [found, removed, finished, Option.bind_eq_bind, Option.bind_some]

/-- Removal touches the set table and the pool alone. -/
structure Ctx.SameFrame (s after : Ctx) : Prop where
  rest : after = { s with sets := after.sets, paramPool := after.paramPool }
  allocated : after.paramPool.isSome = s.paramPool.isSome

theorem removeDefined_frame {index : Nat} {after : Ctx}
    (removed : removeDefined index s = some after) : s.SameFrame after := by
  unfold removeDefined at removed
  obtain ⟨set, _, removed⟩ := Option.bind_eq_some_iff.mp removed
  obtain ⟨pool, allocated, removed⟩ := Option.bind_eq_some_iff.mp removed
  obtain ⟨offset, _, removed⟩ := Option.bind_eq_some_iff.mp removed
  simp only at removed
  split at removed
  · cases removed
  · cases removed
    exact ⟨rfl, by rw [allocated]; rfl⟩

theorem removeAll_frame {setIds : List UInt8} {after : Ctx}
    (removed : removeAll setIds s = some after) : s.SameFrame after := by
  induction setIds generalizing s with
  | nil =>
      cases removed
      exact ⟨rfl, rfl⟩
  | cons setId rest inductionHypothesis =>
      obtain ⟨index, _, removed⟩ := Option.bind_eq_some_iff.mp removed
      obtain ⟨middle, first, later⟩ := Option.bind_eq_some_iff.mp removed
      have front := removeDefined_frame first
      have back := inductionHypothesis later
      refine ⟨?_, back.allocated.trans front.allocated⟩
      rw [back.rest, front.rest]

/-- The set IDs listed by a TC(3,3) with user data `u`. -/
def Lists (u : List UInt8) (setIds : List UInt8) : Prop :=
  ∃ n, u[0]? = some n ∧ (List.range n.toNat).mapM (fun i => u[1 + i]?) = some setIds

theorem deletedIds_cases (tc : Tc) (s : Ctx) :
    deletedIds tc s = some none ∨
      ∃ u setIds, tc.userData = some u ∧ deletedIds tc s = some (some setIds) ∧
        Lists u setIds ∧ (∀ setId ∈ setIds, removable s setId = true) ∧ setIds.Nodup := by
  unfold deletedIds
  cases present : tc.userData with
  | none => exact .inl rfl
  | some u =>
      by_cases short : u.length < 1
      · left
        exact if_pos short
      · obtain ⟨n, nEq⟩ := getElem?_isSome u 0 (by omega)
        simp only [if_neg short, nEq, Option.bind_eq_bind, Option.bind_some]
        split
        · exact .inl rfl
        · rename_i shaped
          have exactLength : u.length = 1 + n.toNat := by
            by_contra other
            exact shaped (.inr (.inr other))
          have each : ∀ i ∈ List.range n.toNat, ∃ byte, u[1 + i]? = some byte := by
            intro i member
            have below := List.mem_range.mp member
            exact getElem?_isSome u _ (by omega)
          obtain ⟨setIds, read, _⟩ := mapM_isSome each
          simp only [read, Option.bind_some]
          split
          · rename_i checked
            refine .inr ⟨u, setIds, rfl, rfl, ⟨n, nEq, read⟩, ?_, checked.2⟩
            exact List.all_eq_true.mp checked.1
          · exact .inl rfl

theorem delete_refused {tc : Tc} {s : Ctx} (refused : deletedIds tc s = some none)
    (link : Link cfg) : delete tc s link = reject tc failIllegalAppData s link := by
  unfold delete
  rw [refused]
  rfl

theorem delete_accepted {tc : Tc} {s : Ctx} {setIds : List UInt8}
    (accepted : deletedIds tc s = some (some setIds)) (link : Link cfg) :
    delete tc s link = execute tc (removeAll setIds) s link := by
  unfold delete
  rw [accepted]
  rfl

theorem delete_updates (represents : Represents cfg table s structures) (tc : Tc)
    (link : Link cfg) :
    Updates tc s link
      (fun after => ∃ u setIds, tc.userData = some u ∧ Lists u setIds ∧
        (∀ setId ∈ setIds, Removable structures setId) ∧
        Represents cfg table after (without setIds structures))
      (delete tc s link) := by
  rcases deletedIds_cases tc s with refused | ⟨u, setIds, present, accepted, lists, checked, distinct⟩
  · rw [delete_refused refused]
    exact reject_updates handlerCode_illegalAppData _ _ _ _
  · rw [delete_accepted accepted]
    have removables := fun setId member => represents.removable (checked setId member)
    obtain ⟨after, removed, represented⟩ := represents.removeAll distinct removables
    exact execute_updates tc link removed ⟨u, setIds, present, lists, removables, represented⟩

/-! ### TC(3,5) and TC(3,6) -/

/-- Change the structure with an ID. -/
def changed (setId : UInt8) (change : Structure → Structure) (structures : List Structure) :
    List Structure :=
  structures.map (fun a => if a.setId = setId then change a else a)

def Structure.started (interval : UInt32) (a : Structure) : Structure :=
  { a with intervalTicks := interval, countdown := interval, enabled := true }

def Structure.stopped (a : Structure) : Structure := { a with enabled := false }

/-- Structures may change in place as long as IDs and parameters stay. -/
theorem Represents.relabel (represents : Represents cfg table s structures)
    {others : List Structure} {sets : List HkSet}
    (setIds : others.map (fun a => a.setId) = structures.map (fun a => a.setId))
    (sources : others.map (fun a => a.source) = structures.map (fun a => a.source))
    (rendered : sets = layout 0 others) :
    Represents cfg table { s with sets := sets } others := by
  have samePool : poolIds others = poolIds structures := by
    have flat : ∀ list : List Structure,
        poolIds list = (list.map (fun a => a.source)).flatMap Source.ids := by
      intro list
      rw [List.flatMap_map]
      rfl
    rw [flat, flat, sources]
  have sameLength : others.length = structures.length := by
    simpa using congrArg List.length setIds
  refine ⟨rendered, ?_, setIds ▸ represents.idsDistinct, sameLength ▸ represents.setsFit,
    samePool ▸ represents.poolFits, ?_⟩
  · rw [samePool]
    exact represents.pool
  · intro a member
    have inSources : a.source ∈ structures.map (fun a => a.source) :=
      sources ▸ List.mem_map_of_mem member
    obtain ⟨b, bMember, same⟩ := List.mem_map.mp inSources
    rw [← same]
    exact represents.reportable b bMember

theorem Represents.replaceAt (represents : Represents cfg table s structures)
    {before after : List Structure} {a b : Structure} {change : HkSet → HkSet}
    (split : structures = before ++ a :: after) (sameId : b.setId = a.setId)
    (sameSource : b.source = a.source)
    (renders : change (a.render (poolIds before).length) = b.render (poolIds before).length) :
    Represents cfg table (modifySet before.length change s) (before ++ b :: after) := by
  apply represents.relabel
  · rw [split, List.map_append, List.map_append, List.map_cons, List.map_cons, sameId]
  · rw [split, List.map_append, List.map_append, List.map_cons, List.map_cons, sameSource]
  · have front : (layout 0 before).length = before.length := layout_length 0 before
    rw [represents.sets, split, layout_append, layout_append, Nat.zero_add]
    show ((layout 0 before) ++ a.render _ :: layout _ after).modify _ _ =
      layout 0 before ++ b.render _ :: layout _ after
    rw [← front, modify_append_cons, renders, sameSource]

theorem Represents.modifySet (represents : Represents cfg table s structures) {setId : UInt8}
    {index : Nat} {change : Structure → Structure} {changeSet : HkSet → HkSet}
    (found : findSet s.sets setId = some index)
    (keepsId : ∀ a, (change a).setId = a.setId) (keepsSource : ∀ a, (change a).source = a.source)
    (renders : ∀ a offset, changeSet (a.render offset) = (change a).render offset) :
    Represents cfg table (modifySet index changeSet s) (changed setId change structures) := by
  obtain ⟨before, a, after, split, length, named⟩ := represents.findSet_some found
  have distinct := represents.idsDistinct
  have shape : changed setId change structures = before ++ change a :: after := by
    rw [split, List.map_append, List.map_cons] at distinct
    have parts := List.nodup_append'.mp distinct
    have notAfter : a.setId ∉ after.map (fun b => b.setId) := (List.nodup_cons.mp parts.2.1).1
    have notBefore : a.setId ∉ before.map (fun b => b.setId) :=
      fun member => parts.2.2 member List.mem_cons_self
    have keep : ∀ others : List Structure, a.setId ∉ others.map (fun b => b.setId) →
        others.map (fun b => if b.setId = setId then change b else b) = others := by
      intro others absent
      have same : ∀ b ∈ others, (if b.setId = setId then change b else b) = id b := by
        intro b member
        apply if_neg
        intro equal
        rw [named, ← equal] at absent
        exact absent (List.mem_map_of_mem (f := fun c : Structure => c.setId) member)
      rw [List.map_congr_left same, List.map_id]
    unfold changed
    rw [split, List.map_append, List.map_cons, keep before notBefore, keep after notAfter,
      if_pos named]
  rw [shape, ← length]
  exact represents.replaceAt split (keepsId a) (keepsSource a) (renders a _)

theorem enable_updates (represents : Represents cfg table s structures) (tc : Tc)
    (link : Link cfg) :
    Updates tc s link
      (fun after => ∃ u setId interval, tc.userData = some u ∧ u[0]? = some setId ∧
        obswBe32 u 1 = some interval ∧
        Represents cfg table after (changed setId (Structure.started interval) structures))
      (enable tc s link) := by
  apply requireUserData_updates
  intro u present long
  obtain ⟨setId, setIdEq⟩ := getElem?_isSome u 0 (by omega)
  obtain ⟨interval, intervalEq⟩ := obswBe32_isSome u 1 (by omega)
  simp only [setIdEq, intervalEq, Option.bind_eq_bind, Option.bind_some]
  cases found : findSet s.sets setId with
  | none => exact reject_updates handlerCode_execError _ _ _ _
  | some index =>
      exact execute_updates tc link rfl ⟨u, setId, interval, present, setIdEq, intervalEq,
        represents.modifySet found (fun _ => rfl) (fun _ => rfl) (fun _ _ => rfl)⟩

theorem disable_updates (represents : Represents cfg table s structures) (tc : Tc)
    (link : Link cfg) :
    Updates tc s link
      (fun after => ∃ u setId, tc.userData = some u ∧ u[0]? = some setId ∧
        Represents cfg table after (changed setId Structure.stopped structures))
      (disable tc s link) := by
  apply requireUserData_updates
  intro u present long
  obtain ⟨setId, setIdEq⟩ := getElem?_isSome u 0 (by omega)
  simp only [setIdEq, Option.bind_eq_bind, Option.bind_some]
  cases found : findSet s.sets setId with
  | none => exact reject_updates handlerCode_execError _ _ _ _
  | some index =>
      exact execute_updates tc link rfl ⟨u, setId, present, setIdEq,
        represents.modifySet found (fun _ => rfl) (fun _ => rfl) (fun _ _ => rfl)⟩

/-! ### The four handlers -/

/-- The four handlers of the service. -/
inductive Command where
  | define
  | delete
  | enable
  | disable
deriving DecidableEq, Repr

def handle (table : List S20.Param) :
    Command → Tc → Ctx → Link cfg → Option (Int × Ctx × Link cfg)
  | .define => define table
  | .delete => delete
  | .enable => enable
  | .disable => disable

/-- What an accepted command does to the structures. -/
inductive Commanded (tc : Tc) (structures : List Structure) :
    Command → List Structure → Prop
  | define (u : List UInt8) (a : Structure) (present : tc.userData = some u)
      (created : CreatedFrom u a) : Commanded tc structures .define (structures ++ [a])
  | delete (u setIds : List UInt8) (present : tc.userData = some u) (lists : Lists u setIds)
      (removables : ∀ setId ∈ setIds, Removable structures setId) :
      Commanded tc structures .delete (without setIds structures)
  | enable (u : List UInt8) (setId : UInt8) (interval : UInt32) (present : tc.userData = some u)
      (named : u[0]? = some setId) (read : obswBe32 u 1 = some interval) :
      Commanded tc structures .enable (changed setId (Structure.started interval) structures)
  | disable (u : List UInt8) (setId : UInt8) (present : tc.userData = some u)
      (named : u[0]? = some setId) :
      Commanded tc structures .disable (changed setId Structure.stopped structures)

theorem handle_updates (represents : Represents cfg table s structures) (command : Command)
    (tc : Tc) (link : Link cfg) :
    Updates tc s link
      (fun after => ∃ others, Commanded tc structures command others ∧
        Represents cfg table after others)
      (handle table command tc s link) := by
  cases command with
  | define =>
      apply (define_updates represents tc link).mono
      rintro after ⟨u, a, present, created, represented⟩
      exact ⟨_, .define u a present created, represented⟩
  | delete =>
      apply (delete_updates represents tc link).mono
      rintro after ⟨u, setIds, present, lists, removables, represented⟩
      exact ⟨_, .delete u setIds present lists removables, represented⟩
  | enable =>
      apply (enable_updates represents tc link).mono
      rintro after ⟨u, setId, interval, present, named, read, represented⟩
      exact ⟨_, .enable u setId interval present named read, represented⟩
  | disable =>
      apply (disable_updates represents tc link).mono
      rintro after ⟨u, setId, present, named, represented⟩
      exact ⟨_, .disable u setId present named, represented⟩

theorem define_disciplined (table : List S20.Param) (tc : Tc) (s : Ctx) (link : Link cfg) :
    Disciplined tc s link (define table tc s link) := by
  apply requireUserData_disciplined
  intro u
  apply bind_disciplined
  intro setId _
  apply bind_disciplined
  intro interval _
  apply bind_disciplined
  intro n _
  apply ite_disciplined
  · exact reject_disciplined handlerCode_illegalAppData _ _ _
  · apply bind_disciplined
    intro ids _
    apply ite_disciplined
    · exact reject_disciplined handlerCode_illegalAppData _ _ _
    · apply ite_disciplined
      · exact reject_disciplined handlerCode_execError _ _ _
      · exact execute_disciplined _ _ _ _

theorem delete_disciplined (tc : Tc) (s : Ctx) (link : Link cfg) :
    Disciplined tc s link (delete tc s link) := by
  apply bind_disciplined
  intro checked _
  cases checked with
  | none => exact reject_disciplined handlerCode_illegalAppData _ _ _
  | some setIds => exact execute_disciplined _ _ _ _

theorem enable_disciplined (tc : Tc) (s : Ctx) (link : Link cfg) :
    Disciplined tc s link (enable tc s link) := by
  apply requireUserData_disciplined
  intro u
  apply bind_disciplined
  intro setId _
  apply bind_disciplined
  intro interval _
  cases findSet s.sets setId with
  | none => exact reject_disciplined handlerCode_execError _ _ _
  | some index => exact execute_disciplined _ _ _ _

theorem disable_disciplined (tc : Tc) (s : Ctx) (link : Link cfg) :
    Disciplined tc s link (disable tc s link) := by
  apply requireUserData_disciplined
  intro u
  apply bind_disciplined
  intro setId _
  cases findSet s.sets setId with
  | none => exact reject_disciplined handlerCode_execError _ _ _
  | some index => exact execute_disciplined _ _ _ _

theorem handle_disciplined (table : List S20.Param) (command : Command) (tc : Tc) (s : Ctx)
    (link : Link cfg) : Disciplined tc s link (handle table command tc s link) := by
  cases command with
  | define => exact define_disciplined table tc s link
  | delete => exact delete_disciplined tc s link
  | enable => exact enable_disciplined tc s link
  | disable => exact disable_disciplined tc s link

end Openobsw.Pus.S3
