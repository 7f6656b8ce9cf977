import Openobsw.Pus.S3Reports

/-!
Owns which commands housekeeping executes, as conditions on the structures that exist, and
what no command and no tick changes of the limits that the conditions are about.
-/

namespace Openobsw.Pus.S3

open Openobsw.Lib.Tables Openobsw.Pus.S1 Openobsw.Pus.Handler Openobsw.Util

variable {cfg : Config} {table : List S20.Param} {s : Ctx} {structures : List Structure}

/-! ### What the requests ask for -/

/-- The length of the pool; a null pointer is a pool without entries. -/
def Ctx.poolLength (s : Ctx) : Nat := if s.paramPool = none then 0 else s.paramPoolLen.toNat

/-- The parameters of all created structures together. -/
def parameterTotal (structures : List Structure) : Nat :=
  (structures.map (fun a => a.source.ids.length)).sum

/-- The parameter IDs TC(3,1) may refer to. -/
def knownIds (table : List S20.Param) (s : Ctx) : List UInt16 :=
  (table.take s.paramTableLen.toNat).map (fun param => param.paramId)

/-- User data `u` is a TC(3,1) for `n` parameters that there is room for. -/
structure Definable (cfg : Config) (table : List S20.Param) (s : Ctx)
    (structures : List Structure) (u : List UInt8) (n : Nat) : Prop where
  count : u[5]?.map UInt8.toNat = some n
  exactLength : u.length = 6 + 2 * n
  positive : 1 ≤ n
  unused : ∀ a ∈ structures, u[0]? ≠ some a.setId
  known : ∀ i < n, ∃ id ∈ knownIds table s, obswBe16 u (6 + 2 * i) = some id
  fits : 1 + 4 * n ≤ maxReportData cfg
  slot : structures.length < s.setCapacity.toNat
  pool : n + parameterTotal structures ≤ s.poolLength

/-- User data `u` is a TC(3,3) for `setIds`, all of which may go. -/
structure Deletable (structures : List Structure) (u setIds : List UInt8) : Prop where
  listed : ∃ n : UInt8, u = n :: setIds ∧ setIds.length = n.toNat
  positive : 1 ≤ setIds.length
  distinct : setIds.Nodup
  removable : ∀ setId ∈ setIds, Removable structures setId

/-- User data `u` of at least this length begins with the set ID of a structure. -/
def Addresses (structures : List Structure) (minLen : Nat) (u : List UInt8) : Prop :=
  minLen ≤ u.length ∧ ∃ a ∈ structures, u[0]? = some a.setId

/-- What the TC asks of the command can be done. -/
def Feasible (cfg : Config) (table : List S20.Param) (s : Ctx) (structures : List Structure)
    (tc : Tc) : Command → Prop
  | .define => ∃ u n, tc.userData = some u ∧ Definable cfg table s structures u n
  | .delete => ∃ u setIds, tc.userData = some u ∧ Deletable structures u setIds
  | .enable => ∃ u, tc.userData = some u ∧ Addresses structures 5 u
  | .disable => ∃ u, tc.userData = some u ∧ Addresses structures 1 u

theorem parameterTotal_eq (structures : List Structure) :
    parameterTotal structures = (poolIds structures).length :=
  (List.length_flatMap).symm

theorem findParam_isSome_iff (table : List S20.Param) (s : Ctx) (id : UInt16) :
    (findParam s table id).isSome = true ↔ id ∈ knownIds table s := by
  have absent := findKey_eq_none_iff S20.Param.paramId (table.take s.paramTableLen.toNat) id
  rw [Option.isSome_iff_ne_none]
  constructor
  · intro found
    by_contra unknown
    exact found (absent.mpr unknown)
  · intro member none
    exact absent.mp none member

theorem Represents.findSet_eq_none_iff (represents : Represents cfg table s structures)
    (setId : UInt8) : findSet s.sets setId = none ↔ ∀ a ∈ structures, a.setId ≠ setId := by
  have absent := findKey_eq_none_iff HkSet.setId s.sets setId
  rw [represents.sets] at absent
  rw [represents.sets]
  refine absent.trans ?_
  show setId ∉ (layout 0 structures).map (fun set => set.setId) ↔ _
  rw [layout_setIds]
  constructor
  · intro missing a member same
    exact missing (same ▸ List.mem_map_of_mem member)
  · intro others listed
    obtain ⟨a, member, same⟩ := List.mem_map.mp listed
    exact others a member same

/-! ### TC(3,1) -/

/-- A request there is room for passes every check of the handler. -/
theorem Represents.requested (represents : Represents cfg table s structures) {u : List UInt8}
    {n : Nat} (definable : Definable cfg table s structures u n) :
    ∃ (setId : UInt8) (interval : UInt32) (count : UInt8) (ids : List UInt16),
      Requested cfg table s u setId interval count ids := by
  have length := definable.exactLength
  have positive := definable.positive
  obtain ⟨setId, setIdRead⟩ := getElem?_isSome u 0 (by omega)
  obtain ⟨interval, intervalRead⟩ := obswBe32_isSome u 1 (by omega)
  obtain ⟨count, countRead⟩ := getElem?_isSome u 5 (by omega)
  have same : count.toNat = n := by
    have counted := definable.count
    rw [countRead] at counted
    exact Option.some.inj counted
  subst same
  obtain ⟨ids, idsRead, _⟩ := paramIds_isSome (u := u) (n := count.toNat) (by omega)
  have pool := definable.pool
  have allocated : s.paramPool ≠ none := by
    intro null
    unfold Ctx.poolLength at pool
    rw [if_pos null] at pool
    omega
  refine ⟨setId, interval, count, ids, ?_⟩
  constructor
  case setIdRead => exact setIdRead
  case intervalRead => exact intervalRead
  case countRead => exact countRead
  case idsRead => exact idsRead
  case exactLength => exact length
  case nonzero =>
    intro zero
    rw [zero] at positive
    exact absurd positive (by decide)
  case fresh =>
    rw [represents.findSet_eq_none_iff]
    intro a member named
    exact definable.unused a member (named ▸ setIdRead)
  case fits => exact definable.fits
  case known =>
    intro id member
    obtain ⟨i, inRange, entry⟩ := exists_of_mem_mapM idsRead member
    obtain ⟨other, listed, otherRead⟩ := definable.known i (List.mem_range.mp inRange)
    rw [Option.some.inj (entry.symm.trans otherRead)]
    exact (findParam_isSome_iff table s other).mpr listed
  case allocated => exact allocated
  case slot =>
    rw [represents.sets, layout_length]
    exact definable.slot
  case room =>
    have capacity : s.poolLength = s.paramPoolLen.toNat := if_neg allocated
    rw [parameterTotal_eq, capacity] at pool
    rw [represents.used]
    omega

/-- A request that passes every check is one there is room for. -/
theorem Represents.definable (represents : Represents cfg table s structures) {u : List UInt8}
    {setId : UInt8} {interval : UInt32} {n : UInt8} {ids : List UInt16}
    (requested : Requested cfg table s u setId interval n ids) :
    Definable cfg table s structures u n.toNat where
  count := by
    rw [requested.countRead]
    rfl
  exactLength := requested.exactLength
  positive := by
    have other : n.toNat ≠ 0 := fun zero => requested.nonzero (UInt8.toNat_inj.mp zero)
    omega
  unused := by
    have fresh := (represents.findSet_eq_none_iff setId).mp requested.fresh
    intro a member same
    exact fresh a member (Option.some.inj (same.symm.trans requested.setIdRead))
  known := by
    intro i below
    have length := requested.exactLength
    obtain ⟨id, idRead⟩ := obswBe16_isSome u (6 + 2 * i) (by omega)
    have member := mem_of_mapM requested.idsRead (List.mem_range.mpr below) idRead
    exact ⟨id, (findParam_isSome_iff table s id).mp (requested.known id member), idRead⟩
  fits := requested.fits
  slot := by
    have slot := requested.slot
    rw [represents.sets, layout_length] at slot
    exact slot
  pool := by
    have capacity : s.poolLength = s.paramPoolLen.toNat := if_neg requested.allocated
    have total := represents.poolFits
    have room := requested.room
    rw [represents.used] at room
    rw [parameterTotal_eq, capacity]
    have positive : n.toNat ≠ 0 := fun zero => requested.nonzero (UInt8.toNat_inj.mp zero)
    omega

/-! ### TC(3,3) -/

theorem Represents.removable_iff (represents : Represents cfg table s structures)
    (setId : UInt8) : S3.removable s setId = true ↔ Removable structures setId := by
  constructor
  · exact represents.removable
  · intro allowed
    obtain ⟨a, member, named, disabled, ids, source⟩ := allowed
    have present : findSet s.sets setId ≠ none := by
      intro missing
      exact (represents.findSet_eq_none_iff setId).mp missing a member named
    obtain ⟨index, found⟩ := Option.ne_none_iff_exists'.mp present
    obtain ⟨before, b, after, split, length, bNamed⟩ := represents.findSet_some found
    have bMember : b ∈ structures := by rw [split]; simp
    have same : b = a :=
      List.inj_on_of_nodup_map represents.idsDistinct bMember member (bNamed.trans named.symm)
    subst same
    have nonempty := represents.nonempty b member ids source
    have inside : (poolIds before).length < s.paramPoolUsed := by
      have positive := List.length_pos_iff.mpr nonempty
      have sourceIds : b.source.ids = ids := by rw [source]; rfl
      rw [represents.used, split, poolIds_append, poolIds_cons, sourceIds, List.length_append,
        List.length_append]
      omega
    unfold S3.removable
    subst length
    simp [found, represents.getElem?_eq split, Structure.render, disabled, poolOffset, source,
      Source.pointer, inside]

/-- A created structure keeps its parameters in a pool. -/
theorem Represents.allocated (represents : Represents cfg table s structures) {setId : UInt8}
    (allowed : Removable structures setId) : s.paramPool ≠ none := by
  obtain ⟨a, member, _, _, ids, source⟩ := allowed
  have nonempty := represents.nonempty a member ids source
  intro null
  have empty := represents.pool
  rw [null] at empty
  have noIds : poolIds structures = [] := List.map_eq_nil_iff.mp empty.symm
  have none := List.flatMap_eq_nil_iff.mp noIds a member
  rw [source] at none
  exact nonempty none

/-- The checks of the handler on a count byte and the set IDs behind it. -/
structure DeleteChecked (s : Ctx) (n : UInt8) (setIds : List UInt8) : Prop where
  length : setIds.length = n.toNat
  nonzero : n ≠ 0
  allocated : s.paramPool ≠ none
  removable : ∀ setId ∈ setIds, S3.removable s setId = true
  distinct : setIds.Nodup

theorem DeleteChecked.perm {n : UInt8} {setIds others : List UInt8}
    (checked : DeleteChecked s n setIds) (perm : setIds.Perm others) :
    DeleteChecked s n others where
  length := perm.length_eq.symm.trans checked.length
  nonzero := checked.nonzero
  allocated := checked.allocated
  removable := fun setId member => checked.removable setId (perm.mem_iff.mpr member)
  distinct := perm.nodup_iff.mp checked.distinct

theorem deletedIds_of_checked {tc : Tc} {n : UInt8} {setIds : List UInt8}
    (present : tc.userData = some (n :: setIds)) (checked : DeleteChecked s n setIds) :
    deletedIds tc s = some (some setIds) := by
  have read : (List.range n.toNat).mapM (fun i => (n :: setIds)[1 + i]?) = some setIds := by
    simp only [Nat.add_comm 1, List.getElem?_cons_succ]
    rw [← checked.length]
    exact mapM_range_getElem? setIds
  have all : setIds.all (S3.removable s) ∧ setIds.Nodup :=
    ⟨List.all_eq_true.mpr checked.removable, checked.distinct⟩
  unfold deletedIds
  simp only [present, List.length_cons]
  rw [if_neg (by omega)]
  show (if n = 0 ∨ s.paramPool = none ∨ setIds.length + 1 ≠ 1 + n.toNat then _ else _) = _
  rw [if_neg, read]
  · exact if_pos all
  · have nonzero := checked.nonzero
    have allocated := checked.allocated
    have length := checked.length
    simp only [nonzero, allocated, false_or]
    omega

theorem deletedIds_of_unchecked {tc : Tc} {n : UInt8} {setIds : List UInt8}
    (present : tc.userData = some (n :: setIds)) (unchecked : ¬ DeleteChecked s n setIds) :
    deletedIds tc s = some none := by
  unfold deletedIds
  simp only [present, List.length_cons]
  rw [if_neg (by omega)]
  show (if n = 0 ∨ s.paramPool = none ∨ setIds.length + 1 ≠ 1 + n.toNat then _ else _) = _
  split
  · rfl
  · rename_i shaped
    simp only [not_or, Decidable.not_not] at shaped
    obtain ⟨nonzero, allocated, total⟩ := shaped
    have length : setIds.length = n.toNat := by omega
    have read : (List.range n.toNat).mapM (fun i => (n :: setIds)[1 + i]?) = some setIds := by
      simp only [Nat.add_comm 1, List.getElem?_cons_succ]
      rw [← length]
      exact mapM_range_getElem? setIds
    rw [read]
    apply if_neg
    intro all
    exact unchecked ⟨length, nonzero, allocated, List.all_eq_true.mp all.1, all.2⟩

/-- The handler finds set IDs to delete exactly when the request is one for sets that may go. -/
theorem Represents.deletedIds_iff (represents : Represents cfg table s structures) (tc : Tc)
    (setIds : List UInt8) :
    deletedIds tc s = some (some setIds) ↔
      ∃ u, tc.userData = some u ∧ Deletable structures u setIds := by
  constructor
  · intro accepted
    cases present : tc.userData with
    | none =>
        unfold deletedIds at accepted
        rw [present] at accepted
        cases accepted
    | some u =>
        cases u with
        | nil =>
            unfold deletedIds at accepted
            rw [present] at accepted
            cases accepted
        | cons n rest =>
            by_cases checked : DeleteChecked s n rest
            · rw [deletedIds_of_checked present checked] at accepted
              cases accepted
              have positive : n.toNat ≠ 0 :=
                fun zero => checked.nonzero (UInt8.toNat_inj.mp zero)
              have length := checked.length
              exact ⟨_, rfl, ⟨n, rfl, length⟩, by omega, checked.distinct, fun setId member =>
                (represents.removable_iff setId).mp (checked.removable setId member)⟩
            · rw [deletedIds_of_unchecked present checked] at accepted
              cases accepted
  · intro asked
    obtain ⟨u, present, deletable⟩ := asked
    obtain ⟨n, listed, length⟩ := deletable.listed
    have positive := deletable.positive
    obtain ⟨first, rest, split⟩ := List.exists_cons_of_length_pos positive
    have allowed := deletable.removable first (by rw [split]; exact List.mem_cons_self)
    rw [listed] at present
    apply deletedIds_of_checked present
    refine ⟨length, ?_, represents.allocated allowed, ?_, deletable.distinct⟩
    · intro zero
      rw [zero] at length
      exact absurd length (Nat.ne_of_gt positive)
    · intro setId member
      exact (represents.removable_iff setId).mpr (deletable.removable setId member)

/-! ### What is executed -/

theorem Represents.define_executes_iff (represents : Represents cfg table s structures) (tc : Tc)
    (link : Link cfg) :
    (∃ after, define table tc s link = some (0, after, (link.accepted tc).completed tc)) ↔
      Feasible cfg table s structures tc .define := by
  constructor
  · intro executed
    obtain ⟨after, ran⟩ := executed
    rcases define_cases table tc s link with rejected | passed
    · obtain ⟨code, _, shape⟩ := rejected
      rw [shape, reject_eq] at ran
      cases ran
    · obtain ⟨u, setId, interval, n, ids, present, requested, _⟩ := passed
      exact ⟨u, n.toNat, present, represents.definable requested⟩
  · intro feasible
    obtain ⟨u, n, present, definable⟩ := feasible
    obtain ⟨setId, interval, count, ids, requested⟩ := represents.requested definable
    have shape := define_requested present requested link
    have updates := define_updates represents tc link
    rw [shape] at updates ⊢
    cases created : S3.create table setId interval count ids s with
    | none =>
        rw [execute_none tc created] at updates
        cases updates
    | some after => exact ⟨after, execute_eq tc created link⟩

theorem Represents.delete_executes_iff (represents : Represents cfg table s structures) (tc : Tc)
    (link : Link cfg) :
    (∃ after, delete tc s link = some (0, after, (link.accepted tc).completed tc)) ↔
      Feasible cfg table s structures tc .delete := by
  constructor
  · intro executed
    obtain ⟨after, ran⟩ := executed
    rcases deletedIds_cases tc s with refused | ⟨_, setIds, _, checked, _⟩
    · rw [delete_refused refused, reject_eq] at ran
      cases ran
    · obtain ⟨u, present, deletable⟩ := (represents.deletedIds_iff tc setIds).mp checked
      exact ⟨u, setIds, present, deletable⟩
  · intro feasible
    obtain ⟨u, setIds, present, deletable⟩ := feasible
    have checked := (represents.deletedIds_iff tc setIds).mpr ⟨u, present, deletable⟩
    obtain ⟨after, removed, _⟩ := represents.removeAll deletable.distinct deletable.removable
    exact ⟨after, (delete_accepted checked link).trans (execute_eq tc removed link)⟩

/-- A handler that looks its set up and executes if it is there. -/
theorem Represents.addressed_executes_iff (represents : Represents cfg table s structures)
    {minLen : Nat} (positive : 1 ≤ minLen) (tc : Tc) (link : Link cfg)
    {body : List UInt8 → Option (Int × Ctx × Link cfg)}
    (looksUp : ∀ u setId, minLen ≤ u.length → u[0]? = some setId →
      match findSet s.sets setId with
      | none => body u = reject tc failExecError s link
      | some _ => ∃ after, body u = some (0, after, (link.accepted tc).completed tc)) :
    (∃ after, requireUserData minLen tc s link body =
        some (0, after, (link.accepted tc).completed tc)) ↔
      ∃ u, tc.userData = some u ∧ Addresses structures minLen u := by
  unfold requireUserData
  cases present : tc.userData with
  | none => simp
  | some u =>
      by_cases short : u.length < minLen
      · have other : ¬ Addresses structures minLen u :=
          fun addresses => absurd addresses.1 (Nat.not_le_of_lt short)
        simp [short, other]
      · obtain ⟨setId, setIdRead⟩ := getElem?_isSome u 0 (by omega)
        have found := looksUp u setId (by omega) setIdRead
        have absent := represents.findSet_eq_none_iff setId
        simp only [if_neg short, Option.some.injEq, exists_eq_left']
        unfold Addresses
        rw [setIdRead]
        cases lookup : findSet s.sets setId with
        | none =>
            rw [lookup] at found
            have none := absent.mp lookup
            rw [show body u = _ from found, reject_eq]
            constructor
            · intro executed
              obtain ⟨after, ran⟩ := executed
              cases ran
            · intro addressed
              obtain ⟨_, a, member, same⟩ := addressed
              exact absurd (Option.some.inj same).symm (none a member)
        | some index =>
            rw [lookup] at found
            refine iff_of_true found ⟨by omega, ?_⟩
            by_contra none
            have missing := absent.mpr
              (fun a member same => none ⟨a, member, congrArg some same.symm⟩)
            rw [lookup] at missing
            cases missing

/-- A command is executed exactly when what it asks for can be done. -/
theorem Represents.executes_iff (represents : Represents cfg table s structures)
    (command : Command) (tc : Tc) (link : Link cfg) :
    (∃ after, handle table command tc s link =
        some (0, after, (link.accepted tc).completed tc)) ↔
      Feasible cfg table s structures tc command := by
  cases command with
  | define => exact represents.define_executes_iff tc link
  | delete => exact represents.delete_executes_iff tc link
  | enable =>
      apply represents.addressed_executes_iff (by decide)
      intro u setId long setIdRead
      obtain ⟨interval, intervalRead⟩ := obswBe32_isSome u 1 (by omega)
      simp only [setIdRead, intervalRead, Option.bind_eq_bind, Option.bind_some]
      cases findSet s.sets setId with
      | none => rfl
      | some index => exact ⟨_, execute_eq tc rfl link⟩
  | disable =>
      apply represents.addressed_executes_iff (by decide)
      intro u setId long setIdRead
      simp only [setIdRead, Option.bind_eq_bind, Option.bind_some]
      cases findSet s.sets setId with
      | none => rfl
      | some index => exact ⟨_, execute_eq tc rfl link⟩

/-! ### What commands and ticks leave alone -/

theorem Ctx.SameFrame.refl (s : Ctx) : s.SameFrame s := ⟨rfl, rfl⟩

theorem create_frame {setId n : UInt8} {interval : UInt32} {ids : List UInt16} {after : Ctx}
    (created : create table setId interval n ids s = some after) : s.SameFrame after := by
  unfold create at created
  obtain ⟨pool, allocated, created⟩ := Option.bind_eq_some_iff.mp created
  obtain ⟨params, _, created⟩ := Option.bind_eq_some_iff.mp created
  obtain ⟨extended, _, created⟩ := Option.bind_eq_some_iff.mp created
  obtain ⟨sets, _, created⟩ := Option.bind_eq_some_iff.mp created
  cases created
  exact ⟨rfl, by rw [allocated]; rfl⟩

/-- A command changes the set table and the pool alone. -/
theorem handle_ensures (table : List S20.Param) (command : Command) (tc : Tc) (s : Ctx)
    (link : Link cfg) : Ensures s.SameFrame (handle table command tc s link) := by
  cases command with
  | define =>
      refine requireUserData_ensures (Ctx.SameFrame.refl s) ?_
      intro u
      apply bind_ensures
      intro setId _
      apply bind_ensures
      intro interval _
      apply bind_ensures
      intro n _
      apply ite_ensures
      · exact reject_ensures (Ctx.SameFrame.refl s) _ _ _
      · apply bind_ensures
        intro ids _
        apply ite_ensures
        · exact reject_ensures (Ctx.SameFrame.refl s) _ _ _
        · apply ite_ensures
          · exact reject_ensures (Ctx.SameFrame.refl s) _ _ _
          · exact execute_ensures (P := s.SameFrame) (fun after created => create_frame created) _ _
  | delete =>
      apply bind_ensures
      intro checked _
      cases checked with
      | none => exact reject_ensures (Ctx.SameFrame.refl s) _ _ _
      | some setIds =>
          exact execute_ensures (P := s.SameFrame) (fun after removed => removeAll_frame removed) _ _
  | enable =>
      refine requireUserData_ensures (Ctx.SameFrame.refl s) ?_
      intro u
      apply bind_ensures
      intro setId _
      apply bind_ensures
      intro interval _
      cases findSet s.sets setId with
      | none => exact reject_ensures (Ctx.SameFrame.refl s) _ _ _
      | some index =>
          refine execute_ensures ?_ _ _
          intro after started
          cases started
          exact ⟨rfl, rfl⟩
  | disable =>
      refine requireUserData_ensures (Ctx.SameFrame.refl s) ?_
      intro u
      apply bind_ensures
      intro setId _
      cases findSet s.sets setId with
      | none => exact reject_ensures (Ctx.SameFrame.refl s) _ _ _
      | some index =>
          refine execute_ensures ?_ _ _
          intro after stopped
          cases stopped
          exact ⟨rfl, rfl⟩

/-- What the conditions of the commands look up besides the structures is the same. -/
structure Ctx.SameLimits (s after : Ctx) : Prop where
  tableLen : after.paramTableLen = s.paramTableLen
  slots : after.setCapacity = s.setCapacity
  pool : after.poolLength = s.poolLength

theorem Ctx.SameLimits.refl (s : Ctx) : s.SameLimits s := ⟨rfl, rfl, rfl⟩

theorem Ctx.SameLimits.trans {first second third : Ctx} (front : first.SameLimits second)
    (back : second.SameLimits third) : first.SameLimits third where
  tableLen := back.tableLen.trans front.tableLen
  slots := back.slots.trans front.slots
  pool := back.pool.trans front.pool

theorem Ctx.SameFrame.limits {after : Ctx} (frame : s.SameFrame after) : s.SameLimits after where
  tableLen := by rw [frame.rest]
  slots := by rw [frame.rest]
  pool := by
    have length : after.paramPoolLen = s.paramPoolLen := by rw [frame.rest]
    have same : after.paramPool = none ↔ s.paramPool = none := by
      rw [← Option.not_isSome_iff_eq_none, ← Option.not_isSome_iff_eq_none, frame.allocated]
    simp only [poolLength, length, same]

theorem emitHkReport_limits {vars : Variables} {set : HkSet} {tm : Port cfg}
    {out : TmRc × Ctx × Port cfg} (ran : emitHkReport vars set s tm = some out) :
    s.SameLimits out.2.1 := by
  obtain ⟨written, _, rest⟩ := Option.bind_eq_some_iff.mp ran
  cases written with
  | none =>
      cases rest
      exact .refl s
  | some bytes =>
      obtain ⟨built, _, same⟩ := Option.bind_eq_some_iff.mp rest
      cases same
      exact ⟨rfl, rfl, rfl⟩

theorem tickFrom_limits {vars : Variables} {turns : Nat} :
    ∀ {index : Nat} {s : Ctx} {tm : Port cfg} {out : Ctx × Port cfg},
      tickFrom vars turns index s tm = some out → s.SameLimits out.1 := by
  induction turns with
  | zero =>
      intro index s tm out ran
      cases ran
      exact .refl s
  | succ turns inductionHypothesis =>
      intro index s tm out ran
      obtain ⟨set, _, ran⟩ := Option.bind_eq_some_iff.mp ran
      obtain ⟨middle, ticked, ran⟩ := Option.bind_eq_some_iff.mp ran
      have later := inductionHypothesis ran
      have turn : s.SameLimits middle.1 := by
        unfold tickSet at ticked
        simp only at ticked
        split at ticked
        · obtain ⟨sent, emitted, ticked⟩ := Option.bind_eq_some_iff.mp ticked
          cases ticked
          have kept := emitHkReport_limits emitted
          exact ⟨kept.tableLen, kept.slots, kept.pool⟩
        · cases ticked
          exact ⟨rfl, rfl, rfl⟩
      exact turn.trans later

theorem report_limits {vars : Variables} {setId : UInt8} {tm : Port cfg}
    {out : Option TmRc × Ctx × Port cfg} (ran : report vars setId s tm = some out) :
    s.SameLimits out.2.1 := by
  unfold report at ran
  cases found : findSet s.sets setId with
  | none =>
      rw [found] at ran
      cases ran
      exact .refl s
  | some index =>
      rw [found] at ran
      obtain ⟨set, _, ran⟩ := Option.bind_eq_some_iff.mp ran
      obtain ⟨sent, emitted, ran⟩ := Option.bind_eq_some_iff.mp ran
      cases ran
      exact emitHkReport_limits emitted

/-- The conditions depend on the limits and on the IDs of the parameters alone. -/
theorem feasible_congr {other : List S20.Param} {after : Ctx} (limits : s.SameLimits after)
    (sameIds : other.map (fun param => param.paramId) = table.map (fun param => param.paramId))
    (tc : Tc) (command : Command) :
    Feasible cfg other after structures tc command ↔ Feasible cfg table s structures tc command := by
  have known : knownIds other after = knownIds table s := by
    unfold knownIds
    rw [List.map_take, List.map_take, sameIds, limits.tableLen]
  cases command with
  | define =>
      have definable (u : List UInt8) (n : Nat) : Definable cfg other after structures u n ↔
          Definable cfg table s structures u n := by
        constructor
        · intro d
          exact ⟨d.count, d.exactLength, d.positive, d.unused, known ▸ d.known, d.fits,
            limits.slots ▸ d.slot, limits.pool ▸ d.pool⟩
        · intro d
          exact ⟨d.count, d.exactLength, d.positive, d.unused, known ▸ d.known, d.fits,
            limits.slots ▸ d.slot, limits.pool ▸ d.pool⟩
      simp only [Feasible, definable]
  | _ => rfl

end Openobsw.Pus.S3
