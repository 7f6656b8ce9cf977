import Openobsw.Properties.HousekeepingSets

/-!
Owns which TC(3,1) and TC(3,3) housekeeping accepts, as conditions on the structures that
exist, and that a deletion does not depend on the order of its set IDs.
-/

namespace Openobsw.Pus.S3

open Openobsw.Lib.Tables Openobsw.Pus.S1 Openobsw.Pus.Handler Openobsw.Util

variable {cfg : Config} {table : List S20.Param} {s : Ctx} {structures : List Structure}

/-! ### The order of set IDs -/

/-- What a table and pool represent determines them. -/
theorem Represents.unique {first second : Ctx}
    (left : Represents cfg table first structures) (right : Represents cfg table second structures)
    (leftFrame : s.SameFrame first) (rightFrame : s.SameFrame second) : first = second := by
  have tableLen : second.paramTableLen = first.paramTableLen := by
    rw [leftFrame.rest, rightFrame.rest]
  have samePool : first.paramPool = second.paramPool := by
    have entries : first.paramPool.getD [] = second.paramPool.getD [] := by
      have sameEntry : poolEntry first table = poolEntry second table := by
        funext id
        unfold poolEntry findParam
        rw [tableLen]
      rw [left.pool, right.pool, sameEntry]
    have bothSome := leftFrame.allocated.trans rightFrame.allocated.symm
    cases one : first.paramPool with
    | none =>
        rw [one] at bothSome
        exact (Option.not_isSome_iff_eq_none.mp (by rw [← bothSome]; exact Bool.false_ne_true)).symm
    | some pool =>
        rw [one] at bothSome entries
        obtain ⟨other, two⟩ := Option.isSome_iff_exists.mp bothSome.symm
        rw [two] at entries ⊢
        exact congrArg some entries
  have sameSets : first.sets = second.sets := left.sets.trans right.sets.symm
  rw [leftFrame.rest, rightFrame.rest, sameSets, samePool]

theorem without_perm {setIds others : List UInt8} (perm : setIds.Perm others)
    (structures : List Structure) : without setIds structures = without others structures := by
  unfold without
  apply List.filter_congr
  intro a _
  rw [decide_eq_decide]
  exact not_congr perm.mem_iff

/-- The same set IDs in another order are answered alike and leave the same state. -/
theorem Represents.delete_perm (represents : Represents cfg table s structures) {tc : Tc}
    {n : UInt8} {setIds others : List UInt8} (perm : setIds.Perm others)
    (present : tc.userData = some (n :: setIds)) (link : Link cfg) :
    delete { tc with userData := some (n :: others) } s link = delete tc s link := by
  have presentOthers : ({ tc with userData := some (n :: others) } : Tc).userData =
      some (n :: others) := rfl
  by_cases checked : DeleteChecked s n setIds
  · have checkedOthers := checked.perm perm
    rw [delete_accepted (deletedIds_of_checked present checked),
      delete_accepted (deletedIds_of_checked presentOthers checkedOthers)]
    have removables : ∀ setId ∈ setIds, Removable structures setId :=
      fun setId member => represents.removable (checked.removable setId member)
    obtain ⟨first, firstEq, firstRepresents⟩ := represents.removeAll checked.distinct removables
    obtain ⟨second, secondEq, secondRepresents⟩ :=
      represents.removeAll checkedOthers.distinct
        (fun setId member => removables setId (perm.mem_iff.mpr member))
    rw [← without_perm perm] at secondRepresents
    have same := firstRepresents.unique secondRepresents (removeAll_frame firstEq)
      (removeAll_frame secondEq)
    rw [same] at firstEq
    rw [execute_eq tc firstEq, execute_eq { tc with userData := some (n :: others) } secondEq]
    rfl
  · rw [delete_refused (deletedIds_of_unchecked present checked),
      delete_refused (deletedIds_of_unchecked presentOthers
        (fun other => checked (other.perm perm.symm))), reject_eq, reject_eq]
    rfl

/-! ### Every request in every reachable state -/

/-- The TC is answered with TM(1,1) and TM(1,7) and leaves the service in `s3`. -/
def World.Accepts (world : World cfg) (command : Command) (tc : Tc) (s3 : Ctx) : Prop :=
  handle world.s20.table command tc world.s3 world.link =
    some (0, s3, (world.link.accepted tc).completed tc)

/-- The TC is answered with TM(1,2) and leaves the service as it was. -/
def World.Refuses (world : World cfg) (command : Command) (tc : Tc) : Prop :=
  ∃ code, handle world.s20.table command tc world.s3 world.link =
    some (-1, world.s3, world.link.rejected tc code)

/-- TC(3,1) and TC(3,3) accept exactly the requests there is room for and those that name
structures that may go. -/
structure RequestsExact (world : World cfg) (structures : List Structure) : Prop where
  answered : ∀ command tc, (∃ s3, world.Accepts command tc s3) ∨ world.Refuses command tc
  defines_iff : ∀ tc, (∃ s3, world.Accepts .define tc s3) ↔
    ∃ u n, tc.userData = some u ∧ Definable cfg world.s20.table world.s3 structures u n
  defines : ∀ tc s3, world.Accepts .define tc s3 → ∃ u a, tc.userData = some u ∧
    CreatedFrom u a ∧ Represents cfg world.s20.table s3 (structures ++ [a])
  deletes_iff : ∀ tc, (∃ s3, world.Accepts .delete tc s3) ↔
    ∃ u setIds, tc.userData = some u ∧ Deletable structures u setIds
  deletes : ∀ tc s3, world.Accepts .delete tc s3 → ∀ u setIds, tc.userData = some u →
    Deletable structures u setIds →
    Represents cfg world.s20.table s3 (without setIds structures)
  unordered : ∀ tc (n : UInt8) (setIds others : List UInt8), tc.userData = some (n :: setIds) →
    setIds.Perm others →
    handle world.s20.table .delete { tc with userData := some (n :: others) } world.s3 world.link =
      handle world.s20.table .delete tc world.s3 world.link
  limit : 17 ≤ cfg.tmMaxPacketLen → cfg.tmMaxPacketLen ≤ 65535 →
    17 + maxReportData cfg = cfg.tmMaxPacketLen

theorem World.Holds.requestsExact {world : World cfg} {structures : List Structure}
    (holds : world.Holds structures) : RequestsExact world structures where
  answered := by
    intro command tc
    have updates := handle_updates holds command tc world.link
    unfold World.Accepts World.Refuses
    generalize handle world.s20.table command tc world.s3 world.link = result at updates ⊢
    cases updates with
    | rejected code known => exact .inr ⟨code, rfl⟩
    | executed after updated => exact .inl ⟨after, rfl⟩
  defines_iff := fun tc => holds.executes_iff .define tc world.link
  defines := by
    intro tc s3 accepted
    have updates := define_updates holds tc world.link
    have ran : define world.s20.table tc world.s3 world.link = _ := accepted
    rw [ran] at updates
    cases updates with
    | executed after updated => exact updated
  deletes_iff := fun tc => holds.executes_iff .delete tc world.link
  deletes := by
    intro tc s3 accepted u setIds present deletable
    have checked := (holds.deletedIds_iff tc setIds).mpr ⟨u, present, deletable⟩
    obtain ⟨after, removed, represents⟩ := holds.removeAll deletable.distinct deletable.removable
    have ran : delete tc world.s3 world.link = _ := accepted
    rw [delete_accepted checked, execute_eq tc removed] at ran
    cases ran
    exact represents
  unordered := by
    intro tc n setIds others present perm
    exact holds.delete_perm perm present world.link
  limit := by
    intro atLeast atMost
    unfold maxReportData
    omega

/-- In every state that a run from a boot configuration reaches, TC(3,1) is accepted exactly
when it asks for a structure there is room for, and TC(3,3) exactly when it names distinct
created structures that are disabled. It then removes those and no other, whatever their
order in the request. -/
theorem requests_exact (operations : List Operation) {world : World cfg}
    (boot : Boot world.s20.table world.s3) :
    ∃ after structures, runs operations world = some after ∧
      Evolution cfg world.s20.table world.s3 (world.s3.sets.map HkSet.bootStructure) operations
        structures ∧
      after.Holds structures ∧ RequestsExact after structures := by
  have holds : world.Holds (world.s3.sets.map HkSet.bootStructure) := boot.represents
  obtain ⟨after, structures, ran, evolution, afterHolds, _⟩ :=
    holds.runs ⟨rfl, .refl world.s3⟩ (boot_identities _) (List.prefix_refl _) operations
  exact ⟨after, structures, ran, evolution, afterHolds, afterHolds.requestsExact⟩

/-- Requests after a TC(3,1) for set 5 and its deletion. -/
theorem bootWorld_requests :
    ∃ after structures,
      runs [.handled .define ⟨0x010, 3, 1, 0, some [5, 0, 0, 0, 9, 2, 1, 0, 2, 0]⟩,
        .handled .delete ⟨0x010, 3, 3, 0, some [1, 5]⟩] bootWorld = some after ∧
      after.Holds structures ∧ RequestsExact after structures := by
  obtain ⟨after, structures, ran, _, holds, law⟩ := requests_exact
    [.handled .define ⟨0x010, 3, 1, 0, some [5, 0, 0, 0, 9, 2, 1, 0, 2, 0]⟩,
      .handled .delete ⟨0x010, 3, 3, 0, some [1, 5]⟩] bootWorld_boot
  exact ⟨after, structures, ran, holds, law⟩

end Openobsw.Pus.S3
