import Mathlib.Data.List.Nodup
import Mathlib.Data.List.Perm.Subperm
import Openobsw.Lib.Component
import Openobsw.Lib.Selection
import Openobsw.Lib.Tables
import Openobsw.Pus.Handler
import Openobsw.Time.Obt

/-!
Owns time-based scheduling (`s11.c`): the activity table, its five TC handlers
and the release loop. The table carries a ghost ledger of every activity
accepted so far and of what became of those no longer in it.
-/

namespace Openobsw.Pus.S11

open Openobsw.Lib Openobsw.Lib.Selection Openobsw.Lib.Tables Openobsw.Pus.S1
open Openobsw.Pus.Handler Openobsw.Time Openobsw.Util

/-- `obsw_s11_activity_t`. The ghost `serial` counts the activities accepted before it. -/
structure Activity where
  requestId : UInt16
  coarse : UInt32
  fine : UInt16
  tc : List UInt8
  serial : Nat
deriving DecidableEq, Repr

/-- How an activity left the table: by a TC(11,5) naming `id`, by a TC(11,6), or by
a run that read the time `tNow` while the schedule was `enabled`. -/
inductive Fate where
  | deleted (id : UInt16)
  | cleared
  | released (tNow : UInt64) (enabled : Bool)
deriving DecidableEq, Repr

/-- `obsw_s11_ctx_t`; `acts` is the table `acts[0..count)`. -/
structure Ctx where
  acts : List Activity
  capacity : UInt8
  nextId : UInt16
  enabled : Bool
  /-- Ghost: the user data of each accepted TC(11,4) with the activity made of it. -/
  accepted : List (List UInt8 × Activity)
  /-- Ghost: the activities that left the table, oldest first. -/
  fates : List (Activity × Fate)
deriving DecidableEq, Repr

/-- `obsw_s11_init` with the storage it is given. -/
def init (capacity : UInt8) : Ctx where
  acts := []
  capacity := capacity
  nextId := 1
  enabled := true
  accepted := []
  fates := []

def tagLen : Nat := 6

/-- `tag_key`: CUC-4,2 as one comparable 48-bit value. -/
def tagKey (coarse : UInt32) (fine : UInt16) : UInt64 :=
  (coarse.toUInt64 <<< 16) ||| fine.toUInt64

/-- The time tag of an activity. -/
def Activity.tag (a : Activity) : UInt64 := tagKey a.coarse a.fine

/-- `find_act` -/
def findAct (acts : List Activity) (requestId : UInt16) : Option Nat :=
  findKey Activity.requestId acts requestId

/-- The loop of `take_id` with a bound on its turns; `none` when the bound is reached. -/
def takeIdLoop (acts : List Activity) : Nat → UInt16 → Option UInt16
  | 0, _ => none
  | turns + 1, id =>
      if id = 0 ∨ (findAct acts id).isSome then takeIdLoop acts turns (id + 1) else some id

/-- `take_id`. After 65536 turns every 16-bit value has been tried, and the loop
of the source would go on forever. -/
def takeId (acts : List Activity) (nextId : UInt16) : Option UInt16 :=
  takeIdLoop acts 65536 nextId

variable {cfg : Config}

/-- The checks of `obsw_s11_insert` on the embedded packet: the user data and the
packet in it, or nothing when they fail. -/
def embeddedTc (cfg : Config) (tc : Tc) : Option (Option (List UInt8 × List UInt8)) :=
  match tc.userData with
  | none => some none
  | some u =>
      if u.length > tagLen ∧ u.length - tagLen ≤ cfg.s11TcMaxLen then do
        match ← tcPacketCheck (u.drop tagLen) with
        | none => return none
        | some svc => if svc ≠ 11 then return some (u, u.drop tagLen) else return none
      else some none

/-- The state change of an accepted TC(11,4). -/
def place (cfg : Config) (u pkt : List UInt8) (s : Ctx) : Option Ctx := do
  let id ← takeId s.acts s.nextId
  let coarse ← obswBe32 u 0
  let fine ← obswBe16 u 4
  let stored ← appendWithin cfg.s11TcMaxLen [] pkt
  let a : Activity := {
    requestId := id
    coarse := coarse
    fine := fine
    tc := stored
    serial := s.accepted.length }
  let acts ← pushWithin s.capacity.toNat s.acts a
  return { s with acts := acts, nextId := id + 1, accepted := s.accepted ++ [(u, a)] }

/-- `obsw_s11_insert` -/
def insert (tc : Tc) (s : Ctx) (link : Link cfg) : Option (Int × Ctx × Link cfg) := do
  match ← embeddedTc cfg tc with
  | none => reject tc failIllegalAppData s link
  | some (u, pkt) =>
      if s.acts.length ≥ s.capacity.toNat then reject tc failExecError s link
      else execute tc (place cfg u pkt) s link

/-- `remove_at`, noting why the activity goes. -/
def removeAt (fate : Fate) (index : Nat) (s : Ctx) : Option Ctx := do
  let a ← s.acts[index]?
  let acts ← swapRemove s.acts index
  return { s with acts := acts, fates := s.fates ++ [(a, fate)] }

/-- `obsw_s11_delete` -/
def delete (tc : Tc) (s : Ctx) (link : Link cfg) : Option (Int × Ctx × Link cfg) :=
  deleteByKey (fun s id => findAct s.acts id) (fun id index => removeAt (.deleted id) index)
    tc s link

/-- `obsw_s11_delete_all` -/
def deleteAll (tc : Tc) (s : Ctx) (link : Link cfg) : Option (Int × Ctx × Link cfg) :=
  execute tc (fun s => some { s with
    acts := []
    fates := s.fates ++ s.acts.map (fun a => (a, .cleared)) }) s link

/-- `obsw_s11_enable` -/
def enable (tc : Tc) (s : Ctx) (link : Link cfg) : Option (Int × Ctx × Link cfg) :=
  execute tc (fun s => some { s with enabled := true }) s link

/-- `obsw_s11_disable` -/
def disable (tc : Tc) (s : Ctx) (link : Link cfg) : Option (Int × Ctx × Link cfg) :=
  execute tc (fun s => some { s with enabled := false }) s link

/-! ### Release -/

/-- `t <= t_now` -/
def due (tNow : UInt64) (a : Activity) : Bool := !decide (a.tag > tNow)

/-- The test of the scan: earlier tag, or equal tags and smaller request ID. -/
def precedes (a next : Activity) : Bool :=
  a.tag < next.tag || (a.tag == next.tag && a.requestId < next.requestId)

/-- The inner scan of `obsw_s11_run`. -/
def earliestDue (tNow : UInt64) (acts : List Activity) : Option (Nat × Activity) :=
  selectBest (due tNow) precedes acts

variable {σ : Type}

/-- The outer loop of `obsw_s11_run` with `limit - released` turns left; the
number it returns is the releases of these turns. -/
def releaseLoop (cfg : Config) (schedule : Component σ Ctx)
    (feed : List UInt8 → σ → Option (TcRc × σ)) (tNow : UInt64) : Nat → σ → Option (Nat × σ)
  | 0, state => some (0, state)
  | turns + 1, state =>
      let s := schedule.get state
      match earliestDue tNow s.acts with
      | none => some (0, state)
      | some (index, next) => do
          let pkt ← appendWithin cfg.s11TcMaxLen [] next.tc
          let s ← removeAt (.released tNow s.enabled) index s
          let (_, state) ← feed pkt (schedule.set s state)
          let (released, state) ← releaseLoop cfg schedule feed tNow turns state
          return (released + 1, state)

/-- `obsw_s11_run`. The time is read once, before the first release. -/
def run (cfg : Config) (schedule : Component σ Ctx)
    (feed : List UInt8 → σ → Option (TcRc × σ)) (now : Obt) (state : σ) : Option (Nat × σ) :=
  let s := schedule.get state
  if s.enabled = false then some (0, state)
  else releaseLoop cfg schedule feed (tagKey now.coarse now.fine) s.acts.length state

/-! ### Well-formed schedules -/

structure WellFormed (cfg : Config) (s : Ctx) : Prop where
  idsNonzero : ∀ a ∈ s.acts, a.requestId ≠ 0
  idsDistinct : (s.acts.map (fun a => a.requestId)).Nodup
  fits : s.acts.length ≤ s.capacity.toNat
  packets : ∀ a ∈ s.acts, a.tc.length ≤ cfg.s11TcMaxLen ∧
    ∃ service, tcPacketCheck a.tc = some (some service) ∧ service ≠ 11

theorem findAct_isSome (acts : List Activity) (requestId : UInt16) :
    (findAct acts requestId).isSome = true ↔ requestId ∈ acts.map (fun a => a.requestId) := by
  have absent := findKey_eq_none_iff Activity.requestId acts requestId
  rw [← not_iff_not, ← absent, Bool.not_eq_true, Option.isSome_eq_false_iff, Option.isNone_iff_eq_none]
  rfl

/-- The bounded loop fails only by meeting as many blocked IDs as it has turns. -/
theorem takeIdLoop_none {acts : List Activity} {turns : Nat} {id : UInt16}
    (stuck : takeIdLoop acts turns id = none) (k : Nat) (inside : k < turns) :
    id + UInt16.ofNat k ∈ 0 :: acts.map (fun a => a.requestId) := by
  induction turns generalizing id k with
  | zero => omega
  | succ turns inductionHypothesis =>
      unfold takeIdLoop at stuck
      split at stuck
      · rename_i blocked
        cases k with
        | zero =>
            have same : id + UInt16.ofNat 0 = id := by simp
            rw [same, List.mem_cons, ← findAct_isSome]
            exact blocked
        | succ k =>
            have next := inductionHypothesis stuck k (by omega)
            have shift : id + 1 + UInt16.ofNat k = id + UInt16.ofNat (k + 1) := by
              rw [UInt16.ofNat_add, UInt16.add_assoc, UInt16.add_comm 1]
              rfl
            rwa [shift] at next
      · cases stuck

theorem takeIdLoop_some {acts : List Activity} {turns : Nat} {id taken : UInt16}
    (took : takeIdLoop acts turns id = some taken) :
    taken ≠ 0 ∧ taken ∉ acts.map (fun a => a.requestId) := by
  induction turns generalizing id with
  | zero => cases took
  | succ turns inductionHypothesis =>
      unfold takeIdLoop at took
      split at took
      · exact inductionHypothesis took
      · rename_i free
        cases took
        rw [← findAct_isSome]
        exact ⟨fun zero => free (.inl zero), fun found => free (.inr found)⟩

/-- A table of at most 255 activities leaves `take_id` an ID to find. -/
theorem takeId_isSome {acts : List Activity} (small : acts.length ≤ 255) (nextId : UInt16) :
    ∃ id, takeId acts nextId = some id := by
  cases took : takeId acts nextId with
  | some id => exact ⟨id, rfl⟩
  | none =>
      -- 257 consecutive IDs are distinct, too many for zero and 255 activities
      have tried : ((List.range 257).map (fun k => nextId + UInt16.ofNat k)) ⊆
          0 :: acts.map (fun a => a.requestId) := by
        intro id member
        obtain ⟨k, inside, rfl⟩ := List.mem_map.mp member
        have below := List.mem_range.mp inside
        exact takeIdLoop_none took k (by omega)
      have distinct : ((List.range 257).map (fun k => nextId + UInt16.ofNat k)).Nodup := by
        apply List.Nodup.map_on _ List.nodup_range
        intro first firstIn second secondIn same
        have firstBelow := List.mem_range.mp firstIn
        have secondBelow := List.mem_range.mp secondIn
        have equal := UInt16.toNat_inj.mpr (UInt16.add_right_inj nextId |>.mp same)
        simp only [UInt16.toNat_ofNat'] at equal
        omega
      have count := (List.subperm_of_subset distinct tried).length_le
      simp at count
      omega

end Openobsw.Pus.S11
