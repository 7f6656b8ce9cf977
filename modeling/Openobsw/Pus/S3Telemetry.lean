import Openobsw.Pus.S3Requests
import Openobsw.Pus.Sending

/-!
Owns the number of housekeeping reports: where every structure is small enough for one
packet, a tick sends one TM(3,25) for each structure that is due, numbered in a row.
-/

namespace Openobsw.Pus.S3

open Openobsw.Lib.Tables Openobsw.Pus.S1 Openobsw.Pus.Handler Openobsw.Util

variable {cfg : Config} {table : List S20.Param} {s : Ctx} {structures : List Structure}

/-! ### Structures that fit one packet -/

/-- With four bytes for every parameter the report is within the packet limit. -/
def Structure.Compact (cfg : Config) (a : Structure) : Prop :=
  18 + 4 * a.source.count.toNat ≤ cfg.tmMaxPacketLen

/-- The set table holds structures whose reports fit. -/
def Fitted (cfg : Config) (table : List S20.Param) (s : Ctx) : Prop :=
  ∃ structures, Represents cfg table s structures ∧ ∀ a ∈ structures, a.Compact cfg

/-- TC(3,1) has checked that the report fits. -/
theorem compact_created {a : Structure} {ids : List UInt16} (source : a.source = .created ids)
    (reportable : a.source.Reportable cfg s table) (atLeast : 17 ≤ cfg.tmMaxPacketLen)
    (atMost : cfg.tmMaxPacketLen ≤ 65536) : a.Compact cfg := by
  rw [source] at reportable
  obtain ⟨_, few, fits, _⟩ := reportable
  unfold maxReportData at fits
  unfold Structure.Compact
  rw [source]
  show 18 + 4 * (UInt8.ofNat ids.length).toNat ≤ cfg.tmMaxPacketLen
  rw [UInt8.toNat_ofNat']
  omega

theorem Commanded.compact {command : Command} {tc : Tc} {others : List Structure} {after : Ctx}
    (done : Commanded tc structures command others)
    (represents : Represents cfg table after others) (atLeast : 17 ≤ cfg.tmMaxPacketLen)
    (atMost : cfg.tmMaxPacketLen ≤ 65536) (compact : ∀ a ∈ structures, a.Compact cfg) :
    ∀ a ∈ others, a.Compact cfg := by
  have relabelled : ∀ (setId : UInt8) (change : Structure → Structure),
      (∀ a, (change a).source = a.source) → ∀ a ∈ changed setId change structures, a.Compact cfg := by
    intro setId change keeps a member
    obtain ⟨b, inStructures, rfl⟩ := List.mem_map.mp member
    have small := compact b inStructures
    unfold Structure.Compact at small ⊢
    split
    · rw [keeps]
      exact small
    · exact small
  cases done with
  | define u a present created =>
      intro b member
      rcases List.mem_append.mp member with before | last
      · exact compact b before
      · obtain ⟨n, ids, _, _, source⟩ := created.source
        rw [List.mem_singleton.mp last]
        exact compact_created source (represents.reportable a (by simp)) atLeast atMost
  | delete u setIds present lists removables =>
      intro b member
      exact compact b (List.mem_of_mem_filter member)
  | enable u setId interval present named read =>
      exact relabelled setId (Structure.started interval) (fun _ => rfl)
  | disable u setId present named => exact relabelled setId Structure.stopped (fun _ => rfl)

/-- Values in the S20 table may change as long as its IDs stay. -/
theorem Fitted.revalue (fitted : Fitted cfg table s) {other : List S20.Param}
    (sameIds : other.map (fun param => param.paramId) = table.map (fun param => param.paramId)) :
    Fitted cfg other s := by
  obtain ⟨structures, represents, compact⟩ := fitted
  exact ⟨structures, represents.revalue sameIds, compact⟩

/-! ### What commands leave alone -/

/-- The message counter and the capacity of the set table are the same. -/
structure Unspent (s after : Ctx) : Prop where
  counter : after.msgCounter = s.msgCounter
  capacity : after.setCapacity = s.setCapacity

theorem Ctx.SameFrame.unspent {after : Ctx} (frame : s.SameFrame after) : Unspent s after := by
  rw [frame.rest]
  exact ⟨rfl, rfl⟩

/-- A command rejects its TC or executes it; the structures still fit, and no number of
the service is spent. -/
theorem Fitted.handle (fitted : Fitted cfg table s) (atLeast : 17 ≤ cfg.tmMaxPacketLen)
    (atMost : cfg.tmMaxPacketLen ≤ 65536) (command : Command) (tc : Tc) (link : Link cfg) :
    Updates tc s link (fun after => Fitted cfg table after ∧ Unspent s after)
      (handle table command tc s link) := by
  obtain ⟨structures, represents, compact⟩ := fitted
  have updates := handle_updates represents command tc link
  have counted := handle_ensures table command tc s link
  generalize S3.handle table command tc s link = result at updates counted ⊢
  cases updates with
  | rejected code known => exact .rejected code known
  | executed after updated =>
      obtain ⟨others, done, represented⟩ := updated
      exact .executed after ⟨⟨others, represented, done.compact represented atLeast atMost compact⟩,
        (counted _ rfl).unspent⟩

/-! ### The tick -/

theorem values_length_le (represents : Represents cfg table s structures) {a : Structure}
    (member : a ∈ structures) {vars : Variables} (same : vars.table = table) :
    (a.values vars).length ≤ 4 * a.source.count.toNat := by
  have reportable := represents.reportable a member
  have bytes := flatMap_bytes_length_le vars (a.params s table)
  have count : (a.params s table).length ≤ a.source.count.toNat := by
    unfold Structure.params
    cases source : a.source with
    | boot params count => exact List.length_take_le _ _
    | created ids =>
        rw [source] at reportable
        show (ids.map (poolEntry s table)).length ≤ (UInt8.ofNat ids.length).toNat
        have few : ids.length ≤ 255 := reportable.2.1
        rw [List.length_map, UInt8.toNat_ofNat', Nat.mod_eq_of_lt (by omega)]
  rw [← represents.values_eq member same]
  omega

/-- The report of a small structure is built, under the number of the context. -/
theorem Represents.emit_compact (represents : Represents cfg table s structures)
    {before after : List Structure} {a : Structure} (split : structures = before ++ a :: after)
    (compact : a.Compact cfg) (atMost : cfg.tmMaxPacketLen ≤ 65535) {vars : Variables}
    (same : vars.table = table) (tm : Port cfg) :
    ∃ rc request, emitHkReport vars (a.render (poolIds before).length) s tm =
        some (rc, { s with msgCounter := s.msgCounter + 1 }, tm.after request) ∧
      NextOf cfg 3 s.msgCounter [request] (s.msgCounter + 1) := by
  have length := values_length_le represents (a := a) (by rw [split]; simp) same
  unfold Structure.Compact at compact
  have fits : (a.values vars).length ≤ reportBufLen cfg := by
    unfold reportBufLen
    omega
  rw [represents.emit split same, if_pos fits]
  refine ⟨_, _, rfl, .cons ?_ rfl rfl (.nil cfg 3 _)⟩
  unfold TmRequest.Fits request
  rw [List.length_cons]
  omega

/-- The structures of a list that report at the next tick. -/
def dueCount (structures : List Structure) : Nat :=
  structures.countP (fun a => a.ticked.1)

theorem Represents.tickSet_sends (represents : Represents cfg table s structures)
    {before after : List Structure} {a : Structure} (split : structures = before ++ a :: after)
    (compact : a.Compact cfg) (atMost : cfg.tmMaxPacketLen ≤ 65535) {vars : Variables}
    (same : vars.table = table) (tm : Port cfg) :
    ∃ later requests,
      S3.tickSet vars before.length (a.render (poolIds before).length) s tm =
          some (later, tm.afterAll requests) ∧
        Represents cfg table later (before ++ a.ticked.2 :: after) ∧
        NextOf cfg 3 s.msgCounter requests later.msgCounter ∧
        requests.length = dueCount [a] ∧ later.setCapacity = s.setCapacity := by
  obtain ⟨sameId, sameSource⟩ := ticked_keeps a
  unfold S3.tickSet dueCount
  rw [render_ticked, List.countP_singleton]
  cases reports : a.ticked.1 with
  | false =>
      exact ⟨_, [], rfl, represents.replaceAt split sameId sameSource rfl, .nil cfg 3 _, rfl,
        rfl⟩
  | true =>
      obtain ⟨rc, request, emitted, next⟩ := represents.emit_compact split compact atMost same tm
      simp only [emitted, if_true, Option.bind_eq_bind, Option.bind_some]
      exact ⟨_, [request], rfl,
        (represents.counted (s.msgCounter + 1)).replaceAt split sameId sameSource rfl, next, rfl,
        rfl⟩

theorem Represents.tickFrom_sends (atMost : cfg.tmMaxPacketLen ≤ 65535) {vars : Variables}
    (same : vars.table = table) (rest : List Structure) (compact : ∀ a ∈ rest, a.Compact cfg) :
    ∀ {s : Ctx} (tm : Port cfg) (done : List Structure),
      Represents cfg table s (done ++ rest) →
      ∃ after requests,
        S3.tickFrom vars rest.length done.length s tm = some (after, tm.afterAll requests) ∧
          Represents cfg table after (done ++ rest.map (fun a => a.ticked.2)) ∧
          NextOf cfg 3 s.msgCounter requests after.msgCounter ∧
          requests.length = dueCount rest ∧ after.setCapacity = s.setCapacity := by
  induction rest with
  | nil =>
      intro s tm done represents
      exact ⟨s, [], rfl, represents, .nil cfg 3 _, rfl, rfl⟩
  | cons a rest inductionHypothesis =>
      intro s tm done represents
      obtain ⟨middle, first, ticked, represented, next, count, capacity⟩ :=
        represents.tickSet_sends rfl (compact a List.mem_cons_self) atMost same tm
      have shape : done ++ a.ticked.2 :: rest = (done ++ [a.ticked.2]) ++ rest := by simp
      rw [shape] at represented
      obtain ⟨after, later, ran, finished, others, laterCount, laterCapacity⟩ :=
        @inductionHypothesis (fun b member => compact b (List.mem_cons_of_mem a member)) middle
          (tm.afterAll first) _ represented
      rw [List.length_append] at ran
      refine ⟨after, first ++ later, ?_, by simpa using finished, next.append others, ?_,
        laterCapacity.trans capacity⟩
      · show S3.tickFrom vars (rest.length + 1) done.length s tm = _
        unfold S3.tickFrom
        simp only [represents.getElem?_eq rfl, ticked, Option.bind_eq_bind, Option.bind_some]
        rw [afterAll_append]
        exact ran
      · rw [List.length_append, count, laterCount]
        unfold dueCount
        rw [← List.countP_append]
        rfl

/-- The sets of the table that report at the next tick. -/
def Ctx.dueSets (s : Ctx) : Nat := s.sets.countP (fun set => set.ticked.1)

theorem layout_due (offset : Nat) (structures : List Structure) :
    (layout offset structures).countP (fun set => set.ticked.1) = dueCount structures := by
  induction structures generalizing offset with
  | nil => rfl
  | cons a rest inductionHypothesis =>
      unfold dueCount at *
      show (a.render offset :: layout _ rest).countP _ = _
      rw [List.countP_cons, List.countP_cons, inductionHypothesis, render_ticked]

/-- A tick sends one report for each set that is due, numbered in a row. -/
theorem Fitted.tick (fitted : Fitted cfg table s) (atMost : cfg.tmMaxPacketLen ≤ 65535)
    (vars : Variables) (same : vars.table = table) (tm : Port cfg) :
    ∃ after requests, tick vars s tm = some (after, tm.afterAll requests) ∧
      Fitted cfg table after ∧ NextOf cfg 3 s.msgCounter requests after.msgCounter ∧
      requests.length = s.dueSets ∧ after.setCapacity = s.setCapacity := by
  obtain ⟨structures, represents, compact⟩ := fitted
  have length : s.sets.length = structures.length := by
    rw [represents.sets, layout_length]
  obtain ⟨after, requests, ran, represented, next, count, capacity⟩ :=
    Represents.tickFrom_sends atMost same structures compact tm [] represents
  refine ⟨after, requests, ?_, ⟨_, represented, ?_⟩, next, ?_, capacity⟩
  · unfold S3.tick
    rw [length]
    exact ran
  · intro b member
    obtain ⟨a, inStructures, rfl⟩ := List.mem_map.mp member
    have small := compact a inStructures
    unfold Structure.Compact at small ⊢
    rw [(ticked_keeps a).2]
    exact small
  · unfold Ctx.dueSets
    rw [count, represents.sets, layout_due]

/-- No more sets are due than the table has room for. -/
theorem Fitted.dueSets_le (fitted : Fitted cfg table s) : s.dueSets ≤ s.setCapacity.toNat := by
  obtain ⟨structures, represents, _⟩ := fitted
  calc
    s.dueSets ≤ s.sets.length := List.countP_le_length
    _ = structures.length := by rw [represents.sets, layout_length]
    _ ≤ s.setCapacity.toNat := represents.setsFit

end Openobsw.Pus.S3
