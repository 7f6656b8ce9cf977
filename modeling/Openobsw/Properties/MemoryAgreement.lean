import Mathlib.Data.List.Pairwise
import Openobsw.Properties.MemoryAccess
import Openobsw.Pus.Sending

/-!
Owns the memory that ground sees through S6: one byte for each address of a
region. Loads patch it, dumps report it and checks compare it, so that what was
loaded is what is reported.
-/

namespace Openobsw.Pus.S6

open Openobsw.Ccsds Openobsw.Util Openobsw.Pus.S1 Openobsw.Pus.Handler

variable {cfg : Config}

/-! ### What ground sees -/

/-- The ground address belongs to the region. -/
def Region.Contains (r : Region) (addr : Nat) : Prop :=
  r.start.toNat ≤ addr ∧ addr < r.start.toNat + r.size.toNat

instance (r : Region) (addr : Nat) : Decidable (r.Contains addr) :=
  inferInstanceAs (Decidable (_ ∧ _))

/-- The local address is a byte of the region's memory. -/
def Region.Holds (r : Region) (address : Nat) : Prop :=
  r.base ≤ address ∧ address < r.base + r.size.toNat

/-- The byte at a ground address, if a region contains it. -/
def Ctx.ground (s : Ctx) (addr : Nat) : Option UInt8 :=
  (s.table.find? (fun r => decide (r.Contains addr))).map (fun r => s.memory (r.localAddr addr))

/-- No two regions share a ground address or a byte of memory, and all of them may be read and
written. -/
structure Separate (table : List Region) : Prop where
  ground : table.Pairwise (fun r q => ∀ addr, ¬ (r.Contains addr ∧ q.Contains addr))
  memory : table.Pairwise (fun r q => ∀ address, ¬ (r.Holds address ∧ q.Holds address))
  readable : ∀ r ∈ table, r.access &&& accessRead = accessRead
  writable : ∀ r ∈ table, r.access &&& accessWrite = accessWrite

namespace Separate

variable {table : List Region} {r q : Region}

theorem eq_of_contains (separate : Separate table) (first : r ∈ table) (second : q ∈ table)
    {addr : Nat} (inFirst : r.Contains addr) (inSecond : q.Contains addr) : r = q := by
  by_contra apart
  have symmetric : Std.Symm (fun r q : Region => ∀ addr, ¬ (r.Contains addr ∧ q.Contains addr)) :=
    ⟨fun _ _ disjoint addr both => disjoint addr both.symm⟩
  exact separate.ground.forall first second apart addr ⟨inFirst, inSecond⟩

theorem eq_of_holds (separate : Separate table) (first : r ∈ table) (second : q ∈ table)
    {address : Nat} (inFirst : r.Holds address) (inSecond : q.Holds address) : r = q := by
  by_contra apart
  have symmetric : Std.Symm (fun r q : Region =>
      ∀ address, ¬ (r.Holds address ∧ q.Holds address)) :=
    ⟨fun _ _ disjoint address both => disjoint address both.symm⟩
  exact separate.memory.forall first second apart address ⟨inFirst, inSecond⟩

end Separate

theorem Region.Contains.holds {r : Region} {addr : Nat} (contains : r.Contains addr) :
    r.Holds (r.localAddr addr) := by
  obtain ⟨above, below⟩ := contains
  unfold Region.Holds Region.localAddr
  omega

/-- Ground sees a contained address through the region that contains it. -/
theorem ground_eq {s : Ctx} (separate : Separate s.table) {r : Region} (member : r ∈ s.table)
    {addr : Nat} (contains : r.Contains addr) :
    s.ground addr = some (s.memory (r.localAddr addr)) := by
  unfold Ctx.ground
  cases found : s.table.find? (fun r => decide (r.Contains addr)) with
  | none =>
      have absent := List.find?_eq_none.mp found r member
      exact absurd (decide_eq_true contains) absent
  | some q =>
      have passed := List.find?_some found
      have same := separate.eq_of_contains (List.mem_of_find?_eq_some found) member
        (of_decide_eq_true passed) contains
      rw [same]
      rfl

theorem ground_none {s : Ctx} {addr : Nat} (uncontained : ∀ r ∈ s.table, ¬ r.Contains addr) :
    s.ground addr = none := by
  unfold Ctx.ground
  rw [List.find?_eq_none.mpr (fun r member => by simpa using uncontained r member)]
  rfl

theorem Region.Serves.contains {r : Region} {access : UInt8} {addr len : Nat}
    (serves : r.Serves access addr len) {k : Nat} (bound : k < len) : r.Contains (addr + k) := by
  obtain ⟨_, above, below⟩ := serves
  unfold Region.Contains
  omega

theorem Region.Serves.localAddr_add {r : Region} {access : UInt8} {addr len : Nat}
    (serves : r.Serves access addr len) (k : Nat) :
    r.localAddr (addr + k) = r.localAddr addr + k := by
  have above := serves.2.1
  unfold Region.localAddr
  omega

/-- The bytes read for a served range are those that ground sees there. -/
theorem readMemory_ground {s : Ctx} (separate : Separate s.table) {r : Region} {access : UInt8}
    {addr len : Nat} (member : r ∈ s.table) (serves : r.Serves access addr len) {k : Nat}
    (bound : k < len) :
    (readMemory s.memory (r.localAddr addr) len)[k]? = s.ground (addr + k) := by
  rw [ground_eq separate member (serves.contains bound), serves.localAddr_add]
  unfold readMemory
  rw [List.getElem?_map, List.getElem?_range bound]
  rfl

/-- Overwriting the memory of a served range patches what ground sees there, and nothing else. -/
theorem ground_overwrites {s after : Ctx} (separate : Separate s.table)
    (sameTable : after.table = s.table) {r : Region} {access : UInt8} {addr : Nat}
    {data : List UInt8} (member : r ∈ s.table) (serves : r.Serves access addr data.length)
    (written : Overwrites s.memory after.memory (r.localAddr addr) data) (x : Nat) :
    after.ground x =
      if addr ≤ x ∧ x < addr + data.length then data[x - addr]? else s.ground x := by
  have afterSeparate : Separate after.table := by
    rw [sameTable]
    exact separate
  by_cases loaded : addr ≤ x ∧ x < addr + data.length
  · obtain ⟨k, rfl⟩ := Nat.exists_eq_add_of_le loaded.1
    have bound : k < data.length := by omega
    rw [if_pos loaded, ground_eq afterSeparate (sameTable ▸ member) (serves.contains bound),
      serves.localAddr_add, Nat.add_sub_cancel_left, List.getElem?_eq_getElem bound]
    exact congrArg some (written.inside k bound)
  · rw [if_neg loaded]
    by_cases contained : ∃ q ∈ s.table, q.Contains x
    · obtain ⟨q, qMember, contains⟩ := contained
      rw [ground_eq afterSeparate (sameTable ▸ qMember) contains,
        ground_eq separate qMember contains]
      refine congrArg some (written.outside _ ?_)
      -- A byte of another region lies outside the whole memory of this one.
      by_contra hit
      have inside := serves.inside
      have held : r.Holds (q.localAddr x) := by
        unfold Region.Holds
        omega
      have same := separate.eq_of_holds member qMember held contains.holds
      subst same
      have above := serves.2.1
      unfold Region.localAddr at hit
      obtain ⟨start, _⟩ := contains
      omega
    · have uncontained : ∀ q ∈ s.table, ¬ q.Contains x :=
        fun q qMember contains => contained ⟨q, qMember, contains⟩
      rw [ground_none uncontained, ground_none (sameTable ▸ uncontained)]

/-! ### Runs of requests -/

/-- One request to the service, with the reports' state it meets. -/
structure Visit (cfg : Config) where
  command : Command
  tc : Tc
  link : Link cfg

/-- The request is a load of a range with the ground address in it. -/
def Visit.Loads (visit : Visit cfg) (x : Nat) : Prop :=
  visit.command = .load ∧ ∃ u addr len, Asks cfg .load visit.tc u addr len ∧
    addr.toNat ≤ x ∧ x < addr.toNat + len.toNat

/-- The service after a sequence of requests. -/
def visits (s : Ctx) : List (Visit cfg) → Option Ctx
  | [] => some s
  | visit :: rest => do
      let (_, s, _) ← handle visit.command visit.tc s visit.link
      visits s rest

theorem load_data_length {tc : Tc} {u : List UInt8} {addr : UInt32} {len : UInt16}
    (asks : Asks cfg .load tc u addr len) :
    ((u.drop loadMinLen).take len.toNat).length = len.toNat := by
  have long : loadMinLen + len.toNat ≤ u.length := asks.lengthOk
  rw [List.length_take, List.length_drop]
  omega

/-- A load that is executed patches ground memory with its data. -/
theorem loaded_ground {tc : Tc} {u : List UInt8} {addr : UInt32} {len : UInt16} {s : Ctx}
    {link : Link cfg} {r : Region} {out : Int × Ctx × Link cfg} (separate : Separate s.table)
    (asks : Asks cfg .load tc u addr len)
    (serving : s.serving accessWrite addr.toNat len.toNat = some r)
    (ran : load tc s link = some out) :
    out.2.1.table = s.table ∧ ∀ x, out.2.1.ground x =
      if addr.toNat ≤ x ∧ x < addr.toNat + len.toNat then
        ((u.drop loadMinLen).take len.toNat)[x - addr.toNat]? else s.ground x := by
  obtain ⟨member, serves⟩ := Ctx.serving_some serving
  have works := handle_served asks serving ran
  cases works with
  | loaded memory written =>
      refine ⟨rfl, fun x => ?_⟩
      have length := load_data_length asks
      rw [← length] at serves
      have patched := @ground_overwrites s { s with memory := memory } separate rfl r _ _ _ member
        serves written x
      rw [length] at patched
      exact patched

/-- What one request leaves of ground memory: everything that it does not load. -/
theorem handle_ground {visit : Visit cfg} {s : Ctx} {out : Int × Ctx × Link cfg}
    (separate : Separate s.table)
    (ran : handle visit.command visit.tc s visit.link = some out) :
    out.2.1.table = s.table ∧ ∀ x, ¬ visit.Loads x → out.2.1.ground x = s.ground x := by
  by_cases asked : ∃ u addr len, Asks cfg visit.command visit.tc u addr len
  · obtain ⟨u, addr, len, asks⟩ := asked
    cases serving : s.serving visit.command.need addr.toNat len.toNat with
    | none =>
        rw [handle_unserved asks serving] at ran
        cases ran
        exact ⟨rfl, fun _ _ => rfl⟩
    | some r =>
        have works := handle_served asks serving ran
        obtain ⟨command, tc, link⟩ := visit
        cases command with
        | load =>
            obtain ⟨sameTable, patched⟩ := loaded_ground separate asks serving ran
            refine ⟨sameTable, fun x spared => ?_⟩
            rw [patched x]
            exact if_neg (fun inside => spared ⟨rfl, u, addr, len, asks, inside⟩)
        | check =>
            cases works with
            | matched expected asked same => exact ⟨rfl, fun _ _ => rfl⟩
            | mismatched expected asked other => exact ⟨rfl, fun _ _ => rfl⟩
        | dump =>
            cases works with
            | dumped memId asked => exact ⟨rfl, fun _ _ => rfl⟩
  · obtain ⟨code, rejected⟩ := handle_unasked
      (fun u addr len asks => asked ⟨u, addr, len, asks⟩) s visit.link
    rw [rejected] at ran
    cases ran
    exact ⟨rfl, fun _ _ => rfl⟩

/-- What a sequence of requests leaves of ground memory: everything that none of them loads. -/
theorem visits_ground {run : List (Visit cfg)} {s later : Ctx} (separate : Separate s.table)
    (ran : visits s run = some later) :
    later.table = s.table ∧
      ∀ x, (∀ visit ∈ run, ¬ visit.Loads x) → later.ground x = s.ground x := by
  induction run generalizing s with
  | nil =>
      cases ran
      exact ⟨rfl, fun _ _ => rfl⟩
  | cons visit rest inductionHypothesis =>
      obtain ⟨out, handled, more⟩ := Option.bind_eq_some_iff.mp ran
      obtain ⟨firstTable, first⟩ := handle_ground separate handled
      obtain ⟨restTable, others⟩ := inductionHypothesis (firstTable ▸ separate) more
      refine ⟨restTable.trans firstTable, fun x spared => ?_⟩
      have here := spared visit List.mem_cons_self
      have later := fun visit member => spared visit (List.mem_cons_of_mem _ member)
      rw [others x later, first x here]

/-! ### What is reported -/

/-- A report as its reader sees it: service, subservice and data. -/
abbrev Report := UInt8 × UInt8 × List UInt8

def reportOfBuilt (tm : TmBuilt) : Report := (tm.request.svc, tm.request.subsvc, tm.request.data)

/-- The request is answered with these reports, and all of them are stored while the store has
room. -/
def Answered (link later : Link cfg) (reports : List Report) : Prop :=
  ∃ built, later.tm.log = link.tm.log ++ built ∧ built.map reportOfBuilt = reports ∧
    ((∀ tm ∈ built, tm.rc ≠ .errStore) → ∀ tm ∈ built, tm.rc = .ok)

/-- A packet within the limit is stored unless the store is full. -/
theorem rc_of_fits (atMost : cfg.tmMaxPacketLen ≤ 65535) {request : TmRequest}
    (fits : request.Fits cfg) (port : Port cfg) (room : (port.put request).1 ≠ .errStore) :
    (port.put request).1 = .ok := by
  unfold TmRequest.Fits at fits
  have length : request.dataLen = request.data.length := Nat.mod_eq_of_lt (by omega)
  have outcome := put_of_fits port request (by omega) (by omega)
  rw [outcome] at room ⊢
  split at room
  · exact absurd rfl room
  · exact if_neg ‹_›

/-- An acceptance, one report of the service, and a completion. -/
theorem answered_of_frame (atMost : cfg.tmMaxPacketLen ≤ 65535) {request : TmRequest}
    (fits : request.Fits cfg) (reports : 23 ≤ cfg.tmMaxPacketLen) (link : Link cfg) (tc : Tc)
    (subsvc : UInt8) {data : List UInt8} (short : data.length ≤ 6) :
    Answered link (((link.accepted tc).emitted request).reported subsvc data)
      [(1, 1, encodeTcRef tc), (request.svc, request.subsvc, request.data), (1, subsvc, data)] := by
  refine ⟨[link.nextBuilt 1 (encodeTcRef tc), ⟨request, ((link.accepted tc).tm.put request).1⟩,
    ((link.accepted tc).emitted request).nextBuilt subsvc data], ?_, rfl, ?_⟩
  · rw [reported_log, show ((link.accepted tc).emitted request).tm.log = _ from after_log _ _,
      show (link.accepted tc).tm.log = _ from reported_log _ _ _, List.append_assoc,
      List.append_assoc]
    rfl
  · have acceptance : (S1.request link.ctx 1 (encodeTcRef tc)).Fits cfg := by
      show 17 + 4 ≤ cfg.tmMaxPacketLen
      omega
    have completion : (S1.request ((link.accepted tc).emitted request).ctx subsvc data).Fits cfg := by
      show 17 + data.length ≤ cfg.tmMaxPacketLen
      omega
    rw [List.forall_mem_cons, List.forall_mem_cons, List.forall_mem_cons, List.forall_mem_cons,
      List.forall_mem_cons, List.forall_mem_cons]
    intro room
    exact ⟨rc_of_fits atMost acceptance _ room.1, rc_of_fits atMost fits _ room.2.1,
      rc_of_fits atMost completion _ room.2.2.1, by simp⟩

/-! ### Agreement -/

/-- After `data` was loaded at `a` into `s`, and the requests of `run` led to `later`: what
dumps and checks report there, when they are accepted. -/
structure Agreement (cfg : Config) (a : Nat) (data : List UInt8) (s later : Ctx)
    (run : List (Visit cfg)) : Prop where
  dumped : ∀ tc u addr len (link : Link cfg) out, Asks cfg .dump tc u addr len →
    a ≤ addr.toNat → addr.toNat + len.toNat ≤ a + data.length →
    handle .dump tc later link = some out → Accepts link out.2.2 →
    ∃ memId, u[6]? = some memId ∧ Answered link out.2.2
      [(1, 1, encodeTcRef tc),
        (6, 6, putBe32 addr ++ [memId] ++ (data.drop (addr.toNat - a)).take len.toNat),
        (1, 7, encodeTcRef tc)]
  matched : ∀ tc u addr len (link : Link cfg) out, Asks cfg .check tc u addr len →
    a ≤ addr.toNat → addr.toNat + len.toNat ≤ a + data.length →
    handle .check tc later link = some out → Accepts link out.2.2 →
    obswBe16 u 7 = some (crc16Ccitt ((data.drop (addr.toNat - a)).take len.toNat)) →
    Answered link out.2.2
      [(1, 1, encodeTcRef tc), (6, 10, u.take 6), (1, 7, encodeTcRef tc)]
  mismatched : ∀ tc u addr len (link : Link cfg) out, Asks cfg .check tc u addr len →
    a ≤ addr.toNat → addr.toNat + len.toNat ≤ a + data.length →
    handle .check tc later link = some out → Accepts link out.2.2 →
    obswBe16 u 7 ≠ some (crc16Ccitt ((data.drop (addr.toNat - a)).take len.toNat)) →
    Answered link out.2.2
      [(1, 1, encodeTcRef tc),
        (6, 11, u.take 6 ++ putBe16 (crc16Ccitt ((data.drop (addr.toNat - a)).take len.toNat))),
        (1, 8, encodeTcRef tc ++ putBe16 0x0004)]
  elsewhere : ∀ x, ¬ (a ≤ x ∧ x < a + data.length) → (∀ visit ∈ run, ¬ visit.Loads x) →
    later.ground x = s.ground x
  reported : ∀ tc u addr len (link : Link cfg) out, Asks cfg .dump tc u addr len →
    handle .dump tc later link = some out → Accepts link out.2.2 →
    ∃ memId bytes, u[6]? = some memId ∧ bytes.length = len.toNat ∧
      (∀ k, k < len.toNat → bytes[k]? = later.ground (addr.toNat + k)) ∧
      Answered link out.2.2 [(1, 1, encodeTcRef tc), (6, 6, putBe32 addr ++ [memId] ++ bytes),
        (1, 7, encodeTcRef tc)]

section Reported

variable {tc : Tc} {u : List UInt8} {addr : UInt32} {len : UInt16} {s : Ctx} {link : Link cfg}
  {out : Int × Ctx × Link cfg}

/-- An accepted request is served by a region of the table. -/
theorem serving_of_accepts {command : Command} (asks : Asks cfg command tc u addr len)
    (ran : handle command tc s link = some out) (accepted : Accepts link out.2.2) :
    ∃ r, s.serving command.need addr.toNat len.toNat = some r := by
  cases serving : s.serving command.need addr.toNat len.toNat with
  | none =>
      rw [handle_unserved asks serving] at ran
      cases ran
      exact absurd accepted (not_accepts_rejected _ _ _)
  | some r => exact ⟨r, rfl⟩

theorem dump_answered (atLeast : 25 ≤ cfg.tmMaxPacketLen) (atMost : cfg.tmMaxPacketLen ≤ 65535)
    (asks : Asks cfg .dump tc u addr len) {r : Region}
    (serving : s.serving accessRead addr.toNat len.toNat = some r)
    (ran : handle .dump tc s link = some out) :
    ∃ memId, u[6]? = some memId ∧ Answered link out.2.2
      [(1, 1, encodeTcRef tc), (6, 6, putBe32 addr ++ [memId] ++
        readMemory s.memory (r.localAddr addr.toNat) len.toNat), (1, 7, encodeTcRef tc)] := by
  have bounded : len.toNat ≤ maxDumpData cfg := asks.lengthOk.2
  have limit := maxDumpData_le (Nat.le_trans (by decide) atLeast : 22 ≤ cfg.tmMaxPacketLen)
  cases handle_served asks serving ran with
  | dumped memId asked =>
      refine ⟨memId, asked, answered_of_frame atMost ?_ (by omega) link tc 7 (by simp)⟩
      show 17 + (putBe32 addr ++ [memId] ++ readMemory _ _ _).length ≤ cfg.tmMaxPacketLen
      rw [List.length_append, readMemory_length]
      show 17 + (5 + len.toNat) ≤ cfg.tmMaxPacketLen
      omega

theorem check_answered (atLeast : 25 ≤ cfg.tmMaxPacketLen) (atMost : cfg.tmMaxPacketLen ≤ 65535)
    (asks : Asks cfg .check tc u addr len) {r : Region}
    (serving : s.serving accessRead addr.toNat len.toNat = some r)
    (ran : handle .check tc s link = some out) {actual : UInt16}
    (actualEq : crc16Ccitt (readMemory s.memory (r.localAddr addr.toNat) len.toNat) = actual) :
    (obswBe16 u 7 = some actual → Answered link out.2.2
      [(1, 1, encodeTcRef tc), (6, 10, u.take 6), (1, 7, encodeTcRef tc)]) ∧
    (obswBe16 u 7 ≠ some actual → Answered link out.2.2
      [(1, 1, encodeTcRef tc), (6, 11, u.take 6 ++ putBe16 actual),
        (1, 8, encodeTcRef tc ++ putBe16 0x0004)]) := by
  have narrow : (u.take 6).length ≤ 6 := List.length_take_le 6 u
  cases handle_served asks serving ran with
  | matched expected asked same =>
      rw [asked, ← actualEq, same]
      refine ⟨fun _ => answered_of_frame atMost ?_ (by omega) link tc 7 (by simp),
        fun other => absurd rfl other⟩
      show 17 + (u.take 6).length ≤ cfg.tmMaxPacketLen
      omega
  | mismatched expected asked other =>
      rw [asked, ← actualEq]
      refine ⟨fun same => absurd (Option.some.inj same).symm other,
        fun _ => answered_of_frame atMost ?_ (by omega) link tc 8 (by simp)⟩
      show 17 + (u.take 6 ++ putBe16 _).length ≤ cfg.tmMaxPacketLen
      rw [List.length_append, putBe16_length]
      omega

end Reported

/-- The bytes read for a range inside the loaded one are the data loaded there. -/
theorem readMemory_loaded {s : Ctx} (separate : Separate s.table) {a : Nat} {data : List UInt8}
    (loaded : ∀ x, a ≤ x → x < a + data.length → s.ground x = data[x - a]?) {r : Region}
    {access : UInt8} {addr len : Nat} (serving : s.serving access addr len = some r)
    (above : a ≤ addr) (below : addr + len ≤ a + data.length) :
    readMemory s.memory (r.localAddr addr) len = (data.drop (addr - a)).take len := by
  obtain ⟨member, serves⟩ := Ctx.serving_some serving
  refine List.ext_getElem? (fun k => ?_)
  by_cases bound : k < len
  · rw [readMemory_ground separate member serves bound,
      loaded (addr + k) (by omega) (by omega), List.getElem?_take_of_lt bound, List.getElem?_drop,
      Nat.sub_add_comm above]
  · rw [List.getElem?_eq_none (by rw [readMemory_length]; omega),
      List.getElem?_eq_none (by rw [List.length_take]; omega)]

/-- Load, dump and check agree over separate regions: what was loaded is what later dumps report
and later checks compare, until it is loaded again; all else stays as it was. -/
theorem load_agreement (atLeast : 25 ≤ cfg.tmMaxPacketLen) (atMost : cfg.tmMaxPacketLen ≤ 65535)
    (s : Ctx) (separate : Separate s.table) (tc : Tc) (u : List UInt8) (a : UInt32) (len : UInt16)
    (asks : Asks cfg .load tc u a len) (link : Link cfg) (out : Int × Ctx × Link cfg)
    (ran : handle .load tc s link = some out) (accepted : Accepts link out.2.2)
    (run : List (Visit cfg)) (later : Ctx) (followed : visits out.2.1 run = some later)
    (spared : ∀ visit ∈ run, ∀ x, a.toNat ≤ x → x < a.toNat + len.toNat → ¬ visit.Loads x) :
    Agreement cfg a.toNat ((u.drop loadMinLen).take len.toNat) s later run := by
  obtain ⟨r, serving⟩ := serving_of_accepts asks ran accepted
  obtain ⟨sameTable, patched⟩ := loaded_ground separate asks serving ran
  have loadedSeparate : Separate out.2.1.table := sameTable ▸ separate
  obtain ⟨laterTable, kept⟩ := visits_ground loadedSeparate followed
  have laterSeparate : Separate later.table := laterTable ▸ loadedSeparate
  have length := load_data_length asks
  have loaded : ∀ x, a.toNat ≤ x → x < a.toNat + ((u.drop loadMinLen).take len.toNat).length →
      later.ground x = ((u.drop loadMinLen).take len.toNat)[x - a.toNat]? := by
    rw [length]
    intro x above below
    rw [kept x (fun visit member => spared visit member x above below), patched x,
      if_pos ⟨above, below⟩]
  exact
    { dumped := by
        intro tc u addr len link out asks above below ran accepted
        obtain ⟨q, found⟩ := serving_of_accepts asks ran accepted
        rw [← readMemory_loaded laterSeparate loaded found above below]
        exact dump_answered atLeast atMost asks found ran
      matched := by
        intro tc u addr len link out asks above below ran accepted
        obtain ⟨q, found⟩ := serving_of_accepts asks ran accepted
        rw [← readMemory_loaded laterSeparate loaded found above below]
        exact (check_answered atLeast atMost asks found ran rfl).1
      mismatched := by
        intro tc u addr len link out asks above below ran accepted
        obtain ⟨q, found⟩ := serving_of_accepts asks ran accepted
        rw [← readMemory_loaded laterSeparate loaded found above below]
        exact (check_answered atLeast atMost asks found ran rfl).2
      elsewhere := by
        intro x outside unloaded
        rw [length] at outside
        rw [kept x unloaded, patched x, if_neg outside]
      reported := by
        intro tc u addr len link out asks ran accepted
        obtain ⟨q, found⟩ := serving_of_accepts asks ran accepted
        obtain ⟨member, serves⟩ := Ctx.serving_some found
        obtain ⟨memId, asked, answered⟩ := dump_answered atLeast atMost asks found ran
        exact ⟨memId, _, asked, readMemory_length _ _ _,
          fun k bound => readMemory_ground laterSeparate member serves bound, answered⟩ }

/-- A context with one region of four bytes that may be read and written. -/
def openCtx : Ctx := { smallCtx with regions := some [⟨0, 4, 0x100, accessRead ||| accessWrite⟩] }

theorem openCtx_separate : Separate openCtx.table where
  ground := List.pairwise_singleton _ _
  memory := List.pairwise_singleton _ _
  readable := List.forall_mem_singleton.mpr (by decide)
  writable := List.forall_mem_singleton.mpr (by decide)

theorem smallLoad_agreement :
    ∃ out, handle .load smallLoad openCtx smallLink = some out ∧
      Agreement Config.default 2 [0xAA, 0xBB] openCtx out.2.1 [] := by
  have asks : Asks Config.default .load smallLoad [0, 0, 0, 2, 0, 2, 0xAA, 0xBB] 2 2 :=
    ⟨rfl, Nat.le_refl 8, by decide, by decide⟩
  have serving : openCtx.serving accessWrite 2 2 = some ⟨0, 4, 0x100, accessRead ||| accessWrite⟩ := by
    decide
  obtain ⟨out, ran⟩ := handle_isSome (fun _ => (by decide : 22 ≤ 1024)) smallLoad openCtx smallLink
  exact ⟨out, ran, load_agreement (by decide) (by decide) openCtx openCtx_separate smallLoad _ 2 2
    asks smallLink out ran (handle_served asks serving ran).accepts [] out.2.1 rfl (by simp)⟩

end Openobsw.Pus.S6
