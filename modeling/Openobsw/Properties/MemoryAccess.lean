import Openobsw.Pus.S6Access

/-!
Owns access control of S6: which memory requests are executed, on which bytes,
and what becomes of the others.
-/

namespace Openobsw.Pus.S6

open Openobsw.Ccsds Openobsw.Lib.Tables Openobsw.Util Openobsw.Pus.S1 Openobsw.Pus.Handler

variable {cfg : Config}

/-! ### Requests -/

/-- The access a command needs. -/
def Command.need : Command → UInt8
  | .load => accessWrite
  | .check => accessRead
  | .dump => accessRead

/-- The length of the user data fits the command, and a dump fits one packet. -/
def Command.LengthOk (cfg : Config) (command : Command) (u : List UInt8) (len : UInt16) : Prop :=
  match command with
  | .load => loadMinLen + len.toNat ≤ u.length
  | .check => checkLen ≤ u.length
  | .dump => dumpLen ≤ u.length ∧ len.toNat ≤ maxDumpData cfg

/-- The TC carries user data of a well-formed length that ask for `[addr, addr + len)`. -/
structure Asks (cfg : Config) (command : Command) (tc : Tc) (u : List UInt8) (addr : UInt32)
    (len : UInt16) : Prop where
  present : tc.userData = some u
  lengthOk : command.LengthOk cfg u len
  first : obswBe32 u 0 = some addr
  size : obswBe16 u 4 = some len

/-- The request is executed on the `len` bytes of local memory from `src` on: a load changes
them to its data and nothing else, a check and a dump report on them and change nothing. -/
inductive Works (tc : Tc) (u : List UInt8) (addr : UInt32) (len src : Nat) (s : Ctx)
    (link : Link cfg) : Command → Int × Ctx × Link cfg → Prop
  | loaded (memory : Nat → UInt8)
      (written : Overwrites s.memory memory src ((u.drop loadMinLen).take len)) :
      Works tc u addr len src s link .load
        (0, { s with memory := memory }, (link.accepted tc).completed tc)
  | matched (expected : UInt16) (asked : obswBe16 u 7 = some expected)
      (same : crc16Ccitt (readMemory s.memory src len) = expected) :
      Works tc u addr len src s link .check
        (0, s.counted, ((link.accepted tc).emitted (request s 10 (u.take 6))).completed tc)
  | mismatched (expected : UInt16) (asked : obswBe16 u 7 = some expected)
      (other : crc16Ccitt (readMemory s.memory src len) ≠ expected) :
      Works tc u addr len src s link .check
        (-1, s.counted, ((link.accepted tc).emitted (request s 11
          (u.take 6 ++ putBe16 (crc16Ccitt (readMemory s.memory src len))))).failed tc
            failExecError)
  | dumped (memId : UInt8) (asked : u[6]? = some memId) :
      Works tc u addr len src s link .dump
        (0, s.counted, ((link.accepted tc).emitted (request s 6
          (putBe32 addr ++ [memId] ++ readMemory s.memory src len))).completed tc)

/-- The first report for the request is a TM(1,1). -/
def Accepts (link later : Link cfg) : Prop :=
  ∃ tm rest, later.tm.log = link.tm.log ++ tm :: rest ∧
    tm.request.svc = 1 ∧ tm.request.subsvc = 1

/-- Access control for one request: executed exactly when one region grants the access and
contains the whole range, then on the bytes the first such region maps it to, and refused with
a TM(1,2) that leaves everything else alone otherwise. -/
structure AccessLaw (command : Command) (tc : Tc) (u : List UInt8) (addr : UInt32) (len : UInt16)
    (s : Ctx) (link : Link cfg) : Prop where
  returns : 22 ≤ cfg.tmMaxPacketLen → ∃ out, handle command tc s link = some out
  executed : ∀ out, handle command tc s link = some out →
    (Accepts link out.2.2 ↔ ∃ r ∈ s.table, r.Serves command.need addr.toNat len.toNat)
  touched : ∀ r, s.serving command.need addr.toNat len.toNat = some r →
    r.base ≤ r.localAddr addr.toNat ∧
    r.localAddr addr.toNat + len.toNat ≤ r.base + r.size.toNat ∧
    ∀ out, handle command tc s link = some out →
      Works tc u addr len.toNat (r.localAddr addr.toNat) s link command out
  refused : (∀ r ∈ s.table, ¬ r.Serves command.need addr.toNat len.toNat) →
    handle command tc s link = some (-1, s, link.rejected tc 0x0006)
  belowTop : (∀ r ∈ s.table, r.start.toNat + r.size.toNat ≤ 2 ^ 32) →
    ∀ r, s.serving command.need addr.toNat len.toNat = some r →
      addr.toNat + len.toNat ≤ 2 ^ 32

/-! ### Each handler, once its request is parsed -/

section Parsed

variable {tc : Tc} {u : List UInt8} {addr : UInt32} {len : UInt16}

theorem requireUserData_eq {minLen : Nat} {κ : Type} {ctx : κ} {link : Link cfg}
    {body : List UInt8 → Option (Int × κ × Link cfg)} (present : tc.userData = some u)
    (long : minLen ≤ u.length) : requireUserData minLen tc ctx link body = body u := by
  unfold requireUserData
  rw [present]
  exact if_neg (Nat.not_lt_of_le long)

theorem load_eq (asks : Asks cfg .load tc u addr len) (s : Ctx) (link : Link cfg) :
    load tc s link = match s.serving accessWrite addr.toNat len.toNat with
      | none => some (-1, s, link.rejected tc failMemAccess)
      | some r =>
          let data := (u.drop loadMinLen).take len.toNat
          some (0, { s with memory := writeMemory s.memory (r.localAddr addr.toNat) data },
            (link.accepted tc).completed tc) := by
  have long : loadMinLen + len.toNat ≤ u.length := asks.lengthOk
  have size : tc.userDataLen = u.length := by
    unfold Tc.userDataLen
    rw [asks.present]
    rfl
  unfold load
  rw [requireUserData_eq asks.present (Nat.le_of_add_right_le long)]
  simp only [asks.first, asks.size, Option.bind_eq_bind, Option.bind_some]
  rw [if_neg (by omega), resolve_eq]
  cases s.serving accessWrite addr.toNat len.toNat with
  | none => exact reject_eq tc failMemAccess s link
  | some r => exact execute_eq tc (by rw [sliceBytes_eq u _ _ long]; rfl) link

theorem check_eq (asks : Asks cfg .check tc u addr len) (s : Ctx) (link : Link cfg) :
    ∃ expected, obswBe16 u 7 = some expected ∧
      check tc s link = match s.serving accessRead addr.toNat len.toNat with
        | none => some (-1, s, link.rejected tc failMemAccess)
        | some r =>
            let actual := crc16Ccitt (readMemory s.memory (r.localAddr addr.toNat) len.toNat)
            if actual = expected then
              some (0, s.counted,
                ((link.accepted tc).emitted (request s 10 (u.take 6))).completed tc)
            else
              some (-1, s.counted, ((link.accepted tc).emitted
                (request s 11 (u.take 6 ++ putBe16 actual))).failed tc failExecError) := by
  have long : checkLen ≤ u.length := asks.lengthOk
  have enough : 9 ≤ u.length := long
  obtain ⟨expected, expectedEq⟩ := obswBe16_isSome u 7 (by omega)
  refine ⟨expected, expectedEq, ?_⟩
  unfold check
  rw [requireUserData_eq asks.present long]
  simp only [asks.first, asks.size, expectedEq, Option.bind_eq_bind, Option.bind_some]
  rw [resolve_eq]
  cases s.serving accessRead addr.toNat len.toNat with
  | none => exact reject_eq tc failMemAccess s link
  | some r =>
      have range : sliceBytes u 0 6 = some (u.take 6) := sliceBytes_eq u 0 6 (by omega)
      have short : (u.take 6).length ≤ 6 := List.length_take_le 6 u
      simp only [Option.map_some, range, Option.bind_some]
      generalize crc16Ccitt (readMemory s.memory (r.localAddr addr.toNat) len.toNat) = actual
      by_cases same : actual = expected
      · rw [if_pos same, if_pos same]
        have inside : (request s 10 (u.take 6)).Inside cfg :=
          TmRequest.inside_of_small cfg (short.trans (by decide))
        exact respond_eq tc inside s.counted link
      · rw [if_neg same, if_neg same]
        have small : (u.take 6 ++ putBe16 actual).length ≤ 65518 := by
          rw [List.length_append, putBe16_length]
          omega
        exact refute_eq tc (TmRequest.inside_of_small cfg small) failExecError s.counted link

theorem dump_eq (asks : Asks cfg .dump tc u addr len) (s : Ctx) (link : Link cfg) :
    ∃ memId, u[6]? = some memId ∧
      dump tc s link = match s.serving accessRead addr.toNat len.toNat with
        | none => some (-1, s, link.rejected tc failMemAccess)
        | some r =>
            respond tc (request s 6 (putBe32 addr ++ [memId] ++
              readMemory s.memory (r.localAddr addr.toNat) len.toNat)) s.counted link := by
  obtain ⟨long, bounded⟩ : dumpLen ≤ u.length ∧ len.toNat ≤ maxDumpData cfg := asks.lengthOk
  have enough : 7 ≤ u.length := long
  obtain ⟨memId, memIdEq⟩ := getElem?_isSome u 6 (by omega)
  refine ⟨memId, memIdEq, ?_⟩
  unfold dump
  rw [requireUserData_eq asks.present long]
  simp only [asks.first, Option.bind_eq_bind, Option.bind_some]
  rw [asks.size, Option.bind_some, memIdEq, Option.bind_some, if_neg (Nat.not_lt_of_le bounded),
    resolve_eq]
  cases s.serving accessRead addr.toNat len.toNat with
  | none => exact reject_eq tc failMemAccess s link
  | some r =>
      have room : (putBe32 addr ++ [memId]).length +
          (readMemory s.memory (r.localAddr addr.toNat) len.toNat).length ≤
            5 + maxDumpData cfg := by
        rw [readMemory_length]
        exact Nat.add_le_add_left bounded 5
      simp only [Option.map_some, appendWithin_eq room, Option.bind_some]

/-- A request that a region serves is executed on the bytes the region maps it to. -/
theorem handle_served {command : Command} (asks : Asks cfg command tc u addr len) {s : Ctx}
    {link : Link cfg} {r : Region}
    (serving : s.serving command.need addr.toNat len.toNat = some r) {out : Int × Ctx × Link cfg}
    (ran : handle command tc s link = some out) :
    Works tc u addr len.toNat (r.localAddr addr.toNat) s link command out := by
  cases command with
  | load =>
      have loaded := load_eq asks s link
      rw [show s.serving accessWrite addr.toNat len.toNat = some r from serving,
        show load tc s link = some out from ran] at loaded
      cases loaded
      exact .loaded _ (writeMemory_overwrites _ _ _)
  | check =>
      obtain ⟨expected, asked, checked⟩ := check_eq asks s link
      rw [show s.serving accessRead addr.toNat len.toNat = some r from serving,
        show check tc s link = some out from ran] at checked
      simp only at checked
      split at checked
      · cases checked
        exact .matched expected asked ‹_›
      · cases checked
        exact .mismatched expected asked ‹_›
  | dump =>
      obtain ⟨memId, asked, dumped⟩ := dump_eq asks s link
      rw [show s.serving accessRead addr.toNat len.toNat = some r from serving,
        show dump tc s link = some out from ran] at dumped
      rw [respond_some dumped.symm]
      exact .dumped memId asked

theorem handle_unserved {command : Command} (asks : Asks cfg command tc u addr len) {s : Ctx}
    (unserved : s.serving command.need addr.toNat len.toNat = none) (link : Link cfg) :
    handle command tc s link = some (-1, s, link.rejected tc failMemAccess) := by
  cases command with
  | load =>
      have loaded := load_eq asks s link
      rw [show s.serving accessWrite addr.toNat len.toNat = none from unserved] at loaded
      exact loaded
  | check =>
      obtain ⟨_, _, checked⟩ := check_eq asks s link
      rw [show s.serving accessRead addr.toNat len.toNat = none from unserved] at checked
      exact checked
  | dump =>
      obtain ⟨_, _, dumped⟩ := dump_eq asks s link
      rw [show s.serving accessRead addr.toNat len.toNat = none from unserved] at dumped
      exact dumped

/-- A TC that asks for nothing well-formed is rejected. -/
theorem handle_unasked {command : Command} {tc : Tc}
    (unasked : ∀ u addr len, ¬ Asks cfg command tc u addr len) (s : Ctx) (link : Link cfg) :
    ∃ code, handle command tc s link = some (-1, s, link.rejected tc code) := by
  cases command with
  | load =>
      rcases requireUserData_cases loadMinLen tc s link _ with rejected | ⟨u, present, long, body⟩
      · exact ⟨_, rejected⟩
      have enough : 6 ≤ u.length := long
      obtain ⟨addr, first⟩ := obswBe32_isSome u 0 (by omega)
      obtain ⟨len, size⟩ := obswBe16_isSome u 4 (by omega)
      have tooLong : ¬ loadMinLen + len.toNat ≤ u.length :=
        fun fits => unasked u addr len ⟨present, fits, first, size⟩
      have given : tc.userDataLen = u.length := by
        unfold Tc.userDataLen
        rw [present]
        rfl
      refine ⟨failIllegalAppData, body.trans ?_⟩
      simp only [first, size, Option.bind_eq_bind, Option.bind_some]
      rw [if_pos (by omega)]
      exact reject_eq _ _ _ _
  | check =>
      rcases requireUserData_cases checkLen tc s link _ with rejected | ⟨u, present, long, _⟩
      · exact ⟨_, rejected⟩
      have enough : 9 ≤ u.length := long
      obtain ⟨addr, first⟩ := obswBe32_isSome u 0 (by omega)
      obtain ⟨len, size⟩ := obswBe16_isSome u 4 (by omega)
      exact absurd ⟨present, long, first, size⟩ (unasked u addr len)
  | dump =>
      rcases requireUserData_cases dumpLen tc s link _ with rejected | ⟨u, present, long, body⟩
      · exact ⟨_, rejected⟩
      have enough : 7 ≤ u.length := long
      obtain ⟨addr, first⟩ := obswBe32_isSome u 0 (by omega)
      obtain ⟨len, size⟩ := obswBe16_isSome u 4 (by omega)
      obtain ⟨memId, id⟩ := getElem?_isSome u 6 (by omega)
      have tooLong : ¬ len.toNat ≤ maxDumpData cfg :=
        fun fits => unasked u addr len ⟨present, ⟨long, fits⟩, first, size⟩
      refine ⟨failIllegalAppData, body.trans ?_⟩
      simp only [first, Option.bind_eq_bind, Option.bind_some]
      rw [size, Option.bind_some, id, Option.bind_some, if_pos (Nat.lt_of_not_le tooLong)]
      exact reject_eq _ _ _ _

end Parsed

/-! ### The law -/

theorem not_accepts_rejected (link : Link cfg) (tc : Tc) (code : UInt16) :
    ¬ Accepts link (link.rejected tc code) := by
  intro accepts
  obtain ⟨tm, rest, logged, _, acceptance⟩ := accepts
  rw [show (link.rejected tc code).tm.log = _ from reported_log _ _ _] at logged
  injection List.append_cancel_left logged with same
  rw [← same] at acceptance
  exact absurd acceptance (by decide : ¬ (2 : UInt8) = 1)

/-- Whatever follows the acceptance, the acceptance was the first report. -/
theorem accepts_of_log {link later : Link cfg} {tc : Tc} (rest : List TmBuilt)
    (logged : later.tm.log = (link.accepted tc).tm.log ++ rest) : Accepts link later := by
  refine ⟨link.nextBuilt 1 (encodeTcRef tc), rest, ?_, rfl, rfl⟩
  rw [logged, show (link.accepted tc).tm.log = _ from reported_log _ _ _, List.append_assoc]
  rfl

theorem Works.accepts {command : Command} {tc : Tc} {u : List UInt8} {addr : UInt32}
    {len src : Nat} {s : Ctx} {link : Link cfg} {out : Int × Ctx × Link cfg}
    (works : Works tc u addr len src s link command out) : Accepts link out.2.2 := by
  have answered : ∀ (request : TmRequest) (subsvc : UInt8) (data : List UInt8),
      Accepts link (((link.accepted tc).emitted request).reported subsvc data) := by
    intro request subsvc data
    have logged : (((link.accepted tc).emitted request).reported subsvc data).tm.log =
        (link.accepted tc).tm.log ++ ([⟨request, ((link.accepted tc).tm.put request).1⟩] ++
          [((link.accepted tc).emitted request).nextBuilt subsvc data]) := by
      rw [reported_log, show ((link.accepted tc).emitted request).tm.log = _ from after_log _ _,
        List.append_assoc]
    exact accepts_of_log _ logged
  cases works with
  | loaded memory written => exact accepts_of_log [_] (reported_log _ _ _)
  | matched expected asked same => exact answered _ _ _
  | mismatched expected asked other => exact answered _ _ _
  | dumped memId asked => exact answered _ _ _

/-- Every request of well-formed length is handled as access control demands, whatever the
region table, the memory and the state of the reports. -/
theorem handle_access (command : Command) (tc : Tc) (u : List UInt8) (addr : UInt32)
    (len : UInt16) (asks : Asks cfg command tc u addr len) (s : Ctx) (link : Link cfg) :
    AccessLaw command tc u addr len s link where
  returns := fun headers => handle_isSome (fun _ => headers) tc s link
  executed := by
    intro out ran
    cases serving : s.serving command.need addr.toNat len.toNat with
    | none =>
        rw [handle_unserved asks serving link] at ran
        cases ran
        constructor
        · intro accepted
          exact absurd accepted (not_accepts_rejected _ _ _)
        · intro served
          obtain ⟨r, member, serves⟩ := served
          exact absurd serves (Ctx.serving_none_iff.mp serving r member)
    | some r =>
        obtain ⟨member, serves⟩ := Ctx.serving_some serving
        exact ⟨fun _ => ⟨r, member, serves⟩, fun _ => (handle_served asks serving ran).accepts⟩
  touched := by
    intro r serving
    have inside := (Ctx.serving_some serving).2.inside
    exact ⟨inside.1, inside.2, fun out ran => handle_served asks serving ran⟩
  refused := fun unserved => handle_unserved asks (Ctx.serving_none_iff.mpr unserved) link
  belowTop := by
    intro bounded r serving
    obtain ⟨member, _, _, below⟩ := Ctx.serving_some serving
    exact below.trans (bounded r member)

/-- A load of two bytes at the end of a region of four. -/
def smallLoad : Tc where
  apid := 1
  service := 6
  subservice := 2
  seqCount := 0
  userData := some [0, 0, 0, 2, 0, 2, 0xAA, 0xBB]

/-- A context with one writable region of four bytes. -/
def smallCtx : Ctx where
  apid := 1
  msgCounter := 0
  timestamp := 0
  regions := some [⟨0, 4, 0x100, accessWrite⟩]
  memory _ := 0

/-- An S1 context on an empty store. -/
def smallLink : Link Config.default where
  ctx := ⟨1, 0, 0⟩
  tm := ⟨Tm.Store.init Config.default, []⟩

theorem smallLoad_access :
    AccessLaw .load smallLoad [0, 0, 0, 2, 0, 2, 0xAA, 0xBB] 2 2 smallCtx smallLink :=
  handle_access .load smallLoad [0, 0, 0, 2, 0, 2, 0xAA, 0xBB] 2 2
    ⟨rfl, Nat.le_refl 8, by decide, by decide⟩ smallCtx smallLink

end Openobsw.Pus.S6
