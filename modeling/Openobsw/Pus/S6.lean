import Openobsw.Ccsds.Crc16
import Openobsw.Lib.Tables
import Openobsw.Pus.Handler

/-!
Owns memory management (`s6.c`): region lookup, load, check and dump. Local
memory is a function of the address; a region maps ground addresses onto it.
-/

namespace Openobsw.Pus.S6

open Openobsw.Ccsds Openobsw.Lib.Tables Openobsw.Util Openobsw.Pus.S1 Openobsw.Pus.Handler

/-- `obsw_s6_region_t`; `base` is the local address that `start` maps to. -/
structure Region where
  start : UInt32
  size : UInt32
  base : Nat
  access : UInt8
deriving DecidableEq, Repr

/-- `obsw_s6_ctx_t` with the memory it gives access to. `regions` is the table
`regions[0..region_count)`, absent when the pointer is null. -/
structure Ctx where
  apid : UInt16
  msgCounter : UInt16
  timestamp : UInt32
  regions : Option (List Region)
  memory : Nat → UInt8

def loadMinLen : Nat := 6

def checkLen : Nat := 9

def dumpLen : Nat := 7

def accessRead : UInt8 := 0x01

def accessWrite : UInt8 := 0x02

/-- `S6_MAX_DUMP_DATA`: the packet limit without its headers, as a `uint16_t`. -/
def maxDumpData (cfg : Config) : Nat := (cfg.tmMaxPacketLen + 65536 - 22) % 65536

/-- The body of the lookup loop: the local address, if this region serves the range. -/
def Region.resolve (r : Region) (addr : UInt32) (len : UInt16) (access : UInt8) : Option Nat :=
  if r.access &&& access ≠ access ∨ addr < r.start then none
  else
    let off := addr - r.start
    if off > r.size ∨ len.toUInt32 > r.size - off then none
    else some (r.base + off.toNat)

/-- `s6_resolve` -/
def resolve (s : Ctx) (addr : UInt32) (len : UInt16) (access : UInt8) : Option Nat :=
  match s.regions with
  | none => none
  | some regions => regions.findSome? (fun r => r.resolve addr len access)

/-- The `len` bytes of memory from a local address on. -/
def readMemory (memory : Nat → UInt8) (src len : Nat) : List UInt8 :=
  (List.range len).map (fun k => memory (src + k))

/-- `memcpy(dst, data, |data|)` into memory. -/
def writeMemory (memory : Nat → UInt8) (dst : Nat) (data : List UInt8) : Nat → UInt8 :=
  fun address =>
    if dst ≤ address then (data[address - dst]?).getD (memory address) else memory address

variable {cfg : Config}

/-- The build request of a TM(6,`subsvc`) report. -/
def request (s : Ctx) (subsvc : UInt8) (data : List UInt8) : TmRequest where
  apid := s.apid
  seqCount := s.msgCounter
  svc := 6
  subsvc := subsvc
  msgCounter := s.msgCounter
  destId := 0
  timestamp := s.timestamp
  data := data

/-- `s->msg_counter++` -/
def Ctx.counted (s : Ctx) : Ctx := { s with msgCounter := s.msgCounter + 1 }

/-- `obsw_s6_load` -/
def load (tc : Tc) (s : Ctx) (link : Link cfg) : Option (Int × Ctx × Link cfg) :=
  requireUserData loadMinLen tc s link fun u => do
    let addr ← obswBe32 u 0
    let dataLen ← obswBe16 u 4
    if loadMinLen + dataLen.toNat > tc.userDataLen then reject tc failIllegalAppData s link
    else
      match resolve s addr dataLen accessWrite with
      | none => reject tc failMemAccess s link
      | some dst =>
          execute tc (fun s => do
            let data ← sliceBytes u loadMinLen dataLen.toNat
            return { s with memory := writeMemory s.memory dst data }) s link

/-- `obsw_s6_check`. Both branches report through S6 and then complete, the
mismatch with a completion failure. -/
def check (tc : Tc) (s : Ctx) (link : Link cfg) : Option (Int × Ctx × Link cfg) :=
  requireUserData checkLen tc s link fun u => do
    let addr ← obswBe32 u 0
    let length ← obswBe16 u 4
    let expected ← obswBe16 u 7
    match resolve s addr length accessRead with
    | none => reject tc failMemAccess s link
    | some src => do
        let actual := crc16Ccitt (readMemory s.memory src length.toNat)
        let range ← sliceBytes u 0 6
        if actual = expected then respond tc (request s 10 range) s.counted link
        else do
          let (_, link) ← acceptSuccess tc link
          let (_, link) ← emit (request s 11 (range ++ putBe16 actual)) link
          let (_, link) ← completionFailure tc failExecError link
          return (-1, s.counted, link)

/-- `obsw_s6_dump`; its buffer holds the address, the memory ID and the largest dump. -/
def dump (tc : Tc) (s : Ctx) (link : Link cfg) : Option (Int × Ctx × Link cfg) :=
  requireUserData dumpLen tc s link fun u => do
    let addr ← obswBe32 u 0
    let length ← obswBe16 u 4
    let memId ← u[6]?
    if length.toNat > maxDumpData cfg then reject tc failIllegalAppData s link
    else
      match resolve s addr length accessRead with
      | none => reject tc failMemAccess s link
      | some src => do
          let data ← appendWithin (5 + maxDumpData cfg) (putBe32 addr ++ [memId])
            (readMemory s.memory src length.toNat)
          respond tc (request s 6 data) s.counted link

@[simp] theorem readMemory_length (memory : Nat → UInt8) (src len : Nat) :
    (readMemory memory src len).length = len := by
  simp [readMemory]

/-! ### What the handlers do -/

/-- The three handlers of the service. -/
inductive Command where
  | load
  | check
  | dump
deriving DecidableEq, Repr

def handle : Command → Tc → Ctx → Link cfg → Option (Int × Ctx × Link cfg)
  | .load => load
  | .check => check
  | .dump => dump

theorem load_updates (tc : Tc) (s : Ctx) (link : Link cfg) :
    Updates tc s link (fun after => ∃ memory, after = { s with memory := memory })
      (load tc s link) := by
  apply requireUserData_updates
  intro u present long
  have enough : 6 ≤ u.length := long
  obtain ⟨addr, addrEq⟩ := obswBe32_isSome u 0 (by omega)
  obtain ⟨dataLen, dataLenEq⟩ := obswBe16_isSome u 4 (by omega)
  have size : tc.userDataLen = u.length := by simp [Tc.userDataLen, present]
  simp only [addrEq, dataLenEq, Option.bind_eq_bind, Option.bind_some]
  split
  · exact reject_updates handlerCode_illegalAppData _ _ _ _
  · rename_i fits
    cases resolve s addr dataLen accessWrite with
    | none => exact reject_updates handlerCode_memAccess _ _ _ _
    | some dst =>
        have slice := sliceBytes_eq u loadMinLen dataLen.toNat (by omega)
        simp only [slice, Option.bind_some]
        exact execute_updates tc link rfl ⟨_, rfl⟩

/-- The range that a check names may be read. -/
def checkable (tc : Tc) (s : Ctx) : Bool :=
  match tc.userData with
  | none => false
  | some u =>
      if u.length < checkLen then false
      else
        (do
          let addr ← obswBe32 u 0
          let length ← obswBe16 u 4
          resolve s addr length accessRead).isSome

/-- A check is rejected, or answers with one TM of service 6 between its acceptance
and its completion, which fails exactly when the handler returns -1. -/
theorem check_cases (tc : Tc) (s : Ctx) (link : Link cfg) :
    (checkable tc s = false ∧
        ∃ code, HandlerCode code ∧ check tc s link = some (-1, s, link.rejected tc code)) ∨
      checkable tc s = true ∧ ∃ subsvc data, data.length ≤ 8 ∧
        (check tc s link = some (0, s.counted,
            ((link.accepted tc).emitted (request s subsvc data)).completed tc) ∨
          check tc s link = some (-1, s.counted,
            ((link.accepted tc).emitted (request s subsvc data)).failed tc failExecError)) := by
  unfold checkable check requireUserData
  cases tc.userData with
  | none => exact .inl ⟨rfl, _, handlerCode_illegalAppData, reject_eq _ _ _ _⟩
  | some u =>
      by_cases short : u.length < checkLen
      · simp only [if_pos short]
        exact .inl ⟨trivial, _, handlerCode_illegalAppData, reject_eq _ _ _ _⟩
      · have enough : 9 ≤ u.length := Nat.le_of_not_lt short
        obtain ⟨addr, addrEq⟩ := obswBe32_isSome u 0 (by omega)
        obtain ⟨length, lengthEq⟩ := obswBe16_isSome u 4 (by omega)
        obtain ⟨expected, expectedEq⟩ := obswBe16_isSome u 7 (by omega)
        simp only [if_neg short, addrEq, lengthEq, expectedEq, Option.bind_eq_bind,
          Option.bind_some]
        cases resolve s addr length accessRead with
        | none => exact .inl ⟨rfl, _, handlerCode_memAccess, reject_eq _ _ _ _⟩
        | some src =>
            refine .inr ⟨rfl, ?_⟩
            have range := sliceBytes_eq u 0 6 (by omega)
            have narrow : ((u.drop 0).take 6).length ≤ 6 := List.length_take_le 6 _
            simp only [range, Option.bind_some]
            by_cases same : crc16Ccitt (readMemory s.memory src length.toNat) = expected
            · rw [if_pos same]
              have inside : (request s 10 ((u.drop 0).take 6)).Inside cfg :=
                TmRequest.inside_of_small cfg (narrow.trans (by decide))
              exact ⟨10, _, by omega, .inl (respond_eq tc inside _ link)⟩
            · rw [if_neg same]
              let data := ((u.drop 0).take 6) ++
                putBe16 (crc16Ccitt (readMemory s.memory src length.toNat))
              have small : data.length ≤ 8 := by
                show (((u.drop 0).take 6) ++ putBe16 _).length ≤ 8
                rw [List.length_append, putBe16_length]
                omega
              have inside : (request s 11 data).Inside cfg :=
                TmRequest.inside_of_small cfg (small.trans (by decide))
              exact ⟨11, data, small, .inr (refute_eq tc inside failExecError s.counted link)⟩

/-- The largest dump fits one packet once the limit covers the dump headers. -/
theorem maxDumpData_le {cfg : Config} (headers : 22 ≤ cfg.tmMaxPacketLen) :
    22 + maxDumpData cfg ≤ cfg.tmMaxPacketLen := by
  unfold maxDumpData
  omega

theorem dump_cases (headers : 22 ≤ cfg.tmMaxPacketLen) (tc : Tc) (s : Ctx) (link : Link cfg) :
    (∃ code, HandlerCode code ∧ dump tc s link = some (-1, s, link.rejected tc code)) ∨
      ∃ data, 17 + data.length ≤ cfg.tmMaxPacketLen ∧
        dump tc s link = some (0, s.counted,
          ((link.accepted tc).emitted (request s 6 data)).completed tc) := by
  rcases requireUserData_cases dumpLen tc s link _ with rejected | ⟨u, _, long, body⟩
  · exact .inl ⟨_, handlerCode_illegalAppData, rejected⟩
  · have limit := maxDumpData_le headers
    unfold dump
    rw [body]
    -- from here on only the bound on the largest dump matters, not its 32-bit arithmetic
    generalize maxDumpData cfg = most at limit ⊢
    have enough : 7 ≤ u.length := long
    obtain ⟨addr, addrEq⟩ := obswBe32_isSome u 0 (by omega)
    obtain ⟨length, lengthEq⟩ := obswBe16_isSome u 4 (by omega)
    obtain ⟨memId, memIdEq⟩ := getElem?_isSome u 6 (by omega)
    simp only [addrEq, Option.bind_eq_bind, Option.bind_some]
    rw [lengthEq, Option.bind_some, memIdEq, Option.bind_some]
    split
    · exact .inl ⟨_, handlerCode_illegalAppData, reject_eq _ _ _ _⟩
    · rename_i bounded
      cases resolve s addr length accessRead with
      | none => exact .inl ⟨_, handlerCode_memAccess, reject_eq _ _ _ _⟩
      | some src =>
          have small : 17 + (putBe32 addr ++ [memId] ++
              readMemory s.memory src length.toNat).length ≤ cfg.tmMaxPacketLen := by
            simp
            omega
          have inside : (request s 6 (putBe32 addr ++ [memId] ++
              readMemory s.memory src length.toNat)).Inside cfg := TmRequest.inside_of_fits small
          have fits : (putBe32 addr ++ [memId]).length +
              (readMemory s.memory src length.toNat).length ≤ 5 + most := by
            simp
            omega
          simp only [appendWithin_eq fits, Option.bind_some]
          exact .inr ⟨_, small, respond_eq tc inside _ link⟩

/-- Every handler of the service returns. -/
theorem handle_isSome {command : Command} (headers : command = .dump → 22 ≤ cfg.tmMaxPacketLen)
    (tc : Tc) (s : Ctx) (link : Link cfg) : ∃ out, handle command tc s link = some out := by
  cases command with
  | load => exact (load_updates tc s link).isSome
  | check =>
      rcases check_cases tc s link with
        ⟨_, _, _, rejected⟩ | ⟨_, _, _, _, completed | failed⟩
      · exact ⟨_, rejected⟩
      · exact ⟨_, completed⟩
      · exact ⟨_, failed⟩
  | dump =>
      rcases dump_cases (headers rfl) tc s link with ⟨_, _, rejected⟩ | ⟨_, _, completed⟩
      · exact ⟨_, rejected⟩
      · exact ⟨_, completed⟩

theorem check_disciplined (tc : Tc) (s : Ctx) (link : Link cfg) :
    Disciplined tc s link (check tc s link) := by
  intro out ran
  rcases check_cases tc s link with
    ⟨_, code, known, rejected⟩ | ⟨_, subsvc, data, _, completed | failed⟩
  · rw [rejected] at ran
    cases ran
    exact .rejected code known
  · rw [completed] at ran
    cases ran
    exact .completed _ _ (Silent.emitted _ (by simp [request]))
  · rw [failed] at ran
    cases ran
    exact .failed _ _ (Silent.emitted _ (by simp [request]))

theorem dump_disciplined (tc : Tc) (s : Ctx) (link : Link cfg) :
    Disciplined tc s link (dump tc s link) := by
  apply requireUserData_disciplined
  intro u
  apply bind_disciplined
  intro addr _
  apply bind_disciplined
  intro length _
  apply bind_disciplined
  intro memId _
  apply ite_disciplined
  · exact reject_disciplined handlerCode_illegalAppData _ _ _
  · cases resolve s addr length accessRead with
    | none => exact reject_disciplined handlerCode_memAccess _ _ _
    | some src =>
        apply bind_disciplined
        intro data _
        exact respond_disciplined (by simp [request]) _ _ _ _

theorem handle_disciplined (command : Command) (tc : Tc) (s : Ctx) (link : Link cfg) :
    Disciplined tc s link (handle command tc s link) := by
  cases command with
  | load => exact (load_updates tc s link).disciplined
  | check => exact check_disciplined tc s link
  | dump => exact dump_disciplined tc s link

end Openobsw.Pus.S6
