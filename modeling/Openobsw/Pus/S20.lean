import Openobsw.Lib.Tables
import Openobsw.Pus.Handler

/-!
Owns on-board parameter management (`s20.c`): the parameter table with its set
and get commands. The table is also what S3 and S12 look parameters up in.
-/

namespace Openobsw.Pus.S20

open Openobsw.Lib.Tables Openobsw.Util Openobsw.Pus.S1 Openobsw.Pus.Handler

/-- `obsw_s20_type_t` -/
inductive ParamType where
  | u32
  | i32
  | f32
deriving DecidableEq, Repr

/-- `obsw_s20_param_t`; `value` is the union seen as raw bits. -/
structure Param where
  paramId : UInt16
  value : UInt32
  type : ParamType
deriving DecidableEq, Repr

/-- `obsw_s20_ctx_t` -/
structure Ctx where
  apid : UInt16
  msgCounter : UInt16
  timestamp : UInt32
  table : List Param
deriving DecidableEq, Repr

/-- `obsw_s20_find`, and the static `find_param` of `s20.c` and `s3.c`: the
position of the first entry with the ID. -/
def find (table : List Param) (paramId : UInt16) : Option Nat :=
  findKey Param.paramId table paramId

/-- `p->value = val` -/
def setValue (index : Nat) (value : UInt32) (table : List Param) : List Param :=
  table.modify index (fun param => { param with value := value })

variable {cfg : Config}

/-- The build request of a TM(20,2) report (`emit_tm20_2`). -/
def valueRequest (s : Ctx) (paramId : UInt16) (value : UInt32) : TmRequest where
  apid := s.apid
  seqCount := s.msgCounter
  svc := 20
  subsvc := 2
  msgCounter := s.msgCounter
  destId := 0
  timestamp := s.timestamp
  data := putBe16 paramId ++ putBe32 value

/-- `obsw_s20_set` -/
def set (tc : Tc) (s : Ctx) (link : Link cfg) : Option (Int × Ctx × Link cfg) :=
  requireUserData 6 tc s link fun u => do
    let paramId ← obswBe16 u 0
    let value ← obswBe32 u 2
    match find s.table paramId with
    | none => reject tc failExecError s link
    | some index =>
        execute tc (fun s => some { s with table := setValue index value s.table }) s link

/-- `obsw_s20_get` -/
def get (tc : Tc) (s : Ctx) (link : Link cfg) : Option (Int × Ctx × Link cfg) :=
  requireUserData 2 tc s link fun u => do
    let paramId ← obswBe16 u 0
    match find s.table paramId with
    | none => reject tc failExecError s link
    | some index => do
        let param ← s.table[index]?
        respond tc (valueRequest s paramId param.value) { s with msgCounter := s.msgCounter + 1 } link

/-! ### The table -/

/-- Setting a value keeps every entry's ID and type. -/
theorem setValue_ids (index : Nat) (value : UInt32) (table : List Param) :
    (setValue index value table).map (fun param => (param.paramId, param.type)) =
      table.map (fun param => (param.paramId, param.type)) := by
  apply List.ext_getElem?
  intro position
  simp only [setValue, List.getElem?_map, List.getElem?_modify]
  by_cases same : index = position
  · subst same
    cases table[index]? <;> simp
  · simp [same]

/-! ### What the handlers do -/

/-- The two handlers of the service. -/
inductive Command where
  | set
  | get
deriving DecidableEq, Repr

def handle : Command → Tc → Ctx → Link cfg → Option (Int × Ctx × Link cfg)
  | .set => set
  | .get => get

/-- What an accepted TC(20,1) does to the table. -/
def SetDone (s after : Ctx) : Prop :=
  ∃ index value, after = { s with table := setValue index value s.table }

theorem set_updates (tc : Tc) (s : Ctx) (link : Link cfg) :
    Updates tc s link (SetDone s) (set tc s link) := by
  apply requireUserData_updates
  intro u _ long
  obtain ⟨paramId, paramIdEq⟩ := obswBe16_isSome u 0 (by omega)
  obtain ⟨value, valueEq⟩ := obswBe32_isSome u 2 (by omega)
  simp only [paramIdEq, valueEq, Option.bind_eq_bind, Option.bind_some]
  cases find s.table paramId with
  | none => exact reject_updates handlerCode_execError _ _ _ _
  | some index => exact execute_updates tc link rfl ⟨index, value, rfl⟩

theorem get_cases (tc : Tc) (s : Ctx) (link : Link cfg) :
    (∃ code, HandlerCode code ∧ get tc s link = some (-1, s, link.rejected tc code)) ∨
      ∃ paramId value, get tc s link =
        some (0, { s with msgCounter := s.msgCounter + 1 },
          ((link.accepted tc).emitted (valueRequest s paramId value)).completed tc) := by
  rcases requireUserData_cases 2 tc s link _ with rejected | ⟨u, _, long, body⟩
  · exact .inl ⟨_, handlerCode_illegalAppData, rejected⟩
  · unfold get
    rw [body]
    obtain ⟨paramId, paramIdEq⟩ := obswBe16_isSome u 0 (by omega)
    simp only [paramIdEq, Option.bind_eq_bind, Option.bind_some]
    cases found : find s.table paramId with
    | none => exact .inl ⟨_, handlerCode_execError, reject_eq _ _ _ _⟩
    | some index =>
        right
        obtain ⟨param, paramEq, _⟩ := findKey_some found
        refine ⟨paramId, param.value, ?_⟩
        simp only [paramEq, Option.bind_some]
        exact respond_eq tc (TmRequest.inside_of_small cfg (by simp [valueRequest])) _ link

/-- Every handler of the service returns. -/
theorem handle_isSome (command : Command) (tc : Tc) (s : Ctx) (link : Link cfg) :
    ∃ out, handle command tc s link = some out := by
  cases command with
  | set => exact (set_updates tc s link).isSome
  | get =>
      rcases get_cases tc s link with ⟨_, _, rejected⟩ | ⟨_, _, completed⟩
      · exact ⟨_, rejected⟩
      · exact ⟨_, completed⟩

theorem handle_disciplined (command : Command) (tc : Tc) (s : Ctx) (link : Link cfg) :
    Disciplined tc s link (handle command tc s link) := by
  cases command with
  | set => exact (set_updates tc s link).disciplined
  | get =>
      intro out ran
      rcases get_cases tc s link with ⟨code, known, rejected⟩ | ⟨paramId, value, completed⟩
      · exact reject_outcome known (by rw [reject_eq, ← rejected]; exact ran)
      · rw [show handle .get tc s link = _ from completed] at ran
        cases ran
        exact .completed _ _ (Silent.emitted _ (by simp [valueRequest]))

/-- The table keeps its IDs under every command. -/
theorem handle_ids {command : Command} {tc : Tc} {s : Ctx} {link : Link cfg}
    {out : Int × Ctx × Link cfg} (ran : handle command tc s link = some out) :
    out.2.1.table.map Param.paramId = s.table.map Param.paramId := by
  cases command with
  | set =>
      have updates := set_updates tc s link
      rw [show set tc s link = some out from ran] at updates
      cases updates with
      | rejected code known => rfl
      | executed after updated =>
          obtain ⟨index, value, rfl⟩ := updated
          have pairs := congrArg (List.map Prod.fst) (setValue_ids index value s.table)
          rw [List.map_map, List.map_map] at pairs
          exact pairs
  | get =>
      rcases get_cases tc s link with ⟨code, known, rejected⟩ | ⟨paramId, value, completed⟩
      · rw [show handle .get tc s link = _ from rejected] at ran
        cases ran
        rfl
      · rw [show handle .get tc s link = _ from completed] at ran
        cases ran
        rfl

end Openobsw.Pus.S20
