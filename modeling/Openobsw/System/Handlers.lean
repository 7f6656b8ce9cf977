import Openobsw.Pus.S8
import Openobsw.Pus.S9
import Openobsw.System.Board

/-!
Owns the handlers on the whole board, the calls the application makes into the
library, and which parts of the board each of them can change.
-/

namespace Openobsw.System

open Openobsw.Fdir Openobsw.Lib Openobsw.Pus Openobsw.Pus.S1 Openobsw.Pus.Handler Openobsw.Time

variable {cfg : Config}

/-! ### Calls of the application -/

/-- What application code outside the services does: command the mode machine,
report an event, write a parameter, a variable, a memory byte or the time. -/
inductive AppCall where
  | toStandby
  | toSafe
  | toNominal
  | report (call : S5.Call)
  | setParam (index : Nat) (value : UInt32)
  | setVariable (name : Nat) (value : UInt32)
  | poke (address : Nat) (value : UInt8)
  | setTime (obt : Obt)

/-- `obsw_s5_report` on the board's S5 context. -/
def Board.report (board : Board cfg) (call : S5.Call) (link : Link cfg) :
    Option (TmRc × Board cfg × Link cfg) := do
  let (rc, env) ← S5.report board.hook call.severity call.eventId call.aux (board.env link)
  return (rc, board.withEnv env, { link with tm := env.tm })

def AppCall.run : AppCall → Board cfg → Link cfg → Option (Board cfg × Link cfg)
  | .toStandby, board, link => some ({ board with fsm := board.fsm.toStandby }, link)
  | .toSafe, board, link => some ({ board with fsm := board.fsm.toSafe }, link)
  | .toNominal, board, link => some ({ board with fsm := board.fsm.toNominal }, link)
  | .report call, board, link => do
      let (_, board, link) ← board.report call link
      return (board, link)
  | .setParam index value, board, link =>
      let table := S20.setValue index value board.s20.table
      some ({ board with s20 := { board.s20 with table := table } }, link)
  | .setVariable name value, board, link =>
      let appVars := fun other => if other = name then value else board.appVars other
      some ({ board with appVars := appVars }, link)
  | .poke address value, board, link =>
      let memory := S6.writeMemory board.s6.memory address [value]
      some ({ board with s6 := { board.s6 with memory := memory } }, link)
  | .setTime obt, board, link => some ({ board with obt := obt }, link)

def runCalls : List AppCall → Board cfg → Link cfg → Option (Board cfg × Link cfg)
  | [], board, link => some (board, link)
  | call :: rest, board, link => do
      let (board, link) ← call.run board link
      runCalls rest board link

/-- The parts of the board that application code reaches. -/
def appPart : Part → Prop
  | .event | .values | .memory | .clock | .appVars | .mode => True
  | .sets | .schedule | .release | .monitoring | .check | .eventAction | .test => False

theorem Board.report_eq (board : Board cfg) (call : S5.Call) (link : Link cfg) :
    ∃ rc, board.report call link = some (rc, board.reported rc call,
      link.emitted (S5.request board.s5 call.severity call.eventId call.aux)) := by
  refine ⟨S5.reportRc call.severity call.eventId call.aux (board.env link), ?_⟩
  unfold Board.report
  rw [S5.report_eq]
  unfold Board.withEnv Board.reported S5.reported Board.hook
  cases board.eventAction <;> rfl

theorem setParam_ids (index : Nat) (value : UInt32) (table : List S20.Param) :
    (S20.setValue index value table).map (fun param => param.paramId) =
      table.map (fun param => param.paramId) := by
  have pairs := congrArg (List.map Prod.fst) (S20.setValue_ids index value table)
  rw [List.map_map, List.map_map] at pairs
  exact pairs

/-- A call of the application returns, reaches only its own parts and issues no S1
report. -/
theorem AppCall.run_changes (call : AppCall) (board : Board cfg) (link : Link cfg) :
    ∃ after later, call.run board link = some (after, later) ∧ Changes appPart board after ∧
      Silent link later := by
  cases call with
  | toStandby =>
      exact ⟨_, link, rfl, .single (.mode _ (Fsm.toStandby_config _)) trivial, .refl _⟩
  | toSafe =>
      exact ⟨_, link, rfl, .single (.mode _ (Fsm.toSafe_config _)) trivial, .refl _⟩
  | toNominal =>
      exact ⟨_, link, rfl, .single (.mode _ (Fsm.toNominal_config _)) trivial, .refl _⟩
  | report call =>
      obtain ⟨rc, reported⟩ := board.report_eq call link
      have ran : (AppCall.report call).run board link = some (board.reported rc call,
          link.emitted (S5.request board.s5 call.severity call.eventId call.aux)) := by
        show (board.report call link).bind _ = _
        rw [reported]
        rfl
      exact ⟨_, _, ran, .single (.event rc call) trivial,
        Silent.emitted link (by simp [S5.request])⟩
  | setParam index value =>
      exact ⟨_, link, rfl, .single (.values _ (setParam_ids _ _ _)) trivial, .refl _⟩
  | setVariable name value =>
      exact ⟨_, link, rfl, .single (.appVars _) trivial, .refl _⟩
  | poke address value =>
      exact ⟨_, link, rfl, .single (.memory _) trivial, .refl _⟩
  | setTime obt => exact ⟨_, link, rfl, .single (.clock _) trivial, .refl _⟩

theorem runCalls_changes (calls : List AppCall) (board : Board cfg) (link : Link cfg) :
    ∃ after later, runCalls calls board link = some (after, later) ∧
      Changes appPart board after ∧ Silent link later := by
  induction calls generalizing board link with
  | nil => exact ⟨board, link, rfl, .refl _, .refl _⟩
  | cons call rest inductionHypothesis =>
      obtain ⟨middle, between, ran, first, silent⟩ := call.run_changes board link
      obtain ⟨after, later, finished, second, stillSilent⟩ := inductionHypothesis middle between
      refine ⟨after, later, ?_, first.trans second, silent.trans stillSilent⟩
      unfold runCalls
      rw [ran]
      exact finished

/-! ### Handlers -/

/-- A function of the S8 table: from its arguments and what it sees it computes its
return code and the calls it makes. -/
structure Function (cfg : Config) where
  functionId : UInt16
  body : List UInt8 → Board cfg → Link cfg → Int × List AppCall

def Function.entry (function : Function cfg) : S8.Entry cfg (Board cfg) where
  functionId := function.functionId
  fn args board link := do
    let (rc, calls) := function.body args board link
    let (board, link) ← runCalls calls board link
    return (rc, board, link)

theorem Function.behaves (function : Function cfg) : function.entry.Behaves (Changes appPart) := by
  intro args board link
  obtain ⟨after, later, ran, changes, silent⟩ :=
    runCalls_changes (function.body args board link).2 board link
  refine ⟨(function.body args board link).1, after, later, ?_, changes, silent⟩
  unfold Function.entry
  simp only [ran, Option.bind_eq_bind, Option.bind_some]
  rfl

/-- The TC handlers of the services. -/
inductive Handler where
  | s3 (command : S3.Command)
  | s6 (command : S6.Command)
  | s8
  | s9
  | s11 (command : S11.Command)
  | s12 (command : S12.Command)
  | s17
  | s19 (command : S19.Command)
  | s20 (command : S20.Command)
deriving DecidableEq, Repr

def Handler.s11? : Handler → Option S11.Command
  | .s11 command => some command
  | _ => none

def Handler.s12? : Handler → Option S12.Command
  | .s12 command => some command
  | _ => none

def Handler.s19? : Handler → Option S19.Command
  | .s19 command => some command
  | _ => none

/-- A handler on the context it is registered with. -/
def Handler.handle (functions : List (Function cfg)) (handler : Handler) (tc : Tc)
    (board : Board cfg) (link : Link cfg) : Option (Int × Board cfg × Link cfg) :=
  match handler with
  | .s3 command => within Board.sets (S3.handle board.s20.table command) tc board link
  | .s6 command => within Board.memory (S6.handle command) tc board link
  | .s8 => S8.perform (functions.map Function.entry) tc board link
  | .s9 => within Board.clock S9.setObt tc board link
  | .s11 command => within Board.schedule (S11.handle command) tc board link
  | .s12 command => within Board.monitoring (S12.handle board.s20.table command) tc board link
  | .s17 => within Board.test S17.ping tc board link
  | .s19 command => within Board.events (S19.handle command) tc board link
  | .s20 command => within Board.parameters (S20.handle command) tc board link

/-- The parts of the board a handler may change. -/
def Handler.mayChange : Handler → Part → Prop
  | .s3 _, part => part = .sets
  | .s6 _, part => part = .memory
  | .s8, part => appPart part
  | .s9, part => part = .clock
  | .s11 _, part => part = .schedule
  | .s12 _, part => part = .monitoring
  | .s17, part => part = .test
  | .s19 _, part => part = .eventAction
  | .s20 _, part => part = .values

theorem Handler.not_release (handler : Handler) : ¬ handler.mayChange .release := by
  cases handler <;> simp [Handler.mayChange, appPart]

theorem Handler.not_check (handler : Handler) : ¬ handler.mayChange .check := by
  cases handler <;> simp [Handler.mayChange, appPart]

theorem Handler.s11_of_schedule {handler : Handler} (changes : handler.mayChange .schedule) :
    ∃ command, handler = .s11 command := by
  cases handler with
  | s11 command => exact ⟨command, rfl⟩
  | _ => cases changes

theorem Handler.s19_of_eventAction {handler : Handler} (changes : handler.mayChange .eventAction) :
    ∃ command, handler = .s19 command := by
  cases handler with
  | s19 command => exact ⟨command, rfl⟩
  | _ => cases changes

theorem behaves_entries (functions : List (Function cfg)) :
    ∀ entry ∈ functions.map Function.entry, entry.Behaves (Changes appPart) := by
  intro entry member
  obtain ⟨function, _, rfl⟩ := List.mem_map.mp member
  exact function.behaves

/-- Whatever the state, a handler that returns has kept to the report discipline. -/
theorem Handler.handle_disciplined (functions : List (Function cfg)) (handler : Handler) (tc : Tc)
    (board : Board cfg) (link : Link cfg) :
    Disciplined tc board link (handler.handle functions tc board link) := by
  cases handler with
  | s3 command => exact within_disciplined (S3.handle_disciplined _ command tc _ link)
  | s6 command => exact within_disciplined (S6.handle_disciplined command tc _ link)
  | s8 => exact S8.perform_disciplined (behaves_entries functions) tc board link
  | s9 => exact within_disciplined (S9.setObt_updates tc _ link).disciplined
  | s11 command => exact within_disciplined (S11.handle_updates command tc _ link).disciplined
  | s12 command => exact within_disciplined (S12.handle_updates _ command tc _ link).disciplined
  | s17 =>
      apply within_disciplined
      exact respond_disciplined (by simp [S17.pongRequest]) tc _ _ link
  | s19 command => exact within_disciplined (S19.handle_updates command tc _ link).disciplined
  | s20 command => exact within_disciplined (S20.handle_disciplined command tc _ link)

/-- The handler returns, and has changed only the parts it may change. -/
def Returns (handler : Handler) (board : Board cfg)
    (result : Option (Int × Board cfg × Link cfg)) : Prop :=
  ∃ rc after later, result = some (rc, after, later) ∧ Changes handler.mayChange board after

theorem returns_of_updates {handler : Handler} {tc : Tc} {board : Board cfg} {link : Link cfg}
    {Updated : Board cfg → Prop} {result : Option (Int × Board cfg × Link cfg)}
    (ran : Updates tc board link Updated result)
    (changes : ∀ after, Updated after → Changes handler.mayChange board after) :
    Returns handler board result := by
  cases ran with
  | rejected code known => exact ⟨_, _, _, rfl, .refl board⟩
  | executed after updated => exact ⟨_, _, _, rfl, changes after updated⟩

theorem returns_within {κ : Type} {handler : Handler} {part : Component (Board cfg) κ}
    {run : Tc → κ → Link cfg → Option (Int × κ × Link cfg)} {tc : Tc} {board : Board cfg}
    {link : Link cfg} {out : Int × κ × Link cfg} (ran : run tc (part.get board) link = some out)
    (changes : Changes handler.mayChange board (part.set out.2.1 board)) :
    Returns handler board (within part run tc board link) :=
  ⟨_, _, _, within_eq _ ran, changes⟩

/-- On a sound board every handler returns. -/
theorem Handler.handle_returns {board : Board cfg} (sound : Sound board)
    (functions : List (Function cfg)) (handler : Handler)
    (headers : handler = .s6 .dump → 22 ≤ cfg.tmMaxPacketLen) (tc : Tc) (link : Link cfg) :
    Returns handler board (handler.handle functions tc board link) := by
  cases handler with
  | s3 command =>
      -- the handler is run on every list of structures that the table represents
      obtain ⟨structures, represents⟩ := sound.sets
      obtain ⟨out, ran⟩ := (S3.handle_updates represents command tc link).isSome
      apply returns_within ran
      refine Changes.single (Change.sets _ ?_) rfl
      intro structures represents
      have updates := S3.handle_updates represents command tc link
      rw [show S3.handle board.s20.table command tc board.s3 link = some out from ran] at updates
      cases updates with
      | rejected code known => exact ⟨structures, represents⟩
      | executed after updated =>
          obtain ⟨others, _, represented⟩ := updated
          exact ⟨others, represented⟩
  | s6 command =>
      have dumps : command = .dump → 22 ≤ cfg.tmMaxPacketLen := fun same => headers (by rw [same])
      obtain ⟨out, ran⟩ := S6.handle_isSome dumps tc board.s6 link
      exact returns_within ran (.single (.memory _) rfl)
  | s8 =>
      rcases S8.perform_cases (behaves_entries functions) tc board link with
        ⟨code, _, rejected⟩ | ⟨after, later, changes, _, completed | failed⟩
      · exact ⟨_, _, _, rejected, .refl board⟩
      · exact ⟨_, _, _, completed, changes⟩
      · exact ⟨_, _, _, failed, changes⟩
  | s9 =>
      obtain ⟨out, ran⟩ := (S9.setObt_updates tc board.obt link).isSome
      exact returns_within ran (.single (.clock _) rfl)
  | s11 command =>
      apply returns_of_updates (within_updates _ (S11.handle_updates command tc board.s11 link))
      rintro after ⟨s, step, rfl⟩
      exact .single (.schedule s step) rfl
  | s12 command =>
      apply returns_of_updates
        (within_updates _ (S12.handle_updates board.s20.table command tc board.s12 link))
      rintro after ⟨s, step, rfl⟩
      exact .single (.monitoring s step) rfl
  | s17 =>
      exact returns_within (S17.ping_eq tc board.s17 link)
        (.single (.test _) rfl)
  | s19 command =>
      apply returns_of_updates (within_updates _ (S19.handle_updates command tc board.s19 link))
      rintro after ⟨s, step, rfl⟩
      exact .single (.eventAction s step) rfl
  | s20 command =>
      obtain ⟨out, ran⟩ := S20.handle_isSome command tc board.s20 link
      apply returns_within ran
      exact .single (.values _ (S20.handle_ids ran)) rfl

end Openobsw.System
