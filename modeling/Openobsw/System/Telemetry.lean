import Mathlib.Data.List.Pairwise
import Openobsw.Pus.S3Telemetry
import Openobsw.System.Runs

/-!
Owns the telemetry that each call of the software sends: how many TMs, all within the
packet limit, and each numbered by the counter of its service.
-/

namespace Openobsw.System

open Openobsw.Fdir Openobsw.Lib Openobsw.Lib.Numbering Openobsw.Pus Openobsw.Pus.S1
open Openobsw.Pus.Handler Openobsw.Util

variable {cfg : Config}

/-! ### Counters -/

/-- The message counter behind each service's TMs. -/
def counters (board : Board cfg) (link : Link cfg) (svc : UInt8) : UInt16 :=
  if svc = 1 then link.ctx.msgCounter
  else if svc = 3 then board.s3.msgCounter
  else if svc = 5 then board.s5.msgCounter
  else if svc = 6 then board.s6.msgCounter
  else if svc = 17 then board.s17.msgCounter
  else if svc = 20 then board.s20.msgCounter
  else 0

/-- Between two states the TMs of `requests` were built, in this order: each is within
the packet limit and carries the next number of its service. -/
structure Sends (requests : List TmRequest) (board after : Board cfg) (link later : Link cfg) :
    Prop where
  port : later.tm = link.tm.afterAll requests
  fits : ∀ request ∈ requests, request.Fits cfg
  numbered : Numbered (counters board link) (requests.map TmRequest.message)
    (counters after later)

namespace Sends

variable {board middle after : Board cfg} {link between later : Link cfg}
  {requests more : List TmRequest}

theorem refl (board : Board cfg) (link : Link cfg) : Sends [] board board link link where
  port := rfl
  fits := by simp
  numbered := .nil _

theorem trans (first : Sends requests board middle link between)
    (second : Sends more middle after between later) :
    Sends (requests ++ more) board after link later where
  port := by rw [second.port, first.port, afterAll_append]
  fits := List.forall_mem_append.mpr ⟨first.fits, second.fits⟩
  numbered := by
    rw [List.map_append]
    exact first.numbered.append second.numbered

/-- Changes that no counter notices send nothing. -/
theorem unsent (port : later.tm = link.tm) (same : counters after later = counters board link) :
    Sends [] board after link later where
  port := port
  fits := by simp
  numbered := by
    rw [same]
    exact .nil _

/-- The next TMs of one service. -/
theorem next {svc : UInt8} {last : UInt16}
    (next : NextOf cfg svc (counters board link svc) requests last)
    (port : later.tm = link.tm.afterAll requests)
    (counted : counters after later = Function.update (counters board link) svc last) :
    Sends requests board after link later where
  port := port
  fits := next.fits
  numbered := by
    rw [counted, next.messages, next.counted]
    exact Numbered.of_consecutive (counters board link) svc requests.length

end Sends

/-! ### Each counter alone -/

section Updates

variable (board : Board cfg) (link later : Link cfg)

theorem counters_link : counters board later =
    Function.update (counters board link) 1 later.ctx.msgCounter := by
  funext svc
  by_cases one : svc = 1
  · simp [counters, one]
  · simp [counters, one]

theorem counters_sets (s : S3.Ctx) : counters { board with s3 := s } link =
    Function.update (counters board link) 3 s.msgCounter := by
  funext svc
  by_cases three : svc = 3
  · simp [counters, three]
  · simp [counters, three]

theorem counters_events (s : S5.Ctx) : counters { board with s5 := s } link =
    Function.update (counters board link) 5 s.msgCounter := by
  funext svc
  by_cases five : svc = 5
  · simp [counters, five]
  · simp [counters, five]

theorem counters_memory (s : S6.Ctx) : counters { board with s6 := s } link =
    Function.update (counters board link) 6 s.msgCounter := by
  funext svc
  by_cases six : svc = 6
  · simp [counters, six]
  · simp [counters, six]

theorem counters_test (s : S17.Ctx) : counters { board with s17 := s } link =
    Function.update (counters board link) 17 s.msgCounter := by
  funext svc
  by_cases seventeen : svc = 17
  · simp [counters, seventeen]
  · simp [counters, seventeen]

theorem counters_values (s : S20.Ctx) : counters { board with s20 := s } link =
    Function.update (counters board link) 20 s.msgCounter := by
  funext svc
  by_cases twenty : svc = 20
  · simp [counters, twenty]
  · simp [counters, twenty]

end Updates

/-! ### S1 reports and answers -/

/-- The packet limit that the S1 reports and the check reports need, and that a 16-bit
length can hold. -/
structure Limits (cfg : Config) : Prop where
  atLeast : 25 ≤ cfg.tmMaxPacketLen
  atMost : cfg.tmMaxPacketLen ≤ 65535

theorem sends_reported (limits : Limits cfg) (board : Board cfg) (link : Link cfg) (subsvc : UInt8)
    (data : List UInt8) (small : data.length ≤ 6) :
    Sends [S1.request link.ctx subsvc data] board board link (link.reported subsvc data) := by
  have atLeast := limits.atLeast
  have fits : (S1.request link.ctx subsvc data).Fits cfg := by
    show 17 + data.length ≤ cfg.tmMaxPacketLen
    omega
  exact .next (.cons fits rfl rfl (.nil cfg 1 _)) rfl (counters_link board link _)

theorem sends_rejected (limits : Limits cfg) (board : Board cfg) (link : Link cfg) (tc : Tc)
    (code : UInt16) :
    ∃ requests, Sends requests board board link (link.rejected tc code) ∧ requests.length = 1 :=
  ⟨_, sends_reported limits board link 2 _ (by simp), rfl⟩

/-- Acceptance, the TMs in between, and a completion report. -/
theorem sends_executed (limits : Limits cfg) {board after : Board cfg} {link middle : Link cfg}
    {tc : Tc} {requests : List TmRequest}
    (acted : Sends requests board after (link.accepted tc) middle) (subsvc : UInt8)
    (data : List UInt8) (small : data.length ≤ 6) :
    ∃ all, Sends all board after link (middle.reported subsvc data) ∧
      all.length = 2 + requests.length := by
  have accepted := sends_reported limits board link 1 (encodeTcRef tc) (by simp)
  have completed := sends_reported limits after middle subsvc data small
  refine ⟨_, (accepted.trans acted).trans completed, ?_⟩
  simp only [List.length_append, List.length_singleton]
  omega

/-- A TC answered with one TM of another service. -/
theorem sends_answered (limits : Limits cfg) {board after : Board cfg} {link : Link cfg} {tc : Tc}
    {answer : TmRequest} (answered : Sends [answer] board after (link.accepted tc)
      ((link.accepted tc).emitted answer)) (subsvc : UInt8) {data : List UInt8}
    (small : data.length ≤ 6) :
    ∃ all, Sends all board after link
        (((link.accepted tc).emitted answer).reported subsvc data) ∧ all.length = 3 :=
  sends_executed limits answered subsvc _ small

/-! ### Handlers -/

/-- The TMs of its own service that a handler answers an executed TC with. -/
def Handler.answers : Handler → Nat
  | .s6 .check | .s6 .dump | .s17 | .s20 .get => 1
  | .s3 _ | .s6 .load | .s8 | .s9 | .s11 _ | .s12 _ | .s19 _ | .s20 .set => 0

/-- The handler executes the TC, rather than reject it. A check that finds another
checksum returns -1, too, but only after it was executed. -/
def Handler.executes (handler : Handler) (tc : Tc) (board : Board cfg) (rc : Int) : Bool :=
  match handler with
  | .s6 .check => S6.checkable tc board.s6
  | _ => rc == 0

/-- The TMs that a handler sends, by its return code. -/
def Handler.demand (handler : Handler) (tc : Tc) (board : Board cfg) (rc : Int) : Nat :=
  if handler.executes tc board rc then 2 + handler.answers else 1

/-- The handler returned and sent as many TMs as its return code tells. -/
def Answers (handler : Handler) (tc : Tc) (board : Board cfg) (link : Link cfg)
    (result : Option (Int × Board cfg × Link cfg)) : Prop :=
  ∃ rc after later requests, result = some (rc, after, later) ∧
    Sends requests board after link later ∧ requests.length = handler.demand tc board rc

/-- A handler without a TM of its own that no counter notices. -/
theorem answers_of_updates (limits : Limits cfg) {handler : Handler} {tc : Tc} {board : Board cfg}
    {link : Link cfg} {Updated : Board cfg → Prop} {result : Option (Int × Board cfg × Link cfg)}
    (ran : Updates tc board link Updated result)
    (unnoticed : ∀ after, Updated after → ∀ link, counters after link = counters board link)
    (executes : ∀ rc, handler.executes tc board rc = (rc == 0)) (silent : handler.answers = 0) :
    Answers handler tc board link result := by
  cases ran with
  | rejected code known =>
      obtain ⟨requests, sent, count⟩ := sends_rejected limits board link tc code
      refine ⟨_, _, _, requests, rfl, sent, ?_⟩
      unfold Handler.demand
      rw [count, executes]
      rfl
  | executed after updated =>
      have still : Sends [] board after (link.accepted tc) (link.accepted tc) :=
        .unsent rfl (unnoticed after updated _)
      obtain ⟨requests, sent, count⟩ :=
        sends_executed limits still 7 (encodeTcRef tc) (by simp)
      refine ⟨_, _, _, requests, rfl, sent, ?_⟩
      unfold Handler.demand
      rw [count, executes, silent]
      rfl

theorem answers_rejected (limits : Limits cfg) {handler : Handler} {tc : Tc} {board : Board cfg}
    {link : Link cfg} {code : UInt16} {result : Option (Int × Board cfg × Link cfg)}
    (ran : result = some (-1, board, link.rejected tc code))
    (refuses : handler.executes tc board (-1) = false) : Answers handler tc board link result := by
  obtain ⟨requests, sent, count⟩ := sends_rejected limits board link tc code
  refine ⟨_, _, _, requests, ran, sent, ?_⟩
  unfold Handler.demand
  rw [count, refuses]
  rfl

theorem answers_executed {handler : Handler} {tc : Tc} {board after : Board cfg}
    {link later : Link cfg} {rc : Int} {requests : List TmRequest}
    {result : Option (Int × Board cfg × Link cfg)} (ran : result = some (rc, after, later))
    (sent : Sends requests board after link later) (executes : handler.executes tc board rc = true)
    (count : requests.length = 2 + handler.answers) : Answers handler tc board link result := by
  refine ⟨_, _, _, requests, ran, sent, ?_⟩
  unfold Handler.demand
  rw [count, if_pos executes]

/-- Application calls that make no report. -/
def AppCall.quiet : AppCall → Bool
  | .report _ => false
  | .toStandby | .toSafe | .toNominal | .setParam _ _ | .setVariable _ _ | .poke _ _
  | .setTime _ => true

/-- A function that succeeds and makes no report. -/
def Function.Quiet (function : Function cfg) : Prop :=
  ∀ args board link, (function.body args board link).1 = 0 ∧
    ∀ call ∈ (function.body args board link).2, call.quiet = true

/-- A function that always makes the same calls. -/
theorem Function.quiet_of_calls {function : Function cfg} (calls : List AppCall)
    (body : ∀ args board link, function.body args board link = (0, calls))
    (quiet : ∀ call ∈ calls, call.quiet = true) : function.Quiet := by
  intro args board link
  rw [body args board link]
  exact ⟨rfl, quiet⟩

theorem AppCall.run_quiet {call : AppCall} (quiet : call.quiet = true) (board : Board cfg)
    (link : Link cfg) :
    ∃ after, call.run board link = some (after, link) ∧
      counters after link = counters board link ∧ after.s19 = board.s19 := by
  cases call with
  | report call => cases quiet
  | _ => exact ⟨_, rfl, rfl, rfl⟩

theorem runCalls_quiet {calls : List AppCall} (quiet : ∀ call ∈ calls, call.quiet = true)
    (board : Board cfg) (link : Link cfg) :
    ∃ after, runCalls calls board link = some (after, link) ∧
      counters after link = counters board link ∧ after.s19 = board.s19 := by
  induction calls generalizing board with
  | nil => exact ⟨board, rfl, rfl, rfl⟩
  | cons call rest inductionHypothesis =>
      obtain ⟨middle, ran, first, unheard⟩ :=
        AppCall.run_quiet (quiet call List.mem_cons_self) board link
      obtain ⟨after, finished, later, stillUnheard⟩ := inductionHypothesis
        (fun other member => quiet other (List.mem_cons_of_mem call member)) middle
      refine ⟨after, ?_, later.trans first, stillUnheard.trans unheard⟩
      unfold runCalls
      rw [ran]
      exact finished

/-- A TC(8,1) is rejected, or calls a function that succeeds and makes no report. -/
theorem perform_quiet {functions : List (Function cfg)}
    (quiet : ∀ function ∈ functions, function.Quiet) (tc : Tc) (board : Board cfg)
    (link : Link cfg) :
    (∃ code, S8.perform (functions.map Function.entry) tc board link =
        some (-1, board, link.rejected tc code)) ∨
      ∃ after, S8.perform (functions.map Function.entry) tc board link =
          some (0, after, (link.accepted tc).completed tc) ∧
        counters after (link.accepted tc) = counters board (link.accepted tc) ∧
        after.s19 = board.s19 := by
  rcases S8.perform_calls (functions.map Function.entry) tc board link with
    ⟨_, code, _, rejected⟩ | ⟨entry, args, called, performed⟩
  · exact .inl ⟨code, rejected⟩
  · obtain ⟨function, listed, rfl⟩ := List.mem_map.mp (S8.calledEntry_mem called)
    obtain ⟨succeeds, calls⟩ := quiet function listed args board (link.accepted tc)
    obtain ⟨after, ran, same⟩ := runCalls_quiet calls board (link.accepted tc)
    have entered : function.entry.fn args board (link.accepted tc) =
        some (0, after, link.accepted tc) := by
      rw [← succeeds]
      unfold Function.entry
      simp only [ran, Option.bind_eq_bind, Option.bind_some]
      rfl
    rw [S8.call_eq entered, if_pos rfl] at performed
    exact .inr ⟨after, performed, same⟩

theorem perform_answers (limits : Limits cfg) {functions : List (Function cfg)}
    (quiet : ∀ function ∈ functions, function.Quiet) (tc : Tc) (board : Board cfg)
    (link : Link cfg) :
    Answers .s8 tc board link (S8.perform (functions.map Function.entry) tc board link) := by
  rcases perform_quiet quiet tc board link with ⟨code, rejected⟩ | ⟨after, performed, same, _⟩
  · exact answers_rejected limits rejected rfl
  · have still : Sends [] board after (link.accepted tc) (link.accepted tc) := .unsent rfl same
    obtain ⟨requests, sent, count⟩ :=
      sends_executed limits still 7 (encodeTcRef tc) (by simp)
    exact answers_executed performed sent rfl count

/-- One TM of a service inside a TC that it answers. -/
theorem answers_emitted (limits : Limits cfg) {handler : Handler} {tc : Tc}
    {board after : Board cfg} {link : Link cfg} {answer : TmRequest} {svc subsvc : UInt8}
    {data : List UInt8} {rc : Int} {result : Option (Int × Board cfg × Link cfg)}
    (own : answer.svc = svc) (fits : answer.Fits cfg)
    (number : answer.msgCounter = counters board (link.accepted tc) svc)
    (counted : ∀ link, counters after link =
      Function.update (counters board link) svc (answer.msgCounter + 1))
    (small : data.length ≤ 6)
    (ran : result = some (rc, after, ((link.accepted tc).emitted answer).reported subsvc data))
    (executes : handler.executes tc board rc = true) (answers : handler.answers = 1) :
    Answers handler tc board link result := by
  have answered : Sends [answer] board after (link.accepted tc)
      ((link.accepted tc).emitted answer) :=
    .next (.cons fits own number (.nil cfg svc _)) rfl (number ▸ counted _)
  obtain ⟨requests, sent, count⟩ := sends_answered limits answered subsvc small
  exact answers_executed ran sent executes (by rw [count, answers])

theorem memory_answers (limits : Limits cfg) (command : S6.Command) (tc : Tc) (board : Board cfg)
    (link : Link cfg) :
    Answers (.s6 command) tc board link (within Board.memory (S6.handle command) tc board link) := by
  have atLeast := limits.atLeast
  have atMost := limits.atMost
  cases command with
  | load =>
      apply answers_of_updates limits (within_updates Board.memory (S6.load_updates tc board.s6 link)) _
        (fun _ => rfl) rfl
      rintro after ⟨s, ⟨memory, rfl⟩, rfl⟩ other
      rfl
  | check =>
      rcases S6.check_cases tc board.s6 link with
        ⟨refused, code, _, rejected⟩ | ⟨accepted, subsvc, data, small, completed | failed⟩
      · exact answers_rejected limits (within_eq Board.memory rejected) refused
      · refine answers_emitted limits rfl ?_ rfl (fun other => counters_memory board other _)
          (by simp) (within_eq Board.memory completed) accepted rfl
        show 17 + data.length ≤ cfg.tmMaxPacketLen
        omega
      · refine answers_emitted limits rfl ?_ rfl (fun other => counters_memory board other _)
          (by simp) (within_eq Board.memory failed) accepted rfl
        show 17 + data.length ≤ cfg.tmMaxPacketLen
        omega
  | dump =>
      rcases S6.dump_cases (by omega) tc board.s6 link with
        ⟨code, _, rejected⟩ | ⟨data, fits, completed⟩
      · exact answers_rejected limits (within_eq Board.memory rejected) rfl
      · refine answers_emitted limits rfl ?_ rfl (fun other => counters_memory board other _)
          (by simp) (within_eq Board.memory completed) rfl rfl
        exact fits

theorem parameters_answers (limits : Limits cfg) (command : S20.Command) (tc : Tc)
    (board : Board cfg) (link : Link cfg) :
    Answers (.s20 command) tc board link
      (within Board.parameters (S20.handle command) tc board link) := by
  have atLeast := limits.atLeast
  cases command with
  | set =>
      apply answers_of_updates limits (within_updates Board.parameters (S20.set_updates tc board.s20 link)) _
        (fun _ => rfl) rfl
      rintro after ⟨s, ⟨index, value, rfl⟩, rfl⟩ other
      rfl
  | get =>
      rcases S20.get_cases tc board.s20 link with ⟨code, _, rejected⟩ | ⟨paramId, value, completed⟩
      · exact answers_rejected limits (within_eq Board.parameters rejected) rfl
      · refine answers_emitted limits rfl ?_ rfl (fun other => counters_values board other _)
          (by simp) (within_eq Board.parameters completed) rfl rfl
        show 17 + (putBe16 paramId ++ putBe32 value).length ≤ cfg.tmMaxPacketLen
        simp
        omega

/-- Every handler sends one TM for a TC that it rejects, and two with its answer for a
TC that it executes. -/
theorem Handler.handle_answers (limits : Limits cfg) {functions : List (Function cfg)}
    (quiet : ∀ function ∈ functions, function.Quiet) {board : Board cfg}
    (fitted : S3.Fitted cfg board.s20.table board.s3) (handler : Handler) (tc : Tc)
    (link : Link cfg) : Answers handler tc board link (handler.handle functions tc board link) := by
  have atLeast := limits.atLeast
  have atMost := limits.atMost
  cases handler with
  | s3 command =>
      have updates := fitted.handle (by omega) (by omega) command tc link
      apply answers_of_updates limits (within_updates Board.sets updates) _
        (fun _ => rfl) rfl
      rintro after ⟨s, ⟨_, unspent⟩, rfl⟩ other
      have same := counters_sets board other s
      rw [unspent.counter] at same
      exact same.trans (Function.update_eq_self 3 (counters board other))
  | s6 command => exact memory_answers limits command tc board link
  | s8 => exact perform_answers limits quiet tc board link
  | s9 =>
      apply answers_of_updates limits (within_updates Board.clock
        (S9.setObt_updates tc board.obt link)) _ (fun _ => rfl) rfl
      rintro after ⟨obt, _, rfl⟩ other
      rfl
  | s11 command =>
      apply answers_of_updates limits (within_updates Board.schedule
        (S11.handle_updates command tc board.s11 link)) _ (fun _ => rfl) rfl
      rintro after ⟨s, _, rfl⟩ other
      rfl
  | s12 command =>
      apply answers_of_updates limits (within_updates Board.monitoring
        (S12.handle_updates board.s20.table command tc board.s12 link)) _ (fun _ => rfl) rfl
      rintro after ⟨s, _, rfl⟩ other
      rfl
  | s17 =>
      refine answers_emitted limits rfl ?_ rfl (fun other => counters_test board other _) (by simp)
        (within_eq Board.test (S17.ping_eq tc board.s17 link)) rfl rfl
      show 17 + 0 ≤ cfg.tmMaxPacketLen
      omega
  | s19 command =>
      apply answers_of_updates limits (within_updates Board.events
        (S19.handle_updates command tc board.s19 link)) _ (fun _ => rfl) rfl
      rintro after ⟨s, _, rfl⟩ other
      rfl
  | s20 command => exact parameters_answers limits command tc board link

/-! ### Boards whose reports fit -/

/-- A sound board whose housekeeping structures fit one packet. -/
structure Steady (board : Board cfg) : Prop where
  sound : Sound board
  fitted : S3.Fitted cfg board.s20.table board.s3

theorem Booted.steady {obsw : Obsw cfg} (booted : Booted obsw)
    (compact : ∀ set ∈ obsw.board.s3.sets, set.bootStructure.Compact cfg) : Steady obsw.board where
  sound := booted.sound
  fitted := by
    refine ⟨_, booted.sets.represents, ?_⟩
    intro a member
    obtain ⟨set, inSets, rfl⟩ := List.mem_map.mp member
    exact compact set inSets

/-- Only a change of the set table could make a structure too large. -/
theorem Changes.fitted {allowed : Part → Prop} {board after : Board cfg}
    (noSets : ¬ allowed .sets) (changes : Changes allowed board after)
    (fitted : S3.Fitted cfg board.s20.table board.s3) :
    S3.Fitted cfg after.s20.table after.s3 := by
  apply changes.keeps (P := fun other => S3.Fitted cfg other.s20.table other.s3) _ fitted
  intro part first second permitted change small
  cases change with
  | sets s kept => exact absurd permitted noSets
  | values s sameIds => exact small.revalue sameIds
  | _ => exact small

theorem Steady.changes {allowed : Part → Prop} {board after : Board cfg} (steady : Steady board)
    (noSets : ¬ allowed .sets) (changes : Changes allowed board after) : Steady after :=
  ⟨steady.sound.changes changes, changes.fitted noSets steady.fitted⟩

/-- The tables of housekeeping and monitoring keep their sizes. -/
structure SameSize (board after : Board cfg) : Prop where
  sets : after.s3.setCapacity = board.s3.setCapacity
  monitoring : after.s12.capacity = board.s12.capacity

theorem SameSize.trans {board middle after : Board cfg} (first : SameSize board middle)
    (second : SameSize middle after) : SameSize board after :=
  ⟨second.sets.trans first.sets, second.monitoring.trans first.monitoring⟩

theorem Changes.sameSize {allowed : Part → Prop} {board after : Board cfg}
    (noSets : ¬ allowed .sets) (noMonitoring : ¬ allowed .monitoring) (noCheck : ¬ allowed .check)
    (changes : Changes allowed board after) : SameSize board after := by
  apply changes.keeps (P := SameSize board) _ ⟨rfl, rfl⟩
  intro part first second permitted change same
  cases change with
  | sets s kept => exact absurd permitted noSets
  | monitoring s step => exact absurd permitted noMonitoring
  | checked s kept => exact absurd permitted noCheck
  | _ => exact ⟨same.sets, same.monitoring⟩

/-- Only an event makes the queue of event-action longer. -/
theorem Changes.queue_le {allowed : Part → Prop} {board after : Board cfg}
    (noEvent : ¬ allowed .event) (changes : Changes allowed board after) :
    after.s19.queue.length ≤ board.s19.queue.length := by
  apply changes.keeps (P := fun other =>
    other.s19.queue.length ≤ board.s19.queue.length) _ (Nat.le_refl _)
  intro part first second permitted change short
  cases change with
  | event rc call => exact absurd permitted noEvent
  | eventAction s step =>
      rcases step.queue.1 with same | emptied
      · exact (congrArg List.length same).le.trans short
      · exact (congrArg List.length emptied).le.trans (Nat.zero_le _)
  | _ => exact short

/-- Without an event, the S5 context stays as it was. -/
theorem Changes.events_unchanged {allowed : Part → Prop} {board after : Board cfg}
    (noEvent : ¬ allowed .event) (changes : Changes allowed board after) :
    after.s5 = board.s5 := by
  apply changes.keeps (P := fun other => other.s5 = board.s5) _ rfl
  intro part first second permitted change same
  cases change with
  | event rc call => exact absurd permitted noEvent
  | _ => exact same

/-- What no packet does: change the size of a table, queue an event, or report one. -/
structure Contained (board after : Board cfg) : Prop where
  sized : SameSize board after
  queue : after.s19.queue.length ≤ board.s19.queue.length
  unreported : after.s5.msgCounter = board.s5.msgCounter

theorem Contained.refl (board : Board cfg) : Contained board board where
  sized := ⟨rfl, rfl⟩
  queue := Nat.le_refl _
  unreported := rfl

theorem Handler.sets_of_s3 {handler : Handler} (changes : handler.mayChange .sets) :
    ∃ command, handler = .s3 command := by
  cases handler with
  | s3 command => exact ⟨command, rfl⟩
  | _ => cases changes

/-- What the dispatcher needs of a wiring for its telemetry to be counted: the packet
limits, functions that make no report, and at most one route for each pair. -/
structure Wiring.Ready (w : Wiring cfg) : Prop where
  limits : Limits cfg
  quiet : ∀ function ∈ w.functions, function.Quiet
  distinct : w.routes.Pairwise
    (fun first second => first.service ≠ second.service ∨ first.subservice ≠ second.subservice)

theorem Handler.handle_contained {w : Wiring cfg} (ready : w.Ready) {board after : Board cfg}
    (steady : Steady board) {handler : Handler} {tc : Tc} {link later : Link cfg} {rc : Int}
    (changes : Changes handler.mayChange board after)
    (ran : handler.handle w.functions tc board link = some (rc, after, later)) :
    Contained board after := by
  have atLeast := ready.limits.atLeast
  have atMost := ready.limits.atMost
  cases handler with
  | s3 command =>
      have updates := within_updates Board.sets
        (steady.fitted.handle (by omega) (by omega) command tc link)
      rw [show within Board.sets _ tc board link = _ from ran] at updates
      cases updates with
      | rejected code known => exact .refl board
      | executed _ updated =>
          obtain ⟨s, ⟨_, unspent⟩, rfl⟩ := updated
          exact ⟨⟨unspent.capacity, rfl⟩, Nat.le_refl _, rfl⟩
  | s12 command =>
      have updates := within_updates Board.monitoring
        (S12.handle_updates board.s20.table command tc board.s12 link)
      rw [show within Board.monitoring _ tc board link = _ from ran] at updates
      cases updates with
      | rejected code known => exact .refl board
      | executed _ updated =>
          obtain ⟨s, step, rfl⟩ := updated
          exact ⟨⟨rfl, step.capacity⟩, Nat.le_refl _, rfl⟩
  | s8 =>
      have sized := changes.sameSize id id id
      rcases perform_quiet ready.quiet tc board link with
        ⟨code, rejected⟩ | ⟨_, performed, same, unheard⟩
      · rw [show S8.perform _ tc board link = _ from ran] at rejected
        cases rejected
        exact .refl board
      · rw [show S8.perform _ tc board link = _ from ran] at performed
        cases performed
        exact ⟨sized, (congrArg (fun s => s.queue.length) unheard).le, congrFun same 5⟩
  | _ =>
      exact ⟨changes.sameSize (by simp [Handler.mayChange]) (by simp [Handler.mayChange])
        (by simp [Handler.mayChange]), changes.queue_le (by simp [Handler.mayChange]),
        congrArg S5.Ctx.msgCounter (changes.events_unchanged (by simp [Handler.mayChange]))⟩

theorem Handler.handle_steady {w : Wiring cfg} (ready : w.Ready) {board : Board cfg}
    (steady : Steady board) (handler : Handler) (tc : Tc) (link : Link cfg) :
    ∃ rc after later requests, handler.handle w.functions tc board link = some (rc, after, later) ∧
      Steady after ∧ Changes handler.mayChange board after ∧
      Sends requests board after link later ∧ requests.length = handler.demand tc board rc := by
  have atLeast := ready.limits.atLeast
  have atMost := ready.limits.atMost
  obtain ⟨rc, after, later, requests, ran, sent, count⟩ :=
    handler.handle_answers ready.limits ready.quiet steady.fitted tc link
  obtain ⟨_, _, _, same, changes⟩ :=
    handler.handle_returns steady.sound w.functions (fun _ => by omega) tc link
  rw [ran] at same
  cases same
  refine ⟨rc, after, later, requests, ran, ⟨steady.sound.changes changes, ?_⟩, changes, sent, count⟩
  by_cases housekeeping : handler.mayChange .sets
  · obtain ⟨command, rfl⟩ := Handler.sets_of_s3 housekeeping
    have updates := within_updates Board.sets
      (steady.fitted.handle (by omega) (by omega) command tc link)
    rw [show within Board.sets _ tc board link = _ from ran] at updates
    cases updates with
    | rejected code known => exact steady.fitted
    | executed _ updated =>
        obtain ⟨s, ⟨fitted, _⟩, rfl⟩ := updated
        exact fitted
  · exact changes.fitted housekeeping steady.fitted

/-! ### Packets -/

/-- The route that the lookup loop finds for a packet. -/
def Wiring.taker (w : Wiring cfg) (tc : Tc) : Option RouteEntry :=
  w.routes.find? (fun entry =>
    (entry.route w.functions).matchesService tc && entry.subservice == tc.subservice)

theorem Handler.demand_le (handler : Handler) (tc : Tc) (board : Board cfg) (rc : Int) :
    handler.demand tc board rc ≤ 3 := by
  have answers : handler.answers ≤ 1 := by
    unfold Handler.answers
    split <;> decide
  unfold Handler.demand
  split <;> omega

/-- The TMs that a packet is answered with: none if it is no TC, one if it is refused,
and else what its handler sends. -/
def Wiring.demand (w : Wiring cfg) (frame : List UInt8) (obsw : Obsw cfg) : Nat :=
  match tcParse frame with
  | some (some tc) =>
      if w.gated && !obsw.board.fsm.tcAllowed tc.service tc.subservice then 1
      else
        match w.taker tc with
        | none => 1
        | some entry =>
            match entry.handler.handle w.functions tc obsw.board obsw.link with
            | some (rc, _, _) => entry.handler.demand tc obsw.board rc
            | none => 0
  | _ => 0

theorem Wiring.demand_le (w : Wiring cfg) (frame : List UInt8) (obsw : Obsw cfg) :
    w.demand frame obsw ≤ 3 := by
  unfold Wiring.demand
  split
  · split
    · omega
    · split
      · omega
      · split
        · exact Handler.demand_le _ _ _ _
        · omega
  · omega

theorem Wiring.taker_none {w : Wiring cfg} {tc : Tc} (missing : ∀ entry, ¬ w.Takes tc entry) :
    w.taker tc = none := by
  apply List.find?_eq_none.mpr
  intro entry listed found
  rw [Bool.and_eq_true, beq_iff_eq] at found
  exact missing entry ⟨listed, found⟩

theorem Wiring.Ready.taker_some {w : Wiring cfg} (ready : w.Ready) {tc : Tc} {entry : RouteEntry}
    (takes : w.Takes tc entry) : w.taker tc = some entry := by
  obtain ⟨listed, served, subservice⟩ := takes
  cases found : w.taker tc with
  | none =>
      have absent := List.find?_eq_none.mp found entry listed
      rw [served, beq_iff_eq.mpr subservice] at absent
      exact absurd rfl absent
  | some other =>
      have otherListed := List.mem_of_find?_eq_some found
      have matched := List.find?_some found
      rw [Bool.and_eq_true, beq_iff_eq] at matched
      by_contra different
      have : Std.Symm (fun first second : RouteEntry =>
          first.service ≠ second.service ∨ first.subservice ≠ second.subservice) :=
        ⟨fun _ _ either => either.imp Ne.symm Ne.symm⟩
      have apart := ready.distinct.forall otherListed listed
        (fun same => different (congrArg some same))
      have sameService : other.service = entry.service :=
        (Route.service_of_matches matched.1).trans (Route.service_of_matches served).symm
      rcases apart with otherService | otherSubservice
      · exact otherService sameService
      · exact otherSubservice (matched.2.trans subservice.symm)

/-- A fed packet is answered with as many TMs as its demand, and otherwise contained. -/
theorem feed_sends {w : Wiring cfg} (ready : w.Ready) (origin : Origin) (frame : List UInt8)
    {obsw : Obsw cfg} (steady : Steady obsw.board) :
    ∃ rc after requests, feed w origin frame obsw = some (rc, after) ∧ Steady after.board ∧
      Sends requests obsw.board after.board obsw.link after.link ∧
      requests.length = w.demand frame obsw ∧ Contained obsw.board after.board := by
  have result := feed_result w origin frame obsw
  generalize feed w origin frame obsw = out at result ⊢
  unfold Wiring.demand
  cases result with
  | dropped parsed =>
      exact ⟨_, _, [], rfl, steady, .refl _ _, by rw [parsed]; rfl, .refl _⟩
  | gated tc parsed refused =>
      obtain ⟨requests, sent, count⟩ :=
        sends_rejected ready.limits obsw.board obsw.link tc failModeGated
      refine ⟨_, _, requests, rfl, steady, sent, ?_, .refl _⟩
      have flags : (w.gated && !obsw.board.fsm.tcAllowed tc.service tc.subservice) = true := by
        by_contra open_
        apply refused
        intro gated
        rw [gated, Bool.true_and, Bool.not_eq_true', Bool.not_eq_false] at open_
        exact open_
      rw [parsed, count]
      simp only [flags, if_true]
  | unrouted tc parsed admitted missing =>
      obtain ⟨requests, sent, count⟩ :=
        sends_rejected ready.limits obsw.board obsw.link tc (w.missingCode tc)
      refine ⟨_, _, requests, rfl, steady, sent, ?_, .refl _⟩
      rw [parsed, count]
      simp only [Wiring.taker_none missing, ite_self]
  | handled tc parsed admitted entry takes =>
      obtain ⟨rc, after, later, requests, ran, steadyAfter, changes, sent, count⟩ :=
        entry.handler.handle_steady ready steady tc obsw.link
      have contained := Handler.handle_contained ready steady changes ran
      unfold Handler.invoke
      simp only [ran, Option.bind_eq_bind, Option.bind_some]
      refine ⟨_, _, requests, rfl, steadyAfter, sent, ?_, contained⟩
      have flags : (w.gated && !obsw.board.fsm.tcAllowed tc.service tc.subservice) = false := by
        cases gated : w.gated with
        | false => rfl
        | true =>
            rw [admitted gated]
            rfl
      rw [parsed, count]
      simp only [flags, ready.taker_some takes, ran, Bool.false_eq_true, if_false]

/-! ### Monitoring and housekeeping -/

/-- Reports through S5 are numbered in a row. -/
theorem calledAll_sends {η : Type} (onEvent : Option (UInt16 → η → η)) {calls : List S5.Call}
    (small : ∀ call ∈ calls, 19 + call.aux.data.length ≤ cfg.tmMaxPacketLen)
    (env : S5.Env cfg η) :
    ∃ requests, (env.calledAll onEvent calls).tm = env.tm.afterAll requests ∧
      NextOf cfg 5 env.ctx.msgCounter requests (env.calledAll onEvent calls).ctx.msgCounter ∧
      requests.length = calls.length := by
  induction calls generalizing env with
  | nil => exact ⟨[], rfl, .nil cfg 5 _, rfl⟩
  | cons call rest inductionHypothesis =>
      obtain ⟨requests, port, next, count⟩ := inductionHypothesis
        (fun other member => small other (List.mem_cons_of_mem call member))
        (env.called onEvent call)
      have fits : (S5.request env.ctx call.severity call.eventId call.aux).Fits cfg := by
        have bound := small call List.mem_cons_self
        unfold TmRequest.Fits S5.request
        rw [List.length_append, putBe16_length]
        omega
      exact ⟨_ :: requests, port, .cons fits rfl rfl next, congrArg (· + 1) count⟩

theorem mem_callsOf_raises {d : S12.Def} {limit : S12.Limit} {value : UInt32} {call : S5.Call}
    (member : call ∈ S12.callsOf (d.raises limit value)) : call.aux.data.length = 4 := by
  unfold S12.Def.raises at member
  split at member
  · rw [show S12.callsOf [_] = [d.call limit value] from rfl, List.mem_singleton] at member
    rw [member]
    exact putBe32_length value
  · cases member

/-- A monitoring report carries the value, in four bytes. -/
theorem mem_callsOf_check {s : S12.Ctx} {table : List S20.Param} {call : S5.Call}
    (member : call ∈ S12.callsOf (s.eventsOfCheck table)) : call.aux.data.length = 4 := by
  unfold S12.Ctx.eventsOfCheck at member
  split at member
  · unfold S12.callsOf at member
    obtain ⟨event, inEvents, raised⟩ := List.mem_filterMap.mp member
    obtain ⟨d, _, inEvents⟩ := List.mem_flatMap.mp inEvents
    cases seen : s.sees table d.paramId with
    | none =>
        rw [seen] at inEvents
        cases inEvents
    | some value =>
        rw [seen] at inEvents
        rcases List.mem_cons.mp inEvents with first | later
        · rw [first] at raised
          cases raised
        · rcases List.mem_append.mp later with low | high
          · exact mem_callsOf_raises (List.mem_filterMap.mpr ⟨event, low, raised⟩)
          · exact mem_callsOf_raises (List.mem_filterMap.mpr ⟨event, high, raised⟩)
  · cases member

/-- The reports that the next check makes. -/
def Obsw.checkDemand (obsw : Obsw cfg) : Nat :=
  (S12.callsOf (obsw.board.s12.eventsOfCheck obsw.board.s20.table)).length

theorem Steady.checkDemand_le {obsw : Obsw cfg} (steady : Steady obsw.board) :
    obsw.checkDemand ≤ obsw.board.s12.capacity.toNat :=
  (steady.sound.monitoring.calls_le obsw.board.s20.table).trans steady.sound.monitoring.fits

theorem check_sends (limits : Limits cfg) {obsw : Obsw cfg} (steady : Steady obsw.board) :
    ∃ after requests, monitoringCheck obsw = some after ∧ Steady after.board ∧
      Sends requests obsw.board after.board obsw.link after.link ∧
      requests.length = obsw.checkDemand ∧ (∀ request ∈ requests, request.svc = 5) ∧
      SameSize obsw.board after.board := by
  have atLeast := limits.atLeast
  obtain ⟨env, ran, checked⟩ := S12.check_checked obsw.board.hook obsw.board.s20.table
    steady.sound.monitoring (obsw.board.env obsw.link)
  have small : ∀ call ∈ S12.callsOf (obsw.board.s12.eventsOfCheck obsw.board.s20.table),
      19 + call.aux.data.length ≤ cfg.tmMaxPacketLen := by
    intro call member
    rw [mem_callsOf_check member]
    omega
  obtain ⟨requests, port, next, count⟩ :=
    calledAll_sends obsw.board.hook small (obsw.board.env obsw.link)
  rw [← checked.reported] at port next
  have result : monitoringCheck obsw = some { obsw with
      board := { obsw.board.withEnv env with
        s12 := obsw.board.s12.afterCheck obsw.board.s20.table }
      link := { obsw.link with tm := env.tm } } := by
    unfold monitoringCheck
    simp only [ran, Option.bind_eq_bind, Option.bind_some]
    rfl
  obtain ⟨board, link, same, changes⟩ := (monitoringCheck_quiet steady.sound).1
  rw [result] at same
  refine ⟨_, requests, result, ?_, ?_, count, next.own, ⟨rfl, checked.capacity⟩⟩
  · have noSets : ¬ (Part.sets = .event ∨ Part.sets = .check) := by simp
    cases same
    exact steady.changes noSets changes
  · exact .next next port (counters_events obsw.board _ env.ctx)

theorem tick_sends (limits : Limits cfg) {obsw : Obsw cfg} (steady : Steady obsw.board) :
    ∃ after requests, hkTick obsw = some after ∧ Steady after.board ∧
      Sends requests obsw.board after.board obsw.link after.link ∧
      requests.length = obsw.board.s3.dueSets ∧ (∀ request ∈ requests, request.svc = 3) ∧
      SameSize obsw.board after.board := by
  obtain ⟨s, requests, ran, fitted, next, count, capacity⟩ :=
    steady.fitted.tick limits.atMost obsw.board.hkVariables rfl obsw.link.tm
  have result : hkTick obsw = some { obsw with
      board := { obsw.board with s3 := s }
      link := { obsw.link with tm := obsw.link.tm.afterAll requests } } := by
    unfold hkTick
    rw [ran]
    rfl
  have sets : ∃ structures, S3.Represents cfg obsw.board.s20.table s structures :=
    fitted.imp (fun _ both => both.1)
  have sound : Sound { obsw.board with s3 := s } :=
    ⟨sets, steady.sound.schedule, steady.sound.monitoring, steady.sound.eventAction⟩
  exact ⟨_, requests, result, ⟨sound, fitted⟩, .next next rfl (counters_sets obsw.board _ s), count,
    next.own, ⟨capacity, rfl⟩⟩

end Openobsw.System
