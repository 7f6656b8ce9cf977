import Openobsw.System.HostServer
import Openobsw.System.Runs

/-!
Owns what the host simulation remembers of its parameters: a property of the software that
every step of a frame keeps holds over whole sessions, and the parameter table is such a
memory of the TC(20,1) that were carried out.
-/

namespace Openobsw.HostSim

open Openobsw.Fdir Openobsw.Lib Openobsw.Lib.Tables Openobsw.Pus Openobsw.Pus.Handler
  Openobsw.Pus.S1 Openobsw.System Openobsw.Util

/-! ### Properties that frames keep -/

/-- A property of the board and of the handlers invoked so far that every step of a frame
keeps. -/
structure Held (P : Board cfg → List Invocation → Prop) : Prop where
  feed : ∀ {origin : Origin} {frame : List UInt8} {obsw after : Obsw cfg} {rc : TcRc},
    System.feed wiring origin frame obsw = some (rc, after) → Sound obsw.board →
      P obsw.board obsw.invoked → P after.board after.invoked
  schedule : ∀ {board : Board cfg} {invoked : List Invocation} (s : S11.Ctx), P board invoked →
    P { board with s11 := s } invoked
  quiet : ∀ {board after : Board cfg} {invoked : List Invocation},
    Changes (fun part => part = .event ∨ part = .check ∨ part = .sets ∨ part = .appVars ∨
      part = .eventAction) board after → P board invoked → P after invoked
  control : ∀ {board : Board cfg} {invoked : List Invocation} (sensor : Sensor),
    P board invoked → P (control sensor board) invoked

variable {P : Board cfg → List Invocation → Prop}

/-- The property in a sound state of the simulation. -/
structure Sim.Has (P : Board cfg → List Invocation → Prop) (sim : Sim) : Prop where
  sound : Sound sim.obsw.board
  holds : P sim.obsw.board sim.obsw.invoked

theorem Held.fed (held : Held P) {sim after : Sim} {origin : Origin} {frame : List UInt8}
    {rc : TcRc} (ran : sim.feed origin frame = some (rc, after)) (has : sim.Has P) :
    after.Has P where
  sound := by
    obtain ⟨_, other, fed, taken⟩ := feed_taken wiring origin frame has.sound
    rw [feed_obsw ran] at fed
    cases fed
    exact taken.sound has.sound
  holds := held.feed (feed_obsw ran) has.sound has.holds

/-- Steps that change the board as they may. -/
theorem Held.changed (held : Held P) {sim : Sim} {board : Board cfg} (link : Link cfg)
    (moments : List Moment)
    (changes : Changes (fun part => part = .event ∨ part = .check ∨ part = .sets ∨
      part = .appVars ∨ part = .eventAction) sim.obsw.board board) (has : sim.Has P) :
    Sim.Has P { sim with
      obsw := { sim.obsw with board := board, link := link }
      moments := moments } where
  sound := has.sound.changes changes
  holds := held.quiet changes has.holds

theorem Held.release (held : Held P) {start released : Sim} (traced : Traced start)
    (ran : start.release = some released) (has : start.Has P) : released.Has P := by
  have feeder : S11.Feeder cfg (Sim.core.comp Board.schedule) (Sim.feed .schedule)
      (fun sim => (∃ moments, Feeding start sim moments) ∧ sim.Has P)
      (fun sim => framesOf sim.moments) := {
    total := by
      intro pkt sim both
      obtain ⟨rc, after, ran, feeding, frames⟩ := (schedule_feeder start).total pkt sim both.1
      exact ⟨rc, after, ran, ⟨feeding, held.fed ran both.2⟩, frames⟩
    frame := by
      intro pkt service sim rc after both
      exact (schedule_feeder start).frame pkt service sim rc after both.1
    replace := by
      intro s sim both wf
      have sound := both.2.sound
      exact ⟨(schedule_feeder start).replace s sim both.1 wf,
        ⟨sound.sets, wf, sound.monitoring, sound.eventAction⟩, held.schedule s both.2.holds⟩
    kept := (schedule_feeder start).kept }
  have closed : S19.Closed (Sim.core.comp Board.events) (Sim.feed .eventAction)
      (fun sim => (∃ moments, Feeding start sim moments) ∧ sim.Has P) := {
    total := by
      intro pkt sim both
      obtain ⟨rc, after, ran, feeding⟩ := (actions_closed start).total pkt sim both.1
      exact ⟨rc, after, ran, feeding, held.fed ran both.2⟩
    emptied := by
      intro sim both
      have taken : Changes (fun part => part = .eventAction) sim.obsw.board _ :=
        .single (.eventAction _ .taken) rfl
      exact ⟨(actions_closed start).emptied sim both.1,
        held.changed _ sim.moments (taken.mono (by simp)) both.2⟩ }
  have scheduled : ∃ count middle,
      S11.run cfg (Sim.core.comp Board.schedule) (Sim.feed .schedule) start.obsw.board.obt start =
          some (count, middle) ∧ (∃ moments, Feeding start middle moments) ∧ middle.Has P := by
    cases enabled : start.obsw.board.s11.enabled with
    | false => exact ⟨0, start, S11.run_disabled _ enabled, ⟨[], .refl traced⟩, has⟩
    | true =>
        obtain ⟨released, _, middle, ran, law⟩ := S11.run_ran feeder start.obsw.board.obt
          ⟨⟨[], .refl traced⟩, has⟩ traced.steady.sound.schedule enabled
        exact ⟨_, middle, ran, law.safe⟩
  obtain ⟨_, middle, first, safe⟩ := scheduled
  obtain ⟨_, last, second, lastSafe, _⟩ := S19.run_dispatches closed safe
  unfold Sim.release at ran
  simp only [first, second, Option.bind_eq_bind, Option.bind_some] at ran
  cases ran
  exact lastSafe.2

theorem Held.check (held : Held P) {sim after : Sim} (ran : sim.check = some after)
    (has : sim.Has P) : after.Has P := by
  obtain ⟨⟨board, link, result, changes⟩, _⟩ := monitoringCheck_quiet has.sound
  unfold Sim.check at ran
  rw [result] at ran
  cases ran
  exact held.changed link _ (changes.mono (fun _ either => by grind)) has

theorem Held.tick (held : Held P) {sim after : Sim} (ran : sim.tick = some after)
    (has : sim.Has P) : after.Has P := by
  have counted : Changes (fun part => part = .appVars) sim.obsw.board
      (Sim.countEntries sim.obsw.board) := .single (.appVars _) rfl
  have before := held.changed sim.obsw.link sim.moments
    (counted.mono (fun _ same => by simp [same])) has
  obtain ⟨board, link, result, changes⟩ := hkTick_quiet before.sound
  unfold Sim.tick at ran
  simp only [result] at ran
  cases ran
  have last := held.changed link sim.moments (changes.mono (fun _ same => by simp [same])) before
  exact ⟨last.sound, last.holds⟩

/-- The drain changes neither the board nor what was invoked. -/
theorem Held.drain {turns : Nat} {sim after : Sim} (ran : Sim.drainLoop turns sim = some after)
    (has : sim.Has P) : after.Has P := by
  induction turns generalizing sim with
  | zero => cases ran
  | succ turns inductionHypothesis =>
      unfold Sim.drainLoop at ran
      generalize sim.obsw.link.tm.store.dequeue cfg.tmMaxPacketLen = reply at ran
      obtain ⟨rc, pkt, store⟩ := reply
      by_cases ok : rc = .ok
      · simp only [if_pos ok] at ran
        exact inductionHypothesis ran ⟨has.sound, has.holds⟩
      · simp only [if_neg ok] at ran
        cases ran
        exact has

theorem control_changes (sensor : Sensor) (board : Board cfg) :
    Changes (fun part => part = .values ∨ part = .appVars ∨ part = .clock) board
      (control sensor board) := by
  let after := control sensor board
  have valued : Changes (fun part => part = .values ∨ part = .appVars ∨ part = .clock) board
      { board with s20 := after.s20 } := by
    refine .single (.values after.s20 ?_) (.inl rfl)
    exact (setParam_ids _ _ _).trans ((setParam_ids _ _ _).trans (setParam_ids _ _ _))
  have varied : Changes (fun part => part = .values ∨ part = .appVars ∨ part = .clock)
      { board with s20 := after.s20 } { board with s20 := after.s20, appVars := after.appVars } :=
    .single (.appVars after.appVars) (.inr (.inl rfl))
  exact (valued.trans varied).trans (.single (.clock after.obt) (.inr (.inr rfl)))

/-- A turn of the loop keeps the property. -/
theorem Held.turn (held : Held P) {libm : Aocs.Libm} {type : UInt8} {frame : List UInt8}
    {server after : Server} (ready : server.Ready)
    (ran : server.turn libm type frame = some after)
    (holds : P server.sim.obsw.board server.sim.obsw.invoked) :
    P after.sim.obsw.board after.sim.obsw.invoked := by
  have has : server.sim.Has P := ⟨ready.idle.traced.steady.sound, holds⟩
  unfold Server.turn at ran
  by_cases tc : type = frameTc
  · rw [if_pos tc] at ran
    obtain ⟨fed, feeds, ran⟩ := Option.bind_eq_some_iff.mp ran
    obtain ⟨drained, drains, ran⟩ := Option.bind_eq_some_iff.mp ran
    cases ran
    exact (Held.drain drains (held.fed feeds has)).holds
  · rw [if_neg tc] at ran
    by_cases sensor : type = frameSensor
    · rw [if_pos sensor] at ran
      cases parsed : simParseSensor frame with
      | none =>
          rw [parsed] at ran
          cases ran
          exact holds
      | some data =>
          rw [parsed] at ran
          obtain ⟨sensed, senses, ran⟩ := Option.bind_eq_some_iff.mp ran
          obtain ⟨drained, drains, ran⟩ := Option.bind_eq_some_iff.mp ran
          cases ran
          unfold Server.sense at senses
          obtain ⟨released, releases, senses⟩ := Option.bind_eq_some_iff.mp senses
          obtain ⟨controlled, _, senses⟩ := Option.bind_eq_some_iff.mp senses
          obtain ⟨checked, checks, senses⟩ := Option.bind_eq_some_iff.mp senses
          obtain ⟨ticked, ticks, senses⟩ := Option.bind_eq_some_iff.mp senses
          cases senses
          have first := held.release ready.idle.traced releases has
          have second : Sim.Has P (Sim.core.set (HostSim.control (data.sensed libm
              server.controllers.lastSimTime controlled.adcs) released.obsw.board) released) :=
            ⟨first.sound.changes (control_changes _ _), held.control _ first.holds⟩
          exact (Held.drain drains (held.tick ticks (held.check checks second))).holds
    · rw [if_neg sensor] at ran
      cases ran
      exact holds

/-! ### The parameter table -/

/-- What `obsw_s20_find` finds, as a value. -/
def paramValue (table : List S20.Param) (paramId : UInt16) : Option UInt32 :=
  (table.find? (fun param => param.paramId == paramId)).map (fun param => param.value)

theorem s20GetF32_eq (table : List S20.Param) (paramId : UInt16) (default : UInt32) :
    s20GetF32 table paramId default = (paramValue table paramId).getD default := rfl

/-- The lookup by position, as the handlers make it. -/
theorem paramValue_eq (table : List S20.Param) (paramId : UInt16) :
    paramValue table paramId =
      (S20.find table paramId).bind (fun index => (table[index]?).map (fun param => param.value)) := by
  unfold paramValue S20.find findKey
  induction table with
  | nil => rfl
  | cons param rest inductionHypothesis =>
      cases same : param.paramId == paramId with
      | true =>
          rw [List.find?_cons, List.findIdx?_cons]
          simp only [same]
          rfl
      | false =>
          rw [List.find?_cons, List.findIdx?_cons]
          simp only [same]
          rw [inductionHypothesis]
          cases rest.findIdx? (fun param => param.paramId == paramId) <;> rfl

/-- Setting the value that a parameter was found at. -/
theorem paramValue_setValue {table : List S20.Param} {paramId : UInt16} {index : Nat}
    (found : S20.find table paramId = some index) (value : UInt32) (other : UInt16) :
    paramValue (S20.setValue index value table) other =
      if other = paramId then some value else paramValue table other := by
  have sameFind : S20.find (S20.setValue index value table) other = S20.find table other :=
    findKey_congr (setParam_ids index value table) other
  obtain ⟨param, paramEq, paramKey⟩ := findKey_some found
  rw [paramValue_eq, paramValue_eq, sameFind]
  by_cases same : other = paramId
  · rw [if_pos same, same, found, Option.bind_some]
    unfold S20.setValue
    rw [List.getElem?_modify, paramEq]
    simp
  · rw [if_neg same]
    cases foundOther : S20.find table other with
    | none => rfl
    | some position =>
        obtain ⟨entry, entryEq, entryKey⟩ := findKey_some foundOther
        have apart : index ≠ position := by
          rintro rfl
          rw [paramEq] at entryEq
          cases entryEq
          exact same (entryKey.symm.trans paramKey)
        unfold S20.setValue
        rw [Option.bind_some, Option.bind_some, List.getElem?_modify, entryEq]
        simp [apart]

/-! ### The memory -/

/-- What a TC(20,1) asks to store. -/
def writeOf (tc : Tc) : Option (UInt16 × UInt32) :=
  if tc.service = 20 ∧ tc.subservice = 1 then do
    let u ← tc.userData
    if u.length < 6 then none
    else do
      let paramId ← obswBe16 u 0
      let value ← obswBe32 u 2
      return (paramId, value)
  else none

/-- A parameter that exists takes the value. -/
def remember (memory : UInt16 → Option UInt32) (write : UInt16 × UInt32) : UInt16 → Option UInt32 :=
  fun paramId =>
    if paramId = write.1 ∧ (memory paramId).isSome then some write.2 else memory paramId

/-- The memory after a TC that was carried out. -/
def rememberTc (memory : UInt16 → Option UInt32) (tc : Tc) : UInt16 → Option UInt32 :=
  match writeOf tc with
  | some write => remember memory write
  | none => memory

/-- The memory after the handlers that were invoked: the values at boot, and over them those
of the TC(20,1) in the order they were carried out. -/
def remembered (invoked : List Invocation) : UInt16 → Option UInt32 :=
  invoked.foldl (fun memory invocation => rememberTc memory invocation.tc) (paramValue s20Params)

theorem remembered_append (invoked : List Invocation) (last : Invocation) :
    remembered (invoked ++ [last]) = rememberTc (remembered invoked) last.tc := by
  unfold remembered
  rw [List.foldl_append]
  rfl

/-- The memory of a parameter depends on that parameter alone. -/
theorem rememberTc_congr {memory other : UInt16 → Option UInt32} {paramId : UInt16}
    (same : memory paramId = other paramId) (tc : Tc) :
    rememberTc memory tc paramId = rememberTc other tc paramId := by
  unfold rememberTc
  cases writeOf tc with
  | none => exact same
  | some write =>
      unfold remember
      simp only [same]

/-- The three parameters that every sensor frame overwrites. -/
def overwritten (paramId : UInt16) : Prop := paramId = 4 ∨ paramId = 5 ∨ paramId = 6

instance (paramId : UInt16) : Decidable (overwritten paramId) := by
  unfold overwritten
  infer_instance

/-- The table has the parameters of the boot, with the values that were stored last. -/
structure Remembers (board : Board cfg) (invoked : List Invocation) : Prop where
  ids : board.s20.table.map (fun param => param.paramId) =
    s20Params.map (fun param => param.paramId)
  values : ∀ paramId, ¬ overwritten paramId →
    paramValue board.s20.table paramId = remembered invoked paramId

theorem boot_remembers : Remembers boot.obsw.board boot.obsw.invoked where
  ids := rfl
  values _ _ := rfl

/-- What a TC(20,1) does to the table. -/
theorem set_paramValue {tc : Tc} (isSet : tc.service = 20 ∧ tc.subservice = 1) {s : S20.Ctx}
    {link : Link cfg} {out : Int × S20.Ctx × Link cfg} (ran : S20.set tc s link = some out)
    (paramId : UInt16) :
    paramValue out.2.1.table paramId = rememberTc (paramValue s.table) tc paramId := by
  unfold rememberTc writeOf
  rw [if_pos isSet]
  unfold S20.set requireUserData at ran
  cases data : tc.userData with
  | none =>
      rw [data] at ran
      simp only [reject_eq] at ran
      cases ran
      rfl
  | some u =>
      rw [data] at ran
      simp only [Option.bind_eq_bind, Option.bind_some] at ran ⊢
      by_cases short : u.length < 6
      · rw [if_pos short, reject_eq] at ran
        cases ran
        rw [if_pos short]
      · rw [if_neg short] at ran
        rw [if_neg short]
        obtain ⟨target, targetEq⟩ := obswBe16_isSome u 0 (by omega)
        obtain ⟨value, valueEq⟩ := obswBe32_isSome u 2 (by omega)
        simp only [targetEq, valueEq, Option.bind_some] at ran ⊢
        have present : (paramValue s.table target).isSome = (S20.find s.table target).isSome := by
          rw [paramValue_eq]
          cases found : S20.find s.table target with
          | none => rfl
          | some index =>
              obtain ⟨param, paramEq, _⟩ := findKey_some found
              rw [Option.bind_some, paramEq]
              rfl
        show paramValue out.2.1.table paramId = remember (paramValue s.table) (target, value) paramId
        unfold remember
        cases found : S20.find s.table target with
        | none =>
            rw [found] at ran present
            simp only [reject_eq] at ran
            cases ran
            rw [if_neg]
            rintro ⟨rfl, isSome⟩
            rw [present] at isSome
            cases isSome
        | some index =>
            rw [found] at ran present
            have executed := @execute_eq cfg S20.Ctx
              (fun s => some { s with table := S20.setValue index value s.table }) s _ tc rfl link
            rw [show execute tc _ s link = some out from ran] at executed
            cases executed
            rw [show paramValue _ paramId = _ from paramValue_setValue found value paramId]
            by_cases same : paramId = target
            · rw [if_pos same, if_pos]
              rw [same, present]
              exact ⟨rfl, rfl⟩
            · rw [if_neg same, if_neg (fun both => same both.1)]

/-! ### Every frame keeps the memory -/

/-- The functions of the simulation only change the mode. -/
theorem functions_behave : ∀ entry ∈ wiring.functions.map Function.entry,
    entry.Behaves (fun (before after : Board cfg) => after.s20 = before.s20) := by
  intro entry member args board link
  obtain ⟨function, listed, rfl⟩ := List.mem_map.mp member
  rcases List.mem_cons.mp listed with rfl | listed
  · exact ⟨0, _, link, rfl, rfl, .refl link⟩
  rcases List.mem_cons.mp listed with rfl | listed
  · exact ⟨0, _, link, rfl, rfl, .refl link⟩
  rw [List.mem_singleton.mp listed]
  exact ⟨0, _, link, rfl, rfl, .refl link⟩

/-- A handler on another part of the board leaves the table alone. -/
theorem within_table {κ : Type} {part : Component (Board cfg) κ}
    {run : Tc → κ → Link cfg → Option (Int × κ × Link cfg)} {tc : Tc} {board : Board cfg}
    {link : Link cfg} {out : Int × Board cfg × Link cfg}
    (apart : ∀ value, (part.set value board).s20 = board.s20)
    (ran : within part run tc board link = some out) : out.2.1.s20.table = board.s20.table := by
  unfold within at ran
  obtain ⟨inner, _, ran⟩ := Option.bind_eq_some_iff.mp ran
  cases ran
  exact congrArg (fun s : S20.Ctx => s.table) (apart _)

/-- Only TC(20,1) changes the table. -/
theorem handle_table {handler : Handler} (other : handler ≠ .s20 .set) {tc : Tc}
    {board : Board cfg} {link : Link cfg} {out : Int × Board cfg × Link cfg}
    (ran : handler.handle wiring.functions tc board link = some out) :
    out.2.1.s20.table = board.s20.table := by
  cases handler with
  | s3 command => exact within_table (fun _ => rfl) ran
  | s6 command => exact within_table (fun _ => rfl) ran
  | s8 =>
      rcases S8.perform_cases functions_behave tc board link with
        ⟨code, _, rejected⟩ | ⟨after, later, same, _, completed | failed⟩
      · rw [show S8.perform _ tc board link = some out from ran] at rejected
        cases rejected
        rfl
      · rw [show S8.perform _ tc board link = some out from ran] at completed
        cases completed
        exact congrArg (fun s : S20.Ctx => s.table) same
      · rw [show S8.perform _ tc board link = some out from ran] at failed
        cases failed
        exact congrArg (fun s : S20.Ctx => s.table) same
  | s9 => exact within_table (fun _ => rfl) ran
  | s11 command => exact within_table (fun _ => rfl) ran
  | s12 command => exact within_table (fun _ => rfl) ran
  | s17 => exact within_table (fun _ => rfl) ran
  | s19 command => exact within_table (fun _ => rfl) ran
  | s20 command =>
      cases command with
      | set => exact absurd rfl other
      | get =>
          unfold Handler.handle within at ran
          obtain ⟨inner, got, ran⟩ := Option.bind_eq_some_iff.mp ran
          cases ran
          rcases S20.get_cases tc board.s20 link with ⟨_, _, rejected⟩ | ⟨_, _, completed⟩
          · rw [show S20.get tc board.s20 link = some inner from got] at rejected
            cases rejected
            rfl
          · rw [show S20.get tc board.s20 link = some inner from got] at completed
            cases completed
            rfl

theorem routes_set : ∀ entry ∈ routes,
    (entry.handler = .s20 .set ↔ entry.service = 20 ∧ entry.subservice = 1) := by
  decide

theorem handle_remembers {handler : Handler} {tc : Tc}
    (isSet : handler = .s20 .set ↔ tc.service = 20 ∧ tc.subservice = 1) {board : Board cfg}
    {link : Link cfg} {out : Int × Board cfg × Link cfg}
    (ran : handler.handle wiring.functions tc board link = some out) (paramId : UInt16) :
    paramValue out.2.1.s20.table paramId = rememberTc (paramValue board.s20.table) tc paramId := by
  by_cases set : handler = .s20 .set
  · subst set
    unfold Handler.handle within at ran
    obtain ⟨inner, stored, ran⟩ := Option.bind_eq_some_iff.mp ran
    cases ran
    exact set_paramValue (isSet.mp rfl) stored paramId
  · rw [handle_table set ran]
    unfold rememberTc writeOf
    rw [if_neg (fun both => set (isSet.mpr both))]

theorem handle_ids {handler : Handler} {tc : Tc} {board : Board cfg} {link : Link cfg}
    {out : Int × Board cfg × Link cfg}
    (ran : handler.handle wiring.functions tc board link = some out) :
    out.2.1.s20.table.map (fun param => param.paramId) =
      board.s20.table.map (fun param => param.paramId) := by
  by_cases set : handler = .s20 .set
  · subst set
    unfold Handler.handle within at ran
    obtain ⟨inner, stored, ran⟩ := Option.bind_eq_some_iff.mp ran
    cases ran
    exact S20.handle_ids stored
  · rw [handle_table set ran]

theorem feed_remembers {origin : Origin} {frame : List UInt8} {obsw after : Obsw cfg} {rc : TcRc}
    (ran : System.feed wiring origin frame obsw = some (rc, after))
    (remembers : Remembers obsw.board obsw.invoked) : Remembers after.board after.invoked := by
  have result := feed_result wiring origin frame obsw
  rw [ran] at result
  generalize same : (some (rc, after) : Option (TcRc × Obsw cfg)) = out at result
  cases result with
  | dropped parsed =>
      cases same
      exact remembers
  | gated tc parsed refused =>
      cases same
      exact remembers
  | unrouted tc parsed admitted missing =>
      cases same
      exact remembers
  | handled tc parsed admitted entry takes =>
      obtain ⟨listed, matched, subservice⟩ := takes
      unfold Handler.invoke at same
      obtain ⟨reply, invoked, same⟩ := Option.map_eq_some_iff.mp same.symm
      obtain ⟨out, handled, invoked⟩ := Option.bind_eq_some_iff.mp invoked
      cases invoked
      cases same
      have service : entry.service = tc.service := Route.service_of_matches matched
      have isSet := routes_set entry listed
      rw [service, subservice] at isSet
      exact {
        ids := (handle_ids handled).trans remembers.ids
        values := by
          intro paramId plain
          rw [show remembered _ = _ from remembered_append _ _,
            ← rememberTc_congr (remembers.values paramId plain) tc]
          exact handle_remembers isSet handled paramId }

/-- A sensor frame overwrites its three parameters and no other. -/
theorem setValue_remembers {table : List S20.Param} {index : Nat} {target : UInt16}
    (ids : table.map (fun param => param.paramId) = s20Params.map (fun param => param.paramId))
    (found : S20.find s20Params target = some index) (value : UInt32) :
    (S20.setValue index value table).map (fun param => param.paramId) =
        s20Params.map (fun param => param.paramId) ∧
      ∀ paramId, paramId ≠ target →
        paramValue (S20.setValue index value table) paramId = paramValue table paramId := by
  have here : S20.find table target = some index := (findKey_congr ids target).trans found
  refine ⟨(setParam_ids index value table).trans ids, ?_⟩
  intro paramId other
  rw [paramValue_setValue here, if_neg other]

theorem control_values (sensor : Sensor) {board : Board cfg}
    (ids : board.s20.table.map (fun param => param.paramId) =
      s20Params.map (fun param => param.paramId)) {paramId : UInt16}
    (plain : ¬ overwritten paramId) :
    paramValue (control sensor board).s20.table paramId = paramValue board.s20.table paramId := by
  obtain ⟨firstIds, first⟩ :=
    setValue_remembers ids (by decide : S20.find s20Params 4 = some 3) sensor.simTime
  obtain ⟨secondIds, second⟩ :=
    setValue_remembers firstIds (by decide : S20.find s20Params 5 = some 4)
      (paramSafeEntryCount board.fsm).toUInt32
  obtain ⟨thirdIds, third⟩ :=
    setValue_remembers secondIds (by decide : S20.find s20Params 6 = some 5) 0
  unfold overwritten at plain
  push Not at plain
  rw [← first paramId plain.1, ← second paramId plain.2.1]
  exact third paramId plain.2.2

theorem control_remembers (sensor : Sensor) {board : Board cfg} {invoked : List Invocation}
    (remembers : Remembers board invoked) : Remembers (control sensor board) invoked where
  ids := by
    apply Eq.trans _ remembers.ids
    exact (setParam_ids _ _ _).trans ((setParam_ids _ _ _).trans (setParam_ids _ _ _))
  values paramId plain :=
    (control_values sensor remembers.ids plain).trans (remembers.values paramId plain)

theorem quiet_remembers {board after : Board cfg} {invoked : List Invocation}
    {allowed : Part → Prop} (unvalued : ¬ allowed .values) (changes : Changes allowed board after)
    (remembers : Remembers board invoked) : Remembers after invoked := by
  have same : after.s20 = board.s20 := by
    apply changes.keeps (P := fun other => other.s20 = board.s20) _ rfl
    intro part first second permitted change earlier
    cases change with
    | values s sameIds => exact absurd permitted unvalued
    | _ => exact earlier
  refine ⟨?_, ?_⟩
  · rw [same]
    exact remembers.ids
  · rw [same]
    exact remembers.values

theorem remembers_held : Held Remembers where
  feed ran _ remembers := feed_remembers ran remembers
  schedule _ remembers := ⟨remembers.ids, remembers.values⟩
  quiet changes remembers := quiet_remembers (by simp) changes remembers
  control sensor remembers := control_remembers sensor remembers

/-- The configuration of the mode machine is the one of `main`. -/
def Configured (board : Board cfg) (_ : List Invocation) : Prop := board.fsm.config = fsmConfig

theorem boot_configured : Configured boot.obsw.board boot.obsw.invoked := rfl

theorem configured_held : Held Configured where
  feed := by
    intro origin frame obsw after rc ran sound configured
    obtain ⟨_, other, fed, taken⟩ := feed_taken wiring origin frame sound
    rw [ran] at fed
    cases fed
    rcases taken.changes with same | ⟨_, _, changes⟩
    · unfold Configured
      rw [same]
      exact configured
    · exact changes.fsmConfig.trans configured
  schedule _ configured := configured
  quiet changes configured := changes.fsmConfig.trans configured
  control _ configured := configured

/-- What holds between two frames in every session. -/
structure Settled (server : Server) : Prop where
  ready : server.Ready
  remembers : Remembers server.sim.obsw.board server.sim.obsw.invoked
  configured : Configured server.sim.obsw.board server.sim.obsw.invoked

theorem boot_settled : Settled Server.boot := ⟨boot_ready, boot_remembers, boot_configured⟩

theorem Settled.turn {libm : Aocs.Libm} {type : UInt8} {frame : List UInt8}
    {server after : Server} {packets : List (List UInt8)} (settled : Settled server)
    (ran : server.turn libm type frame = some after)
    (turned : Turned type frame server after packets) : Settled after where
  ready := turned.ready
  remembers := remembers_held.turn settled.ready ran settled.remembers
  configured := configured_held.turn settled.ready ran settled.configured

/-! ### Answers to a TC -/

theorem feed_output {origin : Origin} {frame : List UInt8} {sim after : Sim} {rc : TcRc}
    (ran : sim.feed origin frame = some (rc, after)) : after.output = sim.output := by
  unfold Sim.feed at ran
  obtain ⟨reply, _, ran⟩ := Option.bind_eq_some_iff.mp ran
  cases ran
  rfl

/-- The builds of a TC are all stored, and written in their order. -/
theorem tc_turn (libm : Aocs.Libm) {frame : List UInt8} {server : Server} (ready : server.Ready)
    {rc : TcRc} {fed : Sim} (ran : server.sim.feed .uplink frame = some (rc, fed))
    {requests : List TmRequest}
    (port : fed.obsw.link.tm = server.sim.obsw.link.tm.afterAll requests)
    (fits : ∀ request ∈ requests, request.Fits cfg) (few : requests.length ≤ usableSlots) :
    ∃ drained, fed.drain = some drained ∧ Drained fed drained ∧
      server.turn libm frameTc frame = some { server with sim := drained.write .sync } ∧
      Turned frameTc frame server { server with sim := drained.write .sync }
        (requests.map (fun request => request.packet)) := by
  obtain ⟨_, other, drained, packets, same, drains, turn, turned⟩ := turn_tc libm frame ready
  rw [ran] at same
  cases same
  obtain ⟨built, recorded, room⟩ :=
    afterAll_built limits.atMost fits server.sim.obsw.link.tm
  have nothing : server.sim.obsw.link.tm.queue = [] := ready.idle.empty
  have stored : ∀ tm ∈ built, tm.rc = .ok := by
    apply (room (by rw [nothing]; exact Nat.zero_le _)).mpr
    rw [nothing, List.length_nil, Nat.zero_add]
    exact few
  have queued : waiting fed = requests.map (fun request => request.packet) := by
    unfold waiting
    rw [port, recorded.queue, nothing, List.nil_append, ← recorded.same, List.map_map]
    unfold storedPackets
    rw [List.filter_eq_self.mpr (fun tm member => decide_eq_true (stored tm member))]
    rfl
  obtain ⟨again, drainsAgain, drainedAgain⟩ := drainLoop_drained cfg.tmStoreSlots (waiting_lt fed)
    (by
      rw [queued]
      intro pkt member
      obtain ⟨request, found, rfl⟩ := List.mem_map.mp member
      exact packet_length_of_fits (fits request found))
  rw [show Sim.drainLoop cfg.tmStoreSlots fed = some drained from drains] at drainsAgain
  cases drainsAgain
  refine ⟨drained, drains, drainedAgain, turn, turned.ready, ?_, ?_⟩
  · intro pkt member
    obtain ⟨request, found, rfl⟩ := List.mem_map.mp member
    exact packet_length_of_fits (fits request found)
  · show (drained.output ++ [Output.sync]).drop server.sim.output.length = _
    rw [drainedAgain.output, feed_output ran, queued, List.append_assoc, List.drop_left]
    rfl

/-! ### The query of a parameter -/

/-- What `obsw_s20_get` answers for a parameter. -/
theorem get_value (tc : Tc) {u : List UInt8} (data : tc.userData = some u) (long : 2 ≤ u.length)
    {paramId : UInt16} (target : obswBe16 u 0 = some paramId) (s : S20.Ctx) (link : Link cfg) :
    S20.get tc s link =
      match paramValue s.table paramId with
      | none => some (-1, s, link.rejected tc failExecError)
      | some value => some (0, { s with msgCounter := s.msgCounter + 1 },
          ((link.accepted tc).emitted (S20.valueRequest s paramId value)).completed tc) := by
  unfold S20.get requireUserData
  rw [data]
  simp only
  rw [if_neg (by omega)]
  simp only [target, Option.bind_eq_bind, Option.bind_some]
  rw [paramValue_eq]
  cases found : S20.find s.table paramId with
  | none => exact reject_eq _ _ _ _
  | some index =>
      obtain ⟨param, paramEq, _⟩ := findKey_some found
      simp only [paramEq, Option.bind_some, Option.map_some]
      exact respond_eq tc (TmRequest.inside_of_small cfg (by simp [S20.valueRequest])) _ link

/-- The gate lets the query through in every mode. -/
theorem query_admitted {board : Board cfg} (configured : board.fsm.config = fsmConfig) {tc : Tc}
    (service : tc.service = 20) (subservice : tc.subservice = 3) : wiring.Admits tc board := by
  intro _
  unfold Fsm.tcAllowed
  rw [configured, service, subservice]
  split
  · rfl
  · decide

/-- The query is routed to `obsw_s20_get`. -/
theorem query_takes (tc : Tc) (service : tc.service = 20) (subservice : tc.subservice = 3) :
    wiring.Takes tc ⟨0xFFFF, 20, 3, .s20 .get⟩ ∧
      ∀ other, wiring.Takes tc other → other = ⟨0xFFFF, 20, 3, .s20 .get⟩ := by
  have only : ∀ entry ∈ routes, entry.service = 20 → entry.subservice = 3 →
      entry = ⟨0xFFFF, 20, 3, .s20 .get⟩ := by
    decide
  refine ⟨⟨by decide, ?_, subservice.symm⟩, ?_⟩
  · unfold Route.matchesService RouteEntry.route
    simp [service]
  · intro other takes
    have matched : other.service = tc.service := Route.service_of_matches takes.2.1
    exact only other takes.1 (matched.trans service) (takes.2.2.trans subservice)

end Openobsw.HostSim
