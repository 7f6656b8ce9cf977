import Openobsw.System.Runs

/-!
Owns the account of the schedule over whole runs: no accepted activity is lost,
repeated or altered, and every run of an enabled schedule ends after releasing
exactly what was due when it started.
-/

namespace Openobsw.System

open Openobsw.Lib Openobsw.Pus Openobsw.Pus.S1 Openobsw.Pus.Handler Openobsw.Time

variable {cfg : Config}

/-- Only service-11 routes reach the S11 handlers. -/
def Wiring.ConfinesSchedule (w : Wiring cfg) : Prop :=
  ∀ entry ∈ w.routes, ∀ command, entry.handler = .s11 command → entry.service = 11

theorem no_release (w : Wiring cfg) (service : UInt8) : ¬ w.mayChange service .release := by
  rintro ⟨entry, _, _, changes⟩
  exact entry.handler.not_release changes

theorem Input.reaches_release (input : Input) : ¬ input.reaches .release := by
  cases input <;> simp [Input.reaches, appPart]

theorem Wiring.ConfinesSchedule.no_command {w : Wiring cfg} (confined : w.ConfinesSchedule)
    {service : UInt8} (foreign : service ≠ 11) : ¬ w.mayChange service .schedule := by
  rintro ⟨entry, listed, served, changes⟩
  obtain ⟨command, routed⟩ := Handler.s11_of_schedule changes
  exact foreign (served.symm.trans (confined entry listed command routed))

/-- The dispatcher serves the release loop: it takes every packet, and a packet of
another service leaves the schedule alone. -/
theorem scheduleFeeder {w : Wiring cfg} (confined : w.ConfinesSchedule) :
    S11.Feeder cfg (Obsw.core.comp Board.schedule) (feed w .schedule)
      (fun obsw => Sound obsw.board) (fedFrom .schedule) where
  total pkt obsw sound := by
    obtain ⟨rc, after, ran, taken⟩ := feed_taken w .schedule pkt sound
    exact ⟨rc, after, ran, taken.sound sound, taken.fedFrom_same⟩
  frame pkt service obsw rc after sound checked foreign ran := by
    obtain ⟨otherRc, other, otherRan, taken⟩ := feed_taken w .schedule pkt sound
    rw [ran] at otherRan
    cases otherRan
    rcases taken.changes with same | ⟨tc, parsed, changes⟩
    · show after.board.s11 = obsw.board.s11
      rw [same]
    · have served : tc.service = service := service_of_packetCheck checked parsed
      rw [served] at changes
      exact changes.schedule_unchanged (confined.no_command foreign) (no_release w service)
  replace s obsw sound wf := ⟨sound.sets, wf, sound.monitoring, sound.eventAction⟩
  kept _ _ := rfl

/-! ### The account -/

/-- Every accepted activity is accounted for, and the packets that the schedule fed
to the dispatcher are those of the released activities. -/
structure Accounted (obsw : Obsw cfg) : Prop where
  ledger : S11.Ledger obsw.board.s11
  fed : fedFrom .schedule obsw = S11.releasedPackets obsw.board.s11.fates

theorem Booted.accounted {obsw : Obsw cfg} (booted : Booted obsw) : Accounted obsw := by
  obtain ⟨capacity, schedule⟩ := booted.schedule
  constructor
  · rw [schedule]
    exact S11.ledger_init capacity
  · unfold fedFrom
    rw [booted.nothingFed, schedule]
    rfl

/-- What a change other than a release does to the ledger. -/
theorem ledger_changes {allowed : Part → Prop} {board after : Board cfg}
    (noRelease : ¬ allowed .release) (changes : Changes allowed board after)
    (ledger : S11.Ledger board.s11) :
    S11.Ledger after.s11 ∧
      S11.releasedPackets after.s11.fates = S11.releasedPackets board.s11.fates := by
  apply changes.keeps (P := fun other => S11.Ledger other.s11 ∧
    S11.releasedPackets other.s11.fates = S11.releasedPackets board.s11.fates) _ ⟨ledger, rfl⟩
  intro part first second permitted change holds
  cases change with
  | schedule s step => exact ⟨holds.1.step step, step.releasedPackets.trans holds.2⟩
  | release a tNow rest perm => exact absurd permitted noRelease
  | _ => exact holds

theorem Accounted.changes {allowed : Part → Prop} {obsw after : Obsw cfg}
    (accounted : Accounted obsw) (noRelease : ¬ allowed .release)
    (changes : Changes allowed obsw.board after.board)
    (sameFed : fedFrom .schedule after = fedFrom .schedule obsw) : Accounted after := by
  obtain ⟨ledger, released⟩ := ledger_changes noRelease changes accounted.ledger
  exact ⟨ledger, by rw [sameFed, released, accounted.fed]⟩

theorem Accounted.taken {w : Wiring cfg} {origin : Origin} {frame : List UInt8}
    {obsw after : Obsw cfg} (accounted : Accounted obsw) (other : origin ≠ .schedule)
    (taken : Taken w origin frame obsw after) : Accounted after := by
  have sameFed := taken.fedFrom_other other
  rcases taken.changes with same | ⟨tc, _, changes⟩
  · have unchanged : Changes (fun _ => False) obsw.board after.board := by
      rw [same]
      exact .refl _
    exact accounted.changes (fun impossible => impossible) unchanged sameFed
  · exact accounted.changes (no_release w tc.service) changes sameFed

/-- A schedule run that released `released` in this order. -/
structure Released (now : Obt) (obsw : Obsw cfg) (released rest : List S11.Activity)
    (after : Obsw cfg) : Prop where
  table : after.board.s11 = obsw.board.s11.ran (S11.tagKey now.coarse now.fine) released rest
  releases : S11.Releases (S11.tagKey now.coarse now.fine) obsw.board.s11.acts released rest
  packets : fedFrom .schedule after =
    fedFrom .schedule obsw ++ released.map (fun a => a.tc)

theorem scheduleRun_released {w : Wiring cfg} (confined : w.ConfinesSchedule) (now : Obt)
    {obsw : Obsw cfg} (sound : Sound obsw.board) (enabled : obsw.board.s11.enabled = true) :
    ∃ released rest after, scheduleRun w now obsw = some (released.length, after) ∧
      Sound after.board ∧ Released now obsw released rest after := by
  obtain ⟨released, rest, after, ran, law⟩ :=
    S11.run_ran (scheduleFeeder confined) now sound sound.schedule enabled
  exact ⟨released, rest, after, ran, law.safe, law.table, law.releases, law.packets⟩

theorem Accounted.released {now : Obt} {obsw after : Obsw cfg}
    {released rest : List S11.Activity} (accounted : Accounted obsw)
    (enabled : obsw.board.s11.enabled = true) (law : Released now obsw released rest after) :
    Accounted after := by
  constructor
  · rw [law.table]
    exact accounted.ledger.ran law.releases enabled
  · rw [law.packets, law.table, S11.releasedPackets_ran, accounted.fed]

/-! ### The commands behind the account -/

/-- The request IDs that were deleted, oldest first. -/
def deletions (fates : List (S11.Activity × S11.Fate)) : List UInt16 :=
  fates.filterMap (fun entry =>
    match entry.2 with
    | .deleted id => some id
    | .cleared | .released _ _ => none)

/-- The account is that of the executed commands: each accepted user data is that of a
TC(11,4) and each deleted ID is named by a TC(11,5), in their order, and nothing was
cleared without a TC(11,6). -/
structure Ordered (obsw : Obsw cfg) : Prop where
  accepted : obsw.board.s11.accepted.map (fun entry => some entry.1) =
    (obsw.executed Handler.s11? .insert).map (fun tc => tc.userData)
  deleted : (deletions obsw.board.s11.fates).map some =
    (obsw.executed Handler.s11? .delete).map keyOf
  cleared : (∃ entry ∈ obsw.board.s11.fates, entry.2 = .cleared) →
    obsw.executed Handler.s11? .deleteAll ≠ []

theorem Booted.ordered {obsw : Obsw cfg} (booted : Booted obsw) : Ordered obsw := by
  obtain ⟨capacity, schedule⟩ := booted.schedule
  have none : ∀ command, obsw.executed Handler.s11? command = [] := by
    intro command
    unfold Obsw.executed Obsw.commanded
    rw [booted.nothingInvoked]
    rfl
  constructor
  · rw [schedule, none]
    rfl
  · rw [schedule, none]
    rfl
  · rw [schedule]
    rintro ⟨entry, listed, _⟩
    cases listed

/-- Nothing was inserted, deleted or cleared, and no such command was executed. -/
theorem Ordered.silent {obsw after : Obsw cfg} (ordered : Ordered obsw)
    (accepted : after.board.s11.accepted = obsw.board.s11.accepted)
    (fates : after.board.s11.fates = obsw.board.s11.fates)
    (executed : ∀ command, command = .insert ∨ command = .delete ∨ command = .deleteAll →
      after.executed Handler.s11? command = obsw.executed Handler.s11? command) :
    Ordered after := by
  constructor
  · rw [accepted, executed _ (.inl rfl)]
    exact ordered.accepted
  · rw [fates, executed _ (.inr (.inl rfl))]
    exact ordered.deleted
  · rw [fates, executed _ (.inr (.inr rfl))]
    exact ordered.cleared

theorem deletions_append (first second : List (S11.Activity × S11.Fate)) :
    deletions (first ++ second) = deletions first ++ deletions second :=
  List.filterMap_append

theorem deletions_cleared (acts : List S11.Activity) :
    deletions (acts.map (fun a => (a, S11.Fate.cleared))) = [] := by
  apply List.filterMap_eq_nil_iff.mpr
  intro entry member
  obtain ⟨a, _, rfl⟩ := List.mem_map.mp member
  rfl

/-- An executed command of the service adds to the account what it asks for. -/
theorem Ordered.executed {obsw after : Obsw cfg} {command : S11.Command} {tc : Tc} {mode : Fdir.Mode}
    (ordered : Ordered obsw)
    (executes : S11.Executes cfg command tc obsw.board.s11 after.board.s11)
    (invoked : after.invoked = obsw.invoked ++ [⟨.s11 command, tc, mode, 0⟩]) : Ordered after := by
  have grown : ∀ other, after.executed Handler.s11? other = obsw.executed Handler.s11? other ++
      if command = other then [tc] else [] := by
    intro other
    rw [executed_append invoked]
    simp [Handler.s11?]
  have kept : ∀ other, command ≠ other →
      after.executed Handler.s11? other = obsw.executed Handler.s11? other := by
    intro other different
    rw [grown, if_neg different, List.append_nil]
  obtain ⟨s, table⟩ : ∃ s, after.board.s11 = s := ⟨_, rfl⟩
  rw [table] at executes
  cases executes with
  | inserted u a present long taken uplinked serial storable room =>
      constructor
      · rw [table, grown, if_pos rfl, List.map_append, ← ordered.accepted]
        show (obsw.board.s11.accepted ++ [(u, a)]).map (fun entry => some entry.1) = _
        rw [List.map_append]
        simp [present]
      · rw [table, kept .delete (by decide)]
        exact ordered.deleted
      · rw [table, kept .deleteAll (by decide)]
        exact ordered.cleared
  | deleted a rest named perm =>
      constructor
      · rw [table, kept .insert (by decide)]
        exact ordered.accepted
      · rw [table, grown, if_pos rfl, List.map_append, ← ordered.deleted]
        show (deletions (obsw.board.s11.fates ++ [(a, .deleted a.requestId)])).map some = _
        rw [deletions_append, List.map_append]
        simp [deletions, named]
      · rw [table, kept .deleteAll (by decide)]
        rintro ⟨entry, listed, cleared⟩
        apply ordered.cleared
        rcases List.mem_append.mp listed with before | last
        · exact ⟨entry, before, cleared⟩
        · rw [List.mem_singleton.mp last] at cleared
          cases cleared
  | cleared =>
      constructor
      · rw [table, kept .insert (by decide)]
        exact ordered.accepted
      · rw [table, kept .delete (by decide)]
        show (deletions (obsw.board.s11.fates ++ _)).map some = _
        rw [deletions_append, deletions_cleared, List.append_nil]
        exact ordered.deleted
      · intro _
        rw [grown, if_pos rfl]
        simp
  | enabled =>
      exact ordered.silent (by rw [table]) (by rw [table])
        (fun other named => kept other (by rcases named with rfl | rfl | rfl <;> decide))
  | disabled =>
      exact ordered.silent (by rw [table]) (by rw [table])
        (fun other named => kept other (by rcases named with rfl | rfl | rfl <;> decide))

/-- A handler of another service, or a refused command, leaves the account alone. -/
theorem Ordered.unexecuted {obsw after : Obsw cfg} {invocation : Invocation}
    (ordered : Ordered obsw) (table : after.board.s11 = obsw.board.s11)
    (invoked : after.invoked = obsw.invoked ++ [invocation])
    (other : ∀ command, invocation.handler = .s11 command → invocation.rc ≠ 0) :
    Ordered after := by
  apply ordered.silent (by rw [table]) (by rw [table])
  intro command _
  rw [executed_append invoked, if_neg, List.append_nil]
  rintro ⟨service, succeeded⟩
  cases handler : invocation.handler with
  | s11 found => exact other found handler succeeded
  | _ =>
      rw [handler] at service
      cases service

theorem Ordered.taken {w : Wiring cfg} {origin : Origin} {frame : List UInt8}
    {obsw after : Obsw cfg} (ordered : Ordered obsw) (taken : Taken w origin frame obsw after) :
    Ordered after := by
  cases taken.served with
  | unhandled board invoked =>
      apply ordered.silent (by rw [board]) (by rw [board])
      intro command _
      unfold Obsw.executed Obsw.commanded
      rw [invoked]
  | handled tc parsed admitted entry takes rc ran changes invoked =>
      cases routed : entry.handler with
      | s11 command =>
          rw [routed] at ran invoked
          obtain ⟨s, handled, boardEq⟩ := within_some Board.schedule ran
          have decides := S11.handle_decides command tc obsw.board.s11 obsw.link
          rw [show S11.handle command tc obsw.board.s11 obsw.link = some (rc, s, after.link)
            from handled] at decides
          have table : after.board.s11 = s := by
            rw [boardEq]
            rfl
          generalize after.link = later at decides
          cases decides with
          | refused code known impossible =>
              exact ordered.unexecuted table invoked (fun _ _ => by simp)
          | executed _ executes =>
              rw [← table] at executes
              exact ordered.executed executes invoked
      | _ =>
          rw [routed] at changes invoked
          have table := changes.schedule_unchanged (by simp [Handler.mayChange, appPart])
            (by simp [Handler.mayChange, appPart])
          exact ordered.unexecuted table invoked (fun _ same => by cases same)

theorem ordered_feedInductive (w : Wiring cfg) :
    FeedInductive w (Ordered : Obsw cfg → Prop) where
  taken _ _ _ _ _ ordered taken := ordered.taken taken
  released obsw a tNow rest ordered _ := by
    have deleted : deletions (obsw.released a tNow rest).board.s11.fates =
        deletions obsw.board.s11.fates := by
      show deletions (obsw.board.s11.fates ++ [(a, .released tNow obsw.board.s11.enabled)]) = _
      rw [deletions_append]
      exact List.append_nil _
    refine ⟨ordered.accepted, ?_, ?_⟩
    · rw [deleted]
      exact ordered.deleted
    · rintro ⟨entry, listed, cleared⟩
      apply ordered.cleared
      rcases List.mem_append.mp listed with before | last
      · exact ⟨entry, before, cleared⟩
      · rw [List.mem_singleton.mp last] at cleared
        cases cleared
  emptied _ ordered := ⟨ordered.accepted, ordered.deleted, ordered.cleared⟩

theorem Input.reaches_schedule (input : Input) : ¬ input.reaches .schedule := by
  cases input <;> simp [Input.reaches, appPart]

theorem Ordered.step (w : Wiring cfg) (input : Input) {obsw : Obsw cfg} (sound : Sound obsw.board)
    (ordered : Ordered obsw) :
    ∃ after, step w obsw input = some after ∧ Sound after.board ∧ Ordered after := by
  cases silent : input.feeds with
  | false =>
      obtain ⟨board, link, ran, changes⟩ := step_quiet w sound silent
      have table := changes.schedule_unchanged input.reaches_schedule input.reaches_release
      exact ⟨_, ran, sound.changes changes,
        ordered.silent (by rw [table]) (by rw [table]) (fun _ _ => rfl)⟩
  | true => exact (ordered_feedInductive w).step silent ⟨sound, ordered⟩

theorem runs_ordered (w : Wiring cfg) (inputs : List Input) {obsw : Obsw cfg}
    (sound : Sound obsw.board) (ordered : Ordered obsw) :
    ∃ after, runs w inputs obsw = some after ∧ Ordered after := by
  induction inputs generalizing obsw with
  | nil => exact ⟨obsw, rfl, ordered⟩
  | cons input rest inductionHypothesis =>
      obtain ⟨middle, stepped, middleSound, middleOrdered⟩ := ordered.step w input sound
      obtain ⟨after, ran, holds⟩ := inductionHypothesis middleSound middleOrdered
      exact ⟨after, (runs_cons stepped).trans ran, holds⟩

/-! ### Every run -/

theorem Accounted.step {w : Wiring cfg} (confined : w.ConfinesSchedule) (input : Input)
    {obsw : Obsw cfg} (sound : Sound obsw.board) (accounted : Accounted obsw) :
    ∃ after, step w obsw input = some after ∧ Sound after.board ∧ Accounted after := by
  cases silent : input.feeds with
  | false =>
      obtain ⟨board, link, ran, changes⟩ := step_quiet w sound silent
      exact ⟨_, ran, sound.changes changes,
        accounted.changes (input.reaches_release) changes rfl⟩
  | true =>
      cases input with
      | uplink frame =>
          obtain ⟨rc, after, ran, taken⟩ := feed_taken w .uplink frame sound
          exact ⟨after, by simp only [System.step, ran, Option.map_some], taken.sound sound,
            accounted.taken (by decide) taken⟩
      | scheduleRun now =>
          cases enabled : obsw.board.s11.enabled with
          | true =>
              obtain ⟨released, rest, after, ran, afterSound, law⟩ :=
                scheduleRun_released confined now sound enabled
              exact ⟨after, by simp only [System.step, ran, Option.map_some], afterSound,
                accounted.released enabled law⟩
          | false =>
              have idle : scheduleRun w now obsw = some (0, obsw) := S11.run_disabled now enabled
              exact ⟨obsw, by simp only [System.step, idle, Option.map_some], sound, accounted⟩
      | actionRun =>
          have closed : S19.Closed (Obsw.core.comp Board.events) (feed w .eventAction)
              (fun other => Sound other.board ∧ Accounted other) := by
            constructor
            · intro pkt other holds
              obtain ⟨rc, after, ran, taken⟩ := feed_taken w .eventAction pkt holds.1
              exact ⟨rc, after, ran, taken.sound holds.1, holds.2.taken (by decide) taken⟩
            · intro other holds
              exact ⟨holds.1.change (.eventAction _ .taken), ⟨holds.2.ledger, holds.2.fed⟩⟩
          obtain ⟨actions, after, ran, ⟨afterSound, afterAccounted⟩, _⟩ :=
            S19.run_dispatches closed ⟨sound, accounted⟩
          exact ⟨after, by simp only [System.step, actionRun, ran, Option.map_some], afterSound,
            afterAccounted⟩
      | _ => cases silent

theorem runs_accounted {w : Wiring cfg} (confined : w.ConfinesSchedule) (inputs : List Input)
    {obsw : Obsw cfg} (sound : Sound obsw.board) (accounted : Accounted obsw) :
    ∃ after, runs w inputs obsw = some after ∧ Sound after.board ∧ Accounted after := by
  induction inputs generalizing obsw with
  | nil => exact ⟨obsw, rfl, sound, accounted⟩
  | cons input rest inductionHypothesis =>
      obtain ⟨middle, stepped, middleSound, middleAccounted⟩ :=
        accounted.step confined input sound
      obtain ⟨after, ran, holds⟩ := inductionHypothesis middleSound middleAccounted
      exact ⟨after, (runs_cons stepped).trans ran, holds⟩

/-- In every state that a run from boot reaches, the request IDs are nonzero and
distinct, the table keeps its capacity, each accepted activity has been in the table
or left it exactly once, unaltered and for a lawful reason, and the packets fed by
the schedule are those of the released ones; acceptances and deletions are the
executed TC(11,4) and TC(11,5), and nothing is cleared without a TC(11,6); and an
enabled schedule run started there ends after releasing exactly the activities that
are due. -/
theorem runs_schedule {w : Wiring cfg} (confined : w.ConfinesSchedule) (inputs : List Input)
    {obsw : Obsw cfg} (booted : Booted obsw) :
    ∃ after, runs w inputs obsw = some after ∧
      S11.WellFormed cfg after.board.s11 ∧ Accounted after ∧ Ordered after ∧
      (after.board.s11.acts ++ after.board.s11.fates.map Prod.fst).Nodup ∧
      ∀ now, after.board.s11.enabled = true →
        ∃ released rest final, scheduleRun w now after = some (released.length, final) ∧
          Released now after released rest final := by
  obtain ⟨after, ran, sound, accounted⟩ := runs_accounted confined inputs booted.sound booted.accounted
  obtain ⟨same, sameRan, ordered⟩ := runs_ordered w inputs booted.sound booted.ordered
  rw [ran] at sameRan
  cases sameRan
  refine ⟨after, ran, sound.schedule, accounted, ordered, accounted.ledger.nodup, ?_⟩
  intro now enabled
  obtain ⟨released, rest, final, finished, _, law⟩ :=
    scheduleRun_released confined now sound enabled
  exact ⟨released, rest, final, finished, law⟩

/-- A dispatcher with routes for TC(11,4), TC(11,5), TC(11,6) and the ping. -/
def scheduleWiring : Wiring Config.default where
  routes := [⟨0xFFFF, 11, 4, .s11 .insert⟩, ⟨0xFFFF, 11, 5, .s11 .delete⟩,
    ⟨0xFFFF, 11, 6, .s11 .deleteAll⟩, ⟨0xFFFF, 17, 1, .s17⟩]
  gated := false
  functions := []
  reportsFit := default_reportsFit

theorem scheduleWiring_confines : scheduleWiring.ConfinesSchedule := by
  have served : ∀ entry ∈ scheduleWiring.routes,
      entry.handler.s11? = none ∨ entry.service = 11 := by decide
  intro entry listed command routed
  rcases served entry listed with foreign | own
  · rw [routed] at foreign
    cases foreign
  · exact own

/-- The user data of a TC(11,4) for a ping with this sequence count at coarse time 1. -/
def pingAt (seqCount : UInt8) : List UInt8 := [0, 0, 0, 1, 0, 0] ++ tcFrame 17 1 seqCount []

def insertFrame (seqCount : UInt8) : List UInt8 := tcFrame 11 4 0 (pingAt seqCount)

/-- Two pings for time 1 and one for time 9; the second is deleted, and the schedule
runs at time 2. -/
def pingInputs : List Input :=
  [.uplink (insertFrame 0), .uplink (insertFrame 1),
    .uplink (tcFrame 11 4 0 ([0, 0, 0, 9, 0, 0] ++ tcFrame 17 1 2 [])),
    .uplink (tcFrame 11 5 0 [0, 2]), .scheduleRun ⟨2, 0, 0⟩]

/-- The first ping is released, the second deleted, the third released at its time. -/
theorem cold_schedule :
    ∃ after, runs scheduleWiring pingInputs (Obsw.cold Config.default) = some after ∧
      S11.WellFormed Config.default after.board.s11 ∧ Accounted after ∧ Ordered after ∧
      after.board.s11.acts.map (fun a => a.requestId) = [3] ∧
      after.board.s11.fates.map (fun entry => (entry.1.requestId, entry.2)) =
        [(2, .deleted 2), (1, .released 0x20000 true)] ∧
      fedFrom .schedule after = [tcFrame 17 1 0 []] ∧
      ∃ released rest final,
        scheduleRun scheduleWiring ⟨9, 0, 0⟩ after = some (released.length, final) ∧
          Released ⟨9, 0, 0⟩ after released rest final ∧
          released.map (fun a => a.requestId) = [3] := by
  obtain ⟨after, ran, wf, accounted, ordered, _, law⟩ :=
    runs_schedule scheduleWiring_confines pingInputs (cold_booted Config.default)
  have outcome : (runs scheduleWiring pingInputs (Obsw.cold Config.default)).map (fun after =>
      (after.board.s11.acts.map (fun a => a.requestId), fedFrom .schedule after,
        after.board.s11.enabled)) = some ([3], [tcFrame 17 1 0 []], true) := by
    decide +kernel
  have fates : (runs scheduleWiring pingInputs (Obsw.cold Config.default)).map (fun after =>
      after.board.s11.fates.map (fun entry => (entry.1.requestId, entry.2))) =
        some [(2, .deleted 2), (1, .released 0x20000 true)] := by
    decide +kernel
  have due : ((runs scheduleWiring pingInputs (Obsw.cold Config.default)).bind
      (scheduleRun scheduleWiring ⟨9, 0, 0⟩)).map (fun result => result.2.board.s11.acts) =
        some [] := by
    decide +kernel
  rw [ran] at outcome fates due
  simp only [Option.map_some, Option.some.injEq, Prod.mk.injEq] at outcome fates
  obtain ⟨acts, fed, enabled⟩ := outcome
  obtain ⟨released, rest, final, finished, third⟩ := law ⟨9, 0, 0⟩ enabled
  rw [Option.bind_some, finished, Option.map_some, Option.some.injEq, third.table] at due
  have none : rest = [] := due
  have all : after.board.s11.acts.Perm released := by
    have perm := third.releases.perm
    rwa [none, List.append_nil] at perm
  have ids := all.symm.map (fun a => a.requestId)
  rw [acts] at ids
  exact ⟨after, ran, wf, accounted, ordered, acts, fates, fed, released, rest, final, finished,
    third, List.perm_singleton.mp ids⟩

end Openobsw.System
