import Mathlib.Data.List.Infix
import Openobsw.Pus.S3Requests

/-!
Owns housekeeping over whole runs: from a boot configuration on, the set table and
the parameter pool follow an ordered list of report structures in lock-step.
-/

namespace Openobsw.Pus.S3

open Openobsw.Lib.Tables Openobsw.Pus.S1 Openobsw.Pus.Handler Openobsw.Util

variable {cfg : Config}

/-! ### Runs -/

/-- Housekeeping with what it shares: the parameter table of S20, the variables of
the application, and the S1 link. -/
structure World (cfg : Config) where
  s3 : Ctx
  s20 : S20.Ctx
  app : Nat → UInt32
  link : Link cfg

def World.vars (world : World cfg) : Variables where
  table := world.s20.table
  app := world.app

/-- What can happen: a TC, a TC(20,1), a tick, an on-demand report, or new values in
the variables of the application. -/
inductive Operation where
  | handled (command : Command) (tc : Tc)
  | setParameter (tc : Tc)
  | tick
  | report (setId : UInt8)
  | assign (app : Nat → UInt32)

def Operation.run (world : World cfg) : Operation → Option (World cfg)
  | .handled command tc => do
      let (_, s3, link) ← handle world.s20.table command tc world.s3 world.link
      return { world with s3 := s3, link := link }
  | .setParameter tc => do
      let (_, s20, link) ← S20.handle .set tc world.s20 world.link
      return { world with s20 := s20, link := link }
  | .tick => do
      let (s3, tm) ← S3.tick world.vars world.s3 world.link.tm
      return { world with s3 := s3, link := { world.link with tm := tm } }
  | .report setId => do
      let (_, s3, tm) ← S3.report world.vars setId world.s3 world.link.tm
      return { world with s3 := s3, link := { world.link with tm := tm } }
  | .assign app => some { world with app := app }

/-- A sequence of operations; `none` is a fault in one of them. -/
def runs (operations : List Operation) (world : World cfg) : Option (World cfg) :=
  operations.foldlM Operation.run world

/-- What an operation does to the structures, with the limits of `s` and the parameter IDs of
`table`. A command whose request can be done is executed; any other changes nothing. -/
inductive Evolves (cfg : Config) (table : List S20.Param) (s : Ctx) (structures : List Structure) :
    Operation → List Structure → Prop
  | rejected {command : Command} {tc : Tc}
      (infeasible : ¬ Feasible cfg table s structures tc command) :
      Evolves cfg table s structures (.handled command tc) structures
  | commanded {command : Command} {tc : Tc} {others : List Structure}
      (feasible : Feasible cfg table s structures tc command)
      (done : Commanded tc structures command others) :
      Evolves cfg table s structures (.handled command tc) others
  | ticked : Evolves cfg table s structures .tick (structures.map (fun a => a.ticked.2))
  | reported (setId : UInt8) : Evolves cfg table s structures (.report setId) structures
  | parameterSet (tc : Tc) : Evolves cfg table s structures (.setParameter tc) structures
  | assigned (app : Nat → UInt32) : Evolves cfg table s structures (.assign app) structures

inductive Evolution (cfg : Config) (table : List S20.Param) (s : Ctx) :
    List Structure → List Operation → List Structure → Prop
  | nil (structures : List Structure) : Evolution cfg table s structures [] structures
  | cons {structures middle others : List Structure} {operation : Operation}
      {rest : List Operation} (first : Evolves cfg table s structures operation middle)
      (later : Evolution cfg table s middle rest others) :
      Evolution cfg table s structures (operation :: rest) others

theorem CreatedFrom.unique {u : List UInt8} {a b : Structure} (first : CreatedFrom u a)
    (second : CreatedFrom u b) : a = b := by
  obtain ⟨n, ids, count, read, source⟩ := first.source
  obtain ⟨m, others, otherCount, otherRead, otherSource⟩ := second.source
  rw [Option.some.inj (count.symm.trans otherCount)] at read
  have setId := Option.some.inj (first.setId.symm.trans second.setId)
  have interval := Option.some.inj (first.interval.symm.trans second.interval)
  have sameIds := Option.some.inj (read.symm.trans otherRead)
  have sameSource : a.source = b.source := by rw [source, otherSource, sameIds]
  have countdown : a.countdown = b.countdown := by
    rw [first.countdown, second.countdown, interval]
  have enabled : a.enabled = b.enabled := first.disabled.trans second.disabled.symm
  cases a
  cases b
  simp_all

theorem Commanded.unique {tc : Tc} {structures first second : List Structure} {command : Command}
    (one : Commanded tc structures command first) (two : Commanded tc structures command second) :
    first = second := by
  cases one with
  | define u a present created =>
      cases two with
      | define v b other createdOther =>
          rw [present, Option.some.injEq] at other
          subst other
          rw [created.unique createdOther]
  | delete u setIds present lists removables =>
      cases two with
      | delete v others other listsOther removablesOther =>
          rw [present, Option.some.injEq] at other
          subst other
          obtain ⟨n, count, read⟩ := lists
          obtain ⟨m, otherCount, otherRead⟩ := listsOther
          rw [Option.some.inj (count.symm.trans otherCount)] at read
          rw [Option.some.inj (read.symm.trans otherRead)]
  | enable u setId interval present named read =>
      cases two with
      | enable v otherId otherInterval other namedOther readOther =>
          rw [present, Option.some.injEq] at other
          subst other
          rw [Option.some.inj (named.symm.trans namedOther),
            Option.some.inj (read.symm.trans readOther)]
  | disable u setId present named =>
      cases two with
      | disable v otherId other namedOther =>
          rw [present, Option.some.injEq] at other
          subst other
          rw [Option.some.inj (named.symm.trans namedOther)]

/-- The operations determine the structures. -/
theorem Evolution.unique {table : List S20.Param} {s : Ctx} {operations : List Operation}
    {structures first second : List Structure}
    (one : Evolution cfg table s structures operations first)
    (two : Evolution cfg table s structures operations second) : first = second := by
  induction one with
  | nil structures =>
      cases two
      rfl
  | cons evolves later inductionHypothesis =>
      cases two with
      | cons evolvesOther laterOther =>
          apply inductionHypothesis
          cases evolves with
          | rejected infeasible =>
              cases evolvesOther with
              | rejected => exact laterOther
              | commanded feasible done => exact absurd feasible infeasible
          | commanded feasible done =>
              cases evolvesOther with
              | rejected infeasible => exact absurd feasible infeasible
              | commanded feasibleOther doneOther => exact done.unique doneOther ▸ laterOther
          | _ =>
              cases evolvesOther
              exact laterOther

/-- The set table and the pool of a world hold exactly these structures. -/
def World.Holds (world : World cfg) (structures : List Structure) : Prop :=
  Represents cfg world.s20.table world.s3 structures

/-- What a world keeps of the parameter table and of the limits of housekeeping. -/
structure World.Keeps (world : World cfg) (table : List S20.Param) (s : Ctx) : Prop where
  ids : world.s20.table.map (fun param => param.paramId) = table.map (fun param => param.paramId)
  limits : s.SameLimits world.s3

theorem World.Keeps.after {world after : World cfg} {s : Ctx} {table : List S20.Param}
    (keeps : world.Keeps table s) (limits : world.s3.SameLimits after.s3)
    (ids : after.s20.table.map (fun param => param.paramId) =
      world.s20.table.map (fun param => param.paramId)) : after.Keeps table s :=
  ⟨ids.trans keeps.ids, keeps.limits.trans limits⟩

theorem World.Holds.handled {world : World cfg} {structures : List Structure}
    (holds : world.Holds structures) {table : List S20.Param} {s : Ctx}
    (keeps : world.Keeps table s) (command : Command) (tc : Tc) :
    ∃ after others, (Operation.handled command tc).run world = some after ∧
      Evolves cfg table s structures (.handled command tc) others ∧ after.Holds others ∧
      after.Keeps table s := by
  have updates := handle_updates holds command tc world.link
  have executes := holds.executes_iff command tc world.link
  have frame := handle_ensures world.s20.table command tc world.s3 world.link
  rw [feasible_congr keeps.limits keeps.ids] at executes
  generalize ran : handle world.s20.table command tc world.s3 world.link = result
    at updates executes frame
  unfold Operation.run
  simp only [ran, Option.bind_eq_bind]
  cases updates with
  | rejected code known =>
      have infeasible : ¬ Feasible cfg table s structures tc command := by
        intro feasible
        obtain ⟨after, executed⟩ := executes.mpr feasible
        cases executed
      exact ⟨_, structures, rfl, .rejected infeasible, holds, keeps.after (.refl world.s3) rfl⟩
  | executed after updated =>
      obtain ⟨others, done, represented⟩ := updated
      exact ⟨_, others, rfl, .commanded (executes.mp ⟨after, rfl⟩) done, represented,
        keeps.after (frame _ rfl).limits rfl⟩

theorem World.Holds.step {world : World cfg} {structures : List Structure}
    (holds : world.Holds structures) {table : List S20.Param} {s : Ctx}
    (keeps : world.Keeps table s) (operation : Operation) :
    ∃ after others, operation.run world = some after ∧
      Evolves cfg table s structures operation others ∧ after.Holds others ∧
      after.Keeps table s := by
  cases operation with
  | handled command tc => exact holds.handled keeps command tc
  | setParameter tc =>
      obtain ⟨out, ran⟩ := S20.handle_isSome .set tc world.s20 world.link
      have ids := S20.handle_ids ran
      unfold Operation.run
      simp only [ran, Option.bind_eq_bind, Option.bind_some]
      exact ⟨_, structures, rfl, .parameterSet tc, holds.revalue ids,
        keeps.after (.refl world.s3) ids⟩
  | tick =>
      obtain ⟨s3, tm, ran, represented, _⟩ := holds.tick world.vars rfl world.link.tm
      unfold Operation.run
      simp only [ran, Option.bind_eq_bind, Option.bind_some]
      exact ⟨_, _, rfl, .ticked, represented, keeps.after (tickFrom_limits ran) rfl⟩
  | report setId =>
      obtain ⟨rc, s3, tm, ran, represented, _⟩ :=
        holds.report world.vars rfl setId world.link.tm
      unfold Operation.run
      simp only [ran, Option.bind_eq_bind, Option.bind_some]
      exact ⟨_, structures, rfl, .reported setId, represented, keeps.after (report_limits ran) rfl⟩
  | assign app =>
      exact ⟨{ world with app := app }, structures, rfl, .assigned app, holds,
        keeps.after (.refl world.s3) rfl⟩

/-! ### What stays of the boot configuration and of each TC(3,1) -/

/-- What never changes of a structure. -/
def Structure.identity (a : Structure) : UInt8 × Source := (a.setId, a.source)

theorem changed_identity (setId : UInt8) (change : Structure → Structure)
    (keeps : ∀ a, (change a).identity = a.identity) (structures : List Structure) :
    (changed setId change structures).map Structure.identity =
      structures.map Structure.identity := by
  unfold changed
  rw [List.map_map]
  apply List.map_congr_left
  intro a _
  show (if a.setId = setId then change a else a).identity = a.identity
  split
  · exact keeps a
  · rfl

/-- Boot-time structures at the front of the list stay there. -/
theorem Evolves.boot_prefix {table : List S20.Param} {s : Ctx} {structures others : List Structure}
    {operation : Operation} (evolves : Evolves cfg table s structures operation others)
    (distinct : (structures.map (fun a => a.setId)).Nodup) {boots : List (UInt8 × Source)}
    (bootTime : ∀ entry ∈ boots, ∃ params count, entry.2 = .boot params count)
    (front : boots <+: structures.map Structure.identity) :
    boots <+: others.map Structure.identity := by
  cases evolves with
  | commanded feasible done =>
      cases done with
      | define u a present created =>
          rw [List.map_append]
          exact front.trans (List.prefix_append _ _)
      | delete u setIds present lists removables =>
          obtain ⟨rest, split⟩ := front
          obtain ⟨first, second, shape, firstMap, _⟩ := List.map_eq_append_iff.mp split.symm
          -- what TC(3,3) removes was created, and IDs are distinct
          have stays : without setIds first = first := by
            apply List.filter_eq_self.mpr
            intro a inFirst
            have inBoots : a.identity ∈ boots := firstMap ▸ List.mem_map_of_mem inFirst
            obtain ⟨params, count, boot⟩ := bootTime _ inBoots
            have member : a ∈ structures := by
              rw [shape]
              exact List.mem_append_left _ inFirst
            refine decide_eq_true ?_
            intro removed
            obtain ⟨b, bMember, named, _, ids, createdSource⟩ := removables a.setId removed
            have one := List.inj_on_of_nodup_map distinct bMember member named
            rw [one] at createdSource
            have source : a.source = .boot params count := boot
            rw [source] at createdSource
            cases createdSource
          have left : without setIds structures = first ++ without setIds second := by
            rw [shape]
            show (first ++ second).filter _ = _
            rw [List.filter_append]
            exact congrArg (· ++ _) stays
          rw [left, List.map_append, firstMap]
          exact List.prefix_append _ _
      | enable u setId interval present named read =>
          rwa [changed_identity setId (Structure.started interval) (fun _ => rfl)]
      | disable u setId present named =>
          rwa [changed_identity setId Structure.stopped (fun _ => rfl)]
  | ticked =>
      have same : (structures.map (fun a => a.ticked.2)).map Structure.identity =
          structures.map Structure.identity := by
        rw [List.map_map]
        apply List.map_congr_left
        intro a _
        obtain ⟨sameId, sameSource⟩ := ticked_keeps a
        exact Prod.ext sameId sameSource
      rwa [same]
  | _ => exact front

/-- A TC(3,1) of the sequence asked for this set ID and these parameters. -/
def DefinedBy (operations : List Operation) (identity : UInt8 × Source) : Prop :=
  ∃ tc u a, .handled .define tc ∈ operations ∧ tc.userData = some u ∧ CreatedFrom u a ∧
    a.identity = identity

/-- Whatever is in the list was there before or comes from a TC(3,1). -/
theorem Evolves.origin {table : List S20.Param} {s : Ctx} {structures others : List Structure}
    {operation : Operation} (evolves : Evolves cfg table s structures operation others)
    {a : Structure} (member : a ∈ others) :
    a.identity ∈ structures.map Structure.identity ∨ DefinedBy [operation] a.identity := by
  have kept : others.map Structure.identity = structures.map Structure.identity →
      a.identity ∈ structures.map Structure.identity := by
    intro same
    rw [← same]
    exact List.mem_map_of_mem member
  cases evolves with
  | @commanded command tc others feasible done =>
      cases done with
      | define u created present from_ =>
          rcases List.mem_append.mp member with before | last
          · exact .inl (List.mem_map_of_mem before)
          · rw [List.mem_singleton.mp last]
            exact .inr ⟨tc, u, created, List.mem_singleton_self _, present, from_, rfl⟩
      | delete u setIds present lists removables =>
          exact .inl (List.mem_map_of_mem (List.mem_of_mem_filter member))
      | enable u setId interval present named read =>
          exact .inl (kept (changed_identity setId (Structure.started interval) (fun _ => rfl) structures))
      | disable u setId present named =>
          exact .inl (kept (changed_identity setId Structure.stopped (fun _ => rfl) structures))
  | ticked =>
      obtain ⟨b, inStructures, rfl⟩ := List.mem_map.mp member
      obtain ⟨sameId, sameSource⟩ := ticked_keeps b
      have same : b.ticked.2.identity = b.identity := Prod.ext sameId sameSource
      rw [same]
      exact .inl (List.mem_map_of_mem inStructures)
  | _ => exact .inl (List.mem_map_of_mem member)

/-! ### The set table and the pool -/

/-- The pool slices of a set table, each with its offset and its length. -/
def slices (sets : List HkSet) : List (Nat × Nat) :=
  sets.filterMap (fun set =>
    match set.params with
    | .pool offset => some (offset, set.paramCount.toNat)
    | .boot _ => none)

/-- Nonempty slices follow one another from `start` to `stop` without gap or overlap. -/
def Tiles : Nat → List (Nat × Nat) → Nat → Prop
  | start, [], stop => start = stop
  | start, (offset, length) :: rest, stop =>
      offset = start ∧ 0 < length ∧ Tiles (start + length) rest stop

theorem layout_tiles (offset : Nat) (structures : List Structure)
    (sized : ∀ a ∈ structures, ∀ ids, a.source = .created ids → ids ≠ [] ∧ ids.length ≤ 255) :
    Tiles offset (slices (layout offset structures)) (offset + (poolIds structures).length) := by
  induction structures generalizing offset with
  | nil => rfl
  | cons a rest inductionHypothesis =>
      have tail := inductionHypothesis (offset + a.source.ids.length)
        (fun b member => sized b (List.mem_cons_of_mem a member))
      rw [poolIds_cons, List.length_append, ← Nat.add_assoc]
      cases source : a.source with
      | boot params count =>
          rw [source] at tail
          have unsliced : slices (layout offset (a :: rest)) = slices (layout offset rest) := by
            show slices (a.render offset :: layout (offset + a.source.ids.length) rest) = _
            rw [source]
            unfold slices Structure.render
            rw [List.filterMap_cons_none (by rw [source]; rfl)]
            rfl
          rw [unsliced]
          exact tail
      | created ids =>
          obtain ⟨nonempty, few⟩ := sized a List.mem_cons_self ids source
          have positive := List.length_pos_iff.mpr nonempty
          have count : (UInt8.ofNat ids.length).toNat = ids.length := by
            rw [UInt8.toNat_ofNat']
            omega
          rw [source] at tail
          have sliced : slices (layout offset (a :: rest)) =
              (offset, ids.length) :: slices (layout (offset + ids.length) rest) := by
            show slices (a.render offset :: layout (offset + a.source.ids.length) rest) = _
            rw [source]
            unfold slices Structure.render
            rw [List.filterMap_cons_some (b := (offset, ids.length))]
            · rfl
            · rw [source]
              show some (offset, (UInt8.ofNat ids.length).toNat) = _
              rw [count]
          rw [sliced]
          exact ⟨rfl, positive, tail⟩

/-- The part of a set that the boot configuration fixes. -/
def HkSet.fixed (set : HkSet) : UInt8 × ParamsPtr × UInt8 :=
  (set.setId, set.params, set.paramCount)

/-- The fixed part of the set of a boot-time structure. -/
def fixedOf (identity : UInt8 × Source) : UInt8 × ParamsPtr × UInt8 :=
  (identity.1, identity.2.pointer 0, identity.2.count)

theorem layout_fixed (offset : Nat) {structures : List Structure}
    (bootTime : ∀ a ∈ structures, ∃ params count, a.source = .boot params count) :
    (layout offset structures).map HkSet.fixed =
      (structures.map Structure.identity).map fixedOf := by
  induction structures generalizing offset with
  | nil => rfl
  | cons a rest inductionHypothesis =>
      have tail := inductionHypothesis (offset + a.source.ids.length)
        (fun b member => bootTime b (List.mem_cons_of_mem a member))
      obtain ⟨params, count, source⟩ := bootTime a List.mem_cons_self
      have head : (a.render offset).fixed = fixedOf a.identity := by
        unfold HkSet.fixed fixedOf Structure.identity Structure.render
        rw [source]
        rfl
      show (a.render offset).fixed :: (layout _ rest).map HkSet.fixed = _
      rw [head, tail]
      rfl

/-- What a run from `booted` keeps of the set table and the pool. -/
structure Kept (booted after : Ctx) : Prop where
  idsDistinct : (after.sets.map (fun set => set.setId)).Nodup
  bootSets : booted.sets.map HkSet.fixed <+: after.sets.map HkSet.fixed
  sliced : Tiles 0 (slices after.sets) after.paramPoolUsed
  poolFits : after.paramPoolUsed ≤ after.paramPoolLen.toNat
  setsFit : after.sets.length ≤ after.setCapacity.toNat

theorem boot_identities (sets : List HkSet) :
    ∀ entry ∈ (sets.map HkSet.bootStructure).map Structure.identity,
      ∃ params count, entry.2 = .boot params count := by
  intro entry listed
  obtain ⟨a, member, rfl⟩ := List.mem_map.mp listed
  obtain ⟨set, _, rfl⟩ := List.mem_map.mp member
  exact ⟨_, _, rfl⟩

theorem boot_fixed {table : List S20.Param} {s : Ctx} (boot : Boot table s) :
    ((s.sets.map HkSet.bootStructure).map Structure.identity).map fixedOf =
      s.sets.map HkSet.fixed := by
  rw [List.map_map, List.map_map]
  apply List.map_congr_left
  intro set member
  obtain ⟨params, pointer, _⟩ := boot.arrays set member
  show fixedOf set.bootStructure.identity = set.fixed
  unfold HkSet.bootStructure HkSet.fixed
  rw [pointer]
  rfl

theorem Represents.kept {table : List S20.Param} {s : Ctx} {structures : List Structure}
    (represents : Represents cfg table s structures) {first : List S20.Param} {booted : Ctx}
    (boot : Boot first booted)
    (front : (booted.sets.map HkSet.bootStructure).map Structure.identity <+:
      structures.map Structure.identity) : Kept booted s where
  idsDistinct := by
    rw [represents.sets, layout_setIds]
    exact represents.idsDistinct
  bootSets := by
    obtain ⟨rest, split⟩ := front
    obtain ⟨bootTime, others, shape, same, _⟩ := List.map_eq_append_iff.mp split.symm
    have sources : ∀ a ∈ bootTime, ∃ params count, a.source = .boot params count :=
      fun a member => boot_identities booted.sets a.identity (same ▸ List.mem_map_of_mem member)
    rw [represents.sets, shape, layout_append, List.map_append, layout_fixed 0 sources, same,
      boot_fixed boot]
    exact List.prefix_append _ _
  sliced := by
    have tiled := layout_tiles 0 structures (by
      intro a member ids source
      have reportable := represents.reportable a member
      rw [source] at reportable
      exact ⟨reportable.1, reportable.2.1⟩)
    rw [Nat.zero_add] at tiled
    rw [represents.sets, represents.used]
    exact tiled
  poolFits := by
    rw [represents.used]
    exact represents.poolFits
  setsFit := by
    rw [represents.sets, layout_length]
    exact represents.setsFit

/-! ### Every run -/

/-- The reports of these structures carry their current values, and those of a
created structure the raw values of the parameters it was created from. -/
structure ReportsValues (world : World cfg) (structures : List Structure) : Prop where
  onDemand : ∀ a ∈ structures, ∃ rc s3 tm,
    report world.vars a.setId world.s3 world.link.tm = some (rc, s3, tm) ∧
      Emitted (a.report cfg world.vars) world.link.tm tm
  periodic : ∃ s3 tm, tick world.vars world.s3 world.link.tm = some (s3, tm) ∧
    Emitted (structures.flatMap (Structure.dueReport cfg world.vars)) world.link.tm tm
  created : ∀ a ∈ structures, ∀ ids, a.source = .created ids →
    ∀ data ∈ a.report cfg world.vars,
      data = a.setId :: ids.flatMap (fun id => putBe32 (rawValue world.s20.table id))
  fits : 17 ≤ cfg.tmMaxPacketLen → cfg.tmMaxPacketLen ≤ 65536 → ∀ a ∈ structures, ∀ ids,
    a.source = .created ids → a.report cfg world.vars ≠ []

theorem World.Holds.reportsValues {world : World cfg} {structures : List Structure}
    (holds : world.Holds structures) : ReportsValues world structures where
  onDemand := by
    intro a member
    obtain ⟨rc, s3, tm, ran, _, data⟩ := holds.report world.vars rfl a.setId world.link.tm
    exact ⟨rc, s3, tm, ran, data a member rfl⟩
  periodic := by
    obtain ⟨s3, tm, ran, _, data⟩ := holds.tick world.vars rfl world.link.tm
    exact ⟨s3, tm, ran, data⟩
  created := by
    intro a member ids source data listed
    unfold Structure.report at listed
    split at listed
    · rw [List.mem_singleton.mp listed]
      unfold Structure.values
      rw [source]
      rfl
    · cases listed
  fits := by
    intro atLeast atMost a member ids source
    rw [report_created source (holds.reportable a member) atLeast atMost]
    exact List.cons_ne_nil _ _

theorem World.Holds.runs {world : World cfg} {structures : List Structure}
    (holds : world.Holds structures) {table : List S20.Param} {s : Ctx}
    (keeps : world.Keeps table s) {boots : List (UInt8 × Source)}
    (bootTime : ∀ entry ∈ boots, ∃ params count, entry.2 = .boot params count)
    (front : boots <+: structures.map Structure.identity) (operations : List Operation) :
    ∃ after others, S3.runs operations world = some after ∧
      Evolution cfg table s structures operations others ∧ after.Holds others ∧
      boots <+: others.map Structure.identity ∧
      ∀ a ∈ others, a.identity ∈ structures.map Structure.identity ∨
        DefinedBy operations a.identity := by
  induction operations generalizing world structures with
  | nil =>
      exact ⟨world, structures, rfl, .nil structures, holds, front,
        fun a member => .inl (List.mem_map_of_mem member)⟩
  | cons operation rest inductionHypothesis =>
      obtain ⟨middle, between, ran, evolves, middleHolds, middleKeeps⟩ := holds.step keeps operation
      have middleFront := evolves.boot_prefix holds.idsDistinct bootTime front
      obtain ⟨after, others, finished, evolution, afterHolds, afterFront, origins⟩ :=
        inductionHypothesis middleHolds middleKeeps middleFront
      refine ⟨after, others, ?_, .cons evolves evolution, afterHolds, afterFront, ?_⟩
      · unfold S3.runs
        rw [List.foldlM_cons, ran]
        exact finished
      · intro a member
        rcases origins a member with earlier | ⟨tc, u, b, listed, present, created, same⟩
        · obtain ⟨b, bMember, same⟩ := List.mem_map.mp earlier
          rw [← same]
          rcases evolves.origin bMember with before | ⟨tc, u, c, listed, present, created, named⟩
          · exact .inl before
          · rw [List.mem_singleton] at listed
            exact .inr ⟨tc, u, c, listed ▸ List.mem_cons_self, present, created, named⟩
        · exact .inr ⟨tc, u, b, List.mem_cons_of_mem operation listed, present, created, same⟩

/-- A run from a boot configuration never faults, and the set table and the pool hold
the structures that its operations lead to, one step at a time: what can be done is done,
created ones go to the end, deleted ones go and leave the others as they were. Set IDs stay
distinct, boot sets keep their place, parameters and counts, the slices of the created sets
tile the used pool, each created set lists what its TC(3,1) asked for, and reports
carry the current values. -/
theorem runs_housekeeping (operations : List Operation) {world : World cfg}
    (boot : Boot world.s20.table world.s3) :
    ∃ after structures, runs operations world = some after ∧
      Evolution cfg world.s20.table world.s3 (world.s3.sets.map HkSet.bootStructure) operations
        structures ∧
      after.Holds structures ∧ Kept world.s3 after.s3 ∧
      (∀ a ∈ structures, ∀ ids, a.source = .created ids → DefinedBy operations a.identity) ∧
      ReportsValues after structures := by
  have holds : world.Holds (world.s3.sets.map HkSet.bootStructure) := boot.represents
  obtain ⟨after, structures, ran, evolution, afterHolds, front, origins⟩ :=
    holds.runs ⟨rfl, .refl world.s3⟩ (boot_identities _) (List.prefix_refl _) operations
  refine ⟨after, structures, ran, evolution, afterHolds, afterHolds.kept boot front, ?_,
    afterHolds.reportsValues⟩
  intro a member ids source
  rcases origins a member with booted | defined
  · obtain ⟨params, count, bootSource⟩ := boot_identities _ _ booted
    rw [show a.identity.2 = .created ids from source] at bootSource
    cases bootSource
  · exact defined

/-- Two sets at boot, room for two more, and two parameters. -/
def bootWorld : World Config.default where
  s3 := {
    apid := 0
    msgCounter := 0
    timestamp := 0
    sets := [
      { setId := 1, params := .boot [⟨.app 0, .u16⟩], paramCount := 1, intervalTicks := 10,
        countdown := 10, enabled := true },
      { setId := 2, params := .boot [⟨.s20 1, .u32⟩], paramCount := 1, intervalTicks := 0,
        countdown := 0, enabled := false }]
    setCapacity := 4
    paramPool := some []
    paramPoolLen := 8
    paramTableLen := 2 }
  s20 := {
    apid := 0
    msgCounter := 0
    timestamp := 0
    table := [⟨0x0100, 7, .u32⟩, ⟨0x0200, 8, .f32⟩] }
  app := fun _ => 0
  link := {
    ctx := {
      apid := 0
      msgCounter := 0
      timestamp := 0 }
    tm := {
      store := Tm.Store.init Config.default
      log := [] } }

theorem bootWorld_boot : Boot bootWorld.s20.table bootWorld.s3 where
  arrays := by
    intro set member
    simp only [bootWorld, List.mem_cons, List.not_mem_nil, or_false] at member
    rcases member with rfl | rfl
    · exact ⟨_, rfl, by decide, by simp⟩
    · exact ⟨_, rfl, by decide, by simp [bootWorld]⟩
  idsDistinct := by decide
  fits := by decide
  unused := rfl

/-- A TC(3,1) for set 5 with both parameters, then a tick. -/
theorem bootWorld_housekept :
    ∃ after structures,
      runs [.handled .define ⟨0x010, 3, 1, 0, some [5, 0, 0, 0, 9, 2, 1, 0, 2, 0]⟩, .tick]
        bootWorld = some after ∧
      after.Holds structures ∧ Kept bootWorld.s3 after.s3 ∧ ReportsValues after structures := by
  obtain ⟨after, structures, ran, _, holds, kept, _, values⟩ := runs_housekeeping
    [.handled .define ⟨0x010, 3, 1, 0, some [5, 0, 0, 0, 9, 2, 1, 0, 2, 0]⟩, .tick] bootWorld_boot
  exact ⟨after, structures, ran, holds, kept, values⟩

end Openobsw.Pus.S3
