import Openobsw.Lib.Objects
import Openobsw.Srdb.Composition

/-!
Owns composition on the objects themselves: the records and lists of a heap, the deep
copies that the composer takes of them, and the lists that it fills.
-/

namespace Openobsw.Srdb

open Openobsw.Lib.Objects

variable {F : Type}

/-- The objects of the process, each kind at its own addresses. A record is one object
with all that it holds, so its copy is a deep one. -/
structure Heap (py : Python F) where
  spacecraft : List (Validated Spacecraft.validate) := []
  parameters : Store (Validated (Parameter.validate py)) := {}
  telecommands : Store (Validated Telecommand.validate) := {}
  hkSets : Store (Validated HKSet.validate) := {}
  events : Store (Validated Event.validate) := {}

/-- An `SRDB` object: the addresses of its spacecraft record and of its lists. -/
structure SrdbObject where
  spacecraft : Nat
  parameters : Nat
  telecommands : Nat
  hkSets : Nat
  events : Nat
deriving DecidableEq, Repr

/-- An `SRDBContribution` object: tuples of addresses of records. -/
structure ContributionObject where
  parameters : List Nat := []
  telecommands : List Nat := []
  hkSets : List Nat := []
  events : List Nat := []
deriving DecidableEq, Repr

variable {py : Python F}

/-- The database that an object stands for. -/
def Heap.srdb (heap : Heap py) (object : SrdbObject) : Option (SRDB py) := do
  let spacecraft ← heap.spacecraft[object.spacecraft]?
  let parameters ← heap.parameters.readList object.parameters
  let telecommands ← heap.telecommands.readList object.telecommands
  let hkSets ← heap.hkSets.readList object.hkSets
  let events ← heap.events.readList object.events
  return ⟨spacecraft, parameters, telecommands, hkSets, events⟩

/-- The contribution that an object stands for. -/
def Heap.contribution (heap : Heap py) (object : ContributionObject) :
    Option (Contribution py) := do
  let parameters ← heap.parameters.readAll object.parameters
  let telecommands ← heap.telecommands.readAll object.telecommands
  let hkSets ← heap.hkSets.readAll object.hkSets
  let events ← heap.events.readAll object.events
  return ⟨parameters, telecommands, hkSets, events⟩

/-! ### `SRDBComposer.compose` on objects -/

/-- The four lists that `compose` fills. -/
structure ComposedLists where
  parameters : Nat
  telecommands : Nat
  hkSets : Nat
  events : Nat
deriving DecidableEq, Repr

/-- New lists of copies of the base's records -/
def copyBase (heap : Heap py) (base : SrdbObject) : Option (Heap py × ComposedLists) := do
  let (parameters, parameterList) ← heap.parameters.copyList base.parameters
  let (telecommands, telecommandList) ← heap.telecommands.copyList base.telecommands
  let (hkSets, hkSetList) ← heap.hkSets.copyList base.hkSets
  let (events, eventList) ← heap.events.copyList base.events
  return ({ heap with parameters, telecommands, hkSets, events },
    ⟨parameterList, telecommandList, hkSetList, eventList⟩)

/-- Copies of the records of one contribution behind those that are there -/
def addContribution (lists : ComposedLists) (heap : Heap py) (contribution : ContributionObject) :
    Option (Heap py) := do
  let parameters ← heap.parameters.extend lists.parameters contribution.parameters
  let telecommands ← heap.telecommands.extend lists.telecommands contribution.telecommands
  let hkSets ← heap.hkSets.extend lists.hkSets contribution.hkSets
  let events ← heap.events.extend lists.events contribution.events
  return { heap with parameters, telecommands, hkSets, events }

/-- `SRDBComposer.compose`: the heap afterwards, and the object returned or the error
raised. There is no result when an address holds no object. -/
def composeObjects (heap : Heap py) (base : SrdbObject) (contributions : List ContributionObject) :
    Option (Heap py × Except CompositionError SrdbObject) := do
  let (heap, lists) ← copyBase heap base
  let heap ← contributions.foldlM (addContribution lists) heap
  let parameters ← heap.parameters.readList lists.parameters
  let telecommands ← heap.telecommands.readList lists.telecommands
  let hkSets ← heap.hkSets.readList lists.hkSets
  let events ← heap.events.readList lists.events
  match composeChecks parameters telecommands hkSets events with
  | .error failure => return (heap, .error failure)
  | .ok () =>
      let spacecraft ← heap.spacecraft[base.spacecraft]?
      -- the constructor of `SRDB` takes the records of the lists as they are
      return ({ heap with spacecraft := heap.spacecraft ++ [spacecraft] },
        .ok ⟨heap.spacecraft.length, lists.parameters, lists.telecommands, lists.hkSets,
          lists.events⟩)

theorem except_map_eq_bind {ε α β : Type} (first : Except ε α) (f : α → β) :
    first.map f = first >>= fun a => pure (f a) := by
  cases first <;> rfl

/-- On values, composition is its checks and then the records in order. -/
theorem compose_eq_checks (base : SRDB py) (contributions : List (Contribution py)) :
    compose base contributions =
      (composeChecks (extended base contributions).parameters
        (extended base contributions).telecommands (extended base contributions).hkSets
        (extended base contributions).events).map (fun _ => extended base contributions) :=
  (except_map_eq_bind _ _).symm

/-! ### Objects that stay -/

/-- Every object of the first heap is in the second one, with what it held. -/
structure Heap.Grows (before after : Heap py) : Prop where
  spacecraft : ∀ {address : Nat} {record : Validated Spacecraft.validate},
    before.spacecraft[address]? = some record → after.spacecraft[address]? = some record
  parameters : before.parameters.Grows after.parameters
  telecommands : before.telecommands.Grows after.telecommands
  hkSets : before.hkSets.Grows after.hkSets
  events : before.events.Grows after.events

theorem Heap.srdb_eq_some {heap : Heap py} {object : SrdbObject} {db : SRDB py} :
    heap.srdb object = some db ↔ heap.spacecraft[object.spacecraft]? = some db.spacecraft ∧
      heap.parameters.readList object.parameters = some db.parameters ∧
      heap.telecommands.readList object.telecommands = some db.telecommands ∧
      heap.hkSets.readList object.hkSets = some db.hkSets ∧
      heap.events.readList object.events = some db.events := by
  unfold Heap.srdb
  simp only [bind, Option.bind_eq_some_iff, pure, Option.some.injEq]
  constructor
  · rintro ⟨_, spacecraft, _, parameters, _, telecommands, _, hkSets, _, events, rfl⟩
    exact ⟨spacecraft, parameters, telecommands, hkSets, events⟩
  · rintro ⟨spacecraft, parameters, telecommands, hkSets, events⟩
    exact ⟨_, spacecraft, _, parameters, _, telecommands, _, hkSets, _, events, rfl⟩

theorem Heap.contribution_eq_some {heap : Heap py} {object : ContributionObject}
    {contribution : Contribution py} :
    heap.contribution object = some contribution ↔
      heap.parameters.readAll object.parameters = some contribution.parameters ∧
      heap.telecommands.readAll object.telecommands = some contribution.telecommands ∧
      heap.hkSets.readAll object.hkSets = some contribution.hkSets ∧
      heap.events.readAll object.events = some contribution.events := by
  unfold Heap.contribution
  simp only [bind, Option.bind_eq_some_iff, pure, Option.some.injEq]
  constructor
  · rintro ⟨_, parameters, _, telecommands, _, hkSets, _, events, rfl⟩
    exact ⟨parameters, telecommands, hkSets, events⟩
  · rintro ⟨parameters, telecommands, hkSets, events⟩
    exact ⟨_, parameters, _, telecommands, _, hkSets, _, events, rfl⟩

theorem Heap.Grows.srdb {before after : Heap py} (grows : before.Grows after)
    {object : SrdbObject} {db : SRDB py} (found : before.srdb object = some db) :
    after.srdb object = some db := by
  obtain ⟨spacecraft, parameters, telecommands, hkSets, events⟩ := Heap.srdb_eq_some.mp found
  exact Heap.srdb_eq_some.mpr ⟨grows.spacecraft spacecraft, grows.parameters.readList parameters,
    grows.telecommands.readList telecommands, grows.hkSets.readList hkSets,
    grows.events.readList events⟩

theorem Heap.Grows.contribution {before after : Heap py} (grows : before.Grows after)
    {object : ContributionObject} {contribution : Contribution py}
    (found : before.contribution object = some contribution) :
    after.contribution object = some contribution := by
  obtain ⟨parameters, telecommands, hkSets, events⟩ := Heap.contribution_eq_some.mp found
  exact Heap.contribution_eq_some.mpr ⟨grows.parameters.readAll parameters,
    grows.telecommands.readAll telecommands, grows.hkSets.readAll hkSets,
    grows.events.readAll events⟩

/-! ### The composer fills its lists -/

/-- Between two steps of `compose`: its lists hold copies of the records of `db`, and
the objects of `start` are as they were. -/
structure Composing (start : Heap py) (lists : ComposedLists) (heap : Heap py) (db : SRDB py) :
    Prop where
  spacecraft : heap.spacecraft = start.spacecraft
  parameters : Store.Building start.parameters lists.parameters heap.parameters db.parameters
  telecommands :
    Store.Building start.telecommands lists.telecommands heap.telecommands db.telecommands
  hkSets : Store.Building start.hkSets lists.hkSets heap.hkSets db.hkSets
  events : Store.Building start.events lists.events heap.events db.events

theorem composing_copyBase {start : Heap py} {object : SrdbObject} {base : SRDB py}
    (found : start.srdb object = some base) :
    ∃ heap lists, copyBase start object = some (heap, lists) ∧
      Composing start lists heap (extended base []) := by
  obtain ⟨_, parameters, telecommands, hkSets, events⟩ := Heap.srdb_eq_some.mp found
  obtain ⟨newParameters, p, parametersCopied, parameters⟩ := Store.building_copyList parameters
  obtain ⟨newTelecommands, t, telecommandsCopied, telecommands⟩ :=
    Store.building_copyList telecommands
  obtain ⟨newHkSets, h, hkCopied, hkSets⟩ := Store.building_copyList hkSets
  obtain ⟨newEvents, e, eventsCopied, events⟩ := Store.building_copyList events
  refine ⟨⟨start.spacecraft, newParameters, newTelecommands, newHkSets, newEvents⟩, ⟨p, t, h, e⟩,
    ?_, rfl, ?_, ?_, ?_, ?_⟩
  · unfold copyBase
    rw [parametersCopied, telecommandsCopied, hkCopied, eventsCopied]
    rfl
  · simpa [extended] using parameters
  · simpa [extended] using telecommands
  · simpa [extended] using hkSets
  · simpa [extended] using events

/-- One turn of the loop over the contributions -/
theorem Composing.addContribution {start heap : Heap py} {lists : ComposedLists}
    {base : SRDB py} {earlier : List (Contribution py)} {object : ContributionObject}
    {contribution : Contribution py}
    (composing : Composing start lists heap (extended base earlier))
    (found : start.contribution object = some contribution) :
    ∃ after, Srdb.addContribution lists heap object = some after ∧
      Composing start lists after (extended base (earlier ++ [contribution])) := by
  obtain ⟨parameters, telecommands, hkSets, events⟩ := Heap.contribution_eq_some.mp found
  obtain ⟨newParameters, parametersCopied, parameters⟩ := composing.parameters.extend parameters
  obtain ⟨newTelecommands, telecommandsCopied, telecommands⟩ :=
    composing.telecommands.extend telecommands
  obtain ⟨newHkSets, hkCopied, hkSets⟩ := composing.hkSets.extend hkSets
  obtain ⟨newEvents, eventsCopied, events⟩ := composing.events.extend events
  refine ⟨⟨heap.spacecraft, newParameters, newTelecommands, newHkSets, newEvents⟩, ?_,
    composing.spacecraft, ?_, ?_, ?_, ?_⟩
  · unfold Srdb.addContribution
    rw [parametersCopied, telecommandsCopied, hkCopied, eventsCopied]
    rfl
  · simpa [extended] using parameters
  · simpa [extended] using telecommands
  · simpa [extended] using hkSets
  · simpa [extended] using events

/-- The loop over the contributions -/
theorem Composing.addAll {start heap : Heap py} {lists : ComposedLists} {base : SRDB py}
    {earlier contributions : List (Contribution py)} {objects : List ContributionObject}
    (composing : Composing start lists heap (extended base earlier))
    (found : objects.mapM start.contribution = some contributions) :
    ∃ after, objects.foldlM (Srdb.addContribution lists) heap = some after ∧
      Composing start lists after (extended base (earlier ++ contributions)) := by
  have each := Lib.Tables.mapM_eq_some_iff.mp found
  clear found
  induction each generalizing heap earlier with
  | nil => exact ⟨heap, rfl, by rwa [List.append_nil]⟩
  | @cons object contribution rest others first _ inductionHypothesis =>
      obtain ⟨next, added, composing⟩ := composing.addContribution first
      obtain ⟨after, finished, composed⟩ := inductionHypothesis composing
      refine ⟨after, ?_, by rwa [List.append_assoc] at composed⟩
      rw [List.foldlM_cons, added]
      exact finished

theorem Composing.grows {start heap : Heap py} {lists : ComposedLists} {db : SRDB py}
    (composing : Composing start lists heap db) : start.Grows heap where
  spacecraft found := composing.spacecraft ▸ found
  parameters := composing.parameters.grows
  telecommands := composing.telecommands.grows
  hkSets := composing.hkSets.grows
  events := composing.events.grows

/-- The heap with one more spacecraft record -/
def Heap.addSpacecraft (heap : Heap py) (record : Validated Spacecraft.validate) : Heap py :=
  { heap with spacecraft := heap.spacecraft ++ [record] }

theorem Heap.grows_addSpacecraft (heap : Heap py) (record : Validated Spacecraft.validate) :
    heap.Grows (heap.addSpacecraft record) where
  spacecraft found := List.getElem?_append_left (List.getElem?_eq_some_iff.mp found).1 ▸ found
  parameters := Store.Grows.refl _
  telecommands := Store.Grows.refl _
  hkSets := Store.Grows.refl _
  events := Store.Grows.refl _

theorem Heap.Grows.trans {first second third : Heap py} (earlier : first.Grows second)
    (later : second.Grows third) : first.Grows third where
  spacecraft found := later.spacecraft (earlier.spacecraft found)
  parameters := earlier.parameters.trans later.parameters
  telecommands := earlier.telecommands.trans later.telecommands
  hkSets := earlier.hkSets.trans later.hkSets
  events := earlier.events.trans later.events

/-- Every object of a database came after `start`. -/
structure SrdbObject.Fresh (object : SrdbObject) (start heap : Heap py) : Prop where
  spacecraft : start.spacecraft.length ≤ object.spacecraft
  parameters : Store.Fresh start.parameters heap.parameters object.parameters
  telecommands : Store.Fresh start.telecommands heap.telecommands object.telecommands
  hkSets : Store.Fresh start.hkSets heap.hkSets object.hkSets
  events : Store.Fresh start.events heap.events object.events

/-- Composition on objects does what it does on values, in objects of its own. -/
theorem composeObjects_spec {start : Heap py} {object : SrdbObject}
    {objects : List ContributionObject} {base : SRDB py} {contributions : List (Contribution py)}
    (baseFound : start.srdb object = some base)
    (found : objects.mapM start.contribution = some contributions) :
    ∃ after outcome, composeObjects start object objects = some (after, outcome) ∧
      start.Grows after ∧
      outcome.map after.srdb = (compose base contributions).map some ∧
      ∀ result, outcome = .ok result → result.Fresh start after := by
  obtain ⟨copied, lists, copying, composing⟩ := composing_copyBase baseFound
  obtain ⟨heap, adding, composing⟩ := composing.addAll found
  rw [List.nil_append] at composing
  have spacecraft : heap.spacecraft[object.spacecraft]? = some base.spacecraft :=
    composing.spacecraft ▸ (Heap.srdb_eq_some.mp baseFound).1
  have result : composeObjects start object objects =
      match composeChecks (extended base contributions).parameters
        (extended base contributions).telecommands (extended base contributions).hkSets
        (extended base contributions).events with
      | .error failure => some (heap, .error failure)
      | .ok () => some (heap.addSpacecraft base.spacecraft,
          .ok ⟨heap.spacecraft.length, lists.parameters, lists.telecommands, lists.hkSets,
            lists.events⟩) := by
    unfold composeObjects
    rw [copying]
    simp only [Option.bind_eq_bind, Option.bind_some, adding, composing.parameters.readList,
      composing.telecommands.readList, composing.hkSets.readList, composing.events.readList,
      spacecraft]
    rfl
  rw [result, compose_eq_checks]
  cases composeChecks (extended base contributions).parameters
    (extended base contributions).telecommands (extended base contributions).hkSets
    (extended base contributions).events with
  | error failure =>
      refine ⟨heap, .error failure, rfl, composing.grows, rfl, ?_⟩
      intro object failed
      cases failed
  | ok =>
      refine ⟨_, _, rfl, composing.grows.trans (heap.grows_addSpacecraft _), ?_, ?_⟩
      · apply congrArg Except.ok
        apply Heap.srdb_eq_some.mpr
        refine ⟨?_, composing.parameters.readList, composing.telecommands.readList,
          composing.hkSets.readList, composing.events.readList⟩
        exact List.getElem?_concat_length
      · intro object same
        cases same
        exact ⟨composing.spacecraft ▸ Nat.le_refl _, composing.parameters.isFresh,
          composing.telecommands.isFresh, composing.hkSets.isFresh, composing.events.isFresh⟩

end Openobsw.Srdb
