import Openobsw.Srdb.Objects

/-!
Owns the laws of composition: batches one after the other against one batch, when a
composition succeeds, what its result lists, and what it leaves of its inputs.
-/

namespace Openobsw.Srdb

variable {F : Type} {py : Python F}

/-- The base as the first source of records, in front of the contributions. -/
def sources (base : SRDB py) (contributions : List (Contribution py)) : List (Contribution py) :=
  ⟨base.parameters, base.telecommands, base.hkSets, base.events⟩ :: contributions

/-- No two records of a kind have one key, whichever sources they come from. -/
def DistinctOver {α κ : Type} (all : List (Contribution py)) (records : Contribution py → List α)
    (key : α → κ) : Prop :=
  (all.flatMap records).Pairwise (fun first second => key first ≠ key second)

/-- Every HK set of the sources refers to names of parameters of the sources. -/
def ReferencesPresent (all : List (Contribution py)) : Prop :=
  ∀ hk ∈ all.flatMap (fun s => s.hkSets), ∀ pname ∈ hk.fields.parameters,
    ∃ p ∈ all.flatMap (fun s => s.parameters), p.fields.name = pname

/-- The sources can be composed. -/
structure Composable (all : List (Contribution py)) : Prop where
  parameterIds : DistinctOver all (fun s => s.parameters) (fun p => p.fields.id)
  parameterNames : DistinctOver all (fun s => s.parameters) (fun p => p.fields.name)
  eventIds : DistinctOver all (fun s => s.events) (fun e => e.fields.id)
  eventNames : DistinctOver all (fun s => s.events) (fun e => e.fields.name)
  hkIds : DistinctOver all (fun s => s.hkSets) (fun h => h.fields.id)
  hkNames : DistinctOver all (fun s => s.hkSets) (fun h => h.fields.name)
  telecommandNames : DistinctOver all (fun s => s.telecommands) (fun tc => tc.fields.name)
  telecommandKeys : DistinctOver all (fun s => s.telecommands)
    (fun tc => (tc.fields.apid, tc.fields.service, tc.fields.subservice))
  references : ReferencesPresent all

/-! ### One batch after the other -/

theorem extended_extended (base : SRDB py) (batch later : List (Contribution py)) :
    extended (extended base batch) later = extended base (batch ++ later) := by
  unfold extended
  simp only [List.flatMap_append, List.append_assoc]

/-- A composition of a composition is the composition of both batches at once. -/
theorem compose_append {base middle result : SRDB py} {batch later : List (Contribution py)}
    (first : compose base batch = .ok middle) (second : compose middle later = .ok result) :
    compose base (batch ++ later) = .ok result := by
  have middleEq : middle = extended base batch := (compose_eq_ok.mp first).2.2.2
  rw [middleEq] at second
  rw [compose_eq_ok, extended_extended] at second
  exact compose_eq_ok.mpr second

/-! ### When composition succeeds -/

theorem nodup_iff_distinctOver {α κ : Type} (base : SRDB py)
    (contributions : List (Contribution py)) (records : Contribution py → List α) (key : α → κ) :
    (((sources base contributions).flatMap records).map key).Nodup ↔
      DistinctOver (sources base contributions) records key := by
  unfold List.Nodup DistinctOver
  rw [List.pairwise_map]

theorem unknownReferences_sources {base : SRDB py} {contributions : List (Contribution py)} :
    unknownReferences (extended base contributions).parameters
        (extended base contributions).hkSets = [] ↔
      ReferencesPresent (sources base contributions) := by
  rw [unknownReferences_eq_nil]
  simp only [List.mem_map]
  rfl

theorem compose_succeeds_iff (base : SRDB py) (contributions : List (Contribution py)) :
    (∃ result, compose base contributions = .ok result) ↔
      Composable (sources base contributions) := by
  simp only [compose_eq_ok]
  constructor
  · rintro ⟨_, ids, names, references, _⟩
    exact {
      parameterIds := (nodup_iff_distinctOver ..).mp ids.parameters
      parameterNames := (nodup_iff_distinctOver ..).mp names.parameters
      eventIds := (nodup_iff_distinctOver ..).mp ids.events
      eventNames := (nodup_iff_distinctOver ..).mp names.events
      hkIds := (nodup_iff_distinctOver ..).mp ids.hkSets
      hkNames := (nodup_iff_distinctOver ..).mp names.hkSets
      telecommandNames := (nodup_iff_distinctOver ..).mp names.telecommands
      telecommandKeys := (nodup_iff_distinctOver ..).mp ids.telecommands
      references := unknownReferences_sources.mp references }
  · intro composable
    refine ⟨_, ⟨?_, ?_, ?_, ?_⟩, ⟨?_, ?_, ?_, ?_⟩, ?_, rfl⟩
    · exact (nodup_iff_distinctOver ..).mpr composable.parameterIds
    · exact (nodup_iff_distinctOver ..).mpr composable.eventIds
    · exact (nodup_iff_distinctOver ..).mpr composable.hkIds
    · exact (nodup_iff_distinctOver ..).mpr composable.telecommandKeys
    · exact (nodup_iff_distinctOver ..).mpr composable.parameterNames
    · exact (nodup_iff_distinctOver ..).mpr composable.eventNames
    · exact (nodup_iff_distinctOver ..).mpr composable.hkNames
    · exact (nodup_iff_distinctOver ..).mpr composable.telecommandNames
    · exact unknownReferences_sources.mpr composable.references

/-! ### What composition gives and what it leaves -/

/-- The records of the base and then those of each contribution, in their order. -/
structure Listed (base : SRDB py) (contributions : List (Contribution py)) (result : SRDB py) :
    Prop where
  spacecraft : result.spacecraft = base.spacecraft
  parameters :
    result.parameters = base.parameters ++ contributions.flatMap (fun c => c.parameters)
  telecommands :
    result.telecommands = base.telecommands ++ contributions.flatMap (fun c => c.telecommands)
  hkSets : result.hkSets = base.hkSets ++ contributions.flatMap (fun c => c.hkSets)
  events : result.events = base.events ++ contributions.flatMap (fun c => c.events)

/-- The run of the composer on objects that stand for the base and the contributions:
it returns or raises what composition on values does, the objects from before the run
are as they were, and the result shares none of them. -/
structure LeavesInputs (heap : Heap py) (object : SrdbObject) (objects : List ContributionObject)
    (base : SRDB py) (contributions : List (Contribution py)) (after : Heap py)
    (outcome : Except CompositionError SrdbObject) : Prop where
  run : composeObjects heap object objects = some (after, outcome)
  agrees : outcome.map after.srdb = (compose base contributions).map some
  grows : heap.Grows after
  baseStays : after.srdb object = some base
  contributionsStay : objects.mapM after.contribution = some contributions
  fresh : ∀ result, outcome = .ok result → result.Fresh heap after

theorem compose_leavesInputs {heap : Heap py} {object : SrdbObject}
    {objects : List ContributionObject} {base : SRDB py} {contributions : List (Contribution py)}
    (baseFound : heap.srdb object = some base)
    (found : objects.mapM heap.contribution = some contributions) :
    ∃ after outcome, LeavesInputs heap object objects base contributions after outcome := by
  obtain ⟨after, outcome, run, grows, outcomeEq, fresh⟩ := composeObjects_spec baseFound found
  have still : objects.mapM after.contribution = some contributions := by
    apply Lib.Tables.mapM_eq_some_iff.mpr
    exact (Lib.Tables.mapM_eq_some_iff.mp found).imp (fun _ _ => grows.contribution)
  exact ⟨after, outcome, run, outcomeEq, grows, grows.srdb baseFound, still, fresh⟩

/-- The laws of composing `batch`, and `later` after it. -/
structure ComposeLaw (base : SRDB py) (batch later : List (Contribution py)) : Prop where
  staged : ∀ middle result, compose base batch = .ok middle → compose middle later = .ok result →
    compose base (batch ++ later) = .ok result
  succeeds : (∃ result, compose base batch = .ok result) ↔ Composable (sources base batch)
  listed : ∀ result, compose base batch = .ok result → Listed base batch result
  unmodified : ∀ (heap : Heap py) (object : SrdbObject) (objects : List ContributionObject),
    heap.srdb object = some base → objects.mapM heap.contribution = some batch →
      ∃ after outcome, LeavesInputs heap object objects base batch after outcome

/-- Composition is additive and independent of batches. -/
theorem compose_additive (base : SRDB py) (batch later : List (Contribution py)) :
    ComposeLaw base batch later where
  staged _ _ first second := compose_append first second
  succeeds := compose_succeeds_iff base batch
  listed := by
    intro result composed
    rw [(compose_eq_ok.mp composed).2.2.2]
    exact ⟨rfl, rfl, rfl, rfl, rfl⟩
  unmodified _ _ _ baseFound found := compose_leavesInputs baseFound found

/-- A heap with the records of a base and of a contribution to it. -/
def testHeap : Heap asciiPython where
  spacecraft := [testSpacecraft]
  parameters := { records := [temperature, pressure], lists := [[0]] }
  telecommands := { lists := [[]] }
  hkSets := { lists := [[]] }
  events := { lists := [[]] }

/-- The result has a spacecraft record and lists of its own. -/
example : (composeObjects testHeap ⟨0, 0, 0, 0, 0⟩ [{ parameters := [1] }]).map Prod.snd =
    some (.ok ⟨1, 1, 1, 1, 1⟩) := rfl

end Openobsw.Srdb
