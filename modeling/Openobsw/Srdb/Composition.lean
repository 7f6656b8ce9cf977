import Openobsw.Srdb.Loader

/-!
Owns the composition of a database with contributed records (`composition.py`).
-/

namespace Openobsw.Srdb

variable {F : Type} {py : Python F}

/-- `SRDBContribution` -/
structure Contribution (py : Python F) where
  parameters : List (Validated (Parameter.validate py)) := []
  telecommands : List (Validated Telecommand.validate) := []
  hkSets : List (Validated HKSet.validate) := []
  events : List (Validated Event.validate) := []

/-- The message of an `SRDBCompositionError`. -/
abbrev CompositionError := Text

/-- `_validate_unique` on the keys of the records -/
def validateUnique {κ : Type} [DecidableEq κ] (keys : List κ) (label : String) :
    Except CompositionError Unit :=
  if keys.Nodup then .ok ()
  else .error ("Duplicate ".toList ++ label.toList ++ " detected during SRDB composition".toList)

/-- `_validate_tc_tuples` -/
def validateTcTuples (records : List (Validated Telecommand.validate)) :
    Except CompositionError Unit :=
  validateUnique (records.map telecommandKey) "telecommand (APID, service, subservice) tuple"

/-- `_validate_hk_references` -/
def validateHkReferences (parameters : List (Validated (Parameter.validate py)))
    (hkSets : List (Validated HKSet.validate)) : Except CompositionError Unit :=
  let missing := unknownReferences parameters hkSets
  if missing = [] then .ok ()
  else .error (errorText "SRDB composition cross-reference errors:" missing)

/-- The records of the base followed by those of each contribution. -/
def extended (base : SRDB py) (contributions : List (Contribution py)) : SRDB py where
  spacecraft := base.spacecraft
  parameters := base.parameters ++ contributions.flatMap (fun c => c.parameters)
  telecommands := base.telecommands ++ contributions.flatMap (fun c => c.telecommands)
  hkSets := base.hkSets ++ contributions.flatMap (fun c => c.hkSets)
  events := base.events ++ contributions.flatMap (fun c => c.events)

/-- The checks of `compose`, up to the first that fails -/
def composeChecks (parameters : List (Validated (Parameter.validate py)))
    (telecommands : List (Validated Telecommand.validate))
    (hkSets : List (Validated HKSet.validate)) (events : List (Validated Event.validate)) :
    Except CompositionError Unit := do
  validateUnique (parameters.map (fun p => p.fields.id)) "parameter ID"
  validateUnique (parameters.map (fun p => p.fields.name)) "parameter name"
  validateUnique (events.map (fun e => e.fields.id)) "event ID"
  validateUnique (events.map (fun e => e.fields.name)) "event name"
  validateUnique (hkSets.map (fun h => h.fields.id)) "HK set ID"
  validateUnique (hkSets.map (fun h => h.fields.name)) "HK set name"
  validateUnique (telecommands.map (fun tc => tc.fields.name)) "telecommand name"
  validateTcTuples telecommands
  validateHkReferences parameters hkSets

/-- `SRDBComposer.compose`. Records are values here, so a deep copy is the record. -/
def compose (base : SRDB py) (contributions : List (Contribution py)) :
    Except CompositionError (SRDB py) := do
  let db := extended base contributions
  composeChecks db.parameters db.telecommands db.hkSets db.events
  return db

/-! ### When composition succeeds -/

/-- The keys that the loader and the composer both check. -/
structure SRDB.IdsUnique (db : SRDB py) : Prop where
  parameters : (db.parameters.map (fun p => p.fields.id)).Nodup
  events : (db.events.map (fun e => e.fields.id)).Nodup
  hkSets : (db.hkSets.map (fun h => h.fields.id)).Nodup
  telecommands : (db.telecommands.map telecommandKey).Nodup

/-- The keys that only the composer checks. -/
structure SRDB.NamesUnique (db : SRDB py) : Prop where
  parameters : (db.parameters.map (fun p => p.fields.name)).Nodup
  events : (db.events.map (fun e => e.fields.name)).Nodup
  hkSets : (db.hkSets.map (fun h => h.fields.name)).Nodup
  telecommands : (db.telecommands.map (fun tc => tc.fields.name)).Nodup

theorem uniqueIdErrors_eq_nil {db : SRDB py} : uniqueIdErrors db = [] ↔ db.IdsUnique := by
  simp only [uniqueIdErrors, List.append_eq_nil_iff, duplicateError_eq_nil]
  constructor
  · rintro ⟨⟨⟨parameters, events⟩, hkSets⟩, telecommands⟩
    exact ⟨parameters, events, hkSets, telecommands⟩
  · exact fun unique => ⟨⟨⟨unique.parameters, unique.events⟩, unique.hkSets⟩, unique.telecommands⟩

/-- A check before the rest passes, and the rest succeeds. -/
theorem check_bind_eq_ok {ε α : Type} {holds : Prop} [Decidable holds] {message : ε}
    {rest : Unit → Except ε α} {result : α} :
    ((if holds then Except.ok () else .error message) >>= rest) = .ok result ↔
      holds ∧ rest () = .ok result := by
  by_cases passes : holds
  · rw [if_pos passes, ok_bind, and_iff_right passes]
  · rw [if_neg passes]
    constructor
    · intro failed
      cases failed
    · exact fun both => absurd both.1 passes

/-- What composition returns, and exactly when. -/
theorem compose_eq_ok {base result : SRDB py} {contributions : List (Contribution py)} :
    compose base contributions = .ok result ↔
      (extended base contributions).IdsUnique ∧ (extended base contributions).NamesUnique ∧
        unknownReferences (extended base contributions).parameters
          (extended base contributions).hkSets = [] ∧
        result = extended base contributions := by
  unfold compose composeChecks validateTcTuples validateHkReferences validateUnique
  simp only [bind_assoc, check_bind_eq_ok]
  constructor
  · rintro ⟨parameterIds, parameterNames, eventIds, eventNames, hkIds, hkNames, tcNames, tcKeys,
      references, same⟩
    exact ⟨⟨parameterIds, eventIds, hkIds, tcKeys⟩, ⟨parameterNames, eventNames, hkNames, tcNames⟩,
      references, (Except.ok.inj same).symm⟩
  · rintro ⟨ids, names, references, rfl⟩
    exact ⟨ids.parameters, names.parameters, ids.events, names.events, ids.hkSets, names.hkSets,
      names.telecommands, ids.telecommands, references, rfl⟩

end Openobsw.Srdb
