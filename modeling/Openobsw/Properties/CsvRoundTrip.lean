import Openobsw.Srdb.Loader
import Openobsw.Srdb.Parameters

/-!
Owns the CSV round trip of a database: it comes back exactly when all of its records do.
-/

namespace Openobsw.Srdb

open Openobsw.Lib.Csv

variable {F : Type} {py : Python F}

/-- `==` of two databases -/
structure SRDB.Equal (db other : SRDB py) : Prop where
  spacecraft : db.spacecraft = other.spacecraft
  parameters : List.Forall₂ Parameter.Same db.parameters other.parameters
  telecommands : db.telecommands = other.telecommands
  hkSets : db.hkSets = other.hkSets
  events : db.events = other.events

/-- The export can be imported again, with the same spacecraft, and the databases are equal. -/
def SRDB.RoundTrips (db : SRDB py) : Prop :=
  ∃ files, exportCsv db = some files ∧
    ∃ out, importCsv py files db.spacecraft = some out ∧ db.Equal out

/-- What the records of a database have to hold to come back. -/
structure SRDB.Survives (db : SRDB py) : Prop where
  parameters : ∀ p ∈ db.parameters, p.fields.Survives py
  telecommands : ∀ tc ∈ db.telecommands, tc.fields.Survives
  events : ∀ e ∈ db.events, e.fields.Survives
  hkSets : ∀ h ∈ db.hkSets, h.fields.Survives

/-! ### Tables -/

/-- The records of one table come back from its file. -/
def TableReturns {α β : Type} (header : Row) (exportRow : α → Option Row)
    (importRow : DictRow → Option β) (same : α → β → Prop) (records : List α) : Prop :=
  ∃ text, exportTable header exportRow records = some text ∧
    ∃ out, importTable importRow text = some out ∧ List.Forall₂ same records out

theorem parameters_return_iff (parameters : List (Validated (Parameter.validate py))) :
    TableReturns parameterHeader (fun p => exportParameter py p.fields) (importParameter py)
      Parameter.Same parameters ↔ ∀ p ∈ parameters, p.fields.Survives py := by
  unfold TableReturns
  rw [table_returns_iff (by decide)]
  · exact forall₂_congr fun p _ => ⟨parameter_survives, parameter_returns⟩
  · intro p row exported
    obtain ⟨ptc, _, exported⟩ := bind_eq_some.mp exported
    obtain ⟨pfc, _, exported⟩ := bind_eq_some.mp exported
    obtain ⟨enumeration, _, exported⟩ := bind_eq_some.mp exported
    cases exported
    exact List.cons_ne_nil _ _

theorem telecommands_return_iff (telecommands : List (Validated Telecommand.validate)) :
    TableReturns telecommandHeader (fun tc => exportTelecommand tc.fields) (importTelecommand py)
      Eq telecommands ↔ ∀ tc ∈ telecommands, tc.fields.Survives := by
  unfold TableReturns
  rw [table_returns_iff (by decide)]
  · exact forall₂_congr fun tc _ => telecommand_returns_iff tc
  · intro tc row exported
    obtain ⟨service, _, exported⟩ := bind_eq_some.mp exported
    obtain ⟨subservice, _, exported⟩ := bind_eq_some.mp exported
    cases exported
    exact List.cons_ne_nil _ _

theorem events_return_iff (events : List (Validated Event.validate)) :
    TableReturns eventHeader (fun e => exportEvent e.fields) (importEvent py) Eq events ↔
      ∀ e ∈ events, e.fields.Survives := by
  unfold TableReturns
  rw [table_returns_iff (by decide)]
  · exact forall₂_congr fun e _ => event_returns_iff e
  · intro e row exported
    cases exported
    exact List.cons_ne_nil _ _

theorem hkSets_return_iff (hkSets : List (Validated HKSet.validate)) :
    TableReturns hkSetHeader (fun h => exportHkSet h.fields) (importHkSet py) Eq hkSets ↔
      ∀ h ∈ hkSets, h.fields.Survives := by
  unfold TableReturns
  rw [table_returns_iff (by decide)]
  · exact forall₂_congr fun h _ => hkSet_returns_iff h
  · intro h row exported
    obtain ⟨id, _, exported⟩ := bind_eq_some.mp exported
    obtain ⟨interval, _, exported⟩ := bind_eq_some.mp exported
    obtain ⟨spid, _, exported⟩ := bind_eq_some.mp exported
    cases exported
    exact List.cons_ne_nil _ _

/-! ### Databases -/

/-- A database round-trips exactly when each of its tables comes back. -/
theorem roundTrips_iff_tables (db : SRDB py) :
    db.RoundTrips ↔
      TableReturns parameterHeader (fun p => exportParameter py p.fields) (importParameter py)
        Parameter.Same db.parameters ∧
      TableReturns telecommandHeader (fun tc => exportTelecommand tc.fields)
        (importTelecommand py) Eq db.telecommands ∧
      TableReturns eventHeader (fun e => exportEvent e.fields) (importEvent py) Eq db.events ∧
      TableReturns hkSetHeader (fun h => exportHkSet h.fields) (importHkSet py) Eq db.hkSets := by
  constructor
  · rintro ⟨files, exported, out, imported, same⟩
    obtain ⟨parameters, parametersEq, exported⟩ := bind_eq_some.mp exported
    obtain ⟨telecommands, telecommandsEq, exported⟩ := bind_eq_some.mp exported
    obtain ⟨events, eventsEq, exported⟩ := bind_eq_some.mp exported
    obtain ⟨hkSets, hkSetsEq, exported⟩ := bind_eq_some.mp exported
    cases exported
    obtain ⟨parametersOut, parametersRead, imported⟩ := bind_eq_some.mp imported
    obtain ⟨telecommandsOut, telecommandsRead, imported⟩ := bind_eq_some.mp imported
    obtain ⟨eventsOut, eventsRead, imported⟩ := bind_eq_some.mp imported
    obtain ⟨hkSetsOut, hkSetsRead, imported⟩ := bind_eq_some.mp imported
    cases imported
    have equalLists {α : Type} {left right : List α} (equal : left = right) :
        List.Forall₂ Eq left right := by
      rw [List.forall₂_eq_eq_eq]
      exact equal
    exact ⟨⟨parameters, parametersEq, parametersOut, parametersRead, same.parameters⟩,
      ⟨telecommands, telecommandsEq, telecommandsOut, telecommandsRead,
        equalLists same.telecommands⟩,
      ⟨events, eventsEq, eventsOut, eventsRead, equalLists same.events⟩,
      ⟨hkSets, hkSetsEq, hkSetsOut, hkSetsRead, equalLists same.hkSets⟩⟩
  · rintro ⟨⟨parameters, parametersEq, parametersOut, parametersRead, parametersSame⟩,
      ⟨telecommands, telecommandsEq, telecommandsOut, telecommandsRead, telecommandsSame⟩,
      ⟨events, eventsEq, eventsOut, eventsRead, eventsSame⟩,
      ⟨hkSets, hkSetsEq, hkSetsOut, hkSetsRead, hkSetsSame⟩⟩
    rw [List.forall₂_eq_eq_eq] at telecommandsSame eventsSame hkSetsSame
    refine ⟨⟨parameters, telecommands, events, hkSets⟩, ?_,
      ⟨db.spacecraft, parametersOut, telecommandsOut, hkSetsOut, eventsOut⟩, ?_,
      ⟨rfl, parametersSame, telecommandsSame, hkSetsSame, eventsSame⟩⟩
    · unfold exportCsv
      rw [parametersEq, telecommandsEq, eventsEq, hkSetsEq]
      rfl
    · unfold importCsv
      rw [parametersRead, telecommandsRead, eventsRead, hkSetsRead]
      rfl

/-- Export and import give back a database exactly when its records survive the format
of the cells. -/
theorem csv_roundTrips_iff (py : Python F) (db : SRDB py) : db.RoundTrips ↔ db.Survives := by
  rw [roundTrips_iff_tables, parameters_return_iff, telecommands_return_iff, events_return_iff,
    hkSets_return_iff]
  constructor
  · rintro ⟨parameters, telecommands, events, hkSets⟩
    exact ⟨parameters, telecommands, events, hkSets⟩
  · rintro ⟨parameters, telecommands, events, hkSets⟩
    exact ⟨parameters, telecommands, events, hkSets⟩

/-- A housekeeping set without parameters. -/
def emptySet : Validated HKSet.validate where
  fields := ⟨1, "hk_empty".toList, [], [], 10, none⟩
  accepted := by decide

/-- A database with an empty housekeeping set does not come back. -/
theorem not_roundTrips_emptySet :
    ¬ SRDB.RoundTrips (⟨testSpacecraft, [], [], [emptySet], []⟩ : SRDB asciiPython) := by
  intro roundTrips
  obtain ⟨_, _, _, hkSets⟩ := (roundTrips_iff_tables _).mp roundTrips
  have survives := (hkSets_return_iff _).mp hkSets emptySet List.mem_cons_self
  exact survives.listed rfl

end Openobsw.Srdb
