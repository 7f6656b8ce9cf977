import Openobsw.Srdb.Composition

/-!
Owns the comparison of the loader with the composer: both check references and IDs,
and the composer alone checks names.
-/

namespace Openobsw.Srdb

variable {F : Type} {py : Python F}

/-- A contribution without records. -/
def Contribution.IsEmpty (c : Contribution py) : Prop :=
  c.parameters = [] ∧ c.telecommands = [] ∧ c.hkSets = [] ∧ c.events = []

theorem extended_of_empty (db : SRDB py) {contributions : List (Contribution py)}
    (empty : ∀ c ∈ contributions, c.IsEmpty) : extended db contributions = db := by
  have parameters : contributions.flatMap (fun c => c.parameters) = [] :=
    List.flatMap_eq_nil_iff.mpr (fun c member => (empty c member).1)
  have telecommands : contributions.flatMap (fun c => c.telecommands) = [] :=
    List.flatMap_eq_nil_iff.mpr (fun c member => (empty c member).2.1)
  have hkSets : contributions.flatMap (fun c => c.hkSets) = [] :=
    List.flatMap_eq_nil_iff.mpr (fun c member => (empty c member).2.2.1)
  have events : contributions.flatMap (fun c => c.events) = [] :=
    List.flatMap_eq_nil_iff.mpr (fun c member => (empty c member).2.2.2)
  unfold extended
  rw [parameters, telecommands, hkSets, events]
  simp only [List.append_nil]

/-- Composing a loaded database with nothing gives it back exactly when no two of its
records of a kind have one name; and whatever composition returns, the loader's
checks pass. -/
theorem compose_empty_iff (py : Python F) :
    (∀ db : SRDB py, db.Loaded → ∀ contributions : List (Contribution py),
      (∀ c ∈ contributions, c.IsEmpty) →
        (compose db contributions = .ok db ↔ db.NamesUnique)) ∧
    ∀ (base result : SRDB py) (contributions : List (Contribution py)),
      compose base contributions = .ok result →
        validateCrossReferences result = .ok () ∧ validateUniqueIds result = .ok () := by
  constructor
  · intro db loaded contributions empty
    obtain ⟨references, unique⟩ := db.loaded_iff.mp loaded
    rw [compose_eq_ok, extended_of_empty db empty]
    constructor
    · exact fun composed => composed.2.1
    · exact fun names => ⟨uniqueIdErrors_eq_nil.mp unique, names, references, rfl⟩
  · intro base result contributions composed
    obtain ⟨ids, _, references, rfl⟩ := compose_eq_ok.mp composed
    exact ⟨if_pos references, if_pos (uniqueIdErrors_eq_nil.mpr ids)⟩

/-! ### Two parameters of one name -/

/-- A database of the parameters and nothing else. -/
def parametersOnly (parameters : List (Validated (Parameter.validate asciiPython))) :
    SRDB asciiPython :=
  ⟨testSpacecraft, parameters, [], [], []⟩

theorem loaded_distinct : (parametersOnly [temperature, pressure]).Loaded :=
  (SRDB.loaded_iff _).mpr (by decide)

theorem loaded_repeated : (parametersOnly [temperature, temperatureAgain]).Loaded :=
  (SRDB.loaded_iff _).mpr (by decide)

theorem compose_empty_distinct :
    (compose (parametersOnly [temperature, pressure]) [{}] =
        .ok (parametersOnly [temperature, pressure]) ↔
      (parametersOnly [temperature, pressure]).NamesUnique) ∧
    validateUniqueIds (parametersOnly [temperature, pressure]) = .ok () := by
  have composed : compose (parametersOnly [temperature, pressure]) [{}] =
      .ok (parametersOnly [temperature, pressure]) := rfl
  exact ⟨(compose_empty_iff asciiPython).1 _ loaded_distinct [{}] (by simp [Contribution.IsEmpty]),
    ((compose_empty_iff asciiPython).2 _ _ _ composed).2⟩

/-- The loader accepts a database that the composer refuses to give back. -/
theorem not_compose_repeated :
    (parametersOnly [temperature, temperatureAgain]).Loaded ∧
      compose (parametersOnly [temperature, temperatureAgain]) [] =
        .error "Duplicate parameter name detected during SRDB composition".toList :=
  ⟨loaded_repeated, rfl⟩

end Openobsw.Srdb
