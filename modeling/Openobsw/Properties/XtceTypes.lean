import Openobsw.Srdb.Widths
import Openobsw.Properties.Composition

/-!
Owns the types that the generated XTCE gives its telemetry parameters: when every name
leads to one element, and every mission parameter to a type that describes it.
-/

namespace Openobsw.Srdb

open Openobsw.Lib.Tables

variable {F : Type} {py : Python F}

/-! ### Types that describe their parameters -/

/-- The type has the encoding of the parameter, and what the parameter has of a unit, an
enumeration, a conversion and limits. -/
structure Describes (t : ParameterTypeElement F) (p : Parameter F) : Prop where
  encoding : t.encoding = p.type.encoding
  unit : t.unit = unitElement p.unit
  enumeration : t.enumeration = if isFilled p.enumeration then p.enumeration else none
  calibrator : t.calibrator = p.conversion
  alarm : t.alarm = p.limits

/-- No two types and no two parameters have one name, and the reference of every mission
parameter names a type that describes it. -/
structure Unambiguous (db : SRDB py) (tm : TelemetryMetaData F) : Prop where
  typeNames : (tm.parameterTypeSet.map (fun t => t.name)).Nodup
  parameterNames : (tm.parameterSet.map (fun p => p.name)).Nodup
  described : ∀ p ∈ db.parameters, parameterElement py p.fields ∈ tm.parameterSet ∧
    ∃ t ∈ tm.parameterTypeSet,
      t.name = (parameterElement py p.fields).parameterTypeRef ∧ Describes t p.fields

/-- What keeps the types of a database apart. -/
structure Distinguishable (db : SRDB py) : Prop where
  unsigned : ∀ p ∈ db.parameters, p.fields.isDescribed = false → p.fields.ptc ≠ 1
  names : (db.parameters.map (fun p => py.upper p.fields.name)).Nodup
  headers : ∀ p ∈ db.parameters, py.upper p.fields.name ∉ headerParameters.map (fun h => h.name)
  calibrators : ∀ p ∈ db.parameters,
    isFilled p.fields.enumeration = true → p.fields.conversion = none
  units : ∀ p ∈ db.parameters, ∀ q ∈ db.parameters,
    p.fields.isDescribed = false → q.fields.isDescribed = false → p.fields.type = q.fields.type →
      unitElement p.fields.unit = unitElement q.fields.unit

/-! ### Names of the types -/

theorem missionTypes_names (emitted : List Text) (parameters : List (Parameter F)) :
    (missionTypes py emitted parameters).map (fun t => t.name) =
      (firsts (typeName py) emitted parameters).map (typeName py) := by
  rw [missionTypes_eq, List.map_map]
  apply List.map_congr_left
  intro p _
  exact missionParamType_name p (typeName py p)

theorem mem_missionTypes_names {name : Text} (emitted : List Text)
    (parameters : List (Parameter F)) :
    name ∈ (missionTypes py emitted parameters).map (fun t => t.name) ↔
      name ∉ emitted ∧ ∃ p ∈ parameters, typeName py p = name := by
  rw [missionTypes_names, mem_map_firsts, List.mem_map]

theorem missionTypes_names_nodup (emitted : List Text) (parameters : List (Parameter F)) :
    ((missionTypes py emitted parameters).map (fun t => t.name)).Nodup := by
  rw [missionTypes_names]
  exact firsts_nodup emitted parameters

/-- The names of the header types. -/
def headerTypeNames : List Text := headerTypeTable.map (fun row => row.1.toList)

theorem parameterTypeSet_names (db : SRDB py) :
    (parameterTypeSet db).map (fun t => t.name) =
      headerTypeNames ++
        (missionTypes py [] (db.parameters.map (fun p => p.fields))).map (fun t => t.name) := by
  unfold parameterTypeSet headerTypes headerTypeNames
  rw [List.map_append, List.map_map]
  rfl

/-- The header types have the names of the unsigned plain types among theirs. -/
theorem plainName_header (type : ParameterType) :
    type.plainName ∈ headerTypeNames ↔ type.ptcPfc.1 = 1 := by
  cases type <;> decide

theorem typeName_header (p : Validated (Parameter.validate py)) :
    typeName py p.fields ∈ headerTypeNames ↔ p.fields.isDescribed = false ∧ p.fields.ptc = 1 := by
  cases described : p.fields.isDescribed with
  | true =>
      refine iff_of_false ?_ (by simp)
      intro inHeader
      obtain ⟨row, member, named⟩ := List.mem_map.mp inHeader
      rw [typeName_described p described] at named
      exact upper_ne_header py p.fields.name row member named.symm
  | false =>
      rw [typeName_plain p described, plainName_header, (ptcPfc_of_validated p).1]
      simp

/-- The type names are distinct when no mission type has the name of a header type. -/
theorem typeNames_nodup_iff (db : SRDB py) :
    ((parameterTypeSet db).map (fun t => t.name)).Nodup ↔
      ∀ p ∈ db.parameters, p.fields.isDescribed = false → p.fields.ptc ≠ 1 := by
  rw [parameterTypeSet_names, List.nodup_append]
  constructor
  · rintro ⟨_, _, apart⟩ p member plain unsigned
    have inMission : typeName py p.fields ∈
        (missionTypes py [] (db.parameters.map (fun p => p.fields))).map (fun t => t.name) :=
      (mem_missionTypes_names [] _).mpr
        ⟨List.not_mem_nil, p.fields, List.mem_map_of_mem member, rfl⟩
    exact apart _ ((typeName_header p).mpr ⟨plain, unsigned⟩) _ inMission rfl
  · intro unsigned
    refine ⟨by decide, missionTypes_names_nodup [] _, ?_⟩
    rintro name inHeader _ inMission rfl
    obtain ⟨_, _, inParameters, named⟩ := (mem_missionTypes_names [] _).mp inMission
    obtain ⟨p, member, rfl⟩ := List.mem_map.mp inParameters
    rw [← named] at inHeader
    obtain ⟨plain, isUnsigned⟩ := (typeName_header p).mp inHeader
    exact unsigned p member plain isUnsigned

/-! ### Names of the parameters -/

theorem parameterNames_nodup_iff (db : SRDB py) :
    ((parameterSet db).map (fun p => p.name)).Nodup ↔
      (db.parameters.map (fun p => py.upper p.fields.name)).Nodup ∧
        ∀ p ∈ db.parameters,
          py.upper p.fields.name ∉ headerParameters.map (fun h => h.name) := by
  have names : (parameterSet db).map (fun p => p.name) =
      headerParameters.map (fun h => h.name) ++
        db.parameters.map (fun p => py.upper p.fields.name) := by
    unfold parameterSet
    rw [List.map_append, List.map_map]
    rfl
  rw [names, List.nodup_append]
  constructor
  · rintro ⟨_, distinct, apart⟩
    refine ⟨distinct, ?_⟩
    intro p member inHeader
    exact apart _ inHeader _ (List.mem_map_of_mem member) rfl
  · rintro ⟨distinct, apart⟩
    refine ⟨by decide, distinct, ?_⟩
    rintro name inHeader _ inMission rfl
    obtain ⟨p, member, named⟩ := List.mem_map.mp inMission
    exact apart p member (named ▸ inHeader)

/-! ### The type behind a reference -/

/-- What every mission type has, whichever kind of element it is. -/
theorem missionParamType_eq (p : Validated (Parameter.validate py)) (tname : Text) :
    missionParamType p.fields tname =
      { name := tname, shortDescription := p.fields.description
        unit := unitElement p.fields.unit, encoding := p.fields.type.encoding
        calibrator := if isFilled p.fields.enumeration then none else p.fields.conversion
        enumeration := if isFilled p.fields.enumeration then p.fields.enumeration else none
        alarm := p.fields.limits } := by
  rw [← missionParamType_encoding p tname]
  unfold missionParamType
  by_cases filled : isFilled p.fields.enumeration = true
  · simp only [if_pos filled]
  · simp only [if_neg filled]
    split <;> rfl

/-- The type that is made for a parameter describes it, but for the conversion of an
enumerated one. -/
theorem describes_missionParamType (p : Validated (Parameter.validate py)) (tname : Text) :
    Describes (missionParamType p.fields tname) p.fields ↔
      (isFilled p.fields.enumeration = true → p.fields.conversion = none) := by
  rw [missionParamType_eq]
  constructor
  · intro describes filled
    have calibrator := describes.calibrator
    rw [if_pos filled] at calibrator
    exact calibrator.symm
  · intro bare
    refine ⟨rfl, rfl, rfl, ?_, rfl⟩
    by_cases filled : isFilled p.fields.enumeration = true
    · rw [if_pos filled, bare filled]
    · rw [if_neg filled]

theorem Parameter.isDescribed_eq_false {p : Parameter F} :
    p.isDescribed = false ↔
      isFilled p.enumeration = false ∧ p.conversion = none ∧ p.limits = none := by
  simp [Parameter.isDescribed, and_assoc]

/-- A type that is made for one plain parameter describes another of its type when they
have one unit. -/
theorem describes_shared {p q : Validated (Parameter.validate py)}
    (plain : p.fields.isDescribed = false) (otherPlain : q.fields.isDescribed = false)
    (sameType : q.fields.type = p.fields.type) (tname : Text) :
    Describes (missionParamType q.fields tname) p.fields ↔
      unitElement q.fields.unit = unitElement p.fields.unit := by
  obtain ⟨empty, bare, unlimited⟩ := Parameter.isDescribed_eq_false.mp plain
  obtain ⟨otherEmpty, otherBare, otherUnlimited⟩ := Parameter.isDescribed_eq_false.mp otherPlain
  rw [missionParamType_eq]
  constructor
  · exact fun describes => describes.unit
  · intro sameUnit
    refine ⟨congrArg ParameterType.encoding sameType, sameUnit, ?_, ?_, ?_⟩
    · simp [empty, otherEmpty]
    · simp [otherEmpty, bare, otherBare]
    · rw [unlimited]
      exact otherUnlimited

/-- The parameter that the type of a parameter is made for. -/
def SRDB.typedFor (db : SRDB py) (p : Parameter F) : Option (Validated (Parameter.validate py)) :=
  db.parameters.find? (fun q => typeName py q.fields = typeName py p)

section Reference

variable {db : SRDB py} {p q : Validated (Parameter.validate py)}

theorem typedFor_of_mem (member : p ∈ db.parameters) : ∃ q, db.typedFor p.fields = some q :=
  Option.isSome_iff_exists.mp (List.find?_isSome.mpr ⟨p, member, decide_eq_true rfl⟩)

theorem typedFor_mem (found : db.typedFor p.fields = some q) : q ∈ db.parameters :=
  List.mem_of_find?_eq_some found

theorem typedFor_name (found : db.typedFor p.fields = some q) :
    typeName py q.fields = typeName py p.fields := by
  simpa using List.find?_some found

/-- A described parameter has a type of its own while upper-case names are distinct. -/
theorem typedFor_described (distinct : (db.parameters.map (fun p => py.upper p.fields.name)).Nodup)
    (member : p ∈ db.parameters) (described : p.fields.isDescribed = true)
    (found : db.typedFor p.fields = some q) : q = p := by
  have shared := (typedFor_name found).trans (typeName_described p described)
  have sameUpper := ((typeName_eq_upper q p.fields.name).mp shared).2
  exact List.inj_on_of_nodup_map distinct (typedFor_mem found) member sameUpper

theorem typedFor_plain (plain : p.fields.isDescribed = false)
    (found : db.typedFor p.fields = some q) :
    q.fields.isDescribed = false ∧ q.fields.type = p.fields.type := by
  have shared := (typedFor_name found).trans (typeName_plain p plain)
  exact (typeName_eq_plainName q p.fields.type).mp shared

/-- While type names are distinct, a reference names the one type that is made for the
first parameter with it. -/
theorem describes_reference_iff
    (distinct : ((parameterTypeSet db).map (fun t => t.name)).Nodup)
    (found : db.typedFor p.fields = some q) :
    (∃ t ∈ parameterTypeSet db, t.name = typeName py p.fields ∧ Describes t p.fields) ↔
      Describes (missionParamType q.fields (typeName py p.fields)) p.fields := by
  have made := mem_typesNamed.mpr (.inr ⟨q, found, rfl⟩)
  constructor
  · rintro ⟨t, inTypes, named, describes⟩
    have only := List.inj_on_of_nodup_map distinct inTypes made.1 (named.trans made.2.symm)
    exact only ▸ describes
  · intro describes
    exact ⟨_, made.1, made.2, describes⟩

end Reference

/-- While names are distinct, every parameter is described when no enumeration takes the
place of a conversion and plain parameters of a type agree on their unit. -/
theorem described_iff {db : SRDB py}
    (typeNames : ((parameterTypeSet db).map (fun t => t.name)).Nodup)
    (names : (db.parameters.map (fun p => py.upper p.fields.name)).Nodup) :
    (∀ p ∈ db.parameters, ∃ t ∈ parameterTypeSet db,
        t.name = typeName py p.fields ∧ Describes t p.fields) ↔
      (∀ p ∈ db.parameters,
        isFilled p.fields.enumeration = true → p.fields.conversion = none) ∧
      ∀ p ∈ db.parameters, ∀ q ∈ db.parameters,
        p.fields.isDescribed = false → q.fields.isDescribed = false →
          p.fields.type = q.fields.type →
            unitElement p.fields.unit = unitElement q.fields.unit := by
  constructor
  · intro described
    constructor
    · intro p member filled
      obtain ⟨first, found⟩ := typedFor_of_mem member
      have describes := (describes_reference_iff typeNames found).mp (described p member)
      have isDescribed : p.fields.isDescribed = true := by
        simp [Parameter.isDescribed, filled]
      rw [typedFor_described names member isDescribed found] at describes
      exact (describes_missionParamType p _).mp describes filled
    · intro p member q otherMember plain otherPlain sameType
      obtain ⟨first, found⟩ := typedFor_of_mem member
      obtain ⟨firstPlain, firstType⟩ := typedFor_plain plain found
      -- both references name the type of one first parameter
      have sameName : typeName py p.fields = typeName py q.fields := by
        rw [typeName_plain p plain, typeName_plain q otherPlain, sameType]
      have otherFound : db.typedFor q.fields = some first := by
        unfold SRDB.typedFor at found ⊢
        rw [← sameName]
        exact found
      have describes := (describes_reference_iff typeNames found).mp (described p member)
      have otherDescribes :=
        (describes_reference_iff typeNames otherFound).mp (described q otherMember)
      have unit := (describes_shared plain firstPlain firstType _).mp describes
      have otherUnit :=
        (describes_shared otherPlain firstPlain (firstType.trans sameType) _).mp otherDescribes
      exact unit.symm.trans otherUnit
  · rintro ⟨calibrators, units⟩ p member
    obtain ⟨first, found⟩ := typedFor_of_mem member
    refine (describes_reference_iff typeNames found).mpr ?_
    cases isDescribed : p.fields.isDescribed with
    | true =>
        rw [typedFor_described names member isDescribed found]
        exact (describes_missionParamType p _).mpr (calibrators p member)
    | false =>
        obtain ⟨firstPlain, firstType⟩ := typedFor_plain isDescribed found
        exact (describes_shared isDescribed firstPlain firstType _).mpr
          (units first (typedFor_mem found) p member firstPlain isDescribed firstType)

/-! ### The generated types -/

theorem generateXtce_eq_some {db : SRDB py} {tm : TelemetryMetaData F}
    (generated : generateXtce db = some tm) : tm = tmMetadata db := by
  unfold generateXtce at generated
  split at generated
  · exact (Option.some.inj generated).symm
  · cases generated

/-- The generated types are unambiguous and describe their parameters exactly when the
database keeps them apart. -/
theorem unambiguous_iff {db : SRDB py} {tm : TelemetryMetaData F}
    (generated : generateXtce db = some tm) : Unambiguous db tm ↔ Distinguishable db := by
  rw [generateXtce_eq_some generated]
  constructor
  · intro unambiguous
    have typeNames : ((parameterTypeSet db).map (fun t => t.name)).Nodup := unambiguous.typeNames
    obtain ⟨names, headers⟩ := (parameterNames_nodup_iff db).mp unambiguous.parameterNames
    have described := fun p member => (unambiguous.described p member).2
    obtain ⟨calibrators, units⟩ := (described_iff typeNames names).mp described
    exact ⟨(typeNames_nodup_iff db).mp typeNames, names, headers, calibrators, units⟩
  · intro apart
    have typeNames := (typeNames_nodup_iff db).mpr apart.unsigned
    have described := (described_iff typeNames apart.names).mpr ⟨apart.calibrators, apart.units⟩
    refine ⟨typeNames, (parameterNames_nodup_iff db).mpr ⟨apart.names, apart.headers⟩, ?_⟩
    intro p member
    exact ⟨List.mem_append_right _ (List.mem_map_of_mem member), described p member⟩

/-! ### Two small databases -/

/-- A float parameter with a unit, a conversion and limits. -/
def busVoltage : Validated (Parameter.validate asciiPython) :=
  ⟨{ bareParameter 1 "bus_voltage" .float32 with
      unit := some "V".toList
      conversion := some { type := .linear, slope := some true, offset := some true }
      limits := some { softHigh := some true } }, by decide⟩

/-- A signed parameter with nothing but its number. -/
def rate : Validated (Parameter.validate asciiPython) :=
  ⟨bareParameter 2 "rate" .int16, by decide⟩

theorem distinguishable_telemetry : Distinguishable (parametersOnly [busVoltage, rate]) where
  unsigned := by decide
  names := by decide
  headers := by decide
  calibrators := by decide
  units := by decide

theorem unambiguous_telemetry :
    Unambiguous (parametersOnly [busVoltage, rate])
      (tmMetadata (parametersOnly [busVoltage, rate])) :=
  (unambiguous_iff rfl).mpr distinguishable_telemetry

/-- One plain `uint8` parameter makes a second `uint8_t` next to that of the headers. -/
theorem repeated_uint8 :
    (parametersOnly [temperature]).Loaded ∧
      generateXtce (parametersOnly [temperature]) = some (tmMetadata (parametersOnly [temperature])) ∧
      ¬ Unambiguous (parametersOnly [temperature]) (tmMetadata (parametersOnly [temperature])) := by
  refine ⟨(SRDB.loaded_iff _).mpr (by decide), rfl, ?_⟩
  intro unambiguous
  exact absurd unambiguous.typeNames (by decide)

end Openobsw.Srdb
