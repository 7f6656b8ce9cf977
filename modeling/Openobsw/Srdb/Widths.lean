import Openobsw.Srdb.Codegen

/-!
Owns the widths in the generated XTCE: which types a parameter reference leads to,
and how wide they are.
-/

namespace Openobsw.Srdb

open Openobsw.Lib.Tables

variable {F : Type} {py : Python F}

/-! ### Widths of validated parameters -/

/-- The bits of a value of the type. -/
def ParameterType.bits : ParameterType → Int
  | .uint8 | .int8 => 8
  | .uint16 | .int16 => 16
  | .uint32 | .int32 | .float32 => 32

/-- The name of the type of a parameter with nothing but a number. -/
def ParameterType.plainName : ParameterType → Text
  | .uint8 => "uint8_t".toList
  | .uint16 => "uint16_t".toList
  | .uint32 => "uint32_t".toList
  | .int8 => "int8_t".toList
  | .int16 => "int16_t".toList
  | .int32 => "int32_t".toList
  | .float32 => "float32_t".toList

theorem ptcPfc_of_validated (p : Validated (Parameter.validate py)) :
    p.fields.ptc = p.fields.type.ptcPfc.1 ∧ p.fields.pfc = p.fields.type.ptcPfc.2 := by
  have consistent := firstErrors_eq_nil.mp p.accepted (ptcPfcConsistentWithType p.fields) (by simp)
  have same : (p.fields.ptc, p.fields.pfc) = p.fields.type.ptcPfc := by
    simpa [ptcPfcConsistentWithType, checkModel_eq_nil] using consistent
  exact ⟨congrArg Prod.fst same, congrArg Prod.snd same⟩

theorem integer_of_enumeration (p : Validated (Parameter.validate py))
    (filled : isFilled p.fields.enumeration = true) : p.fields.ptc = 1 ∨ p.fields.ptc = 2 := by
  have integer := firstErrors_eq_nil.mp p.accepted (enumOnlyForInteger p.fields) (by simp)
  simpa [enumOnlyForInteger, checkModel_eq_nil, filled] using integer

theorem paramBits_validated (p : Validated (Parameter.validate py)) :
    paramBits p.fields = p.fields.type.bits := by
  obtain ⟨ptc, pfc⟩ := ptcPfc_of_validated p
  unfold paramBits
  rw [ptc, pfc]
  cases p.fields.type <;> rfl

theorem typeName_plain (p : Validated (Parameter.validate py))
    (plain : p.fields.isDescribed = false) :
    typeName py p.fields = p.fields.type.plainName := by
  obtain ⟨ptc, pfc⟩ := ptcPfc_of_validated p
  unfold typeName
  rw [plain, ptc, pfc]
  cases p.fields.type <;> rfl

theorem typeName_described (p : Validated (Parameter.validate py))
    (described : p.fields.isDescribed = true) :
    typeName py p.fields = py.upper p.fields.name ++ "_t".toList :=
  if_pos described

/-- The encoding of a value of the type. -/
def ParameterType.encoding : ParameterType → DataEncoding
  | .uint8 => .integer 8 false
  | .uint16 => .integer 16 false
  | .uint32 => .integer 32 false
  | .int8 => .integer 8 true
  | .int16 => .integer 16 true
  | .int32 => .integer 32 true
  | .float32 => .float 32

theorem ParameterType.encoding_sizeInBits (type : ParameterType) :
    type.encoding.sizeInBits = type.bits := by
  cases type <;> rfl

theorem missionParamType_encoding (p : Validated (Parameter.validate py)) (tname : Text) :
    (missionParamType p.fields tname).encoding = p.fields.type.encoding := by
  obtain ⟨ptc, pfc⟩ := ptcPfc_of_validated p
  unfold missionParamType
  by_cases filled : isFilled p.fields.enumeration = true
  · have integer := integer_of_enumeration p filled
    rw [if_pos filled]
    rw [ptc] at integer
    show DataEncoding.integer p.fields.pfc (decide (p.fields.ptc = 2)) = _
    rw [ptc, pfc]
    cases type : p.fields.type with
    | float32 =>
        rw [type] at integer
        exact absurd integer (by decide)
    | _ => rfl
  · have bits := paramBits_validated p
    rw [if_neg filled, bits, ptc, pfc]
    cases p.fields.type <;> rfl

theorem missionParamType_bits (p : Validated (Parameter.validate py)) (tname : Text) :
    (missionParamType p.fields tname).encoding.sizeInBits = p.fields.type.bits := by
  rw [missionParamType_encoding]
  exact p.fields.type.encoding_sizeInBits

theorem missionParamType_name (p : Parameter F) (tname : Text) :
    (missionParamType p tname).name = tname := by
  unfold missionParamType
  split
  · rfl
  · split <;> rfl

/-- A type name with a lower-case letter in front of `_t` is not that of a described
parameter. -/
theorem upper_ne_of_lower (py : Python F) (name : Text) {stem : Text}
    (lower : stem.any Char.isLower = true) : py.upper name ++ "_t".toList ≠ stem ++ "_t".toList := by
  intro same
  rw [← List.append_cancel_right same] at lower
  obtain ⟨c, member, isLower⟩ := List.any_eq_true.mp lower
  obtain ⟨original, _, inUpper⟩ := List.mem_flatMap.mp member
  rw [py.upperChar_not_lower original c inUpper] at isLower
  cases isLower

theorem upper_ne_plainName (py : Python F) (name : Text) (type : ParameterType) :
    py.upper name ++ "_t".toList ≠ type.plainName := by
  have stem : type.plainName = type.plainName.dropLast.dropLast ++ "_t".toList := by
    cases type <;> rfl
  rw [stem]
  exact upper_ne_of_lower py name (by cases type <;> rfl)

theorem upper_ne_header (py : Python F) (name : Text) :
    ∀ row ∈ headerTypeTable, py.upper name ++ "_t".toList ≠ row.1.toList := by
  have stems : ∀ row ∈ headerTypeTable,
      row.1.toList = row.1.toList.dropLast.dropLast ++ "_t".toList ∧
        row.1.toList.dropLast.dropLast.any Char.isLower = true := by
    decide
  intro row member
  rw [(stems row member).1]
  exact upper_ne_of_lower py name (stems row member).2

theorem plainName_injective {type other : ParameterType}
    (same : type.plainName = other.plainName) : type = other := by
  revert same
  cases type <;> cases other <;> decide

/-- A plain parameter shares its type name with those of its type alone, and a described
one with the described ones of its name. -/
theorem typeName_eq_plainName (p : Validated (Parameter.validate py)) (type : ParameterType) :
    typeName py p.fields = type.plainName ↔
      p.fields.isDescribed = false ∧ p.fields.type = type := by
  cases described : p.fields.isDescribed with
  | true =>
      rw [typeName_described p described]
      exact iff_of_false (upper_ne_plainName py _ type) (by simp)
  | false =>
      rw [typeName_plain p described]
      simp only [true_and]
      constructor
      · exact fun same => plainName_injective same
      · intro same
        rw [same]

theorem typeName_eq_upper (p : Validated (Parameter.validate py)) (name : Text) :
    typeName py p.fields = py.upper name ++ "_t".toList ↔
      p.fields.isDescribed = true ∧ py.upper p.fields.name = py.upper name := by
  cases described : p.fields.isDescribed with
  | true =>
      rw [typeName_described p described, List.append_left_inj]
      simp
  | false =>
      rw [typeName_plain p described]
      exact iff_of_false (upper_ne_plainName py name p.fields.type).symm (by simp)

/-- The mission types are those of the first parameters of each type name. -/
theorem missionTypes_eq (emitted : List Text) (parameters : List (Parameter F)) :
    missionTypes py emitted parameters =
      (firsts (typeName py) emitted parameters).map
        (fun p => missionParamType p (typeName py p)) := by
  induction parameters generalizing emitted with
  | nil => rfl
  | cons p rest inductionHypothesis =>
      unfold missionTypes firsts
      split
      · exact inductionHypothesis emitted
      · rw [List.map_cons, inductionHypothesis]

/-- The types of a name among the mission types: that of the first parameter with it. -/
theorem missionTypes_filter (name : Text) (emitted : List Text) (parameters : List (Parameter F)) :
    (missionTypes py emitted parameters).filter (fun t => t.name = name) =
      if name ∈ emitted then []
      else ((parameters.find? (fun p => typeName py p = name)).map
        (fun p => missionParamType p name)).toList := by
  have named : ((fun t : ParameterTypeElement F => decide (t.name = name)) ∘
      fun p => missionParamType p (typeName py p)) = fun p => decide (typeName py p = name) := by
    funext p
    simp only [Function.comp_apply, missionParamType_name]
  rw [missionTypes_eq, List.filter_map, named, firsts_filter]
  split
  · rfl
  · cases found : parameters.find? (fun p => typeName py p = name) with
    | none => rfl
    | some p =>
        have typed : typeName py p = name := by simpa using List.find?_some found
        simp only [Option.toList_some, List.map_cons, List.map_nil, Option.map_some, typed]

/-! ### What a reference leads to -/

variable {db : SRDB py} {name : Text} {width : Int}

/-- The types of a name: header types, and the mission type of the first parameter
that has it. -/
theorem mem_typesNamed {t : ParameterTypeElement F} :
    (t ∈ parameterTypeSet db ∧ t.name = name) ↔
      (∃ row ∈ headerTypeTable, row.1.toList = name ∧ t = uintType row.1 row.2) ∨
      ∃ p, db.parameters.find? (fun p => typeName py p.fields = name) = some p ∧
        t = missionParamType p.fields name := by
  have mission : (t ∈ missionTypes py [] (db.parameters.map (fun p => p.fields)) ∧ t.name = name) ↔
      ∃ p, db.parameters.find? (fun p => typeName py p.fields = name) = some p ∧
        t = missionParamType p.fields name := by
    have filtered := @missionTypes_filter F py name [] (db.parameters.map (fun p => p.fields))
    rw [if_neg List.not_mem_nil, List.find?_map] at filtered
    have inFilter : t ∈ (missionTypes py [] (db.parameters.map (fun p => p.fields))).filter
        (fun t => t.name = name) ↔
          t ∈ missionTypes py [] (db.parameters.map (fun p => p.fields)) ∧ t.name = name := by
      simp [List.mem_filter]
    rw [← inFilter, filtered]
    simp only [Option.mem_toList, Option.map_map, Option.map_eq_some_iff]
    constructor
    · rintro ⟨p, found, rfl⟩
      exact ⟨p, found, rfl⟩
    · rintro ⟨p, found, rfl⟩
      exact ⟨p, found, rfl⟩
  have header : (t ∈ headerTypes ∧ t.name = name) ↔
      ∃ row ∈ headerTypeTable, row.1.toList = name ∧ t = uintType row.1 row.2 := by
    unfold headerTypes
    rw [List.mem_map]
    constructor
    · rintro ⟨⟨row, member, rfl⟩, named⟩
      exact ⟨row, member, named, rfl⟩
    · rintro ⟨row, member, named, rfl⟩
      exact ⟨⟨row, member, rfl⟩, named⟩
  unfold parameterTypeSet
  rw [List.mem_append, or_and_right, mission, header]

/-- The header parameter's type is in the table of header types. -/
theorem headerParameters_typed :
    ∀ h ∈ headerParameters, ∃ row ∈ headerTypeTable, row.1.toList = h.parameterTypeRef := by
  decide

/-- Where a header type has the name of a plain type, it has its width. -/
theorem headerType_plain :
    ∀ row ∈ headerTypeTable, ∀ type ∈ [ParameterType.uint8, .uint16, .uint32, .int8, .int16,
      .int32, .float32], row.1.toList = type.plainName → row.2 = type.bits := by
  decide

theorem headerType_bits {row : String × Int} (member : row ∈ headerTypeTable)
    {type : ParameterType} (same : row.1.toList = type.plainName) : row.2 = type.bits :=
  headerType_plain row member type (by cases type <;> simp) same

/-- The type of a plain parameter, by whichever element of its name, has its width. -/
theorem width_of_plainName (type : ParameterType) {t : ParameterTypeElement F}
    (member : t ∈ parameterTypeSet db) (named : t.name = type.plainName) :
    t.encoding.sizeInBits = type.bits := by
  rcases mem_typesNamed.mp ⟨member, named⟩ with ⟨row, inTable, rowName, rfl⟩ | ⟨p, found, rfl⟩
  · exact headerType_bits inTable rowName
  · have shared := List.find?_some found
    simp only [decide_eq_true_eq] at shared
    rw [missionParamType_bits, ((typeName_eq_plainName p type).mp shared).2]

/-- The described parameter that the type of a described parameter is made for. -/
def SRDB.describedAs (db : SRDB py) (reference : Text) :
    Option (Validated (Parameter.validate py)) :=
  db.parameters.find? (fun p => p.fields.isDescribed && (py.upper p.fields.name = reference : Bool))

theorem find?_typeName_described (name : Text) :
    db.parameters.find? (fun p => typeName py p.fields = py.upper name ++ "_t".toList) =
      db.describedAs (py.upper name) := by
  unfold SRDB.describedAs
  congr 1
  funext p
  rw [Bool.eq_iff_iff, decide_eq_true_iff, Bool.and_eq_true, decide_eq_true_iff]
  exact typeName_eq_upper p name

/-- A reference leads to header types, to the types of plain parameters of the name, and
to the type of the first described one. -/
theorem mem_widths_iff (db : SRDB py) (reference : Text) (width : Int) :
    width ∈ (tmMetadata db).widths reference ↔
      (∃ h ∈ headerParameters, h.name = reference ∧
        ∃ row ∈ headerTypeTable, row.1.toList = h.parameterTypeRef ∧ row.2 = width) ∨
      (∃ p ∈ db.parameters, py.upper p.fields.name = reference ∧ p.fields.isDescribed = false ∧
        p.fields.type.bits = width) ∨
      ∃ p, db.describedAs reference = some p ∧ p.fields.type.bits = width := by
  have unfolded : width ∈ (tmMetadata db).widths reference ↔
      ∃ e ∈ parameterSet db, e.name = reference ∧
        ∃ t ∈ parameterTypeSet db, t.name = e.parameterTypeRef ∧ t.encoding.sizeInBits = width := by
    simp [TelemetryMetaData.widths, tmMetadata, and_assoc]
  rw [unfolded]
  constructor
  · rintro ⟨e, member, named, t, inTypes, typeNamed, rfl⟩
    rcases List.mem_append.mp member with header | mission
    · refine .inl ⟨e, header, named, ?_⟩
      rcases mem_typesNamed.mp ⟨inTypes, typeNamed⟩ with ⟨row, inTable, rowName, rfl⟩ | ⟨p, found, rfl⟩
      · exact ⟨row, inTable, rowName, rfl⟩
      · obtain ⟨row, inTable, rowName⟩ := headerParameters_typed e header
        have shared := List.find?_some found
        simp only [decide_eq_true_eq] at shared
        refine ⟨row, inTable, rowName, ?_⟩
        rw [missionParamType_bits]
        cases described : p.fields.isDescribed with
        | true =>
            rw [typeName_described p described, ← rowName] at shared
            exact absurd shared (upper_ne_header py p.fields.name row inTable)
        | false =>
            rw [typeName_plain p described, ← rowName] at shared
            exact headerType_bits inTable shared.symm
    · obtain ⟨p, inParameters, rfl⟩ := List.mem_map.mp mission
      cases described : p.fields.isDescribed with
      | false =>
          refine .inr (.inl ⟨p, inParameters, named, described, ?_⟩)
          exact (width_of_plainName p.fields.type inTypes
            (typeNamed.trans (typeName_plain p described))).symm
      | true =>
          refine .inr (.inr ?_)
          have typeIs := typeNamed.trans (typeName_described p described)
          rcases mem_typesNamed.mp ⟨inTypes, typeIs⟩ with ⟨row, inTable, rowName, rfl⟩ | ⟨q, found, rfl⟩
          · exact absurd rowName.symm (upper_ne_header py p.fields.name row inTable)
          · rw [find?_typeName_described] at found
            have upperIs : py.upper p.fields.name = reference := named
            rw [upperIs] at found
            exact ⟨q, found, (missionParamType_bits q _).symm⟩
  · rintro (⟨h, header, named, row, inTable, rowName, rfl⟩ | ⟨p, member, named, plain, rfl⟩ |
      ⟨p, found, rfl⟩)
    · have typed := (@mem_typesNamed F py db _ _).mpr (.inl ⟨row, inTable, rowName, rfl⟩)
      exact ⟨h, List.mem_append_left _ header, named, _, typed.1, typed.2, rfl⟩
    · have shared := typeName_plain p plain
      obtain ⟨q, found⟩ : ∃ q, db.parameters.find?
          (fun q => typeName py q.fields = p.fields.type.plainName) = some q :=
        Option.isSome_iff_exists.mp (List.find?_isSome.mpr ⟨p, member, decide_eq_true shared⟩)
      have typed := mem_typesNamed.mpr (.inr ⟨q, found, rfl⟩)
      exact ⟨_, List.mem_append_right _ (List.mem_map_of_mem member), named, _, typed.1,
        typed.2.trans shared.symm, width_of_plainName _ typed.1 typed.2⟩
    · have member := List.mem_of_find?_eq_some found
      have selected := List.find?_some found
      rw [Bool.and_eq_true, decide_eq_true_iff] at selected
      obtain ⟨described, named⟩ := selected
      have first : db.parameters.find?
          (fun q => typeName py q.fields = py.upper p.fields.name ++ "_t".toList) = some p := by
        rw [find?_typeName_described, named]
        exact found
      have typed := mem_typesNamed.mpr (.inr ⟨p, first, rfl⟩)
      exact ⟨_, List.mem_append_right _ (List.mem_map_of_mem member), named, _, typed.1,
        typed.2.trans (typeName_described p described).symm, missionParamType_bits p _⟩

end Openobsw.Srdb
