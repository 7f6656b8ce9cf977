import Openobsw.Srdb.Returns

/-!
Owns what a parameter has to hold to come back from its row, and when two parameters
are equal: their numbers are compared as floating-point numbers.
-/

namespace Openobsw.Srdb

open Openobsw.Lib.Csv

variable {F : Type} {py : Python F}

/-! ### Equality -/

/-- `==` of two optional numbers. -/
def SameNumber (py : Python F) : Option F → Option F → Prop :=
  Option.Rel (fun x y => py.eq x y = true)

/-- `==` of two conversions -/
structure ParameterConversion.Equal (py : Python F) (c d : ParameterConversion F) : Prop where
  type : c.type = d.type
  slope : SameNumber py c.slope d.slope
  offset : SameNumber py c.offset d.offset

/-- `==` of two sets of limits -/
structure ParameterLimits.Equal (py : Python F) (l m : ParameterLimits F) : Prop where
  softLow : SameNumber py l.softLow m.softLow
  softHigh : SameNumber py l.softHigh m.softHigh
  hardLow : SameNumber py l.hardLow m.hardLow
  hardHigh : SameNumber py l.hardHigh m.hardHigh

/-- `==` of two parameters -/
structure Parameter.Equal (py : Python F) (p q : Parameter F) : Prop where
  others : ({ p with conversion := none, limits := none } : Parameter F) =
    { q with conversion := none, limits := none }
  conversion : Option.Rel (ParameterConversion.Equal py) p.conversion q.conversion
  limits : Option.Rel (ParameterLimits.Equal py) p.limits q.limits

/-! ### Numbers -/

/-- A number, where there is one, is not a NaN. -/
def Numeric (py : Python F) (value : Option F) : Prop := ∀ x, value = some x → py.eq x x = true

theorem numeric_of_same {value other : Option F} (same : SameNumber py value other) :
    Numeric py value := by
  rintro x rfl
  cases same with
  | some equal => exact py.eq_self_of_eq _ _ equal

theorem same_of_numeric {value : Option F} (numeric : Numeric py value) :
    SameNumber py value value := by
  cases value with
  | none => exact .none
  | some x => exact .some (numeric x rfl)

/-- The cell of a number is not blank. -/
theorem isVisible_repr (x : F) : py.isVisible (py.repr x) = true := by
  obtain ⟨c, member, visible⟩ := py.repr_visible x
  exact List.any_eq_true.mpr ⟨c, member, by simp [visible]⟩

theorem isFilled_floatCell (value : Option F) :
    isFilled (some (floatCell py value)) = value.isSome := by
  cases value with
  | none => rfl
  | some x =>
      obtain ⟨c, member, _⟩ := py.repr_visible x
      obtain ⟨first, rest, written⟩ := List.exists_cons_of_ne_nil (List.ne_nil_of_mem member)
      show isFilled (some (py.repr x)) = true
      rw [written]
      rfl

/-- A number comes back from the cell it was written to. -/
theorem number_returns {value : Option F} (numeric : Numeric py value) :
    parseOptionalFloat py (floatCell py value) = some value := by
  unfold parseOptionalFloat floatCell
  cases value with
  | none => rfl
  | some x =>
      rw [Option.elim_some, if_pos (isVisible_repr x), py.float_repr x (numeric x rfl)]
      rfl

theorem floatCell_fits (value : Option F) : Fits (floatCell py value) := by
  cases value with
  | none => exact Nat.zero_le _
  | some x => exact Nat.le_trans (py.repr_short x) (by decide)

theorem conversionCell_fits (conversion : Option (ParameterConversion F)) :
    Fits (conversion.elim [] (fun c => c.type.value)) := by
  cases conversion with
  | none => exact Nat.zero_le _
  | some c =>
      show c.type.value.length ≤ fieldSizeLimit
      cases c.type
      decide

/-! ### What comes back -/

/-- A text that is written as it is, and an absent one as an empty cell. -/
def OptionalSurvives (text : Option Text) : Prop := ∀ value, text = some value → value ≠ [] ∧ Fits value

structure EnumEntry.Survives (e : EnumEntry) : Prop where
  value : HasDecimal e.value
  label : ';' ∉ e.label

/-- The length of an entry in its cell. -/
def EnumEntry.written (e : EnumEntry) : Nat := (intText e.value).length + 1 + e.label.length

structure ParameterConversion.Survives (py : Python F) (c : ParameterConversion F) : Prop where
  slope : Numeric py c.slope
  offset : Numeric py c.offset

structure ParameterLimits.Survives (py : Python F) (l : ParameterLimits F) : Prop where
  present : l.softLow.isSome || l.softHigh.isSome || l.hardLow.isSome || l.hardHigh.isSome
  softLow : Numeric py l.softLow
  softHigh : Numeric py l.softHigh
  hardLow : Numeric py l.hardLow
  hardHigh : Numeric py l.hardHigh

/-- What a parameter has to hold to come back. -/
structure Parameter.Survives (py : Python F) (p : Parameter F) : Prop where
  name : Fits p.name
  description : Fits p.description
  subsystem : OptionalSurvives p.subsystem
  unit : OptionalSurvives p.unit
  listed : p.enumeration ≠ some []
  entries : ∀ entries, p.enumeration = some entries →
    (∀ e ∈ entries, e.Survives) ∧ joinedLength (entries.map EnumEntry.written) ≤ fieldSizeLimit
  conversion : ∀ c, p.conversion = some c → c.Survives py
  limits : ∀ l, p.limits = some l → l.Survives py

/-! ### Rows -/

theorem parameterHeader_nodup : parameterHeader.Nodup := by decide

theorem parameter_text {row : Row} {index : Nat} {name : String}
    (place : parameterHeader[index]? = some name.toList) :
    (dictRow parameterHeader row).text name = row[index]? :=
  text_dictRow parameterHeader_nodup place

theorem parameter_item {row : Row} {index : Nat} {name : String}
    (place : parameterHeader[index]? = some name.toList) :
    (dictRow parameterHeader row).item name = some row[index]? :=
  item_dictRow parameterHeader_nodup place

/-- The conversion that the decoder makes of the last seven cells. -/
theorem importConversion_row {row : Row} {convType slope offset : Text}
    (convTypeCell : row[9]? = some convType) (slopeCell : row[10]? = some slope)
    (offsetCell : row[11]? = some offset) :
    importConversion py (dictRow parameterHeader row) =
      if isFilled (some convType) then do
        let type ← ConversionType.ofText convType
        let slope ← parseOptionalFloat py slope
        let offset ← parseOptionalFloat py offset
        let conversion ← made ParameterConversion.validate ⟨type, slope, offset⟩
        return some conversion.fields
      else return none := by
  unfold importConversion
  rw [@parameter_item row 9 "conv_type" rfl, @parameter_text row 10 "conv_slope" rfl,
    @parameter_text row 11 "conv_offset" rfl, convTypeCell, slopeCell, offsetCell]
  rfl

theorem importLimits_row {row : Row} {softLow softHigh hardLow hardHigh : Text}
    (softLowCell : row[12]? = some softLow) (softHighCell : row[13]? = some softHigh)
    (hardLowCell : row[14]? = some hardLow) (hardHighCell : row[15]? = some hardHigh) :
    importLimits py (dictRow parameterHeader row) =
      if isFilled (some softLow) || isFilled (some softHigh) || isFilled (some hardLow) ||
          isFilled (some hardHigh) then do
        let softLow ← parseOptionalFloat py softLow
        let softHigh ← parseOptionalFloat py softHigh
        let hardLow ← parseOptionalFloat py hardLow
        let hardHigh ← parseOptionalFloat py hardHigh
        let limits ← made (ParameterLimits.validate py) ⟨softLow, softHigh, hardLow, hardHigh⟩
        return some limits.fields
      else return none := by
  unfold importLimits
  rw [@parameter_item row 12 "limit_soft_low" rfl, @parameter_item row 13 "limit_soft_high" rfl,
    @parameter_item row 14 "limit_hard_low" rfl, @parameter_item row 15 "limit_hard_high" rfl,
    softLowCell, softHighCell, hardLowCell, hardHighCell]
  rfl

/-- A conversion comes back from the cells it was written to. -/
theorem conversion_returns {row : Row} {conversion : Option (ParameterConversion F)}
    (accepted : conversion.elim [] ParameterConversion.validate = [])
    (convTypeCell : row[9]? = some (conversion.elim [] (fun c => c.type.value)))
    (slopeCell : row[10]? = some (floatCell py (conversion.bind (fun c => c.slope))))
    (offsetCell : row[11]? = some (floatCell py (conversion.bind (fun c => c.offset))))
    (survives : ∀ c, conversion = some c → c.Survives py) :
    importConversion py (dictRow parameterHeader row) = some conversion := by
  rw [importConversion_row convTypeCell slopeCell offsetCell]
  cases conversion with
  | none => rfl
  | some c =>
      obtain ⟨slope, offset⟩ := survives c rfl
      rw [if_pos (by rfl)]
      show (parseOptionalFloat py (floatCell py c.slope) >>= _) = _
      rw [number_returns slope]
      show (parseOptionalFloat py (floatCell py c.offset) >>= _) = _
      rw [number_returns offset]
      show (made ParameterConversion.validate c >>= _) = _
      rw [made_fields ⟨c, accepted⟩]
      rfl

/-- Limits come back from the cells they were written to. -/
theorem limits_return {row : Row} {limits : Option (ParameterLimits F)}
    (accepted : limits.elim [] (ParameterLimits.validate py) = [])
    (softLowCell : row[12]? = some (floatCell py (limits.bind (fun l => l.softLow))))
    (softHighCell : row[13]? = some (floatCell py (limits.bind (fun l => l.softHigh))))
    (hardLowCell : row[14]? = some (floatCell py (limits.bind (fun l => l.hardLow))))
    (hardHighCell : row[15]? = some (floatCell py (limits.bind (fun l => l.hardHigh))))
    (survives : ∀ l, limits = some l → l.Survives py) :
    importLimits py (dictRow parameterHeader row) = some limits := by
  rw [importLimits_row softLowCell softHighCell hardLowCell hardHighCell]
  simp only [isFilled_floatCell]
  cases limits with
  | none => rfl
  | some l =>
      obtain ⟨present, softLow, softHigh, hardLow, hardHigh⟩ := survives l rfl
      simp only [Option.bind_some, if_pos present]
      show (parseOptionalFloat py (floatCell py l.softLow) >>= _) = _
      rw [number_returns softLow]
      show (parseOptionalFloat py (floatCell py l.softHigh) >>= _) = _
      rw [number_returns softHigh]
      show (parseOptionalFloat py (floatCell py l.hardLow) >>= _) = _
      rw [number_returns hardLow]
      show (parseOptionalFloat py (floatCell py l.hardHigh) >>= _) = _
      rw [number_returns hardHigh]
      show (made (ParameterLimits.validate py) l >>= _) = _
      rw [made_fields ⟨l, accepted⟩]
      rfl

/-- Limits without a limit in them are read back as no limits at all. -/
theorem limits_absent {row : Row} {limits : Option (ParameterLimits F)}
    (softLowCell : row[12]? = some (floatCell py (limits.bind (fun l => l.softLow))))
    (softHighCell : row[13]? = some (floatCell py (limits.bind (fun l => l.softHigh))))
    (hardLowCell : row[14]? = some (floatCell py (limits.bind (fun l => l.hardLow))))
    (hardHighCell : row[15]? = some (floatCell py (limits.bind (fun l => l.hardHigh))))
    {l : ParameterLimits F} (empty : limits = some l)
    (absent : ¬(l.softLow.isSome || l.softHigh.isSome || l.hardLow.isSome || l.hardHigh.isSome)) :
    importLimits py (dictRow parameterHeader row) = some none := by
  subst empty
  rw [importLimits_row softLowCell softHighCell hardLowCell hardHighCell]
  simp only [isFilled_floatCell]
  exact if_neg absent

/-! ### Enumerations -/

/-- The item of an entry whose value has a decimal form. -/
def entryText (e : EnumEntry) : Text := intText e.value ++ ':' :: e.label

theorem entryText_length (e : EnumEntry) : (entryText e).length = e.written := by
  unfold entryText EnumEntry.written
  rw [List.length_append, List.length_cons]
  omega

theorem entries_length (entries : List EnumEntry) :
    (join ';' (entries.map entryText)).length = joinedLength (entries.map EnumEntry.written) := by
  rw [join_length, List.map_map]
  exact congrArg joinedLength (List.map_congr_left fun e _ => entryText_length e)

theorem strInt_of_decimal {value : Int} (decimal : HasDecimal value) :
    strInt value = some (intText value) := by
  obtain ⟨text, written⟩ := Option.isSome_iff_exists.mp decimal
  rw [written, strInt_eq_intText written]

theorem enumEntryText_iff {e : EnumEntry} {text : Text} :
    enumEntryText e = some text ↔ HasDecimal e.value ∧ text = entryText e := by
  unfold enumEntryText
  constructor
  · intro written
    obtain ⟨value, valueEq, rfl⟩ := Option.map_eq_some_iff.mp written
    exact ⟨Option.isSome_iff_exists.mpr ⟨value, valueEq⟩, by rw [strInt_eq_intText valueEq]; rfl⟩
  · rintro ⟨decimal, rfl⟩
    rw [strInt_of_decimal decimal]
    rfl

theorem enumText_iff {enumeration : Option (List EnumEntry)} {cell : Text} :
    enumText enumeration = some cell ↔
      (∀ e ∈ enumeration.getD [], HasDecimal e.value) ∧
        cell = join ';' ((enumeration.getD []).map entryText) := by
  unfold enumText
  split
  · rw [Option.map_eq_some_iff]
    simp only [Lib.Tables.mapM_iff_of_spec (fun _ _ => enumEntryText_iff)]
    constructor
    · rintro ⟨items, ⟨decimal, rfl⟩, rfl⟩
      exact ⟨decimal, rfl⟩
    · rintro ⟨decimal, rfl⟩
      exact ⟨_, ⟨decimal, rfl⟩, rfl⟩
  · rename_i empty
    rcases enumeration with _ | _ | ⟨e, rest⟩
    · simp [join, eq_comm]
    · simp [join, eq_comm]
    · exact absurd rfl empty

/-- A decimal integer has a sign and digits only. -/
theorem entry_returns {e : EnumEntry} (survives : e.Survives) :
    parseEnumEntry py (entryText e) = some e ∧ ';' ∉ entryText e := by
  have withoutColon : ':' ∉ intText e.value := not_mem_intText e.value (by decide) rfl
  constructor
  · unfold parseEnumEntry entryText
    rw [partition_append withoutColon]
    show (py.int 10 (intText e.value)).map _ = _
    rw [int_strInt py (strInt_of_decimal survives.value)]
    rfl
  · intro member
    simp only [entryText, List.mem_append, List.mem_cons] at member
    rcases member with inValue | colon | inLabel
    · exact not_mem_intText e.value (by decide) rfl inValue
    · exact absurd colon (by decide)
    · exact survives.label inLabel

/-- An enumeration comes back from the cell it was written to. -/
theorem enumeration_returns {enumeration : Option (List EnumEntry)} (listed : enumeration ≠ some [])
    (each : ∀ e ∈ enumeration.getD [], e.Survives) :
    parseEnumeration py (some (join ';' ((enumeration.getD []).map entryText))) =
      some enumeration := by
  cases enumeration with
  | none => rfl
  | some entries =>
      have nonempty : entries ≠ [] := fun empty => listed (congrArg some empty)
      have visible : ∀ item ∈ entries.map entryText, item ≠ [] := by
        simp [entryText]
      obtain ⟨c, rest, joined⟩ := List.exists_cons_of_ne_nil
        (@join_ne_nil ';' (entries.map entryText) (by simpa using nonempty) visible)
      have filled : isFilled (some (join ';' (entries.map entryText))) = true := by
        rw [joined]
        rfl
      unfold parseEnumeration
      simp only [Option.getD_some]
      rw [if_pos filled, mapM_split_join nonempty (fun e member => entry_returns (each e member))]
      rfl

/-- Whatever a cell holds, the entries read from it have labels without its separator. -/
theorem entries_of_read {cell : Text} {entries : List EnumEntry}
    (read : parseEnumeration py (some cell) = some (some entries)) :
    entries ≠ [] ∧ ∀ e ∈ entries, ';' ∉ e.label := by
  unfold parseEnumeration at read
  split at read
  · obtain ⟨values, valuesEq, same⟩ := Option.map_eq_some_iff.mp read
    cases same
    obtain ⟨nonempty, each⟩ := of_mapM_split valuesEq
    refine ⟨nonempty, fun e member => ?_⟩
    obtain ⟨item, without, parsed⟩ := each e member
    unfold parseEnumEntry at parsed
    split at parsed
    · rename_i value label parted
      obtain ⟨number, _, same⟩ := Option.map_eq_some_iff.mp parsed
      cases same
      have whole := eq_of_partition (congrArg Prod.snd parted)
      rw [whole] at without
      exact fun inLabel => without (List.mem_append_right _ (List.mem_cons_of_mem _ inLabel))
    · cases parsed
  · cases read

/-! ### Parameters -/

/-- What the decoder makes of the first nine cells. -/
theorem importParameter_row {row more : Row}
    {id name description type ptc pfc subsystem unit enumeration : Text}
    (cells : row = id :: name :: description :: type :: ptc :: pfc :: subsystem :: unit ::
      enumeration :: more) :
    importParameter py (dictRow parameterHeader row) = (do
      let conversion ← importConversion py (dictRow parameterHeader row)
      let limits ← importLimits py (dictRow parameterHeader row)
      let enumeration ← parseEnumeration py (some enumeration)
      let id ← py.int 16 id
      let type ← ParameterType.ofText type
      let ptc ← py.int 10 ptc
      let pfc ← py.int 10 pfc
      made (Parameter.validate py) {
        id, name, description, type, ptc, pfc
        subsystem := orNone (some subsystem)
        unit := orNone (some unit)
        enumeration, conversion, limits }) := by
  unfold importParameter
  rw [@parameter_text row 0 "id_hex" rfl, @parameter_text row 1 "name" rfl,
    @parameter_text row 2 "description" rfl, @parameter_text row 3 "type" rfl,
    @parameter_text row 4 "ptc" rfl, @parameter_text row 5 "pfc" rfl,
    @parameter_text row 6 "subsystem" rfl, @parameter_text row 7 "unit" rfl,
    @parameter_text row 8 "enumeration" rfl, cells]
  rfl

/-- An optional text comes back from the cell it was written to, unless it is empty. -/
theorem orNone_getD_iff {value : Option Text} :
    orNone (some (value.getD [])) = value ↔ ∀ text, value = some text → text ≠ [] := by
  rcases value with _ | _ | ⟨c, rest⟩
  · simp [orNone, isFilled]
  · simp [orNone, isFilled]
  · simp [orNone, isFilled]

/-- What the validators of a parameter leave: the numbers are small, and its nested records
are accepted. -/
structure Parameter.Accepted (py : Python F) (p : Parameter F) : Prop where
  id : 0 ≤ p.id ∧ p.id ≤ 0xFFFF
  ptc : 0 ≤ p.ptc ∧ p.ptc ≤ 5
  pfc : 0 ≤ p.pfc ∧ p.pfc ≤ 32
  conversion : p.conversion.elim [] ParameterConversion.validate = []
  limits : p.limits.elim [] (ParameterLimits.validate py) = []

theorem Parameter.accepted_of_validate {p : Parameter F} (accepted : p.validate py = []) :
    p.Accepted py := by
  unfold Parameter.validate Parameter.fieldErrors idInRange ptcPfcConsistentWithType at accepted
  rw [firstErrors_eq_nil, List.forall_mem_cons, List.forall_mem_cons, checkModel_eq_nil,
    decide_eq_true_iff] at accepted
  simp only [List.append_eq_nil_iff, check_eq_nil, decide_eq_true_iff, nested,
    List.map_eq_nil_iff] at accepted
  obtain ⟨⟨⟨⟨⟨idRange, _⟩, _⟩, conversion⟩, limits⟩, consistent, _⟩ := accepted
  obtain ⟨ptcEq, pfcEq⟩ := Prod.mk.inj consistent
  refine ⟨idRange, ?_, ?_, conversion, limits⟩
  · rw [ptcEq]
    cases p.type <;> decide
  · rw [pfcEq]
    cases p.type <;> decide

/-- `==` of two valid parameters -/
def Parameter.Same (p q : Validated (Parameter.validate py)) : Prop := p.fields.Equal py q.fields

theorem Parameter.equal_self {p : Parameter F}
    (conversion : ∀ c, p.conversion = some c → c.Survives py)
    (limits : ∀ l, p.limits = some l → l.Survives py) : p.Equal py p := by
  constructor
  · rfl
  · cases present : p.conversion with
    | none => exact .none
    | some c =>
        obtain ⟨slope, offset⟩ := conversion c present
        exact .some ⟨rfl, same_of_numeric slope, same_of_numeric offset⟩
  · cases present : p.limits with
    | none => exact .none
    | some l =>
        obtain ⟨_, softLow, softHigh, hardLow, hardHigh⟩ := limits l present
        exact .some ⟨same_of_numeric softLow, same_of_numeric softHigh, same_of_numeric hardLow,
          same_of_numeric hardHigh⟩

/-- The cells of a parameter whose numbers and enumeration can be written. -/
theorem exportParameter_row {p : Parameter F} {ptc pfc enumeration : Text}
    (ptcEq : strInt p.ptc = some ptc) (pfcEq : strInt p.pfc = some pfc)
    (enumerationEq : enumText p.enumeration = some enumeration) :
    exportParameter py p = some [hexText 4 p.id, p.name, p.description, p.type.value, ptc, pfc,
      p.subsystem.getD [], p.unit.getD [], enumeration,
      p.conversion.elim [] (fun c => c.type.value),
      floatCell py (p.conversion.bind (fun c => c.slope)),
      floatCell py (p.conversion.bind (fun c => c.offset)),
      floatCell py (p.limits.bind (fun l => l.softLow)),
      floatCell py (p.limits.bind (fun l => l.softHigh)),
      floatCell py (p.limits.bind (fun l => l.hardLow)),
      floatCell py (p.limits.bind (fun l => l.hardHigh))] := by
  unfold exportParameter
  rw [ptcEq, pfcEq, enumerationEq]
  rfl

theorem parameter_survives {p : Validated (Parameter.validate py)}
    (returns : Returns parameterHeader (fun p => exportParameter py p.fields) (importParameter py)
      Parameter.Same p) : p.fields.Survives py := by
  obtain ⟨row, exported, short, b, imported, others, conversionSame, limitsSame⟩ := returns
  obtain ⟨idRange, ptcRange, pfcRange, _, _⟩ := Parameter.accepted_of_validate p.accepted
  obtain ⟨ptc, ptcEq, exported⟩ := bind_eq_some.mp exported
  obtain ⟨pfc, pfcEq, exported⟩ := bind_eq_some.mp exported
  obtain ⟨enumeration, enumerationEq, exported⟩ := bind_eq_some.mp exported
  cases exported
  obtain ⟨decimal, enumerationCell⟩ := enumText_iff.mp enumerationEq
  rw [importParameter_row rfl] at imported
  obtain ⟨conversion, _, imported⟩ := bind_eq_some.mp imported
  obtain ⟨limits, limitsEq, imported⟩ := bind_eq_some.mp imported
  obtain ⟨entries, entriesEq, imported⟩ := bind_eq_some.mp imported
  rw [int_hexText py 4 idRange.1, ParameterType.ofText_iff.mpr rfl, int_strInt py ptcEq,
    int_strInt py pfcEq] at imported
  have fields := fields_of_made imported
  rw [fields] at others conversionSame limitsSame
  have subsystem : p.fields.subsystem = orNone (some (p.fields.subsystem.getD [])) :=
    congrArg Parameter.subsystem others
  have unit : p.fields.unit = orNone (some (p.fields.unit.getD [])) :=
    congrArg Parameter.unit others
  have sameEntries : p.fields.enumeration = entries := congrArg Parameter.enumeration others
  rw [← sameEntries] at entriesEq
  simp only [List.forall_mem_cons] at short
  obtain ⟨_, nameShort, descriptionShort, _, _, _, subsystemShort, unitShort, enumerationShort, _⟩ :=
    short
  refine ⟨nameShort, descriptionShort, ?_, ?_, ?_, ?_, ?_, ?_⟩
  · intro value present
    refine ⟨orNone_getD_iff.mp subsystem.symm value present, ?_⟩
    rw [present] at subsystemShort
    exact subsystemShort
  · intro value present
    refine ⟨orNone_getD_iff.mp unit.symm value present, ?_⟩
    rw [present] at unitShort
    exact unitShort
  · intro empty
    rw [empty] at entriesEq
    exact (entries_of_read entriesEq).1 rfl
  · intro entries present
    rw [present] at entriesEq decimal enumerationCell
    have labels := (entries_of_read entriesEq).2
    refine ⟨fun e member => ⟨decimal e member, labels e member⟩, ?_⟩
    rwa [enumerationCell, Option.getD_some, entries_length] at enumerationShort
  · intro c present
    rw [present] at conversionSame
    cases conversionSame with
    | some same => exact ⟨numeric_of_same same.slope, numeric_of_same same.offset⟩
  · intro l present
    rw [present] at limitsSame
    cases limitsSame with
    | some same =>
        refine ⟨?_, numeric_of_same same.softLow, numeric_of_same same.softHigh,
          numeric_of_same same.hardLow, numeric_of_same same.hardHigh⟩
        by_contra absent
        cases limitsEq.symm.trans (limits_absent rfl rfl rfl rfl present absent)

theorem parameter_returns {p : Validated (Parameter.validate py)} (survives : p.fields.Survives py) :
    Returns parameterHeader (fun p => exportParameter py p.fields) (importParameter py)
      Parameter.Same p := by
  obtain ⟨idRange, ptcRange, pfcRange, conversion, limits⟩ :=
    Parameter.accepted_of_validate p.accepted
  obtain ⟨ptc, ptcEq⟩ := @strInt_isSome_of_small p.fields.ptc (by omega) (by omega)
  obtain ⟨pfc, pfcEq⟩ := @strInt_isSome_of_small p.fields.pfc (by omega) (by omega)
  have entries : ∀ e ∈ p.fields.enumeration.getD [], e.Survives := by
    cases present : p.fields.enumeration with
    | none => simp
    | some entries => exact (survives.entries entries present).1
  have enumerationEq := enumText_iff.mpr ⟨fun e member => (entries e member).value, rfl⟩
  have enumerationShort : Fits (join ';' ((p.fields.enumeration.getD []).map entryText)) := by
    unfold Fits
    rw [entries_length]
    cases present : p.fields.enumeration with
    | none => exact Nat.zero_le _
    | some entries => exact (survives.entries entries present).2
  have optionalShort {value : Option Text} (survives : OptionalSurvives value) :
      Fits (value.getD []) := by
    cases value with
    | none => exact Nat.zero_le _
    | some text => exact (survives text rfl).2
  refine ⟨_, exportParameter_row ptcEq pfcEq enumerationEq, ?_, p, ?_,
    Parameter.equal_self survives.conversion survives.limits⟩
  · simp only [List.forall_mem_cons]
    exact ⟨Nat.le_trans (hexText_length (by decide) idRange.1 idRange.2) (by decide), survives.name,
      survives.description, by cases p.fields.type <;> decide,
      fits_of_le (strInt_length ptcEq) (by decide), fits_of_le (strInt_length pfcEq) (by decide),
      optionalShort survives.subsystem, optionalShort survives.unit, enumerationShort,
      conversionCell_fits _, floatCell_fits _, floatCell_fits _,
      floatCell_fits _, floatCell_fits _, floatCell_fits _, floatCell_fits _, by simp⟩
  · rw [importParameter_row rfl, conversion_returns conversion rfl rfl rfl survives.conversion,
      limits_return limits rfl rfl rfl rfl survives.limits,
      enumeration_returns survives.listed entries, int_hexText py 4 idRange.1,
      ParameterType.ofText_iff.mpr rfl, int_strInt py ptcEq, int_strInt py pfcEq,
      orNone_getD_iff.mpr (fun text present => (survives.subsystem text present).1),
      orNone_getD_iff.mpr (fun text present => (survives.unit text present).1)]
    exact made_fields p

end Openobsw.Srdb
