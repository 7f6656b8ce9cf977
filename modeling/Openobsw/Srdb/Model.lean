import Openobsw.Srdb.Text

/-!
Owns the records of the mission database (`model.py`) and their validation: what
each validator refuses, under which field, with which text.
-/

namespace Openobsw.Srdb

/-! ### Enumerations -/

inductive ParameterType where
  | uint8
  | uint16
  | uint32
  | int8
  | int16
  | int32
  | float32
deriving DecidableEq, Repr

def ParameterType.value : ParameterType → Text
  | .uint8 => "uint8".toList
  | .uint16 => "uint16".toList
  | .uint32 => "uint32".toList
  | .int8 => "int8".toList
  | .int16 => "int16".toList
  | .int32 => "int32".toList
  | .float32 => "float32".toList

/-- `ParameterType(text)` -/
def ParameterType.ofText (text : Text) : Option ParameterType :=
  [uint8, uint16, uint32, int8, int16, int32, float32].find? (fun type => type.value = text)

/-- `_TYPE_TO_PTC_PFC` -/
def ParameterType.ptcPfc : ParameterType → Int × Int
  | .uint8 => (1, 8)
  | .uint16 => (1, 16)
  | .uint32 => (1, 32)
  | .int8 => (2, 8)
  | .int16 => (2, 16)
  | .int32 => (2, 32)
  | .float32 => (5, 1)

inductive ConversionType where
  | linear
deriving DecidableEq, Repr

def ConversionType.value : ConversionType → Text
  | .linear => "linear".toList

/-- `ConversionType(text)` -/
def ConversionType.ofText (text : Text) : Option ConversionType :=
  if text = ConversionType.linear.value then some .linear else none

inductive Severity where
  | info
  | low
  | medium
  | high
deriving DecidableEq, Repr

def Severity.value : Severity → Text
  | .info => "INFO".toList
  | .low => "LOW".toList
  | .medium => "MEDIUM".toList
  | .high => "HIGH".toList

/-- `Severity(text)` -/
def Severity.ofText (text : Text) : Option Severity :=
  [info, low, medium, high].find? (fun severity => severity.value = text)

/-! ### Validation -/

/-- One error of a `ValidationError`: the path of the field and the text. -/
structure ValidationError where
  loc : List Text
  message : Text
deriving DecidableEq, Repr

/-- A record that its validators have accepted. -/
structure Validated {α : Type} (validate : α → List ValidationError) where
  fields : α
  accepted : validate fields = []

/-- The constructor of a record: the record, or what its validators report. -/
def Validated.make {α : Type} (validate : α → List ValidationError) (fields : α) :
    Except (List ValidationError) (Validated validate) :=
  if accepted : validate fields = [] then .ok ⟨fields, accepted⟩ else .error (validate fields)

/-- A validator of the field at `loc`. -/
def check (loc : Text) (holds : Bool) (message : Text) : List ValidationError :=
  if holds then [] else [⟨[loc], message⟩]

/-- A validator of the whole record. -/
def checkModel (holds : Bool) (message : Text) : List ValidationError :=
  if holds then [] else [⟨[], message⟩]

/-- The errors of a record in a field of another one. -/
def nested (loc : Text) (errors : List ValidationError) : List ValidationError :=
  errors.map (fun error => { error with loc := loc :: error.loc })

/-- The validators of the whole record run one after the other, on a record without
field errors, up to the first that fails. -/
def firstErrors : List (List ValidationError) → List ValidationError
  | [] => []
  | errors :: later => if errors = [] then firstErrors later else errors

/-- The text of the error that formatting an integer raises. -/
def digitLimitText : Text :=
  "Exceeds the limit (4300 digits) for integer string conversion".toList

/-- A message that shows an integer. -/
def showing (value : Int) (message : Text → Text) : Text :=
  ((strInt value).map message).getD digitLimitText

def quoted (text : Text) : Text := '\'' :: text ++ ['\'']

/-! ### Parameters -/

structure ParameterConversion (F : Type) where
  type : ConversionType
  slope : Option F := none
  offset : Option F := none
deriving DecidableEq, Repr

def ParameterConversion.validate {F : Type} (c : ParameterConversion F) : List ValidationError :=
  match c.type with
  | .linear =>
      checkModel (c.slope.isSome && c.offset.isSome)
        "Linear conversion requires 'slope' and 'offset'".toList

structure ParameterLimits (F : Type) where
  softLow : Option F := none
  softHigh : Option F := none
  hardLow : Option F := none
  hardHigh : Option F := none
deriving DecidableEq, Repr

/-- Whether two optional limits are both there and the first is the greater one. -/
def exceeds {F : Type} (py : Python F) : Option F → Option F → Bool
  | some low, some high => py.gt low high
  | _, _ => false

def ParameterLimits.validate {F : Type} (py : Python F) (l : ParameterLimits F) :
    List ValidationError :=
  firstErrors [checkModel (!exceeds py l.hardLow l.softLow) "hard_low must be <= soft_low".toList,
    checkModel (!exceeds py l.softHigh l.hardHigh) "soft_high must be <= hard_high".toList]

structure EnumEntry where
  value : Int
  label : Text
deriving DecidableEq, Repr

structure Parameter (F : Type) where
  id : Int
  name : Text
  description : Text
  type : ParameterType
  ptc : Int
  pfc : Int
  subsystem : Option Text := none
  unit : Option Text := none
  enumeration : Option (List EnumEntry) := none
  conversion : Option (ParameterConversion F) := none
  limits : Option (ParameterLimits F) := none
deriving DecidableEq, Repr

/-- The truth value of an optional list. -/
def isFilled {α : Type} : Option (List α) → Bool
  | some (_ :: _) => true
  | _ => false

section Parameter

variable {F : Type} (py : Python F)

def idInRange (kind : String) (value : Int) : List ValidationError :=
  check "id".toList (decide (0 ≤ value ∧ value ≤ 0xFFFF))
    (kind.toList ++ " ID ".toList ++ hexText 4 value ++ " out of 16-bit range".toList)

def nameIsSnakeCase (name : Text) : List ValidationError :=
  check "name".toList (py.isAlnum (name.filter (fun c => c ≠ '_')))
    ("Parameter name ".toList ++ quoted name ++ " must be snake_case alphanumeric".toList)

def ptcValid (ptc : Int) : List ValidationError :=
  check "ptc".toList (decide (ptc = 1 ∨ ptc = 2 ∨ ptc = 5))
    (showing ptc (fun v =>
      "ptc=".toList ++ v ++ " not supported (use 1=uint, 2=int, 5=float)".toList))

def ptcPfcConsistentWithType (p : Parameter F) : List ValidationError :=
  checkModel (decide ((p.ptc, p.pfc) = p.type.ptcPfc))
    (showing p.type.ptcPfc.1 fun ptc => showing p.type.ptcPfc.2 fun pfc =>
      showing p.ptc fun actualPtc => showing p.pfc fun actualPfc =>
        "Parameter ".toList ++ quoted p.name ++ ": type=".toList ++ p.type.value ++
        " expects ptc=".toList ++ ptc ++ ", pfc=".toList ++ pfc ++ " but got ptc=".toList ++
        actualPtc ++ ", pfc=".toList ++ actualPfc)

def enumOnlyForInteger (p : Parameter F) : List ValidationError :=
  checkModel (!isFilled p.enumeration || decide (p.ptc = 1 ∨ p.ptc = 2))
    ("Parameter ".toList ++ quoted p.name ++ ": enumeration requires ptc=1 or ptc=2".toList)

def Parameter.fieldErrors (p : Parameter F) : List ValidationError :=
  idInRange "Parameter" p.id ++ nameIsSnakeCase py p.name ++ ptcValid p.ptc ++
  nested "conversion".toList (p.conversion.elim [] ParameterConversion.validate) ++
  nested "limits".toList (p.limits.elim [] (ParameterLimits.validate py))

def Parameter.validate (p : Parameter F) : List ValidationError :=
  firstErrors [p.fieldErrors py, ptcPfcConsistentWithType p, enumOnlyForInteger p]

end Parameter

/-! ### Telecommands -/

structure TCParameter where
  name : Text
  type : ParameterType
  description : Option Text := none
  countFrom : Option Text := none
deriving DecidableEq, Repr

structure Telecommand where
  name : Text
  description : Text
  apid : Int
  service : Int
  subservice : Int
  parameters : List TCParameter := []
  safeAllowed : Bool := false
deriving DecidableEq, Repr

def apidInRange (apid : Int) : List ValidationError :=
  check "apid".toList (decide (0 ≤ apid ∧ apid ≤ 0x7FE))
    ("APID ".toList ++ hexText 3 apid ++ " out of 11-bit range (0x000–0x7FE)".toList)

def svcInRange (field : String) (value : Int) : List ValidationError :=
  check field.toList (decide (0 ≤ value ∧ value ≤ 255))
    (showing value (fun v => "Service/subservice ".toList ++ v ++ " out of uint8 range".toList))

/-- `type.value.startswith("uint")` -/
def ParameterType.isUnsigned (type : ParameterType) : Bool := "uint".toList.isPrefixOf type.value

/-- The checks on one repeated argument, with the arguments before it; a later
argument of a name hides the earlier ones. -/
def checkRepeated (tcName : Text) (earlier : List TCParameter) (isLast : Bool)
    (arg : TCParameter) : List ValidationError :=
  match arg.countFrom with
  | none => []
  | some countFrom =>
      if !isLast then
        checkModel false ("TC ".toList ++ quoted tcName ++ ": repeated argument ".toList ++
          quoted arg.name ++ " must be the last argument".toList)
      else match earlier.reverse.find? (fun p => p.name = countFrom) with
        | none =>
            checkModel false ("TC ".toList ++ quoted tcName ++ ": ".toList ++ quoted arg.name ++
              " count_from ".toList ++ quoted countFrom ++ " is not an earlier argument".toList)
        | some count =>
            checkModel (count.type.isUnsigned && count.countFrom.isNone)
              ("TC ".toList ++ quoted tcName ++ ": count argument ".toList ++ quoted count.name ++
                " must be a plain unsigned integer".toList)

/-- The loop over the arguments left, up to the first error. -/
def checkArguments (tcName : Text) : List TCParameter → List TCParameter → List ValidationError
  | _, [] => []
  | earlier, arg :: later =>
      firstErrors [checkRepeated tcName earlier later.isEmpty arg,
        checkArguments tcName (earlier ++ [arg]) later]

/-- `repeated_argument_is_last_and_counted` -/
def repeatedArgumentIsLastAndCounted (tc : Telecommand) : List ValidationError :=
  checkArguments tc.name [] tc.parameters

def Telecommand.validate (tc : Telecommand) : List ValidationError :=
  firstErrors [apidInRange tc.apid ++ svcInRange "service" tc.service ++
    svcInRange "subservice" tc.subservice, repeatedArgumentIsLastAndCounted tc]

/-! ### Housekeeping sets -/

structure HKSet where
  id : Int
  name : Text
  description : Text
  parameters : List Text
  defaultIntervalTicks : Int
  spid : Option Int := none
deriving DecidableEq, Repr

def HKSet.validate (h : HKSet) : List ValidationError :=
  check "id".toList (decide (1 ≤ h.id ∧ h.id ≤ 255))
    (showing h.id (fun v => "HK set ID ".toList ++ v ++ " must be in 1–255".toList)) ++
  check "default_interval_ticks".toList (decide (0 ≤ h.defaultIntervalTicks))
    "default_interval_ticks must be >= 0".toList

/-! ### Events -/

structure EventAuxData where
  name : Text
  type : ParameterType
  description : Option Text := none
deriving DecidableEq, Repr

structure Event where
  id : Int
  name : Text
  severity : Severity
  description : Text
  safeTrigger : Bool := false
  auxiliaryData : List EventAuxData := []
deriving DecidableEq, Repr

def safeTriggerOnlyForHigh (e : Event) : List ValidationError :=
  checkModel (!e.safeTrigger || e.severity = .high)
    ("Event ".toList ++ quoted e.name ++ ": safe_trigger=true requires severity=HIGH".toList)

def Event.validate (e : Event) : List ValidationError :=
  firstErrors [idInRange "Event" e.id, safeTriggerOnlyForHigh e]

/-! ### Spacecraft and database -/

structure Spacecraft where
  name : Text
  description : Option Text := none
  scid : Int
  apidDefault : Int
deriving DecidableEq, Repr

def Spacecraft.validate (s : Spacecraft) : List ValidationError :=
  check "scid".toList (decide (0 ≤ s.scid ∧ s.scid ≤ 0x3FF))
    ("SCID ".toList ++ hexText 3 s.scid ++ " out of 10-bit range".toList)

section Database

variable {F : Type}

@[ext]
structure SRDB (py : Python F) where
  spacecraft : Validated Spacecraft.validate
  parameters : List (Validated (Parameter.validate py))
  telecommands : List (Validated Telecommand.validate)
  hkSets : List (Validated HKSet.validate)
  events : List (Validated Event.validate)

variable {py : Python F}

/-- `parameter_by_name` -/
def SRDB.parameterByName (db : SRDB py) (name : Text) :
    Option (Validated (Parameter.validate py)) :=
  db.parameters.find? (fun p => p.fields.name = name)

/-- `safe_trigger_event_ids` -/
def SRDB.safeTriggerEventIds (db : SRDB py) : List Int :=
  (db.events.filter (fun e => e.fields.safeTrigger)).map (fun e => e.fields.id)

/-- `safe_tc_whitelist`: each pair once, where it comes first. -/
def SRDB.safeTcWhitelist (db : SRDB py) : List (Int × Int) :=
  db.telecommands.foldl (fun pairs tc =>
    if tc.fields.safeAllowed ∧ (tc.fields.service, tc.fields.subservice) ∉ pairs then
      pairs ++ [(tc.fields.service, tc.fields.subservice)]
    else pairs) []

end Database

/-! ### What the validators leave -/

variable {α F : Type} {validate : α → List ValidationError}

theorem Validated.ext {a b : Validated validate} (same : a.fields = b.fields) : a = b := by
  cases a
  cases b
  cases same
  rfl

theorem Validated.make_fields (a : Validated validate) : Validated.make validate a.fields = .ok a := by
  unfold Validated.make
  rw [dif_pos a.accepted]

theorem Validated.fields_of_make {fields : α} {a : Validated validate}
    (made : Validated.make validate fields = .ok a) : a.fields = fields := by
  unfold Validated.make at made
  split at made
  · cases made
    rfl
  · cases made

theorem firstErrors_eq_nil {lists : List (List ValidationError)} :
    firstErrors lists = [] ↔ ∀ errors ∈ lists, errors = [] := by
  induction lists with
  | nil => simp [firstErrors]
  | cons errors later inductionHypothesis =>
      unfold firstErrors
      split <;> simp_all

theorem check_eq_nil {loc message : Text} {holds : Bool} :
    check loc holds message = [] ↔ holds = true := by
  cases holds <;> simp [check]

theorem checkModel_eq_nil {message : Text} {holds : Bool} :
    checkModel holds message = [] ↔ holds = true := by
  cases holds <;> simp [checkModel]

theorem parameter_id_range {py : Python F} (p : Validated (Parameter.validate py)) :
    0 ≤ p.fields.id ∧ p.fields.id ≤ 0xFFFF := by
  have accepted := firstErrors_eq_nil.mp p.accepted (p.fields.fieldErrors py) List.mem_cons_self
  unfold Parameter.fieldErrors at accepted
  simp only [List.append_eq_nil_iff] at accepted
  exact of_decide_eq_true (check_eq_nil.mp accepted.1.1.1.1)

theorem event_id_range (e : Validated Event.validate) : 0 ≤ e.fields.id ∧ e.fields.id ≤ 0xFFFF := by
  have accepted := firstErrors_eq_nil.mp e.accepted (idInRange "Event" e.fields.id)
    List.mem_cons_self
  exact of_decide_eq_true (check_eq_nil.mp accepted)

theorem hkSet_id_range (h : Validated HKSet.validate) : 1 ≤ h.fields.id ∧ h.fields.id ≤ 255 :=
  of_decide_eq_true (check_eq_nil.mp (List.append_eq_nil_iff.mp h.accepted).1)

/-- The fields that the validators of a telecommand bound. -/
theorem telecommand_field_range (tc : Validated Telecommand.validate) :
    (0 ≤ tc.fields.apid ∧ tc.fields.apid ≤ 0x7FE) ∧
      (0 ≤ tc.fields.service ∧ tc.fields.service ≤ 255) ∧
        0 ≤ tc.fields.subservice ∧ tc.fields.subservice ≤ 255 := by
  have accepted := firstErrors_eq_nil.mp tc.accepted (apidInRange tc.fields.apid ++
    svcInRange "service" tc.fields.service ++ svcInRange "subservice" tc.fields.subservice)
    List.mem_cons_self
  rw [List.append_eq_nil_iff, List.append_eq_nil_iff] at accepted
  exact ⟨of_decide_eq_true (check_eq_nil.mp accepted.1.1),
    of_decide_eq_true (check_eq_nil.mp accepted.1.2), of_decide_eq_true (check_eq_nil.mp accepted.2)⟩

end Openobsw.Srdb
