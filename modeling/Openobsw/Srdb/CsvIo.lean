import Openobsw.Lib.Csv
import Openobsw.Lib.Tables
import Openobsw.Srdb.Model

/-!
Owns the CSV files of the database (`csv_io.py`): four encoders that put a record into
the cells of a row, and four decoders that take it out again. A file is read back with
the characters it was written with. An exception is `none`.
-/

namespace Openobsw.Srdb

open Openobsw.Lib.Csv

variable {F : Type} (py : Python F)

/-- `csv.field_size_limit()` -/
def fieldSizeLimit : Nat := 131072

/-! ### Export -/

def boolText (value : Bool) : Text := if value then "true".toList else "false".toList

/-- A cell that an absent number leaves empty. -/
def floatCell (value : Option F) : Text := value.elim [] py.repr

def parameterHeader : List Text :=
  ["id_hex".toList, "name".toList, "description".toList, "type".toList, "ptc".toList,
    "pfc".toList, "subsystem".toList, "unit".toList, "enumeration".toList, "conv_type".toList,
    "conv_slope".toList, "conv_offset".toList, "limit_soft_low".toList, "limit_soft_high".toList,
    "limit_hard_low".toList, "limit_hard_high".toList]

def enumEntryText (e : EnumEntry) : Option Text :=
  (strInt e.value).map (fun value => value ++ ':' :: e.label)

/-- `enum_str` -/
def enumText (enumeration : Option (List EnumEntry)) : Option Text :=
  if isFilled enumeration then
    ((enumeration.getD []).mapM enumEntryText).map (join ';')
  else some []

/-- The row of `_export_parameters` -/
def exportParameter (p : Parameter F) : Option Row := do
  let ptc ← strInt p.ptc
  let pfc ← strInt p.pfc
  let enumeration ← enumText p.enumeration
  return [hexText 4 p.id, p.name, p.description, p.type.value, ptc, pfc,
    p.subsystem.getD [], p.unit.getD [], enumeration,
    p.conversion.elim [] (fun c => c.type.value),
    floatCell py (p.conversion.bind (fun c => c.slope)),
    floatCell py (p.conversion.bind (fun c => c.offset)),
    floatCell py (p.limits.bind (fun l => l.softLow)),
    floatCell py (p.limits.bind (fun l => l.softHigh)),
    floatCell py (p.limits.bind (fun l => l.hardLow)),
    floatCell py (p.limits.bind (fun l => l.hardHigh))]

def telecommandHeader : List Text :=
  ["name".toList, "description".toList, "apid_hex".toList, "service".toList,
    "subservice".toList, "parameters".toList, "safe_allowed".toList]

def argumentText (p : TCParameter) : Text :=
  p.name ++ ':' :: p.type.value ++
    (match p.countFrom with
      | some (c :: rest) => '*' :: c :: rest
      | _ => [])

/-- The row of `_export_telecommands` -/
def exportTelecommand (tc : Telecommand) : Option Row := do
  let service ← strInt tc.service
  let subservice ← strInt tc.subservice
  return [tc.name, tc.description, hexText 3 tc.apid, service, subservice,
    join ';' (tc.parameters.map argumentText), boolText tc.safeAllowed]

def eventHeader : List Text :=
  ["id_hex".toList, "name".toList, "severity".toList, "description".toList,
    "safe_trigger".toList, "auxiliary_data".toList]

def auxiliaryText (a : EventAuxData) : Text := a.name ++ ':' :: a.type.value

/-- The row of `_export_events` -/
def exportEvent (e : Event) : Option Row :=
  some [hexText 4 e.id, e.name, e.severity.value, e.description, boolText e.safeTrigger,
    join ';' (e.auxiliaryData.map auxiliaryText)]

def hkSetHeader : List Text :=
  ["id".toList, "name".toList, "description".toList, "parameters".toList,
    "default_interval_ticks".toList, "spid".toList]

/-- The row of `_export_hk_sets` -/
def exportHkSet (h : HKSet) : Option Row := do
  let id ← strInt h.id
  let interval ← strInt h.defaultIntervalTicks
  let spid ← h.spid.elim (some []) strInt
  return [id, h.name, h.description, join ';' h.parameters, interval, spid]

/-- A CSV file of the records under its header. -/
def exportTable {α : Type} (header : Row) (exportRow : α → Option Row) (records : List α) :
    Option Text :=
  (records.mapM exportRow).map (fun rows => write (header :: rows))

/-- The files that `export_csv` writes. -/
structure CsvFiles where
  parameters : Text
  telecommands : Text
  events : Text
  hkSets : Text

variable {py}

/-- `export_csv` -/
def exportCsv (db : SRDB py) : Option CsvFiles := do
  let parameters ← exportTable parameterHeader (fun p => exportParameter py p.fields) db.parameters
  let telecommands ←
    exportTable telecommandHeader (fun tc => exportTelecommand tc.fields) db.telecommands
  let events ← exportTable eventHeader (fun e => exportEvent e.fields) db.events
  let hkSets ← exportTable hkSetHeader (fun h => exportHkSet h.fields) db.hkSets
  return ⟨parameters, telecommands, events, hkSets⟩

variable (py)

/-! ### Import -/

/-- A row of `csv.DictReader`: the cells under the field names; a name without a cell
has `None`. -/
abbrev DictRow := List (Text × Option Text)

def dictRow (fieldnames row : Row) : DictRow :=
  fieldnames.mapIdx (fun index name => (name, row[index]?))

/-- `row[name]`; nothing is found for a name that is no field name. -/
def DictRow.item (row : DictRow) (name : String) : Option (Option Text) :=
  (row.reverse.find? (fun cell => cell.1 = name.toList)).map (fun cell => cell.2)

/-- `row[name]` where a string is needed. -/
def DictRow.text (row : DictRow) (name : String) : Option Text := (row.item name).join

/-- `value or None` -/
def orNone (value : Option Text) : Option Text := if isFilled value then value else none

/-- The record that a constructor makes. -/
def made {α : Type} (validate : α → List ValidationError) (fields : α) :
    Option (Validated validate) :=
  (Validated.make validate fields).toOption

/-- `_parse_optional_float` -/
def parseOptionalFloat (value : Text) : Option (Option F) :=
  if py.isVisible value then (py.float value).map some else some none

def importConversion (row : DictRow) : Option (Option (ParameterConversion F)) := do
  let convType ← row.item "conv_type"
  if isFilled convType then do
    let type ← convType.bind ConversionType.ofText
    let slope ← (row.text "conv_slope").bind (parseOptionalFloat py)
    let offset ← (row.text "conv_offset").bind (parseOptionalFloat py)
    let conversion ← made ParameterConversion.validate ⟨type, slope, offset⟩
    return some conversion.fields
  else return none

def importLimits (row : DictRow) : Option (Option (ParameterLimits F)) := do
  let softLow ← row.item "limit_soft_low"
  let softHigh ← row.item "limit_soft_high"
  let hardLow ← row.item "limit_hard_low"
  let hardHigh ← row.item "limit_hard_high"
  if isFilled softLow || isFilled softHigh || isFilled hardLow || isFilled hardHigh then do
    let softLow ← softLow.bind (parseOptionalFloat py)
    let softHigh ← softHigh.bind (parseOptionalFloat py)
    let hardLow ← hardLow.bind (parseOptionalFloat py)
    let hardHigh ← hardHigh.bind (parseOptionalFloat py)
    let limits ← made (ParameterLimits.validate py) ⟨softLow, softHigh, hardLow, hardHigh⟩
    return some limits.fields
  else return none

/-- `v, l = item.split(":", 1)` and the entry of the two. -/
def parseEnumEntry (item : Text) : Option EnumEntry :=
  match partition ':' item with
  | (value, some label) => (py.int 10 value).map (fun value => ⟨value, label⟩)
  | (_, none) => none

def parseEnumeration (cell : Option Text) : Option (Option (List EnumEntry)) :=
  if isFilled cell then ((split ';' (cell.getD [])).mapM (parseEnumEntry py)).map some
  else some none

/-- The record of a row in `_import_parameters` -/
def importParameter (row : DictRow) : Option (Validated (Parameter.validate py)) := do
  let conversion ← importConversion py row
  let limits ← importLimits py row
  let enumeration ← parseEnumeration py (row.text "enumeration")
  let id ← (row.text "id_hex").bind (py.int 16)
  let name ← row.text "name"
  let description ← row.text "description"
  let type ← (row.text "type").bind ParameterType.ofText
  let ptc ← (row.text "ptc").bind (py.int 10)
  let pfc ← (row.text "pfc").bind (py.int 10)
  made (Parameter.validate py) {
    id, name, description, type, ptc, pfc
    subsystem := orNone (row.text "subsystem")
    unit := orNone (row.text "unit")
    enumeration, conversion, limits }

/-- `name, type_str = item.split(":")` -/
def splitPair (item : Text) : Option (Text × Text) :=
  match split ':' item with
  | [name, type] => some (name, type)
  | _ => none

def parseArgument (item : Text) : Option TCParameter := do
  let (name, typeText) ← splitPair item
  let (typeText, countFrom) := partition '*' typeText
  let type ← ParameterType.ofText typeText
  return { name, type, countFrom := orNone countFrom }

/-- The records of a cell with one for each item. -/
def parseItems {α : Type} (parse : Text → Option α) (cell : Option Text) : Option (List α) :=
  if isFilled cell then (split ';' (cell.getD [])).mapM parse else some []

/-- The record of a row in `_import_telecommands` -/
def importTelecommand (row : DictRow) : Option (Validated Telecommand.validate) := do
  let parameters ← (row.item "parameters").bind (parseItems parseArgument)
  let name ← row.text "name"
  let description ← row.text "description"
  let apid ← (row.text "apid_hex").bind (py.int 16)
  let service ← (row.text "service").bind (py.int 10)
  let subservice ← (row.text "subservice").bind (py.int 10)
  let safeAllowed ← (row.item "safe_allowed").elim (some "false".toList) id
  made Telecommand.validate {
    name, description, apid, service, subservice, parameters
    safeAllowed := py.lower safeAllowed = "true".toList }

def parseAuxiliary (item : Text) : Option EventAuxData := do
  let (name, typeText) ← splitPair item
  let type ← ParameterType.ofText typeText
  return { name, type }

/-- The record of a row in `_import_events` -/
def importEvent (row : DictRow) : Option (Validated Event.validate) := do
  let auxiliaryData ← (row.item "auxiliary_data").bind (parseItems parseAuxiliary)
  let id ← (row.text "id_hex").bind (py.int 16)
  let name ← row.text "name"
  let severity ← (row.text "severity").bind Severity.ofText
  let description ← row.text "description"
  let safeTrigger ← row.text "safe_trigger"
  made Event.validate {
    id, name, severity, description, auxiliaryData
    safeTrigger := py.lower safeTrigger = "true".toList }

/-- `int(spid_raw) if spid_raw.strip() else None` -/
def parseOptionalInt (value : Text) : Option (Option Int) :=
  if py.isVisible value then (py.int 10 value).map some else some none

/-- The record of a row in `_import_hk_sets` -/
def importHkSet (row : DictRow) : Option (Validated HKSet.validate) := do
  let spidRaw ← (row.item "spid").elim (some []) id
  let id ← (row.text "id").bind (py.int 10)
  let name ← row.text "name"
  let description ← row.text "description"
  let parameters ← row.text "parameters"
  let interval ← (row.text "default_interval_ticks").bind (py.int 10)
  let spid ← parseOptionalInt py spidRaw
  made HKSet.validate {
    id, name, description, parameters := split ';' parameters
    defaultIntervalTicks := interval, spid }

/-- The records of a CSV file; blank rows are skipped. -/
def importTable {α : Type} (importRow : DictRow → Option α) (text : Text) : Option (List α) := do
  match ← read fieldSizeLimit text with
  | [] => return []
  | fieldnames :: rows =>
      (rows.filter (fun row => row ≠ [])).mapM (fun row => importRow (dictRow fieldnames row))

/-- `import_csv` -/
def importCsv (files : CsvFiles) (spacecraft : Validated Spacecraft.validate) :
    Option (SRDB py) := do
  let parameters ← importTable (importParameter py) files.parameters
  let telecommands ← importTable (importTelecommand py) files.telecommands
  let events ← importTable (importEvent py) files.events
  let hkSets ← importTable (importHkSet py) files.hkSets
  return { spacecraft, parameters, telecommands, hkSets, events }

end Openobsw.Srdb
