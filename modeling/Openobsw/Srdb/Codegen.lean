import Openobsw.Srdb.Model

/-!
Owns what the generators make of the database for telemetry (`codegen.py`): the
housekeeping layouts of the C header, and the types, parameters and containers of the
XTCE. The texts around the values, and the other sections of the two files, are left
out.
-/

namespace Openobsw.Srdb

variable {F : Type} (py : Python F)

/-! ### Helpers -/

/-- `_OFF_PUS_VERSION` -/
def offPusVersion : Int := 48

/-- `_OFF_SERVICE` -/
def offService : Int := 56

/-- `_OFF_SUBSERVICE` -/
def offSubservice : Int := 64

/-- `_OFF_MSG_COUNTER` -/
def offMsgCounter : Int := 72

/-- `_OFF_DEST_ID` -/
def offDestId : Int := 88

/-- `_OFF_TIMESTAMP` -/
def offTimestamp : Int := 104

/-- `_OFF_APP_DATA` -/
def offAppData : Int := 136

/-- `_param_bits` -/
def paramBits (p : Parameter F) : Int :=
  if p.ptc = 1 ∨ p.ptc = 2 then p.pfc
  else if p.ptc = 5 then (if p.pfc = 1 then 32 else 64)
  else p.pfc

/-- The parameter has a type of its own: an enumeration, a conversion or limits. -/
def Parameter.isDescribed (p : Parameter F) : Bool :=
  isFilled p.enumeration || p.conversion.isSome || p.limits.isSome

/-- `_type_name` -/
def typeName (p : Parameter F) : Text :=
  if p.isDescribed then py.upper p.name ++ "_t".toList
  else if p.ptc = 1 then "uint".toList ++ intText p.pfc ++ "_t".toList
  else if p.ptc = 2 then "int".toList ++ intText p.pfc ++ "_t".toList
  else "float".toList ++ intText (if p.pfc = 1 then 32 else 64) ++ "_t".toList

/-! ### Housekeeping layouts of the C header -/

/-- The three macros of a set: `<prefix>_PARAM_COUNT`, `<prefix>_DATA_LEN` and
`<prefix>_SIZES`. -/
structure HkLayout where
  macroPrefix : Text
  paramCount : Nat
  dataLen : Int
  sizes : List Int
deriving DecidableEq, Repr

variable {py}

/-- `{p.name: p for p in srdb.parameters}[name]`: a later parameter of a name hides
the earlier ones. -/
def SRDB.parameterNamed (db : SRDB py) (name : Text) :
    Option (Validated (Parameter.validate py)) :=
  db.parameters.reverse.find? (fun p => p.fields.name = name)

/-- The layout macros of one set; a name that no parameter has is an error. -/
def hkLayout (db : SRDB py) (h : HKSet) : Option HkLayout := do
  let sizes ← h.parameters.mapM
    (fun name => (db.parameterNamed name).map (fun p => paramBits p.fields / 8))
  return {
    macroPrefix := "SRDB_HK_".toList ++ py.upper h.name
    paramCount := sizes.length
    dataLen := sizes.sum
    sizes }

/-- The unbounded integers that the header shows in decimal. -/
def headerIntegers (db : SRDB py) : List Int :=
  db.parameters.flatMap (fun p => (p.fields.enumeration.getD []).map (fun e => e.value)) ++
  db.hkSets.flatMap (fun h => h.fields.defaultIntervalTicks :: h.fields.spid.toList)

/-- The layout section of `generate_header`; nothing is generated when an integer has
too many digits. -/
def generateHeader (db : SRDB py) : Option (List HkLayout) :=
  if (headerIntegers db).all (fun value => (strInt value).isSome) then
    db.hkSets.mapM (fun h => hkLayout db h.fields)
  else none

/-! ### Safety tables of the C header -/

/-- `SRDB_SAFE_TRIGGER_COUNT`, `SRDB_SAFE_TRIGGER_IDS`, `SRDB_SAFE_TC_COUNT` and
`SRDB_SAFE_TC_WHITELIST`; an empty list has no macro. -/
structure SafetyTables where
  triggerCount : Nat
  triggerIds : Option (List Int)
  tcCount : Nat
  tcWhitelist : Option (List (Int × Int))
deriving DecidableEq, Repr

/-- The macro of a list that is not empty. -/
def listMacro {α : Type} (entries : List α) : Option (List α) :=
  if entries.isEmpty then none else some entries

/-- The safety tables of `generate_header`, which are there when the header is. -/
def generateSafetyTables (db : SRDB py) : Option SafetyTables :=
  (generateHeader db).map fun _ => {
    triggerCount := db.safeTriggerEventIds.length
    triggerIds := listMacro db.safeTriggerEventIds
    tcCount := db.safeTcWhitelist.length
    tcWhitelist := listMacro db.safeTcWhitelist }

/-! ### XTCE: parameter types -/

inductive DataEncoding where
  | integer (sizeInBits : Int) (signed : Bool)
  | float (sizeInBits : Int)
deriving DecidableEq, Repr

def DataEncoding.sizeInBits : DataEncoding → Int
  | .integer bits _ => bits
  | .float bits => bits

/-- An element of the `ParameterTypeSet`. -/
structure ParameterTypeElement (F : Type) where
  name : Text
  shortDescription : Option Text := none
  unit : Option Text := none
  encoding : DataEncoding
  calibrator : Option (ParameterConversion F) := none
  enumeration : Option (List EnumEntry) := none
  alarm : Option (ParameterLimits F) := none

/-- `_uint_type` -/
def uintType (name : String) (bits : Int) : ParameterTypeElement F where
  name := name.toList
  encoding := .integer bits false

/-- The names and widths of the header and system types. -/
def headerTypeTable : List (String × Int) :=
  [("uint1_t", 1), ("uint2_t", 2), ("uint3_t", 3), ("uint8_t", 8), ("uint11_t", 11),
    ("uint14_t", 14), ("uint16_t", 16), ("uint32_t", 32)]

def headerTypes : List (ParameterTypeElement F) :=
  headerTypeTable.map (fun row => uintType row.1 row.2)

/-- `_add_unit_set`: an empty unit makes no element. -/
def unitElement (unit : Option Text) : Option Text := if unit = some [] then none else unit

/-- `_mission_param_type` -/
def missionParamType (p : Parameter F) (tname : Text) : ParameterTypeElement F :=
  if isFilled p.enumeration then
    { name := tname, shortDescription := p.description, unit := unitElement p.unit
      encoding := .integer p.pfc (p.ptc = 2), enumeration := p.enumeration, alarm := p.limits }
  else if p.ptc = 5 then
    { name := tname, shortDescription := p.description, unit := unitElement p.unit
      encoding := .float (paramBits p), calibrator := p.conversion, alarm := p.limits }
  else
    { name := tname, shortDescription := p.description, unit := unitElement p.unit
      encoding := .integer p.pfc (p.ptc = 2), calibrator := p.conversion, alarm := p.limits }

/-- The mission types: each type name is emitted once, for its first parameter. -/
def missionTypes (py : Python F) :
    List Text → List (Parameter F) → List (ParameterTypeElement F)
  | _, [] => []
  | emitted, p :: rest =>
      if typeName py p ∈ emitted then missionTypes py emitted rest
      else missionParamType p (typeName py p) :: missionTypes py (emitted ++ [typeName py p]) rest

/-- `_build_parameter_type_set` -/
def parameterTypeSet (db : SRDB py) : List (ParameterTypeElement F) :=
  headerTypes ++ missionTypes py [] (db.parameters.map (fun p => p.fields))

/-! ### XTCE: parameters -/

/-- A `Parameter` of the `ParameterSet`. -/
structure ParameterElement where
  name : Text
  parameterTypeRef : Text
  shortDescription : Text
  longDescription : Option Text := none
deriving DecidableEq, Repr

/-- `_sys_param` -/
def sysParam (name typeRef desc : String) : ParameterElement where
  name := name.toList
  parameterTypeRef := typeRef.toList
  shortDescription := desc.toList

/-- The parameters of the packet headers. -/
def headerParameters : List ParameterElement :=
  [sysParam "PKT_VERSION" "uint3_t" "CCSDS packet version",
    sysParam "PKT_TYPE" "uint1_t" "0=TM, 1=TC",
    sysParam "SEC_HDR_FLAG" "uint1_t" "Secondary header present flag",
    sysParam "APID" "uint11_t" "Application process identifier",
    sysParam "SEQ_FLAGS" "uint2_t" "Sequence flags",
    sysParam "SEQ_COUNT" "uint14_t" "Packet sequence count",
    sysParam "PKT_DATA_LEN" "uint16_t" "Packet data length field (total octets - 7)",
    sysParam "PUS_VERSION" "uint8_t" "PUS version + spare nibble",
    sysParam "SERVICE_TYPE" "uint8_t" "PUS service type",
    sysParam "SERVICE_SUBTYPE" "uint8_t" "PUS service subtype",
    sysParam "MSG_COUNTER" "uint16_t" "Per-service message counter",
    sysParam "DEST_ID" "uint16_t" "Destination application ID",
    sysParam "TIMESTAMP" "uint32_t" "Mission elapsed time (CUC, 4 bytes)",
    sysParam "HK_SID" "uint8_t" "S3 housekeeping structure ID"]

/-- The `Parameter` of a mission parameter. -/
def parameterElement (py : Python F) (p : Parameter F) : ParameterElement where
  name := py.upper p.name
  parameterTypeRef := typeName py p
  shortDescription := p.description
  longDescription :=
    match p.subsystem with
    | some (c :: rest) =>
        some ("Subsystem: ".toList ++ c :: rest ++ " | ID: ".toList ++ hexText 4 p.id)
    | _ => none

/-- `_build_parameter_set` -/
def parameterSet (db : SRDB py) : List ParameterElement :=
  headerParameters ++ db.parameters.map (fun p => parameterElement py p.fields)

/-! ### XTCE: containers -/

/-- A `ParameterRefEntry` with the `FixedValue` of its location. -/
structure ParameterRefEntry where
  parameterRef : Text
  fixedValue : Int
deriving DecidableEq, Repr

/-- A `SequenceContainer`: its base with the comparisons that select it, and its entries. -/
structure SequenceContainer where
  name : Text
  isAbstract : Bool := false
  shortDescription : Option Text := none
  baseContainer : Option (Text × List (Text × Int)) := none
  entryList : List ParameterRefEntry := []
deriving DecidableEq, Repr

/-- `_ref_entry` of a header parameter -/
def refEntry (name : String) (bit : Int) : ParameterRefEntry := ⟨name.toList, bit⟩

def ccsdsPacket : SequenceContainer where
  name := "CCSDSPacket".toList
  isAbstract := true
  shortDescription := some "CCSDS Space Packet primary header".toList
  entryList :=
    [refEntry "PKT_VERSION" 0, refEntry "PKT_TYPE" 3, refEntry "SEC_HDR_FLAG" 4,
      refEntry "APID" 5, refEntry "SEQ_FLAGS" 16, refEntry "SEQ_COUNT" 18,
      refEntry "PKT_DATA_LEN" 32]

def pusPacket : SequenceContainer where
  name := "PUSPacket".toList
  isAbstract := true
  shortDescription := some "PUS-C TM packet — CCSDS + 11-byte secondary header".toList
  baseContainer := some ("CCSDSPacket".toList, [("PKT_TYPE".toList, 0)])
  entryList :=
    [refEntry "PUS_VERSION" offPusVersion, refEntry "SERVICE_TYPE" offService,
      refEntry "SERVICE_SUBTYPE" offSubservice, refEntry "MSG_COUNTER" offMsgCounter,
      refEntry "DEST_ID" offDestId, refEntry "TIMESTAMP" offTimestamp]

/-- `_simple_pus_container` -/
def simplePusContainer (name : String) (svc subsvc : Int) (desc : String) : SequenceContainer where
  name := name.toList
  shortDescription := some desc.toList
  baseContainer := some ("PUSPacket".toList,
    [("SERVICE_TYPE".toList, svc), ("SERVICE_SUBTYPE".toList, subsvc)])

def tm325 : SequenceContainer where
  name := "TM_3_25".toList
  isAbstract := true
  shortDescription := some "TM(3,25) HK report — discriminated by HK_SID".toList
  baseContainer := some ("PUSPacket".toList,
    [("SERVICE_TYPE".toList, 3), ("SERVICE_SUBTYPE".toList, 25)])
  entryList := [refEntry "HK_SID" offAppData]

/-- The entries of a set from a bit on; a name that no parameter has is skipped. -/
def hkEntries (db : SRDB py) : Int → List Text → List ParameterRefEntry
  | _, [] => []
  | bit, pname :: rest =>
      match db.parameterByName pname with
      | none => hkEntries db bit rest
      | some p => ⟨py.upper p.fields.name, bit⟩ :: hkEntries db (bit + paramBits p.fields) rest

/-- The container of a set, whose first parameter follows the 8-bit set ID. -/
def hkContainer (db : SRDB py) (hk : HKSet) : SequenceContainer where
  name := "TM_3_25_".toList ++ py.upper hk.name
  shortDescription :=
    hk.spid.map (fun spid => "SPID ".toList ++ intText spid ++ " — ".toList ++ hk.description)
  baseContainer := some ("TM_3_25".toList, [("HK_SID".toList, hk.id)])
  entryList := hkEntries db (offAppData + 8) hk.parameters

/-- `_build_container_set` -/
def containerSet (db : SRDB py) : List SequenceContainer :=
  [ccsdsPacket, pusPacket,
    simplePusContainer "TM_1_1" 1 1 "TM(1,1) — Acceptance Success",
    simplePusContainer "TM_1_7" 1 7 "TM(1,7) — Completion Success", tm325] ++
  db.hkSets.map (fun hk => hkContainer db hk.fields) ++
  [simplePusContainer "TM_5_1" 5 1 "TM(5,1) — S5 event report (INFO)",
    simplePusContainer "TM_5_2" 5 2 "TM(5,2) — S5 event report (LOW)",
    simplePusContainer "TM_5_3" 5 3 "TM(5,3) — S5 event report (MEDIUM)",
    simplePusContainer "TM_5_4" 5 4 "TM(5,4) — S5 event report (HIGH)",
    simplePusContainer "TM_17_2" 17 2 "TM(17,2) — Are-you-alive response",
    simplePusContainer "TM_20_2" 20 2 "TM(20,2) — Parameter get response"]

/-- The `TelemetryMetaData`. -/
structure TelemetryMetaData (F : Type) where
  parameterTypeSet : List (ParameterTypeElement F)
  parameterSet : List ParameterElement
  containerSet : List SequenceContainer

/-- The unbounded integers that the XTCE shows in decimal. -/
def xtceIntegers (db : SRDB py) : List Int :=
  (parameterTypeSet db).flatMap (fun t => (t.enumeration.getD []).map (fun e => e.value)) ++
  db.hkSets.flatMap (fun h => h.fields.spid.toList)

/-- `_build_tm_metadata` -/
def tmMetadata (db : SRDB py) : TelemetryMetaData F :=
  ⟨parameterTypeSet db, parameterSet db, containerSet db⟩

/-- The telemetry part of `generate_xtce`; nothing is generated when an integer has
too many digits. -/
def generateXtce (db : SRDB py) : Option (TelemetryMetaData F) :=
  if (xtceIntegers db).all (fun value => (strInt value).isSome) then some (tmMetadata db) else none

/-- The container of the set at a position of the database, behind the five that do
not depend on it. -/
def TelemetryMetaData.hkContainerAt (tm : TelemetryMetaData F) (index : Nat) :
    Option SequenceContainer :=
  tm.containerSet[5 + index]?

/-- The widths of the types that a reference leads to, through whichever parameters
and types have the names. -/
def TelemetryMetaData.widths (tm : TelemetryMetaData F) (reference : Text) : List Int :=
  (tm.parameterSet.filter (fun p => p.name = reference)).flatMap fun p =>
    (tm.parameterTypeSet.filter (fun t => t.name = p.parameterTypeRef)).map
      (fun t => t.encoding.sizeInBits)

/-- The reference leads to a type, and to none of another width. -/
def TelemetryMetaData.HasWidth (tm : TelemetryMetaData F) (reference : Text) (width : Int) :
    Prop :=
  tm.widths reference ≠ [] ∧ ∀ found ∈ tm.widths reference, found = width

end Openobsw.Srdb
