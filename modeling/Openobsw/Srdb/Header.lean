import Openobsw.Srdb.Macros

/-!
Owns the text of the generated C header (`generate_header` of `codegen.py`), line by line,
and the constants that its macros stand for in C.
-/

namespace Openobsw.Srdb

variable {F : Type} {py : Python F}

/-! ### Macros as text -/

/-- The format `<width>s`. -/
def ljust (width : Nat) (text : Text) : Text := text ++ List.replicate (width - text.length) ' '

def unsigned (value : Int) : Text := intText value ++ ['U']

def unsignedHex (width : Nat) (value : Int) : Text := hexText width value ++ ['U']

/-- An initialiser of the items. -/
def braced (items : List Text) : Text :=
  "\x7b ".toList ++ ", ".toList.intercalate items ++ " \x7d".toList

def MacroBody.text : MacroBody → Text
  | .hex width value => unsignedHex width value
  | .decimal value => unsigned value
  | .initialiser values => braced (values.map unsigned)

/-- The line of a macro up to its comment. -/
def Macro.start (m : Macro) : Text :=
  "#define ".toList ++ ljust m.width m.name ++ " ".toList ++ m.body.text

def Macro.line (m : Macro) : Text :=
  m.start ++ m.comment.elim [] (fun comment => "  /*".toList ++ comment ++ "*/".toList)

/-! ### The header -/

/-- A line with this between `/*` and ` */`. -/
def commentLine (text : String) : Text := "/*".toList ++ text.toList ++ " */".toList

def ruleLine : Text :=
  commentLine " ----------------------------------------------------------------"

def sectionTitle (title : String) : List Text := [ruleLine, commentLine title, ruleLine, []]

def fileComment (s : Spacecraft) : List Text :=
  ["/**".toList,
    " * @file srdb_generated.h".toList,
    " * @brief Auto-generated SRDB constants — DO NOT EDIT.".toList,
    " *".toList,
    " * Mission: ".toList ++ s.name,
    " * SCID:    ".toList ++ hexText 3 s.scid,
    " *".toList,
    " * Generated by openobsw/srdb/obsw_srdb/codegen.py".toList,
    " * Source:   srdb/data/".toList,
    " */".toList]

def guardLines : List Text :=
  ["#ifndef OBSW_SRDB_GENERATED_H".toList,
    "#define OBSW_SRDB_GENERATED_H".toList,
    [],
    "#include <stdint.h>".toList,
    []]

def missionTitle : List Text :=
  sectionTitle " Mission                                                         "

def missionLines (s : Spacecraft) : List Text :=
  ["#define SRDB_SPACECRAFT_NAME  \"".toList ++ s.name ++ "\"".toList,
    "#define SRDB_SCID             ".toList ++ unsignedHex 3 s.scid,
    "#define SRDB_APID_DEFAULT     ".toList ++ unsignedHex 3 s.apidDefault,
    "#define SRDB_VERSION          \"0.1.0\"".toList,
    []]

def parameterLines (db : SRDB py) : List Text :=
  sectionTitle " Parameter IDs                                                   " ++
  db.parameters.map (fun p => (paramMacro py p.fields).line) ++ [[]]

/-- The section is there when a parameter has an enumeration. -/
def enumerationLines (db : SRDB py) : List Text :=
  let enumParams := db.parameters.filter (fun p => isFilled p.fields.enumeration)
  if enumParams.isEmpty then []
  else
    sectionTitle " Parameter enumerations (raw values, as in XTCE)                 " ++
    enumParams.flatMap fun p =>
      (p.fields.enumeration.getD []).map (fun entry => (enumMacro py p.fields entry).line) ++ [[]]

def eventLines (db : SRDB py) : List Text :=
  sectionTitle " Event IDs                                                       " ++
  db.events.map (fun e => (eventMacro py e.fields).line) ++ [[]]

def hkSetLines (db : SRDB py) : List Text :=
  sectionTitle " HK Set IDs                                                      " ++
  db.hkSets.map (fun h => (hkMacro py h.fields).line) ++ [[]]

def layoutLines (layouts : List HkLayout) : List Text :=
  sectionTitle " HK set layouts (parameter byte sizes, TM(3,25) order)           " ++
  layouts.flatMap (fun layout => (layoutMacros layout).map Macro.line) ++ [[]]

/-- The `#define` of a table. -/
def tableLine (name body : Text) : Text := "#define ".toList ++ name ++ ' ' :: ' ' :: body

def safeTriggerLines (safeIds : List Int) : List Text :=
  sectionTitle " Safe-trigger event IDs (for obsw_s5_ctx_t initialisation)      " ++
  [tableLine "SRDB_SAFE_TRIGGER_COUNT".toList (unsigned safeIds.length), []] ++
  if safeIds.isEmpty then []
  else
    [commentLine "* Initialiser for obsw_s5_ctx_t.safe_trigger_ids[]",
      tableLine "SRDB_SAFE_TRIGGER_IDS".toList (braced (safeIds.map (unsignedHex 4))), []]

def safeTcLines (safeTcs : List (Int × Int)) : List Text :=
  sectionTitle " SAFE/STANDBY TC whitelist (for obsw_fsm_config_t)               " ++
  [tableLine "SRDB_SAFE_TC_COUNT".toList (unsigned safeTcs.length), []] ++
  if safeTcs.isEmpty then []
  else
    [commentLine "* Initialiser for obsw_fsm_tc_entry_t[], from telecommands safe_allowed",
      tableLine "SRDB_SAFE_TC_WHITELIST".toList (braced (safeTcs.map fun pair =>
        "\x7b".toList ++ unsigned pair.1 ++ ", ".toList ++ unsigned pair.2 ++ "\x7d".toList)), []]

def telecommandLines (db : SRDB py) : List Text :=
  sectionTitle " Telecommand routing                                             " ++
  db.telecommands.flatMap (fun tc =>
    [tcApidMacro py tc.fields, tcSvcMacro py tc.fields, tcSubsvcMacro py tc.fields].map
      Macro.line) ++ [[]]

def endLines : List Text := ["#endif /* OBSW_SRDB_GENERATED_H */".toList]

def headerLines (db : SRDB py) (layouts : List HkLayout) : List Text :=
  fileComment db.spacecraft.fields ++ guardLines ++ missionTitle ++
  missionLines db.spacecraft.fields ++ parameterLines db ++ enumerationLines db ++
  eventLines db ++ hkSetLines db ++ layoutLines layouts ++
  safeTriggerLines db.safeTriggerEventIds ++ safeTcLines db.safeTcWhitelist ++
  telecommandLines db ++ endLines

/-- The text that `generate_header` returns. -/
def generateHeaderText (db : SRDB py) : Option Text :=
  (generateHeader db).map (fun layouts => join '\n' (headerLines db layouts ++ [[]]))

/-! ### Constants of C -/

/-- The value of decimal digits with `U` behind them, in the first of the unsigned types
of 32 and of 64 bits that holds it; a sign in front of them negates in that type. -/
def unsignedLiteral (value : Int) : Option Int :=
  if value.natAbs < 0x100000000 then some (value % 0x100000000)
  else if value.natAbs < 0x10000000000000000 then some (value % 0x10000000000000000)
  else none

/-- The number that digits alone write. -/
def digitsOnly (base : Nat) (text : Text) : Option Nat :=
  if text.isEmpty then none
  else (text.mapM (digitValue base)).map
    (fun digits => digits.foldl (fun total digit => total * base + digit) 0)

/-- A hexadecimal or a decimal number. -/
def magnitude : Text → Option Nat
  | '0' :: 'x' :: rest => digitsOnly 16 rest
  | text => if 1 < text.length ∧ text.head? = some '0' then none else digitsOnly 10 text

/-- The number that a text is an unsigned constant for. -/
def constantOf (text : Text) : Option Int :=
  match text.reverse with
  | 'U' :: reversed =>
      match reversed.reverse with
      | '-' :: rest => (magnitude rest).bind (fun number => unsignedLiteral (-number))
      | rest => (magnitude rest).bind (fun number => unsignedLiteral number)
  | _ => none

end Openobsw.Srdb
