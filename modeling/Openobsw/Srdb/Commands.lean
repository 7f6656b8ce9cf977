import Openobsw.Srdb.Codegen

/-!
Owns what the XTCE generator makes of the telecommands (`codegen.py`): the argument
types, and the commands that refer to them.
-/

namespace Openobsw.Srdb

variable {F : Type} (py : Python F)

/-! ### Helpers -/

/-- The widths of `_tc_param_bits` by the text of the type. -/
def tcParamBitsTable : List (Text × Int) :=
  [("uint8".toList, 8), ("uint16".toList, 16), ("uint32".toList, 32), ("int8".toList, 8),
    ("int16".toList, 16), ("int32".toList, 32), ("float32".toList, 32)]

/-- `_tc_param_bits` -/
def tcParamBits (ptype : Text) : Int := (tcParamBitsTable.lookup ptype).getD 8

/-- `ptype.startswith("int")` -/
def startsWithInt (ptype : Text) : Bool := "int".toList.isPrefixOf ptype

/-- `_arg_type_name` -/
def argTypeName (ptype : Text) : Text :=
  (if startsWithInt ptype then "int".toList else "uint".toList) ++ intText (tcParamBits ptype) ++
    "_arg_t".toList

/-- `_array_arg_type_name` -/
def arrayArgTypeName (tcName argName : Text) : Text :=
  py.upper tcName ++ "_".toList ++ py.upper argName ++ "_array_t".toList

/-! ### Argument types -/

/-- The `Dimension` of an array: from a fixed index to the value of an argument, adjusted. -/
structure ArrayDimension where
  startingIndex : Int
  argumentRef : Text
  intercept : Int
deriving DecidableEq, Repr

/-- The elements between the two indices, while the argument has the value. -/
def ArrayDimension.length (dimension : ArrayDimension) (value : Int) : Int :=
  (value + dimension.intercept) - dimension.startingIndex + 1

/-- An `IntegerArgumentType` or an `ArrayArgumentType`. -/
inductive ArgumentTypeElement where
  | scalar (name : Text) (encoding : DataEncoding)
  | array (name arrayTypeRef : Text) (dimension : ArrayDimension)
deriving DecidableEq, Repr

def ArgumentTypeElement.name : ArgumentTypeElement → Text
  | .scalar name _ => name
  | .array name _ _ => name

/-- The name in the first loop of `_build_argument_type_set` -/
def scalarName (arg : TCParameter) : Text :=
  let bits := tcParamBits arg.type.value
  let signed := startsWithInt arg.type.value
  (if signed then "int".toList else "uint".toList) ++ intText bits ++ "_arg_t".toList

/-- The element that the first loop makes for an argument -/
def scalarArgumentType (arg : TCParameter) : ArgumentTypeElement :=
  .scalar (scalarName arg)
    (.integer (tcParamBits arg.type.value) (startsWithInt arg.type.value))

/-- The element that the second loop makes for an argument; a plain one has none. -/
def arrayArgumentType (tcName : Text) (arg : TCParameter) : Option ArgumentTypeElement :=
  arg.countFrom.map fun countFrom =>
    .array (arrayArgTypeName py tcName arg.name) (argTypeName arg.type.value)
      { startingIndex := 0, argumentRef := py.upper countFrom, intercept := -1 }

variable {py}

/-- The arguments of all commands, in order. -/
def SRDB.arguments (db : SRDB py) : List TCParameter :=
  db.telecommands.flatMap (fun tc => tc.fields.parameters)

/-- The arrays of all commands, in order. -/
def arrayArgumentTypes (db : SRDB py) : List ArgumentTypeElement :=
  db.telecommands.flatMap fun tc =>
    tc.fields.parameters.filterMap (arrayArgumentType py tc.fields.name)

/-- `_build_argument_type_set`: each scalar name once, and then the arrays. -/
def argumentTypeSet (db : SRDB py) : List ArgumentTypeElement :=
  (Lib.Tables.firsts scalarName [] db.arguments).map scalarArgumentType ++ arrayArgumentTypes db

/-! ### Commands -/

/-- An `Argument` of an `ArgumentList`. -/
structure ArgumentElement where
  name : Text
  argumentTypeRef : Text
  shortDescription : Option Text := none
deriving DecidableEq, Repr

/-- A `MetaCommand`: its base with the values assigned to the base's arguments, and its
own arguments. -/
structure MetaCommand where
  name : Text
  isAbstract : Bool := false
  shortDescription : Text
  baseMetaCommand : Option (Text × List (Text × Text)) := none
  argumentList : List ArgumentElement := []
deriving DecidableEq, Repr

/-- `PUSCommand` -/
def pusCommand : MetaCommand where
  name := "PUSCommand".toList
  isAbstract := true
  shortDescription :=
    "PUS-C TC base — CCSDS primary header + 5-byte secondary header".toList

/-- The `Argument` of an argument. An empty `count_from` is no `count_from` here. -/
def argumentElement (py : Python F) (tcName : Text) (arg : TCParameter) : ArgumentElement where
  name := py.upper arg.name
  argumentTypeRef :=
    if isFilled arg.countFrom then arrayArgTypeName py tcName arg.name
    else argTypeName arg.type.value
  shortDescription := if isFilled arg.description then arg.description else none

/-- The `MetaCommand` of a telecommand -/
def metaCommand (py : Python F) (tc : Telecommand) : MetaCommand where
  name := "TC_".toList ++ intText tc.service ++ "_".toList ++ intText tc.subservice ++
    "_".toList ++ py.upper tc.name
  shortDescription := tc.description
  baseMetaCommand := some ("PUSCommand".toList,
    [("SERVICE_TYPE".toList, intText tc.service),
      ("SERVICE_SUBTYPE".toList, intText tc.subservice), ("APID".toList, intText tc.apid)])
  argumentList := tc.parameters.map (argumentElement py tc.name)

/-- `_build_metacommand_set` -/
def metaCommandSet (db : SRDB py) : List MetaCommand :=
  pusCommand :: db.telecommands.map (fun tc => metaCommand py tc.fields)

/-- The `CommandMetaData`. -/
structure CommandMetaData where
  argumentTypeSet : List ArgumentTypeElement
  metaCommandSet : List MetaCommand
deriving DecidableEq, Repr

/-- `_build_cmd_metadata` -/
def cmdMetadata (db : SRDB py) : CommandMetaData :=
  ⟨argumentTypeSet db, metaCommandSet db⟩

/-- The command part of `generate_xtce`, which is there when the telemetry part is. -/
def generateCommandMetaData (db : SRDB py) : Option CommandMetaData :=
  (generateXtce db).map fun _ => cmdMetadata db

/-- The argument types of a name. -/
def CommandMetaData.typesNamed (cmd : CommandMetaData) (name : Text) :
    List ArgumentTypeElement :=
  cmd.argumentTypeSet.filter (fun t => t.name = name)

/-! ### What the elements hold -/

theorem scalarName_eq (arg : TCParameter) : scalarName arg = argTypeName arg.type.value := rfl

@[simp] theorem scalarArgumentType_name (arg : TCParameter) :
    (scalarArgumentType arg).name = argTypeName arg.type.value := rfl

theorem metaCommand_argument (py : Python F) (tc : Telecommand) (position : Nat) :
    (metaCommand py tc).argumentList[position]? =
      tc.parameters[position]?.map (argumentElement py tc.name) :=
  List.getElem?_map

end Openobsw.Srdb
