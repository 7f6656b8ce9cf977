import Openobsw.Srdb.Commands
import Openobsw.Properties.XtceTypes

/-!
Owns the arguments of the generated XTCE commands: when each reference leads to one type
that describes its argument, and each array to the one argument that counts it.
-/

namespace Openobsw.Srdb

open Openobsw.Lib.Tables

variable {F : Type} {py : Python F}

/-! ### Faithful arguments -/

/-- The reference names one argument type, a number with the encoding of the type. -/
def NamesNumber (cmd : CommandMetaData) (reference : Text) (type : ParameterType) : Prop :=
  ∃ name, cmd.typesNamed reference = [.scalar name type.encoding]

/-- The reference names one argument of the command, which is an earlier, plain and
unsigned one. -/
def NamesCount (tc : Telecommand) (mc : MetaCommand) (position : Nat) (reference : Text) : Prop :=
  ∃ index count, index < position ∧ tc.parameters[index]? = some count ∧
    count.type.isUnsigned = true ∧ count.countFrom = none ∧
    ∀ i, (∃ e, mc.argumentList[i]? = some e ∧ e.name = reference) ↔ i = index

/-- The reference names one argument type, an array of numbers of the type that is as long
as its count argument says. -/
def NamesArray (cmd : CommandMetaData) (tc : Telecommand) (mc : MetaCommand) (position : Nat)
    (reference : Text) (type : ParameterType) : Prop :=
  ∃ name elementRef dimension,
    cmd.typesNamed reference = [.array name elementRef dimension] ∧
    NamesNumber cmd elementRef type ∧
    (∀ value, dimension.length value = value) ∧
    NamesCount tc mc position dimension.argumentRef

/-- The reference of the argument at a position leads to what the argument is. -/
def FaithfulArgument (cmd : CommandMetaData) (tc : Telecommand) (mc : MetaCommand)
    (position : Nat) (arg : TCParameter) (reference : Text) : Prop :=
  match arg.countFrom with
  | none => NamesNumber cmd reference arg.type
  | some _ => NamesArray cmd tc mc position reference arg.type

/-- The command has the arguments of the telecommand, and each is faithful. -/
structure FaithfulCommand (cmd : CommandMetaData) (tc : Telecommand) (mc : MetaCommand) :
    Prop where
  length : mc.argumentList.length = tc.parameters.length
  arguments : ∀ position arg e, tc.parameters[position]? = some arg →
    mc.argumentList[position]? = some e →
      FaithfulArgument cmd tc mc position arg e.argumentTypeRef

/-- The argument types have distinct names, and behind a base without arguments there is
one faithful command for each telecommand. -/
structure FaithfulArguments (db : SRDB py) (cmd : CommandMetaData) : Prop where
  typeNames : (cmd.argumentTypeSet.map ArgumentTypeElement.name).Nodup
  commands : ∃ base others, cmd.metaCommandSet = base :: others ∧ base.argumentList = [] ∧
    List.Forall₂ (fun tc mc => FaithfulCommand cmd (Validated.fields tc) mc) db.telecommands others

/-- Exactly one argument of the command has the upper-case name of the count. -/
def SoleCount (py : Python F) (tc : Telecommand) (arg : TCParameter) : Prop :=
  ∀ countFrom, arg.countFrom = some countFrom →
    ∃! index : Nat, ∃ p, tc.parameters[index]? = some p ∧ py.upper p.name = py.upper countFrom

/-- What keeps the arguments of a database faithful. -/
structure ArgumentsKeptApart (db : SRDB py) : Prop where
  integers : ∀ arg ∈ db.arguments, arg.type ≠ .float32
  counted : ∀ arg ∈ db.arguments, arg.countFrom ≠ some []
  arrayNames : (db.telecommands.flatMap fun tc =>
    (tc.fields.parameters.filter (fun arg => arg.countFrom.isSome)).map fun arg =>
      py.upper tc.fields.name ++ "_".toList ++ py.upper arg.name).Nodup
  counts : ∀ tc ∈ db.telecommands, ∀ arg ∈ tc.fields.parameters, SoleCount py tc.fields arg

/-! ### What validation leaves of repeated arguments -/

/-- An argument that an accepted check has looked at is counted by an earlier one. -/
theorem counted_of_checkArguments {tcName : Text} {earlier args : List TCParameter}
    (accepted : checkArguments tcName earlier args = []) {position : Nat} {arg : TCParameter}
    (place : args[position]? = some arg) {countFrom : Text}
    (repeated : arg.countFrom = some countFrom) :
    ∃ index count, index < earlier.length + position ∧ (earlier ++ args)[index]? = some count ∧
      count.name = countFrom ∧ count.type.isUnsigned = true ∧ count.countFrom = none := by
  induction args generalizing earlier position with
  | nil => simp at place
  | cons first later inductionHypothesis =>
      unfold checkArguments at accepted
      have both := firstErrors_eq_nil.mp accepted
      cases position with
      | zero =>
          have same : first = arg := by simpa using place
          have checked := both (checkRepeated tcName earlier later.isEmpty first) (by simp)
          rw [same] at checked
          unfold checkRepeated at checked
          simp only [repeated] at checked
          split at checked
          · simp [checkModel] at checked
          · cases found : earlier.reverse.find? (fun p => p.name = countFrom) with
            | none => simp [found, checkModel] at checked
            | some count =>
                rw [found] at checked
                have plain := checkModel_eq_nil.mp checked
                rw [Bool.and_eq_true, Option.isNone_iff_eq_none] at plain
                have member : count ∈ earlier :=
                  List.mem_reverse.mp (List.mem_of_find?_eq_some found)
                obtain ⟨index, inEarlier, countEq⟩ := List.getElem_of_mem member
                refine ⟨index, count, by omega, ?_, by simpa using List.find?_some found, plain⟩
                rw [List.getElem?_append_left inEarlier, List.getElem?_eq_getElem inEarlier,
                  countEq]
      | succ position =>
          have checked := both (checkArguments tcName (earlier ++ [first]) later) (by simp)
          obtain ⟨index, count, before, found, described⟩ :=
            inductionHypothesis checked (by simpa using place)
          refine ⟨index, count, ?_, ?_, described⟩
          · rw [List.length_append, List.length_singleton] at before
            omega
          · rwa [List.append_assoc] at found

theorem counted_of_validated (tc : Validated Telecommand.validate) {position : Nat}
    {arg : TCParameter} (place : tc.fields.parameters[position]? = some arg) {countFrom : Text}
    (repeated : arg.countFrom = some countFrom) :
    ∃ index count, index < position ∧ tc.fields.parameters[index]? = some count ∧
      count.name = countFrom ∧ count.type.isUnsigned = true ∧ count.countFrom = none := by
  have checked := firstErrors_eq_nil.mp tc.accepted (repeatedArgumentIsLastAndCounted tc.fields)
    (by simp)
  simpa using counted_of_checkArguments checked place repeated

/-! ### Names of the argument types -/

/-- The element of a scalar name has the encoding of every type but the float. -/
theorem scalarArgumentType_encoding {arg : TCParameter} (integer : arg.type ≠ .float32) :
    scalarArgumentType arg = .scalar (argTypeName arg.type.value) arg.type.encoding := by
  unfold scalarArgumentType
  rw [scalarName_eq]
  cases type : arg.type with
  | float32 => exact absurd type integer
  | _ => rfl

/-- The element depends on the name alone. -/
theorem scalarArgumentType_congr {first second : TCParameter}
    (same : scalarName first = scalarName second) :
    scalarArgumentType first = scalarArgumentType second := by
  unfold scalarArgumentType
  rw [same]
  revert same
  unfold scalarName
  cases first.type <;> cases second.type <;> decide

/-- Scalar names end in `_arg_t` and array names in `_array_t`. -/
theorem argTypeName_ne_arrayArgTypeName (py : Python F) (ptype tcName argName : Text) :
    argTypeName ptype ≠ arrayArgTypeName py tcName argName := by
  intro same
  have reversed := congrArg List.reverse same
  simp [argTypeName, arrayArgTypeName] at reversed

theorem mem_arrayArgumentTypes {db : SRDB py} {t : ArgumentTypeElement} :
    t ∈ arrayArgumentTypes db ↔ ∃ tc ∈ db.telecommands, ∃ arg ∈ tc.fields.parameters,
      ∃ countFrom, arg.countFrom = some countFrom ∧
        t = .array (arrayArgTypeName py tc.fields.name arg.name) (argTypeName arg.type.value)
          ⟨0, py.upper countFrom, -1⟩ := by
  unfold arrayArgumentTypes arrayArgumentType
  simp only [List.mem_flatMap, List.mem_filterMap, Option.map_eq_some_iff]
  constructor
  · rintro ⟨tc, inDb, arg, inTc, countFrom, repeated, rfl⟩
    exact ⟨tc, inDb, arg, inTc, countFrom, repeated, rfl⟩
  · rintro ⟨tc, inDb, arg, inTc, countFrom, repeated, rfl⟩
    exact ⟨tc, inDb, arg, inTc, countFrom, repeated, rfl⟩

theorem arrayArgumentTypes_names (db : SRDB py) :
    (arrayArgumentTypes db).map ArgumentTypeElement.name =
      (db.telecommands.flatMap fun tc =>
        (tc.fields.parameters.filter (fun arg => arg.countFrom.isSome)).map fun arg =>
          py.upper tc.fields.name ++ "_".toList ++ py.upper arg.name).map
        (fun joined => joined ++ "_array_t".toList) := by
  unfold arrayArgumentTypes
  rw [List.map_flatMap, List.map_flatMap]
  congr 1
  funext tc
  induction tc.fields.parameters with
  | nil => rfl
  | cons arg rest inductionHypothesis =>
      cases repeated : arg.countFrom with
      | none => simpa [arrayArgumentType, repeated] using inductionHypothesis
      | some countFrom =>
          simpa [arrayArgumentType, repeated, ArgumentTypeElement.name, arrayArgTypeName]
            using inductionHypothesis

theorem argumentTypeSet_names (db : SRDB py) :
    (argumentTypeSet db).map ArgumentTypeElement.name =
      (firsts scalarName [] db.arguments).map scalarName ++
        (arrayArgumentTypes db).map ArgumentTypeElement.name := by
  unfold argumentTypeSet
  rw [List.map_append, List.map_map]
  rfl

/-- The type names are distinct when the joined names of the arrays are. -/
theorem argumentTypeNames_nodup_iff (db : SRDB py) :
    ((argumentTypeSet db).map ArgumentTypeElement.name).Nodup ↔
      (db.telecommands.flatMap fun tc =>
        (tc.fields.parameters.filter (fun arg => arg.countFrom.isSome)).map fun arg =>
          py.upper tc.fields.name ++ "_".toList ++ py.upper arg.name).Nodup := by
  have suffix : Function.Injective (fun joined : Text => joined ++ "_array_t".toList) :=
    List.append_left_injective _
  rw [argumentTypeSet_names, List.nodup_append]
  constructor
  · intro distinct
    have arrays := distinct.2.1
    rw [arrayArgumentTypes_names] at arrays
    exact (List.nodup_map_iff suffix).mp arrays
  · intro distinct
    refine ⟨firsts_nodup [] _, ?_, ?_⟩
    · rw [arrayArgumentTypes_names]
      exact (List.nodup_map_iff suffix).mpr distinct
    · intro scalar inScalars array inArrays same
      obtain ⟨arg, _, rfl⟩ := List.mem_map.mp inScalars
      obtain ⟨t, member, rfl⟩ := List.mem_map.mp inArrays
      obtain ⟨tc, _, other, _, countFrom, _, rfl⟩ := mem_arrayArgumentTypes.mp member
      exact argTypeName_ne_arrayArgTypeName py _ _ _ same

/-! ### What a reference leads to -/

/-- The element of every argument's scalar name is in the set. -/
theorem scalarArgumentType_mem {db : SRDB py} {arg : TCParameter} (member : arg ∈ db.arguments) :
    scalarArgumentType arg ∈ argumentTypeSet db := by
  have named : scalarName arg ∈ (firsts scalarName [] db.arguments).map scalarName :=
    mem_map_firsts.mpr ⟨List.not_mem_nil, List.mem_map_of_mem member⟩
  obtain ⟨first, inFirsts, same⟩ := List.mem_map.mp named
  rw [← scalarArgumentType_congr same]
  exact List.mem_append_left _ (List.mem_map_of_mem inFirsts)

/-- A scalar element is that of some argument. -/
theorem scalar_of_mem {db : SRDB py} {name : Text} {encoding : DataEncoding}
    (member : .scalar name encoding ∈ argumentTypeSet db) :
    ∃ arg ∈ db.arguments, scalarArgumentType arg = .scalar name encoding := by
  rcases List.mem_append.mp member with scalar | array
  · obtain ⟨arg, inFirsts, made⟩ := List.mem_map.mp scalar
    exact ⟨arg, firsts_subset [] _ inFirsts, made⟩
  · obtain ⟨tc, _, arg, _, countFrom, _, made⟩ := mem_arrayArgumentTypes.mp array
    cases made

/-- No reference leads to a float. -/
theorem not_namesNumber_float (db : SRDB py) (reference : Text) :
    ¬ NamesNumber (cmdMetadata db) reference .float32 := by
  rintro ⟨name, named⟩
  have member : ArgumentTypeElement.scalar name ParameterType.float32.encoding ∈
      (cmdMetadata db).typesNamed reference := by
    rw [named]
    exact List.mem_singleton_self _
  obtain ⟨arg, _, made⟩ := scalar_of_mem (List.mem_filter.mp member).1
  cases made

section Reference

variable {db : SRDB py}
  (distinct : ((argumentTypeSet db).map ArgumentTypeElement.name).Nodup)

include distinct

theorem typesNamed_eq {t : ArgumentTypeElement} (member : t ∈ argumentTypeSet db) :
    (cmdMetadata db).typesNamed t.name = [t] :=
  filter_key_eq_singleton distinct member

theorem namesNumber_of_integer {arg : TCParameter} (member : arg ∈ db.arguments)
    (integer : arg.type ≠ .float32) :
    NamesNumber (cmdMetadata db) (argTypeName arg.type.value) arg.type := by
  have named := typesNamed_eq distinct (scalarArgumentType_mem member)
  rw [scalarArgumentType_encoding integer] at named
  exact ⟨_, named⟩

end Reference

/-- The name of a count argument names one argument of the command as often as that name
is one of its arguments. -/
theorem namesCount_iff (py : Python F) {tc : Validated Telecommand.validate} {position : Nat}
    {arg : TCParameter} (place : tc.fields.parameters[position]? = some arg) {countFrom : Text}
    (repeated : arg.countFrom = some countFrom) :
    NamesCount tc.fields (metaCommand py tc.fields) position (py.upper countFrom) ↔
      ∃! index : Nat, ∃ p, tc.fields.parameters[index]? = some p ∧
        py.upper p.name = py.upper countFrom := by
  have elements : ∀ i : Nat, (∃ e, (metaCommand py tc.fields).argumentList[i]? = some e ∧
      e.name = py.upper countFrom) ↔
        ∃ p, tc.fields.parameters[i]? = some p ∧ py.upper p.name = py.upper countFrom := by
    intro i
    rw [metaCommand_argument]
    constructor
    · rintro ⟨e, found, named⟩
      obtain ⟨p, parameter, rfl⟩ := Option.map_eq_some_iff.mp found
      exact ⟨p, parameter, named⟩
    · rintro ⟨p, parameter, named⟩
      exact ⟨_, Option.map_eq_some_iff.mpr ⟨p, parameter, rfl⟩, named⟩
  constructor
  · rintro ⟨index, count, _, _, _, _, only⟩
    simp only [elements] at only
    exact ⟨index, (only index).mpr rfl, fun i found => (only i).mp found⟩
  · rintro ⟨index, _, only⟩
    obtain ⟨j, count, before, found, named, isUnsigned, plain⟩ := counted_of_validated tc place repeated
    have here : j = index := only j ⟨count, found, congrArg py.upper named⟩
    refine ⟨j, count, before, found, isUnsigned, plain, ?_⟩
    intro i
    rw [elements]
    constructor
    · exact fun other => (only i other).trans here.symm
    · intro same
      rw [same]
      exact ⟨count, found, congrArg py.upper named⟩

/-- While type names are distinct, an argument is faithful when it is no float, its
`count_from` is not empty, and that names one argument. -/
theorem faithfulArgument_iff {db : SRDB py} {tc : Validated Telecommand.validate}
    (distinct : ((argumentTypeSet db).map ArgumentTypeElement.name).Nodup)
    (inDb : tc ∈ db.telecommands) {position : Nat} {arg : TCParameter}
    (place : tc.fields.parameters[position]? = some arg) :
    FaithfulArgument (cmdMetadata db) tc.fields (metaCommand py tc.fields) position arg
        (argumentElement py tc.fields.name arg).argumentTypeRef ↔
      arg.type ≠ .float32 ∧ arg.countFrom ≠ some [] ∧ SoleCount py tc.fields arg := by
  have inTc : arg ∈ tc.fields.parameters := List.mem_of_getElem? place
  have member : arg ∈ db.arguments := List.mem_flatMap.mpr ⟨tc, inDb, inTc⟩
  have number : NamesNumber (cmdMetadata db) (argTypeName arg.type.value) arg.type ↔
      arg.type ≠ .float32 := by
    constructor
    · intro named float
      rw [float] at named
      exact not_namesNumber_float db _ named
    · exact namesNumber_of_integer distinct member
  unfold FaithfulArgument argumentElement SoleCount
  cases repeated : arg.countFrom with
  | none =>
      rw [if_neg (by simp [isFilled])]
      simpa using number
  | some countFrom =>
      cases countFrom with
      | nil =>
          -- the reference is that of a plain argument
          rw [if_neg (by simp [isFilled])]
          refine iff_of_false ?_ (by simp)
          rintro ⟨name, elementRef, dimension, named, _⟩
          have scalar := typesNamed_eq distinct (scalarArgumentType_mem member)
          rw [scalarArgumentType_name, named] at scalar
          cases scalar
      | cons c rest =>
          have array := typesNamed_eq distinct (List.mem_append_right _
            (mem_arrayArgumentTypes.mpr ⟨tc, inDb, arg, inTc, c :: rest, repeated, rfl⟩))
          have count := namesCount_iff py place repeated
          rw [if_pos (by simp [isFilled])]
          constructor
          · rintro ⟨name, elementRef, dimension, named, element, _, counted⟩
            have same := named.symm.trans array
            simp only [List.cons.injEq, ArgumentTypeElement.array.injEq, and_true] at same
            obtain ⟨_, rfl, rfl⟩ := same
            refine ⟨number.mp element, by simp, ?_⟩
            intro countFrom same
            rw [← Option.some.inj same]
            exact count.mp counted
          · rintro ⟨integer, _, counted⟩
            refine ⟨_, _, _, array, number.mpr integer, ?_, count.mpr (counted _ rfl)⟩
            intro value
            show value + -1 - 0 + 1 = value
            omega

/-! ### The generated commands -/

/-- There is one command for each telecommand, so what remains are the references. -/
theorem faithfulArguments_iff (db : SRDB py) :
    FaithfulArguments db (cmdMetadata db) ↔
      ((argumentTypeSet db).map ArgumentTypeElement.name).Nodup ∧
      ∀ tc ∈ db.telecommands, ∀ (position : Nat) (arg : TCParameter),
        tc.fields.parameters[position]? = some arg →
          FaithfulArgument (cmdMetadata db) tc.fields (metaCommand py tc.fields) position arg
            (argumentElement py tc.fields.name arg).argumentTypeRef := by
  constructor
  · intro faithful
    obtain ⟨base, others, same, _, each⟩ := faithful.commands
    have othersEq : others = db.telecommands.map (fun tc => metaCommand py tc.fields) :=
      (List.cons.inj same).2.symm
    rw [othersEq, List.forall₂_map_right_iff, List.forall₂_same] at each
    refine ⟨faithful.typeNames, ?_⟩
    intro tc inDb position arg place
    apply (each tc inDb).arguments position arg _ place
    rw [metaCommand_argument, place]
    rfl
  · rintro ⟨distinct, each⟩
    refine ⟨distinct, pusCommand, _, rfl, rfl, ?_⟩
    rw [List.forall₂_map_right_iff, List.forall₂_same]
    intro tc inDb
    refine ⟨List.length_map _, ?_⟩
    intro position arg e place element
    rw [metaCommand_argument, place] at element
    rw [← Option.some.inj element]
    exact each tc inDb position arg place

/-- The generated arguments are unambiguous and faithful exactly when the database keeps
them apart. -/
theorem faithful_arguments_iff {db : SRDB py} {cmd : CommandMetaData}
    (generated : generateCommandMetaData db = some cmd) :
    FaithfulArguments db cmd ↔ ArgumentsKeptApart db := by
  obtain ⟨tm, _, cmdEq⟩ := Option.map_eq_some_iff.mp generated
  rw [← cmdEq, faithfulArguments_iff, argumentTypeNames_nodup_iff]
  constructor
  · rintro ⟨arrayNames, each⟩
    have distinct := (argumentTypeNames_nodup_iff db).mpr arrayNames
    have described : ∀ tc ∈ db.telecommands, ∀ arg ∈ tc.fields.parameters,
        arg.type ≠ .float32 ∧ arg.countFrom ≠ some [] ∧ SoleCount py tc.fields arg := by
      intro tc inDb arg inTc
      obtain ⟨position, place⟩ := List.mem_iff_getElem?.mp inTc
      exact (faithfulArgument_iff distinct inDb place).mp (each tc inDb position arg place)
    refine ⟨?_, ?_, arrayNames, ?_⟩
    · intro arg member
      obtain ⟨tc, inDb, inTc⟩ := List.mem_flatMap.mp member
      exact (described tc inDb arg inTc).1
    · intro arg member
      obtain ⟨tc, inDb, inTc⟩ := List.mem_flatMap.mp member
      exact (described tc inDb arg inTc).2.1
    · exact fun tc inDb arg inTc => (described tc inDb arg inTc).2.2
  · intro apart
    have distinct := (argumentTypeNames_nodup_iff db).mpr apart.arrayNames
    refine ⟨apart.arrayNames, ?_⟩
    intro tc inDb position arg place
    have inTc : arg ∈ tc.fields.parameters := List.mem_of_getElem? place
    have member : arg ∈ db.arguments := List.mem_flatMap.mpr ⟨tc, inDb, inTc⟩
    exact (faithfulArgument_iff distinct inDb place).mpr
      ⟨apart.integers arg member, apart.counted arg member, apart.counts tc inDb arg inTc⟩

/-! ### Two small databases -/

/-- A database of the telecommands and nothing else. -/
def telecommandsOnly (telecommands : List (Validated Telecommand.validate)) : SRDB asciiPython :=
  ⟨testSpacecraft, [], telecommands, [], []⟩

/-- A command with a count and as many arguments. -/
def hkCreate : Validated Telecommand.validate :=
  ⟨{ name := "hk_create".toList, description := [], apid := 16, service := 3, subservice := 1
     parameters := [{ name := "n".toList, type := .uint8 },
       { name := "param_ids".toList, type := .int16, countFrom := some "n".toList }] }, by decide⟩

/-- A command with a float argument. -/
def setGain : Validated Telecommand.validate :=
  ⟨{ name := "set_gain".toList, description := [], apid := 16, service := 8, subservice := 1
     parameters := [{ name := "gain".toList, type := .float32 }] }, by decide⟩

/-- The count of the command is the first of its two arguments. -/
theorem soleCount_hkCreate :
    ∀ arg ∈ hkCreate.fields.parameters, SoleCount asciiPython hkCreate.fields arg := by
  intro arg inTc countFrom repeated
  have count : countFrom = "n".toList := by
    rcases List.mem_pair.mp inTc with rfl | rfl
    · cases repeated
    · exact (Option.some.inj repeated).symm
  refine ⟨0, ⟨_, rfl, by rw [count]⟩, ?_⟩
  rintro index ⟨p, place, named⟩
  rw [count] at named
  match index, place with
  | 0, _ => rfl
  | 1, place =>
      rw [← Option.some.inj place] at named
      exact absurd named (by decide)

theorem keptApart_hkCreate : ArgumentsKeptApart (telecommandsOnly [hkCreate]) where
  integers := by decide
  counted := by decide
  arrayNames := by decide
  counts := by
    intro tc inDb
    rw [List.mem_singleton.mp inDb]
    exact soleCount_hkCreate

theorem faithful_hkCreate :
    FaithfulArguments (telecommandsOnly [hkCreate]) (cmdMetadata (telecommandsOnly [hkCreate])) :=
  (faithful_arguments_iff rfl).mpr keptApart_hkCreate

/-- A float argument refers to an unsigned integer. -/
theorem float_argument :
    (telecommandsOnly [setGain]).Loaded ∧
      generateCommandMetaData (telecommandsOnly [setGain]) =
        some (cmdMetadata (telecommandsOnly [setGain])) ∧
      ¬ FaithfulArguments (telecommandsOnly [setGain]) (cmdMetadata (telecommandsOnly [setGain])) := by
  refine ⟨(SRDB.loaded_iff _).mpr (by decide), rfl, ?_⟩
  intro faithful
  have each := ((faithfulArguments_iff _).mp faithful).2 setGain (List.mem_singleton_self _) 0 _ rfl
  exact not_namesNumber_float _ _ each

end Openobsw.Srdb
