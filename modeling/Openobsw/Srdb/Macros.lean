import Openobsw.Lib.Names
import Openobsw.Srdb.Codegen

/-!
Owns the macros of the generated C header (`codegen.py`) that the records of the
database are reached by, with the comments behind them. The macros that do not depend
on a name of the database are left out.
-/

namespace Openobsw.Srdb

open Openobsw.Lib.Names

variable {F : Type} (py : Python F)

/-! ### Macros -/

/-- What a macro stands for: a number in hexadecimal or decimal with `U` behind it, or an
initialiser of such numbers. -/
inductive MacroBody where
  | hex (width : Nat) (value : Int)
  | decimal (value : Int)
  | initialiser (values : List Int)
deriving DecidableEq, Repr

/-- A `#define` whose name is filled up to a width, with what stands between `/*` and `*/`
behind it. -/
structure Macro where
  name : Text
  body : MacroBody
  width : Nat := 40
  comment : Option Text := none
deriving DecidableEq, Repr

/-! ### Names -/

/-- `re.sub(r"[^A-Za-z0-9]+", "_", text)`, from inside or outside of such a run. -/
def replaceRuns : Bool → Text → Text
  | _, [] => []
  | inRun, c :: rest =>
      if c.isAlphanum then c :: replaceRuns false rest
      else if inRun then replaceRuns true rest
      else '_' :: replaceRuns true rest

/-- `text.strip("_")` -/
def stripUnderscores (text : Text) : Text :=
  ((text.dropWhile (fun c => c = '_')).reverse.dropWhile (fun c => c = '_')).reverse

/-- The label of an enumeration value in its macro. What is left of it is ASCII, where
`upper` is `toUpper`. -/
def enumLabel (label : Text) : Text :=
  (stripUnderscores (replaceRuns false label)).map Char.toUpper

/-! ### The macros of the records -/

/-- `/**< text */` without its ends -/
def docComment (text : Text) : Text := "*< ".toList ++ text ++ " ".toList

def paramMacro (p : Parameter F) : Macro where
  name := "SRDB_PARAM_".toList ++ py.upper p.name
  body := .hex 4 p.id
  comment := docComment p.description

def enumMacro (p : Parameter F) (entry : EnumEntry) : Macro where
  name := "SRDB_ENUM_".toList ++ (py.upper p.name ++ "_".toList ++ enumLabel entry.label)
  body := .decimal entry.value
  width := 48

/-- The severity of an event, and whether it triggers safe mode -/
def eventNote (e : Event) : Text :=
  "[".toList ++ e.severity.value ++ "]".toList ++
    (if e.safeTrigger then " [safe-trigger]".toList else []) ++ " ".toList

def eventMacro (e : Event) : Macro where
  name := "SRDB_EVENT_".toList ++ py.upper e.name
  body := .hex 4 e.id
  comment := docComment (eventNote e ++ e.description)

/-- The interval and the SPID of a set -/
def hkNote (h : HKSet) : Text :=
  " (interval: ".toList ++ intText h.defaultIntervalTicks ++ " ticks".toList ++
    h.spid.elim [] (fun spid => ", SPID ".toList ++ intText spid) ++ ")".toList

def hkMacro (h : HKSet) : Macro where
  name := "SRDB_HK_".toList ++ py.upper h.name
  body := .decimal h.id
  comment := docComment (h.description ++ hkNote h)

/-- The three macros of a housekeeping layout -/
def layoutMacros (layout : HkLayout) : List Macro :=
  [{ name := layout.macroPrefix ++ "_PARAM_COUNT".toList, body := .decimal layout.paramCount
     width := 48 },
    { name := layout.macroPrefix ++ "_DATA_LEN".toList, body := .decimal layout.dataLen
      width := 48 },
    { name := layout.macroPrefix ++ "_SIZES".toList, body := .initialiser layout.sizes
      width := 48 }]

def tcPrefix (tc : Telecommand) : Text := "SRDB_TC_".toList ++ py.upper tc.name

def tcApidMacro (tc : Telecommand) : Macro where
  name := tcPrefix py tc ++ "_APID".toList
  body := .hex 3 tc.apid
  width := 48

def tcSvcMacro (tc : Telecommand) : Macro where
  name := tcPrefix py tc ++ "_SVC".toList
  body := .decimal tc.service
  width := 48

def tcSubsvcMacro (tc : Telecommand) : Macro where
  name := tcPrefix py tc ++ "_SUBSVC".toList
  body := .decimal tc.subservice
  width := 48

variable {py}

/-- The parameters with each of their enumeration values, in order. -/
def SRDB.enumerations (db : SRDB py) : List (Parameter F × EnumEntry) :=
  db.parameters.flatMap fun p => (p.fields.enumeration.getD []).map (fun entry => (p.fields, entry))

/-- The macros of the records in the order of `generate_header` -/
def headerMacros (db : SRDB py) (layouts : List HkLayout) : List Macro :=
  db.parameters.map (fun p => paramMacro py p.fields) ++
  db.enumerations.map (fun row => enumMacro py row.1 row.2) ++
  db.events.map (fun e => eventMacro py e.fields) ++
  db.hkSets.map (fun h => hkMacro py h.fields) ++
  layouts.flatMap layoutMacros ++
  db.telecommands.flatMap fun tc =>
    [tcApidMacro py tc.fields, tcSvcMacro py tc.fields, tcSubsvcMacro py tc.fields]

/-! ### Macros by name -/

/-- What a name stands for behind the header: the last definition replaces the others. -/
def macroNamed (macros : List Macro) (name : Text) : Option MacroBody :=
  (macros.reverse.find? (fun m => m.name = name)).map (fun m => m.body)

/-- The layout under `<stem>_PARAM_COUNT`, `<stem>_DATA_LEN` and `<stem>_SIZES`. -/
def layoutNamed (macros : List Macro) (stem : Text) : Option HkLayout :=
  match macroNamed macros (stem ++ "_PARAM_COUNT".toList),
    macroNamed macros (stem ++ "_DATA_LEN".toList),
    macroNamed macros (stem ++ "_SIZES".toList) with
  | some (.decimal count), some (.decimal dataLen), some (.initialiser sizes) =>
      some ⟨stem, count.toNat, dataLen, sizes⟩
  | _, _, _ => none

/-! ### Identifiers of C -/

def isIdentifierChar (c : Char) : Bool := c.isAlphanum || c = '_'

/-- The text is an identifier: it is not empty and starts with no digit. -/
def isIdentifier (text : Text) : Bool :=
  match text with
  | [] => false
  | first :: _ => !first.isDigit && text.all isIdentifierChar

theorem isIdentifier_append (start : Text) {text : Text} (identifier : isIdentifier start = true) :
    isIdentifier (start ++ text) = text.all isIdentifierChar := by
  cases start with
  | nil => cases identifier
  | cons first rest =>
      have both := (Bool.and_eq_true _ _).mp identifier
      show (!first.isDigit && (first :: rest ++ text).all isIdentifierChar) = _
      rw [List.all_append, both.1, both.2, Bool.true_and, Bool.true_and]

theorem isIdentifier_stem (start suffix : Text) {stem : Text} (identifier : isIdentifier start = true)
    (plain : suffix.all isIdentifierChar = true) :
    isIdentifier (start ++ stem ++ suffix) = stem.all isIdentifierChar := by
  rw [List.append_assoc, isIdentifier_append start identifier, List.all_append, plain, Bool.and_true]

/-! ### Lookup -/

/-- The suffixes of a housekeeping layout. -/
def layoutSuffixes : List Text :=
  ["_PARAM_COUNT".toList, "_DATA_LEN".toList, "_SIZES".toList]

/-- The suffixes of a telecommand. -/
def tcSuffixes : List Text := ["_APID".toList, "_SVC".toList, "_SUBSVC".toList]

theorem layoutSuffixes_separated : Separated 4 layoutSuffixes := ⟨by decide, by decide⟩

theorem tcSuffixes_separated : Separated 4 tcSuffixes := ⟨by decide, by decide⟩

/-- A later section hides an earlier one. -/
theorem macroNamed_append (first second : List Macro) (name : Text) :
    macroNamed (first ++ second) name = (macroNamed second name).or (macroNamed first name) := by
  unfold macroNamed
  rw [List.reverse_append, List.find?_append, Option.map_or]

theorem macroNamed_cons (m : Macro) (rest : List Macro) (name : Text) :
    macroNamed (m :: rest) name =
      (macroNamed rest name).or (if m.name = name then some m.body else none) := by
  rw [← List.singleton_append, macroNamed_append]
  by_cases named : m.name = name <;> simp [macroNamed, named]

theorem macroNamed_eq_none {macros : List Macro} {name : Text}
    (absent : ∀ m ∈ macros, m.name ≠ name) : macroNamed macros name = none := by
  unfold macroNamed
  rw [List.find?_eq_none.mpr, Option.map_none]
  intro m member
  simpa using absent m (List.mem_reverse.mp member)

section Layouts

variable {stem suffix : Text} {layouts : List HkLayout}

theorem layoutName_inj {macroPrefix other : Text} (inSuffixes : suffix ∈ layoutSuffixes)
    (otherIn : other ∈ layoutSuffixes) :
    macroPrefix ++ other = stem ++ suffix ↔ macroPrefix = stem ∧ other = suffix := by
  constructor
  · exact layoutSuffixes_separated.append_inj otherIn inSuffixes
  · rintro ⟨rfl, rfl⟩
    rfl

/-- What the macro of a layout with a suffix stands for. -/
def HkLayout.body (layout : HkLayout) (suffix : Text) : MacroBody :=
  if suffix = "_SIZES".toList then .initialiser layout.sizes
  else if suffix = "_DATA_LEN".toList then .decimal layout.dataLen
  else .decimal layout.paramCount

/-- The macros of one layout under a name of the stem. -/
theorem macroNamed_layout (inSuffixes : suffix ∈ layoutSuffixes) (layout : HkLayout) :
    macroNamed (layoutMacros layout) (stem ++ suffix) =
      if layout.macroPrefix = stem then some (layout.body suffix) else none := by
  have name {other : Text} (otherIn : other ∈ layoutSuffixes) :=
    @layoutName_inj stem suffix layout.macroPrefix other inSuffixes otherIn
  unfold layoutMacros
  rw [macroNamed_cons, macroNamed_cons, macroNamed_cons, if_congr (name (by decide)) rfl rfl,
    if_congr (name (by decide)) rfl rfl, if_congr (name (by decide)) rfl rfl]
  by_cases same : layout.macroPrefix = stem
  · simp only [same, true_and]
    simp only [layoutSuffixes, List.mem_cons, List.not_mem_nil, or_false] at inSuffixes
    rcases inSuffixes with rfl | rfl | rfl <;> rfl
  · simp only [same, false_and, if_false]
    rfl

/-- The macros of several layouts: the last layout of the stem. -/
theorem macroNamed_layouts (inSuffixes : suffix ∈ layoutSuffixes) :
    macroNamed (layouts.flatMap layoutMacros) (stem ++ suffix) =
      (layouts.reverse.find? (fun layout => layout.macroPrefix = stem)).map
        (fun layout => layout.body suffix) := by
  induction layouts with
  | nil => rfl
  | cons layout rest inductionHypothesis =>
      rw [List.flatMap_cons, macroNamed_append, inductionHypothesis, macroNamed_layout inSuffixes,
        List.reverse_cons, List.find?_append, Option.map_or]
      congr 1
      by_cases named : layout.macroPrefix = stem <;> simp [named]

/-- No telecommand has a macro of a set. -/
theorem tcMacro_ne {tc : Telecommand} {m : Macro}
    (member : m ∈ [tcApidMacro py tc, tcSvcMacro py tc, tcSubsvcMacro py tc]) (rest : Text) :
    m.name ≠ "SRDB_HK_".toList ++ rest := by
  intro same
  have kind : m.name.take 7 = "SRDB_HK".toList := congrArg (List.take 7) same
  have own : m.name.take 7 = "SRDB_TC".toList := by
    simp only [List.mem_cons, List.not_mem_nil, or_false] at member
    rcases member with rfl | rfl | rfl <;> rfl
  exact absurd (own.symm.trans kind) (by decide)

/-- The header gives a name of a set what the last layout with it has. -/
theorem macroNamed_header (db : SRDB py) {name : Text} {layout : HkLayout}
    (found : layouts.reverse.find?
      (fun layout => layout.macroPrefix = "SRDB_HK_".toList ++ name) = some layout)
    (inSuffixes : suffix ∈ layoutSuffixes) :
    macroNamed (headerMacros db layouts) ("SRDB_HK_".toList ++ name ++ suffix) =
      some (layout.body suffix) := by
  unfold headerMacros
  rw [macroNamed_append, macroNamed_append, macroNamed_layouts inSuffixes, found,
    macroNamed_eq_none, Option.none_or]
  · rfl
  · intro m member
    obtain ⟨tc, _, inTc⟩ := List.mem_flatMap.mp member
    rw [List.append_assoc]
    exact tcMacro_ne inTc _

/-- The header gives a set the last layout of its name. -/
theorem layoutNamed_header (db : SRDB py) {name : Text} {layout : HkLayout}
    (found : layouts.reverse.find?
      (fun layout => layout.macroPrefix = "SRDB_HK_".toList ++ name) = some layout) :
    layoutNamed (headerMacros db layouts) ("SRDB_HK_".toList ++ name) = some layout := by
  have selected := List.find?_some found
  rw [decide_eq_true_iff] at selected
  have count : layout.body "_PARAM_COUNT".toList = .decimal layout.paramCount := rfl
  have dataLen : layout.body "_DATA_LEN".toList = .decimal layout.dataLen := rfl
  have sizes : layout.body "_SIZES".toList = .initialiser layout.sizes := rfl
  unfold layoutNamed
  rw [macroNamed_header db found (by decide), macroNamed_header db found (by decide),
    macroNamed_header db found (by decide), count, dataLen, sizes]
  simp only [Int.toNat_natCast, ← selected]

end Layouts

end Openobsw.Srdb
