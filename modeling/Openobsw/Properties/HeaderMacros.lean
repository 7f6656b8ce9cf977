import Openobsw.Properties.Composition
import Openobsw.Properties.HeaderReading

/-!
Owns the macros of the generated C header as C reads them: when every record of the database
is reached by a macro of its own, and every macro has a name that C allows. Names, values,
descriptions and the spacecraft name can each prevent it.
-/

namespace Openobsw.Srdb

open Openobsw.Lib
open Openobsw.Lib.CSource (Directive directives definedNames others)

variable {F : Type} {py : Python F}

/-! ### Consistent headers -/

/-- The value can be reached under the name: a macro has the name, and every macro that
has it stands for the value. -/
def Reaches (found : List Directive) (name : Text) (value : Int) : Prop :=
  (∃ body, .define name body ∈ found) ∧
    ∀ body, .define name body ∈ found → constantOf body = some value

/-- The directives of a header define the macro of each record once, with a name that is an
identifier, for the value of the record. They are read as they stand: no condition but the
guard of the header is around them, nothing is included but `stdint.h`, and the guard is not
defined in front of it. -/
structure ConsistentMacros (db : SRDB py) (found : List Directive) : Prop where
  identifiers : ∀ name ∈ recordNames db, isIdentifier name = true
  once : ∀ name ∈ recordNames db, (definedNames found).count name = 1
  unconditional : others found = others openingDirectives ++ [endif]
  entered : guardName ∉ definedNames (found.takeWhile (fun directive => directive ≠ ifndefGuard))
  parameters : ∀ p ∈ db.parameters,
    Reaches found ("SRDB_PARAM_".toList ++ py.upper p.fields.name) p.fields.id
  enumerations : ∀ row ∈ db.enumerations, Reaches found (enumMacro py row.1 row.2).name row.2.value
  events : ∀ e ∈ db.events,
    Reaches found ("SRDB_EVENT_".toList ++ py.upper e.fields.name) e.fields.id
  hkSets : ∀ h ∈ db.hkSets, Reaches found ("SRDB_HK_".toList ++ py.upper h.fields.name) h.fields.id
  apids : ∀ tc ∈ db.telecommands,
    Reaches found (tcPrefix py tc.fields ++ "_APID".toList) tc.fields.apid
  services : ∀ tc ∈ db.telecommands,
    Reaches found (tcPrefix py tc.fields ++ "_SVC".toList) tc.fields.service
  subservices : ∀ tc ∈ db.telecommands,
    Reaches found (tcPrefix py tc.fields ++ "_SUBSVC".toList) tc.fields.subservice

/-- The directives are definitions of other names. -/
structure DefinesOthers (names : List Text) (found : List Directive) : Prop where
  only : others found = []
  apart : ∀ name ∈ names, name ∉ definedNames found

instance (names : List Text) (found : List Directive) : Decidable (DefinesOthers names found) :=
  decidable_of_iff (others found = [] ∧ ∀ name ∈ names, name ∉ definedNames found)
    ⟨fun both => ⟨both.1, both.2⟩, fun both => ⟨both.only, both.apart⟩⟩

/-- The comment behind a macro leaves nothing on its line, and brings in no directive but
definitions of other names. -/
structure StaysBehind (names : List Text) (comment : Text) : Prop where
  line : (CSource.residue comment).all CSource.isBlank = true
  broughtIn : DefinesOthers names (CSource.broughtIn comment)

instance (names : List Text) (comment : Text) : Decidable (StaysBehind names comment) :=
  decidable_of_iff ((CSource.residue comment).all CSource.isBlank = true ∧
    DefinesOthers names (CSource.broughtIn comment))
    ⟨fun both => ⟨both.1, both.2⟩, fun both => ⟨both.line, both.broughtIn⟩⟩

/-- The description `* \⏎/ + 1 /*` ends its comment with a spliced `*/`. -/
example : ¬ StaysBehind [] (docComment "*\\\n/ + 1 /*".toList) := by decide

/-- A spacecraft name that closes its string defines the macro of a parameter. -/
example : ¬ DefinesOthers ["SRDB_PARAM_TEMP".toList] (directives (nameText
    { name := "sat\"\n#define SRDB_PARAM_TEMP 9 //".toList, scid := 1, apidDefault := 16 })) := by
  decide +kernel

/-- What keeps the macros of a database apart, and their names, values and comments within C. -/
structure MacrosKeptApart (db : SRDB py) : Prop extends NamesApart db where
  parameterChars : ∀ p ∈ db.parameters, (py.upper p.fields.name).all isIdentifierChar = true
  eventChars : ∀ e ∈ db.events, (py.upper e.fields.name).all isIdentifierChar = true
  hkChars : ∀ h ∈ db.hkSets, (py.upper h.fields.name).all isIdentifierChar = true
  tcChars : ∀ tc ∈ db.telecommands, (py.upper tc.fields.name).all isIdentifierChar = true
  values : ∀ row ∈ db.enumerations, 0 ≤ row.2.value ∧ row.2.value < 0x10000000000000000
  parameterTexts : ∀ p ∈ db.parameters,
    StaysBehind (recordNames db) (docComment p.fields.description)
  eventTexts : ∀ e ∈ db.events,
    StaysBehind (recordNames db) (docComment (eventNote e.fields ++ e.fields.description))
  hkTexts : ∀ h ∈ db.hkSets,
    StaysBehind (recordNames db) (docComment (h.fields.description ++ hkNote h.fields))
  nameInComment : DefinesOthers (guardName :: recordNames db)
    (directives (fileText db.spacecraft.fields))
  nameInString : DefinesOthers (recordNames db) (directives (nameText db.spacecraft.fields))

/-! ### Comments of the macros -/

theorem headerMacros_comments {db : SRDB py} {layouts : List HkLayout} {P : Text → Prop} :
    (∀ m ∈ headerMacros db layouts, ∀ comment, m.comment = some comment → P comment) ↔
      (∀ p ∈ db.parameters, P (docComment p.fields.description)) ∧
      (∀ e ∈ db.events, P (docComment (eventNote e.fields ++ e.fields.description))) ∧
      ∀ h ∈ db.hkSets, P (docComment (h.fields.description ++ hkNote h.fields)) := by
  constructor
  · intro each
    refine ⟨?_, ?_, ?_⟩
    · exact fun p member => each _ (paramMacro_mem member) _ rfl
    · exact fun e member => each _ (eventMacro_mem member) _ rfl
    · exact fun h member => each _ (hkMacro_mem member) _ rfl
  · rintro ⟨parameters, events, hkSets⟩ m member comment same
    simp only [headerMacros, List.mem_append, List.mem_map, List.mem_flatMap] at member
    rcases member with ((((parameter | enumeration) | event) | set) | layout) | telecommand
    · obtain ⟨p, inDb, rfl⟩ := parameter
      rw [← Option.some.inj same]
      exact parameters p inDb
    · obtain ⟨row, _, rfl⟩ := enumeration
      cases same
    · obtain ⟨e, inDb, rfl⟩ := event
      rw [← Option.some.inj same]
      exact events e inDb
    · obtain ⟨h, inDb, rfl⟩ := set
      rw [← Option.some.inj same]
      exact hkSets h inDb
    · obtain ⟨l, _, made⟩ := layout
      rw [layoutMacros_bare m made] at same
      cases same
    · obtain ⟨tc, _, made⟩ := telecommand
      rw [tcMacros_bare m made] at same
      cases same

/-- A comment without `*/` around the description stays behind its macro when C reads none in the
description. -/
theorem staysBehind_of_closed (names : List Text) (before text behind : Text)
    (fixed : ∀ c ∈ before ++ behind, CSource.Fixed c)
    (unpaired : ¬ "*/".toList <:+: "*< ".toList ++ before)
    (last : ("*< ".toList ++ before).getLast? ≠ some '*') (absent : '*' ∉ behind)
    (blank : behind = [] ∨ behind.head? = some ' ')
    (closed : ¬ "*/".toList <:+: CSource.prepare text) :
    StaysBehind names (docComment (before ++ text ++ behind)) := by
  obtain ⟨fixedBefore, fixedBehind⟩ := List.forall_mem_append.mp fixed
  have start : ∀ c ∈ "*< ".toList ++ before, CSource.Fixed c :=
    List.forall_mem_append.mpr ⟨CSource.forall_of_all (by decide), fixedBefore⟩
  have tail : CSource.prepare (text ++ behind) = CSource.prepare text ++ behind := by
    rcases blank with rfl | isBlank
    · rw [List.append_nil, List.append_nil]
    · obtain ⟨rest, rfl⟩ := List.head?_eq_some_iff.mp isBlank
      have same := CSource.prepare_fixed
        (fun c member => fixedBehind c (List.mem_cons_of_mem _ member)) []
      rw [List.append_nil, show CSource.prepare [] = [] from rfl, List.append_nil] at same
      rw [CSource.prepare_append (by decide), same]
  have whole : CSource.prepare ("*< ".toList ++ (before ++ text ++ behind)) =
      "*< ".toList ++ before ++ CSource.prepare text ++ behind := by
    rw [List.append_assoc before, ← List.append_assoc, CSource.prepare_fixed start, tail,
      ← List.append_assoc]
  have head : behind.head? ≠ some '/' := by
    rcases blank with rfl | isBlank
    · exact Option.some_ne_none _ ∘ Eq.symm
    · rw [isBlank]
      decide
  obtain ⟨line, broughtIn⟩ := CSource.commented_closed
    (whole ▸ not_congr (Names.pair_infix_frame unpaired last absent head) |>.mpr closed)
  constructor
  · show (CSource.residue ("*< ".toList ++ (before ++ text ++ behind) ++ [' '])).all _ = true
    rw [line]
    rfl
  · show DefinesOthers names (CSource.broughtIn ("*< ".toList ++ (before ++ text ++ behind) ++ [' ']))
    rw [broughtIn]
    exact ⟨rfl, fun _ _ => List.not_mem_nil⟩

theorem eventNote_closed (e : Event) :
    (∀ c ∈ eventNote e, CSource.Fixed c) ∧ ¬ "*/".toList <:+: "*< ".toList ++ eventNote e ∧
      ("*< ".toList ++ eventNote e).getLast? ≠ some '*' := by
  refine ⟨CSource.forall_of_all ?_, ?_, ?_⟩ <;> unfold eventNote <;>
    cases e.severity <;> cases e.safeTrigger <;> decide

theorem hkNote_closed (h : HKSet) :
    (∀ c ∈ hkNote h, CSource.Fixed c) ∧ '*' ∉ hkNote h ∧ (hkNote h).head? = some ' ' := by
  have digits (value : Int) : ∀ c ∈ intText value, CSource.Fixed c ∧ c ≠ '*' := by
    intro c member
    have number := intText_chars value c member
    refine ⟨(quiet_of_numberChar number).1, ?_⟩
    rintro rfl
    exact absurd number (by decide)
  have each : ∀ c ∈ hkNote h, CSource.Fixed c ∧ c ≠ '*' := by
    unfold hkNote
    simp only [List.forall_mem_append]
    refine ⟨⟨⟨⟨CSource.forall_of_all (by decide), digits _⟩, CSource.forall_of_all (by decide)⟩, ?_⟩,
      CSource.forall_of_all (by decide)⟩
    cases h.spid with
    | none => exact fun c member => absurd member List.not_mem_nil
    | some spid => exact List.forall_mem_append.mpr ⟨CSource.forall_of_all (by decide), digits spid⟩
  exact ⟨fun c member => (each c member).1, fun member => (each '*' member).2 rfl, rfl⟩

/-- Descriptions in which C reads no `*/` stay behind their macros. -/
theorem texts_stay_of_closed (db : SRDB py) (names : List Text)
    (parameters : ∀ p ∈ db.parameters, ¬ "*/".toList <:+: CSource.prepare p.fields.description)
    (events : ∀ e ∈ db.events, ¬ "*/".toList <:+: CSource.prepare e.fields.description)
    (hkSets : ∀ h ∈ db.hkSets, ¬ "*/".toList <:+: CSource.prepare h.fields.description) :
    (∀ p ∈ db.parameters, StaysBehind names (docComment p.fields.description)) ∧
      (∀ e ∈ db.events,
        StaysBehind names (docComment (eventNote e.fields ++ e.fields.description))) ∧
      ∀ h ∈ db.hkSets,
        StaysBehind names (docComment (h.fields.description ++ hkNote h.fields)) := by
  refine ⟨?_, ?_, ?_⟩
  · intro p member
    have stays := staysBehind_of_closed names [] p.fields.description []
      (CSource.forall_of_all rfl) (by decide)
      (by decide) (by decide) (.inl rfl) (parameters p member)
    rwa [List.append_nil] at stays
  · intro e member
    obtain ⟨fixed, unpaired, last⟩ := eventNote_closed e.fields
    have stays := staysBehind_of_closed names (eventNote e.fields) e.fields.description []
      (by rwa [List.append_nil]) unpaired last (by decide) (.inl rfl) (events e member)
    rwa [List.append_nil] at stays
  · intro h member
    obtain ⟨fixed, absent, blank⟩ := hkNote_closed h.fields
    exact staysBehind_of_closed names [] h.fields.description (hkNote h.fields) fixed (by decide)
      (by decide) absent (.inr blank) (hkSets h member)

/-! ### Names in a header -/

/-- The names of the tables and the guard are not those of a record. -/
theorem recordNames_apart (db : SRDB py) :
    ∀ name ∈ recordNames db, name ≠ guardName ∧ name ∉ tableNames := by
  intro name member
  obtain ⟨part, inSections, inPart⟩ := List.mem_flatMap.mp member
  have tag := macroSections_tagged db part inSections name inPart
  have tags : part.1 ∈ ["SRDB_PA".toList, "SRDB_EN".toList, "SRDB_EV".toList, "SRDB_HK".toList,
      "SRDB_TC".toList] := by
    have := List.mem_map_of_mem (f := Prod.fst) inSections
    simpa only [macroSections, List.map_cons, List.map_nil] using this
  rw [← tag] at tags
  constructor
  · rintro rfl
    exact absurd tags (by decide)
  · have others : ∀ name ∈ tableNames, name.take 7 ∉ ["SRDB_PA".toList, "SRDB_EN".toList,
        "SRDB_EV".toList, "SRDB_HK".toList, "SRDB_TC".toList] := by decide
    exact fun table => others name table tags

theorem TablesOnly.others_eq {found : List Directive} (tables : TablesOnly found) :
    others found = [] := by
  apply List.filter_eq_nil_iff.mpr
  intro directive member
  obtain ⟨name, _, body, rfl⟩ := tables directive member
  exact Bool.false_ne_true

theorem TablesOnly.mem_tableNames {found : List Directive} (tables : TablesOnly found) {name : Text}
    (defined : name ∈ definedNames found) : name ∈ tableNames := by
  obtain ⟨body, member⟩ := CSource.mem_definedNames.mp defined
  obtain ⟨table, inTables, _, same⟩ := tables _ member
  cases same
  exact inTables

/-! ### Directives in a header -/

section Reading

variable {macros : List Macro} {found inFile inName rest tables : List Directive}

/-- The definitions of macros, and what their comments bring in. -/
theorem read_perm (macros : List Macro) :
    (macros.flatMap Macro.read).Perm
      (macros.map (fun m => .define m.name m.expansion) ++ macros.flatMap Macro.broughtIn) :=
  (List.map_append_flatMap_perm macros _ _).symm

theorem definedNames_read (macros : List Macro) :
    (definedNames (macros.flatMap Macro.read)).Perm
      (macros.map Macro.name ++ definedNames (macros.flatMap Macro.broughtIn)) := by
  have own : definedNames (macros.map (fun m => .define m.name m.expansion)) =
      macros.map Macro.name := by
    induction macros with
    | nil => rfl
    | cons m macros inductionHypothesis => exact congrArg (List.cons m.name) inductionHypothesis
  rw [← own, ← CSource.definedNames_append]
  exact CSource.definedNames_perm (read_perm macros)

theorem others_read (macros : List Macro) :
    others (macros.flatMap Macro.read) = [] ↔ ∀ m ∈ macros, others m.broughtIn = [] := by
  unfold others
  rw [List.filter_flatMap, List.flatMap_eq_nil_iff]
  rfl

theorem not_mem_broughtIn {name : Text} :
    name ∉ definedNames (macros.flatMap Macro.broughtIn) ↔
      ∀ m ∈ macros, name ∉ definedNames m.broughtIn := by
  simp only [CSource.mem_definedNames, List.mem_flatMap, not_exists, not_and]
  exact ⟨fun absent m member body => absent body m member,
    fun absent body m member => absent m member body⟩

variable (split : found = inFile ++ (openingDirectives ++ (rest ++ [endif])))

include split in
/-- In front of the guard there is what the file comment brings in. -/
theorem entered_header (plain : others inFile = []) :
    guardName ∉ definedNames (found.takeWhile (fun directive => directive ≠ ifndefGuard)) ↔
      guardName ∉ definedNames inFile := by
  have before : ∀ directive ∈ inFile, decide (directive ≠ ifndefGuard) = true := by
    intro directive member
    apply decide_eq_true
    rintro rfl
    exact List.filter_eq_nil_iff.mp plain _ member rfl
  have taken : found.takeWhile (fun directive => directive ≠ ifndefGuard) = inFile := by
    rw [split, List.takeWhile_append_of_pos before]
    exact List.append_nil inFile
  rw [taken]

variable (order : rest.Perm (inName ++ (macros.flatMap Macro.read ++ tables)))

include split order

theorem define_mem_header {m : Macro} (member : m ∈ macros) :
    .define m.name m.expansion ∈ found := by
  have inRest : .define m.name m.expansion ∈ rest := by
    apply order.mem_iff.mpr
    have read : .define m.name m.expansion ∈ macros.flatMap Macro.read :=
      List.mem_flatMap.mpr ⟨m, member, List.mem_cons_self⟩
    exact List.mem_append_right _ (List.mem_append_left _ read)
  rw [split]
  exact List.mem_append_right _ (List.mem_append_right _ (List.mem_append_left _ inRest))

/-- A name that is defined once reaches what its macro stands for. -/
theorem reaches_header {m : Macro} (member : m ∈ macros)
    (once : (definedNames found).count m.name = 1) (value : Int) :
    Reaches found m.name value ↔
      m.residue.all CSource.isBlank = true ∧ constantOf m.body.text = some value := by
  have own := define_mem_header split order member
  rw [← Macro.constantOf_expansion]
  constructor
  · intro reaches
    exact reaches.2 _ own
  · intro constant
    refine ⟨⟨_, own⟩, ?_⟩
    intro body defined
    rw [CSource.define_unique once defined own]
    exact constant

variable (only : TablesOnly tables)

include only

/-- Nothing but definitions is read when no text brings in anything else. -/
theorem others_header :
    others found = others openingDirectives ++ [endif] ↔
      others inFile = [] ∧ others inName = [] ∧ ∀ m ∈ macros, others m.broughtIn = [] := by
  have same : (others rest).Perm (others inName ++ others (macros.flatMap Macro.read)) := by
    have parts := CSource.others_perm order
    rwa [CSource.others_append, CSource.others_append, only.others_eq, List.append_nil] at parts
  have body : others rest = [] ↔ others inName = [] ∧ ∀ m ∈ macros, others m.broughtIn = [] := by
    rw [← others_read, ← List.append_eq_nil_iff]
    exact ⟨fun empty => (empty ▸ same).symm.eq_nil, fun empty => (empty ▸ same).eq_nil⟩
  have ended : others [endif] = [endif] := rfl
  rw [split, CSource.others_append, CSource.others_append, CSource.others_append, ended, ← body]
  constructor
  · intro same
    have lengths := congrArg List.length same
    simp only [List.length_append] at lengths
    exact ⟨List.length_eq_zero_iff.mp (by omega), List.length_eq_zero_iff.mp (by omega)⟩
  · rintro ⟨file, inRest⟩
    rw [file, inRest]
    rfl

/-- Each name is defined once when the names differ and no text defines one of them. -/
theorem definedOnce_header
    (apart : ∀ name ∈ macros.map Macro.name, name ≠ guardName ∧ name ∉ tableNames) :
    (∀ name ∈ macros.map Macro.name, (definedNames found).count name = 1) ↔
      (macros.map Macro.name).Nodup ∧ ∀ name ∈ macros.map Macro.name,
        name ∉ definedNames inFile ∧ name ∉ definedNames inName ∧
          ∀ m ∈ macros, name ∉ definedNames m.broughtIn := by
  have inRest := CSource.definedNames_perm order
  rw [CSource.definedNames_append, CSource.definedNames_append] at inRest
  have counts : ∀ name ∈ macros.map Macro.name, (definedNames found).count name =
      (macros.map Macro.name).count name + ((definedNames inFile).count name +
        ((definedNames inName).count name +
          (definedNames (macros.flatMap Macro.broughtIn)).count name)) := by
    intro name member
    obtain ⟨notGuard, notTable⟩ := apart name member
    have opening : (definedNames openingDirectives).count name = 0 :=
      List.count_eq_zero.mpr (fun inOpening => notGuard (List.mem_singleton.mp inOpening))
    have table : (definedNames tables).count name = 0 :=
      List.count_eq_zero.mpr (fun inTables => notTable (only.mem_tableNames inTables))
    have ended : definedNames [endif] = [] := rfl
    rw [split, CSource.definedNames_append, CSource.definedNames_append,
      CSource.definedNames_append, ended, List.append_nil, List.count_append, List.count_append,
      opening, inRest.count_eq, List.count_append, List.count_append, table,
      (definedNames_read macros).count_eq, List.count_append]
    omega
  have each : ∀ name ∈ macros.map Macro.name, ((definedNames found).count name = 1 ↔
      (macros.map Macro.name).count name = 1 ∧ name ∉ definedNames inFile ∧
        name ∉ definedNames inName ∧ ∀ m ∈ macros, name ∉ definedNames m.broughtIn) := by
    intro name member
    have present := List.count_pos_iff.mpr member
    rw [counts name member, ← not_mem_broughtIn, ← List.count_eq_zero, ← List.count_eq_zero,
      ← List.count_eq_zero]
    omega
  rw [List.nodup_iff_count_eq_one, ← forall₂_and]
  exact forall₂_congr each

end Reading

/-! ### Values -/

theorem hex_value (width : Nat) {value : Int} (natural : 0 ≤ value) (small : value ≤ 0xFFFF) :
    constantOf (MacroBody.hex width value).text = some value :=
  (constantOf_unsignedHex width natural).trans (unsignedLiteral_eq_self.mpr ⟨natural, by omega⟩)

theorem decimal_value_iff {value : Int} :
    constantOf (MacroBody.decimal value).text = some value ↔
      0 ≤ value ∧ value < 0x10000000000000000 := by
  show constantOf (unsigned value) = some value ↔ _
  rw [constantOf_unsigned, unsignedLiteral_eq_self]

/-! ### The condition -/

section Condition

variable {db : SRDB py} {layouts : List HkLayout} {header : Text}

/-- What is known of the directives of a generated header. -/
structure HeaderRead (db : SRDB py) (layouts : List HkLayout)
    (found rest tables : List Directive) : Prop where
  generated : generateHeader db = some layouts
  names : (headerMacros db layouts).map Macro.name = recordNames db
  split : found = directives (fileText db.spacecraft.fields) ++
    (openingDirectives ++ (rest ++ [endif]))
  order : rest.Perm (directives (nameText db.spacecraft.fields) ++
    ((headerMacros db layouts).flatMap Macro.read ++ tables))
  only : TablesOnly tables

theorem headerRead (generated : generateHeaderText db = some header)
    (identifiers : ∀ name ∈ recordNames db, isIdentifier name = true) :
    ∃ layouts rest tables, HeaderRead db layouts (directives header) rest tables := by
  obtain ⟨layouts, isHeader, rfl⟩ := Option.map_eq_some_iff.mp generated
  have names := headerMacros_names isHeader
  have named : ∀ m ∈ headerMacros db layouts, isIdentifier m.name = true :=
    fun m member => identifiers _ (names ▸ List.mem_map_of_mem member)
  obtain ⟨rest, tables, split, order, only⟩ := directives_header named
  exact ⟨layouts, rest, tables, isHeader, names, split, order, only⟩

namespace HeaderRead

variable {found rest tables : List Directive} (read : HeaderRead db layouts found rest tables)

include read

theorem once_iff :
    (∀ name ∈ recordNames db, (definedNames found).count name = 1) ↔
      (recordNames db).Nodup ∧ ∀ name ∈ recordNames db,
        name ∉ definedNames (directives (fileText db.spacecraft.fields)) ∧
          name ∉ definedNames (directives (nameText db.spacecraft.fields)) ∧
            ∀ m ∈ headerMacros db layouts, name ∉ definedNames m.broughtIn := by
  have once := definedOnce_header read.split read.order read.only
    (by rw [read.names]; exact recordNames_apart db)
  rwa [read.names] at once

theorem reaches_iff (each : ∀ name ∈ recordNames db, (definedNames found).count name = 1)
    {m : Macro} (member : m ∈ headerMacros db layouts) (value : Int) :
    Reaches found m.name value ↔
      m.residue.all CSource.isBlank = true ∧ constantOf m.body.text = some value :=
  reaches_header read.split read.order member
    (each _ (read.names ▸ List.mem_map_of_mem member)) value

end HeaderRead

/-- In a consistent header names, values and texts are where they belong. -/
theorem ConsistentMacros.keptApart (generated : generateHeaderText db = some header)
    (consistent : ConsistentMacros db (directives header)) : MacrosKeptApart db := by
  obtain ⟨layouts, rest, tables, read⟩ := headerRead generated consistent.identifiers
  obtain ⟨inFile, inName, inComments⟩ :=
    (others_header read.split read.order read.only).mp consistent.unconditional
  obtain ⟨distinct, foreign⟩ := read.once_iff.mp consistent.once
  have entered := (entered_header read.split inFile).mp consistent.entered
  have brought {m : Macro} (member : m ∈ headerMacros db layouts) :
      DefinesOthers (recordNames db) m.broughtIn :=
    ⟨inComments m member, fun name inNames => (foreign name inNames).2.2 m member⟩
  have reaches {m : Macro} (member : m ∈ headerMacros db layouts) {value : Int} :=
    (read.reaches_iff consistent.once member value).mp
  obtain ⟨parameterChars, eventChars, hkChars, tcChars⟩ :=
    (recordNames_identifiers_iff db).mp consistent.identifiers
  refine ⟨(recordNames_nodup_iff db).mp distinct, parameterChars, eventChars, hkChars, tcChars,
    ?_, ?_, ?_, ?_, ?_, ?_⟩
  · intro row member
    exact decimal_value_iff.mp
      (reaches (enumMacro_mem member) (consistent.enumerations row member)).2
  · intro p member
    exact ⟨(reaches (paramMacro_mem member) (consistent.parameters p member)).1,
      brought (paramMacro_mem member)⟩
  · intro e member
    exact ⟨(reaches (eventMacro_mem member) (consistent.events e member)).1,
      brought (eventMacro_mem member)⟩
  · intro h member
    exact ⟨(reaches (hkMacro_mem member) (consistent.hkSets h member)).1,
      brought (hkMacro_mem member)⟩
  · refine ⟨inFile, List.forall_mem_cons.mpr ⟨entered, ?_⟩⟩
    exact fun name inNames => (foreign name inNames).1
  · exact ⟨inName, fun name inNames => (foreign name inNames).2.1⟩

/-- Names, values and texts where they belong make a consistent header. -/
theorem MacrosKeptApart.consistent (generated : generateHeaderText db = some header)
    (apart : MacrosKeptApart db) : ConsistentMacros db (directives header) := by
  have identifiers := (recordNames_identifiers_iff db).mpr
    ⟨apart.parameterChars, apart.eventChars, apart.hkChars, apart.tcChars⟩
  obtain ⟨layouts, rest, tables, read⟩ := headerRead generated identifiers
  have brought : ∀ m ∈ headerMacros db layouts, DefinesOthers (recordNames db) m.broughtIn := by
    intro m member
    have texts := headerMacros_comments.mpr
      ⟨apart.parameterTexts, apart.eventTexts, apart.hkTexts⟩ m member
    unfold Macro.broughtIn
    cases comment : m.comment with
    | none => exact ⟨rfl, fun _ _ => List.not_mem_nil⟩
    | some text => exact (texts text comment).broughtIn
  have each := read.once_iff.mpr ⟨(recordNames_nodup_iff db).mpr apart.toNamesApart,
    fun name inNames => ⟨apart.nameInComment.apart name (List.mem_cons_of_mem _ inNames),
      apart.nameInString.apart name inNames,
      fun m member => (brought m member).apart name inNames⟩⟩
  have reaches {m : Macro} (member : m ∈ headerMacros db layouts) {value : Int} :=
    (read.reaches_iff each member value).mpr
  refine ⟨identifiers, each, ?_, ?_, ?_, ?_, ?_, ?_, ?_, ?_, ?_⟩
  · exact (others_header read.split read.order read.only).mpr
      ⟨apart.nameInComment.only, apart.nameInString.only, fun m member => (brought m member).only⟩
  · exact (entered_header read.split apart.nameInComment.only).mpr
      (apart.nameInComment.apart _ List.mem_cons_self)
  · intro p member
    have range := parameter_id_range p
    exact reaches (paramMacro_mem member)
      ⟨(apart.parameterTexts p member).line, hex_value 4 range.1 range.2⟩
  · intro row member
    exact reaches (enumMacro_mem member) ⟨rfl, decimal_value_iff.mpr (apart.values row member)⟩
  · intro e member
    have range := event_id_range e
    exact reaches (eventMacro_mem member)
      ⟨(apart.eventTexts e member).line, hex_value 4 range.1 range.2⟩
  · intro h member
    have range := hkSet_id_range h
    exact reaches (hkMacro_mem member)
      ⟨(apart.hkTexts h member).line, decimal_value_iff.mpr (by omega)⟩
  · intro tc member
    have range := (telecommand_field_range tc).1
    exact reaches (tcMacros_mem member (tcApidMacro py tc.fields) (by simp))
      ⟨rfl, hex_value 3 range.1 (by omega)⟩
  · intro tc member
    have range := (telecommand_field_range tc).2.1
    exact reaches (tcMacros_mem member (tcSvcMacro py tc.fields) (by simp))
      ⟨rfl, decimal_value_iff.mpr (by omega)⟩
  · intro tc member
    have range := (telecommand_field_range tc).2.2
    exact reaches (tcMacros_mem member (tcSubsvcMacro py tc.fields) (by simp))
      ⟨rfl, decimal_value_iff.mpr (by omega)⟩

/-- Every record and every value of the database has a macro of its own exactly when its
names stay apart and within the identifiers of C, its values within 64 bits, and its
descriptions and the spacecraft name where they are put. -/
theorem consistentMacros_iff (generated : generateHeaderText db = some header) :
    ConsistentMacros db (directives header) ↔ MacrosKeptApart db :=
  ⟨ConsistentMacros.keptApart generated, MacrosKeptApart.consistent generated⟩

/-- In a consistent header C reads the layouts of the sets as they are generated. -/
theorem ConsistentMacros.layouts_read (generated : generateHeaderText db = some header)
    (consistent : ConsistentMacros db (directives header)) :
    ∃ layouts, generateHeader db = some layouts ∧ ∀ layout ∈ layouts,
      ∀ m ∈ layoutMacros layout, ∀ body,
        .define m.name body ∈ directives header ↔ body = m.body.text := by
  obtain ⟨layouts, rest, tables, read⟩ := headerRead generated consistent.identifiers
  refine ⟨layouts, read.generated, ?_⟩
  intro layout inLayouts m made body
  have member : m ∈ headerMacros db layouts :=
    List.mem_append_left _ (List.mem_append_right _ (List.mem_flatMap.mpr ⟨layout, inLayouts, made⟩))
  have own := define_mem_header read.split read.order member
  rw [Macro.expansion_bare (layoutMacros_bare m made)] at own
  constructor
  · intro defined
    exact CSource.define_unique
      (consistent.once _ (read.names ▸ List.mem_map_of_mem member)) defined own
  · rintro rfl
    exact own

end Condition

/-! ### Two small databases -/

/-- A parameter with two named values. -/
def heaterState : Validated (Parameter.validate asciiPython) :=
  ⟨{ bareParameter 1 "heater_state" .uint8 with
      enumeration := some [⟨0, "off".toList⟩, ⟨1, "on (auto)".toList⟩] }, by decide⟩

/-- One record of each kind. -/
def heaterDb : SRDB asciiPython where
  spacecraft := testSpacecraft
  parameters := [heaterState]
  telecommands := [⟨{ name := "heater_on".toList, description := [], apid := 16, service := 8
                      subservice := 1 }, by decide⟩]
  hkSets := [⟨{ id := 1, name := "thermal".toList, description := []
                parameters := ["heater_state".toList], defaultIntervalTicks := 0 }, by decide⟩]
  events := [⟨{ id := 1, name := "overheat".toList, severity := .low, description := [] },
    by decide⟩]

example : (enumMacro asciiPython heaterState.fields ⟨1, "on (auto)".toList⟩).name =
    "SRDB_ENUM_HEATER_STATE_ON_AUTO".toList := by decide

theorem heaterDb_keptApart : MacrosKeptApart heaterDb where
  parameters := by decide
  enumerations := by decide
  events := by decide
  hkSets := by decide
  layouts := by decide
  telecommands := by decide
  parameterChars := by decide
  eventChars := by decide
  hkChars := by decide
  tcChars := by decide
  values := by decide
  parameterTexts := by decide +kernel
  eventTexts := by decide +kernel
  hkTexts := by decide +kernel
  nameInComment := by decide +kernel
  nameInString := by decide +kernel

theorem heaterDb_consistent :
    ∃ header, generateHeaderText heaterDb = some header ∧
      ConsistentMacros heaterDb (directives header) :=
  ⟨_, rfl, (consistentMacros_iff rfl).mpr heaterDb_keptApart⟩

/-- Two parameters of one name define `SRDB_PARAM_TEMP` twice. -/
theorem repeated_macro :
    (parametersOnly [temperature, temperatureAgain]).Loaded ∧
      ∃ header, generateHeaderText (parametersOnly [temperature, temperatureAgain]) = some header ∧
        ¬ ConsistentMacros (parametersOnly [temperature, temperatureAgain]) (directives header) := by
  refine ⟨(SRDB.loaded_iff _).mpr (by decide), _, rfl, ?_⟩
  intro consistent
  exact absurd (consistent.keptApart rfl).parameters (by decide)

end Openobsw.Srdb
