import Openobsw.Properties.HeaderNames
import Openobsw.Properties.HeaderText

/-!
Owns how C reads the generated header: line by line from the guard to the end, except where
the spacecraft name stands, and each macro with what its comment leaves behind it.
-/

namespace Openobsw.Srdb

open Openobsw.Lib
open Openobsw.Lib.CSource (Directive Quiet Whole Reads directives newLined)

variable {F : Type} {py : Python F}

/-! ### Lines of macros -/

/-- What the comment leaves on the line of the macro. -/
def Macro.residue (m : Macro) : Text := m.comment.elim [] CSource.residue

/-- The directives of the further lines that the comment makes. -/
def Macro.broughtIn (m : Macro) : List Directive := m.comment.elim [] CSource.broughtIn

/-- What the macro stands for in C. -/
def Macro.expansion (m : Macro) : Text := CSource.trim (m.body.text ++ ("  ".toList ++ m.residue))

/-- The directives of the line. -/
def Macro.read (m : Macro) : List Directive := .define m.name m.expansion :: m.broughtIn

/-- Comments end in a blank. -/
def Macro.Spaced (m : Macro) : Prop :=
  ∀ comment, m.comment = some comment → ∃ text, comment = text ++ [' ']

theorem identifier_chars {text : Text} (identifier : isIdentifier text = true) :
    text ≠ [] ∧ ∀ c ∈ text, isIdentifierChar c = true := by
  cases text with
  | nil => cases identifier
  | cons first rest =>
      exact ⟨List.cons_ne_nil _ _, List.all_eq_true.mp ((Bool.and_eq_true _ _).mp identifier).2⟩

theorem ljust_quiet {text : Text} (width : Nat) (quiet : ∀ c ∈ text, Quiet c) :
    ∀ c ∈ ljust width text, Quiet c := by
  apply List.forall_mem_append.mpr ⟨quiet, ?_⟩
  intro c member
  rw [List.eq_of_mem_replicate member]
  decide

section Lines

variable {m : Macro}

theorem Macro.start_quiet (named : isIdentifier m.name = true) : ∀ c ∈ m.start, Quiet c := by
  have name : ∀ c ∈ m.name, Quiet c :=
    fun c member => quiet_of_identifierChar ((identifier_chars named).2 c member)
  unfold start
  simp only [List.forall_mem_append]
  exact ⟨⟨⟨CSource.forall_of_all (by decide), ljust_quiet _ name⟩,
    CSource.forall_of_all (by decide)⟩, m.body.text_quiet⟩

theorem trim_blanks {before : Text} (blanks : ∀ c ∈ before, CSource.isBlank c = true)
    (text : Text) : CSource.trim (before ++ text) = CSource.trim text := by
  unfold CSource.trim
  rw [List.dropWhile_append_of_pos blanks]

theorem Macro.directive_start (named : isIdentifier m.name = true) (after : Text) :
    CSource.directive (m.start ++ after) =
      some (.define m.name (CSource.trim (m.body.text ++ after))) := by
  obtain ⟨nonempty, chars⟩ := identifier_chars named
  have blanks (count : Nat) : ∀ c ∈ List.replicate count ' ', CSource.isBlank c = true := by
    intro c member
    rw [List.eq_of_mem_replicate member]
    rfl
  have shape : m.start ++ after = "#define ".toList ++ m.name ++
      ' ' :: (List.replicate (m.width - m.name.length) ' ' ++ (m.body.text ++ after)) := by
    have spaces (count : Nat) : List.replicate count ' ' ++ " ".toList =
        ' ' :: List.replicate count ' ' := by
      rw [← List.replicate_succ, List.replicate_succ']
      rfl
    unfold start ljust
    rw [← List.cons_append, ← spaces]
    simp only [List.append_assoc]
  rw [shape, CSource.directive_define nonempty
    (fun c member => nameChar_of_identifierChar (chars c member)), trim_blanks (blanks _)]

/-- Without a comment the macro stands for its own text. -/
theorem Macro.expansion_bare (bare : m.comment = none) : m.expansion = m.body.text := by
  obtain ⟨starts, ends⟩ := m.body.text_ends
  rw [expansion, residue, bare]
  exact CSource.trim_within [] "  ".toList (CSource.forall_of_all rfl)
    (CSource.forall_of_all (by decide)) starts ends

/-- The line of a macro is read as its definition and what its comment brings in. -/
theorem Macro.reads_line (named : isIdentifier m.name = true) (spaced : m.Spaced) :
    Reads (m.line ++ ['\n']) m.read := by
  have quiet := Macro.start_quiet named
  cases comment : m.comment with
  | none =>
      have bare : m.line = m.start := by
        rw [line, comment]
        exact List.append_nil _
      have body : CSource.trim m.body.text = m.expansion := by
        obtain ⟨starts, ends⟩ := m.body.text_ends
        have alone := CSource.trim_within [] [] (CSource.forall_of_all rfl)
          (CSource.forall_of_all rfl) starts ends
        rw [List.append_nil] at alone
        exact alone.trans (Macro.expansion_bare comment).symm
      rw [bare]
      refine ⟨CSource.whole_line quiet, ?_⟩
      have found := Macro.directive_start named []
      rw [List.append_nil, List.append_nil, body] at found
      rw [directives, CSource.logicalLines_line quiet]
      simp [CSource.directivesOf, found, read, broughtIn, comment]
  | some text =>
      obtain ⟨text, rfl⟩ := spaced text comment
      have blanks : ∀ c ∈ m.start ++ "  ".toList, Quiet c :=
        List.forall_mem_append.mpr ⟨quiet, CSource.forall_of_all (by decide)⟩
      have shape : m.line ++ ['\n'] = (m.start ++ "  ".toList) ++
          CSource.commented (text ++ [' ']) := by
        rw [line, comment]
        simp [CSource.commented]
      rw [shape]
      refine ⟨CSource.whole_commented _ text, ?_⟩
      rw [CSource.directives_commented blanks, List.append_assoc, Macro.directive_start named]
      simp [read, expansion, residue, broughtIn, comment]

/-- The macro stands for a constant when its comment leaves nothing and its own text is one. -/
theorem Macro.constantOf_expansion (value : Int) :
    constantOf m.expansion = some value ↔
      m.residue.all CSource.isBlank = true ∧ constantOf m.body.text = some value := by
  obtain ⟨starts, ends⟩ := m.body.text_ends
  rw [List.all_eq_true]
  by_cases blanks : ∀ c ∈ m.residue, CSource.isBlank c = true
  · have after : ∀ c ∈ "  ".toList ++ m.residue, CSource.isBlank c = true :=
      List.forall_mem_append.mpr ⟨CSource.forall_of_all (by decide), blanks⟩
    have body : m.expansion = m.body.text :=
      CSource.trim_within [] _ (CSource.forall_of_all rfl) after starts ends
    rw [body]
    exact (and_iff_right blanks).symm
  · have more : ¬ ∀ c ∈ ' ' :: m.residue, CSource.isBlank c = true :=
      fun all => blanks (fun c member => all c (List.mem_cons_of_mem _ member))
    have blank : ' ' ∈ m.expansion :=
      CSource.blank_mem_trim [] _ (CSource.forall_of_all rfl) starts more
    constructor
    · intro read
      exact absurd blank (constantOf_unblank read)
    · intro both
      exact absurd both.1 blanks

end Lines

/-! ### Sections -/

theorem join_newLined (lines : List Text) : join '\n' (lines ++ [[]]) = newLined lines := by
  induction lines with
  | nil => rfl
  | cons line lines inductionHypothesis =>
      unfold join at inductionHypothesis ⊢
      rw [List.cons_append, List.intercalate_cons_of_ne_nil (by simp), inductionHypothesis]
      rfl

theorem reads_blank : Reads ([] ++ ['\n']) [] := ⟨CSource.whole_line (by simp), rfl⟩

/-- The comment has no `*/` in it. -/
def Unpaired (text : String) : Prop := ¬ "*/".toList <:+: CSource.prepare text.toList

theorem unpaired_literal {chars : Text} (closed : ¬ "*/".toList <:+: CSource.prepare chars) :
    Unpaired (String.ofList chars) := by
  unfold Unpaired
  rwa [show (String.ofList chars).toList = chars from String.toList_ofList]

theorem reads_commentLine {text : String} (closed : Unpaired text) :
    Reads (commentLine text ++ ['\n']) [] := by
  have ended : commentLine text ++ ['\n'] = "/*".toList ++ text.toList ++ " */\n".toList :=
    List.append_assoc _ _ _
  rw [ended]
  exact CSource.reads_comment closed

theorem reads_rule : Reads (ruleLine ++ ['\n']) [] :=
  reads_commentLine (unpaired_literal (by decide))

/-- The title of a section behind its first line. -/
theorem reads_titleTail {title : String} (closed : Unpaired title) :
    Reads (newLined (sectionTitle title).tail) [] :=
  (reads_commentLine closed).cons (reads_rule.cons (reads_blank.cons CSource.reads_nil))

theorem reads_title {title : String} (closed : Unpaired title) :
    Reads (newLined (sectionTitle title)) [] :=
  reads_rule.cons (reads_titleTail closed)

/-- The lines of macros, with a blank line behind them. -/
theorem reads_macros {macros : List Macro} (named : ∀ m ∈ macros, isIdentifier m.name = true)
    (spaced : ∀ m ∈ macros, m.Spaced) :
    Reads (newLined (macros.map Macro.line ++ [[]])) (macros.flatMap Macro.read) := by
  rw [CSource.newLined_append, ← List.append_nil (macros.flatMap Macro.read)]
  have lines := CSource.reads_map
    (fun m member => Macro.reads_line (named m member) (spaced m member))
  exact lines.append (reads_blank.cons CSource.reads_nil)

theorem docComment_spaced {m : Macro} {text : Text} (comment : m.comment = some (docComment text)) :
    m.Spaced := by
  intro other same
  rw [comment, Option.some.injEq] at same
  exact ⟨_, same.symm⟩

theorem bare_spaced {m : Macro} (comment : m.comment = none) : m.Spaced := by
  intro other same
  rw [comment] at same
  cases same

/-- The macros of a layout have no comment. -/
theorem layoutMacros_bare {layout : HkLayout} : ∀ m ∈ layoutMacros layout, m.comment = none := by
  intro m made
  simp only [layoutMacros, List.mem_cons, List.not_mem_nil, or_false] at made
  rcases made with rfl | rfl | rfl <;> rfl

/-- The macros of a telecommand. -/
def tcMacros (py : Python F) (tc : Telecommand) : List Macro :=
  [tcApidMacro py tc, tcSvcMacro py tc, tcSubsvcMacro py tc]

theorem tcMacros_bare {tc : Telecommand} : ∀ m ∈ tcMacros py tc, m.comment = none := by
  intro m made
  simp only [tcMacros, List.mem_cons, List.not_mem_nil, or_false] at made
  rcases made with rfl | rfl | rfl <;> rfl

/-! ### Tables -/

/-- The macros of the safety tables. -/
def tableNames : List Text :=
  ["SRDB_SAFE_TRIGGER_COUNT".toList, "SRDB_SAFE_TRIGGER_IDS".toList,
    "SRDB_SAFE_TC_COUNT".toList, "SRDB_SAFE_TC_WHITELIST".toList]

/-- The directives define names of the tables alone. -/
def TablesOnly (found : List Directive) : Prop :=
  ∀ directive ∈ found, ∃ name ∈ tableNames, ∃ body, directive = .define name body

theorem TablesOnly.append {found more : List Directive} (tables : TablesOnly found)
    (other : TablesOnly more) : TablesOnly (found ++ more) :=
  List.forall_mem_append.mpr ⟨tables, other⟩

theorem reads_table {name body : Text} (table : name ∈ tableNames)
    (quiet : ∀ c ∈ body, Quiet c) :
    Reads (tableLine name body ++ ['\n']) [.define name (CSource.trim (' ' :: body))] := by
  have identifiers : ∀ name ∈ tableNames, isIdentifier name = true := by decide
  obtain ⟨nonempty, chars⟩ := identifier_chars (identifiers name table)
  exact CSource.reads_define nonempty
    (fun c member => nameChar_of_identifierChar (chars c member))
    (fun c member => quiet_of_identifierChar (chars c member))
    (List.forall_mem_cons.mpr ⟨by decide, quiet⟩)

/-- A section with the length of a list and, when it is not empty, the list. -/
theorem reads_tableSection {title note : String} (titleClosed : Unpaired title)
    (noteClosed : Unpaired note) {countName listName count list : Text}
    (countTable : countName ∈ tableNames) (listTable : listName ∈ tableNames)
    (quietCount : ∀ c ∈ count, Quiet c) (quietList : ∀ c ∈ list, Quiet c) (empty : Bool) :
    ∃ found, TablesOnly found ∧
      Reads (newLined (sectionTitle title ++ [tableLine countName count, []] ++
        if empty then [] else [commentLine note, tableLine listName list, []])) found := by
  have first := (reads_title titleClosed).append ((reads_table countTable quietCount).cons
    (reads_blank.cons CSource.reads_nil))
  rw [← CSource.newLined_append] at first
  have only {name body : Text} (table : name ∈ tableNames) : TablesOnly [.define name body] :=
    List.forall_mem_singleton.mpr ⟨name, table, body, rfl⟩
  cases empty with
  | true =>
      rw [if_pos rfl, List.append_nil]
      exact ⟨_, only countTable, first⟩
  | false =>
      have second := (reads_commentLine noteClosed).cons ((reads_table listTable quietList).cons
        (reads_blank.cons CSource.reads_nil))
      rw [if_neg Bool.false_ne_true, CSource.newLined_append]
      exact ⟨_, (only countTable).append (only listTable), first.append second⟩

theorem reads_safeTriggers (safeIds : List Int) :
    ∃ found, TablesOnly found ∧ Reads (newLined (safeTriggerLines safeIds)) found := by
  have ids : ∀ id ∈ safeIds.map (unsignedHex 4), ∀ c ∈ id, Quiet c :=
    List.forall_mem_map.mpr (fun id _ => unsignedHex_quiet 4 id)
  exact reads_tableSection (unpaired_literal (by decide))
    (unpaired_literal (by decide)) (by simp [tableNames]) (by simp [tableNames])
    (unsigned_quiet safeIds.length) (braced_quiet ids) safeIds.isEmpty

set_option maxRecDepth 1000 in
theorem reads_safeTcs (safeTcs : List (Int × Int)) :
    ∃ found, TablesOnly found ∧ Reads (newLined (safeTcLines safeTcs)) found := by
  have pairs : ∀ item ∈ safeTcs.map (fun pair =>
      "\x7b".toList ++ unsigned pair.1 ++ ", ".toList ++ unsigned pair.2 ++ "\x7d".toList),
      ∀ c ∈ item, Quiet c := by
    rw [List.forall_mem_map]
    intro pair _
    simp only [List.forall_mem_append]
    exact ⟨⟨⟨⟨CSource.forall_of_all (by decide), unsigned_quiet pair.1⟩,
      CSource.forall_of_all (by decide)⟩, unsigned_quiet pair.2⟩, CSource.forall_of_all (by decide)⟩
  exact reads_tableSection (unpaired_literal (by decide))
    (unpaired_literal (by decide)) (by simp [tableNames]) (by simp [tableNames])
    (unsigned_quiet safeTcs.length) (braced_quiet pairs) safeTcs.isEmpty

/-! ### The header -/

def guardName : Text := "OBSW_SRDB_GENERATED_H".toList

def ifndefGuard : Directive := .other "ifndef".toList guardName

/-- The directives of `guardLines`. -/
def openingDirectives : List Directive :=
  [ifndefGuard, .define guardName [], .other "include".toList "<stdint.h>".toList]

def endif : Directive := .other "endif".toList []

/-- The text of the comment that the spacecraft name is in. -/
def fileText (s : Spacecraft) : Text := newLined (fileComment s)

/-- The text from the spacecraft name to the end of the next comment. -/
def nameText (s : Spacecraft) : Text := newLined (missionLines s ++ [ruleLine])

theorem reads_file (s : Spacecraft) : Reads (fileText s) (directives (fileText s)) := by
  have ended : fileText s = newLined (fileComment s).dropLast ++ " */\n".toList := by
    rw [fileText, ← List.dropLast_concat_getLast (l := fileComment s) (by simp [fileComment]),
      CSource.newLined_append]
    rfl
  refine ⟨?_, rfl⟩
  rw [ended]
  exact CSource.whole_closing _

theorem newLined_commentLine (text : String) :
    newLined [commentLine text] = "/*".toList ++ text.toList ++ " */\n".toList := by
  simp only [newLined, commentLine, List.flatMap_cons, List.flatMap_nil, List.append_assoc,
    List.append_nil]
  rfl

theorem reads_name (s : Spacecraft) : Reads (nameText s) (directives (nameText s)) := by
  refine ⟨?_, rfl⟩
  rw [nameText, CSource.newLined_append, ruleLine, newLined_commentLine, ← List.append_assoc]
  exact CSource.whole_closing _

theorem reads_guard : Reads (newLined guardLines) openingDirectives := by
  have ifndef : Reads ("#ifndef OBSW_SRDB_GENERATED_H".toList ++ ['\n']) [ifndefGuard] :=
    ⟨CSource.whole_line (CSource.forall_of_all (by decide)), rfl⟩
  have guard : Reads ("#define OBSW_SRDB_GENERATED_H".toList ++ ['\n']) [.define guardName []] :=
    ⟨CSource.whole_line (CSource.forall_of_all (by decide)), rfl⟩
  have stdint : Reads ("#include <stdint.h>".toList ++ ['\n'])
      [.other "include".toList "<stdint.h>".toList] :=
    ⟨CSource.whole_line (CSource.forall_of_all (by decide)), rfl⟩
  exact ifndef.cons (guard.cons (reads_blank.cons (stdint.cons
    (reads_blank.cons CSource.reads_nil))))

theorem reads_end : Reads (newLined endLines) [endif] := by
  have whole : Whole ("#endif /* OBSW_SRDB_GENERATED_H".toList ++ " */\n".toList) :=
    CSource.whole_closing _
  exact ⟨whole, rfl⟩

section Records

variable {db : SRDB py} {layouts : List HkLayout}

theorem reads_parameters
    (named : ∀ p ∈ db.parameters, isIdentifier (paramMacro py p.fields).name = true) :
    Reads (newLined (parameterLines db).tail)
      ((db.parameters.map (fun p => paramMacro py p.fields)).flatMap Macro.read) := by
  have macros := reads_macros (List.forall_mem_map.mpr named)
    (List.forall_mem_map.mpr (fun p _ => docComment_spaced rfl))
  rw [List.map_map] at macros
  have shape : (parameterLines db).tail = (sectionTitle _).tail ++
      (db.parameters.map (Macro.line ∘ fun p => paramMacro py p.fields) ++ [[]]) :=
    List.append_assoc _ _ _
  rw [shape, CSource.newLined_append]
  exact (reads_titleTail (unpaired_literal (by decide))).append macros

theorem flatMap_filter_of_nil {α β : Type} {keep : α → Bool} {f : α → List β} (items : List α)
    (empty : ∀ item, keep item = false → f item = []) :
    (items.filter keep).flatMap f = items.flatMap f := by
  induction items with
  | nil => rfl
  | cons item items inductionHypothesis =>
      cases kept : keep item with
      | true => rw [List.filter_cons_of_pos kept, List.flatMap_cons, inductionHypothesis,
          List.flatMap_cons]
      | false => rw [List.filter_cons_of_neg (by simp [kept]), inductionHypothesis,
          List.flatMap_cons, empty item kept, List.nil_append]

theorem getD_of_not_filled {α : Type} {list : Option (List α)} (empty : isFilled list = false) :
    list.getD [] = [] := by
  unfold isFilled at empty
  split at empty
  · cases empty
  · rename_i notFilled
    rcases list with _ | _ | ⟨first, rest⟩
    · rfl
    · rfl
    · exact absurd rfl (notFilled first rest)

/-- The macros of the enumeration of a parameter. -/
def enumMacros (py : Python F) (p : Parameter F) : List Macro :=
  (p.enumeration.getD []).map (fun entry => enumMacro py p entry)

theorem reads_enumerations (named : ∀ row ∈ db.enumerations,
      isIdentifier (enumMacro py row.1 row.2).name = true) :
    Reads (newLined (enumerationLines db))
      ((db.enumerations.map (fun row => enumMacro py row.1 row.2)).flatMap Macro.read) := by
  have rows : db.enumerations.map (fun row => enumMacro py row.1 row.2) =
      (db.parameters.filter (fun p => isFilled p.fields.enumeration)).flatMap
        (fun p => enumMacros py p.fields) := by
    rw [flatMap_filter_of_nil _ (fun p empty => by
      rw [enumMacros, getD_of_not_filled empty, List.map_nil])]
    unfold SRDB.enumerations
    rw [List.map_flatMap]
    simp only [List.map_map]
    rfl
  have each : ∀ p ∈ db.parameters.filter (fun p => isFilled p.fields.enumeration),
      Reads (newLined ((enumMacros py p.fields).map Macro.line ++ [[]]))
        ((enumMacros py p.fields).flatMap Macro.read) := by
    intro p member
    apply reads_macros
    · unfold enumMacros
      rw [List.forall_mem_map]
      intro entry inEntries
      exact named (p.fields, entry) (List.mem_flatMap.mpr
        ⟨p, List.mem_of_mem_filter member, List.mem_map_of_mem inEntries⟩)
    · exact List.forall_mem_map.mpr (fun entry _ => bare_spaced rfl)
  have lines := CSource.reads_flatMap each
  rw [rows]
  unfold enumerationLines
  by_cases empty : (db.parameters.filter (fun p => isFilled p.fields.enumeration)).isEmpty = true
  · rw [if_pos empty, List.isEmpty_iff.mp empty]
    exact CSource.reads_nil
  · rw [if_neg empty, CSource.newLined_append, List.flatMap_assoc]
    simp only [enumMacros, List.map_map] at lines ⊢
    exact (reads_title (unpaired_literal (by decide))).append lines

theorem reads_section {title : String} (closed : Unpaired title)
    {macros : List Macro} (named : ∀ m ∈ macros, isIdentifier m.name = true)
    (spaced : ∀ m ∈ macros, m.Spaced) :
    Reads (newLined (sectionTitle title ++ macros.map Macro.line ++ [[]]))
      (macros.flatMap Macro.read) := by
  rw [List.append_assoc, CSource.newLined_append]
  exact (reads_title closed).append (reads_macros named spaced)

theorem reads_events
    (named : ∀ m ∈ db.events.map (fun e => eventMacro py e.fields), isIdentifier m.name = true) :
    Reads (newLined (eventLines db))
      ((db.events.map (fun e => eventMacro py e.fields)).flatMap Macro.read) := by
  show Reads (newLined (sectionTitle _ ++
    db.events.map (Macro.line ∘ fun e => eventMacro py e.fields) ++ [[]])) _
  rw [← List.map_map]
  exact reads_section (unpaired_literal (by decide)) named
    (List.forall_mem_map.mpr (fun e _ => docComment_spaced rfl))

theorem reads_hkSets
    (named : ∀ m ∈ db.hkSets.map (fun h => hkMacro py h.fields), isIdentifier m.name = true) :
    Reads (newLined (hkSetLines db))
      ((db.hkSets.map (fun h => hkMacro py h.fields)).flatMap Macro.read) := by
  show Reads (newLined (sectionTitle _ ++
    db.hkSets.map (Macro.line ∘ fun h => hkMacro py h.fields) ++ [[]])) _
  rw [← List.map_map]
  exact reads_section (unpaired_literal (by decide)) named
    (List.forall_mem_map.mpr (fun h _ => docComment_spaced rfl))

theorem reads_layouts (named : ∀ m ∈ layouts.flatMap layoutMacros, isIdentifier m.name = true) :
    Reads (newLined (layoutLines layouts)) ((layouts.flatMap layoutMacros).flatMap Macro.read) := by
  have spaced : ∀ m ∈ layouts.flatMap layoutMacros, m.Spaced := by
    intro m member
    obtain ⟨layout, _, made⟩ := List.mem_flatMap.mp member
    exact bare_spaced (layoutMacros_bare m made)
  unfold layoutLines
  rw [← List.map_flatMap]
  exact reads_section (unpaired_literal (by decide)) named spaced

theorem reads_telecommands
    (named : ∀ m ∈ db.telecommands.flatMap (fun tc => tcMacros py tc.fields),
      isIdentifier m.name = true) :
    Reads (newLined (telecommandLines db))
      ((db.telecommands.flatMap (fun tc => tcMacros py tc.fields)).flatMap Macro.read) := by
  have spaced : ∀ m ∈ db.telecommands.flatMap (fun tc => tcMacros py tc.fields), m.Spaced := by
    intro m member
    obtain ⟨tc, _, made⟩ := List.mem_flatMap.mp member
    exact bare_spaced (tcMacros_bare m made)
  show Reads (newLined (sectionTitle _ ++
    db.telecommands.flatMap (fun tc => (tcMacros py tc.fields).map Macro.line) ++ [[]])) _
  rw [← List.map_flatMap]
  exact reads_section (unpaired_literal (by decide)) named spaced

theorem reads_mission : Reads (newLined missionTitle) [] :=
  reads_title (unpaired_literal (by decide))

/-- The header is read as the comment of the file, the guard, the text with the spacecraft
name, and the definitions of the records and of the tables with what comments bring in. -/
theorem directives_header (named : ∀ m ∈ headerMacros db layouts, isIdentifier m.name = true) :
    ∃ rest tables,
      directives (join '\n' (headerLines db layouts ++ [[]])) =
        directives (fileText db.spacecraft.fields) ++ (openingDirectives ++ (rest ++ [endif])) ∧
      rest.Perm (directives (nameText db.spacecraft.fields) ++
        ((headerMacros db layouts).flatMap Macro.read ++ tables)) ∧
      TablesOnly tables := by
  have kinds : headerMacros db layouts =
      db.parameters.map (fun p => paramMacro py p.fields) ++
      db.enumerations.map (fun row => enumMacro py row.1 row.2) ++
      db.events.map (fun e => eventMacro py e.fields) ++
      db.hkSets.map (fun h => hkMacro py h.fields) ++ layouts.flatMap layoutMacros ++
      db.telecommands.flatMap (fun tc => tcMacros py tc.fields) := rfl
  rw [kinds] at named ⊢
  simp only [List.forall_mem_append] at named
  obtain ⟨⟨⟨⟨⟨parameters, enumerations⟩, events⟩, hkSets⟩, sizes⟩, telecommands⟩ := named
  obtain ⟨triggers, triggerTables, safeTriggers⟩ := reads_safeTriggers db.safeTriggerEventIds
  obtain ⟨tcs, tcTables, safeTcs⟩ := reads_safeTcs db.safeTcWhitelist
  have body := (reads_name db.spacecraft.fields).append
    ((reads_parameters (List.forall_mem_map.mp parameters)).append
      ((reads_enumerations (List.forall_mem_map.mp enumerations)).append
        ((reads_events events).append ((reads_hkSets hkSets).append ((reads_layouts sizes).append
          (safeTriggers.append (safeTcs.append (reads_telecommands telecommands))))))))
  have whole := (reads_file db.spacecraft.fields).append
    (reads_guard.append (reads_mission.append (body.append reads_end)))
  have text : join '\n' (headerLines db layouts ++ [[]]) =
      fileText db.spacecraft.fields ++ (newLined guardLines ++ (newLined missionTitle ++
        ((nameText db.spacecraft.fields ++ (newLined (parameterLines db).tail ++
          (newLined (enumerationLines db) ++ (newLined (eventLines db) ++
            (newLined (hkSetLines db) ++ (newLined (layoutLines layouts) ++
              (newLined (safeTriggerLines db.safeTriggerEventIds) ++
                (newLined (safeTcLines db.safeTcWhitelist) ++
                  newLined (telecommandLines db))))))))) ++ newLined endLines))) := by
    have ruled : newLined (parameterLines db) =
        newLined [ruleLine] ++ newLined (parameterLines db).tail := by
      rw [← CSource.newLined_append]
      rfl
    rw [join_newLined]
    simp only [headerLines, nameText, fileText, CSource.newLined_append, ruled, List.append_assoc]
  refine ⟨_, triggers ++ tcs, (congrArg directives text).trans whole.directives_eq, ?_,
    triggerTables.append tcTables⟩
  simp only [List.flatMap_append, List.append_assoc, List.perm_append_left_iff]
  rw [← List.append_assoc triggers]
  exact List.perm_append_comm

end Records

end Openobsw.Srdb
