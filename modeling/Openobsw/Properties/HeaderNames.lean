import Openobsw.Lib.Names
import Openobsw.Srdb.Macros

/-!
Owns the names of the macros in the generated C header: when they are distinct, and when
they are identifiers.
-/

namespace Openobsw.Srdb

open Openobsw.Lib.Names

variable {F : Type} {py : Python F}

/-! ### Names of the records -/

/-- The names of the database that macros are made of are distinct within each kind, and
no set is named after the layout of another. -/
structure NamesApart (db : SRDB py) : Prop where
  parameters : (db.parameters.map (fun p => py.upper p.fields.name)).Nodup
  enumerations : (db.enumerations.map (fun row =>
    py.upper row.1.name ++ "_".toList ++ enumLabel row.2.label)).Nodup
  events : (db.events.map (fun e => py.upper e.fields.name)).Nodup
  hkSets : (db.hkSets.map (fun h => py.upper h.fields.name)).Nodup
  layouts : ∀ h ∈ db.hkSets, ∀ other ∈ db.hkSets, ∀ suffix ∈ layoutSuffixes,
    py.upper h.fields.name ≠ py.upper other.fields.name ++ suffix
  telecommands : (db.telecommands.map (fun tc => py.upper tc.fields.name)).Nodup

/-! ### Labels -/

theorem toUpper_of_code :
    ∀ code < 123, (Char.ofNat code).isAlphanum = true →
      (Char.ofNat code).toUpper.isAlphanum = true := by
  decide

theorem isAlphanum_toUpper {c : Char} (alphanum : c.isAlphanum = true) :
    c.toUpper.isAlphanum = true := by
  have bounds : ((decide (c.val ≥ 65 ∧ c.val ≤ 90) ||
      decide (c.val ≥ 97) && decide (c.val ≤ 122)) ||
        decide (c.val ≥ 48) && decide (c.val ≤ 57)) = true := alphanum
  simp only [Bool.or_eq_true, Bool.and_eq_true, decide_eq_true_eq, ge_iff_le,
    UInt32.le_iff_toNat_le, UInt32.reduceToNat] at bounds
  have small : c.toNat < 123 := by
    show c.val.toNat < 123
    omega
  have upper := toUpper_of_code c.toNat small
  rw [Char.ofNat_toNat] at upper
  exact upper alphanum

theorem replaceRuns_identifierChars (inRun : Bool) (text : Text) :
    ∀ c ∈ replaceRuns inRun text, isIdentifierChar c = true := by
  induction text generalizing inRun with
  | nil => simp [replaceRuns]
  | cons c rest inductionHypothesis =>
      unfold replaceRuns
      split
      · rename_i alphanum
        exact List.forall_mem_cons.mpr
          ⟨by simp [isIdentifierChar, alphanum], inductionHypothesis false⟩
      · split
        · exact inductionHypothesis true
        · exact List.forall_mem_cons.mpr ⟨rfl, inductionHypothesis true⟩

theorem mem_of_mem_stripUnderscores {text : Text} {c : Char}
    (member : c ∈ stripUnderscores text) : c ∈ text := by
  unfold stripUnderscores at member
  have inFirst := (List.dropWhile_suffix _).subset (List.mem_reverse.mp member)
  exact (List.dropWhile_suffix _).subset (List.mem_reverse.mp inFirst)

/-- A label has nothing but characters of identifiers. -/
theorem enumLabel_identifierChars (label : Text) :
    (enumLabel label).all isIdentifierChar = true := by
  apply List.all_eq_true.mpr
  intro upper member
  obtain ⟨c, inStripped, rfl⟩ := List.mem_map.mp member
  have plain := replaceRuns_identifierChars false label c (mem_of_mem_stripUnderscores inStripped)
  unfold isIdentifierChar at plain ⊢
  rcases (Bool.or_eq_true _ _).mp plain with alphanum | underscore
  · rw [isAlphanum_toUpper alphanum, Bool.true_or]
  · rw [of_decide_eq_true underscore]
    decide

/-! ### Names of the macros -/

def hkNames (db : SRDB py) : List Text := db.hkSets.map (fun h => (hkMacro py h.fields).name)

def tcPrefixes (db : SRDB py) : List Text := db.telecommands.map (fun tc => tcPrefix py tc.fields)

/-- The names of the macros by the first characters that tell the kinds apart. -/
def macroSections (db : SRDB py) : List (Text × List Text) :=
  [("SRDB_PA".toList, db.parameters.map (fun p => (paramMacro py p.fields).name)),
    ("SRDB_EN".toList, db.enumerations.map (fun row => (enumMacro py row.1 row.2).name)),
    ("SRDB_EV".toList, db.events.map (fun e => (eventMacro py e.fields).name)),
    ("SRDB_HK".toList, hkNames db ++ withSuffixes layoutSuffixes (hkNames db)),
    ("SRDB_TC".toList, withSuffixes tcSuffixes (tcPrefixes db))]

/-- The names of the macros that the records of the database are reached by. -/
def recordNames (db : SRDB py) : List Text := (macroSections db).flatMap Prod.snd

theorem hkLayout_prefix {db : SRDB py} {h : HKSet} {layout : HkLayout}
    (made : hkLayout db h = some layout) : layout.macroPrefix = (hkMacro py h).name := by
  obtain ⟨sizes, _, same⟩ := Option.bind_eq_some_iff.mp made
  rw [← Option.some.inj same]
  rfl

theorem layout_prefixes {db : SRDB py} {layouts : List HkLayout}
    (generated : generateHeader db = some layouts) :
    layouts.map (fun layout => layout.macroPrefix) = hkNames db := by
  unfold generateHeader at generated
  split at generated
  · have each := Lib.Tables.mapM_eq_some_iff.mp generated
    clear generated
    unfold hkNames
    generalize db.hkSets = sets at each ⊢
    induction each with
    | nil => rfl
    | cons made _ inductionHypothesis =>
        rw [List.map_cons, List.map_cons, inductionHypothesis, hkLayout_prefix made]
  · cases generated

theorem headerMacros_names {db : SRDB py} {layouts : List HkLayout}
    (generated : generateHeader db = some layouts) :
    (headerMacros db layouts).map Macro.name = recordNames db := by
  have layoutNames : (layouts.flatMap layoutMacros).map Macro.name =
      withSuffixes layoutSuffixes (hkNames db) := by
    rw [← layout_prefixes generated]
    unfold withSuffixes
    rw [List.map_flatMap, List.flatMap_map]
    rfl
  have tcNames : (db.telecommands.flatMap fun tc => [tcApidMacro py tc.fields,
      tcSvcMacro py tc.fields, tcSubsvcMacro py tc.fields]).map Macro.name =
        withSuffixes tcSuffixes (tcPrefixes db) := by
    unfold withSuffixes tcPrefixes
    rw [List.map_flatMap, List.flatMap_map]
    rfl
  unfold headerMacros
  rw [List.map_append, List.map_append, layoutNames, tcNames]
  simp [recordNames, macroSections, hkNames, Function.comp_def]

theorem macroSections_tagged (db : SRDB py) :
    ∀ part ∈ macroSections db, ∀ name ∈ part.2, name.take 7 = part.1 := by
  simp only [macroSections, List.forall_mem_cons, List.forall_mem_map]
  refine ⟨fun _ _ => rfl, fun _ _ => rfl, fun _ _ => rfl, ?_, ?_, by simp⟩
  · intro name member
    rcases List.mem_append.mp member with inSets | inLayouts
    · obtain ⟨h, _, rfl⟩ := List.mem_map.mp inSets
      rfl
    · obtain ⟨stem, inSets, suffix, _, rfl⟩ := mem_withSuffixes.mp inLayouts
      obtain ⟨h, _, rfl⟩ := List.mem_map.mp inSets
      rfl
  · intro name member
    obtain ⟨stem, inCommands, suffix, _, rfl⟩ := mem_withSuffixes.mp member
    obtain ⟨tc, _, rfl⟩ := List.mem_map.mp inCommands
    rfl

/-- Names with one prefix are distinct when what follows it is. -/
theorem nodup_prefixed {ι : Type} (start : Text) (rest : ι → Text) (items : List ι) :
    (items.map (fun item => start ++ rest item)).Nodup ↔ (items.map rest).Nodup := by
  have same : items.map (fun item => start ++ rest item) =
      (items.map rest).map (fun text => start ++ text) := by
    rw [List.map_map]
    rfl
  rw [same]
  exact List.nodup_map_iff (List.append_right_injective start)

/-- A set has the name of a layout macro when its upper-case name is that of another
set with the suffix. -/
theorem hkNames_disjoint_iff (db : SRDB py) :
    (∀ name ∈ hkNames db, ∀ other ∈ withSuffixes layoutSuffixes (hkNames db), name ≠ other) ↔
      ∀ h ∈ db.hkSets, ∀ other ∈ db.hkSets, ∀ suffix ∈ layoutSuffixes,
        py.upper h.fields.name ≠ py.upper other.fields.name ++ suffix := by
  constructor
  · intro apart h inSets other otherIn suffix inSuffixes same
    refine apart _ (List.mem_map_of_mem inSets) _
      (mem_withSuffixes.mpr ⟨_, List.mem_map_of_mem otherIn, suffix, inSuffixes, rfl⟩) ?_
    show "SRDB_HK_".toList ++ py.upper h.fields.name =
      "SRDB_HK_".toList ++ py.upper other.fields.name ++ suffix
    rw [same, List.append_assoc]
  · intro apart name inNames other inLayouts same
    obtain ⟨h, inSets, rfl⟩ := List.mem_map.mp inNames
    obtain ⟨stem, inStems, suffix, inSuffixes, rfl⟩ := mem_withSuffixes.mp inLayouts
    obtain ⟨otherSet, otherIn, rfl⟩ := List.mem_map.mp inStems
    have joined : "SRDB_HK_".toList ++ py.upper h.fields.name =
        "SRDB_HK_".toList ++ py.upper otherSet.fields.name ++ suffix := same
    rw [List.append_assoc] at joined
    exact apart h inSets otherSet otherIn suffix inSuffixes (List.append_cancel_left joined)

theorem recordNames_nodup_iff (db : SRDB py) : (recordNames db).Nodup ↔ NamesApart db := by
  have parameters := nodup_prefixed "SRDB_PARAM_".toList (fun p => py.upper (Validated.fields p).name)
    db.parameters
  have enumerations := nodup_prefixed "SRDB_ENUM_".toList
    (fun row => py.upper row.1.name ++ "_".toList ++ enumLabel row.2.label) db.enumerations
  have events := nodup_prefixed "SRDB_EVENT_".toList (fun e => py.upper (Validated.fields e).name)
    db.events
  have hkSets := nodup_prefixed "SRDB_HK_".toList (fun h => py.upper (Validated.fields h).name)
    db.hkSets
  have telecommands := nodup_prefixed "SRDB_TC_".toList
    (fun tc => py.upper (Validated.fields tc).name) db.telecommands
  rw [recordNames, nodup_sections (macroSections_tagged db) (by
    simp only [macroSections, List.map_cons, List.map_nil]
    decide)]
  simp only [macroSections, List.forall_mem_cons, List.nodup_append,
    layoutSuffixes_separated.nodup_iff (by decide), tcSuffixes_separated.nodup_iff (by decide),
    hkNames_disjoint_iff]
  constructor
  · rintro ⟨p, n, e, ⟨h, _, l⟩, t, _⟩
    exact ⟨parameters.mp p, enumerations.mp n, events.mp e, hkSets.mp h, l, telecommands.mp t⟩
  · intro apart
    refine ⟨parameters.mpr apart.parameters, enumerations.mpr apart.enumerations,
      events.mpr apart.events, ⟨hkSets.mpr apart.hkSets, hkSets.mpr apart.hkSets, apart.layouts⟩,
      telecommands.mpr apart.telecommands, by simp⟩

/-! ### Members -/

section Members

variable {db : SRDB py} {layouts : List HkLayout}

theorem paramMacro_mem {p : Validated (Parameter.validate py)} (member : p ∈ db.parameters) :
    paramMacro py p.fields ∈ headerMacros db layouts := by
  simp only [headerMacros, List.mem_append, List.mem_map]
  exact .inl (.inl (.inl (.inl (.inl ⟨p, member, rfl⟩))))

theorem enumMacro_mem {row : Parameter F × EnumEntry} (member : row ∈ db.enumerations) :
    enumMacro py row.1 row.2 ∈ headerMacros db layouts := by
  simp only [headerMacros, List.mem_append, List.mem_map]
  exact .inl (.inl (.inl (.inl (.inr ⟨row, member, rfl⟩))))

theorem eventMacro_mem {e : Validated Event.validate} (member : e ∈ db.events) :
    eventMacro py e.fields ∈ headerMacros db layouts := by
  simp only [headerMacros, List.mem_append, List.mem_map]
  exact .inl (.inl (.inl (.inr ⟨e, member, rfl⟩)))

theorem hkMacro_mem {h : Validated HKSet.validate} (member : h ∈ db.hkSets) :
    hkMacro py h.fields ∈ headerMacros db layouts := by
  simp only [headerMacros, List.mem_append, List.mem_map]
  exact .inl (.inl (.inr ⟨h, member, rfl⟩))

theorem tcMacros_mem {tc : Validated Telecommand.validate} (member : tc ∈ db.telecommands) :
    ∀ m ∈ [tcApidMacro py tc.fields, tcSvcMacro py tc.fields, tcSubsvcMacro py tc.fields],
      m ∈ headerMacros db layouts := by
  intro m made
  exact List.mem_append_right _ (List.mem_flatMap.mpr ⟨tc, member, made⟩)

end Members

/-! ### Identifiers -/

/-- The names of the macros are identifiers when the upper-case names of the records have
nothing but characters of identifiers. -/
theorem recordNames_identifiers_iff (db : SRDB py) :
    (∀ name ∈ recordNames db, isIdentifier name = true) ↔
      (∀ p ∈ db.parameters, (py.upper p.fields.name).all isIdentifierChar = true) ∧
      (∀ e ∈ db.events, (py.upper e.fields.name).all isIdentifierChar = true) ∧
      (∀ h ∈ db.hkSets, (py.upper h.fields.name).all isIdentifierChar = true) ∧
      ∀ tc ∈ db.telecommands, (py.upper tc.fields.name).all isIdentifierChar = true := by
  have layoutChars : ∀ suffix ∈ layoutSuffixes, suffix.all isIdentifierChar = true := by decide
  have tcChars : ∀ suffix ∈ tcSuffixes, suffix.all isIdentifierChar = true := by decide
  simp only [recordNames, macroSections, List.flatMap_cons, List.flatMap_nil, List.append_nil,
    List.forall_mem_append, List.forall_mem_map, hkNames]
  constructor
  · rintro ⟨parameters, _, events, ⟨hkSets, _⟩, telecommands⟩
    refine ⟨?_, ?_, ?_, ?_⟩
    · intro p member
      rw [← isIdentifier_append "SRDB_PARAM_".toList (by decide)]
      exact parameters p member
    · intro e member
      rw [← isIdentifier_append "SRDB_EVENT_".toList (by decide)]
      exact events e member
    · intro h member
      rw [← isIdentifier_append "SRDB_HK_".toList (by decide)]
      exact hkSets h member
    · intro tc member
      rw [← isIdentifier_stem "SRDB_TC_".toList "_SVC".toList (by decide) (by decide)]
      exact telecommands _ (mem_withSuffixes.mpr
        ⟨_, List.mem_map_of_mem member, "_SVC".toList, by decide, rfl⟩)
  · rintro ⟨parameters, events, hkSets, telecommands⟩
    refine ⟨?_, ?_, ?_, ⟨?_, ?_⟩, ?_⟩
    · intro p member
      exact (isIdentifier_append _ (by decide)).trans (parameters p member)
    · intro row member
      obtain ⟨p, inParameters, inRow⟩ := List.mem_flatMap.mp member
      obtain ⟨entry, _, rfl⟩ := List.mem_map.mp inRow
      refine (isIdentifier_append _ (by decide)).trans ?_
      rw [List.all_append, List.all_append, parameters p inParameters, enumLabel_identifierChars]
      rfl
    · intro e member
      exact (isIdentifier_append _ (by decide)).trans (events e member)
    · intro h member
      exact (isIdentifier_append _ (by decide)).trans (hkSets h member)
    · intro name member
      obtain ⟨stem, inSets, suffix, inSuffixes, rfl⟩ := mem_withSuffixes.mp member
      obtain ⟨h, inDb, rfl⟩ := List.mem_map.mp inSets
      exact (isIdentifier_stem _ suffix (by decide) (layoutChars suffix inSuffixes)).trans
        (hkSets h inDb)
    · intro name member
      obtain ⟨stem, inCommands, suffix, inSuffixes, rfl⟩ := mem_withSuffixes.mp member
      obtain ⟨tc, inDb, rfl⟩ := List.mem_map.mp inCommands
      exact (isIdentifier_stem _ suffix (by decide) (tcChars suffix inSuffixes)).trans
        (telecommands tc inDb)

end Openobsw.Srdb
