import Mathlib.Data.List.Nodup
import Openobsw.Srdb.CsvIo

/-!
Owns what holds of the cells of any table: which cell a field name selects, the items
joined in a cell, and that a table is read back row by row.
-/

namespace Openobsw.Srdb

open Openobsw.Lib.Csv

variable {F : Type} {α β : Type}

/-! ### Rows -/

/-- Under distinct field names, a name selects the cell at its place. -/
theorem item_dictRow {header row : Row} (distinct : header.Nodup) {index : Nat} {name : String}
    (place : header[index]? = some name.toList) :
    (dictRow header row).item name = some row[index]? := by
  obtain ⟨below, named⟩ := List.getElem?_eq_some_iff.mp place
  have member : (name.toList, row[index]?) ∈ (dictRow header row).reverse := by
    rw [List.mem_reverse]
    exact List.mem_mapIdx.mpr ⟨index, below, by rw [named]⟩
  obtain ⟨cell, found⟩ : ∃ cell, (dictRow header row).reverse.find?
      (fun cell => cell.1 = name.toList) = some cell :=
    Option.isSome_iff_exists.mp (List.find?_isSome.mpr ⟨_, member, decide_eq_true rfl⟩)
  have sameName : cell.1 = name.toList := by simpa using List.find?_some found
  obtain ⟨other, otherBelow, cellEq⟩ :=
    List.mem_mapIdx.mp (List.mem_reverse.mp (List.mem_of_find?_eq_some found))
  have otherNamed : header[other] = header[index] := by
    rw [named, ← sameName, ← cellEq]
  have sameIndex : other = index := (List.Nodup.getElem_inj_iff distinct).mp otherNamed
  unfold DictRow.item
  rw [found, ← cellEq, ← sameIndex]
  rfl

theorem text_dictRow {header row : Row} (distinct : header.Nodup) {index : Nat} {name : String}
    (place : header[index]? = some name.toList) :
    (dictRow header row).text name = row[index]? := by
  unfold DictRow.text
  rw [item_dictRow distinct place]
  rfl

/-! ### Items of a cell -/

/-- The length of joined items of the given lengths. -/
def joinedLength (lengths : List Nat) : Nat := lengths.sum + (lengths.length - 1)

theorem join_length (sep : Char) (items : List Text) :
    (join sep items).length = joinedLength (items.map List.length) := by
  unfold join joinedLength
  induction items with
  | nil => rfl
  | cons item rest inductionHypothesis =>
      cases rest with
      | nil => simp
      | cons next rest =>
          rw [List.intercalate_cons_cons, List.length_append, List.length_append,
            inductionHypothesis]
          simp
          omega

theorem join_ne_nil {sep : Char} {items : List Text} (nonempty : items ≠ [])
    (visible : ∀ item ∈ items, item ≠ []) : join sep items ≠ [] := by
  unfold join
  rcases items with _ | ⟨first, _ | ⟨next, rest⟩⟩
  · exact absurd rfl nonempty
  · simpa using visible first
  · rw [List.intercalate_cons_cons]
    simp

/-- Items without the separator, each read back, are read back from their cell. -/
theorem mapM_split_join {parse : Text → Option α} {text : α → Text} {items : List α}
    (nonempty : items ≠ []) (each : ∀ a ∈ items, parse (text a) = some a ∧ ';' ∉ text a) :
    (split ';' (join ';' (items.map text))).mapM parse = some items := by
  rw [split_join (by simpa using nonempty) (by simpa using fun a member => (each a member).2),
    List.mapM_map]
  have read := @Lib.Tables.mapM_eq_map α α (parse ∘ text) id items
    (fun a member => (each a member).1)
  rwa [List.map_id] at read

/-- Whatever a cell holds, what is read from it comes from items without a separator. -/
theorem of_mapM_split {parse : Text → Option α} {cell : Text} {items : List α}
    (read : (split ';' cell).mapM parse = some items) :
    items ≠ [] ∧ ∀ a ∈ items, ∃ item, ';' ∉ item ∧ parse item = some a := by
  constructor
  · rintro rfl
    exact List.splitOn_ne_nil ';' cell
      (List.forall₂_nil_right_iff.mp (Lib.Tables.mapM_eq_some_iff.mp read))
  · intro a member
    obtain ⟨item, inSplit, parsed⟩ := Lib.Tables.exists_of_mem_mapM read member
    exact ⟨item, not_mem_of_mem_split inSplit, parsed⟩

/-- Items come back from their cell exactly when each is a good one, where a parser makes
only good items of texts without the separator, and good items come back from theirs. -/
theorem parseItems_join_iff {parse : Text → Option α} {text : α → Text} {good : α → Prop}
    {items : List α} (visible : ∀ a, text a ≠ [])
    (sound : ∀ item a, ';' ∉ item → parse item = some a → good a)
    (complete : ∀ a, good a → parse (text a) = some a ∧ ';' ∉ text a) :
    parseItems parse (some (join ';' (items.map text))) = some items ↔ ∀ a ∈ items, good a := by
  by_cases empty : items = []
  · subst empty
    exact ⟨fun _ _ member => absurd member List.not_mem_nil, fun _ => rfl⟩
  have filled : isFilled (some (join ';' (items.map text))) = true := by
    obtain ⟨c, rest, joined⟩ := List.exists_cons_of_ne_nil
      (@join_ne_nil ';' (items.map text) (by simpa using empty) (by simpa using fun a _ => visible a))
    rw [joined]
    rfl
  unfold parseItems
  rw [if_pos filled, Option.getD_some]
  constructor
  · intro read a member
    obtain ⟨item, without, parsed⟩ := (of_mapM_split read).2 a member
    exact sound item a without parsed
  · exact fun each => mapM_split_join empty (fun a member => complete a (each a member))

theorem splitPair_iff {item name typeText : Text} :
    splitPair item = some (name, typeText) ↔
      item = name ++ ':' :: typeText ∧ ':' ∉ name ∧ ':' ∉ typeText := by
  constructor
  · intro pair
    unfold splitPair at pair
    split at pair
    · rename_i first second parts
      cases pair
      have whole : join ':' (split ':' item) = item := List.intercalate_splitOn ':'
      rw [parts] at whole
      have each : ∀ part ∈ [name, typeText], ':' ∉ part :=
        fun part member => not_mem_of_mem_split (parts ▸ member)
      exact ⟨by simpa [join] using whole.symm, each name (by simp), each typeText (by simp)⟩
    · cases pair
  · rintro ⟨rfl, withoutName, withoutType⟩
    have parts : split ':' (join ':' [name, typeText]) = [name, typeText] :=
      split_join (by simp) (by simp [withoutName, withoutType])
    have joined : join ':' [name, typeText] = name ++ ':' :: typeText := by simp [join]
    unfold splitPair
    rw [← joined, parts]

/-! ### Type names -/

theorem ParameterType.ofText_iff {text : Text} {type : ParameterType} :
    ParameterType.ofText text = some type ↔ text = type.value := by
  constructor
  · intro found
    unfold ParameterType.ofText at found
    have written : type.value = text := by simpa using List.find?_some found
    exact written.symm
  · rintro rfl
    cases type <;> rfl

theorem ParameterType.value_without (type : ParameterType) :
    ';' ∉ type.value ∧ ':' ∉ type.value ∧ '*' ∉ type.value := by
  cases type <;> decide

theorem Severity.ofText_value (severity : Severity) :
    Severity.ofText severity.value = some severity := by
  cases severity <;> rfl

/-! ### Tables -/

/-- A record comes back from its row: it can be written, its cells can be read, and what
they make is the same record. -/
def Returns (header : Row) (exportRow : α → Option Row) (importRow : DictRow → Option β)
    (same : α → β → Prop) (a : α) : Prop :=
  ∃ row, exportRow a = some row ∧ (∀ cell ∈ row, cell.length ≤ fieldSizeLimit) ∧
    ∃ b, importRow (dictRow header row) = some b ∧ same a b

/-- A table comes back exactly when each of its records does. -/
theorem table_returns_iff {header : Row} {exportRow : α → Option Row}
    {importRow : DictRow → Option β} {same : α → β → Prop}
    (headerShort : ∀ cell ∈ header, cell.length ≤ fieldSizeLimit)
    (visible : ∀ a row, exportRow a = some row → row ≠ []) (records : List α) :
    (∃ text, exportTable header exportRow records = some text ∧
      ∃ out, importTable importRow text = some out ∧ List.Forall₂ same records out) ↔
      ∀ a ∈ records, Returns header exportRow importRow same a := by
  have imported (rows : List Row) (written : records.mapM exportRow = some rows) :
      importTable importRow (write (header :: rows)) =
        if ∀ row ∈ rows, ∀ cell ∈ row, cell.length ≤ fieldSizeLimit then
          rows.mapM (fun row => importRow (dictRow header row)) else none := by
    have kept : rows.filter (fun row => row ≠ []) = rows := by
      rw [List.filter_eq_self]
      intro row member
      obtain ⟨a, _, rowEq⟩ := Lib.Tables.exists_of_mem_mapM written member
      exact decide_eq_true (visible a row rowEq)
    unfold importTable
    rw [read_write]
    by_cases short : ∀ row ∈ rows, ∀ cell ∈ row, cell.length ≤ fieldSizeLimit
    · rw [if_pos short, if_pos (List.forall_mem_cons.mpr ⟨headerShort, short⟩)]
      show (rows.filter (fun row => row ≠ [])).mapM _ = _
      rw [kept]
    · rw [if_neg short, if_neg (fun all => short (List.forall_mem_cons.mp all).2)]
      rfl
  constructor
  · rintro ⟨text, exported, out, importedOut, equal⟩
    obtain ⟨rows, written, rfl⟩ := Option.map_eq_some_iff.mp exported
    rw [imported rows written] at importedOut
    split at importedOut
    · rename_i short
      have writes := Lib.Tables.mapM_eq_some_iff.mp written
      have reads := Lib.Tables.mapM_eq_some_iff.mp importedOut
      clear imported exported written importedOut
      induction writes generalizing out with
      | nil => simp
      | cons first _ inductionHypothesis =>
          obtain ⟨b, tail, read, otherReads, rfl⟩ := List.forall₂_cons_left_iff.mp reads
          obtain ⟨sameFirst, otherEqual⟩ := List.forall₂_cons.mp equal
          obtain ⟨shortFirst, otherShort⟩ := List.forall_mem_cons.mp short
          exact List.forall_mem_cons.mpr ⟨⟨_, first, shortFirst, b, read, sameFirst⟩,
            inductionHypothesis tail otherEqual otherShort otherReads⟩
    · cases importedOut
  · intro each
    obtain ⟨rows, written, short, out, reads, equal⟩ : ∃ rows, records.mapM exportRow = some rows ∧
        (∀ row ∈ rows, ∀ cell ∈ row, cell.length ≤ fieldSizeLimit) ∧
        ∃ out, rows.mapM (fun row => importRow (dictRow header row)) = some out ∧
          List.Forall₂ same records out := by
      clear imported
      induction records with
      | nil => exact ⟨[], rfl, by simp, [], rfl, .nil⟩
      | cons a rest inductionHypothesis =>
          obtain ⟨⟨row, rowEq, shortRow, b, read, sameFirst⟩, others⟩ := List.forall_mem_cons.mp each
          obtain ⟨rows, written, short, out, reads, equal⟩ := inductionHypothesis others
          refine ⟨row :: rows, by rw [List.mapM_cons, rowEq, written]; rfl,
            List.forall_mem_cons.mpr ⟨shortRow, short⟩, b :: out, ?_, .cons sameFirst equal⟩
          rw [List.mapM_cons, read, reads]
          rfl
    refine ⟨write (header :: rows), by unfold exportTable; rw [written]; rfl, out, ?_, equal⟩
    rw [imported rows written, if_pos short, reads]

end Openobsw.Srdb
