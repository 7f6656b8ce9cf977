import Mathlib.Data.List.Basic

/-!
Owns comma-separated text: the writer that quotes a cell when it has to, the
reader as the character machine it is, and what the reader makes of the writer's
text, whatever the cells hold.
-/

namespace Openobsw.Lib.Csv

abbrev Cell := List Char

abbrev Row := List Cell

def isNewline (c : Char) : Bool := c == '\r' || c == '\n'

/-- The characters that a cell cannot hold unquoted. -/
def isSpecial (c : Char) : Bool := c == ',' || c == '"' || isNewline c

/-! ### Writer -/

/-- A quote inside a quoted cell is doubled. -/
def escape : Cell → List Char
  | [] => []
  | c :: rest => if c = '"' then '"' :: '"' :: escape rest else c :: escape rest

def quote (cell : Cell) : List Char := '"' :: (escape cell ++ ['"'])

def writeCell (cell : Cell) : List Char := if cell.any isSpecial then quote cell else cell

def writeCells : Row → List Char
  | [] => ['\r', '\n']
  | [cell] => writeCell cell ++ ['\r', '\n']
  | cell :: next :: more => writeCell cell ++ ',' :: writeCells (next :: more)

/-- A row of one empty cell is quoted, to be told apart from an empty row. -/
def writeRow (row : Row) : List Char :=
  if row = [[]] then quote [] ++ ['\r', '\n'] else writeCells row

def write : List Row → List Char
  | [] => []
  | row :: rest => writeRow row ++ write rest

/-! ### Reader -/

inductive Phase where
  | startRecord
  | startField
  | inField
  | inQuoted
  | quoteInQuoted
  | eatNewline
deriving DecidableEq, Repr

/-- The state of the reader: the field it is in and the fields of the record so far. -/
structure Reader where
  phase : Phase
  field : Cell
  fields : Row
deriving DecidableEq, Repr

def Reader.fresh : Reader := ⟨.startRecord, [], []⟩

def Reader.saveField (r : Reader) (next : Phase) : Reader :=
  ⟨next, [], r.fields ++ [r.field]⟩

/-- A field of `limit` characters takes no more. -/
def Reader.addChar (limit : Nat) (c : Char) (next : Phase) (r : Reader) : Option Reader :=
  if r.field.length ≥ limit then none
  else some { r with phase := next, field := r.field ++ [c] }

def Reader.startChar (limit : Nat) (c : Char) (r : Reader) : Option Reader :=
  if isNewline c then some (r.saveField .eatNewline)
  else if c = '"' then some { r with phase := .inQuoted }
  else if c = ',' then some (r.saveField .startField)
  else r.addChar limit c .inField

/-- One character of a line. -/
def Reader.char (limit : Nat) (c : Char) (r : Reader) : Option Reader :=
  match r.phase with
  | .startRecord =>
      if isNewline c then some { r with phase := .eatNewline } else r.startChar limit c
  | .startField => r.startChar limit c
  | .inField =>
      if isNewline c then some (r.saveField .eatNewline)
      else if c = ',' then some (r.saveField .startField)
      else r.addChar limit c .inField
  | .inQuoted =>
      if c = '"' then some { r with phase := .quoteInQuoted } else r.addChar limit c .inQuoted
  | .quoteInQuoted =>
      if c = '"' then r.addChar limit c .inQuoted
      else if c = ',' then some (r.saveField .startField)
      else if isNewline c then some (r.saveField .eatNewline)
      else r.addChar limit c .inField
  | .eatNewline => if isNewline c then some r else none

/-- The end of a line, which follows its last character. -/
def Reader.endOfLine (r : Reader) : Reader :=
  match r.phase with
  | .startRecord | .inQuoted => r
  | .eatNewline => { r with phase := .startRecord }
  | .startField | .inField | .quoteInQuoted => r.saveField .startRecord

/-- A line ends at a line feed, at a carriage return with or without one, and at the
end of the text. -/
def endsLine (c : Char) (rest : List Char) : Bool :=
  c == '\n' || (c == '\r' && rest.head? != some '\n') || rest.isEmpty

/-- The records of the text left, with the reader inside the first of them; nothing
when a character cannot be read. -/
def readFrom (limit : Nat) (r : Reader) : List Char → Option (List Row)
  | [] =>
      if r.field ≠ [] ∨ r.phase = .inQuoted then some [r.fields ++ [r.field]] else some []
  | c :: rest => do
      let r ← r.char limit c
      if endsLine c rest then
        if r.endOfLine.phase = .startRecord then do
          let rows ← readFrom limit .fresh rest
          return r.endOfLine.fields :: rows
        else readFrom limit r.endOfLine rest
      else readFrom limit r rest

def read (limit : Nat) (text : List Char) : Option (List Row) := readFrom limit .fresh text

/-! ### What the reader makes of written text -/

variable {limit : Nat} {fields : Row} {field cell : Cell} {tail rest : List Char}

/-- Inside a line, and inside a quoted cell, the reader goes on to the next character. -/
theorem readFrom_char {r : Reader} {c : Char} (after : Reader) (more : rest ≠ [])
    (read : r.char limit c = some after)
    (inside : isNewline c = false ∨ after.phase = .inQuoted) :
    readFrom limit r (c :: rest) = readFrom limit after rest := by
  have notLast : rest.isEmpty = false := by simpa using more
  simp only [readFrom, read, Option.bind_eq_bind, Option.bind_some]
  rcases inside with plain | quoted
  · have sameLine : endsLine c rest = false := by
      simp only [isNewline, Bool.or_eq_false_iff, beq_eq_false_iff_ne] at plain
      simp [endsLine, plain, notLast]
    simp [sameLine]
  · have still : after.endOfLine = after := by simp [Reader.endOfLine, quoted]
    simp [still, quoted]

theorem readFrom_refused {r : Reader} {c : Char} (refused : r.char limit c = none) :
    readFrom limit r (c :: rest) = none := by
  simp [readFrom, refused]

/-- The characters of an unquoted cell are taken one by one. -/
theorem readFrom_plain (more : tail ≠ []) (plain : cell.any isSpecial = false)
    (inside : field.length ≤ limit) :
    readFrom limit ⟨.inField, field, fields⟩ (cell ++ tail) =
      if field.length + cell.length ≤ limit then
        readFrom limit ⟨.inField, field ++ cell, fields⟩ tail
      else none := by
  induction cell generalizing field with
  | nil => simp [inside]
  | cons c cell inductionHypothesis =>
      obtain ⟨ordinary, plain⟩ : isSpecial c = false ∧ cell.any isSpecial = false := by
        simpa [List.any_cons] using plain
      obtain ⟨⟨notComma, _⟩, notNewline⟩ : (c ≠ ',' ∧ c ≠ '"') ∧ isNewline c = false := by
        simpa [isSpecial] using ordinary
      rw [List.cons_append, List.length_cons]
      by_cases full : field.length ≥ limit
      · rw [readFrom_refused (by simp [Reader.char, Reader.addChar, notNewline, notComma, full]),
          if_neg (by omega)]
      · rw [readFrom_char ⟨.inField, field ++ [c], fields⟩ (by simp [more])
            (by simp [Reader.char, Reader.addChar, notNewline, notComma, full]) (.inl notNewline),
          inductionHypothesis plain (by rw [List.length_append, List.length_singleton]; omega)]
        simp only [List.length_append, List.length_singleton, List.append_assoc,
          List.singleton_append]
        congr 1
        rw [Nat.add_assoc, Nat.add_comm 1]

/-- The characters of a quoted cell are taken one by one, line ends among them. -/
theorem readFrom_escape (more : tail ≠ []) (inside : field.length ≤ limit) :
    readFrom limit ⟨.inQuoted, field, fields⟩ (escape cell ++ tail) =
      if field.length + cell.length ≤ limit then
        readFrom limit ⟨.inQuoted, field ++ cell, fields⟩ tail
      else none := by
  induction cell generalizing field with
  | nil => simp [escape, inside]
  | cons c cell inductionHypothesis =>
      have step : readFrom limit ⟨.inQuoted, field, fields⟩ (escape (c :: cell) ++ tail) =
          if field.length ≥ limit then none
          else readFrom limit ⟨.inQuoted, field ++ [c], fields⟩ (escape cell ++ tail) := by
        have beyond : escape cell ++ tail ≠ [] := by simp [more]
        by_cases full : field.length ≥ limit
        · rw [if_pos full]
          rw [escape]
          split
          · rename_i isQuote
            subst isQuote
            rw [List.cons_append, List.cons_append,
              readFrom_char ⟨.quoteInQuoted, field, fields⟩ (by simp) rfl (.inl rfl)]
            exact readFrom_refused (by simp [Reader.char, Reader.addChar, full])
          · rename_i notQuote
            exact readFrom_refused (by simp [Reader.char, Reader.addChar, notQuote, full])
        · rw [if_neg full]
          rw [escape]
          split
          · rename_i isQuote
            subst isQuote
            rw [List.cons_append, List.cons_append,
              readFrom_char ⟨.quoteInQuoted, field, fields⟩ (by simp) rfl (.inl rfl)]
            refine readFrom_char ⟨.inQuoted, field ++ ['"'], fields⟩ beyond ?_ (.inr rfl)
            simp [Reader.char, Reader.addChar, full]
          · rename_i notQuote
            rw [List.cons_append]
            refine readFrom_char ⟨.inQuoted, field ++ [c], fields⟩ beyond ?_ (.inr rfl)
            simp [Reader.char, Reader.addChar, notQuote, full]
      rw [step, List.length_cons]
      by_cases full : field.length ≥ limit
      · rw [if_pos full, if_neg (by omega)]
      · rw [if_neg full, inductionHypothesis (by rw [List.length_append, List.length_singleton]; omega)]
        simp only [List.length_append, List.length_singleton, List.append_assoc,
          List.singleton_append]
        congr 1
        rw [Nat.add_assoc, Nat.add_comm 1]

/-- The reader has taken a whole cell and waits for what ends it. -/
def Reader.Holds (fields : Row) (cell : Cell) (r : Reader) : Prop :=
  r.fields = fields ∧ r.field = cell ∧
    (r.phase = .inField ∨ r.phase = .quoteInQuoted ∨ (cell = [] ∧ r.phase = .startField))

theorem Reader.Holds.comma {r : Reader} (holds : r.Holds fields cell) (more : rest ≠ []) :
    readFrom limit r (',' :: rest) = readFrom limit ⟨.startField, [], fields ++ [cell]⟩ rest := by
  obtain ⟨sameFields, sameCell, phase⟩ := holds
  apply readFrom_char _ more _ (.inl rfl)
  rcases phase with phase | phase | ⟨_, phase⟩ <;>
    simp [Reader.char, Reader.startChar, Reader.saveField, phase, sameFields, sameCell, isNewline]

theorem readFrom_newline {r : Reader} {row : Row}
    (saved : r.char limit '\r' = some ⟨.eatNewline, [], row⟩) :
    readFrom limit r ('\r' :: '\n' :: rest) =
      (readFrom limit .fresh rest).map (fun rows => row :: rows) := by
  simp only [readFrom, saved, Option.bind_eq_bind, Option.bind_some]
  cases readFrom limit .fresh rest <;>
    simp [endsLine, Reader.char, Reader.endOfLine, isNewline]

theorem Reader.Holds.newline {r : Reader} (holds : r.Holds fields cell) :
    readFrom limit r ('\r' :: '\n' :: rest) =
      (readFrom limit .fresh rest).map (fun rows => (fields ++ [cell]) :: rows) := by
  obtain ⟨sameFields, sameCell, phase⟩ := holds
  apply readFrom_newline
  rcases phase with phase | phase | ⟨_, phase⟩ <;>
    simp [Reader.char, Reader.startChar, Reader.saveField, phase, sameFields, sameCell, isNewline]

/-- The quoted form of any cell is read back to it, when it is short enough. -/
theorem readFrom_quote (more : tail ≠ []) :
    readFrom limit ⟨.startField, [], fields⟩ (quote cell ++ tail) =
      if cell.length ≤ limit then readFrom limit ⟨.quoteInQuoted, cell, fields⟩ tail else none := by
  have opened : readFrom limit ⟨.startField, [], fields⟩ (quote cell ++ tail) =
      readFrom limit ⟨.inQuoted, [], fields⟩ (escape cell ++ ('"' :: tail)) := by
    rw [quote, List.cons_append, List.append_assoc, List.singleton_append]
    exact readFrom_char _ (by simp) rfl (.inl rfl)
  rw [opened, readFrom_escape (by simp) (Nat.zero_le _), List.length_nil, Nat.zero_add,
    List.nil_append]
  split
  · exact readFrom_char _ more rfl (.inl rfl)
  · rfl

/-- A written cell is taken whole, up to the separator behind it. -/
theorem readFrom_writeCell (more : tail ≠ []) :
    ∃ r : Reader, r.Holds fields cell ∧
      readFrom limit ⟨.startField, [], fields⟩ (writeCell cell ++ tail) =
        if cell.length ≤ limit then readFrom limit r tail else none := by
  by_cases special : cell.any isSpecial = true
  · refine ⟨⟨.quoteInQuoted, cell, fields⟩, ⟨rfl, rfl, .inr (.inl rfl)⟩, ?_⟩
    rw [writeCell, if_pos special]
    exact readFrom_quote more
  · have plain : cell.any isSpecial = false := by simpa using special
    rw [writeCell, if_neg special]
    cases cell with
    | nil => exact ⟨⟨.startField, [], fields⟩, ⟨rfl, rfl, .inr (.inr ⟨rfl, rfl⟩)⟩, by simp⟩
    | cons c cell =>
        refine ⟨⟨.inField, c :: cell, fields⟩, ⟨rfl, rfl, .inl rfl⟩, ?_⟩
        obtain ⟨ordinary, plain⟩ : isSpecial c = false ∧ cell.any isSpecial = false := by
          simpa [List.any_cons] using plain
        obtain ⟨⟨notComma, notQuote⟩, notNewline⟩ :
            (c ≠ ',' ∧ c ≠ '"') ∧ isNewline c = false := by
          simpa [isSpecial] using ordinary
        have first : (⟨.startField, [], fields⟩ : Reader).char limit c =
            if limit = 0 then none else some ⟨.inField, [c], fields⟩ := by
          simp [Reader.char, Reader.startChar, Reader.addChar, notNewline, notComma, notQuote]
        rw [List.cons_append, List.length_cons]
        by_cases full : limit = 0
        · rw [readFrom_refused (by rw [first, if_pos full]), if_neg (by omega)]
        · rw [readFrom_char _ (by simp [more]) (by rw [first, if_neg full]) (.inl notNewline),
            readFrom_plain more plain (by rw [List.length_singleton]; omega),
            List.length_singleton, Nat.add_comm, List.singleton_append]

theorem writeCells_ne_nil (row : Row) : writeCells row ≠ [] := by
  rcases row with _ | ⟨cell, _ | ⟨next, more⟩⟩ <;> simp [writeCells]

/-- The cells of a record are read back in order. -/
theorem readFrom_writeCells (cell : Cell) (row : Row) :
    readFrom limit ⟨.startField, [], fields⟩ (writeCells (cell :: row) ++ tail) =
      if ∀ cell' ∈ cell :: row, cell'.length ≤ limit then
        (readFrom limit .fresh tail).map (fun rows => (fields ++ cell :: row) :: rows)
      else none := by
  induction row generalizing cell fields with
  | nil =>
      obtain ⟨r, holds, read⟩ := @readFrom_writeCell limit fields cell ('\r' :: '\n' :: tail)
        (by simp)
      rw [writeCells, List.append_assoc, List.cons_append, List.cons_append, List.nil_append, read,
        holds.newline]
      simp
  | cons next row inductionHypothesis =>
      obtain ⟨r, holds, read⟩ := @readFrom_writeCell limit fields cell
        (',' :: (writeCells (next :: row) ++ tail)) (by simp)
      rw [writeCells, List.append_assoc, List.cons_append, read,
        holds.comma (by simp [writeCells_ne_nil]), inductionHypothesis]
      simp only [List.append_assoc, List.singleton_append, List.mem_cons]
      by_cases short : cell.length ≤ limit
      · simp [short]
      · simp [short]

/-- Before any character but a line end, the start of a record is the start of a field. -/
theorem readFrom_fresh {c : Char} (notNewline : isNewline c = false) :
    readFrom limit .fresh (c :: rest) = readFrom limit ⟨.startField, [], []⟩ (c :: rest) := by
  have same : Reader.fresh.char limit c = (⟨.startField, [], []⟩ : Reader).char limit c := by
    simp [Reader.char, Reader.fresh, Reader.startChar, Reader.saveField, Reader.addChar, notNewline]
  simp only [readFrom, same]

theorem writeCell_head {cell : Cell} (nonempty : cell ≠ []) :
    ∃ c rest, writeCell cell = c :: rest ∧ isNewline c = false := by
  unfold writeCell
  split
  · exact ⟨'"', _, rfl, rfl⟩
  · rename_i plain
    obtain ⟨c, rest, rfl⟩ := List.exists_cons_of_ne_nil nonempty
    refine ⟨c, rest, rfl, ?_⟩
    simp only [isSpecial, List.any_cons] at plain
    simp_all

/-- Only the empty row starts with a line end. -/
theorem writeRow_head (cell : Cell) (row : Row) :
    ∃ c rest, writeRow (cell :: row) = c :: rest ∧ isNewline c = false := by
  unfold writeRow
  split
  · exact ⟨'"', _, rfl, rfl⟩
  · rename_i notBlank
    by_cases nonempty : cell = []
    · cases row with
      | nil => simp [nonempty] at notBlank
      | cons next row => exact ⟨',', _, by simp [nonempty, writeCells, writeCell]; rfl, rfl⟩
    · obtain ⟨c, rest, written, notNewline⟩ := writeCell_head nonempty
      cases row <;> simp [writeCells, written, notNewline]

/-- One written row is read back as one record. -/
theorem readFrom_writeRow (row : Row) :
    readFrom limit .fresh (writeRow row ++ tail) =
      if ∀ cell ∈ row, cell.length ≤ limit then
        (readFrom limit .fresh tail).map (fun rows => row :: rows)
      else none := by
  cases row with
  | nil =>
      rw [if_pos (by simp)]
      exact readFrom_newline rfl
  | cons cell row =>
      have atField : readFrom limit .fresh (writeRow (cell :: row) ++ tail) =
          readFrom limit ⟨.startField, [], []⟩ (writeRow (cell :: row) ++ tail) := by
        obtain ⟨c, rest, written, notNewline⟩ := writeRow_head cell row
        rw [written, List.cons_append]
        exact readFrom_fresh notNewline
      rw [atField, writeRow]
      split
      · rename_i blank
        rw [List.append_assoc, readFrom_quote (by simp), List.length_nil, if_pos (Nat.zero_le _),
          List.cons_append, List.cons_append, List.nil_append,
          @Reader.Holds.newline limit [] [] tail _ ⟨rfl, rfl, .inr (.inl rfl)⟩, blank]
        simp
      · exact readFrom_writeCells cell row

/-- What was written is read back, up to the cells that are too long to read. -/
theorem read_write (limit : Nat) (rows : List Row) :
    read limit (write rows) =
      if ∀ row ∈ rows, ∀ cell ∈ row, cell.length ≤ limit then some rows else none := by
  unfold read
  induction rows with
  | nil => simp [write, readFrom, Reader.fresh]
  | cons row rows inductionHypothesis =>
      rw [write, readFrom_writeRow, inductionHypothesis]
      by_cases short : ∀ cell ∈ row, cell.length ≤ limit
      · by_cases rest : ∀ row ∈ rows, ∀ cell ∈ row, cell.length ≤ limit
        · rw [if_pos short, if_pos rest, if_pos (List.forall_mem_cons.mpr ⟨short, rest⟩)]
          rfl
        · rw [if_pos short, if_neg rest, if_neg (fun all => rest (List.forall_mem_cons.mp all).2)]
          rfl
      · rw [if_neg short, if_neg (fun all => short (List.forall_mem_cons.mp all).1)]

end Openobsw.Lib.Csv
