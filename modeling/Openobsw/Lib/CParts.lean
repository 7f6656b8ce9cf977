import Openobsw.Lib.CSource

/-!
Owns the parts of a C source file that are read the same wherever they stand: those that end
a comment and its line, lines without comments and literals, and macros with a comment behind
them.
-/

namespace Openobsw.Lib.CSource

variable {c : Char} {text rest : Text}

/-! ### Parts of a file -/

/-- The part ends between two lines, and is read the same in front of any other. -/
structure Whole (part : Text) : Prop where
  apart : ∀ rest, prepare (part ++ rest) = prepare part ++ prepare rest
  between : (Scan.read {} (prepare part)).Between

theorem Whole.read_eq (whole : Whole text) :
    Scan.read {} (prepare text) = Scan.onto (logicalLines text) {} := by
  unfold logicalLines
  rw [Scan.onto, List.append_nil]
  obtain ⟨mode, line⟩ := whole.between
  rw [Scan.mk.injEq]
  exact ⟨mode, line, rfl⟩

theorem Whole.read_append (whole : Whole text) (rest : Text) :
    Scan.read {} (prepare (text ++ rest)) =
      Scan.onto (logicalLines text) (Scan.read {} (prepare rest)) := by
  rw [whole.apart, Scan.read_append, whole.read_eq, (Scan.onto_frame _).read]

theorem Whole.append (whole : Whole text) (other : Whole rest) : Whole (text ++ rest) := by
  constructor
  · intro more
    rw [List.append_assoc, whole.apart, whole.apart, other.apart, List.append_assoc]
  · rw [whole.read_append]
    exact other.between

theorem Whole.directives_append (whole : Whole text) (rest : Text) :
    directives (text ++ rest) = directives text ++ directives rest := by
  have lines : logicalLines (text ++ rest) = logicalLines text ++ logicalLines rest :=
    congrArg Scan.lines (whole.read_append rest)
  unfold directives directivesOf
  rw [lines, List.filterMap_append]

/-- The part is read as these directives wherever it stands. -/
structure Reads (part : Text) (found : List Directive) : Prop where
  whole : Whole part
  directives_eq : directives part = found

theorem Reads.append {found more : List Directive} (reads : Reads text found)
    (other : Reads rest more) : Reads (text ++ rest) (found ++ more) where
  whole := reads.whole.append other.whole
  directives_eq := by rw [reads.whole.directives_append, reads.directives_eq, other.directives_eq]

/-- The text of lines. -/
def newLined (lines : List Text) : Text := lines.flatMap (fun line => line ++ ['\n'])

theorem newLined_append (lines more : List Text) :
    newLined (lines ++ more) = newLined lines ++ newLined more :=
  List.flatMap_append

theorem reads_nil : Reads (newLined []) [] := ⟨⟨fun _ => rfl, rfl, rfl⟩, rfl⟩

theorem Reads.cons {line : Text} {lines : List Text} {found more : List Directive}
    (reads : Reads (line ++ ['\n']) found) (other : Reads (newLined lines) more) :
    Reads (newLined (line :: lines)) (found ++ more) := by
  rw [newLined, List.flatMap_cons]
  exact reads.append other

theorem reads_flatMap {ι : Type*} {items : List ι} {lines : ι → List Text}
    {found : ι → List Directive}
    (reads : ∀ item ∈ items, Reads (newLined (lines item)) (found item)) :
    Reads (newLined (items.flatMap lines)) (items.flatMap found) := by
  induction items with
  | nil => exact reads_nil
  | cons item items inductionHypothesis =>
      rw [List.flatMap_cons, newLined_append, List.flatMap_cons]
      exact (reads item List.mem_cons_self).append
        (inductionHypothesis (fun item member => reads item (List.mem_cons_of_mem _ member)))

/-- Lines that are read one by one. -/
theorem reads_map {ι : Type*} {items : List ι} {line : ι → Text} {found : ι → List Directive}
    (reads : ∀ item ∈ items, Reads (line item ++ ['\n']) (found item)) :
    Reads (newLined (items.map line)) (items.flatMap found) := by
  induction items with
  | nil => exact reads_nil
  | cons item items inductionHypothesis =>
      exact (reads item List.mem_cons_self).cons
        (inductionHypothesis (fun item member => reads item (List.mem_cons_of_mem _ member)))

/-! ### Ends of comments -/

/-- Outside of comments a line ends. -/
theorem next_newLine {s : Scan} (outside : s.mode ≠ .comment ∧ s.mode ≠ .star) :
    (s.next '\n').Between ∧ (s.next '\n').lines ≠ [] := by
  obtain ⟨mode, line, lines⟩ := s
  cases mode with
  | comment => exact absurd rfl outside.1
  | star => exact absurd rfl outside.2
  | _ => exact ⟨⟨rfl, rfl⟩, List.append_ne_nil_of_right_ne_nil _ (List.cons_ne_nil _ _)⟩

/-- Ends of lines and escapes apart, a literal goes on to its quote. -/
theorem next_literal {s : Scan} {quote c : Char} (inLiteral : s.mode = .literal quote)
    (inLine : c ≠ '\n') (plain : c ≠ '\\') :
    (s.next c).mode = .code ∨ (s.next c).mode = .literal quote := by
  unfold Scan.next
  simp only [inLiteral, if_neg inLine, if_neg plain]
  by_cases last : c = quote
  · exact .inl (if_pos last)
  · exact .inr (if_neg last)

/-- Behind a blank no pair of characters is begun. -/
theorem next_blank (s : Scan) :
    (s.next ' ').mode = .code ∨ (s.next ' ').mode = .lineComment ∨
      (s.next ' ').mode = .comment ∨ ∃ quote, (s.next ' ').mode = .literal quote := by
  obtain ⟨mode, line, lines⟩ := s
  cases mode with
  | code => exact .inl rfl
  | slash => exact .inl rfl
  | lineComment => exact .inr (.inl rfl)
  | comment => exact .inr (.inr (.inl rfl))
  | star => exact .inr (.inr (.inl rfl))
  | literal quote =>
      rcases next_literal (s := ⟨.literal quote, line, lines⟩) rfl (c := ' ') (by decide)
        (by decide) with closed | inside
      · exact .inl closed
      · exact .inr (.inr (.inr ⟨quote, inside⟩))
  | escape quote => exact .inr (.inr (.inr ⟨quote, rfl⟩))

/-- A slash behind code or in a literal is in no comment. -/
theorem next_slash (quote : Char) {s : Scan} (plain : s.mode = .code ∨ s.mode = .literal quote) :
    (s.next '/').mode ≠ .comment ∧ (s.next '/').mode ≠ .star := by
  obtain ⟨mode, line, lines⟩ := s
  rcases plain with code | literal
  · subst code
    exact ⟨Mode.noConfusion, Mode.noConfusion⟩
  · rcases next_literal literal (c := '/') (by decide) (by decide) with same | same <;>
      rw [same] <;> exact ⟨Mode.noConfusion, Mode.noConfusion⟩

/-- Whatever a text has opened, the end of a comment and of a line closes. -/
theorem read_closing (s : Scan) :
    (s.read " */\n".toList).Between ∧ (s.read " */\n".toList).lines ≠ [] := by
  show (Scan.next (Scan.next ((s.next ' ').next '*') '/') '\n').Between ∧ _
  apply next_newLine
  have blank := next_blank s
  generalize s.next ' ' = s at blank ⊢
  rcases blank with code | lineComment | comment | ⟨quote, literal⟩
  · apply next_slash '"'
    left
    unfold Scan.next
    rw [code]
    rfl
  · unfold Scan.next
    simp [lineComment]
  · unfold Scan.next
    simp [comment]
  · exact next_slash quote (next_literal literal (by decide) (by decide))

theorem prepare_closing (text rest : Text) :
    prepare (text ++ " */\n".toList ++ rest) = prepare text ++ " */\n".toList ++ prepare rest := by
  have fixed : ∀ c ∈ "*/\n".toList, Fixed c := forall_of_all (by decide)
  rw [List.append_assoc]
  show prepare (text ++ ' ' :: ("*/\n".toList ++ rest)) = _
  rw [prepare_append (by decide), prepare_fixed fixed, List.append_assoc]
  rfl

theorem prepare_closed (text : Text) :
    prepare (text ++ " */\n".toList) = prepare text ++ " */\n".toList := by
  have parts := prepare_closing text []
  rwa [List.append_nil, show prepare [] = [] from rfl, List.append_nil] at parts

/-- A part that ends a comment and its line is whole. -/
theorem whole_closing (text : Text) : Whole (text ++ " */\n".toList) := by
  constructor
  · intro rest
    rw [prepare_closing, prepare_closed]
  · rw [prepare_closed, Scan.read_append]
    exact (read_closing _).1

/-- A text without `*/` does not leave the comment. -/
theorem read_comment (text : Text) (s : Scan)
    (inside : s.mode = .comment ∧ ¬ "*/".toList <:+: text ∨
      s.mode = .star ∧ ¬ "*/".toList <:+: '*' :: text) :
    s.read text = { s with mode := .comment } ∨ s.read text = { s with mode := .star } := by
  induction text generalizing s with
  | nil =>
      rcases inside with ⟨mode, _⟩ | ⟨mode, _⟩
      · exact .inl (by rw [← mode]; rfl)
      · exact .inr (by rw [← mode]; rfl)
  | cons c rest inductionHypothesis =>
      obtain ⟨mode, line, lines⟩ := s
      rcases inside with ⟨inComment, closed⟩ | ⟨inStar, closed⟩
      · subst inComment
        by_cases star : c = '*'
        · subst star
          exact inductionHypothesis ⟨.star, line, lines⟩ (.inr ⟨rfl, closed⟩)
        · have stay : Scan.next ⟨.comment, line, lines⟩ c = ⟨.comment, line, lines⟩ := if_neg star
          have first : Scan.read ⟨.comment, line, lines⟩ (c :: rest) =
              Scan.read ⟨.comment, line, lines⟩ rest := congrArg (fun s => Scan.read s rest) stay
          rw [first]
          exact inductionHypothesis ⟨.comment, line, lines⟩
            (.inl ⟨rfl, fun pair => closed (pair.trans (List.suffix_cons _ _).isInfix)⟩)
      · subst inStar
        have notSlash : c ≠ '/' := by
          rintro rfl
          exact closed (List.prefix_append "*/".toList rest).isInfix
        have rest' : ¬ "*/".toList <:+: c :: rest :=
          fun pair => closed (pair.trans (List.suffix_cons _ _).isInfix)
        by_cases star : c = '*'
        · subst star
          exact inductionHypothesis ⟨.star, line, lines⟩ (.inr ⟨rfl, rest'⟩)
        · have back : Scan.next ⟨.star, line, lines⟩ c = ⟨.comment, line, lines⟩ :=
            (if_neg notSlash).trans (if_neg star)
          have first : Scan.read ⟨.star, line, lines⟩ (c :: rest) =
              Scan.read ⟨.comment, line, lines⟩ rest := congrArg (fun s => Scan.read s rest) back
          rw [first]
          exact inductionHypothesis ⟨.comment, line, lines⟩
            (.inl ⟨rfl, fun pair => rest' (pair.trans (List.suffix_cons _ _).isInfix)⟩)

/-- A comment that ends at its end leaves a blank. -/
theorem logicalLines_comment (closed : ¬ "*/".toList <:+: prepare text) :
    logicalLines ("/*".toList ++ text ++ " */\n".toList) = [[' ']] := by
  have fixed : ∀ c ∈ "/*".toList, Fixed c := forall_of_all (by decide)
  have opened := read_comment (prepare text) { mode := .comment, line := [' '] } (.inl ⟨rfl, closed⟩)
  unfold logicalLines
  rw [prepare_closed, prepare_fixed fixed, Scan.read_append, Scan.read_append]
  show (Scan.read (Scan.read { mode := .comment, line := [' '] } (prepare text)) _).lines = _
  rcases opened with same | same <;> rw [same] <;> rfl

theorem reads_comment (closed : ¬ "*/".toList <:+: prepare text) :
    Reads ("/*".toList ++ text ++ " */\n".toList) [] where
  whole := whole_closing _
  directives_eq := by
    unfold directives
    rw [logicalLines_comment closed]
    rfl

/-! ### Lines without comments and literals -/

/-- The character stands for itself, and ends and opens nothing. -/
def Quiet (c : Char) : Prop :=
  Fixed c ∧ c ≠ '\n' ∧ c ≠ '/' ∧ c ≠ '"' ∧ c ≠ singleQuote

instance (c : Char) : Decidable (Quiet c) := inferInstanceAs (Decidable (_ ∧ _))

theorem read_quiet (quiet : ∀ c ∈ text, Quiet c) (line : Text) :
    Scan.read { line } text = { line := line ++ text } := by
  induction text generalizing line with
  | nil => rw [List.append_nil]; rfl
  | cons c rest inductionHypothesis =>
      obtain ⟨_, inLine, noSlash, noQuote, noSingle⟩ := quiet c List.mem_cons_self
      have stay : Scan.next { line } c = { line := line ++ [c] } := by
        show (if c = '\n' then _ else if c = '/' then _ else Scan.put _ _ c) = _
        rw [if_neg inLine, if_neg noSlash, if_neg (not_or.mpr ⟨noQuote, noSingle⟩)]
        rfl
      show Scan.read (Scan.next { line } c) rest = _
      rw [stay, inductionHypothesis (fun c member => quiet c (List.mem_cons_of_mem _ member)),
        List.append_assoc]
      rfl

theorem Scan.within_lines (before : Text) (s : Scan) :
    (s.within before).lines = s.lines.modifyHead (fun first => before ++ first) := by
  obtain ⟨_, _, lines⟩ := s
  cases lines <;> rfl

/-- A quiet text begins the first line of what follows. -/
theorem logicalLines_quiet (quiet : ∀ c ∈ text, Quiet c) (rest : Text) :
    logicalLines (text ++ rest) =
      (logicalLines rest).modifyHead (fun first => text ++ first) := by
  have begun : (Scan.read {} text) = Scan.within text {} := by
    rw [read_quiet quiet]
    simp [Scan.within]
  unfold logicalLines
  rw [prepare_fixed (fun c member => (quiet c member).1), Scan.read_append, begun,
    (Scan.within_frame text).read, Scan.within_lines]

theorem logicalLines_line (quiet : ∀ c ∈ text, Quiet c) : logicalLines (text ++ ['\n']) = [text] := by
  rw [logicalLines_quiet quiet]
  show [text ++ []] = [text]
  rw [List.append_nil]

theorem whole_line (quiet : ∀ c ∈ text, Quiet c) : Whole (text ++ ['\n']) := by
  have fixed : ∀ c ∈ text ++ ['\n'], Fixed c := by
    intro c member
    rcases List.mem_append.mp member with inText | last
    · exact (quiet c inText).1
    · rw [List.mem_singleton.mp last]
      decide
  have alone : prepare (text ++ ['\n']) = text ++ ['\n'] := by
    have := prepare_fixed fixed []
    rwa [List.append_nil, show prepare [] = [] from rfl, List.append_nil] at this
  constructor
  · intro rest
    rw [prepare_fixed fixed, alone]
  · rw [alone, Scan.read_append, read_quiet quiet]
    exact ⟨rfl, rfl⟩

/-! ### Definitions -/

theorem not_blank_of_name {c : Char} (name : isNameChar c = true) : isBlank c = false := by
  unfold isBlank
  by_contra blank
  simp only [Bool.not_eq_false, Bool.or_eq_true, beq_iff_eq] at blank
  rcases blank with ((rfl | rfl) | rfl) | rfl <;> exact absurd name (by decide)

/-- A macro without parameters is read back. -/
theorem directive_define {name : Text} (nonempty : name ≠ [])
    (chars : ∀ c ∈ name, isNameChar c = true) (rest : Text) :
    directive ("#define ".toList ++ name ++ ' ' :: rest) = some (.define name (trim rest)) := by
  have taken : (name ++ ' ' :: rest).takeWhile isNameChar = name := by
    rw [List.takeWhile_append_of_pos chars, List.takeWhile_cons_of_neg (by decide),
      List.append_nil]
  have dropped : (name ++ ' ' :: rest).dropWhile isNameChar = ' ' :: rest := by
    rw [List.dropWhile_append_of_pos chars, List.dropWhile_cons_of_neg (by decide)]
  have unspaced : (name ++ ' ' :: rest).dropWhile isBlank = name ++ ' ' :: rest := by
    obtain ⟨first, more, rfl⟩ := List.exists_cons_of_ne_nil nonempty
    rw [List.cons_append, List.dropWhile_cons_of_neg]
    simp [not_blank_of_name (chars first List.mem_cons_self)]
  have operand : ((' ' :: (name ++ ' ' :: rest)).dropWhile isBlank) = name ++ ' ' :: rest :=
    unspaced
  show command ("define".toList ++ ' ' :: (name ++ ' ' :: rest)) = _
  have keyword : ("define".toList ++ ' ' :: (name ++ ' ' :: rest)).takeWhile isNameChar =
      "define".toList := rfl
  have behind : ("define".toList ++ ' ' :: (name ++ ' ' :: rest)).dropWhile isNameChar =
      ' ' :: (name ++ ' ' :: rest) := rfl
  unfold command
  simp only [keyword, behind, operand, taken, dropped]
  rw [if_neg (by simp), if_pos ⟨trivial, nonempty⟩]
  rfl

theorem reads_define {name : Text} (nonempty : name ≠ [])
    (chars : ∀ c ∈ name, isNameChar c = true) (quietName : ∀ c ∈ name, Quiet c)
    (quiet : ∀ c ∈ text, Quiet c) :
    Reads ("#define ".toList ++ name ++ ' ' :: text ++ ['\n']) [.define name (trim text)] := by
  have line : ∀ c ∈ "#define ".toList ++ name ++ ' ' :: text, Quiet c := by
    simp only [List.forall_mem_append, List.forall_mem_cons]
    exact ⟨⟨forall_of_all (by decide), quietName⟩, by decide, quiet⟩
  refine ⟨whole_line line, ?_⟩
  unfold directives directivesOf
  rw [logicalLines_line line, List.filterMap_cons_some (directive_define nonempty chars text),
    List.filterMap_nil]

section Trim

variable {body : Text}

/-- Text with no blank at its ends, within blanks. -/
theorem trim_within (before after : Text) (blanksBefore : ∀ c ∈ before, isBlank c = true)
    (blanksAfter : ∀ c ∈ after, isBlank c = true)
    (starts : body.head?.any (fun c => !isBlank c) = true)
    (ends : body.getLast?.any (fun c => !isBlank c) = true) :
    trim (before ++ (body ++ after)) = body := by
  have front : (body ++ after).dropWhile isBlank = body ++ after := by
    cases body with
    | nil => cases starts
    | cons first more =>
        rw [List.cons_append, List.dropWhile_cons_of_neg]
        simpa using starts
  have back : body.reverse.dropWhile isBlank = body.reverse := by
    rw [← List.head?_reverse] at ends
    generalize body.reverse = reversed at ends ⊢
    cases reversed with
    | nil => rfl
    | cons last more =>
        rw [List.dropWhile_cons_of_neg]
        simpa using ends
  unfold trim
  rw [List.dropWhile_append_of_pos blanksBefore, front, List.reverse_append,
    List.dropWhile_append_of_pos (by simpa using blanksAfter), back, List.reverse_reverse]

/-- What stands behind a text with a blank between them keeps the blank. -/
theorem blank_mem_trim (before after : Text) (blanksBefore : ∀ c ∈ before, isBlank c = true)
    (starts : body.head?.any (fun c => !isBlank c) = true)
    (more : ¬ ∀ c ∈ after, isBlank c = true) : ' ' ∈ trim (before ++ (body ++ ' ' :: after)) := by
  have front : (body ++ ' ' :: after).dropWhile isBlank = body ++ ' ' :: after := by
    cases body with
    | nil => cases starts
    | cons first rest =>
        rw [List.cons_append, List.dropWhile_cons_of_neg]
        simpa using starts
  have kept : (after.reverse.dropWhile isBlank).isEmpty ≠ true := by
    intro empty
    have blanks := List.dropWhile_eq_nil_iff.mp (List.isEmpty_iff.mp empty)
    exact more (fun c member => blanks c (List.mem_reverse.mpr member))
  unfold trim
  rw [List.dropWhile_append_of_pos blanksBefore, front, ← List.singleton_append (l := after),
    ← List.append_assoc, List.reverse_append, List.dropWhile_append, if_neg kept,
    List.reverse_append, List.reverse_reverse]
  simp

end Trim

/-! ### Comments behind a line -/

/-- A comment and the end of its line. -/
def commented (comment : Text) : Text := "/*".toList ++ comment ++ "*/\n".toList

/-- What the comment leaves on its line. -/
def residue (comment : Text) : Text := (logicalLines (commented comment)).headD []

/-- The directives of the further lines that the comment makes. -/
def broughtIn (comment : Text) : List Directive :=
  directivesOf (logicalLines (commented comment)).tail

/-- A comment that ends at its end leaves a blank, and brings nothing in. -/
theorem commented_closed (closed : ¬ "*/".toList <:+: prepare text) :
    residue (text ++ [' ']) = [' '] ∧ broughtIn (text ++ [' ']) = [] := by
  have ended : commented (text ++ [' ']) = "/*".toList ++ text ++ " */\n".toList := by
    simp [commented]
  unfold residue broughtIn
  rw [ended, logicalLines_comment closed]
  exact ⟨rfl, rfl⟩

/-- The line of a comment that ends in a blank: what the comment leaves there is read with it. -/
theorem directives_commented (quiet : ∀ c ∈ text, Quiet c) (comment : Text) :
    directives (text ++ commented (comment ++ [' '])) =
      (directive (text ++ residue (comment ++ [' ']))).toList ++ broughtIn (comment ++ [' ']) := by
  have closed : commented (comment ++ [' ']) = "/*".toList ++ comment ++ " */\n".toList := by
    simp [commented]
  have nonempty : logicalLines (commented (comment ++ [' '])) ≠ [] := by
    rw [closed]
    unfold logicalLines
    rw [prepare_closed, Scan.read_append]
    exact (read_closing _).2
  obtain ⟨first, more, lines⟩ := List.exists_cons_of_ne_nil nonempty
  unfold directives residue broughtIn directivesOf
  rw [logicalLines_quiet quiet, lines]
  cases found : directive (text ++ first) <;> simp [found]

theorem whole_commented (text comment : Text) :
    Whole (text ++ commented (comment ++ [' '])) := by
  have closed : text ++ commented (comment ++ [' ']) =
      (text ++ "/*".toList ++ comment) ++ " */\n".toList := by
    simp [commented]
  rw [closed]
  exact whole_closing _

end Openobsw.Lib.CSource
