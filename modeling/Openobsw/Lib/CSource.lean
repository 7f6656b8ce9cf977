import Mathlib.Data.List.TakeWhile
import Mathlib.Tactic.Common

/-!
Owns the reading of a C source file up to its directives: trigraphs, spliced lines, comments
and literals (C11, 5.1.1.2, phases 1 to 3), and the directives of the logical lines (phase
4). Conditions are not evaluated and macros not expanded; `\n` alone ends a line.
-/

namespace Openobsw.Lib.CSource

abbrev Text := List Char

/-! ### Trigraphs and spliced lines -/

def singleQuote : Char := Char.ofNat 39

/-- What a trigraph with this last character stands for. -/
def trigraph (last : Char) : Option Char :=
  if last = '=' then some '#'
  else if last = '/' then some '\\'
  else if last = singleQuote then some '^'
  else if last = '(' then some '['
  else if last = ')' then some ']'
  else if last = '!' then some '|'
  else if last = '<' then some '{'
  else if last = '>' then some '}'
  else if last = '-' then some '~'
  else none

def replaceTrigraphs : Text → Text
  | first :: second :: third :: rest =>
      match if first = '?' ∧ second = '?' then trigraph third else none with
      | some single => single :: replaceTrigraphs rest
      | none => first :: replaceTrigraphs (second :: third :: rest)
  | short => short

/-- A backslash and the end of its line are deleted. -/
def splice : Text → Text
  | first :: second :: rest =>
      if first = '\\' ∧ second = '\n' then splice rest else first :: splice (second :: rest)
  | short => short

/-- The text that comments and directives are looked for in. -/
def prepare (text : Text) : Text := splice (replaceTrigraphs text)

/-- The character is no part of a trigraph and of no splice. -/
def Apart (c : Char) : Prop := c ≠ '?' ∧ trigraph c = none ∧ c ≠ '\\' ∧ c ≠ '\n'

instance (c : Char) : Decidable (Apart c) := inferInstanceAs (Decidable (_ ∧ _))

/-- The character begins no trigraph and no splice. -/
def Fixed (c : Char) : Prop := c ≠ '?' ∧ c ≠ '\\'

instance (c : Char) : Decidable (Fixed c) := inferInstanceAs (Decidable (_ ∧ _))

variable {c : Char} {text rest : Text}

/-- A given text is checked character by character. -/
theorem forall_of_all {P : Char → Prop} [DecidablePred P]
    (all : text.all (fun c => decide (P c)) = true) : ∀ c ∈ text, P c :=
  fun c member => of_decide_eq_true (List.all_eq_true.mp all c member)

theorem replaceTrigraphs_cons (other : c ≠ '?') (rest : Text) :
    replaceTrigraphs (c :: rest) = c :: replaceTrigraphs rest := by
  rcases rest with _ | ⟨second, _ | ⟨third, rest⟩⟩
  · rfl
  · rfl
  · show (match if c = '?' ∧ second = '?' then trigraph third else none with
      | some single => single :: replaceTrigraphs rest
      | none => c :: replaceTrigraphs (second :: third :: rest)) = _
    rw [if_neg (fun both => other both.1)]

theorem replaceTrigraphs_cons_cons (first : Char) (other : c ≠ '?') (rest : Text) :
    replaceTrigraphs (first :: c :: rest) = first :: replaceTrigraphs (c :: rest) := by
  cases rest with
  | nil => rfl
  | cons third rest =>
      show (match if first = '?' ∧ c = '?' then trigraph third else none with
        | some single => single :: replaceTrigraphs rest
        | none => first :: replaceTrigraphs (c :: third :: rest)) = _
      rw [if_neg (fun both => other both.2)]

theorem replaceTrigraphs_append (other : c ≠ '?') (last : trigraph c = none) (text rest : Text) :
    replaceTrigraphs (text ++ c :: rest) = replaceTrigraphs text ++ c :: replaceTrigraphs rest := by
  induction text using replaceTrigraphs.induct with
  | case1 first second third more single found inductionHypothesis =>
      simp only [List.cons_append, replaceTrigraphs, found, inductionHypothesis]
  | case2 first second third more found inductionHypothesis =>
      simp only [List.cons_append] at inductionHypothesis
      simp only [List.cons_append, replaceTrigraphs, found, inductionHypothesis]
  | case3 text short =>
      rcases text with _ | ⟨first, _ | ⟨second, _ | ⟨third, more⟩⟩⟩
      · exact replaceTrigraphs_cons other rest
      · show replaceTrigraphs (first :: c :: rest) = first :: c :: replaceTrigraphs rest
        rw [replaceTrigraphs_cons_cons first other, replaceTrigraphs_cons other]
      · show replaceTrigraphs (first :: second :: c :: rest) =
          first :: second :: c :: replaceTrigraphs rest
        simp only [replaceTrigraphs, last, ite_self]
        rw [replaceTrigraphs_cons_cons second other, replaceTrigraphs_cons other]
      · exact absurd rfl (short first second third more)

theorem splice_cons (other : c ≠ '\\') (rest : Text) : splice (c :: rest) = c :: splice rest := by
  cases rest with
  | nil => rfl
  | cons second rest => exact if_neg (fun both => other both.1)

theorem splice_append (other : c ≠ '\\') (inLine : c ≠ '\n') (text rest : Text) :
    splice (text ++ c :: rest) = splice text ++ c :: splice rest := by
  induction text using splice.induct with
  | case1 first second more spliced inductionHypothesis =>
      simp only [List.cons_append, splice, spliced, and_self, if_true, inductionHypothesis]
  | case2 first second more kept inductionHypothesis =>
      simp only [List.cons_append] at inductionHypothesis
      simp only [List.cons_append, splice, if_neg kept, inductionHypothesis]
  | case3 text short =>
      rcases text with _ | ⟨first, _ | ⟨second, more⟩⟩
      · exact splice_cons other rest
      · show splice (first :: c :: rest) = first :: c :: splice rest
        rw [← splice_cons other]
        exact if_neg (fun both => inLine both.2)
      · exact absurd rfl (short first second more)

/-- The text is read the same in front of a character that is apart and behind it. -/
theorem prepare_append (apart : Apart c) (text rest : Text) :
    prepare (text ++ c :: rest) = prepare text ++ c :: prepare rest := by
  unfold prepare
  rw [replaceTrigraphs_append apart.1 apart.2.1, splice_append apart.2.2.1 apart.2.2.2]

theorem prepare_cons (fixed : Fixed c) (rest : Text) : prepare (c :: rest) = c :: prepare rest := by
  unfold prepare
  rw [replaceTrigraphs_cons fixed.1, splice_cons fixed.2]

theorem prepare_fixed (fixed : ∀ c ∈ text, Fixed c) (rest : Text) :
    prepare (text ++ rest) = text ++ prepare rest := by
  induction text with
  | nil => rfl
  | cons c text inductionHypothesis =>
      rw [List.cons_append, prepare_cons (fixed c List.mem_cons_self),
        inductionHypothesis (fun c member => fixed c (List.mem_cons_of_mem _ member)),
        List.cons_append]

/-! ### Comments and literals -/

inductive Mode where
  | code
  | slash
  | lineComment
  | comment
  | star
  | literal (quote : Char)
  | escape (quote : Char)
deriving DecidableEq, Repr

/-- How far a file is read: the logical line so far, with a blank for each comment, and the
lines before it. -/
structure Scan where
  mode : Mode := .code
  line : Text := []
  lines : List Text := []
deriving DecidableEq, Repr

namespace Scan

def put (s : Scan) (mode : Mode) (c : Char) : Scan := { s with mode, line := s.line ++ [c] }

def newLine (s : Scan) : Scan := { lines := s.lines ++ [s.line] }

/-- A character outside of comments and literals. -/
def code (s : Scan) (c : Char) : Scan :=
  if c = '\n' then s.newLine
  else if c = '/' then { s with mode := .slash }
  else s.put (if c = '"' ∨ c = singleQuote then .literal c else .code) c

def next (s : Scan) (c : Char) : Scan :=
  match s.mode with
  | .code => s.code c
  | .slash =>
      if c = '*' then s.put .comment ' '
      else if c = '/' then s.put .lineComment ' '
      else (s.put .code '/').code c
  | .lineComment => if c = '\n' then s.newLine else s
  | .comment => if c = '*' then { s with mode := .star } else s
  | .star =>
      if c = '/' then { s with mode := .code }
      else if c = '*' then s
      else { s with mode := .comment }
  | .literal quote =>
      if c = '\n' then s.newLine
      else s.put (if c = '\\' then .escape quote else if c = quote then .code else .literal quote) c
  | .escape quote => if c = '\n' then s.newLine else s.put (.literal quote) c

def read (s : Scan) (text : Text) : Scan := text.foldl next s

/-- Between two logical lines. -/
def Between (s : Scan) : Prop := s.mode = .code ∧ s.line = []

instance (s : Scan) : Decidable s.Between := inferInstanceAs (Decidable (_ ∧ _))

end Scan

/-- The logical lines of a file, whose last one ends too. -/
def logicalLines (text : Text) : List Text := (Scan.read {} (prepare text)).lines

/-! ### Directives -/

/-- White space within a line. -/
def isBlank (c : Char) : Bool := c == ' ' || c == '\t' || c == '\x0b' || c == '\x0c'

/-- A character of a macro's name, the extended ones and `$` of usual compilers among them. -/
def isNameChar (c : Char) : Bool :=
  c.isAlphanum || c == '_' || c == '$' || decide (128 ≤ c.toNat)

def trim (text : Text) : Text :=
  ((text.dropWhile isBlank).reverse.dropWhile isBlank).reverse

inductive Directive where
  | define (name body : Text)
  | other (keyword operand : Text)
deriving DecidableEq, Repr

/-- What stands behind `#`. -/
def behindHash (line : Text) : Option Text :=
  match line.dropWhile isBlank with
  | '#' :: rest => some (rest.dropWhile isBlank)
  | '%' :: ':' :: rest => some (rest.dropWhile isBlank)
  | _ => none

/-- `define` with a name, and any other directive but the one of `#` alone. -/
def command (text : Text) : Option Directive :=
  let keyword := text.takeWhile isNameChar
  let operand := (text.dropWhile isNameChar).dropWhile isBlank
  let name := operand.takeWhile isNameChar
  if text.isEmpty then none
  else if keyword = "define".toList ∧ name ≠ [] then
    some (.define name (trim (operand.dropWhile isNameChar)))
  else some (.other keyword (trim operand))

def directive (line : Text) : Option Directive := (behindHash line).bind command

def directivesOf (lines : List Text) : List Directive := lines.filterMap directive

/-- The directives of a file. -/
def directives (text : Text) : List Directive := directivesOf (logicalLines text)

/-- The names that are defined, as often as they are. -/
def definedNames (found : List Directive) : List Text :=
  found.filterMap fun
    | .define name _ => some name
    | .other _ _ => none

/-- The directives that define nothing. -/
def others (found : List Directive) : List Directive :=
  found.filter fun
    | .define _ _ => false
    | .other _ _ => true

theorem definedNames_append (found more : List Directive) :
    definedNames (found ++ more) = definedNames found ++ definedNames more :=
  List.filterMap_append

theorem others_append (found more : List Directive) :
    others (found ++ more) = others found ++ others more :=
  List.filter_append found more

theorem definedNames_perm {found more : List Directive} (order : found.Perm more) :
    (definedNames found).Perm (definedNames more) :=
  order.filterMap _

theorem others_perm {found more : List Directive} (order : found.Perm more) :
    (others found).Perm (others more) :=
  order.filter _

theorem mem_definedNames {found : List Directive} {name : Text} :
    name ∈ definedNames found ↔ ∃ body, .define name body ∈ found := by
  unfold definedNames
  rw [List.mem_filterMap]
  constructor
  · rintro ⟨define | other, member, same⟩
    · cases same
      exact ⟨_, member⟩
    · cases same
  · rintro ⟨body, member⟩
    exact ⟨_, member, rfl⟩

/-- A name that is defined once stands for one text. -/
theorem define_unique {found : List Directive} {name body other : Text}
    (once : (definedNames found).count name = 1) (member : .define name body ∈ found)
    (otherIn : .define name other ∈ found) : body = other := by
  induction found with
  | nil => cases member
  | cons first rest inductionHypothesis =>
      rw [← List.singleton_append, definedNames_append, List.count_append] at once
      have later {body : Text} (inRest : .define name body ∈ rest) :
          0 < (definedNames rest).count name :=
        List.count_pos_iff.mpr (mem_definedNames.mpr ⟨body, inRest⟩)
      have own {body : Text} (isFirst : .define name body = first) :
          (definedNames [first]).count name = 1 := by
        rw [← isFirst]
        exact List.count_singleton_self
      rcases List.mem_cons.mp member with isFirst | inRest <;>
        rcases List.mem_cons.mp otherIn with otherFirst | otherRest
      · cases isFirst.trans otherFirst.symm
        rfl
      · have := own isFirst
        have := later otherRest
        omega
      · have := own otherFirst
        have := later inRest
        omega
      · have := later inRest
        exact inductionHypothesis (by omega) inRest otherRest

/-! ### Laws of the scan -/

namespace Scan

/-- A change of what is already read that leaves the mode. -/
structure Frame (frame : Scan → Scan) : Prop where
  mode : ∀ s, (frame s).mode = s.mode
  enter : ∀ s mode, ({ frame s with mode } : Scan) = frame { s with mode }
  put : ∀ s mode c, (frame s).put mode c = frame (s.put mode c)
  newLine : ∀ s, (frame s).newLine = frame s.newLine

section Frames

variable {frame : Scan → Scan}

theorem Frame.code (framed : Frame frame) (s : Scan) (c : Char) :
    (frame s).code c = frame (s.code c) := by
  unfold Scan.code
  rw [framed.newLine, framed.enter, framed.put, apply_ite frame, apply_ite frame]

theorem Frame.next (framed : Frame frame) (s : Scan) (c : Char) :
    (frame s).next c = frame (s.next c) := by
  unfold Scan.next
  rw [framed.mode]
  cases s.mode with
  | code => exact framed.code s c
  | slash =>
      simp only
      rw [framed.put, framed.put, framed.put, framed.code, apply_ite frame, apply_ite frame]
  | lineComment =>
      simp only
      rw [framed.newLine, apply_ite frame]
  | comment =>
      simp only
      rw [framed.enter, apply_ite frame]
  | star =>
      simp only
      rw [framed.enter, framed.enter, apply_ite frame, apply_ite frame]
  | literal quote =>
      simp only
      rw [framed.newLine, framed.put, apply_ite frame]
  | escape quote =>
      simp only
      rw [framed.newLine, framed.put, apply_ite frame]

theorem Frame.read (framed : Frame frame) (s : Scan) (text : Text) :
    (frame s).read text = frame (s.read text) := by
  induction text generalizing s with
  | nil => rfl
  | cons c rest inductionHypothesis =>
      show ((frame s).next c).read rest = frame ((s.next c).read rest)
      rw [framed.next, inductionHypothesis]

end Frames

/-- The scan behind earlier lines. -/
def onto (earlier : List Text) (s : Scan) : Scan := { s with lines := earlier ++ s.lines }

theorem onto_frame (earlier : List Text) : Frame (onto earlier) where
  mode _ := rfl
  enter _ _ := rfl
  put _ _ _ := rfl
  newLine s := by simp [newLine, onto]

/-- The scan with a text in front of its first line. -/
def within (before : Text) (s : Scan) : Scan :=
  match s.lines with
  | [] => { s with line := before ++ s.line }
  | first :: more => { s with lines := (before ++ first) :: more }

theorem within_frame (before : Text) : Frame (within before) where
  mode s := by
    unfold within
    split <;> rfl
  enter s mode := by
    obtain ⟨_, line, lines⟩ := s
    cases lines <;> rfl
  put s mode c := by
    obtain ⟨_, line, lines⟩ := s
    cases lines with
    | nil => simp [put, within]
    | cons first more => rfl
  newLine s := by
    obtain ⟨_, line, lines⟩ := s
    cases lines <;> rfl

theorem read_append (s : Scan) (text rest : Text) :
    s.read (text ++ rest) = (s.read text).read rest :=
  List.foldl_append

end Scan

end Openobsw.Lib.CSource
