import Mathlib.Algebra.Ring.Int.Defs
import Mathlib.Algebra.Ring.Nat
import Mathlib.Data.List.Nodup
import Mathlib.Tactic.Common
import Openobsw.Lib.Tables

/-!
Owns the part of Python's `str`, `int` and `float` that the database package
uses: letter case, number formats, and the splitting and joining of cells.
-/

namespace Openobsw.Srdb

abbrev Text := List Char

instance instLawfulBEqText : LawfulBEq Text := inferInstanceAs (LawfulBEq (List Char))

def isAscii (c : Char) : Bool := decide (c.toNat < 128)

/-- What depends on the interpreter's character tables and on its floating-point
numbers `F`, with the documented laws that the package relies on: `str.upper` leaves
no lower-case ASCII letter, `str.lower` and the digits are the usual ones on ASCII,
and `repr` writes at most 24 characters, of which `float` makes `x` again unless `x` is
not a number. -/
structure Python (F : Type) where
  upperChar : Char → Text
  lower : Text → Text
  isAlnumChar : Char → Bool
  isSpaceChar : Char → Bool
  decimal : Char → Option Nat
  gt : F → F → Bool
  eq : F → F → Bool
  repr : F → Text
  float : Text → Option F
  upperChar_not_lower : ∀ c, ∀ u ∈ upperChar c, u.isLower = false
  lower_ascii : ∀ text : Text, text.all isAscii = true → lower text = text.map Char.toLower
  isSpace_digit : ∀ c : Char, c.isDigit = true → isSpaceChar c = false
  eq_self_of_eq : ∀ x y, eq x y = true → eq x x = true
  repr_visible : ∀ x, ∃ c ∈ repr x, isSpaceChar c = false
  repr_short : ∀ x, (repr x).length ≤ 24
  float_repr : ∀ x, eq x x = true → float (repr x) = some x

namespace Python

variable {F : Type} (py : Python F)

/-- `str.upper` -/
def upper (text : Text) : Text := text.flatMap py.upperChar

/-- `str.isalnum` -/
def isAlnum (text : Text) : Bool := !text.isEmpty && text.all py.isAlnumChar

/-- The truth value of `str.strip()`. -/
def isVisible (text : Text) : Bool := text.any (fun c => !py.isSpaceChar c)

end Python

/-! ### Integers -/

/-- `sys.get_int_max_str_digits()` -/
def intMaxStrDigits : Nat := 4300

/-- The decimal digits of an integer behind its sign. -/
def intText (value : Int) : Text :=
  let digits := Nat.toDigits 10 value.natAbs
  if value < 0 then '-' :: digits else digits

/-- `str` of an integer, which refuses more digits than that. -/
def strInt (value : Int) : Option Text :=
  if (Nat.toDigits 10 value.natAbs).length > intMaxStrDigits then none else some (intText value)

/-- `0x` and the format `0<width>X`. -/
def hexText (width : Nat) (value : Int) : Text :=
  let digits := (Nat.toDigits 16 value.natAbs).map Char.toUpper
  let signed := if value < 0 then 1 else 0
  let padded := List.replicate (width - signed - digits.length) '0' ++ digits
  '0' :: 'x' :: (if value < 0 then '-' :: padded else padded)

def digitValue (base : Nat) (c : Char) : Option Nat :=
  let value :=
    if c.isDigit then c.toNat - 48
    else if c.isLower then c.toNat - 87
    else if c.isUpper then c.toNat - 55
    else base
  if value < base then some value else none

/-- Underscores stand between digits only. -/
def underscoresInside : Text → Bool
  | [] => true
  | ['_'] => false
  | '_' :: '_' :: _ => false
  | _ :: rest => underscoresInside rest

/-- The number that a run of digits writes. -/
def digitsValue (base : Nat) (text : Text) : Option Nat := do
  let digits := text.filter (fun c => c ≠ '_')
  if text.head? = some '_' ∨ !underscoresInside text ∨ digits.isEmpty then none
  else if base = 10 ∧ digits.length > intMaxStrDigits then none
  else do
    let values ← digits.mapM (digitValue base)
    return values.foldl (fun total value => total * base + value) 0

def dropUnderscore : Text → Text
  | '_' :: rest => rest
  | text => text

/-- The prefix that base 16 allows, with one underscore behind it. -/
def dropPrefix (base : Nat) : Text → Text
  | '0' :: 'x' :: rest => if base = 16 then dropUnderscore rest else '0' :: 'x' :: rest
  | '0' :: 'X' :: rest => if base = 16 then dropUnderscore rest else '0' :: 'X' :: rest
  | text => text

/-- The ASCII white space of `isspace` in C. -/
def isSpaceAscii (c : Char) : Bool :=
  c == ' ' || c == '\t' || c == '\n' || c == '\x0b' || c == '\x0c' || c == '\r'

def trim (text : Text) : Text :=
  ((text.dropWhile isSpaceAscii).reverse.dropWhile isSpaceAscii).reverse

/-- Decimal digits and white space of any script stand for the ASCII ones. -/
def Python.toAscii {F : Type} (py : Python F) (c : Char) : Char :=
  if c.toNat < 127 then c
  else if py.isSpaceChar c then ' '
  else match py.decimal c with
    | some value => Nat.digitChar value
    | none => '?'

/-- `int(text, base)` -/
def Python.int {F : Type} (py : Python F) (base : Nat) (text : Text) : Option Int :=
  match trim (text.map py.toAscii) with
  | '-' :: rest => (digitsValue base (dropPrefix base rest)).map (fun value : Nat => -(value : Int))
  | '+' :: rest => (digitsValue base (dropPrefix base rest)).map Int.ofNat
  | rest => (digitsValue base (dropPrefix base rest)).map Int.ofNat

/-! ### Cells -/

/-- `sep.join` -/
def join (sep : Char) (items : List Text) : Text := [sep].intercalate items

/-- `str.split(sep)` -/
def split (sep : Char) (text : Text) : List Text := text.splitOn sep

/-- `str.partition(sep)`: what stands before and behind the first separator. -/
def partition (sep : Char) (text : Text) : Text × Option Text :=
  match text with
  | [] => ([], none)
  | c :: rest =>
      if c = sep then ([], some rest)
      else ((c :: (partition sep rest).1), (partition sep rest).2)

/-! ### Laws of the number formats -/

variable {F : Type} (py : Python F) {base : Nat}

/-- A character that `int` takes for a digit or refuses, and for nothing else. -/
def Ordinary (c : Char) : Prop :=
  c.toNat < 127 ∧ isSpaceAscii c = false ∧ c ≠ '_' ∧ c ≠ '-' ∧ c ≠ '+' ∧ c ≠ 'x' ∧ c ≠ 'X'

instance (c : Char) : Decidable (Ordinary c) := by unfold Ordinary; infer_instance

/-- A digit, in the case that `hex` is in. -/
def digitText (upperCase : Bool) (digit : Nat) : Char :=
  if upperCase then (Nat.digitChar digit).toUpper else Nat.digitChar digit

theorem digitText_ordinary :
    ∀ upperCase : Bool, ∀ digit < 16, Ordinary (digitText upperCase digit) := by
  decide

theorem digitValue_digitText :
    ∀ upperCase : Bool, ∀ digit < 16, digitValue 16 (digitText upperCase digit) = some digit := by
  decide

theorem digitValue_digitChar :
    ∀ digit < 10, digitValue 10 (Nat.digitChar digit) = some digit := by
  decide

/-- The digits of a number as numbers, most significant first. -/
theorem toDigits_values (positive : 1 < base) (number : Nat) :
    ∃ digits : List Nat, Nat.toDigits base number = digits.map Nat.digitChar ∧
      (∀ digit ∈ digits, digit < base) ∧ digits ≠ [] ∧
      digits.foldl (fun total value => total * base + value) 0 = number := by
  induction number using Nat.strongRecOn with
  | ind number inductionHypothesis =>
      rw [Nat.toDigits_eq_if positive]
      split
      · rename_i small
        exact ⟨[number], rfl, by simpa using small, by simp, by simp⟩
      · rename_i large
        obtain ⟨digits, written, below, _, total⟩ :=
          inductionHypothesis (number / base) (Nat.div_lt_self (by omega) positive)
        refine ⟨digits ++ [number % base], by simp [written], ?_, by simp, ?_⟩
        · intro digit member
          rcases List.mem_append.mp member with earlier | last
          · exact below digit earlier
          · rw [List.mem_singleton.mp last]
            exact Nat.mod_lt _ (by omega)
        · rw [List.foldl_append, total]
          show number / base * base + number % base = number
          rw [Nat.mul_comm]
          exact Nat.div_add_mod number base

theorem underscoresInside_of_ordinary {text : Text} (ordinary : ∀ c ∈ text, Ordinary c) :
    underscoresInside text = true := by
  induction text with
  | nil => rfl
  | cons c rest inductionHypothesis =>
      have notUnderscore := (ordinary c List.mem_cons_self).2.2.1
      unfold underscoresInside
      split <;> simp_all

/-- A run of digits writes the number they make. -/
theorem digitsValue_map {write : Nat → Char} {digits : List Nat} (nonempty : digits ≠ [])
    (ordinary : ∀ digit ∈ digits, Ordinary (write digit))
    (value : ∀ digit ∈ digits, digitValue base (write digit) = some digit)
    (short : base = 10 → digits.length ≤ intMaxStrDigits) :
    digitsValue base (digits.map write) =
      some (digits.foldl (fun total value => total * base + value) 0) := by
  have plain : ∀ c ∈ digits.map write, Ordinary c := by simpa using ordinary
  have kept : (digits.map write).filter (fun c => c ≠ '_') = digits.map write := by
    rw [List.filter_eq_self]
    intro c member
    simpa using (plain c member).2.2.1
  have head : (digits.map write).head? ≠ some '_' := by
    intro first
    exact (plain '_' (List.mem_of_mem_head? first)).2.2.1 rfl
  have values : (digits.map write).mapM (digitValue base) = some digits := by
    rw [List.mapM_map]
    exact (Lib.Tables.mapM_eq_map value).trans (congrArg some (List.map_id' digits))
  unfold digitsValue
  simp only [kept]
  rw [if_neg, if_neg, values]
  · rfl
  · rintro ⟨decimal, long⟩
    have := short decimal
    rw [List.length_map] at long
    omega
  · rintro (first | stray | empty)
    · exact head first
    · simp [underscoresInside_of_ordinary plain] at stray
    · simp [nonempty] at empty

theorem dropWhile_ordinary {text : Text} (ordinary : ∀ c ∈ text, isSpaceAscii c = false) :
    text.dropWhile isSpaceAscii = text := by
  cases text with
  | nil => rfl
  | cons c rest => rw [List.dropWhile_cons_of_neg (by simp [ordinary c List.mem_cons_self])]

theorem trim_eq {text : Text} (ordinary : ∀ c ∈ text, isSpaceAscii c = false) :
    trim text = text := by
  unfold trim
  rw [dropWhile_ordinary ordinary, dropWhile_ordinary (by simpa using ordinary),
    List.reverse_reverse]

theorem toAscii_eq {text : Text} (ordinary : ∀ c ∈ text, c.toNat < 127) :
    text.map py.toAscii = text := by
  rw [List.map_congr_left (g := id), List.map_id]
  intro c member
  exact if_pos (ordinary c member)

theorem int_digits {digits : List Nat} (nonempty : digits ≠ [])
    (below : ∀ digit ∈ digits, digit < 10) (short : digits.length ≤ intMaxStrDigits) :
    digitsValue 10 (dropPrefix 10 (digits.map Nat.digitChar)) =
      some (digits.foldl (fun total value => total * 10 + value) 0) := by
  have noPrefix : dropPrefix 10 (digits.map Nat.digitChar) = digits.map Nat.digitChar := by
    unfold dropPrefix
    split <;> simp_all
  rw [noPrefix]
  apply digitsValue_map nonempty
  · intro digit member
    exact digitText_ordinary false digit (by have := below digit member; omega)
  · exact fun digit member => digitValue_digitChar digit (below digit member)
  · exact fun _ => short

/-- What `str` writes for an integer, as a sign and digits. -/
theorem strInt_shape {value : Int} {text : Text} (written : strInt value = some text) :
    ∃ digits : List Nat, digits ≠ [] ∧ (∀ digit ∈ digits, digit < 10) ∧
      digits.length ≤ intMaxStrDigits ∧
      digits.foldl (fun total digit => total * 10 + digit) 0 = value.natAbs ∧
      text = if value < 0 then '-' :: digits.map Nat.digitChar else digits.map Nat.digitChar := by
  obtain ⟨digits, digitsEq, below, nonempty, total⟩ :=
    @toDigits_values 10 (by decide) value.natAbs
  unfold strInt intText at written
  simp only [digitsEq, List.length_map] at written
  split at written
  · cases written
  · exact ⟨digits, nonempty, below, by omega, total, (Option.some.inj written).symm⟩

theorem strInt_hasDigit {value : Int} {text : Text} (written : strInt value = some text) :
    ∃ c ∈ text, c.isDigit = true := by
  obtain ⟨digits, nonempty, below, _, _, rfl⟩ := strInt_shape written
  obtain ⟨digit, more, rfl⟩ := List.exists_cons_of_ne_nil nonempty
  have isDigit : (Nat.digitChar digit).isDigit = true := by
    rw [Nat.isDigit_digitChar]
    simpa using below digit List.mem_cons_self
  split
  · exact ⟨Nat.digitChar digit, by simp, isDigit⟩
  · exact ⟨Nat.digitChar digit, by simp, isDigit⟩

theorem strInt_length {value : Int} {text : Text} (written : strInt value = some text) :
    text.length ≤ 4301 := by
  obtain ⟨digits, _, _, short, _, rfl⟩ := strInt_shape written
  unfold intMaxStrDigits at short
  split
  · rw [List.length_cons, List.length_map]
    omega
  · rw [List.length_map]
    omega

theorem strInt_eq_intText {value : Int} {text : Text} (written : strInt value = some text) :
    text = intText value := by
  unfold strInt at written
  split at written
  · cases written
  · exact (Option.some.inj written).symm

/-- Decimal texts have a sign and digits alone. -/
theorem not_mem_intText (value : Int) {c : Char} (unsigned : c ≠ '-')
    (plain : c.isDigit = false) : c ∉ intText value := by
  have digits : c ∉ Nat.toDigits 10 value.natAbs := by
    intro member
    rw [Nat.isDigit_of_mem_toDigits (by decide) (by decide) member] at plain
    cases plain
  unfold intText
  split
  · exact List.not_mem_cons_of_ne_of_not_mem unsigned digits
  · exact digits

theorem strInt_isSome_of_small {value : Int} (atLeast : -131072 ≤ value)
    (atMost : value ≤ 131072) : ∃ text, strInt value = some text := by
  have digits : (Nat.toDigits 10 value.natAbs).length ≤ 6 :=
    (Nat.length_toDigits_le_iff (by decide) (by decide)).mpr (by omega)
  unfold strInt
  rw [if_neg (by unfold intMaxStrDigits; omega)]
  exact ⟨_, rfl⟩

theorem hexText_length {width : Nat} {value : Int} (narrow : width ≤ 4) (natural : 0 ≤ value)
    (small : value ≤ 0xFFFF) : (hexText width value).length ≤ 6 := by
  have digits : (Nat.toDigits 16 value.natAbs).length ≤ 4 :=
    (Nat.length_toDigits_le_iff (by decide) (by decide)).mpr (by omega)
  unfold hexText
  simp only [if_neg (Int.not_lt.mpr natural), List.length_cons, List.length_append,
    List.length_replicate, List.length_map]
  omega

theorem int_strInt {value : Int} {text : Text} (written : strInt value = some text) :
    py.int 10 text = some value := by
  obtain ⟨digits, nonempty, below, short, total, rfl⟩ := strInt_shape written
  have ordinary : ∀ c ∈ digits.map Nat.digitChar, Ordinary c := by
    intro c member
    obtain ⟨digit, inDigits, rfl⟩ := List.mem_map.mp member
    exact digitText_ordinary false digit (by have := below digit inDigits; omega)
  have ascii := toAscii_eq py (fun c member => (ordinary c member).1)
  unfold Python.int
  by_cases negative : value < 0
  · rw [if_pos negative, List.map_cons, ascii, show py.toAscii '-' = '-' from rfl, trim_eq]
    · show (digitsValue 10 (dropPrefix 10 (digits.map Nat.digitChar))).map _ = _
      rw [int_digits nonempty below short, total, Option.map_some]
      congr 1
      omega
    · exact List.forall_mem_cons.mpr ⟨rfl, fun c member => (ordinary c member).2.1⟩
  · rw [if_neg negative, ascii, trim_eq (fun c member => (ordinary c member).2.1)]
    have result := int_digits nonempty below short
    split
    · rename_i rest sign
      exact absurd rfl (ordinary '-' (by rw [sign]; simp)).2.2.2.1
    · rename_i rest sign
      exact absurd rfl (ordinary '+' (by rw [sign]; simp)).2.2.2.2.1
    · rw [result, total]
      show some ((value.natAbs : Nat) : Int) = _
      congr 1
      omega

theorem int_hexText (width : Nat) {value : Int} (natural : 0 ≤ value) :
    py.int 16 (hexText width value) = some value := by
  obtain ⟨digits, digitsEq, below, nonempty, total⟩ :=
    @toDigits_values 16 (by decide) value.natAbs
  obtain ⟨zeros, padded⟩ : ∃ zeros, hexText width value =
      '0' :: 'x' :: (List.replicate zeros 0 ++ digits).map (digitText true) := by
    refine ⟨width - digits.length, ?_⟩
    unfold hexText
    simp only [digitsEq, if_neg (Int.not_lt.mpr natural), List.map_append, List.map_replicate,
      List.map_map, List.length_map, Nat.sub_zero]
    rfl
  have bounded : ∀ digit ∈ List.replicate zeros 0 ++ digits, digit < 16 := by
    intro digit member
    rcases List.mem_append.mp member with zero | member
    · rw [List.eq_of_mem_replicate zero]
      decide
    · exact below digit member
  have ordinary : ∀ c ∈ (List.replicate zeros 0 ++ digits).map (digitText true), Ordinary c := by
    intro c member
    obtain ⟨digit, inDigits, rfl⟩ := List.mem_map.mp member
    exact digitText_ordinary true digit (bounded digit inDigits)
  have number : (List.replicate zeros 0 ++ digits).foldl (fun total digit => total * 16 + digit) 0 =
      value.natAbs := by
    rw [List.foldl_append, ← total]
    congr 1
    clear padded bounded ordinary
    induction zeros with
    | zero => rfl
    | succ zeros inductionHypothesis =>
        rw [List.replicate_succ, List.foldl_cons]
        exact inductionHypothesis
  have noUnderscore : dropUnderscore ((List.replicate zeros 0 ++ digits).map (digitText true)) =
      (List.replicate zeros 0 ++ digits).map (digitText true) := by
    unfold dropUnderscore
    split
    · rename_i rest first
      exact absurd rfl (ordinary '_' (by rw [first]; simp)).2.2.1
    · rfl
  have result : digitsValue 16 ((List.replicate zeros 0 ++ digits).map (digitText true)) =
      some value.natAbs := by
    rw [digitsValue_map (by simp [nonempty])
      (fun digit member => digitText_ordinary true digit (bounded digit member))
      (fun digit member => digitValue_digitText true digit (bounded digit member))
      (by intro decimal; cases decimal), number]
  have ascii := toAscii_eq py (fun c member => (ordinary c member).1)
  unfold Python.int
  rw [padded, List.map_cons, List.map_cons, ascii, show py.toAscii '0' = '0' from rfl,
    show py.toAscii 'x' = 'x' from rfl, trim_eq]
  · show (digitsValue 16 (dropUnderscore _)).map Int.ofNat = _
    rw [noUnderscore, result]
    show some ((value.natAbs : Nat) : Int) = _
    congr 1
    omega
  · exact List.forall_mem_cons.mpr ⟨rfl, List.forall_mem_cons.mpr
      ⟨rfl, fun c member => (ordinary c member).2.1⟩⟩

/-! ### ASCII -/

theorem upper_of_lower :
    ∀ code < 123, 97 ≤ code → (Char.ofNat (code - 32)).isLower = false := by
  decide

theorem asciiUpper_not_lower (c : Char) :
    (if c.isLower then Char.ofNat (c.toNat - 32) else c).isLower = false := by
  split
  · rename_i lower
    have bounds : (decide (c.val ≥ 97) && decide (c.val ≤ 122)) = true := lower
    have range : 97 ≤ c.toNat ∧ c.toNat ≤ 122 := by
      simpa [UInt32.le_iff_toNat_le] using bounds
    exact upper_of_lower c.toNat (by omega) range.1
  · rename_i notLower
    simpa using notLower

theorem asciiSpace_digit (c : Char) (digit : c.isDigit = true) :
    (isSpaceAscii c || (decide (28 ≤ c.toNat) && decide (c.toNat ≤ 31))) = false := by
  have range : 48 ≤ c.toNat ∧ c.toNat ≤ 57 := by
    simpa [Char.isDigit, UInt32.le_iff_toNat_le] using digit
  have notSpace : isSpaceAscii c = false := by
    cases space : isSpaceAscii c with
    | false => rfl
    | true =>
        simp only [isSpaceAscii, Bool.or_eq_true, beq_iff_eq] at space
        rcases space with ((((rfl | rfl) | rfl) | rfl) | rfl) | rfl <;> simp at range
  simp [notSpace]
  omega

/-- The tables for ASCII, with the numbers `0.0` (true) and `nan` (false) alone. -/
def asciiPython : Python Bool where
  upperChar c := [if c.isLower then Char.ofNat (c.toNat - 32) else c]
  lower text := text.map Char.toLower
  isAlnumChar c := c.isAlphanum
  isSpaceChar c := isSpaceAscii c || (28 ≤ c.toNat && c.toNat ≤ 31)
  decimal _ := none
  gt _ _ := false
  eq x y := x && y
  repr x := if x then "0.0".toList else "nan".toList
  float text :=
    if text = "0.0".toList then some true else if text = "nan".toList then some false else none
  upperChar_not_lower := fun c _ member => List.mem_singleton.mp member ▸ asciiUpper_not_lower c
  lower_ascii _ _ := rfl
  isSpace_digit := asciiSpace_digit
  eq_self_of_eq := by decide
  repr_visible x :=
    match x with
    | true => ⟨'0', by decide, rfl⟩
    | false => ⟨'n', by decide, rfl⟩
  repr_short x := by cases x <;> decide
  float_repr x := by cases x <;> decide

/-! ### Laws of the cells -/

theorem not_mem_of_mem_split {sep : Char} {text item : Text} (member : item ∈ split sep text) :
    sep ∉ item := by
  unfold split at member
  induction text generalizing item with
  | nil => simp_all
  | cons c rest inductionHypothesis =>
      rw [List.splitOn_cons_eq_if_modifyHead] at member
      split at member
      · rcases List.mem_cons.mp member with rfl | member
        · simp
        · exact inductionHypothesis member
      · rename_i different
        obtain ⟨first, more, parts⟩ := List.exists_cons_of_ne_nil (List.splitOn_ne_nil sep rest)
        rw [parts, List.modifyHead_cons] at member
        rw [parts] at inductionHypothesis
        rcases List.mem_cons.mp member with rfl | member
        · rw [List.mem_cons, not_or]
          exact ⟨fun same => different (by simp [same]), inductionHypothesis List.mem_cons_self⟩
        · exact inductionHypothesis (List.mem_cons_of_mem first member)

theorem split_join {sep : Char} {items : List Text} (nonempty : items ≠ [])
    (without : ∀ item ∈ items, sep ∉ item) : split sep (join sep items) = items :=
  List.splitOn_intercalate sep without nonempty

theorem partition_append {sep : Char} {before : Text} (without : sep ∉ before) (behind : Text) :
    partition sep (before ++ sep :: behind) = (before, some behind) := by
  induction before with
  | nil => simp [partition]
  | cons c rest inductionHypothesis =>
      simp only [List.mem_cons, not_or] at without
      simp [partition, inductionHypothesis without.2, Ne.symm without.1]

theorem partition_without {sep : Char} {text : Text} (without : sep ∉ text) :
    partition sep text = (text, none) := by
  induction text with
  | nil => rfl
  | cons c rest inductionHypothesis =>
      simp only [List.mem_cons, not_or] at without
      simp [partition, inductionHypothesis without.2, Ne.symm without.1]

theorem eq_of_partition {sep : Char} {text behind : Text}
    (parted : (partition sep text).2 = some behind) :
    text = (partition sep text).1 ++ sep :: behind := by
  induction text with
  | nil => cases parted
  | cons c rest inductionHypothesis =>
      unfold partition at parted ⊢
      split at parted
      · rename_i same
        cases parted
        rw [if_pos same, same]
        rfl
      · rename_i different
        rw [if_neg different]
        exact congrArg (List.cons c) (inductionHypothesis parted)

end Openobsw.Srdb
