import Openobsw.Lib.CParts
import Openobsw.Srdb.Header

/-!
Owns the laws of the texts in the C header: which characters its numbers are made of, and
which constants C reads from them.
-/

namespace Openobsw.Srdb

open Openobsw.Lib

/-! ### Characters -/

/-- A character of a number that is no blank. -/
def isNumberChar (c : Char) : Bool := c.isAlphanum || c == '-'

theorem isNumberChar_of_digit {c : Char} (digit : c.isDigit = true) : isNumberChar c = true := by
  simp [isNumberChar, Char.isAlphanum, digit]

theorem intText_chars (value : Int) : ∀ c ∈ intText value, isNumberChar c = true := by
  have digits : ∀ c ∈ Nat.toDigits 10 value.natAbs, isNumberChar c = true := by
    intro c member
    exact isNumberChar_of_digit (Nat.isDigit_of_mem_toDigits (by decide) (by decide) member)
  unfold intText
  split
  · exact List.forall_mem_cons.mpr ⟨rfl, digits⟩
  · exact digits

theorem digitText_numberChar : ∀ digit < 16, isNumberChar (digitText true digit) = true := by
  decide

theorem toDigits_upper (number : Nat) :
    ∃ digits : List Nat, (Nat.toDigits 16 number).map Char.toUpper = digits.map (digitText true) ∧
      (∀ digit ∈ digits, digit < 16) ∧ digits ≠ [] ∧
      digits.foldl (fun total value => total * 16 + value) 0 = number := by
  obtain ⟨digits, written, below, nonempty, total⟩ := @toDigits_values 16 (by decide) number
  refine ⟨digits, ?_, below, nonempty, total⟩
  rw [written, List.map_map]
  rfl

theorem hexText_chars (width : Nat) (value : Int) :
    ∀ c ∈ hexText width value, isNumberChar c = true := by
  have padded (zeros : Nat) : ∀ c ∈ List.replicate zeros '0' ++
      (Nat.toDigits 16 value.natAbs).map Char.toUpper, isNumberChar c = true := by
    intro c member
    rcases List.mem_append.mp member with zero | digit
    · rw [List.eq_of_mem_replicate zero]
      rfl
    · obtain ⟨digits, written, below, _⟩ := toDigits_upper value.natAbs
      rw [written] at digit
      obtain ⟨number, inDigits, rfl⟩ := List.mem_map.mp digit
      exact digitText_numberChar number (below number inDigits)
  unfold hexText
  refine List.forall_mem_cons.mpr ⟨rfl, List.forall_mem_cons.mpr ⟨rfl, ?_⟩⟩
  split
  · exact List.forall_mem_cons.mpr ⟨rfl, padded _⟩
  · exact padded _

theorem unsigned_chars (value : Int) : ∀ c ∈ unsigned value, isNumberChar c = true :=
  List.forall_mem_append.mpr ⟨intText_chars value, CSource.forall_of_all (by decide)⟩

theorem unsignedHex_chars (width : Nat) (value : Int) :
    ∀ c ∈ unsignedHex width value, isNumberChar c = true :=
  List.forall_mem_append.mpr ⟨hexText_chars width value, CSource.forall_of_all (by decide)⟩

theorem quiet_of_numberChar {c : Char} (number : isNumberChar c = true) : CSource.Quiet c := by
  refine ⟨⟨?_, ?_⟩, ?_, ?_, ?_, ?_⟩ <;> rintro rfl <;> exact absurd number (by decide)

theorem not_blank_of_numberChar {c : Char} (number : isNumberChar c = true) :
    CSource.isBlank c = false := by
  by_contra blank
  simp only [CSource.isBlank, Bool.not_eq_false, Bool.or_eq_true, beq_iff_eq] at blank
  rcases blank with ((rfl | rfl) | rfl) | rfl <;> exact absurd number (by decide)

theorem quiet_of_identifierChar {c : Char} (identifier : isIdentifierChar c = true) :
    CSource.Quiet c := by
  refine ⟨⟨?_, ?_⟩, ?_, ?_, ?_, ?_⟩ <;> rintro rfl <;> exact absurd identifier (by decide)

theorem nameChar_of_identifierChar {c : Char} (identifier : isIdentifierChar c = true) :
    CSource.isNameChar c = true := by
  unfold isIdentifierChar at identifier
  rcases (Bool.or_eq_true _ _).mp identifier with alphanum | underscore
  · simp [CSource.isNameChar, alphanum]
  · rw [of_decide_eq_true underscore]
    rfl

theorem forall_mem_intercalate {P : Char → Prop} {sep : Text} {items : List Text}
    (inSep : ∀ c ∈ sep, P c) (inItems : ∀ item ∈ items, ∀ c ∈ item, P c) :
    ∀ c ∈ sep.intercalate items, P c := by
  induction items with
  | nil => exact fun c member => absurd member List.not_mem_nil
  | cons item rest inductionHypothesis =>
      have later := inductionHypothesis
        (fun other inRest => inItems other (List.mem_cons_of_mem _ inRest))
      have own := inItems item List.mem_cons_self
      cases rest with
      | nil => simpa [List.intercalate] using own
      | cons second more =>
          rw [List.intercalate_cons_cons]
          exact List.forall_mem_append.mpr ⟨List.forall_mem_append.mpr ⟨own, inSep⟩, later⟩

theorem braced_quiet {items : List Text} (quiet : ∀ item ∈ items, ∀ c ∈ item, CSource.Quiet c) :
    ∀ c ∈ braced items, CSource.Quiet c := by
  unfold braced
  exact List.forall_mem_append.mpr ⟨List.forall_mem_append.mpr
    ⟨CSource.forall_of_all (by decide),
      forall_mem_intercalate (CSource.forall_of_all (by decide)) quiet⟩,
    CSource.forall_of_all (by decide)⟩

theorem unsigned_quiet (value : Int) : ∀ c ∈ unsigned value, CSource.Quiet c :=
  fun c member => quiet_of_numberChar (unsigned_chars value c member)

theorem unsignedHex_quiet (width : Nat) (value : Int) :
    ∀ c ∈ unsignedHex width value, CSource.Quiet c :=
  fun c member => quiet_of_numberChar (unsignedHex_chars width value c member)

theorem MacroBody.text_quiet (body : MacroBody) : ∀ c ∈ body.text, CSource.Quiet c := by
  cases body with
  | hex width value => exact unsignedHex_quiet width value
  | decimal value => exact unsigned_quiet value
  | initialiser values =>
      apply braced_quiet
      rw [List.forall_mem_map]
      exact fun value _ => unsigned_quiet value

/-- The text of a body has no blank at its ends. -/
theorem MacroBody.text_ends (body : MacroBody) :
    body.text.head?.any (fun c => !CSource.isBlank c) = true ∧
      body.text.getLast?.any (fun c => !CSource.isBlank c) = true := by
  have ends {text : Text} (chars : ∀ c ∈ text, isNumberChar c = true) :
      (text ++ ['U']).head?.any (fun c => !CSource.isBlank c) = true ∧
        (text ++ ['U']).getLast?.any (fun c => !CSource.isBlank c) = true := by
    constructor
    · cases text with
      | nil => rfl
      | cons first more => simp [not_blank_of_numberChar (chars first List.mem_cons_self)]
    · rw [List.getLast?_append]
      rfl
  cases body with
  | hex width value => exact ends (hexText_chars width value)
  | decimal value => exact ends (intText_chars value)
  | initialiser values =>
      refine ⟨rfl, ?_⟩
      unfold text braced
      rw [List.getLast?_append]
      rfl

/-! ### Constants -/

theorem unsignedLiteral_eq_self {value : Int} :
    unsignedLiteral value = some value ↔ 0 ≤ value ∧ value < 0x10000000000000000 := by
  unfold unsignedLiteral
  split
  · rw [Option.some.injEq]
    omega
  · split
    · rw [Option.some.injEq]
      omega
    · simp only [reduceCtorEq, false_iff]
      omega

theorem digitsOnly_map {base : Nat} {write : Nat → Char} {digits : List Nat} (nonempty : digits ≠ [])
    (value : ∀ digit ∈ digits, digitValue base (write digit) = some digit) :
    digitsOnly base (digits.map write) =
      some (digits.foldl (fun total digit => total * base + digit) 0) := by
  have values : (digits.map write).mapM (digitValue base) = some digits := by
    rw [List.mapM_map]
    exact (Lib.Tables.mapM_eq_map value).trans (congrArg some (List.map_id' digits))
  unfold digitsOnly
  rw [if_neg (by simpa using nonempty), values]
  rfl

/-- The first digit of a number is not zero. -/
theorem toDigits_head {number : Nat} (positive : 0 < number) :
    (Nat.toDigits 10 number).head? ≠ some '0' := by
  induction number using Nat.strongRecOn with
  | ind number inductionHypothesis =>
      rw [Nat.toDigits_eq_if (by decide)]
      split
      · show some (Nat.digitChar number) ≠ some '0'
        rw [Ne, Option.some.injEq, Nat.digitChar_eq_zero]
        omega
      · rename_i large
        obtain ⟨first, more, written⟩ :=
          List.exists_cons_of_ne_nil (Nat.toDigits_ne_nil (n := number / 10) (b := 10))
        have head := inductionHypothesis (number / 10) (Nat.div_lt_self (by omega) (by decide))
          (by omega)
        rw [written] at head ⊢
        exact head

theorem magnitude_toDigits (number : Nat) : magnitude (Nat.toDigits 10 number) = some number := by
  obtain ⟨digits, written, below, nonempty, total⟩ := @toDigits_values 10 (by decide) number
  have notZero : ¬ (1 < (Nat.toDigits 10 number).length ∧
      (Nat.toDigits 10 number).head? = some '0') := by
    rintro ⟨long, zero⟩
    rcases Nat.eq_zero_or_pos number with rfl | positive
    · rw [Nat.toDigits_zero] at long
      exact absurd long (by decide)
    · exact toDigits_head positive zero
  have decimal : digitsOnly 10 (Nat.toDigits 10 number) = some number := by
    rw [written, digitsOnly_map nonempty (fun digit member =>
      digitValue_digitChar digit (below digit member)), total]
  unfold magnitude
  split
  · rename_i rest hexadecimal
    have digit := Nat.isDigit_of_mem_toDigits (b := 10) (n := number) (c := 'x') (by decide)
      (by decide) (by rw [hexadecimal]; simp)
    cases digit
  · rw [if_neg notZero, decimal]

theorem constantOf_unsigned (value : Int) : constantOf (unsigned value) = unsignedLiteral value := by
  have shape : (unsigned value).reverse = 'U' :: (intText value).reverse := List.reverse_concat
  have digits := magnitude_toDigits value.natAbs
  unfold constantOf
  rw [shape]
  simp only [List.reverse_reverse]
  unfold intText
  by_cases negative : value < 0
  · simp only [if_pos negative]
    rw [digits, Option.bind_some]
    congr 1
    omega
  · simp only [if_neg negative]
    obtain ⟨first, more, written⟩ :=
      List.exists_cons_of_ne_nil (Nat.toDigits_ne_nil (n := value.natAbs) (b := 10))
    have natural : ((value.natAbs : Nat) : Int) = value := by omega
    split
    · rename_i rest sign
      have digit := Nat.isDigit_of_mem_toDigits (b := 10) (n := value.natAbs) (c := '-')
        (by decide) (by decide) (by rw [sign]; simp)
      cases digit
    · rw [digits, Option.bind_some, natural]

theorem constantOf_unsignedHex (width : Nat) {value : Int} (natural : 0 ≤ value) :
    constantOf (unsignedHex width value) = unsignedLiteral value := by
  obtain ⟨digits, written, below, nonempty, total⟩ := toDigits_upper value.natAbs
  have zeros (count : Nat) : List.replicate count '0' ++ digits.map (digitText true) =
      (List.replicate count 0 ++ digits).map (digitText true) := by
    rw [List.map_append, List.map_replicate]
    rfl
  have fromZero (count : Nat) : (List.replicate count 0).foldl
      (fun total digit => total * 16 + digit) 0 = 0 := by
    induction count with
    | zero => rfl
    | succ count inductionHypothesis => exact inductionHypothesis
  have text : hexText width value = '0' :: 'x' ::
      (List.replicate (width - (digits.map (digitText true)).length) 0 ++ digits).map
        (digitText true) := by
    unfold hexText
    simp only [if_neg (Int.not_lt.mpr natural), written, zeros, Nat.sub_zero]
  have shape : (unsignedHex width value).reverse = 'U' :: (hexText width value).reverse :=
    List.reverse_concat
  unfold constantOf
  rw [shape]
  simp only [List.reverse_reverse, text]
  show (digitsOnly 16 ((List.replicate _ 0 ++ digits).map (digitText true))).bind _ = _
  rw [digitsOnly_map (by simp [nonempty]), List.foldl_append, fromZero, total, Option.bind_some]
  · congr 1
    omega
  · intro digit member
    apply digitValue_digitText true digit
    rcases List.mem_append.mp member with zero | inDigits
    · rw [List.eq_of_mem_replicate zero]
      decide
    · exact below digit inDigits

theorem digitsOnly_unblank {base : Nat} {text : Text} {number : Nat}
    (read : digitsOnly base text = some number) : ' ' ∉ text := by
  unfold digitsOnly at read
  split at read
  · cases read
  · obtain ⟨values, each, _⟩ := Option.map_eq_some_iff.mp read
    intro blank
    obtain ⟨value, digit⟩ := Lib.Tables.exists_of_mapM each blank
    simp [digitValue] at digit

theorem magnitude_unblank {text : Text} {number : Nat} (read : magnitude text = some number) :
    ' ' ∉ text := by
  unfold magnitude at read
  split at read
  · simpa using digitsOnly_unblank read
  · split at read
    · cases read
    · exact digitsOnly_unblank read

/-- A constant is no text with a blank in it. -/
theorem constantOf_unblank {text : Text} {value : Int} (read : constantOf text = some value) :
    ' ' ∉ text := by
  unfold constantOf at read
  rw [← List.mem_reverse]
  split at read
  · rename_i reversed shape
    rw [shape, List.mem_cons, not_or]
    refine ⟨by decide, ?_⟩
    rw [← List.mem_reverse]
    split at read
    · rename_i rest signed
      obtain ⟨number, digits, _⟩ := Option.bind_eq_some_iff.mp read
      rw [signed, List.mem_cons, not_or]
      exact ⟨by decide, magnitude_unblank digits⟩
    · obtain ⟨number, digits, _⟩ := Option.bind_eq_some_iff.mp read
      exact magnitude_unblank digits
  · cases read

end Openobsw.Srdb
