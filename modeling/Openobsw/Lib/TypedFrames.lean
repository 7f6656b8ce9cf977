import Openobsw.Lib.Machine

/-!
Owns streams of typed frames: a type byte, a length in two bytes, most significant first,
and a body; and bytes that stand alone as marks. A reader takes the stream byte by byte.
-/

namespace Openobsw.Lib.TypedFrames

/-- What a reader finds: a mark, a frame, or the header of a frame with a length that it
does not accept; it does not read a body then. -/
inductive Item where
  | mark (byte : UInt8)
  | frame (type : UInt8) (body : List UInt8)
  | refused (type : UInt8) (length : Nat)
deriving DecidableEq, Repr

/-- The three bytes before a body. -/
def header (type : UInt8) (length : Nat) : List UInt8 :=
  [type, UInt8.ofNat (length / 256), UInt8.ofNat length]

def Item.bytes : Item → List UInt8
  | .mark byte => [byte]
  | .frame type body => header type body.length ++ body
  | .refused type length => header type length

theorem Item.bytes_frame (type : UInt8) (body : List UInt8) :
    (Item.frame type body).bytes = header type body.length ++ body := rfl

theorem Item.bytes_refused (type : UInt8) (length : Nat) :
    (Item.refused type length).bytes = header type length := rfl

/-- Which bytes are marks, and which lengths the reader does not accept. -/
structure Rules where
  mark : UInt8 → Bool
  refuses : Nat → Bool

/-- How far the reader is in the present item. -/
inductive Reading where
  | type
  | high (type : UInt8)
  | low (type high : UInt8)
  | body (type : UInt8) (length : Nat) (data : List UInt8)
deriving DecidableEq, Repr

def lengthOf (high low : UInt8) : Nat := high.toNat * 256 + low.toNat

/-- The reader takes one byte. -/
def Rules.step (rules : Rules) : Reading → UInt8 → Reading × List Item
  | .type, byte => if rules.mark byte then (.type, [.mark byte]) else (.high byte, [])
  | .high type, byte => (.low type byte, [])
  | .low type high, byte =>
      let length := lengthOf high byte
      if rules.refuses length then (.type, [.refused type length])
      else if length = 0 then (.type, [.frame type []])
      else (.body type length [], [])
  | .body type length data, byte =>
      let data := data ++ [byte]
      if data.length < length then (.body type length data, [])
      else (.type, [.frame type data])

def Rules.reader (rules : Rules) : Machine Reading UInt8 Item where
  take := rules.step

/-- The items that the reader tells apart: a length is a 16-bit number. -/
def Rules.Knows (rules : Rules) : Item → Prop
  | .mark byte => rules.mark byte = true
  | .frame type body =>
      rules.mark type = false ∧ body.length < 65536 ∧ rules.refuses body.length = false
  | .refused type length =>
      rules.mark type = false ∧ length < 65536 ∧ rules.refuses length = true

theorem lengthOf_header {length : Nat} (fits : length < 65536) :
    lengthOf (UInt8.ofNat (length / 256)) (UInt8.ofNat length) = length := by
  unfold lengthOf
  rw [UInt8.toNat_ofNat', UInt8.toNat_ofNat']
  omega

section Steps

variable (rules : Rules) (type high byte : UInt8) (length : Nat) (data : List UInt8)

theorem take_type : rules.reader.take .type byte =
    if rules.mark byte then (.type, [.mark byte]) else (.high byte, []) := rfl

theorem take_low : rules.reader.take (.low type high) byte =
    if rules.refuses (lengthOf high byte) then (.type, [.refused type (lengthOf high byte)])
    else if lengthOf high byte = 0 then (.type, [.frame type []])
    else (.body type (lengthOf high byte) [], []) := rfl

theorem take_body : rules.reader.take (.body type length data) byte =
    if (data ++ [byte]).length < length then (.body type length (data ++ [byte]), [])
    else (.type, [.frame type (data ++ [byte])]) := rfl

end Steps

variable {rules : Rules}

open Machine

/-- The body is read to its last byte. -/
theorem body_atEnd (rules : Rules) (type : UInt8) (data rest : List UInt8) (some : rest ≠ []) :
    rules.reader.AtEnd (.body type (data.length + rest.length) data) rest .type
      [.frame type (data ++ rest)] := by
  induction rest generalizing data with
  | nil => exact absurd rfl some
  | cons byte rest inductionHypothesis =>
      have first := AtEnd.single rules.reader
        (.body type (data.length + (byte :: rest).length) data) byte
      rw [take_body, List.length_append, List.length_singleton, List.length_cons] at first
      cases rest with
      | nil =>
          rw [if_neg (by simp)] at first
          exact first
      | cons next rest =>
          rw [if_pos (by simp)] at first
          have later := inductionHypothesis (data ++ [byte]) (List.cons_ne_nil next rest)
          have same : (data ++ [byte]).length + (next :: rest).length =
              data.length + ((next :: rest).length + 1) := by
            simp only [List.length_append, List.length_singleton]
            omega
          rw [same, List.append_assoc] at later
          exact first.append later

/-- The header is read in silence up to its last byte. -/
theorem header_quiet {type : UInt8} {length : Nat} (plain : rules.mark type = false) :
    rules.reader.AtEnd .type [type, UInt8.ofNat (length / 256)]
      (.low type (UInt8.ofNat (length / 256))) [] := by
  have first := AtEnd.single rules.reader .type type
  rw [take_type, if_neg (by simp [plain])] at first
  exact first.append (AtEnd.single rules.reader (.high type) _)

/-- The last byte of a header. -/
theorem header_last {type : UInt8} {length : Nat} (fits : length < 65536) :
    rules.reader.take (.low type (UInt8.ofNat (length / 256))) (UInt8.ofNat length) =
      if rules.refuses length then (.type, [.refused type length])
      else if length = 0 then (.type, [.frame type []])
      else (.body type length [], []) := by
  rw [take_low, lengthOf_header fits]

/-- The reader finds an item at its last byte, and nothing before. -/
theorem item_atEnd {item : Item} (known : rules.Knows item) :
    rules.reader.AtEnd .type item.bytes .type [item] := by
  cases item with
  | mark byte =>
      have single := AtEnd.single rules.reader .type byte
      rw [take_type, if_pos (show rules.mark byte = true from known)] at single
      exact single
  | refused type length =>
      obtain ⟨plain, fits, refuses⟩ := known
      have last := AtEnd.single rules.reader (.low type (UInt8.ofNat (length / 256)))
        (UInt8.ofNat length)
      rw [header_last fits, if_pos refuses] at last
      exact (header_quiet plain).append last
  | frame type body =>
      obtain ⟨plain, fits, accepted⟩ := known
      have last := AtEnd.single rules.reader (.low type (UInt8.ofNat (body.length / 256)))
        (UInt8.ofNat body.length)
      rw [header_last fits, if_neg (by simp [accepted])] at last
      cases body with
      | nil => exact (header_quiet plain).append last
      | cons byte rest =>
          rw [if_neg (by simp)] at last
          have read := body_atEnd rules type [] (byte :: rest) (List.cons_ne_nil byte rest)
          rw [List.length_nil, Nat.zero_add, List.nil_append] at read
          exact ((header_quiet plain).append last).append read

/-! ### Any stream -/

/-- A length is its two bytes again. -/
theorem header_lengthOf (type high low : UInt8) :
    header type (lengthOf high low) = [type, high, low] := by
  have highest := high.toNat_lt
  have lowest := low.toNat_lt
  have first : UInt8.ofNat (lengthOf high low / 256) = high := by
    apply UInt8.toNat_inj.mp
    unfold lengthOf
    rw [UInt8.toNat_ofNat']
    omega
  have second : UInt8.ofNat (lengthOf high low) = low := by
    apply UInt8.toNat_inj.mp
    unfold lengthOf
    rw [UInt8.toNat_ofNat']
    omega
  unfold header
  rw [first, second]

theorem lengthOf_lt (high low : UInt8) : lengthOf high low < 65536 := by
  have highest := high.toNat_lt
  have lowest := low.toNat_lt
  unfold lengthOf
  omega

theorem Item.bytes_ne_nil (item : Item) : item.bytes ≠ [] := by
  cases item with
  | mark byte => exact List.cons_ne_nil _ _
  | frame type body => exact List.cons_ne_nil _ _
  | refused type length => exact List.cons_ne_nil _ _

/-- A stream that the reader has no item of is the beginning of one. -/
structure Rules.Unfinished (rules : Rules) (stream : List UInt8) : Prop where
  quiet : (rules.reader.run stream .type).2 = []
  short : stream.length < 3 ∨ ∃ type high low body, stream = type :: high :: low :: body ∧
    rules.refuses (lengthOf high low) = false ∧ body.length < lengthOf high low

/-- The beginning of a frame whose body is not complete. -/
theorem unfinished_body {type high low : UInt8} {body : List UInt8}
    (plain : rules.mark type = false) (accepted : rules.refuses (lengthOf high low) = false)
    (short : body.length < lengthOf high low) :
    rules.Unfinished (type :: high :: low :: body) where
  quiet := by
    let whole := body ++ List.replicate (lengthOf high low - body.length) 0
    have length : whole.length = lengthOf high low := by
      rw [List.length_append, List.length_replicate]
      omega
    have known : rules.Knows (.frame type whole) := by
      refine ⟨plain, ?_, ?_⟩
      · rw [length]
        exact lengthOf_lt high low
      · rw [length]
        exact accepted
    have split : (Item.frame type whole).bytes = (type :: high :: low :: body) ++
        List.replicate (lengthOf high low - body.length) 0 := by
      rw [Item.bytes_frame, length, header_lengthOf]
      simp [whole]
    apply (item_atEnd known).silent_within split
    rw [Ne, List.replicate_eq_nil_iff]
    omega
  short := .inr ⟨type, high, low, body, rfl, accepted, short⟩

/-- A stream begins with an item, or is the beginning of one. -/
theorem Rules.split (rules : Rules) (stream : List UInt8) :
    (∃ item rest, rules.Knows item ∧ stream = item.bytes ++ rest) ∨ rules.Unfinished stream := by
  match stream with
  | [] => exact .inr ⟨rfl, .inl (by simp)⟩
  | type :: rest =>
      by_cases marks : rules.mark type = true
      · exact .inl ⟨.mark type, rest, marks, rfl⟩
      have plain : rules.mark type = false := Bool.eq_false_iff.mpr marks
      have first : rules.reader.take .type type = (.high type, []) := by
        rw [take_type, if_neg marks]
      match rest with
      | [] => exact .inr ⟨by simp [first], .inl (by simp)⟩
      | [high] =>
          refine .inr ⟨?_, .inl (by simp)⟩
          rw [run_cons, first]
          rfl
      | high :: low :: body =>
          by_cases refuses : rules.refuses (lengthOf high low) = true
          · refine .inl ⟨.refused type (lengthOf high low), body,
              ⟨plain, lengthOf_lt high low, refuses⟩, ?_⟩
            rw [Item.bytes_refused, header_lengthOf]
            rfl
          have accepted : rules.refuses (lengthOf high low) = false :=
            Bool.eq_false_iff.mpr refuses
          by_cases short : body.length < lengthOf high low
          · exact .inr (unfinished_body plain accepted short)
          have length : (body.take (lengthOf high low)).length = lengthOf high low :=
            List.length_take_of_le (Nat.le_of_not_lt short)
          refine .inl ⟨.frame type (body.take (lengthOf high low)), body.drop (lengthOf high low),
            ⟨plain, ?_, ?_⟩, ?_⟩
          · rw [length]
            exact lengthOf_lt high low
          · rw [length]
            exact accepted
          · rw [Item.bytes_frame, length, header_lengthOf, List.append_assoc,
              List.take_append_drop]
            rfl

/-- A stream is items, and the beginning of one more. -/
theorem Rules.stream (rules : Rules) (stream : List UInt8) :
    ∃ (items : List Item) (tail : List UInt8), (∀ item ∈ items, rules.Knows item) ∧
      stream = items.flatMap Item.bytes ++ tail ∧ rules.Unfinished tail := by
  induction length : stream.length using Nat.strong_induction_on generalizing stream with
  | h count inductionHypothesis =>
      rcases rules.split stream with ⟨item, rest, known, split⟩ | unfinished
      · have positive : 0 < item.bytes.length := List.length_pos_iff.mpr item.bytes_ne_nil
        have fewer : rest.length < count := by
          rw [← length, split, List.length_append]
          omega
        obtain ⟨items, tail, others, same, unfinished⟩ := inductionHypothesis _ fewer rest rfl
        refine ⟨item :: items, tail, ?_, ?_, unfinished⟩
        · intro other member
          rcases List.mem_cons.mp member with rfl | later
          · exact known
          · exact others other later
        · rw [split, same, List.flatMap_cons, List.append_assoc]
      · exact ⟨[], stream, by simp, rfl, unfinished⟩

end Openobsw.Lib.TypedFrames
