import Mathlib.Data.List.Infix
import Mathlib.Data.List.Nodup
import Mathlib.Tactic.Common

/-!
Owns texts that are made of parts: sections of names that a tag tells apart, stems with
suffixes that their last characters tell apart, and a pair of characters inside of a
text with a frame.
-/

namespace Openobsw.Lib.Names

variable {α τ : Type*}

/-! ### Sections -/

/-- Names in sections of different tags are distinct when those of each section are. -/
theorem nodup_sections {tag : List α → τ} {sections : List (τ × List (List α))}
    (tagged : ∀ part ∈ sections, ∀ name ∈ part.2, tag name = part.1)
    (different : (sections.map Prod.fst).Nodup) :
    (sections.flatMap Prod.snd).Nodup ↔ ∀ part ∈ sections, part.2.Nodup := by
  induction sections with
  | nil => simp
  | cons part rest inductionHypothesis =>
      rw [List.map_cons, List.nodup_cons] at different
      have apart : ∀ name ∈ part.2, ∀ other ∈ rest.flatMap Prod.snd, name ≠ other := by
        intro name inPart other inRest same
        obtain ⟨later, inSections, member⟩ := List.mem_flatMap.mp inRest
        have tagEq : part.1 = later.1 := by
          rw [← tagged part List.mem_cons_self name inPart, same]
          exact tagged later (List.mem_cons_of_mem _ inSections) other member
        exact different.1 (tagEq ▸ List.mem_map_of_mem inSections)
      have others := inductionHypothesis
        (fun later inRest => tagged later (List.mem_cons_of_mem _ inRest)) different.2
      rw [List.flatMap_cons, List.nodup_append, List.forall_mem_cons, others]
      exact ⟨fun both => ⟨both.1, both.2.1⟩, fun both => ⟨both.1, both.2, apart⟩⟩

/-! ### Stems and suffixes -/

/-- The suffixes differ in their last characters. -/
structure Separated (width : Nat) (suffixes : List (List α)) : Prop where
  long : ∀ suffix ∈ suffixes, width ≤ suffix.length
  ends : (suffixes.map (fun suffix => suffix.reverse.take width)).Nodup

/-- Every stem with every suffix. -/
def withSuffixes (suffixes stems : List (List α)) : List (List α) :=
  stems.flatMap (fun stem => suffixes.map (fun suffix => stem ++ suffix))

variable {width : Nat} {suffixes stems : List (List α)}

theorem mem_withSuffixes {name : List α} :
    name ∈ withSuffixes suffixes stems ↔
      ∃ stem ∈ stems, ∃ suffix ∈ suffixes, name = stem ++ suffix := by
  simp [withSuffixes, eq_comm]

theorem Separated.append_inj (separated : Separated width suffixes)
    {stem other suffix otherSuffix : List α} (inSuffixes : suffix ∈ suffixes)
    (otherIn : otherSuffix ∈ suffixes) (same : stem ++ suffix = other ++ otherSuffix) :
    stem = other ∧ suffix = otherSuffix := by
  have ends := congrArg (fun name : List α => name.reverse.take width) same
  simp only [List.reverse_append] at ends
  rw [List.take_append_of_le_length (by simpa using separated.long suffix inSuffixes),
    List.take_append_of_le_length (by simpa using separated.long otherSuffix otherIn)] at ends
  have suffixEq := List.inj_on_of_nodup_map separated.ends inSuffixes otherIn ends
  rw [suffixEq] at same
  exact ⟨List.append_cancel_right same, suffixEq⟩

/-- Names of distinct stems with separated suffixes are distinct, and only those. -/
theorem Separated.nodup_iff (separated : Separated width suffixes) (nonempty : suffixes ≠ []) :
    (withSuffixes suffixes stems).Nodup ↔ stems.Nodup := by
  have suffixesNodup : suffixes.Nodup := List.Nodup.of_map _ separated.ends
  induction stems with
  | nil => simp [withSuffixes]
  | cons stem rest inductionHypothesis =>
      have own : (suffixes.map (fun suffix => stem ++ suffix)).Nodup :=
        (List.nodup_map_iff (List.append_right_injective stem)).mpr suffixesNodup
      have split : withSuffixes suffixes (stem :: rest) =
          suffixes.map (fun suffix => stem ++ suffix) ++ withSuffixes suffixes rest :=
        List.flatMap_cons
      have others : (withSuffixes suffixes rest).Nodup ↔ rest.Nodup := inductionHypothesis
      rw [split, List.nodup_append, others, List.nodup_cons]
      constructor
      · intro distinct
        refine ⟨?_, distinct.2.1⟩
        intro again
        obtain ⟨suffix, more, rfl⟩ := List.exists_cons_of_ne_nil nonempty
        exact distinct.2.2 _ (List.mem_map_of_mem List.mem_cons_self) _
          (mem_withSuffixes.mpr ⟨stem, again, suffix, List.mem_cons_self, rfl⟩) rfl
      · intro distinct
        refine ⟨own, distinct.2, ?_⟩
        intro name inOwn other inRest same
        obtain ⟨suffix, inSuffixes, rfl⟩ := List.mem_map.mp inOwn
        obtain ⟨otherStem, inStems, otherSuffix, otherIn, rfl⟩ := mem_withSuffixes.mp inRest
        have stemEq := (separated.append_inj inSuffixes otherIn same).1
        exact distinct.1 (stemEq ▸ inStems)

/-! ### A pair of characters -/

variable {x y : α}

theorem pair_prefix_cons {c : α} {text : List α} :
    [x, y] <+: c :: text ↔ x = c ∧ text.head? = some y := by
  rw [List.cons_prefix_cons]
  cases text with
  | nil => simp
  | cons d rest => simp [List.cons_prefix_cons, eq_comm]

/-- A pair is inside of a join when it is in one of the parts or where they meet. -/
theorem pair_infix_append {first second : List α} :
    [x, y] <:+: first ++ second ↔ [x, y] <:+: first ∨ [x, y] <:+: second ∨
      (first.getLast? = some x ∧ second.head? = some y) := by
  induction first with
  | nil => simp
  | cons c rest inductionHypothesis =>
      rw [List.cons_append, List.infix_cons_iff, List.infix_cons_iff, inductionHypothesis,
        pair_prefix_cons, pair_prefix_cons]
      cases rest with
      | nil =>
          simp only [List.nil_append, List.head?_nil, List.getLast?_nil, List.getLast?_singleton,
            reduceCtorEq, and_false, false_and, false_or, or_false, List.infix_nil,
            List.cons_ne_nil, Option.some.injEq, eq_comm (a := c)]
          exact or_comm
      | cons d more =>
          simp only [List.cons_append, List.head?_cons, List.getLast?_cons_cons, or_assoc]

/-- A frame without the pair neither makes nor hides one. -/
theorem pair_infix_frame {before text behind : List α} (unpaired : ¬ [x, y] <:+: before)
    (last : before.getLast? ≠ some x) (absent : x ∉ behind) (head : behind.head? ≠ some y) :
    [x, y] <:+: before ++ text ++ behind ↔ [x, y] <:+: text := by
  have unpairedBehind : ¬ [x, y] <:+: behind :=
    fun inside => absent (inside.subset List.mem_cons_self)
  rw [pair_infix_append, pair_infix_append]
  simp [unpaired, last, unpairedBehind, head]

end Openobsw.Lib.Names
