import Mathlib.Data.List.Infix

/-!
Owns streams that are cut into items: a decoder that reads back each item whatever follows it,
and makes nothing of an item that is cut short, reads back every stream of items, and a part
of the result from every part of the stream.
-/

namespace Openobsw.Lib.Framing

variable {ι α β : Type*}

/-- What a decoder gives for the bytes of each item. -/
structure Framed (decode : List α → List β) (bytes : ι → List α) (out : ι → List β) : Prop where
  nothing : decode [] = []
  whole : ∀ item rest, decode (bytes item ++ rest) = out item ++ decode rest
  cut : ∀ item front, front <+: bytes item → decode front <+: out item

namespace Framed

variable {decode : List α → List β} {bytes : ι → List α} {out : ι → List β}
  (framed : Framed decode bytes out)

include framed

theorem decode_stream (items : List ι) : decode (items.flatMap bytes) = items.flatMap out := by
  induction items with
  | nil => exact framed.nothing
  | cons item rest inductionHypothesis =>
      rw [List.flatMap_cons, List.flatMap_cons, framed.whole, inductionHypothesis]

theorem decode_prefix {items : List ι} {front : List α}
    (isPrefix : front <+: items.flatMap bytes) : decode front <+: items.flatMap out := by
  induction items generalizing front with
  | nil =>
      rw [List.flatMap_nil, List.prefix_nil] at isPrefix
      rw [isPrefix, framed.nothing]
      exact List.nil_prefix
  | cons item rest inductionHypothesis =>
      rw [List.flatMap_cons] at isPrefix ⊢
      rcases List.prefix_or_prefix_of_prefix isPrefix (List.prefix_append (bytes item) _)
        with within | beyond
      · exact (framed.cut item front within).trans (List.prefix_append _ _)
      · obtain ⟨later, rfl⟩ := beyond
        rw [framed.whole]
        have laterPrefix := (List.prefix_append_right_inj (bytes item)).mp isPrefix
        exact (List.prefix_append_right_inj (out item)).mpr (inductionHypothesis laterPrefix)

end Framed

end Openobsw.Lib.Framing
