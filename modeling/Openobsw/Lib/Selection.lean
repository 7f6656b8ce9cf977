import Mathlib.Order.Lattice

/-!
Owns the selection of a best entry: one scan over a table that keeps the first
eligible entry no later eligible one beats. When `better` compares keys of a
linear order, the scan returns an eligible entry of least key.
-/

namespace Openobsw.Lib.Selection

variable {α : Type*}

/-- One turn of the scan: keep the entry seen so far unless this one is better. -/
def scanStep (eligible : α → Bool) (better : α → α → Bool) (index : Nat) (entry : α)
    (next : Option (Nat × α)) : Option (Nat × α) :=
  if eligible entry = false then next
  else
    match next with
    | none => some (index, entry)
    | some (_, held) => if better entry held then some (index, entry) else next

/-- Scan the entries from position `index` on, with `next` the best one before. -/
def scan (eligible : α → Bool) (better : α → α → Bool) :
    List α → Nat → Option (Nat × α) → Option (Nat × α)
  | [], _, next => next
  | entry :: rest, index, next =>
      scan eligible better rest (index + 1) (scanStep eligible better index entry next)

/-- The best eligible entry of a table with its position. -/
def selectBest (eligible : α → Bool) (better : α → α → Bool) (table : List α) :
    Option (Nat × α) :=
  scan eligible better table 0 none

variable {κ : Type*} [LinearOrder κ]

/-- The result of a selection over `table`: no entry is eligible, or the selected
one is in its place, eligible, and of least key. -/
def IsBest (eligible : α → Bool) (key : α → κ) (table : List α) : Option (Nat × α) → Prop
  | none => ∀ entry ∈ table, eligible entry = false
  | some (index, best) =>
      table[index]? = some best ∧ eligible best = true ∧
        ∀ entry ∈ table, eligible entry = true → key best ≤ key entry

theorem scanStep_isBest {eligible : α → Bool} {better : α → α → Bool} {key : α → κ}
    (order : ∀ first second, better first second = true ↔ key first < key second)
    {done : List α} {next : Option (Nat × α)} (entry : α)
    (best : IsBest eligible key done next) :
    IsBest eligible key (done ++ [entry]) (scanStep eligible better done.length entry next) := by
  have here : (done ++ [entry])[done.length]? = some entry := by simp
  unfold scanStep
  cases able : eligible entry with
  | false =>
      rw [if_pos rfl]
      cases next with
      | none =>
          intro other member
          rcases List.mem_append.mp member with before | last
          · exact best other before
          · rw [List.mem_singleton.mp last]
            exact able
      | some held =>
          obtain ⟨place, ready, least⟩ := best
          obtain ⟨inRange, _⟩ := List.getElem?_eq_some_iff.mp place
          refine ⟨?_, ready, ?_⟩
          · rw [List.getElem?_append_left inRange]
            exact place
          · intro other member otherReady
            rcases List.mem_append.mp member with before | last
            · exact least other before otherReady
            · rw [List.mem_singleton.mp last, able] at otherReady
              cases otherReady
  | true =>
      rw [if_neg (by simp)]
      cases next with
      | none =>
          refine ⟨here, able, ?_⟩
          intro other member otherReady
          rcases List.mem_append.mp member with before | last
          · rw [best other before] at otherReady
            cases otherReady
          · rw [List.mem_singleton.mp last]
      | some held =>
          obtain ⟨place, ready, least⟩ := best
          obtain ⟨inRange, _⟩ := List.getElem?_eq_some_iff.mp place
          show IsBest eligible key (done ++ [entry])
            (if better entry held.2 then some (done.length, entry) else some held)
          by_cases wins : better entry held.2 = true
          · rw [if_pos wins]
            have smaller := (order entry held.2).mp wins
            refine ⟨here, able, ?_⟩
            intro other member otherReady
            rcases List.mem_append.mp member with before | last
            · exact smaller.le.trans (least other before otherReady)
            · rw [List.mem_singleton.mp last]
          · rw [if_neg wins]
            have kept : key held.2 ≤ key entry :=
              not_lt.mp (fun smaller => wins ((order entry held.2).mpr smaller))
            refine ⟨?_, ready, ?_⟩
            · rw [List.getElem?_append_left inRange]
              exact place
            · intro other member otherReady
              rcases List.mem_append.mp member with before | last
              · exact least other before otherReady
              · rw [List.mem_singleton.mp last]
                exact kept

theorem scan_isBest {eligible : α → Bool} {better : α → α → Bool} {key : α → κ}
    (order : ∀ first second, better first second = true ↔ key first < key second)
    (rest done : List α) (next : Option (Nat × α)) (best : IsBest eligible key done next) :
    IsBest eligible key (done ++ rest) (scan eligible better rest done.length next) := by
  induction rest generalizing done next with
  | nil =>
      rw [List.append_nil]
      exact best
  | cons entry rest inductionHypothesis =>
      have step := inductionHypothesis (done ++ [entry]) _ (scanStep_isBest order entry best)
      rw [List.append_assoc, List.length_append] at step
      exact step

/-- When `better` compares keys, the selected entry is eligible and of least key. -/
theorem selectBest_isBest {eligible : α → Bool} {better : α → α → Bool} {key : α → κ}
    (order : ∀ first second, better first second = true ↔ key first < key second)
    (table : List α) : IsBest eligible key table (selectBest eligible better table) := by
  apply scan_isBest order table [] none
  intro entry member
  cases member

end Openobsw.Lib.Selection
