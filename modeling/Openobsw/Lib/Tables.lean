import Mathlib.Data.List.Perm.Basic

/-!
Owns packed tables over a list: a bounded append, removal by moving the last
entry into the hole, and removal of a slice by shifting the tail down. Each
operation is stated as the indexed loop an array implementation runs; the
theorems give its meaning as a plain list operation.
-/

namespace Openobsw.Lib.Tables

variable {α : Type*}

/-! ### Bounded append -/

/-- Append one entry to a table of `capacity` slots; `none` writes past the end. -/
def pushWithin (capacity : Nat) (table : List α) (entry : α) : Option (List α) :=
  if table.length < capacity then some (table ++ [entry]) else none

theorem pushWithin_eq {capacity : Nat} {table : List α} (entry : α)
    (room : table.length < capacity) :
    pushWithin capacity table entry = some (table ++ [entry]) :=
  if_pos room

/-- Append a block of entries to a table of `capacity` slots. -/
def appendWithin (capacity : Nat) (table entries : List α) : Option (List α) :=
  if table.length + entries.length ≤ capacity then some (table ++ entries) else none

theorem appendWithin_eq {capacity : Nat} {table entries : List α}
    (room : table.length + entries.length ≤ capacity) :
    appendWithin capacity table entries = some (table ++ entries) :=
  if_pos room

/-! ### Lookup by key -/

section Lookup

variable {κ : Type*} [BEq κ] [LawfulBEq κ]

/-- The position of the first entry with a key. -/
def findKey (key : α → κ) (table : List α) (wanted : κ) : Option Nat :=
  table.findIdx? (fun entry => key entry == wanted)

theorem findKey_some {key : α → κ} {table : List α} {wanted : κ} {index : Nat}
    (found : findKey key table wanted = some index) :
    ∃ entry, table[index]? = some entry ∧ key entry = wanted := by
  obtain ⟨inRange, matched, _⟩ := List.findIdx?_eq_some_iff_getElem.mp found
  exact ⟨_, List.getElem?_eq_getElem inRange, by simpa using matched⟩

theorem findKey_eq_none_iff (key : α → κ) (table : List α) (wanted : κ) :
    findKey key table wanted = none ↔ wanted ∉ table.map key := by
  simp only [findKey, List.findIdx?_eq_none_iff, List.mem_map, not_exists, not_and]
  constructor
  · intro absent entry member same
    have other := absent entry member
    simp [same] at other
  · intro absent entry member
    simpa using absent entry member

omit [LawfulBEq κ] in
/-- A lookup depends on the keys of the table only. -/
theorem findKey_congr {key : α → κ} {table other : List α}
    (sameKeys : other.map key = table.map key) (wanted : κ) :
    findKey key other wanted = findKey key table wanted := by
  have byKeys : ∀ entries : List α, findKey key entries wanted =
      (entries.map key).findIdx? (fun found => found == wanted) := by
    intro entries
    rw [List.findIdx?_map]
    rfl
  rw [byKeys, byKeys, sameKeys]

/-- Overwriting an entry by one of the same key keeps the keys. -/
theorem map_set_of_findKey (key : α → κ) {table : List α} {index : Nat} {entry : α}
    (found : findKey key table (key entry) = some index) :
    (table.set index entry).map key = table.map key := by
  obtain ⟨old, place, same⟩ := findKey_some found
  obtain ⟨inRange, _⟩ := List.getElem?_eq_some_iff.mp place
  rw [List.map_set]
  apply List.ext_getElem?
  intro position
  rw [List.getElem?_set]
  split
  · rename_i here
    subst here
    rw [if_pos (by simpa using inRange), List.getElem?_map, place]
    exact congrArg some same.symm
  · rfl

end Lookup

theorem getElem?_of_take {table : List α} {count index : Nat} {entry : α}
    (found : (table.take count)[index]? = some entry) : table[index]? = some entry := by
  rw [List.getElem?_take] at found
  split at found
  · exact found
  · cases found

theorem getElem?_of_drop {table rest : List α} {index : Nat} {entry : α}
    (ahead : table.drop index = entry :: rest) : table[index]? = some entry := by
  rw [← List.head?_drop, ahead]
  rfl

/-- A change of one entry leaves those behind it. -/
theorem drop_succ_modify {table rest : List α} {index : Nat} {entry : α}
    (ahead : table.drop index = entry :: rest) (change : α → α) :
    (table.modify index change).drop (index + 1) = rest := by
  rw [List.drop_modify_of_lt _ _ _ _ (Nat.lt_succ_self index), ← Nat.add_one, ← List.drop_drop,
    ahead]
  rfl

/-! ### Loops that read one entry a turn -/

theorem mapM_isSome {β : Type*} {f : α → Option β} {table : List α}
    (each : ∀ entry ∈ table, ∃ value, f entry = some value) :
    ∃ values, table.mapM f = some values ∧ values.length = table.length := by
  induction table with
  | nil => exact ⟨[], rfl, rfl⟩
  | cons entry rest inductionHypothesis =>
      obtain ⟨value, first⟩ := each entry List.mem_cons_self
      obtain ⟨values, tail, length⟩ :=
        inductionHypothesis (fun other member => each other (List.mem_cons_of_mem entry member))
      refine ⟨value :: values, ?_, by simp [length]⟩
      rw [List.mapM_cons, first, tail]
      rfl

theorem mapM_eq_map {β : Type*} {f : α → Option β} {g : α → β} {table : List α}
    (each : ∀ entry ∈ table, f entry = some (g entry)) : table.mapM f = some (table.map g) := by
  induction table with
  | nil => rfl
  | cons entry rest inductionHypothesis =>
      rw [List.mapM_cons, each entry List.mem_cons_self,
        inductionHypothesis (fun other member => each other (List.mem_cons_of_mem entry member))]
      rfl

/-- Lists with the same images have related entries at the same places. -/
theorem getElem?_of_map_eq {β γ : Type*} {f : β → γ} {g : α → γ} {values : List β}
    {table : List α} (same : values.map f = table.map g) {index : Nat} {entry : α}
    (place : table[index]? = some entry) :
    ∃ value, values[index]? = some value ∧ f value = g entry := by
  have images := congrArg (fun list : List γ => list[index]?) same
  simp only [List.getElem?_map, place, Option.map_some] at images
  exact Option.map_eq_some_iff.mp images

/-- The loop succeeds when every turn does, on the results of the turns. -/
theorem mapM_eq_some_iff {β : Type*} {f : α → Option β} {table : List α} {values : List β} :
    table.mapM f = some values ↔
      List.Forall₂ (fun entry value => f entry = some value) table values := by
  induction table generalizing values with
  | nil =>
      rw [List.mapM_nil, List.forall₂_nil_left_iff]
      exact ⟨fun same => (Option.some.inj same).symm, fun same => by rw [same]; rfl⟩
  | cons entry rest inductionHypothesis =>
      rw [List.mapM_cons, List.forall₂_cons_left_iff]
      constructor
      · intro succeeded
        obtain ⟨value, first, others⟩ := Option.bind_eq_some_iff.mp succeeded
        obtain ⟨tail, restEq, same⟩ := Option.bind_eq_some_iff.mp others
        cases same
        exact ⟨value, tail, first, inductionHypothesis.mp restEq, rfl⟩
      · rintro ⟨value, tail, first, others, rfl⟩
        rw [first, inductionHypothesis.mpr others]
        rfl

/-- A loop whose turns succeed on good entries alone, with a known result. -/
theorem mapM_iff_of_spec {β : Type*} {f : α → Option β} {g : α → β} {good : α → Prop}
    (spec : ∀ entry value, f entry = some value ↔ good entry ∧ value = g entry)
    {table : List α} {values : List β} :
    table.mapM f = some values ↔ (∀ entry ∈ table, good entry) ∧ values = table.map g := by
  rw [mapM_eq_some_iff]
  simp only [spec]
  induction table generalizing values with
  | nil => simp
  | cons entry rest inductionHypothesis =>
      rw [List.forall₂_cons_left_iff, List.forall_mem_cons, List.map_cons]
      constructor
      · rintro ⟨value, tail, ⟨first, rfl⟩, others, rfl⟩
        obtain ⟨good, rfl⟩ := inductionHypothesis.mp others
        exact ⟨⟨first, good⟩, rfl⟩
      · rintro ⟨⟨first, others⟩, rfl⟩
        exact ⟨_, _, ⟨first, rfl⟩, inductionHypothesis.mpr ⟨others, rfl⟩, rfl⟩

theorem exists_of_mem_mapM {β : Type*} {f : α → Option β} {table : List α} {values : List β}
    (results : table.mapM f = some values) {value : β} (member : value ∈ values) :
    ∃ entry ∈ table, f entry = some value := by
  have each := mapM_eq_some_iff.mp results
  clear results
  induction each with
  | nil => cases member
  | cons first _ inductionHypothesis =>
      rcases List.mem_cons.mp member with rfl | later
      · exact ⟨_, List.mem_cons_self, first⟩
      · obtain ⟨entry, inRest, found⟩ := inductionHypothesis later
        exact ⟨entry, List.mem_cons_of_mem _ inRest, found⟩

theorem exists_of_mapM {β : Type*} {f : α → Option β} {table : List α} {values : List β}
    (results : table.mapM f = some values) {entry : α} (member : entry ∈ table) :
    ∃ value, f entry = some value := by
  have each := mapM_eq_some_iff.mp results
  clear results
  induction each with
  | nil => cases member
  | cons first _ inductionHypothesis =>
      rcases List.mem_cons.mp member with rfl | later
      · exact ⟨_, first⟩
      · exact inductionHypothesis later

theorem mem_of_mapM {β : Type*} {f : α → Option β} {table : List α} {values : List β}
    (results : table.mapM f = some values) {entry : α} (member : entry ∈ table) {value : β}
    (found : f entry = some value) : value ∈ values := by
  have each := mapM_eq_some_iff.mp results
  clear results
  induction each with
  | nil => cases member
  | cons first _ inductionHypothesis =>
      rcases List.mem_cons.mp member with rfl | later
      · rw [Option.some.inj (found.symm.trans first)]
        exact List.mem_cons_self
      · exact List.mem_cons_of_mem _ (inductionHypothesis later)

/-- A loop that reads a list entry by entry reads the list. -/
theorem mapM_range_getElem? (table : List α) :
    (List.range table.length).mapM (fun i => table[i]?) = some table := by
  rw [mapM_eq_some_iff, List.forall₂_iff_get]
  refine ⟨List.length_range, ?_⟩
  intro i _ inTable
  simp [inTable]

/-- A change at the place of one entry changes that entry. -/
theorem modify_append_cons (before after : List α) (entry : α) (change : α → α) :
    (before ++ entry :: after).modify before.length change = before ++ change entry :: after := by
  induction before with
  | nil => rfl
  | cons head tail inductionHypothesis =>
      show (head :: (tail ++ entry :: after)).modify (tail.length + 1) change = _
      rw [List.modify_succ_cons, inductionHypothesis]
      rfl

/-! ### The first entry of each key -/

section Firsts

variable {κ : Type*} [DecidableEq κ] {key : α → κ}

/-- The entries whose key has not been seen, each key once. -/
def firsts (key : α → κ) : List κ → List α → List α
  | _, [] => []
  | seen, entry :: rest =>
      if key entry ∈ seen then firsts key seen rest
      else entry :: firsts key (seen ++ [key entry]) rest

theorem firsts_subset (seen : List κ) (table : List α) : firsts key seen table ⊆ table := by
  induction table generalizing seen with
  | nil => exact List.Subset.refl _
  | cons entry rest inductionHypothesis =>
      unfold firsts
      split
      · exact List.subset_cons_of_subset _ (inductionHypothesis seen)
      · exact List.cons_subset_cons _ (inductionHypothesis _)

/-- The entries of a key are the first one that has it. -/
theorem firsts_filter (wanted : κ) (seen : List κ) (table : List α) :
    (firsts key seen table).filter (fun entry => key entry = wanted) =
      if wanted ∈ seen then [] else (table.find? (fun entry => key entry = wanted)).toList := by
  induction table generalizing seen with
  | nil => simp [firsts]
  | cons entry rest inductionHypothesis =>
      unfold firsts
      by_cases known : key entry ∈ seen
      · rw [if_pos known, inductionHypothesis]
        by_cases inSeen : wanted ∈ seen
        · rw [if_pos inSeen, if_pos inSeen]
        · have other : key entry ≠ wanted := fun same => inSeen (same ▸ known)
          rw [if_neg inSeen, if_neg inSeen, List.find?_cons_of_neg (by simpa using other)]
      · rw [if_neg known, List.filter_cons, inductionHypothesis]
        by_cases same : key entry = wanted
        · subst same
          simp [known]
        · have other : wanted ≠ key entry := fun equal => same equal.symm
          simp [same, other]

theorem mem_map_firsts {wanted : κ} {seen : List κ} {table : List α} :
    wanted ∈ (firsts key seen table).map key ↔ wanted ∉ seen ∧ wanted ∈ table.map key := by
  induction table generalizing seen with
  | nil => simp [firsts]
  | cons entry rest inductionHypothesis =>
      unfold firsts
      by_cases known : key entry ∈ seen
      · rw [if_pos known, inductionHypothesis, List.map_cons, List.mem_cons]
        constructor
        · exact fun found => ⟨found.1, .inr found.2⟩
        · intro found
          refine ⟨found.1, found.2.resolve_left ?_⟩
          intro same
          exact found.1 (same ▸ known)
      · rw [if_neg known, List.map_cons, List.map_cons, List.mem_cons, List.mem_cons,
          inductionHypothesis]
        by_cases same : wanted = key entry
        · subst same
          simp [known]
        · simp [same]

theorem firsts_nodup (seen : List κ) (table : List α) :
    ((firsts key seen table).map key).Nodup := by
  induction table generalizing seen with
  | nil => exact List.nodup_nil
  | cons entry rest inductionHypothesis =>
      unfold firsts
      split
      · exact inductionHypothesis seen
      · rw [List.map_cons]
        refine List.nodup_cons.mpr ⟨?_, inductionHypothesis _⟩
        intro again
        exact (mem_map_firsts.mp again).1 (List.mem_append_right _ (List.mem_singleton_self _))

/-- While keys are distinct, an entry is the only one of its key. -/
theorem filter_key_eq_singleton {table : List α} {entry : α} (distinct : (table.map key).Nodup)
    (member : entry ∈ table) :
    table.filter (fun other => key other = key entry) = [entry] := by
  induction table with
  | nil => cases member
  | cons head tail inductionHypothesis =>
      rw [List.map_cons, List.nodup_cons] at distinct
      rcases List.mem_cons.mp member with rfl | later
      · have others : tail.filter (fun other => key other = key entry) = [] := by
          rw [List.filter_eq_nil_iff]
          intro other inTail
          have apart : key other ≠ key entry :=
            fun same => distinct.1 (same ▸ List.mem_map_of_mem inTail)
          simpa using apart
        rw [List.filter_cons_of_pos (by simp), others]
      · have apart : key head ≠ key entry :=
          fun same => distinct.1 (same ▸ List.mem_map_of_mem later)
        rw [List.filter_cons_of_neg (by simpa using apart)]
        exact inductionHypothesis distinct.2 later

end Firsts

/-! ### Removal by moving the last entry into the hole -/

/-- `count--; table[index] = table[count]`. -/
def swapRemove (table : List α) (index : Nat) : Option (List α) := do
  let last ← table[table.length - 1]?
  return (table.set index last).dropLast

theorem swapRemove_eq {table : List α} {last : α} (index : Nat)
    (isLast : table[table.length - 1]? = some last) :
    swapRemove table index = some ((table.set index last).dropLast) := by
  unfold swapRemove
  rw [isLast]
  rfl

theorem dropLast_perm_eraseIdx {table : List α} {index : Nat}
    (inRange : index < table.length) (last : α)
    (isLast : table[table.length - 1]? = some last) :
    ((table.set index last).dropLast).Perm (table.eraseIdx index) := by
  induction table generalizing index with
  | nil => simp at inRange
  | cons head tail inductionHypothesis =>
      cases tail with
      | nil =>
          have first : index = 0 := by simpa using inRange
          subst first
          simp
      | cons next rest =>
          have tailLast : (next :: rest)[(next :: rest).length - 1]? = some last := by
            simpa using isLast
          cases index with
          | zero =>
              -- the last entry takes the head's place: a rotation of the tail
              have split : (next :: rest) = (next :: rest).dropLast ++ [last] := by
                have nonempty : next :: rest ≠ [] := by simp
                have lastEq : (next :: rest).getLast nonempty = last := by
                  rw [List.getElem?_eq_getElem (by simp)] at tailLast
                  rw [List.getLast_eq_getElem]
                  exact Option.some.inj tailLast
                rw [← lastEq]
                exact (List.dropLast_append_getLast nonempty).symm
              simp only [List.set_cons_zero, List.eraseIdx_cons_zero]
              rw [List.dropLast_cons_of_ne_nil (by simp)]
              have rotated : (last :: (next :: rest).dropLast).Perm
                  ((next :: rest).dropLast ++ [last]) :=
                (List.perm_append_singleton _ _).symm
              rwa [← split] at rotated
          | succ index =>
              have tailRange : index < (next :: rest).length := by simpa using inRange
              have rest := inductionHypothesis tailRange tailLast
              simp only [List.set_cons_succ, List.eraseIdx_cons_succ]
              rw [List.dropLast_cons_of_ne_nil (by
                intro empty
                have := congrArg List.length empty
                simp at this)]
              exact rest.cons head

/-- Moving the last entry into the hole removes exactly the entry at `index`,
up to the order of the others. -/
theorem swapRemove_perm {table : List α} {index : Nat} (inRange : index < table.length) :
    ∃ packed, swapRemove table index = some packed ∧ packed.Perm (table.eraseIdx index) := by
  have isLast := List.getElem?_eq_getElem (l := table) (i := table.length - 1) (by omega)
  exact ⟨_, swapRemove_eq index isLast, dropLast_perm_eraseIdx inRange _ isLast⟩

/-- The entry removed at `index` together with the packed rest is the whole table. -/
theorem perm_cons_of_swapRemove {table packed : List α} {index : Nat} {entry : α}
    (found : table[index]? = some entry) (removed : swapRemove table index = some packed) :
    table.Perm (entry :: packed) := by
  obtain ⟨inRange, entryEq⟩ := List.getElem?_eq_some_iff.mp found
  obtain ⟨other, otherEq, perm⟩ := swapRemove_perm inRange
  rw [removed] at otherEq
  cases otherEq
  rw [← entryEq]
  exact (List.getElem_cons_eraseIdx_perm inRange).symm.trans (perm.symm.cons _)

/-! ### Removal of a slice by shifting the tail down -/

/-- One step of `for (k = first + count; k < used; k++) table[k - count] = table[k]`. -/
def shiftStep (count : Nat) (table : List α) (k : Nat) : List α :=
  match table[k]? with
  | some entry => table.set (k - count) entry
  | none => table

/-- Close the gap `[first, first + count)` and drop the `count` freed slots at the end. -/
def closeGap (table : List α) (first count : Nat) : List α :=
  ((List.range' (first + count) (table.length - (first + count))).foldl
    (shiftStep count) table).take (table.length - count)

theorem shiftStep_of_some {table : List α} {k : Nat} {entry : α} (count : Nat)
    (found : table[k]? = some entry) :
    shiftStep count table k = table.set (k - count) entry := by
  unfold shiftStep
  rw [found]

theorem shiftStep_length (count : Nat) (table : List α) (k : Nat) :
    (shiftStep count table k).length = table.length := by
  unfold shiftStep
  cases table[k]? <;> simp

theorem foldl_shiftStep_length (count : Nat) (table : List α) (indices : List Nat) :
    (indices.foldl (shiftStep count) table).length = table.length := by
  induction indices generalizing table with
  | nil => rfl
  | cons index rest inductionHypothesis =>
      rw [List.foldl_cons, inductionHypothesis, shiftStep_length]

/-- After `done` steps the slots `[first, first + done)` hold the entries found
`count` slots above them, and every other slot is unchanged. -/
theorem foldl_shiftStep_getElem? (table : List α) (first count done : Nat)
    (fits : first + count + done ≤ table.length) (index : Nat) :
    ((List.range' (first + count) done).foldl (shiftStep count) table)[index]? =
      if first ≤ index ∧ index < first + done then table[index + count]? else table[index]? := by
  induction done generalizing index with
  | zero =>
      rw [if_neg (by omega)]
      rfl
  | succ done inductionHypothesis =>
      have before := inductionHypothesis (by omega)
      have source : first + count + done < table.length := by omega
      rw [List.range'_concat, List.foldl_append, List.foldl_cons, List.foldl_nil]
      simp only [Nat.one_mul]
      -- the entry moved by this step has not been overwritten by the earlier ones
      have moved := before (first + count + done)
      have movedEq : ((List.range' (first + count) done).foldl (shiftStep count)
          table)[first + count + done]? = some (table[first + count + done]) := by
        rw [moved]
        by_cases below : first ≤ first + count + done ∧ first + count + done < first + done
        · have zero : count = 0 := by omega
          omega
        · rw [if_neg below, List.getElem?_eq_getElem source]
      rw [shiftStep_of_some count movedEq]
      by_cases target : index = first + done
      · subst target
        have inRange : first + done <
            ((List.range' (first + count) done).foldl (shiftStep count) table).length := by
          rw [foldl_shiftStep_length]
          omega
        have subEq : first + count + done - count = first + done := by omega
        rw [subEq, List.getElem?_set_self inRange, if_pos (by omega),
          List.getElem?_eq_getElem (by omega)]
        congr 2
        omega
      · rw [List.getElem?_set_ne (by omega), before index]
        by_cases inside : first ≤ index ∧ index < first + done
        · rw [if_pos inside, if_pos (by omega)]
        · rw [if_neg inside, if_neg (by omega)]

/-- Shifting the tail down removes exactly the slice `[first, first + count)`. -/
theorem closeGap_eq (table : List α) (first count : Nat)
    (fits : first + count ≤ table.length) :
    closeGap table first count = table.take first ++ table.drop (first + count) := by
  apply List.ext_getElem?
  intro index
  unfold closeGap
  have takeLength : (table.take first).length = first := by
    rw [List.length_take]
    omega
  by_cases inside : index < table.length - count
  · rw [List.getElem?_take_of_lt inside, foldl_shiftStep_getElem? _ _ _ _ (by omega)]
    by_cases low : index < first
    · rw [if_neg (by omega), List.getElem?_append_left (by omega), List.getElem?_take_of_lt low]
    · rw [if_pos (by omega), List.getElem?_append_right (by omega), List.getElem?_drop]
      congr 1
      omega
  · rw [List.getElem?_eq_none (by simp [foldl_shiftStep_length]; omega),
      List.getElem?_eq_none (by simp; omega)]

/-- Closing a one-entry gap erases that entry. -/
theorem closeGap_one (table : List α) (index : Nat) (inRange : index < table.length) :
    closeGap table index 1 = table.eraseIdx index := by
  rw [closeGap_eq table index 1 (by omega), List.eraseIdx_eq_take_drop_succ]

end Openobsw.Lib.Tables
