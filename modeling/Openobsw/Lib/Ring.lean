import Mathlib.Data.Nat.Basic

/-!
Owns ring buffers that tell full from empty by one unused cell: the number of
held elements is the distance from tail to head, and the contents are read off
from the tail on. Writing at the head appends, moving the tail removes the first.
-/

namespace Openobsw.Lib.Ring

variable {α : Type*} {n : Nat}

/-- An index less than two turns, brought back into the buffer. -/
theorem mod_eq_wrap {index : Nat} (turns : index < 2 * n) :
    index % n = if index < n then index else index - n := by
  by_cases inside : index < n
  · rw [if_pos inside, Nat.mod_eq_of_lt inside]
  · rw [if_neg inside, Nat.mod_eq_sub_mod (Nat.le_of_not_lt inside), Nat.mod_eq_of_lt]
    omega

theorem turned_lt (tail : Fin n) (offset : Nat) : (tail.val + offset) % n < n :=
  Nat.mod_lt _ (Nat.zero_lt_of_lt tail.isLt)

/-- The cell `offset` places after `tail`. -/
def cell (tail : Fin n) (offset : Nat) : Fin n := ⟨(tail.val + offset) % n, turned_lt tail offset⟩

/-- The cell after `index`. -/
def next (index : Fin n) : Fin n := cell index 1

/-- The number of elements held between `tail` and `head`. -/
def held (head tail : Fin n) : Nat := (head.val + n - tail.val) % n

/-- The elements held, oldest first. -/
def contents (slots : Vector α n) (head tail : Fin n) : List α :=
  (List.range (held head tail)).map (fun offset => slots.get (cell tail offset))

theorem held_eq (head tail : Fin n) :
    held head tail = if tail.val ≤ head.val then head.val - tail.val
      else head.val + n - tail.val := by
  have headBound := head.isLt
  have tailBound := tail.isLt
  unfold held
  rw [mod_eq_wrap (by omega)]
  split <;> split <;> omega

theorem next_val (index : Fin n) :
    (next index).val = if index.val + 1 < n then index.val + 1 else index.val + 1 - n := by
  have bound := index.isLt
  exact mod_eq_wrap (by omega)

theorem held_lt (head tail : Fin n) : held head tail < n :=
  Nat.mod_lt _ (Nat.zero_lt_of_lt tail.isLt)

@[simp] theorem contents_length (slots : Vector α n) (head tail : Fin n) :
    (contents slots head tail).length = held head tail := by
  simp [contents]

/-- Nothing is held exactly when head and tail meet. -/
theorem held_eq_zero_iff (head tail : Fin n) : held head tail = 0 ↔ head = tail := by
  have headBound := head.isLt
  have tailBound := tail.isLt
  rw [held_eq, Fin.ext_iff]
  split <;> omega

/-- The head is about to meet the tail exactly when all cells but one are in use. -/
theorem next_eq_tail_iff (head tail : Fin n) : next head = tail ↔ held head tail = n - 1 := by
  have headBound := head.isLt
  have tailBound := tail.isLt
  rw [held_eq, Fin.ext_iff, next_val]
  split <;> split <;> omega

theorem held_next_head {head tail : Fin n} (room : next head ≠ tail) :
    held (next head) tail = held head tail + 1 := by
  have headBound := head.isLt
  have tailBound := tail.isLt
  have apart : (next head).val ≠ tail.val := fun same => room (Fin.ext same)
  have position := next_val head
  rw [held_eq, held_eq]
  split at position <;> rw [position] at apart ⊢ <;> split <;> split <;> omega

theorem held_next_tail {head tail : Fin n} (some : head ≠ tail) :
    held head tail = held head (next tail) + 1 := by
  have headBound := head.isLt
  have tailBound := tail.isLt
  have apart : head.val ≠ tail.val := fun same => some (Fin.ext same)
  rw [held_eq, held_eq, next_val]
  split <;> split <;> split <;> omega

/-- The cell past the last held element is the head. -/
theorem cell_held (head tail : Fin n) : cell tail (held head tail) = head := by
  have headBound := head.isLt
  have tailBound := tail.isLt
  apply Fin.ext
  show (tail.val + held head tail) % n = head.val
  rw [held_eq, mod_eq_wrap (by split <;> omega)]
  split <;> split <;> omega

theorem cell_ne_head {head tail : Fin n} {offset : Nat} (below : offset < held head tail) :
    cell tail offset ≠ head := by
  have headBound := head.isLt
  have tailBound := tail.isLt
  intro same
  have values : (tail.val + offset) % n = head.val := congrArg Fin.val same
  rw [held_eq] at below
  rw [mod_eq_wrap (by split at below <;> omega)] at values
  split at values <;> split at below <;> omega

theorem cell_next (tail : Fin n) (offset : Nat) : cell (next tail) offset = cell tail (offset + 1) := by
  apply Fin.ext
  show ((tail.val + 1) % n + offset) % n = (tail.val + (offset + 1)) % n
  rw [Nat.mod_add_mod, Nat.add_assoc, Nat.add_comm 1 offset]

@[simp] theorem cell_zero (tail : Fin n) : cell tail 0 = tail :=
  Fin.ext (Nat.mod_eq_of_lt tail.isLt)

@[simp] theorem contents_self (slots : Vector α n) (index : Fin n) :
    contents slots index index = [] := by
  unfold contents
  rw [(held_eq_zero_iff index index).mpr rfl]
  rfl

/-- A write at the head followed by a move of the head appends the element. -/
theorem contents_push (slots : Vector α n) {head tail : Fin n} (room : next head ≠ tail)
    (element : α) :
    contents (slots.set head.val element head.isLt) (next head) tail =
      contents slots head tail ++ [element] := by
  unfold contents
  rw [held_next_head room, List.range_succ, List.map_append]
  congr 1
  · apply List.map_congr_left
    intro offset member
    have other := cell_ne_head (List.mem_range.mp member)
    have distinct : head.val ≠ (cell tail offset).val := fun same => other (Fin.ext same.symm)
    exact Vector.getElem_set_ne _ _ distinct
  · rw [List.map_singleton, cell_held]
    congr 1
    exact Vector.getElem_set_self _

/-- Moving the tail removes the oldest element, which is the one in its cell. -/
theorem contents_pop (slots : Vector α n) {head tail : Fin n} (some : head ≠ tail) :
    contents slots head tail = slots.get tail :: contents slots head (next tail) := by
  unfold contents
  rw [held_next_tail some, List.range_succ_eq_map, List.map_cons, List.map_map, cell_zero]
  congr 1
  apply List.map_congr_left
  intro offset _
  show slots.get (cell tail (offset + 1)) = slots.get (cell (next tail) offset)
  rw [cell_next]

end Openobsw.Lib.Ring
