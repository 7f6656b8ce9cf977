import Openobsw.Pus.S6

/-!
Owns the region lookup of S6 as a statement about address ranges: the first
region that grants the access and contains the whole range, over unbounded
integers. Owns also what reading and writing a range of local memory do.
-/

namespace Openobsw.Pus.S6

open Openobsw.Util

/-! ### The region that serves a range -/

/-- The region grants the access and contains all of `[addr, addr + len)`. -/
def Region.Serves (r : Region) (access : UInt8) (addr len : Nat) : Prop :=
  r.access &&& access = access ∧ r.start.toNat ≤ addr ∧
    addr + len ≤ r.start.toNat + r.size.toNat

instance (r : Region) (access : UInt8) (addr len : Nat) : Decidable (r.Serves access addr len) :=
  inferInstanceAs (Decidable (_ ∧ _ ∧ _))

/-- The local address of a ground address of the region. -/
def Region.localAddr (r : Region) (addr : Nat) : Nat := r.base + (addr - r.start.toNat)

/-- The region table; a null pointer is an empty one. -/
def Ctx.table (s : Ctx) : List Region := s.regions.getD []

/-- The first region of the table that serves the range. -/
def Ctx.serving (s : Ctx) (access : UInt8) (addr len : Nat) : Option Region :=
  s.table.find? (fun r => decide (r.Serves access addr len))

theorem Ctx.serving_some {s : Ctx} {access : UInt8} {addr len : Nat} {r : Region}
    (serving : s.serving access addr len = some r) : r ∈ s.table ∧ r.Serves access addr len := by
  have passed := List.find?_some serving
  exact ⟨List.mem_of_find?_eq_some serving, of_decide_eq_true passed⟩

theorem Ctx.serving_none_iff {s : Ctx} {access : UInt8} {addr len : Nat} :
    s.serving access addr len = none ↔ ∀ r ∈ s.table, ¬ r.Serves access addr len := by
  unfold Ctx.serving
  rw [List.find?_eq_none]
  simp only [decide_eq_true_eq]

/-- A region that serves a range keeps its local addresses inside its memory. -/
theorem Region.Serves.inside {r : Region} {access : UInt8} {addr len : Nat}
    (serves : r.Serves access addr len) :
    r.base ≤ r.localAddr addr ∧ r.localAddr addr + len ≤ r.base + r.size.toNat := by
  obtain ⟨_, above, below⟩ := serves
  unfold Region.localAddr
  omega

/-- The two tests of the lookup loop, each in 32 bits, say together that the region contains the
range. -/
theorem Region.resolve_eq (r : Region) (addr : UInt32) (len : UInt16) (access : UInt8) :
    r.resolve addr len access =
      if r.Serves access addr.toNat len.toNat then some (r.localAddr addr.toNat) else none := by
  have addrFits := addr.toNat_lt
  have sizeFits := r.size.toNat_lt
  unfold Region.resolve
  by_cases skipped : r.access &&& access ≠ access ∨ addr < r.start
  · rw [if_pos skipped, if_neg]
    intro serves
    rcases skipped with denied | below
    · exact denied serves.1
    · exact Nat.not_le_of_lt (UInt32.lt_iff_toNat_lt.mp below) serves.2.1
  rw [if_neg skipped]
  have granted : r.access &&& access = access :=
    Decidable.of_not_not (fun denied => skipped (.inl denied))
  have above : r.start ≤ addr := UInt32.not_lt.mp (fun below => skipped (.inr below))
  have aboveNat : r.start.toNat ≤ addr.toNat := UInt32.le_iff_toNat_le.mp above
  have offset : (addr - r.start).toNat = addr.toNat - r.start.toNat :=
    UInt32.toNat_sub_of_le _ _ above
  show (if addr - r.start > r.size ∨ len.toUInt32 > r.size - (addr - r.start) then none
    else some (r.base + (addr - r.start).toNat)) = _
  -- The subtraction in the second test cannot wrap where the first has passed.
  have outside : (addr - r.start > r.size ∨ len.toUInt32 > r.size - (addr - r.start)) ↔
      ¬ r.Serves access addr.toNat len.toNat := by
    unfold Region.Serves
    by_cases past : addr - r.start > r.size
    · have pastNat := UInt32.lt_iff_toNat_lt.mp past
      refine ⟨fun _ serves => ?_, fun _ => .inl past⟩
      omega
    · have within : addr - r.start ≤ r.size := UInt32.not_lt.mp past
      have withinNat := UInt32.le_iff_toNat_le.mp within
      have remaining := UInt32.toNat_sub_of_le _ _ within
      rw [or_iff_right past, gt_iff_lt, UInt32.lt_iff_toNat_lt, remaining,
        UInt16.toNat_toUInt32]
      constructor
      · intro long serves
        omega
      · intro outside
        refine Nat.lt_of_not_le (fun fits => outside ⟨granted, aboveNat, ?_⟩)
        omega
  by_cases serves : r.Serves access addr.toNat len.toNat
  · rw [if_neg (fun out => outside.mp out serves), if_pos serves, offset]
    rfl
  · rw [if_pos (outside.mpr serves), if_neg serves]

/-- The lookup finds the first region that serves the range. -/
theorem resolve_eq (s : Ctx) (addr : UInt32) (len : UInt16) (access : UInt8) :
    resolve s addr len access =
      (s.serving access addr.toNat len.toNat).map (fun r => r.localAddr addr.toNat) := by
  unfold resolve Ctx.serving Ctx.table
  cases s.regions with
  | none => rfl
  | some regions =>
      show regions.findSome? _ = (regions.find? _).map _
      induction regions with
      | nil => rfl
      | cons r rest inductionHypothesis =>
          rw [List.findSome?_cons, List.find?_cons, Region.resolve_eq]
          by_cases serves : r.Serves access addr.toNat len.toNat
          · rw [if_pos serves, decide_eq_true serves]
            rfl
          · rw [if_neg serves, decide_eq_false serves]
            exact inductionHypothesis

/-! ### Ranges of local memory -/

/-- The bytes from `dst` on become the data, and no other byte changes. -/
structure Overwrites (before after : Nat → UInt8) (dst : Nat) (data : List UInt8) : Prop where
  inside : ∀ k (bound : k < data.length), after (dst + k) = data[k]
  outside : ∀ address, address < dst ∨ dst + data.length ≤ address →
    after address = before address

theorem writeMemory_overwrites (memory : Nat → UInt8) (dst : Nat) (data : List UInt8) :
    Overwrites memory (writeMemory memory dst data) dst data where
  inside := by
    intro k bound
    unfold writeMemory
    rw [if_pos (Nat.le_add_right dst k), Nat.add_sub_cancel_left, List.getElem?_eq_getElem bound]
    rfl
  outside := by
    intro address apart
    unfold writeMemory
    by_cases above : dst ≤ address
    · rw [if_pos above, List.getElem?_eq_none (by omega)]
      rfl
    · rw [if_neg above]

end Openobsw.Pus.S6
