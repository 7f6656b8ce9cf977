import Mathlib.Data.Nat.Bitwise
import Openobsw.Config

/-!
Owns the TM store (`tm/store.c`): the ring buffer of TM packets. Head and tail
are slot indices, so an index outside the buffer cannot be built.
-/

namespace Openobsw.Tm

inductive StoreRc where
  | ok
  | errFull
  | errEmpty
  | errTooLarge
deriving DecidableEq, Repr

/-- `obsw_tm_store_t`. A slot holds the `len` bytes stored in it. -/
structure Store (cfg : Config) where
  slots : Vector (List UInt8) cfg.tmStoreSlots
  head : Fin cfg.tmStoreSlots
  tail : Fin cfg.tmStoreSlots

/-- The `size_t` of a target: wide enough to index the slots of the store. -/
structure SizeT (cfg : Config) where
  bits : Nat
  indexes : cfg.tmStoreSlots ≤ 2 ^ bits

namespace Store

variable {cfg : Config}

/-- `obsw_tm_store_init` -/
def init (cfg : Config) : Store cfg where
  slots := Vector.replicate cfg.tmStoreSlots []
  head := ⟨0, cfg.tmStoreSlots_pos⟩
  tail := ⟨0, cfg.tmStoreSlots_pos⟩

theorem maskedSlot_lt (cfg : Config) (index : Nat) :
    index &&& (cfg.tmStoreSlots - 1) < cfg.tmStoreSlots := by
  have positive := cfg.tmStoreSlots_pos
  have masked : index &&& (cfg.tmStoreSlots - 1) ≤ cfg.tmStoreSlots - 1 := Nat.and_le_right
  omega

/-- `next_slot` -/
def nextSlot (index : Fin cfg.tmStoreSlots) : Fin cfg.tmStoreSlots :=
  ⟨(index.val + 1) &&& (cfg.tmStoreSlots - 1), maskedSlot_lt cfg _⟩

/-- The test `next_slot(head) == tail` of `obsw_tm_store_enqueue`. -/
def full (store : Store cfg) : Bool :=
  nextSlot store.head == store.tail

/-- `obsw_tm_store_enqueue` -/
def enqueue (store : Store cfg) (pkt : List UInt8) : StoreRc × Store cfg :=
  if pkt.length > cfg.tmMaxPacketLen then (.errTooLarge, store)
  else if store.full then (.errFull, store)
  else (.ok, { store with
    slots := store.slots.set store.head.val pkt store.head.isLt
    head := nextSlot store.head })

/-- `obsw_tm_store_dequeue` into a buffer of `bufLen` bytes. -/
def dequeue (store : Store cfg) (bufLen : Nat) : StoreRc × List UInt8 × Store cfg :=
  if store.head = store.tail then (.errEmpty, [], store)
  else
    let pkt := store.slots[store.tail]
    if bufLen < pkt.length then (.errTooLarge, [], store)
    else (.ok, pkt, { store with tail := nextSlot store.tail })

/-- `obsw_tm_store_empty` -/
def empty (store : Store cfg) : Bool :=
  store.head == store.tail

/-- `obsw_tm_store_count`: the difference of the two indices is taken modulo the
size of a `size_t` before it is masked. -/
def count (word : SizeT cfg) (store : Store cfg) : Nat :=
  ((store.head.val + 2 ^ word.bits - store.tail.val) % 2 ^ word.bits) &&& (cfg.tmStoreSlots - 1)

theorem enqueue_ok_iff (store : Store cfg) (pkt : List UInt8) :
    (store.enqueue pkt).1 = .ok ↔
      pkt.length ≤ cfg.tmMaxPacketLen ∧ store.full = false := by
  unfold enqueue
  by_cases large : pkt.length > cfg.tmMaxPacketLen
  · rw [if_pos large]
    constructor
    · intro impossible
      cases impossible
    · intro fits
      omega
  · rw [if_neg large]
    cases filled : store.full with
    | true => simp
    | false =>
        simp only [Bool.false_eq_true, ↓reduceIte, true_iff]
        exact ⟨Nat.le_of_not_gt large, trivial⟩

end Store

end Openobsw.Tm
