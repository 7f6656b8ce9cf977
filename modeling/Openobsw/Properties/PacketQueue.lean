import Openobsw.Lib.Ring
import Openobsw.Tm.Store

/-!
Owns the refinement of the TM store: whatever is called on it, the ring buffer
behaves as a queue of packets with one place less than it has slots.
-/

namespace Openobsw.Tm

open Openobsw.Lib

variable {cfg : Config}

/-! ### What the store is for -/

/-- The packets a store holds, oldest first. -/
abbrev Queue := List (List UInt8)

namespace Queue

/-- Append the packet unless it is too large or every place is taken. -/
def enqueue (cfg : Config) (queue : Queue) (pkt : List UInt8) : StoreRc × Queue :=
  if pkt.length > cfg.tmMaxPacketLen then (.errTooLarge, queue)
  else if queue.length = cfg.tmStoreSlots - 1 then (.errFull, queue)
  else (.ok, queue ++ [pkt])

/-- Take the oldest packet unless there is none or it does not fit the destination. -/
def dequeue (bufLen : Nat) : Queue → StoreRc × List UInt8 × Queue
  | [] => (.errEmpty, [], [])
  | pkt :: rest => if bufLen < pkt.length then (.errTooLarge, [], pkt :: rest) else (.ok, pkt, rest)

end Queue

/-- A call on the store. -/
inductive StoreCall where
  | enqueue (pkt : List UInt8)
  | dequeue (bufLen : Nat)
deriving DecidableEq, Repr

/-- What a call returns: its code and the bytes it copied out. -/
abbrev StoreReply := StoreRc × List UInt8

def Store.call (store : Store cfg) : StoreCall → StoreReply × Store cfg
  | .enqueue pkt => let (rc, store) := store.enqueue pkt; ((rc, []), store)
  | .dequeue bufLen => let (rc, pkt, store) := store.dequeue bufLen; ((rc, pkt), store)

def Queue.call (cfg : Config) (queue : Queue) : StoreCall → StoreReply × Queue
  | .enqueue pkt => let (rc, queue) := Queue.enqueue cfg queue pkt; ((rc, []), queue)
  | .dequeue bufLen => let (rc, pkt, queue) := Queue.dequeue bufLen queue; ((rc, pkt), queue)

/-- The replies to a sequence of calls and the store after it. -/
def Store.calls (store : Store cfg) : List StoreCall → List StoreReply × Store cfg
  | [] => ([], store)
  | call :: rest =>
      let (reply, store) := store.call call
      let (replies, store) := store.calls rest
      (reply :: replies, store)

def Queue.calls (cfg : Config) (queue : Queue) : List StoreCall → List StoreReply × Queue
  | [] => ([], queue)
  | call :: rest =>
      let (reply, queue) := Queue.call cfg queue call
      let (replies, queue) := Queue.calls cfg queue rest
      (reply :: replies, queue)

/-! ### The ring buffer as a queue -/

namespace Store

/-- The packets in the ring buffer, oldest first. -/
def queue (store : Store cfg) : Queue := Ring.contents store.slots store.head store.tail

/-- The mask is a reduction modulo the number of slots. -/
theorem masked_eq_mod (cfg : Config) (index : Nat) :
    index &&& (cfg.tmStoreSlots - 1) = index % cfg.tmStoreSlots := by
  obtain ⟨k, slots⟩ := cfg.slotsPowerOfTwo
  rw [slots]
  exact Nat.and_two_pow_sub_one_eq_mod index (k + 1)

theorem nextSlot_eq (index : Fin cfg.tmStoreSlots) : nextSlot index = Ring.next index :=
  Fin.ext (masked_eq_mod cfg _)

theorem queue_length (store : Store cfg) :
    store.queue.length = Ring.held store.head store.tail :=
  Ring.contents_length _ _ _

theorem full_iff (store : Store cfg) :
    store.full = true ↔ store.queue.length = cfg.tmStoreSlots - 1 := by
  unfold full
  rw [beq_iff_eq, nextSlot_eq, Ring.next_eq_tail_iff, queue_length]

@[simp] theorem init_queue (cfg : Config) : (init cfg).queue = [] := Ring.contents_self _ _

theorem enqueue_queue (store : Store cfg) (pkt : List UInt8) :
    ((store.enqueue pkt).1, (store.enqueue pkt).2.queue) = Queue.enqueue cfg store.queue pkt := by
  unfold enqueue Queue.enqueue
  by_cases large : pkt.length > cfg.tmMaxPacketLen
  · rw [if_pos large, if_pos large]
  · rw [if_neg large, if_neg large]
    by_cases filled : store.full = true
    · rw [if_pos filled, if_pos ((full_iff store).mp filled)]
    · rw [if_neg filled, if_neg (fun all => filled ((full_iff store).mpr all))]
      have room : Ring.next store.head ≠ store.tail := by
        rw [← nextSlot_eq]
        intro same
        exact filled (beq_iff_eq.mpr same)
      have appended := Ring.contents_push store.slots room pkt
      rw [← nextSlot_eq] at appended
      exact congrArg (Prod.mk StoreRc.ok) appended

theorem dequeue_queue (store : Store cfg) (bufLen : Nat) :
    ((store.dequeue bufLen).1, (store.dequeue bufLen).2.1, (store.dequeue bufLen).2.2.queue) =
      Queue.dequeue bufLen store.queue := by
  unfold dequeue
  by_cases meets : store.head = store.tail
  · have nothing : store.queue = [] := by
      unfold queue
      rw [meets]
      exact Ring.contents_self _ _
    rw [if_pos meets, nothing]
    rfl
  · have oldest : store.queue = store.slots.get store.tail ::
        Ring.contents store.slots store.head (Ring.next store.tail) :=
      Ring.contents_pop store.slots meets
    rw [if_neg meets]
    by_cases small : bufLen < (store.slots.get store.tail).length
    · have refused : Queue.dequeue bufLen store.queue = (.errTooLarge, [], store.queue) := by
        rw [oldest]
        exact if_pos small
      rw [refused]
      exact congrArg (fun out : StoreRc × List UInt8 × Store cfg => (out.1, out.2.1, out.2.2.queue))
         (if_pos small)
    · have taken : Queue.dequeue bufLen store.queue = (.ok, store.slots.get store.tail,
          Ring.contents store.slots store.head (Ring.next store.tail)) := by
        rw [oldest]
        exact if_neg small
      rw [taken, ← nextSlot_eq]
      exact congrArg (fun out : StoreRc × List UInt8 × Store cfg => (out.1, out.2.1, out.2.2.queue))
         (if_neg small)

/-- A packet taken out of the store was its oldest one. -/
theorem queue_of_dequeue {store after : Store cfg} {bufLen : Nat} {pkt : List UInt8}
    (taken : store.dequeue bufLen = (.ok, pkt, after)) : store.queue = pkt :: after.queue := by
  have queue := store.dequeue_queue bufLen
  rw [taken] at queue
  cases held : store.queue with
  | nil =>
      rw [held] at queue
      cases queue
  | cons oldest rest =>
      rw [held] at queue
      by_cases small : bufLen < oldest.length
      · have refused : Queue.dequeue bufLen (oldest :: rest) = (.errTooLarge, [], oldest :: rest) :=
          if_pos small
        rw [refused] at queue
        cases queue
      · have removed : Queue.dequeue bufLen (oldest :: rest) = (.ok, oldest, rest) := if_neg small
        rw [removed] at queue
        injection queue with _ queue
        injection queue with same remaining
        exact congrArg₂ List.cons same.symm remaining.symm

theorem call_queue (store : Store cfg) (call : StoreCall) :
    ((store.call call).1, (store.call call).2.queue) = Queue.call cfg store.queue call := by
  cases call with
  | enqueue pkt =>
      show _ = (((Queue.enqueue cfg store.queue pkt).1, []), (Queue.enqueue cfg store.queue pkt).2)
      rw [← enqueue_queue]
      rfl
  | dequeue bufLen =>
      show _ = (((Queue.dequeue bufLen store.queue).1, (Queue.dequeue bufLen store.queue).2.1),
        (Queue.dequeue bufLen store.queue).2.2)
      rw [← dequeue_queue]
      rfl

theorem calls_queue (calls : List StoreCall) (store : Store cfg) :
    ((store.calls calls).1, (store.calls calls).2.queue) = Queue.calls cfg store.queue calls := by
  induction calls generalizing store with
  | nil => rfl
  | cons call rest inductionHypothesis =>
      show _ = ((Queue.call cfg store.queue call).1 ::
          (Queue.calls cfg (Queue.call cfg store.queue call).2 rest).1,
        (Queue.calls cfg (Queue.call cfg store.queue call).2 rest).2)
      rw [← call_queue, ← inductionHypothesis]
      rfl

theorem empty_eq (store : Store cfg) : store.empty = store.queue.isEmpty := by
  unfold empty
  rw [Bool.eq_iff_iff, beq_iff_eq, List.isEmpty_iff, ← List.length_eq_zero_iff, queue_length,
    Ring.held_eq_zero_iff]

/-- The unsigned difference of the indices, masked, is their distance in the ring. -/
theorem count_eq (word : SizeT cfg) (store : Store cfg) :
    store.count word = store.queue.length := by
  have headBound := store.head.isLt
  have tailBound := store.tail.isLt
  obtain ⟨k, slots⟩ := cfg.slotsPowerOfTwo
  have divides : cfg.tmStoreSlots ∣ 2 ^ word.bits := by
    have fits := word.indexes
    rw [slots] at fits ⊢
    exact Nat.pow_dvd_pow 2 ((Nat.pow_le_pow_iff_right Nat.one_lt_two).mp fits)
  obtain ⟨turns, whole⟩ := divides
  have positive : 0 < turns := by
    apply Nat.pos_of_ne_zero
    intro none
    rw [none, Nat.mul_zero] at whole
    exact absurd whole (Nat.two_pow_pos _).ne'
  unfold count
  rw [masked_eq_mod, queue_length, Nat.mod_mod_of_dvd _ ⟨turns, whole⟩, whole]
  show _ = (store.head.val + cfg.tmStoreSlots - store.tail.val) % cfg.tmStoreSlots
  obtain ⟨more, rfl⟩ : ∃ more, turns = more + 1 := ⟨turns - 1, by omega⟩
  rw [Nat.mul_succ, Nat.add_sub_assoc (by omega), Nat.add_sub_assoc (by omega),
    Nat.add_sub_assoc (by omega), Nat.add_left_comm, Nat.mul_add_mod]

end Store

/-! ### Every sequence of calls -/

/-- From an empty store, every sequence of calls is answered as the queue answers
it, the contents are those of the queue, and count and empty report its length. -/
theorem Store.refines_queue (cfg : Config) (word : SizeT cfg) (calls : List StoreCall) :
    let after := (Store.init cfg).calls calls
    let spec := Queue.calls cfg [] calls
    after.1 = spec.1 ∧ after.2.queue = spec.2 ∧ after.2.count word = spec.2.length ∧
      after.2.empty = spec.2.isEmpty := by
  have same := calls_queue calls (Store.init cfg)
  rw [init_queue] at same
  have replies := congrArg Prod.fst same
  have contents := congrArg Prod.snd same
  refine ⟨replies, contents, ?_, ?_⟩
  · rw [count_eq, ← contents]
  · rw [empty_eq, ← contents]

end Openobsw.Tm
