import Openobsw.Lib.Tables

/-!
Owns a heap of records and of list objects that hold the addresses of records:
allocation, append in place, and the copy of records onto a list. A copy of what was
there before leaves every earlier object as it was.
-/

namespace Openobsw.Lib.Objects

open Openobsw.Lib.Tables

structure Store (α : Type) where
  records : List α := []
  lists : List (List Nat) := []
deriving DecidableEq, Repr

namespace Store

variable {α : Type}

/-- The records at the addresses. -/
def readAll (store : Store α) (addresses : List Nat) : Option (List α) :=
  addresses.mapM (fun address => store.records[address]?)

/-- The records of a list object. -/
def readList (store : Store α) (list : Nat) : Option (List α) := do
  let addresses ← store.lists[list]?
  store.readAll addresses

/-- A new record, and its address. -/
def newRecord (store : Store α) (record : α) : Store α × Nat :=
  ({ store with records := store.records ++ [record] }, store.records.length)

/-- A new empty list, and its address. -/
def newList (store : Store α) : Store α × Nat :=
  ({ store with lists := store.lists ++ [[]] }, store.lists.length)

/-- Append an address to a list object. -/
def append (store : Store α) (list address : Nat) : Store α :=
  { store with lists := store.lists.modify list (fun items => items ++ [address]) }

/-- Append a copy of one record to a list object. -/
def appendCopy (list : Nat) (store : Store α) (item : Nat) : Option (Store α) := do
  let record ← store.records[item]?
  let (store, copy) := store.newRecord record
  return store.append list copy

/-- Append a copy of each record to a list object. -/
def extend (list : Nat) (store : Store α) (items : List Nat) : Option (Store α) :=
  items.foldlM (appendCopy list) store

/-- A new list, of copies of the records of a list. -/
def copyList (store : Store α) (source : Nat) : Option (Store α × Nat) := do
  let items ← store.lists[source]?
  let (store, list) := store.newList
  let store ← store.extend list items
  return (store, list)

/-! ### Objects that stay -/

/-- Every object of the first store is in the second one, with what it held. -/
structure Grows (before after : Store α) : Prop where
  records : ∀ {address : Nat} {record : α},
    before.records[address]? = some record → after.records[address]? = some record
  lists : ∀ {list : Nat} {items : List Nat},
    before.lists[list]? = some items → after.lists[list]? = some items

theorem Grows.refl (store : Store α) : store.Grows store := ⟨id, id⟩

theorem Grows.trans {first second third : Store α} (earlier : first.Grows second)
    (later : second.Grows third) : first.Grows third where
  records found := later.records (earlier.records found)
  lists found := later.lists (earlier.lists found)

theorem Grows.readAll {before after : Store α} (grows : before.Grows after)
    {addresses : List Nat} {contents : List α}
    (found : before.readAll addresses = some contents) :
    after.readAll addresses = some contents := by
  apply mapM_eq_some_iff.mpr
  exact (mapM_eq_some_iff.mp found).imp (fun _ _ => grows.records)

theorem Grows.readList {before after : Store α} (grows : before.Grows after)
    {list : Nat} {contents : List α} (found : before.readList list = some contents) :
    after.readList list = some contents := by
  obtain ⟨addresses, place, held⟩ := Option.bind_eq_some_iff.mp found
  exact Option.bind_eq_some_iff.mpr ⟨addresses, grows.lists place, grows.readAll held⟩

theorem Grows.records_length_le {before after : Store α} (grows : before.Grows after) :
    before.records.length ≤ after.records.length := by
  by_contra shorter
  have place := grows.records (List.getElem?_eq_getElem (Nat.lt_of_not_le shorter))
  rw [List.getElem?_eq_none (Nat.le_refl _)] at place
  cases place

theorem grows_newRecord (store : Store α) (record : α) :
    store.Grows (store.newRecord record).1 where
  records found := List.getElem?_append_left (List.getElem?_eq_some_iff.mp found).1 ▸ found
  lists found := found

theorem grows_newList (store : Store α) : store.Grows store.newList.1 where
  records found := found
  lists found := List.getElem?_append_left (List.getElem?_eq_some_iff.mp found).1 ▸ found

/-- An append to a list object that came later leaves the earlier ones. -/
theorem Grows.append {start store : Store α} (grows : start.Grows store) {list : Nat}
    (fresh : start.lists.length ≤ list) (address : Nat) :
    start.Grows (store.append list address) where
  records found := grows.records found
  lists found := by
    have inStart := (List.getElem?_eq_some_iff.mp found).1
    show (store.lists.modify list _)[_]? = _
    rw [List.getElem?_modify_ne _ _ (by omega)]
    exact grows.lists found

/-! ### A list under construction -/

/-- `list` came after `start` and holds `contents`, in records that came after `start`
as well; the objects of `start` are as they were. -/
structure Building (start : Store α) (list : Nat) (store : Store α) (contents : List α) :
    Prop where
  grows : start.Grows store
  fresh : start.lists.length ≤ list
  own : ∃ items, store.lists[list]? = some items ∧ store.readAll items = some contents ∧
    ∀ item ∈ items, start.records.length ≤ item

/-- The list and its records came after `start`. -/
def Fresh (start store : Store α) (list : Nat) : Prop :=
  start.lists.length ≤ list ∧
    ∀ items, store.lists[list]? = some items → ∀ item ∈ items, start.records.length ≤ item

theorem Building.isFresh {start store : Store α} {list : Nat} {contents : List α}
    (building : Building start list store contents) : Fresh start store list := by
  obtain ⟨items, place, _, own⟩ := building.own
  refine ⟨building.fresh, ?_⟩
  intro others found
  rw [Option.some.inj (found.symm.trans place)]
  exact own

theorem Building.readList {start store : Store α} {list : Nat} {contents : List α}
    (building : Building start list store contents) : store.readList list = some contents := by
  obtain ⟨items, place, held, _⟩ := building.own
  exact Option.bind_eq_some_iff.mpr ⟨items, place, held⟩

theorem building_newList (start : Store α) :
    Building start start.newList.2 start.newList.1 [] where
  grows := start.grows_newList
  fresh := Nat.le_refl _
  own := ⟨[], by simp [newList], rfl, by simp⟩

theorem readAll_append {store : Store α} {first second : List Nat} {contents rest : List α}
    (found : store.readAll first = some contents) (later : store.readAll second = some rest) :
    store.readAll (first ++ second) = some (contents ++ rest) := by
  unfold readAll at found later ⊢
  rw [List.mapM_append, found, later]
  rfl

theorem readAll_newRecord (store : Store α) (record : α) :
    (store.newRecord record).1.readAll [store.records.length] = some [record] := by
  simp [readAll, newRecord]

theorem Building.appendCopy {start store : Store α} {list item : Nat} {contents : List α}
    {record : α} (building : Building start list store contents)
    (found : start.records[item]? = some record) :
    ∃ after, store.appendCopy list item = some after ∧
      Building start list after (contents ++ [record]) := by
  obtain ⟨items, place, held, own⟩ := building.own
  have later := store.grows_newRecord record
  refine ⟨(store.newRecord record).1.append list store.records.length, ?_, ?_⟩
  · unfold Store.appendCopy
    rw [building.grows.records found]
    rfl
  · refine ⟨(building.grows.trans later).append building.fresh _, building.fresh,
      items ++ [store.records.length], ?_, ?_, ?_⟩
    · show (store.lists.modify list _)[list]? = _
      rw [List.getElem?_modify_eq, place]
      rfl
    · exact readAll_append (later.readAll held) (store.readAll_newRecord record)
    · intro address member
      rcases List.mem_append.mp member with before | last
      · exact own address before
      · rw [List.mem_singleton.mp last]
        exact building.grows.records_length_le

/-- Copying records of `start` appends them. -/
theorem Building.extend {start store : Store α} {list : Nat} {items : List Nat}
    {contents added : List α} (building : Building start list store contents)
    (found : start.readAll items = some added) :
    ∃ after, store.extend list items = some after ∧
      Building start list after (contents ++ added) := by
  have each := mapM_eq_some_iff.mp found
  clear found
  induction each generalizing store contents with
  | nil => exact ⟨store, rfl, by rwa [List.append_nil]⟩
  | @cons item record rest others first _ inductionHypothesis =>
      obtain ⟨next, copied, extended⟩ := building.appendCopy first
      obtain ⟨after, finished, built⟩ := inductionHypothesis extended
      refine ⟨after, ?_, by rwa [List.append_assoc] at built⟩
      unfold Store.extend at finished ⊢
      rw [List.foldlM_cons, copied]
      exact finished

theorem building_copyList {start : Store α} {source : Nat} {contents : List α}
    (found : start.readList source = some contents) :
    ∃ after list, start.copyList source = some (after, list) ∧
      Building start list after contents := by
  obtain ⟨items, place, held⟩ := Option.bind_eq_some_iff.mp found
  obtain ⟨after, extended, built⟩ := start.building_newList.extend held
  refine ⟨after, start.newList.2, ?_, built⟩
  unfold copyList
  rw [place]
  show (start.newList.1.extend start.newList.2 items >>= fun store => some (store, _)) = _
  rw [extended]
  rfl

end Store

end Openobsw.Lib.Objects
