import Mathlib.Logic.Relation
import Openobsw.Lib.Machine
import Openobsw.Lib.Ring

/-!
Owns a ring buffer that an interrupt fills while a program empties it. The interrupt may come
between any two accesses of the program; still the program takes the elements that found room,
in their order, and writes what it writes on them.
-/

namespace Openobsw.Lib.SharedRing

open Openobsw.Lib.Ring

variable {α β σ : Type*} {n : Nat}

/-! ### The ring -/

/-- The cells, the index that the interrupt moves and the one that the program moves. -/
structure Shared (α : Type*) (n : Nat) where
  slots : Vector α n
  head : Fin n
  tail : Fin n

namespace Shared

def room (ring : Shared α n) : Bool := next ring.head != ring.tail

/-- The interrupt. An element that finds no room is dropped. -/
def push (ring : Shared α n) (element : α) : Shared α n :=
  if ring.room then
    { ring with
      slots := ring.slots.set ring.head.val element ring.head.isLt
      head := next ring.head }
  else ring

/-- The elements held, oldest first. -/
def held (ring : Shared α n) : List α := contents ring.slots ring.head ring.tail

/-- The program moves its index. -/
def advanced (ring : Shared α n) : Shared α n := { ring with tail := next ring.tail }

variable {ring : Shared α n}

theorem room_iff : ring.room = true ↔ ring.held.length < n - 1 := by
  have bound := held_lt ring.head ring.tail
  unfold room held
  rw [contents_length, bne_iff_ne, Ne, next_eq_tail_iff]
  omega

theorem push_held (ring : Shared α n) (element : α) :
    (ring.push element).held = if ring.room then ring.held ++ [element] else ring.held := by
  unfold push
  cases free : ring.room with
  | false => rfl
  | true =>
      rw [if_pos rfl, if_pos rfl]
      exact contents_push ring.slots (bne_iff_ne.mp free) element

/-- An element that is held stays where the program finds it. -/
theorem push_front (filled : ring.head ≠ ring.tail) (element : α) :
    (ring.push element).head ≠ (ring.push element).tail ∧
      (ring.push element).slots.get (ring.push element).tail = ring.slots.get ring.tail := by
  unfold push
  cases free : ring.room with
  | false => exact ⟨filled, rfl⟩
  | true =>
      rw [if_pos rfl]
      refine ⟨bne_iff_ne.mp free, ?_⟩
      have apart : ring.head.val ≠ ring.tail.val := fun same => filled (Fin.ext same)
      exact Vector.getElem_set_ne ring.head.isLt ring.tail.isLt apart

theorem held_advanced (filled : ring.head ≠ ring.tail) :
    ring.held = ring.slots.get ring.tail :: ring.advanced.held :=
  contents_pop ring.slots filled

theorem held_empty (empty : ring.head = ring.tail) : ring.held = [] := by
  unfold held
  rw [empty, contents_self]

end Shared

/-! ### The program and the interrupt -/

/-- How far the program is in taking an element: it looks whether there is one, loads it, and
moves its index. -/
inductive Taking (α : Type*) where
  | look
  | load
  | move (element : α)

/-- The ring, the program, what it has written, and the elements that have arrived and those
that it has taken. -/
structure World (α β σ : Type*) (n : Nat) where
  ring : Shared α n
  taking : Taking α
  state : σ
  written : List β
  arrived : List α
  taken : List α

namespace World

/-- The interrupt comes. -/
def arrive (world : World α β σ n) (element : α) : World α β σ n :=
  { world with
    ring := world.ring.push element
    arrived := world.arrived ++ [element] }

/-- The program has its element and goes on until it needs the next one. -/
def proceed (program : Machine σ α β) (world : World α β σ n) (element : α) : World α β σ n :=
  { world with
    ring := world.ring.advanced
    taking := .look
    state := (program.take world.state element).1
    written := world.written ++ (program.take world.state element).2
    taken := world.taken ++ [element] }

def start (slots : Vector α n) (index : Fin n) (state : σ) : World α β σ n where
  ring := ⟨slots, index, index⟩
  taking := .look
  state := state
  written := []
  arrived := []
  taken := []

end World

/-- One access of the program, or the interrupt. A program that finds nothing looks again. -/
inductive Step (program : Machine σ α β) : World α β σ n → World α β σ n → Prop
  | interrupt (world : World α β σ n) (element : α) : Step program world (world.arrive element)
  | wait (world : World α β σ n) (looks : world.taking = .look)
      (empty : world.ring.head = world.ring.tail) : Step program world world
  | look (world : World α β σ n) (looks : world.taking = .look)
      (filled : world.ring.head ≠ world.ring.tail) :
      Step program world { world with taking := .load }
  | load (world : World α β σ n) (loads : world.taking = .load) :
      Step program world { world with taking := .move (world.ring.slots.get world.ring.tail) }
  | move (world : World α β σ n) (element : α) (moves : world.taking = .move element) :
      Step program world (world.proceed program element)

/-- Steps in any order. -/
def Run (program : Machine σ α β) : World α β σ n → World α β σ n → Prop :=
  Relation.ReflTransGen (Step program)

/-- No element arrives while as many wait as the ring can hold. -/
def PacedStep (program : Machine σ α β) (before after : World α β σ n) : Prop :=
  Step program before after ∧ after.arrived.length ≤ after.taken.length + (n - 1)

def PacedRun (program : Machine σ α β) : World α β σ n → World α β σ n → Prop :=
  Relation.ReflTransGen (PacedStep program)

/-! ### The invariant -/

/-- What the program knows of the ring. -/
def Taking.Knows (ring : Shared α n) : Taking α → Prop
  | .look => True
  | .load => ring.head ≠ ring.tail
  | .move element => ring.head ≠ ring.tail ∧ ring.slots.get ring.tail = element

theorem Taking.Knows.push {ring : Shared α n} {taking : Taking α} (knows : taking.Knows ring)
    (element : α) : taking.Knows (ring.push element) := by
  cases taking with
  | look => trivial
  | load => exact (Shared.push_front knows element).1
  | move other =>
      obtain ⟨filled, front⟩ := knows
      exact ⟨(Shared.push_front filled element).1,
        (Shared.push_front filled element).2.trans front⟩

/-- The program has run on what it has taken, and that with what is held is what arrived, but
for the elements that found no room. -/
structure Sound (program : Machine σ α β) (start : σ) (world : World α β σ n) : Prop where
  order : (world.taken ++ world.ring.held).Sublist world.arrived
  ran : program.run world.taken start = (world.state, world.written)
  knows : world.taking.Knows world.ring

variable {program : Machine σ α β} {start : σ} {world after : World α β σ n}

theorem start_sound (program : Machine σ α β) (slots : Vector α n) (index : Fin n) (start : σ) :
    Sound program start (World.start slots index start : World α β σ n) where
  order := by
    show ([] ++ (Shared.held ⟨slots, index, index⟩)).Sublist []
    rw [Shared.held_empty rfl, List.append_nil]
  ran := rfl
  knows := trivial

/-- The element that the program moves on from is the first one held. -/
theorem Sound.proceed (sound : Sound program start world) {element : α}
    (moves : world.taking = .move element) :
    world.ring.held = element :: world.ring.advanced.held ∧
      Sound program start (world.proceed program element) := by
  have knows := sound.knows
  rw [moves] at knows
  obtain ⟨filled, front⟩ := knows
  have pops := Shared.held_advanced filled
  rw [front] at pops
  refine ⟨pops, ?_, ?_, trivial⟩
  · show ((world.taken ++ [element]) ++ world.ring.advanced.held).Sublist world.arrived
    have order := sound.order
    rw [pops] at order
    rw [List.append_assoc]
    exact order
  · show program.run (world.taken ++ [element]) start = _
    rw [Machine.run_append, sound.ran]
    simp [World.proceed]

theorem Sound.step (sound : Sound program start world) (step : Step program world after) :
    Sound program start after := by
  cases step with
  | interrupt element =>
      refine ⟨?_, sound.ran, sound.knows.push element⟩
      show (world.taken ++ (world.ring.push element).held).Sublist (world.arrived ++ [element])
      rw [Shared.push_held]
      split
      · rw [← List.append_assoc]
        exact sound.order.append (List.Sublist.refl [element])
      · exact sound.order.trans (List.sublist_append_left world.arrived [element])
  | wait looks empty => exact sound
  | look looks filled => exact ⟨sound.order, sound.ran, filled⟩
  | load loads =>
      have filled := sound.knows
      rw [loads] at filled
      exact ⟨sound.order, sound.ran, filled, rfl⟩
  | move element moves => exact (sound.proceed moves).2

theorem Sound.run (sound : Sound program start world) (run : Run program world after) :
    Sound program start after := by
  induction run with
  | refl => exact sound
  | tail _ step inductionHypothesis => exact inductionHypothesis.step step

/-! ### With room for all elements -/

/-- Nothing has been dropped. -/
def World.Whole (world : World α β σ n) : Prop :=
  world.taken ++ world.ring.held = world.arrived

theorem Sound.whole_step (sound : Sound program start world) (whole : world.Whole)
    (step : PacedStep program world after) : after.Whole := by
  obtain ⟨step, paced⟩ := step
  cases step with
  | interrupt element =>
      have room : world.ring.room = true := by
        have count := congrArg List.length whole
        change (world.arrived ++ [element]).length ≤ world.taken.length + (n - 1) at paced
        rw [List.length_append] at count paced
        rw [Shared.room_iff]
        have single : [element].length = 1 := rfl
        omega
      show world.taken ++ (world.ring.push element).held = world.arrived ++ [element]
      rw [Shared.push_held, if_pos room, ← List.append_assoc, whole]
  | wait looks empty => exact whole
  | look looks filled => exact whole
  | load loads => exact whole
  | move element moves =>
      show (world.taken ++ [element]) ++ world.ring.advanced.held = world.arrived
      rw [List.append_assoc, List.singleton_append, ← (sound.proceed moves).1]
      exact whole

theorem PacedRun.run (paced : PacedRun program world after) : Run program world after :=
  Relation.ReflTransGen.mono (fun _ _ step => step.1) _ _ paced

theorem Sound.whole (sound : Sound program start world) (whole : world.Whole)
    (paced : PacedRun program world after) : after.Whole := by
  induction paced with
  | refl => exact whole
  | tail before step inductionHypothesis =>
      exact (sound.run (PacedRun.run before)).whole_step inductionHypothesis step

/-! ### The program gets through -/

/-- Without an interrupt the program has come to take the element. -/
structure Takes (program : Machine σ α β) (world : World α β σ n) (element : α)
    (next : World α β σ n) : Prop where
  reached : Run program world next
  arrived : next.arrived = world.arrived
  taken : next.taken = world.taken ++ [element]
  rest : world.ring.held = element :: next.ring.held

theorem Sound.takes_move (sound : Sound program start world) {element : α}
    (moves : world.taking = .move element) :
    Takes program world element (world.proceed program element) where
  reached := Relation.ReflTransGen.single (.move world element moves)
  arrived := rfl
  taken := rfl
  rest := (sound.proceed moves).1

theorem Sound.takes_load (sound : Sound program start world) (loads : world.taking = .load) :
    ∃ element next, Takes program world element next := by
  have step : Step program world _ := .load world loads
  have takes := (sound.step step).takes_move rfl
  exact ⟨_, _, takes.reached.head step, takes.arrived, takes.taken, takes.rest⟩

/-- The program takes an element if there is one. -/
theorem Sound.takes (sound : Sound program start world)
    (filled : world.ring.head ≠ world.ring.tail) :
    ∃ element next, Takes program world element next := by
  cases taking : world.taking with
  | look =>
      have step : Step program world _ := .look world taking filled
      obtain ⟨element, next, takes⟩ := (sound.step step).takes_load rfl
      exact ⟨element, next, takes.reached.head step, takes.arrived, takes.taken, takes.rest⟩
  | load => exact sound.takes_load taking
  | move element => exact ⟨element, _, sound.takes_move taking⟩

/-- From every state the program comes to have taken all that is held. -/
theorem Sound.empties (sound : Sound program start world) :
    ∃ next, Run program world next ∧ next.arrived = world.arrived ∧
      next.taken = world.taken ++ world.ring.held ∧ next.ring.held = [] := by
  induction length : world.ring.held.length generalizing world with
  | zero =>
      have none := List.length_eq_zero_iff.mp length
      exact ⟨world, Relation.ReflTransGen.refl, rfl, by rw [none, List.append_nil], none⟩
  | succ count inductionHypothesis =>
      have filled : world.ring.head ≠ world.ring.tail := by
        intro empty
        rw [Shared.held_empty empty] at length
        cases length
      obtain ⟨element, middle, takes⟩ := sound.takes filled
      rw [takes.rest, List.length_cons] at length
      obtain ⟨next, onward, arrived, taken, empty⟩ :=
        inductionHypothesis (sound.run takes.reached) (Nat.succ.inj length)
      refine ⟨next, takes.reached.trans onward, arrived.trans takes.arrived, ?_, empty⟩
      rw [taken, takes.taken, takes.rest, List.append_assoc]
      rfl

end Openobsw.Lib.SharedRing
