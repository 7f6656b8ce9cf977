import Openobsw.Lib.Machine

/-!
Owns two parties that talk over two pipes: a client that sends a request and reads its
reply before the next one, and a server that writes the reply after the last element of
the request. However their steps interleave, each call gets the reply to its own request.
-/

namespace Openobsw.Lib.Lockstep

variable {α β σ κ ρ : Type*}

/-- A call of the client: the request it sends, and how it reads the reply until it has
a result. -/
structure Call (κ α β ρ : Type*) where
  request : List α
  start : κ
  take : κ → β → κ
  result : κ → Option ρ

/-- What the call knows after a part of the reply. -/
def Call.reading (call : Call κ α β ρ) (part : List β) : κ := part.foldl call.take call.start

/-- From the state `before` the server writes nothing within the request and the reply at
its end, which is not empty; the call has its result at the end of the reply and not
before. -/
structure Answered (server : Machine σ α β) (call : Call κ α β ρ) (before after : σ)
    (reply : List β) (result : ρ) : Prop where
  served : server.AtEnd before call.request after reply
  replies : reply ≠ []
  waits : ∀ front, front <+: reply → front ≠ reply → call.result (call.reading front) = none
  reads : call.result (call.reading reply) = some result

/-- The calls one after the other, with their results and a bound on the number of steps. -/
inductive Session (server : Machine σ α β) :
    List (Call κ α β ρ) → σ → List ρ → σ → Nat → Prop
  | nil (state : σ) : Session server [] state [] state 0
  | cons {call : Call κ α β ρ} {rest : List (Call κ α β ρ)} {before middle after : σ}
      {reply : List β} {result : ρ} {results : List ρ} {cost : Nat}
      (answered : Answered server call before middle reply result)
      (later : Session server rest middle results after cost) :
      Session server (call :: rest) before (result :: results) after
        (2 * call.request.length + 2 * reply.length + 1 + cost)

/-! ### The two parties -/

/-- The client is within a call, with what it has still to send and what it has read, or
it has made all calls. -/
inductive Client (κ α β ρ : Type*) where
  | busy (call : Call κ α β ρ) (unsent : List α) (reading : κ) (rest : List (Call κ α β ρ))
  | done

/-- The client begins the next call. -/
def Client.next : List (Call κ α β ρ) → Client κ α β ρ
  | [] => .done
  | call :: rest => .busy call call.request call.start rest

/-- The client, the pipe to the server, the server with what it has still to write, the
pipe from the server, and the results so far. -/
structure World (σ κ α β ρ : Type*) where
  client : Client κ α β ρ
  up : List α
  state : σ
  unwritten : List β
  down : List β
  results : List ρ

/-- The beginning of a session. -/
def World.start (calls : List (Call κ α β ρ)) (state : σ) : World σ κ α β ρ :=
  ⟨Client.next calls, [], state, [], [], []⟩

/-- The end of a session. -/
def World.finished (state : σ) (results : List ρ) : World σ κ α β ρ :=
  ⟨.done, [], state, [], [], results⟩

/-- One step of either party. A party that reads from an empty pipe waits. -/
inductive Step (server : Machine σ α β) : World σ κ α β ρ → World σ κ α β ρ → Prop
  | send {call : Call κ α β ρ} {item : α} {unsent : List α} {reading : κ}
      {rest : List (Call κ α β ρ)} {up : List α} {state : σ} {unwritten down : List β}
      {results : List ρ} :
      Step server ⟨.busy call (item :: unsent) reading rest, up, state, unwritten, down, results⟩
        ⟨.busy call unsent reading rest, up ++ [item], state, unwritten, down, results⟩
  | serve {client : Client κ α β ρ} {item : α} {up : List α} {state : σ} {down : List β}
      {results : List ρ} :
      Step server ⟨client, item :: up, state, [], down, results⟩
        ⟨client, up, (server.take state item).1, (server.take state item).2, down, results⟩
  | write {client : Client κ α β ρ} {up : List α} {state : σ} {item : β}
      {unwritten down : List β} {results : List ρ} :
      Step server ⟨client, up, state, item :: unwritten, down, results⟩
        ⟨client, up, state, unwritten, down ++ [item], results⟩
  | receive {call : Call κ α β ρ} {reading : κ} {rest : List (Call κ α β ρ)} {up : List α}
      {state : σ} {item : β} {unwritten down : List β} {results : List ρ}
      (waiting : call.result reading = none) :
      Step server ⟨.busy call [] reading rest, up, state, unwritten, item :: down, results⟩
        ⟨.busy call [] (call.take reading item) rest, up, state, unwritten, down, results⟩
  | finish {call : Call κ α β ρ} {reading : κ} {rest : List (Call κ α β ρ)} {up : List α}
      {state : σ} {unwritten down : List β} {results : List ρ} {result : ρ}
      (read : call.result reading = some result) :
      Step server ⟨.busy call [] reading rest, up, state, unwritten, down, results⟩
        ⟨Client.next rest, up, state, unwritten, down, results ++ [result]⟩

/-- A run of the two parties, with its number of steps. -/
inductive Run (server : Machine σ α β) (first : World σ κ α β ρ) : Nat → World σ κ α β ρ → Prop
  | start : Run server first 0 first
  | step {count : Nat} {world next : World σ κ α β ρ} (earlier : Run server first count world)
      (step : Step server world next) : Run server first (count + 1) next

/-! ### The invariant -/

/-- Where a call is: the server still reads the request, or the client reads the reply.
The number bounds the steps that are left of the call. -/
inductive Within (server : Machine σ α β) (call : Call κ α β ρ) (before after : σ)
    (reply : List β) : List α → κ → List α → σ → List β → List β → Nat → Prop
  | asking {taken up unsent : List α} (split : call.request = taken ++ (up ++ unsent))
      (unfinished : up ++ unsent ≠ []) :
      Within server call before after reply unsent call.start up (server.run taken before).1 [] []
        (2 * unsent.length + up.length + 2 * reply.length + 1)
  | answering {read down unwritten : List β} (split : reply = read ++ (down ++ unwritten)) :
      Within server call before after reply [] (call.reading read) [] after unwritten down
        (2 * unwritten.length + down.length + 1)

/-- A world that a session can reach: `results` and `last` are where the session leads,
within the given number of steps. -/
inductive Sound (server : Machine σ α β) (results : List ρ) (last : σ) :
    World σ κ α β ρ → Nat → Prop
  | busy {call : Call κ α β ρ} {rest : List (Call κ α β ρ)} {before middle state : σ}
      {reply unwritten down : List β} {result : ρ} {sofar later : List ρ} {cost left : Nat}
      {unsent up : List α} {reading : κ}
      (answered : Answered server call before middle reply result)
      (session : Session server rest middle later last cost)
      (expected : results = sofar ++ result :: later)
      (within : Within server call before middle reply unsent reading up state unwritten down
        left) :
      Sound server results last
        ⟨.busy call unsent reading rest, up, state, unwritten, down, sofar⟩ (left + cost)
  | done : Sound server results last (World.finished last results) 0

section Calls

variable {server : Machine σ α β} {call : Call κ α β ρ} {before after : σ} {reply : List β}
  {result : ρ}

/-- A result means that the whole reply is read. -/
theorem Answered.complete (answered : Answered server call before after reply result)
    {read rest : List β} (split : reply = read ++ rest) {found : ρ}
    (reads : call.result (call.reading read) = some found) : rest = [] ∧ found = result := by
  have whole : read = reply := by
    by_contra short
    have waits := answered.waits read ⟨rest, split.symm⟩ short
    rw [reads] at waits
    cases waits
  have same := answered.reads
  rw [← whole, reads] at same
  rw [← whole] at split
  exact ⟨List.self_eq_append_right.mp split, Option.some.inj same⟩

/-- The beginning of a call. -/
theorem Answered.within (answered : Answered server call before after reply result) :
    Within server call before after reply call.request call.start [] before [] []
      (2 * call.request.length + 2 * reply.length + 1) := by
  have asks : call.request ≠ [] := by
    intro nothing
    have served := answered.served.whole
    rw [nothing, Machine.run_nil] at served
    exact answered.replies (Prod.mk.inj served).2.symm
  exact @Within.asking _ _ _ _ _ server call before after reply [] [] _ rfl asks

variable {unsent up : List α} {reading : κ} {state : σ} {unwritten down : List β} {left : Nat}

theorem Within.send {item : α}
    (within : Within server call before after reply (item :: unsent) reading up state unwritten
      down left) :
    ∃ less < left, Within server call before after reply unsent reading (up ++ [item]) state
      unwritten down less := by
  cases within with
  | asking split unfinished =>
      refine ⟨_, ?_, .asking (split.trans (by simp)) (by simp)⟩
      simp only [List.length_append, List.length_cons, List.length_nil]
      omega

/-- The element that ends the request makes the server write the reply. -/
theorem Within.serve (answered : Answered server call before after reply result) {item : α}
    (within : Within server call before after reply unsent reading (item :: up) state [] down
      left) :
    ∃ less < left, Within server call before after reply unsent reading up
      (server.take state item).1 (server.take state item).2 down less := by
  cases within with
  | @asking taken _ _ split unfinished =>
      have further : call.request = (taken ++ [item]) ++ (up ++ unsent) := by
        rw [split]
        simp
      have run := server.run_append taken [item] before
      rw [answered.served.silent_within split (by simp)] at run
      simp only [Machine.run_cons, Machine.run_nil, List.append_nil, List.nil_append] at run
      by_cases ended : up ++ unsent = []
      · have served := answered.served.whole
        rw [further, ended, List.append_nil, run] at served
        obtain ⟨rfl, rfl⟩ := Prod.mk.inj served
        obtain ⟨rfl, rfl⟩ := List.append_eq_nil_iff.mp ended
        refine ⟨_, ?_, @Within.answering _ _ _ _ _ server call before _ _ [] [] _ rfl⟩
        simp
      · have silent := answered.served.silent_within further ended
        rw [run] at silent
        have last : (server.take (server.run taken before).1 item).1 =
            (server.run (taken ++ [item]) before).1 := by rw [run]
        rw [show (server.take (server.run taken before).1 item).2 = [] from silent, last]
        refine ⟨_, ?_, .asking further ended⟩
        simp only [List.length_cons]
        omega

theorem Within.write {item : β}
    (within : Within server call before after reply unsent reading up state (item :: unwritten)
      down left) :
    ∃ less < left, Within server call before after reply unsent reading up state unwritten
      (down ++ [item]) less := by
  cases within with
  | answering split =>
      refine ⟨_, ?_, .answering (split.trans (by simp))⟩
      simp only [List.length_append, List.length_cons, List.length_nil]
      omega

theorem Within.receive {item : β}
    (within : Within server call before after reply [] reading up state unwritten (item :: down)
      left) :
    ∃ less < left, Within server call before after reply [] (call.take reading item) up state
      unwritten down less := by
  cases within with
  | @answering read _ _ split =>
      have further : call.take (call.reading read) item = call.reading (read ++ [item]) := by
        simp [Call.reading]
      rw [further]
      refine ⟨_, ?_, .answering (split.trans (by simp))⟩
      simp only [List.length_cons]
      omega

/-- A call ends with its own result, and leaves nothing behind in the pipes. -/
theorem Within.finish (answered : Answered server call before after reply result) {found : ρ}
    (within : Within server call before after reply [] reading up state unwritten down left)
    (read : call.result reading = some found) :
    found = result ∧ up = [] ∧ state = after ∧ unwritten = [] ∧ down = [] ∧ 0 < left := by
  cases within with
  | asking split unfinished =>
      have waits := answered.waits [] List.nil_prefix answered.replies.symm
      rw [show call.result (call.reading []) = some found from read] at waits
      cases waits
  | answering split =>
      obtain ⟨nothing, same⟩ := answered.complete split read
      obtain ⟨rfl, rfl⟩ := List.append_eq_nil_iff.mp nothing
      exact ⟨same, rfl, rfl, rfl, rfl, Nat.succ_pos _⟩

end Calls

variable {server : Machine σ α β} {results : List ρ} {last : σ} {world next : World σ κ α β ρ}
  {count : Nat}

/-- The beginning of the remaining calls. -/
theorem Session.sound {calls : List (Call κ α β ρ)} {state : σ} {sofar later : List ρ}
    {cost : Nat} (session : Session server calls state later last cost)
    (expected : results = sofar ++ later) :
    Sound server results last ⟨Client.next calls, [], state, [], [], sofar⟩ cost := by
  cases session with
  | nil state =>
      rw [List.append_nil] at expected
      rw [expected]
      exact .done
  | cons answered session => exact .busy answered session expected answered.within

/-- A step of either party leads on, and to fewer steps that are left. -/
theorem Sound.step (sound : Sound server results last world count)
    (step : Step server world next) :
    ∃ left < count, Sound server results last next left := by
  cases sound with
  | done => cases step
  | @busy _ rest _ middle _ _ _ _ _ sofar later cost _ _ _ _ answered session expected within =>
      have onward {left less : Nat} (fewer : less < left) : less + cost < left + cost :=
        Nat.add_lt_add_right fewer cost
      cases step with
      | send =>
          obtain ⟨less, fewer, moved⟩ := within.send
          exact ⟨_, onward fewer, .busy answered session expected moved⟩
      | serve =>
          obtain ⟨less, fewer, moved⟩ := within.serve answered
          exact ⟨_, onward fewer, .busy answered session expected moved⟩
      | write =>
          obtain ⟨less, fewer, moved⟩ := within.write
          exact ⟨_, onward fewer, .busy answered session expected moved⟩
      | receive waiting =>
          obtain ⟨less, fewer, moved⟩ := within.receive
          exact ⟨_, onward fewer, .busy answered session expected moved⟩
      | finish read =>
          obtain ⟨rfl, rfl, rfl, rfl, rfl, some⟩ := within.finish answered read
          refine ⟨cost, by omega, session.sound ?_⟩
          rw [expected, List.append_assoc]
          rfl

theorem Sound.run (sound : Sound server results last world count) {steps : Nat}
    (run : Run server world steps next) :
    ∃ left, steps + left ≤ count ∧ Sound server results last next left := by
  induction run with
  | start => exact ⟨count, by omega, sound⟩
  | step earlier step inductionHypothesis =>
      obtain ⟨left, bound, middle⟩ := inductionHypothesis
      obtain ⟨less, fewer, after⟩ := middle.step step
      exact ⟨less, by omega, after⟩

/-- Until all calls are made, one of the parties can go on. -/
theorem Sound.progress (sound : Sound server results last world count) :
    world = World.finished last results ∨ ∃ next, Step server world next := by
  cases sound with
  | done => exact .inl rfl
  | @busy _ _ _ _ _ _ unwritten down _ _ _ _ _ unsent up _ answered session expected within =>
      right
      cases within with
      | asking split unfinished =>
          cases up with
          | cons item up => exact ⟨_, .serve⟩
          | nil =>
              cases unsent with
              | cons item unsent => exact ⟨_, .send⟩
              | nil => exact absurd rfl unfinished
      | @answering read _ _ split =>
          cases unwritten with
          | cons item unwritten => exact ⟨_, .write⟩
          | nil =>
              cases down with
              | nil =>
                  rw [List.append_nil, List.append_nil] at split
                  have reads := answered.reads
                  rw [split] at reads
                  exact ⟨_, .finish reads⟩
              | cons item down =>
                  have waits := answered.waits read ⟨item :: down ++ [], split.symm⟩ (by
                    rw [split]
                    simp)
                  exact ⟨_, .receive waits⟩

theorem Sound.sofar (sound : Sound server results last world count) :
    world.results <+: results := by
  cases sound with
  | done => exact List.prefix_rfl
  | busy answered session expected within => exact ⟨_, expected.symm⟩

/-- However the two parties take their steps: a session ends within the given number of
them, every call has got its own result, and neither party waits for the other before. -/
theorem Session.lockstep {calls : List (Call κ α β ρ)} {state : σ} {cost steps : Nat}
    (session : Session server calls state results last cost)
    (run : Run server (World.start calls state) steps world) :
    steps ≤ cost ∧ world.results <+: results ∧
      (world = World.finished last results ∨ ∃ next, Step server world next) := by
  have start : Sound server results last (World.start calls state) cost := session.sound rfl
  obtain ⟨left, bound, sound⟩ := start.run run
  exact ⟨by omega, sound.sofar, sound.progress⟩

end Openobsw.Lib.Lockstep
