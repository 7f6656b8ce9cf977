import Openobsw.Lib.Numbering
import Openobsw.Properties.PacketQueue
import Openobsw.Pus.TmBuild

/-!
Owns sequences of TM builds on one store: with room for all of them each is stored, in
order; without, one of them is refused. The requests of a service carry its counter.
-/

namespace Openobsw.Pus

open Openobsw.Lib.Numbering Openobsw.Tm

variable {cfg : Config}

/-- The packet of the request is within the limit. -/
def TmRequest.Fits (cfg : Config) (request : TmRequest) : Prop :=
  17 + request.data.length ≤ cfg.tmMaxPacketLen

/-- What the receiver of a TM sees of its number: the service and the message counter. -/
def TmRequest.message (request : TmRequest) : UInt8 × UInt16 := (request.svc, request.msgCounter)

/-- The port after the builds of a list of requests. -/
def Port.afterAll (port : Port cfg) (requests : List TmRequest) : Port cfg :=
  requests.foldl Port.after port

/-- The packets that are stored on a port, oldest first. -/
def Port.queue (port : Port cfg) : Queue := port.store.queue

/-- The packets of the builds that succeeded. -/
def storedPackets (log : List TmBuilt) : Queue :=
  (log.filter (fun tm => tm.rc = .ok)).map (fun tm => tm.request.packet)

@[simp] theorem afterAll_nil (port : Port cfg) : port.afterAll [] = port := rfl

@[simp] theorem afterAll_cons (port : Port cfg) (request : TmRequest) (rest : List TmRequest) :
    port.afterAll (request :: rest) = (port.after request).afterAll rest := rfl

theorem afterAll_append (port : Port cfg) (front back : List TmRequest) :
    port.afterAll (front ++ back) = (port.afterAll front).afterAll back :=
  List.foldl_append

/-- The builds are on record in their order, stored or not. -/
theorem afterAll_requests (port : Port cfg) (requests : List TmRequest) :
    (port.afterAll requests).log.map (fun tm => tm.request) =
      port.log.map (fun tm => tm.request) ++ requests := by
  induction requests generalizing port with
  | nil => exact (List.append_nil _).symm
  | cons request rest inductionHypothesis =>
      rw [afterAll_cons, inductionHypothesis, after_log, List.map_append, List.append_assoc]
      rfl

/-- A packet within the limit is built, and stored unless the store is full. -/
theorem after_of_fits {request : TmRequest} (bounded : cfg.tmMaxPacketLen ≤ 65535)
    (fits : request.Fits cfg) (port : Port cfg) :
    if port.queue.length = cfg.tmStoreSlots - 1 then
      (port.after request).log = port.log ++ [⟨request, .errStore⟩] ∧
        (port.after request).queue = port.queue
    else
      (port.after request).log = port.log ++ [⟨request, .ok⟩] ∧
        (port.after request).queue = port.queue ++ [request.packet] := by
  unfold TmRequest.Fits at fits
  have short : request.dataLen = request.data.length := Nat.mod_eq_of_lt (by omega)
  have rc := put_of_fits port request (by omega) (by omega)
  have length : request.packet.length ≤ cfg.tmMaxPacketLen := by
    rw [TmRequest.packet_length, short]
    exact fits
  have exact := request.total_of_small (by omega)
  have whole := request.take_total (by omega)
  have stored : (port.after request).queue =
      (Queue.enqueue cfg port.queue request.packet).2 := by
    have step := congrArg Prod.snd (Store.enqueue_queue port.store request.packet)
    unfold Port.after Port.put Port.queue
    rw [if_neg (by omega), whole, ← step]
    rfl
  have small : ¬ request.packet.length > cfg.tmMaxPacketLen := Nat.not_lt.mpr length
  rw [after_log, rc, stored]
  unfold Queue.enqueue
  rw [if_neg small]
  by_cases filled : port.queue.length = cfg.tmStoreSlots - 1
  · rw [if_pos filled, if_pos ((Store.full_iff port.store).mpr filled), if_pos filled]
    exact ⟨rfl, rfl⟩
  · rw [if_neg filled, if_neg (fun all => filled ((Store.full_iff port.store).mp all)),
      if_neg filled]
    exact ⟨rfl, rfl⟩

/-- What a sequence of builds within the limit leaves: a record of each, in order, and
the packets of those that were stored behind the ones in the queue. -/
structure Built (cfg : Config) (port : Port cfg) (requests : List TmRequest)
    (built : List TmBuilt) : Prop where
  log : (port.afterAll requests).log = port.log ++ built
  same : built.map (fun tm => tm.request) = requests
  queue : (port.afterAll requests).queue = port.queue ++ storedPackets built
  short : ∀ pkt ∈ storedPackets built, pkt.length ≤ cfg.tmMaxPacketLen

theorem packet_length_of_fits {request : TmRequest} (fits : request.Fits cfg) :
    request.packet.length ≤ cfg.tmMaxPacketLen := by
  rw [TmRequest.packet_length]
  exact (Nat.add_le_add_left request.dataLen_le 17).trans fits

/-- All of them are stored exactly when there is room for all of them. -/
theorem afterAll_built {requests : List TmRequest} (bounded : cfg.tmMaxPacketLen ≤ 65535)
    (fits : ∀ request ∈ requests, request.Fits cfg) (port : Port cfg) :
    ∃ built, Built cfg port requests built ∧
      (port.queue.length ≤ cfg.tmStoreSlots - 1 → ((∀ tm ∈ built, tm.rc = .ok) ↔
        port.queue.length + requests.length ≤ cfg.tmStoreSlots - 1)) := by
  induction requests generalizing port with
  | nil =>
      refine ⟨[], ⟨(List.append_nil _).symm, rfl, (List.append_nil _).symm, by simp [storedPackets]⟩, ?_⟩
      intro within
      simpa using within
  | cons request rest inductionHypothesis =>
      obtain ⟨built, later, room⟩ := inductionHypothesis
        (fun other member => fits other (List.mem_cons_of_mem request member)) (port.after request)
      have own := fits request List.mem_cons_self
      have first := after_of_fits bounded own port
      rw [List.length_cons]
      split at first
      · rename_i full
        obtain ⟨log, queue⟩ := first
        refine ⟨⟨request, .errStore⟩ :: built, ⟨?_, ?_, ?_, ?_⟩, ?_⟩
        · rw [afterAll_cons, later.log, log, List.append_assoc]
          rfl
        · rw [List.map_cons, later.same]
        · rw [afterAll_cons, later.queue, queue]
          rfl
        · exact later.short
        · intro _
          constructor
          · intro stored
            cases stored _ List.mem_cons_self
          · intro enough
            omega
      · rename_i free
        obtain ⟨log, queue⟩ := first
        have length : (port.after request).queue.length = port.queue.length + 1 := by
          rw [queue, List.length_append, List.length_singleton]
        refine ⟨⟨request, .ok⟩ :: built, ⟨?_, ?_, ?_, ?_⟩, ?_⟩
        · rw [afterAll_cons, later.log, log, List.append_assoc]
          rfl
        · rw [List.map_cons, later.same]
        · rw [afterAll_cons, later.queue, queue, List.append_assoc]
          rfl
        · exact List.forall_mem_cons.mpr ⟨packet_length_of_fits own, later.short⟩
        · intro within
          have others := room (by omega)
          rw [length] at others
          rw [List.forall_mem_cons, others]
          constructor
          · intro stored
            omega
          · intro enough
            exact ⟨rfl, by omega⟩

/-- As many of them are stored as there is room for, and the rest is lost. -/
theorem afterAll_queue {requests : List TmRequest} (bounded : cfg.tmMaxPacketLen ≤ 65535)
    (fits : ∀ request ∈ requests, request.Fits cfg) {port : Port cfg}
    (room : port.queue.length ≤ cfg.tmStoreSlots - 1) :
    (port.afterAll requests).queue =
      (port.queue ++ requests.map TmRequest.packet).take (cfg.tmStoreSlots - 1) := by
  induction requests generalizing port with
  | nil =>
      rw [List.map_nil, List.append_nil, List.take_of_length_le room]
      rfl
  | cons request rest inductionHypothesis =>
      have others : ∀ other ∈ rest, other.Fits cfg :=
        fun other member => fits other (List.mem_cons_of_mem request member)
      have first := after_of_fits bounded (fits request List.mem_cons_self) port
      rw [afterAll_cons]
      split at first
      · rename_i full
        rw [inductionHypothesis others (first.2 ▸ room), first.2, ← full, List.take_left,
          List.take_left]
      · rename_i free
        have stored : (port.after request).queue.length ≤ cfg.tmStoreSlots - 1 := by
          rw [first.2, List.length_append, List.length_singleton]
          omega
        rw [inductionHypothesis others stored, first.2, List.append_assoc]
        rfl

/-! ### Taking packets out -/

theorem dequeue_none {store : Store cfg} (empty : store.queue = []) (bufLen : Nat) :
    (store.dequeue bufLen).1 = .errEmpty := by
  have taken := store.dequeue_queue bufLen
  rw [empty] at taken
  exact congrArg Prod.fst taken

theorem dequeue_oldest {store : Store cfg} {oldest : List UInt8} {rest : Queue}
    (queued : store.queue = oldest :: rest) {bufLen : Nat} (fits : oldest.length ≤ bufLen) :
    ∃ after, store.dequeue bufLen = (.ok, oldest, after) ∧ after.queue = rest := by
  have taken := store.dequeue_queue bufLen
  rw [queued, Queue.dequeue, if_neg (Nat.not_lt.mpr fits)] at taken
  obtain ⟨rc, copied⟩ := Prod.mk.inj taken
  obtain ⟨pkt, left⟩ := Prod.mk.inj copied
  exact ⟨_, Prod.ext rc (Prod.ext pkt rfl), left⟩

/-! ### Requests in a row -/

/-- The requests are the next ones of a service: within the limit, and numbered from
its counter `first` on, which they leave at `last`. -/
structure NextOf (cfg : Config) (svc : UInt8) (first : UInt16) (requests : List TmRequest)
    (last : UInt16) : Prop where
  fits : ∀ request ∈ requests, request.Fits cfg
  messages : requests.map TmRequest.message =
    (consecutive first requests.length).map (Prod.mk svc)
  counted : last = first + UInt16.ofNat requests.length

namespace NextOf

variable {svc : UInt8} {first last : UInt16} {requests : List TmRequest}

theorem nil (cfg : Config) (svc : UInt8) (first : UInt16) : NextOf cfg svc first [] first where
  fits := by simp
  messages := rfl
  counted := by simp

theorem cons {request : TmRequest} (fits : request.Fits cfg) (own : request.svc = svc)
    (number : request.msgCounter = first) (rest : NextOf cfg svc (first + 1) requests last) :
    NextOf cfg svc first (request :: requests) last where
  fits := List.forall_mem_cons.mpr ⟨fits, rest.fits⟩
  messages := by
    rw [List.map_cons, List.length_cons, consecutive_succ, List.map_cons, rest.messages,
      TmRequest.message, own, number]
  counted := by
    rw [rest.counted, List.length_cons, UInt16.ofNat_add, UInt16.add_assoc, UInt16.add_comm 1]
    rfl

theorem own (next : NextOf cfg svc first requests last) :
    ∀ request ∈ requests, request.svc = svc := by
  intro request member
  have message := List.mem_map_of_mem (f := TmRequest.message) member
  rw [next.messages] at message
  obtain ⟨number, _, same⟩ := List.mem_map.mp message
  exact (congrArg Prod.fst same).symm

theorem append {middle : UInt16} {more : List TmRequest}
    (front : NextOf cfg svc first requests middle) (back : NextOf cfg svc middle more last) :
    NextOf cfg svc first (requests ++ more) last where
  fits := List.forall_mem_append.mpr ⟨front.fits, back.fits⟩
  messages := by
    rw [List.map_append, front.messages, back.messages, front.counted, List.length_append,
      consecutive_append, List.map_append]
  counted := by
    rw [back.counted, front.counted, List.length_append, UInt16.ofNat_add, UInt16.add_assoc]

end NextOf

end Openobsw.Pus
