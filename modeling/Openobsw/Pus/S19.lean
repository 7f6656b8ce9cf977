import Mathlib.Data.List.Nodup
import Openobsw.Lib.Component
import Openobsw.Lib.Tables
import Openobsw.Pus.Handler

/-!
Owns event-action (`s19.c`): the definition table, its five TC handlers, the
event hook that queues, and the run that dispatches what was queued.
-/

namespace Openobsw.Pus.S19

open Openobsw.Lib Openobsw.Lib.Tables Openobsw.Pus.S1 Openobsw.Pus.Handler Openobsw.Util

/-- `obsw_s19_def_t` -/
structure Def where
  eventId : UInt16
  action : List UInt8
deriving DecidableEq, Repr

/-- `obsw_s19_ctx_t`; `defs` is the table `defs[0..count)` and `queue` is
`queue[0..queued)`, which never outgrows its array. -/
structure Ctx (cfg : Config) where
  defs : List Def
  capacity : UInt8
  enabled : Bool
  queue : List UInt16
  dropped : UInt16
  queueFits : queue.length ≤ cfg.s19QueueLen
deriving DecidableEq, Repr

/-- `obsw_s19_init` with the storage it is given. -/
def init (cfg : Config) (capacity : UInt8) : Ctx cfg where
  defs := []
  capacity := capacity
  enabled := true
  queue := []
  dropped := 0
  queueFits := Nat.zero_le _

/-- `find_def` -/
def findDef (defs : List Def) (eventId : UInt16) : Option Nat :=
  findKey Def.eventId defs eventId

variable {cfg : Config}

/-- `action_valid` -/
def actionValid (cfg : Config) (pkt : List UInt8) : Option Bool :=
  if pkt.length ≤ cfg.s19ActionMaxLen then do
    match ← tcPacketCheck pkt with
    | none => return false
    | some svc => return svc ≠ 19
  else some false

/-- The table after an accepted TC(19,1): the entry of the event is overwritten, or
a new one is appended. -/
def putDef (cfg : Config) (u : List UInt8) (found : Option Nat) (eventId : UInt16) (s : Ctx cfg) :
    Option (Ctx cfg) := do
  let action ← appendWithin cfg.s19ActionMaxLen [] (u.drop 2)
  let d : Def := { eventId := eventId, action := action }
  match found with
  | some index => return { s with defs := s.defs.set index d }
  | none => do
      let defs ← pushWithin s.capacity.toNat s.defs d
      return { s with defs := defs }

/-- `obsw_s19_add` -/
def add (tc : Tc) (s : Ctx cfg) (link : Link cfg) : Option (Int × Ctx cfg × Link cfg) :=
  requireUserData 2 tc s link fun u => do
    let valid ← actionValid cfg (u.drop 2)
    if valid = false then reject tc failIllegalAppData s link
    else do
      let eventId ← obswBe16 u 0
      let found := findDef s.defs eventId
      if found = none ∧ s.defs.length ≥ s.capacity.toNat then reject tc failExecError s link
      else execute tc (putDef cfg u found eventId) s link

/-- `s->count--; *d = s->defs[s->count]` -/
def removeDef (index : Nat) (s : Ctx cfg) : Option (Ctx cfg) := do
  let defs ← swapRemove s.defs index
  return { s with defs := defs }

/-- `obsw_s19_delete` -/
def delete (tc : Tc) (s : Ctx cfg) (link : Link cfg) : Option (Int × Ctx cfg × Link cfg) :=
  deleteByKey (fun s eventId => findDef s.defs eventId) (fun _ index => removeDef index) tc s link

/-- `obsw_s19_delete_all` -/
def deleteAll (tc : Tc) (s : Ctx cfg) (link : Link cfg) : Option (Int × Ctx cfg × Link cfg) :=
  execute tc (fun s => some { s with defs := [] }) s link

/-- `obsw_s19_enable` -/
def enable (tc : Tc) (s : Ctx cfg) (link : Link cfg) : Option (Int × Ctx cfg × Link cfg) :=
  execute tc (fun s => some { s with enabled := true }) s link

/-- The queue count is reset. -/
def Ctx.emptied (s : Ctx cfg) : Ctx cfg :=
  { s with queue := [], queueFits := Nat.zero_le _ }

/-- `obsw_s19_disable` -/
def disable (tc : Tc) (s : Ctx cfg) (link : Link cfg) : Option (Int × Ctx cfg × Link cfg) :=
  execute tc (fun s => some { s.emptied with enabled := false }) s link

/-! ### Event hook and dispatch -/

/-- `obsw_s19_on_event` -/
def onEvent (eventId : UInt16) (s : Ctx cfg) : Ctx cfg :=
  if s.enabled = false ∨ findDef s.defs eventId = none then s
  else if room : s.queue.length < cfg.s19QueueLen then
    { s with
      queue := s.queue ++ [eventId]
      queueFits := by
        rw [List.length_append]
        exact room }
  else { s with dropped := s.dropped + 1 }

variable {σ : Type}

/-- The loop of `obsw_s19_run` over the batch; the number is the actions fed. -/
def runBatch (events : Component σ (Ctx cfg)) (feed : List UInt8 → σ → Option (TcRc × σ)) :
    List UInt16 → σ → Option (Nat × σ)
  | [], state => some (0, state)
  | eventId :: rest, state =>
      match findDef (events.get state).defs eventId with
      | none => runBatch events feed rest state
      | some index => do
          let d ← (events.get state).defs[index]?
          let (_, state) ← feed d.action state
          let (run, state) ← runBatch events feed rest state
          return (run + 1, state)

/-- `obsw_s19_run`: the batch is taken before the first action is fed. -/
def run (events : Component σ (Ctx cfg)) (feed : List UInt8 → σ → Option (TcRc × σ))
    (state : σ) : Option (Nat × σ) :=
  let s := events.get state
  runBatch events feed s.queue (events.set s.emptied state)

/-! ### Lookup -/

/-- The action stored for an event. -/
def actionOf (defs : List Def) (eventId : UInt16) : Option (List UInt8) :=
  (defs.find? (fun d => d.eventId == eventId)).map (fun d => d.action)

theorem findDef_action {defs : List Def} {eventId : UInt16} {index : Nat}
    (found : findDef defs eventId = some index) :
    ∃ d ∈ defs, defs[index]? = some d ∧ actionOf defs eventId = some d.action := by
  obtain ⟨inRange, matched, first⟩ := List.findIdx?_eq_some_iff_getElem.mp found
  refine ⟨defs[index], List.getElem_mem inRange, List.getElem?_eq_getElem inRange, ?_⟩
  have selected : defs.find? (fun d => d.eventId == eventId) = some defs[index] := by
    rw [List.find?_eq_some_iff_getElem]
    exact ⟨matched, index, inRange, rfl, fun j below => by simpa using first j below⟩
  unfold actionOf
  rw [selected]
  rfl

theorem actionOf_none {defs : List Def} {eventId : UInt16}
    (absent : findDef defs eventId = none) : actionOf defs eventId = none := by
  unfold actionOf
  rw [Option.map_eq_none_iff, List.find?_eq_none]
  exact fun d member => by simpa using List.findIdx?_eq_none_iff.mp absent d member

end Openobsw.Pus.S19
