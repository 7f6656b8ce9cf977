import Openobsw.Tc.Dispatcher

/-!
Owns the calls that the TC dispatcher (`tc/dispatcher.c`) makes: the same feed over a
gate, handlers and a responder with effects in an arbitrary monad, each called with its own
context. The dispatcher over a state type is the case of effects on that state.
-/

namespace Openobsw.Calls

variable {m : Type → Type} {κ : Type}

/-- `obsw_tc_responder_t` -/
abbrev Responder (m : Type → Type) (κ : Type) := UInt8 → Tc → κ → m Unit

/-- `obsw_tc_route_t`. `κ` is what a context pointer refers to. -/
structure Route (m : Type → Type) (κ : Type) where
  apid : UInt16
  service : UInt8
  subservice : UInt8
  handler : Tc → Responder m κ → κ → m Int
  ctx : κ

/-- `obsw_tc_dispatcher_t` -/
structure Dispatcher (m : Type → Type) (κ : Type) where
  table : List (Route m κ)
  responder : Responder m κ
  responderCtx : κ
  gate : Option (Tc → κ → m Bool)
  gateCtx : κ

variable [Monad m]

/-- The lookup loop of `obsw_tc_dispatcher_feed` with the reject that follows it. -/
def Dispatcher.lookup (d : Dispatcher m κ) (tc : Tc) : List (Route m κ) → UInt8 → m TcRc
  | [], reason => do
      d.responder (tcAckReject ||| reason) tc d.responderCtx
      return .errNoRoute
  | r :: rest, reason =>
      if (r.apid ≠ 0xFFFF ∧ r.apid ≠ tc.apid) ∨ r.service ≠ tc.service then
        d.lookup tc rest reason
      else if r.subservice = tc.subservice then do
        let rc ← r.handler tc d.responder r.ctx
        return if rc = 0 then .ok else .errHandler
      else d.lookup tc rest tcRejectSubsvc

/-- `d->gate(&tc, d->gate_ctx)`, when a gate is installed. -/
def Dispatcher.consult (d : Dispatcher m κ) (tc : Tc) : m Bool :=
  match d.gate with
  | none => return true
  | some gate => gate tc d.gateCtx

/-- `obsw_tc_dispatcher_feed`; `none` is a read outside the frame. -/
def Dispatcher.feed (d : Dispatcher m κ) (frame : List UInt8) : Option (m TcRc) :=
  (tcParse frame).map fun
    | none => return .errParse
    | some tc => do
        if ← d.consult tc then d.lookup tc d.table tcRejectSvc
        else do
          d.responder (tcAckReject ||| tcRejectGated) tc d.responderCtx
          return .errGated

/-! ### Effects on a state -/

section

variable {σ : Type}

/-- A route over a state; its handler holds its context and responder already. -/
def ofRoute (route : Openobsw.Route σ) : Route (StateT σ Option) Unit where
  apid := route.apid
  service := route.service
  subservice := route.subservice
  handler := fun tc _ _ => route.handler tc
  ctx := ()

/-- A dispatcher over a state, whose gate reads the state. -/
def ofDispatcher (d : Openobsw.Dispatcher σ) : Dispatcher (StateT σ Option) Unit where
  table := d.table.map ofRoute
  responder := fun flags tc _ state => (d.responder flags tc state).map fun next => ((), next)
  responderCtx := ()
  gate := d.gate.map fun gate tc _ state => some (gate tc state, state)
  gateCtx := ()

theorem skips_iff (route : Openobsw.Route σ) (tc : Tc) :
    ((ofRoute route).apid ≠ 0xFFFF ∧ (ofRoute route).apid ≠ tc.apid) ∨
      (ofRoute route).service ≠ tc.service ↔ route.matchesService tc = false := by
  show (route.apid ≠ 0xFFFF ∧ route.apid ≠ tc.apid) ∨ route.service ≠ tc.service ↔ _
  unfold Openobsw.Route.matchesService
  grind

theorem lookup_ofDispatcher (d : Openobsw.Dispatcher σ) (tc : Tc) (table : List (Openobsw.Route σ))
    (reason : UInt8) (state : σ) :
    (ofDispatcher d).lookup tc (table.map ofRoute) reason state =
      Openobsw.lookup d.responder tc table reason state := by
  induction table generalizing reason with
  | nil =>
      show Option.bind ((d.responder _ tc state).map _) _ = Option.bind (d.responder _ tc state) _
      cases d.responder (tcAckReject ||| reason) tc state <;> rfl
  | cons route rest inductionHypothesis =>
      rw [List.map_cons]
      unfold Dispatcher.lookup Openobsw.lookup
      by_cases skipped : route.matchesService tc = false
      · rw [if_pos ((skips_iff route tc).mpr skipped), if_pos skipped]
        exact inductionHypothesis reason
      · rw [if_neg (mt (skips_iff route tc).mp skipped), if_neg skipped]
        by_cases served : route.subservice = tc.subservice
        · rw [if_pos served]
          exact (congrFun (if_pos served) state).trans rfl
        · rw [if_neg served]
          exact (congrFun (if_neg served) state).trans (inductionHypothesis tcRejectSubsvc)

/-- A value that is only read from the state is passed on with the state as it is. -/
theorem bind_reading {α β : Type} (read : σ → α) (next : α → StateT σ Option β) (state : σ) :
    ((fun current => some (read current, current) : StateT σ Option α) >>= next) state =
      next (read state) state := rfl

/-- A feed over a state makes the calls of the general one. -/
theorem tcDispatcherFeed_eq_feed (d : Openobsw.Dispatcher σ) (frame : List UInt8) (state : σ) :
    tcDispatcherFeed d frame state =
      ((ofDispatcher d).feed frame).bind fun calls => calls state := by
  unfold tcDispatcherFeed Dispatcher.feed
  cases parsed : tcParse frame with
  | none => rfl
  | some outcome =>
      cases outcome with
      | none => rfl
      | some tc =>
          have looked := lookup_ofDispatcher d tc d.table tcRejectSvc state
          simp only [Option.bind_eq_bind, Option.bind_some, Option.map_some]
          cases installed : d.gate with
          | none =>
              have consulted : (ofDispatcher d).consult tc = pure true := by
                simp [Dispatcher.consult, ofDispatcher, installed]
              rw [consulted]
              exact looked.symm
          | some gate =>
              have consulted : (ofDispatcher d).consult tc =
                  fun state => some (gate tc state, state) := by
                simp [Dispatcher.consult, ofDispatcher, installed]
              rw [consulted, bind_reading]
              cases answer : gate tc state with
              | true =>
                  rw [if_neg (by simp [answer]), if_pos rfl]
                  exact looked.symm
              | false =>
                  rw [if_pos (by simp [answer]), if_neg Bool.false_ne_true]
                  show _ = Option.bind ((d.responder _ tc state).map _) _
                  cases d.responder (tcAckReject ||| tcRejectGated) tc state <;> rfl

end

end Openobsw.Calls
