import Openobsw.Lib.Component
import Openobsw.Pus.S1

/-!
Owns the shape of a TC handler: the frames the services' handlers are written
in, and the report discipline that every handler is held to. A handler takes
the TC, its service's context and the S1 link; `none` is an access outside an
object.
-/

namespace Openobsw.Pus.Handler

open Openobsw.Lib Openobsw.Util Openobsw.Pus.S1

variable {cfg : Config} {κ σ : Type}

/-! ### The report discipline -/

/-- Between two links no S1 report was made: the S1 context is the same and
every TM built belongs to another service. -/
def Silent (before after : Link cfg) : Prop :=
  after.ctx = before.ctx ∧
    ∃ built, after.tm.log = before.tm.log ++ built ∧ ∀ tm ∈ built, tm.request.svc ≠ 1

theorem Silent.refl (link : Link cfg) : Silent link link :=
  ⟨rfl, [], (List.append_nil _).symm, by simp⟩

theorem Silent.trans {first second third : Link cfg} (left : Silent first second)
    (right : Silent second third) : Silent first third := by
  obtain ⟨leftCtx, leftBuilt, leftLog, leftOther⟩ := left
  obtain ⟨rightCtx, rightBuilt, rightLog, rightOther⟩ := right
  refine ⟨rightCtx.trans leftCtx, leftBuilt ++ rightBuilt, ?_, ?_⟩
  · rw [rightLog, leftLog, List.append_assoc]
  · intro tm member
    rcases List.mem_append.mp member with inLeft | inRight
    · exact leftOther tm inLeft
    · exact rightOther tm inRight

/-- One build for another service is silent. -/
theorem Silent.emitted (link : Link cfg) {request : TmRequest} (other : request.svc ≠ 1) :
    Silent link (link.emitted request) :=
  ⟨rfl, [⟨request, (link.tm.put request).1⟩], after_log _ _, by simpa using other⟩

/-- The codes a handler may reject a TC with. -/
def HandlerCode (code : UInt16) : Prop :=
  code = failExecError ∨ code = failIllegalAppData ∨ code = failMemAccess

/-- What a TC handler may do to the service state `κ` and the link: reject the TC
and change nothing else, or accept it, act without reporting, and complete it. -/
inductive Outcome (tc : Tc) (before : κ) (link : Link cfg) :
    Int × κ × Link cfg → Prop
  | rejected (code : UInt16) (known : HandlerCode code) :
      Outcome tc before link (-1, before, link.rejected tc code)
  | completed (after : κ) (middle : Link cfg) (silent : Silent (link.accepted tc) middle) :
      Outcome tc before link (0, after, middle.completed tc)
  | failed (after : κ) (middle : Link cfg) (silent : Silent (link.accepted tc) middle) :
      Outcome tc before link (-1, after, middle.failed tc failExecError)

/-- The statement pair `(void)obsw_s1_accept_failure(...); return -1;` -/
def reject (tc : Tc) (code : UInt16) (ctx : κ) (link : Link cfg) :
    Option (Int × κ × Link cfg) := do
  let (_, link) ← acceptFailure tc code link
  return (-1, ctx, link)

@[simp] theorem reject_eq (tc : Tc) (code : UInt16) (ctx : κ) (link : Link cfg) :
    reject tc code ctx link = some (-1, ctx, link.rejected tc code) := by
  obtain ⟨rc, reported⟩ := acceptFailure_eq tc code link
  unfold reject
  rw [reported]
  rfl

/-- The check `!tc->user_data || (tc->user_data_len < minLen)` that opens most
handlers, answered with an illegal-application-data rejection. -/
def requireUserData (minLen : Nat) (tc : Tc) (ctx : κ) (link : Link cfg)
    (body : List UInt8 → Option (Int × κ × Link cfg)) : Option (Int × κ × Link cfg) :=
  match tc.userData with
  | none => reject tc failIllegalAppData ctx link
  | some u => if u.length < minLen then reject tc failIllegalAppData ctx link else body u

/-- The frame of a handler whose whole effect is one update of its context:
accept, update, complete. -/
def execute (tc : Tc) (update : κ → Option κ) (ctx : κ) (link : Link cfg) :
    Option (Int × κ × Link cfg) := do
  let (_, link) ← acceptSuccess tc link
  let ctx ← update ctx
  let (_, link) ← completionSuccess tc link
  return (0, ctx, link)

/-- The frame of a handler that answers with one TM: accept, report, complete. -/
def respond (tc : Tc) (request : TmRequest) (after : κ) (link : Link cfg) :
    Option (Int × κ × Link cfg) := do
  let (_, link) ← acceptSuccess tc link
  let (_, link) ← emit request link
  let (_, link) ← completionSuccess tc link
  return (0, after, link)

theorem respond_eq (tc : Tc) {request : TmRequest}
    (inside : request.Inside cfg) (after : κ) (link : Link cfg) :
    respond tc request after link =
      some (0, after, ((link.accepted tc).emitted request).completed tc) := by
  obtain ⟨first, firstEq⟩ := acceptSuccess_eq tc link
  obtain ⟨second, secondEq⟩ := emit_eq inside (link.accepted tc)
  obtain ⟨third, thirdEq⟩ := completionSuccess_eq tc ((link.accepted tc).emitted request)
  unfold respond
  simp only [firstEq, secondEq, thirdEq, Option.bind_eq_bind, Option.bind_some]
  rfl

/-- The frame of an answer whose completion fails: accept, report, complete with a failure. -/
theorem refute_eq (tc : Tc) {request : TmRequest} (inside : request.Inside cfg) (code : UInt16)
    (after : κ) (link : Link cfg) :
    (do
      let (_, link) ← acceptSuccess tc link
      let (_, link) ← emit request link
      let (_, link) ← completionFailure tc code link
      return (-1, after, link) : Option (Int × κ × Link cfg)) =
        some (-1, after, ((link.accepted tc).emitted request).failed tc code) := by
  obtain ⟨first, firstEq⟩ := acceptSuccess_eq tc link
  obtain ⟨second, secondEq⟩ := emit_eq inside (link.accepted tc)
  obtain ⟨third, thirdEq⟩ := completionFailure_eq tc code ((link.accepted tc).emitted request)
  simp only [firstEq, secondEq, thirdEq, Option.bind_eq_bind, Option.bind_some]
  rfl

theorem execute_eq {update : κ → Option κ} {ctx after : κ} (tc : Tc)
    (updated : update ctx = some after) (link : Link cfg) :
    execute tc update ctx link = some (0, after, (link.accepted tc).completed tc) := by
  obtain ⟨first, firstEq⟩ := acceptSuccess_eq tc link
  obtain ⟨second, secondEq⟩ := completionSuccess_eq tc (link.accepted tc)
  unfold execute
  rw [firstEq]
  simp only [Option.bind_eq_bind, Option.bind_some, updated]
  rw [secondEq]
  rfl

theorem execute_none {update : κ → Option κ} {ctx : κ} (tc : Tc)
    (faulted : update ctx = none) (link : Link cfg) : execute tc update ctx link = none := by
  obtain ⟨first, firstEq⟩ := acceptSuccess_eq tc link
  unfold execute
  rw [firstEq]
  simp only [Option.bind_eq_bind, Option.bind_some, faulted]
  rfl

/-- Whatever the update does, such a handler obeys the report discipline. -/
theorem execute_outcome {update : κ → Option κ} {ctx : κ} {tc : Tc}
    {link : Link cfg} {out : Int × κ × Link cfg}
    (ran : execute tc update ctx link = some out) : Outcome tc ctx link out := by
  cases updated : update ctx with
  | none =>
      rw [execute_none tc updated] at ran
      cases ran
  | some after =>
      rw [execute_eq tc updated] at ran
      cases ran
      exact .completed after _ (Silent.refl _)

theorem reject_outcome {tc : Tc} {code : UInt16} {ctx : κ} {link : Link cfg}
    {out : Int × κ × Link cfg} (known : HandlerCode code)
    (ran : reject tc code ctx link = some out) : Outcome tc ctx link out := by
  rw [reject_eq] at ran
  cases ran
  exact .rejected code known

/-- A handler without a report of its own: it rejects the TC and keeps its
context, or accepts it, changes the context as `Updated` says, and completes it. -/
inductive Updates (tc : Tc) (before : κ) (link : Link cfg) (Updated : κ → Prop) :
    Option (Int × κ × Link cfg) → Prop
  | rejected (code : UInt16) (known : HandlerCode code) :
      Updates tc before link Updated (some (-1, before, link.rejected tc code))
  | executed (after : κ) (updated : Updated after) :
      Updates tc before link Updated (some (0, after, (link.accepted tc).completed tc))

theorem Updates.isSome {tc : Tc} {before : κ} {link : Link cfg} {Updated : κ → Prop}
    {result : Option (Int × κ × Link cfg)} (ran : Updates tc before link Updated result) :
    ∃ out, result = some out := by
  cases ran with
  | rejected code known => exact ⟨_, rfl⟩
  | executed after updated => exact ⟨_, rfl⟩

theorem Updates.outcome {tc : Tc} {before : κ} {link : Link cfg} {Updated : κ → Prop}
    {out : Int × κ × Link cfg} (ran : Updates tc before link Updated (some out)) :
    Outcome tc before link out := by
  cases ran with
  | rejected code known => exact .rejected code known
  | executed after updated => exact .completed after _ (Silent.refl _)

theorem Updates.mono {tc : Tc} {before : κ} {link : Link cfg}
    {Updated Weaker : κ → Prop} {result : Option (Int × κ × Link cfg)}
    (ran : Updates tc before link Updated result) (weaken : ∀ after, Updated after → Weaker after) :
    Updates tc before link Weaker result := by
  cases ran with
  | rejected code known => exact .rejected code known
  | executed after updated => exact .executed after (weaken after updated)

/-- A handler that executes what the TC asks for, and refuses only where nothing can
be executed. -/
inductive Decides (tc : Tc) (before : κ) (link : Link cfg) (Executes : κ → Prop) :
    Option (Int × κ × Link cfg) → Prop
  | refused (code : UInt16) (known : HandlerCode code) (impossible : ∀ after, ¬ Executes after) :
      Decides tc before link Executes (some (-1, before, link.rejected tc code))
  | executed (after : κ) (lawful : Executes after) :
      Decides tc before link Executes (some (0, after, (link.accepted tc).completed tc))

theorem Decides.updates {tc : Tc} {before : κ} {link : Link cfg} {Executes Updated : κ → Prop}
    {result : Option (Int × κ × Link cfg)} (ran : Decides tc before link Executes result)
    (weaken : ∀ after, Executes after → Updated after) :
    Updates tc before link Updated result := by
  cases ran with
  | refused code known impossible => exact .rejected code known
  | executed after lawful => exact .executed after (weaken after lawful)

theorem handlerCode_execError : HandlerCode failExecError := .inl rfl

theorem handlerCode_illegalAppData : HandlerCode failIllegalAppData := .inr (.inl rfl)

theorem handlerCode_memAccess : HandlerCode failMemAccess := .inr (.inr rfl)

theorem reject_updates {code : UInt16} (known : HandlerCode code) (tc : Tc) (ctx : κ)
    (link : Link cfg) (Updated : κ → Prop) :
    Updates tc ctx link Updated (reject tc code ctx link) := by
  rw [reject_eq]
  exact .rejected code known

theorem execute_updates {update : κ → Option κ} {ctx after : κ}
    {Updated : κ → Prop} (tc : Tc) (link : Link cfg) (stepped : update ctx = some after)
    (updated : Updated after) : Updates tc ctx link Updated (execute tc update ctx link) := by
  rw [execute_eq tc stepped]
  exact .executed after updated

theorem reject_decides {code : UInt16} (known : HandlerCode code) (tc : Tc) (ctx : κ)
    (link : Link cfg) {Executes : κ → Prop} (impossible : ∀ after, ¬ Executes after) :
    Decides tc ctx link Executes (reject tc code ctx link) := by
  rw [reject_eq]
  exact .refused code known impossible

theorem execute_decides {update : κ → Option κ} {ctx after : κ} {Executes : κ → Prop} (tc : Tc)
    (link : Link cfg) (stepped : update ctx = some after) (lawful : Executes after) :
    Decides tc ctx link Executes (execute tc update ctx link) := by
  rw [execute_eq tc stepped]
  exact .executed after lawful

theorem requireUserData_cases (minLen : Nat) (tc : Tc) (ctx : κ) (link : Link cfg)
    (body : List UInt8 → Option (Int × κ × Link cfg)) :
    requireUserData minLen tc ctx link body =
        some (-1, ctx, link.rejected tc failIllegalAppData) ∨
      ∃ u, tc.userData = some u ∧ minLen ≤ u.length ∧
        requireUserData minLen tc ctx link body = body u := by
  unfold requireUserData
  cases userData : tc.userData with
  | none =>
      left
      exact reject_eq _ _ _ _
  | some u =>
      by_cases short : u.length < minLen
      · left
        simp only [if_pos short]
        exact reject_eq _ _ _ _
      · right
        refine ⟨u, rfl, Nat.le_of_not_lt short, ?_⟩
        simp only [if_neg short]

/-- The opening check may be stripped: what is left is the body on the user data. -/
theorem requireUserData_updates {minLen : Nat} {tc : Tc} {ctx : κ} {link : Link cfg}
    {Updated : κ → Prop} {body : List UInt8 → Option (Int × κ × Link cfg)}
    (run : ∀ u, tc.userData = some u → minLen ≤ u.length →
      Updates tc ctx link Updated (body u)) :
    Updates tc ctx link Updated (requireUserData minLen tc ctx link body) := by
  rcases requireUserData_cases minLen tc ctx link body with short | ⟨u, present, long, bodyEq⟩
  · rw [short]
    exact .rejected _ handlerCode_illegalAppData
  · rw [bodyEq]
    exact run u present long

/-- Where the command needs that much user data, the same holds of its decision. -/
theorem requireUserData_decides {minLen : Nat} {tc : Tc} {ctx : κ} {link : Link cfg}
    {Executes : κ → Prop} {body : List UInt8 → Option (Int × κ × Link cfg)}
    (needs : ∀ after, Executes after → ∃ u, tc.userData = some u ∧ minLen ≤ u.length)
    (run : ∀ u, tc.userData = some u → minLen ≤ u.length →
      Decides tc ctx link Executes (body u)) :
    Decides tc ctx link Executes (requireUserData minLen tc ctx link body) := by
  by_cases enough : ∃ u, tc.userData = some u ∧ minLen ≤ u.length
  · obtain ⟨u, present, long⟩ := enough
    have opened : requireUserData minLen tc ctx link body = body u := by
      unfold requireUserData
      simp only [present, if_neg (Nat.not_lt_of_le long)]
    rw [opened]
    exact run u present long
  · rcases requireUserData_cases minLen tc ctx link body with short | ⟨u, present, long, _⟩
    · rw [short]
      exact .refused _ handlerCode_illegalAppData (fun after lawful => enough (needs after lawful))
    · exact absurd ⟨u, present, long⟩ enough

/-! ### Discipline in every state -/

/-- Whenever the handler returns, it has kept to the report discipline. -/
def Disciplined (tc : Tc) (before : κ) (link : Link cfg) (result : Option (Int × κ × Link cfg)) :
    Prop :=
  ∀ out, result = some out → Outcome tc before link out

theorem Updates.disciplined {tc : Tc} {before : κ} {link : Link cfg} {Updated : κ → Prop}
    {result : Option (Int × κ × Link cfg)} (ran : Updates tc before link Updated result) :
    Disciplined tc before link result := by
  intro out same
  rw [same] at ran
  exact ran.outcome

theorem reject_disciplined {code : UInt16} (known : HandlerCode code) (tc : Tc) (ctx : κ)
    (link : Link cfg) : Disciplined tc ctx link (reject tc code ctx link) :=
  fun _ ran => reject_outcome known ran

theorem execute_disciplined (tc : Tc) (update : κ → Option κ) (ctx : κ) (link : Link cfg) :
    Disciplined tc ctx link (execute tc update ctx link) :=
  fun _ ran => execute_outcome ran

theorem bind_disciplined {β : Type} {tc : Tc} {ctx : κ} {link : Link cfg} {read : Option β}
    {body : β → Option (Int × κ × Link cfg)}
    (each : ∀ value, read = some value → Disciplined tc ctx link (body value)) :
    Disciplined tc ctx link (read.bind body) := by
  intro out ran
  obtain ⟨value, found, rest⟩ := Option.bind_eq_some_iff.mp ran
  exact each value found out rest

theorem ite_disciplined {tc : Tc} {ctx : κ} {link : Link cfg} {condition : Prop}
    [Decidable condition] {first second : Option (Int × κ × Link cfg)}
    (yes : Disciplined tc ctx link first) (no : Disciplined tc ctx link second) :
    Disciplined tc ctx link (if condition then first else second) := by
  split
  · exact yes
  · exact no

theorem requireUserData_disciplined {minLen : Nat} {tc : Tc} {ctx : κ} {link : Link cfg}
    {body : List UInt8 → Option (Int × κ × Link cfg)}
    (each : ∀ u, Disciplined tc ctx link (body u)) :
    Disciplined tc ctx link (requireUserData minLen tc ctx link body) := by
  rcases requireUserData_cases minLen tc ctx link body with short | ⟨u, _, _, bodyEq⟩
  · rw [short]
    intro out same
    cases same
    exact .rejected _ handlerCode_illegalAppData
  · rw [bodyEq]
    exact each u

/-- A build that returns is the build of its effect. -/
theorem emit_some {request : TmRequest} {link : Link cfg} {out : TmRc × Link cfg}
    (ran : emit request link = some out) : out.2 = link.emitted request := by
  obtain ⟨built, buildEq, same⟩ := Option.bind_eq_some_iff.mp ran
  cases same
  have put := pusTmBuild_some buildEq
  rw [put]
  rfl

theorem respond_some {request : TmRequest} {tc : Tc} {after : κ} {link : Link cfg}
    {out : Int × κ × Link cfg} (ran : respond tc request after link = some out) :
    out = (0, after, ((link.accepted tc).emitted request).completed tc) := by
  obtain ⟨first, firstEq⟩ := acceptSuccess_eq tc link
  unfold respond at ran
  simp only [firstEq, Option.bind_eq_bind, Option.bind_some] at ran
  obtain ⟨emitted, emitEq, rest⟩ := Option.bind_eq_some_iff.mp ran
  rw [emit_some emitEq] at rest
  obtain ⟨last, lastEq⟩ := completionSuccess_eq tc ((link.accepted tc).emitted request)
  simp only [lastEq, Option.bind_some] at rest
  cases rest
  rfl

theorem respond_disciplined {request : TmRequest} (other : request.svc ≠ 1) (tc : Tc)
    (ctx after : κ) (link : Link cfg) :
    Disciplined tc ctx link (respond tc request after link) := by
  intro out ran
  rw [respond_some ran]
  exact .completed after _ (Silent.emitted _ other)

/-! ### The context a handler leaves -/

/-- Whenever the handler returns, the context it leaves satisfies `P`. -/
def Ensures (P : κ → Prop) (result : Option (Int × κ × Link cfg)) : Prop :=
  ∀ out, result = some out → P out.2.1

theorem reject_ensures {P : κ → Prop} {ctx : κ} (holds : P ctx) (tc : Tc) (code : UInt16)
    (link : Link cfg) : Ensures P (reject tc code ctx link) := by
  intro out ran
  rw [reject_eq] at ran
  cases ran
  exact holds

theorem execute_ensures {P : κ → Prop} {update : κ → Option κ} {ctx : κ}
    (updates : ∀ after, update ctx = some after → P after) (tc : Tc) (link : Link cfg) :
    Ensures P (execute tc update ctx link) := by
  intro out ran
  cases updated : update ctx with
  | none =>
      rw [execute_none tc updated] at ran
      cases ran
  | some after =>
      rw [execute_eq tc updated] at ran
      cases ran
      exact updates after updated

theorem bind_ensures {β : Type} {P : κ → Prop} {read : Option β}
    {body : β → Option (Int × κ × Link cfg)}
    (each : ∀ value, read = some value → Ensures P (body value)) : Ensures P (read.bind body) := by
  intro out ran
  obtain ⟨value, found, rest⟩ := Option.bind_eq_some_iff.mp ran
  exact each value found out rest

theorem ite_ensures {P : κ → Prop} {condition : Prop} [Decidable condition]
    {first second : Option (Int × κ × Link cfg)} (yes : Ensures P first) (no : Ensures P second) :
    Ensures P (if condition then first else second) := by
  split
  · exact yes
  · exact no

theorem requireUserData_ensures {P : κ → Prop} {minLen : Nat} {tc : Tc} {ctx : κ}
    {link : Link cfg} {body : List UInt8 → Option (Int × κ × Link cfg)} (holds : P ctx)
    (each : ∀ u, Ensures P (body u)) : Ensures P (requireUserData minLen tc ctx link body) := by
  rcases requireUserData_cases minLen tc ctx link body with short | ⟨u, _, _, bodyEq⟩
  · rw [short]
    intro out same
    cases same
    exact holds
  · rw [bodyEq]
    exact each u

/-! ### Deletion by a 16-bit key -/

/-- The frame of the S11, S12 and S19 delete handlers: the entry with the key in
the first two bytes is removed, and a TC naming none is rejected. -/
def deleteByKey (find : κ → UInt16 → Option Nat) (remove : UInt16 → Nat → κ → Option κ) (tc : Tc)
    (s : κ) (link : Link cfg) : Option (Int × κ × Link cfg) :=
  requireUserData 2 tc s link fun u => do
    let key ← obswBe16 u 0
    match find s key with
    | none => reject tc failIllegalAppData s link
    | some index => execute tc (remove key index) s link

/-- The key that the user data of a TC begins with. -/
def keyOf (tc : Tc) : Option UInt16 := do
  let u ← tc.userData
  obswBe16 u 0

theorem keyOf_eq {tc : Tc} {u : List UInt8} (present : tc.userData = some u) :
    keyOf tc = obswBe16 u 0 := by
  unfold keyOf
  rw [present]
  rfl

theorem userData_of_keyOf {tc : Tc} {key : UInt16} (named : keyOf tc = some key) :
    ∃ u, tc.userData = some u ∧ 2 ≤ u.length ∧ obswBe16 u 0 = some key := by
  obtain ⟨u, present, read⟩ := Option.bind_eq_some_iff.mp named
  refine ⟨u, present, ?_, read⟩
  obtain ⟨first, _, rest⟩ := Option.bind_eq_some_iff.mp read
  obtain ⟨second, inside, _⟩ := Option.bind_eq_some_iff.mp rest
  exact (List.getElem?_eq_some_iff.mp inside).1

/-- A deletion is executed exactly when the key named has an entry. -/
theorem deleteByKey_decides {find : κ → UInt16 → Option Nat}
    {remove : UInt16 → Nat → κ → Option κ} {s : κ} {Executes : κ → Prop} (tc : Tc)
    (link : Link cfg)
    (needs : ∀ after, Executes after → ∃ key index, keyOf tc = some key ∧ find s key = some index)
    (removes : ∀ key index, keyOf tc = some key → find s key = some index →
      ∃ after, remove key index s = some after ∧ Executes after) :
    Decides tc s link Executes (deleteByKey find remove tc s link) := by
  apply requireUserData_decides
  · intro after lawful
    obtain ⟨key, index, named, _⟩ := needs after lawful
    obtain ⟨u, present, long, _⟩ := userData_of_keyOf named
    exact ⟨u, present, long⟩
  · intro u present long
    obtain ⟨key, keyEq⟩ := obswBe16_isSome u 0 (by omega)
    have named : keyOf tc = some key := (keyOf_eq present).trans keyEq
    simp only [keyEq, Option.bind_eq_bind, Option.bind_some]
    cases found : find s key with
    | none =>
        apply reject_decides handlerCode_illegalAppData
        intro after lawful
        obtain ⟨other, index, otherNamed, otherFound⟩ := needs after lawful
        rw [named] at otherNamed
        cases otherNamed
        rw [found] at otherFound
        cases otherFound
    | some index =>
        obtain ⟨after, removed, lawful⟩ := removes key index named found
        exact execute_decides tc link removed lawful

/-! ### A service's context inside a larger state -/

/-- Run the handler of one service on a state that contains its context. -/
def within (part : Component σ κ) (handler : Tc → κ → Link cfg → Option (Int × κ × Link cfg))
    (tc : Tc) (state : σ) (link : Link cfg) : Option (Int × σ × Link cfg) := do
  let (rc, value, link) ← handler tc (part.get state) link
  return (rc, part.set value state, link)

theorem within_eq (part : Component σ κ)
    {handler : Tc → κ → Link cfg → Option (Int × κ × Link cfg)} {tc : Tc} {state : σ}
    {link later : Link cfg} {rc : Int} {value : κ}
    (ran : handler tc (part.get state) link = some (rc, value, later)) :
    within part handler tc state link = some (rc, part.set value state, later) := by
  unfold within
  rw [ran]
  rfl

theorem within_some (part : Component σ κ)
    {handler : Tc → κ → Link cfg → Option (Int × κ × Link cfg)} {tc : Tc} {state after : σ}
    {link later : Link cfg} {rc : Int}
    (ran : within part handler tc state link = some (rc, after, later)) :
    ∃ value, handler tc (part.get state) link = some (rc, value, later) ∧
      after = part.set value state := by
  obtain ⟨⟨innerRc, value, innerLink⟩, inner, same⟩ := Option.bind_eq_some_iff.mp ran
  cases same
  exact ⟨value, inner, rfl⟩

/-- Such a handler leaves the state alone or updates its own part of it. -/
theorem within_updates (part : Component σ κ)
    {handler : Tc → κ → Link cfg → Option (Int × κ × Link cfg)} {Updated : κ → Prop} {tc : Tc}
    {state : σ} {link : Link cfg}
    (ran : Updates tc (part.get state) link Updated (handler tc (part.get state) link)) :
    Updates tc state link (fun after => ∃ value, Updated value ∧ after = part.set value state)
      (within part handler tc state link) := by
  unfold within
  generalize handler tc (part.get state) link = result at ran ⊢
  cases ran with
  | rejected code known =>
      simp only [Option.bind_eq_bind, Option.bind_some, part.set_get]
      exact .rejected code known
  | executed after updated => exact .executed _ ⟨after, updated, rfl⟩

theorem within_disciplined {part : Component σ κ}
    {handler : Tc → κ → Link cfg → Option (Int × κ × Link cfg)} {tc : Tc} {state : σ}
    {link : Link cfg}
    (disciplined : Disciplined tc (part.get state) link (handler tc (part.get state) link)) :
    Disciplined tc state link (within part handler tc state link) := by
  intro out ran
  obtain ⟨inner, innerEq, same⟩ := Option.bind_eq_some_iff.mp ran
  cases same
  have outcome := disciplined inner innerEq
  cases outcome with
  | rejected code known =>
      rw [part.set_get]
      exact .rejected code known
  | completed after middle silent => exact .completed _ middle silent
  | failed after middle silent => exact .failed _ middle silent

end Openobsw.Pus.Handler
