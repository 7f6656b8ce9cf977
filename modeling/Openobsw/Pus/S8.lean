import Openobsw.Pus.Handler

/-!
Owns function management (`s8.c`): the function table and the TC that calls into
it. The functions are code of the application; they run on the state `κ` and may
issue telemetry of services other than S1.
-/

namespace Openobsw.Pus.S8

open Openobsw.Util Openobsw.Pus.S1 Openobsw.Pus.Handler

/-- `obsw_s8_entry_t`; the function carries its context, and gets the slice
`args[0..args_len)`. -/
structure Entry (cfg : Config) (κ : Type) where
  functionId : UInt16
  fn : List UInt8 → κ → Link cfg → Option (Int × κ × Link cfg)

variable {cfg : Config} {κ : Type}

def minLen : Nat := 3

/-- The lookup loop of `obsw_s8_perform`. -/
def findEntry (table : List (Entry cfg κ)) (fnId : UInt16) : Option (Entry cfg κ) :=
  table.find? (fun entry => entry.functionId == fnId)

/-- The part of `obsw_s8_perform` from the acceptance on. -/
def call (entry : Entry cfg κ) (args : List UInt8) (tc : Tc) (state : κ) (link : Link cfg) :
    Option (Int × κ × Link cfg) := do
  let (_, link) ← acceptSuccess tc link
  let (rc, state, link) ← entry.fn args state link
  if rc = 0 then do
    let (_, link) ← completionSuccess tc link
    return (0, state, link)
  else do
    let (_, link) ← completionFailure tc failExecError link
    return (-1, state, link)

/-- `obsw_s8_perform` -/
def perform (table : List (Entry cfg κ)) (tc : Tc) (state : κ) (link : Link cfg) :
    Option (Int × κ × Link cfg) :=
  requireUserData minLen tc state link fun u => do
    let fnId ← obswBe16 u 0
    let argsLen ← u[2]?
    if minLen + argsLen.toNat > tc.userDataLen then reject tc failIllegalAppData state link
    else do
      let args ← sliceBytes u minLen argsLen.toNat
      match findEntry table fnId with
      | none => reject tc failExecError state link
      | some entry => call entry args tc state link

/-- A function that always returns, issues no S1 report, and changes the state only
as `Done` allows. -/
def Entry.Behaves (entry : Entry cfg κ) (Done : κ → κ → Prop) : Prop :=
  ∀ args state link, ∃ rc after later,
    entry.fn args state link = some (rc, after, later) ∧ Done state after ∧ Silent link later

/-- The function that a TC(8,1) names, when its arguments are inside the user data. -/
def functionIdOf (tc : Tc) : Option UInt16 := do
  let u ← tc.userData
  if u.length < minLen then none
  else do
    let fnId ← obswBe16 u 0
    let argsLen ← u[2]?
    if minLen + argsLen.toNat > tc.userDataLen then none else some fnId

/-- The entry that a TC(8,1) calls. -/
def calledEntry (table : List (Entry cfg κ)) (tc : Tc) : Option (Entry cfg κ) :=
  (functionIdOf tc).bind (findEntry table)

/-- A TC(8,1) that names no function of the table is rejected; otherwise it calls it. -/
theorem perform_calls (table : List (Entry cfg κ)) (tc : Tc) (state : κ) (link : Link cfg) :
    (calledEntry table tc = none ∧ ∃ code, HandlerCode code ∧
        perform table tc state link = some (-1, state, link.rejected tc code)) ∨
      ∃ entry args, calledEntry table tc = some entry ∧
        perform table tc state link = call entry args tc state link := by
  unfold calledEntry functionIdOf perform requireUserData Tc.userDataLen
  cases tc.userData with
  | none => exact .inl ⟨rfl, _, handlerCode_illegalAppData, reject_eq _ _ _ _⟩
  | some u =>
      by_cases short : u.length < minLen
      · simp only [Option.bind_eq_bind, Option.bind_some, if_pos short]
        exact .inl ⟨rfl, _, handlerCode_illegalAppData, reject_eq _ _ _ _⟩
      · have enough : 3 ≤ u.length := Nat.le_of_not_lt short
        obtain ⟨fnId, fnIdEq⟩ := obswBe16_isSome u 0 (by omega)
        obtain ⟨argsLen, argsLenEq⟩ := getElem?_isSome u 2 (by omega)
        simp only [Option.bind_eq_bind, Option.bind_some, if_neg short, fnIdEq, argsLenEq,
          Option.getD_some]
        by_cases claimed : minLen + argsLen.toNat > u.length
        · simp only [if_pos claimed]
          exact .inl ⟨rfl, _, handlerCode_illegalAppData, reject_eq _ _ _ _⟩
        · have slice := sliceBytes_eq u minLen argsLen.toNat (by omega)
          simp only [if_neg claimed, slice, Option.bind_some]
          cases found : findEntry table fnId with
          | none => exact .inl ⟨rfl, _, handlerCode_execError, reject_eq _ _ _ _⟩
          | some entry => exact .inr ⟨entry, _, rfl, rfl⟩

theorem calledEntry_mem {table : List (Entry cfg κ)} {tc : Tc} {entry : Entry cfg κ}
    (called : calledEntry table tc = some entry) : entry ∈ table := by
  obtain ⟨fnId, _, found⟩ := Option.bind_eq_some_iff.mp called
  exact List.mem_of_find?_eq_some found

/-- The calls of a function end in a completion, with success or failure after its
return code. -/
theorem call_eq {entry : Entry cfg κ} {args : List UInt8} {tc : Tc} {state after : κ}
    {link later : Link cfg} {rc : Int}
    (ran : entry.fn args state (link.accepted tc) = some (rc, after, later)) :
    call entry args tc state link =
      if rc = 0 then some (0, after, later.completed tc)
      else some (-1, after, later.failed tc failExecError) := by
  obtain ⟨first, firstEq⟩ := acceptSuccess_eq tc link
  unfold call
  simp only [firstEq, ran, Option.bind_eq_bind, Option.bind_some]
  by_cases succeeded : rc = 0
  · obtain ⟨second, secondEq⟩ := completionSuccess_eq tc later
    rw [if_pos succeeded, if_pos succeeded, secondEq]
    rfl
  · obtain ⟨second, secondEq⟩ := completionFailure_eq tc failExecError later
    rw [if_neg succeeded, if_neg succeeded, secondEq]
    rfl

/-- What a TC(8,1) may come to: a rejection, or a call that is completed with
success or failure after the function's return code. -/
theorem perform_cases {table : List (Entry cfg κ)} {Done : κ → κ → Prop}
    (behave : ∀ entry ∈ table, entry.Behaves Done) (tc : Tc) (state : κ) (link : Link cfg) :
    (∃ code, HandlerCode code ∧
        perform table tc state link = some (-1, state, link.rejected tc code)) ∨
      ∃ after later, Done state after ∧ Silent (link.accepted tc) later ∧
        (perform table tc state link = some (0, after, later.completed tc) ∨
          perform table tc state link = some (-1, after, later.failed tc failExecError)) := by
  rcases perform_calls table tc state link with ⟨_, rejected⟩ | ⟨entry, args, called, performed⟩
  · exact .inl rejected
  · obtain ⟨rc, after, later, ran, done, silent⟩ :=
      behave entry (calledEntry_mem called) args state (link.accepted tc)
    refine .inr ⟨after, later, done, silent, ?_⟩
    rw [performed, call_eq ran]
    split
    · exact .inl rfl
    · exact .inr rfl

theorem perform_disciplined {table : List (Entry cfg κ)} {Done : κ → κ → Prop}
    (behave : ∀ entry ∈ table, entry.Behaves Done) (tc : Tc) (state : κ) (link : Link cfg) :
    Disciplined tc state link (perform table tc state link) := by
  intro out ran
  rcases perform_cases behave tc state link with
    ⟨code, known, rejected⟩ | ⟨after, later, _, silent, completed | failed⟩
  · rw [rejected] at ran
    cases ran
    exact .rejected code known
  · rw [completed] at ran
    cases ran
    exact .completed after later silent
  · rw [failed] at ran
    cases ran
    exact .failed after later silent

end Openobsw.Pus.S8
