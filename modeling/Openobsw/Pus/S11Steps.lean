import Openobsw.Pus.S11

/-!
Owns what can happen to the schedule: one step relation for the TC handlers and
the releases, the invariants every step keeps, and the law of one whole run.
-/

namespace Openobsw.Pus.S11

open Openobsw.Lib Openobsw.Lib.Selection Openobsw.Lib.Tables Openobsw.Pus.S1
open Openobsw.Pus.Handler Openobsw.Time Openobsw.Util

variable {cfg : Config}

/-- A fate fits its activity: a deletion names its ID, a release found it due
while the schedule was enabled. -/
def FateOf (a : Activity) : Fate → Prop
  | .deleted id => id = a.requestId
  | .cleared => True
  | .released tNow enabled => a.tag ≤ tNow ∧ enabled = true

/-- An activity holds the tag and the packet bytes of the user data `u`. -/
structure UplinkedAs (u : List UInt8) (a : Activity) : Prop where
  coarse : obswBe32 u 0 = some a.coarse
  fine : obswBe16 u 4 = some a.fine
  bytes : a.tc = u.drop tagLen

/-- The packet of an activity may be stored: it fits, and is a TC of another service. -/
structure Storable (cfg : Config) (a : Activity) : Prop where
  short : a.tc.length ≤ cfg.s11TcMaxLen
  foreign : ∃ service, tcPacketCheck a.tc = some (some service) ∧ service ≠ 11

def Ctx.inserted (s : Ctx) (u : List UInt8) (a : Activity) : Ctx :=
  { s with
    acts := s.acts ++ [a]
    nextId := a.requestId + 1
    accepted := s.accepted ++ [(u, a)] }

def Ctx.removed (s : Ctx) (a : Activity) (fate : Fate) (rest : List Activity) : Ctx :=
  { s with acts := rest, fates := s.fates ++ [(a, fate)] }

def Ctx.cleared (s : Ctx) : Ctx :=
  { s with acts := [], fates := s.fates ++ s.acts.map (fun a => (a, .cleared)) }

/-- Everything a command can do to the schedule. -/
inductive Step (cfg : Config) (s : Ctx) : Ctx → Prop
  | inserted (u : List UInt8) (a : Activity)
      (taken : takeId s.acts s.nextId = some a.requestId) (uplinked : UplinkedAs u a)
      (serial : a.serial = s.accepted.length) (storable : Storable cfg a)
      (room : s.acts.length < s.capacity.toNat) : Step cfg s (s.inserted u a)
  | deleted (a : Activity) (rest : List Activity) (perm : s.acts.Perm (a :: rest)) :
      Step cfg s (s.removed a (.deleted a.requestId) rest)
  | cleared : Step cfg s s.cleared
  | switched (flag : Bool) : Step cfg s { s with enabled := flag }

/-- The five handlers of the service. -/
inductive Command where
  | insert
  | delete
  | deleteAll
  | enable
  | disable
deriving DecidableEq, Repr

/-- What a command does to the schedule when it is executed. -/
inductive Executes (cfg : Config) : Command → Tc → Ctx → Ctx → Prop
  | inserted {tc : Tc} {s : Ctx} (u : List UInt8) (a : Activity)
      (present : tc.userData = some u) (long : tagLen < u.length)
      (taken : takeId s.acts s.nextId = some a.requestId) (uplinked : UplinkedAs u a)
      (serial : a.serial = s.accepted.length) (storable : Storable cfg a)
      (room : s.acts.length < s.capacity.toNat) : Executes cfg .insert tc s (s.inserted u a)
  | deleted {tc : Tc} {s : Ctx} (a : Activity) (rest : List Activity)
      (named : keyOf tc = some a.requestId) (perm : s.acts.Perm (a :: rest)) :
      Executes cfg .delete tc s (s.removed a (.deleted a.requestId) rest)
  | cleared {tc : Tc} {s : Ctx} : Executes cfg .deleteAll tc s s.cleared
  | enabled {tc : Tc} {s : Ctx} : Executes cfg .enable tc s { s with enabled := true }
  | disabled {tc : Tc} {s : Ctx} : Executes cfg .disable tc s { s with enabled := false }

theorem Executes.step {command : Command} {tc : Tc} {s after : Ctx}
    (executes : Executes cfg command tc s after) : Step cfg s after := by
  cases executes with
  | inserted u a present long taken uplinked serial storable room =>
      exact .inserted u a taken uplinked serial storable room
  | deleted a rest named perm => exact .deleted a rest perm
  | cleared => exact .cleared
  | enabled => exact .switched true
  | disabled => exact .switched false

/-! ### The handlers take such steps -/

/-- The packet in the user data of a TC(11,4) may be stored. -/
def Embeds (cfg : Config) (tc : Tc) (u : List UInt8) : Prop :=
  tc.userData = some u ∧ tagLen < u.length ∧ u.length - tagLen ≤ cfg.s11TcMaxLen ∧
    ∃ service, tcPacketCheck (u.drop tagLen) = some (some service) ∧ service ≠ 11

theorem embeddedTc_cases (cfg : Config) (tc : Tc) :
    embeddedTc cfg tc = some none ∧ (∀ u, ¬ Embeds cfg tc u) ∨
      ∃ u, Embeds cfg tc u ∧ embeddedTc cfg tc = some (some (u, u.drop tagLen)) := by
  unfold embeddedTc
  cases present : tc.userData with
  | none =>
      refine .inl ⟨rfl, ?_⟩
      rintro u ⟨found, _⟩
      rw [present] at found
      cases found
  | some u =>
      have same : ∀ other, Embeds cfg tc other → other = u := by
        rintro other ⟨found, _⟩
        rw [present] at found
        cases found
        rfl
      by_cases sized : u.length > tagLen ∧ u.length - tagLen ≤ cfg.s11TcMaxLen
      · simp only [if_pos sized]
        obtain ⟨result, resultEq⟩ := tcPacketCheck_isSome (u.drop tagLen)
        rw [resultEq]
        cases result with
        | none =>
            refine .inl ⟨rfl, fun other embeds => ?_⟩
            have only := same other embeds
            obtain ⟨_, _, _, service, checked, _⟩ := embeds
            rw [only, resultEq] at checked
            cases checked
        | some service =>
            by_cases foreign : service ≠ 11
            · refine .inr ⟨u, ⟨present, sized.1, sized.2, service, resultEq, foreign⟩, ?_⟩
              simp [foreign]
            · refine .inl ⟨by simp [foreign], fun other embeds => ?_⟩
              have only := same other embeds
              obtain ⟨_, _, _, found, checked, otherForeign⟩ := embeds
              rw [only, resultEq] at checked
              cases checked
              exact foreign otherForeign
      · refine .inl ⟨if_neg sized, fun other embeds => ?_⟩
        have only := same other embeds
        obtain ⟨_, long, short, _⟩ := embeds
        rw [only] at long short
        exact sized ⟨long, short⟩

theorem place_eq {s : Ctx} {u : List UInt8} {a : Activity} (uplinked : UplinkedAs u a)
    (short : a.tc.length ≤ cfg.s11TcMaxLen) (taken : takeId s.acts s.nextId = some a.requestId)
    (serial : a.serial = s.accepted.length) (room : s.acts.length < s.capacity.toNat) :
    place cfg u (u.drop tagLen) s = some (s.inserted u a) := by
  have fits : ([] : List UInt8).length + (u.drop tagLen).length ≤ cfg.s11TcMaxLen := by
    rw [← uplinked.bytes]
    simpa using short
  have same : a = {
      requestId := a.requestId
      coarse := a.coarse
      fine := a.fine
      tc := u.drop tagLen
      serial := s.accepted.length } := by
    rw [← uplinked.bytes, ← serial]
  unfold place
  rw [appendWithin_eq fits, taken, uplinked.coarse, uplinked.fine]
  simp only [Option.bind_eq_bind, Option.bind_some, List.nil_append]
  rw [← same, pushWithin_eq _ room]
  rfl

theorem place_executes {tc : Tc} {s : Ctx} {u : List UInt8} (embeds : Embeds cfg tc u)
    (room : s.acts.length < s.capacity.toNat) :
    ∃ after, place cfg u (u.drop tagLen) s = some after ∧ Executes cfg .insert tc s after := by
  obtain ⟨present, long, short, foreign⟩ := embeds
  have header : 6 < u.length := long
  have bounded : s.acts.length ≤ 255 := by
    have capacity := s.capacity.toNat_lt
    omega
  obtain ⟨id, taken⟩ := takeId_isSome bounded s.nextId
  obtain ⟨coarse, coarseEq⟩ := obswBe32_isSome u 0 (by omega)
  obtain ⟨fine, fineEq⟩ := obswBe16_isSome u 4 (by omega)
  let a : Activity := {
    requestId := id
    coarse := coarse
    fine := fine
    tc := u.drop tagLen
    serial := s.accepted.length }
  have uplinked : UplinkedAs u a := ⟨coarseEq, fineEq, rfl⟩
  have fits : a.tc.length ≤ cfg.s11TcMaxLen := by
    show (u.drop tagLen).length ≤ cfg.s11TcMaxLen
    rwa [List.length_drop]
  exact ⟨_, place_eq uplinked fits taken rfl room,
    .inserted u a present long taken uplinked rfl ⟨fits, foreign⟩ room⟩

/-- An accepted TC(11,4), in full. -/
theorem insert_eq {tc : Tc} {s : Ctx} {u : List UInt8} {a : Activity}
    (accepted : embeddedTc cfg tc = some (some (u, u.drop tagLen))) (uplinked : UplinkedAs u a)
    (short : a.tc.length ≤ cfg.s11TcMaxLen) (taken : takeId s.acts s.nextId = some a.requestId)
    (serial : a.serial = s.accepted.length) (room : s.acts.length < s.capacity.toNat)
    (link : Link cfg) :
    insert tc s link = some (0, s.inserted u a, (link.accepted tc).completed tc) := by
  unfold insert
  rw [accepted]
  simp only [Option.bind_eq_bind, Option.bind_some]
  rw [if_neg (Nat.not_le_of_lt room)]
  exact execute_eq tc (place_eq uplinked short taken serial room) link

/-- An executed TC(11,4) carries a packet that may be stored, and found room for it. -/
theorem Executes.embeds {tc : Tc} {s after : Ctx} (executes : Executes cfg .insert tc s after) :
    (∃ u, Embeds cfg tc u) ∧ s.acts.length < s.capacity.toNat := by
  cases executes with
  | inserted u a present long taken uplinked serial storable room =>
      have short := storable.short
      have foreign := storable.foreign
      rw [uplinked.bytes] at short foreign
      rw [List.length_drop] at short
      exact ⟨⟨u, present, long, short, foreign⟩, room⟩

theorem insert_decides (tc : Tc) (s : Ctx) (link : Link cfg) :
    Decides tc s link (Executes cfg .insert tc s) (insert tc s link) := by
  unfold insert
  rcases embeddedTc_cases cfg tc with ⟨refused, absent⟩ | ⟨u, embeds, accepted⟩
  · rw [refused]
    apply reject_decides handlerCode_illegalAppData
    intro after executes
    obtain ⟨⟨u, embeds⟩, _⟩ := executes.embeds
    exact absent u embeds
  · rw [accepted]
    simp only [Option.bind_eq_bind, Option.bind_some]
    split
    · rename_i filled
      apply reject_decides handlerCode_execError
      intro after executes
      exact Nat.not_lt_of_le filled executes.embeds.2
    · rename_i notFull
      obtain ⟨after, placed, executes⟩ := place_executes embeds (Nat.lt_of_not_le notFull)
      exact execute_decides tc link placed executes

theorem removeAt_eq {s : Ctx} {index : Nat} {a : Activity} (fate : Fate)
    (found : s.acts[index]? = some a) :
    ∃ rest, removeAt fate index s = some (s.removed a fate rest) ∧
      s.acts.Perm (a :: rest) := by
  obtain ⟨inRange, _⟩ := List.getElem?_eq_some_iff.mp found
  obtain ⟨rest, removed, _⟩ := swapRemove_perm inRange
  refine ⟨rest, ?_, perm_cons_of_swapRemove found removed⟩
  unfold removeAt
  rw [found, removed]
  rfl

theorem delete_decides (tc : Tc) (s : Ctx) (link : Link cfg) :
    Decides tc s link (Executes cfg .delete tc s) (delete tc s link) := by
  apply deleteByKey_decides
  · intro after executes
    cases executes with
    | deleted a rest named perm =>
        have listed : a.requestId ∈ s.acts.map (fun a => a.requestId) :=
          List.mem_map_of_mem (f := fun a : Activity => a.requestId)
            (perm.mem_iff.mpr List.mem_cons_self)
        obtain ⟨index, found⟩ := Option.isSome_iff_exists.mp
          ((findAct_isSome s.acts a.requestId).mpr listed)
        exact ⟨a.requestId, index, named, found⟩
  · intro id index named found
    obtain ⟨a, place, same⟩ := findKey_some found
    obtain ⟨rest, removed, perm⟩ := removeAt_eq (.deleted id) place
    subst same
    exact ⟨_, removed, .deleted a rest named perm⟩

theorem deleteAll_decides (tc : Tc) (s : Ctx) (link : Link cfg) :
    Decides tc s link (Executes cfg .deleteAll tc s) (deleteAll tc s link) :=
  execute_decides tc link rfl .cleared

theorem enable_decides (tc : Tc) (s : Ctx) (link : Link cfg) :
    Decides tc s link (Executes cfg .enable tc s) (enable tc s link) :=
  execute_decides tc link rfl .enabled

theorem disable_decides (tc : Tc) (s : Ctx) (link : Link cfg) :
    Decides tc s link (Executes cfg .disable tc s) (disable tc s link) :=
  execute_decides tc link rfl .disabled

def handle : Command → Tc → Ctx → Link cfg → Option (Int × Ctx × Link cfg)
  | .insert => insert
  | .delete => delete
  | .deleteAll => deleteAll
  | .enable => enable
  | .disable => disable

theorem handle_decides (command : Command) (tc : Tc) (s : Ctx) (link : Link cfg) :
    Decides tc s link (Executes cfg command tc s) (handle command tc s link) := by
  cases command with
  | insert => exact insert_decides tc s link
  | delete => exact delete_decides tc s link
  | deleteAll => exact deleteAll_decides tc s link
  | enable => exact enable_decides tc s link
  | disable => exact disable_decides tc s link

theorem handle_updates (command : Command) (tc : Tc) (s : Ctx) (link : Link cfg) :
    Updates tc s link (Step cfg s) (handle command tc s link) :=
  (handle_decides command tc s link).updates (fun _ executes => executes.step)

/-! ### What every step keeps -/

theorem wellFormed_init (capacity : UInt8) : WellFormed cfg (init capacity) where
  idsNonzero := by simp [init]
  idsDistinct := by simp [init]
  fits := by simp [init]
  packets := by simp [init]

theorem WellFormed.removed {s : Ctx} (wf : WellFormed cfg s) {a : Activity} (fate : Fate)
    {rest : List Activity} (perm : s.acts.Perm (a :: rest)) :
    WellFormed cfg (s.removed a fate rest) := by
  have member : ∀ b ∈ rest, b ∈ s.acts :=
    fun b inRest => perm.mem_iff.mpr (List.mem_cons_of_mem a inRest)
  have ids : ((a :: rest).map (fun b => b.requestId)).Nodup :=
    (perm.map (fun b => b.requestId)).nodup_iff.mp wf.idsDistinct
  refine ⟨fun b inRest => wf.idsNonzero b (member b inRest), (List.nodup_cons.mp ids).2, ?_,
    fun b inRest => wf.packets b (member b inRest)⟩
  have count : s.acts.length = rest.length + 1 := perm.length_eq
  have fits := wf.fits
  show rest.length ≤ s.capacity.toNat
  omega

theorem WellFormed.step {s after : Ctx} (wf : WellFormed cfg s) (step : Step cfg s after) :
    WellFormed cfg after := by
  cases step with
  | inserted u a taken uplinked serial storable room =>
      obtain ⟨nonzero, fresh⟩ := takeIdLoop_some taken
      constructor
      · intro b member
        rcases List.mem_append.mp member with before | last
        · exact wf.idsNonzero b before
        · rw [List.mem_singleton.mp last]
          exact nonzero
      · show ((s.acts ++ [a]).map (fun b => b.requestId)).Nodup
        rw [List.map_append]
        apply List.Nodup.append wf.idsDistinct (List.nodup_singleton _)
        intro id before last
        rw [List.mem_singleton.mp last] at before
        exact fresh before
      · show (s.acts ++ [a]).length ≤ s.capacity.toNat
        rw [List.length_append, List.length_singleton]
        exact room
      · intro b member
        rcases List.mem_append.mp member with before | last
        · exact wf.packets b before
        · rw [List.mem_singleton.mp last]
          exact ⟨storable.short, storable.foreign⟩
  | deleted a rest perm => exact wf.removed _ perm
  | cleared => exact ⟨by simp [Ctx.cleared], by simp [Ctx.cleared], by simp [Ctx.cleared],
      by simp [Ctx.cleared]⟩
  | switched flag => exact ⟨wf.idsNonzero, wf.idsDistinct, wf.fits, wf.packets⟩

/-- While the 16-bit counter has not come round, request IDs count acceptances. -/
def Numbered (s : Ctx) : Prop :=
  s.accepted.length < 65536 →
    s.nextId = UInt16.ofNat (s.accepted.length + 1) ∧
      ∀ a ∈ s.acts, a.requestId.toNat = a.serial + 1

/-- The account of every activity accepted so far: it is in the table or has
exactly one fate, it is as it was uplinked, and its fate fits it. -/
structure Ledger (s : Ctx) : Prop where
  account : (s.accepted.map Prod.snd).Perm (s.acts ++ s.fates.map Prod.fst)
  serials : s.accepted.map (fun entry => entry.2.serial) = List.range s.accepted.length
  uplinked : ∀ entry ∈ s.accepted, UplinkedAs entry.1 entry.2
  lawful : ∀ entry ∈ s.fates, FateOf entry.1 entry.2
  numbered : Numbered s

theorem Numbered.kept {s after : Ctx} (numbered : Numbered s)
    (sameAccepted : after.accepted = s.accepted) (sameNext : after.nextId = s.nextId)
    (fewer : ∀ a ∈ after.acts, a ∈ s.acts) : Numbered after := by
  intro short
  rw [sameAccepted] at short ⊢
  rw [sameNext]
  obtain ⟨next, ids⟩ := numbered short
  exact ⟨next, fun a member => ids a (fewer a member)⟩

theorem Ledger.serial_lt {s : Ctx} (ledger : Ledger s) {a : Activity} (member : a ∈ s.acts) :
    a.serial < s.accepted.length := by
  have inAccepted : a ∈ s.accepted.map Prod.snd :=
    ledger.account.mem_iff.mpr (List.mem_append_left _ member)
  obtain ⟨entry, listed, rfl⟩ := List.mem_map.mp inAccepted
  have counted : entry.2.serial ∈ s.accepted.map (fun entry => entry.2.serial) :=
    List.mem_map_of_mem (f := fun entry : List UInt8 × Activity => entry.2.serial) listed
  rw [ledger.serials] at counted
  exact List.mem_range.mp counted

/-- Before the counter comes round, `take_id` finds the next ID free. -/
theorem Ledger.takeId_eq {s : Ctx} (ledger : Ledger s) (short : s.accepted.length < 65535) :
    takeId s.acts s.nextId = some s.nextId := by
  obtain ⟨next, ids⟩ := ledger.numbered (by omega)
  have value : s.nextId.toNat = s.accepted.length + 1 := by
    rw [next, UInt16.toNat_ofNat']
    omega
  have free : ¬ (s.nextId = 0 ∨ (findAct s.acts s.nextId).isSome) := by
    rintro (zero | found)
    · rw [zero] at value
      cases value
    · rw [findAct_isSome] at found
      obtain ⟨a, member, same⟩ := List.mem_map.mp found
      have own := ids a member
      have older := ledger.serial_lt member
      rw [same] at own
      omega
  unfold takeId
  exact if_neg free

theorem ledger_init (capacity : UInt8) : Ledger (init capacity) where
  account := by simp [init]
  serials := by simp [init]
  uplinked := by simp [init]
  lawful := by simp [init]
  numbered := by simp [Numbered, init]

theorem Ledger.removed {s : Ctx} (ledger : Ledger s) {a : Activity} {fate : Fate}
    {rest : List Activity} (perm : s.acts.Perm (a :: rest)) (lawful : FateOf a fate) :
    Ledger (s.removed a fate rest) where
  account := by
    have moved : (s.acts ++ s.fates.map Prod.fst).Perm
        (rest ++ (s.fates ++ [(a, fate)]).map Prod.fst) := by
      rw [List.map_append, List.map_singleton, ← List.append_assoc]
      calc s.acts ++ s.fates.map Prod.fst
          _ |>.Perm ((a :: rest) ++ s.fates.map Prod.fst) := perm.append_right _
          _ |>.Perm ((rest ++ s.fates.map Prod.fst) ++ [a]) :=
            (List.perm_append_singleton a _).symm
    exact ledger.account.trans moved
  serials := ledger.serials
  uplinked := ledger.uplinked
  lawful := by
    intro entry member
    rcases List.mem_append.mp member with before | last
    · exact ledger.lawful entry before
    · rw [List.mem_singleton.mp last]
      exact lawful
  numbered := ledger.numbered.kept rfl rfl
    (fun b inRest => perm.mem_iff.mpr (List.mem_cons_of_mem a inRest))

theorem Ledger.inserted_numbered {s : Ctx} (ledger : Ledger s) {a : Activity}
    (u : List UInt8) (taken : takeId s.acts s.nextId = some a.requestId)
    (serial : a.serial = s.accepted.length) : Numbered (s.inserted u a) := by
  intro short
  have length : (s.inserted u a).accepted.length = s.accepted.length + 1 := List.length_append
  rw [length] at short ⊢
  rw [ledger.takeId_eq (by omega)] at taken
  obtain ⟨next, ids⟩ := ledger.numbered (by omega)
  have id : s.nextId = a.requestId := Option.some.inj taken
  constructor
  · show a.requestId + 1 = _
    rw [← id, next, UInt16.ofNat_add (s.accepted.length + 1) 1]
    rfl
  · intro b member
    rcases List.mem_append.mp member with before | last
    · exact ids b before
    · rw [List.mem_singleton.mp last, serial, ← id, next, UInt16.toNat_ofNat']
      omega

theorem Ledger.step {s after : Ctx} (ledger : Ledger s) (step : Step cfg s after) :
    Ledger after := by
  cases step with
  | inserted u a taken uplinked serial storable room =>
      constructor
      · show ((s.accepted ++ [(u, a)]).map Prod.snd).Perm
          ((s.acts ++ [a]) ++ s.fates.map Prod.fst)
        rw [List.map_append, List.map_singleton, List.append_assoc]
        have front : ([a] ++ s.fates.map Prod.fst).Perm (s.fates.map Prod.fst ++ [a]) :=
          List.perm_append_comm
        have back := (front.append_left s.acts).symm
        rw [← List.append_assoc] at back
        exact (ledger.account.append_right [a]).trans back
      · show (s.accepted ++ [(u, a)]).map (fun entry => entry.2.serial) =
          List.range (s.accepted ++ [(u, a)]).length
        rw [List.map_append, ledger.serials, List.map_singleton, serial, List.length_append,
          List.length_singleton, List.range_succ]
      · intro entry member
        rcases List.mem_append.mp member with before | last
        · exact ledger.uplinked entry before
        · rw [List.mem_singleton.mp last]
          exact uplinked
      · exact ledger.lawful
      · exact ledger.inserted_numbered u taken serial
  | deleted a rest perm => exact ledger.removed perm rfl
  | cleared =>
      refine ⟨?_, ledger.serials, ledger.uplinked, ?_, ledger.numbered.kept rfl rfl (by simp [Ctx.cleared])⟩
      · show (s.accepted.map Prod.snd).Perm
          ([] ++ (s.fates ++ s.acts.map (fun a => (a, Fate.cleared))).map Prod.fst)
        rw [List.map_append, List.map_map, List.nil_append]
        have same : s.acts.map (Prod.fst ∘ fun a => (a, Fate.cleared)) = s.acts :=
          List.map_id' _
        rw [same]
        exact ledger.account.trans List.perm_append_comm
      · intro entry member
        rcases List.mem_append.mp member with before | last
        · exact ledger.lawful entry before
        · obtain ⟨a, _, rfl⟩ := List.mem_map.mp last
          trivial
  | switched flag =>
      exact ⟨ledger.account, ledger.serials, ledger.uplinked, ledger.lawful, ledger.numbered⟩

/-- No accepted activity is counted twice. -/
theorem Ledger.nodup {s : Ctx} (ledger : Ledger s) :
    (s.acts ++ s.fates.map Prod.fst).Nodup := by
  apply ledger.account.nodup_iff.mp
  apply List.Nodup.of_map (fun a => a.serial)
  rw [List.map_map]
  exact ledger.serials ▸ List.nodup_range

end Openobsw.Pus.S11
