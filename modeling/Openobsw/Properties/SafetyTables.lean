import Openobsw.Properties.SafeCoupling
import Openobsw.Srdb.Codegen
import Openobsw.Srdb.Loader

/-!
Owns the way of the safety tables from the mission database into the flight code: the
generated macros, the initialisation of the S5 and FSM contexts from them, and what the
reports and the gate then go by. The copy and the counts are eight bits wide.
-/

namespace Openobsw.Srdb

open Openobsw.Fdir Openobsw.Pus

/-! ### Initialisation -/

/-- How the copy of `SRDB_SAFE_TRIGGER_IDS` ends, if it does. -/
inductive Copied where
  | overrun
  | running
  | done (slots : List UInt16)
deriving DecidableEq, Repr

/-- The loop `for (uint8_t i = 0; i < SRDB_SAFE_TRIGGER_COUNT; i++)` for at most `turns` turns;
a write behind the last slot of `safe_trigger_ids` is an overrun. -/
def copyTriggers (count : Nat) (ids : List UInt16) : Nat → UInt8 → List UInt16 → Copied
  | 0, _, _ => .running
  | turns + 1, i, slots =>
      if i.toNat < count then
        match ids[i.toNat]? with
        | none => .overrun
        | some id =>
            if i.toNat < slots.length then copyTriggers count ids turns (i + 1) (slots.set i.toNat id)
            else .overrun
      else .done slots

/-- The integer constants of the macros at the widths of the arrays. -/
def triggerEntries (ids : List Int) : List UInt16 := ids.map (fun id => UInt16.ofNat id.toNat)

def whitelistEntries (pairs : List (Int × Int)) : List TcEntry :=
  pairs.map (fun pair => ⟨UInt8.ofNat pair.1.toNat, UInt8.ofNat pair.2.toNat⟩)

/-- The safety part of the contexts: `safe_trigger_ids`, `safe_trigger_count` and the
configuration of the FSM. -/
structure SafetyContexts where
  safeTriggerIds : List UInt16
  safeTriggerCount : UInt8
  fsmConfig : FsmConfig
deriving DecidableEq, Repr

/-- How the initialisation of a build ends: without its two macros it does not compile. -/
inductive Initialised where
  | uncompiled
  | overrun
  | running
  | done (contexts : SafetyContexts)
deriving DecidableEq, Repr

/-- The initialisation of the S5 and FSM contexts in `main`, from the slots of
`safe_trigger_ids` as they are before; `safe_trigger_count` and `whitelist_len` have eight bits. -/
def initialise (tables : SafetyTables) (onEnterSafe onExitSafe : Bool) (slots : List UInt16)
    (turns : Nat) : Initialised :=
  match tables.triggerIds, tables.tcWhitelist with
  | some ids, some pairs =>
      match copyTriggers tables.triggerCount (triggerEntries ids) turns 0 slots with
      | .overrun => .overrun
      | .running => .running
      | .done slots => .done {
          safeTriggerIds := slots
          safeTriggerCount := UInt8.ofNat tables.triggerCount
          fsmConfig := {
            onEnterSafe := onEnterSafe
            onExitSafe := onExitSafe
            safeTcWhitelist := some (whitelistEntries pairs)
            whitelistLen := UInt8.ofNat tables.tcCount } }
  | _, _ => .uncompiled

/-- The S5 context and the FSM of an environment as initialised. -/
def SafetyContexts.wired {cfg : Config} {η : Type} (contexts : SafetyContexts)
    (env : S5.Env cfg η) : S5.Env cfg η :=
  { env with
    ctx := { env.ctx with
      fsm := true
      safeTriggerIds := contexts.safeTriggerIds.take contexts.safeTriggerCount.toNat }
    fsm := { env.fsm with config := contexts.fsmConfig } }

/-! ### What should reach the flight code -/

section

variable {F : Type} {py : Python F} {cfg : Config} {η : Type}

/-- An event with the ID is marked `safe_trigger`. -/
def SRDB.Marked (db : SRDB py) (eventId : UInt16) : Prop :=
  ∃ e ∈ db.events, e.fields.safeTrigger = true ∧ e.fields.id = (eventId.toNat : Int)

/-- A telecommand of the pair is marked `safe_allowed`. -/
def SRDB.Allowed (db : SRDB py) (svc subsvc : UInt8) : Prop :=
  ∃ tc ∈ db.telecommands, tc.fields.safeAllowed = true ∧
    tc.fields.service = (svc.toNat : Int) ∧ tc.fields.subservice = (subsvc.toNat : Int)

/-- A HIGH report commands SAFE exactly for a marked event. -/
def TriggersExactly (db : SRDB py) (onEvent : Option (UInt16 → η → η)) (eventId : UInt16)
    (aux : S5.AuxData) (env : S5.Env cfg η) : Prop :=
  ∃ rc after, S5.report onEvent .high eventId aux env = some (rc, after) ∧
    (db.Marked eventId → after.fsm.mode = .safe) ∧
    (¬ db.Marked eventId → after.fsm = env.fsm)

/-- In SAFE and STANDBY the gate lets through exactly the marked telecommands. -/
def GatesExactly (db : SRDB py) (config : FsmConfig) : Prop :=
  ∀ fsm : Fsm, fsm.config = config → fsm.mode ≠ .nominal →
    ∀ svc subsvc, fsm.tcAllowed svc subsvc = true ↔ db.Allowed svc subsvc

/-- The copy stays inside its array and ends, and a report and the gate go by the tables. -/
structure TablesReach (db : SRDB py) (tables : SafetyTables) (onEnterSafe onExitSafe : Bool)
    (slots : List UInt16) (onEvent : Option (UInt16 → η → η)) (eventId : UInt16)
    (aux : S5.AuxData) (env : S5.Env cfg η) : Prop where
  inside : ∀ turns, initialise tables onEnterSafe onExitSafe slots turns ≠ .overrun
  reached : ∃ turns contexts,
    initialise tables onEnterSafe onExitSafe slots turns = .done contexts ∧
      TriggersExactly db onEvent eventId aux (contexts.wired env) ∧
      GatesExactly db contexts.fsmConfig

/-- The database has a header with both tables, so that a build can be made from it. -/
def SRDB.HasBuild (db : SRDB py) : Prop :=
  ∃ tables, generateSafetyTables db = some tables ∧ tables.triggerIds.isSome = true ∧
    tables.tcWhitelist.isSome = true

/-- In a build from the database, what is marked reaches the flight code unchanged. -/
def SafetyKept (db : SRDB py) (onEnterSafe onExitSafe : Bool) (slots : List UInt16)
    (onEvent : Option (UInt16 → η → η)) (eventId : UInt16) (aux : S5.AuxData)
    (env : S5.Env cfg η) : Prop :=
  ∀ tables, generateSafetyTables db = some tables → tables.triggerIds.isSome = true →
    tables.tcWhitelist.isSome = true →
    TablesReach db tables onEnterSafe onExitSafe slots onEvent eventId aux env

end

/-! ### The copy -/

/-- One turn of the copy: the next ID goes to its slot, if there is one. -/
theorem copyTriggers_step {ids : List UInt16} {i : UInt8} (more : i.toNat < ids.length)
    (turns : Nat) (slots : List UInt16) :
    copyTriggers ids.length ids (turns + 1) i slots =
      if i.toNat < slots.length then
        copyTriggers ids.length ids turns (i + 1) (slots.set i.toNat ids[i.toNat])
      else .overrun := by
  rw [copyTriggers, if_pos more, List.getElem?_eq_getElem more]

theorem copyTriggers_end {ids : List UInt16} {i : UInt8} (all : ¬ i.toNat < ids.length)
    (turns : Nat) (slots : List UInt16) :
    copyTriggers ids.length ids (turns + 1) i slots = .done slots := by
  rw [copyTriggers, if_neg all]

/-- Within its array the copy never leaves it, whether it ends or not. -/
theorem copyTriggers_inside {ids : List UInt16} {turns : Nat} :
    ∀ {i : UInt8} {slots : List UInt16}, ids.length ≤ slots.length →
      copyTriggers ids.length ids turns i slots ≠ .overrun := by
  induction turns with
  | zero =>
      intro i slots _ overrun
      cases overrun
  | succ turns inductionHypothesis =>
      intro i slots room
      by_cases more : i.toNat < ids.length
      · rw [copyTriggers_step more, if_pos (Nat.lt_of_lt_of_le more room)]
        apply inductionHypothesis
        rw [List.length_set]
        exact room
      · rw [copyTriggers_end more]
        exact Copied.noConfusion

/-- The IDs before `i` are in their slots; a turn adds the next one, at the wrapped index too. -/
theorem copied_next {ids slots : List UInt16} {i : UInt8} (more : i.toNat < ids.length)
    (slot : i.toNat < slots.length) (copied : slots.take i.toNat = ids.take i.toNat) :
    (slots.set i.toNat ids[i.toNat]).take (i + 1).toNat = ids.take (i + 1).toNat := by
  by_cases last : i.toNat = 255
  · have wrapped : (i + 1).toNat = 0 := by
      rw [UInt8.toNat_add, last]
      rfl
    rw [wrapped, List.take_zero, List.take_zero]
  · have bounded := i.toNat_lt
    have next : (i + 1).toNat = i.toNat + 1 := by
      rw [UInt8.toNat_add]
      exact Nat.mod_eq_of_lt (by show i.toNat + 1 < 256; omega)
    rw [next, List.take_succ_eq_append_getElem (by rw [List.length_set]; exact slot),
      List.take_succ_eq_append_getElem more, List.getElem_set_self,
      List.take_set_of_le (Nat.le_refl _), copied]

/-- A copy that ends has put every ID into a slot of its own, with an index of eight bits. -/
theorem copyTriggers_done {ids final : List UInt16} {turns : Nat} :
    ∀ {i : UInt8} {slots : List UInt16}, i.toNat ≤ ids.length → i.toNat ≤ slots.length →
      slots.take i.toNat = ids.take i.toNat →
      copyTriggers ids.length ids turns i slots = .done final →
      ids.length ≤ 255 ∧ ids.length ≤ slots.length ∧ final.take ids.length = ids := by
  induction turns with
  | zero =>
      intro i slots _ _ _ ran
      cases ran
  | succ turns inductionHypothesis =>
      intro i slots below inside copied ran
      by_cases more : i.toNat < ids.length
      · rw [copyTriggers_step more] at ran
        by_cases slot : i.toNat < slots.length
        · rw [if_pos slot] at ran
          have next : (i + 1).toNat ≤ i.toNat + 1 := by
            rw [UInt8.toNat_add]
            exact Nat.mod_le _ _
          have later := inductionHypothesis (by omega) (by rw [List.length_set]; omega)
            (copied_next more slot copied) ran
          rwa [List.length_set] at later
        · rw [if_neg slot] at ran
          cases ran
      · rw [copyTriggers_end more] at ran
        cases ran
        have bounded := i.toNat_lt
        have all : i.toNat = ids.length := by omega
        rw [all, List.take_length] at copied
        exact ⟨by omega, by omega, copied⟩

/-- With a slot for every ID, and fewer IDs than the index has values, the copy ends. -/
theorem copyTriggers_ends {ids : List UInt16} (short : ids.length ≤ 255) {turns : Nat} :
    ∀ {i : UInt8} {slots : List UInt16}, ids.length < i.toNat + turns →
      ids.length ≤ slots.length → i.toNat ≤ ids.length →
      ∃ final, copyTriggers ids.length ids turns i slots = .done final := by
  induction turns with
  | zero =>
      intro i slots turns _ below
      omega
  | succ turns inductionHypothesis =>
      intro i slots enough room below
      by_cases more : i.toNat < ids.length
      · have next : (i + 1).toNat = i.toNat + 1 := by
          rw [UInt8.toNat_add]
          exact Nat.mod_eq_of_lt (by show i.toNat + 1 < 256; omega)
        rw [copyTriggers_step more, if_pos (Nat.lt_of_lt_of_le more room)]
        apply inductionHypothesis
        · omega
        · rw [List.length_set]
          exact room
        · omega
      · exact ⟨slots, copyTriggers_end more turns slots⟩

/-- The whole copy ends exactly for IDs with an index of eight bits and a slot each, and
leaves them in the first slots. -/
theorem copyTriggers_whole {ids final slots : List UInt16} {turns : Nat}
    (ran : copyTriggers ids.length ids turns 0 slots = .done final) :
    ids.length ≤ 255 ∧ ids.length ≤ slots.length ∧ final.take ids.length = ids := by
  apply copyTriggers_done (Nat.zero_le _) (Nat.zero_le _) _ ran
  rfl

theorem exists_copyTriggers {ids slots : List UInt16} (short : ids.length ≤ 255)
    (room : ids.length ≤ slots.length) :
    ∃ turns final, copyTriggers ids.length ids turns 0 slots = .done final :=
  ⟨ids.length + 1, copyTriggers_ends short (Nat.lt_add_left _ (Nat.lt_succ_self _)) room
    (Nat.zero_le _)⟩

/-! ### The tables of the database -/

section

variable {F : Type} {py : Python F}

/-- The copied IDs are those of the marked events. -/
theorem mem_triggerEntries_iff (db : SRDB py) (eventId : UInt16) :
    eventId ∈ triggerEntries db.safeTriggerEventIds ↔ db.Marked eventId := by
  unfold triggerEntries SRDB.safeTriggerEventIds SRDB.Marked
  rw [List.map_map, List.mem_map]
  constructor
  · intro listed
    obtain ⟨e, member, same⟩ := listed
    obtain ⟨inEvents, marked⟩ := List.mem_filter.mp member
    obtain ⟨atLeast, atMost⟩ := event_id_range e
    refine ⟨e, inEvents, marked, ?_⟩
    rw [← same]
    show _ = ((UInt16.ofNat e.fields.id.toNat).toNat : Int)
    rw [UInt16.toNat_ofNat']
    omega
  · intro marked
    obtain ⟨e, inEvents, flag, same⟩ := marked
    refine ⟨e, List.mem_filter.mpr ⟨inEvents, flag⟩, ?_⟩
    show UInt16.ofNat e.fields.id.toNat = eventId
    rw [same, Int.toNat_natCast, UInt16.ofNat_toNat]

/-- The loop of `safe_tc_whitelist` from any list of pairs on. -/
theorem whitelist_fold (tcs : List (Validated Telecommand.validate)) :
    ∀ {pairs : List (Int × Int)}, pairs.Nodup →
      let final := tcs.foldl (fun pairs tc =>
        if tc.fields.safeAllowed ∧ (tc.fields.service, tc.fields.subservice) ∉ pairs then
          pairs ++ [(tc.fields.service, tc.fields.subservice)]
        else pairs) pairs
      final.Nodup ∧ ∀ pair, pair ∈ final ↔ pair ∈ pairs ∨ ∃ tc ∈ tcs,
        tc.fields.safeAllowed = true ∧ (tc.fields.service, tc.fields.subservice) = pair := by
  induction tcs with
  | nil =>
      intro pairs distinct
      exact ⟨distinct, by simp⟩
  | cons tc rest inductionHypothesis =>
      intro pairs distinct
      rw [List.foldl_cons]
      by_cases fresh : tc.fields.safeAllowed ∧ (tc.fields.service, tc.fields.subservice) ∉ pairs
      · have longer : (pairs ++ [(tc.fields.service, tc.fields.subservice)]).Nodup := by
          apply List.Nodup.append distinct (List.nodup_singleton _)
          intro pair inPairs last
          rw [List.mem_singleton.mp last] at inPairs
          exact fresh.2 inPairs
        obtain ⟨nodup, members⟩ := inductionHypothesis longer
        rw [if_pos fresh]
        refine ⟨nodup, fun pair => ?_⟩
        rw [members, List.mem_append, List.mem_singleton, or_assoc, List.exists_mem_cons_iff]
        constructor
        · rintro (before | last | later)
          · exact .inl before
          · exact .inr (.inl ⟨fresh.1, last.symm⟩)
          · exact .inr (.inr later)
        · rintro (before | last | later)
          · exact .inl before
          · exact .inr (.inl last.2.symm)
          · exact .inr (.inr later)
      · obtain ⟨nodup, members⟩ := inductionHypothesis distinct
        rw [if_neg fresh]
        refine ⟨nodup, fun pair => ?_⟩
        rw [members, List.exists_mem_cons_iff]
        constructor
        · rintro (before | later)
          · exact .inl before
          · exact .inr (.inr later)
        · rintro (before | first | later)
          · exact .inl before
          · refine .inl (Decidable.byContradiction fun missing => fresh ⟨first.1, ?_⟩)
            rwa [first.2]
          · exact .inr later

theorem safeTcWhitelist_nodup (db : SRDB py) : db.safeTcWhitelist.Nodup :=
  (whitelist_fold db.telecommands List.nodup_nil).1

theorem mem_safeTcWhitelist (db : SRDB py) (pair : Int × Int) :
    pair ∈ db.safeTcWhitelist ↔ ∃ tc ∈ db.telecommands,
      tc.fields.safeAllowed = true ∧ (tc.fields.service, tc.fields.subservice) = pair := by
  have members := (whitelist_fold db.telecommands List.nodup_nil).2 pair
  exact members.trans (or_iff_right List.not_mem_nil)

theorem safeTcWhitelist_range {db : SRDB py} {pair : Int × Int}
    (member : pair ∈ db.safeTcWhitelist) :
    (0 ≤ pair.1 ∧ pair.1 ≤ 255) ∧ 0 ≤ pair.2 ∧ pair.2 ≤ 255 := by
  obtain ⟨tc, _, _, same⟩ := (mem_safeTcWhitelist db pair).mp member
  rw [← same]
  exact (telecommand_field_range tc).2

theorem allowed_iff (db : SRDB py) (svc subsvc : UInt8) :
    db.Allowed svc subsvc ↔ ((svc.toNat : Int), (subsvc.toNat : Int)) ∈ db.safeTcWhitelist := by
  rw [mem_safeTcWhitelist]
  simp [SRDB.Allowed]

/-- What the entry of a pair that fits bytes says. -/
theorem whitelistEntry_toNat {pair : Int × Int}
    (range : (0 ≤ pair.1 ∧ pair.1 ≤ 255) ∧ 0 ≤ pair.2 ∧ pair.2 ≤ 255) :
    (((UInt8.ofNat pair.1.toNat).toNat : Int), ((UInt8.ofNat pair.2.toNat).toNat : Int)) = pair := by
  apply Prod.ext
  · show ((UInt8.ofNat pair.1.toNat).toNat : Int) = pair.1
    rw [UInt8.toNat_ofNat']
    omega
  · show ((UInt8.ofNat pair.2.toNat).toNat : Int) = pair.2
    rw [UInt8.toNat_ofNat']
    omega

/-- Pairs that fit bytes are what their entries say. -/
theorem mem_whitelistEntries_iff {pairs : List (Int × Int)}
    (range : ∀ pair ∈ pairs, (0 ≤ pair.1 ∧ pair.1 ≤ 255) ∧ 0 ≤ pair.2 ∧ pair.2 ≤ 255)
    (svc subsvc : UInt8) :
    (⟨svc, subsvc⟩ : TcEntry) ∈ whitelistEntries pairs ↔
      ((svc.toNat : Int), (subsvc.toNat : Int)) ∈ pairs := by
  unfold whitelistEntries
  rw [List.mem_map]
  constructor
  · intro listed
    obtain ⟨pair, member, same⟩ := listed
    cases same
    rw [whitelistEntry_toNat (range pair member)]
    exact member
  · intro member
    refine ⟨_, member, ?_⟩
    simp only [Int.toNat_natCast, UInt8.ofNat_toNat]

/-! ### The gate -/

/-- The gate goes by the whole whitelist when its length fits eight bits. -/
theorem gatesExactly_iff (db : SRDB py) {config : FsmConfig}
    (whitelist : config.safeTcWhitelist = some (whitelistEntries db.safeTcWhitelist))
    (length : config.whitelistLen = UInt8.ofNat db.safeTcWhitelist.length) :
    GatesExactly db config ↔ db.safeTcWhitelist.length ≤ 255 := by
  have count : config.whitelistLen.toNat = db.safeTcWhitelist.length % 256 := by
    rw [length, UInt8.toNat_ofNat']
  have gate : ∀ fsm : Fsm, fsm.config = config → fsm.mode ≠ .nominal → ∀ svc subsvc,
      fsm.tcAllowed svc subsvc = true ↔ ((svc.toNat : Int), (subsvc.toNat : Int)) ∈
        db.safeTcWhitelist.take (db.safeTcWhitelist.length % 256) := by
    intro fsm same outside svc subsvc
    rw [Fsm.tcAllowed_iff outside, same, Fsm.Whitelisted, whitelist, count]
    simp only [Option.some.injEq, exists_eq_left']
    unfold whitelistEntries
    rw [← List.map_take]
    exact mem_whitelistEntries_iff
      (fun pair member => safeTcWhitelist_range (List.mem_of_mem_take member)) svc subsvc
  constructor
  · intro exactly
    by_contra long
    -- the pair at the truncated length is on the list, but behind what the gate reads
    have wraps : db.safeTcWhitelist.length % 256 < db.safeTcWhitelist.length :=
      Nat.lt_of_lt_of_le (Nat.mod_lt _ (by decide)) (by omega)
    have member := List.getElem_mem wraps
    obtain ⟨service, subservice⟩ := safeTcWhitelist_range member
    have behind : db.safeTcWhitelist[db.safeTcWhitelist.length % 256] ∈
        db.safeTcWhitelist.drop (db.safeTcWhitelist.length % 256) := by
      rw [List.drop_eq_getElem_cons wraps]
      exact List.mem_cons_self
    have bytes := whitelistEntry_toNat ⟨service, subservice⟩
    have through := (exactly (Fsm.mk .safe config 0 []) rfl Mode.noConfusion _ _).mpr
      ((allowed_iff db _ _).mpr (bytes.symm ▸ member))
    have read := (gate (Fsm.mk .safe config 0 []) rfl Mode.noConfusion _ _).mp through
    rw [bytes] at read
    exact List.disjoint_take_drop (safeTcWhitelist_nodup db) (Nat.le_refl _) read behind
  · intro short fsm same outside svc subsvc
    rw [gate fsm same outside, Nat.mod_eq_of_lt (by omega), List.take_length, allowed_iff]

/-! ### The reports -/

/-- With the IDs of the database in the slots that count, a report goes by the marks exactly
when it can be stored or finds the satellite in SAFE. -/
theorem triggersExactly_iff {cfg : Config} {η : Type} {db : SRDB py} {contexts : SafetyContexts}
    (ids : contexts.safeTriggerIds.take contexts.safeTriggerCount.toNat =
      triggerEntries db.safeTriggerEventIds)
    (onEvent : Option (UInt16 → η → η)) (eventId : UInt16) (aux : S5.AuxData)
    (env : S5.Env cfg η) :
    TriggersExactly db onEvent eventId aux (contexts.wired env) ↔
      (db.Marked eventId → env.fsm.mode = .safe ∨ S5.Storable cfg aux env.tm.store) := by
  have triggers : S5.Triggers (contexts.wired env).ctx .high eventId ↔ db.Marked eventId := by
    rw [← mem_triggerEntries_iff, ← ids]
    exact and_iff_right rfl
  constructor
  · intro exactly marked
    obtain ⟨rc, after, ran, coupled, _⟩ := exactly
    rw [S5.report_eq] at ran
    cases ran
    exact (S5.reported_fsm_of_triggers onEvent aux _ rfl (triggers.mpr marked)).mp
      (coupled marked)
  · intro room
    refine ⟨_, _, S5.report_eq onEvent .high eventId aux _, ?_, ?_⟩
    · intro marked
      exact (S5.reported_fsm_of_triggers onEvent aux _ rfl (triggers.mpr marked)).mpr
        (room marked)
    · intro unmarked
      exact S5.couple_of_not_triggers (fun all => unmarked (triggers.mp all)) _ _

/-! ### The build -/

theorem listMacro_of_isSome {α : Type} {entries : List α}
    (defined : (listMacro entries).isSome = true) : listMacro entries = some entries := by
  unfold listMacro at defined ⊢
  by_cases empty : entries.isEmpty = true
  · rw [if_pos empty] at defined
    cases defined
  · rw [if_neg empty]

/-- What the generated header of a build says. -/
theorem safetyTables_of_build {db : SRDB py} {tables : SafetyTables}
    (generated : generateSafetyTables db = some tables) (triggers : tables.triggerIds.isSome = true)
    (whitelist : tables.tcWhitelist.isSome = true) :
    tables = ⟨db.safeTriggerEventIds.length, some db.safeTriggerEventIds,
      db.safeTcWhitelist.length, some db.safeTcWhitelist⟩ := by
  obtain ⟨_, _, same⟩ := Option.map_eq_some_iff.mp generated
  cases same
  rw [listMacro_of_isSome triggers, listMacro_of_isSome whitelist]

/-- The contexts that an initialisation with the tables leaves. -/
def filledContexts (db : SRDB py) (onEnterSafe onExitSafe : Bool) (slots : List UInt16) :
    SafetyContexts where
  safeTriggerIds := slots
  safeTriggerCount := UInt8.ofNat db.safeTriggerEventIds.length
  fsmConfig := {
    onEnterSafe := onEnterSafe
    onExitSafe := onExitSafe
    safeTcWhitelist := some (whitelistEntries db.safeTcWhitelist)
    whitelistLen := UInt8.ofNat db.safeTcWhitelist.length }

/-- The slots that count hold the IDs when all of them were copied. -/
theorem filledContexts_ids {db : SRDB py} {onEnterSafe onExitSafe : Bool} {final : List UInt16}
    (counted : db.safeTriggerEventIds.length ≤ 255)
    (copied : final.take (triggerEntries db.safeTriggerEventIds).length =
      triggerEntries db.safeTriggerEventIds) :
    (filledContexts db onEnterSafe onExitSafe final).safeTriggerIds.take
        (filledContexts db onEnterSafe onExitSafe final).safeTriggerCount.toNat =
      triggerEntries db.safeTriggerEventIds := by
  show final.take (UInt8.ofNat db.safeTriggerEventIds.length).toNat = _
  have length : (triggerEntries db.safeTriggerEventIds).length = db.safeTriggerEventIds.length :=
    List.length_map _
  rw [UInt8.toNat_ofNat', Nat.mod_eq_of_lt (by omega), ← length]
  exact copied

/-- In a build the initialisation ends as its copy does. -/
theorem initialise_of_build {db : SRDB py} {tables : SafetyTables}
    (generated : generateSafetyTables db = some tables) (triggers : tables.triggerIds.isSome = true)
    (whitelist : tables.tcWhitelist.isSome = true) (onEnterSafe onExitSafe : Bool)
    (slots : List UInt16) (turns : Nat) :
    initialise tables onEnterSafe onExitSafe slots turns =
      match copyTriggers (triggerEntries db.safeTriggerEventIds).length
          (triggerEntries db.safeTriggerEventIds) turns 0 slots with
      | .overrun => .overrun
      | .running => .running
      | .done slots => .done (filledContexts db onEnterSafe onExitSafe slots) := by
  rw [safetyTables_of_build generated triggers whitelist, triggerEntries, List.length_map]
  rfl

/-- The tables reach the flight code when the copy ends, and the reports and the gate then
go by them. -/
theorem tablesReach_of_fits {cfg : Config} {η : Type} {db : SRDB py} {tables : SafetyTables}
    (generated : generateSafetyTables db = some tables) (triggers : tables.triggerIds.isSome = true)
    (whitelist : tables.tcWhitelist.isSome = true) {onEnterSafe onExitSafe : Bool}
    {slots : List UInt16} {onEvent : Option (UInt16 → η → η)} {eventId : UInt16}
    {aux : S5.AuxData} {env : S5.Env cfg η} (fits : db.safeTriggerEventIds.length ≤ slots.length)
    (counted : db.safeTriggerEventIds.length ≤ 255) (listed : db.safeTcWhitelist.length ≤ 255)
    (room : db.Marked eventId → env.fsm.mode = .safe ∨ S5.Storable cfg aux env.tm.store) :
    TablesReach db tables onEnterSafe onExitSafe slots onEvent eventId aux env := by
  have start := initialise_of_build generated triggers whitelist onEnterSafe onExitSafe slots
  have length : (triggerEntries db.safeTriggerEventIds).length = db.safeTriggerEventIds.length :=
    List.length_map _
  rw [← length] at fits counted
  constructor
  · intro turns overrun
    rw [start] at overrun
    split at overrun
    · exact copyTriggers_inside fits ‹_›
    · cases overrun
    · cases overrun
  · obtain ⟨turns, final, ended⟩ := exists_copyTriggers counted fits
    have copied := (copyTriggers_whole ended).2.2
    refine ⟨turns, filledContexts db onEnterSafe onExitSafe final, ?_, ?_, ?_⟩
    · rw [start, ended]
    · exact (triggersExactly_iff (filledContexts_ids (length ▸ counted) copied) onEvent eventId aux
        env).mpr room
    · exact (gatesExactly_iff db rfl rfl).mpr listed

/-- The safety tables of a database reach the flight code exactly when their sizes fit the
array and the eight-bit counts, and the report of a marked event fits the store. -/
theorem safetyKept_iff {cfg : Config} {η : Type} (db : SRDB py) (onEnterSafe onExitSafe : Bool)
    (slots : List UInt16) (onEvent : Option (UInt16 → η → η)) (eventId : UInt16)
    (aux : S5.AuxData) (env : S5.Env cfg η) :
    SafetyKept db onEnterSafe onExitSafe slots onEvent eventId aux env ↔
      (db.HasBuild → db.safeTriggerEventIds.length ≤ slots.length ∧
        db.safeTriggerEventIds.length ≤ 255 ∧ db.safeTcWhitelist.length ≤ 255 ∧
        (db.Marked eventId → env.fsm.mode = .safe ∨ S5.Storable cfg aux env.tm.store)) := by
  constructor
  · intro kept build
    obtain ⟨tables, generated, triggers, whitelist⟩ := build
    obtain ⟨turns, contexts, ended, reports, gates⟩ :=
      (kept tables generated triggers whitelist).reached
    rw [initialise_of_build generated triggers whitelist] at ended
    split at ended
    · cases ended
    · cases ended
    · rename_i final ran
      cases ended
      obtain ⟨counted, fits, copied⟩ := copyTriggers_whole ran
      rw [triggerEntries, List.length_map] at counted fits
      exact ⟨fits, counted, (gatesExactly_iff db rfl rfl).mp gates,
        (triggersExactly_iff (filledContexts_ids counted copied) onEvent eventId aux env).mp reports⟩
  · intro condition tables generated triggers whitelist
    obtain ⟨fits, counted, listed, room⟩ := condition ⟨tables, generated, triggers, whitelist⟩
    exact tablesReach_of_fits generated triggers whitelist fits counted listed room

end

/-! ### One trigger too many -/

/-- A database of the events and of one telecommand that SAFE allows. -/
def alarms (events : List (Validated Event.validate)) : SRDB asciiPython where
  spacecraft := testSpacecraft
  parameters := []
  telecommands := [⟨{
    name := "ping".toList
    description := []
    apid := 0x103
    service := 17
    subservice := 1
    safeAllowed := true }, by decide⟩]
  hkSets := []
  events := events

def alarm (id : Int) : Event where
  id := id
  name := "alarm".toList ++ intText id
  severity := .high
  description := []
  safeTrigger := true

/-- Nine safe triggers. -/
def nineAlarms : List (Validated Event.validate) :=
  [⟨alarm 1, by decide⟩, ⟨alarm 2, by decide⟩, ⟨alarm 3, by decide⟩, ⟨alarm 4, by decide⟩,
    ⟨alarm 5, by decide⟩, ⟨alarm 6, by decide⟩, ⟨alarm 7, by decide⟩, ⟨alarm 8, by decide⟩,
    ⟨alarm 9, by decide⟩]

/-- The default array has eight slots: the copy of nine triggers leaves it. -/
theorem nineAlarms_overrun :
    (alarms nineAlarms).Loaded ∧ (alarms nineAlarms).HasBuild ∧
      (∃ tables, generateSafetyTables (alarms nineAlarms) = some tables ∧
        initialise tables false false (List.replicate 8 0) 9 = .overrun) ∧
      ¬ SafetyKept (alarms nineAlarms) false false (List.replicate 8 0) none 7 ⟨[], by decide⟩
        (S5.nominalEnv 0) := by
  have build : (alarms nineAlarms).HasBuild := ⟨_, rfl, rfl, rfl⟩
  have overrun : ∃ tables, generateSafetyTables (alarms nineAlarms) = some tables ∧
      initialise tables false false (List.replicate 8 0) 9 = .overrun := ⟨_, rfl, by decide⟩
  refine ⟨(SRDB.loaded_iff _).mpr (by decide), build, overrun, ?_⟩
  intro kept
  obtain ⟨tables, generated, triggers, whitelist⟩ := build
  obtain ⟨_, same, left⟩ := overrun
  rw [generated] at same
  cases same
  exact (kept tables generated triggers whitelist).inside 9 left

end Openobsw.Srdb
