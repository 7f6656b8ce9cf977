import Openobsw.Pus.S3Commands

/-!
Owns what housekeeping reports contain: the TM(3,25) of a represented structure
carries the current value of each of its parameters, in order. The tick runs
without a fault and only moves countdowns.
-/

namespace Openobsw.Pus.S3

open Openobsw.Lib.Tables Openobsw.Util

variable {cfg : Config} {table : List S20.Param} {s : Ctx} {structures : List Structure}

/-! ### Values -/

/-- The current value behind a pointer that is inside its table. -/
def Variables.value (vars : Variables) (ptr : VarPtr) : UInt32 := (vars.read ptr).getD 0

/-- The bytes of a parameter in a report. -/
def Variables.bytes (vars : Variables) (p : Param) : List UInt8 :=
  putBe (vars.value p.ptr) p.size

@[simp] theorem putBe_length (value : UInt32) (size : ParamSize) :
    (putBe value size).length = size.bytes := by
  cases size <;> rfl

/-- The current raw value of the parameter with an ID. -/
def rawValue (table : List S20.Param) (id : UInt16) : UInt32 :=
  ((table.find? (fun param => param.paramId == id)).map (fun param => param.value)).getD 0

theorem findParam_some {id : UInt16} {index : Nat} (found : findParam s table id = some index) :
    ∃ param, table[index]? = some param ∧
      table.find? (fun param => param.paramId == id) = some param := by
  obtain ⟨inRange, matched, first⟩ := List.findIdx?_eq_some_iff_getElem.mp found
  have below : index < table.length := by
    rw [List.length_take] at inRange
    omega
  refine ⟨table[index], List.getElem?_eq_getElem below, ?_⟩
  rw [List.find?_eq_some_iff_getElem]
  refine ⟨by simpa using matched, index, below, rfl, ?_⟩
  intro j before
  have other := first j before
  simpa using other

/-- A pool entry leads to the current raw value of its parameter. -/
theorem read_poolEntry {vars : Variables} (same : vars.table = table) {id : UInt16}
    (known : (findParam s table id).isSome = true) :
    vars.read (poolEntry s table id).ptr = some (rawValue table id) := by
  obtain ⟨index, found⟩ := Option.isSome_iff_exists.mp known
  obtain ⟨param, place, selected⟩ := findParam_some found
  unfold poolEntry Variables.read rawValue
  rw [found, same, selected]
  show (table[index]?).map _ = _
  rw [place]
  rfl

theorem bytes_poolEntry {vars : Variables} (same : vars.table = table) {id : UInt16}
    (known : (findParam s table id).isSome = true) :
    vars.bytes (poolEntry s table id) = putBe32 (rawValue table id) := by
  unfold Variables.bytes Variables.value
  rw [read_poolEntry same known]
  rfl

/-! ### Serialisation -/

theorem serialiseParams_eq {vars : Variables} {bufLen : Nat} {params : List Param}
    (readable : ∀ p ∈ params, ∃ value, vars.read p.ptr = some value) (written : List UInt8)
    (inside : written.length ≤ bufLen) :
    serialiseParams vars bufLen params written =
      some (if written.length + (params.flatMap vars.bytes).length ≤ bufLen
        then some (written ++ params.flatMap vars.bytes) else none) := by
  induction params generalizing written with
  | nil => simp [serialiseParams, inside]
  | cons p rest inductionHypothesis =>
      obtain ⟨value, read⟩ := readable p List.mem_cons_self
      have bytes : vars.bytes p = putBe value p.size := by
        simp [Variables.bytes, Variables.value, read]
      have width : (vars.bytes p).length = p.size.bytes := by rw [bytes, putBe_length]
      unfold serialiseParams
      rw [List.flatMap_cons, List.length_append]
      split
      · rename_i overflow
        rw [if_neg (by omega)]
      · rename_i fits
        have later := inductionHypothesis
          (fun q member => readable q (List.mem_cons_of_mem p member))
          (written ++ putBe value p.size) (by rw [List.length_append, putBe_length]; omega)
        rw [read]
        simp only [Option.bind_eq_bind, Option.bind_some]
        rw [later, ← bytes, List.length_append, List.append_assoc, Nat.add_assoc]

/-- The parameters of a structure as the set table points to them. -/
def Structure.params (s : Ctx) (table : List S20.Param) (a : Structure) : List Param :=
  match a.source with
  | .boot params count => params.take count.toNat
  | .created ids => ids.map (poolEntry s table)

/-- The values a structure reports: those behind its boot-time array, or the current
raw values of the parameters it was created from. -/
def Structure.values (vars : Variables) (a : Structure) : List UInt8 :=
  match a.source with
  | .boot params count => (params.take count.toNat).flatMap vars.bytes
  | .created ids => ids.flatMap (fun id => putBe32 (rawValue vars.table id))

theorem Represents.setParams_eq (represents : Represents cfg table s structures)
    {before after : List Structure} {a : Structure} (split : structures = before ++ a :: after) :
    setParams s (a.render (poolIds before).length) = some (a.params s table) := by
  have reportable := represents.reportable a (by rw [split]; simp)
  unfold setParams Structure.params
  cases source : a.source with
  | boot params count =>
      rw [source] at reportable
      simp only [Structure.render, source, Source.pointer, Source.count]
      exact if_pos reportable.1
  | created ids =>
      rw [source] at reportable
      obtain ⟨positive, bounded, _, _⟩ := reportable
      have sourceIds : a.source.ids = ids := by rw [source]; rfl
      have allIds : poolIds structures = poolIds before ++ (ids ++ poolIds after) := by
        rw [split, poolIds_append, poolIds_cons, sourceIds]
      have count : (UInt8.ofNat ids.length).toNat = ids.length := by
        rw [UInt8.toNat_ofNat']
        omega
      simp only [Structure.render, source, Source.pointer, Source.count, count]
      cases allocated : s.paramPool with
      | none =>
          have used := represents.used
          have zero : s.paramPoolUsed = 0 := by
            unfold Ctx.paramPoolUsed
            rw [allocated]
            rfl
          have some := List.length_pos_iff.mpr positive
          rw [allIds, List.length_append, List.length_append] at used
          omega
      | some pool =>
          have poolEq := represents.pool_some allocated
          have first : ((poolIds before).map (poolEntry s table)).length =
              (poolIds before).length := List.length_map _
          have second : (ids.map (poolEntry s table)).length = ids.length := List.length_map _
          simp only [Option.bind_eq_bind, Option.bind_some]
          rw [poolEq, allIds, List.map_append, List.map_append, if_pos (by simp),
            List.drop_left' first, List.take_left' second]

theorem Represents.readable (represents : Represents cfg table s structures) {a : Structure}
    (member : a ∈ structures) {vars : Variables} (same : vars.table = table) :
    ∀ p ∈ a.params s table, ∃ value, vars.read p.ptr = some value := by
  have reportable := represents.reportable a member
  intro p inParams
  unfold Structure.params at inParams
  cases source : a.source with
  | boot params count =>
      rw [source] at reportable inParams
      cases pointer : p.ptr with
      | app name => exact ⟨_, rfl⟩
      | s20 index =>
          have below := reportable.2 p (List.mem_of_mem_take inParams) index pointer
          refine ⟨table[index].value, ?_⟩
          unfold Variables.read
          rw [same]
          show (table[index]?).map _ = _
          rw [List.getElem?_eq_getElem below]
          rfl
  | created ids =>
      rw [source] at reportable inParams
      obtain ⟨id, inIds, rfl⟩ := List.mem_map.mp inParams
      exact ⟨_, read_poolEntry same (reportable.2.2.2 id inIds)⟩

theorem Represents.values_eq (represents : Represents cfg table s structures) {a : Structure}
    (member : a ∈ structures) {vars : Variables} (same : vars.table = table) :
    (a.params s table).flatMap vars.bytes = a.values vars := by
  have reportable := represents.reportable a member
  unfold Structure.params Structure.values
  cases source : a.source with
  | boot params count => rfl
  | created ids =>
      rw [source] at reportable
      simp only [List.flatMap_map]
      apply List.flatMap_congr
      intro id inIds
      rw [bytes_poolEntry same (reportable.2.2.2 id inIds), same]

theorem params_length_le (s : Ctx) (table : List S20.Param) {a : Structure}
    (reportable : a.source.Reportable cfg s table) : (a.params s table).length ≤ 255 := by
  unfold Structure.params
  cases source : a.source with
  | boot params count =>
      have bounded := count.toNat_lt
      simp only [List.length_take]
      omega
  | created ids =>
      rw [source] at reportable
      simpa using reportable.2.1

theorem flatMap_bytes_length_le (vars : Variables) (params : List Param) :
    (params.flatMap vars.bytes).length ≤ 4 * params.length := by
  induction params with
  | nil => simp
  | cons p rest inductionHypothesis =>
      have width : (vars.bytes p).length ≤ 4 := by
        unfold Variables.bytes
        rw [putBe_length]
        cases p.size <;> simp [ParamSize.bytes]
      rw [List.flatMap_cons, List.length_append, List.length_cons]
      omega

/-- A report of readable parameters either does not fit its buffer and changes nothing,
or builds one TM(3,25) with the set ID and the current values. -/
theorem emitHkReport_eq {set : HkSet} {params : List Param}
    (selected : setParams s set = some params) (few : params.length ≤ 255) {vars : Variables}
    (readable : ∀ p ∈ params, ∃ value, vars.read p.ptr = some value) (tm : Port cfg) :
    emitHkReport vars set s tm =
      if (params.flatMap vars.bytes).length ≤ reportBufLen cfg then
        some ((tm.put (request s set (params.flatMap vars.bytes))).1,
          { s with msgCounter := s.msgCounter + 1 },
          tm.after (request s set (params.flatMap vars.bytes)))
      else some (.errTooLarge, s, tm) := by
  have short : (params.flatMap vars.bytes).length ≤ 1020 := by
    have bound := flatMap_bytes_length_le vars params
    omega
  unfold emitHkReport serialiseSet
  rw [selected]
  simp only [Option.bind_eq_bind, Option.bind_some]
  rw [serialiseParams_eq readable [] (Nat.zero_le _)]
  simp only [Option.bind_some, List.length_nil, Nat.zero_add, List.nil_append]
  by_cases fits : (params.flatMap vars.bytes).length ≤ reportBufLen cfg
  · have inside : (request s set (params.flatMap vars.bytes)).Inside cfg :=
      TmRequest.inside_of_small cfg (by rw [request, List.length_cons]; omega)
    rw [if_pos fits, if_pos fits]
    simp only
    rw [pusTmBuild_eq_put inside]
    rfl
  · rw [if_neg fits, if_neg fits]
    rfl

/-- The report of a represented structure carries the values of the structure. -/
theorem Represents.emit (represents : Represents cfg table s structures)
    {before after : List Structure} {a : Structure} (split : structures = before ++ a :: after)
    {vars : Variables} (same : vars.table = table) (tm : Port cfg) :
    emitHkReport vars (a.render (poolIds before).length) s tm =
      if (a.values vars).length ≤ reportBufLen cfg then
        some ((tm.put (request s (a.render (poolIds before).length) (a.values vars))).1,
          { s with msgCounter := s.msgCounter + 1 },
          tm.after (request s (a.render (poolIds before).length) (a.values vars)))
      else some (.errTooLarge, s, tm) := by
  have member : a ∈ structures := by rw [split]; simp
  have few := params_length_le s table (represents.reportable a member)
  rw [emitHkReport_eq (represents.setParams_eq split) few (represents.readable member same),
    represents.values_eq member same]

/-- The bytes of each parameter follow those of the parameters before it. -/
theorem bytes_slice (vars : Variables) {params : List Param} {index : Nat} {p : Param}
    (place : params[index]? = some p) :
    ((params.flatMap vars.bytes).drop ((params.take index).map (fun q => q.size.bytes)).sum).take
      p.size.bytes = vars.bytes p := by
  have width (q : Param) : (vars.bytes q).length = q.size.bytes := putBe_length _ _
  induction params generalizing index with
  | nil => cases place
  | cons first rest inductionHypothesis =>
      rw [List.flatMap_cons]
      cases index with
      | zero =>
          cases place
          exact List.take_left' (width p)
      | succ index =>
          rw [List.take_succ_cons, List.map_cons, List.sum_cons, ← width first, List.drop_append,
            List.drop_eq_nil_of_le (by omega), List.nil_append, Nat.add_sub_cancel_left]
          exact inductionHypothesis place

theorem flatMap_bytes_length (vars : Variables) (params : List Param) :
    (params.flatMap vars.bytes).length = (params.map (fun p => p.size.bytes)).sum := by
  rw [List.length_flatMap]
  congr 1
  exact List.map_congr_left (fun p _ => putBe_length _ _)

/-- The data of the TM(3,25) of a structure, if it fits one. -/
def Structure.report (cfg : Config) (vars : Variables) (a : Structure) : List (List UInt8) :=
  if (a.values vars).length ≤ reportBufLen cfg then [a.setId :: a.values vars] else []

theorem rawValues_length (table : List S20.Param) (ids : List UInt16) :
    (ids.flatMap (fun id => putBe32 (rawValue table id))).length = 4 * ids.length := by
  induction ids with
  | nil => rfl
  | cons id rest inductionHypothesis =>
      rw [List.flatMap_cons, List.length_append, inductionHypothesis, List.length_cons,
        putBe32_length]
      omega

/-- A created structure fits a report, as TC(3,1) has checked. -/
theorem report_created {vars : Variables} {a : Structure} {ids : List UInt16}
    (source : a.source = .created ids) (reportable : a.source.Reportable cfg s table)
    (atLeast : 17 ≤ cfg.tmMaxPacketLen) (atMost : cfg.tmMaxPacketLen ≤ 65536) :
    a.report cfg vars = [a.setId :: ids.flatMap (fun id => putBe32 (rawValue vars.table id))] := by
  rw [source] at reportable
  obtain ⟨_, _, fits, _⟩ := reportable
  have values : a.values vars = ids.flatMap (fun id => putBe32 (rawValue vars.table id)) := by
    unfold Structure.values
    rw [source]
  have length : (a.values vars).length = 4 * ids.length := by
    rw [values, rawValues_length]
  unfold maxReportData at fits
  unfold Structure.report reportBufLen
  rw [if_pos (by rw [length]; omega), values]

/-! ### The tick -/

/-- One tick of a structure: whether it reports, and its new countdown. -/
def Structure.ticked (a : Structure) : Bool × Structure :=
  if a.enabled = false ∨ a.intervalTicks = 0 then (false, a)
  else
    let countdown := if a.countdown > 0 then a.countdown - 1 else a.countdown
    if countdown = 0 then (true, { a with countdown := a.intervalTicks })
    else (false, { a with countdown := countdown })

theorem render_ticked (a : Structure) (offset : Nat) :
    (a.render offset).ticked = (a.ticked.1, a.ticked.2.render offset) := by
  unfold HkSet.ticked Structure.ticked Structure.render
  simp only
  split
  · rfl
  · split
    · split <;> rfl
    · split <;> rfl

theorem ticked_countdown (a : Structure) :
    ∃ countdown, a.ticked.2 = { a with countdown := countdown } := by
  unfold Structure.ticked
  split
  · exact ⟨a.countdown, rfl⟩
  · simp only
    split
    · split <;> exact ⟨_, rfl⟩
    · split <;> exact ⟨_, rfl⟩

theorem ticked_keeps (a : Structure) :
    a.ticked.2.setId = a.setId ∧ a.ticked.2.source = a.source := by
  obtain ⟨countdown, ticked⟩ := ticked_countdown a
  rw [ticked]
  exact ⟨rfl, rfl⟩

/-- The sets that report at the next tick, in table order. -/
def reporting (sets : List HkSet) : List HkSet := sets.filter (fun set => set.ticked.1)

/-- The message counter plays no part in the representation. -/
theorem Represents.counted (represents : Represents cfg table s structures) (counter : UInt16) :
    Represents cfg table { s with msgCounter := counter } structures :=
  ⟨represents.sets, represents.pool, represents.idsDistinct, represents.setsFit,
    represents.poolFits, represents.reportable⟩

/-- The TMs built between two ports are TM(3,25) with `data`, in this order. -/
def Emitted (data : List (List UInt8)) (before after : Port cfg) : Prop :=
  ∃ built, after.log = before.log ++ built ∧ built.map (fun tm => tm.request.data) = data ∧
    ∀ tm ∈ built, tm.request.svc = 3 ∧ tm.request.subsvc = 25

theorem Emitted.refl (port : Port cfg) : Emitted [] port port :=
  ⟨[], (List.append_nil _).symm, rfl, by simp⟩

theorem Emitted.trans {front back : List (List UInt8)} {first second third : Port cfg}
    (left : Emitted front first second) (right : Emitted back second third) :
    Emitted (front ++ back) first third := by
  obtain ⟨leftBuilt, leftLog, leftData, leftAll⟩ := left
  obtain ⟨rightBuilt, rightLog, rightData, rightAll⟩ := right
  refine ⟨leftBuilt ++ rightBuilt, ?_, ?_, ?_⟩
  · rw [rightLog, leftLog, List.append_assoc]
  · rw [List.map_append, leftData, rightData]
  · intro tm member
    rcases List.mem_append.mp member with inLeft | inRight
    · exact leftAll tm inLeft
    · exact rightAll tm inRight

theorem Emitted.after (port : Port cfg) (set : HkSet) (bytes : List UInt8) :
    Emitted [set.setId :: bytes] port (port.after (request s set bytes)) :=
  ⟨[⟨_, (port.put (request s set bytes)).1⟩], after_log _ _, rfl, by simp [request]⟩

theorem Represents.emit_cases (represents : Represents cfg table s structures)
    {before after : List Structure} {a : Structure} (split : structures = before ++ a :: after)
    {vars : Variables} (same : vars.table = table) (tm : Port cfg) :
    ∃ rc counter next,
      emitHkReport vars (a.render (poolIds before).length) s tm =
        some (rc, { s with msgCounter := counter }, next) ∧
      Emitted (a.report cfg vars) tm next := by
  rw [represents.emit split same]
  unfold Structure.report
  split
  · exact ⟨_, _, _, rfl, Emitted.after tm _ _⟩
  · exact ⟨_, s.msgCounter, _, rfl, Emitted.refl tm⟩

/-- The report a structure makes in a tick. -/
def Structure.dueReport (cfg : Config) (vars : Variables) (a : Structure) : List (List UInt8) :=
  if a.ticked.1 then a.report cfg vars else []

theorem Represents.tickSet (represents : Represents cfg table s structures)
    {before after : List Structure} {a : Structure} (split : structures = before ++ a :: after)
    {vars : Variables} (same : vars.table = table) (tm : Port cfg) :
    ∃ later next,
      tickSet vars before.length (a.render (poolIds before).length) s tm = some (later, next) ∧
        Represents cfg table later (before ++ a.ticked.2 :: after) ∧
        Emitted (a.dueReport cfg vars) tm next := by
  obtain ⟨sameId, sameSource⟩ := ticked_keeps a
  unfold S3.tickSet Structure.dueReport
  rw [render_ticked]
  cases reports : a.ticked.1 with
  | false =>
      exact ⟨_, tm, rfl, represents.replaceAt split sameId sameSource rfl, Emitted.refl tm⟩
  | true =>
      obtain ⟨rc, counter, next, emitted, data⟩ := represents.emit_cases split same tm
      simp only [emitted, if_true, Option.bind_eq_bind, Option.bind_some]
      exact ⟨_, next, rfl, (represents.counted counter).replaceAt split sameId sameSource rfl, data⟩

theorem Represents.tickFrom {vars : Variables} (same : vars.table = table)
    (rest : List Structure) :
    ∀ {s : Ctx} {tm : Port cfg} (done : List Structure),
      Represents cfg table s (done ++ rest) →
      ∃ after next, tickFrom vars rest.length done.length s tm = some (after, next) ∧
        Represents cfg table after (done ++ rest.map (fun a => a.ticked.2)) ∧
        Emitted (rest.flatMap (Structure.dueReport cfg vars)) tm next := by
  induction rest with
  | nil =>
      intro s tm done represents
      exact ⟨s, tm, rfl, represents, Emitted.refl tm⟩
  | cons a rest inductionHypothesis =>
      intro s tm done represents
      obtain ⟨middle, next, ticked, represented, data⟩ := represents.tickSet rfl same tm
      have shape : done ++ a.ticked.2 :: rest = (done ++ [a.ticked.2]) ++ rest := by simp
      rw [shape] at represented
      obtain ⟨after, final, ran, finished, tail⟩ := inductionHypothesis _ represented
      rw [List.length_append] at ran
      refine ⟨after, final, ?_, by simpa using finished, data.trans tail⟩
      show S3.tickFrom vars (rest.length + 1) done.length s tm = _
      unfold S3.tickFrom
      simp only [represents.getElem?_eq rfl, ticked, Option.bind_eq_bind, Option.bind_some]
      exact ran

/-- A tick runs to its end, only moves countdowns, and reports the structures that
are due, in table order. -/
theorem Represents.tick (represents : Represents cfg table s structures) (vars : Variables)
    (same : vars.table = table) (tm : Port cfg) :
    ∃ after next, tick vars s tm = some (after, next) ∧
      Represents cfg table after (structures.map (fun a => a.ticked.2)) ∧
      Emitted (structures.flatMap (Structure.dueReport cfg vars)) tm next := by
  have length : s.sets.length = structures.length := by
    rw [represents.sets, layout_length]
  unfold S3.tick
  rw [length]
  exact Represents.tickFrom same structures [] represents

/-- An on-demand report runs to its end and leaves the structures alone; for the ID
of a structure it is the report of that structure. -/
theorem Represents.report (represents : Represents cfg table s structures) (vars : Variables)
    (same : vars.table = table) (setId : UInt8) (tm : Port cfg) :
    ∃ rc after next, report vars setId s tm = some (rc, after, next) ∧
      Represents cfg table after structures ∧
      ∀ a ∈ structures, a.setId = setId → Emitted (a.report cfg vars) tm next := by
  unfold S3.report
  cases found : findSet s.sets setId with
  | none =>
      refine ⟨none, s, tm, rfl, represents, ?_⟩
      intro a member named
      have absent := (findKey_eq_none_iff HkSet.setId s.sets setId).mp found
      rw [represents.sets] at absent
      apply absurd _ absent
      show setId ∈ (layout 0 structures).map (fun set => set.setId)
      rw [layout_setIds, ← named]
      exact List.mem_map_of_mem member
  | some index =>
      obtain ⟨before, a, after, split, length, named⟩ := represents.findSet_some found
      subst length
      obtain ⟨rc, counter, later, emitted, data⟩ := represents.emit_cases split same tm
      refine ⟨some rc, { s with msgCounter := counter }, later, ?_, represents.counted counter, ?_⟩
      · simp only [represents.getElem?_eq split, emitted, Option.bind_eq_bind, Option.bind_some]
        rfl
      · intro b member sameId
        have aMember : a ∈ structures := by rw [split]; simp
        have one := List.inj_on_of_nodup_map represents.idsDistinct member aMember
          (sameId.trans named.symm)
        rwa [one]

/-! ### Parameter values may change -/

/-- Values in the S20 table may change as long as its IDs stay. -/
theorem Represents.revalue (represents : Represents cfg table s structures)
    {other : List S20.Param}
    (sameIds : other.map (fun param => param.paramId) = table.map (fun param => param.paramId)) :
    Represents cfg other s structures := by
  have sameLength : other.length = table.length := by simpa using congrArg List.length sameIds
  have sameFind : ∀ id, findParam s other id = findParam s table id := by
    intro id
    apply findKey_congr
    show (other.take _).map (fun param => param.paramId) = (table.take _).map _
    rw [List.map_take, List.map_take, sameIds]
  have sameEntry : poolEntry s other = poolEntry s table := by
    funext id
    unfold poolEntry
    rw [sameFind]
  refine ⟨represents.sets, sameEntry ▸ represents.pool, represents.idsDistinct,
    represents.setsFit, represents.poolFits, ?_⟩
  intro a member
  have reportable := represents.reportable a member
  cases source : a.source with
  | boot params count =>
      rw [source] at reportable
      refine ⟨reportable.1, ?_⟩
      rw [sameLength]
      exact reportable.2
  | created ids =>
      rw [source] at reportable
      refine ⟨reportable.1, reportable.2.1, reportable.2.2.1, ?_⟩
      intro id inIds
      rw [sameFind]
      exact reportable.2.2.2 id inIds

end Openobsw.Pus.S3
