import Mathlib.Algebra.BigOperators.Ring.Finset
import Mathlib.Algebra.BigOperators.Ring.List
import Openobsw.Pus.S3Reports
import Openobsw.Srdb.Loader
import Openobsw.Srdb.Macros
import Openobsw.Srdb.Widths

/-!
Owns the three layouts of a housekeeping set: the sizes in the C header, the entries in
the XTCE and the bytes of the TM(3,25). The flight code finds the sizes under the name of the
set, which sets can share; the header goes by the last parameter of a name, the entries by
the first, and their references by the name in upper case.
-/

namespace Openobsw.Srdb

open Openobsw.Pus

variable {F : Type} {py : Python F} {cfg : Config}

/-! ### Agreement of a set -/

/-- A boot-time set under the ID of the database with one variable per listed parameter. -/
structure BootSet (hk : HKSet) (set : S3.HkSet) (sources : List S3.Param) : Prop where
  setId : (set.setId.toNat : Int) = hk.id
  params : set.params = .boot sources
  paramCount : set.paramCount.toNat = hk.parameters.length
  perParameter : sources.length = hk.parameters.length

/-- `SRDB_HK_<SET>_SIZES` as the array of bytes that a build makes of it. -/
def HkLayout.bytes (layout : HkLayout) : List UInt8 :=
  layout.sizes.map (fun size => UInt8.ofNat size.toNat)

/-- The byte of the packet at which a parameter starts: behind the 17 header bytes, the
set ID and the parameters before it. -/
def paramStart (params : List S3.Param) (index : Nat) : Nat :=
  18 + ((params.take index).map (fun p => p.size.bytes)).sum

/-- Every TM(3,25) of the set ends `dataLen` bytes after the set ID, and carries each
parameter at its start. -/
def Carries (cfg : Config) (dataLen : Int) (set : S3.HkSet) (params : List S3.Param) : Prop :=
  ∀ (vars : S3.Variables) (s : S3.Ctx) (tm : Port cfg),
    (∀ p ∈ params, ∃ value, vars.read p.ptr = some value) →
      ∃ request : TmRequest, request.svc = 3 ∧ request.subsvc = 25 ∧
        S3.emitHkReport vars set s tm = some ((tm.put request).1,
          { s with msgCounter := s.msgCounter + 1 }, tm.after request) ∧
        (tm.put request).1 = (if tm.store.full then .errStore else .ok) ∧
        (request.packet.length : Int) = 18 + dataLen ∧ request.packet[17]? = some set.setId ∧
        ∀ index p, params[index]? = some p →
          (request.packet.drop (paramStart params index)).take p.size.bytes = vars.bytes p

/-- The container has one entry per parameter, at its first bit, with a reference to a
type of its width. -/
def Decodes (tm : TelemetryMetaData F) (container : SequenceContainer)
    (params : List S3.Param) : Prop :=
  container.entryList.length = params.length ∧
    ∀ index p, params[index]? = some p →
      ∃ entry, container.entryList[index]? = some entry ∧
        entry.fixedValue = 8 * (paramStart params index : Int) ∧
        tm.HasWidth entry.parameterRef (8 * (p.size.bytes : Int))

/-- The sizes that the flight code finds under the names of the set at `index` are accepted for
it, and its packets have the layout of its generated container. The targets assert that the
count is that of the set. -/
def LayoutAgrees (cfg : Config) (db : SRDB py) (index : Nat) (hk : HKSet) : Prop :=
  ∃ layouts layout tm container, generateHeader db = some layouts ∧
    isIdentifier (hkMacro py hk).name = true ∧
    layoutNamed (headerMacros db layouts) (hkMacro py hk).name = some layout ∧
    layout.paramCount = hk.parameters.length ∧
    generateXtce db = some tm ∧ tm.hkContainerAt index = some container ∧
    ∀ set sources, BootSet hk set sources →
      ∃ bound params, S3.bindSizes set layout.bytes (UInt8.ofNat layout.paramCount) =
          some (true, bound) ∧
        bound.params = .boot params ∧ Carries cfg layout.dataLen bound params ∧
        Decodes tm container params

/-- The set whose layout stands under the names of a set: the last one with its name in upper
case. -/
def SRDB.layoutSource (db : SRDB py) (hk : HKSet) : Option (Validated HKSet.validate) :=
  db.hkSets.reverse.find? (fun h => py.upper h.fields.name = py.upper hk.name)

/-- The report with the sizes under the names of the set fits its buffer and one packet. -/
def ReportFits (cfg : Config) (db : SRDB py) (hk : HKSet) : Prop :=
  ∀ source layout, db.layoutSource hk = some source → hkLayout db source.fields = some layout →
    layout.dataLen ≤ S3.reportBufLen cfg ∧ 18 + layout.dataLen ≤ cfg.tmMaxPacketLen

/-- Every integer that the generated header shows in decimal has a decimal form. -/
def Shown (db : SRDB py) : Prop := ∀ value ∈ headerIntegers db, (strInt value).isSome = true

/-- The names of a set lead to the widths of those that its sizes are made of, whichever way
they are looked up. -/
structure NamesAgree (db : SRDB py) (hk source : HKSet) : Prop where
  count : source.parameters.length = hk.parameters.length
  offsets : ∀ row ∈ (hk.parameters.zip source.parameters).dropLast, ∀ first last,
    db.parameterByName row.1 = some first → db.parameterNamed row.2 = some last →
      first.fields.type.bits = last.fields.type.bits
  header : ∀ row ∈ hk.parameters.zip source.parameters,
    ∀ last, db.parameterNamed row.2 = some last →
      ∀ h ∈ headerParameters, h.name = py.upper row.1 →
        ∀ type ∈ headerTypeTable, type.1.toList = h.parameterTypeRef →
          type.2 = last.fields.type.bits
  plain : ∀ row ∈ hk.parameters.zip source.parameters,
    ∀ last, db.parameterNamed row.2 = some last →
      ∀ p ∈ db.parameters, py.upper p.fields.name = py.upper row.1 →
        p.fields.isDescribed = false → p.fields.type.bits = last.fields.type.bits
  described : ∀ row ∈ hk.parameters.zip source.parameters,
    ∀ last, db.parameterNamed row.2 = some last →
      ∀ p, db.describedAs (py.upper row.1) = some p → p.fields.type.bits = last.fields.type.bits

/-! ### Sizes on board -/

/-- The size of a value of the type in a report. -/
def ParameterType.size : ParameterType → S3.ParamSize
  | .uint8 | .int8 => .u8
  | .uint16 | .int16 => .u16
  | .uint32 | .int32 | .float32 => .u32

theorem ParameterType.bits_eq (type : ParameterType) : type.bits = 8 * (type.size.bytes : Int) := by
  cases type <;> rfl

/-- The size that the header gives a name. -/
def SRDB.boardSize (db : SRDB py) (name : Text) : S3.ParamSize :=
  (db.parameterNamed name).elim .u8 (fun p => p.fields.type.size)

/-- The width that the entries give a name. -/
def SRDB.groundBits (db : SRDB py) (name : Text) : Int :=
  (db.parameterByName name).elim 0 (fun p => p.fields.type.bits)

theorem SRDB.boardSize_eq {db : SRDB py} {name : Text}
    {p : Validated (Parameter.validate py)} (found : db.parameterNamed name = some p) :
    db.boardSize name = p.fields.type.size := by
  unfold SRDB.boardSize
  rw [found]
  rfl

theorem SRDB.groundBits_eq {db : SRDB py} {name : Text}
    {p : Validated (Parameter.validate py)} (found : db.parameterByName name = some p) :
    db.groundBits name = p.fields.type.bits := by
  unfold SRDB.groundBits
  rw [found]
  rfl

/-- Every listed name is that of a parameter, found from either end. -/
def Known (db : SRDB py) (names : List Text) : Prop :=
  ∀ name ∈ names, (∃ first, db.parameterByName name = some first) ∧
    ∃ last, db.parameterNamed name = some last

theorem known_of_loaded {db : SRDB py} (loaded : db.Loaded) {hk : Validated HKSet.validate}
    (member : hk ∈ db.hkSets) : Known db hk.fields.parameters := by
  have references := unknownReferences_eq_nil.mp (db.loaded_iff.mp loaded).1
  intro name listed
  obtain ⟨p, inParameters, named⟩ := List.mem_map.mp (references hk member name listed)
  constructor
  · exact Option.isSome_iff_exists.mp
      (List.find?_isSome.mpr ⟨p, inParameters, by simpa using named⟩)
  · exact Option.isSome_iff_exists.mp
      (List.find?_isSome.mpr ⟨p, List.mem_reverse.mpr inParameters, by simpa using named⟩)

/-- The layout of a set whose names are known. -/
def SRDB.layout (db : SRDB py) (hk : HKSet) : HkLayout where
  macroPrefix := "SRDB_HK_".toList ++ py.upper hk.name
  paramCount := hk.parameters.length
  dataLen := (hk.parameters.map (fun name => ((db.boardSize name).bytes : Int))).sum
  sizes := hk.parameters.map (fun name => ((db.boardSize name).bytes : Int))

theorem hkLayout_eq {db : SRDB py} {hk : HKSet} (known : Known db hk.parameters) :
    hkLayout db hk = some (db.layout hk) := by
  have sizes : hk.parameters.mapM
      (fun name => (db.parameterNamed name).map (fun p => paramBits p.fields / 8)) =
        some (hk.parameters.map (fun name => ((db.boardSize name).bytes : Int))) := by
    apply Lib.Tables.mapM_eq_map
    intro name listed
    obtain ⟨_, last, found⟩ := known name listed
    rw [found, Option.map_some, SRDB.boardSize_eq found, paramBits_validated, last.fields.type.bits_eq]
    congr 1
    omega
  unfold hkLayout SRDB.layout
  rw [sizes]
  simp only [Option.bind_eq_bind, Option.bind_some, List.length_map]
  rfl

/-- The variables of a set with the sizes that were bound to them. -/
def boundParams (sources : List S3.Param) (sizes : List S3.ParamSize) : List S3.Param :=
  List.zipWith (fun p size => { p with size }) sources sizes

theorem boundParams_sizes {sources : List S3.Param} {sizes : List S3.ParamSize}
    (lengths : sources.length = sizes.length) :
    (boundParams sources sizes).map (fun p => p.size) = sizes := by
  unfold boundParams
  induction sources generalizing sizes with
  | nil =>
      cases sizes with
      | nil => rfl
      | cons size sizes => cases lengths
  | cons p sources inductionHypothesis =>
      cases sizes with
      | nil => cases lengths
      | cons size sizes =>
          rw [List.zipWith_cons_cons, List.map_cons,
            inductionHypothesis (by simpa using lengths)]

/-- A boot-time set takes the generated sizes of a set with as many parameters. -/
theorem bindSizes_layout (db : SRDB py) {hk source : HKSet} {set : S3.HkSet}
    {sources : List S3.Param} (boot : BootSet hk set sources)
    (count : source.parameters.length = hk.parameters.length) :
    S3.bindSizes set (db.layout source).bytes (UInt8.ofNat (db.layout source).paramCount) =
      some (true, { set with
        params := .boot (boundParams sources (source.parameters.map db.boardSize)) }) := by
  have sameCount : UInt8.ofNat (db.layout source).paramCount = set.paramCount := by
    show UInt8.ofNat source.parameters.length = set.paramCount
    rw [count, ← boot.paramCount, UInt8.ofNat_toNat]
  have bytesLength : (db.layout source).bytes.length = set.paramCount.toNat := by
    unfold HkLayout.bytes SRDB.layout
    rw [List.length_map, List.length_map, boot.paramCount, count]
  have bound : ((db.layout source).bytes.take set.paramCount.toNat).mapM S3.ParamSize.ofByte =
      some (source.parameters.map db.boardSize) := by
    rw [← bytesLength, List.take_length]
    unfold HkLayout.bytes SRDB.layout
    rw [List.map_map, List.mapM_map]
    apply Lib.Tables.mapM_eq_map
    intro name _
    show S3.ParamSize.ofByte (UInt8.ofNat (db.boardSize name).bytes) = _
    cases db.boardSize name <;> rfl
  have noRest : sources.drop set.paramCount.toNat = [] :=
    List.drop_eq_nil_of_le (by rw [boot.perParameter, boot.paramCount])
  unfold S3.bindSizes
  rw [boot.params, sameCount]
  simp only
  rw [if_neg (by simp), if_neg, bound]
  · simp only
    rw [noRest, List.append_nil]
    rfl
  · rw [bytesLength, boot.perParameter, boot.paramCount]
    omega

/-! ### The packet -/

theorem dataLen_eq (db : SRDB py) {hk : HKSet} {params : List S3.Param}
    (sizes : params.map (fun p => p.size) = hk.parameters.map db.boardSize) :
    (db.layout hk).dataLen = ((params.map (fun p => p.size.bytes)).sum : Nat) := by
  have bytes : params.map (fun p => p.size.bytes) =
      hk.parameters.map (fun name => (db.boardSize name).bytes) := by
    have := congrArg (List.map S3.ParamSize.bytes) sizes
    simpa [List.map_map, Function.comp_def] using this
  unfold SRDB.layout
  rw [bytes, Nat.cast_list_sum, List.map_map]
  rfl

/-- A report packet is the 17 header bytes, the set ID and the values. -/
theorem request_packet (s : S3.Ctx) (set : S3.HkSet) {bytes : List UInt8}
    (short : bytes.length ≤ 1020) :
    ∃ header : List UInt8, header.length = 17 ∧
      (S3.request s set bytes).packet = header ++ set.setId :: bytes := by
  refine ⟨Ccsds.spEncodePrimary (S3.request s set bytes).primaryHdr ++
    tmSecondaryHeader (S3.request s set bytes), rfl, ?_⟩
  have whole : (S3.request s set bytes).data.take (S3.request s set bytes).dataLen =
      set.setId :: bytes := by
    apply List.take_of_length_le
    unfold TmRequest.dataLen S3.request
    rw [List.length_cons]
    omega
  unfold TmRequest.packet
  rw [whole]

/-- A report of readable parameters that fits is built, with every value in its place. -/
theorem carries_of_fits {set : S3.HkSet} {params : List S3.Param} {dataLen : Int}
    (selected : set.params = .boot params) (count : set.paramCount.toNat = params.length)
    (total : dataLen = ((params.map (fun p => p.size.bytes)).sum : Nat))
    (fits : dataLen ≤ S3.reportBufLen cfg ∧ 18 + dataLen ≤ cfg.tmMaxPacketLen) :
    Carries cfg dataLen set params := by
  intro vars s tm readable
  have few : params.length ≤ 255 := by
    have := set.paramCount.toNat_lt
    omega
  have setParams : S3.setParams s set = some params := by
    unfold S3.setParams
    rw [selected, count]
    simp
  have length := S3.flatMap_bytes_length vars params
  have short : (params.flatMap vars.bytes).length ≤ 1020 := by
    have := S3.flatMap_bytes_length_le vars params
    omega
  obtain ⟨header, headerLength, packet⟩ := request_packet s set short
  have dataLength : (S3.request s set (params.flatMap vars.bytes)).dataLen =
      1 + (params.flatMap vars.bytes).length := by
    unfold TmRequest.dataLen S3.request
    rw [List.length_cons]
    omega
  refine ⟨S3.request s set (params.flatMap vars.bytes), rfl, rfl, ?_, ?_, ?_, ?_, ?_⟩
  · rw [S3.emitHkReport_eq setParams few readable, if_pos (by omega)]
  · exact put_of_fits tm _ (by rw [dataLength]; omega) (by rw [dataLength]; omega)
  · rw [packet, List.length_append, List.length_cons, headerLength, length, total]
    omega
  · rw [packet, List.getElem?_append_right (by omega), headerLength]
    rfl
  · intro index p place
    have start : (header ++ set.setId :: params.flatMap vars.bytes).drop (paramStart params index) =
        (params.flatMap vars.bytes).drop
          ((params.take index).map (fun p => p.size.bytes)).sum := by
      unfold paramStart
      rw [List.drop_append, headerLength, List.drop_eq_nil_of_le (by omega), List.nil_append,
        show 18 + ((params.take index).map (fun p => p.size.bytes)).sum - 17 =
          ((params.take index).map (fun p => p.size.bytes)).sum + 1 by omega, List.drop_succ_cons]
    rw [packet, start]
    exact S3.bytes_slice vars place

/-! ### The container -/

/-- The entries of known names: one each, at the sum of the widths before it. -/
theorem hkEntries_eq {db : SRDB py} {names : List Text} (known : Known db names) (bit : Int)
    (index : Nat) :
    (hkEntries db bit names)[index]? =
      names[index]?.map (fun name =>
        ⟨py.upper name, bit + ((names.take index).map db.groundBits).sum⟩) := by
  induction names generalizing bit index with
  | nil => rfl
  | cons name rest inductionHypothesis =>
      obtain ⟨⟨p, found⟩, _⟩ := known name List.mem_cons_self
      have named : p.fields.name = name := by simpa using List.find?_some found
      unfold hkEntries
      rw [found]
      simp only
      cases index with
      | zero => simp [named]
      | succ index =>
          rw [List.getElem?_cons_succ, List.getElem?_cons_succ,
            inductionHypothesis (fun other member => known other (List.mem_cons_of_mem _ member)),
            List.take_succ_cons, List.map_cons, List.sum_cons, SRDB.groundBits_eq found,
            paramBits_validated, Int.add_assoc]

theorem hkContainer_entries {db : SRDB py} {hk : HKSet} (known : Known db hk.parameters)
    (index : Nat) :
    (hkContainer db hk).entryList[index]? =
      hk.parameters[index]?.map (fun name =>
        ⟨py.upper name, 144 + ((hk.parameters.take index).map db.groundBits).sum⟩) :=
  hkEntries_eq known 144 index

theorem hkEntries_length {db : SRDB py} {names : List Text} (known : Known db names) (bit : Int) :
    (hkEntries db bit names).length = names.length := by
  apply Nat.le_antisymm
  · rw [← List.getElem?_eq_none_iff, hkEntries_eq known, List.getElem?_eq_none (Nat.le_refl _)]
    rfl
  · rw [← List.getElem?_eq_none_iff]
    have none := hkEntries_eq known bit (hkEntries db bit names).length
    rw [List.getElem?_eq_none (Nat.le_refl _)] at none
    exact Option.map_eq_none_iff.mp none.symm

/-- Two running sums agree at every position exactly when their summands do, except
for the last one. -/
theorem takeSums_eq_iff {α : Type} (f g : α → Int) (items : List α) :
    (∀ index < items.length, ((items.take index).map f).sum = ((items.take index).map g).sum) ↔
      ∀ item ∈ items.dropLast, f item = g item := by
  induction items with
  | nil => simp
  | cons first rest inductionHypothesis =>
      cases rest with
      | nil => simp
      | cons second rest =>
          rw [List.dropLast_cons_cons, List.forall_mem_cons, ← inductionHypothesis]
          constructor
          · intro agree
            have head : f first = g first := by simpa using agree 1 (by simp)
            refine ⟨head, fun index below => ?_⟩
            have next := agree (index + 1) (by simpa using below)
            rw [List.take_succ_cons, List.map_cons, List.map_cons, List.sum_cons, List.sum_cons,
              head] at next
            omega
          · rintro ⟨head, agree⟩ index below
            cases index with
            | zero => rfl
            | succ index =>
                rw [List.take_succ_cons, List.map_cons, List.map_cons, List.sum_cons,
                  List.sum_cons, head, agree index (by simpa using below)]

/-- The reference of a known name has a width exactly when every definition of the name
does. -/
theorem hasWidth_iff {db : SRDB py} {name : Text}
    (known : ∃ last, db.parameterNamed name = some last) (bits : Int) :
    (tmMetadata db).HasWidth (py.upper name) bits ↔
      (∀ h ∈ headerParameters, h.name = py.upper name → ∀ type ∈ headerTypeTable,
        type.1.toList = h.parameterTypeRef → type.2 = bits) ∧
      (∀ p ∈ db.parameters, py.upper p.fields.name = py.upper name →
        p.fields.isDescribed = false → p.fields.type.bits = bits) ∧
      ∀ p, db.describedAs (py.upper name) = some p → p.fields.type.bits = bits := by
  constructor
  · rintro ⟨_, same⟩
    refine ⟨?_, ?_, ?_⟩
    · intro h member named row inTable rowName
      exact same _ ((mem_widths_iff db _ _).mpr (.inl ⟨h, member, named, row, inTable, rowName, rfl⟩))
    · intro p member named plain
      exact same _ ((mem_widths_iff db _ _).mpr (.inr (.inl ⟨p, member, named, plain, rfl⟩)))
    · intro p first
      exact same _ ((mem_widths_iff db _ _).mpr (.inr (.inr ⟨p, first, rfl⟩)))
  · rintro ⟨header, plain, described⟩
    obtain ⟨last, found⟩ := known
    constructor
    · have member : last ∈ db.parameters :=
        List.mem_reverse.mp (List.mem_of_find?_eq_some found)
      have named : last.fields.name = name := by simpa using List.find?_some found
      have defined : ∃ width, width ∈ (tmMetadata db).widths (py.upper name) := by
        cases isDescribed : last.fields.isDescribed with
        | false =>
            exact ⟨_, (mem_widths_iff db _ _).mpr
              (.inr (.inl ⟨last, member, by rw [named], isDescribed, rfl⟩))⟩
        | true =>
            obtain ⟨p, first⟩ : ∃ p, db.describedAs (py.upper name) = some p :=
              Option.isSome_iff_exists.mp (List.find?_isSome.mpr
                ⟨last, member, by simp [isDescribed, named]⟩)
            exact ⟨_, (mem_widths_iff db _ _).mpr (.inr (.inr ⟨p, first, rfl⟩))⟩
      obtain ⟨width, inWidths⟩ := defined
      exact List.ne_nil_of_mem inWidths
    · intro width inWidths
      rcases (mem_widths_iff db _ _).mp inWidths with ⟨h, member, named, row, inTable, rowName, rfl⟩ |
        ⟨p, member, named, isPlain, rfl⟩ | ⟨p, first, rfl⟩
      · exact header h member named row inTable rowName
      · exact plain p member named isPlain
      · exact described p first

/-- The offset of a parameter in the packet, from the names of the set. -/
theorem paramStart_eq {db : SRDB py} {names : List Text} {params : List S3.Param}
    (sizes : params.map (fun p => p.size) = names.map db.boardSize) (index : Nat) :
    8 * (paramStart params index : Int) =
      144 + ((names.take index).map (fun name => 8 * ((db.boardSize name).bytes : Int))).sum := by
  have bytes : (params.take index).map (fun p => p.size.bytes) =
      (names.take index).map (fun name => (db.boardSize name).bytes) := by
    have same := congrArg (fun list => (list.take index).map S3.ParamSize.bytes) sizes
    simpa [List.map_take, List.map_map, Function.comp_def] using same
  have scaled : ((names.take index).map
      (fun name => 8 * ((db.boardSize name).bytes : Int))).sum =
        8 * (((names.take index).map (fun name => (db.boardSize name).bytes)).sum : Nat) := by
    rw [List.sum_map_mul_left, Nat.cast_list_sum, List.map_map]
    rfl
  unfold paramStart
  rw [bytes, scaled]
  omega

theorem boardBits_eq {db : SRDB py} {name : Text} {last : Validated (Parameter.validate py)}
    (found : db.parameterNamed name = some last) :
    8 * ((db.boardSize name).bytes : Int) = last.fields.type.bits := by
  rw [SRDB.boardSize_eq found, last.fields.type.bits_eq]

section Decoding

variable {db : SRDB py} {hk source : HKSet} {params : List S3.Param}

/-- A name of the set with the name at its place in the source of the sizes. -/
theorem zip_place (count : source.parameters.length = hk.parameters.length) {index : Nat}
    {name : Text} (place : hk.parameters[index]? = some name) :
    ∃ sourceName, source.parameters[index]? = some sourceName ∧
      (name, sourceName) ∈ hk.parameters.zip source.parameters := by
  obtain ⟨below, _⟩ := List.getElem?_eq_some_iff.mp place
  have other := List.getElem?_eq_getElem (count ▸ below)
  refine ⟨_, other, List.mem_iff_getElem?.mpr ⟨index, ?_⟩⟩
  rw [List.getElem?_zip_eq_some]
  exact ⟨place, other⟩

/-- The offsets agree when the widths of all names but the last do. -/
theorem offsets_iff (known : Known db hk.parameters) (sourceKnown : Known db source.parameters)
    (count : source.parameters.length = hk.parameters.length)
    (sizes : params.map (fun p => p.size) = source.parameters.map db.boardSize) :
    (∀ index < hk.parameters.length, 144 + ((hk.parameters.take index).map db.groundBits).sum =
      8 * (paramStart params index : Int)) ↔
      ∀ row ∈ (hk.parameters.zip source.parameters).dropLast, ∀ first last,
        db.parameterByName row.1 = some first → db.parameterNamed row.2 = some last →
          first.fields.type.bits = last.fields.type.bits := by
  have rowsLength : (hk.parameters.zip source.parameters).length = hk.parameters.length := by
    rw [List.length_zip, count, Nat.min_self]
  have ground (index : Nat) : (hk.parameters.take index).map db.groundBits =
      ((hk.parameters.zip source.parameters).take index).map (fun row => db.groundBits row.1) := by
    have names := List.map_fst_zip (Nat.le_of_eq count.symm)
    conv_lhs => rw [← names]
    rw [← List.map_take, List.map_map]
    rfl
  have board (index : Nat) :
      (source.parameters.take index).map (fun name => 8 * ((db.boardSize name).bytes : Int)) =
        ((hk.parameters.zip source.parameters).take index).map
          (fun row => 8 * ((db.boardSize row.2).bytes : Int)) := by
    have names := List.map_snd_zip (Nat.le_of_eq count)
    conv_lhs => rw [← names]
    rw [← List.map_take, List.map_map]
    rfl
  simp only [paramStart_eq sizes, Int.add_right_inj, ground, board]
  rw [← rowsLength, takeSums_eq_iff]
  constructor
  · intro same row listed first last isFirst isLast
    rw [← boardBits_eq isLast, ← same row listed, SRDB.groundBits_eq isFirst]
  · intro same row listed
    have both := List.of_mem_zip (List.dropLast_subset _ listed)
    obtain ⟨⟨first, isFirst⟩, _⟩ := known row.1 both.1
    obtain ⟨_, last, isLast⟩ := sourceKnown row.2 both.2
    rw [boardBits_eq isLast, SRDB.groundBits_eq isFirst, same row listed first last isFirst isLast]

/-- The container decodes the sizes of the source exactly when its names agree. -/
theorem decodes_iff (known : Known db hk.parameters) (sourceKnown : Known db source.parameters)
    (count : source.parameters.length = hk.parameters.length)
    (sizes : params.map (fun p => p.size) = source.parameters.map db.boardSize) :
    Decodes (tmMetadata db) (hkContainer db hk) params ↔ NamesAgree db hk source := by
  have lengths : params.length = hk.parameters.length := by
    rw [← count]
    simpa using congrArg List.length sizes
  have offsets := offsets_iff known sourceKnown count sizes
  constructor
  · rintro ⟨_, each⟩
    have entryAt {index : Nat} {name sourceName : Text} (place : hk.parameters[index]? = some name)
        (sourcePlace : source.parameters[index]? = some sourceName) :
        144 + ((hk.parameters.take index).map db.groundBits).sum =
            8 * (paramStart params index : Int) ∧
          (tmMetadata db).HasWidth (py.upper name)
            (8 * ((db.boardSize sourceName).bytes : Int)) := by
      obtain ⟨p, paramPlace, size⟩ := Lib.Tables.getElem?_of_map_eq sizes sourcePlace
      obtain ⟨entry, entryPlace, fixedValue, width⟩ := each index p paramPlace
      rw [hkContainer_entries known, place, Option.map_some] at entryPlace
      rw [← Option.some.inj entryPlace] at fixedValue width
      rw [size] at width
      exact ⟨fixedValue, width⟩
    have widths (row : Text × Text) (listed : row ∈ hk.parameters.zip source.parameters)
        (last : Validated (Parameter.validate py)) (found : db.parameterNamed row.2 = some last) :
        (tmMetadata db).HasWidth (py.upper row.1) last.fields.type.bits := by
      obtain ⟨index, place⟩ := List.mem_iff_getElem?.mp listed
      obtain ⟨own, other⟩ := List.getElem?_zip_eq_some.mp place
      rw [← boardBits_eq found]
      exact (entryAt own other).2
    have parts (row : Text × Text) (listed : row ∈ hk.parameters.zip source.parameters)
        (last : Validated (Parameter.validate py)) (found : db.parameterNamed row.2 = some last) :=
      (hasWidth_iff (known row.1 (List.of_mem_zip listed).1).2 _).mp (widths row listed last found)
    constructor
    · exact count
    · apply offsets.mp
      intro index below
      have place := List.getElem?_eq_getElem below
      obtain ⟨sourceName, sourcePlace, _⟩ := zip_place count place
      exact (entryAt place sourcePlace).1
    · exact fun row listed last found => (parts row listed last found).1
    · exact fun row listed last found => (parts row listed last found).2.1
    · exact fun row listed last found => (parts row listed last found).2.2
  · intro agree
    constructor
    · exact (hkEntries_length known (offAppData + 8)).trans lengths.symm
    · intro index p paramPlace
      obtain ⟨sourceName, sourcePlace, size⟩ := Lib.Tables.getElem?_of_map_eq sizes.symm paramPlace
      have below : index < hk.parameters.length :=
        lengths ▸ (List.getElem?_eq_some_iff.mp paramPlace).1
      have place := List.getElem?_eq_getElem below
      obtain ⟨other, otherPlace, listed⟩ := zip_place count place
      cases sourcePlace.symm.trans otherPlace
      obtain ⟨_, last, found⟩ := sourceKnown sourceName (List.of_mem_zip listed).2
      refine ⟨_, (hkContainer_entries known index).trans (by rw [place]; rfl),
        offsets.mpr agree.offsets index below, ?_⟩
      rw [← size, boardBits_eq found]
      exact (hasWidth_iff (known _ (List.of_mem_zip listed).1).2 _).mpr
        ⟨agree.header _ listed last found, agree.plain _ listed last found,
          agree.described _ listed last found⟩

end Decoding

/-! ### The generated files -/

theorem shown_xtce {db : SRDB py} (shown : Shown db) :
    ∀ value ∈ xtceIntegers db, (strInt value).isSome = true := by
  intro value member
  apply shown
  unfold xtceIntegers at member
  unfold headerIntegers
  rw [List.mem_append] at member ⊢
  rcases member with enumerated | spid
  · obtain ⟨t, inTypes, inEntries⟩ := List.mem_flatMap.mp enumerated
    rcases mem_typesNamed.mp ⟨inTypes, rfl⟩ with ⟨row, _, _, typeEq⟩ | ⟨p, found, typeEq⟩
    · rw [typeEq] at inEntries
      cases inEntries
    · refine .inl (List.mem_flatMap.mpr ⟨p, List.mem_of_find?_eq_some found, ?_⟩)
      rw [typeEq] at inEntries
      unfold missionParamType at inEntries
      split at inEntries
      · exact inEntries
      · split at inEntries <;> cases inEntries
  · obtain ⟨h, inSets, inSpid⟩ := List.mem_flatMap.mp spid
    exact .inr (List.mem_flatMap.mpr ⟨h, inSets, List.mem_cons_of_mem _ inSpid⟩)

theorem generateHeader_eq {db : SRDB py} (loaded : db.Loaded) (shown : Shown db) :
    generateHeader db = some (db.hkSets.map (fun h => db.layout h.fields)) := by
  unfold generateHeader
  rw [if_pos (List.all_eq_true.mpr shown)]
  exact Lib.Tables.mapM_eq_map (fun h member => hkLayout_eq (known_of_loaded loaded member))

theorem shown_of_header {db : SRDB py} {layouts : List HkLayout}
    (generated : generateHeader db = some layouts) : Shown db := by
  unfold generateHeader at generated
  split at generated
  · rename_i shown
    exact List.all_eq_true.mp shown
  · cases generated

theorem generateXtce_eq {db : SRDB py} (shown : Shown db) :
    generateXtce db = some (tmMetadata db) :=
  if_pos (List.all_eq_true.mpr (shown_xtce shown))

theorem hkContainerAt_eq {db : SRDB py} {index : Nat} {hk : Validated HKSet.validate}
    (place : db.hkSets[index]? = some hk) :
    (tmMetadata db).hkContainerAt index = some (hkContainer db hk.fields) := by
  have below : index < db.hkSets.length := (List.getElem?_eq_some_iff.mp place).1
  unfold TelemetryMetaData.hkContainerAt tmMetadata containerSet
  rw [List.append_assoc, List.getElem?_append_right (by simp), List.getElem?_append_left (by simpa)]
  simp [place]

/-- Some boot-time set has the shape that the database gives one. -/
theorem bootSet_exists {hk : Validated HKSet.validate}
    (few : hk.fields.parameters.length ≤ 255) :
    ∃ set sources, BootSet hk.fields set sources := by
  have accepted := hk.accepted
  unfold HKSet.validate at accepted
  rw [List.append_eq_nil_iff, check_eq_nil, decide_eq_true_iff] at accepted
  obtain ⟨⟨atLeast, atMost⟩, _⟩ := accepted
  refine ⟨⟨UInt8.ofNat hk.fields.id.toNat,
    .boot (List.replicate hk.fields.parameters.length ⟨.app 0, .u8⟩),
    UInt8.ofNat hk.fields.parameters.length, 0, 0, false⟩, _, ?_, rfl, ?_, by simp⟩
  · show ((UInt8.ofNat hk.fields.id.toNat).toNat : Int) = _
    rw [UInt8.toNat_ofNat']
    omega
  · show (UInt8.ofNat hk.fields.parameters.length).toNat = _
    rw [UInt8.toNat_ofNat']
    omega

section Agreement

variable {db : SRDB py} {index : Nat} {hk : Validated HKSet.validate}

theorem boundParams_boot {source : HKSet} {sources : List S3.Param} {set : S3.HkSet}
    (boot : BootSet hk.fields set sources)
    (count : source.parameters.length = hk.fields.parameters.length) :
    (boundParams sources (source.parameters.map db.boardSize)).map (fun p => p.size) =
      source.parameters.map db.boardSize :=
  boundParams_sizes (by rw [boot.perParameter, List.length_map, count])

theorem SRDB.layoutSource_isSome (place : db.hkSets[index]? = some hk) :
    ∃ source, db.layoutSource hk.fields = some source ∧ source ∈ db.hkSets := by
  obtain ⟨source, found⟩ : ∃ source, db.layoutSource hk.fields = some source :=
    Option.isSome_iff_exists.mp (List.find?_isSome.mpr
    ⟨hk, List.mem_reverse.mpr (List.mem_of_getElem? place), decide_eq_true rfl⟩)
  exact ⟨source, found, List.mem_reverse.mp (List.mem_of_find?_eq_some found)⟩

/-- Under the names of a set the header has the layout of the last set with them. -/
theorem layoutNamed_eq {source : Validated HKSet.validate}
    (found : db.layoutSource hk.fields = some source) :
    layoutNamed (headerMacros db (db.hkSets.map (fun h => db.layout h.fields)))
      (hkMacro py hk.fields).name = some (db.layout source.fields) := by
  apply layoutNamed_header
  rw [← List.map_reverse, List.find?_map, Option.map_eq_some_iff]
  refine ⟨source, ?_, rfl⟩
  rw [← found]
  unfold SRDB.layoutSource
  congr 1
  funext h
  rw [Bool.eq_iff_iff, decide_eq_true_iff, Function.comp_apply, decide_eq_true_iff]
  exact (List.append_right_injective "SRDB_HK_".toList).eq_iff

theorem LayoutAgrees.shown_names (loaded : db.Loaded) (place : db.hkSets[index]? = some hk)
    (few : hk.fields.parameters.length ≤ 255) (agrees : LayoutAgrees cfg db index hk.fields) :
    Shown db ∧ (py.upper hk.fields.name).all isIdentifierChar = true ∧
      ∃ source, db.layoutSource hk.fields = some source ∧ NamesAgree db hk.fields source.fields := by
  obtain ⟨layouts, layout, tm, container, header, named, layoutIs, count, xtce, containerAt, agree⟩ :=
    agrees
  have known := known_of_loaded loaded (List.mem_of_getElem? place)
  have shown := shown_of_header header
  obtain ⟨source, found, member⟩ := SRDB.layoutSource_isSome place
  rw [generateHeader_eq loaded shown] at header
  cases header
  rw [layoutNamed_eq found] at layoutIs
  cases layoutIs
  rw [generateXtce_eq shown] at xtce
  cases xtce
  rw [hkContainerAt_eq place] at containerAt
  cases containerAt
  obtain ⟨set, sources, boot⟩ := bootSet_exists few
  obtain ⟨bound, params, accepted, boundParamsEq, _, decodes⟩ := agree set sources boot
  rw [bindSizes_layout db boot count] at accepted
  cases accepted
  cases boundParamsEq
  refine ⟨shown, ?_, source, found, (decodes_iff known (known_of_loaded loaded member) count
    (boundParams_boot boot count)).mp decodes⟩
  exact (isIdentifier_append "SRDB_HK_".toList (by decide)).symm.trans named

theorem LayoutAgrees.of_names (loaded : db.Loaded) (place : db.hkSets[index]? = some hk)
    (fits : ReportFits cfg db hk.fields) (shown : Shown db)
    (named : (py.upper hk.fields.name).all isIdentifierChar = true)
    {source : Validated HKSet.validate} (found : db.layoutSource hk.fields = some source)
    (names : NamesAgree db hk.fields source.fields) : LayoutAgrees cfg db index hk.fields := by
  have known := known_of_loaded loaded (List.mem_of_getElem? place)
  have sourceKnown := known_of_loaded loaded
    (List.mem_reverse.mp (List.mem_of_find?_eq_some found))
  refine ⟨_, db.layout source.fields, tmMetadata db, hkContainer db hk.fields,
    generateHeader_eq loaded shown, (isIdentifier_append "SRDB_HK_".toList (by decide)).trans named,
    layoutNamed_eq found, names.count, generateXtce_eq shown, hkContainerAt_eq place, ?_⟩
  intro set sources boot
  have sizes := @boundParams_boot F py db hk source.fields sources set boot names.count
  have lengths := congrArg List.length sizes
  rw [List.length_map, List.length_map, names.count] at lengths
  exact ⟨_, _, bindSizes_layout db boot names.count, rfl,
    carries_of_fits rfl (boot.paramCount.trans lengths.symm) (dataLen_eq db sizes)
      (fits source _ found (hkLayout_eq sourceKnown)),
    (decodes_iff known sourceKnown names.count sizes).mpr names⟩

end Agreement

/-- The layouts of a set agree exactly when its names lead to one width each, its macros have
names that C allows and that no later set has with other sizes, and the integers of the header
can be shown. -/
theorem layoutAgrees_iff (cfg : Config) (db : SRDB py) (loaded : db.Loaded) (index : Nat)
    (hk : Validated HKSet.validate) (place : db.hkSets[index]? = some hk)
    (listed : 1 ≤ hk.fields.parameters.length ∧ hk.fields.parameters.length ≤ 255)
    (fits : ReportFits cfg db hk.fields) :
    LayoutAgrees cfg db index hk.fields ↔
      Shown db ∧ (py.upper hk.fields.name).all isIdentifierChar = true ∧
        ∃ source, db.layoutSource hk.fields = some source ∧
          NamesAgree db hk.fields source.fields := by
  constructor
  · exact LayoutAgrees.shown_names loaded place listed.2
  · rintro ⟨shown, named, source, found, names⟩
    exact LayoutAgrees.of_names loaded place fits shown named found names

/-! ### Two parameters of one name -/

/-- A set of a temperature and a pressure. -/
def climateSet : Validated HKSet.validate :=
  ⟨{ id := 1, name := "climate".toList, description := []
     parameters := ["temp".toList, "pressure".toList], defaultIntervalTicks := 10 }, by decide⟩

/-- Another set of its name. -/
def climateAgain : Validated HKSet.validate :=
  ⟨{ climateSet.fields with id := 2, parameters := ["temp".toList] }, by decide⟩

def climate (parameters : List (Validated (Parameter.validate asciiPython)))
    (hkSets : List (Validated HKSet.validate)) : SRDB asciiPython :=
  ⟨testSpacecraft, parameters, [], hkSets, []⟩

/-- The first of two sets of one name is given the sizes of the second. -/
example : (climate [temperature, pressure] [climateSet, climateAgain]).layoutSource
    climateSet.fields = some climateAgain := rfl

theorem climate_fits (parameters : List (Validated (Parameter.validate asciiPython)))
    (loaded : (climate parameters [climateSet]).Loaded) :
    ReportFits .default (climate parameters [climateSet]) climateSet.fields := by
  intro source layout isSource generated
  have own : climateSet = source := Option.some.inj isSource
  rw [← own, hkLayout_eq (known_of_loaded loaded (List.mem_singleton.mpr rfl))] at generated
  cases generated
  have bytes (name : Text) : ((climate parameters [climateSet]).boardSize name).bytes ≤ 4 := by
    cases (climate parameters [climateSet]).boardSize name <;> decide
  have first := bytes "temp".toList
  have second := bytes "pressure".toList
  have total : ((climate parameters [climateSet]).layout climateSet.fields).dataLen =
      ((climate parameters [climateSet]).boardSize "temp".toList).bytes +
        (((climate parameters [climateSet]).boardSize "pressure".toList).bytes + 0) := rfl
  have buffer : S3.reportBufLen .default = 1023 := rfl
  have limit : Config.default.tmMaxPacketLen = 1024 := rfl
  rw [total, buffer, limit]
  omega

theorem climate_distinct_loaded : (climate [temperature, pressure] [climateSet]).Loaded :=
  (SRDB.loaded_iff _).mpr (by decide)

theorem climate_repeated_loaded :
    (climate [temperature, temperatureAgain, pressureThird] [climateSet]).Loaded :=
  (SRDB.loaded_iff _).mpr (by decide)

theorem layoutAgrees_distinct :
    LayoutAgrees .default (climate [temperature, pressure] [climateSet]) 0 climateSet.fields ↔
      Shown (climate [temperature, pressure] [climateSet]) ∧
        (asciiPython.upper climateSet.fields.name).all isIdentifierChar = true ∧
          ∃ source, (climate [temperature, pressure] [climateSet]).layoutSource climateSet.fields =
              some source ∧
            NamesAgree (climate [temperature, pressure] [climateSet]) climateSet.fields
              source.fields :=
  layoutAgrees_iff .default _ climate_distinct_loaded 0 climateSet rfl (by decide)
    (climate_fits _ climate_distinct_loaded)

/-- The board packs the pressure behind a 16-bit temperature, and the container expects
it behind an 8-bit one. -/
theorem not_layoutAgrees_repeated :
    (climate [temperature, temperatureAgain, pressureThird] [climateSet]).Loaded ∧
      ReportFits .default (climate [temperature, temperatureAgain, pressureThird] [climateSet])
        climateSet.fields ∧
      ¬ LayoutAgrees .default (climate [temperature, temperatureAgain, pressureThird] [climateSet])
        0 climateSet.fields := by
  refine ⟨climate_repeated_loaded, climate_fits _ climate_repeated_loaded, ?_⟩
  intro agrees
  obtain ⟨_, _, source, isSource, names⟩ :=
    agrees.shown_names climate_repeated_loaded rfl (by decide)
  have own : climateSet = source := Option.some.inj isSource
  subst own
  have widths := names.offsets ("temp".toList, "temp".toList) (by decide) temperature
    temperatureAgain rfl rfl
  exact absurd widths (by decide)

end Openobsw.Srdb
