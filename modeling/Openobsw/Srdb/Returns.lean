import Openobsw.Srdb.Cells

/-!
Owns, for each kind of record, what it has to hold to come back from its row of a table:
texts that fit a cell, integers with a decimal form, and names that the separators of a
cell do not break.
-/

namespace Openobsw.Srdb

open Openobsw.Lib.Csv

variable {F : Type} {py : Python F}

/-- The text fits a cell that can be read. -/
def Fits (text : Text) : Prop := text.length ≤ fieldSizeLimit

/-- The integer has a decimal form. -/
def HasDecimal (value : Int) : Prop := (strInt value).isSome = true

theorem fits_of_le {text : Text} {bound : Nat} (short : text.length ≤ bound)
    (small : bound ≤ 131072) : Fits text := Nat.le_trans short small

theorem made_fields {α : Type} {validate : α → List ValidationError} (a : Validated validate) :
    made validate a.fields = some a := by
  unfold made
  rw [Validated.make_fields]
  rfl

theorem fields_of_made {α : Type} {validate : α → List ValidationError} {fields : α}
    {a : Validated validate} (constructed : made validate fields = some a) : a.fields = fields := by
  unfold made at constructed
  cases result : Validated.make validate fields with
  | error errors =>
      rw [result] at constructed
      cases constructed
  | ok record =>
      rw [result] at constructed
      cases constructed
      exact Validated.fields_of_make result

/-- A bind that succeeds does so on a result of its first part. -/
theorem bind_eq_some {α β : Type} {first : Option α} {next : α → Option β} {result : β} :
    (first >>= next) = some result ↔ ∃ a, first = some a ∧ next a = some result :=
  Option.bind_eq_some_iff

/-! ### Housekeeping sets -/

/-- What a housekeeping set has to hold to come back. -/
structure HKSet.Survives (h : HKSet) : Prop where
  name : Fits h.name
  description : Fits h.description
  listed : h.parameters ≠ []
  separable : ∀ name ∈ h.parameters, ';' ∉ name
  parameters : joinedLength (h.parameters.map List.length) ≤ fieldSizeLimit
  interval : HasDecimal h.defaultIntervalTicks
  spid : ∀ spid, h.spid = some spid → HasDecimal spid

theorem hkSetHeader_nodup : hkSetHeader.Nodup := by decide

/-- What the decoder makes of a row of six cells. -/
theorem importHkSet_row (id name description parameters interval spid : Text) :
    importHkSet py (dictRow hkSetHeader [id, name, description, parameters, interval, spid]) = (do
      let id ← py.int 10 id
      let interval ← py.int 10 interval
      let spid ← parseOptionalInt py spid
      made HKSet.validate ⟨id, name, description, split ';' parameters, interval, spid⟩) := by
  have cells := @text_dictRow hkSetHeader [id, name, description, parameters, interval, spid]
    hkSetHeader_nodup
  have spidCell := @item_dictRow hkSetHeader [id, name, description, parameters, interval, spid]
    hkSetHeader_nodup 5 "spid" rfl
  unfold importHkSet
  rw [spidCell, @cells 0 "id" rfl, @cells 1 "name" rfl, @cells 2 "description" rfl,
    @cells 3 "parameters" rfl, @cells 4 "default_interval_ticks" rfl]
  rfl

/-- A text that `str` wrote for an integer is not blank. -/
theorem isVisible_strInt {value : Int} {text : Text} (written : strInt value = some text) :
    py.isVisible text = true := by
  obtain ⟨c, member, digit⟩ := strInt_hasDigit written
  exact List.any_eq_true.mpr ⟨c, member, by simp [py.isSpace_digit c digit]⟩

/-- An optional integer comes back from the cell it was written to. -/
theorem spid_returns {spid : Option Int} {cell : Text}
    (written : spid.elim (some []) strInt = some cell) :
    parseOptionalInt py cell = some spid := by
  unfold parseOptionalInt
  cases spid with
  | none =>
      cases written
      rfl
  | some value =>
      rw [if_pos (isVisible_strInt written), int_strInt py written]
      rfl

theorem hkSet_returns_iff (h : Validated HKSet.validate) :
    Returns hkSetHeader (fun h => exportHkSet h.fields) (importHkSet py) Eq h ↔
      h.fields.Survives := by
  constructor
  · rintro ⟨row, exported, short, b, imported, rfl⟩
    obtain ⟨id, idEq, exported⟩ := bind_eq_some.mp exported
    obtain ⟨interval, intervalEq, exported⟩ := bind_eq_some.mp exported
    obtain ⟨spid, spidEq, exported⟩ := bind_eq_some.mp exported
    cases exported
    rw [importHkSet_row, int_strInt py idEq, int_strInt py intervalEq, spid_returns spidEq]
      at imported
    have parameters : h.fields.parameters = split ';' (join ';' h.fields.parameters) :=
      congrArg HKSet.parameters (fields_of_made imported)
    simp only [List.forall_mem_cons] at short
    refine ⟨short.2.1, short.2.2.1, ?_, ?_, ?_, ?_, ?_⟩
    · rw [parameters]
      exact List.splitOn_ne_nil ';' _
    · rw [parameters]
      exact fun name member => not_mem_of_mem_split member
    · rw [← join_length ';']
      exact short.2.2.2.1
    · exact Option.isSome_iff_exists.mpr ⟨interval, intervalEq⟩
    · intro value present
      rw [present] at spidEq
      exact Option.isSome_iff_exists.mpr ⟨spid, spidEq⟩
  · intro survives
    have accepted := h.accepted
    unfold HKSet.validate at accepted
    rw [List.append_eq_nil_iff, check_eq_nil, decide_eq_true_iff] at accepted
    obtain ⟨id, idEq⟩ := @strInt_isSome_of_small h.fields.id (by omega) (by omega)
    obtain ⟨interval, intervalEq⟩ := Option.isSome_iff_exists.mp survives.interval
    obtain ⟨spid, spidEq, spidShort⟩ : ∃ spid, h.fields.spid.elim (some []) strInt = some spid ∧
        spid.length ≤ 4301 := by
      cases present : h.fields.spid with
      | none => exact ⟨[], rfl, Nat.zero_le _⟩
      | some value =>
          obtain ⟨spid, spidEq⟩ := Option.isSome_iff_exists.mp (survives.spid value present)
          exact ⟨spid, spidEq, strInt_length spidEq⟩
    refine ⟨[id, h.fields.name, h.fields.description, join ';' h.fields.parameters, interval, spid],
      ?_, ?_, h, ?_, rfl⟩
    · show exportHkSet h.fields = _
      unfold exportHkSet
      rw [idEq, intervalEq, spidEq]
      rfl
    · simp only [List.forall_mem_cons]
      exact ⟨fits_of_le (strInt_length idEq) (by decide), survives.name, survives.description,
        by rw [join_length]; exact survives.parameters,
        fits_of_le (strInt_length intervalEq) (by decide), fits_of_le spidShort (by decide), by simp⟩
    · rw [importHkSet_row, int_strInt py idEq, int_strInt py intervalEq, spid_returns spidEq,
        split_join survives.listed survives.separable]
      exact made_fields h

/-! ### Events -/

/-- The separators of a cell do not break the text. -/
def Separable (text : Text) : Prop := ';' ∉ text ∧ ':' ∉ text

/-- What a field of auxiliary data has to hold to come back. -/
structure EventAuxData.Survives (a : EventAuxData) : Prop where
  name : Separable a.name
  description : a.description = none

/-- What an event has to hold to come back. -/
structure Event.Survives (e : Event) : Prop where
  name : Fits e.name
  description : Fits e.description
  auxiliaryData : ∀ a ∈ e.auxiliaryData, a.Survives
  short : joinedLength (e.auxiliaryData.map (fun a => a.name.length + 1 + a.type.value.length)) ≤
    fieldSizeLimit

theorem eventHeader_nodup : eventHeader.Nodup := by decide

/-- What the decoder makes of a row of six cells. -/
theorem importEvent_row (id name severity description safeTrigger auxiliaryData : Text) :
    importEvent py (dictRow eventHeader
        [id, name, severity, description, safeTrigger, auxiliaryData]) = (do
      let auxiliaryData ← parseItems parseAuxiliary (some auxiliaryData)
      let id ← py.int 16 id
      let severity ← Severity.ofText severity
      made Event.validate {
        id, name, severity, description, auxiliaryData
        safeTrigger := py.lower safeTrigger = "true".toList }) := by
  have cells := @text_dictRow eventHeader
    [id, name, severity, description, safeTrigger, auxiliaryData] eventHeader_nodup
  have auxiliaryCell := @item_dictRow eventHeader
    [id, name, severity, description, safeTrigger, auxiliaryData] eventHeader_nodup
    5 "auxiliary_data" rfl
  unfold importEvent
  rw [auxiliaryCell, @cells 0 "id_hex" rfl, @cells 1 "name" rfl, @cells 2 "severity" rfl,
    @cells 3 "description" rfl, @cells 4 "safe_trigger" rfl]
  rfl

/-- A truth value comes back from the cell it was written to. -/
theorem lower_boolText (value : Bool) :
    decide (py.lower (boolText value) = "true".toList) = value := by
  rw [py.lower_ascii (boolText value) (by cases value <;> rfl)]
  cases value <;> rfl

/-- Auxiliary data comes back from its cell exactly when each field does. -/
theorem auxiliary_returns_iff (auxiliaryData : List EventAuxData) :
    parseItems parseAuxiliary (some (join ';' (auxiliaryData.map auxiliaryText))) =
      some auxiliaryData ↔ ∀ a ∈ auxiliaryData, a.Survives := by
  apply parseItems_join_iff
  · intro a empty
    have : (auxiliaryText a).length = 0 := by rw [empty]; rfl
    simp [auxiliaryText] at this
  · intro item a without parsed
    obtain ⟨⟨name, typeText⟩, pair, parsed⟩ := bind_eq_some.mp parsed
    obtain ⟨type, _, parsed⟩ := bind_eq_some.mp parsed
    cases parsed
    obtain ⟨rfl, withoutName, _⟩ := splitPair_iff.mp pair
    exact ⟨⟨fun member => without (List.mem_append_left _ member), withoutName⟩, rfl⟩
  · rintro ⟨name, type, description⟩ ⟨⟨withoutItem, withoutPair⟩, rfl⟩
    have typeText := type.value_without
    constructor
    · unfold parseAuxiliary auxiliaryText
      rw [splitPair_iff.mpr ⟨rfl, withoutPair, typeText.2.1⟩]
      show (ParameterType.ofText type.value >>= _) = _
      rw [ParameterType.ofText_iff.mpr rfl]
      rfl
    · simp [auxiliaryText, withoutItem, typeText.1]

theorem auxiliaryText_length (a : EventAuxData) :
    (auxiliaryText a).length = a.name.length + 1 + a.type.value.length := by
  unfold auxiliaryText
  rw [List.length_append, List.length_cons]
  omega

theorem event_returns_iff (e : Validated Event.validate) :
    Returns eventHeader (fun e => exportEvent e.fields) (importEvent py) Eq e ↔
      e.fields.Survives := by
  have accepted := e.accepted
  unfold Event.validate idInRange at accepted
  rw [firstErrors_eq_nil, List.forall_mem_cons, check_eq_nil, decide_eq_true_iff] at accepted
  have auxiliaryLength : (join ';' (e.fields.auxiliaryData.map auxiliaryText)).length =
      joinedLength (e.fields.auxiliaryData.map
        (fun a => a.name.length + 1 + a.type.value.length)) := by
    rw [join_length, List.map_map]
    exact congrArg joinedLength (List.map_congr_left fun a _ => auxiliaryText_length a)
  constructor
  · rintro ⟨row, exported, short, b, imported, rfl⟩
    cases exported
    rw [importEvent_row, int_hexText py 4 accepted.1.1, Severity.ofText_value] at imported
    obtain ⟨auxiliaryData, auxiliaryEq, imported⟩ := bind_eq_some.mp imported
    have same : e.fields.auxiliaryData = auxiliaryData :=
      congrArg Event.auxiliaryData (fields_of_made imported)
    simp only [List.forall_mem_cons] at short
    refine ⟨short.2.1, short.2.2.2.1, (auxiliary_returns_iff _).mp (same ▸ auxiliaryEq), ?_⟩
    rw [← auxiliaryLength]
    exact short.2.2.2.2.2.1
  · intro survives
    refine ⟨_, rfl, ?_, e, ?_, rfl⟩
    · simp only [List.forall_mem_cons]
      exact ⟨Nat.le_trans (hexText_length (by decide) accepted.1.1 accepted.1.2) (by decide),
        survives.name, by cases e.fields.severity <;> decide, survives.description,
        by cases e.fields.safeTrigger <;> decide,
        by rw [auxiliaryLength]; exact survives.short, by simp⟩
    · rw [importEvent_row, (auxiliary_returns_iff _).mpr survives.auxiliaryData,
        int_hexText py 4 accepted.1.1, Severity.ofText_value]
      show made Event.validate { e.fields with safeTrigger := decide _ } = _
      rw [lower_boolText]
      exact made_fields e

/-! ### Telecommands -/

/-- What an argument has to hold to come back. -/
structure TCParameter.Survives (p : TCParameter) : Prop where
  name : Separable p.name
  description : p.description = none
  countFrom : ∀ countFrom, p.countFrom = some countFrom → countFrom ≠ [] ∧ Separable countFrom

/-- The length of an argument in its cell. -/
def TCParameter.written (p : TCParameter) : Nat :=
  p.name.length + 1 + p.type.value.length + p.countFrom.elim 0 (fun count => count.length + 1)

/-- What a telecommand has to hold to come back. -/
structure Telecommand.Survives (tc : Telecommand) : Prop where
  name : Fits tc.name
  description : Fits tc.description
  parameters : ∀ p ∈ tc.parameters, p.Survives
  short : joinedLength (tc.parameters.map TCParameter.written) ≤ fieldSizeLimit

theorem telecommandHeader_nodup : telecommandHeader.Nodup := by decide

/-- What the decoder makes of a row of seven cells. -/
theorem importTelecommand_row
    (name description apid service subservice parameters safeAllowed : Text) :
    importTelecommand py (dictRow telecommandHeader
        [name, description, apid, service, subservice, parameters, safeAllowed]) = (do
      let parameters ← parseItems parseArgument (some parameters)
      let apid ← py.int 16 apid
      let service ← py.int 10 service
      let subservice ← py.int 10 subservice
      made Telecommand.validate {
        name, description, apid, service, subservice, parameters
        safeAllowed := py.lower safeAllowed = "true".toList }) := by
  have cells := @text_dictRow telecommandHeader
    [name, description, apid, service, subservice, parameters, safeAllowed] telecommandHeader_nodup
  have items := @item_dictRow telecommandHeader
    [name, description, apid, service, subservice, parameters, safeAllowed] telecommandHeader_nodup
  unfold importTelecommand
  rw [@items 5 "parameters" rfl, @items 6 "safe_allowed" rfl, @cells 0 "name" rfl,
    @cells 1 "description" rfl, @cells 2 "apid_hex" rfl, @cells 3 "service" rfl,
    @cells 4 "subservice" rfl]
  rfl

theorem argumentText_eq {p : TCParameter} (counted : p.countFrom ≠ some []) :
    argumentText p = p.name ++ ':' :: (p.type.value ++ p.countFrom.elim [] (fun c => '*' :: c)) := by
  obtain ⟨name, type, description, countFrom⟩ := p
  rcases countFrom with _ | _ | ⟨c, rest⟩
  · simp [argumentText]
  · exact absurd rfl counted
  · simp [argumentText]

theorem argumentText_length {p : TCParameter} (counted : p.countFrom ≠ some []) :
    (argumentText p).length = p.written := by
  rw [argumentText_eq counted]
  unfold TCParameter.written
  cases p.countFrom <;> simp <;> omega

theorem orNone_eq_some {value : Option Text} {text : Text} :
    orNone value = some text ↔ value = some text ∧ text ≠ [] := by
  rcases value with _ | _ | ⟨c, rest⟩
  · simp [orNone, isFilled]
  · simp [orNone, isFilled]
  · simp only [orNone, isFilled, if_true, Option.some.injEq]
    constructor
    · rintro rfl
      exact ⟨rfl, by simp⟩
    · exact And.left

/-- The argument of an item whose two halves are known. -/
theorem parseArgument_pair {item name typeText : Text} {type : ParameterType} {behind : Option Text}
    (pair : splitPair item = some (name, typeText))
    (parted : partition '*' typeText = (type.value, behind)) :
    parseArgument item = some { name, type, countFrom := orNone behind } := by
  unfold parseArgument
  rw [pair]
  show (ParameterType.ofText (partition '*' typeText).1 >>= _) = _
  rw [parted, ParameterType.ofText_iff.mpr rfl]
  rfl

/-- The arguments come back from their cell exactly when each does. -/
theorem arguments_return_iff (parameters : List TCParameter) :
    parseItems parseArgument (some (join ';' (parameters.map argumentText))) = some parameters ↔
      ∀ p ∈ parameters, p.Survives := by
  apply parseItems_join_iff
  · intro p empty
    have : (argumentText p).length = 0 := by rw [empty]; rfl
    simp [argumentText] at this
  · intro item p without parsed
    obtain ⟨⟨name, typeText⟩, pair, parsed⟩ := bind_eq_some.mp parsed
    obtain ⟨type, _, parsed⟩ := bind_eq_some.mp parsed
    cases parsed
    obtain ⟨rfl, withoutName, withoutType⟩ := splitPair_iff.mp pair
    simp only [List.mem_append, List.mem_cons, not_or] at without
    refine ⟨⟨without.1, withoutName⟩, rfl, ?_⟩
    intro countFrom counted
    obtain ⟨behind, filled⟩ := orNone_eq_some.mp counted
    have whole := eq_of_partition behind
    rw [whole] at without withoutType
    simp only [List.mem_append, List.mem_cons, not_or] at without withoutType
    exact ⟨filled, without.2.2.2.2, withoutType.2.2⟩
  · rintro ⟨name, type, description, countFrom⟩ ⟨⟨withoutItem, withoutPair⟩, rfl, counted⟩
    have present : countFrom ≠ some [] := fun empty => (counted [] empty).1 rfl
    have typeText := type.value_without
    have countText : ∀ c ∈ countFrom.elim [] (fun count => '*' :: count), c ≠ ';' ∧ c ≠ ':' := by
      cases countFrom with
      | none => simp
      | some count =>
          obtain ⟨_, withoutSemicolon, withoutColon⟩ := counted count rfl
          intro c member
          rcases List.mem_cons.mp member with rfl | member
          · decide
          · exact ⟨fun same => withoutSemicolon (same ▸ member), fun same => withoutColon (same ▸ member)⟩
    rw [argumentText_eq present]
    constructor
    · have withoutColon : ':' ∉ type.value ++ countFrom.elim [] (fun count => '*' :: count) := by
        intro member
        rcases List.mem_append.mp member with inType | inCount
        · exact typeText.2.1 inType
        · exact (countText ':' inCount).2 rfl
      have pair := splitPair_iff.mpr ⟨rfl, withoutPair, withoutColon⟩
      cases countFrom with
      | none =>
          refine @parseArgument_pair _ _ _ type none pair ?_
          rw [Option.elim_none, List.append_nil]
          exact partition_without typeText.2.2
      | some count =>
          obtain ⟨c, rest, rfl⟩ := List.exists_cons_of_ne_nil (counted count rfl).1
          exact parseArgument_pair pair (partition_append typeText.2.2 (c :: rest))
    · intro member
      simp only [List.mem_append, List.mem_cons] at member
      rcases member with inName | colon | inType | inCount
      · exact withoutItem inName
      · exact absurd colon (by decide)
      · exact typeText.1 inType
      · exact (countText ';' inCount).1 rfl

theorem telecommand_returns_iff (tc : Validated Telecommand.validate) :
    Returns telecommandHeader (fun tc => exportTelecommand tc.fields) (importTelecommand py) Eq tc ↔
      tc.fields.Survives := by
  have accepted := tc.accepted
  unfold Telecommand.validate apidInRange svcInRange at accepted
  rw [firstErrors_eq_nil, List.forall_mem_cons, List.append_eq_nil_iff, List.append_eq_nil_iff,
    check_eq_nil, check_eq_nil, check_eq_nil, decide_eq_true_iff, decide_eq_true_iff,
    decide_eq_true_iff] at accepted
  obtain ⟨⟨⟨apidRange, serviceRange⟩, subserviceRange⟩, _⟩ := accepted
  obtain ⟨service, serviceEq⟩ := @strInt_isSome_of_small tc.fields.service (by omega) (by omega)
  obtain ⟨subservice, subserviceEq⟩ :=
    @strInt_isSome_of_small tc.fields.subservice (by omega) (by omega)
  have exported : exportTelecommand tc.fields = some [tc.fields.name, tc.fields.description,
      hexText 3 tc.fields.apid, service, subservice,
      join ';' (tc.fields.parameters.map argumentText), boolText tc.fields.safeAllowed] := by
    unfold exportTelecommand
    rw [serviceEq, subserviceEq]
    rfl
  have argumentsLength (each : ∀ p ∈ tc.fields.parameters, p.Survives) :
      (join ';' (tc.fields.parameters.map argumentText)).length =
        joinedLength (tc.fields.parameters.map TCParameter.written) := by
    rw [join_length, List.map_map]
    refine congrArg joinedLength (List.map_congr_left fun p member => argumentText_length ?_)
    exact fun empty => ((each p member).countFrom [] empty).1 rfl
  constructor
  · rintro ⟨row, written, short, b, imported, rfl⟩
    cases exported.symm.trans written
    rw [importTelecommand_row, int_hexText py 3 apidRange.1, int_strInt py serviceEq,
      int_strInt py subserviceEq] at imported
    obtain ⟨parameters, parametersEq, imported⟩ := bind_eq_some.mp imported
    have same : tc.fields.parameters = parameters :=
      congrArg Telecommand.parameters (fields_of_made imported)
    rw [← same] at parametersEq
    have each := (arguments_return_iff _).mp parametersEq
    simp only [List.forall_mem_cons] at short
    refine ⟨short.1, short.2.1, each, ?_⟩
    rw [← argumentsLength each]
    exact short.2.2.2.2.2.1
  · intro survives
    refine ⟨_, exported, ?_, tc, ?_, rfl⟩
    · simp only [List.forall_mem_cons]
      exact ⟨survives.name, survives.description,
        Nat.le_trans (hexText_length (by decide) apidRange.1 (by omega)) (by decide),
        fits_of_le (strInt_length serviceEq) (by decide),
        fits_of_le (strInt_length subserviceEq) (by decide),
        by rw [argumentsLength survives.parameters]; exact survives.short,
        by cases tc.fields.safeAllowed <;> decide, by simp⟩
    · rw [importTelecommand_row, (arguments_return_iff _).mpr survives.parameters,
        int_hexText py 3 apidRange.1, int_strInt py serviceEq, int_strInt py subserviceEq]
      show made Telecommand.validate { tc.fields with safeAllowed := decide _ } = _
      rw [lower_boolText]
      exact made_fields tc

end Openobsw.Srdb
