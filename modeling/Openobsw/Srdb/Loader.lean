import Openobsw.Srdb.Model

/-!
Owns loading of the mission database (`loader.py`): the required files, the records
in them, and the checks between records.
-/

namespace Openobsw.Srdb

/-- The documents of a data directory, as far as they are there. A YAML document
arrives as its fields. -/
structure DataDir (F : Type) where
  spacecraft : Option Spacecraft
  parameters : Option (List (Parameter F))
  telecommands : Option (List Telecommand)
  hkSets : Option (List HKSet)
  events : Option (List Event)

/-- What `SRDBLoader.load` raises. -/
inductive LoadError where
  | fileNotFound (name : Text)
  | validation (errors : List ValidationError)
  | srdbValidation (message : Text)
deriving DecidableEq, Repr

variable {F : Type} {py : Python F}

/-- The list of the records of a document, up to the first that is refused. -/
def loadList {α : Type} (validate : α → List ValidationError) (items : List α) :
    Except LoadError (List (Validated validate)) :=
  items.mapM (fun item => (Validated.make validate item).mapError .validation)

/-- `_check_files`: a required file that is not there. -/
def required {α : Type} (name : String) (document : Option α) : Except LoadError α :=
  match document with
  | none => .error (.fileNotFound name.toList)
  | some content => .ok content

/-- The references of the sets that name no parameter, with what is said of each. -/
def unknownReferences (parameters : List (Validated (Parameter.validate py)))
    (hkSets : List (Validated HKSet.validate)) : List Text :=
  hkSets.flatMap fun hk =>
    (hk.fields.parameters.filter
      (fun pname => pname ∉ parameters.map (fun p => p.fields.name))).map
      (fun pname => "HK set ".toList ++ quoted hk.fields.name ++
        " references unknown parameter ".toList ++ quoted pname)

/-- The lines of an error list under its title. -/
def errorText (title : String) (errors : List Text) : Text :=
  title.toList ++ '\n' :: join '\n' (errors.map (fun error => "  - ".toList ++ error))

def telecommandKey (tc : Validated Telecommand.validate) : Int × Int × Int :=
  (tc.fields.apid, tc.fields.service, tc.fields.subservice)

/-- `_validate_cross_references` -/
def validateCrossReferences (db : SRDB py) : Except LoadError Unit :=
  let errors := unknownReferences db.parameters db.hkSets
  if errors = [] then .ok ()
  else .error (.srdbValidation (errorText "SRDB cross-reference errors:" errors))

/-- The entry of an error list for keys that are not distinct. -/
def duplicateError {κ : Type} [DecidableEq κ] (keys : List κ) (message : String) : List Text :=
  if keys.Nodup then [] else [message.toList]

def uniqueIdErrors (db : SRDB py) : List Text :=
  duplicateError (db.parameters.map (fun p => p.fields.id)) "Duplicate parameter IDs detected" ++
  duplicateError (db.events.map (fun e => e.fields.id)) "Duplicate event IDs detected" ++
  duplicateError (db.hkSets.map (fun h => h.fields.id)) "Duplicate HK set IDs detected" ++
  duplicateError (db.telecommands.map telecommandKey)
    "Duplicate telecommand (APID, svc, subsvc) tuples detected"

/-- `_validate_unique_ids` -/
def validateUniqueIds (db : SRDB py) : Except LoadError Unit :=
  let errors := uniqueIdErrors db
  if errors = [] then .ok ()
  else .error (.srdbValidation (errorText "SRDB uniqueness errors:" errors))

/-- The records of the directory, before the checks between them. -/
def loadRecords (py : Python F) (dir : DataDir F) : Except LoadError (SRDB py) := do
  let spacecraft ← required "spacecraft.yaml" dir.spacecraft
  let parameters ← required "parameters.yaml" dir.parameters
  let telecommands ← required "telecommands.yaml" dir.telecommands
  let hkSets ← required "hk_sets.yaml" dir.hkSets
  let events ← required "events.yaml" dir.events
  let spacecraft ← (Validated.make Spacecraft.validate spacecraft).mapError .validation
  let parameters ← loadList (Parameter.validate py) parameters
  let telecommands ← loadList Telecommand.validate telecommands
  let hkSets ← loadList HKSet.validate hkSets
  let events ← loadList Event.validate events
  return ⟨spacecraft, parameters, telecommands, hkSets, events⟩

/-- `SRDBLoader.load` -/
def load (py : Python F) (dir : DataDir F) : Except LoadError (SRDB py) := do
  let db ← loadRecords py dir
  validateCrossReferences db
  validateUniqueIds db
  return db

/-- The database is one that `SRDBLoader.load` returns. -/
def SRDB.Loaded (db : SRDB py) : Prop := ∃ dir : DataDir F, load py dir = .ok db

/-! ### What loading accepts -/

theorem loadList_fields {α : Type} {validate : α → List ValidationError}
    (records : List (Validated validate)) :
    loadList validate (records.map (fun record => record.fields)) = .ok records := by
  unfold loadList
  induction records with
  | nil => rfl
  | cons record rest inductionHypothesis =>
      rw [List.map_cons, List.mapM_cons, inductionHypothesis, Validated.make_fields]
      rfl

/-- The database as the documents of a directory. -/
def SRDB.documents (db : SRDB py) : DataDir F where
  spacecraft := some db.spacecraft.fields
  parameters := some (db.parameters.map (fun p => p.fields))
  telecommands := some (db.telecommands.map (fun tc => tc.fields))
  hkSets := some (db.hkSets.map (fun h => h.fields))
  events := some (db.events.map (fun e => e.fields))

theorem ok_bind {ε α β : Type} (a : α) (f : α → Except ε β) : (Except.ok a >>= f) = f a := rfl

theorem loadRecords_documents (db : SRDB py) : loadRecords py db.documents = .ok db := by
  unfold loadRecords SRDB.documents
  simp only [required, ok_bind, Validated.make_fields, Except.mapError, loadList_fields]
  rfl

theorem unknownReferences_eq_nil {parameters : List (Validated (Parameter.validate py))}
    {hkSets : List (Validated HKSet.validate)} :
    unknownReferences parameters hkSets = [] ↔
      ∀ hk ∈ hkSets, ∀ pname ∈ hk.fields.parameters,
        pname ∈ parameters.map (fun p => p.fields.name) := by
  simp [unknownReferences]

theorem duplicateError_eq_nil {κ : Type} [DecidableEq κ] {keys : List κ} {message : String} :
    duplicateError keys message = [] ↔ keys.Nodup := by
  unfold duplicateError
  split <;> simp_all

/-- Loading accepts a database when its references are known and its keys distinct. -/
theorem SRDB.loaded_iff (db : SRDB py) :
    db.Loaded ↔ unknownReferences db.parameters db.hkSets = [] ∧ uniqueIdErrors db = [] := by
  constructor
  · rintro ⟨dir, loaded⟩
    unfold load at loaded
    cases read : loadRecords py dir with
    | error failure =>
        rw [read] at loaded
        cases loaded
    | ok records =>
        rw [read, ok_bind] at loaded
        unfold validateCrossReferences validateUniqueIds at loaded
        by_cases references : unknownReferences records.parameters records.hkSets = []
        · by_cases unique : uniqueIdErrors records = []
          · rw [if_pos references, if_pos unique] at loaded
            cases loaded
            exact ⟨references, unique⟩
          · rw [if_pos references, if_neg unique] at loaded
            cases loaded
        · rw [if_neg references] at loaded
          cases loaded
  · rintro ⟨references, unique⟩
    refine ⟨db.documents, ?_⟩
    unfold load validateCrossReferences validateUniqueIds
    rw [loadRecords_documents, ok_bind, if_pos references, if_pos unique]
    rfl

/-! ### Records of a small database -/

def testSpacecraft : Validated Spacecraft.validate :=
  ⟨{ name := "sat".toList, scid := 1, apidDefault := 0x103 }, by decide⟩

/-- A parameter with nothing but its ID, name and type. -/
def bareParameter (id : Int) (name : String) (type : ParameterType) : Parameter Bool :=
  { id, name := name.toList, description := [], type, ptc := type.ptcPfc.1, pfc := type.ptcPfc.2 }

def temperature : Validated (Parameter.validate asciiPython) :=
  ⟨bareParameter 1 "temp" .uint8, by decide⟩

def pressure : Validated (Parameter.validate asciiPython) :=
  ⟨bareParameter 2 "pressure" .uint16, by decide⟩

/-- A second parameter under the name of the first. -/
def temperatureAgain : Validated (Parameter.validate asciiPython) :=
  ⟨bareParameter 2 "temp" .uint16, by decide⟩

def pressureThird : Validated (Parameter.validate asciiPython) :=
  ⟨bareParameter 3 "pressure" .uint16, by decide⟩

end Openobsw.Srdb
