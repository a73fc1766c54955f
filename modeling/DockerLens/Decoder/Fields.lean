import DockerLens.Acquisition.Requests
import DockerLens.Fold
import DockerLens.Json.Value

namespace DockerLens.Decoder

open DockerLens.Text
open DockerLens.Json
open DockerLens.Observation
open DockerLens.Acquisition
open DockerLens.Version
open DockerLens.Fold

/-- The reasons to refuse a capture. -/
inductive DecodeError
  | responseTooLarge
  | invalidJson
  | invalidShape (field : FieldPath)
  | invalidValue (field : FieldPath)
  | unexpectedStatus
  | missingApiVersion
  | apiVersionOutOfRange
  | conflictingFacts
  | duplicateResource
  | incompleteInventory
  | collectionTooLarge
  deriving DecidableEq, Repr

/-- The errors of a single field. -/
def IsFieldError : DecodeError → Prop
  | .invalidShape _ | .invalidValue _ | .collectionTooLarge => True
  | _ => False

/-- The explicit redaction envelope. -/
def isRedacted (value : Value) : Bool :=
  match value with
  | .object members =>
      members.length == 1 &&
        match members.lookup "__docker_lens_redacted__" with
        | some (.bool true) => true
        | _ => false
  | _ => false

/-- The value at a path, where nothing may stand in the way but null. -/
def fieldValue (root : Value) (path : List String) (field : FieldPath) :
    Except DecodeError (Option Value) :=
  match path with
  | [] => .ok (some root)
  | component :: path =>
      if root.isNull || isRedacted root then .ok (some root)
      else
        match root.asObject with
        | none => .error (.invalidShape field)
        | some members =>
            match members.lookup component with
            | none => .ok none
            | some value => fieldValue value path field

/-- An empty string, array or object, or anything else that is there. -/
def presence (value : Value) : Availability :=
  match value with
  | .string text => if text = "" then .empty else .present
  | .array [] => .empty
  | .object [] => .empty
  | _ => .present

section
variable {α : Type}

/-- The observation of a value that `field_value` found, if it found one. -/
def observeValue (origin : Origin) (parse : Value → Except DecodeError α) :
    Option Value → Except DecodeError (Observed α)
  | none => .ok (.unavailable .missing origin)
  | some value =>
      if value.isNull then .ok (.unavailable .null origin)
      else if isRedacted value then .ok (.unavailable .redacted origin)
      else (parse value).map fun parsed => .present parsed (presence value) origin

/-- `observed`, with what reads a value that is there. -/
def observed (root : Value) (path : List String) (field : FieldPath) (origin : Origin)
    (parse : Value → Except DecodeError α) : Except DecodeError (Observed α) := do
  let found ← fieldValue root path field
  observeValue origin parse found

end

/-- A value of the expected shape. -/
def shaped {α : Type} (field : FieldPath) : Option α → Except DecodeError α
  | none => .error (.invalidShape field)
  | some value => .ok value

theorem shaped_eq_ok_iff {α : Type} {field : FieldPath} {found : Option α} {value : α} :
    shaped field found = .ok value ↔ found = some value := by
  cases found <;> simp [shaped]

def string (value : Value) (field : FieldPath) : Except DecodeError ProtectedValue :=
  shaped field (value.asStr.map asBytes)

def stringField (root : Value) (path : List String) (field : FieldPath) (origin : Origin) :
    Except DecodeError (Observed ProtectedValue) :=
  observed root path field origin fun value => string value field

/-- A truth value at a path. -/
def boolField (root : Value) (path : List String) (field : FieldPath) (origin : Origin) :
    Except DecodeError (Observed Bool) :=
  observed root path field origin fun value => shaped field value.asBool

/-- An unsigned number at a path. -/
def unsignedField (root : Value) (path : List String) (field : FieldPath) (origin : Origin) :
    Except DecodeError (Observed Nat) :=
  observed root path field origin fun value => shaped field value.asU64

/-- A signed number at a path. -/
def signedField (root : Value) (path : List String) (field : FieldPath) (origin : Origin) :
    Except DecodeError (Observed Int) :=
  observed root path field origin fun value => shaped field value.asI64

def array (value : Value) (field : FieldPath) : Except DecodeError (List Value) := do
  let values ← shaped field value.asArray
  if values.length > maxCollectionItems then .error .collectionTooLarge else .ok values

/-- An object with a bounded number of members. -/
def object (value : Value) (field : FieldPath) :
    Except DecodeError (List (String × Value)) := do
  let members ← shaped field value.asObject
  if members.length > maxCollectionItems then .error .collectionTooLarge else .ok members

theorem isRedacted_of_get {value member : Value} {key : String}
    (h : value.get key = some member) (hkey : key ≠ "__docker_lens_redacted__") :
    isRedacted value = false := by
  obtain ⟨members, rfl, hmember⟩ := Value.exists_object_of_get h
  match members with
  | [] => rfl
  | [(name, found)] =>
      have hname : (key == name) = true := by
        by_contra hne
        rw [Bool.not_eq_true] at hne
        simp [List.lookup_cons, hne] at hmember
      have hother : ("__docker_lens_redacted__" == name) = false := by
        rw [← (beq_iff_eq.mp hname)]
        simpa using hkey.symm
      simp [isRedacted, List.lookup_cons, hother]
  | _ :: _ :: _ => simp [isRedacted]

theorem fieldValue_object {members : List (String × Value)}
    (hredacted : isRedacted (.object members) = false) (component : String) (path : List String)
    (field : FieldPath) :
    fieldValue (.object members) (component :: path) field =
      match members.lookup component with
      | none => .ok none
      | some value => fieldValue value path field := by
  simp [fieldValue, Value.isNull, hredacted]

@[simp] theorem fieldValue_nil (root : Value) (field : FieldPath) :
    fieldValue root [] field = .ok (some root) := rfl

@[simp] theorem isRedacted_string (text : String) : isRedacted (.string text) = false := rfl

theorem asArray_of_array {value : Value} {field : FieldPath} {values : List Value}
    (h : array value field = .ok values) : value.asArray = some values := by
  obtain ⟨found, hfound, h⟩ := bind_eq_ok_iff.mp h
  split at h
  · cases h
  · cases h
    exact shaped_eq_ok_iff.mp hfound

theorem asObject_of_object {value : Value} {field : FieldPath}
    {members : List (String × Value)} (h : object value field = .ok members) :
    value.asObject = some members := by
  obtain ⟨found, hfound, h⟩ := bind_eq_ok_iff.mp h
  split at h
  · cases h
  · cases h
    exact shaped_eq_ok_iff.mp hfound

/-- The version grammar of the decoder, which repeats that of the acquisition. -/
def parseApi (text : String) : Option ApiVersion :=
  match splitOnce '.' text.toList with
  | none => none
  | some (major, minor) =>
      if minor.contains '.' || major.isEmpty || minor.isEmpty || !major.all Char.isDigit ||
          !minor.all Char.isDigit then
        none
      else
        match parseUnsigned 10 65535 major, parseUnsigned 10 65535 minor with
        | some major, some minor => ApiVersion.new? major minor
        | _, _ => none

/-- An API version, if there is one. -/
def versionField (root : Value) (name : String) : Except DecodeError (Option ApiVersion) := do
  match ← fieldValue root [name] .apiVersion with
  | none => .ok none
  | some value =>
      if value.isNull || isRedacted value then .ok none
      else
        match value.asStr.bind parseApi with
        | none => .error (.invalidValue .apiVersion)
        | some version => .ok (some version)

/-- A release, if there is one. -/
def releaseField (root : Value) (name : String) : Except DecodeError (Option EngineRelease) := do
  match ← fieldValue root [name] .engineRelease with
  | none => .ok none
  | some value =>
      if value.isNull || isRedacted value then .ok none
      else
        match value.asStr with
        | none => .error (.invalidShape .engineRelease)
        | some text => .ok (EngineRelease.new text)

/-- The id of a listed resource. -/
def listedId (item : Value) (field : FieldPath) (key : String) : Except DecodeError String := do
  let members ← object item field
  let id ← shaped field ((members.lookup key).bind Value.asStr)
  if id = "" then .error (.invalidValue field) else .ok id

theorem get_of_listedId {item : Value} {field : FieldPath} {key id : String}
    (h : listedId item field key = .ok id) : (item.get key).bind Value.asStr = some id := by
  simp only [listedId, bind_eq_ok_iff] at h
  obtain ⟨members, hmembers, found, hfound, h⟩ := h
  split at h
  · cases h
  cases h
  rw [Value.asObject_eq_some_iff.mp (asObject_of_object hmembers), Value.get_object]
  exact shaped_eq_ok_iff.mp hfound

theorem foldlM_get_of_fieldValue {root value : Value} {path : List String} {field : FieldPath}
    (h : fieldValue root path field = .ok (some value)) (hnull : value.isNull = false)
    (hredacted : isRedacted value = false) : path.foldlM Value.get root = some value := by
  induction path generalizing root with
  | nil =>
      cases h
      rfl
  | cons component path ih =>
      rw [fieldValue] at h
      split at h
      · next hstop =>
          cases h
          simp [hnull, hredacted] at hstop
      · split at h
        · cases h
        next members hmembers =>
        split at h
        · cases h
        next found hfound =>
        rw [Value.asObject_eq_some_iff.mp hmembers, List.foldlM_cons, Value.get_object, hfound]
        exact ih h

/-- An observed value is the parsed value at its path. -/
theorem observed_eq_ok {α : Type} {root : Value} {path : List String} {field : FieldPath}
    {origin : Origin} {parse : Value → Except DecodeError α} {found : Observed α} {parsed : α}
    (h : observed root path field origin parse = .ok found) (hparsed : found.value = some parsed) :
    ∃ value, path.foldlM Value.get root = some value ∧ value.isNull = false ∧
      parse value = .ok parsed := by
  obtain ⟨raw, hraw, h⟩ := bind_eq_ok_iff.mp h
  cases raw with
  | none =>
      cases h
      cases hparsed
  | some value =>
      rw [observeValue] at h
      split at h
      · cases h
        cases hparsed
      next hnull =>
      split at h
      · cases h
        cases hparsed
      next hredacted =>
      rw [Bool.not_eq_true] at hnull hredacted
      refine ⟨value, foldlM_get_of_fieldValue hraw hnull hredacted, hnull, ?_⟩
      cases hparse : parse value with
      | error => simp [hparse, Except.map] at h
      | ok result =>
          simp only [hparse, Except.map, Except.ok.injEq] at h
          rw [← h, Observed.present_value, Option.some.injEq] at hparsed
          rw [hparsed]

section Raises

variable {root value : Value} {path : List String} {field : FieldPath} {origin : Origin}

theorem raises_shaped {α : Type} {found : Option α} :
    Raises IsFieldError (shaped field found) := by
  cases found with
  | none => exact .error trivial
  | some _ => exact .ok

theorem raises_fieldValue : Raises IsFieldError (fieldValue root path field) := by
  induction path generalizing root with
  | nil => exact .ok
  | cons component path ih =>
      rw [fieldValue]
      split
      · exact .ok
      · split
        · exact .error trivial
        · split
          · exact .ok
          · exact ih

theorem raises_observed {α : Type} {parse : Value → Except DecodeError α}
    (h : ∀ value, Raises IsFieldError (parse value)) :
    Raises IsFieldError (observed root path field origin parse) := by
  refine .bind raises_fieldValue fun found => ?_
  cases found with
  | none => exact .ok
  | some value =>
      rw [observeValue]
      split
      · exact .ok
      · split
        · exact .ok
        · exact .map (h value)

theorem raises_string : Raises IsFieldError (string value field) := raises_shaped

theorem raises_stringField : Raises IsFieldError (stringField root path field origin) :=
  raises_observed fun _ => raises_string

theorem raises_boolField : Raises IsFieldError (boolField root path field origin) :=
  raises_observed fun _ => raises_shaped

theorem raises_unsignedField : Raises IsFieldError (unsignedField root path field origin) :=
  raises_observed fun _ => raises_shaped

theorem raises_signedField : Raises IsFieldError (signedField root path field origin) :=
  raises_observed fun _ => raises_shaped

theorem raises_array : Raises IsFieldError (array value field) := by
  refine .bind raises_shaped fun values => ?_
  split
  · exact .error trivial
  · exact .ok

theorem raises_object : Raises IsFieldError (object value field) := by
  refine .bind raises_shaped fun members => ?_
  split
  · exact .error trivial
  · exact .ok

theorem raises_listedId {key : String} : Raises IsFieldError (listedId value field key) := by
  refine .bind raises_object fun members => .bind raises_shaped fun id => ?_
  split
  · exact .error trivial
  · exact .ok

theorem raises_versionField {name : String} : Raises IsFieldError (versionField root name) := by
  refine .bind raises_fieldValue fun found => ?_
  split
  · exact .ok
  · split
    · exact .ok
    · split
      · exact .error trivial
      · exact .ok

theorem raises_releaseField {name : String} : Raises IsFieldError (releaseField root name) := by
  refine .bind raises_fieldValue fun found => ?_
  split
  · exact .ok
  · split
    · exact .ok
    · split
      · exact .error trivial
      · exact .ok

end Raises

end DockerLens.Decoder
