import DockerLens.Decoder.Fields

namespace DockerLens.Decoder

open DockerLens.Text
open DockerLens.Observation
open DockerLens.Fold

/-- Whether a mount may be written to. -/
inductive MountAccess
  | readOnly
  | readWrite
  deriving DecidableEq, Repr

/-- Native mode interpretation; an unsupported mode never invents absent intent. -/
inductive MountModeInterpretation
  | supported (access : Option MountAccess) (relabel : Option BindRelabel)
  | unsupported
  deriving DecidableEq, Repr

namespace MountMode

/-- How long a mode is at most. -/
def maxModeBytes : Nat := 256

/-- How many words a mode has at most. -/
def maxModeTokens : Nat := 16

/-- Whether a mode says something else than the field of its own. -/
def accessConflicts (mode : Observed MountModeInterpretation) (readWrite : Observed Bool) :
    Bool :=
  match mode.value, readWrite.value with
  | some (.supported (some .readOnly) _), some true => true
  | some (.supported (some .readWrite) _), some false => true
  | _, _ => false

/-- The options seen so far in a token list. -/
structure Scan where
  access : Option MountAccess
  relabel : Option BindRelabel
  propagation : Bool
  consistency : Bool
  copy : Bool
  unsupported : Bool
  deriving DecidableEq

/-- The scan before the first word. -/
def Scan.start : Scan := ⟨none, none, false, false, false, false⟩

/-- The token classes that a mode may hold once. -/
inductive Token
  | access (access : MountAccess)
  | relabel (relabel : BindRelabel)
  | propagation
  | consistency
  | copy
  | other
  deriving DecidableEq

/-- Words are compared by one instance, also where a class is counted. -/
instance : LawfulBEq Bytes := inferInstance

/-- What a word of a mode means. -/
def classify (token : Bytes) : Token :=
  if token = asBytes "ro" then .access .readOnly
  else if token = asBytes "rw" then .access .readWrite
  else if token = asBytes "z" then .relabel .shared
  else if token = asBytes "Z" then .relabel .private
  else if token ∈ ["private", "rprivate", "shared", "rshared", "slave", "rslave"].map asBytes then
    .propagation
  else if token ∈ ["consistent", "cached", "delegated"].map asBytes then .consistency
  else if token = asBytes "nocopy" then .copy
  else .other

/-- One token of a mode; a class that was seen before is contradictory. -/
def scanToken (scan : Scan) (token : Token) : Option Scan :=
  match token with
  | .access access =>
      if scan.access.isSome then none else some { scan with access := some access }
  | .relabel relabel =>
      if scan.relabel.isSome then none else some { scan with relabel := some relabel }
  | .propagation =>
      if scan.propagation then none
      else some { scan with propagation := true, unsupported := true }
  | .consistency =>
      if scan.consistency then none
      else some { scan with consistency := true, unsupported := true }
  | .copy => if scan.copy then none else some { scan with copy := true, unsupported := true }
  | .other => some { scan with unsupported := true }

/-- `raw.split(',')`. -/
def splitCommas (raw : Bytes) : List Bytes := raw.splitOnP (· == 44)

/-- The whole token list is scanned before anything is classified. -/
def scanTokens (field : FieldPath) (scan : Scan) (entry : Bytes × Nat) :
    Except DecodeError Scan :=
  if entry.2 ≥ maxModeTokens ∨ entry.1 = [] then .error (.invalidValue field)
  else
    match scanToken scan (classify entry.1) with
    | none => .error (.invalidValue field)
    | some scan => .ok scan

/-- A mode, word by word. -/
def parse (raw : Bytes) (field : FieldPath) : Except DecodeError MountModeInterpretation :=
  if raw.length > maxModeBytes then .error (.invalidValue field)
  else do
    let tokens := if raw.isEmpty then [] else (splitCommas raw).zipIdx
    let scan ← tokens.foldlM (scanTokens field) Scan.start
    .ok (if scan.unsupported then .unsupported else .supported scan.access scan.relabel)

/-- The meaning of a mode that is there. -/
def interpret (mode : Observed ProtectedValue) (field : FieldPath) :
    Except DecodeError (Observed MountModeInterpretation) :=
  match mode.value with
  | none => .ok (.unavailable mode.availability mode.origin)
  | some raw =>
      (parse raw field).map fun parsed => .present parsed mode.availability mode.origin

theorem raises_parse {raw : Bytes} {field : FieldPath} :
    Raises IsFieldError (parse raw field) := by
  rw [parse]
  split
  · exact .error trivial
  · refine .bind (.foldlM fun scan entry => ?_) fun _ => .ok
    rw [scanTokens]
    split
    · exact .error trivial
    · split
      · exact .error trivial
      · exact .ok

theorem raises_interpret {mode : Observed ProtectedValue} {field : FieldPath} :
    Raises IsFieldError (interpret mode field) := by
  rw [interpret]
  split
  · exact .ok
  · exact .map raises_parse

end MountMode

end DockerLens.Decoder
