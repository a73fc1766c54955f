import DockerLens.Text

namespace DockerLens.Observation

open DockerLens.Text

/-- Protected native bytes. -/
abbrev ProtectedValue := Bytes

/-- A local opaque reference, never a name or daemon identifier. -/
structure ResourceRef where
  localIndex : Nat
  deriving DecidableEq, Repr

/-- Closed field categories of findings and decode errors. -/
inductive FieldPath
  | containerName
  | image
  | user
  | workingDirectory
  | hostname
  | command
  | entrypoint
  | environment (index : Nat)
  | label (index : Nat)
  | mount (index : Nat)
  | port (index : Nat)
  | network (index : Nat)
  | networkMode
  | volume (index : Nat)
  | healthcheck
  | restartPolicy
  | resourceLimit
  | securitySetting
  | nameResolution
  | runtimeMount
  | device
  | logging
  | stopBehavior
  | networkIpam
  | networkOption
  | engineRelease
  | apiVersion
  | daemonMode
  | other
  deriving DecidableEq, Repr

inductive Availability
  | missing
  | null
  | empty
  | present
  | redacted
  deriving DecidableEq, Repr

/-- Origin is orthogonal to availability. -/
inductive Origin
  | configured
  | effective
  | runtimeAssigned
  | unknown
  deriving DecidableEq, Repr

/-- Native bind-relabel intent: `z` is shared and `Z` is private. -/
inductive BindRelabel
  | shared
  | «private»
  deriving DecidableEq, Repr

/-- One decoded native field. -/
structure Observed (α : Type) where
  availability : Availability
  origin : Origin
  value : Option α
  deriving DecidableEq, Repr

namespace Observed

variable {α : Type}

def unavailable (availability : Availability) (origin : Origin) : Observed α :=
  ⟨availability, origin, none⟩

def present (value : α) (availability : Availability) (origin : Origin) : Observed α :=
  ⟨availability, origin, some value⟩

@[simp] theorem unavailable_value (availability : Availability) (origin : Origin) :
    (unavailable availability origin : Observed α).value = none := rfl

@[simp] theorem present_value (value : α) (availability : Availability) (origin : Origin) :
    (present value availability origin).value = some value := rfl

end Observed

inductive Severity
  | info
  | warning
  | error
  deriving DecidableEq, Repr

inductive FindingCode
  | missingField
  | nullField
  | redactedField
  | unsupportedValue
  | limitExceeded
  | nativeConflict
  | capabilityUnknown
  deriving DecidableEq, Repr

/-- A finding carries no captured native value. -/
structure Finding where
  severity : Severity
  code : FindingCode
  resource : Option ResourceRef
  field : Option FieldPath
  deriving DecidableEq, Repr

end DockerLens.Observation
