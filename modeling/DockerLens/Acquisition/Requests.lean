import DockerLens.Version

namespace DockerLens.Acquisition

open DockerLens.Text
open DockerLens.Observation
open DockerLens.Version

/-- How long the head of a response is at most. -/
def maxHeaderBytes : Nat := 16 * 1024

/-- How long a body is at most. -/
def maxJsonBytes : Nat := 8 * 1024 * 1024

/-- How many elements a collection has at most. -/
def maxCollectionItems : Nat := 4096

/-- The newest API version that is asked for. -/
def maxKnownApiMinor : Nat := 49

/-- The largest `usize` and `u64` of the 64-bit targets the crate supports. -/
def usizeMax : Nat := 2 ^ 64 - 1

/-- `checked_add` on `usize` and `u64`. -/
def checkedAdd (left right : Nat) : Option Nat :=
  if left + right ≤ usizeMax then some (left + right) else none

theorem checkedAdd_eq_some_iff {left right sum : Nat} :
    checkedAdd left right = some sum ↔ sum = left + right ∧ left + right ≤ usizeMax := by
  rw [checkedAdd]
  split <;> simp_all [eq_comm]

theorem checkedAdd_of_le {left right : Nat} (h : left + right ≤ usizeMax) :
    checkedAdd left right = some (left + right) :=
  if_pos h

/-- Nanoseconds. -/
abbrev Duration := Nat

/-- The bounds that a budget can run into. -/
inductive LimitError
  | invalid
  | requests
  | pendingResponse
  | responseWithoutRequest
  | exhausted
  | selectedResources
  | expansions
  | bytes
  | elapsed
  | input
  | invalidResourceRef
  | incomplete
  | observationIdExhausted
  | captureAccounting
  | missingApiVersion
  | resourceConflict
  deriving DecidableEq, Repr

/-- The reasons to give an acquisition up. -/
inductive AcquisitionError
  | endpoint
  | cancelled
  | deadline
  | io
  | protocol
  | status
  | version
  | shape
  | selection
  | budget (error : LimitError)
  deriving DecidableEq, Repr

/-- A nonempty native identifier. -/
@[ext] structure NativeId where
  text : String
  nonempty : text ≠ ""

instance : DecidableEq NativeId := fun left right =>
  decidable_of_iff (left.text = right.text) NativeId.ext_iff.symm

namespace NativeId

/-- `NativeId::new`. -/
def new (value : String) : Option NativeId :=
  if h : value ≠ "" then some ⟨value, h⟩ else none

theorem new_eq_some_iff {value : String} {id : NativeId} :
    new value = some id ↔ id.text = value := by
  rw [new]
  split
  · rw [Option.some.injEq]
    constructor
    · rintro rfl
      rfl
    · rintro rfl
      rfl
  · next h =>
      constructor
      · simp
      · rintro rfl
        exact absurd id.nonempty h

theorem ext_text {left right : NativeId} (h : left.text = right.text) : left = right := by
  cases left
  cases right
  simp_all

end NativeId

/-- The only requests the transport may issue. -/
inductive ReadRequest
  | daemonVersion
  | daemonInfo
  | listContainers
  | inspectContainer (id : NativeId)
  | listNetworks
  | inspectNetwork (id : NativeId)
  | listVolumes
  | inspectVolume (id : NativeId)
  deriving DecidableEq

/-- What the resources of an acquisition are selected by. -/
inductive Selector
  | containerIds (ids : List NativeId)
  | networkIds (ids : List NativeId)
  | volumeNames (names : List NativeId)
  | containerNames (names : List NativeId)
  | namePrefix (namePrefix : NativeId)
  | label (key : ProtectedValue) (value : Option ProtectedValue)
  | discovery
  | allContainers
  deriving DecidableEq

/-- Why a root was selected. -/
inductive SelectionReason
  | exactId
  | exactNetworkId
  | exactVolumeName
  | exactName
  | namePrefix
  | label
  | explicitAll
  deriving DecidableEq, Repr

/-- `RootKind` of selected roots; the private `ResourceKind` of the budget has
the same three members and is not repeated. -/
inductive RootKind
  | container
  | network
  | volume
  deriving DecidableEq, Repr

/-- A resource that the selector itself asks for. -/
structure SelectedRoot where
  resource : ResourceRef
  kind : RootKind
  reason : SelectionReason
  deriving DecidableEq, Repr

/-- The kind and native id that an inspect request names. -/
def ReadRequest.inspected : ReadRequest → Option (RootKind × NativeId)
  | .inspectContainer id => some (.container, id)
  | .inspectNetwork id => some (.network, id)
  | .inspectVolume id => some (.volume, id)
  | .daemonVersion | .daemonInfo | .listContainers | .listNetworks | .listVolumes => none

/-- Explicit limits; every counter is a `usize`. -/
structure Limits where
  maxRequests : Nat
  maxSelectedResources : Nat
  maxExpansions : Nat
  maxResponseBytes : Nat
  maxTotalBytes : Nat
  maxElapsed : Duration
  fits : maxRequests ≤ usizeMax ∧ maxSelectedResources ≤ usizeMax ∧
    maxExpansions ≤ usizeMax ∧ maxResponseBytes ≤ usizeMax ∧ maxTotalBytes ≤ usizeMax
  deriving DecidableEq

namespace Limits

/-- Each dimension is nonzero and one response fits inside the total. -/
def validate (limits : Limits) : Except LimitError Limits :=
  if limits.maxRequests = 0
      ∨ limits.maxSelectedResources = 0
      ∨ limits.maxExpansions = 0
      ∨ limits.maxResponseBytes = 0
      ∨ limits.maxResponseBytes = usizeMax
      ∨ limits.maxTotalBytes = 0
      ∨ limits.maxTotalBytes < limits.maxResponseBytes
      ∨ limits.maxElapsed = 0 then
    .error .invalid
  else .ok limits

/-- The limits that `validate` accepts. -/
def Valid (limits : Limits) : Prop := limits.validate = .ok limits

theorem validate_eq_ok_iff {limits limits' : Limits} :
    limits.validate = .ok limits' ↔ limits.Valid ∧ limits' = limits := by
  rw [Valid, validate]
  split <;> simp [eq_comm]

end Limits

end DockerLens.Acquisition
