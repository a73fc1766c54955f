import DockerLens.Acquisition.Requests

namespace DockerLens.Evidence

open DockerLens.Acquisition
open DockerLens.Observation
open DockerLens.Version

/-- Value-free accounting. -/
structure CaptureBounds where
  requestCount : Nat
  selectedResources : Nat
  expansions : Nat
  bytesRead : Nat
  deriving DecidableEq, Repr

inductive CaptureError
  | accountingMismatch
  | invalidStatus
  deriving DecidableEq, Repr

/-- An HTTP status in `100..=599`. -/
structure HttpStatus where
  code : Nat
  valid : 100 ≤ code ∧ code ≤ 599
  deriving DecidableEq

theorem validStatus_ok : 100 ≤ 200 ∧ 200 ≤ 599 := by decide

def HttpStatus.new (code : Nat) : Except CaptureError HttpStatus :=
  if h : 100 ≤ code ∧ code ≤ 599 then .ok ⟨code, h⟩ else .error .invalidStatus

/-- One closed request with its response metadata and protected body. -/
structure CapturedExchange where
  request : ReadRequest
  resource : Option ResourceRef
  apiVersion : Option ApiVersion
  status : HttpStatus
  body : ProtectedValue
  deriving DecidableEq

inductive CaptureRoute
  | callerAssembled
  | explicitUnixSocket
  deriving DecidableEq, Repr

structure Capture where
  observationId : ObservationId
  bounds : CaptureBounds
  exchanges : List CapturedExchange
  route : CaptureRoute
  selectedRoots : List SelectedRoot
  selector : Option Selector
  networkNameFallbacks : List ResourceRef
  discoveryOnly : Bool

/-- The body lengths summed with `checked_add`. -/
def checkedTotal (exchanges : List CapturedExchange) : Option Nat :=
  exchanges.foldlM (fun sum exchange => checkedAdd sum exchange.body.length) 0

/-- Accept accounting that matches the exchanges exactly. -/
def Capture.fromCompleted (observationId : ObservationId) (bounds : CaptureBounds)
    (exchanges : List CapturedExchange) : Except CaptureError Capture :=
  if bounds.requestCount ≠ exchanges.length
      ∨ checkedTotal exchanges ≠ some bounds.bytesRead then
    .error .accountingMismatch
  else
    .ok { observationId, bounds, exchanges
          route := .callerAssembled
          selectedRoots := []
          selector := none
          networkNameFallbacks := []
          discoveryOnly := false }

/-- The summed body lengths, without the overflow check. -/
def totalBytes (exchanges : List CapturedExchange) : Nat :=
  (exchanges.map fun exchange => exchange.body.length).sum

@[simp] theorem totalBytes_nil : totalBytes [] = 0 := rfl

@[simp] theorem totalBytes_append (left right : List CapturedExchange) :
    totalBytes (left ++ right) = totalBytes left + totalBytes right := by
  simp [totalBytes]

@[simp] theorem totalBytes_cons (exchange : CapturedExchange)
    (exchanges : List CapturedExchange) :
    totalBytes (exchange :: exchanges) = exchange.body.length + totalBytes exchanges := by
  simp [totalBytes]

theorem foldlM_checkedAdd_eq (exchanges : List CapturedExchange) (start : Nat)
    (h : start + totalBytes exchanges ≤ usizeMax) :
    exchanges.foldlM (fun sum exchange => checkedAdd sum exchange.body.length) start =
      some (start + totalBytes exchanges) := by
  induction exchanges generalizing start with
  | nil => simp
  | cons exchange exchanges ih =>
      rw [totalBytes_cons] at h ⊢
      rw [List.foldlM_cons, checkedAdd_of_le (by omega), Option.bind_eq_bind,
        Option.bind_some, ih _ (by omega), Nat.add_assoc]

theorem checkedTotal_eq_totalBytes {exchanges : List CapturedExchange}
    (h : totalBytes exchanges ≤ usizeMax) :
    checkedTotal exchanges = some (totalBytes exchanges) := by
  rw [checkedTotal, foldlM_checkedAdd_eq exchanges 0 (by omega), Nat.zero_add]

theorem Capture.fromCompleted_eq_ok {observationId : ObservationId}
    {bounds : CaptureBounds} {exchanges : List CapturedExchange}
    (hcount : bounds.requestCount = exchanges.length)
    (htotal : bounds.bytesRead = totalBytes exchanges)
    (hfits : bounds.bytesRead ≤ usizeMax) :
    ∃ capture, Capture.fromCompleted observationId bounds exchanges = .ok capture := by
  have hsum : checkedTotal exchanges = some (totalBytes exchanges) :=
    checkedTotal_eq_totalBytes (by omega)
  rw [← htotal] at hsum
  rw [Capture.fromCompleted, if_neg (by simp [hcount, hsum])]
  exact ⟨_, rfl⟩

theorem Capture.fromCompleted_eq_ok_iff {observationId : ObservationId}
    {bounds : CaptureBounds} {exchanges : List CapturedExchange} {capture : Capture} :
    Capture.fromCompleted observationId bounds exchanges = .ok capture ↔
      bounds.requestCount = exchanges.length ∧
        checkedTotal exchanges = some bounds.bytesRead ∧
        capture = { observationId, bounds, exchanges
                    route := .callerAssembled
                    selectedRoots := []
                    selector := none
                    networkNameFallbacks := []
                    discoveryOnly := false } := by
  rw [Capture.fromCompleted]
  split
  · next h =>
      constructor
      · simp
      · rintro ⟨hcount, htotal, -⟩
        exact absurd h (by simp [hcount, htotal])
  · next h =>
      simp only [not_or, not_not, ne_eq] at h
      simp [h.1, h.2, eq_comm]

end DockerLens.Evidence
