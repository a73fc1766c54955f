import DockerLens.Acquisition.Acquire
import DockerLens.Acquisition.BudgetRun
import DockerLens.Fold

namespace DockerLens.Acquisition

open DockerLens.Text
open DockerLens.Observation
open DockerLens.Version
open DockerLens.Evidence
open DockerLens.Fold

/-- The only status of an exchange that `exchange` hands on. -/
def okStatus : HttpStatus := ⟨200, by decide⟩

theorem eq_okStatus {status : HttpStatus} (h : status.code = 200) : status = okStatus := by
  cases status
  cases h
  rfl

/-- The budget after one completed exchange. -/
def Budget.completed (budget : Budget) (request : ReadRequest) (resource : Option ResourceRef)
    (api : Option ApiVersion) (body : Bytes) : Budget :=
  (budget.requested request resource api).responded ⟨request, resource, api⟩ okStatus body

section Completed

variable (budget : Budget) (request : ReadRequest) (resource : Option ResourceRef)
  (api : Option ApiVersion) (body : Bytes)

@[simp] theorem completed_exchanges :
    (budget.completed request resource api body).exchanges =
      budget.exchanges ++ [⟨request, resource, api, okStatus, body⟩] := by
  simp [Budget.completed, Budget.responded, Budget.requested]

@[simp] theorem completed_requests :
    (budget.completed request resource api body).requests = budget.requests + 1 := rfl

@[simp] theorem completed_pending :
    (budget.completed request resource api body).pending = none := rfl

@[simp] theorem completed_selectedResources :
    (budget.completed request resource api body).selectedResources =
      budget.selectedResources := by
  simp [Budget.completed, Budget.responded, Budget.requested]

@[simp] theorem completed_bytesRead :
    (budget.completed request resource api body).bytesRead =
      budget.bytesRead + body.length := by
  simp [Budget.completed, Budget.responded, Budget.requested]

@[simp] theorem completed_limits :
    (budget.completed request resource api body).limits = budget.limits := by
  simp [Budget.completed, Budget.responded, Budget.requested]

@[simp] theorem completed_failed :
    (budget.completed request resource api body).failed = budget.failed := by
  simp [Budget.completed, Budget.responded, Budget.requested]

@[simp] theorem completed_observationId :
    (budget.completed request resource api body).observationId = budget.observationId := by
  simp [Budget.completed, Budget.responded, Budget.requested]

end Completed

theorem completed_expansions {budget : Budget} {request : ReadRequest}
    {resource : Option ResourceRef} {api : Option ApiVersion} {body : Bytes}
    (h : request.inspected.isSome = resource.isSome) :
    (budget.completed request resource api body).expansions =
      budget.expansions + Budget.cost request := by
  rw [Budget.completed, Budget.responded, Budget.requested]
  exact Budget.register_expansions h

theorem charged_eq_ok_iff {α : Type} {result : Except LimitError α × Budget} {value : α}
    {budget : Budget} : charged result = .ok (value, budget) ↔ result = (.ok value, budget) := by
  rcases result with ⟨error | value', budget'⟩
  · simp [charged]
  · simp [charged]

theorem readResponse_eq_ok {budget after : Budget} {before : Duration} {later : Duration}
    {status : HttpStatus} {reader : Reader} {body : Bytes} (hsound : budget.Sound)
    (h : budget.readResponse before later status reader = (.ok body, after)) :
    ∃ pending, budget.Respondable before later pending reader ∧ body = reader.data ∧
      after = budget.responded pending status reader.data := by
  by_cases hrespondable : ∃ pending, budget.Respondable before later pending reader
  · obtain ⟨pending, hrespondable⟩ := hrespondable
    rw [Budget.readResponse_of_respondable status hsound hrespondable] at h
    simp only [Prod.mk.injEq, Except.ok.injEq] at h
    exact ⟨pending, hrespondable, h.1.symm, h.2.symm⟩
  · obtain ⟨error, rejected, heq, -⟩ := Budget.readResponse_rejected status hsound
      (not_exists.mp hrespondable)
    simp [heq] at h

/-- What a successful exchange went through. -/
structure Exchanged (daemon : Daemon) (budget : Budget) (request : ReadRequest)
    (resource : Option ResourceRef) (api : Option ApiVersion) (body : Bytes) (path : String)
    (wire : Wire) : Prop where
  path_eq : requestPath request api = .ok path
  requestable : budget.Requestable (daemon.answer budget.exchanges path).requestedAt
    request resource api
  connected : (daemon.answer budget.exchanges path).connection = .ok wire
  received : httpGet wire
    (min (budget.requested request resource api).allowance maxJsonBytes) = .ok (okStatus, body)
  respondable : (budget.requested request resource api).Respondable
    (daemon.answer budget.exchanges path).readAt (daemon.answer budget.exchanges path).readEnd
    ⟨request, resource, api⟩ ⟨body, false⟩

theorem exchange_eq_ok_iff {daemon : Daemon} {budget after : Budget} {request : ReadRequest}
    {resource : Option ResourceRef} {api : Option ApiVersion} {body : Bytes}
    (hsound : budget.Sound) :
    exchange daemon budget request resource api = .ok (body, after) ↔
      (∃ path wire, Exchanged daemon budget request resource api body path wire) ∧
        after = budget.completed request resource api body := by
  constructor
  · intro h
    simp only [exchange, bind_eq_ok_iff, Prod.exists, charged_eq_ok_iff] at h
    obtain ⟨path, hpath, ⟨⟩, requested, hrequest, wire, hwire, status, body', hget, captured,
      responded, hrespond, haccepted⟩ := h
    obtain ⟨hrequestable, rfl⟩ := Budget.recordRequest_ok_iff.mp hrequest
    obtain ⟨pending, hrespondable, rfl, rfl⟩ :=
      readResponse_eq_ok (hrequestable.sound hsound) hrespond
    obtain rfl : pending = ⟨request, resource, api⟩ := by
      simpa [Budget.requested] using hrespondable.awaited.symm
    rw [accepted] at haccepted
    split at haccepted
    · simp at haccepted
    · next hcode =>
        obtain rfl := eq_okStatus (not_not.mp hcode)
        simp only [Except.ok.injEq, Prod.mk.injEq] at haccepted
        obtain ⟨rfl, rfl⟩ := haccepted
        exact ⟨⟨path, wire, hpath, hrequestable, hwire, hget, hrespondable⟩, rfl⟩
  · rintro ⟨⟨path, wire, hexchanged⟩, rfl⟩
    have hrequest := Budget.recordRequest_of_requestable hexchanged.requestable
    have hrespond := Budget.readResponse_of_respondable okStatus
      (hexchanged.requestable.sound hsound) hexchanged.respondable
    simp only [exchange, hexchanged.path_eq, ok_bind, hrequest, charged, hexchanged.connected,
      hexchanged.received, hrespond]
    rfl

theorem exchange_eq_ok {daemon : Daemon} {budget after : Budget} {request : ReadRequest}
    {resource : Option ResourceRef} {api : Option ApiVersion} {body : Bytes}
    (hsound : budget.Sound)
    (h : exchange daemon budget request resource api = .ok (body, after)) :
    after = budget.completed request resource api body ∧ after.Sound ∧
      body.length ≤ maxJsonBytes ∧ request.inspected.isSome = resource.isSome ∧
      (request = .daemonVersion ∨ api.isSome = true) := by
  obtain ⟨⟨path, wire, hexchanged⟩, rfl⟩ := (exchange_eq_ok_iff hsound).mp h
  have hlength := (httpGet_of_ok hexchanged.received).1
  exact ⟨rfl, hexchanged.respondable.sound (hexchanged.requestable.sound hsound),
    Nat.le_trans hlength (Nat.min_le_right _ _), hexchanged.requestable.referenced,
    hexchanged.requestable.versioned⟩

end DockerLens.Acquisition
