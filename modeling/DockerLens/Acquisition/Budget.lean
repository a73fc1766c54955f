import DockerLens.Evidence

namespace DockerLens.Acquisition

open DockerLens.Text
open DockerLens.Observation
open DockerLens.Version
open DockerLens.Evidence

/-- A request without its response. -/
structure PendingRequest where
  request : ReadRequest
  resource : Option ResourceRef
  apiVersion : Option ApiVersion
  deriving DecidableEq

/-- One acquisition's counters. The two hash maps are association lists, and
the clock behind `started` is an argument of each operation that reads it. -/
structure Budget where
  observationId : ObservationId
  limits : Limits
  requests : Nat
  selectedResources : Nat
  expansions : Nat
  bytesRead : Nat
  pending : Option PendingRequest
  exchanges : List CapturedExchange
  resourceIds : List (ResourceRef × (RootKind × NativeId))
  nativeRefs : List ((RootKind × NativeId) × ResourceRef)
  failed : Bool
  deriving DecidableEq

/-- What a reader delivers before it ends, and whether it then fails. -/
structure Reader where
  data : Bytes
  fails : Bool
  deriving DecidableEq

/-- `reader.take(limit).read_to_end`: the bytes read and whether the read failed.
A reader that fails past the limit is never asked for more. -/
def Reader.takeToEnd (reader : Reader) (limit : Nat) : Bytes × Bool :=
  (reader.data.take limit, reader.fails && decide (reader.data.length < limit))

namespace Budget

/-- `Budget::new`; `fresh` is the next observation id, if one is left. -/
def new (limits : Limits) (fresh : Option ObservationId) : Except LimitError Budget :=
  match limits.validate with
  | .error error => .error error
  | .ok limits =>
      match fresh with
      | none => .error .observationIdExhausted
      | some observationId =>
          .ok { observationId, limits
                requests := 0
                selectedResources := 0
                expansions := 0
                bytesRead := 0
                pending := none
                exchanges := []
                resourceIds := []
                nativeRefs := []
                failed := false }

/-- Set the poison flag. -/
def poison (self : Budget) : Budget := { self with failed := true }

/-- No call succeeds after a failure or after the deadline. -/
def checkTime (self : Budget) (elapsed : Duration) : Except LimitError Unit × Budget :=
  if self.failed then (.error .exhausted, self)
  else if elapsed > self.limits.maxElapsed then (.error .elapsed, self.poison)
  else (.ok (), self)

/-- A reference names another native object, or the object has another reference. -/
def conflicts (self : Budget) (reference : ResourceRef) (object : RootKind × NativeId) : Bool :=
  (self.resourceIds.lookup reference).any (· != object) ||
    (self.nativeRefs.lookup object).any (· != reference)

/-- `entry(key).or_insert(value)`. -/
def orInsert {κ α : Type} [BEq κ] (entries : List (κ × α)) (key : κ) (value : α) :
    List (κ × α) :=
  if (entries.lookup key).isSome then entries else (key, value) :: entries

/-- The accounting of one inspected resource inside `record_request`. -/
def recordInspected (self : Budget) (reference : ResourceRef) (object : RootKind × NativeId) :
    Except LimitError Unit × Budget :=
  if self.conflicts reference object then (.error .resourceConflict, self)
  else
    match checkedAdd self.expansions 1 with
    | none => (.error .expansions, self.poison)
    | some nextExpansions =>
        if nextExpansions > self.limits.maxExpansions then (.error .expansions, self.poison)
        else
          (.ok (), { self with
            expansions := nextExpansions
            resourceIds := orInsert self.resourceIds reference object
            nativeRefs := orInsert self.nativeRefs object reference })

/-- The request counter and the pending slot at the end of `record_request`. -/
def recordPending (self : Budget) (pending : PendingRequest) :
    Except LimitError Unit × Budget :=
  match checkedAdd self.requests 1 with
  | none => (.error .requests, self.poison)
  | some requests =>
      if requests > self.limits.maxRequests then
        (.error .requests, ({ self with requests }).poison)
      else (.ok (), { self with requests, pending := some pending })

/-- `record_request` once its arguments and the pending slot have been checked. -/
def recordChecked (self : Budget) (request : ReadRequest) (resource : Option ResourceRef)
    (apiVersion : Option ApiVersion) : Except LimitError Unit × Budget :=
  match resource, request.inspected with
  | some reference, some object =>
      match self.recordInspected reference object with
      | (.error error, self) => (.error error, self)
      | (.ok (), self) => self.recordPending ⟨request, resource, apiVersion⟩
  | _, _ => self.recordPending ⟨request, resource, apiVersion⟩

/-- `record_request`. -/
def recordRequest (self : Budget) (elapsed : Duration) (request : ReadRequest)
    (resource : Option ResourceRef) (apiVersion : Option ApiVersion) :
    Except LimitError Unit × Budget :=
  match self.checkTime elapsed with
  | (.error error, self) => (.error error, self)
  | (.ok (), self) =>
      if self.pending.isSome then (.error .pendingResponse, self)
      else if request.inspected.isSome ≠ resource.isSome then
        (.error .invalidResourceRef, self)
      else if request ≠ .daemonVersion ∧ apiVersion.isNone then
        (.error .missingApiVersion, self)
      else self.recordChecked request resource apiVersion

/-- `record_selection`. -/
def recordSelection (self : Budget) (elapsed : Duration) (count : Nat) :
    Except LimitError Unit × Budget :=
  match self.checkTime elapsed with
  | (.error error, self) => (.error error, self)
  | (.ok (), self) =>
      match checkedAdd self.selectedResources count with
      | none => (.error .selectedResources, self.poison)
      | some selectedResources =>
          let self := { self with selectedResources }
          if selectedResources > self.limits.maxSelectedResources then
            (.error .selectedResources, self.poison)
          else (.ok (), self)

/-- `record_expansion`. -/
def recordExpansion (self : Budget) (elapsed : Duration) (count : Nat) :
    Except LimitError Unit × Budget :=
  match self.checkTime elapsed with
  | (.error error, self) => (.error error, self)
  | (.ok (), self) =>
      match checkedAdd self.expansions count with
      | none => (.error .expansions, self.poison)
      | some expansions =>
          let self := { self with expansions }
          if expansions > self.limits.maxExpansions then
            (.error .expansions, self.poison)
          else (.ok (), self)

/-- The bytes one response may still take. `usize` subtraction panics below zero;
`Budget.Accounted.bytesRead_le` shows that it never gets there. -/
def allowance (self : Budget) : Nat :=
  min self.limits.maxResponseBytes (self.limits.maxTotalBytes - self.bytesRead)

/-- Read at most the allowance plus one sentinel byte; the two clock readings
are before and after the read. -/
def readResponse (self : Budget) (before after : Duration) (status : HttpStatus)
    (reader : Reader) : Except LimitError ProtectedValue × Budget :=
  match self.checkTime before with
  | (.error error, self) => (.error error, self)
  | (.ok (), self) =>
      if self.pending.isNone then (.error .responseWithoutRequest, self)
      else
        let allowance := self.allowance
        let (bytes, failure) := reader.takeToEnd (min (allowance + 1) usizeMax)
        let self := { self with bytesRead := min (self.bytesRead + bytes.length) usizeMax }
        if failure then (.error .input, self.poison)
        else
          match self.checkTime after with
          | (.error error, self) => (.error error, self)
          | (.ok (), self) =>
              if bytes.length > allowance then (.error .bytes, self.poison)
              else
                match self.pending with
                | none => (.error .responseWithoutRequest, self)
                | some pending =>
                    (.ok bytes, { self with
                      pending := none
                      exchanges := self.exchanges ++
                        [⟨pending.request, pending.resource, pending.apiVersion, status,
                          bytes⟩] })

/-- The counters that go into a capture. -/
def counts (self : Budget) : CaptureBounds where
  requestCount := self.requests
  selectedResources := self.selectedResources
  expansions := self.expansions
  bytesRead := self.bytesRead

/-- `into_capture`. -/
def intoCapture (self : Budget) (elapsed : Duration) : Except LimitError Capture :=
  if self.failed then .error .exhausted
  else if elapsed > self.limits.maxElapsed then .error .elapsed
  else if self.pending.isSome ∨ self.requests = 0 then .error .incomplete
  else
    match Capture.fromCompleted self.observationId self.counts self.exchanges with
    | .error _ => .error .captureAccounting
    | .ok capture => .ok capture

end Budget

/-- One call on a budget, with every argument and clock reading it depends on. -/
inductive BudgetCall
  | recordRequest (elapsed : Duration) (request : ReadRequest)
      (resource : Option ResourceRef) (apiVersion : Option ApiVersion)
  | recordSelection (elapsed : Duration) (count : Nat)
  | recordExpansion (elapsed : Duration) (count : Nat)
  | readResponse (before after : Duration) (status : HttpStatus) (reader : Reader)

namespace Budget

/-- The error of a call, if it has one, and the budget it leaves behind. -/
def call (self : Budget) : BudgetCall → Option LimitError × Budget
  | .recordRequest elapsed request resource apiVersion =>
      outcome (self.recordRequest elapsed request resource apiVersion)
  | .recordSelection elapsed count => outcome (self.recordSelection elapsed count)
  | .recordExpansion elapsed count => outcome (self.recordExpansion elapsed count)
  | .readResponse before after status reader =>
      outcome (self.readResponse before after status reader)
where
  outcome {α : Type} : Except LimitError α × Budget → Option LimitError × Budget
    | (.error error, budget) => (some error, budget)
    | (.ok _, budget) => (none, budget)

/-- The budget after a sequence of calls, whatever each of them returned. -/
def run (self : Budget) (calls : List BudgetCall) : Budget :=
  calls.foldl (fun budget next => (budget.call next).2) self

end Budget

end DockerLens.Acquisition
