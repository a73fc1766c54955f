import DockerLens.Acquisition.Budget
import DockerLens.Acquisition.Http
import DockerLens.Acquisition.Related

namespace DockerLens.Acquisition

open DockerLens.Text
open DockerLens.Json
open DockerLens.Observation
open DockerLens.Version
open DockerLens.Evidence

/-- The environment of one exchange: what connecting and reading the socket
yields, and the clock readings of the budget operations around it. -/
structure Turn where
  requestedAt : Duration
  connection : Except AcquisitionError Wire
  readAt : Duration
  readEnd : Duration

/-- A daemon with the clock and the cancellation flag of one acquisition. It
answers a request path with full knowledge of the exchanges completed before. -/
structure Daemon where
  freshId : Option ObservationId
  answer : List CapturedExchange → String → Turn
  selectedAt : List CapturedExchange → Duration
  remaining : List CapturedExchange → Except AcquisitionError Unit
  completedAt : List CapturedExchange → Duration

/-- A digit of a percent escape, in upper case. -/
def hexDigit (value : Nat) : Char :=
  if value < 10 then Char.ofNat (48 + value) else Char.ofNat (55 + value)

/-- Unreserved bytes as they are, every other byte as `%XX`. -/
def encodeByte (byte : UInt8) : List Char :=
  if isAsciiAlphanumeric byte || byte == 45 || byte == 46 || byte == 95 || byte == 126 then
    [Char.ofNat byte.toNat]
  else ['%', hexDigit (byte.toNat / 16), hexDigit (byte.toNat % 16)]

/-- An id as one segment of a path, which may not be too long. -/
def encodeSegment (id : NativeId) : Except AcquisitionError String :=
  if (asBytes id.text).length > 1024 then .error .shape
  else .ok (String.ofList ((asBytes id.text).flatMap encodeByte))

/-- The segment of an API version. -/
def apiPrefix (api : ApiVersion) : String := "/v" ++ toString api.major ++ "." ++ toString api.minor

/-- The path of a request, of which only the first is without a version. -/
def requestPath (request : ReadRequest) (api : Option ApiVersion) :
    Except AcquisitionError String :=
  match request, api with
  | .daemonVersion, _ => .ok "/version"
  | _, none => .error .version
  | .daemonInfo, some api => .ok (apiPrefix api ++ "/info")
  | .listContainers, some api => .ok (apiPrefix api ++ "/containers/json?all=1")
  | .inspectContainer id, some api =>
      (encodeSegment id).map fun id => apiPrefix api ++ "/containers/" ++ id ++ "/json"
  | .listNetworks, some api => .ok (apiPrefix api ++ "/networks")
  | .inspectNetwork id, some api =>
      (encodeSegment id).map fun id => apiPrefix api ++ "/networks/" ++ id
  | .listVolumes, some api => .ok (apiPrefix api ++ "/volumes")
  | .inspectVolume id, some api =>
      (encodeSegment id).map fun id => apiPrefix api ++ "/volumes/" ++ id

/-- The result of a budget operation, with its error lifted. -/
def charged {α : Type} : Except LimitError α × Budget → Except AcquisitionError (α × Budget)
  | (.error error, _) => .error (.budget error)
  | (.ok value, budget) => .ok (value, budget)

/-- A captured body is handed on when its status is 200. -/
def accepted (status : HttpStatus) (captured : Bytes × Budget) :
    Except AcquisitionError (Bytes × Budget) :=
  if status.code ≠ 200 then .error .status else .ok captured

/-- A request that is recorded, answered and recorded again. -/
def exchange (daemon : Daemon) (budget : Budget) (request : ReadRequest)
    (resource : Option ResourceRef) (api : Option ApiVersion) :
    Except AcquisitionError (Bytes × Budget) := do
  let path ← requestPath request api
  let turn := daemon.answer budget.exchanges path
  let (_, budget) ← charged (budget.recordRequest turn.requestedAt request resource api)
  let wire ← turn.connection
  let (status, body) ← httpGet wire (min budget.allowance maxJsonBytes)
  let captured ← charged (budget.readResponse turn.readAt turn.readEnd status ⟨body, false⟩)
  accepted status captured

/-- The part of the state that all three inspection loops share. -/
structure Progress where
  budget : Budget
  nextReference : Nat
  selectedRoots : List SelectedRoot

/-- The selected roots with the next resource, if it is one of them. -/
def pushRoot (roots : List SelectedRoot) (reference : ResourceRef) :
    Option (RootKind × SelectionReason) → List SelectedRoot
  | some (kind, reason) => roots ++ [⟨reference, kind, reason⟩]
  | none => roots

/-- The next reference, its selected root if it is one, and its inspection. -/
def inspect (daemon : Daemon) (api : ApiVersion) (request : ReadRequest)
    (root : Option (RootKind × SelectionReason)) (progress : Progress) :
    Except AcquisitionError (ResourceRef × Bytes × Progress) :=
  let reference : ResourceRef := ⟨progress.nextReference⟩
  let selectedRoots := pushRoot progress.selectedRoots reference root
  match checkedAdd progress.nextReference 1 with
  | none => .error .shape
  | some nextReference => do
      let (body, budget) ← exchange daemon progress.budget request (some reference) (some api)
      .ok (reference, body, ⟨budget, nextReference, selectedRoots⟩)

/-- The container loop: the resources found so far wait in `related`. -/
structure Gathering where
  progress : Progress
  related : Related

/-- Whether the expansions made and the ones that wait stay within the limit. -/
def projected (budget : Budget) (related : Related) (found : RelatedResources) :
    Except AcquisitionError Unit :=
  match checkedAdd (related.mergedNetworks found).2.length (related.newVolumes found).length with
  | none => .error (.budget .expansions)
  | some additional =>
      match checkedAdd budget.expansions additional with
      | none => .error (.budget .expansions)
      | some projected =>
          if projected > budget.limits.maxExpansions then .error (.budget .expansions)
          else .ok ()

/-- Why a selector selects what it does. -/
def reason : Selector → SelectionReason
  | .containerIds _ => .exactId
  | .networkIds _ | .volumeNames _ => .exactId
  | .containerNames _ => .exactName
  | .namePrefix _ => .namePrefix
  | .label _ _ => .label
  | .discovery | .allContainers => .explicitAll

/-- The capture of a finished budget. -/
def capture (budget : Budget) (elapsed : Duration) : Except AcquisitionError Capture :=
  match budget.intoCapture elapsed with
  | .error error => .error (.budget error)
  | .ok capture => .ok capture

/-- The setters on a completed capture at the end of `acquire`. -/
def withSelection (completed : Capture) (selector : Selector) (roots : List SelectedRoot)
    (fallbacks : List ResourceRef) : Capture :=
  { completed with
    selectedRoots := roots
    selector := some selector
    networkNameFallbacks := fallbacks
    route := .explicitUnixSocket
    discoveryOnly := selector = .discovery }

@[simp] theorem withSelection_exchanges (completed : Capture) (selector : Selector)
    (roots : List SelectedRoot) (fallbacks : List ResourceRef) :
    (withSelection completed selector roots fallbacks).exchanges = completed.exchanges := rfl

@[simp] theorem withSelection_bounds (completed : Capture) (selector : Selector)
    (roots : List SelectedRoot) (fallbacks : List ResourceRef) :
    (withSelection completed selector roots fallbacks).bounds = completed.bounds := rfl

section
variable (fromSlice : Bytes → Option Value) (daemon : Daemon) (api : ApiVersion)
  (selector : Selector)

/-- One turn of the loop over the selected containers. -/
def inspectContainer (gathering : Gathering) (id : NativeId) :
    Except AcquisitionError Gathering := do
  let (_, body, progress) ← inspect daemon api (.inspectContainer id)
    (some (.container, reason selector)) gathering.progress
  inspectIdentity fromSlice body "Id" id
  let found ← relatedIds fromSlice body
  projected progress.budget gathering.related found
  .ok ⟨progress, gathering.related.merge found⟩

/-- The network loop, with the references inspected by name and the ids found. -/
structure NetworkLoop where
  progress : Progress
  fallbacks : List ResourceRef
  inspectedIds : List NativeId

/-- The root that a network becomes when the selector named it. -/
def networkRoot : Selector → Option (RootKind × SelectionReason)
  | .networkIds _ => some (.network, .exactNetworkId)
  | _ => none

/-- One turn of the loop over the related networks. -/
def inspectNetwork (loop : NetworkLoop) (entry : NativeId × Bool) :
    Except AcquisitionError NetworkLoop := do
  let (reference, body, progress) ← inspect daemon api (.inspectNetwork entry.1)
    (networkRoot selector) loop.progress
  let fallbacks := if entry.2 then loop.fallbacks ++ [reference] else loop.fallbacks
  inspectIdentity fromSlice body (if entry.2 then "Name" else "Id") entry.1
  let id ← inspectedNetworkId fromSlice body
  if id ∈ loop.inspectedIds then .error .shape
  else .ok ⟨progress, fallbacks, loop.inspectedIds ++ [id]⟩

/-- The root that a volume becomes when the selector named it. -/
def volumeRoot : Selector → Option (RootKind × SelectionReason)
  | .volumeNames _ => some (.volume, .exactVolumeName)
  | _ => none

/-- One turn of the loop over the related volumes. -/
def inspectVolume (progress : Progress) (name : NativeId) :
    Except AcquisitionError Progress := do
  let (_, body, progress) ← inspect daemon api (.inspectVolume name) (volumeRoot selector) progress
  inspectIdentity fromSlice body "Name" name
  .ok progress

/-- The containers that the selector picks, once each, listing them where it must. -/
def selectContainers (budget : Budget) : Except AcquisitionError (List NativeId × Budget) :=
  match selector with
  | .containerIds ids => .ok (ids.eraseDups, budget)
  | .networkIds _ | .volumeNames _ => .ok ([], budget)
  | _ => do
      let (body, budget) ← exchange daemon budget .listContainers none (some api)
      let ids ← selectedIds fromSlice body selector
      .ok (ids.eraseDups, budget)

/-- Everything after the negotiation of the API version. -/
def inventory (budget : Budget) : Except AcquisitionError Capture := do
  let (_, budget) ← exchange daemon budget .daemonInfo none (some api)
  let (containers, budget) ← selectContainers fromSlice daemon api selector budget
  let related := Related.ofSelector selector
  let count := containers.length + related.networks.length + related.volumes.length
  let (_, budget) ← charged
    (budget.recordSelection (daemon.selectedAt budget.exchanges) count)
  let gathering ← containers.foldlM (inspectContainer fromSlice daemon api selector)
    ⟨⟨budget, 1, []⟩, related⟩
  let networks ← gathering.related.sortedNetworks.foldlM
    (inspectNetwork fromSlice daemon api selector) ⟨gathering.progress, [], []⟩
  let progress ← gathering.related.sortedVolumes.foldlM
    (inspectVolume fromSlice daemon api selector) networks.progress
  daemon.remaining progress.budget.exchanges
  let completed ← capture progress.budget (daemon.completedAt progress.budget.exchanges)
  .ok (withSelection completed selector progress.selectedRoots networks.fallbacks)

end

/-- `acquire`, of a daemon that answers every request. -/
def acquire (fromSlice : Bytes → Option Value) (daemon : Daemon) (selector : Selector)
    (limits : Limits) : Except AcquisitionError Capture := do
  validateSelector selector limits
  match Budget.new limits daemon.freshId with
  | .error error => .error (.budget error)
  | .ok budget =>
      let (body, budget) ← exchange daemon budget .daemonVersion none none
      let api ← negotiatedApi fromSlice body
      inventory fromSlice daemon api selector budget

end DockerLens.Acquisition
