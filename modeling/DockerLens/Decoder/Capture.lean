import DockerLens.Acquisition.Selection
import DockerLens.Decoder.Resources
import Mathlib.Data.Finset.Basic
import Mathlib.Data.Finset.Disjoint

namespace DockerLens.Decoder

open DockerLens.Text
open DockerLens.Json
open DockerLens.Observation
open DockerLens.Acquisition
open DockerLens.Version
open DockerLens.Evidence
open DockerLens.Fold

/-- Memory and swap support as reported by `/info`. -/
structure ResourceSupportObservation where
  observationId : ObservationId
  memoryLimit : Observed Bool
  swapLimit : Observed Bool
  deriving DecidableEq

/-- What is decoded of the daemon and of its client. -/
structure DecodedVersion where
  daemon : DaemonFacts
  resourceSupport : ResourceSupportObservation
  clientRelease : Option ProtectedValue
  distributionPackageRevision : Option ProtectedValue
  requestedApiVersions : List ApiVersion

/-- What a whole capture is decoded to. -/
structure DecodedInventory where
  observationId : ObservationId
  version : DecodedVersion
  containers : List ContainerObservation
  discoveredContainers : List ContainerSummary
  selectedRoots : List SelectedRoot
  networks : List NetworkObservation
  volumes : List VolumeObservation
  findings : List Finding

/-- The accumulators of the decode loop: the parts of the result that it fills
and the sets that the checks after it read. -/
structure Decoding where
  release : Option EngineRelease
  apiVersion : Option ApiVersion
  minimumApiVersion : Option ApiVersion
  mode : DaemonMode
  memoryLimit : Observed Bool
  swapLimit : Observed Bool
  requestedApiVersions : List ApiVersion
  containers : List ContainerObservation
  discoveredContainers : List ContainerSummary
  networks : List NetworkObservation
  volumes : List VolumeObservation
  findings : List Finding
  seenResources : Finset (RootKind × ResourceRef)
  listedIds : RootKind → Finset String
  inspectedIds : RootKind → Finset String
  inspectedNativeObjects : RootKind → Finset String
  inspectedContainersByRef : ResourceRef → Option String
  selectedFromList : Option (Finset String)
  versionSeen : Bool
  infoSeen : Bool

/-- The state before the first exchange. -/
def Decoding.start : Decoding where
  release := none
  apiVersion := none
  minimumApiVersion := none
  mode := .unknown
  memoryLimit := .unavailable .missing .effective
  swapLimit := .unavailable .missing .effective
  requestedApiVersions := []
  containers := []
  discoveredContainers := []
  networks := []
  volumes := []
  findings := []
  seenResources := ∅
  listedIds := fun _ => ∅
  inspectedIds := fun _ => ∅
  inspectedNativeObjects := fun _ => ∅
  inspectedContainersByRef := fun _ => none
  selectedFromList := none
  versionSeen := false
  infoSeen := false

/-- The sets of ids of every kind, with ids of one kind added. -/
def addIds (sets : RootKind → Finset String) (kind : RootKind) (ids : Finset String) :
    RootKind → Finset String :=
  fun other => if other = kind then sets other ∪ ids else sets other

/-- The requested API version; only `/version` goes without one. -/
def requestedApi (decoding : Decoding) (exchange : CapturedExchange) :
    Except DecodeError Decoding :=
  match exchange.apiVersion with
  | some api =>
      .ok (if api ∈ decoding.requestedApiVersions then decoding
        else { decoding with requestedApiVersions := decoding.requestedApiVersions ++ [api] })
  | none =>
      if exchange.request = .daemonVersion then .ok decoding else .error .missingApiVersion

/-- A release that was found, which must not contradict a known one. -/
def mergeRelease (known found : Option EngineRelease) :
    Except DecodeError (Option EngineRelease) :=
  match found with
  | none => .ok known
  | some release =>
      if known.any (· ≠ release) then .error .conflictingFacts else .ok (some release)

/-- One turn of the loop on the version of the daemon, which comes once. -/
def decodeVersion (decoding : Decoding) (body : Value) : Except DecodeError Decoding :=
  if decoding.versionSeen then .error .conflictingFacts
  else do
    let _ ← object body .other
    let found ← releaseField body "Version"
    let release ← mergeRelease decoding.release found
    let apiVersion ← versionField body "ApiVersion"
    let minimumApiVersion ← versionField body "MinAPIVersion"
    .ok { decoding with versionSeen := true, release, apiVersion, minimumApiVersion }

/-- A security option that says that the daemon is rootless. -/
def isRootlessOption (text : String) : Bool :=
  text = "name=rootless" || "name=rootless,".toList.isPrefixOf text.toList

/-- Whether `SecurityOptions` names the rootless mode. -/
def rootlessOption (body : Value) : Except DecodeError Bool := do
  match ← fieldValue body ["SecurityOptions"] .daemonMode with
  | none => .ok false
  | some options =>
      if options.isNull || isRedacted options then .ok false
      else do
        let options ← array options .daemonMode
        let options ← options.mapM fun option => shaped .daemonMode option.asStr
        .ok (options.any isRootlessOption)

/-- What `Rootless` says, if it says something. -/
def rootlessField (body : Value) : Except DecodeError (Option Bool) := do
  match ← fieldValue body ["Rootless"] .daemonMode with
  | none => .ok none
  | some rootless =>
      if rootless.isNull || isRedacted rootless then .ok none
      else (shaped .daemonMode rootless.asBool).map some

/-- The mode after `SecurityOptions` and then `Rootless`, which must not contradict it. -/
def mergeMode (known : DaemonMode) (option : Bool) (field : Option Bool) :
    Except DecodeError DaemonMode :=
  let known := if option then .rootless else known
  match field with
  | none => .ok known
  | some rootless =>
      let mode : DaemonMode := if rootless then .rootless else .rootful
      if known ≠ .unknown ∧ known ≠ mode then .error .conflictingFacts else .ok mode

/-- One turn of the loop on the information of the daemon, which comes once. -/
def decodeInfo (decoding : Decoding) (body : Value) : Except DecodeError Decoding :=
  if decoding.infoSeen then .error .conflictingFacts
  else do
    let _ ← object body .other
    let memoryLimit ← boolField body ["MemoryLimit"] .resourceLimit .effective
    let swapLimit ← boolField body ["SwapLimit"] .resourceLimit .effective
    let found ← releaseField body "ServerVersion"
    let release ← mergeRelease decoding.release found
    let option ← rootlessOption body
    let field ← rootlessField body
    let mode ← mergeMode decoding.mode option field
    .ok { decoding with infoSeen := true, memoryLimit, swapLimit, release, mode }

/-- The selectors whose picks the decoder replays on the container list. -/
def replays : Selector → Bool
  | .containerNames _ | .namePrefix _ | .label _ _ | .allContainers => true
  | .containerIds _ | .networkIds _ | .volumeNames _ | .discovery => false

/-- An entry of the container list, with its id. -/
def listedContainer (item : Value) : Except DecodeError (String × ContainerSummary) := do
  let id ← listedId item .other "Id"
  let summary ← containerSummary item
  .ok (id, summary)

/-- One turn of the loop on a network list. -/
def decodeNetworkList (decoding : Decoding) (body : Value) : Except DecodeError Decoding := do
  let items ← array body .other
  let ids ← items.mapM fun item => listedId item (.network 0) "Id"
  .ok { decoding with listedIds := addIds decoding.listedIds .network ids.toFinset }

/-- The names in a volume list, which may be null. -/
def listedVolumes (body : Value) : Except DecodeError (List String) := do
  match ← fieldValue body ["Volumes"] (.volume 0) with
  | none => .ok []
  | some volumes =>
      if volumes.isNull || isRedacted volumes then .ok []
      else do
        let items ← array volumes (.volume 0)
        items.mapM fun item => listedId item (.volume 0) "Name"

/-- One turn of the loop on a volume list. -/
def decodeVolumeList (decoding : Decoding) (body : Value) : Except DecodeError Decoding := do
  let _ ← object body .other
  let names ← listedVolumes body
  .ok { decoding with listedIds := addIds decoding.listedIds .volume names.toFinset }

/-- What there is to say about a mount that is not understood in full. -/
def mountFindings (reference : ResourceRef) (entry : MountObservation × Nat) : List Finding :=
  let (mount, index) := entry
  (if mount.kind = .other ∨ mount.modeInterpretation.value = some .unsupported then
      [⟨.warning, .unsupportedValue, some reference, some (.mount index)⟩]
    else []) ++
  if MountMode.accessConflicts mount.modeInterpretation mount.readWrite then
    [⟨.warning, .nativeConflict, some reference, some (.mount index)⟩]
  else []

/-- What there is to say about a mode that names no network. -/
def networkModeFindings (reference : ResourceRef) (container : ContainerObservation) :
    List Finding :=
  if container.networkMode.value.any fun mode => mode.kind ≠ .default ∧ mode.kind ≠ .bridge then
    [⟨.warning, .unsupportedValue, some reference, some .networkMode⟩]
  else []

/-- Whether a test begins with an unknown word. -/
def HealthcheckTest.isOther : HealthcheckTest → Bool
  | .other _ => true
  | _ => false

/-- What there is to say about a test that begins with an unknown word. -/
def healthcheckFindings (reference : ResourceRef) (container : ContainerObservation) :
    List Finding :=
  if container.healthcheck.value.any fun health =>
      health.test.value.any HealthcheckTest.isOther then
    [⟨.warning, .unsupportedValue, some reference, some .healthcheck⟩]
  else []

/-- All that there is to say about a container. -/
def containerFindings (reference : ResourceRef) (container : ContainerObservation) :
    List Finding :=
  ((container.mounts.value.getD []).zipIdx.flatMap (mountFindings reference)) ++
    networkModeFindings reference container ++ healthcheckFindings reference container

/-- The observation of an inspected body, under its kind. -/
def observeInspected (decoding : Decoding) (body : Value) (reference : ResourceRef) :
    RootKind → Except DecodeError Decoding
  | .container => (container body reference).map fun container =>
      { decoding with
        containers := decoding.containers ++ [container]
        findings := decoding.findings ++ containerFindings reference container }
  | .network => (network body reference).map fun network =>
      { decoding with networks := decoding.networks ++ [network] }
  | .volume => (volume body reference).map fun volume =>
      { decoding with volumes := decoding.volumes ++ [volume] }

/-- The key that an inspected resource is identified by. -/
def nativeKey (kind : RootKind) : String := if kind = .volume then "Name" else "Id"

/-- The inspected containers by reference, with a container added. -/
def addContainer (byRef : ResourceRef → Option String) (kind : RootKind)
    (reference : ResourceRef) (id : String) : ResourceRef → Option String :=
  fun other => if kind = .container ∧ other = reference then some id else byRef other

/-- The sets with one more inspected resource. -/
def addInspected (decoding : Decoding) (kind : RootKind) (reference : ResourceRef)
    (id nativeId : String) : Decoding :=
  { decoding with
    inspectedNativeObjects := addIds decoding.inspectedNativeObjects kind {nativeId}
    seenResources := insert (kind, reference) decoding.seenResources
    inspectedIds := addIds decoding.inspectedIds kind {id}
    inspectedContainersByRef :=
      addContainer decoding.inspectedContainersByRef kind reference id }

section
variable (fromSlice : Bytes → Option Value) (capture : Capture)

/-- The picks of a replayed selector; a list that cannot be replayed is incomplete. -/
def replaySelection (body : Bytes) : Except DecodeError (Option (Finset String)) :=
  match capture.selector with
  | none => .ok none
  | some selector =>
      if replays selector then
        match selectedIds fromSlice body selector with
        | .error _ => .error .incompleteInventory
        | .ok ids => .ok (some (ids.map NativeId.text).toFinset)
      else .ok none

/-- One turn of the loop on a container list, which is replayed under a selector. -/
def decodeContainerList (decoding : Decoding) (exchange : CapturedExchange) (body : Value) :
    Except DecodeError Decoding :=
  if decoding.selectedFromList.isSome then .error .conflictingFacts
  else do
    let selectedFromList ← replaySelection fromSlice capture exchange.body
    let items ← array body .other
    let found ← items.mapM listedContainer
    .ok { decoding with
          selectedFromList
          listedIds := addIds decoding.listedIds .container (found.map Prod.fst).toFinset
          discoveredContainers := decoding.discoveredContainers ++ found.map Prod.snd }

/-- The key under which a resource is asked for: its own, or the name of a fallback. -/
def identityKey (kind : RootKind) (reference : ResourceRef) : String :=
  if kind = .volume ∨ kind = .network ∧ reference ∈ capture.networkNameFallbacks then "Name"
  else "Id"

/-- One turn of the loop on an inspected resource. -/
def decodeInspect (decoding : Decoding) (exchange : CapturedExchange) (kind : RootKind)
    (id : NativeId) (body : Value) : Except DecodeError Decoding := do
  let reference ← shaped .other exchange.resource
  if (body.get (identityKey capture kind reference)).bind Value.asStr ≠ some id.text then
    .error .conflictingFacts
  else do
    let nativeId ← shaped .other
      (((body.get (nativeKey kind)).bind Value.asStr).filter (· ≠ ""))
    if nativeId ∈ decoding.inspectedNativeObjects kind then .error .duplicateResource
    else if (kind, reference) ∈ decoding.seenResources then .error .duplicateResource
    else
      observeInspected (addInspected decoding kind reference id.text nativeId) body reference kind

/-- One turn of the loop on a body that is a JSON document. -/
def decodeBody (decoding : Decoding) (exchange : CapturedExchange) (body : Value) :
    Except DecodeError Decoding :=
  match exchange.request with
  | .daemonVersion => decodeVersion decoding body
  | .daemonInfo => decodeInfo decoding body
  | .listContainers => decodeContainerList fromSlice capture decoding exchange body
  | .listNetworks => decodeNetworkList decoding body
  | .listVolumes => decodeVolumeList decoding body
  | .inspectContainer id => decodeInspect capture decoding exchange .container id body
  | .inspectNetwork id => decodeInspect capture decoding exchange .network id body
  | .inspectVolume id => decodeInspect capture decoding exchange .volume id body

/-- One round of the decode loop. -/
def decodeExchange (decoding : Decoding) (exchange : CapturedExchange) :
    Except DecodeError Decoding :=
  if exchange.status.code ≠ 200 then .error .unexpectedStatus
  else if exchange.body.length > maxJsonBytes then .error .responseTooLarge
  else
    match fromSlice exchange.body with
    | none => .error .invalidJson
    | some body => do
        let decoding ← requestedApi decoding exchange
        decodeBody fromSlice capture decoding exchange body

end

section
variable (capture : Capture) (decoding : Decoding)

/-- Every network inspected by its name was inspected. -/
def fallbacksSeen : Bool :=
  capture.networkNameFallbacks.all fun reference => (.network, reference) ∈ decoding.seenResources

/-- The native ids of the container roots that were inspected. -/
def selectedContainers : Finset String :=
  ((capture.selectedRoots.filter (·.kind = .container)).filterMap fun root =>
    decoding.inspectedContainersByRef root.resource).toFinset

/-- A replayed selection picks the container roots and no others. -/
def selectionAgrees : Bool :=
  match decoding.selectedFromList with
  | some expected => expected = selectedContainers capture decoding
  | none => !capture.selector.any replays

/-- Whether the resource of a root was decoded. -/
def rootObserved (root : SelectedRoot) : Bool :=
  match root.kind with
  | .container => decoding.containers.any (·.reference = root.resource)
  | .network => decoding.networks.any (·.reference = root.resource)
  | .volume => decoding.volumes.any (·.reference = root.resource)

/-- A container root that the selector did not name by its id must be in the list. -/
def rootListed (root : SelectedRoot) : Bool :=
  root.kind ≠ .container || root.reason = .exactId ||
    (decoding.inspectedContainersByRef root.resource).any (· ∈ decoding.listedIds .container)

/-- The references of the roots are distinct, and each root is observed and listed. -/
def rootsAccounted (seen : Finset ResourceRef) : List SelectedRoot → Bool
  | [] => true
  | root :: roots =>
      root.resource ∉ seen && rootObserved decoding root && rootListed decoding root &&
        rootsAccounted (insert root.resource seen) roots

/-- Resources of a kind were listed but none of them was inspected. -/
def uninspected (kind : RootKind) : Bool :=
  !(capture.discoveryOnly && kind = .container) && decoding.listedIds kind ≠ ∅ &&
    Disjoint (decoding.listedIds kind) (decoding.inspectedIds kind)

/-- The checks that `IncompleteInventory` stands for, in their order. -/
def complete : Bool :=
  fallbacksSeen capture decoding &&
    selectionAgrees capture decoding &&
    (capture.selectedRoots.length = capture.bounds.selectedResources ||
      capture.selectedRoots.isEmpty) &&
    rootsAccounted decoding ∅ capture.selectedRoots &&
    [RootKind.container, .network, .volume].all (!uninspected capture decoding ·) &&
    !(capture.selectedRoots.isEmpty &&
      capture.bounds.selectedResources > decoding.containers.length)

/-- Whether an API version lies outside the range of the daemon. -/
def outOfRange : Bool :=
  (decoding.minimumApiVersion.any fun minimum => decoding.apiVersion.any (· < minimum)) ||
    decoding.requestedApiVersions.any fun api =>
      decoding.minimumApiVersion.any (api < ·) || decoding.apiVersion.any (· < api)

/-- The findings about the daemon itself. -/
def daemonFindings : List Finding :=
  (if decoding.release.isNone || decoding.apiVersion.isNone then
      [⟨.warning, .missingField, none, some .engineRelease⟩]
    else []) ++
  if decoding.mode = .unknown then [⟨.warning, .capabilityUnknown, none, some .daemonMode⟩]
  else []

/-- The version that the loop's state adds up to. -/
def decodedVersion : DecodedVersion where
  daemon :=
    { observationId := capture.observationId
      release := decoding.release
      apiVersion := decoding.apiVersion
      minimumApiVersion := decoding.minimumApiVersion
      mode := decoding.mode
      capabilities := [] }
  resourceSupport :=
    { observationId := capture.observationId
      memoryLimit := decoding.memoryLimit
      swapLimit := decoding.swapLimit }
  clientRelease := none
  distributionPackageRevision := none
  requestedApiVersions := decoding.requestedApiVersions

/-- The inventory that the loop's state adds up to. -/
def decodedInventory : DecodedInventory where
  observationId := capture.observationId
  version := decodedVersion capture decoding
  containers := decoding.containers
  discoveredContainers := decoding.discoveredContainers
  selectedRoots := capture.selectedRoots
  networks := decoding.networks
  volumes := decoding.volumes
  findings := decoding.findings ++ daemonFindings decoding

/-- Everything after the decode loop. -/
def finish : Except DecodeError DecodedInventory :=
  if !complete capture decoding then .error .incompleteInventory
  else if outOfRange decoding then .error .apiVersionOutOfRange
  else .ok (decodedInventory capture decoding)

end

/-- Decode a completed capture. -/
def decodeCapture (fromSlice : Bytes → Option Value) (capture : Capture) :
    Except DecodeError DecodedInventory :=
  if capture.exchanges.length > maxCollectionItems then .error .collectionTooLarge
  else do
    let decoding ← capture.exchanges.foldlM (decodeExchange fromSlice capture) Decoding.start
    finish capture decoding

end DockerLens.Decoder
