import DockerLens.Decoder.Capture
import Mathlib.Data.Finset.Lattice.Lemmas

namespace DockerLens.Decoder

open DockerLens.Text
open DockerLens.Json
open DockerLens.Observation
open DockerLens.Acquisition
open DockerLens.Version
open DockerLens.Evidence
open DockerLens.Fold

/-- The facts of an inspection that later inspections are checked against. -/
structure InspectedResource where
  kind : RootKind
  reference : ResourceRef
  id : String
  nativeId : String
  deriving DecidableEq

/-- The facts of an `/info` body. -/
structure InfoFacts where
  memoryLimit : Observed Bool
  swapLimit : Observed Bool
  option : Bool
  field : Option Bool
  deriving DecidableEq

/-- What one exchange contributes to the result, whatever was decoded before it. -/
structure Contribution where
  api : Option ApiVersion
  release : Option EngineRelease
  version : Option (Option ApiVersion × Option ApiVersion)
  info : Option InfoFacts
  listing : Option (Option (Finset String))
  listed : RootKind → Finset String
  discovered : List ContainerSummary
  inspected : Option InspectedResource
  containers : List ContainerObservation
  networks : List NetworkObservation
  volumes : List VolumeObservation
  findings : List Finding

namespace Contribution

/-- The contribution of an exchange that tells nothing. -/
def empty : Contribution where
  api := none
  release := none
  version := none
  info := none
  listing := none
  listed := fun _ => ∅
  discovered := []
  inspected := none
  containers := []
  networks := []
  volumes := []
  findings := []

def ofVersion (body : Value) : Except DecodeError Contribution := do
  let _ ← object body .other
  let release ← releaseField body "Version"
  let apiVersion ← versionField body "ApiVersion"
  let minimumApiVersion ← versionField body "MinAPIVersion"
  .ok { empty with release, version := some (apiVersion, minimumApiVersion) }

def ofInfo (body : Value) : Except DecodeError Contribution := do
  let _ ← object body .other
  let memoryLimit ← boolField body ["MemoryLimit"] .resourceLimit .effective
  let swapLimit ← boolField body ["SwapLimit"] .resourceLimit .effective
  let release ← releaseField body "ServerVersion"
  let option ← rootlessOption body
  let field ← rootlessField body
  .ok { empty with release, info := some { memoryLimit, swapLimit, option, field } }

def ofNetworkList (body : Value) : Except DecodeError Contribution := do
  let items ← array body .other
  let ids ← items.mapM fun item => listedId item (.network 0) "Id"
  .ok { empty with listed := addIds (fun _ => ∅) .network ids.toFinset }

def ofVolumeList (body : Value) : Except DecodeError Contribution := do
  let _ ← object body .other
  let names ← listedVolumes body
  .ok { empty with listed := addIds (fun _ => ∅) .volume names.toFinset }

/-- The observation of an inspected body, under its kind. -/
def observation (body : Value) (reference : ResourceRef) :
    RootKind → Except DecodeError Contribution
  | .container => (container body reference).map fun container =>
      { empty with
        containers := [container]
        findings := containerFindings reference container }
  | .network => (network body reference).map fun network => { empty with networks := [network] }
  | .volume => (volume body reference).map fun volume => { empty with volumes := [volume] }

section
variable (fromSlice : Bytes → Option Value) (capture : Capture)

def ofContainerList (exchange : CapturedExchange) (body : Value) :
    Except DecodeError Contribution := do
  let selected ← replaySelection fromSlice capture exchange.body
  let items ← array body .other
  let found ← items.mapM listedContainer
  .ok { empty with
        listing := some selected
        listed := addIds (fun _ => ∅) .container (found.map Prod.fst).toFinset
        discovered := found.map Prod.snd }

def ofInspect (exchange : CapturedExchange) (kind : RootKind) (id : NativeId) (body : Value) :
    Except DecodeError Contribution := do
  let reference ← shaped .other exchange.resource
  if (body.get (identityKey capture kind reference)).bind Value.asStr ≠ some id.text then
    .error .conflictingFacts
  else do
    let nativeId ← shaped .other
      (((body.get (nativeKey kind)).bind Value.asStr).filter (· ≠ ""))
    let observed ← observation body reference kind
    .ok { observed with inspected := some ⟨kind, reference, id.text, nativeId⟩ }

/-- What a body contributes, by its request. -/
def ofBody (exchange : CapturedExchange) (body : Value) : Except DecodeError Contribution :=
  match exchange.request with
  | .daemonVersion => ofVersion body
  | .daemonInfo => ofInfo body
  | .listContainers => ofContainerList fromSlice capture exchange body
  | .listNetworks => ofNetworkList body
  | .listVolumes => ofVolumeList body
  | .inspectContainer id => ofInspect capture exchange .container id body
  | .inspectNetwork id => ofInspect capture exchange .network id body
  | .inspectVolume id => ofInspect capture exchange .volume id body

/-- The contribution of an exchange, read from the exchange alone. -/
def ofExchange (exchange : CapturedExchange) : Except DecodeError Contribution :=
  if exchange.status.code ≠ 200 then .error .unexpectedStatus
  else if exchange.body.length > maxJsonBytes then .error .responseTooLarge
  else
    match fromSlice exchange.body with
    | none => .error .invalidJson
    | some body =>
        if exchange.apiVersion = none ∧ exchange.request ≠ .daemonVersion then
          .error .missingApiVersion
        else (ofBody fromSlice capture exchange body).map fun contribution =>
          { contribution with api := exchange.apiVersion }

end

end Contribution

/-- The checks of a contribution against what was decoded before it. -/
structure Admits (decoding : Decoding) (contribution : Contribution) : Prop where
  release : ∀ found ∈ contribution.release, ∀ known ∈ decoding.release, known = found
  version : contribution.version.isSome → decoding.versionSeen = false
  info : ∀ facts ∈ contribution.info, decoding.infoSeen = false ∧
    ∃ mode, mergeMode decoding.mode facts.option facts.field = .ok mode
  listing : contribution.listing.isSome → decoding.selectedFromList = none
  inspected : ∀ resource ∈ contribution.inspected,
    resource.nativeId ∉ decoding.inspectedNativeObjects resource.kind ∧
      (resource.kind, resource.reference) ∉ decoding.seenResources

/-- The mode after an `/info` body that is not in conflict with it. -/
def modeAfter (known : DaemonMode) (facts : InfoFacts) : DaemonMode :=
  match mergeMode known facts.option facts.field with
  | .ok mode => mode
  | .error _ => known

/-- A requested version, next to those already seen. -/
def addApi (apis : List ApiVersion) : Option ApiVersion → List ApiVersion
  | none => apis
  | some api => if api ∈ apis then apis else apis ++ [api]

/-- The state after a contribution. -/
def Decoding.record (decoding : Decoding) (contribution : Contribution) : Decoding where
  release := contribution.release.or decoding.release
  apiVersion := (contribution.version.map Prod.fst).getD decoding.apiVersion
  minimumApiVersion := (contribution.version.map Prod.snd).getD decoding.minimumApiVersion
  mode := (contribution.info.map (modeAfter decoding.mode)).getD decoding.mode
  memoryLimit := (contribution.info.map InfoFacts.memoryLimit).getD decoding.memoryLimit
  swapLimit := (contribution.info.map InfoFacts.swapLimit).getD decoding.swapLimit
  requestedApiVersions := addApi decoding.requestedApiVersions contribution.api
  containers := decoding.containers ++ contribution.containers
  discoveredContainers := decoding.discoveredContainers ++ contribution.discovered
  networks := decoding.networks ++ contribution.networks
  volumes := decoding.volumes ++ contribution.volumes
  findings := decoding.findings ++ contribution.findings
  seenResources := (contribution.inspected.map fun resource =>
    insert (resource.kind, resource.reference) decoding.seenResources).getD decoding.seenResources
  listedIds := fun kind => decoding.listedIds kind ∪ contribution.listed kind
  inspectedIds := (contribution.inspected.map fun resource =>
    addIds decoding.inspectedIds resource.kind {resource.id}).getD decoding.inspectedIds
  inspectedNativeObjects := (contribution.inspected.map fun resource =>
    addIds decoding.inspectedNativeObjects resource.kind {resource.nativeId}).getD
      decoding.inspectedNativeObjects
  inspectedContainersByRef := (contribution.inspected.map fun resource =>
    addContainer decoding.inspectedContainersByRef resource.kind resource.reference
      resource.id).getD decoding.inspectedContainersByRef
  selectedFromList := contribution.listing.getD decoding.selectedFromList
  versionSeen := decoding.versionSeen || contribution.version.isSome
  infoSeen := decoding.infoSeen || contribution.info.isSome

theorem mergeRelease_eq_ok_iff {known found merged : Option EngineRelease} :
    mergeRelease known found = .ok merged ↔
      (∀ release ∈ found, ∀ other ∈ known, other = release) ∧ merged = found.or known := by
  cases found with
  | none => simp [mergeRelease, eq_comm]
  | some release =>
      cases known with
      | none => simp [mergeRelease, eq_comm]
      | some other =>
          by_cases h : other = release
          · simp [mergeRelease, h, eq_comm]
          · simp [mergeRelease, h]

theorem union_addIds (sets : RootKind → Finset String) (kind : RootKind)
    (ids : Finset String) :
    (fun other => sets other ∪ addIds (fun _ => ∅) kind ids other) = addIds sets kind ids := by
  funext other
  by_cases h : other = kind <;> simp [addIds, h]

section
variable {fromSlice : Bytes → Option Value} {capture : Capture} {decoding after : Decoding}
  {exchange : CapturedExchange} {body : Value}

theorem decodeVersion_eq_ok_iff :
    decodeVersion decoding body = .ok after ↔ ∃ contribution,
      Contribution.ofVersion body = .ok contribution ∧ Admits decoding contribution ∧
        after = decoding.record contribution := by
  rw [decodeVersion]
  constructor
  · intro h
    split at h
    · cases h
    · next hseen =>
        simp only [bind_eq_ok_iff, mergeRelease_eq_ok_iff, Except.ok.injEq] at h
        obtain ⟨_, hobject, found, hfound, release, ⟨hagree, rfl⟩, api, hapi, minimum, hminimum,
          rfl⟩ := h
        refine ⟨{ Contribution.empty with release := found, version := some (api, minimum) },
          ?_, ?_, ?_⟩
        · simp [Contribution.ofVersion, hobject, hfound, hapi, hminimum]
        · exact ⟨hagree, by simpa using hseen, by simp [Contribution.empty],
            by simp [Contribution.empty], by simp [Contribution.empty]⟩
        · simp [Decoding.record, Contribution.empty, addApi]
  · rintro ⟨contribution, hcontribution, hadmits, rfl⟩
    simp only [Contribution.ofVersion, bind_eq_ok_iff, Except.ok.injEq] at hcontribution
    obtain ⟨_, hobject, found, hfound, api, hapi, minimum, hminimum, rfl⟩ := hcontribution
    rw [if_neg (by simpa using hadmits.version rfl)]
    have hmerge := mergeRelease_eq_ok_iff.mpr ⟨hadmits.release, rfl⟩
    dsimp only at hmerge
    simp [hobject, hfound, hmerge, hapi, hminimum, Decoding.record, Contribution.empty, addApi]

theorem decodeInfo_eq_ok_iff :
    decodeInfo decoding body = .ok after ↔ ∃ contribution,
      Contribution.ofInfo body = .ok contribution ∧ Admits decoding contribution ∧
        after = decoding.record contribution := by
  rw [decodeInfo]
  constructor
  · intro h
    split at h
    · cases h
    · next hseen =>
        simp only [bind_eq_ok_iff, mergeRelease_eq_ok_iff, Except.ok.injEq] at h
        obtain ⟨_, hobject, memory, hmemory, swap, hswap, found, hfound, release,
          ⟨hagree, rfl⟩, option, hoption, field, hfield, mode, hmode, rfl⟩ := h
        refine ⟨{ Contribution.empty with
          release := found, info := some ⟨memory, swap, option, field⟩ }, ?_, ?_, ?_⟩
        · simp [Contribution.ofInfo, hobject, hmemory, hswap, hfound, hoption, hfield]
        · refine ⟨hagree, by simp [Contribution.empty], ?_, by simp [Contribution.empty],
            by simp [Contribution.empty]⟩
          rintro facts ⟨⟩
          exact ⟨by simpa using hseen, mode, hmode⟩
        · simp [Decoding.record, Contribution.empty, addApi, modeAfter, hmode]
  · rintro ⟨contribution, hcontribution, hadmits, rfl⟩
    simp only [Contribution.ofInfo, bind_eq_ok_iff, Except.ok.injEq] at hcontribution
    obtain ⟨_, hobject, memory, hmemory, swap, hswap, found, hfound, option, hoption, field,
      hfield, rfl⟩ := hcontribution
    obtain ⟨hseen, mode, hmode⟩ := hadmits.info _ rfl
    rw [if_neg (by simpa using hseen)]
    have hmerge := mergeRelease_eq_ok_iff.mpr ⟨hadmits.release, rfl⟩
    dsimp only at hmerge hmode
    simp [hobject, hmemory, hswap, hfound, hmerge, hoption, hfield, hmode, Decoding.record,
      Contribution.empty, addApi, modeAfter]

theorem decodeNetworkList_eq_ok_iff :
    decodeNetworkList decoding body = .ok after ↔ ∃ contribution,
      Contribution.ofNetworkList body = .ok contribution ∧ Admits decoding contribution ∧
        after = decoding.record contribution := by
  simp only [decodeNetworkList, Contribution.ofNetworkList, bind_eq_ok_iff, Except.ok.injEq]
  constructor
  · rintro ⟨items, hitems, ids, hids, rfl⟩
    refine ⟨_, ⟨items, hitems, ids, hids, rfl⟩, ?_, ?_⟩
    · constructor <;> simp [Contribution.empty]
    · simp [Decoding.record, Contribution.empty, addApi, union_addIds]
  · rintro ⟨_, ⟨items, hitems, ids, hids, rfl⟩, -, rfl⟩
    refine ⟨items, hitems, ids, hids, ?_⟩
    simp [Decoding.record, Contribution.empty, addApi, union_addIds]

theorem decodeVolumeList_eq_ok_iff :
    decodeVolumeList decoding body = .ok after ↔ ∃ contribution,
      Contribution.ofVolumeList body = .ok contribution ∧ Admits decoding contribution ∧
        after = decoding.record contribution := by
  simp only [decodeVolumeList, Contribution.ofVolumeList, bind_eq_ok_iff, Except.ok.injEq]
  constructor
  · rintro ⟨members, hmembers, names, hnames, rfl⟩
    refine ⟨_, ⟨members, hmembers, names, hnames, rfl⟩, ?_, ?_⟩
    · constructor <;> simp [Contribution.empty]
    · simp [Decoding.record, Contribution.empty, addApi, union_addIds]
  · rintro ⟨_, ⟨members, hmembers, names, hnames, rfl⟩, -, rfl⟩
    refine ⟨members, hmembers, names, hnames, ?_⟩
    simp [Decoding.record, Contribution.empty, addApi, union_addIds]

theorem decodeContainerList_eq_ok_iff :
    decodeContainerList fromSlice capture decoding exchange body = .ok after ↔ ∃ contribution,
      Contribution.ofContainerList fromSlice capture exchange body = .ok contribution ∧
        Admits decoding contribution ∧ after = decoding.record contribution := by
  rw [decodeContainerList]
  simp only [Contribution.ofContainerList, bind_eq_ok_iff, Except.ok.injEq]
  constructor
  · intro h
    split at h
    · cases h
    · next hlisted =>
        simp only [bind_eq_ok_iff, Except.ok.injEq] at h
        obtain ⟨selected, hselected, items, hitems, found, hfound, rfl⟩ := h
        refine ⟨_, ⟨selected, hselected, items, hitems, found, hfound, rfl⟩, ?_, ?_⟩
        · constructor <;> simp [Contribution.empty]
          simpa using hlisted
        · simp [Decoding.record, Contribution.empty, addApi, union_addIds]
  · rintro ⟨_, ⟨selected, hselected, items, hitems, found, hfound, rfl⟩, hadmits, rfl⟩
    rw [if_neg (by simp [hadmits.listing rfl])]
    simp only [bind_eq_ok_iff, Except.ok.injEq]
    refine ⟨selected, hselected, items, hitems, found, hfound, ?_⟩
    simp [Decoding.record, Contribution.empty, addApi, union_addIds]

theorem observeInspected_eq_ok_iff {reference : ResourceRef} {kind : RootKind} :
    observeInspected decoding body reference kind = .ok after ↔ ∃ contribution,
      Contribution.observation body reference kind = .ok contribution ∧
        after = decoding.record contribution := by
  cases kind with
  | container =>
      rw [observeInspected, Contribution.observation]
      cases container body reference with
      | error => simp [Except.map]
      | ok observed =>
          simp [Except.map, Decoding.record, Contribution.empty, addApi, eq_comm]
  | network =>
      rw [observeInspected, Contribution.observation]
      cases network body reference with
      | error => simp [Except.map]
      | ok observed =>
          simp [Except.map, Decoding.record, Contribution.empty, addApi, eq_comm]
  | volume =>
      rw [observeInspected, Contribution.observation]
      cases volume body reference with
      | error => simp [Except.map]
      | ok observed =>
          simp [Except.map, Decoding.record, Contribution.empty, addApi, eq_comm]

/-- An observation contributes nothing that is checked against earlier ones. -/
theorem observation_eq_ok {reference : ResourceRef} {kind : RootKind}
    {contribution : Contribution}
    (h : Contribution.observation body reference kind = .ok contribution) :
    ∃ containers networks volumes findings,
      contribution = { Contribution.empty with containers, networks, volumes, findings } := by
  cases kind with
  | container =>
      rw [Contribution.observation] at h
      cases hobserved : container body reference with
      | error => simp [hobserved, Except.map] at h
      | ok observed =>
          simp only [hobserved, Except.map, Except.ok.injEq] at h
          exact ⟨_, [], [], _, h.symm⟩
  | network =>
      rw [Contribution.observation] at h
      cases hobserved : network body reference with
      | error => simp [hobserved, Except.map] at h
      | ok observed =>
          simp only [hobserved, Except.map, Except.ok.injEq] at h
          exact ⟨[], _, [], [], h.symm⟩
  | volume =>
      rw [Contribution.observation] at h
      cases hobserved : volume body reference with
      | error => simp [hobserved, Except.map] at h
      | ok observed =>
          simp only [hobserved, Except.map, Except.ok.injEq] at h
          exact ⟨[], [], _, [], h.symm⟩

theorem decodeInspect_eq_ok_iff {kind : RootKind} {id : NativeId} :
    decodeInspect capture decoding exchange kind id body = .ok after ↔ ∃ contribution,
      Contribution.ofInspect capture exchange kind id body = .ok contribution ∧
        Admits decoding contribution ∧ after = decoding.record contribution := by
  simp only [decodeInspect, Contribution.ofInspect, bind_eq_ok_iff]
  constructor
  · rintro ⟨reference, hreference, h⟩
    split at h
    · cases h
    next hidentity =>
    simp only [bind_eq_ok_iff] at h
    obtain ⟨nativeId, hnative, h⟩ := h
    split at h
    · cases h
    next hfresh =>
    split at h
    · cases h
    next hunseen =>
    obtain ⟨observed, hobserved, rfl⟩ := observeInspected_eq_ok_iff.mp h
    refine ⟨{ observed with inspected := some ⟨kind, reference, id.text, nativeId⟩ },
      ⟨reference, hreference, ?_⟩, ?_, ?_⟩
    · rw [if_neg hidentity, hnative, ok_bind, hobserved, ok_bind]
    · obtain ⟨_, _, _, _, rfl⟩ := observation_eq_ok hobserved
      constructor <;> simp [Contribution.empty]
      exact ⟨hfresh, hunseen⟩
    · obtain ⟨_, _, _, _, rfl⟩ := observation_eq_ok hobserved
      simp [Decoding.record, Contribution.empty, addApi, addInspected]
  · rintro ⟨contribution, ⟨reference, hreference, h⟩, hadmits, rfl⟩
    refine ⟨reference, hreference, ?_⟩
    split at h
    · cases h
    next hidentity =>
    simp only [bind_eq_ok_iff, Except.ok.injEq] at h
    obtain ⟨nativeId, hnative, observed, hobserved, rfl⟩ := h
    obtain ⟨hfresh, hunseen⟩ := hadmits.inspected _ rfl
    rw [if_neg hidentity, hnative, ok_bind, if_neg hfresh, if_neg hunseen]
    refine observeInspected_eq_ok_iff.mpr ⟨observed, hobserved, ?_⟩
    obtain ⟨_, _, _, _, rfl⟩ := observation_eq_ok hobserved
    simp [Decoding.record, Contribution.empty, addApi, addInspected]

theorem decodeBody_eq_ok_iff :
    decodeBody fromSlice capture decoding exchange body = .ok after ↔ ∃ contribution,
      Contribution.ofBody fromSlice capture exchange body = .ok contribution ∧
        Admits decoding contribution ∧ after = decoding.record contribution := by
  rw [decodeBody, Contribution.ofBody]
  cases exchange.request with
  | daemonVersion => exact decodeVersion_eq_ok_iff
  | daemonInfo => exact decodeInfo_eq_ok_iff
  | listContainers => exact decodeContainerList_eq_ok_iff
  | listNetworks => exact decodeNetworkList_eq_ok_iff
  | listVolumes => exact decodeVolumeList_eq_ok_iff
  | inspectContainer _ | inspectNetwork _ | inspectVolume _ => exact decodeInspect_eq_ok_iff

theorem ofInspect_api {kind : RootKind} {id : NativeId} {contribution : Contribution}
    (h : Contribution.ofInspect capture exchange kind id body = .ok contribution) :
    contribution.api = none := by
  simp only [Contribution.ofInspect, bind_eq_ok_iff] at h
  obtain ⟨reference, -, h⟩ := h
  split at h
  · cases h
  simp only [bind_eq_ok_iff, Except.ok.injEq] at h
  obtain ⟨_, -, observed, hobserved, rfl⟩ := h
  obtain ⟨_, _, _, _, rfl⟩ := observation_eq_ok hobserved
  rfl

theorem ofBody_api {contribution : Contribution}
    (h : Contribution.ofBody fromSlice capture exchange body = .ok contribution) :
    contribution.api = none := by
  rw [Contribution.ofBody] at h
  split at h
  · simp only [Contribution.ofVersion, bind_eq_ok_iff, Except.ok.injEq] at h
    obtain ⟨_, -, _, -, _, -, _, -, rfl⟩ := h
    rfl
  · simp only [Contribution.ofInfo, bind_eq_ok_iff, Except.ok.injEq] at h
    obtain ⟨_, -, _, -, _, -, _, -, _, -, _, -, rfl⟩ := h
    rfl
  · simp only [Contribution.ofContainerList, bind_eq_ok_iff, Except.ok.injEq] at h
    obtain ⟨_, -, _, -, _, -, rfl⟩ := h
    rfl
  · simp only [Contribution.ofNetworkList, bind_eq_ok_iff, Except.ok.injEq] at h
    obtain ⟨_, -, _, -, rfl⟩ := h
    rfl
  · simp only [Contribution.ofVolumeList, bind_eq_ok_iff, Except.ok.injEq] at h
    obtain ⟨_, -, _, -, rfl⟩ := h
    rfl
  all_goals exact ofInspect_api h

theorem requestedApi_eq_ok_iff :
    requestedApi decoding exchange = .ok after ↔
      ¬(exchange.apiVersion = none ∧ exchange.request ≠ .daemonVersion) ∧
        after = { decoding with
          requestedApiVersions := addApi decoding.requestedApiVersions exchange.apiVersion } := by
  rw [requestedApi]
  cases exchange.apiVersion with
  | some api =>
      simp only [Except.ok.injEq, addApi, reduceCtorEq, false_and, not_false_eq_true, true_and]
      split <;> exact eq_comm
  | none =>
      by_cases h : exchange.request = .daemonVersion
      · simpa [h, addApi] using eq_comm
      · simp [h]

theorem record_api {contribution : Contribution} {api : Option ApiVersion}
    (h : contribution.api = none) :
    ({ decoding with
      requestedApiVersions := addApi decoding.requestedApiVersions api } : Decoding).record
        contribution = decoding.record { contribution with api } := by
  simp [Decoding.record, h, addApi]

theorem admits_api {contribution : Contribution} {api : Option ApiVersion}
    {apis : List ApiVersion} :
    Admits { decoding with requestedApiVersions := apis } contribution ↔
      Admits decoding { contribution with api } := by
  constructor <;> rintro ⟨hrelease, hversion, hinfo, hlisting, hinspected⟩ <;>
    exact ⟨hrelease, hversion, hinfo, hlisting, hinspected⟩

/-- One round of the decode loop records the contribution of its exchange, unless it is in
conflict with what was decoded before. -/
theorem decodeExchange_eq_ok_iff :
    decodeExchange fromSlice capture decoding exchange = .ok after ↔ ∃ contribution,
      Contribution.ofExchange fromSlice capture exchange = .ok contribution ∧
        Admits decoding contribution ∧ after = decoding.record contribution := by
  rw [decodeExchange, Contribution.ofExchange]
  split
  · simp
  split
  · simp
  cases fromSlice exchange.body with
  | none => simp
  | some body =>
      simp only [bind_eq_ok_iff, requestedApi_eq_ok_iff]
      by_cases hmissing : exchange.apiVersion = none ∧ exchange.request ≠ .daemonVersion
      · simp [hmissing]
      simp only [if_neg hmissing]
      constructor
      · rintro ⟨_, ⟨-, rfl⟩, h⟩
        obtain ⟨contribution, hbody, hadmits, rfl⟩ := decodeBody_eq_ok_iff.mp h
        exact ⟨_, by rw [hbody]; rfl, admits_api.mp hadmits, record_api (ofBody_api hbody)⟩
      · rintro ⟨contribution, hcontribution, hadmits, rfl⟩
        cases hbody : Contribution.ofBody fromSlice capture exchange body with
        | error => simp [hbody, Except.map] at hcontribution
        | ok found =>
            simp only [hbody, Except.map, Except.ok.injEq] at hcontribution
            subst hcontribution
            exact ⟨_, ⟨hmissing, rfl⟩, decodeBody_eq_ok_iff.mpr
              ⟨found, hbody, admits_api.mpr hadmits, (record_api (ofBody_api hbody)).symm⟩⟩

end

section
variable {fromSlice : Bytes → Option Value} {capture : Capture} {exchange : CapturedExchange}

theorem ofInspect_listing {kind : RootKind} {id : NativeId} {body : Value}
    {contribution : Contribution}
    (h : Contribution.ofInspect capture exchange kind id body = .ok contribution) :
    contribution.listing = none := by
  simp only [Contribution.ofInspect, bind_eq_ok_iff] at h
  obtain ⟨reference, -, h⟩ := h
  split at h
  · cases h
  simp only [bind_eq_ok_iff, Except.ok.injEq] at h
  obtain ⟨_, -, observed, hobserved, rfl⟩ := h
  obtain ⟨_, _, _, _, rfl⟩ := observation_eq_ok hobserved
  rfl

theorem replaySelection_isSome {body : Bytes} {selected : Option (Finset String)}
    (h : replaySelection fromSlice capture body = .ok selected) :
    selected.isSome = capture.selector.any replays := by
  rw [replaySelection] at h
  cases hselector : capture.selector with
  | none =>
      simp only [hselector, Except.ok.injEq] at h
      simp [← h]
  | some selector =>
      simp only [hselector] at h
      split at h
      · next hreplays =>
          split at h
          · cases h
          · simp only [Except.ok.injEq] at h
            simp [← h, hreplays]
      · next hreplays =>
          simp only [Except.ok.injEq] at h
          simpa [← h] using hreplays

/-- A list is replayed when the selector of its capture calls for it. -/
theorem ofExchange_listing {contribution : Contribution}
    (h : Contribution.ofExchange fromSlice capture exchange = .ok contribution) :
    ∀ selected ∈ contribution.listing, selected.isSome = capture.selector.any replays := by
  rw [Contribution.ofExchange] at h
  split at h
  · cases h
  split at h
  · cases h
  split at h
  · cases h
  split at h
  · cases h
  next body _ _ =>
  cases hbody : Contribution.ofBody fromSlice capture exchange body with
  | error => simp [hbody, Except.map] at h
  | ok found =>
      simp only [hbody, Except.map, Except.ok.injEq] at h
      subst h
      rw [Contribution.ofBody] at hbody
      split at hbody
      · simp only [Contribution.ofVersion, bind_eq_ok_iff, Except.ok.injEq] at hbody
        obtain ⟨_, -, _, -, _, -, _, -, rfl⟩ := hbody
        simp [Contribution.empty]
      · simp only [Contribution.ofInfo, bind_eq_ok_iff, Except.ok.injEq] at hbody
        obtain ⟨_, -, _, -, _, -, _, -, _, -, _, -, rfl⟩ := hbody
        simp [Contribution.empty]
      · simp only [Contribution.ofContainerList, bind_eq_ok_iff, Except.ok.injEq] at hbody
        obtain ⟨selected, hselected, _, -, _, -, rfl⟩ := hbody
        simpa using replaySelection_isSome hselected
      · simp only [Contribution.ofNetworkList, bind_eq_ok_iff, Except.ok.injEq] at hbody
        obtain ⟨_, -, _, -, rfl⟩ := hbody
        simp [Contribution.empty]
      · simp only [Contribution.ofVolumeList, bind_eq_ok_iff, Except.ok.injEq] at hbody
        obtain ⟨_, -, _, -, rfl⟩ := hbody
        simp [Contribution.empty]
      all_goals simp [ofInspect_listing hbody]

end

end DockerLens.Decoder
