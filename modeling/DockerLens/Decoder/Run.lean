import DockerLens.Decoder.Contribution

namespace DockerLens.Decoder

open DockerLens.Text
open DockerLens.Json
open DockerLens.Observation
open DockerLens.Acquisition
open DockerLens.Version
open DockerLens.Evidence
open DockerLens.Fold

namespace Decoding

variable {decoding : Decoding} {contributions : List Contribution}

def recordAll (decoding : Decoding) (contributions : List Contribution) : Decoding :=
  contributions.foldl record decoding

theorem mem_seenResources {entry : RootKind × ResourceRef} :
    entry ∈ (decoding.recordAll contributions).seenResources ↔
      entry ∈ decoding.seenResources ∨ ∃ contribution ∈ contributions,
        ∃ resource ∈ contribution.inspected, entry = (resource.kind, resource.reference) := by
  refine foldl_iff (fun decoding : Decoding => entry ∈ decoding.seenResources)
    fun decoding contribution => ?_
  cases h : contribution.inspected with
  | none => simp [record, h]
  | some resource => simp [record, h, or_comm]

theorem mem_addIds {sets : RootKind → Finset String} {kind other : RootKind}
    {ids : Finset String} {id : String} :
    id ∈ addIds sets kind ids other ↔ id ∈ sets other ∨ other = kind ∧ id ∈ ids := by
  rw [addIds]
  split <;> simp_all

theorem mem_inspectedNativeObjects {kind : RootKind} {nativeId : String} :
    nativeId ∈ (decoding.recordAll contributions).inspectedNativeObjects kind ↔
      nativeId ∈ decoding.inspectedNativeObjects kind ∨ ∃ contribution ∈ contributions,
        ∃ resource ∈ contribution.inspected, kind = resource.kind ∧
          nativeId = resource.nativeId := by
  refine foldl_iff
    (fun decoding : Decoding => nativeId ∈ decoding.inspectedNativeObjects kind)
    fun decoding contribution => ?_
  cases h : contribution.inspected with
  | none => simp [record, h]
  | some resource => simp [record, h, mem_addIds]

theorem mem_inspectedIds {kind : RootKind} {id : String} :
    id ∈ (decoding.recordAll contributions).inspectedIds kind ↔
      id ∈ decoding.inspectedIds kind ∨ ∃ contribution ∈ contributions,
        ∃ resource ∈ contribution.inspected, kind = resource.kind ∧ id = resource.id := by
  refine foldl_iff (fun decoding : Decoding => id ∈ decoding.inspectedIds kind)
    fun decoding contribution => ?_
  cases h : contribution.inspected with
  | none => simp [record, h]
  | some resource => simp [record, h, mem_addIds]

theorem mem_listedIds {kind : RootKind} {id : String} :
    id ∈ (decoding.recordAll contributions).listedIds kind ↔
      id ∈ decoding.listedIds kind ∨ ∃ contribution ∈ contributions,
        id ∈ contribution.listed kind :=
  foldl_iff (fun decoding : Decoding => id ∈ decoding.listedIds kind)
    fun decoding contribution => by simp [record]

theorem mem_requestedApiVersions {api : ApiVersion} :
    api ∈ (decoding.recordAll contributions).requestedApiVersions ↔
      api ∈ decoding.requestedApiVersions ∨ ∃ contribution ∈ contributions,
        contribution.api = some api := by
  refine foldl_iff (fun decoding : Decoding => api ∈ decoding.requestedApiVersions)
    fun decoding contribution => ?_
  cases h : contribution.api with
  | none => simp [record, h, addApi]
  | some other =>
      simp only [record, h, addApi, Option.some.injEq]
      split
      · next hmem =>
          simp only [iff_self_or]
          rintro rfl
          exact hmem
      · simp [eq_comm]

theorem containers_recordAll :
    (decoding.recordAll contributions).containers =
      decoding.containers ++ contributions.flatMap Contribution.containers :=
  foldl_append Decoding.containers fun _ _ => rfl

theorem networks_recordAll :
    (decoding.recordAll contributions).networks =
      decoding.networks ++ contributions.flatMap Contribution.networks :=
  foldl_append Decoding.networks fun _ _ => rfl

theorem volumes_recordAll :
    (decoding.recordAll contributions).volumes =
      decoding.volumes ++ contributions.flatMap Contribution.volumes :=
  foldl_append Decoding.volumes fun _ _ => rfl

theorem recordAll_cons (contribution : Contribution) (contributions : List Contribution) :
    decoding.recordAll (contribution :: contributions) =
      (decoding.record contribution).recordAll contributions := rfl

theorem bounds_recordAll (h : ∀ contribution ∈ contributions, contribution.version = none) :
    (decoding.recordAll contributions).apiVersion = decoding.apiVersion ∧
      (decoding.recordAll contributions).minimumApiVersion = decoding.minimumApiVersion :=
  ⟨foldl_unchanged apiVersion fun _ contribution hmem => by
      simp [record, h contribution hmem],
    foldl_unchanged minimumApiVersion fun _ contribution hmem => by
      simp [record, h contribution hmem]⟩

theorem selectedFromList_recordAll
    (h : ∀ contribution ∈ contributions, contribution.listing = none) :
    (decoding.recordAll contributions).selectedFromList = decoding.selectedFromList :=
  foldl_unchanged selectedFromList fun _ contribution hmem => by
    simp [record, h contribution hmem]

/-- The contributions that name a container by this reference name it by this id. -/
def NamesContainer (reference : ResourceRef) (id : String) (contribution : Contribution) : Prop :=
  ∀ resource ∈ contribution.inspected, resource.kind = .container →
    resource.reference = reference → resource.id = id

theorem byRef_recordAll_of_some {reference : ResourceRef} {id : String}
    (hnames : ∀ contribution ∈ contributions, NamesContainer reference id contribution)
    (h : decoding.inspectedContainersByRef reference = some id) :
    (decoding.recordAll contributions).inspectedContainersByRef reference = some id := by
  induction contributions generalizing decoding with
  | nil => exact h
  | cons contribution contributions ih =>
      refine ih (fun other hother => hnames other (List.mem_cons_of_mem _ hother)) ?_
      have hhead := hnames contribution List.mem_cons_self
      cases hinspected : contribution.inspected with
      | none => simpa [record, hinspected] using h
      | some resource =>
          simp only [record, hinspected, Option.map_some, Option.getD_some, addContainer]
          split
          · next hsame => rw [hhead resource hinspected hsame.1 hsame.2.symm]
          · exact h

theorem byRef_recordAll {reference : ResourceRef} {id : String}
    (hnames : ∀ contribution ∈ contributions, NamesContainer reference id contribution)
    {contribution : Contribution} (hmem : contribution ∈ contributions)
    {resource : InspectedResource} (hinspected : contribution.inspected = some resource)
    (hkind : resource.kind = .container)
    (hreference : resource.reference = reference) :
    (decoding.recordAll contributions).inspectedContainersByRef reference = some id := by
  obtain ⟨front, back, rfl⟩ := List.append_of_mem hmem
  rw [recordAll, List.foldl_append, List.foldl_cons]
  refine byRef_recordAll_of_some
    (fun other hother => hnames other (by simp [hother])) ?_
  have hid := hnames contribution hmem resource hinspected hkind hreference
  simp [record, hinspected, addContainer, hkind, hreference, hid]

end Decoding

section
variable {fromSlice : Bytes → Option Value} {capture : Capture}

/-- A decode state that holds the contributions of some exchanges. -/
def Decoded (fromSlice : Bytes → Option Value) (capture : Capture)
    (exchanges : List CapturedExchange) (decoding : Decoding) : Prop :=
  ∃ contributions, List.Forall₂ (fun exchange contribution =>
      Contribution.ofExchange fromSlice capture exchange = .ok contribution)
        exchanges contributions ∧
    decoding = Decoding.start.recordAll contributions

theorem decoded_start : Decoded fromSlice capture [] .start := ⟨[], .nil, rfl⟩

theorem Decoded.step {exchanges : List CapturedExchange} {exchange : CapturedExchange}
    {decoding next : Decoding} (h : Decoded fromSlice capture exchanges decoding)
    (hstep : decodeExchange fromSlice capture decoding exchange = .ok next) :
    Decoded fromSlice capture (exchanges ++ [exchange]) next := by
  obtain ⟨contributions, hcontributions, rfl⟩ := h
  obtain ⟨contribution, hcontribution, -, rfl⟩ := decodeExchange_eq_ok_iff.mp hstep
  exact ⟨contributions ++ [contribution],
    List.rel_append hcontributions (.cons hcontribution .nil), by simp [Decoding.recordAll]⟩

theorem decode_eq_ok {exchanges : List CapturedExchange} {decoding : Decoding}
    (h : exchanges.foldlM (decodeExchange fromSlice capture) .start = .ok decoding) :
    Decoded fromSlice capture exchanges decoding :=
  foldlM_induction (motive := Decoded fromSlice capture) (fun _ _ _ _ => Decoded.step)
    decoded_start h

theorem decodeCapture_eq_ok {inventory : DecodedInventory}
    (h : decodeCapture fromSlice capture = .ok inventory) :
    ∃ decoding, capture.exchanges.foldlM (decodeExchange fromSlice capture) .start = .ok decoding ∧
      capture.exchanges.length ≤ maxCollectionItems ∧ complete capture decoding = true ∧
      inventory = decodedInventory capture decoding := by
  rw [decodeCapture] at h
  split at h
  · cases h
  next hlength =>
  obtain ⟨decoding, hdecoding, hfinish⟩ := bind_eq_ok_iff.mp h
  rw [finish] at hfinish
  split at hfinish
  · cases hfinish
  next hcomplete =>
  split at hfinish
  · cases hfinish
  exact ⟨decoding, hdecoding, not_lt.mp hlength, by simpa using hcomplete,
    (Except.ok.inj hfinish).symm⟩

/-- What the contribution of an inspection says. -/
structure Inspected (fromSlice : Bytes → Option Value) (capture : Capture)
    (exchange : CapturedExchange) (kind : RootKind) (id : NativeId) (reference : ResourceRef)
    (contribution : Contribution) (body : Value) (nativeId : String) : Prop where
  body_eq : fromSlice exchange.body = some body
  identity : (body.get (identityKey capture kind reference)).bind Value.asStr = some id.text
  native : (body.get (nativeKey kind)).bind Value.asStr = some nativeId
  observation : ∃ observed, Contribution.observation body reference kind = .ok observed ∧
    contribution = { observed with
      inspected := some ⟨kind, reference, id.text, nativeId⟩
      api := exchange.apiVersion }

theorem ofExchange_eq_ok {exchange : CapturedExchange} {contribution : Contribution}
    (h : Contribution.ofExchange fromSlice capture exchange = .ok contribution) :
    ∃ body found, fromSlice exchange.body = some body ∧
      Contribution.ofBody fromSlice capture exchange body = .ok found ∧
      contribution = { found with api := exchange.apiVersion } := by
  rw [Contribution.ofExchange] at h
  split at h
  · cases h
  split at h
  · cases h
  split at h
  · cases h
  next body hbody =>
  split at h
  · cases h
  cases hfound : Contribution.ofBody fromSlice capture exchange body with
  | error => simp [hfound, Except.map] at h
  | ok found =>
      simp only [hfound, Except.map, Except.ok.injEq] at h
      exact ⟨body, found, hbody, hfound, h.symm⟩

theorem ofInspect_plain {exchange : CapturedExchange} {kind : RootKind} {id : NativeId}
    {body : Value} {contribution : Contribution}
    (h : Contribution.ofInspect capture exchange kind id body = .ok contribution) :
    contribution.version = none ∧ contribution.listing = none ∧
      contribution.listed = fun _ => ∅ := by
  simp only [Contribution.ofInspect, bind_eq_ok_iff] at h
  obtain ⟨reference, -, h⟩ := h
  split at h
  · cases h
  simp only [bind_eq_ok_iff, Except.ok.injEq] at h
  obtain ⟨_, -, observed, hobserved, rfl⟩ := h
  obtain ⟨_, _, _, _, rfl⟩ := observation_eq_ok hobserved
  exact ⟨rfl, rfl, rfl⟩

theorem ofBody_uninspected {exchange : CapturedExchange} {body : Value}
    {contribution : Contribution} (hrequest : exchange.request.inspected = none)
    (h : Contribution.ofBody fromSlice capture exchange body = .ok contribution) :
    contribution.inspected = none ∧ contribution.containers = [] ∧ contribution.networks = [] ∧
      contribution.volumes = [] := by
  rw [Contribution.ofBody] at h
  split at h
  · simp only [Contribution.ofVersion, bind_eq_ok_iff, Except.ok.injEq] at h
    obtain ⟨_, -, _, -, _, -, _, -, rfl⟩ := h
    exact ⟨rfl, rfl, rfl, rfl⟩
  · simp only [Contribution.ofInfo, bind_eq_ok_iff, Except.ok.injEq] at h
    obtain ⟨_, -, _, -, _, -, _, -, _, -, _, -, rfl⟩ := h
    exact ⟨rfl, rfl, rfl, rfl⟩
  · simp only [Contribution.ofContainerList, bind_eq_ok_iff, Except.ok.injEq] at h
    obtain ⟨_, -, _, -, _, -, rfl⟩ := h
    exact ⟨rfl, rfl, rfl, rfl⟩
  · simp only [Contribution.ofNetworkList, bind_eq_ok_iff, Except.ok.injEq] at h
    obtain ⟨_, -, _, -, rfl⟩ := h
    exact ⟨rfl, rfl, rfl, rfl⟩
  · simp only [Contribution.ofVolumeList, bind_eq_ok_iff, Except.ok.injEq] at h
    obtain ⟨_, -, _, -, rfl⟩ := h
    exact ⟨rfl, rfl, rfl, rfl⟩
  all_goals simp_all [ReadRequest.inspected]

/-- Only the version exchange fills in the API bounds. -/
theorem version_of_ofExchange {exchange : CapturedExchange} {contribution : Contribution}
    (h : Contribution.ofExchange fromSlice capture exchange = .ok contribution) :
    match exchange.request with
    | .daemonVersion => ∃ body bounds, fromSlice exchange.body = some body ∧
        contribution.version = some bounds ∧ versionField body "ApiVersion" = .ok bounds.1 ∧
        versionField body "MinAPIVersion" = .ok bounds.2
    | _ => contribution.version = none := by
  obtain ⟨body, found, hbody, hfound, rfl⟩ := ofExchange_eq_ok h
  rw [Contribution.ofBody] at hfound
  cases hrequest : exchange.request with
  | daemonVersion =>
      simp only [hrequest, Contribution.ofVersion, bind_eq_ok_iff, Except.ok.injEq] at hfound
      obtain ⟨_, -, release, -, api, hapi, minimum, hminimum, rfl⟩ := hfound
      exact ⟨body, (api, minimum), hbody, rfl, hapi, hminimum⟩
  | daemonInfo =>
      simp only [hrequest, Contribution.ofInfo, bind_eq_ok_iff, Except.ok.injEq] at hfound
      obtain ⟨_, -, _, -, _, -, _, -, _, -, _, -, rfl⟩ := hfound
      rfl
  | listContainers =>
      simp only [hrequest, Contribution.ofContainerList, bind_eq_ok_iff,
        Except.ok.injEq] at hfound
      obtain ⟨_, -, _, -, _, -, rfl⟩ := hfound
      rfl
  | listNetworks =>
      simp only [hrequest, Contribution.ofNetworkList, bind_eq_ok_iff, Except.ok.injEq] at hfound
      obtain ⟨_, -, _, -, rfl⟩ := hfound
      rfl
  | listVolumes =>
      simp only [hrequest, Contribution.ofVolumeList, bind_eq_ok_iff, Except.ok.injEq] at hfound
      obtain ⟨_, -, _, -, rfl⟩ := hfound
      rfl
  | inspectContainer _ | inspectNetwork _ | inspectVolume _ =>
      simp only [hrequest] at hfound
      exact (ofInspect_plain hfound).1

/-- Only the container list replays a selection, and among acquired exchanges only it lists. -/
theorem listing_of_ofExchange {exchange : CapturedExchange} {contribution : Contribution}
    (h : Contribution.ofExchange fromSlice capture exchange = .ok contribution) :
    match exchange.request with
    | .listContainers => ∃ body items found selected, fromSlice exchange.body = some body ∧
        body.asArray = some items ∧ items.mapM listedContainer = .ok found ∧
        contribution.listed = addIds (fun _ => ∅) .container (found.map Prod.fst).toFinset ∧
        contribution.listing = some selected ∧
        replaySelection fromSlice capture exchange.body = .ok selected
    | .listNetworks | .listVolumes => contribution.listing = none
    | _ => contribution.listing = none ∧ contribution.listed = fun _ => ∅ := by
  obtain ⟨body, found, hbody, hfound, rfl⟩ := ofExchange_eq_ok h
  rw [Contribution.ofBody] at hfound
  cases hrequest : exchange.request with
  | daemonVersion =>
      simp only [hrequest, Contribution.ofVersion, bind_eq_ok_iff, Except.ok.injEq] at hfound
      obtain ⟨_, -, _, -, _, -, _, -, rfl⟩ := hfound
      exact ⟨rfl, rfl⟩
  | daemonInfo =>
      simp only [hrequest, Contribution.ofInfo, bind_eq_ok_iff, Except.ok.injEq] at hfound
      obtain ⟨_, -, _, -, _, -, _, -, _, -, _, -, rfl⟩ := hfound
      exact ⟨rfl, rfl⟩
  | listContainers =>
      simp only [hrequest, Contribution.ofContainerList, bind_eq_ok_iff,
        Except.ok.injEq] at hfound
      obtain ⟨selected, hselected, items, hitems, listed, hlisted, rfl⟩ := hfound
      exact ⟨body, items, listed, selected, hbody, asArray_of_array hitems, hlisted, rfl, rfl,
        hselected⟩
  | listNetworks =>
      simp only [hrequest, Contribution.ofNetworkList, bind_eq_ok_iff, Except.ok.injEq] at hfound
      obtain ⟨_, -, _, -, rfl⟩ := hfound
      rfl
  | listVolumes =>
      simp only [hrequest, Contribution.ofVolumeList, bind_eq_ok_iff, Except.ok.injEq] at hfound
      obtain ⟨_, -, _, -, rfl⟩ := hfound
      rfl
  | inspectContainer _ | inspectNetwork _ | inspectVolume _ =>
      simp only [hrequest] at hfound
      exact (ofInspect_plain hfound).2

theorem ofExchange_inspected {exchange : CapturedExchange} {kind : RootKind} {id : NativeId}
    {reference : ResourceRef} {contribution : Contribution}
    (hrequest : exchange.request.inspected = some (kind, id))
    (hreference : exchange.resource = some reference)
    (h : Contribution.ofExchange fromSlice capture exchange = .ok contribution) :
    ∃ body nativeId, Inspected fromSlice capture exchange kind id reference contribution body
      nativeId := by
  obtain ⟨body, found, hbody, hfound, rfl⟩ := ofExchange_eq_ok h
  have hinspect : Contribution.ofInspect capture exchange kind id body = .ok found := by
    rw [Contribution.ofBody] at hfound
    cases hexchange : exchange.request <;>
      simp_all [ReadRequest.inspected]
  simp only [Contribution.ofInspect, hreference, shaped, ok_bind] at hinspect
  split at hinspect
  · cases hinspect
  next hidentity =>
  simp only [bind_eq_ok_iff, Except.ok.injEq] at hinspect
  obtain ⟨nativeId, hnative, observed, hobserved, rfl⟩ := hinspect
  have hkey := Option.filter_eq_some_iff.mp (shaped_eq_ok_iff.mp hnative)
  exact ⟨body, nativeId, hbody, by simpa using hidentity, hkey.1, observed, hobserved, rfl⟩

theorem resource_of_ofExchange {exchange : CapturedExchange} {contribution : Contribution}
    {resource : InspectedResource}
    (h : Contribution.ofExchange fromSlice capture exchange = .ok contribution)
    (hresource : contribution.inspected = some resource) :
    ∃ id body, exchange.request.inspected = some (resource.kind, id) ∧ id.text = resource.id ∧
      exchange.resource = some resource.reference ∧ fromSlice exchange.body = some body ∧
      (body.get (nativeKey resource.kind)).bind Value.asStr = some resource.nativeId := by
  cases hrequest : exchange.request.inspected with
  | none =>
      obtain ⟨body, found, -, hfound, rfl⟩ := ofExchange_eq_ok h
      rw [(ofBody_uninspected hrequest hfound).1] at hresource
      cases hresource
  | some entry =>
      cases hreference : exchange.resource with
      | none =>
          obtain ⟨body, found, -, hfound, rfl⟩ := ofExchange_eq_ok h
          rw [Contribution.ofBody] at hfound
          cases hexchange : exchange.request <;>
            simp_all [ReadRequest.inspected, Contribution.ofInspect, shaped]
      | some reference =>
          obtain ⟨body, nativeId, hinspected⟩ := ofExchange_inspected hrequest hreference h
          obtain ⟨observed, -, rfl⟩ := hinspected.observation
          cases hresource
          exact ⟨entry.2, body, rfl, rfl, rfl, hinspected.body_eq, hinspected.native⟩

end

end DockerLens.Decoder
