import DockerLens.Acquisition.Picks
import DockerLens.Decoder.Run

namespace DockerLens.Decoder

open DockerLens.Text
open DockerLens.Json
open DockerLens.Observation
open DockerLens.Acquisition
open DockerLens.Version
open DockerLens.Evidence
open DockerLens.Fold

/-- The errors that say that a capture is not accounted for, rather than that the
daemon answered with an unusable body. -/
def IsAccountingError : DecodeError → Prop
  | .unexpectedStatus | .responseTooLarge | .missingApiVersion | .apiVersionOutOfRange
  | .duplicateResource | .incompleteInventory => True
  | .invalidJson | .invalidShape _ | .invalidValue _ | .conflictingFacts
  | .collectionTooLarge => False

/-- A computation without accounting errors. -/
abbrev Accounts {α : Type} (x : Except DecodeError α) : Prop :=
  Raises (fun error => ¬ IsAccountingError error) x

theorem accounts_of_field {α : Type} {x : Except DecodeError α} (h : Raises IsFieldError x) :
    Accounts x :=
  h.mono fun error herror => by cases error <;> simp_all [IsFieldError, IsAccountingError]

theorem accounts_conflict {α : Type} :
    Accounts (.error .conflictingFacts : Except DecodeError α) :=
  .error id

section
variable {fromSlice : Bytes → Option Value} {capture : Capture} {decoding : Decoding}
  {exchange : CapturedExchange} {body : Value}

theorem accounts_mergeRelease {known found : Option EngineRelease} :
    Accounts (mergeRelease known found) := by
  unfold mergeRelease
  split
  · exact .ok
  · split
    · exact accounts_conflict
    · exact .ok

theorem accounts_decodeVersion : Accounts (decodeVersion decoding body) := by
  rw [decodeVersion]
  split
  · exact accounts_conflict
  · exact .bind (accounts_of_field raises_object) fun _ =>
      .bind (accounts_of_field raises_releaseField) fun _ => .bind accounts_mergeRelease fun _ =>
      .bind (accounts_of_field raises_versionField) fun _ =>
      .bind (accounts_of_field raises_versionField) fun _ => .ok

theorem raises_rootlessOption : Raises IsFieldError (rootlessOption body) := by
  refine .bind raises_fieldValue fun found => ?_
  split
  · exact .ok
  · split
    · exact .ok
    · exact .bind raises_array fun _ => .bind (.mapM fun _ => raises_shaped) fun _ => .ok

theorem raises_rootlessField : Raises IsFieldError (rootlessField body) := by
  refine .bind raises_fieldValue fun found => ?_
  split
  · exact .ok
  · split
    · exact .ok
    · exact .map raises_shaped

theorem accounts_mergeMode {known : DaemonMode} {option : Bool} {field : Option Bool} :
    Accounts (mergeMode known option field) := by
  cases field with
  | none => exact .ok
  | some rootless =>
      simp only [mergeMode]
      generalize (if option = true then DaemonMode.rootless else known) = merged
      split <;> split <;> first | exact accounts_conflict | exact .ok

theorem accounts_decodeInfo : Accounts (decodeInfo decoding body) := by
  rw [decodeInfo]
  split
  · exact accounts_conflict
  · exact .bind (accounts_of_field raises_object) fun _ =>
      .bind (accounts_of_field raises_boolField) fun _ =>
      .bind (accounts_of_field raises_boolField) fun _ =>
      .bind (accounts_of_field raises_releaseField) fun _ => .bind accounts_mergeRelease fun _ =>
      .bind (accounts_of_field raises_rootlessOption) fun _ =>
      .bind (accounts_of_field raises_rootlessField) fun _ => .bind accounts_mergeMode fun _ => .ok

theorem raises_listedContainer {item : Value} : Raises IsFieldError (listedContainer item) :=
  .bind raises_listedId fun _ => .bind raises_containerSummary fun _ => .ok

theorem accounts_decodeContainerList
    (hselected : ∀ selector ∈ capture.selector, replays selector = true →
      ∃ picked, selectedIds fromSlice exchange.body selector = .ok picked) :
    Accounts (decodeContainerList fromSlice capture decoding exchange body) := by
  rw [decodeContainerList]
  split
  · exact accounts_conflict
  refine .bind ?_ fun _ => .bind (accounts_of_field raises_array) fun _ =>
    .bind (accounts_of_field (.mapM fun _ => raises_listedContainer)) fun _ => .ok
  rw [replaySelection]
  cases hselector : capture.selector with
  | none => exact .ok
  | some selector =>
      dsimp only
      split
      · next hreplays =>
          obtain ⟨picked, hpicked⟩ := hselected selector hselector hreplays
          rw [hpicked]
          exact .ok
      · exact .ok

theorem accounts_decodeNetworkList : Accounts (decodeNetworkList decoding body) :=
  accounts_of_field <| .bind raises_array fun _ =>
    .bind (.mapM fun _ => raises_listedId) fun _ => .ok

theorem raises_listedVolumes : Raises IsFieldError (listedVolumes body) := by
  refine .bind raises_fieldValue fun found => ?_
  split
  · exact .ok
  · split
    · exact .ok
    · exact .bind raises_array fun _ => .mapM fun _ => raises_listedId

theorem accounts_decodeVolumeList : Accounts (decodeVolumeList decoding body) :=
  accounts_of_field <| .bind raises_object fun _ => .bind raises_listedVolumes fun _ => .ok

theorem raises_observeInspected {reference : ResourceRef} {kind : RootKind} :
    Raises IsFieldError (observeInspected decoding body reference kind) := by
  cases kind with
  | container => exact .map raises_container
  | network => exact .map raises_network
  | volume => exact .map raises_volume

theorem accounts_decodeInspect {kind : RootKind} {id : NativeId}
    (hnative : ∀ nativeId, (body.get (nativeKey kind)).bind Value.asStr = some nativeId →
      nativeId ∉ decoding.inspectedNativeObjects kind)
    (hseen : ∀ reference, exchange.resource = some reference →
      (kind, reference) ∉ decoding.seenResources) :
    Accounts (decodeInspect capture decoding exchange kind id body) := by
  rw [decodeInspect]
  cases hreference : exchange.resource with
  | none => exact .error fun h => h
  | some reference =>
      change Accounts (if _ then _ else _)
      split
      · exact accounts_conflict
      · cases hkey : ((body.get (nativeKey kind)).bind Value.asStr).filter (· ≠ "") with
        | none => exact .error fun h => h
        | some nativeId =>
            have hfound := (Option.filter_eq_some_iff.mp hkey).1
            simp only [shaped, ok_bind, if_neg (hnative nativeId hfound),
              if_neg (hseen reference hreference)]
            exact accounts_of_field raises_observeInspected

/-- An exchange that accounting has nothing against, after what was decoded before it. -/
structure Accountable (fromSlice : Bytes → Option Value) (capture : Capture)
    (decoding : Decoding) (exchange : CapturedExchange) : Prop where
  status : exchange.status.code = 200
  body_le : exchange.body.length ≤ maxJsonBytes
  api : exchange.apiVersion = none → exchange.request = .daemonVersion
  selected : exchange.request = .listContainers → ∀ selector ∈ capture.selector,
    replays selector = true → ∃ picked, selectedIds fromSlice exchange.body selector = .ok picked
  native : ∀ kind id body nativeId, exchange.request.inspected = some (kind, id) →
    fromSlice exchange.body = some body →
    (body.get (nativeKey kind)).bind Value.asStr = some nativeId →
    nativeId ∉ decoding.inspectedNativeObjects kind
  unseen : ∀ kind id reference, exchange.request.inspected = some (kind, id) →
    exchange.resource = some reference → (kind, reference) ∉ decoding.seenResources

theorem accounts_decodeExchange (h : Accountable fromSlice capture decoding exchange) :
    Accounts (decodeExchange fromSlice capture decoding exchange) := by
  rw [decodeExchange, if_neg (not_not.mpr h.status), if_neg (not_lt.mpr h.body_le)]
  cases hbody : fromSlice exchange.body with
  | none => exact .error fun h => h
  | some body =>
      have happi : ∀ error, requestedApi decoding exchange ≠ .error error := by
        intro error herror
        rw [requestedApi] at herror
        split at herror
        · cases herror
        · next hnone => simp [h.api hnone] at herror
      change Accounts (requestedApi decoding exchange >>= _)
      cases hrequested : requestedApi decoding exchange with
      | error error => exact absurd hrequested (happi error)
      | ok decoding' =>
          obtain ⟨-, rfl⟩ := requestedApi_eq_ok_iff.mp hrequested
          rw [ok_bind, decodeBody]
          have hinspect : ∀ kind id, exchange.request.inspected = some (kind, id) →
              Accounts (decodeInspect capture { decoding with
                requestedApiVersions :=
                  addApi decoding.requestedApiVersions exchange.apiVersion } exchange kind id
                body) := fun kind id hrequest =>
            accounts_decodeInspect (fun nativeId => h.native kind id body nativeId hrequest hbody)
              fun reference => h.unseen kind id reference hrequest
          cases hrequest : exchange.request with
          | daemonVersion => exact accounts_decodeVersion
          | daemonInfo => exact accounts_decodeInfo
          | listContainers => exact accounts_decodeContainerList (h.selected hrequest)
          | listNetworks => exact accounts_decodeNetworkList
          | listVolumes => exact accounts_decodeVolumeList
          | inspectContainer id => exact hinspect .container id (by rw [hrequest]; rfl)
          | inspectNetwork id => exact hinspect .network id (by rw [hrequest]; rfl)
          | inspectVolume id => exact hinspect .volume id (by rw [hrequest]; rfl)

/-- The native object that an inspection is of, by its body. -/
def nativeOf (fromSlice : Bytes → Option Value) (exchange : CapturedExchange) :
    Option (RootKind × String) := do
  let (kind, _) ← exchange.request.inspected
  let body ← fromSlice exchange.body
  let nativeId ← (body.get (nativeKey kind)).bind Value.asStr
  some (kind, nativeId)

/-- The kind and the reference of an inspection. -/
def referenceOf (exchange : CapturedExchange) : Option (RootKind × ResourceRef) := do
  let (kind, _) ← exchange.request.inspected
  let reference ← exchange.resource
  some (kind, reference)

theorem nativeOf_eq_some {kind : RootKind} {id : NativeId} {nativeId : String}
    (hrequest : exchange.request.inspected = some (kind, id))
    (hbody : fromSlice exchange.body = some body)
    (hnative : (body.get (nativeKey kind)).bind Value.asStr = some nativeId) :
    nativeOf fromSlice exchange = some (kind, nativeId) := by
  simp [nativeOf, hrequest, hbody, hnative]

theorem referenceOf_eq_some {kind : RootKind} {id : NativeId} {reference : ResourceRef}
    (hrequest : exchange.request.inspected = some (kind, id))
    (hreference : exchange.resource = some reference) :
    referenceOf exchange = some (kind, reference) := by
  simp [referenceOf, hrequest, hreference]

/-- What the exchanges decoded so far have put into the sets of the decoder. -/
theorem decoded_accounts {consumed : List CapturedExchange} {contributions : List Contribution}
    (h : List.Forall₂ (fun exchange contribution =>
      Contribution.ofExchange fromSlice capture exchange = .ok contribution)
        consumed contributions) :
    (∀ kind nativeId, nativeId ∈
        (Decoding.start.recordAll contributions).inspectedNativeObjects kind →
      (kind, nativeId) ∈ consumed.filterMap (nativeOf fromSlice)) ∧
    ∀ entry ∈ (Decoding.start.recordAll contributions).seenResources,
      entry ∈ consumed.filterMap referenceOf := by
  constructor
  · intro kind nativeId hmem
    rw [Decoding.mem_inspectedNativeObjects] at hmem
    rcases hmem with hmem | ⟨contribution, hcontribution, resource, hresource, rfl, rfl⟩
    · exact absurd hmem (Finset.notMem_empty _)
    · obtain ⟨exchange, hexchange, hof⟩ := exists_of_forall₂_right h hcontribution
      obtain ⟨id, body, hrequest, -, -, hbody, hnative⟩ := resource_of_ofExchange hof hresource
      exact List.mem_filterMap.mpr
        ⟨exchange, hexchange, nativeOf_eq_some hrequest hbody hnative⟩
  · intro entry hmem
    rw [Decoding.mem_seenResources] at hmem
    rcases hmem with hmem | ⟨contribution, hcontribution, resource, hresource, rfl⟩
    · exact absurd hmem (Finset.notMem_empty _)
    · obtain ⟨exchange, hexchange, hof⟩ := exists_of_forall₂_right h hcontribution
      obtain ⟨id, body, hrequest, -, hreference, -⟩ := resource_of_ofExchange hof hresource
      exact List.mem_filterMap.mpr
        ⟨exchange, hexchange, referenceOf_eq_some hrequest hreference⟩

theorem not_mem_of_nodup_append {α β : Type} {f : α → Option β} {front back : List α} {a : α}
    {b : β} (hnodup : ((front ++ a :: back).filterMap f).Nodup) (hb : f a = some b) :
    b ∉ front.filterMap f := by
  intro hmem
  rw [List.filterMap_append, List.nodup_append] at hnodup
  exact hnodup.2.2 b hmem b (by simp [hb]) rfl

theorem accounts_loop {exchanges : List CapturedExchange}
    (hnatives : (exchanges.filterMap (nativeOf fromSlice)).Nodup)
    (hreferences : (exchanges.filterMap referenceOf).Nodup)
    (hexchange : ∀ exchange ∈ exchanges, exchange.status.code = 200 ∧
      exchange.body.length ≤ maxJsonBytes ∧
      (exchange.apiVersion = none → exchange.request = .daemonVersion) ∧
      (exchange.request = .listContainers → ∀ selector ∈ capture.selector,
        replays selector = true →
          ∃ picked, selectedIds fromSlice exchange.body selector = .ok picked)) :
    Accounts (exchanges.foldlM (decodeExchange fromSlice capture) Decoding.start) := by
  refine raises_foldlM (motive := Decoded fromSlice capture) (fun _ _ _ _ => Decoded.step)
    decoded_start ?_
  rintro consumed _ exchange rest rfl ⟨contributions, hcontributions, rfl⟩
  obtain ⟨hstatus, hbody, hmissing, hselected⟩ := hexchange exchange (by simp)
  obtain ⟨hnative, hseen⟩ := decoded_accounts hcontributions
  refine accounts_decodeExchange ⟨hstatus, hbody, hmissing, hselected, ?_, ?_⟩
  · intro kind id body nativeId hrequest hbody hfound hmem
    exact not_mem_of_nodup_append hnatives (nativeOf_eq_some hrequest hbody hfound)
      (hnative kind nativeId hmem)
  · intro kind id reference hrequest hreference hmem
    exact not_mem_of_nodup_append hreferences (referenceOf_eq_some hrequest hreference)
      (hseen _ hmem)

end

end DockerLens.Decoder
