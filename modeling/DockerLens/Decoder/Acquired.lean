import DockerLens.Acquisition.Tightness
import DockerLens.Decoder.Replay
import DockerLens.Json.Document

namespace DockerLens.Decoder

open DockerLens.Text
open DockerLens.Json
open DockerLens.Observation
open DockerLens.Acquisition
open DockerLens.Version
open DockerLens.Evidence
open DockerLens.Fold

theorem parseApi_eq (text : String) : parseApi text = Acquisition.parseApi text := by
  rw [parseApi, Acquisition.parseApi]
  cases splitOnce '.' text.toList with
  | none => rfl
  | some parts =>
      obtain ⟨major, minor⟩ := parts
      cases hdot : minor.contains '.' with
      | false => exact if_congr (by rw [hdot, Bool.false_or]) rfl rfl
      | true =>
          have hdigits : minor.all Char.isDigit = false := by
            rw [List.all_eq_false]
            exact ⟨'.', by simpa using hdot, by decide⟩
          simp only [hdigits, Bool.not_false, Bool.or_true, if_true]

section
variable {fromSlice : Bytes → Option Value} {selector : Selector} {limits : Limits}
  {capture : Capture} {history : History} {decoding : Decoding}

theorem identified_iff {inspection : Inspection} :
    Identified fromSlice inspection ↔ ∃ body, fromSlice inspection.body = some body ∧
      (body.get inspection.identityKey).bind Value.asStr = some inspection.id.text := by
  rw [Identified, inspectIdentity]
  cases fromSlice inspection.body with
  | none => simp
  | some body => simp

theorem filterMap_exchanges {β : Type} {f : CapturedExchange → Option β}
    (hf : ∀ exchange, exchange.request.inspected = none → f exchange = none) :
    history.exchanges.filterMap f =
      history.found.filterMap fun inspection => f (inspection.exchange history.api) := by
  have hlist : (history.listBody.toList.map history.listExchange).filterMap f = [] := by
    rw [List.filterMap_eq_nil_iff]
    rintro exchange hexchange
    obtain ⟨body, -, rfl⟩ := List.mem_map.mp hexchange
    exact hf _ rfl
  rw [History.exchanges, List.filterMap_append, List.filterMap_append, hlist,
    List.filterMap_map]
  simp [hf history.versionExchange rfl, hf history.infoExchange rfl]

@[simp] theorem inspected_exchange (inspection : Inspection) :
    (inspection.exchange history.api).request.inspected =
      some (inspection.kind, inspection.id) :=
  inspection.request_inspected

theorem references_nodup (h : Acquired fromSlice selector limits capture history) :
    (history.found.map Inspection.reference).Nodup := by
  rw [h.references_eq]
  exact List.Nodup.map (fun _ _ hsame => ResourceRef.mk.inj hsame) List.nodup_range'

theorem filterMap_referenceOf_nodup (h : Acquired fromSlice selector limits capture history) :
    (history.exchanges.filterMap referenceOf).Nodup := by
  rw [filterMap_exchanges fun exchange hnone => by simp [referenceOf, hnone],
    @filterMap_of_forall _ _ _ (fun inspection => (inspection.kind, inspection.reference)) _
      fun inspection _ => by simp [referenceOf, Inspection.exchange]]
  refine List.Nodup.of_map Prod.snd ?_
  rw [List.map_map]
  exact references_nodup h

theorem nativeOf_identified {inspection : Inspection} (h : Identified fromSlice inspection)
    (hkey : inspection.identityKey = nativeKey inspection.kind) :
    nativeOf fromSlice (inspection.exchange history.api) =
      some (inspection.kind, inspection.id.text) := by
  obtain ⟨body, hbody, hid⟩ := identified_iff.mp h
  exact nativeOf_eq_some (inspected_exchange inspection) hbody (hkey ▸ hid)

theorem nativeOf_network {inspection : Inspection} {native : NativeId}
    (hkind : inspection.kind = .network)
    (h : inspectedNetworkId fromSlice inspection.body = .ok native) :
    nativeOf fromSlice (inspection.exchange history.api) = some (.network, native.text) := by
  rw [inspectedNetworkId] at h
  split at h
  · cases h
  next body hbody =>
  split at h
  · cases h
  next id hid =>
  cases h
  obtain ⟨text, htext, hnew⟩ := Option.bind_eq_some_iff.mp hid
  refine nativeOf_eq_some ((inspected_exchange inspection).trans (by rw [hkind])) hbody ?_
  rw [NativeId.new_eq_some_iff.mp hnew]
  exact htext

theorem natives_of_networks {found : List Inspection} {natives : List NativeId}
    (hkind : ∀ inspection ∈ found, inspection.kind = .network)
    (h : found.map (fun inspection => inspectedNetworkId fromSlice inspection.body) =
      natives.map .ok) :
    found.filterMap (fun inspection => nativeOf fromSlice (inspection.exchange history.api)) =
      natives.map fun id => (.network, id.text) := by
  induction found generalizing natives with
  | nil =>
      rw [List.map_nil, eq_comm, List.map_eq_nil_iff] at h
      simp [h]
  | cons inspection found ih =>
      cases natives with
      | nil => simp at h
      | cons native natives =>
          simp only [List.map_cons, List.cons.injEq] at h
          have hhead : nativeOf fromSlice (inspection.exchange history.api) =
              some (.network, native.text) :=
            nativeOf_network (hkind inspection List.mem_cons_self) h.1
          have hrest := ih (fun other hother => hkind other (List.mem_cons_of_mem _ hother)) h.2
          simp only [List.filterMap_cons, hhead, hrest, List.map_cons]

theorem nodup_map_tag {kind : RootKind} {ids : List NativeId} (h : ids.Nodup) :
    (ids.map fun id => (kind, id.text)).Nodup :=
  h.map fun _ _ hsame => NativeId.ext_text (Prod.mk.inj hsame).2

theorem inspections_id_nodup (h : Acquired fromSlice selector limits capture history)
    (kind : RootKind) : ((history.inspections kind).map Inspection.id).Nodup := by
  have hnodup := h.inspectedIds_nodup kind
  rw [h.inspectedIds_eq] at hnodup
  cases kind <;> exact hnodup

theorem natives_of_kind (h : Acquired fromSlice selector limits capture history)
    (kind : RootKind) : ∃ natives : List NativeId, natives.Nodup ∧
      (history.inspections kind).filterMap
        (fun inspection => nativeOf fromSlice (inspection.exchange history.api)) =
        natives.map fun id => (kind, id.text) := by
  have hidentified : kind ≠ .network → (history.inspections kind).filterMap
      (fun inspection => nativeOf fromSlice (inspection.exchange history.api)) =
      ((history.inspections kind).map Inspection.id).map fun id => (kind, id.text) := by
    intro hkind
    rw [List.map_map]
    refine filterMap_of_forall fun inspection hmem => ?_
    have hsame := h.inspections_kind hmem
    rw [nativeOf_identified (h.identified inspection (Acquired.mem_found.mpr ⟨kind, hmem⟩)) ?_,
      hsame]
    · rfl
    · cases kind <;> simp_all [Inspection.identityKey, nativeKey]
  cases kind with
  | container => exact ⟨_, inspections_id_nodup h .container, hidentified (by simp)⟩
  | volume => exact ⟨_, inspections_id_nodup h .volume, hidentified (by simp)⟩
  | network =>
      obtain ⟨natives, hnodup, hnatives⟩ := h.natives
      refine ⟨natives, hnodup, ?_⟩
      exact natives_of_networks h.networks_kind hnatives

theorem filterMap_nativeOf_nodup (h : Acquired fromSlice selector limits capture history) :
    (history.exchanges.filterMap (nativeOf fromSlice)).Nodup := by
  rw [filterMap_exchanges fun exchange hnone => by simp [nativeOf, hnone], History.found,
    List.filterMap_append, List.filterMap_append]
  obtain ⟨containers, hcontainers, hcontainersEq⟩ := natives_of_kind h .container
  obtain ⟨networks, hnetworks, hnetworksEq⟩ := natives_of_kind h .network
  obtain ⟨volumes, hvolumes, hvolumesEq⟩ := natives_of_kind h .volume
  simp only [History.inspections] at hcontainersEq hnetworksEq hvolumesEq
  rw [hcontainersEq, hnetworksEq, hvolumesEq]
  simp only [List.nodup_append, nodup_map_tag hcontainers, nodup_map_tag hnetworks,
    nodup_map_tag hvolumes, List.mem_append, List.mem_map, true_and]
  constructor
  · rintro _ ⟨id, -, rfl⟩ _ ⟨other, -, rfl⟩ hsame
    simp at hsame
  · rintro _ (⟨id, -, rfl⟩ | ⟨id, -, rfl⟩) _ ⟨other, -, rfl⟩ hsame <;> simp at hsame

theorem mem_exchanges {exchange : CapturedExchange} :
    exchange ∈ history.exchanges ↔ exchange = history.versionExchange ∨
      exchange = history.infoExchange ∨
      (∃ body, history.listBody = some body ∧ exchange = history.listExchange body) ∨
      ∃ inspection ∈ history.found, exchange = inspection.exchange history.api := by
  simp [History.exchanges, eq_comm]

theorem picked_of_replays (h : Acquired fromSlice selector limits capture history)
    {body : Bytes} (hbody : history.listBody = some body) :
    selectedIds fromSlice body selector = .ok history.picked := by
  have hpicks := h.picks
  rw [hbody] at hpicks
  cases selector with
  | containerIds _ | networkIds _ | volumeNames _ => cases hpicks.1
  | containerNames _ | namePrefix _ | label _ _ | discovery | allContainers =>
      obtain ⟨_, ⟨⟩, hselected⟩ := hpicks
      exact hselected

theorem accounts_acquired (h : Acquired fromSlice selector limits capture history) :
    Accounts (history.exchanges.foldlM (decodeExchange fromSlice capture) .start) := by
  refine accounts_loop (filterMap_nativeOf_nodup h) (filterMap_referenceOf_nodup h) ?_
  intro exchange hmem
  have hbody := h.body_le exchange (h.exchanges_eq ▸ hmem)
  rcases mem_exchanges.mp hmem with rfl | rfl | ⟨body, hlist, rfl⟩ | ⟨inspection, -, rfl⟩
  · exact ⟨rfl, hbody, fun _ => rfl, fun hrequest => nomatch hrequest⟩
  · exact ⟨rfl, hbody, fun hnone => (nomatch hnone), fun hrequest => nomatch hrequest⟩
  · refine ⟨rfl, hbody, fun hnone => (nomatch hnone), fun _ other hother _ => ?_⟩
    rw [h.selector_eq] at hother
    cases hother
    exact ⟨history.picked, picked_of_replays h hlist⟩
  · refine ⟨rfl, hbody, fun hnone => (nomatch hnone), fun hrequest => ?_⟩
    have hinspected := @inspected_exchange history inspection
    rw [hrequest] at hinspected
    cases hinspected

theorem inspected_of_found {contributions : List Contribution}
    (hdecoded : List.Forall₂ (fun exchange contribution =>
      Contribution.ofExchange fromSlice capture exchange = .ok contribution)
        history.exchanges contributions)
    {inspection : Inspection} (hmem : inspection ∈ history.found) :
    ∃ contribution ∈ contributions, ∃ body nativeId,
      Inspected fromSlice capture (inspection.exchange history.api) inspection.kind
        inspection.id inspection.reference contribution body nativeId := by
  obtain ⟨contribution, hcontribution, hof⟩ := exists_of_forall₂_left hdecoded
    (mem_exchanges.mpr (.inr (.inr (.inr ⟨inspection, hmem, rfl⟩))))
  exact ⟨contribution, hcontribution,
    ofExchange_inspected (inspected_exchange inspection) rfl hof⟩

/-- The decoded API bounds are those of the version body. -/
theorem bounds_of_decoded (hdecoded : Decoded fromSlice capture history.exchanges decoding) :
    ∃ body, fromSlice history.versionBody = some body ∧
      versionField body "ApiVersion" = .ok decoding.apiVersion ∧
      versionField body "MinAPIVersion" = .ok decoding.minimumApiVersion := by
  obtain ⟨contributions, hcontributions, rfl⟩ := hdecoded
  obtain ⟨rest, hrest⟩ : ∃ rest, history.exchanges = history.versionExchange :: rest ∧
      ∀ exchange ∈ rest, exchange.request ≠ .daemonVersion := by
    refine ⟨_, rfl, fun exchange hmem hrequest => ?_⟩
    have hmem : exchange = history.infoExchange ∨
        (∃ body, history.listBody = some body ∧ exchange = history.listExchange body) ∨
        ∃ inspection ∈ history.found, exchange = inspection.exchange history.api := by
      simpa [or_assoc, eq_comm] using hmem
    rcases hmem with rfl | ⟨body, -, rfl⟩ | ⟨inspection, -, rfl⟩
    · cases hrequest
    · cases hrequest
    · have hinspected := @inspected_exchange history inspection
      rw [hrequest] at hinspected
      cases hinspected
  rw [hrest.1] at hcontributions
  cases hcontributions with
  | cons hversion hothers =>
      rename_i first others
      obtain ⟨body, bounds, hbody, hbounds, hapi, hminimum⟩ := version_of_ofExchange hversion
      have hunchanged : ∀ contribution ∈ others, contribution.version = none := by
        intro contribution hmem
        obtain ⟨exchange, hexchange, hof⟩ := exists_of_forall₂_right hothers hmem
        have hversion := version_of_ofExchange hof
        split at hversion
        · next hrequest => exact absurd hrequest (hrest.2 exchange hexchange)
        · exact hversion
      obtain ⟨hapiVersion, hminimumApiVersion⟩ :=
        Decoding.bounds_recordAll hunchanged
      rw [Decoding.recordAll_cons, hapiVersion, hminimumApiVersion]
      refine ⟨body, hbody, ?_, ?_⟩
      · rw [hapi]
        simp [Decoding.record, hbounds]
      · rw [hminimum]
        simp [Decoding.record, hbounds]

theorem versionField_of_get {value member : Value} {name text : String} {api : ApiVersion}
    (hget : value.get name = some member) (hname : name ≠ "__docker_lens_redacted__")
    (htext : member.asStr = some text) (hparse : Acquisition.parseApi text = some api) :
    versionField value name = .ok (some api) := by
  have hredacted := isRedacted_of_get hget hname
  obtain ⟨members, rfl, hmember⟩ := Value.exists_object_of_get hget
  rw [Value.asStr_eq_some_iff] at htext
  subst htext
  simp [versionField, fieldValue_object hredacted, hmember, parseApi_eq, hparse]

theorem versionField_minimum {value member : Value} {name : String} {minimum : Option ApiVersion}
    (hget : value.get name = some member) (hname : name ≠ "__docker_lens_redacted__")
    (hread : minimumApi value = .ok minimum) :
    versionField value "MinAPIVersion" = .ok minimum := by
  rw [minimumApi] at hread
  split at hread
  · next hnone =>
      cases hread
      have hredacted := isRedacted_of_get hget hname
      obtain ⟨members, rfl, -⟩ := Value.exists_object_of_get hget
      rw [Value.get_object] at hnone
      simp [versionField, fieldValue_object hredacted, hnone]
  · next found hfound =>
      split at hread
      · cases hread
      next minimum hminimum =>
      cases hread
      obtain ⟨text, htext, hparse⟩ := Option.bind_eq_some_iff.mp hminimum
      exact versionField_of_get hfound (by decide) htext hparse

/-- The decoder reads the bounds that the acquisition negotiated from. -/
theorem negotiated_bounds (h : Acquired fromSlice selector limits capture history)
    (hdecoded : Decoded fromSlice capture history.exchanges decoding) :
    ∃ maximum, decoding.apiVersion = some maximum ∧ history.api = maximum.min knownApi ∧
      ∀ minimum ∈ decoding.minimumApiVersion, ¬ history.api < minimum := by
  obtain ⟨body, hbody, hapi, hminimum⟩ := bounds_of_decoded hdecoded
  have hnegotiated := h.negotiated
  rw [negotiatedApi, hbody] at hnegotiated
  dsimp only at hnegotiated
  split at hnegotiated
  · cases hnegotiated
  next maximum hmaximum =>
  split at hnegotiated
  · cases hnegotiated
  next minimum hread =>
  split at hnegotiated
  · cases hnegotiated
  split at hnegotiated
  · cases hnegotiated
  next hrange =>
  rw [Except.ok.injEq] at hnegotiated
  obtain ⟨text, htext, hparse⟩ := Option.bind_eq_some_iff.mp hmaximum
  obtain ⟨member, hget, htext⟩ := Option.bind_eq_some_iff.mp htext
  rw [versionField_of_get hget (by decide) htext hparse, Except.ok.injEq] at hapi
  refine ⟨maximum, hapi.symm, hnegotiated.symm, fun found hfound => ?_⟩
  have hsame : decoding.minimumApiVersion = minimum := by
    rw [versionField_minimum hget (by decide) hread, Except.ok.injEq] at hminimum
    exact hminimum.symm
  rw [hsame] at hfound
  rw [hnegotiated, not_or, show minimum = some found from hfound] at hrange
  simpa using hrange.2

/-- No API version is out of range in an acquired capture. -/
theorem not_outOfRange (h : Acquired fromSlice selector limits capture history)
    (hdecoded : Decoded fromSlice capture history.exchanges decoding) :
    outOfRange decoding = false := by
  obtain ⟨maximum, hmaximum, hapi, hminimum⟩ := negotiated_bounds h hdecoded
  have hle : ¬ maximum < history.api := hapi ▸ ApiVersion.not_lt_min_left maximum knownApi
  have hrequested : ∀ api ∈ decoding.requestedApiVersions, api = history.api := by
    obtain ⟨contributions, hcontributions, rfl⟩ := hdecoded
    intro api hmem
    rw [Decoding.mem_requestedApiVersions] at hmem
    rcases hmem with hmem | ⟨contribution, hcontribution, hfound⟩
    · cases hmem
    · obtain ⟨exchange, hexchange, hof⟩ := exists_of_forall₂_right hcontributions hcontribution
      obtain ⟨_, found, -, -, rfl⟩ := ofExchange_eq_ok hof
      change exchange.apiVersion = some api at hfound
      rcases mem_exchanges.mp hexchange with rfl | rfl | ⟨body, -, rfl⟩ | ⟨inspection, -, rfl⟩
      · cases hfound
      all_goals exact (Option.some.inj hfound).symm
  rw [outOfRange, Bool.or_eq_false_iff, hmaximum]
  constructor
  · cases hlower : decoding.minimumApiVersion with
    | none => rfl
    | some minimum =>
        have hnot := hminimum minimum hlower
        rw [ApiVersion.lt_iff] at hnot hle
        simp only [Option.any_some, decide_eq_false_iff_not, ApiVersion.lt_iff]
        omega
  · rw [List.any_eq_false]
    intro api hmem
    rw [hrequested api hmem]
    cases hlower : decoding.minimumApiVersion with
    | none => simpa using hle
    | some minimum => simpa using ⟨hminimum minimum hlower, hle⟩

theorem container_observed (h : Acquired fromSlice selector limits capture history)
    (hdecoded : Decoded fromSlice capture history.exchanges decoding) {inspection : Inspection}
    (hmem : inspection ∈ history.containers) :
    ∃ found ∈ decoding.containers, ∃ body, fromSlice inspection.body = some body ∧
      container body inspection.reference = .ok found := by
  obtain ⟨contributions, hcontributions, rfl⟩ := hdecoded
  obtain ⟨contribution, hcontribution, body, _, hinspected⟩ := inspected_of_found hcontributions
    (Acquired.mem_found.mpr ⟨.container, hmem⟩)
  obtain ⟨observed, hobserved, rfl⟩ := hinspected.observation
  rw [h.containers_kind inspection hmem] at hobserved
  obtain ⟨found, hfound, rfl⟩ := map_eq_ok hobserved
  refine ⟨found, ?_, body, hinspected.body_eq, hfound⟩
  rw [Decoding.containers_recordAll]
  exact List.mem_append_right _ (List.mem_flatMap.mpr ⟨_, hcontribution, by simp⟩)

theorem network_observed (h : Acquired fromSlice selector limits capture history)
    (hdecoded : Decoded fromSlice capture history.exchanges decoding) {inspection : Inspection}
    (hmem : inspection ∈ history.networks) :
    ∃ found ∈ decoding.networks, ∃ body, fromSlice inspection.body = some body ∧
      network body inspection.reference = .ok found := by
  obtain ⟨contributions, hcontributions, rfl⟩ := hdecoded
  obtain ⟨contribution, hcontribution, body, _, hinspected⟩ := inspected_of_found hcontributions
    (Acquired.mem_found.mpr ⟨.network, hmem⟩)
  obtain ⟨observed, hobserved, rfl⟩ := hinspected.observation
  rw [h.networks_kind inspection hmem] at hobserved
  obtain ⟨found, hfound, rfl⟩ := map_eq_ok hobserved
  refine ⟨found, ?_, body, hinspected.body_eq, hfound⟩
  rw [Decoding.networks_recordAll]
  exact List.mem_append_right _ (List.mem_flatMap.mpr ⟨_, hcontribution, by simp⟩)

theorem volume_observed (h : Acquired fromSlice selector limits capture history)
    (hdecoded : Decoded fromSlice capture history.exchanges decoding) {inspection : Inspection}
    (hmem : inspection ∈ history.volumes) :
    ∃ found ∈ decoding.volumes, ∃ body, fromSlice inspection.body = some body ∧
      volume body inspection.reference = .ok found := by
  obtain ⟨contributions, hcontributions, rfl⟩ := hdecoded
  obtain ⟨contribution, hcontribution, body, _, hinspected⟩ := inspected_of_found hcontributions
    (Acquired.mem_found.mpr ⟨.volume, hmem⟩)
  obtain ⟨observed, hobserved, rfl⟩ := hinspected.observation
  rw [h.volumes_kind inspection hmem] at hobserved
  obtain ⟨found, hfound, rfl⟩ := map_eq_ok hobserved
  refine ⟨found, ?_, body, hinspected.body_eq, hfound⟩
  rw [Decoding.volumes_recordAll]
  exact List.mem_append_right _ (List.mem_flatMap.mpr ⟨_, hcontribution, by simp⟩)

theorem id_of_identified (h : Acquired fromSlice selector limits capture history)
    {inspection : Inspection} {kind : RootKind} (hmem : inspection ∈ history.inspections kind)
    {body : Value} (hbody : fromSlice inspection.body = some body) :
    (body.get inspection.identityKey).bind Value.asStr = some inspection.id.text := by
  obtain ⟨body', hbody', hid⟩ := identified_iff.mp
    (h.identified inspection (Acquired.mem_found.mpr ⟨kind, hmem⟩))
  rw [hbody, Option.some.injEq] at hbody'
  rwa [hbody']

/-- A decoded root with an observation that repeats its native id. -/
def HasObservation (containers : List ContainerObservation) (networks : List NetworkObservation)
    (volumes : List VolumeObservation) (root : SelectedRoot) (id : NativeId) : Prop :=
  match root.kind with
  | .container => ∃ found ∈ containers, found.reference = root.resource ∧
      found.id.value = some (asBytes id.text)
  | .network => ∃ found ∈ networks, found.reference = root.resource ∧
      found.id.value = some (asBytes id.text)
  | .volume => ∃ found ∈ volumes, found.reference = root.resource ∧
      found.name.value = some (asBytes id.text)

theorem value_of_stringField {root : Value} {path : List String} {field : FieldPath}
    {origin : Origin} {found : Observed ProtectedValue} {text : String}
    {availability : Availability}
    (hfield : stringField root path field origin = .ok found)
    (h : stringField root path field origin =
      .ok (.present (asBytes text) availability origin)) :
    found.value = some (asBytes text) := by
  rw [hfield, Except.ok.injEq] at h
  rw [h]
  rfl

theorem byName_of_root (h : Acquired fromSlice selector limits capture history)
    (hkind : selector.rootKind = .network) {inspection : Inspection}
    (hmem : inspection ∈ history.networks) : inspection.byName = false := by
  have hentry : (inspection.id, inspection.byName) ∈ history.related.sortedNetworks := by
    rw [← h.networks_eq]
    exact List.mem_map_of_mem hmem
  rw [h.related_eq_ofSelector (by simp [hkind]), (Related.sortedNetworks_perm _).mem_iff] at hentry
  cases selector with
  | networkIds ids =>
      simp only [Related.ofSelector, List.mem_map, Prod.mk.injEq] at hentry
      obtain ⟨_, -, -, hname⟩ := hentry
      exact hname.symm
  | _ => cases hkind

/-- Every root has an observation that repeats the id that was picked. -/
theorem root_observed (h : Acquired fromSlice selector limits capture history)
    (hdecoded : Decoded fromSlice capture history.exchanges decoding) {inspection : Inspection}
    (hmem : inspection ∈ history.inspections selector.rootKind) :
    HasObservation decoding.containers decoding.networks decoding.volumes
      ⟨inspection.reference, selector.rootKind, selector.rootReason⟩ inspection.id := by
  have hkindOf := h.inspections_kind hmem
  cases hkind : selector.rootKind with
  | container =>
      rw [hkind] at hmem hkindOf
      obtain ⟨found, hfound, body, hbody, hdecode⟩ := container_observed h hdecoded hmem
      obtain ⟨hreference, hid, -⟩ := container_eq_ok hdecode
      have htext := id_of_identified h hmem hbody
      rw [show inspection.identityKey = "Id" by simp [Inspection.identityKey, hkindOf]] at htext
      exact ⟨found, hfound, hreference,
        value_of_stringField hid (stringField_of_get _ _ htext (by decide))⟩
  | network =>
      rw [hkind] at hmem hkindOf
      obtain ⟨found, hfound, body, hbody, hdecode⟩ := network_observed h hdecoded hmem
      obtain ⟨hreference, hid, -⟩ := network_eq_ok hdecode
      have htext := id_of_identified h hmem hbody
      rw [show inspection.identityKey = "Id" by
        simp [Inspection.identityKey, hkindOf, byName_of_root h hkind hmem]] at htext
      exact ⟨found, hfound, hreference,
        value_of_stringField hid (stringField_of_get _ _ htext (by decide))⟩
  | volume =>
      rw [hkind] at hmem hkindOf
      obtain ⟨found, hfound, body, hbody, hdecode⟩ := volume_observed h hdecoded hmem
      obtain ⟨hreference, hname⟩ := volume_eq_ok hdecode
      have htext := id_of_identified h hmem hbody
      rw [show inspection.identityKey = "Name" by simp [Inspection.identityKey, hkindOf]] at htext
      exact ⟨found, hfound, hreference,
        value_of_stringField hname (stringField_of_get _ _ htext (by decide))⟩

theorem rootObserved_of_hasObservation {root : SelectedRoot} {id : NativeId}
    (h : HasObservation decoding.containers decoding.networks decoding.volumes root id) :
    rootObserved decoding root = true := by
  rw [HasObservation] at h
  rw [rootObserved]
  cases hkind : root.kind with
  | container | network | volume =>
      rw [hkind] at h
      obtain ⟨found, hfound, hreference, -⟩ := h
      exact List.any_eq_true.mpr ⟨found, hfound, by simpa using hreference⟩

theorem rootsAccounted_of_forall {seen : Finset ResourceRef} {roots : List SelectedRoot}
    (hnodup : (roots.map SelectedRoot.resource).Nodup)
    (hseen : ∀ root ∈ roots, root.resource ∉ seen)
    (hroots : ∀ root ∈ roots, rootObserved decoding root = true ∧
      rootListed decoding root = true) :
    rootsAccounted decoding seen roots = true := by
  induction roots generalizing seen with
  | nil => rfl
  | cons root roots ih =>
      obtain ⟨hobserved, hlisted⟩ := hroots root List.mem_cons_self
      rw [List.map_cons, List.nodup_cons] at hnodup
      simp only [rootsAccounted, hseen root List.mem_cons_self, not_false_eq_true, decide_true,
        hobserved, hlisted, Bool.and_self, Bool.true_and]
      refine ih hnodup.2 ?_ fun other hother => hroots other (List.mem_cons_of_mem _ hother)
      intro other hother hmem
      rcases Finset.mem_insert.mp hmem with hsame | hold
      · exact hnodup.1 (List.mem_map.mpr ⟨other, hother, hsame⟩)
      · exact hseen other (List.mem_cons_of_mem _ hother) hold

theorem fallbacksSeen_acquired (h : Acquired fromSlice selector limits capture history)
    (hdecoded : Decoded fromSlice capture history.exchanges decoding) :
    fallbacksSeen capture decoding = true := by
  obtain ⟨contributions, hcontributions, rfl⟩ := hdecoded
  rw [fallbacksSeen, List.all_eq_true]
  intro reference hmem
  rw [h.fallbacks_eq] at hmem
  obtain ⟨inspection, hinspection, rfl⟩ := List.mem_map.mp hmem
  have hnetwork := (List.mem_filter.mp hinspection).1
  obtain ⟨contribution, hcontribution, body, nativeId, hinspected⟩ :=
    inspected_of_found hcontributions (Acquired.mem_found.mpr ⟨.network, hnetwork⟩)
  obtain ⟨observed, -, rfl⟩ := hinspected.observation
  rw [decide_eq_true_eq, Decoding.mem_seenResources]
  exact .inr ⟨_, hcontribution, _, rfl, by rw [h.networks_kind inspection hnetwork]⟩

theorem byRef_acquired (h : Acquired fromSlice selector limits capture history)
    (hdecoded : Decoded fromSlice capture history.exchanges decoding) {inspection : Inspection}
    (hmem : inspection ∈ history.containers) :
    decoding.inspectedContainersByRef inspection.reference = some inspection.id.text := by
  obtain ⟨contributions, hcontributions, rfl⟩ := hdecoded
  have hfound := Acquired.mem_found.mpr ⟨.container, hmem⟩
  obtain ⟨contribution, hcontribution, body, nativeId, hinspected⟩ :=
    inspected_of_found hcontributions hfound
  obtain ⟨observed, -, rfl⟩ := hinspected.observation
  refine Decoding.byRef_recordAll ?_ hcontribution rfl (h.containers_kind inspection hmem) rfl
  intro other hother resource hresource _ hreference
  obtain ⟨exchange, hexchange, hof⟩ := exists_of_forall₂_right hcontributions hother
  obtain ⟨id, body, hrequest, hid, hresource, -⟩ := resource_of_ofExchange hof hresource
  rcases mem_exchanges.mp hexchange with rfl | rfl | ⟨body, -, rfl⟩ | ⟨twin, htwin, rfl⟩
  · cases hrequest
  · cases hrequest
  · cases hrequest
  · rw [inspected_exchange, Option.some.injEq, Prod.mk.injEq] at hrequest
    have hsame : twin = inspection := by
      refine List.inj_on_of_nodup_map (references_nodup h) htwin hfound ?_
      exact (Option.some.inj hresource).trans hreference
    rw [← hid, ← hrequest.2, hsame]

theorem selectedContainers_acquired (h : Acquired fromSlice selector limits capture history)
    (hdecoded : Decoded fromSlice capture history.exchanges decoding)
    (hkind : selector.rootKind = .container) :
    selectedContainers capture decoding = (history.picked.map NativeId.text).toFinset := by
  have hroots : ((capture.selectedRoots.filter (·.kind = .container)).filterMap fun root =>
      decoding.inspectedContainersByRef root.resource) =
      (history.containers.map Inspection.id).map NativeId.text := by
    rw [h.selectedRoots_eq, hkind, List.filter_eq_self.mpr (by simp), List.filterMap_map,
      List.map_map]
    exact filterMap_of_forall fun inspection hmem => byRef_acquired h hdecoded hmem
  rw [selectedContainers, hroots, h.containers_eq]
  ext id
  simp [List.mem_eraseDups]

/-- The contributions of an acquired capture replay its selection where there is a list. -/
theorem selectedFromList_acquired
    (hdecoded : Decoded fromSlice capture history.exchanges decoding) :
    match history.listBody with
    | none => decoding.selectedFromList = none
    | some body => replaySelection fromSlice capture body = .ok decoding.selectedFromList := by
  obtain ⟨contributions, hcontributions, rfl⟩ := hdecoded
  have hunlisted : ∀ contributions : List Contribution,
      List.Forall₂ (fun exchange contribution =>
        Contribution.ofExchange fromSlice capture exchange = .ok contribution)
        (history.found.map (Inspection.exchange history.api)) contributions →
      ∀ contribution ∈ contributions, contribution.listing = none := by
    intro contributions hcontributions contribution hmem
    obtain ⟨exchange, hexchange, hof⟩ := exists_of_forall₂_right hcontributions hmem
    obtain ⟨inspection, -, rfl⟩ := List.mem_map.mp hexchange
    have hlisting := listing_of_ofExchange hof
    have hrequest := @inspected_exchange history inspection
    split at hlisting
    · next hlist => simp [hlist, ReadRequest.inspected] at hrequest
    · exact hlisting
    · exact hlisting
    · exact hlisting.1
  rw [History.exchanges] at hcontributions
  cases hbody : history.listBody with
  | none =>
      rw [hbody] at hcontributions
      obtain _ | ⟨hversion, _ | ⟨hinfo, hfound⟩⟩ := hcontributions
      have hversionListing := (listing_of_ofExchange hversion).1
      have hinfoListing := (listing_of_ofExchange hinfo).1
      dsimp only
      rw [Decoding.selectedFromList_recordAll]
      · rfl
      · simpa [hversionListing, hinfoListing] using hunlisted _ hfound
  | some body =>
      rw [hbody] at hcontributions
      obtain _ | ⟨hversion, _ | ⟨hinfo, _ | ⟨hlist, hfound⟩⟩⟩ := hcontributions
      obtain ⟨_, _, _, selected, -, -, -, -, hlisting, hreplay⟩ := listing_of_ofExchange hlist
      dsimp only
      rw [Decoding.recordAll_cons, Decoding.recordAll_cons, Decoding.recordAll_cons,
        Decoding.selectedFromList_recordAll (hunlisted _ hfound)]
      simpa [Decoding.record, hlisting, History.listExchange] using hreplay

theorem selectionAgrees_acquired (h : Acquired fromSlice selector limits capture history)
    (hdecoded : Decoded fromSlice capture history.exchanges decoding) :
    selectionAgrees capture decoding = true := by
  have hselected := selectedFromList_acquired hdecoded
  rw [selectionAgrees, h.selector_eq]
  cases hbody : history.listBody with
  | none =>
      rw [hbody] at hselected
      have hpicks := h.picks
      rw [hbody] at hpicks
      rw [hselected]
      cases selector with
      | containerIds _ | networkIds _ | volumeNames _ | discovery => rfl
      | containerNames _ | namePrefix _ | label _ _ | allContainers =>
          obtain ⟨_, hnone, -⟩ := hpicks
          cases hnone
  | some body =>
      rw [hbody] at hselected
      simp only [replaySelection, h.selector_eq, picked_of_replays h hbody] at hselected
      split at hselected
      · next hreplays =>
          have hkind : selector.rootKind = .container := by
            cases selector <;> first | rfl | cases hreplays
          rw [← Except.ok.inj hselected]
          simp only [selectedContainers_acquired h hdecoded hkind, decide_true]
      · next hreplays =>
          rw [← Except.ok.inj hselected]
          simpa using hreplays

theorem mem_listedContainers {items : List Value} {found : List (String × ContainerSummary)}
    (hfound : items.mapM listedContainer = .ok found) {item : Value} (hitem : item ∈ items)
    {text : String} (htext : (item.get "Id").bind Value.asStr = some text) :
    text ∈ found.map Prod.fst := by
  obtain ⟨entry, hentry, hlisted⟩ :=
    exists_of_forall₂_left (mapM_eq_ok_iff.mp hfound) hitem
  simp only [listedContainer, bind_eq_ok_iff, Except.ok.injEq] at hlisted
  obtain ⟨id, hid, summary, -, rfl⟩ := hlisted
  rw [get_of_listedId hid] at htext
  exact List.mem_map.mpr ⟨_, hentry, Option.some.inj htext⟩

/-- Only the container list of an acquired capture lists ids. -/
theorem listed_of_mem (hdecoded : Decoded fromSlice capture history.exchanges decoding)
    {kind : RootKind} {id : String} (hmem : id ∈ decoding.listedIds kind) :
    kind = .container ∧ ∃ body items, history.listBody = some body ∧
      (fromSlice body).bind Value.asArray = some items ∧ items ≠ [] := by
  obtain ⟨contributions, hcontributions, rfl⟩ := hdecoded
  rw [Decoding.mem_listedIds] at hmem
  rcases hmem with hmem | ⟨contribution, hcontribution, hlisted⟩
  · exact absurd hmem (Finset.notMem_empty _)
  obtain ⟨exchange, hexchange, hof⟩ := exists_of_forall₂_right hcontributions hcontribution
  have hlisting := listing_of_ofExchange hof
  rcases mem_exchanges.mp hexchange with rfl | rfl | ⟨body, hbody, rfl⟩ | ⟨inspection, -, rfl⟩
  · rw [hlisting.2] at hlisted
    exact absurd hlisted (Finset.notMem_empty _)
  · rw [hlisting.2] at hlisted
    exact absurd hlisted (Finset.notMem_empty _)
  · obtain ⟨value, items, found, _, hvalue, hitems, hfound, hadded, -⟩ := hlisting
    rw [hadded, Decoding.mem_addIds] at hlisted
    rcases hlisted with hempty | ⟨hkind, hid⟩
    · exact absurd hempty (Finset.notMem_empty _)
    · refine ⟨hkind, body, items, hbody, ?_, ?_⟩
      · rw [show fromSlice body = some value from hvalue]
        exact hitems
      · rintro rfl
        rw [List.mapM_nil] at hfound
        cases hfound
        simp at hid
  · have hrequest := @inspected_exchange history inspection
    split at hlisting
    · next hlist => simp [hlist, ReadRequest.inspected] at hrequest
    · next hlist => simp [hlist, ReadRequest.inspected] at hrequest
    · next hlist => simp [hlist, ReadRequest.inspected] at hrequest
    · rw [hlisting.2] at hlisted
      exact absurd hlisted (Finset.notMem_empty _)

theorem listed_of_picked (h : Acquired fromSlice selector limits capture history)
    (hdecoded : Decoded fromSlice capture history.exchanges decoding) {body : Bytes}
    (hbody : history.listBody = some body) {id : NativeId} (hid : id ∈ history.picked) :
    id.text ∈ decoding.listedIds .container := by
  obtain ⟨entries, listing, hentries, -, -, hlisted, hpicked⟩ :=
    selectedIds_eq_ok (picked_of_replays h hbody)
  rw [hpicked] at hid
  obtain ⟨entry, hentry, htext⟩ := hlisted.mem id hid
  obtain ⟨contributions, hcontributions, rfl⟩ := hdecoded
  obtain ⟨contribution, hcontribution, hof⟩ := exists_of_forall₂_left hcontributions
    (mem_exchanges.mpr (.inr (.inr (.inl ⟨body, hbody, rfl⟩))))
  obtain ⟨value, items, found, _, hvalue, hitems, hfound, hadded, -⟩ := listing_of_ofExchange hof
  have hsame : items = entries := by
    rw [show fromSlice body = some value from hvalue, Option.bind_some, hitems] at hentries
    exact Option.some.inj hentries
  rw [Decoding.mem_listedIds]
  refine .inr ⟨contribution, hcontribution, ?_⟩
  rw [hadded, Decoding.mem_addIds]
  exact .inr ⟨rfl, List.mem_toFinset.mpr (mem_listedContainers hfound (hsame ▸ hentry) htext)⟩

theorem picked_ne_nil {body : Bytes} {entries : List Value} {picked : List NativeId}
    (hpicked : selectedIds fromSlice body selector = .ok picked)
    (hentries : (fromSlice body).bind Value.asArray = some entries) (hne : entries ≠ [])
    (hreplays : replays selector = true) : picked ≠ [] := by
  obtain ⟨entries', listing, hentries', hrejected, hunmatched, hlisted, rfl⟩ :=
    selectedIds_eq_ok hpicked
  obtain rfl : entries = entries' := by simpa [hentries] using hentries'
  cases selector with
  | containerIds _ | networkIds _ | volumeNames _ | discovery => cases hreplays
  | allContainers => exact hlisted.all rfl hne
  | namePrefix _ | label _ _ => simpa [unmatched] using hunmatched
  | containerNames names =>
      refine hlisted.matched fun hnone => ?_
      have hcount : 0 = names.length := by
        simpa [unmatched, hnone] using hunmatched
      simp [rejectedByList, List.length_eq_zero_iff.mp hcount.symm] at hrejected

theorem rootListed_acquired (h : Acquired fromSlice selector limits capture history)
    (hdecoded : Decoded fromSlice capture history.exchanges decoding) {inspection : Inspection}
    (hmem : inspection ∈ history.inspections selector.rootKind) :
    rootListed decoding
      ⟨inspection.reference, selector.rootKind, selector.rootReason⟩ = true := by
  rw [rootListed]
  cases hkind : selector.rootKind with
  | network | volume => rfl
  | container =>
      rw [hkind] at hmem
      rw [byRef_acquired h hdecoded hmem]
      cases hbody : history.listBody with
      | none =>
          have hpicks := h.picks
          rw [hbody] at hpicks
          cases selector with
          | containerIds _ => rfl
          | networkIds _ | volumeNames _ => cases hkind
          | containerNames _ | namePrefix _ | label _ _ | discovery | allContainers =>
              obtain ⟨_, hnone, -⟩ := hpicks
              cases hnone
      | some body =>
          have hpicked : inspection.id ∈ history.picked := by
            rw [← List.mem_eraseDups, ← h.containers_eq]
            exact List.mem_map_of_mem hmem
          simp [listed_of_picked h hdecoded hbody hpicked]

theorem uninspected_acquired (h : Acquired fromSlice selector limits capture history)
    (hdecoded : Decoded fromSlice capture history.exchanges decoding) (kind : RootKind) :
    uninspected capture decoding kind = false := by
  by_contra hnot
  rw [Bool.not_eq_false, uninspected, Bool.and_eq_true, Bool.and_eq_true, decide_eq_true_eq,
    decide_eq_true_eq] at hnot
  obtain ⟨⟨hdiscovery, hlisted⟩, hdisjoint⟩ := hnot
  obtain ⟨id, hid⟩ := Finset.nonempty_iff_ne_empty.mpr hlisted
  obtain ⟨rfl, body, items, hbody, hitems, hne⟩ := listed_of_mem hdecoded hid
  have hreplays : replays selector = true := by
    have hpicks := h.picks
    rw [hbody] at hpicks
    cases selector with
    | containerIds _ | networkIds _ | volumeNames _ => cases hpicks.1
    | discovery => simp [h.discoveryOnly_eq] at hdiscovery
    | containerNames _ | namePrefix _ | label _ _ | allContainers => rfl
  obtain ⟨picked, hpicked⟩ :=
    List.exists_mem_of_ne_nil _ (picked_ne_nil (picked_of_replays h hbody) hitems hne hreplays)
  have hcontainer : picked ∈ history.containers.map Inspection.id := by
    rw [h.containers_eq]
    exact List.mem_eraseDups.mpr hpicked
  obtain ⟨inspection, hinspection, rfl⟩ := List.mem_map.mp hcontainer
  refine Finset.disjoint_left.mp hdisjoint (listed_of_picked h hdecoded hbody hpicked) ?_
  obtain ⟨contributions, hcontributions, rfl⟩ := hdecoded
  obtain ⟨contribution, hcontribution, body, nativeId, hinspected⟩ :=
    inspected_of_found hcontributions (Acquired.mem_found.mpr ⟨.container, hinspection⟩)
  obtain ⟨observed, -, rfl⟩ := hinspected.observation
  rw [Decoding.mem_inspectedIds]
  exact .inr ⟨_, hcontribution, _, rfl, (h.containers_kind _ hinspection).symm, rfl⟩

theorem complete_acquired (h : Acquired fromSlice selector limits capture history)
    (hdecoded : Decoded fromSlice capture history.exchanges decoding) :
    complete capture decoding = true := by
  have hroots : rootsAccounted decoding ∅ capture.selectedRoots = true := by
    rw [h.selectedRoots_eq]
    refine rootsAccounted_of_forall ?_ (by simp) ?_
    · rw [List.map_map]
      refine (references_nodup h).sublist ?_
      cases selector.rootKind with
      | container =>
          exact ((List.sublist_append_left _ _).trans (List.sublist_append_left _ _)).map _
      | network =>
          exact ((List.sublist_append_right _ _).trans (List.sublist_append_left _ _)).map _
      | volume => exact (List.sublist_append_right _ _).map _
    · intro root hroot
      obtain ⟨inspection, hmem, rfl⟩ := List.mem_map.mp hroot
      exact ⟨rootObserved_of_hasObservation (root_observed h hdecoded hmem),
        rootListed_acquired h hdecoded hmem⟩
  have hempty : (capture.selectedRoots.isEmpty &&
      decide (capture.bounds.selectedResources > decoding.containers.length)) = false := by
    rw [← h.length_selectedRoots]
    cases capture.selectedRoots <;> simp
  rw [complete, fallbacksSeen_acquired h hdecoded, selectionAgrees_acquired h hdecoded, hroots,
    hempty]
  simp [h.length_selectedRoots, uninspected_acquired h hdecoded]

end

/-- The roots of an inventory, each with an observation, against the ids they stand for. -/
def Roots (selector : Selector) (inventory : DecodedInventory) (ids : List NativeId) : Prop :=
  List.Forall₂ (fun root id => root.kind = selector.rootKind ∧
      HasObservation inventory.containers inventory.networks inventory.volumes root id)
    inventory.selectedRoots ids

/-- Decoding an acquired capture has no accounting errors, and the roots it decodes are
the resources that the selector picked, each observed under its reference. -/
theorem decodeCapture_acquired (fromSlice : Bytes → Option Value) (daemon : Daemon)
    (selector : Selector) (limits : Limits) (capture : Capture)
    (h : acquire fromSlice daemon selector limits = .ok capture)
    (hlength : capture.exchanges.length ≤ maxCollectionItems) :
    (∀ error, decodeCapture fromSlice capture = .error error → ¬ IsAccountingError error) ∧
      ∀ inventory, decodeCapture fromSlice capture = .ok inventory →
        ∃ targets, selector.Targets fromSlice (listBody capture) targets ∧
          ∃ ids, ids.Perm targets.eraseDups ∧ Roots selector inventory ids := by
  obtain ⟨history, hacquired⟩ := acquire_eq_ok h
  have hdecode : decodeCapture fromSlice capture = (do
      let decoding ← history.exchanges.foldlM (decodeExchange fromSlice capture) .start
      finish capture decoding) := by
    rw [decodeCapture, if_neg (not_lt.mpr hlength), hacquired.exchanges_eq]
  rw [hdecode]
  constructor
  · intro error herror
    cases hloop : history.exchanges.foldlM (decodeExchange fromSlice capture) .start with
    | error raised =>
        rw [hloop, error_bind, Except.error.injEq] at herror
        exact herror ▸ accounts_acquired hacquired raised hloop
    | ok decoding =>
        have hdecoded := decode_eq_ok hloop
        rw [hloop, ok_bind, finish, complete_acquired hacquired hdecoded,
          not_outOfRange hacquired hdecoded] at herror
        cases herror
  · intro inventory hinventory
    obtain ⟨decoding, hloop, hfinish⟩ := bind_eq_ok_iff.mp hinventory
    have hdecoded := decode_eq_ok hloop
    rw [finish, complete_acquired hacquired hdecoded, not_outOfRange hacquired hdecoded] at hfinish
    cases hfinish
    obtain ⟨targets, htargets, hperm⟩ := hacquired.targets
    refine ⟨targets, hacquired.listBody_eq ▸ htargets, _, hperm, ?_⟩
    rw [Roots, decodedInventory, hacquired.selectedRoots_eq, List.forall₂_map_left_iff,
      List.forall₂_map_right_iff, List.forall₂_same]
    exact fun inspection hmem => ⟨rfl, root_observed hacquired hdecoded hmem⟩

theorem decodeCapture_acquired_volume :
    ∃ capture, acquire Json.fromSlice (.fixed ⟨1⟩ volumeStream) volumeSelector wideLimits =
        .ok capture ∧
      ∃ inventory, decodeCapture Json.fromSlice capture = .ok inventory ∧
        ∃ targets, volumeSelector.Targets Json.fromSlice (listBody capture) targets ∧
          ∃ ids, ids.Perm targets.eraseDups ∧ Roots volumeSelector inventory ids := by
  obtain ⟨capture, h⟩ := exists_of_isOk (show (do
      let capture ← acquire Json.fromSlice (.fixed ⟨1⟩ volumeStream) volumeSelector wideLimits
      if (decodeCapture Json.fromSlice capture).isOk then .ok capture
      else .error AcquisitionError.shape).isOk = true by decide +kernel)
  obtain ⟨capture, hacquire, hdecode⟩ := bind_eq_ok_iff.mp h
  split at hdecode
  · next hok =>
      cases hdecode
      obtain ⟨inventory, hinventory⟩ := exists_of_isOk hok
      obtain ⟨history, hacquired⟩ := acquire_eq_ok hacquire
      have hlength : capture.exchanges.length ≤ maxCollectionItems := by
        have hrequests := hacquired.fits.requests_le
        rw [hacquired.requestCount_eq] at hrequests
        exact hrequests.trans (by decide)
      exact ⟨capture, hacquire, inventory, hinventory,
        (decodeCapture_acquired Json.fromSlice _ _ _ capture hacquire hlength).2 inventory
          hinventory⟩
  · cases hdecode

end DockerLens.Decoder
