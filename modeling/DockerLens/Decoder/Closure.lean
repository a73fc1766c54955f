import DockerLens.Decoder.Acquired

namespace DockerLens.Decoder

open DockerLens.Text
open DockerLens.Json
open DockerLens.Observation
open DockerLens.Acquisition
open DockerLens.Version
open DockerLens.Evidence
open DockerLens.Fold

/-- The endpoints of a container body. -/
def endpointsOf (body : Value) : Option (List (String × Value)) :=
  ((body.get "NetworkSettings").bind (Value.get · "Networks")).bind Value.asObject

/-- A container body with an endpoint in this network, by its id or else by its name. -/
def NamesNetwork (body : Value) (id : NativeId) : Prop :=
  ∃ endpoints, endpointsOf body = some endpoints ∧ ∃ entry ∈ endpoints,
    id.text = (endpointNetworkId entry.2).getD entry.1

/-- A container body with a volume mount of this name. -/
def NamesVolume (body : Value) (id : NativeId) : Prop :=
  ∃ mounts, (body.get "Mounts").bind Value.asArray = some mounts ∧ ∃ mount ∈ mounts,
    (mount.get "Type").bind Value.asStr = some "volume" ∧
      (mount.get "Name").bind Value.asStr = some id.text

theorem relatedNetwork_eq_ok {entry : String × Value} {network : NativeId × Bool}
    (h : relatedNetwork entry = .ok network) :
    network.1.text = (endpointNetworkId entry.2).getD entry.1 ∧
      network.2 = (endpointNetworkId entry.2).isNone := by
  rw [relatedNetwork] at h
  split at h
  · cases h
  next id hid =>
  cases h
  exact ⟨NativeId.new_eq_some_iff.mp hid, rfl⟩

theorem relatedNetworks_eq_ok {root : Value} {networks : List (NativeId × Bool)}
    (h : relatedNetworks root = .ok networks) :
    networks = [] ∧ ((root.get "NetworkSettings").bind (Value.get · "Networks")).filter
        (!·.isNull) = none ∨
      ∃ endpoints, endpointsOf root = some endpoints ∧
        List.Forall₂ (fun entry network => relatedNetwork entry = .ok network)
          endpoints networks := by
  rw [relatedNetworks] at h
  split at h
  · next hnone =>
      cases h
      exact .inl ⟨rfl, hnone⟩
  · next endpoints hendpoints =>
      split at h
      · cases h
      next entries hentries =>
      split at h
      · cases h
      refine .inr ⟨entries, ?_, mapM_eq_ok_iff.mp h⟩
      rw [endpointsOf, (Option.filter_eq_some_iff.mp hendpoints).1]
      exact hentries

theorem relatedVolume_eq_ok {mount : Value} {volume : NativeId}
    (h : relatedVolume mount = .ok (some volume)) :
    (mount.get "Type").bind Value.asStr = some "volume" ∧
      (mount.get "Name").bind Value.asStr = some volume.text := by
  rw [relatedVolume] at h
  split at h
  · next htype =>
      split at h
      · cases h
      next name hname =>
      cases h
      obtain ⟨text, htext, hnew⟩ := Option.bind_eq_some_iff.mp hname
      rw [NativeId.new_eq_some_iff.mp hnew]
      exact ⟨htype, htext⟩
  · cases h

theorem relatedVolumes_eq_ok {root : Value} {volumes : List NativeId}
    (h : relatedVolumes root = .ok volumes) :
    volumes = [] ∧ (root.get "Mounts").filter (!·.isNull) = none ∨
      ∃ mounts found, (root.get "Mounts").bind Value.asArray = some mounts ∧
        List.Forall₂ (fun mount volume => relatedVolume mount = .ok volume) mounts found ∧
          volumes = found.filterMap id := by
  rw [relatedVolumes] at h
  split at h
  · next hnone =>
      cases h
      exact .inl ⟨rfl, hnone⟩
  · next mounts hmounts =>
      split at h
      · cases h
      next entries hentries =>
      split at h
      · cases h
      obtain ⟨found, hfound, rfl⟩ := map_eq_ok h
      refine .inr ⟨entries, found, ?_, mapM_eq_ok_iff.mp hfound, rfl⟩
      rw [(Option.filter_eq_some_iff.mp hmounts).1]
      exact hentries

section
variable {fromSlice : Bytes → Option Value} {selector : Selector} {limits : Limits}
  {capture : Capture} {history : History} {decoding : Decoding}

theorem related_of_container (h : Acquired fromSlice selector limits capture history)
    {inspection : Inspection} (hmem : inspection ∈ history.containers) :
    ∃ body, fromSlice inspection.body = some body ∧
      relatedNetworks body = .ok (relatedOf fromSlice inspection.body).networks ∧
      relatedVolumes body = .ok (relatedOf fromSlice inspection.body).volumes := by
  have hreadable := h.containers_readable inspection hmem
  rw [relatedIds] at hreadable
  split at hreadable
  · cases hreadable
  next body hbody =>
  split at hreadable
  · cases hreadable
  simp only [bind_eq_ok_iff, Except.ok.injEq] at hreadable
  obtain ⟨networks, hnetworks, volumes, hvolumes, hrelated⟩ := hreadable
  rw [← hrelated]
  exact ⟨body, hbody, hnetworks, hvolumes⟩

theorem mem_keys_related (h : Acquired fromSlice selector limits capture history)
    {id : NativeId} : id ∈ keys history.related.networks ↔
      id ∈ keys (Related.ofSelector selector).networks ∨
        ∃ inspection ∈ history.containers,
          id ∈ keys (relatedOf fromSlice inspection.body).networks := by
  rw [h.related_eq]
  exact foldl_iff (fun related : Related => id ∈ keys related.networks)
    fun _ _ => Related.mem_keys_merge

theorem mem_volumes_related (h : Acquired fromSlice selector limits capture history)
    {id : NativeId} : id ∈ history.related.volumes ↔
      id ∈ (Related.ofSelector selector).volumes ∨
        ∃ inspection ∈ history.containers,
          id ∈ (relatedOf fromSlice inspection.body).volumes := by
  rw [h.related_eq]
  exact foldl_iff (fun related : Related => id ∈ related.volumes)
    fun _ _ => Related.mem_volumes_merge

theorem related_false (h : Acquired fromSlice selector limits capture history)
    {inspection : Inspection} (hmem : inspection ∈ history.containers) {id : NativeId}
    (hid : (id, false) ∈ (relatedOf fromSlice inspection.body).networks) :
    (id, false) ∈ history.related.networks := by
  have hkept : ∀ (found : List Inspection) (related : Related),
      (id, false) ∈ related.networks ∨ (∃ inspection ∈ found,
        (id, false) ∈ (relatedOf fromSlice inspection.body).networks) →
      (id, false) ∈ (found.foldl (fun related inspection =>
        related.merge (relatedOf fromSlice inspection.body)) related).networks := by
    intro found
    induction found with
    | nil => simp
    | cons first found ih =>
        rintro related (hold | ⟨inspection, hinspection, hid⟩)
        · exact ih _ (.inl (Related.merge_false_of_mem (.inl hold)))
        · rcases List.mem_cons.mp hinspection with rfl | hinspection
          · exact ih _ (.inl (Related.merge_false_of_mem (.inr hid)))
          · exact ih _ (.inr ⟨inspection, hinspection, hid⟩)
  rw [h.related_eq]
  exact hkept _ _ (.inr ⟨inspection, hmem, hid⟩)

theorem network_inspected (h : Acquired fromSlice selector limits capture history)
    {inspection : Inspection} (hmem : inspection ∈ history.networks) :
    selector.rootKind = .network ∨ ∃ container ∈ history.containers, ∃ body,
      fromSlice container.body = some body ∧ NamesNetwork body inspection.id := by
  have hkey : inspection.id ∈ keys history.related.networks := by
    refine (history.related.sortedNetworks_perm.map Prod.fst).mem_iff.mp ?_
    change inspection.id ∈ keys history.related.sortedNetworks
    rw [← h.networks_id_eq]
    exact List.mem_map_of_mem hmem
  rcases (mem_keys_related h).mp hkey with hselector | ⟨container, hcontainer, hfound⟩
  · left
    cases selector <;> first | rfl | simp [Related.ofSelector, keys] at hselector
  · right
    obtain ⟨body, hbody, hnetworks, -⟩ := related_of_container h hcontainer
    refine ⟨container, hcontainer, body, hbody, ?_⟩
    obtain ⟨network, hnetwork, hid⟩ := List.mem_map.mp hfound
    rcases relatedNetworks_eq_ok hnetworks with ⟨hnil, -⟩ | ⟨endpoints, hendpoints, hrelated⟩
    · rw [hnil] at hnetwork
      cases hnetwork
    · obtain ⟨entry, hentry, hread⟩ := exists_of_forall₂_right hrelated hnetwork
      exact ⟨endpoints, hendpoints, entry, hentry, hid ▸ (relatedNetwork_eq_ok hread).1⟩

theorem volume_inspected (h : Acquired fromSlice selector limits capture history)
    {inspection : Inspection} (hmem : inspection ∈ history.volumes) :
    selector.rootKind = .volume ∨ ∃ container ∈ history.containers, ∃ body,
      fromSlice container.body = some body ∧ NamesVolume body inspection.id := by
  have hkey : inspection.id ∈ history.related.volumes := by
    rw [← history.related.sortedVolumes_perm.mem_iff, ← h.volumes_eq]
    exact List.mem_map_of_mem hmem
  rcases (mem_volumes_related h).mp hkey with hselector | ⟨container, hcontainer, hfound⟩
  · left
    cases selector <;> first | rfl | simp [Related.ofSelector] at hselector
  · right
    obtain ⟨body, hbody, -, hvolumes⟩ := related_of_container h hcontainer
    refine ⟨container, hcontainer, body, hbody, ?_⟩
    rcases relatedVolumes_eq_ok hvolumes with ⟨hnil, -⟩ | ⟨mounts, found, hmounts, hread, heq⟩
    · rw [hnil] at hfound
      cases hfound
    · rw [heq] at hfound
      obtain ⟨volume, hvolume, rfl⟩ := List.mem_filterMap.mp hfound
      obtain ⟨mount, hmount, hrelated⟩ := exists_of_forall₂_right hread hvolume
      exact ⟨mounts, hmounts, mount, hmount, relatedVolume_eq_ok hrelated⟩

/-- Every decoded container is one of the inspected ones. -/
theorem container_of_mem (hdecoded : Decoded fromSlice capture history.exchanges decoding)
    {found : ContainerObservation} (hmem : found ∈ decoding.containers) :
    ∃ inspection ∈ history.found, inspection.kind = .container ∧ ∃ body,
      fromSlice inspection.body = some body ∧
        container body inspection.reference = .ok found := by
  obtain ⟨contributions, hcontributions, rfl⟩ := hdecoded
  rw [Decoding.containers_recordAll] at hmem
  obtain ⟨contribution, hcontribution, hfound⟩ :=
    List.mem_flatMap.mp ((List.mem_append.mp hmem).resolve_left (by simp [Decoding.start]))
  obtain ⟨exchange, hexchange, hof⟩ := exists_of_forall₂_right hcontributions hcontribution
  have huninspected : exchange.request.inspected ≠ none := by
    intro hnone
    obtain ⟨_, observed, -, hobserved, rfl⟩ := ofExchange_eq_ok hof
    rw [show ({ observed with api := exchange.apiVersion } : Contribution).containers =
      observed.containers from rfl, (ofBody_uninspected hnone hobserved).2.1] at hfound
    cases hfound
  rcases mem_exchanges.mp hexchange with rfl | rfl | ⟨body, -, rfl⟩ | ⟨inspection, hfoundIn, rfl⟩
  · exact absurd rfl huninspected
  · exact absurd rfl huninspected
  · exact absurd rfl huninspected
  · obtain ⟨body, nativeId, hinspected⟩ :=
      ofExchange_inspected (inspected_exchange inspection) rfl hof
    obtain ⟨observed, hobserved, rfl⟩ := hinspected.observation
    refine ⟨inspection, hfoundIn, ?_⟩
    cases hkind : inspection.kind with
    | container =>
        rw [hkind] at hobserved
        obtain ⟨other, hother, rfl⟩ := map_eq_ok hobserved
        obtain rfl : found = other := by simpa using hfound
        exact ⟨rfl, body, hinspected.body_eq, hother⟩
    | network | volume =>
        rw [hkind] at hobserved
        obtain ⟨other, -, rfl⟩ := map_eq_ok hobserved
        simp [Contribution.empty] at hfound

theorem networkAttachment_eq_ok {entry : (String × Value) × Nat} {attachment : NetworkAttachment}
    (h : networkAttachment entry = .ok attachment) :
    attachment.name = asBytes entry.1.1 ∧
      ∃ field, stringField entry.1.2 ["NetworkID"] field .runtimeAssigned =
        .ok attachment.networkId := by
  obtain ⟨⟨name, item⟩, index⟩ := entry
  simp only [networkAttachment, bind_eq_ok_iff, Except.ok.injEq] at h
  obtain ⟨_, -, networkId, hid, _, -, _, -, _, -, _, -, _, -, rfl⟩ := h
  exact ⟨rfl, _, hid⟩

theorem mount_eq_ok {entry : Value × Nat} {found : MountObservation}
    (h : mount entry = .ok found) (hkind : found.kind = .volume) :
    (entry.1.get "Type").bind Value.asStr = some "volume" ∧
      ∃ field, stringField entry.1 ["Name"] field .effective = .ok found.name := by
  obtain ⟨item, index⟩ := entry
  simp only [mount, bind_eq_ok_iff, Except.ok.injEq] at h
  obtain ⟨_, -, type, htype, _, -, _, -, _, -, _, -, name, hname, _, -, _, -, rfl⟩ := h
  refine ⟨?_, _, hname⟩
  have hvolume : type.bind Value.asStr = some "volume" := by
    simp only [mountKind] at hkind
    split at hkind <;> first | assumption | cases hkind
  obtain ⟨value, rfl, htext⟩ := Option.bind_eq_some_iff.mp hvolume
  rw [Value.asStr_eq_some_iff] at htext
  subst htext
  have hget := foldlM_get_of_fieldValue htype rfl rfl
  simp only [List.foldlM_cons, List.foldlM_nil, bind_pure] at hget
  rw [hget]
  rfl

theorem endpointNetworkId_eq_some_iff {item : Value} {field : FieldPath}
    {found : Observed ProtectedValue} {text : String}
    (h : stringField item ["NetworkID"] field .runtimeAssigned = .ok found) :
    endpointNetworkId item = some text ↔ found.value = some (asBytes text) ∧ text ≠ "" := by
  rw [endpointNetworkId, Option.filter_eq_some_iff, decide_eq_true_eq]
  refine and_congr_left fun _ => ?_
  constructor
  · intro hget
    exact value_of_stringField h (stringField_of_get _ _ hget (by decide))
  · intro hvalue
    obtain ⟨value, hget, -, hstring⟩ := observed_eq_ok h hvalue
    simp only [List.foldlM_cons, List.foldlM_nil, bind_pure] at hget
    rw [hget, Option.bind_some]
    obtain ⟨other, hother, hbytes⟩ := Option.map_eq_some_iff.mp (shaped_eq_ok_iff.mp hstring)
    rw [hother, asBytes_injective hbytes]

/-- An attachment whose network is among the decoded ones: by its id where it has one,
else by its name. -/
def NetworkKnown (networks : List NetworkObservation) (attachment : NetworkAttachment) : Prop :=
  match attachment.networkId.value.filter (· ≠ []) with
  | some id => ∃ network ∈ networks, network.id.value = some id
  | none => ∃ network ∈ networks, network.id.value = some attachment.name ∨
      network.name.value = some attachment.name

/-- A mount whose volume is among the decoded ones. -/
def VolumeKnown (volumes : List VolumeObservation) (mount : MountObservation) : Prop :=
  ∃ name, mount.name.value = some name ∧ ∃ volume ∈ volumes, volume.name.value = some name

theorem network_known (h : Acquired fromSlice selector limits capture history)
    (hdecoded : Decoded fromSlice capture history.exchanges decoding) {id : NativeId}
    {byName : Bool} (hmem : (id, byName) ∈ history.related.networks) :
    ∃ network ∈ decoding.networks,
      if byName then network.name.value = some (asBytes id.text)
      else network.id.value = some (asBytes id.text) := by
  rw [← (Related.sortedNetworks_perm _).mem_iff, ← h.networks_eq] at hmem
  obtain ⟨inspection, hinspection, hentry⟩ := List.mem_map.mp hmem
  cases hentry
  obtain ⟨found, hfound, body, hbody, hdecode⟩ := network_observed h hdecoded hinspection
  obtain ⟨-, hid, hname, -⟩ := network_eq_ok hdecode
  have htext := @id_of_identified _ _ _ _ _ h inspection .network hinspection body hbody
  have hkind := h.networks_kind inspection hinspection
  refine ⟨found, hfound, ?_⟩
  cases hby : inspection.byName with
  | true =>
      rw [show inspection.identityKey = "Name" by
        simp [Inspection.identityKey, hkind, hby]] at htext
      exact value_of_stringField hname (stringField_of_get _ _ htext (by decide))
  | false =>
      rw [show inspection.identityKey = "Id" by
        simp [Inspection.identityKey, hkind, hby]] at htext
      exact value_of_stringField hid (stringField_of_get _ _ htext (by decide))

theorem volume_known (h : Acquired fromSlice selector limits capture history)
    (hdecoded : Decoded fromSlice capture history.exchanges decoding) {id : NativeId}
    (hmem : id ∈ history.related.volumes) :
    ∃ volume ∈ decoding.volumes, volume.name.value = some (asBytes id.text) := by
  rw [← (Related.sortedVolumes_perm _).mem_iff, ← h.volumes_eq] at hmem
  obtain ⟨inspection, hinspection, rfl⟩ := List.mem_map.mp hmem
  obtain ⟨found, hfound, body, hbody, hdecode⟩ := volume_observed h hdecoded hinspection
  obtain ⟨-, hname⟩ := volume_eq_ok hdecode
  have htext := @id_of_identified _ _ _ _ _ h inspection .volume hinspection body hbody
  rw [show inspection.identityKey = "Name" by
    simp [Inspection.identityKey, h.volumes_kind inspection hinspection]] at htext
  exact ⟨found, hfound, value_of_stringField hname (stringField_of_get _ _ htext (by decide))⟩

theorem related_of_decoded (h : Acquired fromSlice selector limits capture history)
    (hdecoded : Decoded fromSlice capture history.exchanges decoding)
    {found : ContainerObservation} (hmem : found ∈ decoding.containers) :
    ∃ inspection ∈ history.containers, ∃ body, container body inspection.reference = .ok found ∧
      relatedNetworks body = .ok (relatedOf fromSlice inspection.body).networks ∧
      relatedVolumes body = .ok (relatedOf fromSlice inspection.body).volumes := by
  obtain ⟨inspection, hinspection, hkind, body, hbody, hdecode⟩ := container_of_mem hdecoded hmem
  have hcontainer : inspection ∈ history.containers := by
    obtain ⟨kind, hof⟩ := Acquired.mem_found.mp hinspection
    obtain rfl : kind = .container := (h.inspections_kind hof).symm.trans hkind
    exact hof
  obtain ⟨body', hbody', hrelated⟩ := related_of_container h hcontainer
  obtain rfl : body = body' := by
    rw [hbody] at hbody'
    exact Option.some.inj hbody'
  exact ⟨inspection, hcontainer, body, hdecode, hrelated⟩

/-- Every decoded attachment was found by the acquisition as well. -/
theorem attachment_known (h : Acquired fromSlice selector limits capture history)
    (hdecoded : Decoded fromSlice capture history.exchanges decoding)
    {found : ContainerObservation} (hmem : found ∈ decoding.containers)
    {attachments : List NetworkAttachment} (hattachments : found.networks.value = some attachments)
    {attachment : NetworkAttachment} (hattachment : attachment ∈ attachments) :
    NetworkKnown decoding.networks attachment := by
  obtain ⟨inspection, hcontainer, body, hdecode, hrelated, -⟩ :=
    related_of_decoded h hdecoded hmem
  obtain ⟨value, hvalue, hnull, hnetworks⟩ :=
    observed_eq_ok (container_eq_ok hdecode).2.2.2 hattachments
  obtain ⟨members, hmembers, hread⟩ := bind_eq_ok_iff.mp hnetworks
  obtain rfl := Value.asObject_eq_some_iff.mp (asObject_of_object hmembers)
  obtain ⟨entry, hentry, hattach⟩ :=
    exists_of_forall₂_right (mapM_eq_ok_iff.mp hread) hattachment
  obtain ⟨hname, field, hid⟩ := networkAttachment_eq_ok hattach
  have hmember : entry.1 ∈ members := (List.mem_zipIdx' hentry).2 ▸ List.getElem_mem _
  -- The acquisition read the same member of the same object.
  have hget : (body.get "NetworkSettings").bind (Value.get · "Networks") =
      some (.object members) := by
    simpa using hvalue
  rcases relatedNetworks_eq_ok hrelated with ⟨-, hnone⟩ | ⟨endpoints, hendpoints, hpairs⟩
  · simp [hget, Value.isNull] at hnone
  rw [endpointsOf, hget] at hendpoints
  obtain rfl : members = endpoints := Option.some.inj hendpoints
  obtain ⟨network, hnetwork, hpair⟩ := exists_of_forall₂_left hpairs hmember
  obtain ⟨htext, hbyName⟩ := relatedNetwork_eq_ok hpair
  rw [NetworkKnown]
  cases hendpoint : endpointNetworkId entry.1.2 with
  | some text =>
      obtain ⟨hfound, hne⟩ := (endpointNetworkId_eq_some_iff hid).mp hendpoint
      rw [hendpoint] at htext hbyName
      have hfalse : (network.1, false) ∈ (relatedOf fromSlice inspection.body).networks := by
        rw [show (network.1, false) = network from Prod.ext rfl hbyName.symm]
        exact hnetwork
      obtain ⟨observed, hobserved, hknown⟩ :=
        network_known h hdecoded (related_false h hcontainer hfalse)
      rw [htext] at hknown
      have hnonempty : attachment.networkId.value.filter (· ≠ []) = some (asBytes text) := by
        rw [hfound]
        simp [hne]
      rw [hnonempty]
      exact ⟨observed, hobserved, hknown⟩
  | none =>
      have hempty : attachment.networkId.value.filter (· ≠ []) = none := by
        by_contra hsome
        obtain ⟨bytes, hbytes⟩ := Option.ne_none_iff_exists'.mp hsome
        obtain ⟨hvalue, hne⟩ := Option.filter_eq_some_iff.mp hbytes
        obtain ⟨raw, -, -, hstring⟩ := observed_eq_ok hid hvalue
        obtain ⟨text, -, hbytes⟩ := Option.map_eq_some_iff.mp (shaped_eq_ok_iff.mp hstring)
        have hfound := (@endpointNetworkId_eq_some_iff _ _ _ text hid).mpr
          ⟨hbytes ▸ hvalue, by
            rintro rfl
            rw [← hbytes] at hne
            simp at hne⟩
        rw [hendpoint] at hfound
        cases hfound
      rw [hempty]
      rw [hendpoint] at htext
      have hkey : network.1 ∈ keys history.related.networks :=
        (mem_keys_related h).mpr (.inr ⟨inspection, hcontainer, List.mem_map_of_mem hnetwork⟩)
      obtain ⟨⟨native, byName⟩, hrelated, hsame⟩ := List.mem_map.mp hkey
      obtain ⟨observed, hobserved, hknown⟩ := network_known h hdecoded hrelated
      have hattached : asBytes native.text = attachment.name := by
        rw [hname, show native = network.1 from hsame, htext]
        rfl
      rw [hattached] at hknown
      refine ⟨observed, hobserved, ?_⟩
      cases byName with
      | true => exact .inr hknown
      | false => exact .inl hknown

/-- Every decoded volume mount was found by the acquisition as well. -/
theorem mount_known (h : Acquired fromSlice selector limits capture history)
    (hdecoded : Decoded fromSlice capture history.exchanges decoding)
    {found : ContainerObservation} (hmem : found ∈ decoding.containers)
    {mounts : List MountObservation} (hmounts : found.mounts.value = some mounts)
    {mount : MountObservation} (hmount : mount ∈ mounts) (hvolume : mount.kind = .volume) :
    VolumeKnown decoding.volumes mount := by
  obtain ⟨inspection, hcontainer, body, hdecode, -, hvolumes⟩ :=
    related_of_decoded h hdecoded hmem
  obtain ⟨value, hvalue, hnull, hparse⟩ := observed_eq_ok (container_eq_ok hdecode).2.2.1 hmounts
  obtain ⟨items, hitems, hread⟩ := bind_eq_ok_iff.mp hparse
  obtain rfl := Value.asArray_eq_some_iff.mp (asArray_of_array hitems)
  obtain ⟨entry, hentry, hdecodeMount⟩ :=
    exists_of_forall₂_right (mapM_eq_ok_iff.mp hread) hmount
  obtain ⟨htype, field, hname⟩ := mount_eq_ok hdecodeMount hvolume
  have hmember : entry.1 ∈ items := (List.mem_zipIdx' hentry).2 ▸ List.getElem_mem _
  have hget : body.get "Mounts" = some (.array items) := by
    simpa using hvalue
  rcases relatedVolumes_eq_ok hvolumes with ⟨-, hnone⟩ | ⟨entries, found, hentries, hpairs, heq⟩
  · simp [hget, Value.isNull] at hnone
  rw [hget] at hentries
  obtain rfl : items = entries := Option.some.inj hentries
  obtain ⟨volume, hvolumeMem, hpair⟩ := exists_of_forall₂_left hpairs hmember
  obtain ⟨name, rfl⟩ : ∃ name, volume = some name := by
    rw [relatedVolume, if_pos htype] at hpair
    split at hpair
    · cases hpair
    · cases hpair
      exact ⟨_, rfl⟩
  obtain ⟨-, htext⟩ := relatedVolume_eq_ok hpair
  have hrelated : name ∈ history.related.volumes := by
    refine (mem_volumes_related h).mpr (.inr ⟨inspection, hcontainer, ?_⟩)
    rw [heq]
    exact List.mem_filterMap.mpr ⟨some name, hvolumeMem, rfl⟩
  exact ⟨asBytes name.text, value_of_stringField hname (stringField_of_get _ _ htext (by decide)),
    volume_known h hdecoded hrelated⟩

/-- An inspection of a selected root. -/
def OfRoot (capture : Capture) (kind : RootKind) (exchange : CapturedExchange) : Prop :=
  ∃ root ∈ capture.selectedRoots, root.kind = kind ∧ exchange.resource = some root.resource

/-- A property of the body of some inspected container. -/
def OfContainer (fromSlice : Bytes → Option Value) (capture : Capture) (holds : Value → Prop) :
    Prop :=
  ∃ exchange ∈ capture.exchanges, ∃ id, exchange.request = .inspectContainer id ∧
    ∃ body, fromSlice exchange.body = some body ∧ holds body

/-- An exchange that the selector or an inspected container asks for. -/
def Justified (fromSlice : Bytes → Option Value) (selector : Selector) (capture : Capture)
    (exchange : CapturedExchange) : Prop :=
  match exchange.request with
  | .inspectContainer id => OfRoot capture .container exchange ∧
      ∃ picked, Picks fromSlice selector (listBody capture) picked ∧ id ∈ picked
  | .inspectNetwork id => OfRoot capture .network exchange ∨
      OfContainer fromSlice capture fun body => NamesNetwork body id
  | .inspectVolume id => OfRoot capture .volume exchange ∨
      OfContainer fromSlice capture fun body => NamesVolume body id
  | .daemonVersion | .daemonInfo | .listContainers | .listNetworks | .listVolumes => True

theorem ofRoot_of_kind (h : Acquired fromSlice selector limits capture history) {kind : RootKind}
    {inspection : Inspection} (hmem : inspection ∈ history.inspections kind)
    (hroot : selector.rootKind = kind) : OfRoot capture kind (inspection.exchange history.api) := by
  refine ⟨⟨inspection.reference, selector.rootKind, selector.rootReason⟩, ?_, hroot, rfl⟩
  rw [h.selectedRoots_eq, hroot]
  exact List.mem_map.mpr ⟨inspection, hmem, rfl⟩

theorem ofContainer_of_mem (h : Acquired fromSlice selector limits capture history)
    {holds : Value → Prop} (hfound : ∃ container ∈ history.containers, ∃ body,
      fromSlice container.body = some body ∧ holds body) :
    OfContainer fromSlice capture holds := by
  obtain ⟨container, hcontainer, body, hbody, hholds⟩ := hfound
  refine ⟨container.exchange history.api, ?_, container.id, ?_, body, hbody, hholds⟩
  · rw [h.exchanges_eq]
    exact mem_exchanges.mpr (.inr (.inr (.inr
      ⟨container, Acquired.mem_found.mpr ⟨.container, hcontainer⟩, rfl⟩)))
  · simp [Inspection.exchange, Inspection.request, h.containers_kind container hcontainer]

theorem justified (h : Acquired fromSlice selector limits capture history)
    {exchange : CapturedExchange} (hmem : exchange ∈ capture.exchanges) :
    Justified fromSlice selector capture exchange := by
  rw [h.exchanges_eq] at hmem
  rcases mem_exchanges.mp hmem with rfl | rfl | ⟨body, -, rfl⟩ | ⟨inspection, hfound, rfl⟩
  · trivial
  · trivial
  · trivial
  obtain ⟨kind, hinspection⟩ := Acquired.mem_found.mp hfound
  have hkind := h.inspections_kind hinspection
  rw [Justified, show (inspection.exchange history.api).request = inspection.request from rfl,
    Inspection.request, hkind]
  cases kind with
  | container =>
      have hroot : selector.rootKind = .container := by
        by_contra hother
        rw [History.inspections, h.containers_eq_nil hother] at hinspection
        cases hinspection
      refine ⟨ofRoot_of_kind h hinspection hroot, history.picked, ?_, ?_⟩
      · rw [h.listBody_eq]
        exact h.picks
      · rw [← List.mem_eraseDups, ← h.containers_eq]
        exact List.mem_map_of_mem hinspection
  | network =>
      exact (network_inspected h hinspection).imp (ofRoot_of_kind h hinspection)
        (ofContainer_of_mem h)
  | volume =>
      exact (volume_inspected h hinspection).imp (ofRoot_of_kind h hinspection)
        (ofContainer_of_mem h)

end

/-- The acquisition inspects what the selector and the selected containers name, and
nothing else; and everything that a decoded container refers to is decoded too. -/
theorem acquire_closed (fromSlice : Bytes → Option Value) (daemon : Daemon)
    (selector : Selector) (limits : Limits) (capture : Capture)
    (h : acquire fromSlice daemon selector limits = .ok capture) :
    (∀ exchange ∈ capture.exchanges, Justified fromSlice selector capture exchange) ∧
      ∀ inventory, decodeCapture fromSlice capture = .ok inventory →
        ∀ container ∈ inventory.containers,
          (∀ attachments, container.networks.value = some attachments →
            ∀ attachment ∈ attachments, NetworkKnown inventory.networks attachment) ∧
          ∀ mounts, container.mounts.value = some mounts → ∀ mount ∈ mounts,
            mount.kind = .volume → VolumeKnown inventory.volumes mount := by
  obtain ⟨history, hacquired⟩ := acquire_eq_ok h
  refine ⟨fun exchange hmem => justified hacquired hmem, fun inventory hinventory => ?_⟩
  obtain ⟨decoding, hloop, -, -, rfl⟩ := decodeCapture_eq_ok hinventory
  rw [hacquired.exchanges_eq] at hloop
  have hdecoded := decode_eq_ok hloop
  intro container hcontainer
  exact ⟨fun attachments hattachments attachment =>
      attachment_known hacquired hdecoded hcontainer hattachments,
    fun mounts hmounts mount => mount_known hacquired hdecoded hcontainer hmounts⟩

def containerId : String := String.ofList (List.replicate 64 'a')

/-- A daemon with one container, attached to a network and with a volume mounted. -/
def attachedStream (path : String) : Except AcquisitionError Wire :=
  if path = "/version" then respond "\x7b\"ApiVersion\":\"1.45\"\x7d"
  else if path = "/v1.45/info" then respond "\x7b\x7d"
  else if path = "/v1.45/networks/n" then respond "\x7b\"Id\":\"n\"\x7d"
  else if path = "/v1.45/volumes/v" then respond "\x7b\"Name\":\"v\"\x7d"
  else respond ("\x7b\"Id\":\"" ++ containerId ++ "\",\"NetworkSettings\":\x7b\"Networks\":\x7b" ++
    "\"web\":\x7b\"NetworkID\":\"n\"\x7d\x7d\x7d," ++
    "\"Mounts\":[\x7b\"Type\":\"volume\",\"Name\":\"v\"\x7d]\x7d")

def containerSelector : Selector := .containerIds [⟨containerId, by decide⟩]

theorem acquire_closed_container :
    ∃ capture, acquire Json.fromSlice (.fixed ⟨1⟩ attachedStream) containerSelector wideLimits =
        .ok capture ∧
      ∃ inventory, decodeCapture Json.fromSlice capture = .ok inventory ∧
        ∃ container ∈ inventory.containers, ∀ attachments,
          container.networks.value = some attachments →
            ∀ attachment ∈ attachments, NetworkKnown inventory.networks attachment := by
  obtain ⟨inventory, h⟩ := exists_of_isOk (show (do
      let capture ← acquire Json.fromSlice (.fixed ⟨1⟩ attachedStream) containerSelector wideLimits
      match decodeCapture Json.fromSlice capture with
      | .ok inventory =>
          if inventory.containers.isEmpty then .error AcquisitionError.shape else .ok inventory
      | .error _ => .error .shape).isOk = true by decide +kernel)
  obtain ⟨capture, hacquire, h⟩ := bind_eq_ok_iff.mp h
  split at h
  · next inventory hdecode =>
      split at h
      · cases h
      next hne =>
      obtain ⟨container, hcontainer⟩ := List.exists_mem_of_ne_nil inventory.containers
        (by simpa using hne)
      exact ⟨capture, hacquire, inventory, hdecode, container, hcontainer,
        ((acquire_closed Json.fromSlice _ _ _ capture hacquire).2 inventory hdecode container
          hcontainer).1⟩
  · cases h

end DockerLens.Decoder
