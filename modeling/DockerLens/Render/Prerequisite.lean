import DockerLens.Decoder.Acquired
import DockerLens.Decoder.Identity
import DockerLens.Render.Artifact

namespace DockerLens.Render

open DockerLens.Text
open DockerLens.Json
open DockerLens.Observation
open DockerLens.Acquisition
open DockerLens.Version
open DockerLens.Evidence
open DockerLens.Fold
open DockerLens.Decoder
open DockerLens.Target

/-- Closed, value-free failures of a snapshot assessment. -/
inductive NetworkPrerequisiteError
  | observationScopeMismatch
  | invalidSelectedNetworkId
  | collectionTooLarge
  | networkNotFound
  | ambiguousNetwork
  | ambiguousResourceReference
  | selectedRootNotFound
  | duplicateSelectedRoot
  | invalidSelectedRoot
  | invalidNetworkIdEvidence
  | invalidNetworkNameEvidence
  | networkNameMismatch
  | invalidNetworkDriverEvidence
  | networkDriverMismatch
  | invalidNetworkInternalEvidence
  | networkInternalMismatch
  deriving DecidableEq, Repr

/-- A field that was present under the expected origin. -/
def usable {α : Type} (field : Observed α) (origin : Origin) : Bool :=
  field.availability = .present && field.origin = origin && field.value.isSome

/-- The collections that an assessment scans are bounded. -/
def scannable (inventory : DecodedInventory) : Bool :=
  [inventory.networks.length, inventory.selectedRoots.length, inventory.containers.length,
    inventory.volumes.length].all (· ≤ maxCollectionItems)

/-- No other resource of the inventory has the reference of a network. -/
def ownsReference (inventory : DecodedInventory) (network : NetworkObservation) : Bool :=
  (inventory.networks.filter (·.reference = network.reference)).length = 1 &&
    !inventory.containers.any (·.reference = network.reference) &&
    !inventory.volumes.any (·.reference = network.reference)

/-- The root of a network that was picked by its exact id. -/
def checkRoot (inventory : DecodedInventory) (network : NetworkObservation) :
    Except NetworkPrerequisiteError NetworkObservation :=
  match inventory.selectedRoots.find? (·.resource = network.reference) with
  | none => .error .selectedRootNotFound
  | some root =>
      if root.kind ≠ .network ∨ root.reason ≠ .exactNetworkId then .error .invalidSelectedRoot
      else .ok network

/-- The one network of an inventory that has this id and is a selected root. -/
def selectedNetwork (inventory : DecodedInventory) (id : Bytes) :
    Except NetworkPrerequisiteError NetworkObservation :=
  if !scannable inventory then .error .collectionTooLarge
  else
    match inventory.networks.filter (·.id.value = some id) with
    | [] => .error .networkNotFound
    | _ :: _ :: _ => .error .ambiguousNetwork
    | [network] =>
        if !ownsReference inventory network then .error .ambiguousResourceReference
        else if ¬(inventory.selectedRoots.map SelectedRoot.resource).Nodup then
          .error .duplicateSelectedRoot
        else checkRoot inventory network

namespace NetworkPrerequisite

section
variable (self : NetworkPrerequisite)

/-- The checks of the fields that a prerequisite constrains. -/
def assessFields (name driver : Observed ProtectedValue) (internal : Observed Bool) :
    Except NetworkPrerequisiteError Unit := do
  ensure (usable name .effective) .invalidNetworkNameEvidence
  ensure (name.value = some self.identity) .networkNameMismatch
  ensure (usable driver .effective) .invalidNetworkDriverEvidence
  ensure (driver.value = some (asBytes (networkDriverName self.expectedDriver)))
    .networkDriverMismatch
  match self.expectedInternal with
  | none => .ok ()
  | some expected => do
      ensure (usable internal .effective) .invalidNetworkInternalEvidence
      ensure (internal.value = some expected) .networkInternalMismatch

/-- Match this obligation only against a caller-selected network of one observation. -/
def assess (inventory : DecodedInventory) (expectedObservation : ObservationId)
    (selectedNetworkId : NativeId) : Except NetworkPrerequisiteError Unit := do
  ensure (inventory.observationId = expectedObservation ∧
    inventory.version.daemon.observationId = expectedObservation) .observationScopeMismatch
  ensure (validExactContainerId selectedNetworkId) .invalidSelectedNetworkId
  let network ← selectedNetwork inventory (asBytes selectedNetworkId.text)
  ensure (usable network.id .runtimeAssigned) .invalidNetworkIdEvidence
  self.assessFields network.name network.driver network.internal

end

end NetworkPrerequisite

theorem usable_text_iff {body : Value} {key : String} {field : FieldPath} {origin : Origin}
    {found : Observed ProtectedValue} {bytes : Bytes} (hbytes : bytes ≠ [])
    (hkey : key ≠ "__docker_lens_redacted__")
    (h : stringField body [key] field origin = .ok found) :
    (usable found origin = true ∧ found.value = some bytes) ↔
      ((body.get key).bind Value.asStr).map asBytes = some bytes := by
  constructor
  · rintro ⟨-, hvalue⟩
    obtain ⟨value, hget, -, hparse⟩ := observed_eq_ok h hvalue
    simp only [List.foldlM_cons, List.foldlM_nil, bind_pure] at hget
    rw [string, shaped_eq_ok_iff] at hparse
    simpa [hget] using hparse
  · intro hget
    obtain ⟨text, htext, rfl⟩ := Option.map_eq_some_iff.mp hget
    rw [stringField_of_get field origin htext hkey, Except.ok.injEq] at h
    have hnonempty : text ≠ "" := fun hempty => hbytes (by simp [hempty])
    rw [← h, usable, presence, if_neg hnonempty]
    simp [Observed.present]

theorem usable_bool_iff {body : Value} {key : String} {field : FieldPath} {origin : Origin}
    {found : Observed Bool} {expected : Bool} (hkey : key ≠ "__docker_lens_redacted__")
    (h : boolField body [key] field origin = .ok found) :
    (usable found origin = true ∧ found.value = some expected) ↔
      body.get key = some (.bool expected) := by
  constructor
  · rintro ⟨-, hvalue⟩
    obtain ⟨value, hget, -, hparse⟩ := observed_eq_ok h hvalue
    simp only [List.foldlM_cons, List.foldlM_nil, bind_pure] at hget
    rw [shaped_eq_ok_iff] at hparse
    rw [hget]
    cases value <;> simp_all [Value.asBool]
  · intro hget
    have hredacted := isRedacted_of_get hget hkey
    obtain ⟨members, rfl, hlookup⟩ := Value.exists_object_of_get hget
    simp [boolField, observed, observeValue, fieldValue_object hredacted, hlookup, shaped,
      Except.map, Value.isNull, isRedacted, Value.asBool] at h
    rw [← h]
    simp [usable, Observed.present, presence]

/-- What a prerequisite asks of the body of an inspected network. -/
structure Satisfied (prerequisite : NetworkPrerequisite) (body : Value) : Prop where
  name : ((body.get "Name").bind Value.asStr).map asBytes = some prerequisite.identity
  driver : ((body.get "Driver").bind Value.asStr).map asBytes =
    some (asBytes (networkDriverName prerequisite.expectedDriver))
  internal : ∀ expected ∈ prerequisite.expectedInternal,
    body.get "Internal" = some (.bool expected)

/-- The failures of a field that a prerequisite constrains. -/
def NetworkPrerequisiteError.ofField : List NetworkPrerequisiteError :=
  [.invalidNetworkNameEvidence, .networkNameMismatch, .invalidNetworkDriverEvidence,
    .networkDriverMismatch, .invalidNetworkInternalEvidence, .networkInternalMismatch]

section Fields

variable {prerequisite : NetworkPrerequisite} {name driver : Observed ProtectedValue}
  {internal : Observed Bool}

theorem raises_ensure {ε : Type} {kind : ε → Prop} {condition : Prop} [Decidable condition]
    {error : ε} (h : kind error) : Raises kind (ensure condition error) := by
  rw [ensure]
  split
  · exact .ok
  · exact .error h

theorem raises_assessFields :
    Raises (· ∈ NetworkPrerequisiteError.ofField)
      (prerequisite.assessFields name driver internal) := by
  refine .bind (raises_ensure (by decide)) fun _ => .bind (raises_ensure (by decide)) fun _ =>
    .bind (raises_ensure (by decide)) fun _ => .bind (raises_ensure (by decide)) fun _ => ?_
  cases prerequisite.expectedInternal with
  | none => exact .ok
  | some expected =>
      exact .bind (raises_ensure (by decide)) fun _ => raises_ensure (by decide)

theorem assessFields_eq_ok_iff :
    prerequisite.assessFields name driver internal = .ok () ↔
      (usable name .effective = true ∧ name.value = some prerequisite.identity) ∧
        (usable driver .effective = true ∧
          driver.value = some (asBytes (networkDriverName prerequisite.expectedDriver))) ∧
        ∀ expected ∈ prerequisite.expectedInternal,
          usable internal .effective = true ∧ internal.value = some expected := by
  simp only [NetworkPrerequisite.assessFields, bind_eq_ok_iff, ensure_eq_ok_iff]
  cases prerequisite.expectedInternal with
  | none => simp [and_assoc]
  | some expected => simp [bind_eq_ok_iff, and_assoc]

theorem asBytes_networkDriverName_ne_nil (driver : NetworkDriver) :
    asBytes (networkDriverName driver) ≠ [] := by
  cases driver <;> decide

theorem assessFields_iff_satisfied {body : Value} {reference : ResourceRef}
    {network : NetworkObservation} (h : Decoder.network body reference = .ok network)
    (hidentity : prerequisite.identity ≠ []) :
    prerequisite.assessFields network.name network.driver network.internal = .ok () ↔
      Satisfied prerequisite body := by
  obtain ⟨-, -, hname, hdriver, hinternal⟩ := network_eq_ok h
  rw [assessFields_eq_ok_iff, usable_text_iff hidentity (by decide) hname,
    usable_text_iff (asBytes_networkDriverName_ne_nil _) (by decide) hdriver]
  constructor
  · rintro ⟨hname, hdriver, hrest⟩
    exact ⟨hname, hdriver, fun expected hexpected =>
      (usable_bool_iff (by decide) hinternal).mp (hrest expected hexpected)⟩
  · rintro ⟨hname, hdriver, hrest⟩
    exact ⟨hname, hdriver, fun expected hexpected =>
      (usable_bool_iff (by decide) hinternal).mpr (hrest expected hexpected)⟩

end Fields

theorem filter_eq_singleton {α β : Type} {f : α → β} {values : List α} {a : α} {p : α → Bool}
    (hnodup : (values.map f).Nodup) (ha : a ∈ values)
    (hp : ∀ b ∈ values, p b = true ↔ f b = f a) : values.filter p = [a] := by
  obtain ⟨front, back, rfl⟩ := List.append_of_mem ha
  rw [List.map_append, List.map_cons] at hnodup
  have hmiddle := List.nodup_middle.mp hnodup
  have hother : ∀ b ∈ front ++ back, ¬ p b = true := by
    intro b hb hpb
    have hsame := (hp b (by simp at hb ⊢; tauto)).mp hpb
    refine (List.nodup_cons.mp hmiddle).1 ?_
    rw [← hsame, ← List.map_append]
    exact List.mem_map_of_mem hb
  rw [List.filter_append, List.filter_cons, if_pos ((hp a ha).mpr rfl),
    List.filter_eq_nil_iff.mpr fun b hb => hother b (List.mem_append_left _ hb),
    List.filter_eq_nil_iff.mpr fun b hb => hother b (List.mem_append_right _ hb)]
  rfl

section Acquired

variable {fromSlice : Bytes → Option Value} {ids : List NativeId} {limits : Limits}
  {capture : Capture} {history : History} {decoding : Decoding}

theorem found_eq_networks (h : Acquired fromSlice (.networkIds ids) limits capture history) :
    history.found = history.networks := by
  have hcontainers := h.containers_eq_nil (by simp [Selector.rootKind])
  have hvolumes := h.volumes_eq
  rw [h.related_eq_ofSelector (by simp [Selector.rootKind])] at hvolumes
  have hnone : history.volumes = [] := by
    rw [← List.map_eq_nil_iff, hvolumes, ← List.length_eq_zero_iff,
      (Related.sortedVolumes_perm _).length_eq]
    rfl
  rw [History.found, hcontainers, hnone]
  simp

theorem filter_inspects (h : Acquired fromSlice (.networkIds ids) limits capture history)
    {kind : RootKind} (hkind : kind ≠ .network) :
    capture.exchanges.filter (inspects kind) = [] := by
  rw [h.exchanges_eq, List.filter_eq_nil_iff]
  intro exchange hexchange
  rcases mem_exchanges.mp hexchange with rfl | rfl | ⟨body, -, rfl⟩ | ⟨inspection, hfound, rfl⟩
  · exact Bool.false_ne_true
  · exact Bool.false_ne_true
  · exact Bool.false_ne_true
  · rw [found_eq_networks h] at hfound
    simp [inspects, h.networks_kind inspection hfound, hkind.symm]

theorem decoded_networks_only
    (h : Acquired fromSlice (.networkIds ids) limits capture history)
    (hdecoded : Decoded fromSlice capture capture.exchanges decoding) :
    decoding.containers = [] ∧ decoding.volumes = [] := by
  have hcontainers := container_rows hdecoded
  have hvolumes := volume_rows hdecoded
  rw [filter_inspects h (by decide), List.forall₂_nil_left_iff] at hcontainers hvolumes
  exact ⟨hcontainers, hvolumes⟩

/-- The one exchange that inspects an id of the selector. -/
theorem exists_exchange (h : Acquired fromSlice (.networkIds ids) limits capture history)
    {id : NativeId} (hid : id ∈ ids) :
    ∃ inspection ∈ history.networks, inspection.id = id ∧
      inspection.exchange history.api ∈ capture.exchanges ∧
      (inspection.exchange history.api).request = .inspectNetwork id ∧
      ∀ other ∈ capture.exchanges, other.request = .inspectNetwork id →
        other = inspection.exchange history.api := by
  obtain ⟨targets, htargets, hperm⟩ := h.targets
  obtain rfl : targets = ids := htargets
  have hmem : id ∈ history.networks.map Inspection.id := hperm.mem_iff.mpr (by simpa using hid)
  obtain ⟨inspection, hinspection, rfl⟩ := List.mem_map.mp hmem
  have hfound : inspection ∈ history.found := by rwa [found_eq_networks h]
  refine ⟨inspection, hinspection, rfl, ?_, ?_, fun other hother hrequest => ?_⟩
  · rw [h.exchanges_eq]
    exact mem_exchanges.mpr (.inr (.inr (.inr ⟨inspection, hfound, rfl⟩)))
  · rw [Inspection.exchange, Inspection.request, h.networks_kind inspection hinspection]
  · rw [h.exchanges_eq] at hother
    have hinspected : other.request.inspected = some (.network, inspection.id) := by
      rw [hrequest]
      rfl
    rcases mem_exchanges.mp hother with rfl | rfl | ⟨body, -, rfl⟩ | ⟨found, hmem, rfl⟩
    · cases hinspected
    · cases hinspected
    · cases hinspected
    · rw [found_eq_networks h] at hmem
      rw [inspected_exchange, Option.some.injEq, Prod.mk.injEq] at hinspected
      rw [List.inj_on_of_nodup_map (inspections_id_nodup h .network) hmem hinspection hinspected.2]

theorem scannable_acquired (h : Acquired fromSlice (.networkIds ids) limits capture history)
    (hdecoded : Decoded fromSlice capture capture.exchanges decoding)
    (hlength : capture.exchanges.length ≤ maxCollectionItems) :
    scannable (decodedInventory capture decoding) = true := by
  obtain ⟨hcontainers, hvolumes⟩ := decoded_networks_only h hdecoded
  have hnetworks : decoding.networks.length ≤ maxCollectionItems := by
    rw [← (network_rows hdecoded).length_eq]
    exact (List.length_filter_le _ _).trans hlength
  have hroots : capture.selectedRoots.length ≤ maxCollectionItems := by
    have hfound : history.found.length ≤ capture.exchanges.length := by
      rw [h.exchanges_eq]
      simp only [History.exchanges, List.length_append, List.length_map]
      omega
    rw [h.selectedRoots_eq, List.length_map]
    exact ((congrArg List.length (found_eq_networks h)).ge.trans hfound).trans hlength
  simp [scannable, decodedInventory, hcontainers, hvolumes, hnetworks, hroots]

theorem checkRoot_acquired (h : Acquired fromSlice (.networkIds ids) limits capture history)
    {inspection : Inspection} (hmem : inspection ∈ history.networks)
    {network : NetworkObservation} (hreference : network.reference = inspection.reference) :
    checkRoot (decodedInventory capture decoding) network = .ok network := by
  have hroots : capture.selectedRoots = history.networks.map fun inspection =>
      ⟨inspection.reference, .network, .exactNetworkId⟩ := h.selectedRoots_eq
  rw [checkRoot]
  split
  · next hnone =>
      refine absurd (List.find?_eq_none.mp hnone ⟨inspection.reference, .network, .exactNetworkId⟩
        ?_) (by simp [hreference])
      change _ ∈ capture.selectedRoots
      rw [hroots]
      exact List.mem_map_of_mem hmem
  · next root hroot =>
      have hroot : root ∈ capture.selectedRoots := List.mem_of_find?_eq_some hroot
      rw [hroots] at hroot
      obtain ⟨found, -, rfl⟩ := List.mem_map.mp hroot
      rw [if_neg (by simp)]

/-- The observation of an inspected network is the one that the assessment selects. -/
theorem selectedNetwork_acquired
    (h : Acquired fromSlice (.networkIds ids) limits capture history)
    (hdecoding : capture.exchanges.foldlM (decodeExchange fromSlice capture) .start = .ok decoding)
    (hlength : capture.exchanges.length ≤ maxCollectionItems) {inspection : Inspection}
    (hmem : inspection ∈ history.networks) :
    ∃ body network, fromSlice inspection.body = some body ∧
      Decoder.network body inspection.reference = .ok network ∧
      network.id = holds inspection.id .runtimeAssigned ∧
      selectedNetwork (decodedInventory capture decoding) (asBytes inspection.id.text) =
        .ok network := by
  have hdistinct := decode_distinct hdecoding
  have hdecoded := hdistinct.decoded
  obtain ⟨network, hnetwork, body, hbody, hdecode⟩ :=
    network_observed h (h.exchanges_eq ▸ hdecoded) hmem
  obtain ⟨hreference, hid, -⟩ := network_eq_ok hdecode
  have hkey : inspection.identityKey = "Id" := by
    simp [Inspection.identityKey, h.networks_kind inspection hmem, byName_of_root h rfl hmem]
  have htext : (body.get inspection.identityKey).bind Value.asStr = some inspection.id.text :=
    @id_of_identified _ _ _ _ _ h inspection .network hmem body hbody
  rw [hkey] at htext
  have hholds : network.id = holds inspection.id .runtimeAssigned :=
    eq_holds hid htext (by decide)
  refine ⟨body, network, hbody, hdecode, hholds, ?_⟩
  have hrows := network_rows hdecoded
  -- no other network has its id, and no other one has its reference
  have hidentity : decoding.networks.filter
      (·.id.value = some (asBytes inspection.id.text)) = [network] := by
    refine filter_eq_singleton
      (rows_identities_nodup hdistinct.natives (hrows.imp fun _ _ hrow => hrow.2)) hnetwork ?_
    intro other hother
    obtain ⟨exchange, -, ⟨_, native, -, -, hnative, -⟩, -⟩ := exists_of_forall₂_right hrows hother
    rw [hholds, hnative]
    simp [holds, Observed.present]
  have hreferences : decoding.networks.filter (·.reference = network.reference) = [network] := by
    refine filter_eq_singleton
      (rows_references_nodup hdistinct.references (hrows.imp fun _ _ hrow => hrow.2)) hnetwork ?_
    simp
  obtain ⟨hcontainers, hvolumes⟩ := decoded_networks_only h hdecoded
  have howns : ownsReference (decodedInventory capture decoding) network = true := by
    simp [ownsReference, decodedInventory, hreferences, hcontainers, hvolumes]
  have hroots : ((decodedInventory capture decoding).selectedRoots.map
      SelectedRoot.resource).Nodup := by
    have hnodup := references_nodup h
    rw [found_eq_networks h] at hnodup
    rw [decodedInventory, h.selectedRoots_eq, List.map_map]
    exact hnodup
  rw [selectedNetwork, scannable_acquired h hdecoded hlength]
  simp only [Bool.not_true, Bool.false_eq_true, if_false]
  rw [show (decodedInventory capture decoding).networks = decoding.networks from rfl, hidentity]
  simp only [howns, Bool.not_true, Bool.false_eq_true, if_false]
  rw [if_neg (not_not.mpr hroots)]
  exact checkRoot_acquired h hmem hreference

end Acquired

/-- Two inventories that differ in nothing that the assessment of a network may read. -/
structure SameEvidence (id : Bytes) (left right : DecodedInventory) : Prop where
  observationId : right.observationId = left.observationId
  daemonId : right.version.daemon.observationId = left.version.daemon.observationId
  selectedRoots : right.selectedRoots = left.selectedRoots
  containers : right.containers.map ContainerObservation.reference =
    left.containers.map ContainerObservation.reference
  volumes : right.volumes.map VolumeObservation.reference =
    left.volumes.map VolumeObservation.reference
  networks : List.Forall₂ (fun left right : NetworkObservation =>
      right.reference = left.reference ∧ right.id = left.id ∧
        (left.id.value = some id → right.name = left.name ∧ right.driver = left.driver ∧
          right.internal = left.internal))
    left.networks right.networks

theorem checkRoot_eq_ok {inventory : DecodedInventory} {network found : NetworkObservation}
    (h : checkRoot inventory network = .ok found) : found = network := by
  rw [checkRoot] at h
  split at h
  · cases h
  · split at h
    · cases h
    · exact (Except.ok.inj h).symm

/-- What a successful selection went through. -/
theorem selectedNetwork_eq_ok_iff {inventory : DecodedInventory} {id : Bytes}
    {network : NetworkObservation} :
    selectedNetwork inventory id = .ok network ↔
      scannable inventory = true ∧
        inventory.networks.filter (·.id.value = some id) = [network] ∧
        ownsReference inventory network = true ∧
        (inventory.selectedRoots.map SelectedRoot.resource).Nodup ∧
        checkRoot inventory network = .ok network := by
  rw [selectedNetwork]
  constructor
  · intro h
    split at h
    · cases h
    next hscannable =>
    split at h
    · cases h
    · cases h
    next found hfound =>
    split at h
    · cases h
    next howns =>
    split at h
    · cases h
    next hnodup =>
    obtain rfl := checkRoot_eq_ok h
    exact ⟨by simpa using hscannable, hfound, by simpa using howns, not_not.mp hnodup, h⟩
  · rintro ⟨hscannable, hfilter, howns, hnodup, hroot⟩
    simp only [hscannable, hfilter, howns, Bool.not_true, Bool.false_eq_true, if_false]
    rw [if_neg (not_not.mpr hnodup)]
    exact hroot

theorem any_reference {α : Type} {reference : α → ResourceRef} {left right : List α}
    (h : right.map reference = left.map reference) (found : ResourceRef) :
    right.any (reference · = found) = left.any (reference · = found) := by
  have hany : ∀ values : List α, values.any (reference · = found) =
      (values.map reference).any (· = found) := fun values => by
    rw [List.any_map]
    rfl
  rw [hany, hany, h]

/-- The same evidence selects a network with the same fields. -/
theorem selectedNetwork_congr {id : Bytes} {left right : DecodedInventory}
    {network : NetworkObservation} (h : SameEvidence id left right)
    (hleft : selectedNetwork left id = .ok network) :
    ∃ other, selectedNetwork right id = .ok other ∧ other.id = network.id ∧
      other.name = network.name ∧ other.driver = network.driver ∧
      other.internal = network.internal := by
  obtain ⟨hscannable, hfilter, howns, hnodup, hroot⟩ := selectedNetwork_eq_ok_iff.mp hleft
  have hmatches := List.rel_filter (p := (·.id.value = some id)) (q := (·.id.value = some id))
    (fun _ _ hsame => by simp [hsame.2.1]) h.networks
  have hreferences := fun reference : ResourceRef =>
    (List.rel_filter (p := (·.reference = reference)) (q := (·.reference = reference))
      (fun _ _ hsame => by simp [hsame.1]) h.networks).length_eq
  rw [hfilter] at hmatches
  obtain ⟨other, rest, hsame, hrest, hother⟩ := List.forall₂_cons_left_iff.mp hmatches
  rw [List.forall₂_nil_left_iff] at hrest
  subst hrest
  have hid : network.id.value = some id := by
    have hmem : network ∈ left.networks.filter (·.id.value = some id) := by simp [hfilter]
    simpa using List.of_mem_filter hmem
  refine ⟨other, selectedNetwork_eq_ok_iff.mpr ⟨?_, hother, ?_, ?_, ?_⟩, hsame.2.1,
    hsame.2.2 hid⟩
  · have hcontainers := congrArg List.length h.containers
    have hvolumes := congrArg List.length h.volumes
    rw [List.length_map, List.length_map] at hcontainers hvolumes
    rw [scannable, hcontainers, hvolumes, h.selectedRoots, ← h.networks.length_eq]
    exact hscannable
  · rw [ownsReference, ← hreferences, any_reference h.containers, any_reference h.volumes, hsame.1]
    exact howns
  · rw [h.selectedRoots]
    exact hnodup
  · rw [checkRoot, h.selectedRoots, hsame.1]
    rw [checkRoot] at hroot
    split at hroot
    · cases hroot
    next root hfound =>
    split at hroot
    · cases hroot
    next hkind =>
    exact if_neg hkind

theorem assess_eq_assessFields {prerequisite : NetworkPrerequisite}
    {inventory : DecodedInventory} {id : NativeId} {network : NetworkObservation}
    (hdaemon : inventory.version.daemon.observationId = inventory.observationId)
    (hvalid : validExactContainerId id = true)
    (hnetwork : selectedNetwork inventory (asBytes id.text) = .ok network)
    (hid : network.id = holds id .runtimeAssigned) :
    prerequisite.assess inventory inventory.observationId id =
      prerequisite.assessFields network.name network.driver network.internal := by
  have husable : usable network.id .runtimeAssigned = true := by
    simp [hid, usable, holds, Observed.present]
  rw [NetworkPrerequisite.assess, ensure, if_pos ⟨rfl, hdaemon⟩, ok_bind, ensure, if_pos hvalid,
    ok_bind, hnetwork, ok_bind, ensure, if_pos husable, ok_bind]

/-- Snapshot assessment after an acquisition by network ids: the prerequisite is met exactly
when the body that was inspected for the id satisfies it, every failure is about a field that
the prerequisite constrains, and neither the reference of the prerequisite nor any other field
of a resource makes a difference. -/
theorem assess_acquired {fromSlice : Bytes → Option Value} {daemon : Daemon}
    {ids : List NativeId} {limits : Limits} {capture : Capture} {inventory : DecodedInventory}
    (hacquire : acquire fromSlice daemon (.networkIds ids) limits = .ok capture)
    (hdecode : decodeCapture fromSlice capture = .ok inventory) {id : NativeId} (hid : id ∈ ids)
    (identity : TargetIdentity) (reference : ResourceRef) (expectedDriver : NetworkDriver)
    (expectedInternal : Option Bool) :
    ∃ exchange ∈ capture.exchanges, exchange.request = .inspectNetwork id ∧
      (∀ other ∈ capture.exchanges, other.request = .inspectNetwork id → other = exchange) ∧
      ∃ body, fromSlice exchange.body = some body ∧
        let prerequisite : NetworkPrerequisite :=
          ⟨reference, expectedDriver, expectedInternal, identity.bytes⟩
        (prerequisite.assess inventory inventory.observationId id = .ok () ↔
          Satisfied prerequisite body) ∧
        (∀ error, prerequisite.assess inventory inventory.observationId id = .error error →
          error ∈ NetworkPrerequisiteError.ofField) ∧
        ∀ other evidence, SameEvidence (asBytes id.text) inventory evidence →
          { prerequisite with reference := other }.assess evidence evidence.observationId id =
            prerequisite.assess inventory inventory.observationId id := by
  obtain ⟨history, h⟩ := acquire_eq_ok hacquire
  obtain ⟨decoding, hdecoding, hlength, -, rfl⟩ := decodeCapture_eq_ok hdecode
  obtain ⟨inspection, hmem, rfl, hexchange, hrequest, hunique⟩ := exists_exchange h hid
  obtain ⟨body, network, hbody, hnetwork, hholds, hselected⟩ :=
    selectedNetwork_acquired h hdecoding hlength hmem
  have hvalid : validExactContainerId inspection.id = true := by
    have hselector := h.selector_valid
    rw [validateSelector] at hselector
    split at hselector
    · cases hselector
    split at hselector
    · cases hselector
    next hall =>
        rw [Bool.not_eq_true, List.any_eq_false] at hall
        simpa using hall inspection.id hid
  have hassess : ∀ prerequisite : NetworkPrerequisite, prerequisite.assess
      (decodedInventory capture decoding) (decodedInventory capture decoding).observationId
        inspection.id = prerequisite.assessFields network.name network.driver network.internal :=
    fun _ => assess_eq_assessFields rfl hvalid hselected hholds
  refine ⟨_, hexchange, hrequest, hunique, body, hbody, ?_, ?_, ?_⟩
  · rw [hassess]
    refine assessFields_iff_satisfied hnetwork fun hempty => ?_
    have hchecked := identity.checked
    rw [show identity.bytes = [] from hempty] at hchecked
    cases hchecked
  · rw [hassess]
    exact raises_assessFields
  · intro other evidence hsame
    obtain ⟨found, hfound, hfoundId, hname, hdriver, hinternal⟩ :=
      selectedNetwork_congr hsame hselected
    have hdaemon : evidence.version.daemon.observationId = evidence.observationId := by
      rw [hsame.daemonId, hsame.observationId]
      rfl
    rw [hassess, assess_eq_assessFields hdaemon hvalid hfound (hfoundId.trans hholds), hname,
      hdriver, hinternal]
    rfl

def networkId : NativeId := ⟨String.ofList (List.replicate 64 'a'), by decide⟩

/-- A daemon with one network. -/
def networkStream (path : String) : Except AcquisitionError Wire :=
  if path = "/version" then respond "\x7b\"ApiVersion\":\"1.45\"\x7d"
  else if path = "/v1.45/info" then respond "\x7b\x7d"
  else respond ("\x7b\"Id\":\"" ++ networkId.text ++
    "\",\"Name\":\"web\",\"Driver\":\"bridge\",\"Internal\":true\x7d")

theorem assess_acquired_network :
    ∃ capture inventory, acquire Json.fromSlice (.fixed ⟨1⟩ networkStream) (.networkIds [networkId])
        wideLimits = .ok capture ∧
      decodeCapture Json.fromSlice capture = .ok inventory ∧
      ∃ exchange ∈ capture.exchanges, ∃ body, Json.fromSlice exchange.body = some body ∧
        (NetworkPrerequisite.assess ⟨⟨7⟩, .bridge, some true, asBytes "web"⟩ inventory
          inventory.observationId networkId = .ok () ↔
          Satisfied ⟨⟨7⟩, .bridge, some true, asBytes "web"⟩ body) := by
  obtain ⟨inventory, h⟩ := exists_of_isOk (show (do
      let capture ← acquire Json.fromSlice (.fixed ⟨1⟩ networkStream) (.networkIds [networkId])
        wideLimits
      (decodeCapture Json.fromSlice capture).mapError fun _ => AcquisitionError.shape).isOk = true
        by decide +kernel)
  obtain ⟨capture, hacquire, h⟩ := bind_eq_ok_iff.mp h
  cases hdecode : decodeCapture Json.fromSlice capture with
  | error => simp [hdecode, Except.mapError] at h
  | ok found =>
      obtain ⟨exchange, hexchange, -, -, body, hbody, hiff, -⟩ := assess_acquired hacquire hdecode
        (show networkId ∈ [networkId] by simp) ⟨asBytes "web", by decide⟩ ⟨7⟩ .bridge (some true)
      exact ⟨capture, found, hacquire, hdecode, exchange, hexchange, body, hbody, hiff⟩

end DockerLens.Render
