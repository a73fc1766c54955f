import DockerLens.Decoder.Identity
import DockerLens.Decoder.Order

namespace DockerLens.Decoder

open DockerLens.Text
open DockerLens.Json
open DockerLens.Observation
open DockerLens.Acquisition
open DockerLens.Version
open DockerLens.Evidence
open DockerLens.Fold

/-- What a finding of an inventory has behind it. -/
inductive Warranted (inventory : DecodedInventory) : Finding → Prop
  | unsupportedMount {container : ContainerObservation} {mounts : List MountObservation}
      {mount : MountObservation} {index : Nat} (mem : container ∈ inventory.containers)
      (mounted : container.mounts.value = some mounts) (authored : mounts[index]? = some mount)
      (unsupported : mount.kind = .other ∨ mount.modeInterpretation.value = some .unsupported) :
      Warranted inventory
        ⟨.warning, .unsupportedValue, some container.reference, some (.mount index)⟩
  | conflictingMount {container : ContainerObservation} {mounts : List MountObservation}
      {mount : MountObservation} {index : Nat} {access : MountAccess}
      {relabel : Option BindRelabel} {writes : Bool} (mem : container ∈ inventory.containers)
      (mounted : container.mounts.value = some mounts) (authored : mounts[index]? = some mount)
      (mode : mount.modeInterpretation.value = some (.supported (some access) relabel))
      (flag : mount.readWrite.value = some writes)
      (conflict : access ≠ if writes then .readWrite else .readOnly) :
      Warranted inventory
        ⟨.warning, .nativeConflict, some container.reference, some (.mount index)⟩
  | networkMode {container : ContainerObservation} {mode : NetworkModeObservation}
      (mem : container ∈ inventory.containers) (observed : container.networkMode.value = some mode)
      (unsupported : mode.kind ≠ .default ∧ mode.kind ≠ .bridge) :
      Warranted inventory
        ⟨.warning, .unsupportedValue, some container.reference, some .networkMode⟩
  | healthcheck {container : ContainerObservation} {health : Healthcheck}
      {test : HealthcheckTest} (mem : container ∈ inventory.containers)
      (observed : container.healthcheck.value = some health)
      (tested : health.test.value = some test) (other : test.isOther = true) :
      Warranted inventory
        ⟨.warning, .unsupportedValue, some container.reference, some .healthcheck⟩
  | daemon (missing : inventory.version.daemon.release = none ∨
        inventory.version.daemon.apiVersion = none) :
      Warranted inventory ⟨.warning, .missingField, none, some .engineRelease⟩
  | mode (unknown : inventory.version.daemon.mode = .unknown) :
      Warranted inventory ⟨.warning, .capabilityUnknown, none, some .daemonMode⟩

section Members

variable {reference : ResourceRef} {finding : Finding} {container : ContainerObservation}

theorem accessConflicts_iff {mode : Observed MountModeInterpretation} {readWrite : Observed Bool} :
    MountMode.accessConflicts mode readWrite = true ↔ ∃ access relabel writes,
      mode.value = some (.supported (some access) relabel) ∧ readWrite.value = some writes ∧
        access ≠ if writes then .readWrite else .readOnly := by
  constructor
  · intro h
    rw [MountMode.accessConflicts] at h
    split at h
    · next hmode hflag => exact ⟨_, _, _, hmode, hflag, by decide⟩
    · next hmode hflag => exact ⟨_, _, _, hmode, hflag, by decide⟩
    · cases h
  · rintro ⟨access, relabel, writes, hmode, hflag, hne⟩
    rw [MountMode.accessConflicts, hmode, hflag]
    cases access <;> cases writes <;> first | rfl | exact absurd rfl hne

theorem mem_mountFindings {entry : MountObservation × Nat} :
    finding ∈ mountFindings reference entry ↔
      (entry.1.kind = .other ∨ entry.1.modeInterpretation.value = some .unsupported) ∧
        finding = ⟨.warning, .unsupportedValue, some reference, some (.mount entry.2)⟩ ∨
      MountMode.accessConflicts entry.1.modeInterpretation entry.1.readWrite = true ∧
        finding = ⟨.warning, .nativeConflict, some reference, some (.mount entry.2)⟩ := by
  rw [mountFindings, List.mem_append, List.mem_ite_nil_right, List.mem_ite_nil_right,
    List.mem_singleton, List.mem_singleton]

theorem mem_networkModeFindings :
    finding ∈ networkModeFindings reference container ↔
      (∃ mode, container.networkMode.value = some mode ∧ mode.kind ≠ .default ∧
        mode.kind ≠ .bridge) ∧
        finding = ⟨.warning, .unsupportedValue, some reference, some .networkMode⟩ := by
  rw [networkModeFindings, List.mem_ite_nil_right, List.mem_singleton, Option.any_eq_true]
  simp only [decide_eq_true_eq]

theorem mem_healthcheckFindings :
    finding ∈ healthcheckFindings reference container ↔
      (∃ health test, container.healthcheck.value = some health ∧
        health.test.value = some test ∧ test.isOther = true) ∧
        finding = ⟨.warning, .unsupportedValue, some reference, some .healthcheck⟩ := by
  rw [healthcheckFindings, List.mem_ite_nil_right, List.mem_singleton, Option.any_eq_true]
  simp only [Option.any_eq_true, ← exists_and_left]

theorem mounted_of_mem {mount : MountObservation} {index : Nat}
    (h : (mount, index) ∈ (container.mounts.value.getD []).zipIdx) :
    ∃ mounts, container.mounts.value = some mounts ∧ mounts[index]? = some mount := by
  rw [List.mem_zipIdx_iff_getElem?] at h
  cases hmounts : container.mounts.value with
  | none =>
      rw [hmounts] at h
      cases h
  | some mounts =>
      rw [hmounts] at h
      exact ⟨mounts, rfl, h⟩

theorem mem_of_mounted {mounts : List MountObservation} {mount : MountObservation} {index : Nat}
    (hmounts : container.mounts.value = some mounts) (h : mounts[index]? = some mount) :
    (mount, index) ∈ (container.mounts.value.getD []).zipIdx := by
  rw [List.mem_zipIdx_iff_getElem?, hmounts]
  exact h

theorem resource_of_mem (h : finding ∈ containerFindings reference container) :
    finding.resource = some reference := by
  rw [containerFindings, List.mem_append, List.mem_append, List.mem_flatMap] at h
  rcases h with (⟨entry, -, h⟩ | h) | h
  · rcases mem_mountFindings.mp h with ⟨-, rfl⟩ | ⟨-, rfl⟩ <;> rfl
  · rw [(mem_networkModeFindings.mp h).2]
  · rw [(mem_healthcheckFindings.mp h).2]

/-- The findings about a container are about different parts of it. -/
theorem nodup_containerFindings : (containerFindings reference container).Nodup := by
  have hindices : (((container.mounts.value.getD []).zipIdx).map Prod.snd).Nodup := by
    rw [List.zipIdx_map_snd]
    exact List.nodup_range'
  have hmounts : (((container.mounts.value.getD []).zipIdx).flatMap
      (mountFindings reference)).Nodup := by
    rw [List.nodup_flatMap]
    constructor
    · rintro ⟨mount, index⟩ -
      rw [mountFindings]
      split <;> split <;> simp
    · refine (List.pairwise_map.mp hindices).imp fun {left right} hne => ?_
      intro finding hleft hright
      rcases mem_mountFindings.mp hleft with ⟨-, rfl⟩ | ⟨-, rfl⟩ <;>
        rcases mem_mountFindings.mp hright with ⟨-, heq⟩ | ⟨-, heq⟩ <;>
        simp [hne] at heq
  have hmode : (networkModeFindings reference container).Nodup := by
    rw [networkModeFindings]
    split <;> simp
  have hhealth : (healthcheckFindings reference container).Nodup := by
    rw [healthcheckFindings]
    split <;> simp
  rw [containerFindings]
  refine (hmounts.append hmode ?_).append hhealth ?_
  · intro finding hmount hnetwork
    obtain ⟨entry, -, hmount⟩ := List.mem_flatMap.mp hmount
    rw [(mem_networkModeFindings.mp hnetwork).2] at hmount
    rcases mem_mountFindings.mp hmount with ⟨-, heq⟩ | ⟨-, heq⟩ <;> cases heq
  · intro finding hother hchecked
    rw [(mem_healthcheckFindings.mp hchecked).2] at hother
    rcases List.mem_append.mp hother with hmount | hnetwork
    · obtain ⟨entry, -, hmount⟩ := List.mem_flatMap.mp hmount
      rcases mem_mountFindings.mp hmount with ⟨-, heq⟩ | ⟨-, heq⟩ <;> cases heq
    · cases (mem_networkModeFindings.mp hnetwork).2

end Members

section Capture

variable {fromSlice : Bytes → Option Value} {capture : Capture}
  {exchanges : List CapturedExchange} {decoding : Decoding}

theorem findings_of_ofExchange {exchange : CapturedExchange} {contribution : Contribution}
    (h : Contribution.ofExchange fromSlice capture exchange = .ok contribution) :
    contribution.findings = contribution.containers.flatMap fun container =>
      containerFindings container.reference container := by
  cases hrequest : exchange.request.inspected with
  | none =>
      obtain ⟨body, found, -, hfound, rfl⟩ := ofExchange_eq_ok h
      rw [Contribution.ofBody] at hfound
      split at hfound
      · simp only [Contribution.ofVersion, bind_eq_ok_iff, Except.ok.injEq] at hfound
        obtain ⟨_, -, _, -, _, -, _, -, rfl⟩ := hfound
        rfl
      · simp only [Contribution.ofInfo, bind_eq_ok_iff, Except.ok.injEq] at hfound
        obtain ⟨_, -, _, -, _, -, _, -, _, -, _, -, rfl⟩ := hfound
        rfl
      · simp only [Contribution.ofContainerList, bind_eq_ok_iff, Except.ok.injEq] at hfound
        obtain ⟨_, -, _, -, _, -, rfl⟩ := hfound
        rfl
      · simp only [Contribution.ofNetworkList, bind_eq_ok_iff, Except.ok.injEq] at hfound
        obtain ⟨_, -, _, -, rfl⟩ := hfound
        rfl
      · simp only [Contribution.ofVolumeList, bind_eq_ok_iff, Except.ok.injEq] at hfound
        obtain ⟨_, -, _, -, rfl⟩ := hfound
        rfl
      all_goals simp_all [ReadRequest.inspected]
  | some entry =>
      obtain ⟨kind, id⟩ := entry
      obtain ⟨reference, body, native, -, hinspected⟩ := inspected_of_request hrequest h
      obtain ⟨observed, hobserved, rfl⟩ := hinspected.observation
      cases kind with
      | container =>
          obtain ⟨container, hcontainer, rfl⟩ := map_eq_ok hobserved
          have hreference := (container_eq_ok hcontainer).1
          simp [hreference]
      | network | volume =>
          obtain ⟨found, -, rfl⟩ := map_eq_ok hobserved
          rfl

theorem findings_of_decoded (h : Decoded fromSlice capture exchanges decoding) :
    decoding.findings = decoding.containers.flatMap fun container =>
      containerFindings container.reference container := by
  obtain ⟨contributions, hcontributions, rfl⟩ := h
  have hfindings : (Decoding.start.recordAll contributions).findings =
      contributions.flatMap Contribution.findings := foldl_append Decoding.findings fun _ _ => rfl
  rw [hfindings, Decoding.containers_recordAll, Decoding.start, List.nil_append,
    List.flatMap_assoc]
  apply List.flatMap_congr
  intro contribution hcontribution
  obtain ⟨exchange, -, hof⟩ := exists_of_forall₂_right hcontributions hcontribution
  exact findings_of_ofExchange hof

/-- The findings of an inventory are exactly the ones that something stands behind, once each. -/
theorem decodeCapture_findings {inventory : DecodedInventory}
    (h : decodeCapture fromSlice capture = .ok inventory) :
    inventory.findings.Nodup ∧
      ∀ finding, finding ∈ inventory.findings ↔ Warranted inventory finding := by
  obtain ⟨decoding, hloop, -, -, rfl⟩ := decodeCapture_eq_ok h
  have hdistinct := decode_distinct hloop
  have hfindings := findings_of_decoded hdistinct.decoded
  have hreferences : (decoding.containers.map ContainerObservation.reference).Nodup := by
    have hpairs := rows_references_nodup hdistinct.references
      ((container_rows hdistinct.decoded).imp fun _ _ hrow => hrow.2)
    have hmap : decoding.containers.map (fun found => (RootKind.container, found.reference)) =
        (decoding.containers.map ContainerObservation.reference).map (RootKind.container, ·) := by
      rw [List.map_map]
      rfl
    rw [hmap] at hpairs
    exact hpairs.of_map _
  constructor
  · change (decoding.findings ++ daemonFindings decoding).Nodup
    rw [hfindings]
    refine List.Nodup.append ?_ ?_ ?_
    · rw [List.nodup_flatMap]
      refine ⟨fun container _ => nodup_containerFindings, ?_⟩
      refine (List.pairwise_map.mp hreferences).imp fun {left right} hne => ?_
      intro finding hleft hright
      have hsame := (resource_of_mem hleft).symm.trans (resource_of_mem hright)
      exact hne (Option.some_inj.mp hsame)
    · rw [daemonFindings]
      split <;> split <;> simp
    · intro finding hcontainer hdaemon
      obtain ⟨container, -, hmem⟩ := List.mem_flatMap.mp hcontainer
      have hresource := resource_of_mem hmem
      rw [daemonFindings, List.mem_append, List.mem_ite_nil_right, List.mem_ite_nil_right,
        List.mem_singleton, List.mem_singleton] at hdaemon
      rcases hdaemon with ⟨-, rfl⟩ | ⟨-, rfl⟩ <;> cases hresource
  · intro finding
    change finding ∈ decoding.findings ++ daemonFindings decoding ↔ _
    rw [hfindings, List.mem_append, List.mem_flatMap]
    constructor
    · rintro (⟨container, hcontainer, hmem⟩ | hmem)
      · rw [containerFindings, List.mem_append, List.mem_append, List.mem_flatMap] at hmem
        rcases hmem with (⟨⟨mount, index⟩, hentry, hmem⟩ | hmem) | hmem
        · obtain ⟨mounts, hmounts, hmount⟩ := mounted_of_mem hentry
          rcases mem_mountFindings.mp hmem with ⟨hunsupported, rfl⟩ | ⟨hconflict, rfl⟩
          · exact .unsupportedMount hcontainer hmounts hmount hunsupported
          · obtain ⟨access, relabel, writes, hmode, hflag, hne⟩ := accessConflicts_iff.mp hconflict
            exact .conflictingMount hcontainer hmounts hmount hmode hflag hne
        · obtain ⟨⟨mode, hmode, hunsupported⟩, rfl⟩ := mem_networkModeFindings.mp hmem
          exact .networkMode hcontainer hmode hunsupported
        · obtain ⟨⟨health, test, hhealth, htest, hother⟩, rfl⟩ := mem_healthcheckFindings.mp hmem
          exact .healthcheck hcontainer hhealth htest hother
      · rw [daemonFindings, List.mem_append, List.mem_ite_nil_right, List.mem_ite_nil_right,
          List.mem_singleton, List.mem_singleton] at hmem
        rcases hmem with ⟨hmissing, rfl⟩ | ⟨hunknown, rfl⟩
        · rw [Bool.or_eq_true, Option.isNone_iff_eq_none, Option.isNone_iff_eq_none] at hmissing
          exact .daemon hmissing
        · exact .mode hunknown
    · rintro (⟨hcontainer, hmounts, hmount, hunsupported⟩ |
        ⟨hcontainer, hmounts, hmount, hmode, hflag, hne⟩ | ⟨hcontainer, hmode, hunsupported⟩ |
        ⟨hcontainer, hhealth, htest, hother⟩ | hmissing | hunknown)
      · refine .inl ⟨_, hcontainer, List.mem_append_left _ (List.mem_append_left _ ?_)⟩
        exact List.mem_flatMap.mpr ⟨_, mem_of_mounted hmounts hmount,
          mem_mountFindings.mpr (.inl ⟨hunsupported, rfl⟩)⟩
      · refine .inl ⟨_, hcontainer, List.mem_append_left _ (List.mem_append_left _ ?_)⟩
        exact List.mem_flatMap.mpr ⟨_, mem_of_mounted hmounts hmount, mem_mountFindings.mpr
          (.inr ⟨accessConflicts_iff.mpr ⟨_, _, _, hmode, hflag, hne⟩, rfl⟩)⟩
      · refine .inl ⟨_, hcontainer, List.mem_append_left _ (List.mem_append_right _ ?_)⟩
        exact mem_networkModeFindings.mpr ⟨⟨_, hmode, hunsupported⟩, rfl⟩
      · refine .inl ⟨_, hcontainer, List.mem_append_right _ ?_⟩
        exact mem_healthcheckFindings.mpr ⟨⟨_, _, hhealth, htest, hother⟩, rfl⟩
      · refine .inr (List.mem_append_left _ (List.mem_ite_nil_right.mpr ⟨?_, ?_⟩))
        · rw [Bool.or_eq_true, Option.isNone_iff_eq_none, Option.isNone_iff_eq_none]
          exact hmissing
        · exact List.mem_singleton_self _
      · exact .inr (List.mem_append_right _ (List.mem_ite_nil_right.mpr
          ⟨hunknown, List.mem_singleton_self _⟩))

/-- A container with a mount of an unknown type, a mount whose mode contradicts its flag, the
network of its host and an unknown health test. -/
def oddInspection : CapturedExchange :=
  ⟨.inspectContainer ⟨"c1", by decide⟩, some ⟨1⟩, ApiVersion.new? 1 49, ⟨200, validStatus_ok⟩,
    asBytes ("\x7b\"Id\":\"c1\",\"Mounts\":[\x7b\"Type\":\"npipe\"\x7d," ++
      "\x7b\"Type\":\"bind\",\"Mode\":\"ro\",\"RW\":true\x7d]," ++
      "\"HostConfig\":\x7b\"NetworkMode\":\"host\"\x7d," ++
      "\"Config\":\x7b\"Healthcheck\":\x7b\"Test\":[\"PROBE\"]\x7d\x7d\x7d")⟩

theorem decodeCapture_findings_odd :
    ∃ inventory, decodeCapture Json.fromSlice
        (reordered versionCapture (versionThenInfo ++ [oddInspection])) = .ok inventory ∧
      inventory.findings =
        [⟨.warning, .unsupportedValue, some ⟨1⟩, some (.mount 0)⟩,
          ⟨.warning, .nativeConflict, some ⟨1⟩, some (.mount 1)⟩,
          ⟨.warning, .unsupportedValue, some ⟨1⟩, some .networkMode⟩,
          ⟨.warning, .unsupportedValue, some ⟨1⟩, some .healthcheck⟩,
          ⟨.warning, .capabilityUnknown, none, some .daemonMode⟩] ∧
      inventory.findings.Nodup ∧ ∀ finding ∈ inventory.findings, Warranted inventory finding := by
  obtain ⟨inventory, hinventory, hfindings⟩ := map_eq_ok (show (decodeCapture Json.fromSlice
    (reordered versionCapture (versionThenInfo ++ [oddInspection]))).map DecodedInventory.findings =
      .ok [⟨.warning, .unsupportedValue, some ⟨1⟩, some (.mount 0)⟩,
        ⟨.warning, .nativeConflict, some ⟨1⟩, some (.mount 1)⟩,
        ⟨.warning, .unsupportedValue, some ⟨1⟩, some .networkMode⟩,
        ⟨.warning, .unsupportedValue, some ⟨1⟩, some .healthcheck⟩,
        ⟨.warning, .capabilityUnknown, none, some .daemonMode⟩] by decide +kernel)
  obtain ⟨hnodup, hwarranted⟩ := decodeCapture_findings hinventory
  exact ⟨inventory, hinventory, hfindings.symm, hnodup, fun finding => (hwarranted finding).mp⟩

end Capture

end DockerLens.Decoder
