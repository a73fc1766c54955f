import DockerLens.Target.Accepted

namespace DockerLens.Target

open DockerLens.Text
open DockerLens.Observation
open DockerLens.Fold
open DockerLens.Collect

/-- A host address that is written out, and neither `0.0.0.0` nor `::`. -/
structure Specified (host : PortHostIp) : Prop where
  explicit : host ≠ .unspecified
  v4 : host ≠ .address (.v4 0)
  v6 : host ≠ .address (.v6 0)

/-- Two hosts that can use one port at a time. -/
structure Separate (left right : PortHostIp) : Prop where
  specified : Specified left ∧ Specified right
  different : left ≠ right

/-- The host ports of all containers go together. -/
structure ConflictFree (resources : List TargetResource) : Prop where
  fixed : (resources.flatMap fixedPorts).Pairwise fun left right =>
    left.port = right.port → left.protocol = right.protocol → Separate left.address right.address
  keys : ∀ container, .container container ∈ resources → (container.ports.map portKey).Nodup
  ephemeral : ∀ container, .container container ∈ resources → ∀ port ∈ container.ports,
    (port.bindings.flatMap dynamicOf).Pairwise Separate

theorem wildcard_eq_false_iff {host : PortHostIp} : wildcard host = false ↔ Specified host := by
  constructor
  · intro h
    constructor <;> rintro rfl <;> simp [wildcard, IpAddr.isUnspecified] at h
  · intro h
    cases host with
    | unspecified => exact absurd rfl h.explicit
    | address address =>
        rw [wildcard]
        cases address with
        | v4 value => simpa [IpAddr.isUnspecified] using h.v4
        | v6 value => simpa [IpAddr.isUnspecified] using h.v6

theorem hostsApart_iff {left right : PortHostIp} : HostsApart left right ↔ Separate left right := by
  rw [HostsApart, hostIpOverlaps]
  simp only [Bool.or_eq_false_iff, wildcard_eq_false_iff, beq_eq_false_iff_ne, and_assoc]
  exact ⟨fun h => ⟨⟨h.1, h.2.1⟩, h.2.2⟩, fun h => ⟨h.specified.1, h.specified.2, h.different⟩⟩

theorem apart_iff {left right : FixedPort} :
    Apart left right ↔ (left.port = right.port → left.protocol = right.protocol →
      Separate left.address right.address) := by
  rw [← hostsApart_iff, HostsApart, Apart, FixedPort.conflicts]
  simp only [Bool.and_eq_false_iff, beq_eq_false_iff_ne]
  tauto

section Raises

variable {resources : List TargetResource}

/-- Every error but a duplicate port. -/
def OtherError (error : IntentError) : Prop := error ≠ .duplicatePort

theorem raises_insertNew {κ : Type} [DecidableEq κ] {kind : IntentError → Prop}
    {error : IntentError} {seen : List κ} {key : κ} (h : kind error) :
    Raises kind (insertNew error seen key) := by
  rw [insertNew]
  split
  · exact .error h
  · exact .ok

theorem raises_checkVolumeLabels (labels : List VolumeLabel) :
    Raises OtherError (checkVolumeLabels labels) :=
  .bind (.ensure (by rintro ⟨⟩)) fun _ => .ensure (by rintro ⟨⟩)

theorem raises_checkDefaultNetwork (taken : Taken) (resource : TargetResource) :
    Raises OtherError (checkDefaultNetwork taken resource) := by
  cases resource with
  | network network =>
      rw [checkDefaultNetwork]
      split
      · exact .bind (.ensure (by rintro ⟨⟩)) fun _ => .ok
      · exact .ok
  | _ => exact .ok

theorem raises_checkIdentity (taken : Taken) (resource : TargetResource) :
    Raises OtherError (checkIdentity taken resource) := by
  have hrest : ∀ identities, Raises OtherError (do
      let defaultNetwork ← checkDefaultNetwork taken resource
      let identities ← insertNew .duplicateResource identities
        (resource.kind, resource.identity.bytes)
      .ok (⟨identities, defaultNetwork⟩ : Taken)) :=
    fun _ => .bind (raises_checkDefaultNetwork taken resource) fun _ =>
      .bind (raises_insertNew (by rintro ⟨⟩)) fun _ => .ok
  cases resource with
  | volume reference identity labels =>
      exact .bind (raises_checkVolumeLabels labels) fun _ => hrest _
  | _ => exact hrest _

theorem raises_checkOption (seen : List Nat) (option : BridgeOption) :
    Raises OtherError (checkOption seen option) := by
  have hinsert : Raises OtherError (insertNew .duplicateNetworkOption seen (optionKey option)) :=
    raises_insertNew (by rintro ⟨⟩)
  cases option with
  | hostBindingIp address => exact .bind (.ensure (by rintro ⟨⟩)) fun _ => hinsert
  | _ => exact hinsert

theorem raises_checkAuxiliary (subnet : NetworkSubnet) (reserved : Reserved)
    (auxiliary : NetworkAuxAddress) :
    Raises OtherError (checkAuxiliary subnet reserved auxiliary) :=
  .bind (raises_insertNew (by rintro ⟨⟩)) fun _ => .bind (.ensure (by rintro ⟨⟩)) fun _ =>
    .bind (raises_insertNew (by rintro ⟨⟩)) fun _ => .ok

theorem raises_checkIpam (enableIpv6 : Bool) (ipam : Option NetworkIpam) :
    Raises OtherError (checkIpam enableIpv6 ipam) := by
  cases ipam with
  | none => exact .ok
  | some ipam =>
      refine .bind (.ensure (by rintro ⟨⟩)) fun _ => ?_
      refine .bind (.foldlM fun earlier pool => ?_) fun _ => .ok
      refine .bind (.ensure (by rintro ⟨⟩)) fun _ => ?_
      exact .bind (.foldlM (raises_checkAuxiliary pool.subnet)) fun _ => .ok

theorem raises_checkNetwork (network : NetworkIntent) :
    Raises OtherError (checkNetwork network) := by
  rw [checkNetwork]
  cases network.source with
  | external expectedDriver expectedInternal => exact .ensure (by rintro ⟨⟩)
  | create create =>
      refine .bind (.ensure (by rintro ⟨⟩)) fun _ => ?_
      refine .bind (.foldlM raises_checkOption) fun _ => ?_
      exact .bind (.ensure (by rintro ⟨⟩)) fun _ => raises_checkIpam _ _

theorem raises_checkAttachment (seen : List ResourceRef) (attachment : NetworkAttachmentIntent) :
    Raises OtherError (checkAttachment resources seen attachment) :=
  .bind (raises_insertNew (by rintro ⟨⟩)) fun _ => .bind (.ensure (by rintro ⟨⟩)) fun _ =>
    .bind (.ensure (by rintro ⟨⟩)) fun _ => .bind (.ensure (by rintro ⟨⟩)) fun _ => .ok

theorem raises_checkUlimit (names : List Bytes) (limit : Ulimit) :
    Raises OtherError (checkUlimit names limit) :=
  .bind (.ensure (by rintro ⟨⟩)) fun _ => .bind (raises_insertNew (by rintro ⟨⟩)) fun _ =>
    .bind (.ensure (by rintro ⟨⟩)) fun _ => .ok

theorem raises_checkDevice (targets : List Bytes) (device : DeviceMapping) :
    Raises OtherError (checkDevice targets device) :=
  .bind (raises_insertNew (by rintro ⟨⟩)) fun _ => .bind (.ensure (by rintro ⟨⟩)) fun _ => .ok

theorem raises_checkSysctl (seen : List Bytes) (item : ContainerLabel) :
    Raises OtherError (checkSysctl seen item) :=
  .bind (.ensure (by rintro ⟨⟩)) fun _ => raises_insertNew (by rintro ⟨⟩)

theorem raises_checkLogConfig (log : Option LogConfig) :
    Raises OtherError (checkLogConfig log) := by
  cases log with
  | none => exact .ok
  | some log =>
      refine .bind (.ensure (by rintro ⟨⟩)) fun _ => ?_
      refine .bind (.foldlM fun seen item => ?_) fun _ => .ok
      exact .bind (.ensure (by rintro ⟨⟩)) fun _ => raises_insertNew (by rintro ⟨⟩)

theorem raises_validateContainerSettings (settings : ContainerSettings) :
    Raises OtherError (validateContainerSettings settings) := by
  refine .bind (.ensure (by rintro ⟨⟩)) fun _ => ?_
  refine .bind (.foldlM raises_checkUlimit) fun _ => ?_
  refine .bind (.foldlM raises_checkDevice) fun _ => ?_
  refine .bind (.ensure (by rintro ⟨⟩)) fun _ => ?_
  refine .bind (.ensure (by rintro ⟨⟩)) fun _ => ?_
  refine .bind (.ensure (by rintro ⟨⟩)) fun _ => ?_
  refine .bind (.foldlM raises_checkSysctl) fun _ => ?_
  refine .bind (.ensure (by rintro ⟨⟩)) fun _ => ?_
  refine .bind (.ensure (by rintro ⟨⟩)) fun _ => ?_
  exact .bind (.ensure (by rintro ⟨⟩)) fun _ => raises_checkLogConfig settings.logConfig

theorem raises_checkContainer (container : ContainerIntent) :
    Raises OtherError (checkContainer resources container) := by
  refine .bind (.ensure (by rintro ⟨⟩)) fun _ => ?_
  refine .bind (.foldlM raises_checkAttachment) fun _ => ?_
  refine .bind (.ensure (by rintro ⟨⟩)) fun _ => ?_
  refine .bind (.ensure (by rintro ⟨⟩)) fun _ => ?_
  refine .bind (.ensure (by rintro ⟨⟩)) fun _ => ?_
  refine .bind (.ensure (by rintro ⟨⟩)) fun _ => ?_
  exact .bind (raises_validateContainerSettings _) fun _ => .ensure (by rintro ⟨⟩)

theorem raises_checkResource {fixed : List FixedPort} {resource : TargetResource}
    (hfixed : fixed.Pairwise Apart) (hall : (fixed ++ fixedPorts resource).Pairwise Apart)
    (hkeys : ∀ container, resource = .container container →
      (container.ports.map portKey).Nodup ∧ ∀ port ∈ container.ports, PortAccepted port) :
    Raises OtherError (checkResource resources fixed resource) := by
  cases resource with
  | network network => exact .bind (raises_checkNetwork network) fun _ => .ok
  | container container =>
      obtain ⟨hnodup, hports⟩ := hkeys container rfl
      have hfold : (∃ ports, container.ports.foldlM checkPort ⟨[], fixed⟩ = .ok ports) ↔ _ :=
        foldlM_both_ok_iff checkPort_collects .nil hfixed
      simp only [List.nil_append, ← List.map_eq_flatMap] at hfold
      obtain ⟨ports, hports⟩ := hfold.mpr ⟨hports, hnodup, hall⟩
      refine .bind (.ensure (by rintro ⟨⟩)) fun _ => ?_
      rw [hports, ok_bind]
      exact .bind (raises_checkContainer container) fun _ => .ok
  | _ => exact .ok

theorem raises_foldlM_checkResource (h : ConflictFree resources) :
    Raises OtherError (resources.foldlM (checkResource resources) []) := by
  have hapart : (resources.flatMap fixedPorts).Pairwise Apart := h.fixed.imp apart_iff.mpr
  -- the fixed ports held so far are those of the consumed resources, in some order
  refine raises_foldlM (motive := fun consumed fixed =>
    List.Perm fixed (consumed.flatMap fixedPorts)) ?_ (.refl _) ?_
  · intro consumed fixed resource next hperm hnext
    rw [List.flatMap_append, List.flatMap_singleton]
    exact ((checkResource_collects resources).held_next fixed resource next hnext).trans
      (hperm.append_right _)
  · intro consumed fixed resource rest hresources hperm
    have hmem : resource ∈ resources := by simp [← hresources]
    have hsplit : (fixed ++ fixedPorts resource).Pairwise Apart := by
      rw [← hresources, List.flatMap_append, List.flatMap_cons, ← List.append_assoc] at hapart
      exact ((hperm.append_right _).pairwise_iff (apart_symmetric _ _)).mpr
        (List.pairwise_append.mp hapart).1
    refine raises_checkResource (List.pairwise_append.mp hsplit).1 hsplit ?_
    rintro container rfl
    refine ⟨h.keys container hmem, fun port hport => ?_⟩
    exact (h.ephemeral container hmem port hport).imp hostsApart_iff.mpr

theorem raises_checkResources (h : ConflictFree resources) :
    Raises OtherError (checkResources resources .standalone) := by
  refine .bind (.ensure (by rintro ⟨⟩)) fun _ => ?_
  refine .bind (.ensure (by rintro ⟨⟩)) fun _ => ?_
  refine .bind (.ensure (by rintro ⟨⟩)) fun _ => ?_
  refine .bind (.foldlM raises_checkIdentity) fun _ => ?_
  refine .bind (raises_foldlM_checkResource h) fun _ => ?_
  exact .bind (.foldlM fun _ _ => raises_insertNew (by rintro ⟨⟩)) fun _ => .ok

end Raises

/-- The host bindings of an accepted intent do not conflict, and resources are refused as
having a duplicate port only when some of their host bindings do. -/
theorem TargetIntent.new_conflictFree :
    (∀ intent : TargetIntent, ConflictFree intent.resources) ∧
    ∀ resources, TargetIntent.new resources = .error .duplicatePort → ¬ConflictFree resources := by
  constructor
  · intro intent
    have haccepted := intent.accepted
    constructor
    · exact haccepted.fixedPorts.imp apart_iff.mp
    · intro container hcontainer
      have hports : ContainerAccepted intent.resources container := haccepted.each _ hcontainer
      exact hports.portKeys
    · intro container hcontainer port hport
      have hports : ContainerAccepted intent.resources container := haccepted.each _ hcontainer
      exact (hports.ports port hport).imp hostsApart_iff.mp
  · intro resources hrefused hfree
    rw [TargetIntent.new, TargetIntent.newWithOrchestration, if_pos rfl] at hrefused
    split at hrefused
    · cases hrefused
    · next error hchecked =>
        cases hrefused
        exact raises_checkResources hfree _ hchecked rfl

/-- A container that publishes a host port. -/
def publisher (reference : ResourceRef) (identity : TargetIdentity) (host : PortHostIp) :
    ContainerIntent where
  reference := reference
  identity := identity
  image := ⟨asBytes "nginx", validImage_nginx⟩
  environment := []
  ports := [⟨⟨80, by decide, by decide⟩, .tcp, [⟨host, .fixed ⟨8080, by decide, by decide⟩⟩]⟩]
  mounts := []
  networks := [⟨⟨1⟩, [], none, none⟩]
  entrypoint := .inherit
  command := .inherit
  healthcheck := none
  restart := none
  settings := .default

/-- Two containers that publish the same host port, and their network. -/
def publishers (left right : PortHostIp) : List TargetResource :=
  [.network ⟨⟨1⟩, ⟨asBytes "front", validIdentity_front⟩, .declared, .create NetworkCreate.bridge⟩,
    .container (publisher ⟨2⟩ ⟨asBytes "web", validIdentity_web⟩ left),
    .container (publisher ⟨3⟩ ⟨asBytes "data", validIdentity_data⟩ right)]

theorem TargetIntent.new_conflictFree_publishers :
    ConflictFree (publishers (.address (.v4 0x7f000001)) (.address (.v4 0x7f000002))) ∧
      TargetIntent.new (publishers (.address (.v4 0x7f000001)) .unspecified) =
        .error .duplicatePort ∧
      ¬ConflictFree (publishers (.address (.v4 0x7f000001)) .unspecified) := by
  obtain ⟨haccepted, hrefused⟩ := TargetIntent.new_conflictFree
  have hchecked : checkResources (publishers (.address (.v4 0x7f000001))
      (.address (.v4 0x7f000002))) .standalone = .ok () := by decide +kernel
  have hfailed : checkResources (publishers (.address (.v4 0x7f000001)) .unspecified) .standalone =
      .error .duplicatePort := by decide +kernel
  have hduplicate : TargetIntent.new (publishers (.address (.v4 0x7f000001)) .unspecified) =
      .error .duplicatePort := by
    rw [TargetIntent.new, TargetIntent.newWithOrchestration, if_pos rfl]
    split
    · next hpassed => cases hfailed.symm.trans hpassed
    · next error herror =>
        cases hfailed.symm.trans herror
        rfl
  exact ⟨haccepted ⟨_, hchecked⟩, hduplicate, hrefused _ hduplicate⟩

end DockerLens.Target
