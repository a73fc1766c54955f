import DockerLens.Target.Accepted

namespace DockerLens.Target

open DockerLens.Text
open DockerLens.Observation
open DockerLens.Fold
open DockerLens.Collect

/-! What a reordering of an intent's lists may change. `rest` says that a record differs in
the listed fields only. -/

/-- The same pool, with its auxiliary addresses in another order. -/
structure PoolReordered (left right : NetworkIpamPool) : Prop where
  auxiliaryAddresses : left.auxiliaryAddresses.Perm right.auxiliaryAddresses
  rest : { right with auxiliaryAddresses := left.auxiliaryAddresses } = left

structure IpamReordered (left right : NetworkIpam) : Prop where
  driver : left.driver = right.driver
  pools : Reordered PoolReordered left.pools right.pools

structure CreateReordered (left right : NetworkCreate) : Prop where
  ipam : Option.Rel IpamReordered left.ipam right.ipam
  options : left.options.Perm right.options
  labels : left.labels.Perm right.labels
  rest : { right with ipam := left.ipam, options := left.options, labels := left.labels } = left

inductive SourceReordered : NetworkSource → NetworkSource → Prop
  | create {left right : NetworkCreate} (h : CreateReordered left right) :
      SourceReordered (.create left) (.create right)
  | external (expectedDriver : NetworkDriver) (expectedInternal : Option Bool) :
      SourceReordered (.external expectedDriver expectedInternal)
        (.external expectedDriver expectedInternal)

structure PortReordered (left right : PortPublication) : Prop where
  bindings : left.bindings.Perm right.bindings
  rest : { right with bindings := left.bindings } = left

structure AttachmentReordered (left right : NetworkAttachmentIntent) : Prop where
  aliases : left.aliases.Perm right.aliases
  rest : { right with aliases := left.aliases } = left

structure LogReordered (left right : LogConfig) : Prop where
  driver : left.driver = right.driver
  options : left.options.Perm right.options

/-- The same settings, with their lists in another order. -/
structure SettingsReordered (left right : ContainerSettings) : Prop where
  labels : left.labels.Perm right.labels
  ulimits : left.ulimits.Perm right.ulimits
  devices : left.devices.Perm right.devices
  capAdd : left.capAdd.Perm right.capAdd
  capDrop : left.capDrop.Perm right.capDrop
  securityOptions : left.securityOptions.Perm right.securityOptions
  sysctls : left.sysctls.Perm right.sysctls
  groupAdd : left.groupAdd.Perm right.groupAdd
  dns : left.dns.Perm right.dns
  extraHosts : left.extraHosts.Perm right.extraHosts
  logConfig : Option.Rel LogReordered left.logConfig right.logConfig
  rest : { right with
    labels := left.labels, ulimits := left.ulimits, devices := left.devices
    capAdd := left.capAdd, capDrop := left.capDrop, securityOptions := left.securityOptions
    sysctls := left.sysctls, groupAdd := left.groupAdd, dns := left.dns
    extraHosts := left.extraHosts, logConfig := left.logConfig } = left

/-- The same container, with its lists in another order. -/
structure ContainerReordered (left right : ContainerIntent) : Prop where
  environment : left.environment.Perm right.environment
  ports : Reordered PortReordered left.ports right.ports
  mounts : left.mounts.Perm right.mounts
  networks : Reordered AttachmentReordered left.networks right.networks
  settings : SettingsReordered left.settings right.settings
  rest : { right with
    environment := left.environment, ports := left.ports, mounts := left.mounts
    networks := left.networks, settings := left.settings } = left

/-- The same resource, up to the order of its lists. -/
inductive ResourceReordered : TargetResource → TargetResource → Prop
  | network (reference : ResourceRef) (identity : TargetIdentity) (role : NetworkRole)
      {left right : NetworkSource} (h : SourceReordered left right) :
      ResourceReordered (.network ⟨reference, identity, role, left⟩)
        (.network ⟨reference, identity, role, right⟩)
  | volume (reference : ResourceRef) (identity : TargetIdentity) {left right : List VolumeLabel}
      (h : left.Perm right) :
      ResourceReordered (.volume reference identity left) (.volume reference identity right)
  | externalVolume (reference : ResourceRef) (identity : TargetIdentity) :
      ResourceReordered (.externalVolume reference identity) (.externalVolume reference identity)
  | container {left right : ContainerIntent} (h : ContainerReordered left right) :
      ResourceReordered (.container left) (.container right)

/-- The same resources, and the lists within them, in other orders. -/
def ResourcesReordered : List TargetResource → List TargetResource → Prop :=
  Reordered ResourceReordered

section Symmetric

variable {α : Type}

theorem rel_symm {same : α → α → Prop} (hsymm : ∀ {x y}, same x y → same y x)
    {left right : Option α} (h : Option.Rel same left right) : Option.Rel same right left := by
  cases h with
  | some hsame => exact .some (hsymm hsame)
  | none => exact .none

theorem reordered_symm {same : α → α → Prop} (hsymm : ∀ {x y}, same x y → same y x)
    {left right : List α} (h : Reordered same left right) : Reordered same right left :=
  h.symm.mono fun _ _ => hsymm

theorem rel_forall_mem {same : α → α → Prop} {left right : Option α}
    (h : Option.Rel same left right) {good : α → Prop}
    (himp : ∀ a b, same a b → good a → good b) (hgood : ∀ a ∈ left, good a) :
    ∀ b ∈ right, good b := by
  intro b hb
  cases h with
  | none => cases hb
  | some hsame =>
      cases hb
      exact himp _ _ hsame (hgood _ rfl)

theorem PoolReordered.symm {left right : NetworkIpamPool} (h : PoolReordered left right) :
    PoolReordered right left where
  auxiliaryAddresses := h.auxiliaryAddresses.symm
  rest := by rw [← h.rest]

theorem IpamReordered.symm {left right : NetworkIpam} (h : IpamReordered left right) :
    IpamReordered right left where
  driver := h.driver.symm
  pools := reordered_symm PoolReordered.symm h.pools

theorem SourceReordered.symm {left right : NetworkSource} (h : SourceReordered left right) :
    SourceReordered right left := by
  cases h with
  | create h =>
      exact .create ⟨rel_symm IpamReordered.symm h.ipam, h.options.symm, h.labels.symm,
        by rw [← h.rest]⟩
  | external expectedDriver expectedInternal => exact .external expectedDriver expectedInternal

theorem PortReordered.symm {left right : PortPublication} (h : PortReordered left right) :
    PortReordered right left where
  bindings := h.bindings.symm
  rest := by rw [← h.rest]

theorem AttachmentReordered.symm {left right : NetworkAttachmentIntent}
    (h : AttachmentReordered left right) : AttachmentReordered right left where
  aliases := h.aliases.symm
  rest := by rw [← h.rest]

theorem LogReordered.symm {left right : LogConfig} (h : LogReordered left right) :
    LogReordered right left := ⟨h.driver.symm, h.options.symm⟩

theorem SettingsReordered.symm {left right : ContainerSettings}
    (h : SettingsReordered left right) : SettingsReordered right left where
  labels := h.labels.symm
  ulimits := h.ulimits.symm
  devices := h.devices.symm
  capAdd := h.capAdd.symm
  capDrop := h.capDrop.symm
  securityOptions := h.securityOptions.symm
  sysctls := h.sysctls.symm
  groupAdd := h.groupAdd.symm
  dns := h.dns.symm
  extraHosts := h.extraHosts.symm
  logConfig := rel_symm LogReordered.symm h.logConfig
  rest := by rw [← h.rest]

theorem ContainerReordered.symm {left right : ContainerIntent}
    (h : ContainerReordered left right) : ContainerReordered right left where
  environment := h.environment.symm
  ports := reordered_symm PortReordered.symm h.ports
  mounts := h.mounts.symm
  networks := reordered_symm AttachmentReordered.symm h.networks
  settings := h.settings.symm
  rest := by rw [← h.rest]

theorem ResourceReordered.symm {left right : TargetResource} (h : ResourceReordered left right) :
    ResourceReordered right left := by
  cases h with
  | network reference identity role h => exact .network reference identity role h.symm
  | volume reference identity h => exact .volume reference identity h.symm
  | externalVolume reference identity => exact .externalVolume reference identity
  | container h => exact .container h.symm

end Symmetric

section Networks

theorem PoolReordered.subnet_eq {left right : NetworkIpamPool} (h : PoolReordered left right) :
    left.subnet = right.subnet := (congrArg NetworkIpamPool.subnet h.rest).symm

theorem PoolReordered.gateway_eq {left right : NetworkIpamPool} (h : PoolReordered left right) :
    left.gateway = right.gateway := (congrArg NetworkIpamPool.gateway h.rest).symm

theorem PoolReordered.freeIn_eq {left right : NetworkIpamPool} (h : PoolReordered left right)
    (address : NetworkAddress) : freeIn address left = freeIn address right := by
  rw [freeIn, freeIn, h.subnet_eq, h.gateway_eq, h.auxiliaryAddresses.any_eq]

theorem PoolAccepted.reordered {enableIpv6 : Bool} {left right : NetworkIpamPool}
    (haccepted : PoolAccepted enableIpv6 left) (h : PoolReordered left right) :
    PoolAccepted enableIpv6 right where
  valid := by
    have hvalid := haccepted.valid
    rw [← h.rest] at hvalid
    exact hvalid
  names := (h.auxiliaryAddresses.map _).nodup haccepted.names
  reserved := by
    rw [← h.gateway_eq]
    exact ((h.auxiliaryAddresses.map _).append_left _).nodup haccepted.reserved
  usable := by
    intro auxiliary hauxiliary
    rw [← h.subnet_eq]
    exact haccepted.usable auxiliary (h.auxiliaryAddresses.mem_iff.mpr hauxiliary)

theorem IpamAccepted.reordered {enableIpv6 : Bool} {left right : NetworkIpam}
    (haccepted : IpamAccepted enableIpv6 left) (h : IpamReordered left right) :
    IpamAccepted enableIpv6 right where
  nonempty := h.pools.ne_nil haccepted.nonempty
  pools := h.pools.forall_mem (fun _ _ hpool haccepted => haccepted.reordered hpool)
    haccepted.pools
  disjoint := ((h.pools.map_perm fun _ _ hpool => hpool.subnet_eq).pairwise_iff
    (disjoint_symmetric _ _)).mp haccepted.disjoint

theorem CreateReordered.enableIpv6_eq {left right : NetworkCreate}
    (h : CreateReordered left right) : left.enableIpv6 = right.enableIpv6 :=
  (congrArg NetworkCreate.enableIpv6 h.rest).symm

theorem IpamReordered.any_eq {left right : NetworkIpam} (h : IpamReordered left right)
    (address : NetworkAddress) :
    left.pools.any (freeIn address) = right.pools.any (freeIn address) := by
  have hmap := h.pools.map_perm fun _ _ hpool => hpool.freeIn_eq address
  have hany := hmap.any_eq (f := id)
  simpa [List.any_map, Function.comp_def] using hany

theorem CreateReordered.ipam_any_eq {left right : NetworkCreate} (h : CreateReordered left right)
    (address : NetworkAddress) :
    left.ipam.any (fun ipam => ipam.pools.any (freeIn address)) =
      right.ipam.any fun ipam => ipam.pools.any (freeIn address) := by
  have hrelated := h.ipam
  generalize left.ipam = leftIpam at hrelated ⊢
  generalize right.ipam = rightIpam at hrelated ⊢
  cases hrelated with
  | none => rfl
  | some hipam => exact hipam.any_eq address

theorem SourceAccepted.reordered {left right : NetworkSource} (haccepted : SourceAccepted left)
    (h : SourceReordered left right) : SourceAccepted right := by
  cases h with
  | external expectedDriver expectedInternal => exact haccepted
  | create h =>
      refine ⟨?_, ?_, ?_, ?_, ?_⟩
      · rw [← (congrArg NetworkCreate.driver h.rest).symm]
        exact haccepted.driver
      · intro option hoption
        exact haccepted.options option (h.options.mem_iff.mpr hoption)
      · exact (h.options.map _).nodup haccepted.keys
      · exact (h.labels.map _).nodup haccepted.labels
      · rw [← h.enableIpv6_eq]
        exact rel_forall_mem h.ipam (fun _ _ hipam haccepted => haccepted.reordered hipam)
          haccepted.ipam

section Attachment

variable {left right : NetworkAttachmentIntent} (h : AttachmentReordered left right)
include h

theorem AttachmentReordered.network_eq : left.network = right.network :=
  (congrArg NetworkAttachmentIntent.network h.rest).symm

theorem AttachmentReordered.ipv4_eq : left.ipv4Address = right.ipv4Address :=
  (congrArg NetworkAttachmentIntent.ipv4Address h.rest).symm

theorem AttachmentReordered.ipv6_eq : left.ipv6Address = right.ipv6Address :=
  (congrArg NetworkAttachmentIntent.ipv6Address h.rest).symm

theorem AttachmentReordered.addresses_eq : left.addresses = right.addresses := by
  rw [NetworkAttachmentIntent.addresses, NetworkAttachmentIntent.addresses, h.ipv4_eq, h.ipv6_eq]

end Attachment

theorem admitsAddresses_reordered {left right : NetworkSource}
    (hsource : SourceReordered left right)
    {attachment attachment' : NetworkAttachmentIntent}
    (hattachment : AttachmentReordered attachment attachment') :
    admitsAddresses left attachment = admitsAddresses right attachment' := by
  cases hsource with
  | external expectedDriver expectedInternal =>
      rw [admitsAddresses, admitsAddresses, hattachment.ipv4_eq, hattachment.ipv6_eq]
  | create h =>
      rw [admitsAddresses, admitsAddresses, hattachment.addresses_eq, hattachment.ipv6_eq,
        h.enableIpv6_eq]
      congr 2
      funext address
      exact h.ipam_any_eq address

end Networks

section Containers

theorem ResourceReordered.reference_eq {left right : TargetResource}
    (h : ResourceReordered left right) : left.reference = right.reference := by
  cases h with
  | container h => exact (congrArg ContainerIntent.reference h.rest).symm
  | _ => rfl

theorem AttachmentAccepted.reordered {left right : List TargetResource}
    (hresources : ResourcesReordered left right)
    (hleft : (left.map TargetResource.reference).Nodup)
    (hright : (right.map TargetResource.reference).Nodup)
    {attachment attachment' : NetworkAttachmentIntent}
    (haccepted : AttachmentAccepted left attachment)
    (h : AttachmentReordered attachment attachment') : AttachmentAccepted right attachment' where
  families := by
    rw [← h.ipv4_eq, ← h.ipv6_eq]
    exact haccepted.families
  aliases := (h.aliases.map _).nodup haccepted.aliases
  admitted := by
    rw [Option.all_eq_true]
    intro source hsource
    obtain ⟨network, hmem, hreference, rfl⟩ := (attachedSource_eq_some_iff hright).mp hsource
    obtain ⟨resource, hresource, hsame⟩ := hresources.exists_left hmem
    cases hsame with
    | network reference identity role hsame =>
        rw [← admitsAddresses_reordered hsame h]
        have hattached := (attachedSource_eq_some_iff hleft).mpr
          ⟨_, hresource, hreference.trans h.network_eq.symm, rfl⟩
        exact Option.all_eq_true _ _ |>.mp haccepted.admitted _ hattached

theorem SettingsAccepted.reordered {left right : ContainerSettings}
    (haccepted : SettingsAccepted left) (h : SettingsReordered left right) :
    SettingsAccepted right where
  limits := by
    have hlimits := haccepted.limits
    rw [← h.rest] at hlimits
    exact hlimits
  ulimits limit hlimit := haccepted.ulimits limit (h.ulimits.mem_iff.mpr hlimit)
  ulimitNames := (h.ulimits.map _).nodup haccepted.ulimitNames
  devices device hdevice := haccepted.devices device (h.devices.mem_iff.mpr hdevice)
  devicePaths := (h.devices.map _).nodup haccepted.devicePaths
  capabilities := ((h.capAdd.append h.capDrop).map _).nodup haccepted.capabilities
  capAdd token htoken := haccepted.capAdd token (h.capAdd.mem_iff.mpr htoken)
  capDrop token htoken := haccepted.capDrop token (h.capDrop.mem_iff.mpr htoken)
  securityOptions := (h.securityOptions.map _).nodup haccepted.securityOptions
  sysctls item hitem := haccepted.sysctls item (h.sysctls.mem_iff.mpr hitem)
  sysctlKeys := (h.sysctls.map _).nodup haccepted.sysctlKeys
  groupNames := (h.groupAdd.map _).nodup haccepted.groupNames
  groups group hgroup := haccepted.groups group (h.groupAdd.mem_iff.mpr hgroup)
  extraHosts := (h.extraHosts.map _).nodup haccepted.extraHosts
  logConfig := by
    refine rel_forall_mem h.logConfig ?_ haccepted.logConfig
    intro log log' hlog hlogAccepted
    refine ⟨?_, ?_, (hlog.options.map _).nodup hlogAccepted.keys⟩
    · rw [← hlog.driver]
      rintro ⟨hdriver, hoptions⟩
      refine hlogAccepted.plain ⟨hdriver, fun hempty => hoptions ?_⟩
      have hperm := hlog.options
      rw [hempty] at hperm
      exact hperm.nil_eq.symm
    · intro item hitem
      rw [← hlog.driver]
      exact hlogAccepted.options item (hlog.options.mem_iff.mpr hitem)

theorem distinctMounts_reordered {left right : ContainerIntent}
    (hmounts : left.mounts.Perm right.mounts)
    (hdevices : left.settings.devices.Perm right.settings.devices) :
    distinctMounts left = distinctMounts right := by
  have hkeys := hmounts.map fun mount => lexicalAbsolutePathKey mount.target
  rw [distinctMounts, distinctMounts, hdevices.any_eq]
  simp only [hkeys.nodup_iff, hkeys.contains_eq]

theorem PortReordered.key_eq {left right : PortPublication} (h : PortReordered left right) :
    portKey left = portKey right := by
  rw [← h.rest, portKey, portKey]

theorem PortReordered.fixed_perm {left right : PortPublication} (h : PortReordered left right) :
    left.fixed.Perm right.fixed := by
  rw [PortPublication.fixed, PortPublication.fixed,
    ← (congrArg PortPublication.protocol h.rest)]
  exact h.bindings.flatMap_right _

theorem ContainerAccepted.reordered {left right : List TargetResource}
    (hresources : ResourcesReordered left right)
    (hleft : (left.map TargetResource.reference).Nodup)
    (hright : (right.map TargetResource.reference).Nodup)
    {container container' : ContainerIntent} (haccepted : ContainerAccepted left container)
    (h : ContainerReordered container container') : ContainerAccepted right container' where
  environment := (h.environment.map _).nodup haccepted.environment
  ports := by
    refine h.ports.forall_mem ?_ haccepted.ports
    intro port port' hport hportAccepted
    exact ((hport.bindings.flatMap_right dynamicOf).pairwise_iff (hostsApart_symmetric _ _)).mp
      hportAccepted
  portKeys := (h.ports.map_perm fun _ _ hport => hport.key_eq).nodup haccepted.portKeys
  labels := (h.settings.labels.map _).nodup haccepted.labels
  attachments := h.networks.forall_mem
    (fun _ _ hsame hattachment => hattachment.reordered hresources hleft hright hsame)
    haccepted.attachments
  networks := (h.networks.map_perm fun _ _ hsame => hsame.network_eq).nodup haccepted.networks
  mounts := by
    rw [← distinctMounts_reordered h.mounts h.settings.devices]
    exact haccepted.mounts
  commands := by
    have hcommands := haccepted.commands
    rw [← h.rest] at hcommands
    exact hcommands
  clear := by
    have hclear := haccepted.clear
    rw [← h.rest] at hclear
    exact hclear
  stopSignal := by
    have hstop := haccepted.stopSignal
    rw [← h.settings.rest] at hstop
    exact hstop
  settings := haccepted.settings.reordered h.settings
  restart := by
    have hrestart := haccepted.restart
    rw [← h.rest] at hrestart
    exact hrestart

end Containers

theorem ResourceReordered.name_eq {left right : TargetResource}
    (h : ResourceReordered left right) : left.name = right.name := by
  cases h with
  | container h =>
      have hidentity := congrArg ContainerIntent.identity h.rest
      simp only [TargetResource.name, TargetResource.kind, TargetResource.identity, ← hidentity]
  | _ => rfl

theorem ResourceReordered.defaults_eq {left right : TargetResource}
    (h : ResourceReordered left right) : defaultEntries left = defaultEntries right := by
  cases h <;> rfl

theorem ResourceReordered.fixedPorts_perm {left right : TargetResource}
    (h : ResourceReordered left right) : (fixedPorts left).Perm (fixedPorts right) := by
  cases h with
  | container h => exact h.ports.flatMap_perm fun _ _ hport => hport.fixed_perm
  | _ => exact .refl _

theorem LabelsAccepted.reordered {left right : TargetResource} (haccepted : LabelsAccepted left)
    (h : ResourceReordered left right) : LabelsAccepted right := by
  cases h with
  | volume reference identity h =>
      obtain ⟨hlength, htotal, hnodup⟩ := haccepted
      refine ⟨?_, ?_, (h.map _).nodup hnodup⟩
      · rw [← h.length_eq]
        exact hlength
      · rw [← (h.map _).sum_nat]
        exact htotal
  | _ => trivial

theorem ResourceReordered.addresses_perm {left right : TargetResource}
    (h : ResourceReordered left right) :
    (left.attachments.flatMap fun attachment =>
      attachment.addresses.map fun address => (attachment.network, address.value)).Perm
    (right.attachments.flatMap fun attachment =>
      attachment.addresses.map fun address => (attachment.network, address.value)) := by
  cases h with
  | container h =>
      refine h.networks.flatMap_perm fun attachment attachment' hsame => ?_
      rw [hsame.addresses_eq, hsame.network_eq]
  | _ => exact .refl _

theorem Accepted.reordered {left right : List TargetResource} (haccepted : Accepted left)
    (h : ResourcesReordered left right) : Accepted right := by
  have hreferences : (right.map TargetResource.reference).Nodup :=
    (h.map_perm fun _ _ hsame => hsame.reference_eq).nodup haccepted.references
  refine ⟨h.ne_nil haccepted.nonempty, hreferences, ?_, ?_, ?_, ?_, ?_, ?_⟩
  · exact h.forall_mem (fun _ _ hsame hlabels => hlabels.reordered hsame) haccepted.labels
  · exact (h.map_perm fun _ _ hsame => hsame.name_eq).nodup haccepted.names
  · have hperm := h.flatMap_perm fun _ _ hsame => .of_eq hsame.defaults_eq
    exact (hperm.pairwise_iff fun hsingle => hsingle).mp haccepted.defaults
  · refine h.forall_mem ?_ haccepted.each
    intro resource resource' hsame hresource
    cases hsame with
    | network reference identity role hsource => exact SourceAccepted.reordered hresource hsource
    | container hcontainer =>
        exact ContainerAccepted.reordered h haccepted.references hreferences hresource hcontainer
    | _ => trivial
  · have hperm := h.flatMap_perm fun _ _ hsame => hsame.fixedPorts_perm
    exact (hperm.pairwise_iff (apart_symmetric _ _)).mp haccepted.fixedPorts
  · exact (h.flatMap_perm fun _ _ hsame => hsame.addresses_perm).nodup haccepted.staticAddresses

/-- Whether a list of resources is accepted does not depend on the order of the resources,
nor on the order of the lists within them. -/
theorem TargetIntent.new_reordered {left right : List TargetResource}
    (h : ResourcesReordered left right) :
    (TargetIntent.new left).isOk = true ↔ (TargetIntent.new right).isOk = true := by
  rw [TargetIntent.new_isOk_iff, TargetIntent.new_isOk_iff]
  constructor
  · exact fun haccepted => haccepted.reordered h
  · exact fun haccepted => haccepted.reordered (reordered_symm ResourceReordered.symm h)

theorem TargetIntent.new_reordered_network :
    (TargetIntent.new
      [.network ⟨⟨1⟩, ⟨asBytes "front", validIdentity_front⟩, .declared,
        .create { NetworkCreate.bridge with
          options := [.interContainerCommunication true, .ipMasquerade false] }⟩,
        .externalVolume ⟨2⟩ ⟨asBytes "data", validIdentity_data⟩]).isOk = true ∧
    (TargetIntent.new
      [.externalVolume ⟨2⟩ ⟨asBytes "data", validIdentity_data⟩,
        .network ⟨⟨1⟩, ⟨asBytes "front", validIdentity_front⟩, .declared,
        .create { NetworkCreate.bridge with
          options := [.ipMasquerade false, .interContainerCommunication true] }⟩]).isOk = true := by
  have hleft : (TargetIntent.new
      [.network ⟨⟨1⟩, ⟨asBytes "front", validIdentity_front⟩, .declared,
        .create { NetworkCreate.bridge with
          options := [.interContainerCommunication true, .ipMasquerade false] }⟩,
        .externalVolume ⟨2⟩ ⟨asBytes "data", validIdentity_data⟩]).isOk = true := by
    decide +kernel
  refine ⟨hleft, (TargetIntent.new_reordered ?_).mp hleft⟩
  refine ⟨_, .cons ?_ (.cons (.externalVolume _ _) .nil), List.Perm.swap _ _ _⟩
  exact .network _ _ _ (.create ⟨.none, List.Perm.swap _ _ _, .refl _, rfl⟩)

end DockerLens.Target
