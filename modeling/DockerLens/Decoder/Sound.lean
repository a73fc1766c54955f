import DockerLens.Decoder.Availability
import DockerLens.Decoder.Run
import DockerLens.Json.Document

namespace DockerLens.Decoder

open DockerLens.Text
open DockerLens.Json
open DockerLens.Observation
open DockerLens.Acquisition
open DockerLens.Version
open DockerLens.Evidence
open DockerLens.Fold

/-- Every element of a list is sound. -/
def Each {α : Type} (holds : α → Prop) (values : List α) : Prop := ∀ value ∈ values, holds value

/-- The availability of a field accounts for its value: only a present or an empty field
carries one, and a present field does. What it carries has some property. -/
structure AccountedWith {α : Type} (inside : α → Prop) (field : Observed α) : Prop where
  available : field.value.isSome = true →
    field.availability = .present ∨ field.availability = .empty
  carried : field.availability = .present → field.value.isSome = true
  inside : ∀ value ∈ field.value, inside value

/-- A field is accounted for, whatever its value. -/
def Accounted {α : Type} (field : Observed α) : Prop := AccountedWith (fun _ => True) field

section Records

structure LabelObservation.Sound (label : LabelObservation) : Prop where
  value : Accounted label.value

structure MapEntryObservation.Sound (entry : MapEntryObservation) : Prop where
  value : Accounted entry.value

structure HostBinding.Sound (binding : HostBinding) : Prop where
  hostIp : Accounted binding.hostIp
  hostPort : Accounted binding.hostPort

/-- The bindings of a port are accounted for, and each of them is sound. -/
structure PortObservation.Sound (port : PortObservation) : Prop where
  bindings : AccountedWith (Each HostBinding.Sound) port.bindings

structure MountObservation.Sound (mount : MountObservation) : Prop where
  source : Accounted mount.source
  destination : Accounted mount.destination
  name : Accounted mount.name
  readWrite : Accounted mount.readWrite
  mode : Accounted mount.mode
  modeInterpretation : Accounted mount.modeInterpretation
  propagation : Accounted mount.propagation

structure NetworkAttachment.Sound (attachment : NetworkAttachment) : Prop where
  networkId : Accounted attachment.networkId
  ipAddress : Accounted attachment.ipAddress
  ipv6Address : Accounted attachment.ipv6Address
  requestedIpv4Address : Accounted attachment.requestedIpv4Address
  requestedIpv6Address : Accounted attachment.requestedIpv6Address
  aliases : Accounted attachment.aliases

structure Healthcheck.Sound (health : Healthcheck) : Prop where
  test : Accounted health.test
  intervalNs : Accounted health.intervalNs
  timeoutNs : Accounted health.timeoutNs
  startPeriodNs : Accounted health.startPeriodNs
  startIntervalNs : Accounted health.startIntervalNs
  retries : Accounted health.retries

structure RestartPolicy.Sound (restart : RestartPolicy) : Prop where
  name : Accounted restart.name
  maximumRetryCount : Accounted restart.maximumRetryCount

structure UlimitObservation.Sound (limit : UlimitObservation) : Prop where
  name : Accounted limit.name
  soft : Accounted limit.soft
  hard : Accounted limit.hard

structure DeviceObservation.Sound (device : DeviceObservation) : Prop where
  hostPath : Accounted device.hostPath
  containerPath : Accounted device.containerPath
  permissions : Accounted device.permissions

structure ConfiguredMountObservation.Sound (mount : ConfiguredMountObservation) : Prop where
  kind : Accounted mount.kind
  source : Accounted mount.source
  target : Accounted mount.target
  readOnly : Accounted mount.readOnly
  bindPropagation : Accounted mount.bindPropagation
  volumeNoCopy : Accounted mount.volumeNoCopy
  tmpfsSizeBytes : Accounted mount.tmpfsSizeBytes

structure LoggingObservation.Sound (logging : LoggingObservation) : Prop where
  driver : Accounted logging.driver
  options : AccountedWith (Each MapEntryObservation.Sound) logging.options

structure RuntimeObservation.Sound (runtime : RuntimeObservation) : Prop where
  readOnlyRootfs : Accounted runtime.readOnlyRootfs
  memoryBytes : Accounted runtime.memoryBytes
  pidsLimit : Accounted runtime.pidsLimit
  shmSizeBytes : Accounted runtime.shmSizeBytes
  ulimits : AccountedWith (Each UlimitObservation.Sound) runtime.ulimits
  capAdd : Accounted runtime.capAdd
  capDrop : Accounted runtime.capDrop
  securityOptions : Accounted runtime.securityOptions
  usernsMode : Accounted runtime.usernsMode
  supplementaryGroups : Accounted runtime.supplementaryGroups
  sysctls : AccountedWith (Each MapEntryObservation.Sound) runtime.sysctls
  dnsServers : Accounted runtime.dnsServers
  dnsOptions : Accounted runtime.dnsOptions
  dnsSearch : Accounted runtime.dnsSearch
  extraHosts : Accounted runtime.extraHosts
  init : Accounted runtime.init
  stopSignal : Accounted runtime.stopSignal
  stopTimeout : Accounted runtime.stopTimeout
  logging : AccountedWith LoggingObservation.Sound runtime.logging
  tmpfs : AccountedWith (Each MapEntryObservation.Sound) runtime.tmpfs
  binds : Accounted runtime.binds
  configuredMounts : AccountedWith (Each ConfiguredMountObservation.Sound) runtime.configuredMounts
  volumesFrom : Accounted runtime.volumesFrom
  devices : AccountedWith (Each DeviceObservation.Sound) runtime.devices

/-- The fields of a container are accounted for, down to the last list. -/
structure ContainerObservation.Sound (container : ContainerObservation) : Prop where
  id : Accounted container.id
  name : Accounted container.name
  image : Accounted container.image
  imageId : Accounted container.imageId
  labels : AccountedWith (Each LabelObservation.Sound) container.labels
  user : Accounted container.user
  workingDirectory : Accounted container.workingDirectory
  hostname : Accounted container.hostname
  environment : Accounted container.environment
  exposedPorts : Accounted container.exposedPorts
  configuredPorts : AccountedWith (Each PortObservation.Sound) container.configuredPorts
  runtimePorts : AccountedWith (Each PortObservation.Sound) container.runtimePorts
  mounts : AccountedWith (Each MountObservation.Sound) container.mounts
  networks : AccountedWith (Each NetworkAttachment.Sound) container.networks
  networkMode : Accounted container.networkMode
  command : Accounted container.command
  entrypoint : Accounted container.entrypoint
  healthcheck : AccountedWith Healthcheck.Sound container.healthcheck
  restartPolicy : AccountedWith RestartPolicy.Sound container.restartPolicy
  runtime : container.runtime.Sound

structure ContainerSummary.Sound (summary : ContainerSummary) : Prop where
  names : Accounted summary.names
  labels : AccountedWith (Each LabelObservation.Sound) summary.labels
  image : Accounted summary.image

structure NetworkEndpointDetails.Sound (details : NetworkEndpointDetails) : Prop where
  name : Accounted details.name

structure NetworkActiveEndpoint.Sound (endpoint : NetworkActiveEndpoint) : Prop where
  containerId : Accounted endpoint.containerId
  endpoint : AccountedWith NetworkEndpointDetails.Sound endpoint.endpoint

structure IpamConfigObservation.Sound (config : IpamConfigObservation) : Prop where
  subnet : Accounted config.subnet
  gateway : Accounted config.gateway
  ipRange : Accounted config.ipRange
  auxiliaryAddresses : AccountedWith (Each MapEntryObservation.Sound) config.auxiliaryAddresses

/-- The fields of a network are accounted for, down to the last list. -/
structure NetworkObservation.Sound (network : NetworkObservation) : Prop where
  id : Accounted network.id
  activeEndpoints : AccountedWith (Each NetworkActiveEndpoint.Sound) network.activeEndpoints
  name : Accounted network.name
  driver : Accounted network.driver
  internal : Accounted network.internal
  enableIpv6 : Accounted network.enableIpv6
  ipamDriver : Accounted network.ipamDriver
  ipamConfigs : AccountedWith (Each IpamConfigObservation.Sound) network.ipamConfigs
  options : AccountedWith (Each MapEntryObservation.Sound) network.options
  labels : AccountedWith (Each LabelObservation.Sound) network.labels

structure VolumeObservation.Sound (volume : VolumeObservation) : Prop where
  name : Accounted volume.name
  driver : Accounted volume.driver
  mountpoint : Accounted volume.mountpoint
  options : AccountedWith (Each MapEntryObservation.Sound) volume.options
  labels : AccountedWith (Each LabelObservation.Sound) volume.labels

end Records

/-- Every field of an inventory, however deep in it. -/
structure DecodedInventory.Sound (inventory : DecodedInventory) : Prop where
  containers : Each ContainerObservation.Sound inventory.containers
  discoveredContainers : Each ContainerSummary.Sound inventory.discoveredContainers
  networks : Each NetworkObservation.Sound inventory.networks
  volumes : Each VolumeObservation.Sound inventory.volumes
  memoryLimit : Accounted inventory.version.resourceSupport.memoryLimit
  swapLimit : Accounted inventory.version.resourceSupport.swapLimit

section Yields

variable {α : Type} {inside : α → Prop} {root value : Value} {path : List String}
  {field : FieldPath} {origin : Origin} {reference : ResourceRef}

theorem accounted_unavailable {availability : Availability} (h : availability ≠ .present) :
    AccountedWith inside (.unavailable availability origin) where
  available := fun hvalue => by cases hvalue
  carried := fun hpresent => absurd hpresent h
  inside := fun _ hvalue => by cases hvalue

theorem accounted_present {parsed : α} {availability : Availability}
    (h : availability = .present ∨ availability = .empty) (hinside : inside parsed) :
    AccountedWith inside (.present parsed availability origin) where
  available := fun _ => h
  carried := fun _ => rfl
  inside := by
    rintro value ⟨⟩
    exact hinside

theorem presence_available (value : Value) :
    presence value = .present ∨ presence value = .empty := by
  rcases tagged_iff.mpr (@rfl _ (presence value)) with h | h
  · exact .inr h.1
  · exact .inl h.1

theorem yields_observed {parse : Value → Except DecodeError α}
    (h : ∀ value, Yields inside (parse value)) :
    Yields (AccountedWith inside) (observed root path field origin parse) := by
  refine .bind .true fun found _ => ?_
  cases found with
  | none => exact .ok (accounted_unavailable (by rintro ⟨⟩))
  | some value =>
      rw [observeValue]
      split
      · exact .ok (accounted_unavailable (by rintro ⟨⟩))
      · split
        · exact .ok (accounted_unavailable (by rintro ⟨⟩))
        · exact (h value).map fun parsed hparsed =>
            accounted_present (presence_available value) hparsed

theorem yields_plain {parse : Value → Except DecodeError α} :
    Yields Accounted (observed root path field origin parse) :=
  yields_observed fun _ => .true

theorem yields_stringField : Yields Accounted (stringField root path field origin) := yields_plain

theorem yields_boolField : Yields Accounted (boolField root path field origin) := yields_plain

theorem yields_unsignedField : Yields Accounted (unsignedField root path field origin) :=
  yields_plain

theorem yields_signedField : Yields Accounted (signedField root path field origin) := yields_plain

theorem yields_hostStrings {key : String} : Yields Accounted (hostStrings root key field) :=
  yields_plain

theorem yields_each {ι : Type} {entries : Except DecodeError (List ι)}
    {entry : ι → Except DecodeError α} (h : ∀ item, Yields inside (entry item)) :
    Yields (Each inside) (entries >>= fun items => items.mapM entry) :=
  .bind .true fun _ _ => .mapM h

theorem yields_hostPortField : Yields Accounted (hostPortField root field origin) := by
  refine .bind .true fun found _ => ?_
  split
  · exact .ok (accounted_unavailable (by rintro ⟨⟩))
  · split
    · exact .ok (accounted_unavailable (by rintro ⟨⟩))
    · split
      · exact .ok (accounted_unavailable (by rintro ⟨⟩))
      · split
        · exact .ok (accounted_unavailable (by rintro ⟨⟩))
        · exact Yields.true.map fun _ _ => accounted_present (.inl rfl) trivial

theorem yields_hostBinding : Yields HostBinding.Sound (hostBinding field origin value) :=
  .bind .true fun _ _ => .bind yields_stringField fun _ hostIp =>
    .bind yields_hostPortField fun _ hostPort => .ok { hostIp, hostPort }

theorem yields_portBinding (entry : (String × Value) × Nat) :
    Yields PortObservation.Sound (portBinding origin entry) := by
  refine .bind .true fun key _ => ?_
  split
  · exact .ok ⟨accounted_unavailable (by rintro ⟨⟩)⟩
  · split
    · exact .ok ⟨accounted_unavailable (by rintro ⟨⟩)⟩
    · refine .bind .true fun values _ => ?_
      refine .bind (.mapM fun binding => yields_hostBinding) fun result hresult => .ok ⟨?_⟩
      refine accounted_present ?_ hresult
      split
      · exact .inr rfl
      · exact .inl rfl

theorem yields_portBindings : Yields (Each PortObservation.Sound) (portBindings value origin) :=
  .bind .true fun _ _ => .mapM yields_portBinding

theorem yields_labelValue : Yields Accounted (labelValue field value) := by
  rw [labelValue]
  split
  · exact .ok (accounted_unavailable (by rintro ⟨⟩))
  · split
    · exact .ok (accounted_unavailable (by rintro ⟨⟩))
    · refine Yields.true.map fun text _ => accounted_present ?_ trivial
      split
      · exact .inr rfl
      · exact .inl rfl

theorem yields_labels : Yields (Each LabelObservation.Sound) (labels value) :=
  .bind .true fun _ _ => .mapM fun _ => yields_labelValue.map fun _ value => ⟨value⟩

theorem yields_mapEntries : Yields (Each MapEntryObservation.Sound) (mapEntries value field) :=
  yields_each fun _ => yields_plain.map fun _ value => ⟨value⟩

theorem yields_ulimits : Yields (Each UlimitObservation.Sound) (ulimits value) :=
  yields_each fun _ => .bind .true fun _ _ => .bind yields_stringField fun _ name =>
    .bind yields_signedField fun _ soft => .bind yields_signedField fun _ hard =>
    .ok { name, soft, hard }

theorem yields_devices : Yields (Each DeviceObservation.Sound) (devices value) :=
  yields_each fun _ => .bind .true fun _ _ => .bind yields_stringField fun _ hostPath =>
    .bind yields_stringField fun _ containerPath =>
    .bind yields_stringField fun _ permissions => .ok { hostPath, containerPath, permissions }

theorem yields_configuredMounts :
    Yields (Each ConfiguredMountObservation.Sound) (configuredMounts value) :=
  yields_each fun _ => .bind .true fun _ _ => .bind yields_stringField fun _ kind =>
    .bind yields_stringField fun _ source => .bind yields_stringField fun _ target =>
    .bind yields_boolField fun _ readOnly => .bind yields_stringField fun _ bindPropagation =>
    .bind yields_boolField fun _ volumeNoCopy => .bind yields_signedField fun _ tmpfsSizeBytes =>
    .ok { kind, source, target, readOnly, bindPropagation, volumeNoCopy, tmpfsSizeBytes }

theorem yields_logging : Yields LoggingObservation.Sound (logging value) :=
  .bind .true fun _ _ => .bind yields_stringField fun _ driver =>
    .bind (yields_observed fun _ => yields_mapEntries) fun _ options => .ok { driver, options }

theorem yields_ipamConfigs : Yields (Each IpamConfigObservation.Sound) (ipamConfigs value) :=
  yields_each fun _ => .bind .true fun _ _ => .bind yields_stringField fun _ subnet =>
    .bind yields_stringField fun _ gateway => .bind yields_stringField fun _ ipRange =>
    .bind (yields_observed fun _ => yields_mapEntries) fun _ auxiliaryAddresses =>
    .ok { subnet, gateway, ipRange, auxiliaryAddresses }

theorem yields_interpret {mode : Observed ProtectedValue} (h : Accounted mode) :
    Yields Accounted (MountMode.interpret mode field) := by
  rw [MountMode.interpret]
  split
  · next hnone =>
      refine .ok (accounted_unavailable fun hpresent => ?_)
      have hsome := h.carried hpresent
      rw [hnone] at hsome
      cases hsome
  · next raw hraw =>
      exact Yields.true.map fun _ _ => accounted_present (h.available (by rw [hraw]; rfl)) trivial

theorem yields_mount (entry : Value × Nat) : Yields MountObservation.Sound (mount entry) :=
  .bind .true fun _ _ => .bind .true fun _ _ =>
    .bind yields_stringField fun _ mode =>
    .bind (yields_interpret mode) fun _ modeInterpretation =>
    .bind yields_stringField fun _ source => .bind yields_stringField fun _ destination =>
    .bind yields_stringField fun _ name => .bind yields_boolField fun _ readWrite =>
    .bind yields_stringField fun _ propagation =>
    .ok { source, destination, name, readWrite, mode, modeInterpretation, propagation }

theorem yields_mounts : Yields (Each MountObservation.Sound) (mounts value) :=
  .bind .true fun _ _ => .mapM yields_mount

theorem yields_networkAttachment (entry : (String × Value) × Nat) :
    Yields NetworkAttachment.Sound (networkAttachment entry) :=
  .bind .true fun _ _ =>
    .bind yields_stringField fun _ networkId => .bind yields_stringField fun _ ipAddress =>
    .bind yields_stringField fun _ ipv6Address =>
    .bind yields_stringField fun _ requestedIpv4Address =>
    .bind yields_stringField fun _ requestedIpv6Address =>
    .bind yields_plain fun _ aliases =>
    .ok { networkId, ipAddress, ipv6Address, requestedIpv4Address, requestedIpv6Address, aliases }

theorem yields_networks : Yields (Each NetworkAttachment.Sound) (networks value) :=
  .bind .true fun _ _ => .mapM yields_networkAttachment

theorem yields_activeNetworkEndpoints :
    Yields (Each NetworkActiveEndpoint.Sound) (activeNetworkEndpoints value) := by
  refine .bind .true fun _ _ => .mapM fun entry => ?_
  rw [activeNetworkEndpoint]
  split
  · exact .error
  · refine Yields.map (yields_observed fun details => ?_) fun endpoint hendpoint =>
      ⟨accounted_present (.inl rfl) trivial, hendpoint⟩
    exact .bind .true fun _ _ => .bind yields_stringField fun _ name => .ok { name }

theorem yields_healthcheck : Yields Healthcheck.Sound (healthcheck value) :=
  .bind .true fun _ _ => .bind yields_plain fun _ test =>
    .bind yields_unsignedField fun _ intervalNs => .bind yields_unsignedField fun _ timeoutNs =>
    .bind yields_unsignedField fun _ startPeriodNs =>
    .bind yields_unsignedField fun _ startIntervalNs => .bind yields_plain fun _ retries =>
    .ok { test, intervalNs, timeoutNs, startPeriodNs, startIntervalNs, retries }

theorem yields_restartPolicy : Yields RestartPolicy.Sound (restartPolicy value) :=
  .bind .true fun _ _ => .bind yields_stringField fun _ name =>
    .bind yields_plain fun _ maximumRetryCount => .ok { name, maximumRetryCount }

theorem yields_runtime : Yields RuntimeObservation.Sound (runtime root) :=
  .bind yields_boolField fun _ readOnlyRootfs => .bind yields_signedField fun _ memoryBytes =>
    .bind yields_signedField fun _ pidsLimit => .bind yields_signedField fun _ shmSizeBytes =>
    .bind (yields_observed fun _ => yields_ulimits) fun _ ulimits =>
    .bind yields_hostStrings fun _ capAdd => .bind yields_hostStrings fun _ capDrop =>
    .bind yields_hostStrings fun _ securityOptions =>
    .bind yields_stringField fun _ usernsMode =>
    .bind yields_hostStrings fun _ supplementaryGroups =>
    .bind (yields_observed fun _ => yields_mapEntries) fun _ sysctls =>
    .bind yields_hostStrings fun _ dnsServers => .bind yields_hostStrings fun _ dnsOptions =>
    .bind yields_hostStrings fun _ dnsSearch => .bind yields_hostStrings fun _ extraHosts =>
    .bind yields_boolField fun _ init => .bind yields_stringField fun _ stopSignal =>
    .bind yields_signedField fun _ stopTimeout =>
    .bind (yields_observed fun _ => yields_logging) fun _ logging =>
    .bind (yields_observed fun _ => yields_mapEntries) fun _ tmpfs =>
    .bind yields_hostStrings fun _ binds =>
    .bind (yields_observed fun _ => yields_configuredMounts) fun _ configuredMounts =>
    .bind yields_hostStrings fun _ volumesFrom =>
    .bind (yields_observed fun _ => yields_devices) fun _ devices =>
    .ok { readOnlyRootfs, memoryBytes, pidsLimit, shmSizeBytes, ulimits, capAdd, capDrop,
          securityOptions, usernsMode, supplementaryGroups, sysctls, dnsServers, dnsOptions,
          dnsSearch, extraHosts, init, stopSignal, stopTimeout, logging, tmpfs, binds,
          configuredMounts, volumesFrom, devices }

theorem yields_containerSummary : Yields ContainerSummary.Sound (containerSummary root) :=
  .bind .true fun _ _ => .bind .true fun _ _ => .bind yields_plain fun _ names =>
    .bind (yields_observed fun _ => yields_labels) fun _ labels =>
    .bind yields_stringField fun _ image => .ok { names, labels, image }

theorem yields_container : Yields ContainerObservation.Sound (container root reference) :=
  .bind .true fun _ _ => .bind yields_stringField fun _ id =>
    .bind yields_stringField fun _ name => .bind yields_stringField fun _ image =>
    .bind yields_stringField fun _ imageId =>
    .bind (yields_observed fun _ => yields_labels) fun _ labels =>
    .bind yields_stringField fun _ user => .bind yields_stringField fun _ workingDirectory =>
    .bind yields_stringField fun _ hostname => .bind yields_plain fun _ environment =>
    .bind yields_plain fun _ exposedPorts =>
    .bind (yields_observed fun _ => yields_portBindings) fun _ configuredPorts =>
    .bind (yields_observed fun _ => yields_portBindings) fun _ runtimePorts =>
    .bind (yields_observed fun _ => yields_mounts) fun _ mounts =>
    .bind (yields_observed fun _ => yields_networks) fun _ networks =>
    .bind yields_plain fun _ networkMode => .bind yields_plain fun _ command =>
    .bind yields_plain fun _ entrypoint =>
    .bind (yields_observed fun _ => yields_healthcheck) fun _ healthcheck =>
    .bind (yields_observed fun _ => yields_restartPolicy) fun _ restartPolicy =>
    .bind yields_runtime fun _ runtime =>
    .ok { id, name, image, imageId, labels, user, workingDirectory, hostname, environment,
          exposedPorts, configuredPorts, runtimePorts, mounts, networks, networkMode, command,
          entrypoint, healthcheck, restartPolicy, runtime }

theorem yields_network : Yields NetworkObservation.Sound (network root reference) :=
  .bind .true fun _ _ => .bind yields_stringField fun _ id =>
    .bind (yields_observed fun _ => yields_activeNetworkEndpoints) fun _ activeEndpoints =>
    .bind yields_stringField fun _ name => .bind yields_stringField fun _ driver =>
    .bind yields_boolField fun _ internal => .bind yields_boolField fun _ enableIpv6 =>
    .bind yields_stringField fun _ ipamDriver =>
    .bind (yields_observed fun _ => yields_ipamConfigs) fun _ ipamConfigs =>
    .bind (yields_observed fun _ => yields_mapEntries) fun _ options =>
    .bind (yields_observed fun _ => yields_labels) fun _ labels =>
    .ok { id, activeEndpoints, name, driver, internal, enableIpv6, ipamDriver, ipamConfigs,
          options, labels }

theorem yields_volume : Yields VolumeObservation.Sound (volume root reference) :=
  .bind .true fun _ _ => .bind yields_stringField fun _ name =>
    .bind yields_stringField fun _ driver => .bind yields_stringField fun _ mountpoint =>
    .bind (yields_observed fun _ => yields_mapEntries) fun _ options =>
    .bind (yields_observed fun _ => yields_labels) fun _ labels =>
    .ok { name, driver, mountpoint, options, labels }

end Yields

section Capture

variable {fromSlice : Bytes → Option Value} {capture : Capture} {body : Value}

/-- Every field that an exchange contributes. -/
structure Contribution.Sound (contribution : Contribution) : Prop where
  containers : Each ContainerObservation.Sound contribution.containers
  discovered : Each ContainerSummary.Sound contribution.discovered
  networks : Each NetworkObservation.Sound contribution.networks
  volumes : Each VolumeObservation.Sound contribution.volumes
  info : ∀ facts ∈ contribution.info, Accounted facts.memoryLimit ∧ Accounted facts.swapLimit

theorem each_nil {α : Type} {holds : α → Prop} : Each holds [] :=
  fun _ h => absurd h List.not_mem_nil

theorem each_append {α : Type} {holds : α → Prop} {left right : List α}
    (hleft : Each holds left) (hright : Each holds right) : Each holds (left ++ right) :=
  fun _ h => (List.mem_append.mp h).elim (hleft _) (hright _)

theorem sound_of_none {contribution : Contribution} (hcontainers : contribution.containers = [])
    (hdiscovered : contribution.discovered = []) (hnetworks : contribution.networks = [])
    (hvolumes : contribution.volumes = []) (hinfo : contribution.info = none) :
    contribution.Sound where
  containers := hcontainers ▸ each_nil
  discovered := hdiscovered ▸ each_nil
  networks := hnetworks ▸ each_nil
  volumes := hvolumes ▸ each_nil
  info := fun _ h => by
    rw [hinfo] at h
    cases h

theorem yields_ofInfo : Yields Contribution.Sound (Contribution.ofInfo body) :=
  .bind .true fun _ _ => .bind yields_boolField fun _ memoryLimit =>
    .bind yields_boolField fun _ swapLimit => .bind .true fun _ _ => .bind .true fun _ _ =>
    .bind .true fun _ _ => .ok
      { containers := each_nil
        discovered := each_nil
        networks := each_nil
        volumes := each_nil
        info := by
          rintro facts ⟨⟩
          exact ⟨memoryLimit, swapLimit⟩ }

theorem yields_listedContainer (item : Value) :
    Yields (fun found => found.2.Sound) (listedContainer item) :=
  .bind .true fun _ _ => .bind yields_containerSummary fun _ summary => .ok summary

theorem yields_ofContainerList {exchange : CapturedExchange} :
    Yields Contribution.Sound (Contribution.ofContainerList fromSlice capture exchange body) := by
  refine .bind .true fun selected _ => .bind .true fun items _ => ?_
  refine .bind (.mapM yields_listedContainer) fun found hfound => .ok ?_
  constructor
  · exact each_nil
  · exact List.forall_mem_map.mpr hfound
  · exact each_nil
  · exact each_nil
  · rintro facts ⟨⟩

theorem yields_observation {reference : ResourceRef} (kind : RootKind) :
    Yields Contribution.Sound (Contribution.observation body reference kind) := by
  have hone : ∀ {α : Type} {holds : α → Prop} {a : α}, holds a → Each holds [a] :=
    fun h => List.forall_mem_singleton.mpr h
  cases kind with
  | container =>
      exact yields_container.map fun _ container =>
        ⟨hone container, each_nil, each_nil, each_nil, by rintro facts ⟨⟩⟩
  | network =>
      exact yields_network.map fun _ network =>
        ⟨each_nil, each_nil, hone network, each_nil, by rintro facts ⟨⟩⟩
  | volume =>
      exact yields_volume.map fun _ volume =>
        ⟨each_nil, each_nil, each_nil, hone volume, by rintro facts ⟨⟩⟩

theorem yields_ofInspect {exchange : CapturedExchange} {kind : RootKind} {id : NativeId} :
    Yields Contribution.Sound (Contribution.ofInspect capture exchange kind id body) := by
  refine .bind .true fun reference _ => ?_
  split
  · exact .error
  · refine .bind .true fun nativeId _ => .bind (yields_observation kind) fun found hfound => ?_
    exact .ok ⟨hfound.containers, hfound.discovered, hfound.networks, hfound.volumes, hfound.info⟩

theorem yields_ofBody {exchange : CapturedExchange} :
    Yields Contribution.Sound (Contribution.ofBody fromSlice capture exchange body) := by
  rw [Contribution.ofBody]
  split
  · exact .bind .true fun _ _ => .bind .true fun _ _ => .bind .true fun _ _ =>
      .bind .true fun _ _ => .ok (sound_of_none rfl rfl rfl rfl rfl)
  · exact yields_ofInfo
  · exact yields_ofContainerList
  · exact .bind .true fun _ _ => .bind .true fun _ _ => .ok (sound_of_none rfl rfl rfl rfl rfl)
  · exact .bind .true fun _ _ => .bind .true fun _ _ => .ok (sound_of_none rfl rfl rfl rfl rfl)
  all_goals exact yields_ofInspect

theorem yields_ofExchange (exchange : CapturedExchange) :
    Yields Contribution.Sound (Contribution.ofExchange fromSlice capture exchange) := by
  rw [Contribution.ofExchange]
  split
  · exact .error
  split
  · exact .error
  split
  · exact .error
  split
  · exact .error
  exact yields_ofBody.map fun _ h => ⟨h.containers, h.discovered, h.networks, h.volumes, h.info⟩

/-- Every field that the decode loop holds. -/
structure Decoding.Sound (decoding : Decoding) : Prop where
  containers : Each ContainerObservation.Sound decoding.containers
  discoveredContainers : Each ContainerSummary.Sound decoding.discoveredContainers
  networks : Each NetworkObservation.Sound decoding.networks
  volumes : Each VolumeObservation.Sound decoding.volumes
  memoryLimit : Accounted decoding.memoryLimit
  swapLimit : Accounted decoding.swapLimit

theorem sound_start : Decoding.start.Sound :=
  ⟨each_nil, each_nil, each_nil, each_nil, accounted_unavailable (by rintro ⟨⟩),
    accounted_unavailable (by rintro ⟨⟩)⟩

theorem Decoding.Sound.record {decoding : Decoding} (h : decoding.Sound)
    {contribution : Contribution} (hcontribution : contribution.Sound) :
    (decoding.record contribution).Sound where
  containers := each_append h.containers hcontribution.containers
  discoveredContainers := each_append h.discoveredContainers hcontribution.discovered
  networks := each_append h.networks hcontribution.networks
  volumes := each_append h.volumes hcontribution.volumes
  memoryLimit := by
    cases hinfo : contribution.info with
    | none => simpa [Decoding.record, hinfo] using h.memoryLimit
    | some facts => simpa [Decoding.record, hinfo] using (hcontribution.info facts hinfo).1
  swapLimit := by
    cases hinfo : contribution.info with
    | none => simpa [Decoding.record, hinfo] using h.swapLimit
    | some facts => simpa [Decoding.record, hinfo] using (hcontribution.info facts hinfo).2

theorem yields_decodeCapture :
    Yields DecodedInventory.Sound (decodeCapture fromSlice capture) := by
  intro inventory hdecoded
  obtain ⟨decoding, hloop, -, -, rfl⟩ := decodeCapture_eq_ok hdecoded
  have hsound : decoding.Sound := by
    refine foldlM_induction (motive := fun _ decoding => decoding.Sound) ?_ sound_start hloop
    intro _ decoding exchange next hdecoding hnext
    obtain ⟨contribution, hcontribution, -, rfl⟩ := decodeExchange_eq_ok_iff.mp hnext
    exact hdecoding.record (yields_ofExchange exchange contribution hcontribution)
  exact ⟨hsound.containers, hsound.discoveredContainers, hsound.networks, hsound.volumes,
    hsound.memoryLimit, hsound.swapLimit⟩

end Capture

/-- The generic helper decides availability exactly, and in what a capture decodes to no field
that is missing, null or redacted carries a value, while a present one does. -/
theorem availability_exact :
    (∀ (α : Type) (root : Value) (path : List String) (field : FieldPath) (origin : Origin)
      (parse : Value → Except DecodeError α), ObservesExactly root path field origin parse) ∧
    ∀ (fromSlice : Bytes → Option Value) (capture : Capture) (inventory : DecodedInventory),
      decodeCapture fromSlice capture = .ok inventory → inventory.Sound :=
  ⟨fun _ => observesExactly, fun _ _ => yields_decodeCapture⟩

/-- A volume with a null driver, redacted options and no labels. -/
def sparseInspection : CapturedExchange :=
  ⟨.inspectVolume ⟨"scratch", by decide⟩, some ⟨1⟩, ApiVersion.new? 1 49, ⟨200, validStatus_ok⟩,
    asBytes ("\x7b\"Name\":\"scratch\",\"Driver\":null,\"Labels\":\x7b\x7d," ++
      "\"Options\":\x7b\"__docker_lens_redacted__\":true\x7d\x7d")⟩

def sparseCapture : Capture where
  observationId := ⟨1⟩
  bounds := ⟨1, 0, 1, 88⟩
  exchanges := [sparseInspection]
  route := .callerAssembled
  selectedRoots := []
  selector := none
  networkNameFallbacks := []
  discoveryOnly := false

theorem availability_exact_sparse :
    ∃ inventory, decodeCapture Json.fromSlice sparseCapture = .ok inventory ∧
      inventory.volumes = [⟨⟨1⟩, .present (asBytes "scratch") .present .effective,
        .unavailable .null .effective, .unavailable .missing .runtimeAssigned,
        .unavailable .redacted .effective, .present [] .empty .effective⟩] ∧
      inventory.Sound := by
  obtain ⟨inventory, hinventory, hvolumes⟩ := map_eq_ok (show (decodeCapture Json.fromSlice
    sparseCapture).map DecodedInventory.volumes =
      .ok [⟨⟨1⟩, .present (asBytes "scratch") .present .effective,
        .unavailable .null .effective, .unavailable .missing .runtimeAssigned,
        .unavailable .redacted .effective, .present [] .empty .effective⟩] by decide +kernel)
  exact ⟨inventory, hinventory, hvolumes.symm, availability_exact.2 _ _ _ hinventory⟩

end DockerLens.Decoder
