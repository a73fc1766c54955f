import DockerLens.Target.Container

namespace DockerLens.Target

open DockerLens.Text
open DockerLens.Observation
open DockerLens.Fold

/-- The kinds of resources that a plan is made of. -/
inductive TargetKind
  | network
  | volume
  | container
  deriving DecidableEq, Repr

inductive TargetResource
  | network (network : NetworkIntent)
  | volume (reference : ResourceRef) (identity : TargetIdentity) (labels : List VolumeLabel)
  | externalVolume (reference : ResourceRef) (identity : TargetIdentity)
  | container (container : ContainerIntent)
  deriving DecidableEq

namespace TargetResource

/-- What a resource is referred to by. -/
def reference : TargetResource → ResourceRef
  | network intent => intent.reference
  | volume reference _ _ => reference
  | externalVolume reference _ => reference
  | container intent => intent.reference

/-- The kind of a resource. -/
def kind : TargetResource → TargetKind
  | network _ => .network
  | volume _ _ _ => .volume
  | externalVolume _ _ => .volume
  | container _ => .container

/-- The name of a resource on the daemon. -/
def identity : TargetResource → TargetIdentity
  | network intent => intent.identity
  | volume _ identity _ => identity
  | externalVolume _ identity => identity
  | container intent => intent.identity

end TargetResource

/-- `HashSet::insert` of a key that must be new. -/
def insertNew {κ : Type} [DecidableEq κ] (error : IntentError) (seen : List κ) (key : κ) :
    Except IntentError (List κ) :=
  if key ∈ seen then .error error else .ok (seen ++ [key])

/-- The checks of a volume's labels: how many, how long in all, and no key twice. -/
def checkVolumeLabels (labels : List VolumeLabel) : Except IntentError Unit := do
  ensure (labels.length ≤ maxVolumeLabelCount ∧
    (labels.map fun label => label.key.length + label.value.length).sum ≤
      maxVolumeLabelTotalBytes) .invalidVolumeLabel
  ensure (labels.map CheckedPair.key).Nodup .duplicateVolumeLabel

/-- The names taken by the resources before, and whether a default network is among them. -/
structure Taken where
  identities : List (TargetKind × Bytes)
  defaultNetwork : Bool

/-- At most one network is the default one. The result says whether there is one. -/
def checkDefaultNetwork (taken : Taken) : TargetResource → Except IntentError Bool
  | .network network =>
      if network.role = .applicationDefault then do
        ensure (taken.defaultNetwork = false) .duplicateDefaultNetwork
        .ok true
      else .ok taken.defaultNetwork
  | _ => .ok taken.defaultNetwork

/-- The first pass over the resources. -/
def checkIdentity (taken : Taken) (resource : TargetResource) : Except IntentError Taken := do
  match resource with
  | .volume _ _ labels => checkVolumeLabels labels
  | _ => .ok ()
  let defaultNetwork ← checkDefaultNetwork taken resource
  let identities ← insertNew .duplicateResource taken.identities
    (resource.kind, resource.identity.bytes)
  .ok ⟨identities, defaultNetwork⟩

/-- Which option of a bridge it is. -/
def optionKey : BridgeOption → Nat
  | .mtu _ => 0
  | .interContainerCommunication _ => 1
  | .ipMasquerade _ => 2
  | .hostBindingIp _ => 3

/-- An option of a bridge, which may not come twice. -/
def checkOption (seen : List Nat) (option : BridgeOption) : Except IntentError (List Nat) := do
  match option with
  | .hostBindingIp address => ensure (address.isIpv6 = false) .invalidNetworkOption
  | _ => .ok ()
  insertNew .duplicateNetworkOption seen (optionKey option)

/-- What the auxiliary addresses of one pool took so far. -/
structure Reserved where
  names : List Bytes
  addresses : List IpAddr

/-- An auxiliary address, which lies in the subnet under a new name. -/
def checkAuxiliary (subnet : NetworkSubnet) (reserved : Reserved)
    (auxiliary : NetworkAuxAddress) : Except IntentError Reserved := do
  let names ← insertNew .invalidNetworkIpam reserved.names auxiliary.name.bytes
  ensure (subnet.containsUsableHost auxiliary.address = true) .invalidNetworkIpam
  let addresses ← insertNew .invalidNetworkIpam reserved.addresses auxiliary.address.value
  .ok ⟨names, addresses⟩

/-- The checks of a pool that do not look at the pools before it. -/
def validPool (enableIpv6 : Bool) (pool : NetworkIpamPool) : Bool :=
  !(pool.subnet.address.isIpv6 && !enableIpv6) &&
    pool.gateway.all pool.subnet.containsUsableHost &&
    pool.ipRange.all fun range =>
      range.address.isIpv6 == pool.subnet.address.isIpv6 &&
        decide (pool.subnet.prefixLength ≤ range.prefixLength) &&
        pool.subnet.contains range.address

/-- A pool, which is apart from the earlier ones. -/
def checkPool (enableIpv6 : Bool) (earlier : List NetworkSubnet) (pool : NetworkIpamPool) :
    Except IntentError (List NetworkSubnet) := do
  ensure (earlier.any pool.subnet.overlaps = false ∧ validPool enableIpv6 pool = true)
    .invalidNetworkIpam
  let _ ← pool.auxiliaryAddresses.foldlM (checkAuxiliary pool.subnet)
    ⟨[], pool.gateway.toList.map NetworkAddress.value⟩
  .ok (earlier ++ [pool.subnet])

/-- The pools of a network, of which IPv6 ones need IPv6. -/
def checkIpam (enableIpv6 : Bool) : Option NetworkIpam → Except IntentError Unit
  | none => .ok ()
  | some ipam => do
      ensure (ipam.pools ≠ []) .invalidNetworkIpam
      let _ ← ipam.pools.foldlM (checkPool enableIpv6) []

/-- The checks of a network by itself. -/
def checkNetwork (network : NetworkIntent) : Except IntentError Unit :=
  match network.source with
  | .external expectedDriver _ => ensure (expectedDriver = .bridge) .invalidNetworkDriver
  | .create create => do
      ensure (create.driver = .bridge) .invalidNetworkDriver
      let _ ← create.options.foldlM checkOption []
      ensure (create.labels.map CheckedPair.key).Nodup .duplicateNetworkLabel
      checkIpam create.enableIpv6 create.ipam

/-- Whether a host address stands for all addresses. -/
def wildcard : PortHostIp → Bool
  | .unspecified => true
  | .address address => address.isUnspecified

/-- Whether two host addresses stand for a common one. -/
def hostIpOverlaps (left right : PortHostIp) : Bool :=
  wildcard left || wildcard right || left == right

/-- A fixed host port that some container of the intent takes. -/
structure FixedPort where
  port : NonZero 16
  protocol : Protocol
  address : PortHostIp
  deriving DecidableEq

/-- Whether two fixed ports cannot be bound together. -/
def FixedPort.conflicts (left right : FixedPort) : Bool :=
  left.port == right.port && left.protocol == right.protocol &&
    hostIpOverlaps left.address right.address

/-- The fixed host ports of the whole intent and the ephemeral hosts of one port. -/
structure Hosts where
  fixed : List FixedPort
  dynamic : List PortHostIp

/-- A binding of a port, next to the host addresses already seen. -/
def checkBinding (protocol : Protocol) (hosts : Hosts) (binding : HostBinding) :
    Except IntentError Hosts :=
  match binding.hostPort with
  | .fixed port => do
      let taken : FixedPort := ⟨port, protocol, binding.hostIp⟩
      ensure (hosts.fixed.any (·.conflicts taken) = false) .duplicatePort
      .ok { hosts with fixed := hosts.fixed ++ [taken] }
  | .ephemeral => do
      ensure (hosts.dynamic.any (hostIpOverlaps · binding.hostIp) = false) .duplicatePort
      .ok { hosts with dynamic := hosts.dynamic ++ [binding.hostIp] }

/-- The ports of one container and the fixed host ports of the whole intent. -/
structure Ports where
  keys : List (NonZero 16 × Protocol)
  fixed : List FixedPort

/-- A port of a container, next to those already seen. -/
def checkPort (ports : Ports) (port : PortPublication) : Except IntentError Ports := do
  let keys ← insertNew .duplicatePort ports.keys (port.container, port.protocol)
  let hosts ← port.bindings.foldlM (checkBinding port.protocol) ⟨ports.fixed, []⟩
  .ok ⟨keys, hosts.fixed⟩

/-- An address of a pool that neither its gateway nor its auxiliary addresses take. -/
def freeIn (address : NetworkAddress) (pool : NetworkIpamPool) : Bool :=
  pool.subnet.containsUsableHost address && pool.gateway != some address &&
    !pool.auxiliaryAddresses.any (·.address == address)

/-- The static addresses that a network admits. -/
def admitsAddresses (source : NetworkSource) (attachment : NetworkAttachmentIntent) : Bool :=
  match source with
  | .external _ _ => attachment.ipv4Address.isNone && attachment.ipv6Address.isNone
  | .create create =>
      !(attachment.ipv6Address.isSome && !create.enableIpv6) &&
        attachment.addresses.all fun address =>
          create.ipam.any fun ipam => ipam.pools.any (freeIn address)

/-- The source of the network that an attachment names. -/
def attachedSource (resources : List TargetResource) (attachment : NetworkAttachmentIntent) :
    Option NetworkSource :=
  match resources.find? (·.reference == attachment.network) with
  | some (.network network) => some network.source
  | _ => none

/-- An attachment to a declared network, with addresses only where it has pools. -/
def checkAttachment (resources : List TargetResource) (seen : List ResourceRef)
    (attachment : NetworkAttachmentIntent) : Except IntentError (List ResourceRef) := do
  let networks ← insertNew .duplicateNetworkAttachment seen attachment.network
  ensure (attachment.ipv4Address.all (!·.isIpv6) && attachment.ipv6Address.all (·.isIpv6))
    .invalidNetworkAttachment
  ensure (attachment.aliases.map Checked.bytes).Nodup .duplicateNetworkAlias
  ensure ((attachedSource resources attachment).all (admitsAddresses · attachment) = true)
    .invalidNetworkAttachment
  .ok networks

/-- Slash and dot cleaning of an absolute path; the authored bytes stay as they are. -/
def lexicalAbsolutePathKey (path : Bytes) : List Bytes :=
  (path.splitOnP (· == 47)).foldl (fun components component =>
    if component = [] ∨ component = asBytes "." then components
    else if component = asBytes ".." then components.dropLast
    else components ++ [component]) []

/-- No two mounts of a container have one target up to spelling, and none is the root. -/
def distinctMounts (container : ContainerIntent) : Bool :=
  let mounts := container.mounts.map fun mount => lexicalAbsolutePathKey mount.target
  decide mounts.Nodup && !container.settings.devices.any fun device =>
    mounts.contains (lexicalAbsolutePathKey device.containerPath.bytes)

/-- An exec form has a nonempty first argument. -/
def validCommand : ImageCommand → Bool
  | .exec [] => false
  | .exec (argument :: _) => !argument.bytes.isEmpty
  | _ => true

/-- Whether a command is given as arguments. -/
def ImageCommand.isExec : ImageCommand → Bool
  | .exec _ => true
  | _ => false

/-- The limits that have to fit into a signed number. -/
def boundedLimits (settings : ContainerSettings) : Bool :=
  (match settings.memoryLimit with
    | some (.bytes value) => decide (value.get ≤ maxI64)
    | _ => true) &&
  (match settings.pidsLimit with
    | some (.count value) => decide (value.get ≤ maxI64)
    | _ => true) &&
  settings.shmSizeBytes.all (·.get ≤ maxI64)

/-- A resource limit fits into a signed number. -/
def validUlimitValue : UlimitValue → Bool
  | .unlimited => true
  | .value number => decide (number.toNat ≤ maxI64)

/-- A soft limit does not exceed the hard one. -/
def orderedUlimit : UlimitValue → UlimitValue → Bool
  | .unlimited, .value _ => false
  | .value soft, .value hard => decide (soft ≤ hard)
  | _, _ => true

/-- A resource limit, of which only `nofile` is known. -/
def checkUlimit (names : List Bytes) (limit : Ulimit) : Except IntentError (List Bytes) := do
  ensure (limit.name.bytes = asBytes "nofile") .invalidContainerSetting
  let names ← insertNew .invalidContainerSetting names limit.name.bytes
  ensure (validUlimitValue limit.soft && validUlimitValue limit.hard &&
    orderedUlimit limit.soft limit.hard) .invalidContainerSetting
  .ok names

/-- A device, whose target is not used before. -/
def checkDevice (targets : List Bytes) (device : DeviceMapping) :
    Except IntentError (List Bytes) := do
  let targets ← insertNew .invalidContainerSetting targets device.containerPath.bytes
  ensure (device.permissions.read || device.permissions.write || device.permissions.create)
    .invalidContainerSetting
  .ok targets

/-- A kernel parameter, of which only IPv4 forwarding is known. -/
def checkSysctl (seen : List Bytes) (item : ContainerLabel) :
    Except IntentError (List Bytes) := do
  ensure (item.key = asBytes "net.ipv4.ip_forward" ∧
    (item.value = asBytes "0" ∨ item.value = asBytes "1")) .invalidContainerSetting
  insertNew .duplicateContainerSetting seen item.key

/-- A positive number, which may carry the plus sign of `u64::from_str`, and its unit. -/
def validLogMaxSize (value : Bytes) : Bool :=
  match value.getLast? with
  | none => false
  | some suffix =>
      let digits := value.dropLast
      (suffix == 107 || suffix == 109 || suffix == 103) && !digits.isEmpty &&
        ((fromUtf8 digits).bind fun digits => parseUnsigned 10 (2 ^ 64 - 1) digits.toList).any
          (· != 0)

/-- An option of a log driver, of which only the size of JSON files is known. -/
def checkLogOption (driver : LogDriver) (seen : List Bytes) (item : ContainerLabel) :
    Except IntentError (List Bytes) := do
  ensure (driver = .jsonFile ∧ item.key = asBytes "max-size" ∧ validLogMaxSize item.value = true)
    .invalidContainerSetting
  insertNew .duplicateContainerSetting seen item.key

/-- A log driver with its options. -/
def checkLogConfig : Option LogConfig → Except IntentError Unit
  | none => .ok ()
  | some log => do
      ensure (¬(log.driver = .none ∧ log.options ≠ [])) .invalidContainerSetting
      let _ ← log.options.foldlM (checkLogOption log.driver) []

/-- `mem::discriminant`. -/
def SecurityOption.discriminant : SecurityOption → Nat
  | .noNewPrivileges _ => 0

/-- `validate_container_settings`, check after check. -/
def validateContainerSettings (settings : ContainerSettings) : Except IntentError Unit := do
  ensure (boundedLimits settings = true) .invalidContainerSetting
  let _ ← settings.ulimits.foldlM checkUlimit []
  let _ ← settings.devices.foldlM checkDevice []
  ensure ((settings.capAdd ++ settings.capDrop).map Checked.bytes).Nodup
    .duplicateContainerSetting
  ensure ((∀ token ∈ settings.capAdd, token.bytes = asBytes "NET_BIND_SERVICE") ∧
    ∀ token ∈ settings.capDrop, token.bytes = asBytes "SYS_ADMIN") .invalidContainerSetting
  ensure (settings.securityOptions.map SecurityOption.discriminant).Nodup
    .duplicateContainerSetting
  let _ ← settings.sysctls.foldlM checkSysctl []
  ensure (settings.groupAdd.map Checked.bytes).Nodup .duplicateContainerSetting
  ensure (∀ group ∈ settings.groupAdd, validUserPrincipal group.bytes = true)
    .invalidContainerSetting
  ensure (settings.extraHosts.map (·.name.bytes)).Nodup .duplicateContainerSetting
  checkLogConfig settings.logConfig

/-- The retries of a restart policy fit into a signed number. -/
def validRestart : Option RestartPolicy → Bool
  | some (.onFailure maximumRetries) => decide (maximumRetries.toNat ≤ maxI32)
  | _ => true

/-- The checks of a container after its ports. -/
def checkContainer (resources : List TargetResource) (container : ContainerIntent) :
    Except IntentError Unit := do
  ensure (container.settings.labels.map CheckedPair.key).Nodup .duplicateContainerLabel
  let _ ← container.networks.foldlM (checkAttachment resources) []
  ensure (distinctMounts container = true) .duplicateMount
  ensure (validCommand container.entrypoint && validCommand container.command) .invalidArgument
  ensure (container.command = .clear → container.entrypoint.isExec = true)
    .commandClearRequiresEntrypoint
  ensure (container.settings.stopSignal.all (!·.bytes.isEmpty) = true) .invalidArgument
  validateContainerSettings container.settings
  ensure (validRestart container.restart = true) .invalidRestart

/-- The second pass over the resources; the fixed host ports of all containers accumulate. -/
def checkResource (resources : List TargetResource) (fixed : List FixedPort) :
    TargetResource → Except IntentError (List FixedPort)
  | .network network => do
      checkNetwork network
      .ok fixed
  | .container container => do
      ensure (container.environment.map CheckedPair.key).Nodup .invalidEnvironment
      let ports ← container.ports.foldlM checkPort ⟨[], fixed⟩
      checkContainer resources container
      .ok ports.fixed
  | _ => .ok fixed

/-- The attachments of a resource, if it is a container. -/
def TargetResource.attachments : TargetResource → List NetworkAttachmentIntent
  | .container intent => intent.networks
  | _ => []

/-- A static address, which no other attachment to the network has. -/
def checkStaticAddress (seen : List (ResourceRef × IpAddr))
    (address : ResourceRef × IpAddr) : Except IntentError (List (ResourceRef × IpAddr)) :=
  insertNew .duplicateNetworkAddress seen address

/-- The static addresses of the containers, each with its network. -/
def staticAddresses (resources : List TargetResource) : List (ResourceRef × IpAddr) :=
  resources.flatMap fun resource => resource.attachments.flatMap fun attachment =>
    attachment.addresses.map fun address => (attachment.network, address.value)

/-- What runs the resources of an intent. -/
inductive Orchestration
  | standalone
  | swarm
  deriving DecidableEq, Repr

/-- The checks of `new_with_orchestration`, in the order of the source. -/
def checkResources (resources : List TargetResource) (orchestration : Orchestration) :
    Except IntentError Unit := do
  ensure (orchestration = .standalone) .unsupportedOrchestration
  ensure (resources ≠ []) .empty
  ensure (resources.map TargetResource.reference).Nodup .duplicateResource
  let _ ← resources.foldlM checkIdentity ⟨[], false⟩
  let _ ← resources.foldlM (checkResource resources) []
  let _ ← (staticAddresses resources).foldlM checkStaticAddress []

/-- Resources that passed every check. -/
structure TargetIntent where
  resources : List TargetResource
  checked : checkResources resources .standalone = .ok ()

namespace TargetIntent

/-- `TargetIntent::new_with_orchestration`. -/
def newWithOrchestration (resources : List TargetResource) (orchestration : Orchestration) :
    Except IntentError TargetIntent :=
  if orchestration = .standalone then
    match hchecked : checkResources resources .standalone with
    | .ok () => .ok ⟨resources, hchecked⟩
    | .error error => .error error
  else .error .unsupportedOrchestration

/-- `TargetIntent::new`. -/
def new (resources : List TargetResource) : Except IntentError TargetIntent :=
  newWithOrchestration resources .standalone

end TargetIntent

end DockerLens.Target
