import DockerLens.Target.Intent
import DockerLens.Topological
import DockerLens.Version

namespace DockerLens.Target

open DockerLens.Text
open DockerLens.Observation
open DockerLens.Version
open DockerLens.Fold

/-- Whether a resource is made or has to be there. -/
inductive OperationAction
  | create
  | requireExisting
  deriving DecidableEq, Repr

/-- What is done with one resource. -/
structure Operation where
  resource : ResourceRef
  kind : TargetKind
  action : OperationAction
  deriving DecidableEq, Repr

/-- An operation and the resources that come before it. -/
structure OperationNode where
  operation : Operation
  dependsOn : List ResourceRef
  deriving DecidableEq, Repr

def OperationNode.resource (node : OperationNode) : ResourceRef := node.operation.resource

/-- A step, by its resource and its place among the steps of that one. -/
structure OperationStepId where
  resource : ResourceRef
  ordinal : Nat
  deriving DecidableEq, Repr

/-- What one step does. -/
inductive OperationStepAction
  | create (kind : TargetKind)
  | requireExisting (kind : TargetKind)
  | connectNetwork (network : ResourceRef) (attachmentIndex : Nat)
  deriving DecidableEq, Repr

/-- A step and the steps that come before it. -/
structure OperationStep where
  id : OperationStepId
  action : OperationStepAction
  dependsOn : List OperationStepId
  deriving DecidableEq, Repr

/-- The validated source of the capability claims of a graph. -/
inductive PlanningContext
  | observed (scope : CapabilityScope)
  | target (profile : TargetProfile)
  deriving DecidableEq

namespace PlanningContext

/-- The API version that requests are rendered for. -/
def api : PlanningContext → ApiVersion
  | observed scope => scope.apiVersion
  | target profile => profile.identity.renderingApiVersion

/-- The mode of the daemon that a plan is for. -/
def mode : PlanningContext → DaemonMode
  | observed scope => scope.mode
  | target profile => profile.identity.mode

end PlanningContext

/-- What the planner asks of validated facts or of a resolved offline target. -/
structure PlanningCapabilitySet where
  supports : Capability → Bool
  context : PlanningContext

/-- The fields of an intent that an error of the planner points to. -/
inductive TargetField
  | resource
  | port
  | portExposeOnly
  | portHostIpv4
  | portHostIpv6
  | portMultipleBindings
  | portEphemeral
  | bindMount
  | bindRelabel
  | tmpfsMount
  | namedVolume
  | volumeLabels
  | network
  | networkInternal
  | networkIpv6
  | networkIpam
  | networkIpamDriver
  | networkOptions
  | networkLabels
  | networkAliases
  | networkStaticAddress
  | networkMultipleAttachment
  | networkExternalReference
  | networkExternalInternalExpectation
  | volumeExternalReference
  | environment
  | command
  | commandClear
  | entrypoint
  | entrypointClear
  | healthcheck
  | healthShell
  | healthDisabled
  | healthStartPeriod
  | healthStartInterval
  | restart
  | containerLabels
  | containerUser
  | containerWorkdir
  | containerHostname
  | readOnlyRootfs
  | containerInit
  | stopSignal
  | stopTimeout
  | memoryLimit
  | pidsLimit
  | shmSize
  | ulimits
  | ulimitNofile
  | deviceMappings
  | linuxCapabilities
  | capAddNetBindService
  | capDropSysAdmin
  | securityOptions
  | sysctls
  | sysctlIpv4Forward
  | supplementaryGroups
  | dnsServers
  | extraHosts
  | logConfig
  | logOptionMaxSize
  | userNamespace
  deriving DecidableEq, Repr

/-- The reasons to refuse a plan. -/
inductive PlanningError
  | unsupportedApi (actual minimum : ApiVersion)
  | missingCapability (resource : ResourceRef) (field : TargetField) (capability : Capability)
  | restrictedPort (resource : ResourceRef) (mode : DaemonMode)
  | unsupportedNetworkIpam (resource : ResourceRef)
  | invalidDependency
  | dependencyMismatch (resource dependency : ResourceRef) (expected : TargetKind)
  | cycle
  deriving DecidableEq

/-- The iteration order of a hash table. -/
structure HashOrder (α : Type) where
  order : List α → List α
  perm : ∀ keys, (order keys).Perm keys

/-- What the planner does with a resource. -/
def TargetResource.action : TargetResource → OperationAction
  | .network intent =>
      match intent.source with
      | .external _ _ => .requireExisting
      | .create _ => .create
  | .externalVolume _ _ => .requireExisting
  | .volume _ _ _ => .create
  | .container _ => .create

/-- `HashMap::get` in the map of an intent's resources by reference. -/
def resourceOf (resources : List TargetResource) (reference : ResourceRef) :
    Option TargetResource :=
  resources.find? (·.reference == reference)

/-- Whether an operation is that of a resource. -/
def TargetResource.matches (resource : TargetResource) (operation : Operation) : Bool :=
  resource.reference == operation.resource && resource.kind == operation.kind &&
    operation.action == resource.action

/-- The volume that a mount names, if it is one of a volume. -/
def Mount.volumeReference (mount : Mount) : Option ResourceRef :=
  match mount.source with
  | .volume reference => some reference
  | .bind _ => none
  | .tmpfs _ => none

/-- The resources that a container needs, with their kinds. -/
def required (container : ContainerIntent) : List (ResourceRef × TargetKind) :=
  (container.networks.map fun attachment => (attachment.network, .network)) ++
    (container.mounts.filterMap Mount.volumeReference).map fun reference => (reference, .volume)

/-- A resource that a container needs is there, of the right kind, and comes before it. -/
def checkRequired (resources : List TargetResource) (node : OperationNode)
    (need : ResourceRef × TargetKind) : Except PlanningError Unit :=
  ensure ((resourceOf resources need.1).map TargetResource.kind = some need.2 ∧
    need.1 ∈ node.dependsOn) (.dependencyMismatch node.resource need.1 need.2)

/-- The resources that a node's container needs. -/
def checkNode (resources : List TargetResource) (node : OperationNode) :
    Except PlanningError Unit :=
  match resourceOf resources node.resource with
  | some (.container container) => (required container).forM (checkRequired resources node)
  | _ => .ok ()

/-- One check of the capability gate. -/
inductive Gate
  | require (field : TargetField) (capability : Capability)
  | unsupportedIpam
  | restrictedPort

/-- Whether one gate lets a resource through. -/
def pass (capabilities : PlanningCapabilitySet) (reference : ResourceRef) :
    Gate → Except PlanningError Unit
  | .require field capability =>
      ensure (capabilities.supports capability = true)
        (.missingCapability reference field capability)
  | .unsupportedIpam => .error (.unsupportedNetworkIpam reference)
  | .restrictedPort => .error (.restrictedPort reference capabilities.context.mode)

/-- A gate that stands under a condition. -/
def gateIf (condition : Bool) (gate : Gate) : List Gate := if condition then [gate] else []

/-- An IPv4 pool of one or two addresses. -/
def unsupportedPool (pool : NetworkIpamPool) : Bool :=
  !pool.subnet.address.isIpv6 && decide (31 ≤ pool.subnet.prefixLength)

def networkGates (source : NetworkSource) : List Gate :=
  match source with
  | .create create =>
      [.require .resource .bridgeNetwork] ++
      gateIf (create.ipam.any (·.pools.any unsupportedPool)) .unsupportedIpam ++
      gateIf create.internal (.require .networkInternal .networkInternal) ++
      gateIf create.enableIpv6 (.require .networkIpv6 .networkIpv6) ++
      gateIf create.ipam.isSome (.require .networkIpam .networkIpam) ++
      gateIf (create.ipam.any (·.driver.isSome)) (.require .networkIpamDriver .networkIpamDriver) ++
      gateIf (!create.options.isEmpty) (.require .networkOptions .networkOptions) ++
      gateIf (!create.labels.isEmpty) (.require .networkLabels .networkLabels)
  | .external _ expectedInternal =>
      [.require .networkExternalReference .networkExternalReference] ++
      gateIf expectedInternal.isSome
        (.require .networkExternalInternalExpectation .networkExternalInternalExpectation)

def hostIpGates : PortHostIp → List Gate
  | .unspecified => []
  | .address (.v4 _) => [.require .portHostIpv4 .portHostIpv4]
  | .address (.v6 _) => [.require .portHostIpv6 .portHostIpv6]

def bindingGates (binding : HostBinding) : List Gate :=
  hostIpGates binding.hostIp ++
  gateIf (binding.hostPort == .ephemeral) (.require .portEphemeral .portEphemeral)

def portGates (port : PortPublication) : List Gate :=
  (if port.bindings.isEmpty then [.require .portExposeOnly .portExposeOnly]
    else [.require .port .portPublish]) ++
  gateIf (decide (1 < port.bindings.length))
    (.require .portMultipleBindings .portMultipleBindings) ++
  port.bindings.flatMap bindingGates

/-- The capability that relabelling takes. -/
def relabelCapability : BindRelabel → Capability
  | .shared => .bindRelabelShared
  | .private => .bindRelabelPrivate

def mountGates (mount : Mount) : List Gate :=
  (match mount.source with
    | .bind _ => [.require .bindMount .bindMount]
    | .volume _ => [.require .namedVolume .namedVolume]
    | .tmpfs _ => [.require .tmpfsMount .tmpfsMount]) ++
  (mount.bindRelabel.toList.map fun relabel =>
    .require .bindRelabel (relabelCapability relabel))

def attachmentGates (attachment : NetworkAttachmentIntent) : List Gate :=
  gateIf (!attachment.aliases.isEmpty) (.require .networkAliases .networkAliases) ++
  gateIf (attachment.ipv4Address.isSome || attachment.ipv6Address.isSome)
    (.require .networkStaticAddress .networkStaticAddress)

def commandGates : ImageCommand → List Gate
  | .inherit => []
  | .clear => [.require .commandClear .commandClear]
  | .exec _ => [.require .command .command]

def entrypointGates : ImageCommand → List Gate
  | .inherit => []
  | .clear => [.require .entrypointClear .entrypointClear]
  | .exec _ => [.require .entrypoint .entrypoint]

def healthGates (health : Healthcheck) : List Gate :=
  (match health.test with
    | .exec _ => [.require .healthcheck .healthcheck]
    | .shell _ => [.require .healthShell .healthShell]
    | .disabled => [.require .healthDisabled .healthDisabled]) ++
  gateIf health.startPeriodNs.isSome (.require .healthStartPeriod .healthStartPeriod) ++
  gateIf health.startIntervalNs.isSome (.require .healthStartInterval .healthStartInterval)

/-- The gates of a container's settings, field by field. -/
def settingsGates (settings : ContainerSettings) : List Gate :=
  gateIf (!settings.labels.isEmpty) (.require .containerLabels .containerLabels) ++
  gateIf settings.user.isSome (.require .containerUser .containerUser) ++
  gateIf settings.workingDir.isSome (.require .containerWorkdir .containerWorkdir) ++
  gateIf settings.hostname.isSome (.require .containerHostname .containerHostname) ++
  gateIf settings.readOnlyRootfs.isSome (.require .readOnlyRootfs .readOnlyRootfs) ++
  gateIf settings.init.isSome (.require .containerInit .containerInit) ++
  gateIf settings.stopSignal.isSome (.require .stopSignal .stopSignal) ++
  gateIf settings.stopTimeoutSeconds.isSome (.require .stopTimeout .stopTimeout) ++
  gateIf settings.memoryLimit.isSome (.require .memoryLimit .memoryLimit) ++
  gateIf settings.pidsLimit.isSome (.require .pidsLimit .pidsLimit) ++
  gateIf settings.shmSizeBytes.isSome (.require .shmSize .shmSize) ++
  gateIf (!settings.ulimits.isEmpty) (.require .ulimits .ulimits) ++
  gateIf (!settings.ulimits.isEmpty) (.require .ulimitNofile .ulimitNofile) ++
  gateIf (!settings.devices.isEmpty) (.require .deviceMappings .deviceMappings) ++
  gateIf (!settings.capAdd.isEmpty || !settings.capDrop.isEmpty)
    (.require .linuxCapabilities .linuxCapabilities) ++
  gateIf (!settings.capAdd.isEmpty) (.require .capAddNetBindService .capAddNetBindService) ++
  gateIf (!settings.capDrop.isEmpty) (.require .capDropSysAdmin .capDropSysAdmin) ++
  gateIf (!settings.securityOptions.isEmpty) (.require .securityOptions .securityOptions) ++
  gateIf (!settings.sysctls.isEmpty) (.require .sysctls .sysctls) ++
  gateIf (!settings.sysctls.isEmpty) (.require .sysctlIpv4Forward .sysctlIpv4Forward) ++
  gateIf (!settings.groupAdd.isEmpty) (.require .supplementaryGroups .supplementaryGroups) ++
  gateIf (!settings.dns.isEmpty) (.require .dnsServers .dnsServers) ++
  gateIf (!settings.extraHosts.isEmpty) (.require .extraHosts .extraHosts) ++
  gateIf settings.logConfig.isSome (.require .logConfig .logConfig) ++
  gateIf (settings.logConfig.any (!·.options.isEmpty))
    (.require .logOptionMaxSize .logOptionMaxSize) ++
  gateIf settings.usernsMode.isSome (.require .userNamespace .userNamespace)

/-- A rootless daemon publishes no fixed host port below 1024. -/
def restrictedPorts (mode : DaemonMode) (container : ContainerIntent) : Bool :=
  mode == .rootless && (container.ports.flatMap PortPublication.bindings).any fun binding =>
    match binding.hostPort with
    | .fixed port => decide (port.get < 1024)
    | .ephemeral => false

/-- The gates of a container, in the order in which they are tried. -/
def containerGates (mode : DaemonMode) (container : ContainerIntent) : List Gate :=
  [.require .resource .standaloneContainer] ++
  gateIf (restrictedPorts mode container) .restrictedPort ++
  container.ports.flatMap portGates ++
  container.mounts.flatMap mountGates ++
  gateIf (!container.networks.isEmpty) (.require .network .bridgeNetwork) ++
  gateIf (decide (1 < container.networks.length))
    (.require .networkMultipleAttachment .networkMultipleAttachment) ++
  container.networks.flatMap attachmentGates ++
  gateIf (!container.environment.isEmpty) (.require .environment .environmentAssignment) ++
  commandGates container.command ++
  entrypointGates container.entrypoint ++
  container.healthcheck.toList.flatMap healthGates ++
  gateIf container.restart.isSome (.require .restart .restartPolicy) ++
  settingsGates container.settings

/-- The checks that a resource has to pass, in the order of the source. -/
def gates (mode : DaemonMode) : TargetResource → List Gate
  | .network intent => networkGates intent.source
  | .volume _ _ labels =>
      [.require .resource .namedVolume] ++
      gateIf (!labels.isEmpty) (.require .volumeLabels .volumeLabels)
  | .externalVolume _ _ => [.require .volumeExternalReference .volumeExternalReference]
  | .container intent => containerGates mode intent

/-- All gates of a resource, up to the first that is shut. -/
def checkGates (capabilities : PlanningCapabilitySet) (resource : TargetResource) :
    Except PlanningError Unit :=
  (gates capabilities.context.mode resource).forM (pass capabilities resource.reference)

/-- The oldest API version that is planned for. -/
def minimumApi : ApiVersion where
  major := 1
  minor := 41
  major_pos := Nat.one_pos
  major_lt := ApiVersion.major_one_lt
  minor_lt := ApiVersion.minor_41_lt

/-- The first step of a node. -/
def baseStep (node : OperationNode) : OperationStep where
  id := ⟨node.resource, 0⟩
  action := match node.operation.action with
    | .create => .create node.operation.kind
    | .requireExisting => .requireExisting node.operation.kind
  dependsOn := node.dependsOn.map fun reference => ⟨reference, 0⟩

/-- The step that attaches a container to a further network. -/
def connectStep (node : OperationNode) (entry : NetworkAttachmentIntent × Nat) :
    OperationStep where
  id := ⟨node.resource, entry.2⟩
  action := .connectNetwork entry.1.network entry.2
  dependsOn := [⟨node.resource, 0⟩, ⟨entry.1.network, 0⟩]

/-- The step of a node, and one for each network attachment after the first. -/
def nodeSteps (resources : List TargetResource) (node : OperationNode) : List OperationStep :=
  baseStep node ::
    match resourceOf resources node.resource with
    | some (.container container) =>
        (container.networks.zipIdx.drop 1).map (connectStep node)
    | _ => []

/-- A checked plan. -/
structure OperationGraph where
  intent : TargetIntent
  context : PlanningContext
  nodes : List OperationNode
  steps : List OperationStep

namespace OperationGraph

/-- Validate every operation, dependency and setting capability. -/
def new (hash : HashOrder ResourceRef) (intent : TargetIntent)
    (capabilities : PlanningCapabilitySet) (nodes : List OperationNode) :
    Except PlanningError OperationGraph := do
  let references := nodes.map OperationNode.resource
  ensure (nodes.length = intent.resources.length ∧ references.Nodup) .invalidDependency
  ensure (∀ node ∈ nodes, intent.resources.any (·.matches node.operation) = true)
    .invalidDependency
  ensure (∀ node ∈ nodes, ∀ dependency ∈ node.dependsOn,
    dependency ∈ references ∧ dependency ≠ node.resource) .invalidDependency
  nodes.forM (checkNode intent.resources)
  ensure (Topological.visited OperationNode.resource OperationNode.dependsOn nodes
    (hash.order references) = nodes.length) .cycle
  let api := capabilities.context.api
  ensure (api.major = 1 ∧ ¬ api < minimumApi) (.unsupportedApi api minimumApi)
  intent.resources.forM (checkGates capabilities)
  .ok { intent, context := capabilities.context, nodes
        steps := nodes.flatMap (nodeSteps intent.resources) }

end OperationGraph

/-- The references that the planner makes a node of a resource depend on. -/
def dependencies : TargetResource → List ResourceRef
  | .container intent =>
      (intent.networks.map NetworkAttachmentIntent.network ++
        intent.mounts.filterMap Mount.volumeReference).foldl
        (fun references reference =>
          if reference ∈ references then references else references ++ [reference]) []
  | _ => []

/-- The node that the planner makes for a resource. -/
def planNode (resource : TargetResource) : OperationNode where
  operation := ⟨resource.reference, resource.kind, resource.action⟩
  dependsOn := dependencies resource

/-- `DockerPlanner`: dependencies come only from explicit target references. -/
def plan (hash : HashOrder ResourceRef) (intent : TargetIntent)
    (capabilities : PlanningCapabilitySet) : Except PlanningError OperationGraph :=
  OperationGraph.new hash intent capabilities (intent.resources.map planNode)

end DockerLens.Target
