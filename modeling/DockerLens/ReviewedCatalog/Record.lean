import DockerLens.Json.Document
import DockerLens.Version.Catalog

namespace DockerLens.ReviewedCatalog

open DockerLens.Text
open DockerLens.Json
open DockerLens.Fold
open DockerLens.Version

/-- A failed assertion, `expect`, `unwrap` or `panic!`. -/
inductive Panic
  | panicked
  deriving DecidableEq, Repr

/-- A computation that may panic. -/
abbrev Panics (α : Type) := Except Panic α

/-- `Option::expect`, and `unwrap` as well. -/
def expect {α : Type} : Option α → Panics α := okOr .panicked

/-- `Result::expect`. -/
def expectOk {ε α : Type} (result : Except ε α) : Panics α := expect result.toOption

/-- `assert!`, and `assert_eq!` of a decided equality. -/
def assert (condition : Prop) [Decidable condition] : Panics Unit := ensure condition .panicked

/-- `SOURCE_CANDIDATE`. -/
def sourceCandidate : String := "ef8b40c2d392c3983a3ebdc54730812352fe6b39"

/-- `SOURCE_RUN`. -/
def sourceRun : String :=
  "https://github.com/Strukturpiloten/docker-lens/actions/runs/38106164571/attempts/1"

/-- `REVIEWED_CAPABILITIES`. -/
def reviewedCapabilities : List Capability :=
  [.standaloneContainer, .namedVolume, .bridgeNetwork, .portPublish, .bindMount,
    .environmentAssignment, .command, .entrypoint, .healthcheck, .restartPolicy,
    .volumeExternalReference, .networkExternalReference, .networkExternalInternalExpectation,
    .networkInternal, .volumeLabels, .containerUser, .containerWorkdir, .portHostIpv4,
    .portMultipleBindings, .portExposeOnly, .portEphemeral, .containerLabels, .healthShell,
    .healthStartPeriod, .networkLabels, .networkAliases, .networkMultipleAttachment,
    .bindRelabelShared, .bindRelabelPrivate, .stopSignal]

/-- `REVIEWED_SHAPES`. -/
def reviewedShapes : List NativeCapabilityShape :=
  [.standaloneCreate, .namedVolumeCreate, .namedVolumeMountReadWrite, .namedVolumeMountReadOnly,
    .bridgeNetworkCreate, .bridgeNetworkAttach, .fixedTcpPort, .fixedUdpPort, .bindMountReadWrite,
    .bindMountReadOnly, .environmentValue, .environmentEmptyValue, .execCommand, .execEntrypoint,
    .execHealthcheck, .restartNo, .restartAlways, .restartUnlessStopped, .restartOnFailureUnlimited,
    .restartOnFailureLimited, .externalVolumeReference, .externalNetworkReference,
    .externalNetworkInternalFalse, .externalNetworkInternalTrue, .internalBridgeNetworkCreate,
    .volumeCreateLabels, .containerUser, .containerWorkdir, .fixedIpv4HostPort,
    .ephemeralIpv4HostPort, .multipleFixedPortBindings, .multipleEphemeralPortBindings,
    .exposedOnlyPort, .ephemeralHostPort, .containerCreateLabels, .shellHealthcheck,
    .healthStartPeriodZero, .healthStartPeriodPositive, .networkCreateLabels,
    .networkPrimaryAliases, .networkSecondaryAliases, .networkSecondaryConnect,
    .bindMountSharedRelabelReadWrite, .bindMountSharedRelabelReadOnly,
    .bindMountPrivateRelabelReadWrite, .bindMountPrivateRelabelReadOnly, .stopSignal]

/-- `UPSTREAM_CAPABILITIES`. -/
def upstreamCapabilities : List Capability :=
  [.standaloneContainer, .namedVolume, .bridgeNetwork, .portPublish, .bindMount,
    .environmentAssignment, .command, .entrypoint, .healthcheck, .restartPolicy,
    .volumeExternalReference, .networkExternalReference, .networkExternalInternalExpectation,
    .networkInternal, .volumeLabels, .containerUser, .containerWorkdir, .portHostIpv4,
    .portMultipleBindings, .portExposeOnly, .portEphemeral, .containerLabels, .healthShell,
    .healthStartPeriod, .networkLabels, .networkAliases, .networkMultipleAttachment,
    .bindRelabelShared, .bindRelabelPrivate, .portHostIpv6, .stopSignal]

/-- `UPSTREAM_SHAPES`. -/
def upstreamShapes : List NativeCapabilityShape :=
  [.standaloneCreate, .namedVolumeCreate, .namedVolumeMountReadWrite, .namedVolumeMountReadOnly,
    .bridgeNetworkCreate, .bridgeNetworkAttach, .fixedTcpPort, .fixedUdpPort, .bindMountReadWrite,
    .bindMountReadOnly, .environmentValue, .environmentEmptyValue, .execCommand, .execEntrypoint,
    .execHealthcheck, .restartNo, .restartAlways, .restartUnlessStopped, .restartOnFailureUnlimited,
    .restartOnFailureLimited, .externalVolumeReference, .externalNetworkReference,
    .externalNetworkInternalFalse, .externalNetworkInternalTrue, .internalBridgeNetworkCreate,
    .volumeCreateLabels, .containerUser, .containerWorkdir, .fixedIpv4HostPort,
    .ephemeralIpv4HostPort, .multipleFixedPortBindings, .multipleEphemeralPortBindings,
    .exposedOnlyPort, .ephemeralHostPort, .containerCreateLabels, .shellHealthcheck,
    .healthStartPeriodZero, .healthStartPeriodPositive, .networkCreateLabels,
    .networkPrimaryAliases, .networkSecondaryAliases, .networkSecondaryConnect,
    .bindMountSharedRelabelReadWrite, .bindMountSharedRelabelReadOnly,
    .bindMountPrivateRelabelReadWrite, .bindMountPrivateRelabelReadOnly, .fixedIpv6HostPort,
    .ephemeralIpv6HostPort, .stopSignal]

/-- What exactly a record of a lane admits. -/
def expectedAdmission : NativeEvidenceLane → List Capability × List NativeCapabilityShape
  | .debian11Rootful | .debian11Rootless => (reviewedCapabilities, reviewedShapes)
  | .upstreamRootful | .upstreamRootless => (upstreamCapabilities, upstreamShapes)

/-- The arms of `capability`. -/
def capabilityNames : List (String × Capability) :=
  [("StandaloneContainer", .standaloneContainer), ("BindMount", .bindMount),
    ("BindRelabelShared", .bindRelabelShared), ("BindRelabelPrivate", .bindRelabelPrivate),
    ("TmpfsMount", .tmpfsMount), ("NamedVolume", .namedVolume), ("VolumeLabels", .volumeLabels),
    ("VolumeExternalReference", .volumeExternalReference), ("BridgeNetwork", .bridgeNetwork),
    ("NetworkExternalReference", .networkExternalReference),
    ("NetworkExternalInternalExpectation", .networkExternalInternalExpectation),
    ("NetworkInternal", .networkInternal), ("NetworkIpv6", .networkIpv6),
    ("NetworkIpam", .networkIpam), ("NetworkIpamDriver", .networkIpamDriver),
    ("NetworkOptions", .networkOptions), ("NetworkLabels", .networkLabels),
    ("NetworkAliases", .networkAliases), ("NetworkStaticAddress", .networkStaticAddress),
    ("NetworkMultipleAttachment", .networkMultipleAttachment), ("HostNetwork", .hostNetwork),
    ("PortPublish", .portPublish), ("PortExposeOnly", .portExposeOnly),
    ("PortHostIpv4", .portHostIpv4), ("PortHostIpv6", .portHostIpv6),
    ("PortMultipleBindings", .portMultipleBindings), ("PortEphemeral", .portEphemeral),
    ("UserNamespace", .userNamespace), ("EnvironmentAssignment", .environmentAssignment),
    ("Command", .command), ("CommandClear", .commandClear), ("Entrypoint", .entrypoint),
    ("EntrypointClear", .entrypointClear), ("Healthcheck", .healthcheck),
    ("HealthShell", .healthShell), ("HealthDisabled", .healthDisabled),
    ("HealthStartPeriod", .healthStartPeriod), ("HealthStartInterval", .healthStartInterval),
    ("RestartPolicy", .restartPolicy), ("ContainerLabels", .containerLabels),
    ("ContainerUser", .containerUser), ("ContainerWorkdir", .containerWorkdir),
    ("ContainerHostname", .containerHostname), ("ReadOnlyRootfs", .readOnlyRootfs),
    ("ContainerInit", .containerInit), ("StopSignal", .stopSignal), ("StopTimeout", .stopTimeout),
    ("MemoryLimit", .memoryLimit), ("PidsLimit", .pidsLimit), ("ShmSize", .shmSize),
    ("Ulimits", .ulimits), ("UlimitNofile", .ulimitNofile), ("DeviceMappings", .deviceMappings),
    ("LinuxCapabilities", .linuxCapabilities), ("CapAddNetBindService", .capAddNetBindService),
    ("CapDropSysAdmin", .capDropSysAdmin), ("SecurityOptions", .securityOptions),
    ("Sysctls", .sysctls), ("SysctlIpv4Forward", .sysctlIpv4Forward),
    ("SupplementaryGroups", .supplementaryGroups), ("DnsServers", .dnsServers),
    ("ExtraHosts", .extraHosts), ("LogConfig", .logConfig), ("LogOptionMaxSize", .logOptionMaxSize)]

/-- The arms of `native_shape`. -/
def shapeNames : List (String × NativeCapabilityShape) :=
  [("StandaloneCreate", .standaloneCreate), ("NamedVolumeCreate", .namedVolumeCreate),
    ("VolumeCreateLabels", .volumeCreateLabels),
    ("NamedVolumeMountReadWrite", .namedVolumeMountReadWrite),
    ("NamedVolumeMountReadOnly", .namedVolumeMountReadOnly),
    ("ExternalVolumeReference", .externalVolumeReference),
    ("BridgeNetworkCreate", .bridgeNetworkCreate), ("BridgeNetworkAttach", .bridgeNetworkAttach),
    ("ExternalNetworkReference", .externalNetworkReference),
    ("ExternalNetworkInternalFalse", .externalNetworkInternalFalse),
    ("ExternalNetworkInternalTrue", .externalNetworkInternalTrue),
    ("InternalBridgeNetworkCreate", .internalBridgeNetworkCreate),
    ("Ipv6BridgeNetworkCreate", .ipv6BridgeNetworkCreate), ("NetworkIpamV4", .networkIpamV4),
    ("NetworkIpamV6", .networkIpamV6), ("NetworkIpamGateway", .networkIpamGateway),
    ("NetworkIpamRange", .networkIpamRange), ("NetworkIpamAuxiliary", .networkIpamAuxiliary),
    ("NetworkIpamDefaultDriver", .networkIpamDefaultDriver),
    ("NetworkBridgeMtu", .networkBridgeMtu), ("NetworkBridgeIcc", .networkBridgeIcc),
    ("NetworkBridgeIccDisabled", .networkBridgeIccDisabled),
    ("NetworkBridgeMasquerade", .networkBridgeMasquerade),
    ("NetworkBridgeMasqueradeEnabled", .networkBridgeMasqueradeEnabled),
    ("NetworkBridgeHostBindingIp", .networkBridgeHostBindingIp),
    ("NetworkCreateLabels", .networkCreateLabels),
    ("NetworkPrimaryAliases", .networkPrimaryAliases),
    ("NetworkSecondaryAliases", .networkSecondaryAliases),
    ("NetworkStaticIpv4", .networkStaticIpv4), ("NetworkStaticIpv6", .networkStaticIpv6),
    ("NetworkSecondaryConnect", .networkSecondaryConnect), ("FixedTcpPort", .fixedTcpPort),
    ("FixedUdpPort", .fixedUdpPort), ("ExposedOnlyPort", .exposedOnlyPort),
    ("FixedIpv4HostPort", .fixedIpv4HostPort), ("EphemeralIpv4HostPort", .ephemeralIpv4HostPort),
    ("FixedIpv6HostPort", .fixedIpv6HostPort), ("EphemeralIpv6HostPort", .ephemeralIpv6HostPort),
    ("MultipleFixedPortBindings", .multipleFixedPortBindings),
    ("MultipleEphemeralPortBindings", .multipleEphemeralPortBindings),
    ("EphemeralHostPort", .ephemeralHostPort), ("BindMountReadWrite", .bindMountReadWrite),
    ("BindMountReadOnly", .bindMountReadOnly),
    ("BindMountSharedRelabelReadWrite", .bindMountSharedRelabelReadWrite),
    ("BindMountSharedRelabelReadOnly", .bindMountSharedRelabelReadOnly),
    ("BindMountPrivateRelabelReadWrite", .bindMountPrivateRelabelReadWrite),
    ("BindMountPrivateRelabelReadOnly", .bindMountPrivateRelabelReadOnly),
    ("TmpfsMountReadWrite", .tmpfsMountReadWrite), ("TmpfsMountReadOnly", .tmpfsMountReadOnly),
    ("TmpfsMountOptions", .tmpfsMountOptions), ("EnvironmentValue", .environmentValue),
    ("EnvironmentEmptyValue", .environmentEmptyValue), ("ExecCommand", .execCommand),
    ("ClearCommand", .clearCommand), ("ExecEntrypoint", .execEntrypoint),
    ("ClearEntrypoint", .clearEntrypoint), ("ExecHealthcheck", .execHealthcheck),
    ("ShellHealthcheck", .shellHealthcheck), ("DisabledHealthcheck", .disabledHealthcheck),
    ("HealthStartPeriodZero", .healthStartPeriodZero),
    ("HealthStartPeriodPositive", .healthStartPeriodPositive),
    ("HealthStartIntervalZero", .healthStartIntervalZero),
    ("HealthStartIntervalPositive", .healthStartIntervalPositive),
    ("ContainerCreateLabels", .containerCreateLabels), ("ContainerUser", .containerUser),
    ("ContainerWorkdir", .containerWorkdir), ("ContainerHostname", .containerHostname),
    ("ReadOnlyRootfsTrue", .readOnlyRootfsTrue), ("ReadOnlyRootfsFalse", .readOnlyRootfsFalse),
    ("ContainerInitTrue", .containerInitTrue), ("ContainerInitFalse", .containerInitFalse),
    ("StopSignal", .stopSignal), ("StopTimeoutZero", .stopTimeoutZero),
    ("StopTimeoutPositive", .stopTimeoutPositive), ("MemoryBytes", .memoryBytes),
    ("MemoryUnlimited", .memoryUnlimited), ("PidsCount", .pidsCount),
    ("PidsUnlimited", .pidsUnlimited), ("ShmSize", .shmSize), ("UlimitsFinite", .ulimitsFinite),
    ("UlimitsUnlimited", .ulimitsUnlimited), ("UlimitNofile", .ulimitNofile),
    ("DeviceMappings", .deviceMappings), ("LinuxCapAdd", .linuxCapAdd),
    ("LinuxCapDrop", .linuxCapDrop), ("CapAddNetBindService", .capAddNetBindService),
    ("CapDropSysAdmin", .capDropSysAdmin), ("NoNewPrivilegesEnabled", .noNewPrivilegesEnabled),
    ("NoNewPrivilegesDisabled", .noNewPrivilegesDisabled), ("Sysctls", .sysctls),
    ("SysctlIpv4Forward", .sysctlIpv4Forward), ("SupplementaryGroups", .supplementaryGroups),
    ("DnsIpv4", .dnsIpv4), ("DnsIpv6", .dnsIpv6), ("ExtraHostsIpv4", .extraHostsIpv4),
    ("ExtraHostsIpv6", .extraHostsIpv6), ("LogJsonFile", .logJsonFile), ("LogLocal", .logLocal),
    ("LogNone", .logNone), ("LogOptions", .logOptions), ("LogOptionMaxSize", .logOptionMaxSize),
    ("RestartNo", .restartNo), ("RestartAlways", .restartAlways),
    ("RestartUnlessStopped", .restartUnlessStopped),
    ("RestartOnFailureUnlimited", .restartOnFailureUnlimited),
    ("RestartOnFailureLimited", .restartOnFailureLimited)]

def capability (name : String) : Panics Capability := expect (capabilityNames.lookup name)

def nativeShape (name : String) : Panics NativeCapabilityShape := expect (shapeNames.lookup name)

/-- Indexing a JSON value, which is null at an absent member. -/
def index (value : Value) (name : String) : Value := (value.get name).getD .null

/-- A member that has to be a text. -/
def required (value : Value) (name : String) : Panics String := expect (index value name).asStr

/-- An API version as `major.minor`. -/
def api (value : String) : Panics ApiVersion := do
  let (major, minor) ← expect (splitOnce '.' value.toList)
  let major ← expect (parseUnsigned 10 65535 major)
  let minor ← expect (parseUnsigned 10 65535 minor)
  expect (ApiVersion.new? major minor)

/-- `as_chunks::<2>().0`. -/
def chunks2 : Bytes → List Bytes
  | first :: second :: rest => [first, second] :: chunks2 rest
  | _ => []

/-- `u8::from_str_radix` of two bytes. -/
def hexByte (pair : Bytes) : Panics UInt8 := do
  let text ← expect (fromUtf8 pair)
  let value ← expect (parseUnsigned 16 255 text.toList)
  .ok (UInt8.ofNat value)

/-- A key from 64 hexadecimal digits. -/
def digest (value : String) : Panics CapabilityEvidenceKey := do
  assert ((asBytes value).length = 64)
  let bytes ← (chunks2 (asBytes value)).mapM hexByte
  expectOk (CapabilityEvidenceKey.sha256 bytes)

/-- The lanes whose records name a package. -/
def isDebian : NativeEvidenceLane → Bool
  | .debian11Rootful | .debian11Rootless => true
  | .upstreamRootful | .upstreamRootless => false

/-- The build of an identity, which is that of the lane. -/
def readBuild (lane : NativeEvidenceLane) (identity : Value) : Panics EngineBuild := do
  let build := index identity "build"
  if isDebian lane then
    assert ((index build "kind").asStr = some "debian-package")
    assert ((index build "distribution").asStr = some "debian11")
    assert ((index build "package_name").asStr = some "docker.io")
    let revision ← required build "package_revision"
    let revision ← expectOk (DebianPackageRevision.new revision)
    .ok (.debianPackage revision)
  else
    assert ((index build "kind").asStr = some "upstream")
    .ok .upstream

def readMode (mode : String) : Panics DaemonMode :=
  if mode = "rootful" then .ok .rootful
  else if mode = "rootless" then .ok .rootless
  else .error .panicked

/-- The identity of a record. -/
def readIdentity (lane : NativeEvidenceLane) (identity : Value) :
    Panics TargetProfileIdentity := do
  let build ← readBuild lane identity
  let mode ← required identity "mode"
  let mode ← readMode mode
  let release ← required identity "engine_release"
  let release ← expect (EngineRelease.new release)
  let advertised ← required identity "advertised_api"
  let advertised ← api advertised
  let acquisition ← required identity "acquisition_api"
  let acquisition ← api acquisition
  let rendering ← required identity "rendering_api"
  let rendering ← api rendering
  expectOk (TargetProfileIdentity.new build release advertised acquisition rendering mode)

/-- What stands before the capabilities of a record: its profile and its evidence. -/
def readHead (lane : NativeEvidenceLane) (recordHash : String) (data : Value) :
    Panics (TargetProfile × NativeEvidenceReference) := do
  assert ((index data "schema_version").asI64 = some 1)
  assert ((index data "candidate_sha").asStr = some sourceCandidate)
  assert ((index data "run_url").asStr = some sourceRun)
  assert ((index data "native_manifest_artifact_name").asStr = some lane.artifactName)
  let name ← required data "lane"
  assert ("dockerlens-native-" ++ name = lane.artifactName)
  let identity ← readIdentity lane (index data "identity")
  let recordKey ← digest recordHash
  let manifest ← required data "native_manifest_sha256"
  let manifestKey ← digest manifest
  let evidence ← expectOk (NativeEvidenceReference.new lane sourceRun sourceCandidate
    lane.artifactName manifestKey recordKey)
  .ok (⟨identity, recordKey⟩, evidence)

/-- `HashSet` equality of the elements of two lists. -/
def sameSet {α : Type} [DecidableEq α] (left right : List α) : Bool :=
  left.all (· ∈ right) && right.all (· ∈ left)

def readShape (value : Value) : Panics NativeCapabilityShape := do
  let name ← expect value.asStr
  nativeShape name

/-- One turn of the loop over the capabilities: the capability and its shapes. -/
def readEntry (entry : Value) : Panics (Capability × List NativeCapabilityShape) := do
  assert ((index entry "state").asStr = some "available")
  let name ← required entry "name"
  let name ← capability name
  let values ← expect (index entry "admitted_shapes").asArray
  let shapes ← values.mapM readShape
  let required ← expect (NativeCapabilityShape.requiredFor name)
  assert (shapes.length = required.length)
  assert (sameSet shapes required = true)
  .ok (name, shapes)

/-- The facts and the shapes that the capabilities of a record add up to. -/
def readCapabilities (lane : NativeEvidenceLane) (capabilities : List Value) :
    Panics (List TargetCapabilityFact × List NativeCapabilityShape) := do
  let (expectedCapabilities, expectedShapes) := expectedAdmission lane
  assert (capabilities.length = expectedCapabilities.length)
  let entries ← capabilities.mapM readEntry
  let facts := entries.map fun entry => ⟨entry.1, .available⟩
  let shapes := entries.flatMap Prod.snd
  assert (sameSet (facts.map TargetCapabilityFact.capability) expectedCapabilities = true)
  assert (shapes.length = expectedShapes.length)
  assert (sameSet shapes expectedShapes = true)
  .ok (facts, shapes)

def recordOf (lane : NativeEvidenceLane) (recordHash : String) (data : Value) :
    Panics TargetCapabilityRecord := do
  let (profile, evidence) ← readHead lane recordHash data
  let capabilities ← expect (index data "capabilities").asArray
  let (facts, shapes) ← readCapabilities lane capabilities
  .ok ⟨profile, evidence, facts, shapes⟩

/-- `reviewed_catalog::record`, of a lane, the hash of a record and its text, for any
`serde_json::from_str`. -/
def record (fromStr : String → Option Value) (lane : NativeEvidenceLane)
    (recordHash source : String) : Panics TargetCapabilityRecord := do
  let data ← expect (fromStr source)
  recordOf lane recordHash data

end DockerLens.ReviewedCatalog
