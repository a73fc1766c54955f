import DockerLens.Version

namespace DockerLens.Version

/-- The renderer branches that a positive catalog fact must cover. -/
inductive NativeCapabilityShape
  | standaloneCreate
  | namedVolumeCreate
  | volumeCreateLabels
  | namedVolumeMountReadWrite
  | namedVolumeMountReadOnly
  | externalVolumeReference
  | bridgeNetworkCreate
  | bridgeNetworkAttach
  | externalNetworkReference
  | externalNetworkInternalFalse
  | externalNetworkInternalTrue
  | internalBridgeNetworkCreate
  | ipv6BridgeNetworkCreate
  | networkIpamV4
  | networkIpamV6
  | networkIpamGateway
  | networkIpamRange
  | networkIpamAuxiliary
  | networkIpamDefaultDriver
  | networkBridgeMtu
  | networkBridgeIcc
  | networkBridgeIccDisabled
  | networkBridgeMasquerade
  | networkBridgeMasqueradeEnabled
  | networkBridgeHostBindingIp
  | networkCreateLabels
  | networkPrimaryAliases
  | networkSecondaryAliases
  | networkStaticIpv4
  | networkStaticIpv6
  | networkSecondaryConnect
  | fixedTcpPort
  | fixedUdpPort
  | exposedOnlyPort
  | fixedIpv4HostPort
  | ephemeralIpv4HostPort
  | fixedIpv6HostPort
  | ephemeralIpv6HostPort
  | multipleFixedPortBindings
  | multipleEphemeralPortBindings
  | ephemeralHostPort
  | bindMountReadWrite
  | bindMountReadOnly
  | bindMountSharedRelabelReadWrite
  | bindMountSharedRelabelReadOnly
  | bindMountPrivateRelabelReadWrite
  | bindMountPrivateRelabelReadOnly
  | tmpfsMountReadWrite
  | tmpfsMountReadOnly
  | tmpfsMountOptions
  | environmentValue
  | environmentEmptyValue
  | execCommand
  | clearCommand
  | execEntrypoint
  | clearEntrypoint
  | execHealthcheck
  | shellHealthcheck
  | disabledHealthcheck
  | healthStartPeriodZero
  | healthStartPeriodPositive
  | healthStartIntervalZero
  | healthStartIntervalPositive
  | containerCreateLabels
  | containerUser
  | containerWorkdir
  | containerHostname
  | readOnlyRootfsTrue
  | readOnlyRootfsFalse
  | containerInitTrue
  | containerInitFalse
  | stopSignal
  | stopTimeoutZero
  | stopTimeoutPositive
  | memoryBytes
  | memoryUnlimited
  | pidsCount
  | pidsUnlimited
  | shmSize
  | ulimitsFinite
  | ulimitsUnlimited
  | ulimitNofile
  | deviceMappings
  | linuxCapAdd
  | linuxCapDrop
  | capAddNetBindService
  | capDropSysAdmin
  | noNewPrivilegesEnabled
  | noNewPrivilegesDisabled
  | sysctls
  | sysctlIpv4Forward
  | supplementaryGroups
  | dnsIpv4
  | dnsIpv6
  | extraHostsIpv4
  | extraHostsIpv6
  | logJsonFile
  | logLocal
  | logNone
  | logOptions
  | logOptionMaxSize
  | restartNo
  | restartAlways
  | restartUnlessStopped
  | restartOnFailureUnlimited
  | restartOnFailureLimited
  deriving DecidableEq, Repr

namespace NativeCapabilityShape

/-- The capability that a shape is evidence for. -/
def capability : NativeCapabilityShape → Capability
  | .standaloneCreate => .standaloneContainer
  | .namedVolumeCreate | .namedVolumeMountReadWrite | .namedVolumeMountReadOnly => .namedVolume
  | .volumeCreateLabels => .volumeLabels
  | .externalVolumeReference => .volumeExternalReference
  | .bridgeNetworkCreate | .bridgeNetworkAttach => .bridgeNetwork
  | .externalNetworkReference => .networkExternalReference
  | .externalNetworkInternalFalse | .externalNetworkInternalTrue =>
      .networkExternalInternalExpectation
  | .internalBridgeNetworkCreate => .networkInternal
  | .ipv6BridgeNetworkCreate => .networkIpv6
  | .networkIpamV4 | .networkIpamV6 | .networkIpamGateway | .networkIpamRange
  | .networkIpamAuxiliary => .networkIpam
  | .networkIpamDefaultDriver => .networkIpamDriver
  | .networkBridgeMtu | .networkBridgeIcc | .networkBridgeIccDisabled
  | .networkBridgeMasquerade | .networkBridgeMasqueradeEnabled | .networkBridgeHostBindingIp =>
      .networkOptions
  | .networkCreateLabels => .networkLabels
  | .networkPrimaryAliases | .networkSecondaryAliases => .networkAliases
  | .networkStaticIpv4 | .networkStaticIpv6 => .networkStaticAddress
  | .networkSecondaryConnect => .networkMultipleAttachment
  | .fixedTcpPort | .fixedUdpPort => .portPublish
  | .exposedOnlyPort => .portExposeOnly
  | .fixedIpv4HostPort | .ephemeralIpv4HostPort => .portHostIpv4
  | .fixedIpv6HostPort | .ephemeralIpv6HostPort => .portHostIpv6
  | .multipleFixedPortBindings | .multipleEphemeralPortBindings => .portMultipleBindings
  | .ephemeralHostPort => .portEphemeral
  | .bindMountReadWrite | .bindMountReadOnly => .bindMount
  | .bindMountSharedRelabelReadWrite | .bindMountSharedRelabelReadOnly => .bindRelabelShared
  | .bindMountPrivateRelabelReadWrite | .bindMountPrivateRelabelReadOnly => .bindRelabelPrivate
  | .tmpfsMountReadWrite | .tmpfsMountReadOnly | .tmpfsMountOptions => .tmpfsMount
  | .environmentValue | .environmentEmptyValue => .environmentAssignment
  | .execCommand => .command
  | .clearCommand => .commandClear
  | .execEntrypoint => .entrypoint
  | .clearEntrypoint => .entrypointClear
  | .execHealthcheck => .healthcheck
  | .shellHealthcheck => .healthShell
  | .disabledHealthcheck => .healthDisabled
  | .healthStartPeriodZero | .healthStartPeriodPositive => .healthStartPeriod
  | .healthStartIntervalZero | .healthStartIntervalPositive => .healthStartInterval
  | .containerCreateLabels => .containerLabels
  | .containerUser => .containerUser
  | .containerWorkdir => .containerWorkdir
  | .containerHostname => .containerHostname
  | .readOnlyRootfsTrue | .readOnlyRootfsFalse => .readOnlyRootfs
  | .containerInitTrue | .containerInitFalse => .containerInit
  | .stopSignal => .stopSignal
  | .stopTimeoutZero | .stopTimeoutPositive => .stopTimeout
  | .memoryBytes | .memoryUnlimited => .memoryLimit
  | .pidsCount | .pidsUnlimited => .pidsLimit
  | .shmSize => .shmSize
  | .ulimitsFinite | .ulimitsUnlimited => .ulimits
  | .ulimitNofile => .ulimitNofile
  | .deviceMappings => .deviceMappings
  | .linuxCapAdd | .linuxCapDrop => .linuxCapabilities
  | .capAddNetBindService => .capAddNetBindService
  | .capDropSysAdmin => .capDropSysAdmin
  | .noNewPrivilegesEnabled | .noNewPrivilegesDisabled => .securityOptions
  | .sysctls => .sysctls
  | .sysctlIpv4Forward => .sysctlIpv4Forward
  | .supplementaryGroups => .supplementaryGroups
  | .dnsIpv4 | .dnsIpv6 => .dnsServers
  | .extraHostsIpv4 | .extraHostsIpv6 => .extraHosts
  | .logJsonFile | .logLocal | .logNone | .logOptions => .logConfig
  | .logOptionMaxSize => .logOptionMaxSize
  | .restartNo | .restartAlways | .restartUnlessStopped | .restartOnFailureUnlimited
  | .restartOnFailureLimited => .restartPolicy

/-- The shapes without which a capability is not admitted. -/
def requiredFor : Capability → Option (List NativeCapabilityShape)
  | .standaloneContainer => some [.standaloneCreate]
  | .namedVolume => some [.namedVolumeCreate, .namedVolumeMountReadWrite, .namedVolumeMountReadOnly]
  | .volumeLabels => some [.volumeCreateLabels]
  | .volumeExternalReference => some [.externalVolumeReference]
  | .bridgeNetwork => some [.bridgeNetworkCreate, .bridgeNetworkAttach]
  | .networkExternalReference => some [.externalNetworkReference]
  | .networkExternalInternalExpectation =>
      some [.externalNetworkInternalFalse, .externalNetworkInternalTrue]
  | .networkInternal => some [.internalBridgeNetworkCreate]
  | .networkIpv6 => some [.ipv6BridgeNetworkCreate]
  | .networkIpam =>
      some [.networkIpamV4, .networkIpamV6, .networkIpamGateway, .networkIpamRange,
        .networkIpamAuxiliary]
  | .networkIpamDriver => some [.networkIpamDefaultDriver]
  | .networkOptions =>
      some [.networkBridgeMtu, .networkBridgeIcc, .networkBridgeIccDisabled,
        .networkBridgeMasquerade, .networkBridgeMasqueradeEnabled, .networkBridgeHostBindingIp]
  | .networkLabels => some [.networkCreateLabels]
  | .networkAliases => some [.networkPrimaryAliases, .networkSecondaryAliases]
  | .networkStaticAddress => some [.networkStaticIpv4, .networkStaticIpv6]
  | .networkMultipleAttachment => some [.networkSecondaryConnect]
  | .portPublish => some [.fixedTcpPort, .fixedUdpPort]
  | .portExposeOnly => some [.exposedOnlyPort]
  | .portHostIpv4 => some [.fixedIpv4HostPort, .ephemeralIpv4HostPort]
  | .portHostIpv6 => some [.fixedIpv6HostPort, .ephemeralIpv6HostPort]
  | .portMultipleBindings => some [.multipleFixedPortBindings, .multipleEphemeralPortBindings]
  | .portEphemeral => some [.ephemeralHostPort]
  | .bindMount => some [.bindMountReadWrite, .bindMountReadOnly]
  | .bindRelabelShared => some [.bindMountSharedRelabelReadWrite, .bindMountSharedRelabelReadOnly]
  | .bindRelabelPrivate =>
      some [.bindMountPrivateRelabelReadWrite, .bindMountPrivateRelabelReadOnly]
  | .tmpfsMount => some [.tmpfsMountReadWrite, .tmpfsMountReadOnly, .tmpfsMountOptions]
  | .environmentAssignment => some [.environmentValue, .environmentEmptyValue]
  | .command => some [.execCommand]
  | .commandClear => some [.clearCommand]
  | .entrypoint => some [.execEntrypoint]
  | .entrypointClear => some [.clearEntrypoint]
  | .healthcheck => some [.execHealthcheck]
  | .healthShell => some [.shellHealthcheck]
  | .healthDisabled => some [.disabledHealthcheck]
  | .healthStartPeriod => some [.healthStartPeriodZero, .healthStartPeriodPositive]
  | .healthStartInterval => some [.healthStartIntervalZero, .healthStartIntervalPositive]
  | .containerLabels => some [.containerCreateLabels]
  | .containerUser => some [.containerUser]
  | .containerWorkdir => some [.containerWorkdir]
  | .containerHostname => some [.containerHostname]
  | .readOnlyRootfs => some [.readOnlyRootfsTrue, .readOnlyRootfsFalse]
  | .containerInit => some [.containerInitTrue, .containerInitFalse]
  | .stopSignal => some [.stopSignal]
  | .stopTimeout => some [.stopTimeoutZero, .stopTimeoutPositive]
  | .memoryLimit => some [.memoryBytes, .memoryUnlimited]
  | .pidsLimit => some [.pidsCount, .pidsUnlimited]
  | .shmSize => some [.shmSize]
  | .ulimits => some [.ulimitsFinite, .ulimitsUnlimited]
  | .ulimitNofile => some [.ulimitNofile]
  | .deviceMappings => some [.deviceMappings]
  | .linuxCapabilities => some [.linuxCapAdd, .linuxCapDrop]
  | .capAddNetBindService => some [.capAddNetBindService]
  | .capDropSysAdmin => some [.capDropSysAdmin]
  | .securityOptions => some [.noNewPrivilegesEnabled, .noNewPrivilegesDisabled]
  | .sysctls => some [.sysctls]
  | .sysctlIpv4Forward => some [.sysctlIpv4Forward]
  | .supplementaryGroups => some [.supplementaryGroups]
  | .dnsServers => some [.dnsIpv4, .dnsIpv6]
  | .extraHosts => some [.extraHostsIpv4, .extraHostsIpv6]
  | .logConfig => some [.logJsonFile, .logLocal, .logNone, .logOptions]
  | .logOptionMaxSize => some [.logOptionMaxSize]
  | .restartPolicy =>
      some [.restartNo, .restartAlways, .restartUnlessStopped, .restartOnFailureUnlimited,
        .restartOnFailureLimited]
  | .hostNetwork | .userNamespace => none

theorem mem_requiredFor (shape : NativeCapabilityShape) :
    ∃ required, requiredFor shape.capability = some required ∧ shape ∈ required := by
  cases shape <;> exact ⟨_, rfl, by decide⟩

theorem requiredFor_eq_some {capability : Capability} {required : List NativeCapabilityShape}
    (h : requiredFor capability = some required) :
    required.Nodup ∧ ∀ shape ∈ required, shape.capability = capability := by
  have hall : ∀ required ∈ requiredFor capability,
      required.Nodup ∧ ∀ shape ∈ required, shape.capability = capability := by
    cases capability <;> decide
  exact hall required h

theorem mem_iff_of_requiredFor {capability : Capability} {required : List NativeCapabilityShape}
    (h : requiredFor capability = some required) {shape : NativeCapabilityShape} :
    shape ∈ required ↔ shape.capability = capability := by
  constructor
  · exact (requiredFor_eq_some h).2 shape
  · rintro rfl
    obtain ⟨found, hfound, hmem⟩ := mem_requiredFor shape
    rw [h] at hfound
    rwa [Option.some.inj hfound]

end NativeCapabilityShape

end DockerLens.Version
