import DockerLens.Target.Planned

namespace DockerLens.Target

open DockerLens.Observation
open DockerLens.Version
open DockerLens.Fold

/-- A gate that is open. -/
def Gate.Opens (supports : Capability → Bool) : Gate → Prop
  | .require _ capability => supports capability = true
  | .unsupportedIpam => False
  | .restrictedPort => False

theorem pass_eq_ok_iff {capabilities : PlanningCapabilitySet} {reference : ResourceRef}
    {gate : Gate} :
    pass capabilities reference gate = .ok () ↔ gate.Opens capabilities.supports := by
  cases gate with
  | require field capability => simp only [pass, ensure_eq_ok_iff, Gate.Opens]
  | unsupportedIpam => simp [pass, Gate.Opens]
  | restrictedPort => simp [pass, Gate.Opens]

theorem checkGates_eq_ok_iff {capabilities : PlanningCapabilitySet} {resource : TargetResource} :
    checkGates capabilities resource = .ok () ↔
      ∀ gate ∈ gates capabilities.context.mode resource, gate.Opens capabilities.supports := by
  rw [checkGates]
  simp only [forM_eq_ok_iff, pass_eq_ok_iff]

theorem forall_mem_gateIf {condition : Bool} {gate : Gate} {P : Gate → Prop} :
    (∀ found ∈ gateIf condition gate, P found) ↔ (condition = true → P gate) := by
  cases condition <;> simp [gateIf]

section Gated

variable (supports : Capability → Bool)

/-- Each setting of a container has a capability of its own. -/
structure SettingsGated (settings : ContainerSettings) : Prop where
  labels : settings.labels ≠ [] → supports .containerLabels
  user : settings.user.isSome → supports .containerUser
  workingDir : settings.workingDir.isSome → supports .containerWorkdir
  hostname : settings.hostname.isSome → supports .containerHostname
  readOnlyRootfs : settings.readOnlyRootfs.isSome → supports .readOnlyRootfs
  init : settings.init.isSome → supports .containerInit
  stopSignal : settings.stopSignal.isSome → supports .stopSignal
  stopTimeout : settings.stopTimeoutSeconds.isSome → supports .stopTimeout
  memoryLimit : settings.memoryLimit.isSome → supports .memoryLimit
  pidsLimit : settings.pidsLimit.isSome → supports .pidsLimit
  shmSize : settings.shmSizeBytes.isSome → supports .shmSize
  ulimits : settings.ulimits ≠ [] → supports .ulimits
  ulimitNofile : settings.ulimits ≠ [] → supports .ulimitNofile
  devices : settings.devices ≠ [] → supports .deviceMappings
  linuxCapabilities : settings.capAdd ≠ [] ∨ settings.capDrop ≠ [] → supports .linuxCapabilities
  capAdd : settings.capAdd ≠ [] → supports .capAddNetBindService
  capDrop : settings.capDrop ≠ [] → supports .capDropSysAdmin
  securityOptions : settings.securityOptions ≠ [] → supports .securityOptions
  sysctls : settings.sysctls ≠ [] → supports .sysctls
  sysctlIpv4Forward : settings.sysctls ≠ [] → supports .sysctlIpv4Forward
  groupAdd : settings.groupAdd ≠ [] → supports .supplementaryGroups
  dns : settings.dns ≠ [] → supports .dnsServers
  extraHosts : settings.extraHosts ≠ [] → supports .extraHosts
  logConfig : settings.logConfig.isSome → supports .logConfig
  logOptionMaxSize : settings.logConfig.any (!·.options.isEmpty) → supports .logOptionMaxSize
  usernsMode : settings.usernsMode.isSome → supports .userNamespace

/-- Each part of a container has a capability of its own. -/
structure ContainerGated (container : ContainerIntent) : Prop where
  resource : supports .standaloneContainer
  ports : ∀ port ∈ container.ports, ∀ gate ∈ portGates port, gate.Opens supports
  mounts : ∀ mount ∈ container.mounts, ∀ gate ∈ mountGates mount, gate.Opens supports
  network : container.networks ≠ [] → supports .bridgeNetwork
  multiple : 1 < container.networks.length → supports .networkMultipleAttachment
  attachments : ∀ attachment ∈ container.networks,
    ∀ gate ∈ attachmentGates attachment, gate.Opens supports
  environment : container.environment ≠ [] → supports .environmentAssignment
  command : ∀ gate ∈ commandGates container.command, gate.Opens supports
  entrypoint : ∀ gate ∈ entrypointGates container.entrypoint, gate.Opens supports
  healthcheck : ∀ health ∈ container.healthcheck,
    ∀ gate ∈ healthGates health, gate.Opens supports
  restart : container.restart.isSome → supports .restartPolicy
  settings : SettingsGated supports container.settings

variable {supports}

theorem settingsGated {settings : ContainerSettings}
    (h : ∀ gate ∈ settingsGates settings, gate.Opens supports) :
    SettingsGated supports settings := by
  unfold settingsGates at h
  simp only [List.forall_mem_append, forall_mem_gateIf, Gate.Opens, and_assoc,
    Bool.not_eq_true', List.isEmpty_eq_false_iff, Bool.or_eq_true] at h
  obtain ⟨labels, user, workingDir, hostname, readOnlyRootfs, init, stopSignal, stopTimeout,
    memoryLimit, pidsLimit, shmSize, ulimits, ulimitNofile, devices, linuxCapabilities, capAdd,
    capDrop, securityOptions, sysctls, sysctlIpv4Forward, groupAdd, dns, extraHosts, logConfig,
    logOptionMaxSize, usernsMode⟩ := h
  exact ⟨labels, user, workingDir, hostname, readOnlyRootfs, init, stopSignal, stopTimeout,
    memoryLimit, pidsLimit, shmSize, ulimits, ulimitNofile, devices, linuxCapabilities, capAdd,
    capDrop, securityOptions, sysctls, sysctlIpv4Forward, groupAdd, dns, extraHosts, logConfig,
    logOptionMaxSize, usernsMode⟩

theorem containerGated {mode : DaemonMode} {container : ContainerIntent}
    (h : ∀ gate ∈ containerGates mode container, gate.Opens supports) :
    ContainerGated supports container := by
  unfold containerGates at h
  simp only [List.forall_mem_append, forall_mem_gateIf, List.forall_mem_flatMap,
    List.forall_mem_singleton, and_assoc] at h
  obtain ⟨resource, -, ports, mounts, network, multiple, attachments, environment, command,
    entrypoint, healthcheck, restart, settings⟩ := h
  refine ⟨resource, ports, mounts, ?_, ?_, attachments, ?_, command, entrypoint, ?_, restart,
    settingsGated settings⟩
  · intro hne
    exact network (by simpa using hne)
  · intro hlength
    exact multiple (by simpa using hlength)
  · intro hne
    exact environment (by simpa using hne)
  · intro health hhealth
    exact healthcheck health (Option.mem_toList.mpr hhealth)

end Gated

section Monotone

variable {intent : TargetIntent} {capabilities capabilities' : PlanningCapabilitySet}
  {nodes : List OperationNode}

theorem Gate.Opens.mono {supports supports' : Capability → Bool}
    (hle : ∀ capability, supports capability = true → supports' capability = true) {gate : Gate}
    (h : gate.Opens supports) : gate.Opens supports' := by
  cases gate with
  | require field capability => exact hle capability h
  | unsupportedIpam => exact h
  | restrictedPort => exact h

theorem Planned.mono (h : Planned intent capabilities nodes)
    (hapi : capabilities'.context.api = capabilities.context.api)
    (hmode : capabilities'.context.mode = capabilities.context.mode)
    (hle : ∀ capability, capabilities.supports capability = true →
      capabilities'.supports capability = true) :
    Planned intent capabilities' nodes := by
  refine ⟨h.length, h.references, h.matched, h.dependencies, h.required, h.linear,
    hapi ▸ h.api, ?_⟩
  intro resource hresource
  have hopen := checkGates_eq_ok_iff.mp (h.gated resource hresource)
  rw [checkGates_eq_ok_iff, hmode]
  exact fun gate hgate => (hopen gate hgate).mono hle

theorem OperationGraph.build_congr (hcontext : capabilities'.context = capabilities.context) :
    OperationGraph.build intent capabilities' nodes =
      OperationGraph.build intent capabilities nodes := by
  rw [OperationGraph.build, OperationGraph.build, hcontext]

end Monotone

end DockerLens.Target
