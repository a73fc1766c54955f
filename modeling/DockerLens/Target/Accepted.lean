import DockerLens.Collect
import DockerLens.Target.Intent

namespace DockerLens.Target

open DockerLens.Text
open DockerLens.Observation
open DockerLens.Fold
open DockerLens.Collect

theorem insertNew_eq_ok_iff {κ : Type} [DecidableEq κ] {error : IntentError} {seen next : List κ}
    {key : κ} :
    insertNew error seen key = .ok next ↔
      (∀ earlier ∈ seen, earlier ≠ key) ∧ next = seen ++ [key] := by
  have hmem : (∀ earlier ∈ seen, earlier ≠ key) ↔ key ∉ seen :=
    ⟨fun h hkey => h key hkey rfl, fun h _ hearlier heq => h (heq ▸ hearlier)⟩
  rw [insertNew, hmem]
  split
  · next h => simp [h]
  · next h => simp [h, eq_comm]

theorem ne_symmetric {κ : Type} (x y : κ) (h : x ≠ y) : y ≠ x := h.symm

theorem find_reference_eq_some_iff {resources : List TargetResource}
    (hnodup : (resources.map TargetResource.reference).Nodup) {reference : ResourceRef}
    {resource : TargetResource} :
    resources.find? (·.reference == reference) = some resource ↔
      resource ∈ resources ∧ resource.reference = reference :=
  find_key_eq_some_iff hnodup

theorem attachedSource_eq_some_iff {resources : List TargetResource}
    (hnodup : (resources.map TargetResource.reference).Nodup)
    {attachment : NetworkAttachmentIntent} {source : NetworkSource} :
    attachedSource resources attachment = some source ↔
      ∃ network, .network network ∈ resources ∧ network.reference = attachment.network ∧
        network.source = source := by
  rw [attachedSource]
  constructor
  · intro h
    split at h
    · next network hfind =>
        obtain ⟨hmem, hreference⟩ := (find_reference_eq_some_iff hnodup).mp hfind
        exact ⟨network, hmem, hreference, by simpa using h⟩
    · cases h
  · rintro ⟨network, hmem, hreference, rfl⟩
    rw [(find_reference_eq_some_iff hnodup).mpr ⟨hmem, hreference⟩]

/-- What the first pass asks of one resource. -/
def LabelsAccepted : TargetResource → Prop
  | .volume _ _ labels =>
      labels.length ≤ maxVolumeLabelCount ∧
        (labels.map fun label => label.key.length + label.value.length).sum ≤
          maxVolumeLabelTotalBytes ∧
        (labels.map CheckedPair.key).Nodup
  | _ => True

/-- One entry for a default network. -/
def defaultEntries : TargetResource → List Unit
  | .network network => if network.role = .applicationDefault then [()] else []
  | _ => []

/-- What two resources may not have in common. -/
def TargetResource.name (resource : TargetResource) : TargetKind × Bytes :=
  (resource.kind, resource.identity.bytes)

/-- The default network, as a list of at most one. -/
def Taken.defaults (taken : Taken) : List Unit := if taken.defaultNetwork then [()] else []

/-- No two entries are allowed. -/
def Single (_ _ : Unit) : Prop := False

theorem checkDefaultNetwork_eq_ok_iff {taken : Taken} {resource : TargetResource} {next : Bool} :
    checkDefaultNetwork taken resource = .ok next ↔
      (taken.defaults ++ defaultEntries resource).Pairwise Single ∧
        (if next then [()] else []) = taken.defaults ++ defaultEntries resource := by
  cases resource with
  | network network =>
      rw [checkDefaultNetwork]
      simp only [defaultEntries, Taken.defaults]
      cases taken.defaultNetwork <;> cases next <;> split <;>
        simp_all [bind_eq_ok_iff, Single]
  | _ =>
      simp only [checkDefaultNetwork, defaultEntries, Taken.defaults]
      cases taken.defaultNetwork <;> cases next <;> simp

theorem checkIdentity_eq_ok_iff {taken next : Taken} {resource : TargetResource} :
    checkIdentity taken resource = .ok next ↔
      LabelsAccepted resource ∧ (∀ earlier ∈ taken.identities, earlier ≠ resource.name) ∧
        (taken.defaults ++ defaultEntries resource).Pairwise Single ∧
        next.identities = taken.identities ++ [resource.name] ∧
        next.defaults = taken.defaults ++ defaultEntries resource := by
  have hsteps : checkIdentity taken resource = .ok next ↔
      LabelsAccepted resource ∧ ∃ defaultNetwork,
        checkDefaultNetwork taken resource = .ok defaultNetwork ∧
        ∃ identities, insertNew .duplicateResource taken.identities resource.name =
          .ok identities ∧ (⟨identities, defaultNetwork⟩ : Taken) = next := by
    cases resource <;>
      simp [checkIdentity, checkVolumeLabels, LabelsAccepted, bind_eq_ok_iff, and_assoc,
        TargetResource.name]
  simp only [hsteps, checkDefaultNetwork_eq_ok_iff, insertNew_eq_ok_iff]
  constructor
  · rintro ⟨hlabels, defaultNetwork, ⟨hsingle, hdefaults⟩, identities, ⟨hnew, rfl⟩, rfl⟩
    exact ⟨hlabels, hnew, hsingle, rfl, hdefaults⟩
  · rintro ⟨hlabels, hnew, hsingle, hidentities, hdefaults⟩
    exact ⟨hlabels, next.defaultNetwork, ⟨hsingle, hdefaults⟩, next.identities,
      ⟨hnew, hidentities⟩, rfl⟩

theorem checkIdentity_collects :
    Collects checkIdentity (fun taken => both taken.identities taken.defaults)
      (Beside (· ≠ ·) Single) LabelsAccepted
      (fun resource => both [resource.name] (defaultEntries resource)) := by
  apply collects_both ne_symmetric (fun _ _ h => h)
  · intro taken resource hidentities _
    simp only [checkIdentity_eq_ok_iff, List.pairwise_append, List.pairwise_singleton,
      List.mem_singleton, forall_eq, true_and, hidentities]
    constructor
    · rintro ⟨next, hlabels, hnew, hsingle, -, -⟩
      exact ⟨hlabels, hnew, hsingle⟩
    · rintro ⟨hlabels, hnew, hsingle⟩
      have hlength : (taken.defaults ++ defaultEntries resource).length ≤ 1 := by
        rw [← List.pairwise_append] at hsingle
        match hall : taken.defaults ++ defaultEntries resource with
        | [] => simp
        | [_] => simp
        | _ :: _ :: _ =>
            rw [hall] at hsingle
            exact absurd hsingle (by simp [Single])
      refine ⟨⟨taken.identities ++ [resource.name],
        !(taken.defaults ++ defaultEntries resource).isEmpty⟩, hlabels, hnew, hsingle, rfl, ?_⟩
      match hall : taken.defaults ++ defaultEntries resource with
      | [] => simp [Taken.defaults]
      | [()] => simp [Taken.defaults]
      | _ :: _ :: _ => simp [hall] at hlength
  · intro taken resource next hnext
    obtain ⟨-, -, -, hidentities, hdefaults⟩ := checkIdentity_eq_ok_iff.mp hnext
    rw [hidentities, hdefaults]
    exact ⟨.refl _, .refl _⟩

section Networks

def OptionAccepted : BridgeOption → Prop
  | .hostBindingIp address => address.isIpv6 = false
  | _ => True

theorem checkOption_eq_ok_iff (seen : List Nat) (option : BridgeOption) (next : List Nat) :
    checkOption seen option = .ok next ↔
      OptionAccepted option ∧ (∀ earlier ∈ seen, earlier ≠ optionKey option) ∧
        next = seen ++ [optionKey option] := by
  cases option <;>
    simp [checkOption, OptionAccepted, bind_eq_ok_iff, insertNew_eq_ok_iff]

theorem checkAuxiliary_eq_ok_iff {subnet : NetworkSubnet} {reserved next : Reserved}
    {auxiliary : NetworkAuxAddress} :
    checkAuxiliary subnet reserved auxiliary = .ok next ↔
      subnet.containsUsableHost auxiliary.address = true ∧
        (∀ earlier ∈ reserved.names, earlier ≠ auxiliary.name.bytes) ∧
        (∀ earlier ∈ reserved.addresses, earlier ≠ auxiliary.address.value) ∧
        next = ⟨reserved.names ++ [auxiliary.name.bytes],
          reserved.addresses ++ [auxiliary.address.value]⟩ := by
  rw [checkAuxiliary]
  simp only [bind_eq_ok_iff, insertNew_eq_ok_iff, ensure_eq_ok_iff, Except.ok.injEq]
  constructor
  · rintro ⟨names, ⟨hname, rfl⟩, -, husable, addresses, ⟨haddress, rfl⟩, rfl⟩
    exact ⟨husable, hname, haddress, rfl⟩
  · rintro ⟨husable, hname, haddress, rfl⟩
    exact ⟨_, ⟨hname, rfl⟩, (), husable, _, ⟨haddress, rfl⟩, rfl⟩

theorem checkAuxiliary_collects (subnet : NetworkSubnet) :
    Collects (checkAuxiliary subnet) (fun reserved => both reserved.names reserved.addresses)
      (Beside (· ≠ ·) (· ≠ ·)) (fun auxiliary => subnet.containsUsableHost auxiliary.address = true)
      (fun auxiliary => both [auxiliary.name.bytes] [auxiliary.address.value]) := by
  apply collects_both ne_symmetric ne_symmetric
  · intro reserved auxiliary hnames haddresses
    simp [checkAuxiliary_eq_ok_iff, List.pairwise_append, hnames, haddresses]
  · intro reserved auxiliary next hnext
    obtain ⟨-, -, -, rfl⟩ := checkAuxiliary_eq_ok_iff.mp hnext
    exact ⟨.refl _, .refl _⟩

/-- What is asked of one pool. -/
structure PoolAccepted (enableIpv6 : Bool) (pool : NetworkIpamPool) : Prop where
  valid : validPool enableIpv6 pool = true
  names : (pool.auxiliaryAddresses.map fun auxiliary => auxiliary.name.bytes).Nodup
  reserved : (pool.gateway.toList.map NetworkAddress.value ++
    pool.auxiliaryAddresses.map fun auxiliary => auxiliary.address.value).Nodup
  usable : ∀ auxiliary ∈ pool.auxiliaryAddresses,
    pool.subnet.containsUsableHost auxiliary.address = true

theorem overlaps_comm (left right : NetworkSubnet) : left.overlaps right = right.overlaps left :=
  Bool.or_comm _ _

/-- Two subnets that do not overlap. -/
def Disjoint (left right : NetworkSubnet) : Prop := right.overlaps left = false

theorem disjoint_symmetric (left right : NetworkSubnet) (h : Disjoint left right) :
    Disjoint right left := by
  rw [Disjoint, overlaps_comm]
  exact h

theorem checkPool_eq_ok_iff {enableIpv6 : Bool} (earlier : List NetworkSubnet)
    (pool : NetworkIpamPool) (next : List NetworkSubnet) :
    checkPool enableIpv6 earlier pool = .ok next ↔
      PoolAccepted enableIpv6 pool ∧ (∀ subnet ∈ earlier, Disjoint subnet pool.subnet) ∧
        next = earlier ++ [pool.subnet] := by
  have hgateway : (pool.gateway.toList.map NetworkAddress.value).Pairwise (· ≠ ·) := by
    cases pool.gateway <;> simp
  have hauxiliary : (∃ final, pool.auxiliaryAddresses.foldlM (checkAuxiliary pool.subnet)
      ⟨[], pool.gateway.toList.map NetworkAddress.value⟩ = .ok final) ↔ _ :=
    foldlM_both_ok_iff (checkAuxiliary_collects pool.subnet) .nil hgateway
  simp only [List.nil_append, ← List.map_eq_flatMap] at hauxiliary
  have hany : earlier.any pool.subnet.overlaps = false ↔
      ∀ subnet ∈ earlier, Disjoint subnet pool.subnet := by
    simp [Disjoint]
  rw [checkPool]
  simp only [bind_eq_ok_iff, ensure_eq_ok_iff, Except.ok.injEq, hany, exists_and_right,
    hauxiliary, exists_const]
  constructor
  · rintro ⟨⟨hdisjoint, hvalid⟩, ⟨husable, hnames, hreserved⟩, rfl⟩
    exact ⟨⟨hvalid, hnames, hreserved, husable⟩, hdisjoint, rfl⟩
  · rintro ⟨haccepted, hdisjoint, rfl⟩
    exact ⟨⟨hdisjoint, haccepted.valid⟩,
      ⟨haccepted.usable, haccepted.names, haccepted.reserved⟩, rfl⟩

/-- Pools that pass their checks. -/
structure IpamAccepted (enableIpv6 : Bool) (ipam : NetworkIpam) : Prop where
  nonempty : ipam.pools ≠ []
  pools : ∀ pool ∈ ipam.pools, PoolAccepted enableIpv6 pool
  disjoint : (ipam.pools.map NetworkIpamPool.subnet).Pairwise Disjoint

theorem checkIpam_eq_ok_iff {enableIpv6 : Bool} {ipam : Option NetworkIpam} {u : Unit} :
    checkIpam enableIpv6 ipam = .ok u ↔
      ∀ configured ∈ ipam, IpamAccepted enableIpv6 configured := by
  cases ipam with
  | none => simp [checkIpam]
  | some ipam =>
      rw [checkIpam]
      simp only [bind_eq_ok_iff, ensure_eq_ok_iff, exists_and_right, Option.mem_some_iff,
        forall_eq', exists_const,
        foldlM_append_ok_iff disjoint_symmetric checkPool_eq_ok_iff]
      exact ⟨fun h => ⟨h.1, h.2.1.1, h.2.1.2⟩, fun h => ⟨h.nonempty, ⟨h.pools, h.disjoint⟩, rfl⟩⟩

structure CreateAccepted (create : NetworkCreate) : Prop where
  driver : create.driver = .bridge
  options : ∀ option ∈ create.options, OptionAccepted option
  keys : (create.options.map optionKey).Nodup
  labels : (create.labels.map CheckedPair.key).Nodup
  ipam : ∀ ipam ∈ create.ipam, IpamAccepted create.enableIpv6 ipam

def SourceAccepted : NetworkSource → Prop
  | .external expectedDriver _ => expectedDriver = .bridge
  | .create create => CreateAccepted create

theorem checkNetwork_eq_ok_iff {network : NetworkIntent} {u : Unit} :
    checkNetwork network = .ok u ↔ SourceAccepted network.source := by
  rw [checkNetwork]
  cases network.source with
  | external expectedDriver expectedInternal => simp [SourceAccepted]
  | create create =>
      simp only [bind_eq_ok_iff, ensure_eq_ok_iff, exists_and_right, exists_const,
        foldlM_append_ok_iff ne_symmetric checkOption_eq_ok_iff, checkIpam_eq_ok_iff]
      constructor
      · rintro ⟨hdriver, ⟨hoptions, hkeys⟩, hlabels, hipam⟩
        exact ⟨hdriver, hoptions, hkeys, hlabels, hipam⟩
      · intro h
        exact ⟨h.driver, ⟨h.options, h.keys⟩, h.labels, h.ipam⟩

end Networks

section Ports

/-- Two fixed ports that can be bound together. -/
def Apart (left right : FixedPort) : Prop := left.conflicts right = false

/-- Two host addresses with nothing in common. -/
def HostsApart (left right : PortHostIp) : Prop := hostIpOverlaps left right = false

theorem hostIpOverlaps_comm (left right : PortHostIp) :
    hostIpOverlaps left right = hostIpOverlaps right left := by
  rw [hostIpOverlaps, hostIpOverlaps, Bool.or_comm (wildcard left), Bool.beq_comm]

theorem hostsApart_symmetric (left right : PortHostIp) (h : HostsApart left right) :
    HostsApart right left := by
  rw [HostsApart, hostIpOverlaps_comm]
  exact h

theorem conflicts_comm (left right : FixedPort) : left.conflicts right = right.conflicts left := by
  have hport : (left.port == right.port) = (right.port == left.port) := BEq.comm
  have hprotocol : (left.protocol == right.protocol) = (right.protocol == left.protocol) :=
    BEq.comm
  rw [FixedPort.conflicts, FixedPort.conflicts, hport, hprotocol, hostIpOverlaps_comm]

theorem apart_symmetric (left right : FixedPort) (h : Apart left right) : Apart right left := by
  rw [Apart, conflicts_comm]
  exact h

/-- The fixed host port of a binding. -/
def fixedOf (protocol : Protocol) (binding : HostBinding) : List FixedPort :=
  match binding.hostPort with
  | .fixed port => [⟨port, protocol, binding.hostIp⟩]
  | .ephemeral => []

/-- The host address of an ephemeral binding. -/
def dynamicOf (binding : HostBinding) : List PortHostIp :=
  match binding.hostPort with
  | .fixed _ => []
  | .ephemeral => [binding.hostIp]

theorem checkBinding_collects (protocol : Protocol) :
    Collects (checkBinding protocol) (fun hosts => both hosts.fixed hosts.dynamic)
      (Beside Apart HostsApart) (fun _ => True)
      (fun binding => both (fixedOf protocol binding) (dynamicOf binding)) := by
  apply collects_both apart_symmetric hostsApart_symmetric
  · intro hosts binding hfixed hdynamic
    rw [checkBinding, fixedOf, dynamicOf]
    cases binding.hostPort with
    | fixed port =>
        simp [bind_eq_ok_iff, List.pairwise_append, hfixed, hdynamic, Apart]
    | ephemeral =>
        simp [bind_eq_ok_iff, List.pairwise_append, hfixed, hdynamic, HostsApart]
  · intro hosts binding next hnext
    rw [checkBinding] at hnext
    rw [fixedOf, dynamicOf]
    cases hport : binding.hostPort with
    | fixed port =>
        simp only [hport, bind_eq_ok_iff, Except.ok.injEq] at hnext
        obtain ⟨-, -, rfl⟩ := hnext
        simp
    | ephemeral =>
        simp only [hport, bind_eq_ok_iff, Except.ok.injEq] at hnext
        obtain ⟨-, -, rfl⟩ := hnext
        simp

/-- The fixed host ports of a publication. -/
def PortPublication.fixed (port : PortPublication) : List FixedPort :=
  port.bindings.flatMap (fixedOf port.protocol)

/-- What two ports of a container may not have in common. -/
def portKey (port : PortPublication) : NonZero 16 × Protocol := (port.container, port.protocol)

/-- What is asked of one publication, apart from its container port and its fixed hosts. -/
def PortAccepted (port : PortPublication) : Prop :=
  (port.bindings.flatMap dynamicOf).Pairwise HostsApart

theorem checkPort_collects :
    Collects checkPort (fun ports => both ports.keys ports.fixed) (Beside (· ≠ ·) Apart)
      PortAccepted (fun port => both [portKey port] port.fixed) := by
  apply collects_both ne_symmetric apart_symmetric
  · intro ports port hkeys hfixed
    have hbindings : (∃ hosts, port.bindings.foldlM (checkBinding port.protocol)
        ⟨ports.fixed, []⟩ = .ok hosts) ↔ _ :=
      foldlM_both_ok_iff (checkBinding_collects port.protocol) hfixed .nil
    rw [checkPort]
    simp only [bind_eq_ok_iff, insertNew_eq_ok_iff, Except.ok.injEq, List.pairwise_append, hkeys,
      List.pairwise_singleton, List.mem_singleton, forall_eq, true_and]
    constructor
    · rintro ⟨-, -, ⟨hkey, rfl⟩, hosts, hhosts, rfl⟩
      obtain ⟨-, hall, hdynamic⟩ := hbindings.mp ⟨hosts, hhosts⟩
      exact ⟨hdynamic, hkey, List.pairwise_append.mp hall⟩
    · rintro ⟨hdynamic, hkey, hall⟩
      obtain ⟨hosts, hhosts⟩ :=
        hbindings.mpr ⟨fun _ _ => trivial, List.pairwise_append.mpr hall, hdynamic⟩
      exact ⟨_, _, ⟨hkey, rfl⟩, hosts, hhosts, rfl⟩
  · intro ports port next hnext
    rw [checkPort] at hnext
    simp only [bind_eq_ok_iff, insertNew_eq_ok_iff, Except.ok.injEq] at hnext
    obtain ⟨-, ⟨-, rfl⟩, hosts, hhosts, rfl⟩ := hnext
    have hheld := foldlM_both_held (checkBinding_collects port.protocol) hhosts
    exact ⟨.refl _, hheld.1⟩

end Ports

section Containers

structure AttachmentAccepted (resources : List TargetResource)
    (attachment : NetworkAttachmentIntent) : Prop where
  families : (attachment.ipv4Address.all (!·.isIpv6) && attachment.ipv6Address.all (·.isIpv6)) =
    true
  aliases : (attachment.aliases.map Checked.bytes).Nodup
  admitted : (attachedSource resources attachment).all (admitsAddresses · attachment) = true

theorem checkAttachment_eq_ok_iff {resources : List TargetResource} (seen : List ResourceRef)
    (attachment : NetworkAttachmentIntent) (next : List ResourceRef) :
    checkAttachment resources seen attachment = .ok next ↔
      AttachmentAccepted resources attachment ∧
        (∀ earlier ∈ seen, earlier ≠ attachment.network) ∧
        next = seen ++ [attachment.network] := by
  rw [checkAttachment]
  simp only [bind_eq_ok_iff, insertNew_eq_ok_iff, ensure_eq_ok_iff, Except.ok.injEq, exists_const]
  constructor
  · rintro ⟨networks, ⟨hnew, rfl⟩, hfamilies, haliases, hadmitted, rfl⟩
    exact ⟨⟨hfamilies, haliases, hadmitted⟩, hnew, rfl⟩
  · rintro ⟨haccepted, hnew, rfl⟩
    exact ⟨_, ⟨hnew, rfl⟩, haccepted.families, haccepted.aliases, haccepted.admitted, rfl⟩

structure UlimitAccepted (limit : Ulimit) : Prop where
  name : limit.name.bytes = asBytes "nofile"
  values : (validUlimitValue limit.soft && validUlimitValue limit.hard &&
    orderedUlimit limit.soft limit.hard) = true

theorem checkUlimit_eq_ok_iff (names : List Bytes) (limit : Ulimit) (next : List Bytes) :
    checkUlimit names limit = .ok next ↔
      UlimitAccepted limit ∧ (∀ earlier ∈ names, earlier ≠ limit.name.bytes) ∧
        next = names ++ [limit.name.bytes] := by
  rw [checkUlimit]
  simp only [bind_eq_ok_iff, insertNew_eq_ok_iff, ensure_eq_ok_iff, Except.ok.injEq, exists_const]
  constructor
  · rintro ⟨hname, _, ⟨hnew, rfl⟩, hvalues, rfl⟩
    exact ⟨⟨hname, hvalues⟩, hnew, rfl⟩
  · rintro ⟨haccepted, hnew, rfl⟩
    exact ⟨haccepted.name, _, ⟨hnew, rfl⟩, haccepted.values, rfl⟩

def DeviceAccepted (device : DeviceMapping) : Prop :=
  (device.permissions.read || device.permissions.write || device.permissions.create) = true

theorem checkDevice_eq_ok_iff (targets : List Bytes) (device : DeviceMapping)
    (next : List Bytes) :
    checkDevice targets device = .ok next ↔
      DeviceAccepted device ∧ (∀ earlier ∈ targets, earlier ≠ device.containerPath.bytes) ∧
        next = targets ++ [device.containerPath.bytes] := by
  rw [checkDevice]
  simp only [bind_eq_ok_iff, insertNew_eq_ok_iff, ensure_eq_ok_iff, Except.ok.injEq, exists_const]
  constructor
  · rintro ⟨_, ⟨hnew, rfl⟩, hpermissions, rfl⟩
    exact ⟨hpermissions, hnew, rfl⟩
  · rintro ⟨hpermissions, hnew, rfl⟩
    exact ⟨_, ⟨hnew, rfl⟩, hpermissions, rfl⟩

def SysctlAccepted (item : ContainerLabel) : Prop :=
  item.key = asBytes "net.ipv4.ip_forward" ∧ (item.value = asBytes "0" ∨ item.value = asBytes "1")

theorem checkSysctl_eq_ok_iff (seen : List Bytes) (item : ContainerLabel) (next : List Bytes) :
    checkSysctl seen item = .ok next ↔
      SysctlAccepted item ∧ (∀ earlier ∈ seen, earlier ≠ item.key) ∧
        next = seen ++ [item.key] := by
  rw [checkSysctl]
  simp only [bind_eq_ok_iff, insertNew_eq_ok_iff, ensure_eq_ok_iff, exists_const, SysctlAccepted]

def LogOptionAccepted (driver : LogDriver) (item : ContainerLabel) : Prop :=
  driver = .jsonFile ∧ item.key = asBytes "max-size" ∧ validLogMaxSize item.value = true

theorem checkLogOption_eq_ok_iff {driver : LogDriver} (seen : List Bytes) (item : ContainerLabel)
    (next : List Bytes) :
    checkLogOption driver seen item = .ok next ↔
      LogOptionAccepted driver item ∧ (∀ earlier ∈ seen, earlier ≠ item.key) ∧
        next = seen ++ [item.key] := by
  rw [checkLogOption]
  simp only [bind_eq_ok_iff, insertNew_eq_ok_iff, ensure_eq_ok_iff, exists_const,
    LogOptionAccepted]

structure LogAccepted (log : LogConfig) : Prop where
  plain : ¬(log.driver = .none ∧ log.options ≠ [])
  options : ∀ item ∈ log.options, LogOptionAccepted log.driver item
  keys : (log.options.map CheckedPair.key).Nodup

theorem checkLogConfig_eq_ok_iff {log : Option LogConfig} {u : Unit} :
    checkLogConfig log = .ok u ↔ ∀ configured ∈ log, LogAccepted configured := by
  cases log with
  | none => simp [checkLogConfig]
  | some log =>
      rw [checkLogConfig]
      simp only [bind_eq_ok_iff, ensure_eq_ok_iff, exists_and_right, exists_const,
        Option.mem_some_iff, forall_eq', foldlM_append_ok_iff ne_symmetric checkLogOption_eq_ok_iff]
      exact ⟨fun h => ⟨h.1, h.2.1.1, h.2.1.2⟩, fun h => ⟨h.plain, ⟨h.options, h.keys⟩, rfl⟩⟩

structure SettingsAccepted (settings : ContainerSettings) : Prop where
  limits : boundedLimits settings = true
  ulimits : ∀ limit ∈ settings.ulimits, UlimitAccepted limit
  ulimitNames : (settings.ulimits.map fun limit => limit.name.bytes).Nodup
  devices : ∀ device ∈ settings.devices, DeviceAccepted device
  devicePaths : (settings.devices.map fun device => device.containerPath.bytes).Nodup
  capabilities : ((settings.capAdd ++ settings.capDrop).map Checked.bytes).Nodup
  capAdd : ∀ token ∈ settings.capAdd, token.bytes = asBytes "NET_BIND_SERVICE"
  capDrop : ∀ token ∈ settings.capDrop, token.bytes = asBytes "SYS_ADMIN"
  securityOptions : (settings.securityOptions.map SecurityOption.discriminant).Nodup
  sysctls : ∀ item ∈ settings.sysctls, SysctlAccepted item
  sysctlKeys : (settings.sysctls.map CheckedPair.key).Nodup
  groupNames : (settings.groupAdd.map Checked.bytes).Nodup
  groups : ∀ group ∈ settings.groupAdd, validUserPrincipal group.bytes = true
  extraHosts : (settings.extraHosts.map (·.name.bytes)).Nodup
  logConfig : ∀ log ∈ settings.logConfig, LogAccepted log

theorem validateContainerSettings_eq_ok_iff {settings : ContainerSettings} {u : Unit} :
    validateContainerSettings settings = .ok u ↔ SettingsAccepted settings := by
  rw [validateContainerSettings]
  simp only [bind_eq_ok_iff, ensure_eq_ok_iff, exists_and_right, exists_const,
    foldlM_append_ok_iff ne_symmetric checkUlimit_eq_ok_iff,
    foldlM_append_ok_iff ne_symmetric checkDevice_eq_ok_iff,
    foldlM_append_ok_iff ne_symmetric checkSysctl_eq_ok_iff, checkLogConfig_eq_ok_iff]
  constructor
  · rintro ⟨hlimits, ⟨hulimits, hulimitNames⟩, ⟨hdevices, hpaths⟩, hcapabilities, ⟨hadd, hdrop⟩,
      hsecurity, ⟨hsysctls, hkeys⟩, hgroupNames, hgroups, hhosts, hlog⟩
    exact ⟨hlimits, hulimits, hulimitNames, hdevices, hpaths, hcapabilities, hadd, hdrop,
      hsecurity, hsysctls, hkeys, hgroupNames, hgroups, hhosts, hlog⟩
  · intro h
    exact ⟨h.limits, ⟨h.ulimits, h.ulimitNames⟩, ⟨h.devices, h.devicePaths⟩, h.capabilities,
      ⟨h.capAdd, h.capDrop⟩, h.securityOptions, ⟨h.sysctls, h.sysctlKeys⟩, h.groupNames,
      h.groups, h.extraHosts, h.logConfig⟩

/-- A container that passes its checks. -/
structure ContainerAccepted (resources : List TargetResource) (container : ContainerIntent) :
    Prop where
  environment : (container.environment.map CheckedPair.key).Nodup
  ports : ∀ port ∈ container.ports, PortAccepted port
  portKeys : (container.ports.map portKey).Nodup
  labels : (container.settings.labels.map CheckedPair.key).Nodup
  attachments : ∀ attachment ∈ container.networks, AttachmentAccepted resources attachment
  networks : (container.networks.map NetworkAttachmentIntent.network).Nodup
  mounts : distinctMounts container = true
  commands : (validCommand container.entrypoint && validCommand container.command) = true
  clear : container.command = .clear → container.entrypoint.isExec = true
  stopSignal : container.settings.stopSignal.all (!·.bytes.isEmpty) = true
  settings : SettingsAccepted container.settings
  restart : validRestart container.restart = true

/-- The fixed host ports of a resource. -/
def fixedPorts : TargetResource → List FixedPort
  | .container container => container.ports.flatMap PortPublication.fixed
  | _ => []

/-- What the second pass asks of one resource among the others. -/
def ResourceAccepted (resources : List TargetResource) : TargetResource → Prop
  | .network network => SourceAccepted network.source
  | .container container => ContainerAccepted resources container
  | _ => True

theorem checkContainer_eq_ok_iff {resources : List TargetResource} {container : ContainerIntent}
    {u : Unit} :
    checkContainer resources container = .ok u ↔
      (container.settings.labels.map CheckedPair.key).Nodup ∧
        (∀ attachment ∈ container.networks, AttachmentAccepted resources attachment) ∧
        (container.networks.map NetworkAttachmentIntent.network).Nodup ∧
        distinctMounts container = true ∧
        (validCommand container.entrypoint && validCommand container.command) = true ∧
        (container.command = .clear → container.entrypoint.isExec = true) ∧
        container.settings.stopSignal.all (!·.bytes.isEmpty) = true ∧
        SettingsAccepted container.settings ∧ validRestart container.restart = true := by
  rw [checkContainer]
  simp only [bind_eq_ok_iff, ensure_eq_ok_iff, exists_and_right, exists_const,
    foldlM_append_ok_iff ne_symmetric checkAttachment_eq_ok_iff,
    validateContainerSettings_eq_ok_iff, and_assoc]
  rfl

theorem checkResource_collects (resources : List TargetResource) :
    Collects (checkResource resources) id Apart (ResourceAccepted resources) fixedPorts where
  symmetric := apart_symmetric
  ok_iff := by
    intro fixed resource hfixed
    cases resource with
    | network network =>
        simpa [checkResource, ResourceAccepted, fixedPorts, bind_eq_ok_iff,
          checkNetwork_eq_ok_iff] using fun _ => hfixed
    | container container =>
        have hports : (∃ ports, container.ports.foldlM checkPort ⟨[], fixed⟩ = .ok ports) ↔ _ :=
          foldlM_both_ok_iff checkPort_collects .nil hfixed
        simp only [List.nil_append, ← List.map_eq_flatMap] at hports
        rw [checkResource]
        simp only [bind_eq_ok_iff, ensure_eq_ok_iff, exists_const, checkContainer_eq_ok_iff,
          Except.ok.injEq]
        constructor
        · rintro ⟨_, henvironment, ports, hfold, ⟨hlabels, hattachments, hnetworks, hmounts,
            hcommands, hclear, hstop, hsettings, hrestart⟩, rfl⟩
          obtain ⟨haccepted, hkeys, hall⟩ := hports.mp ⟨ports, hfold⟩
          exact ⟨⟨henvironment, haccepted, hkeys, hlabels, hattachments, hnetworks, hmounts,
            hcommands, hclear, hstop, hsettings, hrestart⟩, hall⟩
        · rintro ⟨h, hall⟩
          obtain ⟨ports, hfold⟩ := hports.mpr ⟨h.ports, h.portKeys, hall⟩
          exact ⟨_, h.environment, ports, hfold, ⟨h.labels, h.attachments, h.networks, h.mounts,
            h.commands, h.clear, h.stopSignal, h.settings, h.restart⟩, rfl⟩
    | _ => simpa [checkResource, ResourceAccepted, fixedPorts] using hfixed
  held_next := by
    intro fixed resource next hnext
    cases resource with
    | network network =>
        simp only [checkResource, bind_eq_ok_iff, Except.ok.injEq] at hnext
        obtain ⟨-, -, rfl⟩ := hnext
        simp [fixedPorts]
    | container container =>
        simp only [checkResource, bind_eq_ok_iff, Except.ok.injEq] at hnext
        obtain ⟨-, -, ports, hfold, -, -, rfl⟩ := hnext
        exact (foldlM_both_held checkPort_collects hfold).2
    | _ =>
        simp only [checkResource, Except.ok.injEq] at hnext
        simp [fixedPorts, hnext]

end Containers

/-- What `TargetIntent::new` asks of a list of resources; nothing here mentions an order. -/
structure Accepted (resources : List TargetResource) : Prop where
  nonempty : resources ≠ []
  references : (resources.map TargetResource.reference).Nodup
  labels : ∀ resource ∈ resources, LabelsAccepted resource
  names : (resources.map TargetResource.name).Nodup
  defaults : (resources.flatMap defaultEntries).Pairwise Single
  each : ∀ resource ∈ resources, ResourceAccepted resources resource
  fixedPorts : (resources.flatMap fixedPorts).Pairwise Apart
  staticAddresses : (staticAddresses resources).Nodup

theorem checkStaticAddress_eq_ok_iff (seen : List (ResourceRef × IpAddr))
    (address : ResourceRef × IpAddr) (next : List (ResourceRef × IpAddr)) :
    checkStaticAddress seen address = .ok next ↔
      True ∧ (∀ earlier ∈ seen, earlier ≠ address) ∧ next = seen ++ [address] := by
  rw [checkStaticAddress, insertNew_eq_ok_iff, true_and]

theorem checkResources_eq_ok_iff {resources : List TargetResource} :
    checkResources resources .standalone = .ok () ↔ Accepted resources := by
  have hnames : (∃ taken, resources.foldlM checkIdentity ⟨[], false⟩ = .ok taken) ↔ _ :=
    foldlM_both_ok_iff checkIdentity_collects .nil (by simp [Taken.defaults])
  have hstatic : (∃ seen, (staticAddresses resources).foldlM checkStaticAddress [] = .ok seen) ↔
      (∀ address ∈ staticAddresses resources, True) ∧
        ((staticAddresses resources).map id).Pairwise (· ≠ ·) :=
    foldlM_append_ok_iff ne_symmetric checkStaticAddress_eq_ok_iff
  rw [checkResources]
  simp only [bind_eq_ok_iff, ensure_eq_ok_iff, exists_and_right, exists_const, hnames,
    (checkResource_collects resources).foldlM_ok_iff_of_empty rfl, hstatic, true_and]
  simp only [Taken.defaults, List.nil_append, ← List.map_eq_flatMap, List.map_id]
  constructor
  · rintro ⟨hnonempty, hreferences, ⟨hlabels, hnames, hdefaults⟩, ⟨heach, hfixed⟩, ⟨-, hstatic⟩, -⟩
    exact ⟨hnonempty, hreferences, hlabels, hnames, hdefaults, heach, hfixed, hstatic⟩
  · intro h
    exact ⟨h.nonempty, h.references, ⟨h.labels, h.names, h.defaults⟩, ⟨h.each, h.fixedPorts⟩,
      ⟨fun _ _ => trivial, h.staticAddresses⟩, rfl⟩

theorem TargetIntent.new_isOk_iff {resources : List TargetResource} :
    (TargetIntent.new resources).isOk = true ↔ Accepted resources := by
  rw [← checkResources_eq_ok_iff, TargetIntent.new, TargetIntent.newWithOrchestration,
    if_pos rfl]
  split
  · next hchecked => simp [hchecked, Except.isOk, Except.toBool]
  · next hchecked => simp [hchecked, Except.isOk, Except.toBool]

theorem TargetIntent.accepted (intent : TargetIntent) : Accepted intent.resources :=
  checkResources_eq_ok_iff.mp intent.checked

end DockerLens.Target
