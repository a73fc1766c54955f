import DockerLens.Json.Allowed
import DockerLens.Render.SettingsRead
import DockerLens.Target.Gates

namespace DockerLens.Render

open DockerLens.Text
open DockerLens.Json
open DockerLens.Fold
open DockerLens.Observation
open DockerLens.Version
open DockerLens.Target
open DockerLens.Decoder (normalize_map)

section Documents

variable (supports : Capability → Bool)

/-- A member of an IPAM object. -/
def IpamMember (key : String) (_ : Value) : Prop :=
  match key with
  | "Driver" => supports .networkIpamDriver
  | "Config" => supports .networkIpam
  | _ => False

/-- A member of a body that creates a network. -/
def NetworkMember (key : String) (value : Value) : Prop :=
  match key with
  | "Name" | "Driver" => supports .bridgeNetwork
  | "Internal" => supports .networkInternal
  | "EnableIPv6" => supports .networkIpv6
  | "IPAM" => supports .networkIpam ∧ AllMembers (IpamMember supports) value
  | "Options" => supports .networkOptions
  | "Labels" => supports .networkLabels
  | _ => False

/-- A member of a body that creates a volume. -/
def VolumeMember (key : String) (_ : Value) : Prop :=
  match key with
  | "Name" => supports .namedVolume
  | "Labels" => supports .volumeLabels
  | _ => False

/-- An empty list clears what the image has. -/
def CommandAllowed (clear exec : Capability) : Value → Prop
  | .array [] => supports clear
  | .array _ => supports exec
  | _ => False

/-- The form of a health test is its first word. -/
def HealthTestAllowed : Value → Prop
  | .array (.string "CMD" :: _) => supports .healthcheck
  | .array (.string "CMD-SHELL" :: _) => supports .healthShell
  | .array (.string "NONE" :: _) => supports .healthDisabled
  | _ => False

/-- A member of a health check beside its test. -/
def HealthMember (key : String) (_ : Value) : Prop :=
  match key with
  | "Test" | "Interval" | "Timeout" | "Retries" => True
  | "StartPeriod" => supports .healthStartPeriod
  | "StartInterval" => supports .healthStartInterval
  | _ => False

/-- The form of a health check has a capability, and two of its timings have their own. -/
def HealthAllowed (value : Value) : Prop :=
  (∃ test, value.get "Test" = some test ∧ HealthTestAllowed supports test) ∧
    AllMembers (HealthMember supports) value

/-- A colon tells the family of a host address. -/
def HostIpAllowed : Value → Prop
  | .string text => if ':' ∈ text.toList then supports .portHostIpv6 else supports .portHostIpv4
  | _ => False

/-- A member of a host binding: the daemon chooses a port that is empty. -/
def BindingMember (key : String) (value : Value) : Prop :=
  match key with
  | "HostIp" => HostIpAllowed supports value
  | "HostPort" => value = .string "" → supports .portEphemeral
  | _ => False

/-- The bindings of a published port. -/
def PublishedAllowed (_ : String) : Value → Prop
  | .array bindings =>
      bindings ≠ [] ∧ supports .portPublish ∧
        (1 < bindings.length → supports .portMultipleBindings) ∧
        ∀ binding ∈ bindings, AllMembers (BindingMember supports) binding
  | _ => False

/-- A port that is exposed and not published. -/
def ExposedAllowed (published : List String) (key : String) (_ : Value) : Prop :=
  if key ∈ published then supports .portPublish else supports .portExposeOnly

/-- The last letter of a legacy bind is its relabel mode. -/
def BindAllowed : Value → Prop
  | .string text =>
      supports .bindMount ∧
        match text.toList.getLast? with
        | some 'z' => supports .bindRelabelShared
        | some 'Z' => supports .bindRelabelPrivate
        | _ => False
  | _ => False

/-- The kind of a structured mount. -/
def MountAllowed (value : Value) : Prop :=
  match value.get "Type" with
  | some (.string "bind") => supports .bindMount
  | some (.string "volume") => supports .namedVolume
  | some (.string "tmpfs") => supports .tmpfsMount
  | _ => False

/-- The capabilities of a setting whose only value is reviewed as well. -/
def NamedAllowed (capability own : Capability) (name : String) (found : String) : Prop :=
  found = name ∧ supports capability ∧ supports own

def TextAllowed (capability own : Capability) (name : String) : Value → Prop
  | .string text => NamedAllowed supports capability own name text
  | _ => False

def UlimitAllowed (value : Value) : Prop :=
  ∃ name, value.get "Name" = some (.string name) ∧
    NamedAllowed supports .ulimits .ulimitNofile "nofile" name

/-- A member of a log configuration. -/
def LogMember (key : String) (value : Value) : Prop :=
  match key with
  | "Type" => supports .logConfig
  | "Config" => AllMembers (fun name _ =>
      NamedAllowed supports .logConfig .logOptionMaxSize "max-size" name) value
  | _ => False

/-- A member of a host configuration. -/
def HostConfigMember (key : String) (value : Value) : Prop :=
  match key with
  | "PortBindings" => AllMembers (PublishedAllowed supports) value
  | "Binds" => AllElements (BindAllowed supports) value
  | "Mounts" => AllElements (MountAllowed supports) value
  | "NetworkMode" => supports .bridgeNetwork
  | "RestartPolicy" => supports .restartPolicy
  | "ReadonlyRootfs" => supports .readOnlyRootfs
  | "Init" => supports .containerInit
  | "Memory" => supports .memoryLimit
  | "PidsLimit" => supports .pidsLimit
  | "ShmSize" => supports .shmSize
  | "Ulimits" => AllElements (UlimitAllowed supports) value
  | "Devices" => supports .deviceMappings
  | "CapAdd" => AllElements (TextAllowed supports .linuxCapabilities .capAddNetBindService
      "NET_BIND_SERVICE") value
  | "CapDrop" => AllElements (TextAllowed supports .linuxCapabilities .capDropSysAdmin
      "SYS_ADMIN") value
  | "SecurityOpt" => supports .securityOptions
  | "Sysctls" => AllMembers (fun name _ =>
      NamedAllowed supports .sysctls .sysctlIpv4Forward "net.ipv4.ip_forward" name) value
  | "GroupAdd" => supports .supplementaryGroups
  | "Dns" => supports .dnsServers
  | "ExtraHosts" => supports .extraHosts
  | "LogConfig" => supports .logConfig ∧ AllMembers (LogMember supports) value
  | "UsernsMode" => supports .userNamespace
  | _ => False

/-- A member of an endpoint. -/
def EndpointMember (key : String) (_ : Value) : Prop :=
  match key with
  | "Aliases" => supports .networkAliases
  | "IPAMConfig" => supports .networkStaticAddress
  | _ => False

/-- A member of the networking configuration: the endpoints by the names of their networks. -/
def NetworkingMember (key : String) (value : Value) : Prop :=
  match key with
  | "EndpointsConfig" => AllMembers (fun _ endpoint =>
      supports .bridgeNetwork ∧ AllMembers (EndpointMember supports) endpoint) value
  | _ => False

/-- A member of a body that creates a container with these published ports. -/
def ContainerMember (published : List String) (key : String) (value : Value) : Prop :=
  match key with
  | "Image" => supports .standaloneContainer
  | "Env" => supports .environmentAssignment
  | "Entrypoint" => CommandAllowed supports .entrypointClear .entrypoint value
  | "Cmd" => CommandAllowed supports .commandClear .command value
  | "Healthcheck" => HealthAllowed supports value
  | "Labels" => supports .containerLabels
  | "User" => supports .containerUser
  | "WorkingDir" => supports .containerWorkdir
  | "Hostname" => supports .containerHostname
  | "StopSignal" => supports .stopSignal
  | "StopTimeout" => supports .stopTimeout
  | "ExposedPorts" => AllMembers (ExposedAllowed supports published) value
  | "HostConfig" => AllMembers (HostConfigMember supports) value
  | "NetworkingConfig" => AllMembers (NetworkingMember supports) value
  | _ => False

/-- A member of a body that connects a container to a further network. -/
def ConnectionMember (key : String) (value : Value) : Prop :=
  match key with
  | "Container" => supports .networkMultipleAttachment
  | "EndpointConfig" => supports .bridgeNetwork ∧ AllMembers (EndpointMember supports) value
  | _ => False

/-- The ports that a container body publishes. -/
def publishedKeys (body : Value) : List String :=
  match (body.get "HostConfig").bind (Value.get · "PortBindings") with
  | some (.object members) => members.map Prod.fst
  | _ => []

/-- A request all of which is supported, its endpoint and every member of its body. -/
inductive RequestAdmitted (api : ApiVersion) : Chars → Value → Prop
  | network {body : Value} (hbody : AllMembers (NetworkMember supports) body)
      (hresource : supports .bridgeNetwork) :
      RequestAdmitted api (apiPath api ++ "networks/create".toList) body
  | volume {body : Value} (hbody : AllMembers (VolumeMember supports) body)
      (hresource : supports .namedVolume) :
      RequestAdmitted api (apiPath api ++ "volumes/create".toList) body
  | container (name : Chars) {body : Value}
      (hbody : AllMembers (ContainerMember supports (publishedKeys body)) body)
      (hresource : supports .standaloneContainer) :
      RequestAdmitted api (apiPath api ++ "containers/create?name=".toList ++ name) body
  | connection (name : Chars) {body : Value}
      (hbody : AllMembers (ConnectionMember supports) body)
      (hresource : supports .networkMultipleAttachment) :
      RequestAdmitted api (apiPath api ++ ("networks/".toList ++ name ++ "/connect".toList)) body

/-- An obligation that is supported. -/
def PrerequisiteAllowed : Prerequisite → Prop
  | .network prerequisite =>
      supports .networkExternalReference ∧
        (prerequisite.expectedInternal.isSome → supports .networkExternalInternalExpectation)
  | .volume _ => supports .volumeExternalReference
  | .bindSource prerequisite =>
      supports .bindMount ∧ supports (relabelCapability prerequisite.relabel)

end Documents

section Fields

variable {α : Type} {allowed : String → Value → Prop} {key : String}

theorem fieldAllowed_if {condition : Bool} {value : Value}
    (h : condition = true → allowed key (Json.normalize value)) :
    FieldAllowed allowed (key, fieldIf condition value) := by
  cases condition with
  | false => rintro _ ⟨⟩
  | true => exact .some (h rfl)

theorem fieldAllowed_list {value : α → Value} {values : List α}
    (h : values ≠ [] → allowed key (Json.normalize (.array (values.map value)))) :
    FieldAllowed allowed (key, listField value values) := by
  apply fieldAllowed_if
  intro hne
  exact h (by simpa using hne)

theorem fieldAllowed_map {entry : α → String × Value} {values : List α}
    (h : values ≠ [] → allowed key (Json.normalize (.object (values.map entry)))) :
    FieldAllowed allowed (key, mapField entry values) := by
  apply fieldAllowed_if
  intro hne
  exact h (by simpa using hne)

theorem fieldAllowed_some {value : α → Value} {found : Option α}
    (h : found.isSome = true → ∀ value, allowed key value) :
    FieldAllowed allowed (key, found.map value) :=
  .map fun _ hfound => h (Option.isSome_of_mem hfound) _

end Fields

section Addresses

theorem colon_not_mem_dotted (value : BitVec 32) : ':' ∉ IpAddr.dotted value := by
  intro hmem
  rw [IpAddr.dotted] at hmem
  obtain ⟨shift, -, hchar⟩ := List.mem_flatMap.mp hmem
  rcases List.mem_append.mp hchar with hdot | hdigit
  · split at hdot
    · cases hdot
    · exact absurd (List.mem_singleton.mp hdot) (by decide)
  · exact absurd ((digits_toDigits _).digit _ hdigit) (by decide)

theorem colon_mem_colons (value : BitVec 128) : ':' ∈ IpAddr.colons value := by
  rw [IpAddr.colons]
  split
  · exact List.mem_append_left _ (by decide)
  · dsimp only
    split
    · exact List.mem_append_left _ (List.mem_append_right _ (by decide))
    · simp [IpAddr.subslice, IpAddr.segments, List.range_succ, List.intercalate, List.intersperse]

end Addresses

section Bodies

variable {supports : Capability → Bool}

theorem allowed_network {identity : TargetIdentity} {create : NetworkCreate}
    (h : ∀ gate ∈ networkGates (.create create), gate.Opens supports) :
    supports .bridgeNetwork ∧
      AllMembers (NetworkMember supports) (Json.normalize (networkBody identity create)) := by
  simp only [networkGates, List.forall_mem_append, forall_mem_gateIf, List.forall_mem_singleton,
    Gate.Opens, and_assoc] at h
  obtain ⟨hresource, -, hinternal, henableIpv6, hipam, hdriver, hoptions, hlabels⟩ := h
  refine ⟨hresource, allMembers_fields ?_⟩
  simp only [createFields, List.forall_mem_cons]
  refine ⟨.some hresource, .some hresource, fieldAllowed_if hinternal, fieldAllowed_if henableIpv6,
    .map ?_, fieldAllowed_if hoptions, fieldAllowed_if hlabels, by simp⟩
  intro ipam hfound
  have hsupported : supports .networkIpam = true := hipam (Option.isSome_of_mem hfound)
  refine ⟨hsupported, allMembers_fields ?_⟩
  simp only [List.forall_mem_cons]
  refine ⟨fieldAllowed_some ?_, .some hsupported, by simp⟩
  intro hsome _
  rw [Option.mem_def.mp hfound] at hdriver
  exact hdriver hsome

theorem allowed_volume {identity : TargetIdentity} {labels : List VolumeLabel}
    (hresource : supports .namedVolume) (hlabels : labels ≠ [] → supports .volumeLabels) :
    AllMembers (VolumeMember supports) (Json.normalize (volumeBody identity labels)) := by
  apply allMembers_fields
  simp only [List.forall_mem_cons]
  refine ⟨.some hresource, fieldAllowed_map hlabels, by simp⟩

theorem allowed_command {clear exec : Capability} {command : ImageCommand} {key : String}
    {allowed : String → Value → Prop} (hvalid : validCommand command = true)
    (hclear : command = .clear → supports clear)
    (hexec : ∀ arguments, command = .exec arguments → supports exec)
    (h : ∀ value, CommandAllowed supports clear exec value → allowed key value) :
    FieldAllowed allowed (key, commandBody command) := by
  cases command with
  | inherit => rintro _ ⟨⟩
  | clear =>
      apply FieldAllowed.some
      apply h
      rw [Json.normalize, normalizeAll_eq_map]
      exact hclear rfl
  | exec arguments =>
      cases arguments with
      | nil => cases hvalid
      | cons argument arguments =>
          apply FieldAllowed.some
          apply h
          rw [textsValue, Json.normalize, normalizeAll_eq_map]
          exact hexec _ rfl

theorem allowed_health {health : Healthcheck}
    (h : ∀ gate ∈ healthGates health, gate.Opens supports) :
    HealthAllowed supports (Json.normalize (healthBody health)) := by
  simp only [healthGates, List.forall_mem_append, forall_mem_gateIf] at h
  obtain ⟨⟨htest, hstartPeriod⟩, hstartInterval⟩ := h
  constructor
  · refine ⟨Json.normalize (.array (healthTestBody health.test)), ?_, ?_⟩
    · have hkeys : ["Test", "Interval", "Timeout", "Retries", "StartPeriod",
          "StartInterval"].Nodup := by decide
      refine get_normalize_fields ?_ "Test"
      exact hkeys
    · rw [Json.normalize, normalizeAll_eq_map]
      cases hcase : health.test with
      | exec arguments | shell command | disabled =>
          rw [hcase] at htest
          rw [healthTestBody, List.map_cons, normalize_string]
          exact htest _ List.mem_cons_self
  · apply allMembers_fields
    simp only [List.forall_mem_cons]
    refine ⟨.some trivial, .map fun _ _ => trivial, .map fun _ _ => trivial,
      .map fun _ _ => trivial, fieldAllowed_some ?_, fieldAllowed_some ?_, by simp⟩
    · intro hsome _
      exact hstartPeriod (by simpa using hsome)
    · intro hsome _
      exact hstartInterval (by simpa using hsome)

theorem allowed_hostIp {address : IpAddr}
    (h : ∀ gate ∈ hostIpGates (.address address), gate.Opens supports) :
    HostIpAllowed supports (.string address.text) := by
  cases address with
  | v4 value =>
      rw [HostIpAllowed, IpAddr.text, String.toList_ofList, if_neg (colon_not_mem_dotted value)]
      exact h _ List.mem_cons_self
  | v6 value =>
      rw [HostIpAllowed, IpAddr.text, String.toList_ofList, if_pos (colon_mem_colons value)]
      exact h _ List.mem_cons_self

theorem allowed_binding {binding : HostBinding}
    (h : ∀ gate ∈ bindingGates binding, gate.Opens supports) :
    AllMembers (BindingMember supports) (Json.normalize (hostBindingBody binding)) := by
  rw [bindingGates, List.forall_mem_append, forall_mem_gateIf] at h
  obtain ⟨hip, hephemeral⟩ := h
  apply allMembers_fields
  simp only [List.forall_mem_cons]
  refine ⟨?_, .some ?_, by simp⟩
  · cases hcase : binding.hostIp with
    | unspecified => rintro _ ⟨⟩
    | address address =>
        rw [hcase] at hip
        apply FieldAllowed.some
        rw [stringValue, decoded_asBytes, normalize_string]
        exact allowed_hostIp hip
  · intro hempty
    rw [stringValue, normalize_string, Value.string.injEq] at hempty
    cases hcase : binding.hostPort with
    | ephemeral => exact hephemeral (by rw [hcase]; rfl)
    | fixed port =>
        rw [hcase, hostPortText, decoded_asBytes, ← String.toList_inj,
          String.toList_ofList] at hempty
        exact absurd hempty (digits_toDigits port.get).nonempty

theorem allowed_published {port : PortPublication} (hne : port.bindings ≠ []) (key : String)
    (h : ∀ gate ∈ portGates port, gate.Opens supports) :
    PublishedAllowed supports key
      (Json.normalize (.array (port.bindings.map hostBindingBody))) := by
  have hempty : port.bindings.isEmpty = false := List.isEmpty_eq_false_iff.mpr hne
  rw [portGates, hempty] at h
  simp only [List.forall_mem_append, forall_mem_gateIf, List.forall_mem_flatMap] at h
  obtain ⟨⟨hpublish, hmultiple⟩, hbindings⟩ := h
  have helements := @allElements_normalize _ (AllMembers (BindingMember supports)) hostBindingBody
    port.bindings fun binding hbinding => allowed_binding (hbindings binding hbinding)
  rw [Json.normalize, normalizeAll_eq_map] at helements ⊢
  refine ⟨by simpa using hne, hpublish _ List.mem_cons_self, ?_, helements⟩
  intro hlength
  exact hmultiple (by simpa using hlength)

theorem publishedKeys_containerBody {resources : List TargetResource}
    {container : ContainerIntent} (h : (container.ports.map Target.portKey).Nodup) :
    ∃ kept : List PortPublication, kept.Perm (container.ports.filter (!·.bindings.isEmpty)) ∧
      publishedKeys (Json.normalize (containerBody resources container)) =
        kept.map fun port => decoded (portKey port) := by
  have hfield : (Json.normalize (fieldsObject (hostConfigFields resources container))).get
      "PortBindings" =
        (mapField portEntry (container.ports.filter (!·.bindings.isEmpty))).map Json.normalize := by
    rw [get_normalize_fields keys_hostConfig]
    rfl
  rw [publishedKeys, get_hostConfig, Option.bind_some, hfield]
  rcases eq_or_ne (container.ports.filter (!·.bindings.isEmpty)) [] with hempty | hne
  · rw [hempty]
    exact ⟨[], .nil, rfl⟩
  · have hkeys : (((container.ports.filter (!·.bindings.isEmpty)).map portEntry).map
        Prod.fst).Nodup := by
      rw [List.map_map]
      exact nodup_decoded (fun port _ => isUtf8_portKey port)
        (nodup_portKeys (h.sublist (List.filter_sublist.map _)))
    obtain ⟨kept, hperm, hnormal⟩ := normalize_map hkeys
    refine ⟨kept, hperm, ?_⟩
    rw [mapField, fieldIf, if_pos (by simpa using hne), Option.map_some, hnormal]
    simp [portEntry]

/-- A port is exposed alone exactly when it has no bindings. -/
theorem allowed_exposed {ports kept : List PortPublication}
    (hkept : kept.Perm (ports.filter (!·.bindings.isEmpty)))
    (h : ∀ port ∈ ports, ∀ gate ∈ portGates port, gate.Opens supports)
    {port : PortPublication} (hport : port ∈ ports) (value : Value) :
    ExposedAllowed supports (kept.map fun port => decoded (portKey port)) (exposedEntry port).1
      value := by
  have hfirst : ∀ port ∈ ports, (if port.bindings.isEmpty then
      supports .portExposeOnly else supports .portPublish) = true := by
    intro port hport
    have hgates := h port hport
    rw [portGates, List.forall_mem_append, List.forall_mem_append] at hgates
    have hfirst := hgates.1.1
    cases hempty : port.bindings.isEmpty with
    | false =>
        rw [hempty] at hfirst
        exact hfirst _ List.mem_cons_self
    | true =>
        rw [hempty] at hfirst
        exact hfirst _ List.mem_cons_self
  rw [ExposedAllowed]
  split
  · next hpublished =>
      obtain ⟨other, hother, -⟩ := List.mem_map.mp hpublished
      obtain ⟨hmem, hbindings⟩ := List.mem_filter.mp (hkept.mem_iff.mp hother)
      have hother := hfirst other hmem
      rw [if_neg (by simpa using hbindings)] at hother
      exact hother
  · next hpublished =>
      have hport' := hfirst port hport
      have hempty : port.bindings.isEmpty = true := by
        by_contra hne
        apply hpublished
        refine List.mem_map.mpr ⟨port, hkept.mem_iff.mpr (List.mem_filter.mpr ⟨hport, ?_⟩), rfl⟩
        simpa using hne
      rw [if_pos hempty] at hport'
      exact hport'

theorem decoded_append {left right : Bytes} (hleft : isUtf8 left = true)
    (hright : isUtf8 right = true) : decoded (left ++ right) = decoded left ++ decoded right := by
  rw [← asBytes_inj, asBytes_append, asBytes_decoded hleft, asBytes_decoded hright,
    asBytes_decoded (isUtf8_append hleft hright)]

theorem exists_bindText {source : Bytes} {mount : Mount} {relabel : BindRelabel}
    (hsource : isUtf8 source = true) (htarget : isUtf8 mount.target = true) :
    ∃ text, decoded (bindText source mount relabel) =
      text ++ decoded (relabelByte relabel) := by
  have hcolon : isUtf8 [58] = true := isUtf8_of_ascii (by decide +kernel)
  have hmode : isUtf8 (if mount.readOnly then asBytes ":ro," else asBytes ":rw,") = true := by
    split <;> exact isUtf8_asBytes _
  have hrelabel : isUtf8 (relabelByte relabel) = true := by
    cases relabel <;> exact isUtf8_asBytes _
  have hfront := isUtf8_append (isUtf8_append (isUtf8_append hsource hcolon) htarget) hmode
  rw [bindText, List.append_cons source, decoded_append hfront hrelabel]
  exact ⟨_, rfl⟩

theorem allowed_bind {mount : Mount} (hrelabel : mount.bindRelabel.isSome = true)
    (h : ∀ gate ∈ mountGates mount, gate.Opens supports) :
    BindAllowed supports (Json.normalize (bindBody mount)) := by
  obtain ⟨relabel, hrelabel⟩ := Option.isSome_iff_exists.mp hrelabel
  obtain ⟨source, hsource⟩ := bind_of_relabel hrelabel
  obtain ⟨htarget, hutf8⟩ := isUtf8_of_mount mount
  obtain ⟨text, htext⟩ := @exists_bindText source mount relabel (hutf8 source hsource) htarget
  rw [mountGates, hsource, hrelabel, List.forall_mem_append] at h
  obtain ⟨hbind, hmode⟩ := h
  rw [bindBody, hsource, hrelabel]
  dsimp only
  rw [stringValue, normalize_string, htext]
  refine ⟨hbind _ List.mem_cons_self, ?_⟩
  cases relabel with
  | shared =>
      have hshared : supports .bindRelabelShared = true := hmode _ List.mem_cons_self
      rw [relabelByte, decoded_asBytes, String.toList_append]
      simpa using hshared
  | «private» =>
      have hprivate : supports .bindRelabelPrivate = true := hmode _ List.mem_cons_self
      rw [relabelByte, decoded_asBytes, String.toList_append]
      simpa using hprivate

theorem allowed_mount {resources : List TargetResource} {mount : Mount}
    (h : ∀ gate ∈ mountGates mount, gate.Opens supports) :
    MountAllowed supports (Json.normalize (mountBody resources mount)) := by
  have hkeys : ["Type", "Source", "Target", "ReadOnly", "TmpfsOptions"].Nodup := by decide
  have htype : (Json.normalize (mountBody resources mount)).get "Type" =
      some (Json.normalize (.string (mountKind mount.source))) := by
    refine get_normalize_fields ?_ "Type"
    exact hkeys
  rw [mountGates, List.forall_mem_append] at h
  have hkind := h.1
  rw [MountAllowed, htype, normalize_string]
  cases hcase : mount.source with
  | bind path | volume reference | tmpfs options =>
      rw [hcase] at hkind
      exact hkind _ List.mem_cons_self

theorem allowed_text {capability own : Capability} {name : String} {bytes : Bytes}
    (hname : bytes = asBytes name) (hcapability : supports capability) (hown : supports own) :
    TextAllowed supports capability own name (Json.normalize (stringValue bytes)) := by
  rw [hname, stringValue, decoded_asBytes, normalize_string]
  exact ⟨rfl, hcapability, hown⟩

theorem allowed_ulimit {limit : Ulimit} (h : UlimitAccepted limit)
    (hulimits : supports .ulimits) (hnofile : supports .ulimitNofile) :
    UlimitAllowed supports (Json.normalize (ulimitBody limit)) := by
  have hkeys : ["Name", "Soft", "Hard"].Nodup := by decide
  have hname : (Json.normalize (ulimitBody limit)).get "Name" =
      some (Json.normalize (stringValue limit.name.bytes)) := by
    refine get_normalize_fields ?_ "Name"
    exact hkeys
  rw [h.name, stringValue, decoded_asBytes, normalize_string] at hname
  exact ⟨_, hname, rfl, hulimits, hnofile⟩

theorem allowed_log {log : LogConfig} (h : LogAccepted log) (hlog : supports .logConfig)
    (hsize : log.options ≠ [] → supports .logOptionMaxSize) :
    AllMembers (LogMember supports) (Json.normalize (logBody log)) := by
  have hoptions : AllMembers (fun name _ =>
      NamedAllowed supports .logConfig .logOptionMaxSize "max-size" name)
      (Json.normalize (.object (log.options.map labelEntry))) := by
    apply allMembers_normalize
    intro member hmember
    obtain ⟨option, hoption, rfl⟩ := List.mem_map.mp hmember
    have hname : (labelEntry option).1 = "max-size" := by
      rw [labelEntry, pairEntry, (h.options option hoption).2.1, decoded_asBytes]
    exact ⟨hname, hlog, hsize (List.ne_nil_of_mem hoption)⟩
  apply allMembers_fields
  simp only [List.forall_mem_cons]
  exact ⟨.some hlog, .some hoptions, by simp⟩

theorem allowed_endpoint {attachment : NetworkAttachmentIntent}
    (h : ∀ gate ∈ attachmentGates attachment, gate.Opens supports) :
    AllMembers (EndpointMember supports) (Json.normalize (endpointBody attachment)) := by
  rw [attachmentGates, List.forall_mem_append, forall_mem_gateIf, forall_mem_gateIf] at h
  obtain ⟨haliases, haddress⟩ := h
  apply allMembers_fields
  simp only [List.forall_mem_cons]
  refine ⟨fieldAllowed_list ?_, fieldAllowed_if haddress, by simp⟩
  intro hne
  exact haliases (by simpa using hne)

section Container

variable {resources : List TargetResource} {container : ContainerIntent}

theorem allowed_hostConfig (h : ContainerGated supports container)
    (haccepted : SettingsAccepted container.settings) :
    AllMembers (HostConfigMember supports)
      (Json.normalize (fieldsObject (hostConfigFields resources container))) := by
  have hports : ∀ port ∈ container.ports.filter (!·.bindings.isEmpty),
      port ∈ container.ports ∧ port.bindings ≠ [] := by
    intro port hport
    simpa using List.mem_filter.mp hport
  apply allMembers_fields
  simp only [hostConfigFields, List.forall_mem_cons]
  refine ⟨fieldAllowed_map fun _ => ?_, fieldAllowed_list fun _ => ?_,
    fieldAllowed_list fun _ => ?_,
    fieldAllowed_some fun hsome _ => h.network (by simpa using hsome),
    fieldAllowed_some fun hsome _ => h.restart hsome,
    fieldAllowed_some fun hsome _ => h.settings.readOnlyRootfs hsome,
    fieldAllowed_some fun hsome _ => h.settings.init hsome,
    fieldAllowed_some fun hsome _ => h.settings.memoryLimit hsome,
    fieldAllowed_some fun hsome _ => h.settings.pidsLimit hsome,
    fieldAllowed_some fun hsome _ => h.settings.shmSize hsome,
    fieldAllowed_list fun hne => ?_, fieldAllowed_list h.settings.devices,
    fieldAllowed_list fun hne => ?_, fieldAllowed_list fun hne => ?_,
    fieldAllowed_list h.settings.securityOptions, fieldAllowed_map fun hne => ?_,
    fieldAllowed_list h.settings.groupAdd, fieldAllowed_list h.settings.dns,
    fieldAllowed_list h.settings.extraHosts, .map fun log hlog => ?_,
    fieldAllowed_some fun hsome _ => h.settings.usernsMode hsome, by simp⟩
  · apply @allMembers_normalize (PublishedAllowed supports)
    intro member hmember
    obtain ⟨port, hport, rfl⟩ := List.mem_map.mp hmember
    obtain ⟨hport, hne⟩ := hports port hport
    exact allowed_published hne _ (h.ports port hport)
  · apply @allElements_normalize _ (BindAllowed supports)
    intro mount hmount
    obtain ⟨hmount, hrelabel⟩ := List.mem_filter.mp hmount
    exact allowed_bind hrelabel (h.mounts mount hmount)
  · apply @allElements_normalize _ (MountAllowed supports)
    intro mount hmount
    exact allowed_mount (h.mounts mount (List.mem_filter.mp hmount).1)
  · apply @allElements_normalize _ (UlimitAllowed supports)
    intro limit hlimit
    exact allowed_ulimit (haccepted.ulimits limit hlimit) (h.settings.ulimits hne)
      (h.settings.ulimitNofile hne)
  · apply @allElements_normalize _ (TextAllowed supports .linuxCapabilities .capAddNetBindService
      "NET_BIND_SERVICE")
    intro token htoken
    exact allowed_text (haccepted.capAdd token htoken) (h.settings.linuxCapabilities (.inl hne))
      (h.settings.capAdd hne)
  · apply @allElements_normalize _ (TextAllowed supports .linuxCapabilities .capDropSysAdmin
      "SYS_ADMIN")
    intro token htoken
    exact allowed_text (haccepted.capDrop token htoken) (h.settings.linuxCapabilities (.inr hne))
      (h.settings.capDrop hne)
  · apply @allMembers_normalize fun name _ =>
      NamedAllowed supports .sysctls .sysctlIpv4Forward "net.ipv4.ip_forward" name
    intro member hmember
    obtain ⟨item, hitem, rfl⟩ := List.mem_map.mp hmember
    have hname : (labelEntry item).1 = "net.ipv4.ip_forward" := by
      rw [labelEntry, pairEntry, (haccepted.sysctls item hitem).1, decoded_asBytes]
    exact ⟨hname, h.settings.sysctls hne, h.settings.sysctlIpv4Forward hne⟩
  · have hsupported := h.settings.logConfig (Option.isSome_of_mem hlog)
    refine ⟨hsupported, allowed_log (haccepted.logConfig log hlog) hsupported ?_⟩
    intro hne
    apply h.settings.logOptionMaxSize
    rw [Option.mem_def.mp hlog]
    simpa using hne

theorem allowed_container (h : ContainerGated supports container)
    (haccepted : ContainerAccepted resources container) :
    AllMembers (ContainerMember supports
        (publishedKeys (Json.normalize (containerBody resources container))))
      (Json.normalize (containerBody resources container)) := by
  obtain ⟨kept, hkept, hpublished⟩ :=
    @publishedKeys_containerBody resources container haccepted.portKeys
  have hcommands := haccepted.commands
  rw [Bool.and_eq_true] at hcommands
  rw [hpublished]
  apply allMembers_fields
  simp only [configFields, List.cons_append, List.nil_append, List.forall_mem_cons]
  refine ⟨.some h.resource, fieldAllowed_list h.environment,
    allowed_command hcommands.1 ?_ ?_ fun _ => id, allowed_command hcommands.2 ?_ ?_ fun _ => id,
    .map fun health hhealth => allowed_health (h.healthcheck health hhealth),
    fieldAllowed_map h.settings.labels, fieldAllowed_some fun hsome _ => h.settings.user ?_,
    fieldAllowed_some fun hsome _ => h.settings.workingDir ?_,
    fieldAllowed_some fun hsome _ => h.settings.hostname ?_,
    fieldAllowed_some fun hsome _ => h.settings.stopSignal ?_,
    fieldAllowed_some fun hsome _ => h.settings.stopTimeout ?_, fieldAllowed_map fun _ => ?_,
    .some (allowed_hostConfig h haccepted.settings), .map fun attachment hattachment => ?_,
    by simp⟩
  · intro hclear
    have hgates := h.entrypoint
    rw [hclear] at hgates
    exact hgates _ List.mem_cons_self
  · intro arguments hexec
    have hgates := h.entrypoint
    rw [hexec] at hgates
    exact hgates _ List.mem_cons_self
  · intro hclear
    have hgates := h.command
    rw [hclear] at hgates
    exact hgates _ List.mem_cons_self
  · intro arguments hexec
    have hgates := h.command
    rw [hexec] at hgates
    exact hgates _ List.mem_cons_self
  · simpa using hsome
  · simpa using hsome
  · simpa using hsome
  · simpa using hsome
  · simpa using hsome
  · apply @allMembers_normalize (ExposedAllowed supports _)
    intro member hmember
    obtain ⟨port, hport, rfl⟩ := List.mem_map.mp hmember
    exact allowed_exposed hkept h.ports hport _
  · have hmem := List.mem_of_head? hattachment
    have hendpoint := allowed_endpoint (h.attachments attachment hmem)
    apply @allMembers_fields (NetworkingMember supports)
    simp only [List.forall_mem_cons]
    refine ⟨.some ?_, by simp⟩
    apply @allMembers_normalize fun _ endpoint =>
      supports .bridgeNetwork ∧ AllMembers (EndpointMember supports) endpoint
    simp only [List.forall_mem_cons]
    exact ⟨⟨h.network (List.ne_nil_of_mem hmem), hendpoint⟩, by simp⟩

theorem allowed_connection (h : ContainerGated supports container)
    {attachment : NetworkAttachmentIntent} (hmem : attachment ∈ container.networks)
    (hlength : 1 < container.networks.length) :
    AllMembers (ConnectionMember supports)
      (Json.normalize (connectionBody container attachment)) := by
  apply allMembers_fields
  simp only [List.forall_mem_cons]
  exact ⟨.some (h.multiple hlength), .some ⟨h.network (List.ne_nil_of_mem hmem),
    allowed_endpoint (h.attachments attachment hmem)⟩, by simp⟩

end Container

end Bodies

end DockerLens.Render
