import DockerLens.Render.Emitted
import DockerLens.Target.Accepted

namespace DockerLens.Render

open DockerLens.Text
open DockerLens.Json
open DockerLens.Observation
open DockerLens.Target

/-- A member repeats no key, if it is there. -/
def UniqueMember (value : Option Value) : Prop := ∀ found ∈ value, UniqueKeys found

section Members

variable {α : Type}

theorem uniqueMember_some {value : Value} (h : UniqueKeys value) : UniqueMember (some value) := by
  rintro _ ⟨⟩
  exact h

theorem uniqueMember_none : UniqueMember none := by
  rintro _ ⟨⟩

theorem uniqueMember_map {value : α → Value} {found : Option α}
    (h : ∀ a ∈ found, UniqueKeys (value a)) : UniqueMember (found.map value) := by
  intro member hmember
  obtain ⟨a, ha, rfl⟩ := Option.map_eq_some_iff.mp hmember
  exact h a ha

theorem uniqueMember_if {condition : Bool} {value : Value} (h : UniqueKeys value) :
    UniqueMember (fieldIf condition value) := by
  cases condition with
  | true => exact uniqueMember_some h
  | false => exact uniqueMember_none

theorem uniqueKeys_of_members {fields : List (String × Option Value)}
    (hkeys : (fields.map Prod.fst).Nodup) (h : fields.Forall fun field => UniqueMember field.2) :
    UniqueKeys (fieldsObject fields) := by
  apply uniqueKeys_fields hkeys
  intro field hfield value hvalue
  exact List.forall_iff_forall_mem.mp h field hfield value hvalue

theorem uniqueKeys_text (bytes : Bytes) : UniqueKeys (stringValue bytes) := .string _

theorem uniqueKeys_number (value : Nat) : UniqueKeys (numberValue value) := .number _

theorem uniqueMember_text {found : Option Bytes} : UniqueMember (found.map stringValue) :=
  uniqueMember_map fun bytes _ => uniqueKeys_text bytes

theorem uniqueMember_number {found : Option Nat} : UniqueMember (found.map numberValue) :=
  uniqueMember_map fun value _ => uniqueKeys_number value

theorem uniqueKeys_array {value : α → Value} {values : List α}
    (h : ∀ a ∈ values, UniqueKeys (value a)) : UniqueKeys (.array (values.map value)) := by
  apply UniqueKeys.array
  intro element helement
  obtain ⟨a, ha, rfl⟩ := List.mem_map.mp helement
  exact h a ha

theorem nodup_decoded {key : α → Bytes} {values : List α}
    (hutf8 : ∀ a ∈ values, isUtf8 (key a) = true) (hkeys : (values.map key).Nodup) :
    (values.map fun a => decoded (key a)).Nodup := by
  have hdecoded : ((values.map key).map decoded).Nodup := by
    apply hkeys.map_on
    intro left hleft right hright heq
    obtain ⟨a, ha, rfl⟩ := List.mem_map.mp hleft
    obtain ⟨b, hb, rfl⟩ := List.mem_map.mp hright
    exact (decoded_inj (hutf8 a ha) (hutf8 b hb)).mp heq
  rw [List.map_map] at hdecoded
  exact hdecoded

theorem uniqueKeys_entries {key : α → Bytes} {entry : α → String × Value} {values : List α}
    (hentry : ∀ a, (entry a).1 = decoded (key a)) (hutf8 : ∀ a ∈ values, isUtf8 (key a) = true)
    (hkeys : (values.map key).Nodup) (h : ∀ a ∈ values, UniqueKeys (entry a).2) :
    UniqueKeys (.object (values.map entry)) := by
  apply UniqueKeys.object
  · have hsame : (values.map entry).map Prod.fst = values.map fun a => decoded (key a) := by
      rw [List.map_map]
      exact List.map_congr_left fun a _ => hentry a
    rw [hsame]
    exact nodup_decoded hutf8 hkeys
  · intro member hmember
    obtain ⟨a, ha, rfl⟩ := List.mem_map.mp hmember
    exact h a ha

theorem uniqueMember_texts {text : α → Bytes} {values : List α} :
    UniqueMember (textsField text values) :=
  uniqueMember_if (uniqueKeys_array fun a _ => uniqueKeys_text (text a))

theorem uniqueMember_list {value : α → Value} {values : List α}
    (h : ∀ a ∈ values, UniqueKeys (value a)) : UniqueMember (listField value values) :=
  uniqueMember_if (uniqueKeys_array h)

end Members

section Networks

theorem optionKey_of_name {left right : BridgeOption}
    (h : (bridgeOption left).1 = (bridgeOption right).1) : optionKey left = optionKey right := by
  cases left <;> cases right <;> first
    | rfl
    | exact absurd h (by simp [bridgeOption])

theorem nodup_optionNames {options : List BridgeOption} (h : (options.map optionKey).Nodup) :
    (options.map fun option => asBytes (bridgeOption option).1).Nodup := by
  rw [List.Nodup, List.pairwise_map] at h ⊢
  exact h.imp fun hne heq => hne (optionKey_of_name (asBytes_inj.mp heq))

theorem uniqueKeys_options {options : List BridgeOption} (h : (options.map optionKey).Nodup) :
    UniqueKeys (.object (options.map optionEntry)) := by
  apply @uniqueKeys_entries _ fun option => asBytes (bridgeOption option).1
  · exact fun _ => rfl
  · exact fun _ _ => isUtf8_asBytes _
  · exact nodup_optionNames h
  · exact fun _ _ => uniqueKeys_text _

theorem uniqueKeys_pool {enableIpv6 : Bool} {pool : NetworkIpamPool}
    (h : PoolAccepted enableIpv6 pool) : UniqueKeys (poolBody pool) := by
  refine uniqueKeys_of_members
    (show ["Subnet", "IPRange", "Gateway", "AuxiliaryAddresses"].Nodup by decide) ?_
  refine ⟨uniqueMember_some (uniqueKeys_text _), uniqueMember_map fun _ _ => uniqueKeys_text _,
    uniqueMember_map fun _ _ => uniqueKeys_text _, uniqueMember_if ?_⟩
  apply uniqueKeys_entries (fun _ => rfl) _ h.names fun _ _ => uniqueKeys_text _
  exact fun auxiliary _ => isUtf8_of_identity auxiliary.name.checked

theorem uniqueKeys_ipam {enableIpv6 : Bool} {ipam : NetworkIpam}
    (h : IpamAccepted enableIpv6 ipam) : UniqueKeys (ipamBody ipam) := by
  refine uniqueKeys_of_members (show ["Driver", "Config"].Nodup by decide) ?_
  exact ⟨uniqueMember_map fun _ _ => uniqueKeys_text _,
    uniqueMember_some (uniqueKeys_array fun pool hpool => uniqueKeys_pool (h.pools pool hpool))⟩

theorem uniqueKeys_network {identity : TargetIdentity} {create : NetworkCreate}
    (h : CreateAccepted create) : UniqueKeys (networkBody identity create) := by
  refine uniqueKeys_of_members (show ["Name", "Driver", "Internal", "EnableIPv6", "IPAM",
    "Options", "Labels"].Nodup by decide) ?_
  refine ⟨uniqueMember_some (uniqueKeys_text _), uniqueMember_some (.string _),
    uniqueMember_if (.bool _), uniqueMember_if (.bool _),
    uniqueMember_map fun ipam hipam => uniqueKeys_ipam (h.ipam ipam hipam),
    uniqueMember_if (uniqueKeys_options h.keys), uniqueMember_if ?_⟩
  apply uniqueKeys_entries (fun _ => rfl) _ h.labels fun _ _ => uniqueKeys_text _
  exact fun label _ => (isUtf8_of_label label.checked).1

theorem uniqueKeys_volume {identity : TargetIdentity} {labels : List VolumeLabel}
    (h : (labels.map CheckedPair.key).Nodup) : UniqueKeys (volumeBody identity labels) := by
  refine uniqueKeys_of_members (show ["Name", "Labels"].Nodup by decide) ?_
  refine ⟨uniqueMember_some (uniqueKeys_text _), uniqueMember_if ?_⟩
  apply uniqueKeys_entries (fun _ => rfl) _ h fun _ _ => uniqueKeys_text _
  exact fun label _ => (isUtf8_of_volumeLabel label.checked).1

end Networks

section Containers

theorem uniqueMember_command {command : ImageCommand} : UniqueMember (commandBody command) := by
  cases command with
  | inherit => exact uniqueMember_none
  | clear => exact uniqueMember_some (.array (by simp))
  | exec arguments => exact uniqueMember_some (uniqueKeys_array fun _ _ => uniqueKeys_text _)

theorem uniqueKeys_health (health : Healthcheck) : UniqueKeys (healthBody health) := by
  refine uniqueKeys_of_members (show ["Test", "Interval", "Timeout", "Retries", "StartPeriod",
    "StartInterval"].Nodup by decide) ?_
  refine ⟨uniqueMember_some (.array ?_), uniqueMember_number, uniqueMember_number,
    uniqueMember_number, uniqueMember_number, uniqueMember_number⟩
  intro value hvalue
  cases htest : health.test with
  | exec arguments =>
      rw [htest, healthTestBody, List.mem_cons, List.mem_map] at hvalue
      rcases hvalue with rfl | ⟨argument, -, rfl⟩
      · exact .string _
      · exact uniqueKeys_text _
  | shell command =>
      rw [htest, healthTestBody, List.mem_cons, List.mem_singleton] at hvalue
      rcases hvalue with rfl | rfl
      · exact .string _
      · exact uniqueKeys_text _
  | disabled =>
      rw [htest, healthTestBody, List.mem_singleton] at hvalue
      rw [hvalue]
      exact .string _

theorem uniqueKeys_labels {labels : List ContainerLabel}
    (h : (labels.map CheckedPair.key).Nodup) : UniqueKeys (.object (labels.map labelEntry)) :=
  uniqueKeys_entries (fun _ => rfl) (fun label _ => (isUtf8_of_label label.checked).1) h
    fun _ _ => uniqueKeys_text _

theorem uniqueKeys_hostBinding (binding : HostBinding) :
    UniqueKeys (hostBindingBody binding) := by
  refine uniqueKeys_of_members (show ["HostIp", "HostPort"].Nodup by decide) ?_
  refine ⟨?_, uniqueMember_some (uniqueKeys_text _)⟩
  cases binding.hostIp with
  | unspecified => exact uniqueMember_none
  | address address => exact uniqueMember_some (uniqueKeys_text _)

theorem uniqueKeys_bind (mount : Mount) : UniqueKeys (bindBody mount) := by
  rw [bindBody]
  split
  · exact uniqueKeys_text _
  · exact .null

theorem uniqueKeys_mount (resources : List TargetResource) (mount : Mount) :
    UniqueKeys (mountBody resources mount) := by
  refine uniqueKeys_of_members
    (show ["Type", "Source", "Target", "ReadOnly", "TmpfsOptions"].Nodup by decide) ?_
  refine ⟨uniqueMember_some (.string _), uniqueMember_text, uniqueMember_some (uniqueKeys_text _),
    uniqueMember_some (.bool _), uniqueMember_map fun options _ => ?_⟩
  refine uniqueKeys_of_members (show ["SizeBytes", "Mode"].Nodup by decide) ?_
  exact ⟨uniqueMember_number, uniqueMember_number⟩

theorem uniqueKeys_restart (restart : RestartPolicy) : UniqueKeys (restartBody restart) := by
  refine uniqueKeys_of_members (show ["Name", "MaximumRetryCount"].Nodup by decide) ?_
  exact ⟨uniqueMember_some (.string _), uniqueMember_some (uniqueKeys_number _)⟩

theorem uniqueKeys_limit (limit : Option Nat) : UniqueKeys (limitValue limit) := by
  cases limit with
  | none => exact .number _
  | some value => exact uniqueKeys_number value

theorem uniqueKeys_ulimit (limit : Ulimit) : UniqueKeys (ulimitBody limit) := by
  refine uniqueKeys_of_members (show ["Name", "Soft", "Hard"].Nodup by decide) ?_
  exact ⟨uniqueMember_some (uniqueKeys_text _), uniqueMember_some (uniqueKeys_limit _),
    uniqueMember_some (uniqueKeys_limit _)⟩

theorem uniqueKeys_device (device : DeviceMapping) : UniqueKeys (deviceBody device) := by
  refine uniqueKeys_of_members
    (show ["PathOnHost", "PathInContainer", "CgroupPermissions"].Nodup by decide) ?_
  exact ⟨uniqueMember_some (uniqueKeys_text _), uniqueMember_some (uniqueKeys_text _),
    uniqueMember_some (.string _)⟩

theorem uniqueKeys_log {log : LogConfig} (h : LogAccepted log) : UniqueKeys (logBody log) := by
  refine uniqueKeys_of_members (show ["Type", "Config"].Nodup by decide) ?_
  exact ⟨uniqueMember_some (.string _), uniqueMember_some (uniqueKeys_labels h.keys)⟩

theorem uniqueKeys_endpoint (attachment : NetworkAttachmentIntent) :
    UniqueKeys (endpointBody attachment) := by
  refine uniqueKeys_of_members (show ["Aliases", "IPAMConfig"].Nodup by decide) ?_
  refine ⟨uniqueMember_texts, uniqueMember_if ?_⟩
  refine uniqueKeys_of_members (show ["IPv4Address", "IPv6Address"].Nodup by decide) ?_
  exact ⟨uniqueMember_text, uniqueMember_text⟩

theorem uniqueKeys_networking (resources : List TargetResource)
    (attachment : NetworkAttachmentIntent) : UniqueKeys (networkingBody resources attachment) := by
  refine uniqueKeys_of_members (show ["EndpointsConfig"].Nodup by decide) ?_
  refine uniqueMember_some (.object (List.nodup_singleton _) ?_)
  intro member hmember
  rw [List.mem_singleton] at hmember
  rw [hmember]
  exact uniqueKeys_endpoint attachment

variable {resources : List TargetResource} {container : ContainerIntent}

theorem decimal_inj {left right : Nat} : decimal left = decimal right ↔ left = right := by
  constructor
  · intro h
    rw [← digitsValue_toDigits left, ← digitsValue_toDigits right]
    exact congrArg digitsValue h
  · rintro rfl
    rfl

theorem nonZero_inj {bits : Nat} {left right : NonZero bits} (h : left.get = right.get) :
    left = right := by
  cases left
  cases right
  cases h
  rfl

theorem protocolName_inj {left right : Protocol} (h : protocolName left = protocolName right) :
    left = right := by
  cases left <;> cases right <;> first
    | rfl
    | exact absurd h (by decide)

theorem portKey_inj {left right : PortPublication} (h : portKey left = portKey right) :
    Target.portKey left = Target.portKey right := by
  have htext := String.ofList_injective (asBytes_inj.mp h)
  have hlength : ∀ protocol, (protocolName protocol).toList.length = 3 := by
    rintro (_ | _) <;> rfl
  obtain ⟨hport, hprotocol⟩ := List.append_inj' htext (by simp [hlength])
  injection hprotocol with _ hprotocol
  rw [Target.portKey, Target.portKey, nonZero_inj (decimal_inj.mp hport),
    protocolName_inj (String.toList_injective hprotocol)]

theorem nodup_portKeys {ports : List PortPublication} (h : (ports.map Target.portKey).Nodup) :
    (ports.map portKey).Nodup := by
  rw [List.Nodup, List.pairwise_map] at h ⊢
  exact h.imp fun hne heq => hne (portKey_inj heq)

theorem uniqueMember_ports {entry : PortPublication → String × Value}
    {ports : List PortPublication} (hentry : ∀ port, (entry port).1 = decoded (portKey port))
    (hkeys : (ports.map Target.portKey).Nodup) (h : ∀ port ∈ ports, UniqueKeys (entry port).2) :
    UniqueMember (mapField entry ports) := by
  exact uniqueMember_if (uniqueKeys_entries hentry (fun port _ => isUtf8_portKey port)
    (nodup_portKeys hkeys) h)

theorem uniqueKeys_hostConfig (h : ContainerAccepted resources container) :
    UniqueKeys (fieldsObject (hostConfigFields resources container)) := by
  have hports : ((container.ports.filter (!·.bindings.isEmpty)).map Target.portKey).Nodup :=
    h.portKeys.sublist (List.filter_sublist.map _)
  apply uniqueKeys_of_members keys_hostConfig
  exact ⟨uniqueMember_ports (fun _ => rfl) hports fun port _ =>
      uniqueKeys_array fun binding _ => uniqueKeys_hostBinding binding,
    uniqueMember_list fun mount _ => uniqueKeys_bind mount,
    uniqueMember_list fun mount _ => uniqueKeys_mount resources mount,
    uniqueMember_map fun _ _ => uniqueKeys_text _,
    uniqueMember_map fun restart _ => uniqueKeys_restart restart,
    uniqueMember_map fun _ _ => .bool _, uniqueMember_map fun _ _ => .bool _,
    uniqueMember_map fun _ _ => uniqueKeys_number _,
    uniqueMember_map fun _ _ => uniqueKeys_limit _,
    uniqueMember_map fun _ _ => uniqueKeys_number _,
    uniqueMember_list fun limit _ => uniqueKeys_ulimit limit,
    uniqueMember_list fun device _ => uniqueKeys_device device,
    uniqueMember_texts, uniqueMember_texts, uniqueMember_texts,
    uniqueMember_if (uniqueKeys_labels h.settings.sysctlKeys),
    uniqueMember_texts, uniqueMember_texts, uniqueMember_texts,
    uniqueMember_map fun log hlog => uniqueKeys_log (h.settings.logConfig log hlog),
    uniqueMember_map fun _ _ => .string _⟩

theorem uniqueKeys_container (h : ContainerAccepted resources container) :
    UniqueKeys (containerBody resources container) := by
  apply uniqueKeys_of_members keys_containerBody
  exact ⟨uniqueMember_some (uniqueKeys_text _),
    uniqueMember_if (uniqueKeys_array fun _ _ => uniqueKeys_text _),
    uniqueMember_command, uniqueMember_command,
    uniqueMember_map fun health _ => uniqueKeys_health health,
    uniqueMember_if (uniqueKeys_labels h.labels),
    uniqueMember_text, uniqueMember_text, uniqueMember_text, uniqueMember_text,
    uniqueMember_number,
    uniqueMember_ports (fun _ => rfl) h.portKeys fun _ _ => .object List.nodup_nil (by simp),
    uniqueMember_some (uniqueKeys_hostConfig h),
    uniqueMember_map fun attachment _ => uniqueKeys_networking resources attachment⟩

theorem uniqueKeys_connection (attachment : NetworkAttachmentIntent) :
    UniqueKeys (connectionBody container attachment) := by
  refine uniqueKeys_of_members (show ["Container", "EndpointConfig"].Nodup by decide) ?_
  exact ⟨uniqueMember_some (uniqueKeys_text _),
    uniqueMember_some (uniqueKeys_endpoint attachment)⟩

end Containers

section Requests

variable {intent : TargetIntent} {path : Chars}

theorem uniqueKeys_request {nodes : List OperationNode} {request : Chars × Value}
    (h : request ∈ nodes.flatMap (nodeRequests path intent.resources)) :
    UniqueKeys (requestValue request) := by
  have hbody : UniqueKeys request.2 := by
    have hrequest := requestBody_of_mem h
    generalize request.2 = body at hrequest ⊢
    cases hrequest with
    | network h source =>
        have haccepted : SourceAccepted _ := intent.accepted.each _ h
        rw [source] at haccepted
        exact uniqueKeys_network haccepted
    | volume h =>
        have hlabels : LabelsAccepted (.volume _ _ _) := intent.accepted.labels _ h
        exact uniqueKeys_volume hlabels.2.2
    | container h => exact uniqueKeys_container (intent.accepted.each _ h)
    | connection container attachment => exact uniqueKeys_connection attachment
  refine uniqueKeys_of_members (show ["method", "path", "body"].Nodup by decide) ?_
  exact ⟨uniqueMember_some (.string _), uniqueMember_some (.string _), uniqueMember_some hbody⟩

end Requests

end DockerLens.Render
