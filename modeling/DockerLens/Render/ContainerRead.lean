import DockerLens.Render.NetworkMode
import DockerLens.Render.SettingsRead

namespace DockerLens.Render

open DockerLens.Text
open DockerLens.Json
open DockerLens.Observation
open DockerLens.Fold
open DockerLens.Acquisition
open DockerLens.Target
open DockerLens.Decoder

section Inspection

/-- An object without the members of some names. -/
def withoutMembers (names : List String) : Value → Value
  | .object members => .object (members.filter fun member => decide (member.1 ∉ names))
  | other => other

/-- What inspection shows of a container: the body that created it, taken apart. -/
def inspected (id : String) (body : Value) : Value :=
  .object [("Config", withoutMembers ["HostConfig", "NetworkingConfig"] body),
    ("HostConfig", (body.get "HostConfig").getD .null), ("Id", .string id)]

theorem lookup_filter (names : List String) (members : List (String × Value)) (key : String) :
    (members.filter fun member => decide (member.1 ∉ names)).lookup key =
      if key ∈ names then none else members.lookup key := by
  induction members with
  | nil => simp
  | cons member members ih =>
      rw [List.filter_cons, lookup_member]
      split
      · next hmember =>
          rw [lookup_member, ih]
          split
          · next hkey =>
              subst hkey
              rw [decide_eq_true_eq] at hmember
              rw [if_neg hmember]
          · rfl
      · next hmember =>
          rw [ih]
          rw [decide_eq_true_eq, not_not] at hmember
          split
          · rfl
          · next hnames =>
              rw [if_neg]
              rintro rfl
              exact hnames hmember

theorem known_withoutMembers {root : Value} {fields : String → Option Value}
    (h : Known root fields) (names : List String)
    (hname : fields "__docker_lens_redacted__" = none) :
    Known (withoutMembers names root) fun key => if key ∈ names then none else fields key := by
  obtain ⟨members, rfl, hlength⟩ := h.bounded
  have hget : ∀ key, (withoutMembers names (.object members)).get key =
      if key ∈ names then none else fields key := by
    intro key
    rw [withoutMembers, Value.get_object, lookup_filter, ← h.get, Value.get_object]
  refine ⟨⟨_, rfl, Nat.le_trans (List.length_filter_le _ _) hlength⟩, ?_, hget⟩
  apply isRedacted_of_get_none
  rw [hget, hname, ite_self]

end Inspection

/-- No list of a container is as long as the decoder reads. -/
structure Sized (container : ContainerIntent) : Prop where
  environment : container.environment.length < maxCollectionItems
  entrypoint : ∀ arguments, container.entrypoint = .exec arguments →
    arguments.length < maxCollectionItems
  command : ∀ arguments, container.command = .exec arguments →
    arguments.length < maxCollectionItems
  healthcheck : ∀ health ∈ container.healthcheck, ∀ arguments, health.test = .exec arguments →
    arguments.length < maxCollectionItems
  labels : container.settings.labels.length < maxCollectionItems
  ports : container.ports.length < maxCollectionItems
  bindings : ∀ port ∈ container.ports, port.bindings.length < maxCollectionItems
  mounts : container.mounts.length < maxCollectionItems
  ulimits : container.settings.ulimits.length < maxCollectionItems
  devices : container.settings.devices.length < maxCollectionItems
  capAdd : container.settings.capAdd.length < maxCollectionItems
  capDrop : container.settings.capDrop.length < maxCollectionItems
  securityOptions : container.settings.securityOptions.length < maxCollectionItems
  sysctls : container.settings.sysctls.length < maxCollectionItems
  groupAdd : container.settings.groupAdd.length < maxCollectionItems
  dns : container.settings.dns.length < maxCollectionItems
  extraHosts : container.settings.extraHosts.length < maxCollectionItems
  logOptions : ∀ log ∈ container.settings.logConfig, log.options.length < maxCollectionItems

/-- What is decoded of the settings of a container that the runtime applies. -/
structure RuntimeRead (resources : List TargetResource) (container : ContainerIntent)
    (found : RuntimeObservation) : Prop where
  readOnlyRootfs : found.readOnlyRootfs = readValue id container.settings.readOnlyRootfs
  memoryBytes : found.memoryBytes =
    readValue (fun memory => limitNumber (some (memoryValue memory))) container.settings.memoryLimit
  pidsLimit : found.pidsLimit =
    readValue (fun pids => limitNumber (pidsCount pids)) container.settings.pidsLimit
  shmSizeBytes : found.shmSizeBytes =
    readValue (fun size => limitNumber (some size.get)) container.settings.shmSizeBytes
  ulimits : found.ulimits = readList readUlimit container.settings.ulimits
  capAdd : found.capAdd = readList Checked.bytes container.settings.capAdd
  capDrop : found.capDrop = readList Checked.bytes container.settings.capDrop
  securityOptions : found.securityOptions =
    readList (fun option => asBytes (securityOptionText option)) container.settings.securityOptions
  usernsMode : found.usernsMode = readSome .effective (fun mode =>
    readText .effective (asBytes (usernsModeName mode))) container.settings.usernsMode
  supplementaryGroups : found.supplementaryGroups =
    readList Checked.bytes container.settings.groupAdd
  sysctls : Collected .effective (container.settings.sysctls.map fun item =>
    Decoder.readEntry (item.key, item.value)) found.sysctls
  dnsServers : found.dnsServers =
    readList (fun address => asBytes address.text) container.settings.dns
  dnsOptions : found.dnsOptions = .unavailable .missing .effective
  dnsSearch : found.dnsSearch = .unavailable .missing .effective
  extraHosts : found.extraHosts = readList extraHostText container.settings.extraHosts
  init : found.init = readValue id container.settings.init
  stopSignal : found.stopSignal = readSome .effective (readText .effective)
    (container.settings.stopSignal.map Checked.bytes)
  stopTimeout : found.stopTimeout = readValue (fun seconds => limitNumber (some seconds))
    (container.settings.stopTimeoutSeconds.map UInt32.toNat)
  noLogging : container.settings.logConfig = none →
    found.logging = .unavailable .missing .effective
  logging : ∀ log ∈ container.settings.logConfig, ∃ logging,
    found.logging = .present logging .present .effective ∧ LogRead log logging
  tmpfs : found.tmpfs = .unavailable .missing .effective
  binds : found.binds = readList readBind (relabelled container.mounts)
  configuredMounts : found.configuredMounts =
    readList (readMount resources) (structured container.mounts)
  volumesFrom : found.volumesFrom = .unavailable .missing .effective
  devices : found.devices = readList readDevice container.settings.devices

section Runtime

variable {resources : List TargetResource} {container : ContainerIntent} {root host config : Value}
  {fields inner : String → Option Value}

/-- The members of the host configuration, as its document keeps them. -/
def hostField? (resources : List TargetResource) (container : ContainerIntent) (key : String) :
    Option Value :=
  (((hostConfigFields resources container).lookup key).join).map Json.normalize

theorem observe_name {α : Type} {field : FieldPath} (name : α → String) (found : Option α) :
    observeValue .effective (fun value => string value field)
        ((found.map fun a => .string (name a)).map Json.normalize) =
      .ok (readSome .effective (fun a => readText .effective (asBytes (name a))) found) := by
  cases found with
  | none => rfl
  | some a =>
      rw [Option.map_some, Option.map_some, observe_fixed]
      rfl

theorem logConfig_read {config : Option LogConfig} (h : ∀ log ∈ config, LogAccepted log)
    (hlength : ∀ log ∈ config, log.options.length < maxCollectionItems) :
    ∃ found, observeValue .effective Decoder.logging ((config.map logBody).map Json.normalize) =
        .ok found ∧
      (config = none → found = .unavailable .missing .effective) ∧
      ∀ log ∈ config, ∃ logging, found = .present logging .present .effective ∧
        LogRead log logging := by
  cases config with
  | none => exact ⟨_, rfl, fun _ => rfl, by rintro _ ⟨⟩⟩
  | some log =>
      obtain ⟨found, hfound, hread, hplain⟩ :=
        logging_read (h log rfl) (Nat.le_of_lt (hlength log rfl))
      refine ⟨_, @observe_record _ _ _ _ (fun _ => found) _ ?_ ?_, ?_, ?_⟩
      · rintro _ ⟨⟩
        exact hfound
      · rintro _ ⟨⟩
        exact hplain
      · rintro ⟨⟩
      · rintro _ ⟨⟩
        exact ⟨found, rfl, hread⟩

theorem host_texts (hroot : Known root fields) (hhost : fields "HostConfig" = some host)
    (hhostKnown : Known host (hostField? resources container)) {α : Type} {text : α → Bytes}
    {values : List α} {key : String} {field : FieldPath}
    (hkey : (hostConfigFields resources container).lookup key = some (textsField text values))
    (hutf8 : ∀ a ∈ values, isUtf8 (text a) = true) (hlength : values.length < maxCollectionItems) :
    Decoder.hostStrings root key field = .ok (readList text values) := by
  rw [Decoder.hostStrings, hroot.observed_some hhost hhostKnown, hostField?, hkey]
  exact observe_texts hutf8 (Nat.le_of_lt hlength)

theorem limits_read {settings : ContainerSettings} (h : boundedLimits settings = true) :
    (∀ memory ∈ settings.memoryLimit, memoryValue memory ≤ maxI64) ∧
      (∀ pids ∈ settings.pidsLimit, ∀ value ∈ pidsCount pids, value ≤ maxI64) ∧
      ∀ size ∈ settings.shmSizeBytes, size.get ≤ maxI64 := by
  simp only [boundedLimits, Bool.and_eq_true, Option.all_eq_true, decide_eq_true_eq] at h
  obtain ⟨⟨hmemory, hpids⟩, hshm⟩ := h
  refine ⟨?_, ?_, hshm⟩
  · intro memory hfound
    rw [hfound] at hmemory
    cases memory with
    | unlimited => exact Nat.zero_le _
    | bytes value => simpa [memoryValue] using hmemory
  · intro pids hfound value hvalue
    rw [hfound] at hpids
    cases pids with
    | unlimited => cases hvalue
    | count count =>
        obtain rfl := Option.some.inj hvalue
        simpa using hpids

theorem runtime_read (hroot : Known root fields) (hhost : fields "HostConfig" = some host)
    (hhostKnown : Known host (hostField? resources container))
    (hconfig : fields "Config" = some config) (hconfigKnown : Known config inner)
    (hstopSignal : inner "StopSignal" = ((container.settings.stopSignal.map Checked.bytes).map
      stringValue).map Json.normalize)
    (hstopTimeout : inner "StopTimeout" = ((container.settings.stopTimeoutSeconds.map
      UInt32.toNat).map numberValue).map Json.normalize)
    (h : SettingsAccepted container.settings) (hsized : Sized container) :
    ∃ found, runtime root = .ok found ∧ RuntimeRead resources container found := by
  obtain ⟨hmemory, hpids, hshm⟩ := limits_read h.limits
  obtain ⟨sysctls, hsysctls, hreadSysctls⟩ := observe_pairs
    (fun value => mapEntries value .securitySetting) Decoder.readEntry
    (fun _ hkept => mapEntries_texts .securitySetting hkept)
    (fun item (_ : item ∈ container.settings.sysctls) => isUtf8_of_label item.checked)
    h.sysctlKeys (Nat.le_of_lt hsized.sysctls)
  obtain ⟨logging, hlogging, hnoLogging, hreadLogging⟩ :=
    logConfig_read h.logConfig hsized.logOptions
  have hreadOnlyRootfs : boolField root ["HostConfig", "ReadonlyRootfs"] .runtimeMount .effective =
      .ok (readValue id container.settings.readOnlyRootfs) :=
    (hroot.observed_some hhost hhostKnown "ReadonlyRootfs").trans (observe_bools _)
  have hmemoryBytes : signedField root ["HostConfig", "Memory"] .resourceLimit .effective =
      .ok (readValue (fun memory => limitNumber (some (memoryValue memory)))
        container.settings.memoryLimit) :=
    (hroot.observed_some hhost hhostKnown "Memory").trans
      (@observe_limit _ _ (fun memory => some (memoryValue memory)) _
        fun memory hfound _ hvalue => Option.some.inj hvalue ▸ hmemory memory hfound)
  have hpidsLimit : signedField root ["HostConfig", "PidsLimit"] .resourceLimit .effective =
      .ok (readValue (fun pids => limitNumber (pidsCount pids)) container.settings.pidsLimit) :=
    (hroot.observed_some hhost hhostKnown "PidsLimit").trans (observe_limit hpids)
  have hshmSizeBytes : signedField root ["HostConfig", "ShmSize"] .resourceLimit .effective =
      .ok (readValue (fun size => limitNumber (some size.get)) container.settings.shmSizeBytes) :=
    (hroot.observed_some hhost hhostKnown "ShmSize").trans
      (@observe_limit _ _ (fun size => some size.get) _
        fun size hfound _ hvalue => Option.some.inj hvalue ▸ hshm size hfound)
  have hlimits : ∀ limit ∈ container.settings.ulimits,
      validUlimitValue limit.soft = true ∧ validUlimitValue limit.hard = true := by
    intro limit hlimit
    have hvalues := (h.ulimits limit hlimit).values
    simp only [Bool.and_eq_true] at hvalues
    exact hvalues.1
  have hulimits : observed root ["HostConfig", "Ulimits"] .resourceLimit .effective ulimits =
      .ok (readList readUlimit container.settings.ulimits) :=
    (hroot.observed_some hhost hhostKnown "Ulimits").trans (observe_list ulimit
      (fun limit hlimit => ulimit_read (hlimits limit hlimit).1 (hlimits limit hlimit).2)
      (Nat.le_of_lt hsized.ulimits))
  have hcapAdd : Decoder.hostStrings root "CapAdd" .securitySetting =
      .ok (readList Checked.bytes container.settings.capAdd) :=
    host_texts hroot hhost hhostKnown rfl (fun token _ => isUtf8_of_token token.checked)
      hsized.capAdd
  have hcapDrop : Decoder.hostStrings root "CapDrop" .securitySetting =
      .ok (readList Checked.bytes container.settings.capDrop) :=
    host_texts hroot hhost hhostKnown rfl (fun token _ => isUtf8_of_token token.checked)
      hsized.capDrop
  have hsecurityOptions : Decoder.hostStrings root "SecurityOpt" .securitySetting =
      .ok (readList (fun option => asBytes (securityOptionText option))
        container.settings.securityOptions) :=
    host_texts hroot hhost hhostKnown rfl (fun _ _ => isUtf8_asBytes _) hsized.securityOptions
  have husernsMode : stringField root ["HostConfig", "UsernsMode"] .securitySetting .effective =
      .ok (readSome .effective (fun mode => readText .effective (asBytes (usernsModeName mode)))
        container.settings.usernsMode) :=
    (hroot.observed_some hhost hhostKnown "UsernsMode").trans (observe_name usernsModeName _)
  have hgroups : Decoder.hostStrings root "GroupAdd" .securitySetting =
      .ok (readList Checked.bytes container.settings.groupAdd) :=
    host_texts hroot hhost hhostKnown rfl (fun group _ => isUtf8_of_containerUser group.checked)
      hsized.groupAdd
  have hfoundSysctls : observed root ["HostConfig", "Sysctls"] .securitySetting .effective
      (fun value => mapEntries value .securitySetting) = .ok sysctls :=
    (hroot.observed_some hhost hhostKnown "Sysctls").trans hsysctls
  have hdnsServers : Decoder.hostStrings root "Dns" .nameResolution =
      .ok (readList (fun address => asBytes address.text) container.settings.dns) :=
    host_texts hroot hhost hhostKnown rfl (fun _ _ => isUtf8_asBytes _) hsized.dns
  have hdnsOptions : Decoder.hostStrings root "DnsOptions" .nameResolution =
      .ok (.unavailable .missing .effective) :=
    hroot.observed_some hhost hhostKnown "DnsOptions"
  have hdnsSearch : Decoder.hostStrings root "DnsSearch" .nameResolution =
      .ok (.unavailable .missing .effective) :=
    hroot.observed_some hhost hhostKnown "DnsSearch"
  have hextraHosts : Decoder.hostStrings root "ExtraHosts" .nameResolution =
      .ok (readList extraHostText container.settings.extraHosts) :=
    host_texts hroot hhost hhostKnown rfl (fun extra _ => isUtf8_extraHostText extra)
      hsized.extraHosts
  have hinit : boolField root ["HostConfig", "Init"] .stopBehavior .effective =
      .ok (readValue id container.settings.init) :=
    (hroot.observed_some hhost hhostKnown "Init").trans (observe_bools _)
  have hfoundSignal : stringField root ["Config", "StopSignal"] .stopBehavior .effective =
      .ok (readSome .effective (readText .effective)
        (container.settings.stopSignal.map Checked.bytes)) := by
    refine (hroot.observed_some hconfig hconfigKnown "StopSignal").trans ?_
    rw [hstopSignal]
    exact @observe_text _ _ _ id _ fun _ => isUtf8_checked fun _ => isUtf8_of_validText
  have hfoundTimeout : signedField root ["Config", "StopTimeout"] .stopBehavior .effective =
      .ok (readValue (fun seconds => limitNumber (some seconds))
        (container.settings.stopTimeoutSeconds.map UInt32.toNat)) := by
    refine (hroot.observed_some hconfig hconfigKnown "StopTimeout").trans ?_
    rw [hstopTimeout]
    apply @observe_limit _ _ some
    intro seconds hfound value hvalue
    obtain ⟨authored, -, rfl⟩ := Option.map_eq_some_iff.mp hfound
    obtain rfl := Option.some.inj hvalue
    exact Nat.le_trans (Nat.le_of_lt authored.toNat_lt) (by decide)
  have hfoundLogging : observed root ["HostConfig", "LogConfig"] .logging .effective
      Decoder.logging = .ok logging :=
    (hroot.observed_some hhost hhostKnown "LogConfig").trans hlogging
  have htmpfs : observed root ["HostConfig", "Tmpfs"] .runtimeMount .effective
      (fun value => mapEntries value .runtimeMount) = .ok (.unavailable .missing .effective) :=
    hroot.observed_some hhost hhostKnown "Tmpfs"
  have hbinds : Decoder.hostStrings root "Binds" .runtimeMount =
      .ok (readList readBind (relabelled container.mounts)) :=
    (hroot.observed_some hhost hhostKnown "Binds").trans (observe_list
      (fun item => string item .runtimeMount)
      (fun mount hmount => bind_read (List.mem_filter.mp hmount).2)
      (Nat.le_of_lt (Nat.lt_of_le_of_lt (List.length_filter_le _ _) hsized.mounts)))
  have hmounts : observed root ["HostConfig", "Mounts"] .runtimeMount .effective
      configuredMounts = .ok (readList (readMount resources) (structured container.mounts)) :=
    (hroot.observed_some hhost hhostKnown "Mounts").trans (observe_list configuredMount
      (fun mount _ => configuredMount_read mount)
      (Nat.le_of_lt (Nat.lt_of_le_of_lt (List.length_filter_le _ _) hsized.mounts)))
  have hvolumesFrom : Decoder.hostStrings root "VolumesFrom" .runtimeMount =
      .ok (.unavailable .missing .effective) :=
    hroot.observed_some hhost hhostKnown "VolumesFrom"
  have hdevices : observed root ["HostConfig", "Devices"] .device .effective devices =
      .ok (readList readDevice container.settings.devices) :=
    (hroot.observed_some hhost hhostKnown "Devices").trans (observe_list device
      (fun configured _ => device_read configured) (Nat.le_of_lt hsized.devices))
  refine ⟨⟨_, _, _, _, _, _, _, _, _, _, sysctls, _, _, _, _, _, _, _, logging, _, _, _, _, _⟩, ?_,
    ⟨rfl, rfl, rfl, rfl, rfl, rfl, rfl, rfl, rfl, rfl, hreadSysctls, rfl, rfl, rfl, rfl, rfl, rfl,
      rfl, hnoLogging, hreadLogging, rfl, rfl, rfl, rfl, rfl⟩⟩
  rw [runtime, hreadOnlyRootfs, ok_bind, hmemoryBytes, ok_bind, hpidsLimit, ok_bind,
    hshmSizeBytes, ok_bind, hulimits, ok_bind, hcapAdd, ok_bind, hcapDrop, ok_bind,
    hsecurityOptions, ok_bind, husernsMode, ok_bind, hgroups, ok_bind, hfoundSysctls, ok_bind,
    hdnsServers, ok_bind, hdnsOptions, ok_bind, hdnsSearch, ok_bind, hextraHosts, ok_bind, hinit,
    ok_bind, hfoundSignal, ok_bind, hfoundTimeout, ok_bind, hfoundLogging, ok_bind, htmpfs,
    ok_bind, hbinds, ok_bind, hmounts, ok_bind, hvolumesFrom, ok_bind, hdevices, ok_bind]
  rfl

end Runtime

/-- The network mode of a container: the network that it attaches to first. -/
def readNetworkMode (name : Bytes) : Observed NetworkModeObservation :=
  .present ⟨networkModeKind (decoded name), name⟩ .present .effective

/-- What is decoded of a container that was created from its body. -/
structure ContainerRead (resources : List TargetResource) (container : ContainerIntent)
    (id : String) (found : ContainerObservation) : Prop where
  id : found.id = readText .runtimeAssigned (asBytes id)
  name : found.name = .unavailable .missing .effective
  image : found.image = readText .effective container.image.bytes
  imageId : found.imageId = .unavailable .missing .runtimeAssigned
  labels : Collected .effective (container.settings.labels.map fun label =>
    readLabel (label.key, label.value)) found.labels
  user : found.user = readSome .effective (readText .effective)
    (container.settings.user.map Checked.bytes)
  workingDirectory : found.workingDirectory = readSome .effective (readText .effective)
    (container.settings.workingDir.map Checked.bytes)
  hostname : found.hostname = readSome .effective (readText .effective)
    (container.settings.hostname.map Checked.bytes)
  environment : found.environment = readList readAssignment container.environment
  exposedPorts : Collected .effective (container.ports.map readKey) found.exposedPorts
  configuredPorts : Collected .effective
    ((container.ports.filter (!·.bindings.isEmpty)).map readPort) found.configuredPorts
  runtimePorts : found.runtimePorts = .unavailable .missing .runtimeAssigned
  mounts : found.mounts = .unavailable .missing .effective
  networks : found.networks = .unavailable .missing .runtimeAssigned
  networkMode : found.networkMode = readSome .effective readNetworkMode
    (container.networks.head?.map (attachedName resources))
  command : found.command = readCommand container.command
  entrypoint : found.entrypoint = readCommand container.entrypoint
  healthcheck : found.healthcheck = readValue readHealth container.healthcheck
  restartPolicy : found.restartPolicy = readValue readRestart container.restart
  runtime : RuntimeRead resources container found.runtime

theorem observe_networkMode {names : Option Bytes}
    (h : ∀ name ∈ names, validIdentity name = true) :
    observeValue .effective Decoder.networkMode ((names.map stringValue).map Json.normalize) =
      .ok (readSome .effective readNetworkMode names) := by
  cases names with
  | none => rfl
  | some name =>
      have hname := h name rfl
      have hmode : Decoder.networkMode (.string (decoded name)) =
          .ok ⟨networkModeKind (decoded name), name⟩ := by
        rw [Decoder.networkMode, Value.asStr_string, shaped, Except.map,
          asBytes_decoded (isUtf8_of_identity hname)]
      rw [Option.map_some, Option.map_some, stringValue, normalize_string, observeValue,
        if_neg (by simp [Value.isNull]), if_neg (by simp), hmode, presence_decoded hname]
      rfl

section Container

variable {resources : List TargetResource} {container : ContainerIntent}

/-- The members of the body of a container, as its document keeps them. -/
def bodyField? (resources : List TargetResource) (container : ContainerIntent) (key : String) :
    Option Value :=
  (((("Image", some (stringValue container.image.bytes)) :: configFields container ++
    [("HostConfig", some (fieldsObject (hostConfigFields resources container))),
      ("NetworkingConfig", container.networks.head?.map (networkingBody resources))]).lookup
    key).join).map Json.normalize

theorem known_containerBody :
    Known (Json.normalize (containerBody resources container)) (bodyField? resources container) :=
  Known.ofFields (show ["__docker_lens_redacted__", "Image", "Env", "Entrypoint", "Cmd",
    "Healthcheck", "Labels", "User", "WorkingDir", "Hostname", "StopSignal", "StopTimeout",
    "ExposedPorts", "HostConfig", "NetworkingConfig"].Nodup by decide)
    (show 14 ≤ maxCollectionItems by decide)

theorem known_hostConfig :
    Known (Json.normalize (fieldsObject (hostConfigFields resources container)))
      (hostField? resources container) :=
  Known.ofFields (show ["__docker_lens_redacted__", "PortBindings", "Binds", "Mounts",
    "NetworkMode", "RestartPolicy", "ReadonlyRootfs", "Init", "Memory", "PidsLimit", "ShmSize",
    "Ulimits", "Devices", "CapAdd", "CapDrop", "SecurityOpt", "Sysctls", "GroupAdd", "Dns",
    "ExtraHosts", "LogConfig", "UsernsMode"].Nodup by decide)
    (show 21 ≤ maxCollectionItems by decide)

/-- The members of what inspection shows. -/
def inspectedField? (id : String) (body : Value) (key : String) : Option Value :=
  List.lookup key [("Config", withoutMembers ["HostConfig", "NetworkingConfig"] body),
    ("HostConfig", (body.get "HostConfig").getD .null), ("Id", .string id)]

theorem known_inspected (id : String) (body : Value) :
    Known (inspected id body) (inspectedField? id body) :=
  ⟨⟨_, rfl, (by decide : 3 ≤ maxCollectionItems)⟩, isRedacted_of_get_none rfl, fun _ => rfl⟩

theorem container_observed (hrenderable : Renderable resources container)
    (h : ContainerAccepted resources container) (hsized : Sized container) (id : String)
    (reference : ResourceRef) :
    ∃ found, Decoder.container
        (inspected id (Json.normalize (containerBody resources container))) reference = .ok found ∧
      ContainerRead resources container id found := by
  have hroot := known_inspected id (Json.normalize (containerBody resources container))
  have hconfig := known_withoutMembers
    (@known_containerBody resources container) ["HostConfig", "NetworkingConfig"] rfl
  have hhost : inspectedField? id (Json.normalize (containerBody resources container))
      "HostConfig" =
        some (Json.normalize (fieldsObject (hostConfigFields resources container))) := by
    change some (((Json.normalize (containerBody resources container)).get
      "HostConfig").getD .null) = _
    rw [get_hostConfig, Option.getD_some]
  obtain ⟨members, hobject⟩ := hroot.object_eq .other
  obtain ⟨runtime, hruntime, hreadRuntime⟩ := runtime_read hroot hhost known_hostConfig rfl
    hconfig rfl rfl h.settings hsized
  obtain ⟨labels, hlabels, hreadLabels⟩ := observe_pairs Decoder.labels readLabel
    (fun _ hkept => labels_texts hkept)
    (fun label (_ : label ∈ container.settings.labels) => isUtf8_of_label label.checked)
    h.labels (Nat.le_of_lt hsized.labels)
  obtain ⟨exposed, hexposed, hreadExposed⟩ :=
    observe_exposed h.portKeys (Nat.le_of_lt hsized.ports)
  obtain ⟨published, hpublished, hreadPublished⟩ :=
    observe_published h.portKeys (Nat.le_of_lt hsized.ports)
      fun port hport => Nat.le_of_lt (hsized.bindings port hport)
  have hcommands := h.commands
  rw [Bool.and_eq_true] at hcommands
  have hnames : ∀ name ∈ container.networks.head?.map (attachedName resources),
      validIdentity name = true := by
    intro name hname
    obtain ⟨attachment, hattachment, rfl⟩ := Option.map_eq_some_iff.mp hname
    obtain ⟨network, -, -, hidentity⟩ :=
      exists_attached (hrenderable.networks attachment (List.mem_of_head? hattachment))
    exact hidentity ▸ network.identity.checked
  have hid : stringField _ ["Id"] .other .runtimeAssigned =
      .ok (readText .runtimeAssigned (asBytes id)) :=
    (hroot.observed_eq "Id").trans (observe_string id)
  have hname : stringField _ ["Name"] .containerName .effective =
      .ok (.unavailable .missing .effective) :=
    hroot.observed_eq "Name"
  have himage : stringField _ ["Config", "Image"] .image .effective =
      .ok (readText .effective container.image.bytes) :=
    (hroot.observed_some rfl hconfig "Image").trans
      (@observe_text _ _ _ (fun _ => container.image.bytes) (some ()) fun _ _ =>
        isUtf8_of_image container.image.checked)
  have himageId : stringField _ ["Image"] .image .runtimeAssigned =
      .ok (.unavailable .missing .runtimeAssigned) :=
    hroot.observed_eq "Image"
  have hfoundLabels : observed _ ["Config", "Labels"] (.label 0) .effective Decoder.labels =
      .ok labels :=
    (hroot.observed_some rfl hconfig "Labels").trans hlabels
  have huser : stringField _ ["Config", "User"] .user .effective =
      .ok (readSome .effective (readText .effective)
        (container.settings.user.map Checked.bytes)) :=
    (hroot.observed_some rfl hconfig "User").trans
      (@observe_text _ _ _ (fun bytes => bytes) _ fun _ =>
        isUtf8_checked fun _ => isUtf8_of_containerUser)
  have hworkingDir : stringField _ ["Config", "WorkingDir"] .workingDirectory .effective =
      .ok (readSome .effective (readText .effective)
        (container.settings.workingDir.map Checked.bytes)) :=
    (hroot.observed_some rfl hconfig "WorkingDir").trans
      (@observe_text _ _ _ (fun bytes => bytes) _ fun _ =>
        isUtf8_checked fun _ => isUtf8_of_absolutePath)
  have hhostname : stringField _ ["Config", "Hostname"] .hostname .effective =
      .ok (readSome .effective (readText .effective)
        (container.settings.hostname.map Checked.bytes)) :=
    (hroot.observed_some rfl hconfig "Hostname").trans
      (@observe_text _ _ _ (fun bytes => bytes) _ fun _ =>
        isUtf8_checked fun _ => isUtf8_of_hostname)
  have henvironment : observed _ ["Config", "Env"] (.environment 0) .effective environment =
      .ok (readList readAssignment container.environment) :=
    (hroot.observed_some rfl hconfig "Env").trans
      (observe_environment (Nat.le_of_lt hsized.environment))
  have hfoundExposed : observed _ ["Config", "ExposedPorts"] (.port 0) .effective exposedPorts =
      .ok exposed :=
    (hroot.observed_some rfl hconfig "ExposedPorts").trans hexposed
  have hfoundPublished : observed _ ["HostConfig", "PortBindings"] (.port 0) .effective
      (fun value => portBindings value .effective) = .ok published :=
    (hroot.observed_some hhost known_hostConfig "PortBindings").trans hpublished
  have hruntimePorts : observed _ ["NetworkSettings", "Ports"] (.port 0) .runtimeAssigned
      (fun value => portBindings value .runtimeAssigned) =
        .ok (.unavailable .missing .runtimeAssigned) :=
    hroot.observed_none rfl _
  have hmounts : observed _ ["Mounts"] (.mount 0) .effective mounts =
      .ok (.unavailable .missing .effective) :=
    hroot.observed_eq "Mounts"
  have hnetworks : observed _ ["NetworkSettings", "Networks"] (.network 0) .runtimeAssigned
      networks = .ok (.unavailable .missing .runtimeAssigned) :=
    hroot.observed_none rfl _
  have hmode := observe_networkMode hnames
  rw [Option.map_map stringValue] at hmode
  have hnetworkMode : observed _ ["HostConfig", "NetworkMode"] .networkMode .effective
      Decoder.networkMode = .ok (readSome .effective readNetworkMode
        (container.networks.head?.map (attachedName resources))) :=
    (hroot.observed_some hhost known_hostConfig "NetworkMode").trans hmode
  have hcommand : observed _ ["Config", "Cmd"] .command .effective
      (fun value => Decoder.command value .command) = .ok (readCommand container.command) :=
    (hroot.observed_some rfl hconfig "Cmd").trans (observe_command hcommands.2
      fun arguments hexec => Nat.le_of_lt (hsized.command arguments hexec))
  have hentrypoint : observed _ ["Config", "Entrypoint"] .entrypoint .effective
      (fun value => Decoder.command value .entrypoint) = .ok (readCommand container.entrypoint) :=
    (hroot.observed_some rfl hconfig "Entrypoint").trans (observe_command hcommands.1
      fun arguments hexec => Nat.le_of_lt (hsized.entrypoint arguments hexec))
  have hhealthcheck : observed _ ["Config", "Healthcheck"] .healthcheck .effective healthcheck =
      .ok (readValue readHealth container.healthcheck) :=
    (hroot.observed_some rfl hconfig "Healthcheck").trans (observe_record
      (fun health hhealth => (healthcheck_read (hsized.healthcheck health hhealth)).1)
      fun health hhealth => (healthcheck_read (hsized.healthcheck health hhealth)).2)
  have hrestart : observed _ ["HostConfig", "RestartPolicy"] .restartPolicy .effective
      restartPolicy = .ok (readValue readRestart container.restart) :=
    (hroot.observed_some hhost known_hostConfig "RestartPolicy").trans (observe_record
      (fun restart _ => (restartPolicy_read restart).1)
      fun restart _ => (restartPolicy_read restart).2)
  refine ⟨⟨reference, _, _, _, _, labels, _, _, _, _, exposed, published, _, _, _, _, _, _, _, _,
    runtime⟩, ?_, ⟨rfl, rfl, rfl, rfl, hreadLabels, rfl, rfl, rfl, rfl, hreadExposed,
      hreadPublished, rfl, rfl, rfl, rfl, rfl, rfl, rfl, rfl, hreadRuntime⟩⟩
  rw [Decoder.container, hobject, ok_bind, hid, ok_bind, hname, ok_bind, himage, ok_bind,
    himageId, ok_bind, hfoundLabels, ok_bind, huser, ok_bind, hworkingDir, ok_bind, hhostname,
    ok_bind, henvironment, ok_bind, hfoundExposed, ok_bind, hfoundPublished, ok_bind,
    hruntimePorts, ok_bind, hmounts, ok_bind, hnetworks, ok_bind, hnetworkMode, ok_bind, hcommand,
    ok_bind, hentrypoint, ok_bind, hhealthcheck, ok_bind, hrestart, ok_bind, hruntime, ok_bind]
  rfl

end Container

/-- Decoding what the renderer emits for a container, as inspection shows it, gives back what was
authored. -/
theorem container_read {hash : HashOrder ResourceRef} {intent : TargetIntent}
    {capabilities : PlanningCapabilitySet} {nodes : List OperationNode} {graph : OperationGraph}
    (h : OperationGraph.new hash intent capabilities nodes = .ok graph)
    {container : ContainerIntent} (hcontainer : .container container ∈ intent.resources)
    (hsized : Sized container) (id : String) (reference : ResourceRef) :
    ∃ body document found, renderContainer container intent.resources = .ok body ∧
      fromSlice (asBytes (String.ofList body)) = some document ∧
      Decoder.container (inspected id document) reference = .ok found ∧
      ContainerRead intent.resources container id found := by
  have hrenderable : Renderable intent.resources container :=
    renderable_of_planned (OperationGraph.new_eq_ok_iff.mp h).1 hcontainer
  have haccepted : ContainerAccepted intent.resources container :=
    intent.accepted.each _ hcontainer
  obtain ⟨body, hbody, hspells⟩ := spells_container hrenderable
  obtain ⟨found, hfound, hread⟩ := container_observed hrenderable haccepted hsized id reference
  exact ⟨body, _, found, hbody, fromSlice_of_spells hspells, hfound, hread⟩

/-- A container with settings, a published port and mounts. -/
def servedContainer : ContainerIntent where
  reference := ⟨3⟩
  identity := ⟨asBytes "web", validIdentity_web⟩
  image := ⟨asBytes "nginx", validImage_nginx⟩
  environment := [⟨asBytes "MODE", asBytes "edge", by decide +kernel⟩]
  ports := [⟨⟨443, by decide, by decide⟩, .tcp,
    [⟨.unspecified, .fixed ⟨8443, by decide, by decide⟩⟩]⟩]
  mounts :=
    [⟨.volume ⟨2⟩, asBytes "/data", true, none, by decide +kernel⟩,
      ⟨.bind (asBytes "/etc/app"), asBytes "/app", false, some .shared, by decide +kernel⟩]
  networks := [⟨⟨1⟩, [], none, none⟩]
  entrypoint := .inherit
  command := .exec [⟨asBytes "serve", by decide +kernel⟩]
  healthcheck := none
  restart := some .always
  settings := { ContainerSettings.default with
    labels := [⟨asBytes "role", asBytes "proxy", by decide +kernel⟩]
    user := some ⟨asBytes "app:www", by decide +kernel⟩
    readOnlyRootfs := some true
    memoryLimit := some (.bytes ⟨1048576, by decide, by decide⟩)
    pidsLimit := some .unlimited }

def servedResources : List TargetResource :=
  [.network ⟨⟨1⟩, ⟨asBytes "front", validIdentity_front⟩, .declared, .create NetworkCreate.bridge⟩,
    .volume ⟨2⟩ ⟨asBytes "data", validIdentity_data⟩ [], .container servedContainer]

theorem sized_served : Sized servedContainer where
  environment := by decide
  entrypoint := by
    rintro _ ⟨⟩
  command := by
    rintro _ ⟨⟩
    decide
  healthcheck := by
    rintro _ ⟨⟩
  labels := by decide
  ports := by decide
  bindings := by decide
  mounts := by decide
  ulimits := by decide
  devices := by decide
  capAdd := by decide
  capDrop := by decide
  securityOptions := by decide
  sysctls := by decide
  groupAdd := by decide
  dns := by decide
  extraHosts := by decide
  logOptions := by
    rintro _ ⟨⟩

theorem container_read_front :
    ∃ body document found,
      renderContainer servedContainer servedResources = .ok body ∧
        fromSlice (asBytes (String.ofList body)) = some document ∧
        Decoder.container (inspected "c1" document) ⟨3⟩ = .ok found ∧
        found.user = readText .effective (asBytes "app:www") ∧
        found.configuredPorts = .present [⟨⟨443, .tcp⟩,
          .present [⟨.unavailable .missing .effective, .present 8443 .present .effective⟩] .present
            .effective⟩] .present .effective ∧
        found.runtime.memoryBytes = .present 1048576 .present .effective ∧
        found.runtime.pidsLimit = .present (-1) .present .effective ∧
        found.runtime.binds = .present [asBytes "/etc/app:/app:rw,z"] .present .effective ∧
        found.runtime.configuredMounts = .present [⟨readText .effective (asBytes "volume"),
          readText .effective (asBytes "data"), readText .effective (asBytes "/data"),
          .present true .present .effective, .unavailable .missing .effective,
          .unavailable .missing .effective, .unavailable .missing .effective⟩] .present
            .effective := by
  obtain ⟨graph, hgraph⟩ := exists_of_isOk (show (OperationGraph.new ⟨id, fun _ => .refl _⟩
    ⟨servedResources, by decide +kernel⟩ anyCapability (servedResources.map planNode)).isOk =
      true by decide +kernel)
  obtain ⟨body, document, found, hbody, hdocument, hfound, hread⟩ := container_read hgraph
    (show .container servedContainer ∈ servedResources by simp [servedResources]) sized_served
    "c1" ⟨3⟩
  obtain ⟨ports, hports, hperm⟩ := hread.configuredPorts.2 (by decide +kernel)
  refine ⟨body, document, found, hbody, hdocument, hfound, hread.user, ?_,
    hread.runtime.memoryBytes, hread.runtime.pidsLimit, hread.runtime.binds.trans ?_,
    hread.runtime.configuredMounts.trans ?_⟩
  · rw [hports, List.perm_singleton.mp hperm]
    rfl
  · decide +kernel
  · decide +kernel

end DockerLens.Render
