import DockerLens.Json.Reading
import DockerLens.Render.Container
import DockerLens.Render.NetworkBody

namespace DockerLens.Render

open DockerLens.Text
open DockerLens.Json
open DockerLens.Observation
open DockerLens.Target

/-- The JSON array of a list of texts. -/
def textsValue (texts : List Bytes) : Value := .array (texts.map stringValue)

/-- The value of a command, which an inherited one does without. -/
def commandBody : ImageCommand → Option Value
  | .inherit => none
  | .clear => some (.array [])
  | .exec arguments => some (textsValue (arguments.map Checked.bytes))

def healthTestBody : HealthTest → List Value
  | .exec arguments => .string "CMD" :: arguments.map fun argument => stringValue argument.bytes
  | .shell command => [.string "CMD-SHELL", stringValue command.bytes]
  | .disabled => [.string "NONE"]

def healthBody (health : Healthcheck) : Value :=
  fieldsObject
    [("Test", some (.array (healthTestBody health.test))),
      ("Interval", (health.intervalNs.map NonZero.get).map numberValue),
      ("Timeout", (health.timeoutNs.map NonZero.get).map numberValue),
      ("Retries", (health.retries.map NonZero.get).map numberValue),
      ("StartPeriod", (health.startPeriodNs.map UInt64.toNat).map numberValue),
      ("StartInterval", (health.startIntervalNs.map UInt64.toNat).map numberValue)]

/-- An assignment as `KEY=value`. -/
def assignmentText (assignment : EnvironmentAssignment) : Bytes :=
  assignment.key ++ 61 :: assignment.value

def exposedEntry (port : PortPublication) : String × Value := (decoded (portKey port), .object [])

def labelEntry (label : ContainerLabel) : String × Value := pairEntry label.key label.value

/-- The members of a container body between its image and its host configuration. -/
def configFields (container : ContainerIntent) : List (String × Option Value) :=
  [("Env", fieldIf (!container.environment.isEmpty)
      (.array (container.environment.map fun assignment =>
        stringValue (assignmentText assignment)))),
    ("Entrypoint", commandBody container.entrypoint),
    ("Cmd", commandBody container.command),
    ("Healthcheck", container.healthcheck.map healthBody),
    ("Labels", fieldIf (!container.settings.labels.isEmpty)
      (.object (container.settings.labels.map labelEntry))),
    ("User", (container.settings.user.map Checked.bytes).map stringValue),
    ("WorkingDir", (container.settings.workingDir.map Checked.bytes).map stringValue),
    ("Hostname", (container.settings.hostname.map Checked.bytes).map stringValue),
    ("StopSignal", (container.settings.stopSignal.map Checked.bytes).map stringValue),
    ("StopTimeout", (container.settings.stopTimeoutSeconds.map UInt32.toNat).map numberValue),
    ("ExposedPorts", fieldIf (!container.ports.isEmpty)
      (.object (container.ports.map exposedEntry)))]

def hostIpBody : PortHostIp → Option Value
  | .unspecified => none
  | .address address => some (stringValue (asBytes address.text))

def hostBindingBody (binding : HostBinding) : Value :=
  fieldsObject
    [("HostIp", hostIpBody binding.hostIp),
      ("HostPort", some (stringValue (hostPortText binding.hostPort)))]

def portEntry (port : PortPublication) : String × Value :=
  (decoded (portKey port), .array (port.bindings.map hostBindingBody))

/-- The text of a legacy bind. -/
def bindText (source : Bytes) (mount : Mount) (relabel : BindRelabel) : Bytes :=
  source ++ 58 :: mount.target ++
    (if mount.readOnly then asBytes ":ro," else asBytes ":rw,") ++ relabelByte relabel

/-- The entry of a relabelled mount. -/
def bindBody (mount : Mount) : Value :=
  match mount.source, mount.bindRelabel with
  | .bind source, some relabel => stringValue (bindText source mount relabel)
  | _, _ => .null

def tmpfsBody (options : TmpfsOptions) : Value :=
  fieldsObject
    [("SizeBytes", (options.sizeBytes.map NonZero.get).map numberValue),
      ("Mode", (options.mode.map UInt32.toNat).map numberValue)]

/-- The options of a memory mount, if it has any. -/
def tmpfsOptions : MountSource → Option TmpfsOptions
  | .tmpfs options =>
      if options.sizeBytes.isSome || options.mode.isSome then some options else none
  | _ => none

def mountKind : MountSource → String
  | .bind _ => "bind"
  | .volume _ => "volume"
  | .tmpfs _ => "tmpfs"

/-- The identity of the volume that a reference names. -/
def volumeName (resources : List TargetResource) (reference : ResourceRef) : Option Bytes :=
  match resourceOf resources reference with
  | some (.volume _ identity _) => some identity.bytes
  | some (.externalVolume _ identity) => some identity.bytes
  | _ => none

/-- The source of a mount, which a memory mount does without. -/
def mountText (resources : List TargetResource) : MountSource → Option Bytes
  | .bind path => some path
  | .volume reference => volumeName resources reference
  | .tmpfs _ => none

/-- The JSON value of a structured mount. -/
def mountBody (resources : List TargetResource) (mount : Mount) : Value :=
  fieldsObject
    [("Type", some (.string (mountKind mount.source))),
      ("Source", (mountText resources mount.source).map stringValue),
      ("Target", some (stringValue mount.target)),
      ("ReadOnly", some (.bool mount.readOnly)),
      ("TmpfsOptions", (tmpfsOptions mount.source).map tmpfsBody)]

/-- The identity of the network that a reference names. -/
def networkName (resources : List TargetResource) (reference : ResourceRef) : Option Bytes :=
  match resourceOf resources reference with
  | some (.network network) => some network.identity.bytes
  | _ => none

/-- The name of the network of an attachment. -/
def attachedName (resources : List TargetResource) (attachment : NetworkAttachmentIntent) :
    Bytes :=
  (networkName resources attachment.network).getD []

def restartBody (restart : RestartPolicy) : Value :=
  fieldsObject
    [("Name", some (.string (restartName restart).1)),
      ("MaximumRetryCount", some (numberValue (restartName restart).2))]

/-- A limit as the number that Docker reads: -1 stands for no limit. -/
def limitValue : Option Nat → Value
  | none => .number (.negInt 1)
  | some value => numberValue value

/-- The number of a process limit, if there is one. -/
def pidsCount : PidsLimit → Option Nat
  | .unlimited => none
  | .count value => some value.get

/-- The number of a resource limit, if there is one. -/
def ulimitCount : UlimitValue → Option Nat
  | .unlimited => none
  | .value value => some value.toNat

def ulimitBody (limit : Ulimit) : Value :=
  fieldsObject
    [("Name", some (stringValue limit.name.bytes)),
      ("Soft", some (limitValue (ulimitCount limit.soft))),
      ("Hard", some (limitValue (ulimitCount limit.hard)))]

def deviceBody (device : DeviceMapping) : Value :=
  fieldsObject
    [("PathOnHost", some (stringValue device.hostPath.bytes)),
      ("PathInContainer", some (stringValue device.containerPath.bytes)),
      ("CgroupPermissions", some (.string (devicePermissions device.permissions)))]

def logBody (log : LogConfig) : Value :=
  fieldsObject
    [("Type", some (.string (logDriverName log.driver))),
      ("Config", some (.object (log.options.map labelEntry)))]

/-- A nonempty list as a JSON array. -/
def listField {α : Type} (value : α → Value) (values : List α) : Option Value :=
  fieldIf (!values.isEmpty) (.array (values.map value))

/-- A nonempty list as a JSON object. -/
def mapField {α : Type} (entry : α → String × Value) (values : List α) : Option Value :=
  fieldIf (!values.isEmpty) (.object (values.map entry))

/-- The field of a list of texts, which is absent for an empty one. -/
def textsField {α : Type} (text : α → Bytes) (values : List α) : Option Value :=
  listField (fun value => stringValue (text value)) values

/-- The members of the host configuration. -/
def hostConfigFields (resources : List TargetResource) (container : ContainerIntent) :
    List (String × Option Value) :=
  [("PortBindings", mapField portEntry (container.ports.filter (!·.bindings.isEmpty))),
    ("Binds", listField bindBody (relabelled container.mounts)),
    ("Mounts", listField (mountBody resources) (structured container.mounts)),
    ("NetworkMode",
      container.networks.head?.map fun attachment =>
        stringValue (attachedName resources attachment)),
    ("RestartPolicy", container.restart.map restartBody),
    ("ReadonlyRootfs", container.settings.readOnlyRootfs.map .bool),
    ("Init", container.settings.init.map .bool),
    ("Memory", container.settings.memoryLimit.map fun memory => numberValue (memoryValue memory)),
    ("PidsLimit", container.settings.pidsLimit.map fun pids => limitValue (pidsCount pids)),
    ("ShmSize", container.settings.shmSizeBytes.map fun size => numberValue size.get),
    ("Ulimits", listField ulimitBody container.settings.ulimits),
    ("Devices", listField deviceBody container.settings.devices),
    ("CapAdd", textsField Checked.bytes container.settings.capAdd),
    ("CapDrop", textsField Checked.bytes container.settings.capDrop),
    ("SecurityOpt",
      textsField (fun option => asBytes (securityOptionText option))
        container.settings.securityOptions),
    ("Sysctls", mapField labelEntry container.settings.sysctls),
    ("GroupAdd", textsField Checked.bytes container.settings.groupAdd),
    ("Dns", textsField (fun address => asBytes address.text) container.settings.dns),
    ("ExtraHosts", textsField extraHostText container.settings.extraHosts),
    ("LogConfig", container.settings.logConfig.map logBody),
    ("UsernsMode", container.settings.usernsMode.map fun mode => .string (usernsModeName mode))]

/-- The object of the static addresses. -/
def addressesBody (attachment : NetworkAttachmentIntent) : Value :=
  fieldsObject
    [("IPv4Address", (attachment.ipv4Address.map addressText).map stringValue),
      ("IPv6Address", (attachment.ipv6Address.map addressText).map stringValue)]

/-- The JSON value of an endpoint. -/
def endpointBody (attachment : NetworkAttachmentIntent) : Value :=
  fieldsObject
    [("Aliases", textsField Checked.bytes attachment.aliases),
      ("IPAMConfig", fieldIf (attachment.ipv4Address.isSome || attachment.ipv6Address.isSome)
        (addressesBody attachment))]

/-- The object of the first endpoint. -/
def networkingBody (resources : List TargetResource) (attachment : NetworkAttachmentIntent) :
    Value :=
  fieldsObject
    [("EndpointsConfig",
      some (.object [(decoded (attachedName resources attachment), endpointBody attachment)]))]

/-- The JSON value of the body that creates a container. -/
def containerBody (resources : List TargetResource) (container : ContainerIntent) : Value :=
  fieldsObject
    (("Image", some (stringValue container.image.bytes)) :: configFields container ++
      [("HostConfig", some (fieldsObject (hostConfigFields resources container))),
        ("NetworkingConfig", container.networks.head?.map (networkingBody resources))])

/-- The JSON value of the body that connects a container to a further network. -/
def connectionBody (container : ContainerIntent) (attachment : NetworkAttachmentIntent) : Value :=
  fieldsObject
    [("Container", some (stringValue container.identity.bytes)),
      ("EndpointConfig", some (endpointBody attachment))]

theorem keys_containerBody {resources : List TargetResource} {container : ContainerIntent} :
    ((("Image", some (stringValue container.image.bytes)) :: configFields container ++
      [("HostConfig", some (fieldsObject (hostConfigFields resources container))),
        ("NetworkingConfig", container.networks.head?.map (networkingBody resources))]).map
      Prod.fst).Nodup := by
  have hkeys : ["Image", "Env", "Entrypoint", "Cmd", "Healthcheck", "Labels", "User", "WorkingDir",
      "Hostname", "StopSignal", "StopTimeout", "ExposedPorts", "HostConfig",
      "NetworkingConfig"].Nodup := by
    decide
  exact hkeys

theorem keys_hostConfig {resources : List TargetResource} {container : ContainerIntent} :
    ((hostConfigFields resources container).map Prod.fst).Nodup := by
  have hkeys : ["PortBindings", "Binds", "Mounts", "NetworkMode", "RestartPolicy",
      "ReadonlyRootfs", "Init", "Memory", "PidsLimit", "ShmSize", "Ulimits", "Devices", "CapAdd",
      "CapDrop", "SecurityOpt", "Sysctls", "GroupAdd", "Dns", "ExtraHosts", "LogConfig",
      "UsernsMode"].Nodup := by
    decide
  exact hkeys

theorem get_hostConfig {resources : List TargetResource} {container : ContainerIntent} :
    (Json.normalize (containerBody resources container)).get "HostConfig" =
      some (Json.normalize (fieldsObject (hostConfigFields resources container))) := by
  rw [containerBody, get_normalize_fields keys_containerBody]
  rfl

end DockerLens.Render
