import DockerLens.Render.Network

namespace DockerLens.Render

open DockerLens.Text
open DockerLens.Observation
open DockerLens.Target

/-- Arguments as JSON strings with commas between them. -/
def jsonArguments (arguments : List Argument) : Rendered Chars :=
  separated (fun argument => jsonString argument.bytes) arguments

/-- The member of a command, which an inherited one does without. -/
def renderImageCommand (key : String) : ImageCommand → Rendered Chars
  | .inherit => .ok []
  | .clear => push (",\"" ++ key ++ "\":[]")
  | .exec arguments => pushes [push (",\"" ++ key ++ "\":["), jsonArguments arguments, push "]"]

/-- An assignment as `KEY=value`. -/
def renderAssignment (assignment : EnvironmentAssignment) : Rendered Chars :=
  jsonString (assignment.key ++ 61 :: assignment.value)

/-- The member `Env`, if there is anything in it. -/
def renderEnvironment (environment : List EnvironmentAssignment) : Rendered Chars :=
  pushIf (!environment.isEmpty)
    (pushes [push ",\"Env\":[", separated renderAssignment environment, push "]"])

/-- The elements of a health test behind the bracket. -/
def renderHealthTest : HealthTest → Rendered Chars
  | .exec arguments => pushes [push "\"CMD\",", jsonArguments arguments]
  | .shell command => pushes [push "\"CMD-SHELL\",", jsonString command.bytes]
  | .disabled => push "\"NONE\""

/-- A member with an unsigned number, pushed after a fixed text. -/
def pushNumber (text : String) (value : Option Nat) : Rendered Chars :=
  pushSome (fun value => pushes [push text, .ok (decimal value)]) value

def renderHealthcheck (health : Healthcheck) : Rendered Chars :=
  pushes
    [push ",\"Healthcheck\":\x7b\"Test\":[", renderHealthTest health.test, push "]",
      pushNumber ",\"Interval\":" (health.intervalNs.map NonZero.get),
      pushNumber ",\"Timeout\":" (health.timeoutNs.map NonZero.get),
      pushNumber ",\"Retries\":" (health.retries.map NonZero.get),
      pushNumber ",\"StartPeriod\":" (health.startPeriodNs.map UInt64.toNat),
      pushNumber ",\"StartInterval\":" (health.startIntervalNs.map UInt64.toNat),
      push " \x7d"]

def renderContainerLabel (label : ContainerLabel) : Rendered Chars :=
  jsonPair label.key label.value

/-- The word for a protocol in a port key. -/
def protocolName : Protocol → String
  | .tcp => "tcp"
  | .udp => "udp"

/-- The key of a container port, such as `80/tcp`. -/
def portKey (port : PortPublication) : Bytes :=
  asBytes (String.ofList (decimal port.container.get ++ '/' :: (protocolName port.protocol).toList))

def renderExposedPort (port : PortPublication) : Rendered Chars :=
  pushes [jsonString (portKey port), push ":\x7b\x7d"]

/-- A member with a string, pushed after a fixed text. -/
def pushString (text : String) (value : Option Bytes) : Rendered Chars :=
  pushSome (fun value => pushes [push text, jsonString value]) value

/-- The members of the body before the host configuration. -/
def renderConfig (container : ContainerIntent) : Rendered Chars :=
  pushes
    [renderEnvironment container.environment,
      renderImageCommand "Entrypoint" container.entrypoint,
      renderImageCommand "Cmd" container.command,
      pushSome renderHealthcheck container.healthcheck,
      pushIf (!container.settings.labels.isEmpty)
        (pushes [push ",\"Labels\":\x7b",
          separated renderContainerLabel container.settings.labels, push "\x7d"]),
      pushString ",\"User\":" (container.settings.user.map Checked.bytes),
      pushString ",\"WorkingDir\":" (container.settings.workingDir.map Checked.bytes),
      pushString ",\"Hostname\":" (container.settings.hostname.map Checked.bytes),
      pushString ",\"StopSignal\":" (container.settings.stopSignal.map Checked.bytes),
      pushNumber ",\"StopTimeout\":" (container.settings.stopTimeoutSeconds.map UInt32.toNat),
      pushIf (!container.ports.isEmpty)
        (pushes [push ",\"ExposedPorts\":\x7b", separated renderExposedPort container.ports,
          push "\x7d"])]

/-- The member `HostIp` with a comma behind it, if there is an address. -/
def renderHostIp : PortHostIp → Rendered Chars
  | .unspecified => .ok []
  | .address address => pushes [push "\"HostIp\":", jsonString (asBytes address.text), push ","]

/-- The text of a host port, which is empty where the daemon picks one. -/
def hostPortText : PortHostPort → Bytes
  | .fixed port => asBytes (String.ofList (decimal port.get))
  | .ephemeral => []

/-- An object of a port's bindings. -/
def renderHostBinding (binding : HostBinding) : Rendered Chars :=
  pushes
    [push "\x7b", renderHostIp binding.hostIp, push "\"HostPort\":",
      jsonString (hostPortText binding.hostPort), push "\x7d"]

/-- A port and the array of its bindings. -/
def renderPortBindings (port : PortPublication) : Rendered Chars :=
  pushes
    [jsonString (portKey port), push ":[", separated renderHostBinding port.bindings, push "]"]

/-- The word of a bind entry that asks for relabelling. -/
def relabelByte : BindRelabel → Bytes
  | .shared => asBytes "z"
  | .private => asBytes "Z"

/-- One entry of the legacy binds. -/
def renderBind (mount : Mount) : Rendered Chars :=
  match mount.source, mount.bindRelabel with
  | .bind source, some relabel =>
      jsonString (source ++ 58 :: mount.target ++
        (if mount.readOnly then asBytes ":ro," else asBytes ":rw,") ++ relabelByte relabel)
  | _, _ => .error .invalidGraph

/-- The kind and the source of a structured mount. -/
def mountSource (resources : List TargetResource) :
    MountSource → Rendered (String × Option Bytes)
  | .bind path => .ok ("bind", some path)
  | .volume reference =>
      match resourceOf resources reference with
      | some (.volume _ identity _) => .ok ("volume", some identity.bytes)
      | some (.externalVolume _ identity) => .ok ("volume", some identity.bytes)
      | _ => .error .invalidGraph
  | .tmpfs _ => .ok ("tmpfs", none)

/-- The member `TmpfsOptions`, if there is anything in it. -/
def renderTmpfsOptions (options : TmpfsOptions) : Rendered Chars :=
  pushIf (options.sizeBytes.isSome || options.mode.isSome)
    (pushes
      [push ",\"TmpfsOptions\":\x7b",
        pushNumber "\"SizeBytes\":" (options.sizeBytes.map NonZero.get),
        pushSome (fun mode =>
          pushes [pushIf options.sizeBytes.isSome (push ","), push "\"Mode\":",
            .ok (decimal mode)]) (options.mode.map UInt32.toNat),
        push "\x7d"])

/-- One entry of the structured mounts. -/
def renderMount (resources : List TargetResource) (mount : Mount) : Rendered Chars := do
  let (kind, source) ← mountSource resources mount.source
  pushes
    [push "\x7b\"Type\":", jsonString (asBytes kind), pushString ",\"Source\":" source,
      push ",\"Target\":", jsonString mount.target,
      push (if mount.readOnly then ",\"ReadOnly\":true" else ",\"ReadOnly\":false"),
      match mount.source with
        | .tmpfs options => renderTmpfsOptions options
        | _ => .ok [],
      push "\x7d"]

/-- The name of a restart policy and how often it retries. -/
def restartName : RestartPolicy → String × Nat
  | .no => ("no", 0)
  | .always => ("always", 0)
  | .unlessStopped => ("unless-stopped", 0)
  | .onFailure maximumRetries => ("on-failure", maximumRetries.toNat)

def renderRestart (restart : RestartPolicy) : Rendered Chars :=
  pushes
    [push "\"RestartPolicy\":\x7b\"Name\":", jsonString (asBytes (restartName restart).1),
      push ",\"MaximumRetryCount\":", .ok (decimal (restartName restart).2), push "\x7d"]

/-- The number of a memory limit, which is zero without one. -/
def memoryValue : MemoryLimit → Nat
  | .unlimited => 0
  | .bytes value => value.get

/-- A count that was cast to `i64`, or -1. -/
def signedLimit : Option Nat → Chars
  | none => ['-', '1']
  | some value => if value < 2 ^ 63 then decimal value else '-' :: decimal (2 ^ 64 - value)

/-- The number of a process limit, which is `-1` without one. -/
def pidsValue : PidsLimit → Chars
  | .unlimited => signedLimit none
  | .count value => signedLimit (some value.get)

/-- The number of a resource limit, which is `-1` without one. -/
def ulimitValue : UlimitValue → Chars
  | .unlimited => signedLimit none
  | .value value => signedLimit (some value.toNat)

def renderUlimit (limit : Ulimit) : Rendered Chars :=
  pushes
    [push "\x7b\"Name\":", jsonString limit.name.bytes, push ",\"Soft\":",
      .ok (ulimitValue limit.soft), push ",\"Hard\":", .ok (ulimitValue limit.hard), push "\x7d"]

/-- The letters of a device's permissions, in a fixed order. -/
def devicePermissions (permissions : DevicePermissions) : String :=
  (if permissions.read then "r" else "") ++ (if permissions.write then "w" else "") ++
    (if permissions.create then "m" else "")

def renderDevice (device : DeviceMapping) : Rendered Chars :=
  pushes
    [push "\x7b\"PathOnHost\":", jsonString device.hostPath.bytes, push ",\"PathInContainer\":",
      jsonString device.containerPath.bytes, push ",\"CgroupPermissions\":",
      jsonString (asBytes (devicePermissions device.permissions)), push "\x7d"]

def securityOptionText : SecurityOption → String
  | .noNewPrivileges true => "no-new-privileges:true"
  | .noNewPrivileges false => "no-new-privileges:false"

/-- An extra host as `name:address`. -/
def extraHostText (host : ExtraHost) : Bytes :=
  host.name.bytes ++ 58 :: asBytes host.address.text

def logDriverName : LogDriver → String
  | .jsonFile => "json-file"
  | .local => "local"
  | .none => "none"

def renderLogConfig (log : LogConfig) : Rendered Chars :=
  pushes
    [push "\"LogConfig\":\x7b\"Type\":", jsonString (asBytes (logDriverName log.driver)),
      push ",\"Config\":\x7b", separated renderContainerLabel log.options, push "\x7d\x7d"]

def usernsModeName : UserNamespaceMode → String
  | .host => "host"

/-- The host configuration so far, and whether it holds a member. -/
structure HostBody where
  text : Chars
  hasField : Bool

/-- A member of the host configuration: a comma goes before each one but the first. -/
def hostField (body : HostBody) : Option (Rendered Chars) → Rendered HostBody
  | none => .ok body
  | some field => do
      let text ← field
      .ok ⟨body.text ++ (if body.hasField then [','] else []) ++ text, true⟩

/-- A list of strings of the host configuration, when there are any. -/
def hostStrings {α : Type} (key : String) (text : α → Bytes) (values : List α) :
    Option (Rendered Chars) :=
  if values.isEmpty then none
  else
    some (pushes
      [push ("\"" ++ key ++ "\":["), separated (fun value => jsonString (text value)) values,
        push "]"])

/-- A list or a map of the host configuration, when it is not empty. -/
def hostList {α : Type} (before after : String) (render : α → Rendered Chars)
    (values : List α) : Option (Rendered Chars) :=
  if values.isEmpty then none
  else some (pushes [push before, separated render values, push after])

/-- The mounts that are written as bind entries. -/
def relabelled (mounts : List Mount) : List Mount := mounts.filter (·.bindRelabel.isSome)

/-- The mounts that are written as objects. -/
def structured (mounts : List Mount) : List Mount := mounts.filter (·.bindRelabel.isNone)

/-- The members of the host configuration, in the order of the source. -/
def hostFields (container : ContainerIntent) (resources : List TargetResource) :
    List (Option (Rendered Chars)) :=
  [hostList "\"PortBindings\":\x7b" "\x7d" renderPortBindings
      (container.ports.filter (!·.bindings.isEmpty)),
    hostList "\"Binds\":[" "]" renderBind (relabelled container.mounts),
    hostList "\"Mounts\":[" "]" (renderMount resources) (structured container.mounts),
    container.networks.head?.map (fun attachment => do
      let network ← networkOf resources attachment.network
      pushes [push "\"NetworkMode\":", jsonString network.identity.bytes]),
    container.restart.map renderRestart,
    container.settings.readOnlyRootfs.map (fun readOnly =>
      push (if readOnly then "\"ReadonlyRootfs\":true" else "\"ReadonlyRootfs\":false")),
    container.settings.init.map (fun init =>
      push (if init then "\"Init\":true" else "\"Init\":false")),
    container.settings.memoryLimit.map (fun memory =>
      pushes [push "\"Memory\":", .ok (decimal (memoryValue memory))]),
    container.settings.pidsLimit.map (fun pids =>
      pushes [push "\"PidsLimit\":", .ok (pidsValue pids)]),
    container.settings.shmSizeBytes.map (fun size =>
      pushes [push "\"ShmSize\":", .ok (decimal size.get)]),
    hostList "\"Ulimits\":[" "]" renderUlimit container.settings.ulimits,
    hostList "\"Devices\":[" "]" renderDevice container.settings.devices,
    hostStrings "CapAdd" Checked.bytes container.settings.capAdd,
    hostStrings "CapDrop" Checked.bytes container.settings.capDrop,
    hostStrings "SecurityOpt" (fun option => asBytes (securityOptionText option))
      container.settings.securityOptions,
    hostList "\"Sysctls\":\x7b" "\x7d" renderContainerLabel container.settings.sysctls,
    hostStrings "GroupAdd" Checked.bytes container.settings.groupAdd,
    hostStrings "Dns" (fun address => asBytes address.text) container.settings.dns,
    hostStrings "ExtraHosts" extraHostText container.settings.extraHosts,
    container.settings.logConfig.map renderLogConfig,
    container.settings.usernsMode.map (fun mode =>
      pushes [push "\"UsernsMode\":", jsonString (asBytes (usernsModeName mode))])]

def renderHostConfig (container : ContainerIntent) (resources : List TargetResource) :
    Rendered Chars :=
  ((hostFields container resources).foldlM hostField ⟨[], false⟩).map HostBody.text

/-- The addresses of an endpoint, behind its aliases. -/
def renderAddresses (attachment : NetworkAttachmentIntent) : Rendered Chars :=
  pushes
    [pushIf (!attachment.aliases.isEmpty) (push ","), push "\"IPAMConfig\":\x7b",
      pushString "\"IPv4Address\":" (attachment.ipv4Address.map addressText),
      pushSome (fun address =>
        pushes [pushIf attachment.ipv4Address.isSome (push ","), push "\"IPv6Address\":",
          jsonString (addressText address)]) attachment.ipv6Address,
      push "\x7d"]

def renderEndpoint (attachment : NetworkAttachmentIntent) : Rendered Chars :=
  pushes
    [push "\x7b",
      pushIf (!attachment.aliases.isEmpty)
        (pushes [push "\"Aliases\":[",
          separated (fun name => jsonString (Checked.bytes name)) attachment.aliases, push "]"]),
      pushIf (attachment.ipv4Address.isSome || attachment.ipv6Address.isSome)
        (renderAddresses attachment),
      push "\x7d"]

/-- The endpoint of the first attachment. -/
def renderNetworking (resources : List TargetResource) (attachment : NetworkAttachmentIntent) :
    Rendered Chars := do
  let network ← networkOf resources attachment.network
  pushes
    [push ",\"NetworkingConfig\":\x7b\"EndpointsConfig\":\x7b",
      jsonString network.identity.bytes, push ":", renderEndpoint attachment, push "\x7d\x7d"]

def renderContainer (container : ContainerIntent) (resources : List TargetResource) :
    Rendered Chars :=
  pushes
    [push "\x7b\"Image\":", jsonString container.image.bytes, renderConfig container,
      push ",\"HostConfig\":\x7b", renderHostConfig container resources, push "\x7d",
      pushSome (renderNetworking resources) container.networks.head?, push "\x7d"]

/-- The path and the body that connect a container to a further network. -/
def renderSecondaryConnection (container : ContainerIntent)
    (attachment : NetworkAttachmentIntent) (resources : List TargetResource) :
    Rendered (Chars × Chars) := do
  let network ← networkOf resources attachment.network
  let body ← pushes
    [push "\x7b\"Container\":", jsonString container.identity.bytes,
      push ",\"EndpointConfig\":", renderEndpoint attachment, push "\x7d"]
  .ok ("networks/".toList ++ percentEncode network.identity.bytes ++ "/connect".toList, body)

end DockerLens.Render
