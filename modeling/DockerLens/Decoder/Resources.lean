import DockerLens.Decoder.MountMode

namespace DockerLens.Decoder

open DockerLens.Text
open DockerLens.Json
open DockerLens.Observation
open DockerLens.Acquisition
open DockerLens.Fold

/-- A label, whose key and value are both kept behind protection. -/
structure LabelObservation where
  key : ProtectedValue
  value : Observed ProtectedValue
  deriving DecidableEq

structure MapEntryObservation where
  key : ProtectedValue
  value : Observed ProtectedValue
  deriving DecidableEq

/-- An assignment of the environment. One without `=` has no value. -/
structure EnvironmentAssignment where
  name : ProtectedValue
  value : Option ProtectedValue
  deriving DecidableEq

/-- The protocols that a port key may name. -/
inductive TransportProtocol
  | tcp
  | udp
  | sctp
  deriving DecidableEq, Repr

/-- A container port as `80/tcp` names it. -/
structure PortKey where
  containerPort : Nat
  protocol : TransportProtocol
  deriving DecidableEq, Repr

structure HostBinding where
  hostIp : Observed ProtectedValue
  hostPort : Observed Nat
  deriving DecidableEq

structure PortObservation where
  key : PortKey
  bindings : Observed (List HostBinding)
  deriving DecidableEq

/-- The kinds of a mount that are told apart. -/
inductive MountKind
  | bind
  | volume
  | tmpfs
  | other
  deriving DecidableEq, Repr

/-- A mount as a running container reports it. -/
structure MountObservation where
  kind : MountKind
  source : Observed ProtectedValue
  destination : Observed ProtectedValue
  name : Observed ProtectedValue
  readWrite : Observed Bool
  mode : Observed ProtectedValue
  modeInterpretation : Observed MountModeInterpretation
  propagation : Observed ProtectedValue
  deriving DecidableEq

/-- A network that a container is attached to, under its name. -/
structure NetworkAttachment where
  name : ProtectedValue
  networkId : Observed ProtectedValue
  ipAddress : Observed ProtectedValue
  ipv6Address : Observed ProtectedValue
  requestedIpv4Address : Observed ProtectedValue
  requestedIpv6Address : Observed ProtectedValue
  aliases : Observed (List ProtectedValue)
  deriving DecidableEq

/-- What the text of a network mode names. -/
inductive NetworkModeKind
  | default
  | bridge
  | host
  | none
  | container
  | named
  deriving DecidableEq, Repr

/-- A network mode and the text it was read from. -/
structure NetworkModeObservation where
  kind : NetworkModeKind
  nativeValue : ProtectedValue
  deriving DecidableEq

/-- A command as a list of arguments or as one text for the shell. -/
inductive CommandValue
  | exec (arguments : List ProtectedValue)
  | shell (text : ProtectedValue)
  deriving DecidableEq

inductive HealthcheckTest
  | cmd (arguments : List ProtectedValue)
  | cmdShell (text : ProtectedValue)
  | none
  | other (parts : List ProtectedValue)
  deriving DecidableEq

/-- A health check with its timings in nanoseconds. -/
structure Healthcheck where
  test : Observed HealthcheckTest
  intervalNs : Observed Nat
  timeoutNs : Observed Nat
  startPeriodNs : Observed Nat
  startIntervalNs : Observed Nat
  retries : Observed Nat
  deriving DecidableEq

structure RestartPolicy where
  name : Observed ProtectedValue
  maximumRetryCount : Observed Nat
  deriving DecidableEq

/-- A resource limit, whose values may be negative. -/
structure UlimitObservation where
  name : Observed ProtectedValue
  soft : Observed Int
  hard : Observed Int
  deriving DecidableEq

structure DeviceObservation where
  hostPath : Observed ProtectedValue
  containerPath : Observed ProtectedValue
  permissions : Observed ProtectedValue
  deriving DecidableEq

/-- An entry of `HostConfig.Mounts`. -/
structure ConfiguredMountObservation where
  kind : Observed ProtectedValue
  source : Observed ProtectedValue
  target : Observed ProtectedValue
  readOnly : Observed Bool
  bindPropagation : Observed ProtectedValue
  volumeNoCopy : Observed Bool
  tmpfsSizeBytes : Observed Int
  deriving DecidableEq

structure LoggingObservation where
  driver : Observed ProtectedValue
  options : Observed (List MapEntryObservation)
  deriving DecidableEq

/-- Effective runtime configuration from inspect. -/
structure RuntimeObservation where
  readOnlyRootfs : Observed Bool
  memoryBytes : Observed Int
  pidsLimit : Observed Int
  shmSizeBytes : Observed Int
  ulimits : Observed (List UlimitObservation)
  capAdd : Observed (List ProtectedValue)
  capDrop : Observed (List ProtectedValue)
  securityOptions : Observed (List ProtectedValue)
  usernsMode : Observed ProtectedValue
  supplementaryGroups : Observed (List ProtectedValue)
  sysctls : Observed (List MapEntryObservation)
  dnsServers : Observed (List ProtectedValue)
  dnsOptions : Observed (List ProtectedValue)
  dnsSearch : Observed (List ProtectedValue)
  extraHosts : Observed (List ProtectedValue)
  init : Observed Bool
  stopSignal : Observed ProtectedValue
  stopTimeout : Observed Int
  logging : Observed LoggingObservation
  tmpfs : Observed (List MapEntryObservation)
  binds : Observed (List ProtectedValue)
  configuredMounts : Observed (List ConfiguredMountObservation)
  volumesFrom : Observed (List ProtectedValue)
  devices : Observed (List DeviceObservation)

structure ContainerObservation where
  reference : ResourceRef
  id : Observed ProtectedValue
  name : Observed ProtectedValue
  image : Observed ProtectedValue
  imageId : Observed ProtectedValue
  labels : Observed (List LabelObservation)
  user : Observed ProtectedValue
  workingDirectory : Observed ProtectedValue
  hostname : Observed ProtectedValue
  environment : Observed (List EnvironmentAssignment)
  exposedPorts : Observed (List PortKey)
  configuredPorts : Observed (List PortObservation)
  runtimePorts : Observed (List PortObservation)
  mounts : Observed (List MountObservation)
  networks : Observed (List NetworkAttachment)
  networkMode : Observed NetworkModeObservation
  command : Observed CommandValue
  entrypoint : Observed CommandValue
  healthcheck : Observed Healthcheck
  restartPolicy : Observed RestartPolicy
  runtime : RuntimeObservation

/-- List metadata of a container that need not be inspected. -/
structure ContainerSummary where
  id : ProtectedValue
  names : Observed (List ProtectedValue)
  labels : Observed (List LabelObservation)
  image : Observed ProtectedValue

/-- What a network reports of one of its containers. -/
structure NetworkEndpointDetails where
  name : Observed ProtectedValue
  deriving DecidableEq

/-- A container of a network, under its id. -/
structure NetworkActiveEndpoint where
  containerId : Observed ProtectedValue
  endpoint : Observed NetworkEndpointDetails
  deriving DecidableEq

structure IpamConfigObservation where
  subnet : Observed ProtectedValue
  gateway : Observed ProtectedValue
  ipRange : Observed ProtectedValue
  auxiliaryAddresses : Observed (List MapEntryObservation)
  deriving DecidableEq

structure NetworkObservation where
  reference : ResourceRef
  id : Observed ProtectedValue
  activeEndpoints : Observed (List NetworkActiveEndpoint)
  name : Observed ProtectedValue
  driver : Observed ProtectedValue
  internal : Observed Bool
  enableIpv6 : Observed Bool
  ipamDriver : Observed ProtectedValue
  ipamConfigs : Observed (List IpamConfigObservation)
  options : Observed (List MapEntryObservation)
  labels : Observed (List LabelObservation)

/-- Everything that is read of an inspected volume. -/
structure VolumeObservation where
  reference : ResourceRef
  name : Observed ProtectedValue
  driver : Observed ProtectedValue
  mountpoint : Observed ProtectedValue
  options : Observed (List MapEntryObservation)
  labels : Observed (List LabelObservation)
  deriving DecidableEq

/-- The protocol that a port key names after its slash. -/
def protocol (text : List Char) : Option TransportProtocol :=
  if text = "tcp".toList then some .tcp
  else if text = "udp".toList then some .udp
  else if text = "sctp".toList then some .sctp
  else none

/-- A port of at least one digit and nothing else, which fits a `u16`. -/
def portNumber (text : List Char) : Option Nat :=
  if text.isEmpty || !text.all Char.isDigit then none else parseUnsigned 10 65535 text

/-- A value in the grammar of its field. -/
def valued {α : Type} (field : FieldPath) : Option α → Except DecodeError α
  | none => .error (.invalidValue field)
  | some value => .ok value

/-- A key such as `80/tcp`: a decimal port without a sign, a slash and a protocol. -/
def parsePortKey (key : String) : Except DecodeError PortKey := do
  let (port, protocolName) ← valued (.port 0) (splitOnce '/' key.toList)
  if port.isEmpty || !port.all Char.isDigit then .error (.invalidValue (.port 0))
  else do
    let protocol ← valued (.port 0) (protocol protocolName)
    let containerPort ← valued (.port 0) (portNumber port)
    if containerPort = 0 then .error (.invalidValue (.port 0))
    else .ok ⟨containerPort, protocol⟩

/-- A host port, which the API writes as a text. -/
def parseHostPort (value : Value) : Except DecodeError Nat := do
  let raw ← shaped (.port 0) value.asStr
  valued (.port 0) (portNumber raw.toList)

/-- An empty host port stands for an ephemeral one and is no value. -/
def hostPortField (root : Value) (field : FieldPath) (origin : Origin) :
    Except DecodeError (Observed Nat) := do
  match ← fieldValue root ["HostPort"] field with
  | none => .ok (.unavailable .missing origin)
  | some value =>
      if value.isNull then .ok (.unavailable .null origin)
      else if isRedacted value then .ok (.unavailable .redacted origin)
      else if value.asStr = some "" then .ok (.unavailable .empty origin)
      else (parseHostPort value).map fun port => .present port .present origin

def hostBinding (field : FieldPath) (origin : Origin) (binding : Value) :
    Except DecodeError HostBinding := do
  let _ ← object binding field
  let hostIp ← stringField binding ["HostIp"] field origin
  let hostPort ← hostPortField binding field origin
  .ok { hostIp, hostPort }

/-- One entry of a port map; its index counts the ports before it. -/
def portBinding (origin : Origin) (entry : (String × Value) × Nat) :
    Except DecodeError PortObservation := do
  let ((port, bindings), index) := entry
  let key ← parsePortKey port
  if bindings.isNull then .ok ⟨key, .unavailable .null origin⟩
  else if isRedacted bindings then .ok ⟨key, .unavailable .redacted origin⟩
  else do
    let values ← array bindings (.port index)
    let result ← values.mapM (hostBinding (.port index) origin)
    .ok ⟨key, .present result (if values.isEmpty then .empty else .present) origin⟩

/-- The bindings of all container ports, by key. -/
def portBindings (value : Value) (origin : Origin) : Except DecodeError (List PortObservation) := do
  let members ← object value (.port 0)
  members.zipIdx.mapM (portBinding origin)

def exposedPorts (value : Value) : Except DecodeError (List PortKey) := do
  let members ← object value (.port 0)
  members.mapM fun member => parsePortKey member.1

def stringList (value : Value) (field : FieldPath) : Except DecodeError (List ProtectedValue) := do
  let values ← array value field
  values.mapM fun item => string item field

/-- A command, from a text or from an array of arguments. -/
def command (value : Value) (field : FieldPath) : Except DecodeError CommandValue :=
  match value with
  | .string _ => (string value field).map .shell
  | _ => (stringList value field).map .exec

/-- The name and the value of an assignment text, split at its first equals sign. -/
def splitAssignment (raw : String) : List Char × Option (List Char) :=
  match splitOnce '=' raw.toList with
  | some (name, value) => (name, some value)
  | none => (raw.toList, none)

/-- One text of the environment, at its index. -/
def environmentAssignment (entry : Value × Nat) : Except DecodeError EnvironmentAssignment := do
  let raw ← shaped (.environment entry.2) entry.1.asStr
  let assignment := splitAssignment raw
  if assignment.1.isEmpty then .error (.invalidValue (.environment entry.2))
  else
    .ok ⟨asBytes (String.ofList assignment.1),
      assignment.2.map fun value => asBytes (String.ofList value)⟩

def environment (value : Value) : Except DecodeError (List EnvironmentAssignment) := do
  let values ← array value (.environment 0)
  values.zipIdx.mapM environmentAssignment

/-- The value of a label; an empty one is told apart from a present one. -/
def labelValue (field : FieldPath) (value : Value) :
    Except DecodeError (Observed ProtectedValue) :=
  if value.isNull then .ok (.unavailable .null .effective)
  else if isRedacted value then .ok (.unavailable .redacted .effective)
  else (string value field).map fun text =>
    .present text (if text.isEmpty then .empty else .present) .effective

def label (entry : (String × Value) × Nat) : Except DecodeError LabelObservation :=
  (labelValue (.label entry.2) entry.1.2).map fun value => ⟨asBytes entry.1.1, value⟩

/-- The labels in the order of their keys. -/
def labels (value : Value) : Except DecodeError (List LabelObservation) := do
  let members ← object value (.label 0)
  members.zipIdx.mapM label

def mapEntry (field : FieldPath) (member : String × Value) :
    Except DecodeError MapEntryObservation :=
  (observed member.2 [] field .effective fun item => string item field).map fun value =>
    ⟨asBytes member.1, value⟩

/-- The members of a map of options in the order of their keys. -/
def mapEntries (value : Value) (field : FieldPath) :
    Except DecodeError (List MapEntryObservation) := do
  let members ← object value field
  members.mapM (mapEntry field)

def ulimit (item : Value) : Except DecodeError UlimitObservation := do
  let _ ← object item .resourceLimit
  let name ← stringField item ["Name"] .resourceLimit .effective
  let soft ← signedField item ["Soft"] .resourceLimit .effective
  let hard ← signedField item ["Hard"] .resourceLimit .effective
  .ok { name, soft, hard }

def ulimits (value : Value) : Except DecodeError (List UlimitObservation) := do
  let values ← array value .resourceLimit
  values.mapM ulimit

def device (item : Value) : Except DecodeError DeviceObservation := do
  let _ ← object item .device
  let hostPath ← stringField item ["PathOnHost"] .device .effective
  let containerPath ← stringField item ["PathInContainer"] .device .effective
  let permissions ← stringField item ["CgroupPermissions"] .device .effective
  .ok { hostPath, containerPath, permissions }

def devices (value : Value) : Except DecodeError (List DeviceObservation) := do
  let values ← array value .device
  values.mapM device

def configuredMount (item : Value) : Except DecodeError ConfiguredMountObservation := do
  let _ ← object item .runtimeMount
  let kind ← stringField item ["Type"] .runtimeMount .effective
  let source ← stringField item ["Source"] .runtimeMount .effective
  let target ← stringField item ["Target"] .runtimeMount .effective
  let readOnly ← boolField item ["ReadOnly"] .runtimeMount .effective
  let bindPropagation ← stringField item ["BindOptions", "Propagation"] .runtimeMount .effective
  let volumeNoCopy ← boolField item ["VolumeOptions", "NoCopy"] .runtimeMount .effective
  let tmpfsSizeBytes ← signedField item ["TmpfsOptions", "SizeBytes"] .runtimeMount .effective
  .ok { kind, source, target, readOnly, bindPropagation, volumeNoCopy, tmpfsSizeBytes }

def configuredMounts (value : Value) : Except DecodeError (List ConfiguredMountObservation) := do
  let values ← array value .runtimeMount
  values.mapM configuredMount

def logging (value : Value) : Except DecodeError LoggingObservation := do
  let _ ← object value .logging
  let driver ← stringField value ["Type"] .logging .effective
  let options ← observed value ["Config"] .logging .effective fun item => mapEntries item .logging
  .ok { driver, options }

def ipamConfig (item : Value) : Except DecodeError IpamConfigObservation := do
  let _ ← object item .networkIpam
  let subnet ← stringField item ["Subnet"] .networkIpam .effective
  let gateway ← stringField item ["Gateway"] .networkIpam .effective
  let ipRange ← stringField item ["IPRange"] .networkIpam .effective
  let auxiliaryAddresses ← observed item ["AuxiliaryAddresses"] .networkIpam .effective
    fun value => mapEntries value .networkIpam
  .ok { subnet, gateway, ipRange, auxiliaryAddresses }

def ipamConfigs (value : Value) : Except DecodeError (List IpamConfigObservation) := do
  let values ← array value .networkIpam
  values.mapM ipamConfig

/-- The kind that a mount reports, of which other words are not known. -/
def mountKind (text : Option String) : MountKind :=
  match text with
  | some "bind" => .bind
  | some "volume" => .volume
  | some "tmpfs" => .tmpfs
  | _ => .other

def mount (entry : Value × Nat) : Except DecodeError MountObservation := do
  let (item, index) := entry
  let field : FieldPath := .mount index
  let _ ← object item field
  let type ← fieldValue item ["Type"] field
  let mode ← stringField item ["Mode"] field .effective
  let modeInterpretation ← MountMode.interpret mode field
  let source ← stringField item ["Source"] field .effective
  let destination ← stringField item ["Destination"] field .effective
  let name ← stringField item ["Name"] field .effective
  let readWrite ← boolField item ["RW"] field .effective
  let propagation ← stringField item ["Propagation"] field .effective
  .ok { kind := mountKind (type.bind Value.asStr)
        source, destination, name, readWrite, mode, modeInterpretation, propagation }

/-- The mounts of a running container, in order. -/
def mounts (value : Value) : Except DecodeError (List MountObservation) := do
  let values ← array value (.mount 0)
  values.zipIdx.mapM mount

/-- One member of `NetworkSettings.Networks`, at its index. -/
def networkAttachment (entry : (String × Value) × Nat) : Except DecodeError NetworkAttachment := do
  let ((name, item), index) := entry
  let field : FieldPath := .network index
  let _ ← object item field
  let networkId ← stringField item ["NetworkID"] field .runtimeAssigned
  let ipAddress ← stringField item ["IPAddress"] field .runtimeAssigned
  let ipv6Address ← stringField item ["GlobalIPv6Address"] field .runtimeAssigned
  let requestedIpv4Address ← stringField item ["IPAMConfig", "IPv4Address"] field .effective
  let requestedIpv6Address ← stringField item ["IPAMConfig", "IPv6Address"] field .effective
  let aliases ← observed item ["Aliases"] field .effective fun aliases => stringList aliases field
  .ok { name := asBytes name
        networkId, ipAddress, ipv6Address, requestedIpv4Address, requestedIpv6Address, aliases }

/-- The networks of a running container in the order of their names. -/
def networks (value : Value) : Except DecodeError (List NetworkAttachment) := do
  let members ← object value (.network 0)
  members.zipIdx.mapM networkAttachment

def endpointDetails (field : FieldPath) (details : Value) :
    Except DecodeError NetworkEndpointDetails := do
  let _ ← object details field
  let name ← stringField details ["Name"] field .effective
  .ok { name }

/-- One member of `Containers`, at its index. -/
def activeNetworkEndpoint (entry : (String × Value) × Nat) :
    Except DecodeError NetworkActiveEndpoint :=
  let field : FieldPath := .network entry.2
  let id := asBytes entry.1.1
  if id.length ≠ 64 ∨ !id.all isAsciiHexdigit then .error (.invalidValue field)
  else
    (observed entry.1.2 [] field .runtimeAssigned (endpointDetails field)).map fun endpoint =>
      ⟨.present id .present .runtimeAssigned, endpoint⟩

/-- The containers of a network in the order of their ids. -/
def activeNetworkEndpoints (value : Value) :
    Except DecodeError (List NetworkActiveEndpoint) := do
  let members ← object value (.network 0)
  members.zipIdx.mapM activeNetworkEndpoint

/-- What a text names: a reserved word, another container or a network. -/
def networkModeKind (text : String) : NetworkModeKind :=
  if text = "default" then .default
  else if text = "bridge" then .bridge
  else if text = "host" then .host
  else if text = "none" then .none
  else if "container:".toList.isPrefixOf text.toList && text ≠ "container:" then .container
  else .named

/-- The text of `HostConfig.NetworkMode`. -/
def networkMode (value : Value) : Except DecodeError NetworkModeObservation :=
  (shaped .networkMode value.asStr).map fun text => ⟨networkModeKind text, asBytes text⟩

/-- The array of `Healthcheck.Test`, whose first text says how to read the rest. -/
def healthcheckTest (value : Value) : Except DecodeError HealthcheckTest := do
  let parts ← array value .healthcheck
  let parsed ← parts.mapM fun part => string part .healthcheck
  match parts.head?.bind Value.asStr, parsed with
  | some "CMD", _ :: argument :: arguments => .ok (.cmd (argument :: arguments))
  | some "CMD-SHELL", [_, text] => .ok (.cmdShell text)
  | some "NONE", [_] => .ok .none
  | some "CMD", _ | some "CMD-SHELL", _ | some "NONE", _ => .error (.invalidValue .healthcheck)
  | _, _ => .ok (.other parsed)

/-- `u32::try_from` of an unsigned integer. -/
def unsigned32 (field : FieldPath) (value : Value) : Except DecodeError Nat := do
  let number ← shaped field value.asU64
  if number < 2 ^ 32 then .ok number else .error (.invalidValue field)

/-- The object of `Config.Healthcheck`. -/
def healthcheck (value : Value) : Except DecodeError Healthcheck := do
  let _ ← object value .healthcheck
  let test ← observed value ["Test"] .healthcheck .effective healthcheckTest
  let intervalNs ← unsignedField value ["Interval"] .healthcheck .effective
  let timeoutNs ← unsignedField value ["Timeout"] .healthcheck .effective
  let startPeriodNs ← unsignedField value ["StartPeriod"] .healthcheck .effective
  let startIntervalNs ← unsignedField value ["StartInterval"] .healthcheck .effective
  let retries ← observed value ["Retries"] .healthcheck .effective (unsigned32 .healthcheck)
  .ok { test, intervalNs, timeoutNs, startPeriodNs, startIntervalNs, retries }

def restartPolicy (value : Value) : Except DecodeError RestartPolicy := do
  let _ ← object value .restartPolicy
  let name ← stringField value ["Name"] .restartPolicy .effective
  let maximumRetryCount ← observed value ["MaximumRetryCount"] .restartPolicy .effective
    (unsigned32 .restartPolicy)
  .ok { name, maximumRetryCount }

/-- A list of strings in the host configuration. -/
def hostStrings (root : Value) (key : String) (field : FieldPath) :
    Except DecodeError (Observed (List ProtectedValue)) :=
  observed root ["HostConfig", key] field .effective fun value => stringList value field

/-- The runtime settings of an inspected container. -/
def runtime (root : Value) : Except DecodeError RuntimeObservation := do
  let readOnlyRootfs ← boolField root ["HostConfig", "ReadonlyRootfs"] .runtimeMount .effective
  let memoryBytes ← signedField root ["HostConfig", "Memory"] .resourceLimit .effective
  let pidsLimit ← signedField root ["HostConfig", "PidsLimit"] .resourceLimit .effective
  let shmSizeBytes ← signedField root ["HostConfig", "ShmSize"] .resourceLimit .effective
  let ulimits ← observed root ["HostConfig", "Ulimits"] .resourceLimit .effective ulimits
  let capAdd ← hostStrings root "CapAdd" .securitySetting
  let capDrop ← hostStrings root "CapDrop" .securitySetting
  let securityOptions ← hostStrings root "SecurityOpt" .securitySetting
  let usernsMode ← stringField root ["HostConfig", "UsernsMode"] .securitySetting .effective
  let supplementaryGroups ← hostStrings root "GroupAdd" .securitySetting
  let sysctls ← observed root ["HostConfig", "Sysctls"] .securitySetting .effective
    fun value => mapEntries value .securitySetting
  let dnsServers ← hostStrings root "Dns" .nameResolution
  let dnsOptions ← hostStrings root "DnsOptions" .nameResolution
  let dnsSearch ← hostStrings root "DnsSearch" .nameResolution
  let extraHosts ← hostStrings root "ExtraHosts" .nameResolution
  let init ← boolField root ["HostConfig", "Init"] .stopBehavior .effective
  let stopSignal ← stringField root ["Config", "StopSignal"] .stopBehavior .effective
  let stopTimeout ← signedField root ["Config", "StopTimeout"] .stopBehavior .effective
  let logging ← observed root ["HostConfig", "LogConfig"] .logging .effective logging
  let tmpfs ← observed root ["HostConfig", "Tmpfs"] .runtimeMount .effective
    fun value => mapEntries value .runtimeMount
  let binds ← hostStrings root "Binds" .runtimeMount
  let configuredMounts ← observed root ["HostConfig", "Mounts"] .runtimeMount .effective
    configuredMounts
  let volumesFrom ← hostStrings root "VolumesFrom" .runtimeMount
  let devices ← observed root ["HostConfig", "Devices"] .device .effective devices
  .ok { readOnlyRootfs, memoryBytes, pidsLimit, shmSizeBytes, ulimits, capAdd, capDrop,
        securityOptions, usernsMode, supplementaryGroups, sysctls, dnsServers, dnsOptions,
        dnsSearch, extraHosts, init, stopSignal, stopTimeout, logging, tmpfs, binds,
        configuredMounts, volumesFrom, devices }

/-- One entry of the container list. -/
def containerSummary (root : Value) : Except DecodeError ContainerSummary := do
  let _ ← object root .other
  let id ← listedId root .other "Id"
  let names ← observed root ["Names"] .containerName .effective
    fun value => stringList value .containerName
  let labels ← observed root ["Labels"] (.label 0) .effective labels
  let image ← stringField root ["Image"] .image .effective
  .ok { id := asBytes id, names, labels, image }

def container (root : Value) (reference : ResourceRef) :
    Except DecodeError ContainerObservation := do
  let _ ← object root .other
  let id ← stringField root ["Id"] .other .runtimeAssigned
  let name ← stringField root ["Name"] .containerName .effective
  let image ← stringField root ["Config", "Image"] .image .effective
  let imageId ← stringField root ["Image"] .image .runtimeAssigned
  let labels ← observed root ["Config", "Labels"] (.label 0) .effective labels
  let user ← stringField root ["Config", "User"] .user .effective
  let workingDirectory ← stringField root ["Config", "WorkingDir"] .workingDirectory .effective
  let hostname ← stringField root ["Config", "Hostname"] .hostname .effective
  let environment ← observed root ["Config", "Env"] (.environment 0) .effective environment
  let exposedPorts ← observed root ["Config", "ExposedPorts"] (.port 0) .effective exposedPorts
  let configuredPorts ← observed root ["HostConfig", "PortBindings"] (.port 0) .effective
    fun value => portBindings value .effective
  let runtimePorts ← observed root ["NetworkSettings", "Ports"] (.port 0) .runtimeAssigned
    fun value => portBindings value .runtimeAssigned
  let mounts ← observed root ["Mounts"] (.mount 0) .effective mounts
  let networks ← observed root ["NetworkSettings", "Networks"] (.network 0) .runtimeAssigned
    networks
  let networkMode ← observed root ["HostConfig", "NetworkMode"] .networkMode .effective networkMode
  let command ← observed root ["Config", "Cmd"] .command .effective
    fun value => command value .command
  let entrypoint ← observed root ["Config", "Entrypoint"] .entrypoint .effective
    fun value => Decoder.command value .entrypoint
  let healthcheck ← observed root ["Config", "Healthcheck"] .healthcheck .effective healthcheck
  let restartPolicy ← observed root ["HostConfig", "RestartPolicy"] .restartPolicy .effective
    restartPolicy
  let runtime ← runtime root
  .ok { reference, id, name, image, imageId, labels, user, workingDirectory, hostname,
        environment, exposedPorts, configuredPorts, runtimePorts, mounts, networks, networkMode,
        command, entrypoint, healthcheck, restartPolicy, runtime }

def network (root : Value) (reference : ResourceRef) :
    Except DecodeError NetworkObservation := do
  let _ ← object root .other
  let id ← stringField root ["Id"] (.network 0) .runtimeAssigned
  let activeEndpoints ← observed root ["Containers"] (.network 0) .runtimeAssigned
    activeNetworkEndpoints
  let name ← stringField root ["Name"] (.network 0) .effective
  let driver ← stringField root ["Driver"] (.network 0) .effective
  let internal ← boolField root ["Internal"] (.network 0) .effective
  let enableIpv6 ← boolField root ["EnableIPv6"] .networkOption .effective
  let ipamDriver ← stringField root ["IPAM", "Driver"] .networkIpam .effective
  let ipamConfigs ← observed root ["IPAM", "Config"] .networkIpam .effective ipamConfigs
  let options ← observed root ["Options"] .networkOption .effective
    fun value => mapEntries value .networkOption
  let labels ← observed root ["Labels"] (.label 0) .effective labels
  .ok { reference, id, activeEndpoints, name, driver, internal, enableIpv6, ipamDriver,
        ipamConfigs, options, labels }

def volume (root : Value) (reference : ResourceRef) : Except DecodeError VolumeObservation := do
  let _ ← object root .other
  let name ← stringField root ["Name"] (.volume 0) .effective
  let driver ← stringField root ["Driver"] (.volume 0) .effective
  let mountpoint ← stringField root ["Mountpoint"] (.volume 0) .runtimeAssigned
  let options ← observed root ["Options"] (.volume 0) .effective
    fun value => mapEntries value (.volume 0)
  let labels ← observed root ["Labels"] (.label 0) .effective labels
  .ok { reference, name, driver, mountpoint, options, labels }

theorem stringField_of_get {value : Value} {name text : String} (field : FieldPath)
    (origin : Origin) (hget : (value.get name).bind Value.asStr = some text)
    (hname : name ≠ "__docker_lens_redacted__") :
    stringField value [name] field origin =
      .ok (.present (asBytes text) (presence (.string text)) origin) := by
  obtain ⟨member, hmember, htext⟩ := Option.bind_eq_some_iff.mp hget
  have hredacted := isRedacted_of_get hmember hname
  obtain ⟨members, rfl, hlookup⟩ := Value.exists_object_of_get hmember
  rw [Value.asStr_eq_some_iff] at htext
  subst htext
  simp [stringField, observed, observeValue, fieldValue_object hredacted, hlookup, string, shaped,
    Except.map]

theorem container_eq_ok {root : Value} {reference : ResourceRef}
    {found : ContainerObservation} (h : container root reference = .ok found) :
    found.reference = reference ∧
      stringField root ["Id"] .other .runtimeAssigned = .ok found.id ∧
      observed root ["Mounts"] (.mount 0) .effective mounts = .ok found.mounts ∧
      observed root ["NetworkSettings", "Networks"] (.network 0) .runtimeAssigned networks =
        .ok found.networks := by
  simp only [container, bind_eq_ok_iff, Except.ok.injEq] at h
  obtain ⟨_, -, id, hid, _, -, _, -, _, -, _, -, _, -, _, -, _, -, _, -, _, -, _, -, _, -, mounts,
    hmounts, networks, hnetworks, _, -, _, -, _, -, _, -, _, -, _, -, rfl⟩ := h
  exact ⟨rfl, hid, hmounts, hnetworks⟩

theorem network_eq_ok {root : Value} {reference : ResourceRef} {found : NetworkObservation}
    (h : network root reference = .ok found) :
    found.reference = reference ∧
      stringField root ["Id"] (.network 0) .runtimeAssigned = .ok found.id ∧
      stringField root ["Name"] (.network 0) .effective = .ok found.name ∧
      stringField root ["Driver"] (.network 0) .effective = .ok found.driver ∧
      boolField root ["Internal"] (.network 0) .effective = .ok found.internal := by
  simp only [network, bind_eq_ok_iff, Except.ok.injEq] at h
  obtain ⟨_, -, id, hid, _, -, name, hname, driver, hdriver, internal, hinternal, _, -, _, -, _, -,
    _, -, _, -, rfl⟩ := h
  exact ⟨rfl, hid, hname, hdriver, hinternal⟩

theorem volume_eq_ok {root : Value} {reference : ResourceRef} {found : VolumeObservation}
    (h : volume root reference = .ok found) :
    found.reference = reference ∧
      stringField root ["Name"] (.volume 0) .effective = .ok found.name := by
  simp only [volume, bind_eq_ok_iff, Except.ok.injEq] at h
  obtain ⟨_, -, name, hname, _, -, _, -, _, -, _, -, rfl⟩ := h
  exact ⟨rfl, hname⟩

section Raises

variable {root value : Value} {field : FieldPath} {origin : Origin} {reference : ResourceRef}

theorem raises_valued {α : Type} {found : Option α} :
    Raises IsFieldError (valued field found) := by
  cases found with
  | none => exact .error trivial
  | some _ => exact .ok

theorem raises_parsePortKey {key : String} : Raises IsFieldError (parsePortKey key) := by
  refine .bind raises_valued fun (port, protocolName) => ?_
  dsimp only
  split
  · exact .error trivial
  · refine .bind raises_valued fun protocol => .bind raises_valued fun containerPort => ?_
    split
    · exact .error trivial
    · exact .ok

theorem raises_hostPortField {path : FieldPath} :
    Raises IsFieldError (hostPortField root path origin) := by
  refine .bind raises_fieldValue fun found => ?_
  split
  · exact .ok
  · split
    · exact .ok
    · split
      · exact .ok
      · split
        · exact .ok
        · exact .map (.bind raises_shaped fun _ => raises_valued)

theorem raises_portBindings : Raises IsFieldError (portBindings value origin) := by
  refine .bind raises_object fun members => .mapM fun ((port, bindings), index) => ?_
  refine .bind raises_parsePortKey fun key => ?_
  split
  · exact .ok
  · split
    · exact .ok
    · refine .bind raises_array fun values => .bind (.mapM fun binding => ?_) fun _ => .ok
      exact .bind raises_object fun _ => .bind raises_stringField fun _ =>
        .bind raises_hostPortField fun _ => .ok

theorem raises_exposedPorts : Raises IsFieldError (exposedPorts value) :=
  .bind raises_object fun _ => .mapM fun _ => raises_parsePortKey

theorem raises_stringList : Raises IsFieldError (stringList value field) :=
  .bind raises_array fun _ => .mapM fun _ => raises_string

theorem raises_command : Raises IsFieldError (command value field) := by
  rw [command.eq_def]
  split
  · exact .map raises_string
  · exact .map raises_stringList

theorem raises_environment : Raises IsFieldError (environment value) := by
  refine .bind raises_array fun values => .mapM fun entry => .bind raises_shaped fun raw => ?_
  dsimp only
  split
  · exact .error trivial
  · exact .ok

theorem raises_labels : Raises IsFieldError (labels value) := by
  refine .bind raises_object fun members => .mapM fun entry => .map ?_
  rw [labelValue]
  split
  · exact .ok
  · split
    · exact .ok
    · exact .map raises_string

theorem raises_mapEntries : Raises IsFieldError (mapEntries value field) :=
  .bind raises_object fun _ => .mapM fun _ => .map (raises_observed fun _ => raises_string)

theorem raises_ulimits : Raises IsFieldError (ulimits value) :=
  .bind raises_array fun _ => .mapM fun _ => .bind raises_object fun _ =>
    .bind raises_stringField fun _ => .bind raises_signedField fun _ =>
    .bind raises_signedField fun _ => .ok

theorem raises_devices : Raises IsFieldError (devices value) :=
  .bind raises_array fun _ => .mapM fun _ => .bind raises_object fun _ =>
    .bind raises_stringField fun _ => .bind raises_stringField fun _ =>
    .bind raises_stringField fun _ => .ok

theorem raises_configuredMounts : Raises IsFieldError (configuredMounts value) :=
  .bind raises_array fun _ => .mapM fun _ => .bind raises_object fun _ =>
    .bind raises_stringField fun _ => .bind raises_stringField fun _ =>
    .bind raises_stringField fun _ => .bind raises_boolField fun _ =>
    .bind raises_stringField fun _ => .bind raises_boolField fun _ =>
    .bind raises_signedField fun _ => .ok

theorem raises_logging : Raises IsFieldError (logging value) :=
  .bind raises_object fun _ => .bind raises_stringField fun _ =>
    .bind (raises_observed fun _ => raises_mapEntries) fun _ => .ok

theorem raises_ipamConfigs : Raises IsFieldError (ipamConfigs value) :=
  .bind raises_array fun _ => .mapM fun _ => .bind raises_object fun _ =>
    .bind raises_stringField fun _ => .bind raises_stringField fun _ =>
    .bind raises_stringField fun _ =>
    .bind (raises_observed fun _ => raises_mapEntries) fun _ => .ok

theorem raises_mounts : Raises IsFieldError (mounts value) :=
  .bind raises_array fun _ => .mapM fun (_, _) => .bind raises_object fun _ =>
    .bind raises_fieldValue fun _ => .bind raises_stringField fun _ =>
    .bind MountMode.raises_interpret fun _ => .bind raises_stringField fun _ =>
    .bind raises_stringField fun _ => .bind raises_stringField fun _ =>
    .bind raises_boolField fun _ => .bind raises_stringField fun _ => .ok

theorem raises_networks : Raises IsFieldError (networks value) :=
  .bind raises_object fun _ => .mapM fun ((_, _), _) => .bind raises_object fun _ =>
    .bind raises_stringField fun _ => .bind raises_stringField fun _ =>
    .bind raises_stringField fun _ => .bind raises_stringField fun _ =>
    .bind raises_stringField fun _ =>
    .bind (raises_observed fun _ => raises_stringList) fun _ => .ok

theorem raises_activeNetworkEndpoints :
    Raises IsFieldError (activeNetworkEndpoints value) := by
  refine .bind raises_object fun members => .mapM fun entry => ?_
  rw [activeNetworkEndpoint]
  split
  · exact .error trivial
  · exact .map (raises_observed fun _ => .bind raises_object fun _ =>
      .bind raises_stringField fun _ => .ok)

theorem raises_networkMode : Raises IsFieldError (networkMode value) := .map raises_shaped

theorem raises_healthcheckTest : Raises IsFieldError (healthcheckTest value) := by
  refine .bind raises_array fun parts => .bind (.mapM fun _ => raises_string) fun parsed => ?_
  split <;> first | exact .ok | exact .error trivial

theorem raises_unsigned32 : Raises IsFieldError (unsigned32 field value) := by
  refine .bind raises_shaped fun number => ?_
  split
  · exact .ok
  · exact .error trivial

theorem raises_healthcheck : Raises IsFieldError (healthcheck value) :=
  .bind raises_object fun _ => .bind (raises_observed fun _ => raises_healthcheckTest) fun _ =>
    .bind raises_unsignedField fun _ => .bind raises_unsignedField fun _ =>
    .bind raises_unsignedField fun _ => .bind raises_unsignedField fun _ =>
    .bind (raises_observed fun _ => raises_unsigned32) fun _ => .ok

theorem raises_restartPolicy : Raises IsFieldError (restartPolicy value) :=
  .bind raises_object fun _ => .bind raises_stringField fun _ =>
    .bind (raises_observed fun _ => raises_unsigned32) fun _ => .ok

theorem raises_hostStrings {key : String} : Raises IsFieldError (hostStrings root key field) :=
  raises_observed fun _ => raises_stringList

theorem raises_runtime : Raises IsFieldError (runtime root) :=
  .bind raises_boolField fun _ => .bind raises_signedField fun _ =>
    .bind raises_signedField fun _ => .bind raises_signedField fun _ =>
    .bind (raises_observed fun _ => raises_ulimits) fun _ => .bind raises_hostStrings fun _ =>
    .bind raises_hostStrings fun _ => .bind raises_hostStrings fun _ =>
    .bind raises_stringField fun _ => .bind raises_hostStrings fun _ =>
    .bind (raises_observed fun _ => raises_mapEntries) fun _ => .bind raises_hostStrings fun _ =>
    .bind raises_hostStrings fun _ => .bind raises_hostStrings fun _ =>
    .bind raises_hostStrings fun _ => .bind raises_boolField fun _ =>
    .bind raises_stringField fun _ => .bind raises_signedField fun _ =>
    .bind (raises_observed fun _ => raises_logging) fun _ =>
    .bind (raises_observed fun _ => raises_mapEntries) fun _ => .bind raises_hostStrings fun _ =>
    .bind (raises_observed fun _ => raises_configuredMounts) fun _ =>
    .bind raises_hostStrings fun _ => .bind (raises_observed fun _ => raises_devices) fun _ => .ok

theorem raises_containerSummary : Raises IsFieldError (containerSummary root) :=
  .bind raises_object fun _ => .bind raises_listedId fun _ =>
    .bind (raises_observed fun _ => raises_stringList) fun _ =>
    .bind (raises_observed fun _ => raises_labels) fun _ => .bind raises_stringField fun _ => .ok

theorem raises_container : Raises IsFieldError (container root reference) :=
  .bind raises_object fun _ => .bind raises_stringField fun _ => .bind raises_stringField fun _ =>
    .bind raises_stringField fun _ => .bind raises_stringField fun _ =>
    .bind (raises_observed fun _ => raises_labels) fun _ => .bind raises_stringField fun _ =>
    .bind raises_stringField fun _ => .bind raises_stringField fun _ =>
    .bind (raises_observed fun _ => raises_environment) fun _ =>
    .bind (raises_observed fun _ => raises_exposedPorts) fun _ =>
    .bind (raises_observed fun _ => raises_portBindings) fun _ =>
    .bind (raises_observed fun _ => raises_portBindings) fun _ =>
    .bind (raises_observed fun _ => raises_mounts) fun _ =>
    .bind (raises_observed fun _ => raises_networks) fun _ =>
    .bind (raises_observed fun _ => raises_networkMode) fun _ =>
    .bind (raises_observed fun _ => raises_command) fun _ =>
    .bind (raises_observed fun _ => raises_command) fun _ =>
    .bind (raises_observed fun _ => raises_healthcheck) fun _ =>
    .bind (raises_observed fun _ => raises_restartPolicy) fun _ => .bind raises_runtime fun _ =>
    .ok

theorem raises_network : Raises IsFieldError (network root reference) :=
  .bind raises_object fun _ => .bind raises_stringField fun _ =>
    .bind (raises_observed fun _ => raises_activeNetworkEndpoints) fun _ =>
    .bind raises_stringField fun _ => .bind raises_stringField fun _ =>
    .bind raises_boolField fun _ => .bind raises_boolField fun _ =>
    .bind raises_stringField fun _ => .bind (raises_observed fun _ => raises_ipamConfigs) fun _ =>
    .bind (raises_observed fun _ => raises_mapEntries) fun _ =>
    .bind (raises_observed fun _ => raises_labels) fun _ => .ok

theorem raises_volume : Raises IsFieldError (volume root reference) :=
  .bind raises_object fun _ => .bind raises_stringField fun _ => .bind raises_stringField fun _ =>
    .bind raises_stringField fun _ => .bind (raises_observed fun _ => raises_mapEntries) fun _ =>
    .bind (raises_observed fun _ => raises_labels) fun _ => .ok

end Raises

end DockerLens.Decoder
