import DockerLens.Target.Network

namespace DockerLens.Target

open DockerLens.Text
open DockerLens.Observation

/-- The protocols of a published port. -/
inductive Protocol
  | tcp
  | udp
  deriving DecidableEq, Repr

/-- An omitted host address and an explicitly authored address are distinct. -/
inductive PortHostIp
  | unspecified
  | address (address : IpAddr)
  deriving DecidableEq

/-- A fixed host port, or one that the daemon picks. -/
inductive PortHostPort
  | fixed (port : NonZero 16)
  | ephemeral
  deriving DecidableEq

/-- Where a port is published on the host. -/
structure HostBinding where
  hostIp : PortHostIp
  hostPort : PortHostPort
  deriving DecidableEq

/-- One exposed container port, optionally with several host bindings. -/
structure PortPublication where
  container : NonZero 16
  protocol : Protocol
  bindings : List HostBinding
  deriving DecidableEq

/-- `PortPublication::exposed`, which publishes nothing. -/
def PortPublication.exposed (container : NonZero 16) (protocol : Protocol) : PortPublication :=
  ⟨container, protocol, []⟩

/-- `PortPublication::published`, which needs a binding. -/
def PortPublication.published (container : NonZero 16) (protocol : Protocol)
    (bindings : List HostBinding) : Except IntentError PortPublication :=
  if bindings.isEmpty then .error .invalidPort else .ok ⟨container, protocol, bindings⟩

/-- `inherit` omits the native field; `clear` is an explicit empty array. -/
inductive ImageCommand
  | inherit
  | clear
  | exec (arguments : List Argument)
  deriving DecidableEq

/-- The size and the mode of a memory mount. -/
structure TmpfsOptions where
  sizeBytes : Option (NonZero 64)
  mode : Option UInt32
  deriving DecidableEq

/-- A bind path, a declared named volume or a temporary file system. -/
inductive MountSource
  | bind (path : ProtectedValue)
  | volume (reference : ResourceRef)
  | tmpfs (options : TmpfsOptions)
  deriving DecidableEq

/-- `i64::MAX`. -/
def maxI64 : Nat := 2 ^ 63 - 1

/-- `i32::MAX`. -/
def maxI32 : Nat := 2 ^ 31 - 1

/-- A mode of permission bits, and a size that fits into a signed number. -/
def validTmpfsOptions (options : TmpfsOptions) : Bool :=
  options.mode.all (·.toNat ≤ 0o7777) && options.sizeBytes.all (·.get ≤ maxI64)

/-- A path that the unescaped colons of a legacy bind do not split. -/
def colonFree (path : Bytes) : Bool := !path.contains 58

/-- What the constructors of a mount check. -/
def validMount (source : MountSource) (target : Bytes) (relabel : Option BindRelabel) : Bool :=
  validAbsolutePath target &&
    match source with
    | .bind path =>
        validAbsolutePath path && (relabel.isNone || (colonFree path && colonFree target))
    | .volume _ => relabel.isNone
    | .tmpfs options => validTmpfsOptions options && relabel.isNone

/-- A mount of a container. -/
structure Mount where
  source : MountSource
  target : ProtectedValue
  readOnly : Bool
  bindRelabel : Option BindRelabel
  valid : validMount source target bindRelabel = true
  deriving DecidableEq

namespace Mount

/-- A mount without relabel intent. -/
def plain (source : MountSource) (target : Bytes) (readOnly : Bool) :
    Except IntentError Mount :=
  if h : validMount source target none = true then .ok ⟨source, target, readOnly, none, h⟩
  else .error .invalidMount

/-- `Mount::bind`. -/
def bind (source target : Bytes) (readOnly : Bool) : Except IntentError Mount :=
  plain (.bind source) target readOnly

/-- `Mount::volume`. -/
def volume (source : ResourceRef) (target : Bytes) (readOnly : Bool) :
    Except IntentError Mount :=
  plain (.volume source) target readOnly

/-- `Mount::tmpfs`. -/
def tmpfs (target : Bytes) (readOnly : Bool) (options : TmpfsOptions) :
    Except IntentError Mount :=
  plain (.tmpfs options) target readOnly

/-- Add bind-only relabel intent, once, to paths without colons. -/
def withBindRelabel (mount : Mount) (relabel : BindRelabel) : Except IntentError Mount :=
  if mount.bindRelabel.isSome then .error .invalidMount
  else if h : validMount mount.source mount.target (some relabel) = true then
    .ok { mount with bindRelabel := some relabel, valid := h }
  else .error .invalidMount

end Mount

inductive MemoryLimit
  | unlimited
  | bytes (value : NonZero 64)
  deriving DecidableEq

inductive PidsLimit
  | unlimited
  | count (value : NonZero 64)
  deriving DecidableEq

inductive UlimitValue
  | unlimited
  | value (value : UInt64)
  deriving DecidableEq

structure Ulimit where
  name : ContainerToken
  soft : UlimitValue
  hard : UlimitValue
  deriving DecidableEq

/-- A further entry of the hosts file. -/
structure ExtraHost where
  name : ContainerHostname
  address : IpAddr
  deriving DecidableEq

/-- What a container may do with a device. -/
structure DevicePermissions where
  read : Bool
  write : Bool
  create : Bool
  deriving DecidableEq

/-- A device of the host and where it appears in a container. -/
structure DeviceMapping where
  hostPath : WorkingDirectory
  containerPath : WorkingDirectory
  permissions : DevicePermissions
  deriving DecidableEq

/-- Closed security options. -/
inductive SecurityOption
  | noNewPrivileges (enabled : Bool)
  deriving DecidableEq

/-- The log drivers that an intent may ask for. -/
inductive LogDriver
  | jsonFile
  | «local»
  | none
  deriving DecidableEq, Repr

structure LogConfig where
  driver : LogDriver
  options : List ContainerLabel
  deriving DecidableEq

inductive UserNamespaceMode
  | host
  deriving DecidableEq, Repr

/-- The settings of a container that are optional. -/
structure ContainerSettings where
  labels : List ContainerLabel
  user : Option ContainerUser
  workingDir : Option WorkingDirectory
  hostname : Option ContainerHostname
  readOnlyRootfs : Option Bool
  init : Option Bool
  stopSignal : Option Argument
  stopTimeoutSeconds : Option UInt32
  memoryLimit : Option MemoryLimit
  pidsLimit : Option PidsLimit
  shmSizeBytes : Option (NonZero 64)
  ulimits : List Ulimit
  devices : List DeviceMapping
  capAdd : List ContainerToken
  capDrop : List ContainerToken
  securityOptions : List SecurityOption
  sysctls : List ContainerLabel
  groupAdd : List ContainerUser
  dns : List IpAddr
  extraHosts : List ExtraHost
  logConfig : Option LogConfig
  usernsMode : Option UserNamespaceMode
  deriving DecidableEq

/-- `Default`: nothing is authored. -/
def ContainerSettings.default : ContainerSettings :=
  ⟨[], none, none, none, none, none, none, none, none, none, none, [], [], [], [], [], [], [],
    [], [], none, none⟩

/-- Shell text is one argument. -/
inductive HealthTest
  | exec (arguments : List Argument)
  | shell (command : Argument)
  | disabled
  deriving DecidableEq

/-- Nanoseconds that the Engine takes: at least one millisecond, and an `i64`. -/
def validPeriod (nanoseconds : Nat) : Bool := 1000000 ≤ nanoseconds && nanoseconds ≤ maxI64

/-- A start period or interval may also be zero, but not of a disabled check. -/
def validStart (test : HealthTest) (nanoseconds : UInt64) : Bool :=
  test != .disabled && (nanoseconds == 0 || validPeriod nanoseconds.toNat)

/-- A health test that is not empty, or a disabled one without timings. -/
def validHealthTest (test : HealthTest) (intervalNs timeoutNs : Option (NonZero 64))
    (retries : Option (NonZero 32)) : Bool :=
  match test with
  | .exec [] => false
  | .exec (command :: _) => !command.bytes.isEmpty
  | .shell command => !command.bytes.isEmpty
  | .disabled => intervalNs.isNone && timeoutNs.isNone && retries.isNone

/-- What the constructors of a health check check. -/
def validHealthcheck (test : HealthTest) (intervalNs timeoutNs : Option (NonZero 64))
    (retries : Option (NonZero 32)) (startPeriodNs startIntervalNs : Option UInt64) : Bool :=
  validHealthTest test intervalNs timeoutNs retries &&
    intervalNs.all (validPeriod ·.get) && timeoutNs.all (validPeriod ·.get) &&
    retries.all (·.get ≤ maxI32) && startPeriodNs.all (validStart test) &&
    startIntervalNs.all (validStart test)

/-- A health check with its timings, which are all optional. -/
structure Healthcheck where
  test : HealthTest
  intervalNs : Option (NonZero 64)
  timeoutNs : Option (NonZero 64)
  retries : Option (NonZero 32)
  startPeriodNs : Option UInt64
  startIntervalNs : Option UInt64
  valid : validHealthcheck test intervalNs timeoutNs retries startPeriodNs startIntervalNs = true
  deriving DecidableEq

namespace Healthcheck

/-- `Healthcheck::configured`. -/
def configured (test : HealthTest) (intervalNs timeoutNs : Option (NonZero 64))
    (retries : Option (NonZero 32)) : Except IntentError Healthcheck :=
  if h : validHealthcheck test intervalNs timeoutNs retries none none = true then
    .ok ⟨test, intervalNs, timeoutNs, retries, none, none, h⟩
  else .error .invalidHealthcheck

def new (command : List Argument) (intervalNs timeoutNs : NonZero 64) (retries : NonZero 32) :
    Except IntentError Healthcheck :=
  configured (.exec command) (some intervalNs) (some timeoutNs) (some retries)

theorem startPeriod_valid {health : Healthcheck} {nanoseconds : UInt64}
    (h : validStart health.test nanoseconds = true) :
    validHealthcheck health.test health.intervalNs health.timeoutNs health.retries
      (some nanoseconds) health.startIntervalNs = true := by
  have hvalid := health.valid
  simp only [validHealthcheck, Bool.and_eq_true] at hvalid ⊢
  exact ⟨⟨hvalid.1.1, h⟩, hvalid.2⟩

theorem startInterval_valid {health : Healthcheck} {nanoseconds : UInt64}
    (h : validStart health.test nanoseconds = true) :
    validHealthcheck health.test health.intervalNs health.timeoutNs health.retries
      health.startPeriodNs (some nanoseconds) = true := by
  have hvalid := health.valid
  simp only [validHealthcheck, Bool.and_eq_true] at hvalid ⊢
  exact ⟨hvalid.1, h⟩

/-- `Healthcheck::with_start_period`. -/
def withStartPeriod (health : Healthcheck) (nanoseconds : UInt64) :
    Except IntentError Healthcheck :=
  if h : validStart health.test nanoseconds = true then
    .ok { health with startPeriodNs := some nanoseconds, valid := startPeriod_valid h }
  else .error .invalidHealthcheck

/-- `Healthcheck::with_start_interval`. -/
def withStartInterval (health : Healthcheck) (nanoseconds : UInt64) :
    Except IntentError Healthcheck :=
  if h : validStart health.test nanoseconds = true then
    .ok { health with startIntervalNs := some nanoseconds, valid := startInterval_valid h }
  else .error .invalidHealthcheck

end Healthcheck

inductive RestartPolicy
  | no
  | always
  | unlessStopped
  | onFailure (maximumRetries : UInt32)
  deriving DecidableEq

/-- All settings are caller-authored. -/
structure ContainerIntent where
  reference : ResourceRef
  identity : TargetIdentity
  image : ImageReference
  environment : List EnvironmentAssignment
  ports : List PortPublication
  mounts : List Mount
  networks : List NetworkAttachmentIntent
  entrypoint : ImageCommand
  command : ImageCommand
  healthcheck : Option Healthcheck
  restart : Option RestartPolicy
  settings : ContainerSettings
  deriving DecidableEq

end DockerLens.Target
