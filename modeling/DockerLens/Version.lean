import DockerLens.Observation

namespace DockerLens.Version

open DockerLens.Text

/-- Process-local identity of one acquisition. -/
structure ObservationId where
  value : Nat
  deriving DecidableEq, Repr

/-- A two-component Engine API version with a nonzero `u16` major and a `u16` minor. -/
@[ext] structure ApiVersion where
  major : Nat
  minor : Nat
  major_pos : 0 < major
  major_lt : major < 65536
  minor_lt : minor < 65536
  deriving Repr

instance : DecidableEq ApiVersion := fun left right =>
  decidable_of_iff (left.major = right.major ∧ left.minor = right.minor) ApiVersion.ext_iff.symm

namespace ApiVersion

theorem major_one_lt : 1 < 65536 := by decide

theorem minor_41_lt : 41 < 65536 := by decide

theorem minor_52_lt : 52 < 65536 := by decide

/-- `NonZeroU16::new` on the major component; both components are `u16`. -/
def new? (major minor : Nat) : Option ApiVersion :=
  if h : 0 < major ∧ major < 65536 ∧ minor < 65536 then
    some ⟨major, minor, h.1, h.2.1, h.2.2⟩
  else none

/-- The derived order: major first, then minor. -/
def lt (left right : ApiVersion) : Prop :=
  left.major < right.major ∨ left.major = right.major ∧ left.minor < right.minor

instance : LT ApiVersion := ⟨lt⟩

instance (left right : ApiVersion) : Decidable (left < right) :=
  inferInstanceAs (Decidable (_ ∨ _ ∧ _))

theorem lt_iff {left right : ApiVersion} :
    left < right ↔
      left.major < right.major ∨ left.major = right.major ∧ left.minor < right.minor :=
  Iff.rfl

theorem lt_irrefl (version : ApiVersion) : ¬ version < version := by
  rw [lt_iff]
  omega

theorem eq_of_not_lt {left right : ApiVersion} (hleft : ¬ left < right) (hright : ¬ right < left) :
    left = right := by
  obtain ⟨major, minor, hpos, hmajor, hminor⟩ := left
  obtain ⟨major', minor', hpos', hmajor', hminor'⟩ := right
  simp only [lt_iff] at hleft hright
  obtain rfl : major = major' := by omega
  obtain rfl : minor = minor' := by omega
  rfl

/-- `Ord::min`, which prefers the left argument on equality. -/
def min (left right : ApiVersion) : ApiVersion := if right < left then right else left

theorem not_lt_min_left (left right : ApiVersion) : ¬ left < min left right := by
  rw [min]
  split
  · next h =>
      rw [lt_iff] at h ⊢
      omega
  · exact lt_irrefl left

end ApiVersion

/-- Nonempty Engine release text. -/
structure EngineRelease where
  text : String
  nonempty : text ≠ ""
  deriving DecidableEq

/-- `EngineRelease::new`. -/
def EngineRelease.new (value : String) : Option EngineRelease :=
  if h : value ≠ "" then some ⟨value, h⟩ else none

/-- The modes that a daemon runs in. -/
inductive DaemonMode
  | rootful
  | rootless
  | unknown
  deriving DecidableEq, Repr

/-- What a daemon may be able to do for a container. -/
inductive Capability
  | standaloneContainer
  | bindMount
  | bindRelabelShared
  | bindRelabelPrivate
  | tmpfsMount
  | namedVolume
  | volumeLabels
  | volumeExternalReference
  | bridgeNetwork
  | networkExternalReference
  | networkExternalInternalExpectation
  | networkInternal
  | networkIpv6
  | networkIpam
  | networkIpamDriver
  | networkOptions
  | networkLabels
  | networkAliases
  | networkStaticAddress
  | networkMultipleAttachment
  | hostNetwork
  | portPublish
  | portExposeOnly
  | portHostIpv4
  | portHostIpv6
  | portMultipleBindings
  | portEphemeral
  | userNamespace
  | environmentAssignment
  | command
  | commandClear
  | entrypoint
  | entrypointClear
  | healthcheck
  | healthShell
  | healthDisabled
  | healthStartPeriod
  | healthStartInterval
  | restartPolicy
  | containerLabels
  | containerUser
  | containerWorkdir
  | containerHostname
  | readOnlyRootfs
  | containerInit
  | stopSignal
  | stopTimeout
  | memoryLimit
  | pidsLimit
  | shmSize
  | ulimits
  | ulimitNofile
  | deviceMappings
  | linuxCapabilities
  | capAddNetBindService
  | capDropSysAdmin
  | securityOptions
  | sysctls
  | sysctlIpv4Forward
  | supplementaryGroups
  | dnsServers
  | extraHosts
  | logConfig
  | logOptionMaxSize
  deriving DecidableEq, Repr

/-- The exact daemon scope of a capability claim. -/
structure CapabilityScope where
  observationId : ObservationId
  release : EngineRelease
  apiVersion : ApiVersion
  mode : DaemonMode
  deriving DecidableEq

/-- Whether a capability is there. -/
inductive CapabilityState
  | available
  | unavailable
  | unknown
  deriving DecidableEq, Repr

/-- Where a fact comes from. -/
inductive FactProvenance
  | daemonResponse
  | nativeConformance
  | unknown
  deriving DecidableEq, Repr

/-- What is claimed of one capability, for one scope. -/
structure CapabilityFact where
  capability : Capability
  state : CapabilityState
  provenance : FactProvenance
  scope : Option CapabilityScope
  deriving DecidableEq

/-- Facts have no default values that could be mistaken for confirmed support. -/
structure DaemonFacts where
  observationId : ObservationId
  release : Option EngineRelease
  apiVersion : Option ApiVersion
  minimumApiVersion : Option ApiVersion
  mode : DaemonMode
  capabilities : List CapabilityFact
  deriving DecidableEq

/-- Exact Debian package revision: nonempty, without whitespace or controls. -/
structure DebianPackageRevision where
  text : String
  valid : text ≠ "" ∧
    (asBytes text).all (fun byte => !(isAsciiWhitespace byte || byte < 32 || byte == 127)) = true
  deriving DecidableEq

/-- The package that an engine comes from. -/
inductive EngineBuild
  | upstream
  | debianPackage (revision : DebianPackageRevision)
  deriving DecidableEq

/-- A nonzero SHA-256 digest. -/
structure CapabilityEvidenceKey where
  bytes : Bytes
  valid : bytes.length = 32 ∧ bytes ≠ List.replicate 32 0
  deriving DecidableEq

/-- Version dimensions of one exact offline target. -/
structure TargetProfileIdentity where
  build : EngineBuild
  release : EngineRelease
  advertisedApiVersion : ApiVersion
  acquisitionApiVersion : ApiVersion
  renderingApiVersion : ApiVersion
  mode : DaemonMode
  deriving DecidableEq

/-- An identity and the key of its evidence. -/
structure TargetProfile where
  identity : TargetProfileIdentity
  evidenceKey : CapabilityEvidenceKey
  deriving DecidableEq

end DockerLens.Version
