import DockerLens.Json.Compact
import DockerLens.ReviewedCatalog.Record

namespace DockerLens.ReviewedCatalog

open DockerLens.Text
open DockerLens.Json
open DockerLens.Version

/-- An entry of `RECORDS`: a lane, the hash of its record and the text that the build includes. -/
structure Source where
  lane : NativeEvidenceLane
  recordHash : String
  text : String

/-- The record of a source. -/
def Source.record (fromStr : String → Option Value) (source : Source) :
    Panics TargetCapabilityRecord :=
  ReviewedCatalog.record fromStr source.lane source.recordHash source.text

/-- `reviewed_catalog::records`, of the records that are checked in. -/
def records (fromStr : String → Option Value) (sources : List Source) :
    Panics (List TargetCapabilityRecord) :=
  sources.mapM (Source.record fromStr)

/-- `TargetCapabilityCatalog::reviewed`, of the records that are checked in. -/
def reviewed (fromStr : String → Option Value) (sources : List Source) :
    Panics TargetCapabilityCatalog := do
  let records ← records fromStr sources
  expectOk (TargetCapabilityCatalog.fromRecords records)

/-! The data of `RECORDS`, whose files list their capabilities by name. -/

/-- The capabilities of a Debian 11 record, each with its shapes. -/
def debianEntries : List (String × List String) :=
  [("BindMount", ["BindMountReadWrite", "BindMountReadOnly"]),
    ("BindRelabelPrivate", ["BindMountPrivateRelabelReadWrite",
      "BindMountPrivateRelabelReadOnly"]),
    ("BindRelabelShared", ["BindMountSharedRelabelReadWrite", "BindMountSharedRelabelReadOnly"]),
    ("BridgeNetwork", ["BridgeNetworkCreate", "BridgeNetworkAttach"]),
    ("Command", ["ExecCommand"]), ("ContainerLabels", ["ContainerCreateLabels"]),
    ("ContainerUser", ["ContainerUser"]), ("ContainerWorkdir", ["ContainerWorkdir"]),
    ("Entrypoint", ["ExecEntrypoint"]),
    ("EnvironmentAssignment", ["EnvironmentValue", "EnvironmentEmptyValue"]),
    ("HealthShell", ["ShellHealthcheck"]),
    ("HealthStartPeriod", ["HealthStartPeriodZero", "HealthStartPeriodPositive"]),
    ("Healthcheck", ["ExecHealthcheck"]),
    ("NamedVolume", ["NamedVolumeCreate", "NamedVolumeMountReadWrite",
      "NamedVolumeMountReadOnly"]),
    ("NetworkAliases", ["NetworkPrimaryAliases", "NetworkSecondaryAliases"]),
    ("NetworkExternalInternalExpectation", ["ExternalNetworkInternalFalse",
      "ExternalNetworkInternalTrue"]),
    ("NetworkExternalReference", ["ExternalNetworkReference"]),
    ("NetworkInternal", ["InternalBridgeNetworkCreate"]),
    ("NetworkLabels", ["NetworkCreateLabels"]),
    ("NetworkMultipleAttachment", ["NetworkSecondaryConnect"]),
    ("PortEphemeral", ["EphemeralHostPort"]), ("PortExposeOnly", ["ExposedOnlyPort"]),
    ("PortHostIpv4", ["FixedIpv4HostPort", "EphemeralIpv4HostPort"]),
    ("PortMultipleBindings", ["MultipleFixedPortBindings", "MultipleEphemeralPortBindings"]),
    ("PortPublish", ["FixedTcpPort", "FixedUdpPort"]),
    ("RestartPolicy", ["RestartNo", "RestartAlways", "RestartUnlessStopped",
      "RestartOnFailureUnlimited", "RestartOnFailureLimited"]),
    ("StandaloneContainer", ["StandaloneCreate"]), ("StopSignal", ["StopSignal"]),
    ("VolumeExternalReference", ["ExternalVolumeReference"]),
    ("VolumeLabels", ["VolumeCreateLabels"])]

/-- Those of an upstream record, which has one more. -/
def upstreamEntries : List (String × List String) :=
  debianEntries.take 23 ++ [("PortHostIpv6", ["FixedIpv6HostPort", "EphemeralIpv6HostPort"])] ++
    debianEntries.drop 23

/-- An entry of the capabilities of a record. -/
def entryValue (entry : String × List String) : Value :=
  .object [("name", .string entry.1), ("state", .string "available"),
    ("admitted_shapes", .array (entry.2.map .string))]

/-- A record, with its members in the order of the text. -/
def recordValue (lane manifest : String) (identity : Value)
    (entries : List (String × List String)) : Value :=
  .object [("schema_version", .number (.posInt 1)), ("lane", .string lane),
    ("candidate_sha", .string sourceCandidate), ("run_url", .string sourceRun),
    ("native_manifest_artifact_name", .string ("dockerlens-native-" ++ lane)),
    ("native_manifest_sha256", .string manifest), ("identity", identity),
    ("capabilities", .array (entries.map entryValue))]

/-- A record of Debian 11. -/
def debianDocument (mode manifest : String) (entries : List (String × List String)) : Value :=
  recordValue ("debian11-" ++ mode) manifest
    (.object [("build", .object [("kind", .string "debian-package"),
        ("distribution", .string "debian11"), ("package_name", .string "docker.io"),
        ("package_revision", .string "20.10.5+dfsg1-1+deb11u2")]),
      ("engine_release", .string "20.10.5+dfsg1"), ("advertised_api", .string "1.41"),
      ("acquisition_api", .string "1.41"), ("rendering_api", .string "1.41"),
      ("mode", .string mode)])
    entries

/-- A record of the upstream release. -/
def upstreamDocument (mode manifest : String) (entries : List (String × List String)) : Value :=
  recordValue ("upstream-" ++ mode) manifest
    (.object [("build", .object [("kind", .string "upstream")]),
      ("engine_release", .string "29.8.1"), ("advertised_api", .string "1.56"),
      ("acquisition_api", .string "1.49"), ("rendering_api", .string "1.56"),
      ("mode", .string mode)])
    entries

/-- The text of a checked-in file, which ends its line. -/
def fileText (value : Value) : String := String.ofList (compact value ++ ['\n'])

/-- The hash of the first record. -/
def debianHash : String := "ae366c50cb7213cf62f75b0cee002ec1f81c7ec56b0518053575c0c2f2c74033"

/-- The hash of the first record's manifest. -/
def debianManifest : String := "27053783c2ad3dc4b28bdcd2a5a0411c859d9dcf51d4d9317f73bde8b3cb4898"

/-- `RECORDS`. -/
def checkedIn : List Source :=
  [⟨.debian11Rootful, debianHash,
      fileText (debianDocument "rootful" debianManifest debianEntries)⟩,
    ⟨.debian11Rootless, "3f207baae9a2fd58f1a02b4f2c0cc282f10ab36b70e1497ed36e7a5c58a954fd",
      fileText (debianDocument "rootless"
        "e8c453818f346d606175d474805ea3d3757b0eb8729e7f566ef1fc27a89dbf57" debianEntries)⟩,
    ⟨.upstreamRootful, "1a128e59871f6a22c69618c5c01d5909bf928d3de4f1eb03957af6cd12c6464b",
      fileText (upstreamDocument "rootful"
        "7237f2381503997226970a2038ca43e569959b6175ce3aa69906245e41138d67" upstreamEntries)⟩,
    ⟨.upstreamRootless, "90d64a85ec81af3a1b69520555c6c160b70c8631b14519fec28e1b1fb742c95b",
      fileText (upstreamDocument "rootless"
        "04173f9bf854c4e3b8a6e19f3fb58d5155dd75bf69076893397ae55e5983f216" upstreamEntries)⟩]

end DockerLens.ReviewedCatalog
