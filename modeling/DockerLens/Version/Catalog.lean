import DockerLens.Fold
import DockerLens.Version.Shapes

namespace DockerLens.Version

open DockerLens.Text
open DockerLens.Fold

/-- The reasons to refuse facts, evidence or a profile. -/
inductive CapabilityError
  | missingDaemonIdentity
  | invalidApiRange
  | duplicateCapability
  | invalidProvenance
  | scopeMismatch
  | unknownTargetMode
  | invalidTargetApiRange
  | invalidPackageRevision
  | emptyEvidenceKey
  | invalidEvidenceRunUrl
  | invalidEvidenceCandidateSha
  | invalidEvidenceArtifactName
  | evidenceLaneMismatch
  | evidenceKeyMismatch
  | incompleteEvidenceShapes
  | duplicateEvidenceShape
  | evidenceShapeMismatch
  | duplicateProfile
  | profileNotReviewed
  deriving DecidableEq, Repr

/-- `DebianPackageRevision::new`. -/
def DebianPackageRevision.new (value : String) : Except CapabilityError DebianPackageRevision :=
  if h : value ≠ "" ∧
      (asBytes value).all (fun byte => !(isAsciiWhitespace byte || byte < 32 || byte == 127)) then
    .ok ⟨value, h⟩
  else .error .invalidPackageRevision

/-- `CapabilityEvidenceKey::sha256`, of an array of 32 bytes. -/
def CapabilityEvidenceKey.sha256 (digest : Bytes) : Except CapabilityError CapabilityEvidenceKey :=
  if h : digest.length = 32 ∧ digest ≠ List.replicate 32 0 then .ok ⟨digest, h⟩
  else .error .emptyEvidenceKey

/-- The native matrix lane that exercised one exact build and daemon mode. -/
inductive NativeEvidenceLane
  | debian11Rootful
  | debian11Rootless
  | upstreamRootful
  | upstreamRootless
  deriving DecidableEq, Repr

namespace NativeEvidenceLane

/-- The artifact that the native workflow emits for a lane. -/
def artifactName : NativeEvidenceLane → String
  | .debian11Rootful => "dockerlens-native-debian11-rootful"
  | .debian11Rootless => "dockerlens-native-debian11-rootless"
  | .upstreamRootful => "dockerlens-native-upstream-rootful"
  | .upstreamRootless => "dockerlens-native-upstream-rootless"

def apiV1_41 : ApiVersion := ⟨1, 41, Nat.one_pos, ApiVersion.major_one_lt, ApiVersion.minor_41_lt⟩

/-- The build, the release and the API versions of the Debian 11 lanes. -/
def isDebian11 (identity : TargetProfileIdentity) : Bool :=
  (match identity.build with
    | .debianPackage revision => revision.text == "20.10.5+dfsg1-1+deb11u2"
    | .upstream => false) &&
    identity.release.text == "20.10.5+dfsg1" &&
    identity.advertisedApiVersion == apiV1_41 &&
    identity.acquisitionApiVersion == apiV1_41 &&
    identity.renderingApiVersion == apiV1_41

/-- `NativeEvidenceLane::matches_identity`. -/
def matchesIdentity (lane : NativeEvidenceLane) (identity : TargetProfileIdentity) : Bool :=
  (identity.release.text == "29.8.1" &&
    match lane, identity.build, identity.mode with
    | .upstreamRootful, .upstream, .rootful => true
    | .upstreamRootless, .upstream, .rootless => true
    | _, _, _ => false) ||
  (isDebian11 identity &&
    match lane, identity.mode with
    | .debian11Rootful, .rootful => true
    | .debian11Rootless, .rootless => true
    | _, _ => false)

end NativeEvidenceLane

/-- `str::split_once` at a text. -/
def splitOnceAt (separator : List Char) : List Char → Option (List Char × List Char)
  | [] => if separator.isEmpty then some ([], []) else none
  | char :: rest =>
      if separator.isPrefixOf (char :: rest) then
        some ([], (char :: rest).drop separator.length)
      else (splitOnceAt separator rest).map fun (before, after) => (char :: before, after)

/-- What the address of a run begins with. -/
def runUrlPrefix : String := "https://github.com/Strukturpiloten/docker-lens/actions/runs/"

/-- A decimal number without a leading zero. -/
def validRunPart (part : List Char) : Bool :=
  part.head?.any (fun char => '1' ≤ char && char ≤ '9') && part.all Char.isDigit

/-- A run and one of its attempts. -/
def validRunUrl (runUrl : String) : Bool :=
  runUrlPrefix.toList.isPrefixOf runUrl.toList &&
    match splitOnceAt "/attempts/".toList (runUrl.toList.drop runUrlPrefix.length) with
    | none => false
    | some (runId, attempt) => validRunPart runId && validRunPart attempt

/-- 40 digits of a hexadecimal number in lower case. -/
def validCandidateSha (candidateSha : String) : Bool :=
  (asBytes candidateSha).length == 40 &&
    (asBytes candidateSha).all fun byte => isAsciiDigit byte || (97 ≤ byte && byte ≤ 102)

/-- Locator for an immutable native capability record. -/
structure NativeEvidenceReference where
  lane : NativeEvidenceLane
  runUrl : String
  candidateSha : String
  artifactName : String
  manifestKey : CapabilityEvidenceKey
  recordKey : CapabilityEvidenceKey
  deriving DecidableEq

/-- `NativeEvidenceReference::new`. -/
def NativeEvidenceReference.new (lane : NativeEvidenceLane) (runUrl candidateSha : String)
    (artifactName : String) (manifestKey recordKey : CapabilityEvidenceKey) :
    Except CapabilityError NativeEvidenceReference := do
  ensure (validRunUrl runUrl = true) .invalidEvidenceRunUrl
  ensure (validCandidateSha candidateSha = true) .invalidEvidenceCandidateSha
  ensure (artifactName = lane.artifactName) .invalidEvidenceArtifactName
  .ok ⟨lane, runUrl, candidateSha, artifactName, manifestKey, recordKey⟩

/-- `TargetProfileIdentity::new`. -/
def TargetProfileIdentity.new (build : EngineBuild) (release : EngineRelease)
    (advertised acquisition rendering : ApiVersion) (mode : DaemonMode) :
    Except CapabilityError TargetProfileIdentity := do
  ensure (mode ≠ .unknown) .unknownTargetMode
  ensure (advertised.major = 1 ∧ ¬acquisition < NativeEvidenceLane.apiV1_41 ∧
    ¬rendering < NativeEvidenceLane.apiV1_41 ∧ ¬advertised < acquisition ∧
    ¬advertised < rendering) .invalidTargetApiRange
  .ok ⟨build, release, advertised, acquisition, rendering, mode⟩

/-- What a record states of one capability. -/
structure TargetCapabilityFact where
  capability : Capability
  state : CapabilityState
  deriving DecidableEq

/-- Reviewed-catalog entry bound to immutable native evidence. -/
structure TargetCapabilityRecord where
  profile : TargetProfile
  evidence : NativeEvidenceReference
  capabilities : List TargetCapabilityFact
  admittedShapes : List NativeCapabilityShape

namespace TargetCapabilityRecord

variable (self : TargetCapabilityRecord)

/-- The capabilities that the record states to be available. -/
def available : List Capability :=
  (self.capabilities.filter (·.state == .available)).map (·.capability)

/-- `TargetCapabilities::supports`. -/
def supports (capability : Capability) : Bool :=
  self.capabilities.any fun fact => fact.capability == capability && fact.state == .available

end TargetCapabilityRecord

/-- One turn of the loop over the shapes of a record. -/
def admitShape (available : List Capability) (shapes : List NativeCapabilityShape)
    (shape : NativeCapabilityShape) : Except CapabilityError (List NativeCapabilityShape) := do
  ensure (shape ∉ shapes) .duplicateEvidenceShape
  ensure (shape.capability ∈ available) .evidenceShapeMismatch
  .ok (shapes ++ [shape])

/-- Every shape that a capability requires is there. -/
def completeShapes (shapes : List NativeCapabilityShape) (capability : Capability) :
    Except CapabilityError Unit :=
  match NativeCapabilityShape.requiredFor capability with
  | none => .error .incompleteEvidenceShapes
  | some required => ensure (∀ shape ∈ required, shape ∈ shapes) .incompleteEvidenceShapes

/-- One turn of the loop over the records of a catalog. -/
def admitRecord (profiles : List TargetProfileIdentity) (record : TargetCapabilityRecord) :
    Except CapabilityError (List TargetProfileIdentity) := do
  ensure (record.profile.identity ∉ profiles) .duplicateProfile
  ensure (record.evidence.lane.matchesIdentity record.profile.identity = true)
    .evidenceLaneMismatch
  ensure (record.evidence.recordKey = record.profile.evidenceKey) .evidenceKeyMismatch
  ensure (record.capabilities.map (·.capability)).Nodup .duplicateCapability
  let shapes ← record.admittedShapes.foldlM (admitShape record.available) []
  record.available.forM (completeShapes shapes)
  .ok (profiles ++ [record.profile.identity])

/-- Records that passed the admission gate. -/
structure TargetCapabilityCatalog where
  records : List TargetCapabilityRecord
  admitted : ∃ profiles, records.foldlM admitRecord [] = .ok profiles

/-- `Option::ok_or`. -/
def okOr {ε α : Type} (error : ε) : Option α → Except ε α
  | some a => .ok a
  | none => .error error

@[simp] theorem okOr_eq_ok_iff {ε α : Type} {error : ε} {found : Option α} {a : α} :
    okOr error found = .ok a ↔ found = some a := by
  cases found <;> simp [okOr]

namespace TargetCapabilityCatalog

/-- `TargetCapabilityCatalog::from_records`. -/
def fromRecords (records : List TargetCapabilityRecord) :
    Except CapabilityError TargetCapabilityCatalog :=
  match h : records.foldlM admitRecord [] with
  | .ok profiles => .ok ⟨records, profiles, h⟩
  | .error error => .error error

/-- The capabilities of the record with exactly this profile. -/
def resolve (self : TargetCapabilityCatalog) (profile : TargetProfile) :
    Except CapabilityError TargetCapabilityRecord :=
  okOr .profileNotReviewed (self.records.find? (·.profile == profile))

/-- The capabilities of the record with this identity, whatever its evidence key. -/
def resolveIdentity (self : TargetCapabilityCatalog) (identity : TargetProfileIdentity) :
    Except CapabilityError TargetCapabilityRecord :=
  okOr .profileNotReviewed (self.records.find? (·.profile.identity == identity))

/-- The profiles of a catalog, in the order of its records. -/
def profiles (self : TargetCapabilityCatalog) : List TargetProfile :=
  self.records.map (·.profile)

end TargetCapabilityCatalog

end DockerLens.Version
