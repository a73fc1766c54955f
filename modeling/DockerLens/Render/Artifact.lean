import DockerLens.Render.Container

namespace DockerLens.Render

open DockerLens.Text
open DockerLens.Observation
open DockerLens.Version
open DockerLens.Target

/-- Consumer obligations for a destination-host source, not satisfied facts. -/
inductive BindSourceCondition
  | exists
  | typeReviewed
  | contentsReviewed
  | ownershipReviewed
  | permissionsReviewed
  deriving DecidableEq, Repr

/-- Conditions required for real relabel effects. -/
inductive BindRelabelCondition
  | daemonSelinuxEnabled
  | containerMountLabelPresent
  | policyFilesystemSupport
  | relabelAuthority
  deriving DecidableEq, Repr

/-- A path of the host that has to be there, and that may be relabelled. -/
structure BindSourcePrerequisite where
  reference : ResourceRef
  mountIndex : Nat
  identity : ProtectedValue
  source : ProtectedValue
  target : ProtectedValue
  readOnly : Bool
  relabel : BindRelabel
  sourceConditions : List BindSourceCondition
  selinuxConditions : List BindRelabelCondition
  deriving DecidableEq

/-- A network that has to be there, with what is expected of it. -/
structure NetworkPrerequisite where
  reference : ResourceRef
  expectedDriver : NetworkDriver
  expectedInternal : Option Bool
  identity : ProtectedValue
  deriving DecidableEq

/-- A volume that has to be there. -/
structure VolumePrerequisite where
  reference : ResourceRef
  identity : ProtectedValue
  deriving DecidableEq

/-- An index into one of the three lists of prerequisites. -/
inductive PrerequisiteOrder
  | network (index : Nat)
  | volume (index : Nat)
  | bindSource (index : Nat)
  deriving DecidableEq, Repr

/-- What an artifact keeps of its own rendering. -/
structure NativeRenderState where
  context : PlanningContext
  requests : List Chars
  prerequisiteOrder : List PrerequisiteOrder

/-- Inert request-only bytes and optional native-renderer review provenance. -/
structure RenderedArtifact where
  bytes : Bytes
  networkPrerequisites : List NetworkPrerequisite
  volumePrerequisites : List VolumePrerequisite
  bindSourcePrerequisites : List BindSourcePrerequisite
  native : Option NativeRenderState

/-- Opaque bytes with no native-renderer provenance. -/
def RenderedArtifact.new (bytes : Bytes) : RenderedArtifact := ⟨bytes, [], [], [], none⟩

/-- What the emission loop has written so far. -/
structure Emission where
  emitted : List ResourceRef
  lines : Chars
  requests : List Chars
  networkPrerequisites : List NetworkPrerequisite
  volumePrerequisites : List VolumePrerequisite
  bindSourcePrerequisites : List BindSourcePrerequisite
  prerequisiteOrder : List PrerequisiteOrder

namespace Emission

/-- The emission before the first node. -/
def start : Emission := ⟨[], [], [], [], [], [], []⟩

/-- A further network that has to be there. -/
def pushNetwork (self : Emission) (prerequisite : NetworkPrerequisite) : Emission :=
  { self with
    prerequisiteOrder := self.prerequisiteOrder ++ [.network self.networkPrerequisites.length]
    networkPrerequisites := self.networkPrerequisites ++ [prerequisite] }

/-- A further volume that has to be there. -/
def pushVolume (self : Emission) (prerequisite : VolumePrerequisite) : Emission :=
  { self with
    prerequisiteOrder := self.prerequisiteOrder ++ [.volume self.volumePrerequisites.length]
    volumePrerequisites := self.volumePrerequisites ++ [prerequisite] }

/-- A further path that has to be there. -/
def pushBindSource (self : Emission) (prerequisite : BindSourcePrerequisite) : Emission :=
  { self with
    prerequisiteOrder :=
      self.prerequisiteOrder ++ [.bindSource self.bindSourcePrerequisites.length]
    bindSourcePrerequisites := self.bindSourcePrerequisites ++ [prerequisite] }

end Emission

/-- The text of one request. -/
def requestText (path body : Chars) : Rendered Chars :=
  pushes
    [push "\x7b\"method\":\"POST\",\"path\":", jsonString (asBytes (String.ofList path)),
      push ",\"body\":", .ok body, push "\x7d"]

/-- A further request, as a line and for the complete document. -/
def appendRequest (emission : Emission) (path body : Chars) : Rendered Emission := do
  let request ← requestText path body
  .ok { emission with
        lines := emission.lines ++ request ++ ['\n']
        requests := emission.requests ++ [request] }

/-- The prefix of every request path. -/
def apiPath (api : ApiVersion) : Chars :=
  "/v".toList ++ decimal api.major ++ '.' :: decimal api.minor ++ ['/']

/-- The obligation of a relabelled mount. -/
def bindSource (container : ContainerIntent) (mount : Mount) (mountIndex : Nat)
    (source : Bytes) (relabel : BindRelabel) : BindSourcePrerequisite where
  reference := container.reference
  mountIndex := mountIndex
  identity := container.identity.bytes
  source := source
  target := mount.target
  readOnly := mount.readOnly
  relabel := relabel
  sourceConditions :=
    [.exists, .typeReviewed, .contentsReviewed, .ownershipReviewed, .permissionsReviewed]
  selinuxConditions :=
    [.daemonSelinuxEnabled, .containerMountLabelPresent, .policyFilesystemSupport,
      .relabelAuthority]

/-- A relabelled mount leaves an obligation. -/
def pushMount (container : ContainerIntent) (emission : Emission) (entry : Mount × Nat) :
    Rendered Emission :=
  match entry.1.bindRelabel with
  | none => .ok emission
  | some relabel =>
      match entry.1.source with
      | .bind source =>
          .ok (emission.pushBindSource (bindSource container entry.1 entry.2 source relabel))
      | _ => .error .invalidGraph

/-- The prerequisites of a resource, and the path and the body of its request. -/
def resourceRequest (path : Chars) (resources : List TargetResource) (emission : Emission) :
    TargetResource → Rendered (Emission × Option (Chars × Chars))
  | .network network =>
      match network.source with
      | .create _ => do
          let body ← renderNetwork network
          .ok (emission, some (path ++ "networks/create".toList, body))
      | .external expectedDriver expectedInternal =>
          .ok (emission.pushNetwork
            ⟨network.reference, expectedDriver, expectedInternal, network.identity.bytes⟩, none)
  | .volume _ identity labels => do
      let body ← renderVolume identity labels
      .ok (emission, some (path ++ "volumes/create".toList, body))
  | .externalVolume reference identity =>
      .ok (emission.pushVolume ⟨reference, identity.bytes⟩, none)
  | .container container => do
      let emission ← container.mounts.zipIdx.foldlM (pushMount container) emission
      let body ← renderContainer container resources
      .ok (emission, some (path ++ "containers/create?name=".toList ++
        percentEncode container.identity.bytes, body))

/-- A request for a connect step of the container. -/
def connect (path : Chars) (resources : List TargetResource) (container : ContainerIntent)
    (emission : Emission) (attachmentIndex : Nat) : Rendered Emission :=
  match container.networks[attachmentIndex]? with
  | none => .error .invalidGraph
  | some attachment => do
      let (connection, body) ← renderSecondaryConnection container attachment resources
      appendRequest emission (path ++ connection) body

/-- The attachments that the steps of a node connect. -/
def connections (steps : List OperationStep) (resource : ResourceRef) : List Nat :=
  (steps.filter (·.id.resource == resource)).filterMap fun step =>
    match step.action with
    | .connectNetwork _ attachmentIndex => some attachmentIndex
    | _ => none

/-- One turn of the emission loop. -/
def emitNode (graph : OperationGraph) (emission : Emission) (node : OperationNode) :
    Rendered Emission := do
  let path := apiPath graph.context.api
  let resources := graph.intent.resources
  match resourceOf resources node.resource with
  | none => .error .invalidGraph
  | some resource =>
      let (emission, request) ← resourceRequest path resources emission resource
      let emission ← match request with
        | none => .ok emission
        | some (requestPath, body) => appendRequest emission requestPath body
      let emission ← match resource with
        | .container container =>
            (connections graph.steps node.resource).foldlM (connect path resources container)
              emission
        | _ => .ok emission
      .ok { emission with emitted := emission.emitted ++ [node.resource] }

/-- The emission loop; every turn emits a node that was not emitted before. -/
def emit (graph : OperationGraph) : Nat → Emission → Rendered Emission
  | 0, emission => .ok emission
  | fuel + 1, emission =>
      if emission.emitted.length < graph.nodes.length then
        match Topological.next OperationNode.resource OperationNode.dependsOn graph.nodes
          emission.emitted with
        | none => .error .invalidGraph
        | some node => do
            let emission ← emitNode graph emission node
            emit graph fuel emission
      else .ok emission

/-- `DockerApiRenderer::render`. -/
def render (graph : OperationGraph) : Rendered RenderedArtifact := do
  let emission ← emit graph graph.nodes.length .start
  .ok { bytes := asBytes (String.ofList emission.lines)
        networkPrerequisites := emission.networkPrerequisites
        volumePrerequisites := emission.volumePrerequisites
        bindSourcePrerequisites := emission.bindSourcePrerequisites
        native := some
          { context := graph.context
            requests := emission.requests
            prerequisiteOrder := emission.prerequisiteOrder } }

def relabelName : BindRelabel → String
  | .shared => "shared"
  | .private => "private"

def networkDriverName : NetworkDriver → String
  | .bridge => "bridge"
  | .host => "host"
  | .overlay => "overlay"
  | .macvlan => "macvlan"

def daemonModeName : DaemonMode → String
  | .rootful => "rootful"
  | .rootless => "rootless"
  | .unknown => "unknown"

/-- The exact decimal text of a reference or an index. -/
def decimalText (value : Nat) : Bytes := asBytes (String.ofList (decimal value))

def appendBindSource (bind : BindSourcePrerequisite) : Rendered Chars :=
  pushes
    [push "\x7b\"kind\":\"bind_source\",\"reference\":",
      jsonString (decimalText bind.reference.localIndex),
      push ",\"identity\":", jsonString bind.identity,
      push ",\"mount_index\":", jsonString (decimalText bind.mountIndex),
      push ",\"source\":", jsonString bind.source,
      push ",\"target\":", jsonString bind.target,
      push (if bind.readOnly then ",\"read_only\":true" else ",\"read_only\":false"),
      push ",\"relabel\":", jsonString (asBytes (relabelName bind.relabel)),
      push (",\"source_conditions\":[\"exists\",\"type_reviewed\",\"contents_reviewed\"," ++
        "\"ownership_reviewed\",\"permissions_reviewed\"]"),
      push (",\"selinux_effect\":\"unverified\",\"selinux_conditions\":" ++
        "[\"daemon_selinux_enabled\",\"container_mount_label_present\"," ++
        "\"policy_filesystem_support\",\"relabel_authority\"]")]

def appendNetwork (network : NetworkPrerequisite) : Rendered Chars :=
  pushes
    [push "\x7b\"kind\":\"network\",\"reference\":",
      jsonString (decimalText network.reference.localIndex),
      push ",\"identity\":", jsonString network.identity,
      push ",\"expected_driver\":", jsonString (asBytes (networkDriverName network.expectedDriver)),
      pushSome (fun expectedInternal =>
        pushes [push ",\"expected_internal\":",
          push (if expectedInternal then "true" else "false")])
        network.expectedInternal]

def appendVolume (volume : VolumePrerequisite) : Rendered Chars :=
  pushes
    [push "\x7b\"kind\":\"volume\",\"reference\":",
      jsonString (decimalText volume.reference.localIndex),
      push ",\"identity\":", jsonString volume.identity]

/-- An index out of bounds aborts. -/
def indexed {α : Type} (values : List α) (index : Nat) : Rendered α :=
  match values[index]? with
  | none => .error .aborted
  | some value => .ok value

/-- The entry of a prerequisite, which the order finds by its index. -/
def appendPrerequisite (artifact : RenderedArtifact) (prerequisite : PrerequisiteOrder) :
    Rendered Chars :=
  pushes
    [match prerequisite with
      | .network index => indexed artifact.networkPrerequisites index >>= appendNetwork
      | .volume index => indexed artifact.volumePrerequisites index >>= appendVolume
      | .bindSource index => indexed artifact.bindSourcePrerequisites index >>= appendBindSource,
      push "\x7d"]

/-- An API version as a text. -/
def appendApiVersion (version : ApiVersion) : Rendered Chars :=
  jsonString (asBytes (String.ofList (decimal version.major ++ '.' :: decimal version.minor)))

/-- The object of a build. -/
def appendBuild : EngineBuild → Rendered Chars
  | .upstream => push "\x7b\"kind\":\"upstream\"\x7d"
  | .debianPackage revision =>
      pushes
        [push "\x7b\"kind\":\"debian_package\",\"revision\":", jsonString (asBytes revision.text),
          push "\x7d"]

/-- `{:02x}`. -/
def hex2 (byte : UInt8) : Chars :=
  let digits := Nat.toDigits 16 byte.toNat
  List.replicate (2 - digits.length) '0' ++ digits

/-- The object of what was planned for. -/
def appendContext : PlanningContext → Rendered Chars
  | .observed scope =>
      pushes
        [push ("\x7b\"kind\":\"observed\",\"provenance\":\"process_local_only\"," ++
            "\"engine_release\":"),
          jsonString (asBytes scope.release.text),
          push ",\"api_version\":", appendApiVersion scope.apiVersion,
          push ",\"daemon_mode\":", jsonString (asBytes (daemonModeName scope.mode)),
          push "\x7d"]
  | .target profile =>
      pushes
        [push "\x7b\"kind\":\"target\",\"build\":", appendBuild profile.identity.build,
          push ",\"engine_release\":", jsonString (asBytes profile.identity.release.text),
          push ",\"advertised_api_version\":",
          appendApiVersion profile.identity.advertisedApiVersion,
          push ",\"acquisition_api_version\":",
          appendApiVersion profile.identity.acquisitionApiVersion,
          push ",\"rendering_api_version\":",
          appendApiVersion profile.identity.renderingApiVersion,
          push ",\"daemon_mode\":", jsonString (asBytes (daemonModeName profile.identity.mode)),
          push ",\"evidence_sha256\":\"", .ok (profile.evidenceKey.bytes.flatMap hex2),
          push "\"", push "\x7d"]

/-- The version of the complete document, which its contents raise. -/
def schemaVersion (artifact : RenderedArtifact) : Nat :=
  if artifact.networkPrerequisites.any (·.expectedInternal.isSome) then 3
  else if artifact.bindSourcePrerequisites.isEmpty then 1
  else 2

/-- The text of the complete document. -/
def completeText (artifact : RenderedArtifact) : Rendered Chars :=
  match artifact.native with
  | none => .error .missingNativeProvenance
  | some native =>
      pushes
        [push "\x7b\"schema_version\":", .ok (decimal (schemaVersion artifact)),
          push ",\"context\":", appendContext native.context,
          push ",\"requests\":[", separated .ok native.requests,
          push "],\"prerequisites\":[",
          separated (appendPrerequisite artifact) native.prerequisiteOrder, push "]\x7d\n"]

/-- The versioned, complete inert review artifact. -/
def completeBytes (artifact : RenderedArtifact) : Rendered Bytes :=
  (completeText artifact).map fun text => asBytes (String.ofList text)

end DockerLens.Render
