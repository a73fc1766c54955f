import DockerLens.Target.Plan
import Mathlib.SetTheory.Cardinal.Arithmetic

namespace DockerLens.Target

open DockerLens.Text
open DockerLens.Observation
open DockerLens.Version
open DockerLens.Fold

/-- Other local references, and other internal expectations of the external networks. -/
structure Renaming where
  reference : ResourceRef → ResourceRef
  expectedInternal : ResourceRef → Option Bool

namespace Renaming

section Definitions

variable (fresh : Renaming)

def mountSource : MountSource → MountSource
  | .bind path => .bind path
  | .volume reference => .volume (fresh.reference reference)
  | .tmpfs options => .tmpfs options

theorem validMount_mountSource (source : MountSource) (target : Bytes)
    (relabel : Option BindRelabel) :
    validMount (fresh.mountSource source) target relabel = validMount source target relabel := by
  cases source <;> rfl

def mount (mount : Mount) : Mount where
  source := fresh.mountSource mount.source
  target := mount.target
  readOnly := mount.readOnly
  bindRelabel := mount.bindRelabel
  valid := (fresh.validMount_mountSource _ _ _).trans mount.valid

def attachment (attachment : NetworkAttachmentIntent) : NetworkAttachmentIntent :=
  { attachment with network := fresh.reference attachment.network }

def networkSource (reference : ResourceRef) : NetworkSource → NetworkSource
  | .create create => .create create
  | .external expectedDriver _ => .external expectedDriver (fresh.expectedInternal reference)

def network (network : NetworkIntent) : NetworkIntent :=
  { network with
    reference := fresh.reference network.reference
    source := fresh.networkSource network.reference network.source }

def container (container : ContainerIntent) : ContainerIntent :=
  { container with
    reference := fresh.reference container.reference
    mounts := container.mounts.map fresh.mount
    networks := container.networks.map fresh.attachment }

def resource : TargetResource → TargetResource
  | .network network => .network (fresh.network network)
  | .volume reference identity labels =>
      .volume (fresh.reference reference) identity labels
  | .externalVolume reference identity => .externalVolume (fresh.reference reference) identity
  | .container container => .container (fresh.container container)

def need (need : ResourceRef × TargetKind) : ResourceRef × TargetKind :=
  (fresh.reference need.1, need.2)

def node (node : OperationNode) : OperationNode where
  operation := { node.operation with resource := fresh.reference node.operation.resource }
  dependsOn := node.dependsOn.map fresh.reference

def stepId (id : OperationStepId) : OperationStepId := ⟨fresh.reference id.resource, id.ordinal⟩

def action : OperationStepAction → OperationStepAction
  | .create kind => .create kind
  | .requireExisting kind => .requireExisting kind
  | .connectNetwork network attachmentIndex =>
      .connectNetwork (fresh.reference network) attachmentIndex

def step (step : OperationStep) : OperationStep where
  id := fresh.stepId step.id
  action := fresh.action step.action
  dependsOn := step.dependsOn.map fresh.stepId

/-- The graph of an intent that was renamed. -/
def graph (renamed : TargetIntent) (graph : OperationGraph) : OperationGraph where
  intent := renamed
  context := graph.context
  nodes := graph.nodes.map fresh.node
  steps := graph.steps.map fresh.step

/-- What a reference leads to is what the new one leads to, renamed. -/
def Relates (resources renamed : List TargetResource) : Prop :=
  ∀ reference, resourceOf renamed (fresh.reference reference) =
    (resourceOf resources reference).map fresh.resource

/-- Some external network gets an expectation. -/
def Expects (resources : List TargetResource) : Prop :=
  ∃ network expectedDriver expectedInternal, .network network ∈ resources ∧
    network.source = .external expectedDriver expectedInternal ∧
    (fresh.expectedInternal network.reference).isSome = true

end Definitions

section Fields

variable {fresh : Renaming}

@[simp] theorem reference_resource (resource : TargetResource) :
    (fresh.resource resource).reference = fresh.reference resource.reference := by
  cases resource <;> rfl

@[simp] theorem kind_resource (resource : TargetResource) :
    (fresh.resource resource).kind = resource.kind := by
  cases resource <;> rfl

@[simp] theorem name_resource (resource : TargetResource) :
    (fresh.resource resource).name = resource.name := by
  cases resource <;> rfl

@[simp] theorem action_resource (resource : TargetResource) :
    (fresh.resource resource).action = resource.action := by
  cases resource with
  | network network =>
      obtain ⟨reference, identity, role, source⟩ := network
      cases source <;> rfl
  | volume _ _ _ | externalVolume _ _ | container _ => rfl

theorem volumeReference_mount (mount : Mount) :
    (fresh.mount mount).volumeReference = mount.volumeReference.map fresh.reference := by
  obtain ⟨source, target, readOnly, relabel, valid⟩ := mount
  cases source <;> rfl

theorem references_map (resources : List TargetResource) :
    (resources.map fresh.resource).map TargetResource.reference =
      (resources.map TargetResource.reference).map fresh.reference := by
  rw [List.map_map, List.map_map]
  apply List.map_congr_left
  intro resource _
  exact reference_resource resource

theorem networks_container (container : ContainerIntent) :
    (fresh.container container).networks.map NetworkAttachmentIntent.network =
      (container.networks.map NetworkAttachmentIntent.network).map fresh.reference := by
  rw [List.map_map]
  change (container.networks.map fresh.attachment).map NetworkAttachmentIntent.network = _
  rw [List.map_map]
  rfl

theorem volumes_container (container : ContainerIntent) :
    (fresh.container container).mounts.filterMap Mount.volumeReference =
      (container.mounts.filterMap Mount.volumeReference).map fresh.reference := by
  change (container.mounts.map fresh.mount).filterMap Mount.volumeReference = _
  rw [List.filterMap_map, List.map_filterMap]
  apply List.filterMap_congr
  intro mount _
  exact volumeReference_mount mount

theorem required_container (container : ContainerIntent) :
    required (fresh.container container) = (required container).map fresh.need := by
  have hnetworks : required container =
      (container.networks.map NetworkAttachmentIntent.network).map (·, TargetKind.network) ++
        (container.mounts.filterMap Mount.volumeReference).map (·, TargetKind.volume) := by
    rw [required, List.map_map]
    rfl
  have hrenamed : required (fresh.container container) =
      ((fresh.container container).networks.map NetworkAttachmentIntent.network).map
          (·, TargetKind.network) ++
        ((fresh.container container).mounts.filterMap Mount.volumeReference).map
          (·, TargetKind.volume) := by
    rw [required, List.map_map]
    rfl
  rw [hrenamed, hnetworks, networks_container, volumes_container]
  simp only [List.map_append, List.map_map]
  rfl

theorem distinctMounts_container (container : ContainerIntent) :
    distinctMounts (fresh.container container) = distinctMounts container := by
  have htargets : (fresh.container container).mounts.map
      (fun mount => lexicalAbsolutePathKey mount.target) =
        container.mounts.map fun mount => lexicalAbsolutePathKey mount.target := by
    change (container.mounts.map fresh.mount).map _ = _
    rw [List.map_map]
    rfl
  simp only [distinctMounts, htargets]
  rfl

theorem staticAddresses_map (resources : List TargetResource) :
    staticAddresses (resources.map fresh.resource) =
      (staticAddresses resources).map (Prod.map fresh.reference id) := by
  rw [staticAddresses, staticAddresses, List.flatMap_map, List.map_flatMap]
  apply List.flatMap_congr
  intro resource _
  cases resource with
  | container container =>
      change (container.networks.map fresh.attachment).flatMap _ = _
      rw [List.flatMap_map, List.map_flatMap]
      apply List.flatMap_congr
      intro attachment _
      rw [List.map_map]
      rfl
  | network _ | volume _ _ _ | externalVolume _ _ => rfl

end Fields

section Accepted

variable {fresh : Renaming} (hinjective : Function.Injective fresh.reference)
  {resources : List TargetResource}
include hinjective

theorem relates_map : fresh.Relates resources (resources.map fresh.resource) := by
  intro reference
  rw [resourceOf, List.find?_map, resourceOf]
  congr 2
  funext resource
  rw [Function.comp_apply, reference_resource, Bool.eq_iff_iff, beq_iff_eq, beq_iff_eq,
    hinjective.eq_iff]

theorem attachedSource_map (attachment : NetworkAttachmentIntent) :
    attachedSource (resources.map fresh.resource) (fresh.attachment attachment) =
      (attachedSource resources attachment).map
        (fresh.networkSource attachment.network) := by
  have hfound : (resources.map fresh.resource).find?
      (·.reference == (fresh.attachment attachment).network) =
        (resources.find? (·.reference == attachment.network)).map fresh.resource :=
    relates_map hinjective attachment.network
  rw [attachedSource, hfound, attachedSource]
  cases hfind : resources.find? (·.reference == attachment.network) with
  | none => rfl
  | some found =>
      have hreference : found.reference = attachment.network := by
        simpa using List.find?_some hfind
      cases found with
      | network network =>
          change some (fresh.networkSource network.reference network.source) = _
          rw [show network.reference = attachment.network from hreference]
          rfl
      | volume _ _ _ | externalVolume _ _ | container _ => rfl

theorem attachmentAccepted {attachment : NetworkAttachmentIntent}
    (h : AttachmentAccepted resources attachment) :
    AttachmentAccepted (resources.map fresh.resource) (fresh.attachment attachment) where
  families := h.families
  aliases := h.aliases
  admitted := by
    have hadmitted := h.admitted
    rw [attachedSource_map hinjective]
    cases hsource : attachedSource resources attachment with
    | none => rfl
    | some source =>
        rw [hsource] at hadmitted
        cases source <;> exact hadmitted

theorem containerAccepted {container : ContainerIntent}
    (h : ContainerAccepted resources container) :
    ContainerAccepted (resources.map fresh.resource) (fresh.container container) where
  environment := h.environment
  ports := h.ports
  portKeys := h.portKeys
  labels := h.labels
  attachments := List.forall_mem_map.mpr fun attachment hattachment =>
    attachmentAccepted hinjective (h.attachments attachment hattachment)
  networks := by
    rw [networks_container]
    exact h.networks.map hinjective
  mounts := (distinctMounts_container container).trans h.mounts
  commands := h.commands
  clear := h.clear
  stopSignal := h.stopSignal
  settings := h.settings
  restart := h.restart

/-- What is accepted stays accepted under other references. -/
theorem accepted (h : Accepted resources) : Accepted (resources.map fresh.resource) where
  nonempty := by simpa using h.nonempty
  references := by
    rw [references_map]
    exact h.references.map hinjective
  labels := List.forall_mem_map.mpr fun resource hresource => by
    have hlabels := h.labels resource hresource
    cases resource <;> exact hlabels
  names := by
    have hnames : TargetResource.name ∘ fresh.resource = TargetResource.name :=
      funext name_resource
    rw [List.map_map, hnames]
    exact h.names
  defaults := by
    rw [List.flatMap_map, List.flatMap_congr fun resource _ =>
      show defaultEntries (fresh.resource resource) = defaultEntries resource by
        cases resource <;> rfl]
    exact h.defaults
  each := List.forall_mem_map.mpr fun resource hresource => by
    have heach := h.each resource hresource
    cases resource with
    | network network =>
        change SourceAccepted (fresh.networkSource network.reference network.source)
        change SourceAccepted network.source at heach
        cases hsource : network.source with
        | create create =>
            rw [hsource] at heach
            exact heach
        | external expectedDriver expectedInternal =>
            rw [hsource] at heach
            exact heach
    | container container => exact containerAccepted hinjective heach
    | volume _ _ _ | externalVolume _ _ => trivial
  fixedPorts := by
    rw [List.flatMap_map, List.flatMap_congr fun resource _ =>
      show Target.fixedPorts (fresh.resource resource) = Target.fixedPorts resource by
        cases resource <;> rfl]
    exact h.fixedPorts
  staticAddresses := by
    rw [staticAddresses_map]
    exact h.staticAddresses.map (hinjective.prodMap Function.injective_id)

end Accepted

section Plan

variable {fresh : Renaming}

theorem mountGates_mount (mount : Mount) : mountGates (fresh.mount mount) = mountGates mount := by
  unfold mountGates
  change (match fresh.mountSource mount.source with
    | .bind _ => [Gate.require .bindMount .bindMount]
    | .volume _ => [.require .namedVolume .namedVolume]
    | .tmpfs _ => [.require .tmpfsMount .tmpfsMount]) ++ _ = _
  cases mount.source <;> rfl

theorem containerGates_container (mode : DaemonMode) (container : ContainerIntent) :
    containerGates mode (fresh.container container) = containerGates mode container := by
  have hmounts : (fresh.container container).mounts.flatMap mountGates =
      container.mounts.flatMap mountGates := by
    change (container.mounts.map fresh.mount).flatMap mountGates = _
    rw [List.flatMap_map]
    apply List.flatMap_congr
    intro mount _
    exact mountGates_mount mount
  have hempty : (fresh.container container).networks.isEmpty = container.networks.isEmpty :=
    List.isEmpty_map
  have hlength : (fresh.container container).networks.length = container.networks.length :=
    List.length_map _
  have hattachments : (fresh.container container).networks.flatMap attachmentGates =
      container.networks.flatMap attachmentGates := by
    change (container.networks.map fresh.attachment).flatMap attachmentGates = _
    rw [List.flatMap_map]
    rfl
  unfold containerGates
  rw [hmounts, hempty, hlength, hattachments]
  rfl

/-- The only gate that a renaming moves is the one of an expectation. -/
theorem admits_map_iff {capabilities : PlanningCapabilitySet} {resources : List TargetResource}
    (h : ∀ resource ∈ resources, Admits capabilities resource) :
    (∀ resource ∈ resources.map fresh.resource, Admits capabilities resource) ↔
      (fresh.Expects resources →
        capabilities.supports .networkExternalInternalExpectation = true) := by
  constructor
  · rintro hall ⟨network, expectedDriver, expectedInternal, hnetwork, hsource, hexpected⟩
    have hopen := hall _ (List.mem_map_of_mem hnetwork)
      (.require .networkExternalInternalExpectation .networkExternalInternalExpectation)
    apply hopen
    change _ ∈ networkGates (fresh.networkSource network.reference network.source)
    rw [hsource]
    exact List.mem_append_right _ (by rw [gateIf, if_pos hexpected]; exact List.mem_cons_self)
  · intro hexpects
    rw [List.forall_mem_map]
    intro resource hresource
    have hadmits := h resource hresource
    cases resource with
    | container container =>
        rw [Admits] at hadmits ⊢
        change ∀ gate ∈ containerGates _ (fresh.container container), _
        rw [containerGates_container]
        exact hadmits
    | network network =>
        rw [Admits] at hadmits ⊢
        change ∀ gate ∈ networkGates (fresh.networkSource network.reference network.source), _
        change ∀ gate ∈ networkGates network.source, _ at hadmits
        cases hsource : network.source with
        | create create =>
            rw [hsource] at hadmits
            exact hadmits
        | external expectedDriver expectedInternal =>
            rw [hsource] at hadmits
            intro gate hgate
            rcases List.mem_append.mp hgate with hgate | hgate
            · exact hadmits gate (List.mem_append_left _ hgate)
            · apply forall_mem_gateIf.mpr _ gate hgate
              intro hexpected
              exact hexpects
                ⟨network, expectedDriver, expectedInternal, hresource, hsource, hexpected⟩
    | volume _ _ _ | externalVolume _ _ => exact hadmits

theorem nodeSteps_map {resources renamed : List TargetResource}
    (h : fresh.Relates resources renamed) (node : OperationNode) :
    nodeSteps renamed (fresh.node node) = (nodeSteps resources node).map fresh.step := by
  have hbase : baseStep (fresh.node node) = fresh.step (baseStep node) := by
    obtain ⟨⟨reference, kind, action⟩, dependsOn⟩ := node
    have hdepends : (dependsOn.map fresh.reference).map (⟨·, 0⟩ : ResourceRef → OperationStepId) =
        (dependsOn.map (⟨·, 0⟩)).map fresh.stepId := by
      rw [List.map_map, List.map_map]
      rfl
    rw [baseStep, step]
    change OperationStep.mk _ _ ((dependsOn.map fresh.reference).map (⟨·, 0⟩)) = _
    rw [hdepends]
    cases action <;> rfl
  have hfound : resourceOf renamed (fresh.node node).resource =
      (resourceOf resources node.resource).map fresh.resource := h node.resource
  rw [nodeSteps, nodeSteps, hfound, List.map_cons, hbase]
  congr 1
  cases resourceOf resources node.resource with
  | none => rfl
  | some resource =>
      cases resource with
      | container container =>
          change ((container.networks.map fresh.attachment).zipIdx.drop 1).map _ = _
          rw [List.zipIdx_map, ← List.map_drop, List.map_map, List.map_map]
          rfl
      | network _ | volume _ _ _ | externalVolume _ _ => rfl

variable (hinjective : Function.Injective fresh.reference)
include hinjective

theorem declared_map {resources : List TargetResource} (h : Declared resources) :
    Declared (resources.map fresh.resource) := by
  intro container hcontainer need hneed
  obtain ⟨resource, hresource, heq⟩ := List.mem_map.mp hcontainer
  cases resource with
  | container original =>
      cases heq
      rw [required_container] at hneed
      obtain ⟨found, hfound, rfl⟩ := List.mem_map.mp hneed
      obtain ⟨hmem, hne⟩ := h original hresource found hfound
      rw [references_map]
      exact ⟨List.mem_map_of_mem hmem, hinjective.ne hne⟩
  | network _ | volume _ _ _ | externalVolume _ _ => cases heq

theorem resolved_map {resources : List TargetResource} {resource : TargetResource}
    (h : Resolved resources resource) :
    Resolved (resources.map fresh.resource) (fresh.resource resource) := by
  intro container heq need hneed
  cases resource with
  | container original =>
      cases heq
      rw [required_container] at hneed
      obtain ⟨found, hfound, rfl⟩ := List.mem_map.mp hneed
      have hresolves := h original rfl found hfound
      rw [Resolves] at hresolves ⊢
      change (resourceOf _ (fresh.reference found.1)).map _ = some found.2
      rw [relates_map hinjective, Option.map_map, ← hresolves]
      congr 1
      funext resource
      exact kind_resource resource
  | network _ | volume _ _ _ | externalVolume _ _ => cases heq

theorem foldl_unlisted_map (references found : List ResourceRef) :
    (references.map fresh.reference).foldl (fun references reference =>
        if reference ∈ references then references else references ++ [reference])
        (found.map fresh.reference) =
      (references.foldl (fun references reference =>
        if reference ∈ references then references else references ++ [reference]) found).map
        fresh.reference := by
  induction references generalizing found with
  | nil => rfl
  | cons reference references ih =>
      rw [List.map_cons, List.foldl_cons, List.foldl_cons]
      simp only [List.mem_map_of_injective hinjective]
      split
      · exact ih found
      · rw [← ih, List.map_append, List.map_singleton]

theorem planNode_resource (resource : TargetResource) :
    planNode (fresh.resource resource) = fresh.node (planNode resource) := by
  have hdependencies : dependencies (fresh.resource resource) =
      (dependencies resource).map fresh.reference := by
    cases resource with
    | container container =>
        change dependencies (.container (fresh.container container)) = _
        rw [dependencies, networks_container, volumes_container, ← List.map_append]
        exact foldl_unlisted_map hinjective _ []
    | network _ | volume _ _ _ | externalVolume _ _ => rfl
  rw [planNode, hdependencies, reference_resource, kind_resource, action_resource]
  rfl

/-- Planning under other references succeeds when it did before, as long as a capability stands
behind the expectations that are new. -/
theorem plan_map_iff {hash hash' : HashOrder ResourceRef} {intent renamed : TargetIntent}
    (hrenamed : renamed.resources = intent.resources.map fresh.resource)
    {capabilities : PlanningCapabilitySet} {graph : OperationGraph}
    (h : plan hash intent capabilities = .ok graph) {graph' : OperationGraph} :
    plan hash' renamed capabilities = .ok graph' ↔
      (fresh.Expects intent.resources →
        capabilities.supports .networkExternalInternalExpectation = true) ∧
      graph' = fresh.graph renamed graph := by
  have hnodes : renamed.resources.map planNode =
      (intent.resources.map planNode).map fresh.node := by
    rw [hrenamed, List.map_map, List.map_map]
    apply List.map_congr_left
    intro resource _
    exact planNode_resource hinjective resource
  obtain ⟨hdeclared, hresolved, hapi, hadmits, rfl⟩ := plan_eq_ok_iff.mp h
  have hgraph : OperationGraph.build renamed capabilities (renamed.resources.map planNode) =
      fresh.graph renamed
        (.build intent capabilities (intent.resources.map planNode)) := by
    have hsteps : (renamed.resources.map planNode).flatMap (nodeSteps renamed.resources) =
        ((intent.resources.map planNode).flatMap (nodeSteps intent.resources)).map fresh.step := by
      rw [hnodes, hrenamed, List.flatMap_map, List.map_flatMap]
      apply List.flatMap_congr
      intro node _
      exact nodeSteps_map (relates_map hinjective) node
    rw [OperationGraph.build, hsteps, hnodes]
    rfl
  rw [plan_eq_ok_iff, hgraph, hrenamed, admits_map_iff hadmits]
  constructor
  · rintro ⟨-, -, -, hexpects, hgraph⟩
    exact ⟨hexpects, hgraph⟩
  · rintro ⟨hexpects, hgraph⟩
    exact ⟨declared_map hinjective hdeclared, List.forall_mem_map.mpr fun resource hresource =>
      resolved_map hinjective (hresolved resource hresource), hapi, hexpects, hgraph⟩

end Plan

end Renaming

end DockerLens.Target
