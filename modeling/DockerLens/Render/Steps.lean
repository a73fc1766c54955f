import DockerLens.Render.Emitted

namespace DockerLens.Render

open DockerLens.Text
open DockerLens.Json
open DockerLens.Fold
open DockerLens.Observation
open DockerLens.Version
open DockerLens.Target

/-- What one step of a plan leaves in the output. -/
def StepEmits (path : Chars) (resources : List TargetResource) (step : OperationStep) : Prop :=
  match step.action with
  | .create kind =>
      ∃ resource ∈ resources, resource.reference = step.id.resource ∧ resource.kind = kind ∧
        ∃ request, createRequest path resources resource = some request ∧
          stepRequests path resources step = [request] ∧
          ∀ prerequisite ∈ stepPrerequisites resources step,
            ∃ bind, prerequisite = .bindSource bind
  | .requireExisting kind =>
      ∃ resource ∈ resources, resource.reference = step.id.resource ∧ resource.kind = kind ∧
        ∃ prerequisite, requirement resource = some prerequisite ∧
          stepRequests path resources step = [] ∧
          stepPrerequisites resources step = [prerequisite]
  | .connectNetwork network attachmentIndex =>
      attachmentIndex = step.id.ordinal ∧ 0 < attachmentIndex ∧
      ∃ container, .container container ∈ resources ∧ container.reference = step.id.resource ∧
        ∃ attachment, container.networks[attachmentIndex]? = some attachment ∧
          attachment.network = network ∧
          stepRequests path resources step =
            [connectRequest path resources container attachment] ∧
          stepPrerequisites resources step = []

section Emits

variable {intent : TargetIntent} {capabilities : PlanningCapabilitySet}
  {nodes : List OperationNode}

theorem obligations_bindSource (resource : TargetResource) :
    ∀ prerequisite ∈ obligations resource, ∃ bind, prerequisite = .bindSource bind := by
  intro prerequisite hprerequisite
  cases resource with
  | container container =>
      obtain ⟨entry, -, hentry⟩ := List.mem_filterMap.mp hprerequisite
      rw [obligation] at hentry
      split at hentry
      · exact ⟨_, (Option.some_inj.mp hentry).symm⟩
      · cases hentry
  | network _ | volume _ _ _ | externalVolume _ _ => cases hprerequisite

theorem baseStep_emits (h : Planned intent capabilities nodes) (path : Chars)
    {node : OperationNode} (hnode : node ∈ nodes) :
    StepEmits path intent.resources (baseStep node) := by
  obtain ⟨resource, hresource, hfound, hreference, hkind, haction⟩ := h.exists_resource hnode
  obtain ⟨hrequests, hprerequisites⟩ := base_outputs hfound haction path
  have hcreate : resource.action = .create →
      (∃ request, createRequest path intent.resources resource = some request) ∧
        requirement resource = none := by
    intro hcreates
    cases resource with
    | network network =>
        cases hsource : network.source <;>
          simp_all [TargetResource.action, createRequest, requirement]
    | volume _ _ _ | container _ => exact ⟨⟨_, rfl⟩, rfl⟩
    | externalVolume _ _ => cases hcreates
  have hrequire : resource.action = .requireExisting →
      (∃ prerequisite, requirement resource = some prerequisite) ∧
        createRequest path intent.resources resource = none ∧ obligations resource = [] := by
    intro hrequires
    cases resource with
    | network network =>
        cases hsource : network.source <;>
          simp_all [TargetResource.action, createRequest, requirement, obligations]
    | externalVolume _ _ => exact ⟨⟨_, rfl⟩, rfl, rfl⟩
    | volume _ _ _ | container _ => cases hrequires
  rw [StepEmits]
  cases hnodeAction : node.operation.action with
  | create =>
      obtain ⟨⟨request, hrequest⟩, hnone⟩ := hcreate (haction.symm.trans hnodeAction)
      rw [hrequest] at hrequests
      rw [hnone, Option.toList_none, List.append_nil] at hprerequisites
      have hbase : (baseStep node).action = .create node.operation.kind := by
        simp only [baseStep, hnodeAction]
      rw [hbase]
      refine ⟨resource, hresource, hreference, hkind, request, hrequest, hrequests, ?_⟩
      rw [hprerequisites]
      exact obligations_bindSource resource
  | requireExisting =>
      obtain ⟨⟨prerequisite, hprerequisite⟩, hnoRequest, hnoObligation⟩ :=
        hrequire (haction.symm.trans hnodeAction)
      rw [hnoRequest] at hrequests
      rw [hnoObligation, hprerequisite] at hprerequisites
      have hbase : (baseStep node).action = .requireExisting node.operation.kind := by
        simp only [baseStep, hnodeAction]
      rw [hbase]
      exact ⟨resource, hresource, hreference, hkind, prerequisite, hprerequisite, hrequests,
        hprerequisites⟩

theorem connectStep_emits (path : Chars) {node : OperationNode} {container : ContainerIntent}
    (hfound : resourceOf intent.resources node.resource = some (.container container))
    {entry : NetworkAttachmentIntent × Nat} (hentry : entry ∈ container.networks.zipIdx.drop 1) :
    StepEmits path intent.resources (connectStep node entry) := by
  obtain ⟨hresource, hreference⟩ :=
    (resourceOf_eq_some_iff intent.accepted.references).mp hfound
  have hattachment := later_attachments container entry hentry
  have hpositive : 0 < entry.2 := by
    obtain ⟨index, hindex⟩ := List.getElem?_of_mem hentry
    rw [List.getElem?_drop, List.getElem?_zipIdx] at hindex
    obtain ⟨attachment, -, rfl⟩ := Option.map_eq_some_iff.mp hindex
    omega
  refine ⟨rfl, hpositive, container, hresource, hreference, entry.1, hattachment, rfl, ?_, ?_⟩
  · simp [stepRequests, connectStep, hfound, hattachment]
  · simp [stepPrerequisites, connectStep, hfound]

theorem steps_emit (h : Planned intent capabilities nodes) (path : Chars) :
    ∀ step ∈ nodes.flatMap (nodeSteps intent.resources),
      StepEmits path intent.resources step := by
  intro step hstep
  obtain ⟨node, hnode, hstep⟩ := List.mem_flatMap.mp hstep
  rcases mem_nodeSteps_iff.mp hstep with rfl | ⟨container, hfound, entry, hentry, rfl⟩
  · exact baseStep_emits h path hnode
  · exact connectStep_emits path hfound hentry

theorem exists_connectStep (h : Planned intent capabilities nodes) {container : ContainerIntent}
    (hcontainer : .container container ∈ intent.resources) {index : Nat} (hpositive : 0 < index)
    {attachment : NetworkAttachmentIntent}
    (hattachment : container.networks[index]? = some attachment) :
    ∃ step ∈ nodes.flatMap (nodeSteps intent.resources),
      step.id = ⟨container.reference, index⟩ ∧
      step.action = .connectNetwork attachment.network index := by
  obtain ⟨node, hnode, hreference⟩ := h.exists_node hcontainer
  have hfound : resourceOf intent.resources node.resource = some (.container container) :=
    (resourceOf_eq_some_iff intent.accepted.references).mpr ⟨hcontainer, hreference.symm⟩
  have hentry : (attachment, index) ∈ container.networks.zipIdx.drop 1 := by
    rw [List.mem_iff_getElem?]
    refine ⟨index - 1, ?_⟩
    rw [List.getElem?_drop, List.getElem?_zipIdx, Nat.add_sub_cancel' hpositive, hattachment]
    simp
  refine ⟨connectStep node (attachment, index), List.mem_flatMap.mpr ⟨node, hnode, ?_⟩, ?_, rfl⟩
  · exact mem_nodeSteps_iff.mpr (.inr ⟨container, hfound, _, hentry, rfl⟩)
  · exact congrArg (OperationStepId.mk · index) hreference

end Emits

/-- Rendering never fails on a planned graph. What it emits is what the steps of the plan stand
for, one step after another: each step once, and after all steps that it depends on. Every
attachment of a container after its first one has a step that connects it. -/
theorem render_steps {hash : HashOrder ResourceRef} {intent : TargetIntent}
    {capabilities : PlanningCapabilitySet} {nodes : List OperationNode} {graph : OperationGraph}
    (h : OperationGraph.new hash intent capabilities nodes = .ok graph) :
    (graph.steps.map OperationStep.id).Nodup ∧
    (∀ step ∈ graph.steps, ∀ dependency ∈ step.dependsOn,
      dependency ∈ graph.steps.map OperationStep.id) ∧
    (∀ step ∈ graph.steps,
      StepEmits (apiPath graph.context.api) graph.intent.resources step) ∧
    (∀ container, .container container ∈ graph.intent.resources → ∀ index attachment, 0 < index →
      container.networks[index]? = some attachment →
        ∃ step ∈ graph.steps, step.id = ⟨container.reference, index⟩ ∧
          step.action = .connectNetwork attachment.network index) ∧
    ∃ steps artifact native, render graph = .ok artifact ∧ artifact.native = some native ∧
      steps.Perm graph.steps ∧
      Topological.Linear OperationStep.id OperationStep.dependsOn steps ∧
      (∀ reference, ((steps.filter (·.id.resource == reference)).map
        (·.id.ordinal)).Pairwise (· < ·)) ∧
      List.Forall₂ Line
        (steps.flatMap (stepRequests (apiPath graph.context.api) graph.intent.resources))
        native.requests ∧
      artifact.bytes = asBytes (String.ofList (native.requests.flatMap (· ++ ['\n']))) ∧
      Lists artifact.networkPrerequisites artifact.volumePrerequisites
        artifact.bindSourcePrerequisites native.prerequisiteOrder
        (steps.flatMap (stepPrerequisites graph.intent.resources)) := by
  obtain ⟨order, artifact, native, hrenders⟩ := exists_renders h
  obtain ⟨hplanned, rfl⟩ := OperationGraph.new_eq_ok_iff.mp h
  have hnodup : (order.map OperationNode.resource).Nodup :=
    (hrenders.perm.map _).nodup_iff.mpr hplanned.references
  refine ⟨steps_nodup hplanned.references, hplanned.steps_closed, steps_emit hplanned _,
    fun _ hcontainer _ _ hpositive hattachment =>
      exists_connectStep hplanned hcontainer hpositive hattachment,
    order.flatMap (nodeSteps intent.resources), artifact, native, hrenders.rendered,
    hrenders.provenance, hrenders.perm.flatMap_right _,
    hplanned.steps_linear hrenders.perm hrenders.linear, steps_ordinals hnodup, ?_,
    hrenders.bytes, ?_⟩
  · rw [List.flatMap_assoc]
    exact hrenders.requests
  · rw [List.flatMap_assoc]
    exact hrenders.lists

/-- A container with a relabelled mount, on two networks. -/
def webContainer : ContainerIntent where
  reference := ⟨4⟩
  identity := ⟨asBytes "web", validIdentity_web⟩
  image := ⟨asBytes "nginx", validImage_nginx⟩
  environment := []
  ports := []
  mounts :=
    [⟨.volume ⟨3⟩, asBytes "/data", false, none, by decide +kernel⟩,
      ⟨.bind (asBytes "/srv"), asBytes "/www", true, some .shared, by decide +kernel⟩]
  networks := [⟨⟨1⟩, [], none, none⟩, ⟨⟨2⟩, [], none, none⟩]
  entrypoint := .exec [⟨asBytes "/bin/nginx", by decide +kernel⟩]
  command := .clear
  healthcheck := none
  restart := some .always
  settings := .default

/-- The container with its networks, one of which exists already, and its volume. -/
def webIntent : TargetIntent :=
  ⟨[.network ⟨⟨1⟩, ⟨asBytes "front", validIdentity_front⟩, .declared,
      .create { NetworkCreate.bridge with
        internal := true
        options := [.mtu ⟨1400, by decide, by decide⟩]
        labels := [⟨asBytes "tier", asBytes "edge", by decide +kernel⟩] }⟩,
    .network ⟨⟨2⟩, ⟨asBytes "shared", by decide +kernel⟩, .declared,
      .external .bridge (some false)⟩,
    .volume ⟨3⟩ ⟨asBytes "data", validIdentity_data⟩ [],
    .container webContainer],
    by decide +kernel⟩

theorem render_steps_web :
    ∃ graph artifact native, OperationGraph.new ⟨id, fun _ => .refl _⟩ webIntent anyCapability
        (webIntent.resources.map planNode) = .ok graph ∧
      render graph = .ok artifact ∧ artifact.native = some native ∧
      (∃ text ∈ native.requests, ∃ body,
        Line ("/v1.52/networks/shared/connect".toList, body) text) ∧
      artifact.networkPrerequisites = [⟨⟨2⟩, .bridge, some false, asBytes "shared"⟩] ∧
      artifact.bindSourcePrerequisites.map BindSourcePrerequisite.source = [asBytes "/srv"] := by
  obtain ⟨graph, hgraph⟩ := exists_of_isOk (show (OperationGraph.new ⟨id, fun _ => .refl _⟩
    webIntent anyCapability (webIntent.resources.map planNode)).isOk = true by decide +kernel)
  obtain ⟨-, -, -, hconnects, steps, artifact, native, hrendered, hnative, hperm, -, -,
    hrequests, -, hlists⟩ := render_steps hgraph
  obtain ⟨-, rfl⟩ := OperationGraph.new_eq_ok_iff.mp hgraph
  have hprerequisites := hperm.flatMap_right (stepPrerequisites webIntent.resources)
  refine ⟨_, artifact, native, hgraph, hrendered, hnative, ?_, ?_, ?_⟩
  · have hweb : .container webContainer ∈ webIntent.resources := by simp [webIntent]
    obtain ⟨step, hstep, hid, haction⟩ :=
      hconnects webContainer hweb 1 ⟨⟨2⟩, [], none, none⟩ Nat.one_pos rfl
    have hrequest : stepRequests (apiPath anyCapability.context.api) webIntent.resources step =
        [connectRequest (apiPath anyCapability.context.api) webIntent.resources webContainer
          ⟨⟨2⟩, [], none, none⟩] := by
      rw [stepRequests, haction, hid]
      rfl
    have hpath : (connectRequest (apiPath anyCapability.context.api) webIntent.resources
        webContainer ⟨⟨2⟩, [], none, none⟩).1 = "/v1.52/networks/shared/connect".toList := by
      decide +kernel
    obtain ⟨text, htext, hline⟩ := exists_of_forall₂_left hrequests
      (List.mem_flatMap.mpr ⟨step, hperm.mem_iff.mpr hstep,
        hrequest ▸ List.mem_singleton_self _⟩)
    refine ⟨text, htext, connectionBody webContainer ⟨⟨2⟩, [], none, none⟩, ?_⟩
    rw [← hpath]
    exact hline
  · rw [hlists.networks_eq]
    exact List.perm_singleton.mp (hprerequisites.filterMap _)
  · rw [hlists.bindSources_eq]
    exact List.perm_singleton.mp ((hprerequisites.filterMap _).map _)

end DockerLens.Render
