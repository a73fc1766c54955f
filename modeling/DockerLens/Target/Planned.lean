import DockerLens.Target.Accepted
import DockerLens.Target.Graph

namespace DockerLens.Target

open DockerLens.Observation
open DockerLens.Fold

theorem resourceOf_eq_some_iff {resources : List TargetResource}
    (hnodup : (resources.map TargetResource.reference).Nodup) {reference : ResourceRef}
    {resource : TargetResource} :
    resourceOf resources reference = some resource ↔
      resource ∈ resources ∧ resource.reference = reference :=
  find_reference_eq_some_iff hnodup

/-- What `OperationGraph::new` asks of the nodes of an intent. -/
structure Planned (intent : TargetIntent) (capabilities : PlanningCapabilitySet)
    (nodes : List OperationNode) : Prop where
  length : nodes.length = intent.resources.length
  references : (nodes.map OperationNode.resource).Nodup
  matched : ∀ node ∈ nodes, ∃ resource ∈ intent.resources,
    resource.reference = node.resource ∧ resource.kind = node.operation.kind ∧
      node.operation.action = resource.action
  dependencies : ∀ node ∈ nodes, ∀ dependency ∈ node.dependsOn,
    dependency ∈ nodes.map OperationNode.resource ∧ dependency ≠ node.resource
  required : ∀ node ∈ nodes, ∀ container,
    resourceOf intent.resources node.resource = some (.container container) →
    ∀ need ∈ required container,
      (resourceOf intent.resources need.1).map TargetResource.kind = some need.2 ∧
        need.1 ∈ node.dependsOn
  linear : ∃ order : List OperationNode, order.Perm nodes ∧
    Topological.Linear OperationNode.resource OperationNode.dependsOn order
  api : capabilities.context.api.major = 1 ∧ ¬ capabilities.context.api < minimumApi
  gated : ∀ resource ∈ intent.resources, checkGates capabilities resource = .ok ()

/-- The graph of checked nodes. -/
def OperationGraph.build (intent : TargetIntent) (capabilities : PlanningCapabilitySet)
    (nodes : List OperationNode) : OperationGraph :=
  ⟨intent, capabilities.context, nodes, nodes.flatMap (nodeSteps intent.resources)⟩

theorem checkNode_eq_ok_iff {resources : List TargetResource} {node : OperationNode} :
    checkNode resources node = .ok () ↔ ∀ container,
      resourceOf resources node.resource = some (.container container) →
      ∀ need ∈ required container,
        (resourceOf resources need.1).map TargetResource.kind = some need.2 ∧
          need.1 ∈ node.dependsOn := by
  rw [checkNode]
  cases hresource : resourceOf resources node.resource with
  | none => simp
  | some resource =>
      cases resource with
      | container container =>
          simp only [forM_eq_ok_iff, checkRequired, ensure_eq_ok_iff, Option.some_inj,
            TargetResource.container.injEq, forall_eq']
      | _ => simp

theorem OperationGraph.new_eq_ok_iff {hash : HashOrder ResourceRef} {intent : TargetIntent}
    {capabilities : PlanningCapabilitySet} {nodes : List OperationNode} {graph : OperationGraph} :
    OperationGraph.new hash intent capabilities nodes = .ok graph ↔
      Planned intent capabilities nodes ∧ graph = .build intent capabilities nodes := by
  have hmatched : (∀ node ∈ nodes, intent.resources.any (·.matches node.operation) = true) ↔
      ∀ node ∈ nodes, ∃ resource ∈ intent.resources, resource.reference = node.resource ∧
        resource.kind = node.operation.kind ∧ node.operation.action = resource.action := by
    simp only [List.any_eq_true, TargetResource.matches, Bool.and_eq_true, beq_iff_eq, and_assoc,
      OperationNode.resource]
  rw [OperationGraph.new]
  simp only [bind_eq_ok_iff, ensure_eq_ok_iff, forM_eq_ok_iff, checkNode_eq_ok_iff, hmatched,
    exists_const, Except.ok.injEq]
  constructor
  · rintro ⟨⟨hlength, hnodup⟩, hmatched, hdependencies, hrequired, hvisited, hapi, hgates, rfl⟩
    have hlinear := (Topological.visited_eq_length_iff hnodup (hash.perm _)).mp hvisited
    exact ⟨⟨hlength, hnodup, hmatched, hdependencies, hrequired, hlinear, hapi, hgates⟩, rfl⟩
  · rintro ⟨h, rfl⟩
    have hvisited := (Topological.visited_eq_length_iff h.references (hash.perm _)).mpr h.linear
    exact ⟨⟨h.length, h.references⟩, h.matched, h.dependencies, h.required, hvisited, h.api,
      h.gated, rfl⟩

namespace Planned

variable {intent : TargetIntent} {capabilities : PlanningCapabilitySet}
  {nodes : List OperationNode}

theorem exists_resource (h : Planned intent capabilities nodes) {node : OperationNode}
    (hnode : node ∈ nodes) :
    ∃ resource ∈ intent.resources, resourceOf intent.resources node.resource = some resource ∧
      resource.reference = node.resource ∧ resource.kind = node.operation.kind ∧
        node.operation.action = resource.action := by
  obtain ⟨resource, hresource, hreference, hkind, haction⟩ := h.matched node hnode
  exact ⟨resource, hresource,
    (resourceOf_eq_some_iff intent.accepted.references).mpr ⟨hresource, hreference⟩, hreference,
    hkind, haction⟩

theorem references_perm (h : Planned intent capabilities nodes) :
    (nodes.map OperationNode.resource).Perm (intent.resources.map TargetResource.reference) := by
  have hsubset : nodes.map OperationNode.resource ⊆
      intent.resources.map TargetResource.reference := by
    intro reference hreference
    obtain ⟨node, hnode, rfl⟩ := List.mem_map.mp hreference
    obtain ⟨resource, hresource, hequal, -⟩ := h.matched node hnode
    exact hequal ▸ List.mem_map_of_mem hresource
  refine (List.subperm_of_subset h.references hsubset).perm_of_length_le ?_
  rw [List.length_map, List.length_map]
  exact Nat.le_of_eq h.length.symm

theorem exists_node (h : Planned intent capabilities nodes) {resource : TargetResource}
    (hresource : resource ∈ intent.resources) :
    ∃ node ∈ nodes, node.resource = resource.reference := by
  have hmem := h.references_perm.mem_iff.mpr (List.mem_map_of_mem hresource)
  exact List.mem_map.mp hmem

theorem resolved (h : Planned intent capabilities nodes) {container : ContainerIntent}
    (hcontainer : .container container ∈ intent.resources) :
    ∀ need ∈ Target.required container,
      (resourceOf intent.resources need.1).map TargetResource.kind = some need.2 := by
  obtain ⟨node, hnode, hreference⟩ := h.exists_node hcontainer
  have hresource : resourceOf intent.resources node.resource = some (.container container) :=
    (resourceOf_eq_some_iff intent.accepted.references).mpr ⟨hcontainer, hreference.symm⟩
  exact fun need hneed => (h.required node hnode container hresource need hneed).1

end Planned

/-- A daemon that supports everything. -/
def anyCapability : PlanningCapabilitySet :=
  ⟨fun _ => true, .observed ⟨⟨1⟩, ⟨"29.1.0", by decide⟩,
    ⟨1, 52, Nat.one_pos, Version.ApiVersion.major_one_lt, Version.ApiVersion.minor_52_lt⟩,
    .rootful⟩⟩

end DockerLens.Target
