import DockerLens.Acyclic
import DockerLens.Target.Planned

namespace DockerLens.Target

open DockerLens.Text
open DockerLens.Observation
open DockerLens.Fold

/-- The checks of references and dependencies, which stand before the search for a cycle. -/
structure Referenced (intent : TargetIntent) (nodes : List OperationNode) : Prop where
  length : nodes.length = intent.resources.length
  references : (nodes.map OperationNode.resource).Nodup
  matched : ∀ node ∈ nodes, intent.resources.any (·.matches node.operation) = true
  dependencies : ∀ node ∈ nodes, ∀ dependency ∈ node.dependsOn,
    dependency ∈ nodes.map OperationNode.resource ∧ dependency ≠ node.resource
  required : ∀ node ∈ nodes, checkNode intent.resources node = .ok ()

theorem raises_checkGates {capabilities : PlanningCapabilitySet} (resource : TargetResource) :
    Raises (· ≠ .cycle) (checkGates capabilities resource) := by
  rw [checkGates]
  apply Raises.forM
  intro gate
  cases gate with
  | require field capability => exact .ensure (by rintro ⟨⟩)
  | unsupportedIpam => exact .error (by rintro ⟨⟩)
  | restrictedPort => exact .error (by rintro ⟨⟩)

/-- Nodes whose references and dependencies are in order are refused as cyclic exactly when
one of them depends on itself, however far, in whatever order a hash table lists them. The
search takes no counter below zero and ends within as many turns as there are nodes. -/
theorem OperationGraph.new_cycle_iff {hash : HashOrder ResourceRef} {intent : TargetIntent}
    {capabilities : PlanningCapabilitySet} {nodes : List OperationNode}
    (h : Referenced intent nodes) :
    (OperationGraph.new hash intent capabilities nodes = .error .cycle ↔
      Topological.Cyclic OperationNode.resource OperationNode.dependsOn nodes) ∧
    (∀ fuel,
      Topological.visitChecked
          (Topological.dependents OperationNode.resource OperationNode.dependsOn nodes) fuel
          (Topological.startVisit OperationNode.resource OperationNode.dependsOn nodes
            (hash.order (nodes.map OperationNode.resource))) =
        some (Topological.visit
          (Topological.dependents OperationNode.resource OperationNode.dependsOn nodes) fuel
          (Topological.startVisit OperationNode.resource OperationNode.dependsOn nodes
            (hash.order (nodes.map OperationNode.resource))))) ∧
    (Topological.visit
      (Topological.dependents OperationNode.resource OperationNode.dependsOn nodes) nodes.length
      (Topological.startVisit OperationNode.resource OperationNode.dependsOn nodes
        (hash.order (nodes.map OperationNode.resource)))).ready = [] := by
  refine ⟨?_, Topological.visit_sound h.references (hash.perm _)⟩
  have hclosed : ∀ node ∈ nodes, ∀ dependency ∈ node.dependsOn,
      dependency ∈ nodes.map OperationNode.resource :=
    fun node hnode dependency hdependency => (h.dependencies node hnode dependency hdependency).1
  have hlinear : Topological.visited OperationNode.resource OperationNode.dependsOn nodes
      (hash.order (nodes.map OperationNode.resource)) = nodes.length ↔
        ¬Topological.Cyclic OperationNode.resource OperationNode.dependsOn nodes :=
    (Topological.visited_eq_length_iff h.references (hash.perm _)).trans
      (Topological.exists_linear_iff h.references hclosed)
  have hrequired : nodes.forM (checkNode intent.resources) = .ok () :=
    forM_eq_ok_iff.mpr h.required
  rw [OperationGraph.new]
  simp only [ensure_bind (And.intro h.length h.references), ensure_bind h.matched,
    ensure_bind h.dependencies, hrequired, ok_bind]
  by_cases hvisited : Topological.visited OperationNode.resource OperationNode.dependsOn nodes
      (hash.order (nodes.map OperationNode.resource)) = nodes.length
  · rw [ensure_bind hvisited]
    refine iff_of_false ?_ (hlinear.mp hvisited)
    have hapi : Raises (· ≠ PlanningError.cycle)
        (ensure (capabilities.context.api.major = 1 ∧ ¬ capabilities.context.api < minimumApi)
          (PlanningError.unsupportedApi capabilities.context.api minimumApi)) :=
      Raises.ensure (by rintro ⟨⟩)
    have hgates : Raises (· ≠ PlanningError.cycle)
        (intent.resources.forM (checkGates capabilities)) :=
      Raises.forM raises_checkGates
    intro herror
    exact Raises.bind hapi (fun _ => .bind hgates fun _ => .ok) _ herror rfl
  · refine iff_of_true ?_ (not_not.mp (mt hlinear.mpr hvisited))
    rw [ensure, if_neg hvisited]
    rfl

theorem OperationGraph.new_cycle_iff_volumes :
    OperationGraph.new ⟨List.reverse, List.reverse_perm⟩
      ⟨[.externalVolume ⟨1⟩ ⟨asBytes "left", by decide +kernel⟩,
        .externalVolume ⟨2⟩ ⟨asBytes "right", by decide +kernel⟩], by decide +kernel⟩
      anyCapability
      [⟨⟨⟨1⟩, .volume, .requireExisting⟩, [⟨2⟩, ⟨2⟩]⟩, ⟨⟨⟨2⟩, .volume, .requireExisting⟩, [⟨1⟩]⟩] =
    .error .cycle := by
  have hreferenced : Referenced
      ⟨[.externalVolume ⟨1⟩ ⟨asBytes "left", by decide +kernel⟩,
        .externalVolume ⟨2⟩ ⟨asBytes "right", by decide +kernel⟩], by decide +kernel⟩
      [⟨⟨⟨1⟩, .volume, .requireExisting⟩, [⟨2⟩, ⟨2⟩]⟩,
        ⟨⟨⟨2⟩, .volume, .requireExisting⟩, [⟨1⟩]⟩] :=
    ⟨rfl, by decide, by decide, by decide, by decide⟩
  apply (OperationGraph.new_cycle_iff hreferenced).1.mpr
  exact ⟨⟨1⟩, .tail (.single ⟨_, List.mem_cons_self, rfl, List.mem_cons_self⟩)
    ⟨_, List.mem_cons_of_mem _ List.mem_cons_self, rfl, List.mem_cons_self⟩⟩

end DockerLens.Target
