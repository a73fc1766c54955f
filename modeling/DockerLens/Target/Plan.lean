import DockerLens.Acyclic
import DockerLens.Target.Gates

namespace DockerLens.Target

open DockerLens.Text
open DockerLens.Observation
open DockerLens.Fold
open Relation

section Dependencies

theorem mem_dependencies_iff {resource : TargetResource} {reference : ResourceRef} :
    reference ∈ dependencies resource ↔
      ∃ container, resource = .container container ∧
        ∃ need ∈ required container, need.1 = reference := by
  cases resource with
  | container container =>
      have hfold := @foldl_iff _ _ (fun references reference =>
          if reference ∈ references then references else references ++ [reference])
        (container.networks.map NetworkAttachmentIntent.network ++
          container.mounts.filterMap Mount.volumeReference) []
        (fun references : List ResourceRef => reference ∈ references) (· = reference)
        (by
          intro references other
          split
          next hmem =>
            constructor
            · exact .inl
            · rintro (hreference | rfl)
              · exact hreference
              · exact hmem
          next => simp [eq_comm])
      rw [dependencies, hfold]
      simp [required, or_and_right, exists_or]
  | network _ | volume _ _ _ | externalVolume _ _ => simp [dependencies]

theorem required_kind {container : ContainerIntent} :
    ∀ need ∈ required container, need.2 ≠ .container := by
  intro need hneed
  rw [required, List.mem_append] at hneed
  rcases hneed with hneed | hneed
  · obtain ⟨attachment, -, rfl⟩ := List.mem_map.mp hneed
    rintro ⟨⟩
  · obtain ⟨reference, -, rfl⟩ := List.mem_map.mp hneed
    rintro ⟨⟩

end Dependencies

section Outcome

/-- Every container names declared resources, and not itself. -/
def Declared (resources : List TargetResource) : Prop :=
  ∀ container, .container container ∈ resources → ∀ need ∈ required container,
    need.1 ∈ resources.map TargetResource.reference ∧ need.1 ≠ container.reference

/-- What a reference of a container resolves to is of the kind that it is used as. -/
def Resolves (resources : List TargetResource) (need : ResourceRef × TargetKind) : Prop :=
  (resourceOf resources need.1).map TargetResource.kind = some need.2

/-- Everything that a resource needs resolves. -/
def Resolved (resources : List TargetResource) (resource : TargetResource) : Prop :=
  ∀ container, resource = .container container → ∀ need ∈ required container,
    Resolves resources need

/-- An API version that requests are rendered for. -/
def SupportedApi (capabilities : PlanningCapabilitySet) : Prop :=
  capabilities.context.api.major = 1 ∧ ¬capabilities.context.api < minimumApi

instance (capabilities : PlanningCapabilitySet) : Decidable (SupportedApi capabilities) :=
  inferInstanceAs (Decidable (_ ∧ _))

/-- Every gate of a resource is open. -/
def Admits (capabilities : PlanningCapabilitySet) (resource : TargetResource) : Prop :=
  ∀ gate ∈ gates capabilities.context.mode resource, gate.Opens capabilities.supports

theorem exists_container_of_not_resolved {resources : List TargetResource}
    {resource : TargetResource} (h : ¬Resolved resources resource) :
    ∃ container, resource = .container container := by
  by_contra hnone
  exact h fun container heq => absurd ⟨container, heq⟩ hnone

/-- What a closed gate is refused with. -/
def Gate.refusal (capabilities : PlanningCapabilitySet) (reference : ResourceRef) :
    Gate → PlanningError
  | .require field capability => .missingCapability reference field capability
  | .unsupportedIpam => .unsupportedNetworkIpam reference
  | .restrictedPort => .restrictedPort reference capabilities.context.mode

/-- The outcomes of planning. None of them is a cycle, and none looks at a hash table. -/
inductive Outcome (intent : TargetIntent) (capabilities : PlanningCapabilitySet) :
    Except PlanningError OperationGraph → Prop
  | planned (declared : Declared intent.resources)
      (resolved : ∀ resource ∈ intent.resources, Resolved intent.resources resource)
      (api : SupportedApi capabilities)
      (admitted : ∀ resource ∈ intent.resources, Admits capabilities resource) :
      Outcome intent capabilities
        (.ok (.build intent capabilities (intent.resources.map planNode)))
  | undeclared (undeclared : ¬Declared intent.resources) :
      Outcome intent capabilities (.error .invalidDependency)
  | mismatched (declared : Declared intent.resources) {container : ContainerIntent}
      {need : ResourceRef × TargetKind}
      (first : First (¬Resolved intent.resources ·) intent.resources (.container container))
      (wrong : First (¬Resolves intent.resources ·) (required container) need) :
      Outcome intent capabilities
        (.error (.dependencyMismatch container.reference need.1 need.2))
  | unsupported (declared : Declared intent.resources)
      (resolved : ∀ resource ∈ intent.resources, Resolved intent.resources resource)
      (api : ¬SupportedApi capabilities) :
      Outcome intent capabilities
        (.error (.unsupportedApi capabilities.context.api minimumApi))
  | refused (declared : Declared intent.resources)
      (resolved : ∀ resource ∈ intent.resources, Resolved intent.resources resource)
      (api : SupportedApi capabilities) {resource : TargetResource} {gate : Gate}
      (first : First (¬Admits capabilities ·) intent.resources resource)
      (closed : First (¬Gate.Opens capabilities.supports ·)
        (gates capabilities.context.mode resource) gate) :
      Outcome intent capabilities (.error (gate.refusal capabilities resource.reference))

/-- There is one outcome. -/
theorem Outcome.unique {intent : TargetIntent} {capabilities : PlanningCapabilitySet}
    {left right : Except PlanningError OperationGraph} (hleft : Outcome intent capabilities left)
    (hright : Outcome intent capabilities right) : left = right := by
  cases hleft with
  | planned declared resolved api admitted =>
      cases hright with
      | planned => rfl
      | undeclared undeclared => exact absurd declared undeclared
      | mismatched _ first => exact absurd (resolved _ first.mem) first.property
      | unsupported _ _ unsupported => exact absurd api unsupported
      | refused _ _ _ first => exact absurd (admitted _ first.mem) first.property
  | undeclared undeclared =>
      cases hright with
      | undeclared => rfl
      | planned declared | mismatched declared | unsupported declared | refused declared =>
          exact absurd declared undeclared
  | mismatched declared first wrong =>
      cases hright with
      | undeclared undeclared => exact absurd declared undeclared
      | mismatched _ first' wrong' =>
          cases first.unique first'
          cases wrong.unique wrong'
          rfl
      | planned _ resolved | unsupported _ resolved | refused _ resolved =>
          exact absurd (resolved _ first.mem) first.property
  | unsupported declared resolved api =>
      cases hright with
      | undeclared undeclared => exact absurd declared undeclared
      | mismatched _ first => exact absurd (resolved _ first.mem) first.property
      | unsupported => rfl
      | planned _ _ supported | refused _ _ supported => exact absurd supported api
  | refused declared resolved api first closed =>
      cases hright with
      | undeclared undeclared => exact absurd declared undeclared
      | mismatched _ first' => exact absurd (resolved _ first'.mem) first'.property
      | unsupported _ _ unsupported => exact absurd api unsupported
      | planned _ _ _ admitted => exact absurd (admitted _ first.mem) first.property
      | refused _ _ _ first' closed' =>
          cases first.unique first'
          cases closed.unique closed'
          rfl

end Outcome

section Plan

variable {intent : TargetIntent} {capabilities : PlanningCapabilitySet}

theorem planNodes_matched (resources : List TargetResource) :
    ∀ node ∈ resources.map planNode, resources.any (·.matches node.operation) = true := by
  intro node hnode
  obtain ⟨resource, hresource, rfl⟩ := List.mem_map.mp hnode
  rw [List.any_eq_true]
  exact ⟨resource, hresource, by simp [TargetResource.matches, planNode]⟩

theorem planNodes_references (resources : List TargetResource) :
    (resources.map planNode).map OperationNode.resource =
      resources.map TargetResource.reference := by
  rw [List.map_map]
  rfl

theorem planNodes_declared_iff {resources : List TargetResource} :
    (∀ node ∈ resources.map planNode, ∀ dependency ∈ node.dependsOn,
      dependency ∈ (resources.map planNode).map OperationNode.resource ∧
        dependency ≠ node.resource) ↔ Declared resources := by
  rw [planNodes_references]
  constructor
  · intro h container hcontainer need hneed
    exact h (planNode (.container container)) (List.mem_map_of_mem hcontainer) need.1
      (mem_dependencies_iff.mpr ⟨container, rfl, need, hneed, rfl⟩)
  · intro h node hnode dependency hdependency
    obtain ⟨resource, hresource, rfl⟩ := List.mem_map.mp hnode
    obtain ⟨container, rfl, need, hneed, rfl⟩ := mem_dependencies_iff.mp hdependency
    exact h container hresource need hneed

theorem checkNode_planNode {container : ContainerIntent}
    (hcontainer : .container container ∈ intent.resources) :
    checkNode intent.resources (planNode (.container container)) =
      (required container).forM fun need =>
        ensure ((resourceOf intent.resources need.1).map TargetResource.kind = some need.2)
          (.dependencyMismatch container.reference need.1 need.2) := by
  have hfound : resourceOf intent.resources (planNode (.container container)).resource =
      some (.container container) :=
    (resourceOf_eq_some_iff intent.accepted.references).mpr ⟨hcontainer, rfl⟩
  rw [checkNode, hfound]
  apply forM_congr
  intro need hneed
  have hmem : need.1 ∈ (planNode (.container container)).dependsOn :=
    mem_dependencies_iff.mpr ⟨container, rfl, need, hneed, rfl⟩
  rw [checkRequired]
  simp only [hmem, and_true]
  rfl

theorem checkNode_planNode_eq_ok_iff {resource : TargetResource}
    (hresource : resource ∈ intent.resources) :
    checkNode intent.resources (planNode resource) = .ok () ↔
      Resolved intent.resources resource := by
  cases resource with
  | container container =>
      rw [checkNode_planNode hresource]
      simp only [forM_eq_ok_iff, ensure_eq_ok_iff, Resolved, TargetResource.container.injEq,
        forall_eq', Resolves]
  | network _ | volume _ _ _ | externalVolume _ _ =>
      have hfound := (resourceOf_eq_some_iff intent.accepted.references).mpr ⟨hresource, rfl⟩
      rw [checkNode, planNode, OperationNode.resource, hfound]
      simp [Resolved]

/-- A network or a volume depends on nothing, so that no chain of dependencies has two links. -/
theorem planNodes_linear
    (h : ∀ resource ∈ intent.resources, Resolved intent.resources resource)
    (hdeclared : Declared intent.resources) :
    ∃ order : List OperationNode, order.Perm (intent.resources.map planNode) ∧
      Topological.Linear OperationNode.resource OperationNode.dependsOn order := by
  have hnodup : ((intent.resources.map planNode).map OperationNode.resource).Nodup := by
    rw [planNodes_references]
    exact intent.accepted.references
  have hleaf : ∀ left middle right,
      Topological.Depends OperationNode.resource OperationNode.dependsOn
        (intent.resources.map planNode) left middle →
      ¬Topological.Depends OperationNode.resource OperationNode.dependsOn
        (intent.resources.map planNode) middle right := by
    rintro left middle right ⟨node, hleft, -, hmiddle⟩ ⟨other, hfound, hreference, hright⟩
    obtain ⟨resource, hresource, rfl⟩ := List.mem_map.mp hleft
    obtain ⟨found, hmem, rfl⟩ := List.mem_map.mp hfound
    obtain ⟨container, rfl, need, hneed, rfl⟩ := mem_dependencies_iff.mp hmiddle
    obtain ⟨nested, rfl, -⟩ := mem_dependencies_iff.mp hright
    have hresolves := h _ hresource container rfl need hneed
    rw [Resolves, (resourceOf_eq_some_iff intent.accepted.references).mpr ⟨hmem, hreference⟩]
      at hresolves
    exact required_kind need hneed (Option.some_inj.mp hresolves).symm
  refine (Topological.exists_linear_iff hnodup ?_).mpr ?_
  · intro node hnode dependency hdependency
    exact (planNodes_declared_iff.mpr hdeclared node hnode dependency hdependency).1
  · rintro ⟨reference, hcycle⟩
    obtain ⟨middle, hfirst, hrest⟩ := TransGen.head'_iff.mp hcycle
    rcases hrest.cases_head with rfl | ⟨right, hsecond, -⟩
    · exact hleaf _ _ _ hfirst hfirst
    · exact hleaf _ _ _ hfirst hsecond

theorem pass_eq_error {reference : ResourceRef} {gate : Gate} {error : PlanningError}
    (h : pass capabilities reference gate = .error error) :
    ¬gate.Opens capabilities.supports ∧ error = gate.refusal capabilities reference := by
  have hclosed : ¬gate.Opens capabilities.supports := by
    rw [← pass_eq_ok_iff, h]
    rintro ⟨⟩
  refine ⟨hclosed, ?_⟩
  cases gate with
  | require field capability =>
      rw [Gate.Opens] at hclosed
      rw [pass, ensure, if_neg hclosed] at h
      cases h
      rfl
  | unsupportedIpam | restrictedPort =>
      cases h
      rfl

theorem plan_outcome {hash : HashOrder ResourceRef} :
    Outcome intent capabilities (plan hash intent capabilities) := by
  have hreferences : (intent.resources.map planNode).length = intent.resources.length ∧
      ((intent.resources.map planNode).map OperationNode.resource).Nodup := by
    rw [planNodes_references]
    exact ⟨List.length_map _, intent.accepted.references⟩
  rw [plan, OperationGraph.new]
  simp only [ensure_bind hreferences, ensure_bind (planNodes_matched intent.resources)]
  by_cases hdeclared : Declared intent.resources
  · rw [ensure_bind (planNodes_declared_iff.mpr hdeclared)]
    cases hchecked : (intent.resources.map planNode).forM (checkNode intent.resources) with
    | error error =>
        rw [error_bind]
        obtain ⟨node, hfirst, herror⟩ := forM_eq_error_iff.mp hchecked
        obtain ⟨resource, hresource, rfl⟩ := First.exists_of_map hfirst
        have hfirstResource : First (¬Resolved intent.resources ·) intent.resources resource :=
          hresource.congr fun resource hmem =>
            not_congr (checkNode_planNode_eq_ok_iff hmem)
        obtain ⟨container, rfl⟩ := exists_container_of_not_resolved hfirstResource.property
        rw [checkNode_planNode hfirstResource.mem] at herror
        obtain ⟨need, hneed, hmismatch⟩ := forM_eq_error_iff.mp herror
        rw [ensure] at hmismatch
        split at hmismatch
        · cases hmismatch
        · cases hmismatch
          refine .mismatched hdeclared hfirstResource (hneed.congr fun need _ => ?_)
          exact not_congr ensure_eq_ok_iff
    | ok u =>
        have hresolved : ∀ resource ∈ intent.resources, Resolved intent.resources resource :=
          fun resource hresource => (checkNode_planNode_eq_ok_iff hresource).mp
            (forM_eq_ok_iff.mp hchecked _ (List.mem_map_of_mem hresource))
        have hvisited := (Topological.visited_eq_length_iff hreferences.2 (hash.perm _)).mpr
          (planNodes_linear hresolved hdeclared)
        rw [ok_bind, ensure_bind hvisited]
        by_cases hapi : SupportedApi capabilities
        · have hsupported : SupportedApi capabilities := hapi
          rw [SupportedApi] at hapi
          rw [ensure_bind hapi]
          cases hgates : intent.resources.forM (checkGates capabilities) with
          | ok u =>
              refine .planned hdeclared hresolved hsupported fun resource hresource => ?_
              exact checkGates_eq_ok_iff.mp (forM_eq_ok_iff.mp hgates resource hresource)
          | error error =>
              obtain ⟨resource, hfirst, herror⟩ := forM_eq_error_iff.mp hgates
              obtain ⟨gate, hgate, hpass⟩ := forM_eq_error_iff.mp herror
              obtain ⟨-, rfl⟩ := pass_eq_error hpass
              exact .refused hdeclared hresolved hsupported
                (hfirst.congr fun resource _ => not_congr checkGates_eq_ok_iff)
                (hgate.congr fun gate _ => not_congr pass_eq_ok_iff)
        · rw [SupportedApi] at hapi
          rw [ensure, if_neg hapi, error_bind]
          exact .unsupported hdeclared hresolved hapi
  · rw [ensure, if_neg (mt planNodes_declared_iff.mp hdeclared), error_bind]
    exact .undeclared hdeclared

/-- Planning has exactly the outcome that the references, the API version and the gates of the
intent lead to, in whatever order a hash table lists the references. -/
theorem plan_eq_iff {hash : HashOrder ResourceRef}
    {result : Except PlanningError OperationGraph} :
    plan hash intent capabilities = result ↔ Outcome intent capabilities result := by
  have houtcome : Outcome intent capabilities (plan hash intent capabilities) := plan_outcome
  constructor
  · rintro rfl
    exact houtcome
  · exact houtcome.unique

theorem plan_eq_ok_iff {hash : HashOrder ResourceRef} {graph : OperationGraph} :
    plan hash intent capabilities = .ok graph ↔ Declared intent.resources ∧
      (∀ resource ∈ intent.resources, Resolved intent.resources resource) ∧
      SupportedApi capabilities ∧ (∀ resource ∈ intent.resources, Admits capabilities resource) ∧
      graph = .build intent capabilities (intent.resources.map planNode) := by
  have houtcome : Outcome intent capabilities (plan hash intent capabilities) := plan_outcome
  constructor
  · intro h
    rw [h] at houtcome
    cases houtcome with
    | planned declared resolved api admitted => exact ⟨declared, resolved, api, admitted, rfl⟩
  · rintro ⟨hdeclared, hresolved, hapi, hadmitted, rfl⟩
    exact houtcome.unique (.planned hdeclared hresolved hapi hadmitted)

end Plan

end DockerLens.Target
