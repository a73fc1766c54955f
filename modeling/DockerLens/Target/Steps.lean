import DockerLens.Target.Planned

namespace DockerLens.Target

open DockerLens.Observation

section Steps

variable {resources : List TargetResource}

theorem mem_nodeSteps_iff {node : OperationNode} {step : OperationStep} :
    step ∈ nodeSteps resources node ↔ step = baseStep node ∨ ∃ container,
      resourceOf resources node.resource = some (.container container) ∧
      ∃ entry ∈ container.networks.zipIdx.drop 1, step = connectStep node entry := by
  rw [nodeSteps, List.mem_cons]
  apply or_congr Iff.rfl
  split
  next container hfound =>
    rw [List.mem_map]
    constructor
    · rintro ⟨entry, hentry, rfl⟩
      exact ⟨container, hfound, entry, hentry, rfl⟩
    · rintro ⟨other, hother, entry, hentry, rfl⟩
      cases hfound.symm.trans hother
      exact ⟨entry, hentry, rfl⟩
  next hother =>
    constructor
    · rintro ⟨⟩
    · rintro ⟨container, hfound, -⟩
      exact absurd hfound (hother container)

theorem nodeSteps_resource {node : OperationNode} :
    ∀ step ∈ nodeSteps resources node, step.id.resource = node.resource := by
  intro step hstep
  rcases mem_nodeSteps_iff.mp hstep with rfl | ⟨-, -, entry, -, rfl⟩ <;> rfl

theorem later_attachments (container : ContainerIntent) :
    ∀ entry ∈ container.networks.zipIdx.drop 1, container.networks[entry.2]? = some entry.1 := by
  intro entry hentry
  exact List.mem_zipIdx_iff_getElem?.mp (List.mem_of_mem_drop hentry)

/-- The steps of one node among those of all nodes. -/
theorem filter_steps {resources : List TargetResource} {nodes : List OperationNode}
    (hnodup : (nodes.map OperationNode.resource).Nodup) {node : OperationNode}
    (hnode : node ∈ nodes) :
    (nodes.flatMap (nodeSteps resources)).filter (·.id.resource == node.resource) =
      nodeSteps resources node := by
  induction nodes with
  | nil => cases hnode
  | cons first rest ih =>
      rw [List.map_cons, List.nodup_cons] at hnodup
      rw [List.flatMap_cons, List.filter_append]
      rcases List.mem_cons.mp hnode with rfl | hnode
      · have hown : (nodeSteps resources node).filter (·.id.resource == node.resource) =
            nodeSteps resources node := by
          rw [List.filter_eq_self]
          intro step hstep
          exact beq_iff_eq.mpr (nodeSteps_resource step hstep)
        have hothers : (rest.flatMap (nodeSteps resources)).filter
            (·.id.resource == node.resource) = [] := by
          rw [List.filter_eq_nil_iff]
          intro step hstep heq
          obtain ⟨other, hother, hmem⟩ := List.mem_flatMap.mp hstep
          refine hnodup.1 ?_
          rw [← beq_iff_eq.mp heq, nodeSteps_resource step hmem]
          exact List.mem_map_of_mem hother
        rw [hown, hothers, List.append_nil]
      · have hfirst : (nodeSteps resources first).filter (·.id.resource == node.resource) = [] := by
          rw [List.filter_eq_nil_iff]
          intro step hstep heq
          refine hnodup.1 ?_
          rw [← nodeSteps_resource step hstep, beq_iff_eq.mp heq]
          exact List.mem_map_of_mem hnode
        rw [hfirst, List.nil_append, ih hnodup.2 hnode]

theorem nodeSteps_ordinals (node : OperationNode) :
    ((nodeSteps resources node).map (·.id.ordinal)).Pairwise (· < ·) := by
  rw [nodeSteps, List.map_cons, List.pairwise_cons]
  split
  next container hfound =>
    have hordinals : ((container.networks.zipIdx.drop 1).map (connectStep node)).map
        (·.id.ordinal) = List.range' 1 (container.networks.length - 1) := by
      rw [List.map_map, List.map_drop]
      have hindices : container.networks.zipIdx.map
          ((·.id.ordinal) ∘ connectStep node) = List.range' 0 container.networks.length :=
        List.zipIdx_map_snd 0 container.networks
      rw [hindices, List.drop_range', Nat.zero_add]
    rw [hordinals]
    refine ⟨?_, List.pairwise_lt_range' 1⟩
    intro ordinal hordinal
    exact (List.mem_range'_1.mp hordinal).1
  next => exact ⟨by simp, .nil⟩

theorem steps_ordinals {nodes : List OperationNode}
    (hnodup : (nodes.map OperationNode.resource).Nodup) (reference : ResourceRef) :
    (((nodes.flatMap (nodeSteps resources)).filter (·.id.resource == reference)).map
      (·.id.ordinal)).Pairwise (· < ·) := by
  by_cases hmem : reference ∈ nodes.map OperationNode.resource
  · obtain ⟨node, hnode, rfl⟩ := List.mem_map.mp hmem
    rw [filter_steps hnodup hnode]
    exact nodeSteps_ordinals node
  · have hnone :
        (nodes.flatMap (nodeSteps resources)).filter (·.id.resource == reference) = [] := by
      rw [List.filter_eq_nil_iff]
      intro step hstep heq
      obtain ⟨node, hnode, hstep⟩ := List.mem_flatMap.mp hstep
      apply hmem
      rw [← beq_iff_eq.mp heq, nodeSteps_resource step hstep]
      exact List.mem_map_of_mem hnode
    rw [hnone]
    exact .nil

theorem nodeSteps_nodup (node : OperationNode) :
    ((nodeSteps resources node).map OperationStep.id).Nodup := by
  have hordinals : ((nodeSteps resources node).map (·.id.ordinal)).Pairwise (· < ·) :=
    nodeSteps_ordinals node
  refine List.Nodup.of_map OperationStepId.ordinal ?_
  rw [List.map_map]
  exact hordinals.imp fun hlt => Nat.ne_of_lt hlt

theorem steps_nodup {nodes : List OperationNode}
    (hnodup : (nodes.map OperationNode.resource).Nodup) :
    ((nodes.flatMap (nodeSteps resources)).map OperationStep.id).Nodup := by
  rw [List.map_flatMap, List.nodup_flatMap]
  refine ⟨fun node _ => nodeSteps_nodup node, (List.pairwise_map.mp hnodup).imp ?_⟩
  intro left right hne id hleft hright
  obtain ⟨step, hstep, rfl⟩ := List.mem_map.mp hleft
  obtain ⟨step', hstep', hid⟩ := List.mem_map.mp hright
  apply hne
  rw [← nodeSteps_resource step hstep, ← nodeSteps_resource step' hstep', hid]

end Steps

section Order

variable {intent : TargetIntent} {capabilities : PlanningCapabilitySet}
  {nodes : List OperationNode}

theorem mem_base_steps {resources : List TargetResource} {nodes : List OperationNode}
    {reference : ResourceRef} (h : reference ∈ nodes.map OperationNode.resource) :
    ⟨reference, 0⟩ ∈ (nodes.flatMap (nodeSteps resources)).map OperationStep.id := by
  obtain ⟨node, hnode, rfl⟩ := List.mem_map.mp h
  exact List.mem_map.mpr ⟨baseStep node,
    List.mem_flatMap.mpr ⟨node, hnode, mem_nodeSteps_iff.mpr (.inl rfl)⟩, rfl⟩

/-- What a step waits for: the first steps of what its node depends on, and, when it
connects a container, the step that creates the container. -/
theorem Planned.step_dependsOn (h : Planned intent capabilities nodes) {node : OperationNode}
    (hnode : node ∈ nodes) {before after : List OperationStep} {step : OperationStep}
    (hsteps : nodeSteps intent.resources node = before ++ step :: after) :
    ∀ dependency ∈ step.dependsOn, dependency ∈ before.map OperationStep.id ∨
      ∃ reference ∈ node.dependsOn, dependency = ⟨reference, 0⟩ := by
  intro dependency hdependency
  cases before with
  | nil =>
      obtain ⟨rfl, -⟩ := List.cons.inj hsteps
      obtain ⟨reference, hreference, rfl⟩ := List.mem_map.mp hdependency
      exact .inr ⟨reference, hreference, rfl⟩
  | cons first before =>
      obtain ⟨rfl, hrest⟩ := List.cons.inj hsteps
      have hbase : (⟨node.resource, 0⟩ : OperationStepId) ∈
          (baseStep node :: before).map OperationStep.id := List.mem_cons_self
      split at hrest
      next container hfound =>
        have hstep : step ∈ (container.networks.zipIdx.drop 1).map (connectStep node) := by
          rw [hrest]
          exact List.mem_append_right _ List.mem_cons_self
        obtain ⟨entry, hentry, rfl⟩ := List.mem_map.mp hstep
        rcases List.mem_cons.mp hdependency with rfl | hdependency
        · exact .inl hbase
        · have hattachment : entry.1 ∈ container.networks :=
            List.mem_of_getElem? (later_attachments container entry hentry)
          have hneed : (entry.1.network, TargetKind.network) ∈ Target.required container :=
            List.mem_append_left _ (List.mem_map.mpr ⟨entry.1, hattachment, rfl⟩)
          exact .inr ⟨entry.1.network, (h.required node hnode container hfound _ hneed).2,
            List.mem_singleton.mp hdependency⟩
      next => simp at hrest

theorem Planned.steps_linear (h : Planned intent capabilities nodes) {order : List OperationNode}
    (hperm : order.Perm nodes)
    (hlinear : Topological.Linear OperationNode.resource OperationNode.dependsOn order) :
    Topological.Linear OperationStep.id OperationStep.dependsOn
      (order.flatMap (nodeSteps intent.resources)) := by
  refine hlinear.flatMap ?_
  rintro node hnode earlier - hearlier before step after hsteps dependency hdependency
  rw [List.map_append, List.mem_append]
  rcases h.step_dependsOn (hperm.mem_iff.mp hnode) hsteps dependency hdependency with
    hbefore | ⟨reference, hreference, rfl⟩
  · exact .inr hbefore
  · exact .inl (mem_base_steps (hearlier reference hreference))

theorem Planned.steps_closed (h : Planned intent capabilities nodes) :
    ∀ step ∈ nodes.flatMap (nodeSteps intent.resources), ∀ dependency ∈ step.dependsOn,
      dependency ∈ (nodes.flatMap (nodeSteps intent.resources)).map OperationStep.id := by
  intro step hstep dependency hdependency
  obtain ⟨node, hnode, hstep⟩ := List.mem_flatMap.mp hstep
  obtain ⟨before, after, hsteps⟩ := List.append_of_mem hstep
  rcases h.step_dependsOn hnode hsteps dependency hdependency with
    hbefore | ⟨reference, hreference, rfl⟩
  · rw [List.map_flatMap, List.mem_flatMap]
    refine ⟨node, hnode, ?_⟩
    rw [hsteps, List.map_append]
    exact List.mem_append_left _ hbefore
  · exact mem_base_steps (h.dependencies node hnode reference hreference).1

end Order

end DockerLens.Target
