import DockerLens.Render.Emitted
import DockerLens.Render.Gated
import DockerLens.Render.NetworkMode

namespace DockerLens.Render

open DockerLens.Text
open DockerLens.Json
open DockerLens.Fold
open DockerLens.Observation
open DockerLens.Version
open DockerLens.Target

/-- An artifact all of which is supported: the lines of its stream and its obligations. -/
structure ArtifactAdmitted (supports : Capability → Bool) (api : ApiVersion)
    (artifact : RenderedArtifact) (native : NativeRenderState) : Prop where
  provenance : artifact.native = some native
  bytes : artifact.bytes = asBytes (String.ofList (native.requests.flatMap (· ++ ['\n'])))
  requests : ∀ line ∈ native.requests, ∃ document path body,
    fromSlice (asBytes (String.ofList line)) = some document ∧
      document.get "path" = some (.string (String.ofList path)) ∧
      document.get "body" = some body ∧ RequestAdmitted supports api path body
  networks : ∀ prerequisite ∈ artifact.networkPrerequisites,
    PrerequisiteAllowed supports (.network prerequisite)
  volumes : ∀ prerequisite ∈ artifact.volumePrerequisites,
    PrerequisiteAllowed supports (.volume prerequisite)
  bindSources : ∀ prerequisite ∈ artifact.bindSourcePrerequisites,
    PrerequisiteAllowed supports (.bindSource prerequisite)

section Planned

variable {intent : TargetIntent} {capabilities : PlanningCapabilitySet}
  {nodes : List OperationNode}

theorem admitted_create (h : Planned intent capabilities nodes) (api : ApiVersion)
    {resource : TargetResource} (hresource : resource ∈ intent.resources)
    {request : Chars × Value}
    (hrequest : createRequest (apiPath api) intent.resources resource = some request) :
    RequestAdmitted capabilities.supports api request.1 (Json.normalize request.2) := by
  have hopen := checkGates_eq_ok_iff.mp (h.gated resource hresource)
  cases resource with
  | network network =>
      rw [createRequest] at hrequest
      split at hrequest
      · next create hsource =>
          cases hrequest
          rw [gates, hsource] at hopen
          obtain ⟨hbridge, hbody⟩ := allowed_network hopen
          exact .network hbody hbridge
      · cases hrequest
  | volume reference identity labels =>
      cases hrequest
      rw [gates, List.forall_mem_append, List.forall_mem_singleton, forall_mem_gateIf] at hopen
      obtain ⟨hvolume, hlabels⟩ := hopen
      exact .volume (allowed_volume hvolume fun hne => hlabels (by simpa using hne)) hvolume
  | externalVolume _ _ => cases hrequest
  | container container =>
      cases hrequest
      have hgated := containerGated hopen
      exact .container _ (allowed_container hgated (intent.accepted.each _ hresource))
        hgated.resource

theorem admitted_request (h : Planned intent capabilities nodes) (api : ApiVersion)
    {request : Chars × Value}
    (hrequest : request ∈ nodes.flatMap (nodeRequests (apiPath api) intent.resources)) :
    RequestAdmitted capabilities.supports api request.1 (Json.normalize request.2) := by
  obtain ⟨node, -, hrequest⟩ := List.mem_flatMap.mp hrequest
  obtain ⟨step, hstep, hrequest⟩ := List.mem_flatMap.mp hrequest
  rcases mem_nodeSteps_iff.mp hstep with rfl | ⟨container, hfound, entry, hentry, rfl⟩
  · rw [stepRequests] at hrequest
    split at hrequest
    · next hfound =>
        exact admitted_create h api (List.mem_of_find?_eq_some hfound)
          (Option.mem_toList.mp hrequest)
    · next haction _ =>
        rw [baseStep] at haction
        split at haction <;> cases haction
    · cases hrequest
  · have hattachment := later_attachments container entry hentry
    have hlength : 1 < container.networks.length := by
      by_contra hshort
      rw [List.drop_eq_nil_of_le (by rw [List.length_zipIdx]; omega)] at hentry
      cases hentry
    rw [stepRequests] at hrequest
    simp only [connectStep, hfound, hattachment, Option.map_some, Option.toList_some,
      List.mem_singleton] at hrequest
    subst hrequest
    have hgated := containerGated
      (checkGates_eq_ok_iff.mp (h.gated _ (List.mem_of_find?_eq_some hfound)))
    exact .connection _ (allowed_connection hgated (List.mem_of_getElem? hattachment) hlength)
      (hgated.multiple hlength)

theorem allowed_obligation {supports : Capability → Bool} {container : ContainerIntent}
    (h : ContainerGated supports container) {prerequisite : Prerequisite}
    (hprerequisite : prerequisite ∈ obligations (.container container)) :
    PrerequisiteAllowed supports prerequisite := by
  obtain ⟨entry, hentry, hobligation⟩ := List.mem_filterMap.mp hprerequisite
  have hgates := h.mounts entry.1 (List.fst_mem_of_mem_zipIdx hentry)
  rw [mountGates, List.forall_mem_append] at hgates
  rw [obligation] at hobligation
  split at hobligation
  · next source relabel hsource hrelabel =>
      rw [hsource, hrelabel] at hgates
      cases hobligation
      exact ⟨hgates.1 _ List.mem_cons_self, hgates.2 _ List.mem_cons_self⟩
  · cases hobligation

theorem allowed_requirement (h : Planned intent capabilities nodes) {resource : TargetResource}
    (hresource : resource ∈ intent.resources) {prerequisite : Prerequisite}
    (hprerequisite : requirement resource = some prerequisite) :
    PrerequisiteAllowed capabilities.supports prerequisite := by
  have hopen := checkGates_eq_ok_iff.mp (h.gated resource hresource)
  cases resource with
  | network network =>
      rw [requirement] at hprerequisite
      split at hprerequisite
      · next expectedDriver expectedInternal hsource =>
          cases hprerequisite
          rw [gates, hsource, networkGates, List.forall_mem_append, forall_mem_gateIf] at hopen
          exact ⟨hopen.1 _ List.mem_cons_self, hopen.2⟩
      · cases hprerequisite
  | externalVolume reference identity =>
      cases hprerequisite
      exact hopen _ List.mem_cons_self
  | volume _ _ _ | container _ => cases hprerequisite

theorem allowed_prerequisite (h : Planned intent capabilities nodes)
    {prerequisite : Prerequisite}
    (hprerequisite : prerequisite ∈ nodes.flatMap (nodePrerequisites intent.resources)) :
    PrerequisiteAllowed capabilities.supports prerequisite := by
  obtain ⟨node, -, hprerequisite⟩ := List.mem_flatMap.mp hprerequisite
  obtain ⟨step, -, hprerequisite⟩ := List.mem_flatMap.mp hprerequisite
  rw [stepPrerequisites] at hprerequisite
  split at hprerequisite
  · next resource _ hfound =>
      have hresource := List.mem_of_find?_eq_some hfound
      cases resource with
      | container container =>
          exact allowed_obligation
            (containerGated (checkGates_eq_ok_iff.mp (h.gated _ hresource))) hprerequisite
      | network _ | volume _ _ _ | externalVolume _ _ => cases hprerequisite
  · next resource _ hfound =>
      exact allowed_requirement h (List.mem_of_find?_eq_some hfound)
        (Option.mem_toList.mp hprerequisite)
  · cases hprerequisite

end Planned

section Graph

variable {hash hash' : HashOrder ResourceRef} {intent : TargetIntent}
  {capabilities capabilities' : PlanningCapabilitySet} {nodes : List OperationNode}
  {graph graph' : OperationGraph}

/-- All that is rendered of a planned graph is supported. -/
theorem exists_admitted (h : OperationGraph.new hash intent capabilities nodes = .ok graph) :
    ∃ artifact native, render graph = .ok artifact ∧
      ArtifactAdmitted capabilities.supports graph.context.api artifact native := by
  obtain ⟨order, artifact, native, hrenders⟩ := exists_renders h
  obtain ⟨hplanned, rfl⟩ := OperationGraph.new_eq_ok_iff.mp h
  have hnodes : ∀ {α : Type} (f : OperationNode → List α) (a : α),
      a ∈ order.flatMap f → a ∈ nodes.flatMap f := by
    intro α f a hmem
    exact (hrenders.perm.flatMap_right f).mem_iff.mp hmem
  have hallowed : ∀ prerequisite ∈ order.flatMap (nodePrerequisites intent.resources),
      PrerequisiteAllowed capabilities.supports prerequisite := by
    intro prerequisite hprerequisite
    exact allowed_prerequisite hplanned (hnodes _ _ hprerequisite)
  refine ⟨artifact, native, hrenders.rendered, hrenders.provenance, hrenders.bytes, ?_, ?_, ?_, ?_⟩
  · intro line hline
    obtain ⟨request, hrequest, hspelled⟩ := exists_of_forall₂_right hrenders.requests hline
    obtain ⟨hpath, hbody⟩ := get_requestValue request
    exact ⟨_, request.1, Json.normalize request.2, fromSlice_of_spells hspelled.spells, hpath,
      hbody, admitted_request hplanned _ (hnodes _ _ hrequest)⟩
  · intro prerequisite hprerequisite
    rw [hrenders.lists.networks_eq] at hprerequisite
    obtain ⟨listed, hlisted, hnetwork⟩ := List.mem_filterMap.mp hprerequisite
    cases listed with
    | network found =>
        cases hnetwork
        exact hallowed _ hlisted
    | volume found | bindSource found => cases hnetwork
  · intro prerequisite hprerequisite
    rw [hrenders.lists.volumes_eq] at hprerequisite
    obtain ⟨listed, hlisted, hvolume⟩ := List.mem_filterMap.mp hprerequisite
    cases listed with
    | volume found =>
        cases hvolume
        exact hallowed _ hlisted
    | network found | bindSource found => cases hvolume
  · intro prerequisite hprerequisite
    rw [hrenders.lists.bindSources_eq] at hprerequisite
    obtain ⟨listed, hlisted, hbind⟩ := List.mem_filterMap.mp hprerequisite
    cases listed with
    | bindSource found =>
        cases hbind
        exact hallowed _ hlisted
    | network found | volume found => cases hbind

/-- Nothing is rendered that is not supported, more capabilities let more be planned, and what is
rendered does not depend on them. -/
theorem capabilities_only_gate (hcontext : capabilities'.context = capabilities.context) :
    (OperationGraph.new hash intent capabilities nodes = .ok graph →
      ∃ artifact native, render graph = .ok artifact ∧
        ArtifactAdmitted capabilities.supports graph.context.api artifact native) ∧
    ((∀ capability, capabilities.supports capability = true →
        capabilities'.supports capability = true) →
      OperationGraph.new hash intent capabilities nodes = .ok graph →
      ∃ planned, OperationGraph.new hash' intent capabilities' nodes = .ok planned) ∧
    (OperationGraph.new hash intent capabilities nodes = .ok graph →
      OperationGraph.new hash' intent capabilities' nodes = .ok graph' →
      ∃ artifact artifact', render graph = .ok artifact ∧ render graph' = .ok artifact' ∧
        artifact'.bytes = artifact.bytes ∧ completeBytes artifact' = completeBytes artifact) := by
  refine ⟨exists_admitted, ?_, ?_⟩
  · intro hle h
    exact ⟨_, OperationGraph.new_eq_ok_iff.mpr
      ⟨(OperationGraph.new_eq_ok_iff.mp h).1.mono (congrArg PlanningContext.api hcontext)
        (congrArg PlanningContext.mode hcontext) hle, rfl⟩⟩
  · intro h h'
    obtain ⟨order, artifact, native, hrenders⟩ := exists_renders h
    have hgraph : graph' = graph := by
      rw [(OperationGraph.new_eq_ok_iff.mp h).2, (OperationGraph.new_eq_ok_iff.mp h').2,
        OperationGraph.build_congr hcontext]
    exact ⟨artifact, artifact, hrenders.rendered, hgraph ▸ hrenders.rendered, rfl, rfl⟩

end Graph

/-- A daemon that supports containers on bridge networks and nothing else. -/
def bridgeCapability : PlanningCapabilitySet :=
  ⟨fun capability => decide (capability ∈ [.bridgeNetwork, .standaloneContainer]),
    anyCapability.context⟩

theorem capabilities_only_gate_front :
    ∃ graph planned artifact native,
      OperationGraph.new ⟨id, fun _ => .refl _⟩
          ⟨attachedResources ⟨asBytes "front", validIdentity_front⟩, by decide +kernel⟩
          bridgeCapability
          ((attachedResources ⟨asBytes "front", validIdentity_front⟩).map planNode) =
        .ok graph ∧
      OperationGraph.new ⟨id, fun _ => .refl _⟩
          ⟨attachedResources ⟨asBytes "front", validIdentity_front⟩, by decide +kernel⟩
          anyCapability ((attachedResources ⟨asBytes "front", validIdentity_front⟩).map planNode) =
        .ok planned ∧
      render graph = .ok artifact ∧
      ArtifactAdmitted bridgeCapability.supports graph.context.api artifact native := by
  obtain ⟨graph, hgraph⟩ := exists_of_isOk (show (OperationGraph.new ⟨id, fun _ => .refl _⟩
    ⟨attachedResources ⟨asBytes "front", validIdentity_front⟩, by decide +kernel⟩ bridgeCapability
    ((attachedResources ⟨asBytes "front", validIdentity_front⟩).map planNode)).isOk = true by
      decide +kernel)
  have hcontext : anyCapability.context = bridgeCapability.context := rfl
  obtain ⟨hadmitted, hmono, -⟩ := @capabilities_only_gate ⟨id, fun _ => .refl _⟩
    ⟨id, fun _ => .refl _⟩ _ _ _ _ graph graph hcontext
  obtain ⟨artifact, native, hrender, hall⟩ := hadmitted hgraph
  obtain ⟨planned, hplanned⟩ := hmono (fun _ _ => rfl) hgraph
  exact ⟨graph, planned, artifact, native, hgraph, hplanned, hrender, hall⟩

end DockerLens.Render
