import DockerLens.Render.Steps
import DockerLens.Target.Plan

namespace DockerLens.Render

open DockerLens.Text
open DockerLens.Json
open DockerLens.Fold
open DockerLens.Observation
open DockerLens.Target

section Definitions

variable (path : Chars) (resources : List TargetResource)

/-- The text that connects a container to a further network. -/
def connectText (container : ContainerIntent) (attachment : NetworkAttachmentIntent) :
    Rendered Chars := do
  let (connection, body) ← renderSecondaryConnection container attachment resources
  requestText (path ++ connection) body

/-- The texts of a resource, which no other part of the stream has a share in. -/
def resourceTexts : TargetResource → Rendered (List Chars)
  | .network network =>
      match network.source with
      | .create _ => do
          let body ← renderNetwork network
          let text ← requestText (path ++ "networks/create".toList) body
          .ok [text]
      | .external _ _ => .ok []
  | .volume _ identity labels => do
      let body ← renderVolume identity labels
      let text ← requestText (path ++ "volumes/create".toList) body
      .ok [text]
  | .externalVolume _ _ => .ok []
  | .container container => do
      let body ← renderContainer container resources
      let text ← requestText (path ++ "containers/create?name=".toList ++
        percentEncode container.identity.bytes) body
      let connections ← (container.networks.drop 1).mapM (connectText path resources container)
      .ok (text :: connections)

def nodeTexts (node : OperationNode) : Rendered (List Chars) :=
  match resourceOf resources node.resource with
  | none => .error .invalidGraph
  | some resource => resourceTexts path resources resource

end Definitions

/-- The order in which a graph is emitted. -/
def emissionOrder (graph : OperationGraph) : List OperationNode :=
  Topological.scan OperationNode.resource OperationNode.dependsOn graph.nodes graph.nodes.length []

section Node

variable {path : Chars} {resources : List TargetResource} {emission next : Emission}

theorem requests_appendRequest {requestPath body : Chars}
    (h : appendRequest emission requestPath body = .ok next) :
    ∃ text, requestText requestPath body = .ok text ∧
      next.requests = emission.requests ++ [text] := by
  rw [appendRequest, bind_eq_ok_iff] at h
  obtain ⟨text, htext, ⟨⟩⟩ := h
  exact ⟨text, htext, rfl⟩

theorem requests_mounts {container : ContainerIntent} {entries : List (Mount × Nat)}
    (h : entries.foldlM (pushMount container) emission = .ok next) :
    next.requests = emission.requests := by
  induction entries generalizing emission with
  | nil =>
      cases h
      rfl
  | cons entry entries ih =>
      rw [List.foldlM_cons, bind_eq_ok_iff] at h
      obtain ⟨middle, hmiddle, hrest⟩ := h
      rw [ih hrest]
      rw [pushMount] at hmiddle
      split at hmiddle
      · cases hmiddle
        rfl
      · split at hmiddle
        · cases hmiddle
          rfl
        · cases hmiddle

theorem requests_connects {container : ContainerIntent}
    {entries : List (NetworkAttachmentIntent × Nat)}
    (hentries : ∀ entry ∈ entries, container.networks[entry.2]? = some entry.1)
    (h : (entries.map Prod.snd).foldlM (connect path resources container) emission = .ok next) :
    ∃ texts, (entries.map Prod.fst).mapM (connectText path resources container) = .ok texts ∧
      next.requests = emission.requests ++ texts := by
  induction entries generalizing emission with
  | nil =>
      cases h
      exact ⟨[], rfl, (List.append_nil _).symm⟩
  | cons entry entries ih =>
      rw [List.forall_mem_cons] at hentries
      rw [List.map_cons, List.foldlM_cons, bind_eq_ok_iff] at h
      obtain ⟨middle, hmiddle, hrest⟩ := h
      obtain ⟨texts, htexts, hrequests⟩ := ih hentries.2 hrest
      rw [connect, hentries.1] at hmiddle
      simp only [bind_eq_ok_iff] at hmiddle
      obtain ⟨⟨connection, body⟩, hbody, hmiddle⟩ := hmiddle
      obtain ⟨text, htext, happended⟩ := requests_appendRequest hmiddle
      refine ⟨text :: texts, ?_, ?_⟩
      · have hconnect : connectText path resources container entry.1 = .ok text := by
          rw [connectText, hbody, ok_bind]
          exact htext
        rw [List.map_cons, List.mapM_cons, hconnect, htexts]
        rfl
      · rw [hrequests, happended, List.append_assoc]
        rfl

/-- One turn of the loop writes the texts of its resource. -/
theorem requests_emitNode {intent : TargetIntent} {capabilities : PlanningCapabilitySet}
    {nodes : List OperationNode} (hplanned : Planned intent capabilities nodes)
    {node : OperationNode} (hnode : node ∈ nodes)
    (h : emitNode (.build intent capabilities nodes) emission node = .ok next) :
    ∃ texts, nodeTexts (apiPath capabilities.context.api) intent.resources node = .ok texts ∧
      next.requests = emission.requests ++ texts := by
  obtain ⟨resource, -, hfound, -⟩ := hplanned.exists_resource hnode
  have hturn := (@emitNode_eq (.build intent capabilities nodes) node resource hfound
    emission).symm.trans h
  rw [bind_eq_ok_iff] at hturn
  obtain ⟨⟨middle, request⟩, hrequest, hrest⟩ := hturn
  rw [bind_eq_ok_iff] at hrest
  obtain ⟨created, hcreated, hconnected⟩ := hrest
  rw [nodeTexts, hfound]
  simp only
  cases resource with
  | network network =>
      cases hconnected
      rw [resourceRequest] at hrequest
      rw [resourceTexts]
      cases hsource : network.source with
      | external expectedDriver expectedInternal =>
          simp only [hsource] at hrequest
          cases hrequest
          cases hcreated
          exact ⟨[], rfl, (List.append_nil _).symm⟩
      | create create =>
          simp only [hsource, bind_eq_ok_iff] at hrequest
          obtain ⟨body, hbody, ⟨⟩⟩ := hrequest
          obtain ⟨text, htext, happended⟩ := requests_appendRequest hcreated
          refine ⟨[text], ?_, happended⟩
          simp only [hbody, ok_bind, OperationGraph.build] at htext ⊢
          rw [htext]
          rfl
  | volume reference identity labels =>
      cases hconnected
      simp only [resourceRequest, bind_eq_ok_iff] at hrequest
      obtain ⟨body, hbody, ⟨⟩⟩ := hrequest
      obtain ⟨text, htext, happended⟩ := requests_appendRequest hcreated
      refine ⟨[text], ?_, happended⟩
      simp only [resourceTexts, hbody, ok_bind, OperationGraph.build] at htext ⊢
      rw [htext]
      rfl
  | externalVolume reference identity =>
      cases hconnected
      cases hrequest
      cases hcreated
      exact ⟨[], rfl, (List.append_nil _).symm⟩
  | container container =>
      simp only [resourceRequest, bind_eq_ok_iff] at hrequest
      obtain ⟨mounted, hmounted, body, hbody, ⟨⟩⟩ := hrequest
      obtain ⟨text, htext, happended⟩ := requests_appendRequest hcreated
      simp only [finishNode, bind_eq_ok_iff, OperationGraph.build] at hconnected
      obtain ⟨connected, hconnects, ⟨⟩⟩ := hconnected
      rw [connections_container hplanned.references hnode hfound] at hconnects
      obtain ⟨texts, htexts, hrequests⟩ :=
        requests_connects (later_attachments container) hconnects
      rw [List.map_drop, List.zipIdx_map_fst] at htexts
      refine ⟨text :: texts, ?_, ?_⟩
      · simp only [resourceTexts, OperationGraph.build] at hbody htext htexts ⊢
        rw [hbody, ok_bind, htext, ok_bind, htexts]
        rfl
      · rw [hrequests, happended, requests_mounts hmounted, List.append_assoc]
        rfl

end Node

section Run

variable {intent : TargetIntent} {capabilities : PlanningCapabilitySet}
  {nodes : List OperationNode} {requests : List (Chars × Value)}
  {prerequisites : List Prerequisite}

/-- The loop writes the texts of the nodes in the order of the scan. -/
theorem Wrote.texts {emission final : Emission} (h : Wrote requests prerequisites emission)
    (hplanned : Planned intent capabilities nodes) {fuel : Nat} {done : List OperationNode}
    (hfuel : done.length + fuel = nodes.length)
    (hdone : (done.map OperationNode.resource).Nodup) (hsubset : done ⊆ nodes)
    (hemitted : emission.emitted = done.map OperationNode.resource) {texts : List (List Chars)}
    (htexts : done.mapM (nodeTexts (apiPath capabilities.context.api) intent.resources) =
      .ok texts)
    (hrequests : emission.requests = texts.flatten)
    (hemit : Render.emit (.build intent capabilities nodes) fuel emission = .ok final) :
    ∃ all, (Topological.scan OperationNode.resource OperationNode.dependsOn nodes fuel
        done).mapM (nodeTexts (apiPath capabilities.context.api) intent.resources) = .ok all ∧
      final.requests = all.flatten := by
  induction fuel generalizing done emission requests prerequisites texts with
  | zero =>
      cases hemit
      exact ⟨texts, htexts, hrequests⟩
  | succ fuel ih =>
      obtain ⟨node, hnext, hnode, hnodup, hsub, -⟩ := Topological.advance hplanned.references
        hplanned.linear (by omega) hdone hsubset
      obtain ⟨next, hturn, hwrote, hnextEmitted⟩ := h.node hplanned hnode
      obtain ⟨found, hfound, happended⟩ := requests_emitNode hplanned hnode hturn
      have hlength : emission.emitted.length < nodes.length := by
        rw [hemitted, List.length_map]
        omega
      have hscan : Topological.next OperationNode.resource OperationNode.dependsOn
          (OperationGraph.build intent capabilities nodes).nodes emission.emitted = some node := by
        rw [hemitted]
        exact hnext
      rw [Render.emit, if_pos (by exact hlength), hscan] at hemit
      simp only [hturn, ok_bind] at hemit
      rw [Topological.scan, hnext]
      apply ih hwrote _ hnodup hsub _ _ _ hemit
      · rw [List.length_append, List.length_singleton]
        omega
      · rw [hnextEmitted, hemitted, List.map_append, List.map_singleton]
      · exact texts ++ [found]
      · rw [List.mapM_append, htexts, ok_bind, List.mapM_cons, hfound]
        rfl
      · rw [happended, hrequests, List.flatten_append, List.flatten_singleton]

theorem exists_texts {hash : HashOrder ResourceRef} {graph : OperationGraph}
    (h : OperationGraph.new hash intent capabilities nodes = .ok graph) :
    ∃ artifact native texts, Renders graph (emissionOrder graph) artifact native ∧
      (emissionOrder graph).mapM (nodeTexts (apiPath graph.context.api) graph.intent.resources) =
        .ok texts ∧
      native.requests = texts.flatten := by
  obtain ⟨hplanned, rfl⟩ := OperationGraph.new_eq_ok_iff.mp h
  obtain ⟨hperm, hlinear⟩ := Topological.scan_linear hplanned.references hplanned.linear
  have hstart : Wrote
      (([] : List OperationNode).flatMap
        (nodeRequests (apiPath capabilities.context.api) intent.resources))
      (([] : List OperationNode).flatMap (nodePrerequisites intent.resources)) .start :=
    wrote_start
  obtain ⟨final, hfinal, hwrote⟩ :=
    hstart.emit hplanned (Nat.zero_add _) List.nodup_nil (List.nil_subset _) rfl
  obtain ⟨texts, htexts, hrequests⟩ := @Wrote.texts _ _ _ _ _ _ _ hstart hplanned nodes.length []
    (Nat.zero_add _) List.nodup_nil (List.nil_subset _) rfl [] rfl rfl hfinal
  refine ⟨⟨asBytes (String.ofList final.lines), final.networkPrerequisites,
      final.volumePrerequisites, final.bindSourcePrerequisites,
      some ⟨capabilities.context, final.requests, final.prerequisiteOrder⟩⟩, _, texts,
    ⟨?_, hperm, hlinear, rfl, rfl, hwrote.requests, ?_, hwrote.lists⟩, htexts, hrequests⟩
  · rw [render]
    simp only [OperationGraph.build] at hfinal ⊢
    rw [hfinal]
    rfl
  · rw [← hwrote.lines]

theorem nodeTexts_planNode (path : Chars) {resource : TargetResource}
    (hresource : resource ∈ intent.resources) :
    nodeTexts path intent.resources (planNode resource) =
      resourceTexts path intent.resources resource := by
  have hfound := (resourceOf_eq_some_iff intent.accepted.references).mpr ⟨hresource, rfl⟩
  rw [nodeTexts, planNode, OperationNode.resource, hfound]

theorem exists_resourceTexts {hash : HashOrder ResourceRef} {graph : OperationGraph}
    (h : plan hash intent capabilities = .ok graph) :
    ∃ order artifact native texts, List.Perm order intent.resources ∧
      Renders graph (order.map planNode) artifact native ∧
      order.mapM (resourceTexts (apiPath capabilities.context.api) intent.resources) =
        .ok texts ∧
      native.requests = texts.flatten := by
  obtain ⟨-, -, -, -, rfl⟩ := plan_eq_ok_iff.mp h
  obtain ⟨artifact, native, texts, hrenders, htexts, hrequests⟩ := exists_texts h
  have hnodes : List.Forall₂ (fun node resource => node = planNode resource)
      (intent.resources.map planNode) intent.resources := by
    rw [List.forall₂_map_left_iff, List.forall₂_same]
    exact fun _ _ => rfl
  obtain ⟨order, horder, hperm⟩ := List.perm_comp_forall₂ hrenders.perm hnodes
  have hemitted : emissionOrder (.build intent capabilities (intent.resources.map planNode)) =
      order.map planNode := by
    rw [← List.forall₂_eq_eq_eq, List.forall₂_map_right_iff]
    exact horder
  rw [hemitted] at hrenders htexts
  refine ⟨order, artifact, native, texts, hperm, hrenders, ?_, hrequests⟩
  rw [← htexts, List.mapM_map]
  exact mapM_congr fun resource hresource =>
    (nodeTexts_planNode _ (hperm.mem_iff.mp hresource)).symm

end Run

section Permuted

variable {left right : List TargetResource}

theorem resourceOf_perm (hleft : (left.map TargetResource.reference).Nodup)
    (hperm : left.Perm right) : resourceOf left = resourceOf right := by
  have hright : (right.map TargetResource.reference).Nodup :=
    (hperm.map TargetResource.reference).nodup_iff.mp hleft
  funext reference
  apply Option.ext
  intro resource
  rw [resourceOf_eq_some_iff hleft, resourceOf_eq_some_iff hright, hperm.mem_iff]

/-- Two lists that resolve what a resource names to the same resources. -/
def Agree (left right : List TargetResource) (resource : TargetResource) : Prop :=
  ∀ container, resource = .container container → ∀ need ∈ required container,
    resourceOf left need.1 = resourceOf right need.1

section Container

variable {container : ContainerIntent} (h : Agree left right (.container container))
include h

theorem networkOf_congr {attachment : NetworkAttachmentIntent}
    (hattachment : attachment ∈ container.networks) :
    networkOf left attachment.network = networkOf right attachment.network := by
  have hneed : (attachment.network, .network) ∈ required container :=
    List.mem_append_left _ (List.mem_map.mpr ⟨attachment, hattachment, rfl⟩)
  rw [networkOf, h container rfl _ hneed, networkOf]

theorem renderMount_congr {mount : Mount} (hmount : mount ∈ container.mounts) :
    renderMount left mount = renderMount right mount := by
  have hsource : mountSource left mount.source = mountSource right mount.source := by
    cases hsource : mount.source with
    | bind _ | tmpfs _ => rfl
    | volume reference =>
        have hreference : reference ∈ container.mounts.filterMap Mount.volumeReference := by
          refine List.mem_filterMap.mpr ⟨mount, hmount, ?_⟩
          rw [Mount.volumeReference, hsource]
        have hneed : (reference, .volume) ∈ required container :=
          List.mem_append_right _ (List.mem_map.mpr ⟨reference, hreference, rfl⟩)
        rw [mountSource, h container rfl _ hneed, mountSource]
  rw [renderMount, hsource, renderMount]

theorem renderContainer_congr :
    renderContainer container left = renderContainer container right := by
  have hmounts : hostList "\"Mounts\":[" "]" (renderMount left) (structured container.mounts) =
      hostList "\"Mounts\":[" "]" (renderMount right) (structured container.mounts) := by
    have hall : (structured container.mounts).mapM (renderMount left) =
        (structured container.mounts).mapM (renderMount right) :=
      mapM_congr fun mount hmount => renderMount_congr h (List.mem_of_mem_filter hmount)
    rw [hostList, separated, hall, hostList, separated]
  unfold renderContainer renderHostConfig hostFields
  rw [hmounts]
  cases hhead : container.networks.head? with
  | none => rfl
  | some attachment =>
      have hnetwork := networkOf_congr h (List.mem_of_mem_head? hhead)
      simp only [Option.map_some, pushSome, renderNetworking, hnetwork]

theorem connectText_congr (path : Chars) {attachment : NetworkAttachmentIntent}
    (hattachment : attachment ∈ container.networks) :
    connectText path left container attachment = connectText path right container attachment := by
  unfold connectText renderSecondaryConnection
  rw [networkOf_congr h hattachment]

end Container

theorem resourceTexts_congr (path : Chars) {resource : TargetResource}
    (h : Agree left right resource) :
    resourceTexts path left resource = resourceTexts path right resource := by
  cases resource with
  | network _ | volume _ _ _ | externalVolume _ _ => rfl
  | container container =>
      have hconnections : (container.networks.drop 1).mapM (connectText path left container) =
          (container.networks.drop 1).mapM (connectText path right container) :=
        mapM_congr fun attachment hattachment =>
          connectText_congr h path (List.mem_of_mem_drop hattachment)
      rw [resourceTexts, renderContainer_congr h, hconnections, resourceTexts]

theorem nodePrerequisites_congr {node : OperationNode}
    (h : resourceOf left node.resource = resourceOf right node.resource) :
    nodePrerequisites left node = nodePrerequisites right node := by
  have hsteps : nodeSteps left node = nodeSteps right node := by
    rw [nodeSteps, h, nodeSteps]
  rw [nodePrerequisites, hsteps, nodePrerequisites]
  apply List.flatMap_congr
  intro step hstep
  have hresource : step.id.resource = node.resource := by
    rcases mem_nodeSteps_iff.mp hstep with rfl | ⟨container, -, entry, -, rfl⟩
    · rfl
    · rfl
  rw [stepPrerequisites, hresource, h, stepPrerequisites, hresource]

theorem plannable_perm (h : resourceOf left = resourceOf right) (hperm : left.Perm right)
    (hdeclared : Declared left) (hresolved : ∀ resource ∈ left, Resolved left resource) :
    Declared right ∧ ∀ resource ∈ right, Resolved right resource := by
  constructor
  · intro container hcontainer need hneed
    rw [← (hperm.map TargetResource.reference).mem_iff]
    exact hdeclared container (hperm.mem_iff.mpr hcontainer) need hneed
  · intro resource hresource container heq need hneed
    rw [Resolves, ← h]
    exact hresolved resource (hperm.mem_iff.mpr hresource) container heq need hneed

theorem Lists.perm {networks : List NetworkPrerequisite} {volumes : List VolumePrerequisite}
    {bindSources : List BindSourcePrerequisite} {order : List PrerequisiteOrder}
    {prerequisites others : List Prerequisite}
    (h : Lists networks volumes bindSources order prerequisites)
    (hperm : prerequisites.Perm others) :
    networks.Perm (others.filterMap Prerequisite.network?) ∧
      volumes.Perm (others.filterMap Prerequisite.volume?) ∧
      bindSources.Perm (others.filterMap Prerequisite.bindSource?) := by
  rw [h.networks_eq, h.volumes_eq, h.bindSources_eq]
  exact ⟨hperm.filterMap _, hperm.filterMap _, hperm.filterMap _⟩

end Permuted

/-- The order in which resources are listed moves requests and obligations around, the texts of a
resource together, and it changes none of them. -/
theorem render_permuted {hash hash' : HashOrder ResourceRef} {left right : TargetIntent}
    (hperm : left.resources.Perm right.resources) {capabilities : PlanningCapabilitySet}
    {graph : OperationGraph} (h : plan hash left capabilities = .ok graph) :
    ∃ graph' artifact artifact' native native' order order' texts texts',
      plan hash' right capabilities = .ok graph' ∧
        render graph = .ok artifact ∧ artifact.native = some native ∧
        render graph' = .ok artifact' ∧ artifact'.native = some native' ∧
        List.Perm order left.resources ∧ List.Perm order' right.resources ∧
        order.mapM (resourceTexts (apiPath capabilities.context.api) left.resources) =
          .ok texts ∧
        order'.mapM (resourceTexts (apiPath capabilities.context.api) right.resources) =
          .ok texts' ∧
        (∀ resource, resourceTexts (apiPath capabilities.context.api) left.resources resource =
          resourceTexts (apiPath capabilities.context.api) right.resources resource) ∧
        native.requests = List.flatten texts ∧ native'.requests = List.flatten texts' ∧
        texts.Perm texts' ∧
        artifact.networkPrerequisites.Perm artifact'.networkPrerequisites ∧
        artifact.volumePrerequisites.Perm artifact'.volumePrerequisites ∧
        artifact.bindSourcePrerequisites.Perm artifact'.bindSourcePrerequisites := by
  have hlookup := resourceOf_perm left.accepted.references hperm
  obtain ⟨hdeclared, hresolved, hapi, hadmits, rfl⟩ := plan_eq_ok_iff.mp h
  obtain ⟨hdeclared', hresolved'⟩ := plannable_perm hlookup hperm hdeclared hresolved
  have h' : plan hash' right capabilities = .ok _ := plan_eq_ok_iff.mpr
    ⟨hdeclared', hresolved', hapi, fun resource hresource =>
      hadmits resource (hperm.mem_iff.mpr hresource), rfl⟩
  obtain ⟨order, artifact, native, texts, horder, hrenders, htexts, hrequests⟩ :=
    exists_resourceTexts h
  obtain ⟨order', artifact', native', texts', horder', hrenders', htexts', hrequests'⟩ :=
    exists_resourceTexts h'
  have hmoved : order.Perm order' := horder.trans (hperm.trans horder'.symm)
  have hsame : ∀ resource,
      resourceTexts (apiPath capabilities.context.api) left.resources resource =
        resourceTexts (apiPath capabilities.context.api) right.resources resource :=
    fun resource => resourceTexts_congr _ fun _ _ _ _ => congrFun hlookup _
  have hunique : Relator.RightUnique fun resource texts =>
      resourceTexts (apiPath capabilities.context.api) right.resources resource = .ok texts := by
    intro resource texts texts' hleft hright
    exact Except.ok.inj (hleft.symm.trans hright)
  have hblocks : texts.Perm texts' := by
    refine List.rel_perm_imp hunique ?_ (mapM_eq_ok_iff.mp htexts') hmoved
    exact (mapM_eq_ok_iff.mp htexts).imp fun resource _ hread => (hsame resource).symm.trans hread
  have hobligations := (hmoved.map planNode).flatMap_right (nodePrerequisites left.resources)
  have hlists := hrenders.lists
  have hlists' := hrenders'.lists
  simp only [OperationGraph.build] at hlists hlists' hobligations
  rw [← show nodePrerequisites left.resources = nodePrerequisites right.resources from
    funext fun node => nodePrerequisites_congr (congrFun hlookup _)] at hlists'
  obtain ⟨hnetworks, hvolumes, hbindSources⟩ := hlists.perm hobligations
  rw [← hlists'.networks_eq] at hnetworks
  rw [← hlists'.volumes_eq] at hvolumes
  rw [← hlists'.bindSources_eq] at hbindSources
  exact ⟨_, artifact, artifact', native, native', order, order', texts, texts', h',
    hrenders.rendered, hrenders.provenance, hrenders'.rendered, hrenders'.provenance, horder,
    horder', htexts, htexts', hsame, hrequests, hrequests', hblocks, hnetworks, hvolumes,
    hbindSources⟩

theorem render_permuted_web :
    ∃ reversed : TargetIntent, reversed.resources = webIntent.resources.reverse ∧
      ∃ graph graph' artifact artifact' native native' order order' texts texts',
        plan ⟨id, fun _ => .refl _⟩ webIntent anyCapability = .ok graph ∧
          plan ⟨id, fun _ => .refl _⟩ reversed anyCapability = .ok graph' ∧
          render graph = .ok artifact ∧ artifact.native = some native ∧
          render graph' = .ok artifact' ∧ artifact'.native = some native' ∧
          List.mapM (resourceTexts (apiPath anyCapability.context.api) webIntent.resources)
            order = .ok texts ∧
          List.mapM (resourceTexts (apiPath anyCapability.context.api) reversed.resources)
            order' = .ok texts' ∧
          native.requests = List.flatten texts ∧ native'.requests = List.flatten texts' ∧
          texts.Perm texts' ∧ texts.length = 4 ∧
          artifact.networkPrerequisites.Perm artifact'.networkPrerequisites ∧
          artifact.bindSourcePrerequisites.Perm artifact'.bindSourcePrerequisites := by
  obtain ⟨graph, hgraph⟩ := exists_of_isOk (show
    (plan ⟨id, fun _ => .refl _⟩ webIntent anyCapability).isOk = true by decide +kernel)
  have hchecked : checkResources webIntent.resources.reverse .standalone = .ok () := by
    decide +kernel
  obtain ⟨graph', artifact, artifact', native, native', order, order', texts, texts', hgraph',
    hrendered, hnative, hrendered', hnative', horder, -, htexts, htexts', -, hrequests, hrequests',
    hblocks, hnetworks, -, hbindSources⟩ :=
      @render_permuted ⟨id, fun _ => .refl _⟩ ⟨id, fun _ => .refl _⟩ webIntent
        ⟨webIntent.resources.reverse, hchecked⟩ (List.reverse_perm _).symm anyCapability graph
        hgraph
  have hlength : texts.length = 4 := by
    rw [← (mapM_eq_ok_iff.mp htexts).length_eq, horder.length_eq]
    rfl
  exact ⟨_, rfl, graph, graph', artifact, artifact', native, native', order, order', texts,
    texts', hgraph, hgraph', hrendered, hnative, hrendered', hnative', htexts, htexts', hrequests,
    hrequests', hblocks, hlength, hnetworks, hbindSources⟩

end DockerLens.Render
