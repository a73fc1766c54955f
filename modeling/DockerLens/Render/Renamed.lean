import DockerLens.Render.ContainerRead
import DockerLens.Render.Complete
import DockerLens.Target.Rename

namespace DockerLens.Render

open DockerLens.Text
open DockerLens.Json
open DockerLens.Fold
open DockerLens.Observation
open DockerLens.Version
open DockerLens.Target

section Definitions

variable (fresh : Renaming)

def renamedNetwork (network : NetworkPrerequisite) : NetworkPrerequisite :=
  { network with
    reference := fresh.reference network.reference
    expectedInternal := fresh.expectedInternal network.reference }

def renamedVolume (volume : VolumePrerequisite) : VolumePrerequisite :=
  { volume with reference := fresh.reference volume.reference }

def renamedBindSource (bind : BindSourcePrerequisite) : BindSourcePrerequisite :=
  { bind with reference := fresh.reference bind.reference }

def renamedEmission (emission : Emission) : Emission :=
  { emission with
    emitted := emission.emitted.map fresh.reference
    networkPrerequisites := emission.networkPrerequisites.map (renamedNetwork fresh)
    volumePrerequisites := emission.volumePrerequisites.map (renamedVolume fresh)
    bindSourcePrerequisites := emission.bindSourcePrerequisites.map (renamedBindSource fresh) }

/-- The references and the expectations of an artifact stand in its obligations alone. -/
def renamedArtifact (artifact : RenderedArtifact) : RenderedArtifact :=
  { artifact with
    networkPrerequisites := artifact.networkPrerequisites.map (renamedNetwork fresh)
    volumePrerequisites := artifact.volumePrerequisites.map (renamedVolume fresh)
    bindSourcePrerequisites := artifact.bindSourcePrerequisites.map (renamedBindSource fresh) }

end Definitions

section Bodies

theorem hostList_map {α β : Type} {before after : String} {render : β → Rendered Chars}
    {render' : α → Rendered Chars} {f : α → β} (h : ∀ a, render (f a) = render' a)
    (values : List α) :
    hostList before after render (values.map f) = hostList before after render' values := by
  have hrender : render ∘ f = render' := funext h
  rw [hostList, hostList, List.isEmpty_map, separated, List.mapM_map, hrender]
  rfl

variable {fresh : Renaming}

theorem renderBind_mount (mount : Mount) : renderBind (fresh.mount mount) = renderBind mount := by
  obtain ⟨source, target, readOnly, relabel, valid⟩ := mount
  cases source with
  | bind path | tmpfs options => rfl
  | volume reference => cases relabel <;> rfl

theorem relabelled_map (mounts : List Mount) :
    relabelled (mounts.map fresh.mount) = (relabelled mounts).map fresh.mount := by
  rw [relabelled, List.filter_map]
  rfl

theorem structured_map (mounts : List Mount) :
    structured (mounts.map fresh.mount) = (structured mounts).map fresh.mount := by
  rw [structured, List.filter_map]
  rfl

variable {resources renamed : List TargetResource} (hrelates : fresh.Relates resources renamed)
include hrelates

theorem networkOf_map (reference : ResourceRef) :
    networkOf renamed (fresh.reference reference) =
      (networkOf resources reference).map fresh.network := by
  rw [networkOf, hrelates, networkOf]
  cases resourceOf resources reference with
  | none => rfl
  | some resource => cases resource <;> rfl

theorem renderMount_map (mount : Mount) :
    renderMount renamed (fresh.mount mount) = renderMount resources mount := by
  obtain ⟨source, target, readOnly, relabel, valid⟩ := mount
  cases source with
  | bind path | tmpfs options => rfl
  | volume reference =>
      have hsource : mountSource renamed (.volume (fresh.reference reference)) =
          mountSource resources (.volume reference) := by
        rw [mountSource, hrelates, mountSource]
        cases resourceOf resources reference with
        | none => rfl
        | some resource => cases resource <;> rfl
      change (mountSource _ (.volume (fresh.reference reference)) >>= _) =
        (mountSource _ (.volume reference) >>= _)
      rw [hsource]
      rfl

/-- A container names its networks and volumes, not their references. -/
theorem renderHostConfig_map (container : ContainerIntent) :
    renderHostConfig (fresh.container container) renamed =
      renderHostConfig container resources := by
  have hbinds : hostList "\"Binds\":[" "]" renderBind
      (relabelled (fresh.container container).mounts) =
        hostList "\"Binds\":[" "]" renderBind (relabelled container.mounts) := by
    change hostList _ _ _ (relabelled (container.mounts.map fresh.mount)) = _
    rw [relabelled_map]
    exact hostList_map renderBind_mount _
  have hmounts : hostList "\"Mounts\":[" "]" (renderMount renamed)
      (structured (fresh.container container).mounts) =
        hostList "\"Mounts\":[" "]" (renderMount resources) (structured container.mounts) := by
    change hostList _ _ _ (structured (container.mounts.map fresh.mount)) = _
    rw [structured_map]
    exact hostList_map (renderMount_map hrelates) _
  have hmode : (fresh.container container).networks.head?.map (fun attachment => do
        let network ← networkOf renamed attachment.network
        pushes [push "\"NetworkMode\":", jsonString network.identity.bytes]) =
      container.networks.head?.map (fun attachment => do
        let network ← networkOf resources attachment.network
        pushes [push "\"NetworkMode\":", jsonString network.identity.bytes]) := by
    change (container.networks.map fresh.attachment).head?.map _ = _
    rw [List.head?_map, Option.map_map]
    congr 1
    funext attachment
    change (networkOf _ (fresh.reference attachment.network) >>= _) = _
    rw [networkOf_map hrelates]
    cases networkOf resources attachment.network <;> rfl
  rw [renderHostConfig, renderHostConfig]
  unfold hostFields
  rw [hbinds, hmounts, hmode]
  rfl

theorem renderContainer_map (container : ContainerIntent) :
    renderContainer (fresh.container container) renamed = renderContainer container resources := by
  have hnetworking : pushSome (renderNetworking renamed)
      (fresh.container container).networks.head? =
        pushSome (renderNetworking resources) container.networks.head? := by
    change pushSome _ (container.networks.map fresh.attachment).head? = _
    rw [List.head?_map]
    cases container.networks.head? with
    | none => rfl
    | some attachment =>
        change (networkOf _ (fresh.reference attachment.network) >>= _) =
          (networkOf resources attachment.network >>= _)
        rw [networkOf_map hrelates]
        cases networkOf resources attachment.network <;> rfl
  rw [renderContainer, renderContainer, renderHostConfig_map hrelates, hnetworking]
  rfl

theorem renderSecondaryConnection_map (container : ContainerIntent)
    (attachment : NetworkAttachmentIntent) :
    renderSecondaryConnection (fresh.container container) (fresh.attachment attachment) renamed =
      renderSecondaryConnection container attachment resources := by
  rw [renderSecondaryConnection, renderSecondaryConnection]
  change (networkOf _ (fresh.reference attachment.network) >>= _) = _
  rw [networkOf_map hrelates]
  cases networkOf resources attachment.network <;> rfl

end Bodies

section Loop

variable {fresh : Renaming}

theorem renamed_emitted (emission : Emission) (reference : ResourceRef) :
    renamedEmission fresh { emission with emitted := emission.emitted ++ [reference] } =
      { renamedEmission fresh emission with
        emitted := (renamedEmission fresh emission).emitted ++ [fresh.reference reference] } := by
  simp [renamedEmission]

theorem appendRequest_map (emission : Emission) (path body : Chars) :
    appendRequest (renamedEmission fresh emission) path body =
      (appendRequest emission path body).map (renamedEmission fresh) := by
  rw [appendRequest, appendRequest]
  cases requestText path body <;> rfl

theorem emitRequest_map (emission : Emission) (request : Option (Chars × Chars)) :
    emitRequest (renamedEmission fresh emission) request =
      (emitRequest emission request).map (renamedEmission fresh) := by
  cases request with
  | none => rfl
  | some request => exact appendRequest_map emission request.1 request.2

theorem pushMount_map (container : ContainerIntent) (emission : Emission) (mount : Mount)
    (index : Nat) :
    pushMount (fresh.container container) (renamedEmission fresh emission)
        (fresh.mount mount, index) =
      (pushMount container emission (mount, index)).map (renamedEmission fresh) := by
  obtain ⟨source, target, readOnly, relabel, valid⟩ := mount
  cases relabel with
  | none => rfl
  | some relabel =>
      cases source with
      | bind path =>
          change Except.ok _ = Except.ok _
          simp [Emission.pushBindSource, renamedEmission, renamedBindSource, bindSource,
            Renaming.container, Renaming.mount]
      | volume _ | tmpfs _ => rfl

variable {resources renamed : List TargetResource} (hrelates : fresh.Relates resources renamed)
include hrelates

theorem resourceRequest_map (path : Chars) (emission : Emission) (resource : TargetResource) :
    resourceRequest path renamed (renamedEmission fresh emission) (fresh.resource resource) =
      (resourceRequest path resources emission resource).map
        (Prod.map (renamedEmission fresh) id) := by
  cases resource with
  | network network =>
      obtain ⟨reference, identity, role, source⟩ := network
      cases source with
      | create create =>
          have hbody : renderNetwork
              (fresh.network ⟨reference, identity, role, .create create⟩) =
                renderNetwork ⟨reference, identity, role, .create create⟩ := rfl
          change (renderNetwork (fresh.network _) >>= _) = (renderNetwork _ >>= _).map _
          rw [hbody]
          cases renderNetwork ⟨reference, identity, role, .create create⟩ <;> rfl
      | external expectedDriver expectedInternal =>
          change Except.ok _ = Except.ok _
          simp [Emission.pushNetwork, renamedEmission, renamedNetwork, Renaming.network,
            Renaming.networkSource]
  | volume reference identity labels =>
      change (renderVolume identity labels >>= _) = (renderVolume identity labels >>= _).map _
      cases renderVolume identity labels <;> rfl
  | externalVolume reference identity =>
      change Except.ok _ = Except.ok _
      simp [Emission.pushVolume, renamedEmission, renamedVolume]
  | container container =>
      have hmounts : (fresh.container container).mounts.zipIdx.foldlM
          (pushMount (fresh.container container)) (renamedEmission fresh emission) =
            (container.mounts.zipIdx.foldlM (pushMount container) emission).map
              (renamedEmission fresh) := by
        change (container.mounts.map fresh.mount).zipIdx.foldlM _ _ = _
        rw [List.zipIdx_map]
        exact foldlM_map (fun entry _ emission =>
          pushMount_map container emission entry.1 entry.2) emission
      change resourceRequest _ _ _ (.container (fresh.container container)) = _
      rw [resourceRequest, resourceRequest, hmounts, renderContainer_map hrelates]
      cases container.mounts.zipIdx.foldlM (pushMount container) emission with
      | error error => rfl
      | ok emission => cases renderContainer container resources <;> rfl

theorem connect_map (path : Chars) (container : ContainerIntent) (emission : Emission)
    (attachmentIndex : Nat) :
    connect path renamed (fresh.container container) (renamedEmission fresh emission)
        attachmentIndex =
      (connect path resources container emission attachmentIndex).map (renamedEmission fresh) := by
  have hattachment : (fresh.container container).networks[attachmentIndex]? =
      container.networks[attachmentIndex]?.map fresh.attachment := List.getElem?_map
  rw [connect, connect, hattachment]
  cases container.networks[attachmentIndex]? with
  | none => rfl
  | some attachment =>
      change (renderSecondaryConnection _ (fresh.attachment attachment) _ >>= _) =
        (renderSecondaryConnection container attachment resources >>= _).map _
      rw [renderSecondaryConnection_map hrelates]
      cases renderSecondaryConnection container attachment resources with
      | error error => rfl
      | ok connection => exact appendRequest_map emission _ _

end Loop

section Graph

variable {fresh : Renaming} (hinjective : Function.Injective fresh.reference)
include hinjective

theorem connections_map (steps : List OperationStep) (reference : ResourceRef) :
    connections (steps.map fresh.step) (fresh.reference reference) =
      connections steps reference := by
  have hfilter : ∀ step : OperationStep,
      ((fresh.step step).id.resource == fresh.reference reference) =
        (step.id.resource == reference) := by
    intro step
    rw [Bool.eq_iff_iff, beq_iff_eq, beq_iff_eq]
    exact hinjective.eq_iff
  rw [connections, List.filter_map, List.filterMap_map, connections]
  have hkept : (fun step : OperationStep => step.id.resource == fresh.reference reference) ∘
      fresh.step = fun step => step.id.resource == reference := funext hfilter
  rw [hkept]
  apply List.filterMap_congr
  intro step _
  obtain ⟨id, action, dependsOn⟩ := step
  cases action <;> rfl

variable {graph : OperationGraph} {renamed : TargetIntent}
  (hrelates : fresh.Relates graph.intent.resources renamed.resources)
include hrelates

theorem finishNode_map (node : OperationNode) (resource : TargetResource) (emission : Emission) :
    finishNode (fresh.graph renamed graph) (fresh.node node) (fresh.resource resource)
        (renamedEmission fresh emission) =
      (finishNode graph node resource emission).map (renamedEmission fresh) := by
  cases resource with
  | container container =>
      have hconnected := @foldlM_map _ _ _ _ _
        (connect (apiPath graph.context.api) graph.intent.resources container)
        (connect (apiPath graph.context.api) renamed.resources (fresh.container container))
        (renamedEmission fresh) id (connections graph.steps node.resource)
        (fun attachmentIndex _ emission =>
          connect_map hrelates _ container emission attachmentIndex)
        emission
      rw [List.map_id] at hconnected
      change ((connections (graph.steps.map fresh.step) (fresh.reference node.resource)).foldlM
        (connect (apiPath graph.context.api) renamed.resources (fresh.container container))
          (renamedEmission fresh emission) >>= fun emission => .ok
            { emission with emitted := emission.emitted ++ [fresh.reference node.resource] }) = _
      rw [connections_map hinjective, hconnected, finishNode]
      simp only
      cases (connections graph.steps node.resource).foldlM
        (connect (apiPath graph.context.api) graph.intent.resources container) emission with
      | error error => rfl
      | ok connected => exact congrArg Except.ok (renamed_emitted connected node.resource).symm
  | network _ | volume _ _ _ | externalVolume _ _ =>
      exact congrArg Except.ok (renamed_emitted emission node.resource).symm

/-- One turn of the loop goes along with the renaming. -/
theorem emitNode_map (emission : Emission) (node : OperationNode) :
    emitNode (fresh.graph renamed graph) (renamedEmission fresh emission) (fresh.node node) =
      (emitNode graph emission node).map (renamedEmission fresh) := by
  have hfound : resourceOf renamed.resources (fresh.node node).resource =
      (resourceOf graph.intent.resources node.resource).map fresh.resource :=
    hrelates node.resource
  cases hresource : resourceOf graph.intent.resources node.resource with
  | none =>
      rw [hresource] at hfound
      unfold emitNode
      simp only [Renaming.graph, hfound, hresource]
      rfl
  | some resource =>
      rw [hresource] at hfound
      have hturn : emitNode (fresh.graph renamed graph) (renamedEmission fresh emission)
          (fresh.node node) = _ := emitNode_eq hfound _
      rw [hturn, emitNode_eq hresource]
      change (resourceRequest (apiPath graph.context.api) renamed.resources _ _ >>= _) = _
      rw [resourceRequest_map hrelates]
      cases resourceRequest (apiPath graph.context.api) graph.intent.resources emission
        resource with
      | error error => rfl
      | ok requested =>
          change (emitRequest (renamedEmission fresh requested.1) requested.2 >>= _) =
            (emitRequest requested.1 requested.2 >>= _).map _
          rw [emitRequest_map]
          cases emitRequest requested.1 requested.2 with
          | error error => rfl
          | ok created => exact finishNode_map hinjective hrelates node resource created

theorem emit_map (fuel : Nat) (emission : Emission) :
    emit (fresh.graph renamed graph) fuel (renamedEmission fresh emission) =
      (emit graph fuel emission).map (renamedEmission fresh) := by
  induction fuel generalizing emission with
  | zero => rfl
  | succ fuel ih =>
      have hnext : Topological.next OperationNode.resource OperationNode.dependsOn
          (fresh.graph renamed graph).nodes (renamedEmission fresh emission).emitted =
            (Topological.next OperationNode.resource OperationNode.dependsOn graph.nodes
              emission.emitted).map fresh.node :=
        @Topological.next_map _ _ OperationNode.resource OperationNode.dependsOn _ _ _ _ _ _
          fresh.node fresh.reference hinjective (fun _ => rfl) (fun _ => rfl) _ _
      have hlength : (renamedEmission fresh emission).emitted.length <
          (fresh.graph renamed graph).nodes.length ↔
            emission.emitted.length < graph.nodes.length := by
        simp [renamedEmission, Renaming.graph]
      rw [emit, emit]
      simp only [hlength]
      split
      · rw [hnext]
        cases Topological.next OperationNode.resource OperationNode.dependsOn graph.nodes
          emission.emitted with
        | none => rfl
        | some node =>
            change (emitNode _ _ (fresh.node node) >>= _) =
              (emitNode graph emission node >>= _).map _
            rw [emitNode_map hinjective hrelates]
            cases emitNode graph emission node with
            | error error => rfl
            | ok next => exact ih next
      · rfl

theorem render_map :
    render (fresh.graph renamed graph) = (render graph).map (renamedArtifact fresh) := by
  have hlength : (fresh.graph renamed graph).nodes.length = graph.nodes.length := List.length_map _
  have hemit : emit (fresh.graph renamed graph) graph.nodes.length .start =
      (emit graph graph.nodes.length .start).map (renamedEmission fresh) :=
    emit_map hinjective hrelates graph.nodes.length .start
  rw [render, render, hlength, hemit]
  cases emit graph graph.nodes.length .start <;> rfl

end Graph

section Documents

def renamedPrerequisite (fresh : Renaming) : Prerequisite → Prerequisite
  | .network network => .network (renamedNetwork fresh network)
  | .volume volume => .volume (renamedVolume fresh volume)
  | .bindSource bind => .bindSource (renamedBindSource fresh bind)

/-- Two complete documents that differ in references, expectations and the schema version. -/
structure SameRequests (document document' : Value) : Prop where
  members : ∀ key, key ∉ ["schema_version", "prerequisites"] →
    document'.get key = document.get key
  entries : ∃ entries entries', document.get "prerequisites" = some (.array entries) ∧
    document'.get "prerequisites" = some (.array entries') ∧
      entries'.map (withoutMembers ["reference", "expected_internal"]) =
        entries.map (withoutMembers ["reference", "expected_internal"])

variable {fresh : Renaming}

theorem renamed_lists {networks : List NetworkPrerequisite} {volumes : List VolumePrerequisite}
    {bindSources : List BindSourcePrerequisite} {order : List PrerequisiteOrder}
    {prerequisites : List Prerequisite}
    (h : Lists networks volumes bindSources order prerequisites) :
    Lists (networks.map (renamedNetwork fresh)) (volumes.map (renamedVolume fresh))
      (bindSources.map (renamedBindSource fresh)) order
      (prerequisites.map (renamedPrerequisite fresh)) where
  networks_eq := by
    rw [h.networks_eq, List.map_filterMap, List.filterMap_map]
    congr 1
    funext prerequisite
    cases prerequisite <;> rfl
  volumes_eq := by
    rw [h.volumes_eq, List.map_filterMap, List.filterMap_map]
    congr 1
    funext prerequisite
    cases prerequisite <;> rfl
  bindSources_eq := by
    rw [h.bindSources_eq, List.map_filterMap, List.filterMap_map]
    congr 1
    funext prerequisite
    cases prerequisite <;> rfl
  ordered := by
    rw [List.forall₂_map_left_iff]
    apply h.ordered.imp
    intro prerequisite index hindex
    have hresolve : resolve (networks.map (renamedNetwork fresh))
        (volumes.map (renamedVolume fresh)) (bindSources.map (renamedBindSource fresh)) index =
          (resolve networks volumes bindSources index).map (renamedPrerequisite fresh) := by
      cases index <;> simp [resolve, renamedPrerequisite, Function.comp_def]
    rw [hresolve, hindex]
    rfl

theorem withoutMembers_fields (names : List String) (fields : List (String × Option Value)) :
    withoutMembers names (fieldsObject fields) =
      fieldsObject (fields.filter fun field => decide (field.1 ∉ names)) := by
  rw [fieldsObject, withoutMembers, fieldsObject, Value.object.injEq]
  induction fields with
  | nil => rfl
  | cons field fields ih =>
      obtain ⟨key, value⟩ := field
      rw [present, List.filter_append, ih]
      cases value with
      | none => by_cases hkey : key ∈ names <;> simp [present, hkey]
      | some value => by_cases hkey : key ∈ names <;> simp [present, hkey]

theorem withoutMembers_entry (prerequisite : Prerequisite) :
    withoutMembers ["reference", "expected_internal"]
        (entryBody (renamedPrerequisite fresh prerequisite)) =
      withoutMembers ["reference", "expected_internal"] (entryBody prerequisite) := by
  rw [entryBody, withoutMembers_fields, entryBody, withoutMembers_fields]
  cases prerequisite <;> rfl

theorem texts_renamed (prerequisite : Prerequisite) :
    (renamedPrerequisite fresh prerequisite).texts = prerequisite.texts := by
  cases prerequisite <;> rfl

theorem document_complete {artifact : RenderedArtifact} {native : NativeRenderState}
    (hnative : artifact.native = some native) {requests : List (Chars × Value)}
    (hrequests : List.Forall₂ Line requests native.requests)
    (hunique : ∀ request ∈ requests, UniqueKeys (requestValue request))
    {prerequisites : List Prerequisite}
    (hlists : Lists artifact.networkPrerequisites artifact.volumePrerequisites
      artifact.bindSourcePrerequisites native.prerequisiteOrder prerequisites)
    (hutf8 : ∀ prerequisite ∈ prerequisites, ∀ text ∈ prerequisite.texts, isUtf8 text.2 = true) :
    ∃ complete, completeBytes artifact = .ok complete ∧
      Document complete (completeBody (schemaVersion artifact) native.context
        (requests.map requestValue) prerequisites) := by
  have hspells : List.Forall₂ Spells (requests.map requestValue) native.requests := by
    rw [List.forall₂_map_left_iff]
    exact hrequests.imp fun _ _ hline => hline.spells
  obtain ⟨text, htext, hcomplete⟩ := spells_complete hnative hspells hlists hutf8
  refine ⟨asBytes (String.ofList (text ++ ['\n'])), ?_,
    document_of_spells hcomplete (by decide) ?_⟩
  · rw [completeBytes, htext]
    rfl
  · refine uniqueKeys_of_members (show ["schema_version", "context", "requests",
      "prerequisites"].Nodup by decide) ?_
    exact ⟨uniqueMember_some (uniqueKeys_number _), uniqueMember_some (uniqueKeys_context _),
      uniqueMember_some (uniqueKeys_array hunique),
      uniqueMember_some (uniqueKeys_array fun prerequisite _ => uniqueKeys_entry prerequisite)⟩

theorem sameRequests_complete (version version' : Nat) (context : PlanningContext)
    (requests : List Value) (prerequisites : List Prerequisite) :
    SameRequests (completeBody version context requests prerequisites)
      (completeBody version' context requests
        (prerequisites.map (renamedPrerequisite fresh))) where
  members := by
    intro key hkey
    simp only [List.mem_cons, List.not_mem_nil, or_false, not_or] at hkey
    have hversion : (key == "schema_version") = false := beq_eq_false_iff_ne.mpr hkey.1
    have hprerequisites : (key == "prerequisites") = false := beq_eq_false_iff_ne.mpr hkey.2
    simp [completeBody, fieldsObject, present, List.lookup_cons, hversion, hprerequisites]
  entries := by
    refine ⟨_, _, rfl, rfl, ?_⟩
    rw [List.map_map, List.map_map, List.map_map]
    apply List.map_congr_left
    intro prerequisite _
    exact withoutMembers_entry prerequisite

/-- Other references and other expectations do not leak into the requests. They are planned when
a capability stands behind the expectations, the bytes stay the same, and the complete document
changes in the references, the expectations and its schema version only. -/
theorem render_renamed (hinjective : Function.Injective fresh.reference)
    {hash hash' : HashOrder ResourceRef} {intent : TargetIntent}
    {capabilities : PlanningCapabilitySet} {graph : OperationGraph}
    (h : plan hash intent capabilities = .ok graph) :
    ∃ renamed : TargetIntent, renamed.resources = intent.resources.map fresh.resource ∧
      ((plan hash' renamed capabilities).isOk = true ↔ (fresh.Expects intent.resources →
        capabilities.supports .networkExternalInternalExpectation = true)) ∧
      ∀ graph', plan hash' renamed capabilities = .ok graph' →
        ∃ artifact complete complete' document document', render graph = .ok artifact ∧
          render graph' = .ok (renamedArtifact fresh artifact) ∧
          (renamedArtifact fresh artifact).bytes = artifact.bytes ∧
          completeBytes artifact = .ok complete ∧ Document complete document ∧
          completeBytes (renamedArtifact fresh artifact) = .ok complete' ∧
          Document complete' document' ∧ SameRequests document document' := by
  have haccepted : Accepted (intent.resources.map fresh.resource) :=
    Renaming.accepted hinjective intent.accepted
  obtain ⟨renamed, hresources⟩ : ∃ renamed : TargetIntent,
      renamed.resources = intent.resources.map fresh.resource :=
    ⟨⟨_, checkResources_eq_ok_iff.mpr haccepted⟩, rfl⟩
  have hplan : ∀ graph', plan hash' renamed capabilities = .ok graph' ↔
      (fresh.Expects intent.resources →
        capabilities.supports .networkExternalInternalExpectation = true) ∧
      graph' = fresh.graph renamed graph :=
    fun graph' => Renaming.plan_map_iff hinjective hresources h
  refine ⟨renamed, hresources, ?_, ?_⟩
  · constructor
    · intro hok
      obtain ⟨graph', hgraph'⟩ := exists_of_isOk hok
      exact ((hplan graph').mp hgraph').1
    · intro hexpects
      rw [(hplan _).mpr ⟨hexpects, rfl⟩]
      rfl
  · intro graph' hgraph'
    obtain ⟨-, rfl⟩ := (hplan graph').mp hgraph'
    obtain ⟨order, artifact, native, hrenders⟩ := exists_renders h
    have hrelates : fresh.Relates graph.intent.resources renamed.resources := by
      rw [hresources, (plan_eq_ok_iff.mp h).2.2.2.2]
      exact Renaming.relates_map hinjective
    have hunique : ∀ request ∈ order.flatMap
        (nodeRequests (apiPath graph.context.api) graph.intent.resources),
        UniqueKeys (requestValue request) := fun _ => uniqueKeys_request
    have hutf8 : ∀ prerequisite ∈ order.flatMap (nodePrerequisites graph.intent.resources),
        ∀ text ∈ prerequisite.texts, isUtf8 text.2 = true := by
      intro prerequisite hprerequisite
      obtain ⟨resource, -, hof⟩ := exists_resource_of_prerequisite hprerequisite
      exact utf8_of_resource hof
    obtain ⟨complete, hcomplete, hdocument⟩ :=
      document_complete hrenders.provenance hrenders.requests hunique hrenders.lists hutf8
    have hrendered : render (fresh.graph renamed graph) = .ok (renamedArtifact fresh artifact) := by
      rw [render_map hinjective hrelates, hrenders.rendered]
      rfl
    obtain ⟨complete', hcomplete', hdocument'⟩ := @document_complete
      (renamedArtifact fresh artifact) native hrenders.provenance _ hrenders.requests hunique _
      (renamed_lists hrenders.lists) (List.forall_mem_map.mpr fun prerequisite hprerequisite =>
        (texts_renamed prerequisite).symm ▸ hutf8 prerequisite hprerequisite)
    exact ⟨artifact, complete, complete', _, _, hrenders.rendered, hrendered, rfl, hcomplete,
      hdocument, hcomplete', hdocument', sameRequests_complete _ _ _ _ _⟩

/-- Every reference is moved, and every external network has to be reachable. -/
def movedRenaming : Renaming where
  reference := fun reference => ⟨reference.localIndex + 10⟩
  expectedInternal := fun _ => some false

theorem render_renamed_web :
    ∃ graph graph' artifact,
      plan ⟨id, fun _ => .refl _⟩ webIntent anyCapability = .ok graph ∧
        render graph = .ok artifact ∧
        render graph' = .ok (renamedArtifact movedRenaming artifact) := by
  have hinjective : Function.Injective movedRenaming.reference := by
    intro left right h
    rw [movedRenaming, ResourceRef.mk.injEq] at h
    cases left
    cases right
    exact congrArg _ (Nat.add_right_cancel h)
  obtain ⟨graph, hgraph⟩ := exists_of_isOk (show
    (plan ⟨id, fun _ => .refl _⟩ webIntent anyCapability).isOk = true by decide +kernel)
  obtain ⟨renamed, -, hplanned, hrendered⟩ := @render_renamed movedRenaming hinjective
    ⟨id, fun _ => .refl _⟩ ⟨id, fun _ => .refl _⟩ webIntent anyCapability graph hgraph
  obtain ⟨graph', hgraph'⟩ := exists_of_isOk (hplanned.mpr fun _ => rfl)
  obtain ⟨artifact, -, -, -, -, hartifact, hartifact', -⟩ := hrendered graph' hgraph'
  exact ⟨graph, graph', artifact, hgraph, hartifact, hartifact'⟩

end Documents

end DockerLens.Render
