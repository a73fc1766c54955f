import DockerLens.Render.Artifact
import DockerLens.Render.ContainerSpelled
import DockerLens.Render.OneLine
import DockerLens.Target.Steps

namespace DockerLens.Render

open DockerLens.Text
open DockerLens.Json
open DockerLens.Fold
open DockerLens.Observation
open DockerLens.Target

/-- An obligation that the artifact lists, of any of the three kinds. -/
inductive Prerequisite
  | network (prerequisite : NetworkPrerequisite)
  | volume (prerequisite : VolumePrerequisite)
  | bindSource (prerequisite : BindSourcePrerequisite)
  deriving DecidableEq

namespace Prerequisite

def network? : Prerequisite → Option NetworkPrerequisite
  | network prerequisite => some prerequisite
  | _ => none

def volume? : Prerequisite → Option VolumePrerequisite
  | volume prerequisite => some prerequisite
  | _ => none

def bindSource? : Prerequisite → Option BindSourcePrerequisite
  | bindSource prerequisite => some prerequisite
  | _ => none

end Prerequisite

/-- What an index into one of three lists stands for. -/
def resolve (networks : List NetworkPrerequisite) (volumes : List VolumePrerequisite)
    (bindSources : List BindSourcePrerequisite) : PrerequisiteOrder → Option Prerequisite
  | .network index => networks[index]?.map .network
  | .volume index => volumes[index]?.map .volume
  | .bindSource index => bindSources[index]?.map .bindSource

/-- Three lists and their common order list these obligations, each of them once. -/
structure Lists (networks : List NetworkPrerequisite) (volumes : List VolumePrerequisite)
    (bindSources : List BindSourcePrerequisite) (order : List PrerequisiteOrder)
    (prerequisites : List Prerequisite) : Prop where
  networks_eq : networks = prerequisites.filterMap Prerequisite.network?
  volumes_eq : volumes = prerequisites.filterMap Prerequisite.volume?
  bindSources_eq : bindSources = prerequisites.filterMap Prerequisite.bindSource?
  ordered : List.Forall₂ (fun prerequisite index =>
    resolve networks volumes bindSources index = some prerequisite) prerequisites order

/-- The JSON value of a request. -/
def requestValue (request : Chars × Value) : Value :=
  fieldsObject
    [("method", some (.string "POST")), ("path", some (.string (String.ofList request.1))),
      ("body", some request.2)]

theorem get_requestValue (request : Chars × Value) :
    (Json.normalize (requestValue request)).get "path" =
        some (.string (String.ofList request.1)) ∧
      (Json.normalize (requestValue request)).get "body" = some (Json.normalize request.2) := by
  rw [requestValue]
  constructor
  · rw [get_normalize_fields]
    · simp [List.lookup_cons]
    · exact show ["method", "path", "body"].Nodup by decide
  · rw [get_normalize_fields]
    · simp [List.lookup_cons]
    · exact show ["method", "path", "body"].Nodup by decide

/-- One line of the stream. -/
structure Line (request : Chars × Value) (text : Chars) : Prop where
  spells : Spells (requestValue request) text
  oneLine : '\n' ∉ text

/-- The emission so far consists of these requests and obligations. -/
structure Wrote (requests : List (Chars × Value)) (prerequisites : List Prerequisite)
    (emission : Emission) : Prop where
  requests : List.Forall₂ Line requests emission.requests
  lines : emission.lines = emission.requests.flatMap (· ++ ['\n'])
  lists : Lists emission.networkPrerequisites emission.volumePrerequisites
    emission.bindSourcePrerequisites emission.prerequisiteOrder prerequisites

theorem wrote_start : Wrote [] [] .start :=
  ⟨.nil, rfl, rfl, rfl, rfl, .nil⟩

section Steps

/-- The request that creates a resource. -/
def createRequest (path : Chars) (resources : List TargetResource) :
    TargetResource → Option (Chars × Value)
  | .network network =>
      match network.source with
      | .create create =>
          some (path ++ "networks/create".toList, networkBody network.identity create)
      | .external _ _ => none
  | .volume _ identity labels =>
      some (path ++ "volumes/create".toList, volumeBody identity labels)
  | .externalVolume _ _ => none
  | .container container =>
      some (path ++ "containers/create?name=".toList ++ percentEncode container.identity.bytes,
        containerBody resources container)

/-- The request that connects a container to the network of an attachment. -/
def connectRequest (path : Chars) (resources : List TargetResource) (container : ContainerIntent)
    (attachment : NetworkAttachmentIntent) : Chars × Value :=
  (path ++ ("networks/".toList ++ percentEncode (attachedName resources attachment) ++
    "/connect".toList), connectionBody container attachment)

/-- The obligation of a relabelled mount. -/
def obligation (container : ContainerIntent) (entry : Mount × Nat) : Option Prerequisite :=
  match entry.1.source, entry.1.bindRelabel with
  | .bind source, some relabel =>
      some (.bindSource (bindSource container entry.1 entry.2 source relabel))
  | _, _ => none

/-- What an external resource requires. -/
def requirement : TargetResource → Option Prerequisite
  | .network network =>
      match network.source with
      | .external expectedDriver expectedInternal =>
          some (.network ⟨network.reference, expectedDriver, expectedInternal,
            network.identity.bytes⟩)
      | .create _ => none
  | .externalVolume reference identity => some (.volume ⟨reference, identity.bytes⟩)
  | _ => none

def obligations : TargetResource → List Prerequisite
  | .container container => container.mounts.zipIdx.filterMap (obligation container)
  | _ => []

/-- The requests that a step stands for. -/
def stepRequests (path : Chars) (resources : List TargetResource) (step : OperationStep) :
    List (Chars × Value) :=
  match step.action, resourceOf resources step.id.resource with
  | .create _, some resource => (createRequest path resources resource).toList
  | .connectNetwork _ attachmentIndex, some (.container container) =>
      (container.networks[attachmentIndex]?.map
        (connectRequest path resources container)).toList
  | _, _ => []

/-- The obligations that a step stands for. -/
def stepPrerequisites (resources : List TargetResource) (step : OperationStep) :
    List Prerequisite :=
  match step.action, resourceOf resources step.id.resource with
  | .create _, some resource => obligations resource
  | .requireExisting _, some resource => (requirement resource).toList
  | _, _ => []

end Steps

section Pushes

variable {requests : List (Chars × Value)} {prerequisites : List Prerequisite}
  {emission : Emission}

theorem resolve_mono {networks networks' : List NetworkPrerequisite}
    {volumes volumes' : List VolumePrerequisite}
    {bindSources bindSources' : List BindSourcePrerequisite} {index : PrerequisiteOrder}
    {prerequisite : Prerequisite}
    (h : resolve networks volumes bindSources index = some prerequisite) :
    resolve (networks ++ networks') (volumes ++ volumes') (bindSources ++ bindSources') index =
      some prerequisite := by
  have hlookup : ∀ {α : Type} {values values' : List α} {index : Nat} {value : α},
      values[index]? = some value → (values ++ values')[index]? = some value := by
    intro α values values' index value hvalue
    obtain ⟨hlt, -⟩ := List.getElem?_eq_some_iff.mp hvalue
    rw [List.getElem?_append_left hlt, hvalue]
  cases index with
  | network index | volume index | bindSource index =>
      obtain ⟨found, hfound, hequal⟩ := Option.map_eq_some_iff.mp h
      rw [resolve, hlookup hfound, Option.map_some, hequal]

theorem Lists.push {networks : List NetworkPrerequisite} {volumes : List VolumePrerequisite}
    {bindSources : List BindSourcePrerequisite} {order : List PrerequisiteOrder}
    (h : Lists networks volumes bindSources order prerequisites) (prerequisite : Prerequisite)
    (index : PrerequisiteOrder)
    (hindex : resolve (networks ++ prerequisite.network?.toList)
      (volumes ++ prerequisite.volume?.toList) (bindSources ++ prerequisite.bindSource?.toList)
      index = some prerequisite) :
    Lists (networks ++ prerequisite.network?.toList) (volumes ++ prerequisite.volume?.toList)
      (bindSources ++ prerequisite.bindSource?.toList) (order ++ [index])
      (prerequisites ++ [prerequisite]) where
  networks_eq := by
    rw [List.filterMap_append, ← h.networks_eq]
    cases prerequisite <;> rfl
  volumes_eq := by
    rw [List.filterMap_append, ← h.volumes_eq]
    cases prerequisite <;> rfl
  bindSources_eq := by
    rw [List.filterMap_append, ← h.bindSources_eq]
    cases prerequisite <;> rfl
  ordered := List.rel_append (h.ordered.imp fun _ _ => resolve_mono) (.cons hindex .nil)

theorem Wrote.pushNetwork (h : Wrote requests prerequisites emission)
    (prerequisite : NetworkPrerequisite) :
    Wrote requests (prerequisites ++ [.network prerequisite])
      (emission.pushNetwork prerequisite) := by
  have hlists := h.lists.push (.network prerequisite)
    (.network emission.networkPrerequisites.length) (by
      simp [resolve, Prerequisite.network?])
  simp only [Prerequisite.network?, Prerequisite.volume?, Prerequisite.bindSource?,
    Option.toList_none, List.append_nil] at hlists
  exact ⟨h.requests, h.lines, hlists⟩

theorem Wrote.pushVolume (h : Wrote requests prerequisites emission)
    (prerequisite : VolumePrerequisite) :
    Wrote requests (prerequisites ++ [.volume prerequisite])
      (emission.pushVolume prerequisite) := by
  have hlists := h.lists.push (.volume prerequisite)
    (.volume emission.volumePrerequisites.length) (by
      simp [resolve, Prerequisite.volume?])
  simp only [Prerequisite.network?, Prerequisite.volume?, Prerequisite.bindSource?,
    Option.toList_none, List.append_nil] at hlists
  exact ⟨h.requests, h.lines, hlists⟩

theorem Wrote.pushBindSource (h : Wrote requests prerequisites emission)
    (prerequisite : BindSourcePrerequisite) :
    Wrote requests (prerequisites ++ [.bindSource prerequisite])
      (emission.pushBindSource prerequisite) := by
  have hlists := h.lists.push (.bindSource prerequisite)
    (.bindSource emission.bindSourcePrerequisites.length) (by
      simp [resolve, Prerequisite.bindSource?])
  simp only [Prerequisite.network?, Prerequisite.volume?, Prerequisite.bindSource?,
    Option.toList_none, List.append_nil] at hlists
  exact ⟨h.requests, h.lines, hlists⟩

theorem line_requestText {path body : Chars} {value : Value} (hbody : Spells value body)
    (hline : '\n' ∉ body) :
    ∃ text, requestText path body = .ok text ∧ Line (path, value) text := by
  have hmethod : PlainKey "method" ∧ PlainKey "path" ∧ PlainKey "POST" ∧
      "\x7b\"method\":\"POST\",\"path\":".toList = '\x7b' :: (keyText "method" ++ ':' ::
        (keyText "POST" ++ ',' :: (keyText "path" ++ [':']))) := by
    decide
  obtain ⟨name, hname, hspells⟩ := spells_jsonText (String.ofList path)
  have hparts : Parts "\x7d".toList [push ",\"body\":", .ok body, push "\x7d"]
      [("body", some value)] := by
    apply Parts.keyed (by decide) (writes_ok hbody)
    exact .close rfl
  obtain ⟨tail, htail, hmembers⟩ := hparts.writes
  have hok : requestText path body = _ := pushes_cons rfl (pushes_cons hname htail)
  refine ⟨_, hok, ?_, ?_⟩
  · have hfirst :=
      Members.singleton (quotes_keyText hmethod.1) (quotes_keyText hmethod.2.2.1).spells
    have hall := ((hfirst.append (Members.singleton (quotes_keyText hmethod.2.1) hspells)).append
      hmembers).spells (by simp) (@rfl _ (([] : List Char).all isSpace))
    rw [hmethod.2.2.2]
    simpa [requestValue, fieldsObject, present] using hall
  · have honeLine : OneLine (requestText path body) :=
      .pushes ⟨.push (by decide), .jsonString, .push (by decide), .ok hline, .push (by decide)⟩
    exact honeLine _ hok

theorem Wrote.append (h : Wrote requests prerequisites emission) (request : Chars × Value)
    {body : Chars} (hbody : Spells request.2 body) (hline : '\n' ∉ body) :
    ∃ next, appendRequest emission request.1 body = .ok next ∧
      Wrote (requests ++ [request]) prerequisites next ∧ next.emitted = emission.emitted := by
  obtain ⟨text, htext, hrequest⟩ : ∃ text, requestText request.1 body = .ok text ∧
      Line request text := line_requestText hbody hline
  refine ⟨{ emission with
    lines := emission.lines ++ text ++ ['\n'], requests := emission.requests ++ [text] }, ?_,
    ⟨List.rel_append h.requests (.cons hrequest .nil), ?_, h.lists⟩, rfl⟩
  · rw [appendRequest, htext]
    rfl
  · simp [h.lines]

end Pushes

section Nodes

variable {intent : TargetIntent} {capabilities : PlanningCapabilitySet}
  {nodes : List OperationNode}

/-- A planned container can be rendered. -/
theorem renderable_of_planned (h : Planned intent capabilities nodes) {container : ContainerIntent}
    (hcontainer : .container container ∈ intent.resources) :
    Renderable intent.resources container := by
  have haccepted : ContainerAccepted intent.resources container :=
    intent.accepted.each _ hcontainer
  have hresolved := h.resolved hcontainer
  refine ⟨?_, ?_, haccepted.settings.limits, ?_⟩
  · intro mount hmount reference hsource
    have hneed : (reference, TargetKind.volume) ∈ required container := by
      refine List.mem_append_right _ (List.mem_map_of_mem (List.mem_filterMap.mpr
        ⟨mount, hmount, ?_⟩))
      rw [Mount.volumeReference, hsource]
    obtain ⟨resource, hresource, hkind⟩ := Option.map_eq_some_iff.mp (hresolved _ hneed)
    rw [volumeName, hresource]
    cases resource with
    | volume _ _ _ => rfl
    | externalVolume _ _ => rfl
    | network _ | container _ => cases hkind
  · intro attachment hattachment
    have hneed : (attachment.network, TargetKind.network) ∈ required container :=
      List.mem_append_left _ (List.mem_map.mpr ⟨attachment, hattachment, rfl⟩)
    obtain ⟨resource, hresource, hkind⟩ := Option.map_eq_some_iff.mp (hresolved _ hneed)
    rw [networkName, hresource]
    cases resource with
    | network _ => rfl
    | volume _ _ _ | externalVolume _ _ | container _ => cases hkind
  · intro limit hlimit
    have hvalues := (haccepted.settings.ulimits limit hlimit).values
    rw [Bool.and_eq_true, Bool.and_eq_true] at hvalues
    exact hvalues.1

theorem pools_ne_nil (intent : TargetIntent) {network : NetworkIntent}
    (hnetwork : .network network ∈ intent.resources) {create : NetworkCreate}
    (hsource : network.source = .create create) {ipam : NetworkIpam}
    (hipam : create.ipam = some ipam) : ipam.pools ≠ [] := by
  have haccepted : SourceAccepted network.source := intent.accepted.each _ hnetwork
  rw [hsource] at haccepted
  exact (haccepted.ipam ipam hipam).nonempty

variable {requests : List (Chars × Value)} {prerequisites : List Prerequisite}
  {emission : Emission}

theorem Wrote.mounts (h : Wrote requests prerequisites emission) (container : ContainerIntent)
    (entries : List (Mount × Nat)) :
    ∃ next, entries.foldlM (pushMount container) emission = .ok next ∧
      Wrote requests (prerequisites ++ entries.filterMap (obligation container)) next ∧
      next.emitted = emission.emitted := by
  induction entries generalizing prerequisites emission with
  | nil => exact ⟨emission, rfl, by simpa using h, rfl⟩
  | cons entry entries ih =>
      rw [List.foldlM_cons, List.filterMap_cons]
      cases hrelabel : entry.1.bindRelabel with
      | none =>
          have hnone : obligation container entry = none := by
            rw [obligation, hrelabel]
            cases entry.1.source <;> rfl
          rw [pushMount, hrelabel, hnone, ok_bind]
          exact ih h
      | some relabel =>
          obtain ⟨source, hsource⟩ := bind_of_relabel hrelabel
          have hsome : obligation container entry =
              some (.bindSource (bindSource container entry.1 entry.2 source relabel)) := by
            rw [obligation, hrelabel, hsource]
          obtain ⟨next, hnext, hwrote, hemitted⟩ := ih (h.pushBindSource
            (bindSource container entry.1 entry.2 source relabel))
          refine ⟨next, ?_, ?_, hemitted⟩
          · rw [pushMount, hrelabel, hsource, ok_bind, hnext]
          · rw [hsome]
            simpa using hwrote

theorem Wrote.connects (h : Wrote requests prerequisites emission) {path : Chars}
    {container : ContainerIntent} (hrenderable : Renderable intent.resources container)
    {entries : List (NetworkAttachmentIntent × Nat)}
    (hentries : ∀ entry ∈ entries, container.networks[entry.2]? = some entry.1) :
    ∃ next, (entries.map Prod.snd).foldlM (connect path intent.resources container) emission =
        .ok next ∧
      Wrote (requests ++ entries.map fun entry =>
        connectRequest path intent.resources container entry.1) prerequisites next ∧
      next.emitted = emission.emitted := by
  induction entries generalizing requests emission with
  | nil => exact ⟨emission, rfl, by simpa using h, rfl⟩
  | cons entry entries ih =>
      have hentry := hentries entry List.mem_cons_self
      have hresolved := hrenderable.networks entry.1 (List.mem_of_getElem? hentry)
      obtain ⟨body, hbody, hspells⟩ : ∃ body, renderSecondaryConnection container entry.1
          intent.resources = .ok (_, body) ∧ Spells (connectionBody container entry.1) body :=
        spells_connection hresolved
      have hconnect : connect path intent.resources container emission entry.2 =
          appendRequest emission (connectRequest path intent.resources container entry.1).1
            body := by
        simp only [connect, hentry, hbody, ok_bind, connectRequest]
      obtain ⟨middle, hmiddle, hwrote, hsame⟩ :=
        h.append (connectRequest path intent.resources container entry.1) hspells
          (oneLine_connection hbody)
      obtain ⟨next, hnext, hall, hemitted⟩ :=
        ih hwrote fun other hother => hentries other (List.mem_cons_of_mem _ hother)
      refine ⟨next, ?_, ?_, hemitted.trans hsame⟩
      · rw [List.map_cons, List.foldlM_cons, hconnect, hmiddle, ok_bind, hnext]
      · simpa using hall

/-- The requests and the obligations of the steps of a node. -/
def nodeRequests (path : Chars) (resources : List TargetResource) (node : OperationNode) :
    List (Chars × Value) :=
  (nodeSteps resources node).flatMap (stepRequests path resources)

def nodePrerequisites (resources : List TargetResource) (node : OperationNode) :
    List Prerequisite :=
  (nodeSteps resources node).flatMap (stepPrerequisites resources)

section Turn

def emitRequest (emission : Emission) : Option (Chars × Chars) → Rendered Emission
  | none => .ok emission
  | some (path, body) => appendRequest emission path body

/-- The connections of a node end its turn. -/
def finishNode (graph : OperationGraph) (node : OperationNode) (resource : TargetResource)
    (emission : Emission) : Rendered Emission := do
  let emission ← match resource with
    | .container container =>
        (connections graph.steps node.resource).foldlM
          (connect (apiPath graph.context.api) graph.intent.resources container) emission
    | _ => .ok emission
  .ok { emission with emitted := emission.emitted ++ [node.resource] }

theorem emitNode_eq {graph : OperationGraph} {node : OperationNode} {resource : TargetResource}
    (h : resourceOf graph.intent.resources node.resource = some resource) (emission : Emission) :
    emitNode graph emission node =
      resourceRequest (apiPath graph.context.api) graph.intent.resources emission resource >>=
        fun requested => emitRequest requested.1 requested.2 >>=
          finishNode graph node resource := by
  unfold emitNode
  simp only [h]
  congr 1
  funext requested
  obtain ⟨middle, request⟩ := requested
  cases request <;> rfl

end Turn

/-- What the body of a request is made of. -/
inductive RequestBody (resources : List TargetResource) : Value → Prop
  | network {network : NetworkIntent} {create : NetworkCreate} (h : .network network ∈ resources)
      (source : network.source = .create create) :
      RequestBody resources (networkBody network.identity create)
  | volume {reference : ResourceRef} {identity : TargetIdentity} {labels : List VolumeLabel}
      (h : .volume reference identity labels ∈ resources) :
      RequestBody resources (volumeBody identity labels)
  | container {container : ContainerIntent} (h : .container container ∈ resources) :
      RequestBody resources (containerBody resources container)
  | connection (container : ContainerIntent) (attachment : NetworkAttachmentIntent) :
      RequestBody resources (connectionBody container attachment)

theorem requestBody_of_create {path : Chars} {resources : List TargetResource}
    {resource : TargetResource} (hresource : resource ∈ resources) {request : Chars × Value}
    (h : createRequest path resources resource = some request) :
    RequestBody resources request.2 := by
  cases resource with
  | network network =>
      rw [createRequest] at h
      split at h
      · next create hsource =>
          cases h
          exact .network hresource hsource
      · cases h
  | volume reference identity labels =>
      cases h
      exact .volume hresource
  | externalVolume _ _ => cases h
  | container container =>
      cases h
      exact .container hresource

theorem requestBody_of_mem {path : Chars} {resources : List TargetResource}
    {nodes : List OperationNode} {request : Chars × Value}
    (h : request ∈ nodes.flatMap (nodeRequests path resources)) :
    RequestBody resources request.2 := by
  obtain ⟨node, -, h⟩ := List.mem_flatMap.mp h
  obtain ⟨step, -, h⟩ := List.mem_flatMap.mp h
  rw [stepRequests] at h
  split at h
  · next hfound => exact requestBody_of_create (List.mem_of_find?_eq_some hfound) (by simpa using h)
  · rw [Option.mem_toList, Option.map_eq_some_iff] at h
    obtain ⟨attachment, -, rfl⟩ := h
    exact .connection _ _
  · simp at h

/-- The emission of a resource before its connect steps. -/
theorem Wrote.resource (h : Wrote requests prerequisites emission)
    (hplanned : Planned intent capabilities nodes) (path : Chars) {resource : TargetResource}
    (hresource : resource ∈ intent.resources) :
    ∃ middle request next, resourceRequest path intent.resources emission resource =
        .ok (middle, request) ∧
      (match request with
        | none => (.ok middle : Rendered Emission)
        | some (requestPath, body) => appendRequest middle requestPath body) = .ok next ∧
      Wrote (requests ++ (createRequest path intent.resources resource).toList)
        (prerequisites ++ obligations resource ++ (requirement resource).toList) next ∧
      next.emitted = emission.emitted := by
  cases resource with
  | network network =>
      cases hsource : network.source with
      | external expectedDriver expectedInternal =>
          refine ⟨emission.pushNetwork
              ⟨network.reference, expectedDriver, expectedInternal, network.identity.bytes⟩,
            none, _, ?_, rfl, ?_, rfl⟩
          · simp only [resourceRequest, hsource]
          · simpa [createRequest, obligations, requirement, hsource] using h.pushNetwork _
      | create create =>
          obtain ⟨body, hbody, hspells⟩ :=
            spells_network hsource fun ipam => pools_ne_nil intent hresource hsource
          obtain ⟨next, hnext, hwrote, hemitted⟩ :=
            h.append (path ++ "networks/create".toList, networkBody network.identity create)
              hspells (oneLine_network network body hbody)
          refine ⟨emission, some (_, body), next, ?_, hnext, ?_, hemitted⟩
          · simp only [resourceRequest, hsource, hbody, ok_bind]
          · simpa [createRequest, obligations, requirement, hsource] using hwrote
  | volume reference identity labels =>
      obtain ⟨body, hbody, hspells⟩ := spells_volume identity labels
      obtain ⟨next, hnext, hwrote, hemitted⟩ :=
        h.append (path ++ "volumes/create".toList, volumeBody identity labels) hspells
          (oneLine_volume identity labels body hbody)
      refine ⟨emission, some (_, body), next, ?_, hnext, ?_, hemitted⟩
      · simp only [resourceRequest, hbody, ok_bind]
      · simpa [createRequest, obligations, requirement] using hwrote
  | externalVolume reference identity =>
      refine ⟨emission.pushVolume ⟨reference, identity.bytes⟩, none, _, rfl, rfl, ?_, rfl⟩
      simpa [createRequest, obligations, requirement] using h.pushVolume _
  | container container =>
      obtain ⟨body, hbody, hspells⟩ := spells_container (renderable_of_planned hplanned hresource)
      obtain ⟨middle, hmiddle, hmounts, hsame⟩ := h.mounts container container.mounts.zipIdx
      obtain ⟨next, hnext, hwrote, hemitted⟩ :=
        hmounts.append (path ++ "containers/create?name=".toList ++
          percentEncode container.identity.bytes, containerBody intent.resources container)
          hspells (oneLine_container container _ body hbody)
      refine ⟨middle, some (_, body), next, ?_, hnext, ?_, hemitted.trans hsame⟩
      · simp only [resourceRequest, hmiddle, ok_bind, hbody]
      · simpa [createRequest, obligations, requirement] using hwrote

theorem base_outputs {resources : List TargetResource} {node : OperationNode}
    {resource : TargetResource} (hfound : resourceOf resources node.resource = some resource)
    (haction : node.operation.action = resource.action) (path : Chars) :
    stepRequests path resources (baseStep node) = (createRequest path resources resource).toList ∧
      stepPrerequisites resources (baseStep node) =
        obligations resource ++ (requirement resource).toList := by
  have hbase : resourceOf resources (baseStep node).id.resource = some resource := hfound
  rw [stepRequests, stepPrerequisites, hbase]
  cases resource with
  | network network =>
      cases hsource : network.source <;>
        simp [baseStep, haction, TargetResource.action, hsource, createRequest, obligations,
          requirement]
  | volume _ _ _ | externalVolume _ _ | container _ =>
      simp [baseStep, haction, TargetResource.action, createRequest, obligations, requirement]

/-- The attachment that a step connects. -/
def connectedIndex (step : OperationStep) : Option Nat :=
  match step.action with
  | .connectNetwork _ attachmentIndex => some attachmentIndex
  | _ => none

theorem connections_eq (steps : List OperationStep) (resource : ResourceRef) :
    connections steps resource =
      (steps.filter (·.id.resource == resource)).filterMap connectedIndex := rfl

theorem connect_outputs {resources : List TargetResource} {node : OperationNode}
    {container : ContainerIntent}
    (hfound : resourceOf resources node.resource = some (.container container)) (path : Chars)
    {entries : List (NetworkAttachmentIntent × Nat)}
    (hentries : ∀ entry ∈ entries, container.networks[entry.2]? = some entry.1) :
    (entries.map (connectStep node)).flatMap (stepRequests path resources) =
        entries.map (fun entry => connectRequest path resources container entry.1) ∧
      (entries.map (connectStep node)).flatMap (stepPrerequisites resources) = [] ∧
      (entries.map (connectStep node)).filterMap connectedIndex = entries.map Prod.snd := by
  induction entries with
  | nil => exact ⟨rfl, rfl, rfl⟩
  | cons entry entries ih =>
      obtain ⟨hrequests, hprerequisites, hindices⟩ :=
        ih fun other hother => hentries other (List.mem_cons_of_mem _ hother)
      have hentry := hentries entry List.mem_cons_self
      refine ⟨?_, ?_, ?_⟩
      · rw [List.map_cons, List.flatMap_cons, hrequests, List.map_cons]
        simp [stepRequests, connectStep, hfound, hentry]
      · rw [List.map_cons, List.flatMap_cons, hprerequisites]
        simp [stepPrerequisites, connectStep, hfound]
      · rw [List.map_cons, List.filterMap_cons, List.map_cons, ← hindices]
        rfl

theorem nodeSteps_container {resources : List TargetResource} {node : OperationNode}
    {container : ContainerIntent}
    (hfound : resourceOf resources node.resource = some (.container container)) :
    nodeSteps resources node =
      baseStep node :: (container.networks.zipIdx.drop 1).map (connectStep node) := by
  rw [nodeSteps, hfound]

theorem connections_container {resources : List TargetResource} {nodes : List OperationNode}
    (hnodup : (nodes.map OperationNode.resource).Nodup) {node : OperationNode}
    (hnode : node ∈ nodes) {container : ContainerIntent}
    (hfound : resourceOf resources node.resource = some (.container container)) :
    connections (nodes.flatMap (nodeSteps resources)) node.resource =
      (container.networks.zipIdx.drop 1).map Prod.snd := by
  obtain ⟨-, -, hindices⟩ := connect_outputs hfound [] (later_attachments container)
  have hbase : connectedIndex (baseStep node) = none := by
    cases haction : node.operation.action <;> simp only [connectedIndex, baseStep, haction]
  rw [connections_eq, filter_steps hnodup hnode, nodeSteps_container hfound,
    List.filterMap_cons_none hbase, hindices]

/-- The emission of the connect steps of a node. -/
theorem Wrote.later (h : Wrote requests prerequisites emission)
    (hplanned : Planned intent capabilities nodes) (path : Chars) {node : OperationNode}
    (hnode : node ∈ nodes) {resource : TargetResource} (hresource : resource ∈ intent.resources)
    (hfound : resourceOf intent.resources node.resource = some resource) :
    ∃ next, (match resource with
        | .container container =>
            (connections (nodes.flatMap (nodeSteps intent.resources)) node.resource).foldlM
              (connect path intent.resources container) emission
        | _ => .ok emission) = .ok next ∧
      Wrote (requests ++ (nodeSteps intent.resources node).tail.flatMap
          (stepRequests path intent.resources))
        (prerequisites ++ (nodeSteps intent.resources node).tail.flatMap
          (stepPrerequisites intent.resources)) next ∧
      next.emitted = emission.emitted := by
  cases resource with
  | container container =>
      have hentries := later_attachments container
      obtain ⟨hconnects, hnone, -⟩ := connect_outputs hfound path hentries
      obtain ⟨next, hnext, hall, hsame⟩ :=
        h.connects (renderable_of_planned hplanned hresource) hentries
      refine ⟨next, ?_, ?_, hsame⟩
      · rw [connections_container hplanned.references hnode hfound]
        exact hnext
      · rw [nodeSteps_container hfound, List.tail_cons, hconnects, hnone, List.append_nil]
        exact hall
  | network _ | volume _ _ _ | externalVolume _ _ =>
      exact ⟨emission, rfl, by simpa [nodeSteps, hfound] using h, rfl⟩

/-- One turn of the loop emits what the steps of its node stand for. -/
theorem Wrote.node (h : Wrote requests prerequisites emission)
    (hplanned : Planned intent capabilities nodes) {node : OperationNode} (hnode : node ∈ nodes) :
    ∃ next, emitNode (.build intent capabilities nodes) emission node = .ok next ∧
      Wrote (requests ++ nodeRequests (apiPath capabilities.context.api) intent.resources node)
        (prerequisites ++ nodePrerequisites intent.resources node) next ∧
      next.emitted = emission.emitted ++ [node.resource] := by
  obtain ⟨resource, hresource, hfound, -, -, haction⟩ := hplanned.exists_resource hnode
  obtain ⟨hbaseRequests, hbasePrerequisites⟩ :=
    base_outputs hfound haction (apiPath capabilities.context.api)
  obtain ⟨middle, request, created, hrequest, hcreated, hwrote, hemitted⟩ :=
    h.resource hplanned (apiPath capabilities.context.api) hresource
  obtain ⟨next, hnext, hall, hsame⟩ :=
    hwrote.later hplanned (apiPath capabilities.context.api) hnode hresource hfound
  have hnodeSteps : nodeSteps intent.resources node =
      baseStep node :: (nodeSteps intent.resources node).tail := rfl
  refine ⟨{ next with emitted := next.emitted ++ [node.resource] }, ?_,
    ⟨?_, hall.lines, ?_⟩, ?_⟩
  · simp only [emitNode, OperationGraph.build, hfound, hrequest, ok_bind]
    -- the two matches of the turn are the ones that the two parts went through
    cases request with
    | none =>
        cases hcreated
        cases resource with
        | container container =>
            simp only at hnext ⊢
            rw [hnext]
            rfl
        | network _ | volume _ _ _ | externalVolume _ _ =>
            cases hnext
            rfl
    | some request =>
        simp only at hcreated ⊢
        rw [hcreated]
        cases resource with
        | container container =>
            simp only at hnext
            simp only [ok_bind, hnext]
        | network _ | volume _ _ _ | externalVolume _ _ =>
            cases hnext
            rfl
  · rw [nodeRequests, hnodeSteps, List.flatMap_cons, hbaseRequests, ← List.append_assoc]
    exact hall.requests
  · rw [nodePrerequisites, hnodeSteps, List.flatMap_cons, hbasePrerequisites, ← List.append_assoc,
      ← List.append_assoc]
    exact hall.lists
  · rw [hsame, hemitted]

/-- The loop emits the nodes in the order of a scan, and does not get stuck. -/
theorem Wrote.emit {done : List OperationNode}
    (h : Wrote (done.flatMap (nodeRequests (apiPath capabilities.context.api) intent.resources))
      (done.flatMap (nodePrerequisites intent.resources)) emission)
    (hplanned : Planned intent capabilities nodes) {fuel : Nat}
    (hfuel : done.length + fuel = nodes.length)
    (hdone : (done.map OperationNode.resource).Nodup) (hsubset : done ⊆ nodes)
    (hemitted : emission.emitted = done.map OperationNode.resource) :
    ∃ final, Render.emit (.build intent capabilities nodes) fuel emission = .ok final ∧
      Wrote ((Topological.scan OperationNode.resource OperationNode.dependsOn nodes fuel
          done).flatMap (nodeRequests (apiPath capabilities.context.api) intent.resources))
        ((Topological.scan OperationNode.resource OperationNode.dependsOn nodes fuel
          done).flatMap (nodePrerequisites intent.resources)) final := by
  induction fuel generalizing done emission with
  | zero => exact ⟨emission, rfl, h⟩
  | succ fuel ih =>
      have hlength : emission.emitted.length < nodes.length := by
        rw [hemitted, List.length_map]
        omega
      obtain ⟨node, hnext, hnode, hnodup, hsub, -⟩ := Topological.advance hplanned.references
        hplanned.linear (by omega) hdone hsubset
      obtain ⟨next, hemit, hwrote, hnextEmitted⟩ := h.node hplanned hnode
      have hturn : Render.emit (.build intent capabilities nodes) (fuel + 1) emission =
          Render.emit (.build intent capabilities nodes) fuel next := by
        have hfound : Topological.next OperationNode.resource OperationNode.dependsOn
            (OperationGraph.build intent capabilities nodes).nodes emission.emitted =
              some node := by
          rw [hemitted]
          exact hnext
        rw [Render.emit, if_pos (by exact hlength), hfound]
        simp only [hemit, ok_bind]
      rw [hturn, Topological.scan, hnext]
      refine ih ?_ ?_ hnodup hsub ?_
      · rw [List.flatMap_append, List.flatMap_append, List.flatMap_singleton,
          List.flatMap_singleton]
        exact hwrote
      · rw [List.length_append, List.length_singleton]
        omega
      · rw [hnextEmitted, hemitted, List.map_append, List.map_singleton]

end Nodes

/-- What rendering makes of a graph: the requests and the obligations of its nodes, one node
after another, each after all that it depends on. -/
structure Renders (graph : OperationGraph) (order : List OperationNode)
    (artifact : RenderedArtifact) (native : NativeRenderState) : Prop where
  rendered : render graph = .ok artifact
  perm : order.Perm graph.nodes
  linear : Topological.Linear OperationNode.resource OperationNode.dependsOn order
  provenance : artifact.native = some native
  context : native.context = graph.context
  requests : List.Forall₂ Line
    (order.flatMap (nodeRequests (apiPath graph.context.api) graph.intent.resources))
    native.requests
  bytes : artifact.bytes = asBytes (String.ofList (native.requests.flatMap (· ++ ['\n'])))
  lists : Lists artifact.networkPrerequisites artifact.volumePrerequisites
    artifact.bindSourcePrerequisites native.prerequisiteOrder
    (order.flatMap (nodePrerequisites graph.intent.resources))

theorem exists_renders {hash : HashOrder ResourceRef} {intent : TargetIntent}
    {capabilities : PlanningCapabilitySet} {nodes : List OperationNode} {graph : OperationGraph}
    (h : OperationGraph.new hash intent capabilities nodes = .ok graph) :
    ∃ order artifact native, Renders graph order artifact native := by
  obtain ⟨hplanned, rfl⟩ := OperationGraph.new_eq_ok_iff.mp h
  obtain ⟨hperm, hlinear⟩ := Topological.scan_linear hplanned.references hplanned.linear
  have hstart : Wrote
      (([] : List OperationNode).flatMap
        (nodeRequests (apiPath capabilities.context.api) intent.resources))
      (([] : List OperationNode).flatMap (nodePrerequisites intent.resources)) .start :=
    wrote_start
  obtain ⟨final, hfinal, hwrote⟩ :=
    hstart.emit hplanned (Nat.zero_add _) List.nodup_nil (List.nil_subset _) rfl
  refine ⟨_, ⟨asBytes (String.ofList final.lines), final.networkPrerequisites,
      final.volumePrerequisites, final.bindSourcePrerequisites,
      some ⟨capabilities.context, final.requests, final.prerequisiteOrder⟩⟩, _,
    ?_, hperm, hlinear, rfl, rfl, hwrote.requests, ?_, hwrote.lists⟩
  · rw [render]
    simp only [OperationGraph.build] at hfinal ⊢
    rw [hfinal]
    rfl
  · rw [← hwrote.lines]

end DockerLens.Render
