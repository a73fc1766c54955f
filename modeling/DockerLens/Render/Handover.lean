import DockerLens.Json.Reading
import DockerLens.Render.Emitted
import DockerLens.Render.Prerequisite

namespace DockerLens.Render

open DockerLens.Text
open DockerLens.Json
open DockerLens.Fold
open DockerLens.Observation
open DockerLens.Acquisition
open DockerLens.Evidence
open DockerLens.Decoder
open DockerLens.Target

/-- A network reported as it was sent: under its name, with its driver, and internal exactly when
the request says so, also where it says nothing. -/
structure Reports (sent reported : Value) : Prop where
  name : (reported.get "Name").bind Value.asStr = (sent.get "Name").bind Value.asStr
  driver : (reported.get "Driver").bind Value.asStr = (sent.get "Driver").bind Value.asStr
  internal : (reported.get "Internal").bind Value.asBool =
    some (((sent.get "Internal").bind Value.asBool).getD false)

instance (sent reported : Value) : Decidable (Reports sent reported) :=
  decidable_of_iff (_ ∧ _ ∧ _)
    ⟨fun h => ⟨h.1, h.2.1, h.2.2⟩, fun h => ⟨h.name, h.driver, h.internal⟩⟩

section Assessed

variable {fromSlice : Bytes → Option Value} {daemon : Daemon} {ids : List NativeId}
  {limits : Limits} {capture : Capture} {inventory : DecodedInventory} {id : NativeId}

theorem assess_inspected
    (hacquire : acquire fromSlice daemon (.networkIds ids) limits = .ok capture)
    (hdecode : decodeCapture fromSlice capture = .ok inventory) (hid : id ∈ ids) :
    ∃ exchange ∈ capture.exchanges, exchange.request = .inspectNetwork id ∧
      ∃ body, fromSlice exchange.body = some body ∧
        ∀ prerequisite : NetworkPrerequisite, prerequisite.identity ≠ [] →
          (prerequisite.assess inventory inventory.observationId id = .ok () ↔
            Satisfied prerequisite body) := by
  obtain ⟨history, h⟩ := acquire_eq_ok hacquire
  obtain ⟨decoding, hdecoding, hlength, -, rfl⟩ := decodeCapture_eq_ok hdecode
  obtain ⟨inspection, hmem, rfl, hexchange, hrequest, -⟩ := exists_exchange h hid
  obtain ⟨body, network, hbody, hnetwork, hholds, hselected⟩ :=
    selectedNetwork_acquired h hdecoding hlength hmem
  have hvalid : validExactContainerId inspection.id = true := by
    have hselector := h.selector_valid
    rw [validateSelector] at hselector
    split at hselector
    · cases hselector
    split at hselector
    · cases hselector
    next hall =>
        rw [Bool.not_eq_true, List.any_eq_false] at hall
        simpa using hall inspection.id hid
  refine ⟨_, hexchange, hrequest, body, hbody, fun prerequisite hidentity => ?_⟩
  rw [assess_eq_assessFields rfl hvalid hselected hholds]
  exact assessFields_iff_satisfied hnetwork hidentity

end Assessed

section Created

variable {network : NetworkIntent} {create : NetworkCreate}

theorem get_networkBody (identity : TargetIdentity) (key : String) :
    (Json.normalize (networkBody identity create)).get key =
      (((("Name", some (stringValue identity.bytes)) :: ("Driver", some (.string "bridge")) ::
        createFields create).lookup key).join).map Json.normalize :=
  @get_normalize_fields (("Name", some (stringValue identity.bytes)) ::
    ("Driver", some (.string "bridge")) :: createFields create)
    (show ["Name", "Driver", "Internal", "EnableIPv6", "IPAM", "Options", "Labels"].Nodup by
      decide) key

/-- What a created network satisfies once it is reported as it was sent. -/
theorem satisfied_iff {identity : TargetIdentity} {reported : Value}
    (hreports : Reports (Json.normalize (networkBody identity create)) reported)
    {prerequisite : NetworkPrerequisite} :
    Satisfied prerequisite reported ↔ prerequisite.identity = identity.bytes ∧
      prerequisite.expectedDriver = .bridge ∧
      ∀ expected ∈ prerequisite.expectedInternal, expected = create.internal := by
  have hname : ((reported.get "Name").bind Value.asStr).map asBytes = some identity.bytes := by
    rw [hreports.name, get_networkBody]
    simp [stringValue, Value.asStr, asBytes_decoded (isUtf8_of_identity identity.checked)]
  have hdriver : ((reported.get "Driver").bind Value.asStr).map asBytes =
      some (asBytes "bridge") := by
    rw [hreports.driver, get_networkBody]
    simp [List.lookup_cons, Value.asStr]
  have hinternal : reported.get "Internal" = some (.bool create.internal) := by
    have hflag : (reported.get "Internal").bind Value.asBool = some create.internal := by
      rw [hreports.internal, get_networkBody]
      cases hflag : create.internal <;>
        simp [List.lookup_cons, createFields, fieldIf, hflag, Json.normalize, Value.asBool]
    obtain ⟨value, hget, hvalue⟩ := Option.bind_eq_some_iff.mp hflag
    rw [hget]
    cases value with
    | bool flag => exact congrArg (some ∘ Value.bool) (Option.some_inj.mp hvalue)
    | null | number _ | string _ | array _ | object _ => cases hvalue
  constructor
  · rintro ⟨hsame, hbridge, hflag⟩
    rw [hname, Option.some_inj] at hsame
    rw [hdriver, Option.some_inj] at hbridge
    refine ⟨hsame.symm, ?_, fun expected hexpected => ?_⟩
    · revert hbridge
      cases prerequisite.expectedDriver <;> decide
    · have hbool := hflag expected hexpected
      rw [hinternal, Option.some_inj, Value.bool.injEq] at hbool
      exact hbool.symm
  · rintro ⟨hsame, hbridge, hflag⟩
    refine ⟨hsame ▸ hname, ?_, fun expected hexpected => ?_⟩
    · rw [hbridge]
      exact hdriver
    · rw [hflag expected hexpected]
      exact hinternal

end Created

section Rendered

variable {hash : HashOrder ResourceRef} {intent : TargetIntent}
  {capabilities : PlanningCapabilitySet} {nodes : List OperationNode} {graph : OperationGraph}
  {network : NetworkIntent}

theorem exists_base (h : OperationGraph.new hash intent capabilities nodes = .ok graph)
    {resource : TargetResource} (hresource : resource ∈ intent.resources) :
    ∃ order artifact native, Renders graph order artifact native ∧
      (∀ request ∈ createRequest (apiPath graph.context.api) intent.resources resource,
        request ∈ order.flatMap (nodeRequests (apiPath graph.context.api)
          graph.intent.resources)) ∧
      ∀ prerequisite ∈ requirement resource,
        prerequisite ∈ order.flatMap (nodePrerequisites graph.intent.resources) := by
  obtain ⟨order, artifact, native, hrenders⟩ := exists_renders h
  obtain ⟨hplanned, rfl⟩ := OperationGraph.new_eq_ok_iff.mp h
  obtain ⟨node, hnode, hreference⟩ := hplanned.exists_node hresource
  obtain ⟨found, -, hfound, -, -, haction⟩ := hplanned.exists_resource hnode
  have hown := (resourceOf_eq_some_iff intent.accepted.references).mpr
    ⟨hresource, hreference.symm⟩
  obtain rfl := Option.some_inj.mp (hfound.symm.trans hown)
  obtain ⟨hrequests, hprerequisites⟩ :=
    base_outputs hfound haction (apiPath capabilities.context.api)
  have horder : node ∈ order := hrenders.perm.mem_iff.mpr hnode
  have hbase : baseStep node ∈ nodeSteps intent.resources node := List.mem_cons_self
  refine ⟨order, artifact, native, hrenders, fun request hrequest => ?_,
    fun prerequisite hprerequisite => ?_⟩
  · refine List.mem_flatMap.mpr ⟨node, horder, List.mem_flatMap.mpr ⟨_, hbase, ?_⟩⟩
    exact hrequests ▸ Option.mem_toList.mpr hrequest
  · refine List.mem_flatMap.mpr ⟨node, horder, List.mem_flatMap.mpr ⟨_, hbase, ?_⟩⟩
    rw [OperationGraph.build, hprerequisites]
    exact List.mem_append_right _ (Option.mem_toList.mpr hprerequisite)

theorem exists_line (h : OperationGraph.new hash intent capabilities nodes = .ok graph)
    (hnetwork : .network network ∈ intent.resources) {create : NetworkCreate}
    (hsource : network.source = .create create) :
    ∃ artifact native line document, render graph = .ok artifact ∧
      artifact.native = some native ∧ line ∈ native.requests ∧
      Json.fromSlice (asBytes (String.ofList line)) = some document ∧
      document.get "body" = some (Json.normalize (networkBody network.identity create)) := by
  obtain ⟨order, artifact, native, hrenders, hrequests, -⟩ := exists_base h hnetwork
  have hrequest : (apiPath graph.context.api ++ "networks/create".toList,
      networkBody network.identity create) ∈
        createRequest (apiPath graph.context.api) intent.resources (.network network) := by
    rw [createRequest, hsource]
    rfl
  obtain ⟨line, hline, hwritten⟩ :=
    exists_of_forall₂_left hrenders.requests (hrequests _ hrequest)
  exact ⟨artifact, native, line, _, hrenders.rendered, hrenders.provenance, hline,
    fromSlice_of_spells hwritten.spells, (get_requestValue _).2⟩

theorem exists_prerequisite (h : OperationGraph.new hash intent capabilities nodes = .ok graph)
    (hnetwork : .network network ∈ intent.resources) {driver : NetworkDriver}
    {expected : Option Bool} (hsource : network.source = .external driver expected) :
    ∃ artifact, render graph = .ok artifact ∧
      ⟨network.reference, driver, expected, network.identity.bytes⟩ ∈
        artifact.networkPrerequisites := by
  obtain ⟨order, artifact, native, hrenders, -, hprerequisites⟩ := exists_base h hnetwork
  refine ⟨artifact, hrenders.rendered, ?_⟩
  rw [hrenders.lists.networks_eq]
  refine List.mem_filterMap.mpr ⟨.network _, hprerequisites _ ?_, rfl⟩
  rw [requirement, hsource]
  rfl

end Rendered

/-- A network that one artifact creates and another one expects to be there: once a daemon reports
it as it was sent, its snapshot meets the expectation exactly when both agree on its name, on the
bridge driver and, where anything is expected, on whether it is internal. -/
theorem handover {hash hash' : HashOrder ResourceRef} {intent other : TargetIntent}
    {capabilities capabilities' : PlanningCapabilitySet} {nodes nodes' : List OperationNode}
    {graph graph' : OperationGraph}
    (h : OperationGraph.new hash intent capabilities nodes = .ok graph)
    (h' : OperationGraph.new hash' other capabilities' nodes' = .ok graph')
    {network external : NetworkIntent} (hnetwork : .network network ∈ intent.resources)
    {create : NetworkCreate} (hsource : network.source = .create create)
    (hexternal : .network external ∈ other.resources) {driver : NetworkDriver}
    {expected : Option Bool} (hexpected : external.source = .external driver expected) :
    ∃ artifact native line document artifact' prerequisite,
      render graph = .ok artifact ∧ artifact.native = some native ∧ line ∈ native.requests ∧
      Json.fromSlice (asBytes (String.ofList line)) = some document ∧
      document.get "body" = some (Json.normalize (networkBody network.identity create)) ∧
      render graph' = .ok artifact' ∧ prerequisite ∈ artifact'.networkPrerequisites ∧
      prerequisite.reference = external.reference ∧
      ∀ fromSlice daemon ids limits capture inventory id,
        acquire fromSlice daemon (.networkIds ids) limits = .ok capture →
        decodeCapture fromSlice capture = .ok inventory → id ∈ ids →
        (∀ exchange ∈ capture.exchanges, exchange.request = .inspectNetwork id →
          ∀ reported, fromSlice exchange.body = some reported →
            Reports (Json.normalize (networkBody network.identity create)) reported) →
        (prerequisite.assess inventory inventory.observationId id = .ok () ↔
          external.identity.bytes = network.identity.bytes ∧ driver = .bridge ∧
            ∀ flag ∈ expected, flag = create.internal) := by
  obtain ⟨artifact, native, line, document, hrendered, hnative, hline, hdocument, hsent⟩ :=
    exists_line h hnetwork hsource
  obtain ⟨artifact', hrendered', hprerequisite⟩ := exists_prerequisite h' hexternal hexpected
  refine ⟨artifact, native, line, document, artifact', _, hrendered, hnative, hline, hdocument,
    hsent, hrendered', hprerequisite, rfl, ?_⟩
  intro fromSlice daemon ids limits capture inventory id hacquire hdecode hid hreports
  obtain ⟨exchange, hexchange, hrequest, reported, hbody, hassess⟩ :=
    assess_inspected hacquire hdecode hid
  rw [hassess, satisfied_iff (hreports exchange hexchange hrequest reported hbody)]
  intro hempty
  have hchecked := external.identity.checked
  rw [show external.identity.bytes = [] from hempty] at hchecked
  cases hchecked

/-- An internal network of one plan, and the same network as another plan expects it. -/
def sharedCreate : TargetIntent :=
  ⟨[.network ⟨⟨1⟩, ⟨asBytes "web", validIdentity_web⟩, .declared,
    .create { NetworkCreate.bridge with internal := true }⟩], by decide +kernel⟩

def sharedUse : TargetIntent :=
  ⟨[.network ⟨⟨7⟩, ⟨asBytes "web", validIdentity_web⟩, .declared,
    .external .bridge (some true)⟩], by decide +kernel⟩

theorem handover_web :
    ∃ graph graph' artifact prerequisite capture inventory,
      OperationGraph.new ⟨id, fun _ => .refl _⟩ sharedCreate anyCapability
          (sharedCreate.resources.map planNode) = .ok graph ∧
        OperationGraph.new ⟨id, fun _ => .refl _⟩ sharedUse anyCapability
          (sharedUse.resources.map planNode) = .ok graph' ∧
        render graph' = .ok artifact ∧ prerequisite ∈ artifact.networkPrerequisites ∧
        acquire Json.fromSlice (.fixed ⟨1⟩ networkStream) (.networkIds [networkId]) wideLimits =
          .ok capture ∧
        decodeCapture Json.fromSlice capture = .ok inventory ∧
        prerequisite.assess inventory inventory.observationId networkId = .ok () := by
  obtain ⟨graph, hgraph⟩ := exists_of_isOk (show (OperationGraph.new ⟨id, fun _ => .refl _⟩
    sharedCreate anyCapability (sharedCreate.resources.map planNode)).isOk = true by
      decide +kernel)
  obtain ⟨graph', hgraph'⟩ := exists_of_isOk (show (OperationGraph.new ⟨id, fun _ => .refl _⟩
    sharedUse anyCapability (sharedUse.resources.map planNode)).isOk = true by decide +kernel)
  obtain ⟨inventory, hrun⟩ := exists_of_isOk (show (do
      let capture ← acquire Json.fromSlice (.fixed ⟨1⟩ networkStream) (.networkIds [networkId])
        wideLimits
      ensure (∀ exchange ∈ capture.exchanges, ∀ reported ∈ Json.fromSlice exchange.body,
        exchange.request = ReadRequest.inspectNetwork networkId →
          Reports (Json.normalize (networkBody ⟨asBytes "web", validIdentity_web⟩
            { NetworkCreate.bridge with internal := true })) reported) AcquisitionError.shape
      (decodeCapture Json.fromSlice capture).mapError fun _ => AcquisitionError.shape).isOk = true
        by decide +kernel)
  obtain ⟨capture, hacquire, hrun⟩ := bind_eq_ok_iff.mp hrun
  obtain ⟨_, hreports, hrun⟩ := bind_eq_ok_iff.mp hrun
  rw [ensure_eq_ok_iff] at hreports
  cases hdecode : decodeCapture Json.fromSlice capture with
  | error => simp [hdecode, Except.mapError] at hrun
  | ok found =>
      obtain ⟨-, -, -, -, artifact, prerequisite, -, -, -, -, -, hrendered, hmem, -, hmet⟩ :=
        handover hgraph hgraph' List.mem_cons_self rfl List.mem_cons_self rfl
      refine ⟨graph, graph', artifact, prerequisite, capture, found, hgraph, hgraph', hrendered,
        hmem, hacquire, hdecode, (hmet Json.fromSlice _ _ _ _ _ _ hacquire hdecode
          List.mem_cons_self fun exchange hexchange hrequest reported hreported =>
            hreports exchange hexchange reported hreported hrequest).mpr ?_⟩
      exact ⟨rfl, rfl, fun flag hflag => (Option.some_inj.mp hflag).symm⟩

end DockerLens.Render
