import DockerLens.Json.Reading
import DockerLens.Render.Unique
import DockerLens.Version.Admission

namespace DockerLens.Render

open DockerLens.Text
open DockerLens.Json
open DockerLens.Fold
open DockerLens.Observation
open DockerLens.Version
open DockerLens.Target

/-- What the planner asks of a resolved target. -/
def planning (record : TargetCapabilityRecord) : PlanningCapabilitySet :=
  ⟨record.supports, .target record.profile⟩

/-- The user namespace mode that a request states. -/
def requestUsernsMode (document : Value) : Option Value := do
  let body ← document.get "body"
  let host ← body.get "HostConfig"
  host.get "UsernsMode"

/-- What an admitted record supports, and on what evidence. -/
structure Evidenced (record : TargetCapabilityRecord) : Prop where
  nodup : record.admittedShapes.Nodup
  exact : ∀ shape, shape ∈ record.admittedShapes ↔
    ∃ capability, record.supports capability = true ∧ ∃ required,
      NativeCapabilityShape.requiredFor capability = some required ∧ shape ∈ required
  unsupported : ∀ capability, NativeCapabilityShape.requiredFor capability = none →
    record.supports capability = false
  hostNetwork : record.supports .hostNetwork = false
  userNamespace : record.supports .userNamespace = false

theorem evidenced_of_admitted {record : TargetCapabilityRecord} (h : Admitted record) :
    Evidenced record where
  nodup := h.shapes
  exact shape := by
    rw [h.mem_shapes_iff, Requires]
    simp only [Admitted.mem_available_iff]
  unsupported _ := h.supports_eq_false
  hostNetwork := h.supports_eq_false rfl
  userNamespace := h.supports_eq_false rfl

theorem usernsMode_of_planned {intent : TargetIntent} {capabilities : PlanningCapabilitySet}
    {nodes : List OperationNode} (h : Planned intent capabilities nodes)
    (hunsupported : capabilities.supports .userNamespace = false) {container : ContainerIntent}
    (hcontainer : .container container ∈ intent.resources) :
    container.settings.usernsMode = none := by
  by_contra hmode
  have hsome : container.settings.usernsMode.isSome = true := Option.isSome_iff_ne_none.mpr hmode
  have hgate : Gate.require .userNamespace .userNamespace ∈
      gates capabilities.context.mode (.container container) := by
    have hlast : Gate.require .userNamespace .userNamespace ∈
        gateIf container.settings.usernsMode.isSome (.require .userNamespace .userNamespace) := by
      rw [hsome, gateIf, if_pos rfl]
      exact List.mem_cons_self
    unfold gates containerGates settingsGates
    exact List.mem_append_right _ (List.mem_append_right _ hlast)
  have hpassed := forM_eq_ok_iff.mp (h.gated _ hcontainer) _ hgate
  rw [Target.pass, ensure_eq_ok_iff, hunsupported] at hpassed
  cases hpassed

theorem usernsMode_of_body {resources : List TargetResource} {body : Value}
    (h : RequestBody resources body)
    (hnone : ∀ container, .container container ∈ resources →
      container.settings.usernsMode = none) :
    ((Json.normalize body).get "HostConfig").bind (·.get "UsernsMode") = none := by
  cases h with
  | @network network create h source =>
      have hkeys : ((("Name", some (stringValue network.identity.bytes)) ::
          ("Driver", some (.string "bridge")) :: createFields create).map Prod.fst).Nodup :=
        show ["Name", "Driver", "Internal", "EnableIPv6", "IPAM", "Options", "Labels"].Nodup by
          decide
      rw [networkBody, get_normalize_fields hkeys]
      simp [createFields, List.lookup_cons]
  | volume h =>
      rw [volumeBody, get_normalize_fields]
      · simp [List.lookup_cons]
      · exact show ["Name", "Labels"].Nodup by decide
  | @container container h =>
      rw [get_hostConfig, Option.bind_some, get_normalize_fields keys_hostConfig]
      simp [hostConfigFields, List.lookup_cons, hnone container h]
  | connection container attachment =>
      rw [connectionBody, get_normalize_fields]
      · simp [List.lookup_cons]
      · exact show ["Container", "EndpointConfig"].Nodup by decide

theorem requestUsernsMode_of_line {hash : HashOrder ResourceRef} {intent : TargetIntent}
    {capabilities : PlanningCapabilitySet} {nodes : List OperationNode} {graph : OperationGraph}
    (h : OperationGraph.new hash intent capabilities nodes = .ok graph)
    (hunsupported : capabilities.supports .userNamespace = false)
    {order : List OperationNode} {artifact : RenderedArtifact} {native : NativeRenderState}
    (hrenders : Renders graph order artifact native) {line : Chars}
    (hline : line ∈ native.requests) :
    ∃ document, fromSlice (asBytes (String.ofList line)) = some document ∧
      requestUsernsMode document = none := by
  obtain ⟨hplanned, rfl⟩ := OperationGraph.new_eq_ok_iff.mp h
  obtain ⟨request, hrequest, hspelled⟩ := exists_of_forall₂_right hrenders.requests hline
  refine ⟨_, fromSlice_of_spells hspelled.spells, ?_⟩
  rw [requestUsernsMode, (get_requestValue request).2, Option.bind_eq_bind, Option.bind_some]
  exact usernsMode_of_body (requestBody_of_mem hrequest) fun container hcontainer =>
    usernsMode_of_planned hplanned hunsupported hcontainer

/-- What a catalog is good for: its profiles have different identities, exactly they are resolved,
either way to one record, whose shapes are all that its capabilities require, and no plan against
it renders a user namespace mode. -/
theorem catalog_resolves {records : List TargetCapabilityRecord}
    {catalog : TargetCapabilityCatalog}
    (h : TargetCapabilityCatalog.fromRecords records = .ok catalog) :
    catalog.profiles = records.map (·.profile) ∧
    (catalog.profiles.map (·.identity)).Nodup ∧
    (∀ profile, (∃ record, catalog.resolve profile = .ok record) ↔ profile ∈ catalog.profiles) ∧
    ∀ profile record, catalog.resolve profile = .ok record →
      record.profile = profile ∧ catalog.resolveIdentity profile.identity = .ok record ∧
      Evidenced record ∧
      ∀ hash intent nodes graph,
        OperationGraph.new hash intent (planning record) nodes = .ok graph →
        ∃ artifact native, render graph = .ok artifact ∧ artifact.native = some native ∧
          ∀ line ∈ native.requests, ∃ document,
            fromSlice (asBytes (String.ofList line)) = some document ∧
              requestUsernsMode document = none := by
  obtain ⟨hrecords, hadmitted, hnodup⟩ := TargetCapabilityCatalog.fromRecords_eq_ok_iff.mp h
  have hprofiles : catalog.profiles = records.map (·.profile) := by
    rw [TargetCapabilityCatalog.profiles, hrecords]
  refine ⟨hprofiles, ?_, ?_, ?_⟩
  · rw [hprofiles, List.map_map]
    exact hnodup
  · intro profile
    simp only [TargetCapabilityCatalog.resolve_eq_ok_iff h, hprofiles, List.mem_map]
  · intro profile record hresolve
    obtain ⟨hrecord, rfl⟩ := (TargetCapabilityCatalog.resolve_eq_ok_iff h).mp hresolve
    have hevidenced := evidenced_of_admitted (hadmitted record hrecord)
    refine ⟨rfl, (TargetCapabilityCatalog.resolveIdentity_eq_ok_iff h).mpr ⟨hrecord, rfl⟩,
      hevidenced, ?_⟩
    intro hash intent nodes graph hgraph
    obtain ⟨order, artifact, native, hrenders⟩ := exists_renders hgraph
    exact ⟨artifact, native, hrenders.rendered, hrenders.provenance, fun line hline =>
      requestUsernsMode_of_line hgraph hevidenced.userNamespace hrenders hline⟩

/-- A record of the upstream lane with two capabilities. -/
def upstreamRecord : TargetCapabilityRecord where
  profile :=
    { identity :=
        { build := .upstream
          release := ⟨"29.8.1", by decide⟩
          advertisedApiVersion :=
            ⟨1, 52, Nat.one_pos, ApiVersion.major_one_lt, ApiVersion.minor_52_lt⟩
          acquisitionApiVersion :=
            ⟨1, 52, Nat.one_pos, ApiVersion.major_one_lt, ApiVersion.minor_52_lt⟩
          renderingApiVersion :=
            ⟨1, 52, Nat.one_pos, ApiVersion.major_one_lt, ApiVersion.minor_52_lt⟩
          mode := .rootful }
      evidenceKey := ⟨List.replicate 32 1, by decide⟩ }
  evidence :=
    { lane := .upstreamRootful
      runUrl := runUrlPrefix ++ "1/attempts/1"
      candidateSha := "0123456789012345678901234567890123456789"
      artifactName := "dockerlens-native-upstream-rootful"
      manifestKey := ⟨List.replicate 32 2, by decide⟩
      recordKey := ⟨List.replicate 32 1, by decide⟩ }
  capabilities := [⟨.standaloneContainer, .available⟩, ⟨.readOnlyRootfs, .available⟩]
  admittedShapes := [.readOnlyRootfsFalse, .standaloneCreate, .readOnlyRootfsTrue]

theorem catalog_resolves_upstream :
    ∃ catalog record, TargetCapabilityCatalog.fromRecords [upstreamRecord] = .ok catalog ∧
      catalog.resolve upstreamRecord.profile = .ok record ∧ Evidenced record := by
  obtain ⟨catalog, hcatalog⟩ := exists_of_isOk
    (show (TargetCapabilityCatalog.fromRecords [upstreamRecord]).isOk = true by decide +kernel)
  obtain ⟨hprofiles, -, hresolved, hall⟩ := catalog_resolves hcatalog
  obtain ⟨record, hrecord⟩ := (hresolved upstreamRecord.profile).mpr
    (hprofiles ▸ List.mem_cons_self)
  exact ⟨catalog, record, hcatalog, hrecord, (hall _ record hrecord).2.2.1⟩

end DockerLens.Render
