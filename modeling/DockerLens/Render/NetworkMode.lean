import DockerLens.Decoder.Availability
import DockerLens.Decoder.Resources
import DockerLens.Json.Reading
import DockerLens.Render.Emitted

namespace DockerLens.Render

open DockerLens.Text
open DockerLens.Json
open DockerLens.Fold
open DockerLens.Observation
open DockerLens.Target

/-- The words that the decoder takes for a mode of its own instead of a name. -/
def reservedModes : List Bytes := [asBytes "default", asBytes "host", asBytes "none"]

theorem reaches_get {value child found : Value} {component : String} {path : List String}
    (hget : value.get component = some child) (hname : component ≠ "__docker_lens_redacted__")
    (hrest : Decoder.Reaches child path found) :
    Decoder.Reaches value (component :: path) found := by
  have hplain := Decoder.isRedacted_of_get hget hname
  obtain ⟨members, rfl, hlookup⟩ := Value.exists_object_of_get hget
  exact .member hplain hlookup hrest

theorem reaches_networkMode {resources : List TargetResource} {container : ContainerIntent}
    {attachment : NetworkAttachmentIntent} (h : container.networks.head? = some attachment) :
    Decoder.Reaches (Json.normalize (containerBody resources container))
      ["HostConfig", "NetworkMode"] (.string (decoded (attachedName resources attachment))) := by
  have hmode : (Json.normalize (fieldsObject (hostConfigFields resources container))).get
      "NetworkMode" = some (.string (decoded (attachedName resources attachment))) := by
    rw [get_normalize_fields keys_hostConfig]
    simp [hostConfigFields, List.lookup_cons, h, stringValue]
  exact reaches_get get_hostConfig (by decide) (reaches_get hmode (by decide) (.here _))

theorem container_not_prefix {bytes : Bytes} (h : validIdentity bytes = true) :
    "container:".toList.isPrefixOf (decoded bytes).toList = false := by
  by_contra hprefix
  rw [Bool.not_eq_false, List.isPrefixOf_iff_prefix] at hprefix
  have hcolon : (58 : UInt8) ∈ asBytes (decoded bytes) := by
    obtain ⟨rest, hrest⟩ := hprefix
    have htext : decoded bytes = "container:" ++ String.ofList rest := by
      apply String.toList_injective
      simp [← hrest]
    rw [htext, asBytes_append]
    exact List.mem_append_left _ (by decide)
  rw [asBytes_decoded (isUtf8_of_identity h)] at hcolon
  exact absurd (nameBytes_of_identity h 58 hcolon) (by decide)

theorem networkModeKind_identity_iff {bytes : Bytes} (h : validIdentity bytes = true) :
    (Decoder.networkModeKind (decoded bytes) = .named ∨
      Decoder.networkModeKind (decoded bytes) = .bridge) ↔ bytes ∉ reservedModes := by
  have htext : ∀ text, bytes = asBytes text ↔ decoded bytes = text := by
    intro text
    rw [← asBytes_inj, asBytes_decoded (isUtf8_of_identity h)]
  simp only [reservedModes, List.mem_cons, List.not_mem_nil, or_false, not_or, htext]
  rw [Decoder.networkModeKind, container_not_prefix h]
  split_ifs <;> simp_all

theorem presence_decoded {bytes : Bytes} (h : validIdentity bytes = true) :
    Decoder.presence (.string (decoded bytes)) = .present := by
  have hne : decoded bytes ≠ "" := by
    intro hempty
    have hnil : asBytes (decoded bytes) = [] := by
      rw [hempty]
      rfl
    rw [asBytes_decoded (isUtf8_of_identity h)] at hnil
    rw [hnil] at h
    cases h
  rw [Decoder.presence, if_neg hne]

theorem exists_attached {resources : List TargetResource} {attachment : NetworkAttachmentIntent}
    (h : (networkName resources attachment.network).isSome = true) :
    ∃ network, .network network ∈ resources ∧ network.reference = attachment.network ∧
      attachedName resources attachment = network.identity.bytes := by
  obtain ⟨network, hfound, hname⟩ := networkOf_eq h
  have hfind : resourceOf resources attachment.network = some (.network network) := by
    rw [networkOf] at hfound
    split at hfound
    · next found hresource =>
        cases hfound
        exact hresource
    · cases hfound
  have hreference : (TargetResource.network network).reference = attachment.network := by
    simpa using List.find?_some hfind
  exact ⟨network, List.mem_of_find?_eq_some hfind, hreference, hname⟩

/-- The network mode that the decoder reads in the body that creates a container. -/
def readMode (resources : List TargetResource) (container : ContainerIntent) :
    Option Decoder.NetworkModeObservation := do
  let body ← (renderContainer container resources).toOption
  let document ← fromSlice (asBytes (String.ofList body))
  let mode ← (Decoder.observed document ["HostConfig", "NetworkMode"] .networkMode .effective
    Decoder.networkMode).toOption
  mode.value

section Graph

variable {hash : HashOrder ResourceRef} {intent : TargetIntent}
  {capabilities : PlanningCapabilitySet} {nodes : List OperationNode} {graph : OperationGraph}
  {container : ContainerIntent} {attachment : NetworkAttachmentIntent}

/-- The mode is the identity of the network that the container attaches to first. -/
theorem readMode_eq (h : OperationGraph.new hash intent capabilities nodes = .ok graph)
    (hcontainer : .container container ∈ intent.resources)
    (hattachment : container.networks.head? = some attachment) :
    ∃ network, .network network ∈ intent.resources ∧ network.reference = attachment.network ∧
      readMode intent.resources container =
        some ⟨Decoder.networkModeKind (decoded network.identity.bytes),
          network.identity.bytes⟩ := by
  have hrenderable : Renderable intent.resources container :=
    renderable_of_planned (OperationGraph.new_eq_ok_iff.mp h).1 hcontainer
  obtain ⟨network, hnetwork, hreference, hname⟩ :=
    exists_attached (hrenderable.networks attachment (List.mem_of_head? hattachment))
  obtain ⟨body, hbody, hspells⟩ := spells_container hrenderable
  have hobserved : Decoder.observed (Json.normalize (containerBody intent.resources container))
      ["HostConfig", "NetworkMode"] .networkMode .effective Decoder.networkMode =
        .ok (.present ⟨Decoder.networkModeKind (decoded network.identity.bytes),
          network.identity.bytes⟩ .present .effective) := by
    have hreaches := @reaches_networkMode intent.resources container attachment hattachment
    rw [hname] at hreaches
    have hfound : Decoder.Found _ _ _ := ⟨hreaches, rfl, rfl⟩
    have hpresent := presence_decoded network.identity.checked
    rw [hfound.observed_eq, hpresent, Decoder.networkMode, Value.asStr_string, Decoder.shaped,
      Except.map, asBytes_decoded (isUtf8_of_identity network.identity.checked)]
    rfl
  refine ⟨network, hnetwork, hreference, ?_⟩
  rw [readMode, hbody, Except.toOption, Option.bind_eq_bind, Option.bind_some,
    fromSlice_of_spells hspells]
  simp [hobserved, Except.toOption]

/-- A rendered container joins the network that it attaches to first, and no mode of the
Engine's own, exactly when that network does not bear the name of such a mode. -/
theorem readMode_named_iff (h : OperationGraph.new hash intent capabilities nodes = .ok graph)
    (hcontainer : .container container ∈ intent.resources)
    (hattachment : container.networks.head? = some attachment) :
    ∃ network mode, .network network ∈ intent.resources ∧
      network.reference = attachment.network ∧
      readMode intent.resources container = some mode ∧
      mode.nativeValue = network.identity.bytes ∧
      ((mode.kind = .named ∨ mode.kind = .bridge) ↔ network.identity.bytes ∉ reservedModes) := by
  obtain ⟨network, hnetwork, hreference, hmode⟩ := readMode_eq h hcontainer hattachment
  exact ⟨network, _, hnetwork, hreference, hmode, rfl,
    networkModeKind_identity_iff network.identity.checked⟩

end Graph

/-- A container with one attachment. -/
def attachedContainer : ContainerIntent where
  reference := ⟨2⟩
  identity := ⟨asBytes "web", validIdentity_web⟩
  image := ⟨asBytes "nginx", validImage_nginx⟩
  environment := []
  ports := []
  mounts := []
  networks := [⟨⟨1⟩, [], none, none⟩]
  entrypoint := .inherit
  command := .inherit
  healthcheck := none
  restart := none
  settings := .default

/-- The container and the created bridge network that it is attached to. -/
def attachedResources (name : TargetIdentity) : List TargetResource :=
  [.network ⟨⟨1⟩, name, .declared, .create NetworkCreate.bridge⟩, .container attachedContainer]

theorem readMode_named_iff_front :
    ∃ mode, readMode (attachedResources ⟨asBytes "front", validIdentity_front⟩) attachedContainer =
      some mode ∧ (mode.kind = .named ∨ mode.kind = .bridge) := by
  obtain ⟨graph, hgraph⟩ := exists_of_isOk (show (OperationGraph.new ⟨id, fun _ => .refl _⟩
    ⟨attachedResources ⟨asBytes "front", validIdentity_front⟩, by decide +kernel⟩ anyCapability
    ((attachedResources ⟨asBytes "front", validIdentity_front⟩).map planNode)).isOk = true by
      decide +kernel)
  obtain ⟨network, mode, hnetwork, -, hmode, -, hkind⟩ :=
    readMode_named_iff hgraph (List.mem_cons_of_mem _ List.mem_cons_self) rfl
  have hname : network = ⟨⟨1⟩, ⟨asBytes "front", validIdentity_front⟩, .declared,
      .create NetworkCreate.bridge⟩ := by
    simpa [attachedResources] using hnetwork
  exact ⟨mode, hmode, hkind.mpr (by rw [hname]; decide)⟩

/-- A created bridge network may be called like the mode that joins the host's network. -/
theorem readMode_host :
    ¬∀ (hash : HashOrder ResourceRef) (intent : TargetIntent)
      (capabilities : PlanningCapabilitySet) (nodes : List OperationNode)
      (graph : OperationGraph), OperationGraph.new hash intent capabilities nodes = .ok graph →
      ∀ container, .container container ∈ intent.resources → container.networks ≠ [] →
      ∀ mode, readMode intent.resources container = some mode →
        mode.kind = .named ∨ mode.kind = .bridge := by
  intro h
  obtain ⟨graph, hgraph⟩ := exists_of_isOk (show (OperationGraph.new ⟨id, fun _ => .refl _⟩
    ⟨attachedResources ⟨asBytes "host", by decide +kernel⟩, by decide +kernel⟩ anyCapability
    ((attachedResources ⟨asBytes "host", by decide +kernel⟩).map planNode)).isOk = true by
      decide +kernel)
  obtain ⟨network, hnetwork, -, hmode⟩ :=
    readMode_eq hgraph (List.mem_cons_of_mem _ List.mem_cons_self) rfl
  have hname : network = ⟨⟨1⟩, ⟨asBytes "host", by decide +kernel⟩, .declared,
      .create NetworkCreate.bridge⟩ := by
    simpa [attachedResources] using hnetwork
  have hkind := h _ _ _ _ graph hgraph attachedContainer
    (List.mem_cons_of_mem _ List.mem_cons_self) (by simp [attachedContainer]) _ hmode
  rw [hname] at hkind
  simp only [decoded_asBytes] at hkind
  exact absurd hkind (by decide)

end DockerLens.Render
