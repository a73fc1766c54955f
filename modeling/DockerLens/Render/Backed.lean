import DockerLens.Decoder.Run
import DockerLens.Render.Admitted
import DockerLens.Version.Validated

namespace DockerLens.Render

open DockerLens.Text
open DockerLens.Json
open DockerLens.Fold
open DockerLens.Observation
open DockerLens.Version
open DockerLens.Evidence
open DockerLens.Decoder
open DockerLens.Target

/-- What the planner asks of validated facts. -/
def observedPlanning (validated : ValidatedCapabilities) : PlanningCapabilitySet :=
  ⟨validated.supports, .observed validated.scope⟩

/-- A claim that a native conformance run on the daemon of the scope stands behind. -/
def backed (facts : DaemonFacts) (scope : CapabilityScope) (capability : Capability) : Bool :=
  decide (⟨capability, .available, .nativeConformance, some scope⟩ ∈ facts.capabilities)

theorem supports_eq_backed {facts : DaemonFacts} {validated : ValidatedCapabilities}
    (h : ValidatedCapabilities.new facts = .ok validated) :
    (observedPlanning validated).supports = backed facts validated.scope := by
  funext capability
  rw [Bool.eq_iff_iff, backed, decide_eq_true_iff]
  exact ValidatedCapabilities.supports_iff h

theorem exists_require (mode : DaemonMode) (resource : TargetResource) :
    ∃ field capability, Gate.require field capability ∈ gates mode resource := by
  cases resource with
  | network network =>
      cases hsource : network.source with
      | create create =>
          exact ⟨.resource, .bridgeNetwork, by simp [gates, networkGates, hsource]⟩
      | external driver expected =>
          exact ⟨.networkExternalReference, .networkExternalReference, by
            simp [gates, networkGates, hsource]⟩
  | volume reference identity labels =>
      exact ⟨.resource, .namedVolume, by simp [gates]⟩
  | externalVolume reference identity =>
      exact ⟨.volumeExternalReference, .volumeExternalReference, by simp [gates]⟩
  | container container =>
      exact ⟨.resource, .standaloneContainer, by simp [gates, containerGates]⟩

theorem resources_eq_nil {hash : HashOrder ResourceRef} {intent : TargetIntent}
    {capabilities : PlanningCapabilitySet} {nodes : List OperationNode} {graph : OperationGraph}
    (h : OperationGraph.new hash intent capabilities nodes = .ok graph)
    (hnone : ∀ capability, capabilities.supports capability = false) : intent.resources = [] := by
  rw [List.eq_nil_iff_forall_not_mem]
  intro resource hresource
  obtain ⟨hplanned, -⟩ := OperationGraph.new_eq_ok_iff.mp h
  obtain ⟨field, capability, hgate⟩ := exists_require capabilities.context.mode resource
  have hopen := checkGates_eq_ok_iff.mp (hplanned.gated resource hresource) _ hgate
  rw [Gate.Opens, hnone] at hopen
  cases hopen

/-- A plan for an observed daemon: it is for exactly that daemon, a native conformance run on it
stands behind everything that is rendered, the same claims plan nothing for any other daemon, and
decoding a capture makes no claims. -/
theorem observed_backed {hash : HashOrder ResourceRef} {facts : DaemonFacts}
    {validated : ValidatedCapabilities} (h : ValidatedCapabilities.new facts = .ok validated)
    {intent : TargetIntent} {nodes : List OperationNode} {graph : OperationGraph}
    (hgraph : OperationGraph.new hash intent (observedPlanning validated) nodes = .ok graph) :
    Validated facts validated.scope ∧ graph.context = .observed validated.scope ∧
      (∃ artifact native, render graph = .ok artifact ∧
        ArtifactAdmitted (backed facts validated.scope) validated.scope.apiVersion artifact
          native) ∧
      (∀ hash other elsewhere intent nodes graph, ValidatedCapabilities.new other = .ok elsewhere →
        (∀ fact ∈ other.capabilities, fact ∈ facts.capabilities) →
        elsewhere.scope ≠ validated.scope →
        OperationGraph.new hash intent (observedPlanning elsewhere) nodes = .ok graph →
        intent.resources = []) ∧
      ∀ fromSlice capture inventory, decodeCapture fromSlice capture = .ok inventory →
        facts = inventory.version.daemon → intent.resources = [] := by
  obtain ⟨hfacts, hvalidated⟩ := ValidatedCapabilities.new_eq_ok_iff.mp h
  refine ⟨hvalidated, ?_, ?_, ?_, ?_⟩
  · obtain ⟨-, rfl⟩ := OperationGraph.new_eq_ok_iff.mp hgraph
    rfl
  · obtain ⟨artifact, native, hrendered, hall⟩ := exists_admitted hgraph
    obtain ⟨-, rfl⟩ := OperationGraph.new_eq_ok_iff.mp hgraph
    exact ⟨artifact, native, hrendered, supports_eq_backed h ▸ hall⟩
  · intro hash other elsewhere intent nodes graph helsewhere hclaims hscope hplanned
    exact resources_eq_nil hplanned
      (ValidatedCapabilities.supports_eq_false h helsewhere hclaims hscope)
  · intro fromSlice capture inventory hdecode hdaemon
    obtain ⟨decoding, -, -, -, rfl⟩ := decodeCapture_eq_ok hdecode
    refine resources_eq_nil hgraph fun capability => ?_
    rw [supports_eq_backed h, hdaemon]
    rfl

theorem release_nonempty : "29.1.0" ≠ "" := by decide

/-- Facts with a native conformance run for two capabilities, a refusal of a third one and nothing
known about a fourth one. -/
def bridgeFacts : DaemonFacts :=
  let scope : CapabilityScope := ⟨⟨1⟩, ⟨"29.1.0", release_nonempty⟩,
    ⟨1, 52, Nat.one_pos, ApiVersion.major_one_lt, ApiVersion.minor_52_lt⟩, .rootful⟩
  { observationId := scope.observationId
    release := some scope.release
    apiVersion := some scope.apiVersion
    minimumApiVersion := none
    mode := scope.mode
    capabilities :=
      [⟨.bridgeNetwork, .available, .nativeConformance, some scope⟩,
        ⟨.standaloneContainer, .available, .nativeConformance, some scope⟩,
        ⟨.hostNetwork, .unavailable, .daemonResponse, some scope⟩,
        ⟨.namedVolume, .unknown, .unknown, none⟩] }

/-- Another observation, which the claim without a scope goes with as well. -/
def elsewhereFacts : DaemonFacts :=
  { bridgeFacts with
    observationId := ⟨2⟩
    capabilities := [⟨.namedVolume, .unknown, .unknown, none⟩] }

theorem checkResources_front : checkResources
    (attachedResources ⟨asBytes "front", validIdentity_front⟩) .standalone = .ok () := by
  decide +kernel

def frontIntent : TargetIntent :=
  ⟨attachedResources ⟨asBytes "front", validIdentity_front⟩, checkResources_front⟩

theorem observed_backed_bridge :
    ∃ validated elsewhere graph artifact native,
      ValidatedCapabilities.new bridgeFacts = .ok validated ∧
        ValidatedCapabilities.new elsewhereFacts = .ok elsewhere ∧
        OperationGraph.new ⟨id, fun _ => .refl _⟩ frontIntent (observedPlanning validated)
          (frontIntent.resources.map planNode) = .ok graph ∧
        graph.context = .observed validated.scope ∧ render graph = .ok artifact ∧
        ArtifactAdmitted (backed bridgeFacts validated.scope) validated.scope.apiVersion artifact
          native ∧
        (∀ hash nodes graph, OperationGraph.new hash frontIntent (observedPlanning elsewhere)
          nodes ≠ .ok graph) ∧
        ∀ capture inventory, decodeCapture Json.fromSlice capture = .ok inventory →
          bridgeFacts ≠ inventory.version.daemon := by
  obtain ⟨graph, hrun⟩ := exists_of_isOk (show (do
      let validated ← (ValidatedCapabilities.new bridgeFacts).mapError fun _ =>
        PlanningError.invalidDependency
      OperationGraph.new ⟨id, fun _ => .refl _⟩ frontIntent (observedPlanning validated)
        (frontIntent.resources.map planNode)).isOk = true by decide +kernel)
  obtain ⟨elsewhere, helsewhere⟩ := exists_of_isOk (show
    (ValidatedCapabilities.new elsewhereFacts).isOk = true by decide +kernel)
  obtain ⟨validated, hmapped, hgraph⟩ := bind_eq_ok_iff.mp hrun
  cases hvalidated : ValidatedCapabilities.new bridgeFacts with
  | error error => simp [hvalidated, Except.mapError] at hmapped
  | ok found =>
      rw [hvalidated] at hmapped
      cases hmapped
      have hne : frontIntent.resources ≠ [] := List.cons_ne_nil _ _
      obtain ⟨hfacts, hcontext, ⟨artifact, native, hrendered, hall⟩, hother, hdecoded⟩ :=
        observed_backed hvalidated hgraph
      refine ⟨validated, elsewhere, graph, artifact, native, rfl, helsewhere, hgraph, hcontext,
        hrendered, hall, ?_, ?_⟩
      · intro hash nodes planned hplanned
        refine hne (hother hash _ elsewhere _ nodes planned helsewhere (by decide) ?_ hplanned)
        -- the two scopes are of different observations
        intro hscope
        have hsecond := (ValidatedCapabilities.new_eq_ok_iff.mp helsewhere).2.observationId
        rw [hscope, ← hfacts.observationId] at hsecond
        exact absurd hsecond (by decide)
      · intro capture inventory hdecode hdaemon
        exact hne (hdecoded _ capture inventory hdecode hdaemon)

end DockerLens.Render
