import DockerLens.Render.Permuted

namespace DockerLens.Render

open DockerLens.Fold
open DockerLens.Observation
open DockerLens.Target

/-- The obligations that a resource comes with. -/
def resourcePrerequisites (resource : TargetResource) : List Prerequisite :=
  nodePrerequisites [resource] (planNode resource)

theorem declared_of_resolved {resources : List TargetResource}
    (hnodup : (resources.map TargetResource.reference).Nodup)
    (h : ∀ resource ∈ resources, Resolved resources resource) : Declared resources := by
  intro container hcontainer need hneed
  have hresolves : (resourceOf resources need.1).map TargetResource.kind = some need.2 :=
    h _ hcontainer container rfl need hneed
  obtain ⟨found, hfound, hkind⟩ := Option.map_eq_some_iff.mp hresolves
  obtain ⟨hmem, hreference⟩ := (resourceOf_eq_some_iff hnodup).mp hfound
  refine ⟨List.mem_map.mpr ⟨found, hmem, hreference⟩, ?_⟩
  intro hself
  have hown := (resourceOf_eq_some_iff hnodup).mpr ⟨hcontainer, hself.symm⟩
  rw [hown] at hfound
  cases hfound
  exact required_kind need hneed hkind.symm

theorem nodePrerequisites_planNode {intent : TargetIntent} {resource : TargetResource}
    (hresource : resource ∈ intent.resources) :
    nodePrerequisites intent.resources (planNode resource) = resourcePrerequisites resource := by
  have hfound := (resourceOf_eq_some_iff intent.accepted.references).mpr ⟨hresource, rfl⟩
  have hown : resourceOf [resource] resource.reference = some resource := by
    simp [resourceOf]
  exact nodePrerequisites_congr (hfound.trans hown.symm)

theorem emitted_prerequisites {intent : TargetIntent} {order : List TargetResource}
    (horder : order.Perm intent.resources) :
    ((order.map planNode).flatMap (nodePrerequisites intent.resources)).Perm
      (intent.resources.flatMap resourcePrerequisites) := by
  refine ((horder.map planNode).flatMap_right _).trans ?_
  rw [List.flatMap_map]
  exact .of_eq (List.flatMap_congr fun resource hresource => nodePrerequisites_planNode hresource)

section Extended

variable {small large : TargetIntent} {others : List TargetResource}
  (hperm : large.resources.Perm (small.resources ++ others))
include hperm

theorem mem_large_iff {resource : TargetResource} :
    resource ∈ large.resources ↔ resource ∈ small.resources ∨ resource ∈ others := by
  rw [hperm.mem_iff, List.mem_append]

theorem resourceOf_large {reference : ResourceRef}
    (h : reference ∈ small.resources.map TargetResource.reference) :
    resourceOf small.resources reference = resourceOf large.resources reference := by
  obtain ⟨resource, hresource, rfl⟩ := List.mem_map.mp h
  have hsmall := (resourceOf_eq_some_iff small.accepted.references).mpr ⟨hresource, rfl⟩
  have hlarge := (resourceOf_eq_some_iff large.accepted.references).mpr
    ⟨(mem_large_iff hperm).mpr (.inl hresource), rfl⟩
  exact hsmall.trans hlarge.symm

theorem agree_large (hdeclared : Declared small.resources) {resource : TargetResource}
    (hresource : resource ∈ small.resources) :
    Agree small.resources large.resources resource := by
  rintro container rfl need hneed
  exact resourceOf_large hperm (hdeclared container hresource need hneed).1

theorem plan_large_iff {hash hash' : HashOrder ResourceRef} {capabilities : PlanningCapabilitySet}
    {graph : OperationGraph} (h : plan hash small capabilities = .ok graph) :
    (∃ graph', plan hash' large capabilities = .ok graph') ↔
      ∀ resource ∈ others, Resolved large.resources resource ∧ Admits capabilities resource := by
  obtain ⟨hdeclared, hresolved, hapi, hadmits, -⟩ := plan_eq_ok_iff.mp h
  constructor
  · rintro ⟨graph', hgraph'⟩ resource hresource
    obtain ⟨-, hresolved', -, hadmits', -⟩ := plan_eq_ok_iff.mp hgraph'
    have hmem := (mem_large_iff hperm).mpr (.inr hresource)
    exact ⟨hresolved' resource hmem, hadmits' resource hmem⟩
  · intro hothers
    have hall : ∀ resource ∈ large.resources, Resolved large.resources resource := by
      intro resource hresource
      rcases (mem_large_iff hperm).mp hresource with hsmall | hother
      · rintro container rfl need hneed
        rw [Resolves, ← agree_large hperm hdeclared hsmall container rfl need hneed]
        exact hresolved _ hsmall container rfl need hneed
      · exact (hothers resource hother).1
    refine ⟨_, plan_eq_ok_iff.mpr ⟨declared_of_resolved large.accepted.references hall, hall,
      hapi, fun resource hresource => ?_, rfl⟩⟩
    rcases (mem_large_iff hperm).mp hresource with hsmall | hother
    · exact hadmits resource hsmall
    · exact (hothers resource hother).2

theorem resourceTexts_large (hdeclared : Declared small.resources) (path : Chars)
    {resource : TargetResource} (hresource : resource ∈ small.resources) :
    resourceTexts path small.resources resource = resourceTexts path large.resources resource :=
  resourceTexts_congr path (agree_large hperm hdeclared hresource)

end Extended

/-- More resources are planned exactly when what they name resolves and their gates are open, and
then they add their own requests and obligations to those that were rendered before. -/
theorem render_extended {hash hash' : HashOrder ResourceRef} {small large : TargetIntent}
    {others : List TargetResource} (hperm : large.resources.Perm (small.resources ++ others))
    {capabilities : PlanningCapabilitySet} {graph : OperationGraph}
    (h : plan hash small capabilities = .ok graph) :
    ((∃ graph', plan hash' large capabilities = .ok graph') ↔
      ∀ resource ∈ others, Resolved large.resources resource ∧ Admits capabilities resource) ∧
    ∀ graph', plan hash' large capabilities = .ok graph' →
      ∃ artifact artifact' native native' order order' texts texts' added,
        render graph = .ok artifact ∧ artifact.native = some native ∧
        render graph' = .ok artifact' ∧ artifact'.native = some native' ∧
        List.Perm order small.resources ∧ List.Perm order' large.resources ∧
        order.mapM (resourceTexts (apiPath capabilities.context.api) small.resources) =
          .ok texts ∧
        order'.mapM (resourceTexts (apiPath capabilities.context.api) large.resources) =
          .ok texts' ∧
        native.requests = List.flatten texts ∧ native'.requests = List.flatten texts' ∧
        others.mapM (resourceTexts (apiPath capabilities.context.api) large.resources) =
          .ok added ∧
        texts'.Perm (texts ++ added) ∧
        artifact'.networkPrerequisites.Perm (artifact.networkPrerequisites ++
          (others.flatMap resourcePrerequisites).filterMap Prerequisite.network?) ∧
        artifact'.volumePrerequisites.Perm (artifact.volumePrerequisites ++
          (others.flatMap resourcePrerequisites).filterMap Prerequisite.volume?) ∧
        artifact'.bindSourcePrerequisites.Perm (artifact.bindSourcePrerequisites ++
          (others.flatMap resourcePrerequisites).filterMap Prerequisite.bindSource?) := by
  refine ⟨plan_large_iff hperm h, fun graph' h' => ?_⟩
  obtain ⟨hdeclared, -, -, -, rfl⟩ := plan_eq_ok_iff.mp h
  obtain ⟨-, -, -, -, rfl⟩ := plan_eq_ok_iff.mp h'
  obtain ⟨order, artifact, native, texts, horder, hrenders, htexts, hrequests⟩ :=
    exists_resourceTexts h
  obtain ⟨order', artifact', native', texts', horder', hrenders', htexts', hrequests'⟩ :=
    exists_resourceTexts h'
  -- The larger list, in the order of the smaller one with the others behind it.
  have hnodes : (order ++ others).Perm order' :=
    (horder.append_right _).trans (hperm.symm.trans horder'.symm)
  obtain ⟨found, hfound, hfoundPerm⟩ := List.perm_comp_forall₂ hnodes (mapM_eq_ok_iff.mp htexts')
  have hblocks := mapM_eq_ok_iff.mpr hfound
  rw [List.mapM_append, bind_eq_ok_iff] at hblocks
  obtain ⟨before, hbefore, hblocks⟩ := hblocks
  rw [bind_eq_ok_iff] at hblocks
  obtain ⟨added, hadded, hconcat⟩ := hblocks
  cases hconcat
  have hsame : order.mapM (resourceTexts (apiPath capabilities.context.api) large.resources) =
      .ok texts := by
    rw [← htexts]
    apply mapM_congr
    intro resource hresource
    exact (resourceTexts_large hperm hdeclared _ (horder.mem_iff.mp hresource)).symm
  obtain rfl := Except.ok.inj (hsame.symm.trans hbefore)
  have hobligations : ((order'.map planNode).flatMap (nodePrerequisites large.resources)).Perm
      ((order.map planNode).flatMap (nodePrerequisites small.resources) ++
        others.flatMap resourcePrerequisites) := by
    refine (emitted_prerequisites horder').trans ((hperm.flatMap_right _).trans ?_)
    rw [List.flatMap_append]
    exact (emitted_prerequisites horder).symm.append_right _
  have hlists := hrenders.lists
  have hlists' := hrenders'.lists
  simp only [OperationGraph.build] at hlists hlists'
  obtain ⟨hnetworks, hvolumes, hbindSources⟩ := hlists'.perm hobligations
  rw [List.filterMap_append, ← hlists.networks_eq] at hnetworks
  rw [List.filterMap_append, ← hlists.volumes_eq] at hvolumes
  rw [List.filterMap_append, ← hlists.bindSources_eq] at hbindSources
  exact ⟨artifact, artifact', native, native', order, order', texts, texts', added,
    hrenders.rendered, hrenders.provenance, hrenders'.rendered, hrenders'.provenance, horder,
    horder', htexts, htexts', hrequests, hrequests', hadded, hfoundPerm.symm, hnetworks, hvolumes,
    hbindSources⟩

/-- The web server without the container: its networks and its volume. -/
def webGround : TargetIntent := ⟨webIntent.resources.take 3, by decide +kernel⟩

theorem render_extended_web :
    ∃ graph graph' artifact artifact' native native' texts texts' added,
      plan ⟨id, fun _ => .refl _⟩ webGround anyCapability = .ok graph ∧
        plan ⟨id, fun _ => .refl _⟩ webIntent anyCapability = .ok graph' ∧
        render graph = .ok artifact ∧ artifact.native = some native ∧
        render graph' = .ok artifact' ∧ artifact'.native = some native' ∧
        native.requests = List.flatten texts ∧ native'.requests = List.flatten texts' ∧
        (webIntent.resources.drop 3).mapM
          (resourceTexts (apiPath anyCapability.context.api) webIntent.resources) = .ok added ∧
        texts'.Perm (texts ++ added) ∧ texts.length = 3 ∧ added.length = 1 ∧
        artifact'.bindSourcePrerequisites.Perm (artifact.bindSourcePrerequisites ++
          ((webIntent.resources.drop 3).flatMap resourcePrerequisites).filterMap
            Prerequisite.bindSource?) := by
  obtain ⟨graph, hgraph⟩ := exists_of_isOk (show
    (plan ⟨id, fun _ => .refl _⟩ webGround anyCapability).isOk = true by decide +kernel)
  obtain ⟨graph', hgraph'⟩ := exists_of_isOk (show
    (plan ⟨id, fun _ => .refl _⟩ webIntent anyCapability).isOk = true by decide +kernel)
  have hperm : webIntent.resources.Perm (webGround.resources ++ webIntent.resources.drop 3) :=
    .of_eq (List.take_append_drop 3 _).symm
  obtain ⟨-, hall⟩ := @render_extended ⟨id, fun _ => .refl _⟩ ⟨id, fun _ => .refl _⟩ webGround
    webIntent _ hperm anyCapability graph hgraph
  obtain ⟨artifact, artifact', native, native', order, -, texts, texts', added, hrendered, hnative,
    hrendered', hnative', horder, -, htexts, -, hrequests, hrequests', hadded, hblocks, -, -,
    hbindSources⟩ := hall graph' hgraph'
  have hlength : texts.length = 3 := by
    rw [← (mapM_eq_ok_iff.mp htexts).length_eq, horder.length_eq]
    rfl
  exact ⟨graph, graph', artifact, artifact', native, native', texts, texts', added, hgraph,
    hgraph', hrendered, hnative, hrendered', hnative', hrequests, hrequests', hadded, hblocks,
    hlength, (mapM_eq_ok_iff.mp hadded).length_eq.symm, hbindSources⟩

end DockerLens.Render
