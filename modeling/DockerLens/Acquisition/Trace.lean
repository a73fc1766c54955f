import DockerLens.Acquisition.Exchange

namespace DockerLens.Acquisition

open DockerLens.Text
open DockerLens.Json
open DockerLens.Observation
open DockerLens.Version
open DockerLens.Evidence
open DockerLens.Fold

/-- One completed inspection of an acquisition. -/
structure Inspection where
  kind : RootKind
  id : NativeId
  byName : Bool
  reference : ResourceRef
  body : Bytes
  deriving DecidableEq

namespace Inspection

def request (inspection : Inspection) : ReadRequest :=
  match inspection.kind with
  | .container => .inspectContainer inspection.id
  | .network => .inspectNetwork inspection.id
  | .volume => .inspectVolume inspection.id

def exchange (api : ApiVersion) (inspection : Inspection) : CapturedExchange where
  request := inspection.request
  resource := some inspection.reference
  apiVersion := some api
  status := okStatus
  body := inspection.body

/-- The member that must repeat the requested id. -/
def identityKey (inspection : Inspection) : String :=
  match inspection.kind with
  | .container => "Id"
  | .network => if inspection.byName then "Name" else "Id"
  | .volume => "Name"

/-- The root that an inspected resource is under a selector. -/
def rootOf (selector : Selector) : RootKind → Option (RootKind × SelectionReason)
  | .container => some (.container, reason selector)
  | .network => networkRoot selector
  | .volume => volumeRoot selector

/-- The selected root that an inspection belongs to, if it is one. -/
def root (selector : Selector) (inspection : Inspection) : Option SelectedRoot :=
  (rootOf selector inspection.kind).map fun (kind, reason) =>
    ⟨inspection.reference, kind, reason⟩

@[simp] theorem request_inspected (inspection : Inspection) :
    inspection.request.inspected = some (inspection.kind, inspection.id) := by
  unfold request
  split <;> simp_all [ReadRequest.inspected]

end Inspection

/-- What a run of inspections adds to the shared state. -/
structure Inspects (api : ApiVersion) (selector : Selector) (before after : Progress)
    (found : List Inspection) : Prop where
  exchanges_eq : after.budget.exchanges =
    before.budget.exchanges ++ found.map (Inspection.exchange api)
  references_eq : found.map Inspection.reference =
    (List.range' before.nextReference found.length).map ResourceRef.mk
  next_eq : after.nextReference = before.nextReference + found.length
  roots_eq : after.selectedRoots =
    before.selectedRoots ++ found.filterMap (Inspection.root selector)
  requests_eq : after.budget.requests = before.budget.requests + found.length
  expansions_eq : after.budget.expansions = before.budget.expansions + found.length
  selectedResources_eq : after.budget.selectedResources = before.budget.selectedResources
  bytesRead_le : before.budget.bytesRead ≤ after.budget.bytesRead
  limits_eq : after.budget.limits = before.budget.limits
  failed_eq : after.budget.failed = before.budget.failed
  idle : before.budget.pending = none → after.budget.pending = none
  sound : before.budget.Sound → after.budget.Sound
  body_le : ∀ inspection ∈ found, inspection.body.length ≤ maxJsonBytes

namespace Inspects

variable {api : ApiVersion} {selector : Selector}

theorem refl (progress : Progress) : Inspects api selector progress progress [] where
  exchanges_eq := by simp
  references_eq := by simp
  next_eq := rfl
  roots_eq := by simp
  requests_eq := rfl
  expansions_eq := rfl
  selectedResources_eq := rfl
  bytesRead_le := Nat.le_refl _
  limits_eq := rfl
  failed_eq := rfl
  idle := id
  sound := id
  body_le := by simp

theorem trans {before middle after : Progress} {left right : List Inspection}
    (hleft : Inspects api selector before middle left)
    (hright : Inspects api selector middle after right) :
    Inspects api selector before after (left ++ right) where
  exchanges_eq := by
    rw [hright.exchanges_eq, hleft.exchanges_eq, List.map_append, List.append_assoc]
  references_eq := by
    rw [List.map_append, hleft.references_eq, hright.references_eq, hleft.next_eq,
      List.length_append, ← List.range'_append_1, List.map_append]
  next_eq := by
    rw [hright.next_eq, hleft.next_eq, List.length_append, Nat.add_assoc]
  roots_eq := by
    rw [hright.roots_eq, hleft.roots_eq, List.filterMap_append, List.append_assoc]
  requests_eq := by
    rw [hright.requests_eq, hleft.requests_eq, List.length_append, Nat.add_assoc]
  expansions_eq := by
    rw [hright.expansions_eq, hleft.expansions_eq, List.length_append, Nat.add_assoc]
  selectedResources_eq := hright.selectedResources_eq.trans hleft.selectedResources_eq
  bytesRead_le := Nat.le_trans hleft.bytesRead_le hright.bytesRead_le
  limits_eq := hright.limits_eq.trans hleft.limits_eq
  failed_eq := hright.failed_eq.trans hleft.failed_eq
  idle := fun h => hright.idle (hleft.idle h)
  sound := fun h => hright.sound (hleft.sound h)
  body_le := by
    intro inspection hmem
    rcases List.mem_append.mp hmem with h | h
    · exact hleft.body_le inspection h
    · exact hright.body_le inspection h

end Inspects

theorem inspect_eq_ok {daemon : Daemon} {api : ApiVersion} {selector : Selector}
    {kind : RootKind} {id : NativeId} {byName : Bool} {request : ReadRequest}
    {root : Option (RootKind × SelectionReason)} {progress after : Progress}
    {reference : ResourceRef} {body : Bytes}
    (hrequest : (⟨kind, id, byName, reference, body⟩ : Inspection).request = request)
    (hroot : (⟨kind, id, byName, reference, body⟩ : Inspection).root selector =
      root.map fun (kind, reason) => ⟨reference, kind, reason⟩)
    (hsound : progress.budget.Sound)
    (h : inspect daemon api request root progress = .ok (reference, body, after)) :
    Inspects api selector progress after [⟨kind, id, byName, reference, body⟩] := by
  have hinspected : request.inspected.isSome = true := by simp [← hrequest]
  unfold inspect at h
  cases hnext : checkedAdd progress.nextReference 1 with
  | none => simp [hnext] at h
  | some nextReference =>
      obtain ⟨rfl, -⟩ := checkedAdd_eq_some_iff.mp hnext
      simp only [hnext, bind_eq_ok_iff, Prod.exists, Except.ok.injEq, Prod.mk.injEq] at h
      obtain ⟨body, budget, hexchange, rfl, rfl, rfl⟩ := h
      obtain ⟨rfl, hafter, hle, hreferenced, -⟩ := exchange_eq_ok hsound hexchange
      refine ⟨?_, ?_, rfl, ?_, ?_, ?_, ?_, ?_, ?_, ?_, ?_, fun _ => hafter, ?_⟩
      · simp [Inspection.exchange, hrequest]
      · simp
      · simp only [List.filterMap_cons, hroot, List.filterMap_nil]
        cases root <;> simp [pushRoot]
      · simp
      · simp [completed_expansions hreferenced, Budget.cost, hinspected]
      · simp
      · simp
      · simp
      · simp
      · simp
      · simpa using hle

section
variable {fromSlice : Bytes → Option Value} {daemon : Daemon} {api : ApiVersion}
  {selector : Selector}

/-- The identity check that an inspection passed. -/
def Identified (fromSlice : Bytes → Option Value) (inspection : Inspection) : Prop :=
  inspectIdentity fromSlice inspection.body inspection.identityKey inspection.id = .ok ()

/-- The related resources of a body, none when it has no readable ones. -/
def relatedOf (fromSlice : Bytes → Option Value) (body : Bytes) : RelatedResources :=
  match relatedIds fromSlice body with
  | .ok found => found
  | .error _ => ⟨[], []⟩

/-- What every step of the container loop preserves. -/
structure Gathered (fromSlice : Bytes → Option Value) (api : ApiVersion)
    (selector : Selector) (before : Gathering) (ids : List NativeId) (after : Gathering)
    (found : List Inspection) : Prop where
  inspects : Inspects api selector before.progress after.progress found
  ids_eq : found.map Inspection.id = ids
  kind_eq : ∀ inspection ∈ found, inspection.kind = .container
  identified : ∀ inspection ∈ found, Identified fromSlice inspection
  readable : ∀ inspection ∈ found,
    relatedIds fromSlice inspection.body = .ok (relatedOf fromSlice inspection.body)
  related_eq : after.related =
    found.foldl (fun related inspection => related.merge (relatedOf fromSlice inspection.body))
      before.related

theorem inspectContainer_eq_ok {before after : Gathering} {id : NativeId}
    (hsound : before.progress.budget.Sound)
    (h : inspectContainer fromSlice daemon api selector before id = .ok after) :
    ∃ inspection, Gathered fromSlice api selector before [id] after [inspection] := by
  simp only [inspectContainer, bind_eq_ok_iff, Prod.exists, Except.ok.injEq] at h
  obtain ⟨reference, body, progress, hinspect, ⟨⟩, hidentity, found, hfound, ⟨⟩, -, rfl⟩ := h
  have hrelated : relatedOf fromSlice body = found := by simp [relatedOf, hfound]
  refine ⟨⟨.container, id, false, reference, body⟩,
    inspect_eq_ok rfl rfl hsound hinspect, rfl, by simp, ?_, ?_, ?_⟩
  · simpa [Identified, Inspection.identityKey] using hidentity
  · simpa [hrelated] using hfound
  · simp [hrelated]

theorem inspectContainers_eq_ok {before after : Gathering} {ids : List NativeId}
    (hsound : before.progress.budget.Sound)
    (h : ids.foldlM (inspectContainer fromSlice daemon api selector) before = .ok after) :
    ∃ found, Gathered fromSlice api selector before ids after found := by
  refine foldlM_induction
    (motive := fun ids after => ∃ found, Gathered fromSlice api selector before ids after found)
    ?_ ⟨[], Inspects.refl _, rfl, by simp, by simp, by simp, rfl⟩ h
  · rintro ids state id next ⟨found, hfound⟩ hstep
    obtain ⟨inspection, hnext⟩ := inspectContainer_eq_ok (hfound.inspects.sound hsound) hstep
    refine ⟨found ++ [inspection], hfound.inspects.trans hnext.inspects, ?_, ?_, ?_, ?_, ?_⟩
    · rw [List.map_append, hfound.ids_eq, hnext.ids_eq]
    · simpa [or_imp, forall_and] using
        ⟨hfound.kind_eq, by simpa using hnext.kind_eq⟩
    · simpa [or_imp, forall_and] using
        ⟨hfound.identified, by simpa using hnext.identified⟩
    · simpa [or_imp, forall_and] using
        ⟨hfound.readable, by simpa using hnext.readable⟩
    · rw [hnext.related_eq, hfound.related_eq, List.foldl_append]

/-- What every step of the network loop preserves. -/
structure NetworksInspected (fromSlice : Bytes → Option Value) (api : ApiVersion)
    (selector : Selector) (before : NetworkLoop) (entries : List (NativeId × Bool))
    (after : NetworkLoop) (found : List Inspection) : Prop where
  inspects : Inspects api selector before.progress after.progress found
  entries_eq : found.map (fun inspection => (inspection.id, inspection.byName)) = entries
  kind_eq : ∀ inspection ∈ found, inspection.kind = .network
  identified : ∀ inspection ∈ found, Identified fromSlice inspection
  fallbacks_eq : after.fallbacks =
    before.fallbacks ++ (found.filter Inspection.byName).map Inspection.reference
  natives : found.map (fun inspection => inspectedNetworkId fromSlice inspection.body) =
    (after.inspectedIds.drop before.inspectedIds.length).map .ok
  inspectedIds_nodup : before.inspectedIds.Nodup → after.inspectedIds.Nodup
  inspectedIds_prefix : before.inspectedIds <+: after.inspectedIds

theorem inspectNetwork_eq_ok {before after : NetworkLoop} {entry : NativeId × Bool}
    (hsound : before.progress.budget.Sound)
    (h : inspectNetwork fromSlice daemon api selector before entry = .ok after) :
    ∃ inspection, NetworksInspected fromSlice api selector before [entry] after [inspection] := by
  simp only [inspectNetwork, bind_eq_ok_iff, Prod.exists] at h
  obtain ⟨reference, body, progress, hinspect, ⟨⟩, hidentity, id, hid, hfresh⟩ := h
  split at hfresh
  · simp at hfresh
  · next hnew =>
      simp only [Except.ok.injEq] at hfresh
      subst hfresh
      refine ⟨⟨.network, entry.1, entry.2, reference, body⟩,
        inspect_eq_ok rfl rfl hsound hinspect, rfl, by simp, ?_, ?_, ?_,
        ?_, ?_⟩
      · simpa [Identified, Inspection.identityKey] using hidentity
      · cases entry.2 <;> simp
      · simp [hid]
      · intro hnodup
        simp only [List.nodup_append, List.nodup_cons, List.not_mem_nil, not_false_eq_true,
          List.nodup_nil, and_true, true_and]
        refine ⟨hnodup, ?_⟩
        rintro other hother _ hsingle rfl
        exact hnew (by simpa using (List.mem_singleton.mp hsingle) ▸ hother)
      · exact List.prefix_append _ _

theorem inspectNetworks_eq_ok {before after : NetworkLoop} {entries : List (NativeId × Bool)}
    (hsound : before.progress.budget.Sound)
    (h : entries.foldlM (inspectNetwork fromSlice daemon api selector) before = .ok after) :
    ∃ found, NetworksInspected fromSlice api selector before entries after found := by
  refine foldlM_induction
    (motive := fun entries after =>
      ∃ found, NetworksInspected fromSlice api selector before entries after found)
    ?_ ⟨[], Inspects.refl _, rfl, by simp, by simp, by simp, by simp, id, List.prefix_rfl⟩ h
  · rintro entries state entry next ⟨found, hfound⟩ hstep
    obtain ⟨inspection, hnext⟩ := inspectNetwork_eq_ok (hfound.inspects.sound hsound) hstep
    refine ⟨found ++ [inspection], hfound.inspects.trans hnext.inspects, ?_, ?_, ?_, ?_, ?_,
      fun h => hnext.inspectedIds_nodup (hfound.inspectedIds_nodup h),
      hfound.inspectedIds_prefix.trans hnext.inspectedIds_prefix⟩
    · rw [List.map_append, hfound.entries_eq, hnext.entries_eq]
    · simpa [or_imp, forall_and] using ⟨hfound.kind_eq, by simpa using hnext.kind_eq⟩
    · simpa [or_imp, forall_and] using
        ⟨hfound.identified, by simpa using hnext.identified⟩
    · rw [hnext.fallbacks_eq, hfound.fallbacks_eq, List.filter_append, List.map_append,
        List.append_assoc]
    · obtain ⟨seen, hseen⟩ := hfound.inspectedIds_prefix
      obtain ⟨more, hmore⟩ := hnext.inspectedIds_prefix
      have hnatives := hfound.natives
      have hnextNatives := hnext.natives
      rw [← hseen, List.drop_left] at hnatives
      rw [← hmore, List.drop_left] at hnextNatives
      rw [List.map_append, hnatives, hnextNatives, ← hmore, ← hseen, List.append_assoc,
        List.drop_left, List.map_append]

/-- What every step of the volume loop preserves. -/
structure VolumesInspected (fromSlice : Bytes → Option Value) (api : ApiVersion)
    (selector : Selector) (before : Progress) (names : List NativeId)
    (after : Progress) (found : List Inspection) : Prop where
  inspects : Inspects api selector before after found
  ids_eq : found.map Inspection.id = names
  kind_eq : ∀ inspection ∈ found, inspection.kind = .volume
  identified : ∀ inspection ∈ found, Identified fromSlice inspection

theorem inspectVolume_eq_ok {before after : Progress} {name : NativeId}
    (hsound : before.budget.Sound)
    (h : inspectVolume fromSlice daemon api selector before name = .ok after) :
    ∃ inspection, VolumesInspected fromSlice api selector before [name] after [inspection] := by
  simp only [inspectVolume, bind_eq_ok_iff, Prod.exists, Except.ok.injEq] at h
  obtain ⟨reference, body, progress, hinspect, ⟨⟩, hidentity, rfl⟩ := h
  refine ⟨⟨.volume, name, false, reference, body⟩,
    inspect_eq_ok rfl rfl hsound hinspect, rfl, by simp, ?_⟩
  simpa [Identified, Inspection.identityKey] using hidentity

theorem inspectVolumes_eq_ok {before after : Progress} {names : List NativeId}
    (hsound : before.budget.Sound)
    (h : names.foldlM (inspectVolume fromSlice daemon api selector) before = .ok after) :
    ∃ found, VolumesInspected fromSlice api selector before names after found := by
  refine foldlM_induction
    (motive := fun names after =>
      ∃ found, VolumesInspected fromSlice api selector before names after found)
    ?_ ⟨[], Inspects.refl _, rfl, by simp, by simp⟩ h
  · rintro names state name next ⟨found, hfound⟩ hstep
    obtain ⟨inspection, hnext⟩ := inspectVolume_eq_ok (hfound.inspects.sound hsound) hstep
    refine ⟨found ++ [inspection], hfound.inspects.trans hnext.inspects, ?_, ?_, ?_⟩
    · rw [List.map_append, hfound.ids_eq, hnext.ids_eq]
    · simpa [or_imp, forall_and] using ⟨hfound.kind_eq, by simpa using hnext.kind_eq⟩
    · simpa [or_imp, forall_and] using
        ⟨hfound.identified, by simpa using hnext.identified⟩

end

end DockerLens.Acquisition
