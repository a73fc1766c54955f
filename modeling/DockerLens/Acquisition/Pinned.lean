import DockerLens.Acquisition.Selected
import DockerLens.Acquisition.Tightness

namespace DockerLens.Acquisition

open DockerLens.Text
open DockerLens.Json
open DockerLens.Observation
open DockerLens.Version
open DockerLens.Evidence
open DockerLens.Fold

/-- The exchanges that are not lists of containers. -/
def unlisted (exchanges : List CapturedExchange) : List CapturedExchange :=
  exchanges.filter fun exchange => exchange.request ≠ .listContainers

theorem unlisted_append (left right : List CapturedExchange) :
    unlisted (left ++ right) = unlisted left ++ unlisted right :=
  List.filter_append ..

theorem unlisted_singleton {exchange : CapturedExchange}
    (h : exchange.request ≠ .listContainers) : unlisted [exchange] = [exchange] :=
  List.filter_cons_of_pos (by simpa using h)

theorem unlisted_eq_self {exchanges : List CapturedExchange}
    (h : ∀ exchange ∈ exchanges, exchange.request ≠ .listContainers) :
    unlisted exchanges = exchanges :=
  List.filter_eq_self.mpr (by simpa using h)

theorem length_unlisted_le (exchanges : List CapturedExchange) :
    (unlisted exchanges).length ≤ exchanges.length :=
  List.length_filter_le ..

theorem totalBytes_unlisted_le (exchanges : List CapturedExchange) :
    totalBytes (unlisted exchanges) ≤ totalBytes exchanges := by
  induction exchanges with
  | nil => exact Nat.le_refl _
  | cons exchange exchanges ih =>
      rw [unlisted, List.filter_cons]
      split
      · rw [totalBytes_cons, totalBytes_cons]
        exact Nat.add_le_add_left ih _
      · rw [totalBytes_cons]
        exact Nat.le_trans ih (Nat.le_add_left _ _)

/-- A root as it is when its selector names it by its id. -/
def exactRoot (root : SelectedRoot) : SelectedRoot := { root with reason := .exactId }

namespace Budget

/-- The same budget when no container was ever listed. -/
def unlisted (budget : Budget) : Budget :=
  { budget with
    requests := (Acquisition.unlisted budget.exchanges).length +
      if budget.pending.isSome then 1 else 0
    bytesRead := totalBytes (Acquisition.unlisted budget.exchanges)
    exchanges := Acquisition.unlisted budget.exchanges }

section
variable {budget : Budget}

@[simp] theorem unlisted_limits : budget.unlisted.limits = budget.limits := rfl

@[simp] theorem unlisted_expansions : budget.unlisted.expansions = budget.expansions := rfl

@[simp] theorem unlisted_selectedResources :
    budget.unlisted.selectedResources = budget.selectedResources := rfl

@[simp] theorem unlisted_pending : budget.unlisted.pending = budget.pending := rfl

@[simp] theorem unlisted_failed : budget.unlisted.failed = budget.failed := rfl

@[simp] theorem unlisted_exchanges :
    budget.unlisted.exchanges = Acquisition.unlisted budget.exchanges := rfl

theorem Accounted.unlisted_requests_le (h : budget.Accounted) :
    budget.unlisted.requests ≤ budget.requests := by
  rw [h.requests_eq]
  exact Nat.add_le_add_right (length_unlisted_le _) _

theorem Accounted.unlisted_bytesRead_le (h : budget.Accounted) :
    budget.unlisted.bytesRead ≤ budget.bytesRead := by
  rw [h.bytesRead_eq]
  exact totalBytes_unlisted_le _

theorem Accounted.unlisted (h : budget.Accounted) : budget.unlisted.Accounted where
  valid := h.valid
  requests_le := Nat.le_trans h.unlisted_requests_le h.requests_le
  selectedResources_le := h.selectedResources_le
  expansions_le := h.expansions_le
  bytesRead_le := Nat.le_trans h.unlisted_bytesRead_le h.bytesRead_le
  requests_eq := rfl
  bytesRead_eq := rfl
  body_le exchange hmem := h.body_le exchange (List.mem_filter.mp hmem).1

theorem Sound.unlisted (h : budget.Sound) : budget.unlisted.Sound := fun hfailed =>
  (h hfailed).unlisted

theorem unlisted_listed {api : Option ApiVersion} {body : Bytes} (h : budget.Accounted)
    (hidle : budget.pending = none)
    (hfresh : ∀ exchange ∈ budget.exchanges, exchange.request ≠ .listContainers) :
    (budget.completed .listContainers none api body).unlisted = budget := by
  have hkept : Acquisition.unlisted
      (budget.completed .listContainers none api body).exchanges = budget.exchanges := by
    rw [completed_exchanges, unlisted_append, unlisted_eq_self hfresh]
    simp [Acquisition.unlisted]
  have hrequests := h.requests_eq
  rw [hidle, Option.isSome_none, if_neg Bool.false_ne_true, Nat.add_zero] at hrequests
  rw [unlisted, hkept, ← h.bytesRead_eq, completed_pending, Option.isSome_none,
    if_neg Bool.false_ne_true, Nat.add_zero, ← hrequests]
  cases budget
  cases hidle
  rfl

theorem unlisted_completed {request : ReadRequest} {resource : Option ResourceRef}
    {api : Option ApiVersion} {body : Bytes} (hidle : budget.pending = none)
    (hrequest : request ≠ .listContainers) :
    (budget.completed request resource api body).unlisted =
      budget.unlisted.completed request resource api body := by
  have hkept : Acquisition.unlisted (budget.completed request resource api body).exchanges =
      Acquisition.unlisted budget.exchanges ++ [⟨request, resource, api, okStatus, body⟩] := by
    rw [completed_exchanges, unlisted_append, unlisted_singleton hrequest]
  have hregister : budget.unlisted.register request resource =
      { budget.register request resource with
        requests := budget.unlisted.requests
        bytesRead := budget.unlisted.bytesRead
        exchanges := Acquisition.unlisted budget.exchanges } := by
    cases resource <;> cases hinspected : request.inspected <;>
      simp [register, hinspected, unlisted]
  simp only [completed, responded, requested, hregister] at hkept ⊢
  rw [unlisted]
  simp only [hkept, totalBytes_append, totalBytes_cons, totalBytes_nil, List.length_append,
    Option.isSome_none, Bool.false_eq_true, if_false, Nat.add_zero]
  simp [unlisted, hidle]

end

end Budget

section
variable {id : ObservationId} {stream : String → Except AcquisitionError Wire}
  {fromSlice : Bytes → Option Value} {api : ApiVersion} {selector : Selector}
  {ids : List NativeId}

theorem Exchanged.unlisted {budget : Budget} {request : ReadRequest}
    {resource : Option ResourceRef} {api : Option ApiVersion} {body : Bytes} {path : String}
    {wire : Wire} (hsound : budget.Sound)
    (h : Exchanged (.fixed id stream) budget request resource api body path wire) :
    Exchanged (.fixed id stream) budget.unlisted request resource api body path wire := by
  have haccounted := hsound h.requestable.live.1
  have hallowance : (budget.requested request resource api).allowance ≤
      (budget.unlisted.requested request resource api).allowance := by
    have hbytes := haccounted.unlisted_bytesRead_le
    simp only [Budget.allowance, Budget.requested, Budget.register_limits,
      Budget.register_bytesRead, Budget.unlisted_limits]
    omega
  have hrequestable : budget.unlisted.Requestable 0 request resource api :=
    { live := h.requestable.live
      idle := h.requestable.idle
      referenced := h.requestable.referenced
      versioned := h.requestable.versioned
      consistent := h.requestable.consistent
      expansions_le := h.requestable.expansions_le
      requests_le := Nat.le_trans (Nat.succ_le_succ haccounted.unlisted_requests_le)
        h.requestable.requests_le }
  refine ⟨h.path_eq, hrequestable, h.connected, ?_, ?_⟩
  · obtain ⟨hle, hget⟩ := httpGet_of_ok h.received
    rw [hget, if_pos (Nat.le_trans hle (min_le_min_right _ hallowance))]
  · have hlive := h.respondable.live
    refine ⟨⟨by simpa [Budget.requested] using h.requestable.live.1, Nat.zero_le _⟩,
      Nat.zero_le _, rfl, rfl, Nat.le_trans h.respondable.body_le hallowance⟩

theorem exchange_unlisted {budget after : Budget} {request : ReadRequest}
    {resource : Option ResourceRef} {api : Option ApiVersion} {body : Bytes}
    (hsound : budget.Sound) (hrequest : request ≠ .listContainers)
    (h : exchange (.fixed id stream) budget request resource api = .ok (body, after)) :
    exchange (.fixed id stream) budget.unlisted request resource api =
      .ok (body, after.unlisted) := by
  obtain ⟨⟨path, wire, hexchanged⟩, rfl⟩ := (exchange_eq_ok_iff hsound).mp h
  rw [exchange_eq_ok_iff hsound.unlisted,
    Budget.unlisted_completed hexchanged.requestable.idle hrequest]
  exact ⟨⟨path, wire, hexchanged.unlisted hsound⟩, rfl⟩

def Progress.unlisted (progress : Progress) : Progress :=
  ⟨progress.budget.unlisted, progress.nextReference, progress.selectedRoots.map exactRoot⟩

def Gathering.unlisted (gathering : Gathering) : Gathering :=
  { gathering with progress := gathering.progress.unlisted }

def NetworkLoop.unlisted (loop : NetworkLoop) : NetworkLoop :=
  { loop with progress := loop.progress.unlisted }

theorem pushRoot_exact (roots : List SelectedRoot) (reference : ResourceRef)
    (root : Option (RootKind × SelectionReason)) :
    (pushRoot roots reference root).map exactRoot =
      pushRoot (roots.map exactRoot) reference (root.map fun entry => (entry.1, .exactId)) := by
  cases root <;> simp [pushRoot, exactRoot]

theorem inspect_unlisted {request : ReadRequest} {root : Option (RootKind × SelectionReason)}
    {progress after : Progress} {reference : ResourceRef} {body : Bytes}
    (hsound : progress.budget.Sound) (hrequest : request ≠ .listContainers)
    (h : inspect (.fixed id stream) api request root progress = .ok (reference, body, after)) :
    inspect (.fixed id stream) api request (root.map fun entry => (entry.1, .exactId))
      progress.unlisted = .ok (reference, body, after.unlisted) := by
  unfold inspect at h ⊢
  cases hnext : checkedAdd progress.nextReference 1 with
  | none => simp [hnext] at h
  | some nextReference =>
      simp only [hnext, bind_eq_ok_iff, Prod.exists, Except.ok.injEq, Prod.mk.injEq] at h
      obtain ⟨body, budget, hexchange, rfl, rfl, rfl⟩ := h
      simp only [Progress.unlisted, hnext, exchange_unlisted hsound hrequest hexchange, ok_bind,
        pushRoot_exact]

theorem inspectContainer_unlisted {gathering after : Gathering} {container : NativeId}
    (hsound : gathering.progress.budget.Sound)
    (h : inspectContainer fromSlice (.fixed id stream) api selector gathering container =
      .ok after) :
    inspectContainer fromSlice (.fixed id stream) api (.containerIds ids) gathering.unlisted
      container = .ok after.unlisted := by
  simp only [inspectContainer, bind_eq_ok_iff, Prod.exists, Except.ok.injEq] at h ⊢
  obtain ⟨reference, body, progress, hinspect, ⟨⟩, hidentity, found, hfound, ⟨⟩, hprojected,
    rfl⟩ := h
  exact ⟨reference, body, progress.unlisted, inspect_unlisted hsound (by simp) hinspect, (),
    hidentity, found, hfound, (), hprojected, rfl⟩

theorem inspectContainers_unlisted {gathering after : Gathering} {containers : List NativeId}
    (hsound : gathering.progress.budget.Sound)
    (h : containers.foldlM (inspectContainer fromSlice (.fixed id stream) api selector)
      gathering = .ok after) :
    containers.foldlM (inspectContainer fromSlice (.fixed id stream) api (.containerIds ids))
      gathering.unlisted = .ok after.unlisted := by
  refine foldlM_relabelled Gathering.unlisted (·.progress.budget.Sound) ?_
    (fun _ _ _ _ => inspectContainer_unlisted) hsound h
  intro state container next hstate hnext
  obtain ⟨_, hgathered⟩ := inspectContainer_eq_ok hstate hnext
  exact hgathered.inspects.sound hstate

theorem inspectNetwork_unlisted {loop after : NetworkLoop} {entry : NativeId × Bool}
    (hroot : networkRoot selector = none) (hsound : loop.progress.budget.Sound)
    (h : inspectNetwork fromSlice (.fixed id stream) api selector loop entry = .ok after) :
    inspectNetwork fromSlice (.fixed id stream) api (.containerIds ids) loop.unlisted entry =
      .ok after.unlisted := by
  simp only [inspectNetwork, bind_eq_ok_iff, Prod.exists] at h ⊢
  obtain ⟨reference, body, progress, hinspect, ⟨⟩, hidentity, native, hnative, hfresh⟩ := h
  rw [hroot] at hinspect
  split at hfresh
  · simp at hfresh
  next hnew =>
  rw [Except.ok.injEq] at hfresh
  subst hfresh
  exact ⟨reference, body, progress.unlisted, inspect_unlisted hsound (by simp) hinspect, (),
    hidentity, native, hnative, if_neg hnew⟩

theorem inspectNetworks_unlisted {loop after : NetworkLoop} {entries : List (NativeId × Bool)}
    (hroot : networkRoot selector = none) (hsound : loop.progress.budget.Sound)
    (h : entries.foldlM (inspectNetwork fromSlice (.fixed id stream) api selector) loop =
      .ok after) :
    entries.foldlM (inspectNetwork fromSlice (.fixed id stream) api (.containerIds ids))
      loop.unlisted = .ok after.unlisted := by
  refine foldlM_relabelled NetworkLoop.unlisted (·.progress.budget.Sound) ?_
    (fun _ _ _ _ => inspectNetwork_unlisted hroot) hsound h
  intro state entry next hstate hnext
  obtain ⟨_, hinspected⟩ := inspectNetwork_eq_ok hstate hnext
  exact hinspected.inspects.sound hstate

theorem inspectVolume_unlisted {progress after : Progress} {name : NativeId}
    (hroot : volumeRoot selector = none) (hsound : progress.budget.Sound)
    (h : inspectVolume fromSlice (.fixed id stream) api selector progress name = .ok after) :
    inspectVolume fromSlice (.fixed id stream) api (.containerIds ids) progress.unlisted name =
      .ok after.unlisted := by
  simp only [inspectVolume, bind_eq_ok_iff, Prod.exists, Except.ok.injEq] at h ⊢
  obtain ⟨reference, body, progress, hinspect, ⟨⟩, hidentity, rfl⟩ := h
  rw [hroot] at hinspect
  exact ⟨reference, body, progress.unlisted, inspect_unlisted hsound (by simp) hinspect, (),
    hidentity, rfl⟩

theorem inspectVolumes_unlisted {progress after : Progress} {names : List NativeId}
    (hroot : volumeRoot selector = none) (hsound : progress.budget.Sound)
    (h : names.foldlM (inspectVolume fromSlice (.fixed id stream) api selector) progress =
      .ok after) :
    names.foldlM (inspectVolume fromSlice (.fixed id stream) api (.containerIds ids))
      progress.unlisted = .ok after.unlisted := by
  refine foldlM_relabelled Progress.unlisted (·.budget.Sound) ?_
    (fun _ _ _ _ => inspectVolume_unlisted hroot) hsound h
  intro state name next hstate hnext
  obtain ⟨_, hinspected⟩ := inspectVolume_eq_ok hstate hnext
  exact hinspected.inspects.sound hstate

theorem capture_unlisted {budget : Budget} {completed : Capture} (hsound : budget.Sound)
    (h : capture budget 0 = .ok completed) (hremains : unlisted budget.exchanges ≠ []) :
    capture budget.unlisted 0 = .ok
      { completed with
        bounds :=
          { completed.bounds with
            requestCount := (unlisted completed.exchanges).length
            bytesRead := totalBytes (unlisted completed.exchanges) }
        exchanges := unlisted completed.exchanges } := by
  unfold capture at h ⊢
  unfold Budget.intoCapture at h ⊢
  by_cases hfailed : budget.failed = true
  · simp [hfailed] at h
  by_cases hpending : budget.pending.isSome = true ∨ budget.requests = 0
  · simp [hfailed, hpending] at h
  cases hcompleted : Capture.fromCompleted budget.observationId budget.counts
      budget.exchanges with
  | error error => simp [hfailed, hpending, hcompleted] at h
  | ok captured =>
      have haccounted := hsound (by simpa using hfailed)
      have hidle : budget.pending.isSome = false := by
        simpa using fun hsome => hpending (.inl hsome)
      obtain ⟨-, -, rfl⟩ := Capture.fromCompleted_eq_ok_iff.mp hcompleted
      simp only [hfailed, hpending, hcompleted, Bool.false_eq_true, if_false, gt_iff_lt,
        Nat.not_lt_zero, Except.ok.injEq] at h
      subst h
      have hrequests : budget.unlisted.requests = (unlisted budget.exchanges).length := by
        rw [Budget.unlisted, hidle]
        rfl
      have hsome : ¬ (budget.unlisted.pending.isSome = true ∨ budget.unlisted.requests = 0) := by
        rw [hrequests, Budget.unlisted_pending, hidle]
        simpa using hremains
      have htotal : checkedTotal (unlisted budget.exchanges) = some budget.unlisted.bytesRead :=
        checkedTotal_eq_totalBytes
          (Nat.le_trans haccounted.unlisted.bytesRead_le budget.limits.fits.2.2.2.2)
      have hunlisted := (@Capture.fromCompleted_eq_ok_iff budget.observationId
        budget.unlisted.counts (unlisted budget.exchanges) _).mpr ⟨hrequests, htotal, rfl⟩
      have hid : budget.unlisted.observationId = budget.observationId := rfl
      simp only [Budget.unlisted_failed, hfailed, Bool.false_eq_true, if_false, gt_iff_lt,
        Nat.not_lt_zero, hsome, hid, Budget.unlisted_exchanges, hunlisted]
      simp only [Budget.counts, hrequests]
      rfl

/-- The capture of the same containers by their ids, as another observation. -/
def pinned (id : ObservationId) (completed : Capture) : Capture :=
  { completed with
    observationId := id
    bounds :=
      { completed.bounds with
        requestCount := (unlisted completed.exchanges).length
        bytesRead := totalBytes (unlisted completed.exchanges) }
    exchanges := unlisted completed.exchanges
    selectedRoots := completed.selectedRoots.map exactRoot
    selector := some (.containerIds (inspectedIds completed .container))
    discoveryOnly := false }

theorem selectedIds_valid {body : Bytes} {picked : List NativeId}
    (h : selectedIds fromSlice body selector = .ok picked) :
    picked.Nodup ∧ picked.length ≤ maxCollectionItems ∧
      ∀ id ∈ picked, validExactContainerId id = true := by
  obtain ⟨entries, -, hadmitted, rfl⟩ := selectedIds_eq_ok_iff.mp h
  refine ⟨(List.filter_sublist.filterMap entryId).nodup hadmitted.ids, ?_, ?_⟩
  · exact Nat.le_trans (List.length_filterMap_le ..)
      (Nat.le_trans (List.length_filter_le ..) hadmitted.length)
  · intro id hmem
    obtain ⟨entry, hentry, hid⟩ := List.mem_filterMap.mp hmem
    obtain ⟨found, hfound, hvalid⟩ :=
      (hadmitted.wellFormed entry (List.mem_filter.mp hentry).1).1.id
    rw [hfound, Option.some_inj] at hid
    exact hid ▸ hvalid

theorem Acquired.listBody_of_mem {limits : Limits} {completed : Capture} {history : History}
    (h : Acquired fromSlice selector limits completed history) {exchange : CapturedExchange}
    (hmem : exchange ∈ completed.exchanges) (hrequest : exchange.request = .listContainers) :
    history.listBody = some exchange.body := by
  rw [h.exchanges_eq, History.exchanges] at hmem
  simp only [List.mem_append, List.mem_cons, List.not_mem_nil, or_false, List.mem_map,
    Option.mem_toList] at hmem
  rcases hmem with ((rfl | rfl) | ⟨body, hbody, rfl⟩) | ⟨inspection, -, rfl⟩
  · cases hrequest
  · cases hrequest
  · exact hbody
  · simp only [Inspection.exchange, Inspection.request] at hrequest
    split at hrequest <;> cases hrequest

theorem picks_of_lists {listBody : Option Bytes} {picked : List NativeId}
    (hlists : selector.lists = true) (h : Picks fromSlice selector listBody picked) :
    ∃ body, listBody = some body ∧ selectedIds fromSlice body selector = .ok picked := by
  cases selector with
  | containerIds _ | networkIds _ | volumeNames _ => cases hlists
  | containerNames _ | namePrefix _ | label _ _ | discovery | allContainers => exact h

theorem selectContainers_of_lists {daemon : Daemon} {budget : Budget}
    (hlists : selector.lists = true) :
    selectContainers fromSlice daemon api selector budget =
      selectListed fromSlice daemon api selector budget := by
  cases selector with
  | containerIds _ | networkIds _ | volumeNames _ => cases hlists
  | containerNames _ | namePrefix _ | label _ _ | discovery | allContainers => rfl

theorem rootless_of_lists (hlists : selector.lists = true) :
    networkRoot selector = none ∧ volumeRoot selector = none ∧
      Related.ofSelector selector = Related.ofSelector (.containerIds ids) := by
  cases selector with
  | containerIds _ | networkIds _ | volumeNames _ => cases hlists
  | containerNames _ | namePrefix _ | label _ _ | discovery | allContainers =>
      exact ⟨rfl, rfl, rfl⟩

/-- After the negotiation, naming the containers does the same as listing them. -/
theorem inventory_unlisted {budget : Budget} (hsound : budget.Sound)
    (hlists : selector.lists = true)
    (hfresh : ∀ exchange ∈ budget.exchanges, exchange.request ≠ .listContainers)
    {completed : Capture}
    (h : inventory fromSlice (.fixed id stream) api selector budget = .ok completed)
    (hids : ∀ exchange ∈ completed.exchanges, exchange.request = .listContainers →
      selectedIds fromSlice exchange.body selector = .ok ids)
    (hinspected : inspectedIds completed .container = ids) :
    inventory fromSlice (.fixed id stream) api (.containerIds ids) budget =
      .ok (pinned completed.observationId completed) := by
  simp only [inventory, bind_eq_ok_iff, Prod.exists, charged_eq_ok_iff, Except.ok.injEq] at h
  obtain ⟨infoBody, informed, hinfo, containers, listed, hselect, ⟨⟩, selected, hselection,
    gathering, hgather, networks, hnetworks, progress, hvolumes, ⟨⟩, -, captured, hcapture,
    rfl⟩ := h
  obtain ⟨rfl, hinformed, -, -, -⟩ := exchange_eq_ok hsound hinfo
  rw [selectContainers_of_lists hlists] at hselect
  simp only [selectListed, bind_eq_ok_iff, Prod.exists, Except.ok.injEq, Prod.mk.injEq] at hselect
  obtain ⟨listBody, _, hlist, picked, hpicked, rfl, rfl⟩ := hselect
  obtain ⟨⟨path, wire, hexchanged⟩, rfl⟩ := (exchange_eq_ok_iff hinformed).mp hlist
  obtain ⟨-, hlisted, -, -, -⟩ := exchange_eq_ok hinformed hlist
  obtain ⟨hselectable, rfl⟩ := Budget.recordSelection_ok_iff.mp hselection
  have hselected := hlisted.selected hselectable.2
  obtain ⟨cs, hcs⟩ := inspectContainers_eq_ok hselected hgather
  obtain ⟨ns, hns⟩ := inspectNetworks_eq_ok (hcs.inspects.sound hselected) hnetworks
  obtain ⟨vs, hvs⟩ := inspectVolumes_eq_ok
    (hns.inspects.sound (hcs.inspects.sound hselected)) hvolumes
  have hsoundEnd := hvs.inspects.sound (hns.inspects.sound (hcs.inspects.sound hselected))
  have hexchanges := hvs.inspects.exchanges_eq
  rw [hns.inspects.exchanges_eq, hcs.inspects.exchanges_eq] at hexchanges
  obtain ⟨hcaptured, -⟩ := intoCapture_eq_ok hsoundEnd hcapture
  have hpickedIds : picked = ids := by
    have hmem : (⟨.listContainers, none, some api, okStatus, listBody⟩ : CapturedExchange) ∈
        captured.exchanges := by
      rw [hcaptured, hexchanges]
      simp [Budget.selected]
    have hsame := hids _ hmem rfl
    rw [hpicked, Except.ok.injEq] at hsame
    exact hsame
  subst hpickedIds
  obtain ⟨hnetworkRoot, hvolumeRoot, hrelated⟩ := @rootless_of_lists selector picked hlists
  -- the budget after the list is the one before it, but for the list itself
  have hfreshInfo : ∀ exchange ∈ (budget.completed .daemonInfo none (some api)
      infoBody).exchanges, exchange.request ≠ .listContainers := by
    intro exchange hmem
    rw [completed_exchanges, List.mem_append, List.mem_singleton] at hmem
    rcases hmem with hmem | rfl
    · exact hfresh exchange hmem
    · simp
  have hback := @Budget.unlisted_listed _ (some api) listBody
    (hinformed hexchanged.requestable.live.1) hexchanged.requestable.idle hfreshInfo
  have hgather' := @inspectContainers_unlisted _ _ _ _ _ picked _ _ _ hselected hgather
  have hnetworks' := @inspectNetworks_unlisted _ _ _ _ _ picked _ _ _ hnetworkRoot
    (hcs.inspects.sound hselected) hnetworks
  have hvolumes' := @inspectVolumes_unlisted _ _ _ _ _ picked _ _ _ hvolumeRoot
    (hns.inspects.sound (hcs.inspects.sound hselected)) hvolumes
  have hremains : unlisted progress.budget.exchanges ≠ [] := by
    have hmem : (⟨.daemonInfo, none, some api, okStatus, infoBody⟩ : CapturedExchange) ∈
        progress.budget.exchanges := by
      rw [hexchanges]
      simp [Budget.selected]
    exact List.ne_nil_of_mem (List.mem_filter.mpr ⟨hmem, by simp⟩)
  have hcapture' := capture_unlisted hsoundEnd hcapture hremains
  have hselection' : (budget.completed .daemonInfo none (some api) infoBody).recordSelection 0
      (picked.eraseDups.length + (Related.ofSelector selector).networks.length +
        (Related.ofSelector selector).volumes.length) = _ :=
    Budget.recordSelection_ok_iff.mpr ⟨⟨⟨hexchanged.requestable.live.1, Nat.zero_le _⟩,
      by simpa using hselectable.2⟩, rfl⟩
  simp only [inventory, bind_eq_ok_iff, Prod.exists, charged_eq_ok_iff, Except.ok.injEq]
  refine ⟨infoBody, _, hinfo, picked.eraseDups, _, rfl, (), _, hrelated ▸ hselection',
    gathering.unlisted, ?_, networks.unlisted, hnetworks', progress.unlisted, hvolumes', (), rfl,
    _, hcapture', ?_⟩
  · rw [← hrelated, ← hback]
    exact hgather'
  · rw [pinned, hinspected]
    rfl

theorem fresh_of_new {limits : Limits} {budget : Budget} {body : Bytes}
    (hnew : Budget.new limits (some id) = .ok budget) :
    ∀ exchange ∈ (budget.completed .daemonVersion none none body).exchanges,
      exchange.request ≠ .listContainers := by
  intro exchange hmem
  rw [completed_exchanges, (new_eq_ok hnew).1, List.nil_append, List.mem_singleton] at hmem
  simp [hmem]

/-- Selecting containers from their list and naming the selected ones by their ids are one
acquisition, but for the list. -/
theorem acquire_pinned {limits : Limits} {completed : Capture} (hlists : selector.lists = true)
    (h : acquire fromSlice (.fixed id stream) selector limits = .ok completed)
    (other : ObservationId) :
    acquire fromSlice (.fixed other stream) (.containerIds (inspectedIds completed .container))
      limits = .ok (pinned other completed) := by
  obtain ⟨history, hacquired⟩ := acquire_eq_ok h
  obtain ⟨listBody, hlistBody, hpicked⟩ := picks_of_lists hlists hacquired.picks
  obtain ⟨hnodup, hlength, hvalidIds⟩ := selectedIds_valid hpicked
  have hinspected : inspectedIds completed .container = history.picked := by
    rw [hacquired.inspectedIds_eq, hacquired.containers_eq, eraseDups_of_nodup hnodup]
  have hids : ∀ exchange ∈ completed.exchanges, exchange.request = .listContainers →
      selectedIds fromSlice exchange.body selector =
        .ok (inspectedIds completed .container) := by
    intro exchange hmem hrequest
    have hbody := hacquired.listBody_of_mem hmem hrequest
    rw [hlistBody, Option.some_inj] at hbody
    rw [← hbody, hinspected, hpicked]
  have hselector : validateSelector (.containerIds (inspectedIds completed .container)) limits =
      .ok () := by
    have hselected := hacquired.fits.selectedResources_le
    rw [hacquired.selectedResources_eq, eraseDups_of_nodup hnodup] at hselected
    rw [hinspected, validateSelector, if_neg (by simp [tooMany]; omega),
      if_neg (by simpa using hvalidIds)]
  simp only [acquire, bind_eq_ok_iff] at h
  obtain ⟨⟨⟩, -, h⟩ := h
  split at h
  · cases h
  next budget hnew =>
  obtain ⟨hlimits, hsound⟩ := Budget.sound_new hnew
  simp only [bind_eq_ok_iff, Prod.exists] at h
  obtain ⟨versionBody, versioned, hversion, api, hapi, h⟩ := h
  obtain ⟨⟨path, wire, hexchanged⟩, rfl⟩ := (exchange_eq_ok_iff hsound).mp hversion
  obtain ⟨-, hversioned, -⟩ := exchange_eq_ok hsound hversion
  have hsame : acquire fromSlice (.fixed id stream)
      (.containerIds (inspectedIds completed .container)) limits =
        .ok (pinned completed.observationId completed) := by
    rw [acquire, hselector, ok_bind, hnew]
    simp only [hversion, ok_bind, hapi]
    exact inventory_unlisted hversioned hlists (fresh_of_new hnew) h hids rfl
  obtain ⟨_, hpinned⟩ := acquire_eq_ok hsame
  have hvalid : limits.Valid := hlimits ▸ (hsound hexchanged.requestable.live.1).valid
  exact (acquire_follows hvalid hsame).2 hpinned.fits

end

end DockerLens.Acquisition
