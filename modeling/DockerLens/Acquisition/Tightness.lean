import DockerLens.Acquisition.History
import DockerLens.Json.Document

namespace DockerLens.Acquisition

open DockerLens.Text
open DockerLens.Json
open DockerLens.Observation
open DockerLens.Version
open DockerLens.Evidence
open DockerLens.Fold

/-- A daemon that answers each request path with a fixed byte stream, on a clock
that stands still and without a cancellation. -/
def Daemon.fixed (id : ObservationId) (stream : String → Except AcquisitionError Wire) :
    Daemon where
  freshId := some id
  answer _ path := ⟨0, stream path, 0, 0⟩
  selectedAt _ := 0
  remaining _ := .ok ()
  completedAt _ := 0

/-- The errors that a limit causes. -/
def IsBudget (error : AcquisitionError) : Prop := ∃ limit, error = .budget limit

namespace Budget

/-- The same budget under other limits. -/
def under (budget : Budget) (limits : Limits) (id : ObservationId) : Budget :=
  { budget with limits, observationId := id }

section
variable (budget : Budget) (limits : Limits) (id : ObservationId)

@[simp] theorem under_limits : (budget.under limits id).limits = limits := rfl

@[simp] theorem under_exchanges : (budget.under limits id).exchanges = budget.exchanges := rfl

@[simp] theorem under_requests : (budget.under limits id).requests = budget.requests := rfl

@[simp] theorem under_expansions : (budget.under limits id).expansions = budget.expansions := rfl

@[simp] theorem under_selectedResources :
    (budget.under limits id).selectedResources = budget.selectedResources := rfl

@[simp] theorem under_bytesRead : (budget.under limits id).bytesRead = budget.bytesRead := rfl

@[simp] theorem under_pending : (budget.under limits id).pending = budget.pending := rfl

@[simp] theorem under_failed : (budget.under limits id).failed = budget.failed := rfl

theorem under_completed (request : ReadRequest) (resource : Option ResourceRef)
    (api : Option ApiVersion) (body : Bytes) :
    (budget.completed request resource api body).under limits id =
      (budget.under limits id).completed request resource api body := by
  simp only [completed, responded, requested, register]
  cases resource <;> cases request.inspected <;> rfl

end

/-- The counters of a budget stay within some limits. -/
structure Within (limits : Limits) (budget : Budget) : Prop where
  requests_le : budget.requests ≤ limits.maxRequests
  selectedResources_le : budget.selectedResources ≤ limits.maxSelectedResources
  expansions_le : budget.expansions ≤ limits.maxExpansions
  bytesRead_le : budget.bytesRead ≤ limits.maxTotalBytes
  body_le : ∀ exchange ∈ budget.exchanges, exchange.body.length ≤ limits.maxResponseBytes

theorem Accounted.within {budget : Budget} (h : budget.Accounted) : Within budget.limits budget :=
  ⟨h.requests_le, h.selectedResources_le, h.expansions_le, h.bytesRead_le, h.body_le⟩

theorem Within.of_completed {limits : Limits} {budget : Budget} {request : ReadRequest}
    {resource : Option ResourceRef} {api : Option ApiVersion} {body : Bytes}
    (hreferenced : request.inspected.isSome = resource.isSome)
    (h : Within limits (budget.completed request resource api body)) : Within limits budget := by
  have hexpansions := h.expansions_le
  rw [completed_expansions hreferenced] at hexpansions
  have hbytes := h.bytesRead_le
  rw [completed_bytesRead] at hbytes
  refine ⟨Nat.le_of_succ_le h.requests_le, by simpa using h.selectedResources_le,
    by omega, by omega, fun exchange hmem => h.body_le exchange ?_⟩
  rw [completed_exchanges]
  exact List.mem_append_left _ hmem

end Budget

section
variable {id id' : ObservationId} {stream : String → Except AcquisitionError Wire}
  {limits : Limits}

theorem charged_of_ok {α : Type} {result : Except LimitError α × Budget} {value : α}
    {after : Budget} (h : result = (.ok value, after)) :
    charged result = .ok (value, after) := by
  rw [h, charged]

theorem charged_of_rejected {α : Type} {result : Except LimitError α × Budget}
    {error : LimitError} {after : Budget} (h : result = (.error error, after)) :
    charged result = .error (.budget error) := by
  rw [h, charged]

/-- An exchange that the other limits do not let through is a budget error. -/
theorem exchange_under_cases {budget : Budget} {request : ReadRequest}
    {resource : Option ResourceRef} {api : Option ApiVersion} {body : Bytes} {path : String}
    {wire : Wire} (hsound' : (budget.under limits id).Sound)
    (h : Exchanged (.fixed id' stream) budget request resource api body path wire) :
    exchange (.fixed id stream) (budget.under limits id) request resource api =
        .ok (body, (budget.completed request resource api body).under limits id) ∨
      ∃ error, exchange (.fixed id stream) (budget.under limits id) request resource api =
        .error error ∧ IsBudget error := by
  simp only [exchange, h.path_eq, ok_bind]
  rcases (budget.under limits id).recordRequest_cases 0 request resource api with
    ⟨hrequestable, hrequest⟩ | ⟨error, after, hrequest, -⟩
  swap
  · exact .inr ⟨_, by rw [Daemon.fixed, charged_of_rejected hrequest, error_bind], _, rfl⟩
  have hget := (httpGet_of_ok h.received).2
    (min ((budget.under limits id).requested request resource api).allowance maxJsonBytes)
  have hconnected : stream path = .ok wire := h.connected
  simp only [Daemon.fixed, charged_of_ok hrequest, ok_bind, hconnected, hget]
  by_cases hlength : body.length ≤
      min ((budget.under limits id).requested request resource api).allowance maxJsonBytes
  swap
  · rw [if_neg hlength, error_bind]
    exact .inr ⟨_, rfl, _, rfl⟩
  rw [if_pos hlength, ok_bind]
  by_cases hrespondable : ∃ pending,
      ((budget.under limits id).requested request resource api).Respondable 0 0 pending
        ⟨body, false⟩
  · obtain ⟨pending, hrespondable⟩ := hrespondable
    obtain rfl : pending = ⟨request, resource, api⟩ := by
      simpa [Budget.requested] using hrespondable.awaited.symm
    refine .inl ?_
    have hrespond := Budget.readResponse_of_respondable okStatus
      (hrequestable.sound hsound') hrespondable
    rw [charged_of_ok hrespond, ok_bind, accepted, if_neg (by simp [okStatus]),
      Budget.under_completed]
    rfl
  · obtain ⟨error, after, hrespond, -⟩ := Budget.readResponse_rejected okStatus
      (hrequestable.sound hsound') (not_exists.mp hrespondable)
    rw [charged_of_rejected hrespond, error_bind]
    exact .inr ⟨_, rfl, _, rfl⟩

/-- An exchange whose result fits is let through by the other limits. -/
theorem Exchanged.under {budget : Budget} {request : ReadRequest}
    {resource : Option ResourceRef} {api : Option ApiVersion} {body : Bytes} {path : String}
    {wire : Wire}
    (h : Exchanged (.fixed id' stream) budget request resource api body path wire)
    (hfits : Budget.Within limits (budget.completed request resource api body)) :
    Exchanged (.fixed id stream) (budget.under limits id) request resource api body path
      wire := by
  have hrequestable : (budget.under limits id).Requestable 0 request resource api :=
    { live := ⟨h.requestable.live.1, Nat.zero_le _⟩
      idle := h.requestable.idle
      referenced := h.requestable.referenced
      versioned := h.requestable.versioned
      consistent := h.requestable.consistent
      expansions_le := by
        intro hinspected
        have hle := hfits.expansions_le
        rw [completed_expansions h.requestable.referenced, Budget.cost, if_pos hinspected] at hle
        exact hle
      requests_le := hfits.requests_le }
  have hbytes := hfits.bytesRead_le
  rw [completed_bytesRead] at hbytes
  have hbody : body.length ≤ limits.maxResponseBytes :=
    hfits.body_le ⟨request, resource, api, okStatus, body⟩ (by simp)
  have hallowance : body.length ≤
      ((budget.under limits id).requested request resource api).allowance := by
    rw [Budget.allowance]
    simp only [Budget.requested, Budget.register_limits, Budget.register_bytesRead,
      Budget.under_limits, Budget.under_bytesRead]
    omega
  refine ⟨h.path_eq, hrequestable, h.connected, ?_, ?_⟩
  · obtain ⟨hle, hget⟩ := httpGet_of_ok h.received
    rw [hget, if_pos (Nat.le_min.mpr ⟨hallowance, Nat.le_trans hle (Nat.min_le_right _ _)⟩)]
  · exact ⟨⟨by simpa [Budget.requested] using h.requestable.live.1, Nat.zero_le _⟩,
      Nat.zero_le _, rfl, rfl, hallowance⟩

theorem exchange_tightens {budget : Budget} {request : ReadRequest}
    {resource : Option ResourceRef} {api : Option ApiVersion}
    (hsound : budget.Sound) (hsound' : (budget.under limits id).Sound) :
    Tightens IsBudget (fun result => Budget.Within limits result.2)
      (fun result => (result.1, result.2.under limits id))
      (exchange (.fixed id' stream) budget request resource api)
      (exchange (.fixed id stream) (budget.under limits id) request resource api) := by
  rintro ⟨body, after⟩ h
  obtain ⟨⟨path, wire, hexchanged⟩, rfl⟩ := (exchange_eq_ok_iff hsound).mp h
  refine ⟨exchange_under_cases hsound' hexchanged, fun hfits => ?_⟩
  rw [exchange_eq_ok_iff hsound']
  exact ⟨⟨path, wire, hexchanged.under hfits⟩, Budget.under_completed ..⟩

end

def Progress.under (progress : Progress) (limits : Limits) (id : ObservationId) : Progress :=
  { progress with budget := progress.budget.under limits id }

def Gathering.under (gathering : Gathering) (limits : Limits) (id : ObservationId) : Gathering :=
  { gathering with progress := gathering.progress.under limits id }

def NetworkLoop.under (loop : NetworkLoop) (limits : Limits) (id : ObservationId) :
    NetworkLoop :=
  { loop with progress := loop.progress.under limits id }

theorem Inspects.within {api : ApiVersion} {selector : Selector} {limits : Limits}
    {before after : Progress} {found : List Inspection}
    (h : Inspects api selector before after found) (hafter : Budget.Within limits after.budget) :
    Budget.Within limits before.budget := by
  obtain ⟨hrequests, hselected, hexpansions, hbytes, hbodies⟩ := hafter
  rw [h.requests_eq] at hrequests
  rw [h.selectedResources_eq] at hselected
  rw [h.expansions_eq] at hexpansions
  refine ⟨by omega, hselected, by omega, Nat.le_trans h.bytesRead_le hbytes,
    fun exchange hmem => hbodies exchange ?_⟩
  rw [h.exchanges_eq]
  exact List.mem_append_left _ hmem

section
variable {id id' : ObservationId} {stream : String → Except AcquisitionError Wire}
  {limits : Limits} {fromSlice : Bytes → Option Value} {api : ApiVersion} {selector : Selector}

theorem inspect_tightens {request : ReadRequest} {root : Option (RootKind × SelectionReason)}
    {progress : Progress} (hsound : progress.budget.Sound)
    (hsound' : (progress.budget.under limits id).Sound) :
    Tightens IsBudget (fun result => Budget.Within limits result.2.2.budget)
      (fun result => (result.1, result.2.1, result.2.2.under limits id))
      (inspect (.fixed id' stream) api request root progress)
      (inspect (.fixed id stream) api request root (progress.under limits id)) := by
  rintro ⟨reference, body, after⟩ h
  unfold inspect at h ⊢
  cases hnext : checkedAdd progress.nextReference 1 with
  | none => simp [hnext] at h
  | some nextReference =>
      simp only [hnext, bind_eq_ok_iff, Prod.exists, Except.ok.injEq, Prod.mk.injEq] at h
      obtain ⟨body, budget, hexchange, rfl, rfl, rfl⟩ := h
      simp only [Progress.under, hnext]
      exact (exchange_tightens hsound hsound' _ hexchange).bind fun _ => .of_eq rfl

theorem projected_tightens {budget : Budget} {related : Related} {found : RelatedResources} :
    Tightens IsBudget
      (fun _ => budget.expansions + (related.mergedNetworks found).2.length +
        (related.newVolumes found).length ≤ limits.maxExpansions) (fun _ => ())
      (projected budget related found) (projected (budget.under limits id) related found) := by
  rintro ⟨⟩ h
  unfold projected at h ⊢
  split at h
  · simp at h
  · next additional hadditional =>
      obtain ⟨rfl, -⟩ := checkedAdd_eq_some_iff.mp hadditional
      split at h
      · simp at h
      · next total htotal =>
          obtain ⟨rfl, -⟩ := checkedAdd_eq_some_iff.mp htotal
          simp only [Budget.under_expansions, htotal]
          by_cases hexcess : budget.expansions + ((related.mergedNetworks found).2.length +
              (related.newVolumes found).length) > (budget.under limits id).limits.maxExpansions
          · rw [if_pos hexcess]
            rw [Budget.under_limits] at hexcess
            exact ⟨.inr ⟨_, rfl, _, rfl⟩, fun hfits => by omega⟩
          · rw [if_neg hexcess]
            exact .of_eq rfl

/-- The expansions made and the ones that wait. -/
def Gathering.potential (gathering : Gathering) : Nat :=
  gathering.progress.budget.expansions + gathering.related.networks.length +
    gathering.related.volumes.length

/-- The counters and the expansions that wait stay within some limits. -/
def Gathering.Fits (limits : Limits) (gathering : Gathering) : Prop :=
  Budget.Within limits gathering.progress.budget ∧ gathering.potential ≤ limits.maxExpansions

theorem Related.merge_networks_length (related : Related) (found : RelatedResources) :
    (related.merge found).networks.length =
      related.networks.length + (related.mergedNetworks found).2.length := by
  have hkeys := (@Related.foldl_mergeNetwork_nodup found.networks (related.networks, [])
    (by simpa [keys] using related.networks_nodup)).1
  have hlength := congrArg List.length hkeys
  simp only [keys, List.length_map] at hlength
  simp [Related.merge, Related.mergedNetworks, hlength]

theorem Related.merge_volumes_length (related : Related) (found : RelatedResources) :
    (related.merge found).volumes.length =
      related.volumes.length + (related.newVolumes found).length :=
  List.length_append

theorem inspectContainer_tightens {gathering : Gathering} {container : NativeId}
    (hsound : gathering.progress.budget.Sound)
    (hsound' : (gathering.under limits id).progress.budget.Sound) :
    Tightens IsBudget (Gathering.Fits limits) (·.under limits id)
      (inspectContainer fromSlice (.fixed id' stream) api selector gathering container)
      (inspectContainer fromSlice (.fixed id stream) api selector (gathering.under limits id)
        container) := by
  intro after h
  simp only [inspectContainer, bind_eq_ok_iff, Prod.exists, Except.ok.injEq] at h ⊢
  obtain ⟨reference, body, progress, hinspect, ⟨⟩, hidentity, found, hfound, ⟨⟩, hprojected,
    rfl⟩ := h
  refine ((inspect_tightens hsound hsound' _ hinspect).mono fun hfits => hfits.1).bind
    fun _ => ?_
  simp only [hidentity, hfound, ok_bind]
  refine ((projected_tightens _ hprojected).mono fun hfits => ?_).bind fun _ => .of_eq rfl
  have hpotential := hfits.2
  simp only [Gathering.potential, Related.merge_networks_length,
    Related.merge_volumes_length] at hpotential
  omega

theorem Gathered.fits {before after : Gathering} {ids : List NativeId}
    {found : List Inspection} (h : Gathered fromSlice api selector before ids after found)
    (hfits : Gathering.Fits limits after) : Gathering.Fits limits before := by
  refine ⟨h.inspects.within hfits.1, Nat.le_trans ?_ hfits.2⟩
  have hgrows : ∀ (found : List Inspection) (related : Related),
      related.networks.length + related.volumes.length ≤
        (found.foldl (fun related inspection =>
          related.merge (relatedOf fromSlice inspection.body)) related).networks.length +
        (found.foldl (fun related inspection =>
          related.merge (relatedOf fromSlice inspection.body)) related).volumes.length := by
    intro found
    induction found with
    | nil =>
        intro related
        exact Nat.le_refl _
    | cons inspection found ih =>
        intro related
        refine Nat.le_trans ?_ (ih _)
        rw [Related.merge_networks_length, Related.merge_volumes_length]
        omega
  have hlength := hgrows found before.related
  rw [← h.related_eq] at hlength
  have hexpansions := h.inspects.expansions_eq
  simp only [Gathering.potential]
  omega

theorem inspectContainers_tightens (gathering : Gathering) {ids : List NativeId}
    (hsound : gathering.progress.budget.Sound)
    (hsound' : (gathering.under limits id).progress.budget.Sound) :
    Tightens IsBudget (Gathering.Fits limits) (·.under limits id)
      (ids.foldlM (inspectContainer fromSlice (.fixed id' stream) api selector) gathering)
      (ids.foldlM (inspectContainer fromSlice (.fixed id stream) api selector)
        (gathering.under limits id)) := by
  refine Tightens.foldlM (fun gathering => gathering.progress.budget.Sound)
    (fun gathering => gathering.progress.budget.Sound) ?_ ?_
    (fun _ _ => inspectContainer_tightens) ?_ hsound hsound'
  · intro state container next hstate hnext
    obtain ⟨inspection, hgathered⟩ := inspectContainer_eq_ok hstate hnext
    exact hgathered.inspects.sound hstate
  · intro state container next hstate hnext
    obtain ⟨inspection, hgathered⟩ := inspectContainer_eq_ok hstate hnext
    exact hgathered.inspects.sound hstate
  · intro state container next hstate hnext hfits
    obtain ⟨inspection, hgathered⟩ := inspectContainer_eq_ok hstate hnext
    exact hgathered.fits hfits

theorem inspectNetwork_tightens {loop : NetworkLoop} {entry : NativeId × Bool}
    (hsound : loop.progress.budget.Sound)
    (hsound' : (loop.under limits id).progress.budget.Sound) :
    Tightens IsBudget (fun loop => Budget.Within limits loop.progress.budget)
      (·.under limits id)
      (inspectNetwork fromSlice (.fixed id' stream) api selector loop entry)
      (inspectNetwork fromSlice (.fixed id stream) api selector (loop.under limits id) entry) := by
  intro after h
  simp only [inspectNetwork, bind_eq_ok_iff, Prod.exists] at h ⊢
  obtain ⟨reference, body, progress, hinspect, ⟨⟩, hidentity, native, hnative, hfresh⟩ := h
  split at hfresh
  · simp at hfresh
  · next hnew =>
      simp only [Except.ok.injEq] at hfresh
      subst hfresh
      refine (inspect_tightens hsound hsound' _ hinspect).bind fun _ => ?_
      simp only [hidentity, hnative, ok_bind]
      exact .of_eq (if_neg hnew)

theorem inspectNetworks_tightens (loop : NetworkLoop) {entries : List (NativeId × Bool)}
    (hsound : loop.progress.budget.Sound)
    (hsound' : (loop.under limits id).progress.budget.Sound) :
    Tightens IsBudget (fun loop => Budget.Within limits loop.progress.budget)
      (·.under limits id)
      (entries.foldlM (inspectNetwork fromSlice (.fixed id' stream) api selector) loop)
      (entries.foldlM (inspectNetwork fromSlice (.fixed id stream) api selector)
        (loop.under limits id)) := by
  refine Tightens.foldlM (fun loop => loop.progress.budget.Sound)
    (fun loop => loop.progress.budget.Sound) ?_ ?_
    (fun _ _ => inspectNetwork_tightens) ?_ hsound hsound'
  · intro state entry next hstate hnext
    obtain ⟨inspection, hinspected⟩ := inspectNetwork_eq_ok hstate hnext
    exact hinspected.inspects.sound hstate
  · intro state entry next hstate hnext
    obtain ⟨inspection, hinspected⟩ := inspectNetwork_eq_ok hstate hnext
    exact hinspected.inspects.sound hstate
  · intro state entry next hstate hnext hfits
    obtain ⟨inspection, hinspected⟩ := inspectNetwork_eq_ok hstate hnext
    exact hinspected.inspects.within hfits

theorem inspectVolume_tightens {progress : Progress} {name : NativeId}
    (hsound : progress.budget.Sound)
    (hsound' : (progress.under limits id).budget.Sound) :
    Tightens IsBudget (fun progress => Budget.Within limits progress.budget)
      (·.under limits id)
      (inspectVolume fromSlice (.fixed id' stream) api selector progress name)
      (inspectVolume fromSlice (.fixed id stream) api selector (progress.under limits id)
        name) := by
  intro after h
  simp only [inspectVolume, bind_eq_ok_iff, Prod.exists, Except.ok.injEq] at h ⊢
  obtain ⟨reference, body, progress, hinspect, ⟨⟩, hidentity, rfl⟩ := h
  refine (inspect_tightens hsound hsound' _ hinspect).bind fun _ => ?_
  simp only [hidentity, ok_bind]
  exact .of_eq rfl

theorem inspectVolumes_tightens {progress : Progress} {names : List NativeId}
    (hsound : progress.budget.Sound)
    (hsound' : (progress.under limits id).budget.Sound) :
    Tightens IsBudget (fun progress => Budget.Within limits progress.budget)
      (·.under limits id)
      (names.foldlM (inspectVolume fromSlice (.fixed id' stream) api selector) progress)
      (names.foldlM (inspectVolume fromSlice (.fixed id stream) api selector)
        (progress.under limits id)) := by
  refine Tightens.foldlM (fun progress => progress.budget.Sound)
    (fun progress => progress.budget.Sound) ?_ ?_
    (fun _ _ => inspectVolume_tightens) ?_ hsound hsound'
  · intro state name next hstate hnext
    obtain ⟨inspection, hinspected⟩ := inspectVolume_eq_ok hstate hnext
    exact hinspected.inspects.sound hstate
  · intro state name next hstate hnext
    obtain ⟨inspection, hinspected⟩ := inspectVolume_eq_ok hstate hnext
    exact hinspected.inspects.sound hstate
  · intro state name next hstate hnext hfits
    obtain ⟨inspection, hinspected⟩ := inspectVolume_eq_ok hstate hnext
    exact hinspected.inspects.within hfits

end

section
variable {id id' : ObservationId} {stream : String → Except AcquisitionError Wire}
  {limits : Limits} {fromSlice : Bytes → Option Value} {api : ApiVersion} {selector : Selector}

theorem selectContainers_tightens {budget : Budget} (hsound : budget.Sound)
    (hsound' : (budget.under limits id).Sound) :
    Tightens IsBudget (fun result => Budget.Within limits result.2)
      (fun result => (result.1, result.2.under limits id))
      (selectContainers fromSlice (.fixed id' stream) api selector budget)
      (selectContainers fromSlice (.fixed id stream) api selector
        (budget.under limits id)) := by
  rintro ⟨containers, after⟩ h
  have hlisted (hlist : selectListed fromSlice (.fixed id' stream) api selector budget =
      .ok (containers, after)) :
      Follows IsBudget (Budget.Within limits after)
        (selectListed fromSlice (.fixed id stream) api selector (budget.under limits id))
        (containers, after.under limits id) := by
    simp only [selectListed, bind_eq_ok_iff, Prod.exists, Except.ok.injEq, Prod.mk.injEq] at hlist
    obtain ⟨body, listed, hexchange, picked, hpicked, rfl, rfl⟩ := hlist
    refine (exchange_tightens hsound hsound' _ hexchange).bind fun _ => ?_
    simp only [hpicked, ok_bind]
    exact .of_eq rfl
  cases selector with
  | containerIds ids | networkIds ids | volumeNames ids =>
      simp only [selectContainers, Except.ok.injEq, Prod.mk.injEq] at h
      obtain ⟨rfl, rfl⟩ := h
      exact .of_eq rfl
  | containerNames _ | namePrefix _ | label _ _ | discovery | allContainers => exact hlisted h

theorem recordSelection_tightens {budget : Budget} {count : Nat} :
    Tightens IsBudget (fun result => Budget.Within limits result.2)
      (fun result => (result.1, result.2.under limits id))
      (charged (budget.recordSelection 0 count))
      (charged ((budget.under limits id).recordSelection 0 count)) := by
  rintro ⟨⟨⟩, after⟩ h
  obtain ⟨⟨hlive, -⟩, rfl⟩ := Budget.recordSelection_ok_iff.mp (charged_eq_ok_iff.mp h)
  by_cases hfits : (budget.under limits id).Live 0 ∧
      budget.selectedResources + count ≤ limits.maxSelectedResources
  · exact .of_eq (charged_of_ok (Budget.recordSelection_of_le hfits.1 hfits.2))
  · obtain ⟨error, after, hselection, -⟩ :=
      @Budget.recordSelection_rejected (budget.under limits id) _ _ hfits
    refine ⟨.inr ⟨_, charged_of_rejected hselection, _, rfl⟩, fun hwithin => ?_⟩
    exact absurd ⟨⟨hlive.1, Nat.zero_le _⟩, hwithin.selectedResources_le⟩ hfits

theorem capture_under {budget : Budget} {completed : Capture} (limits : Limits)
    (id : ObservationId) (h : capture budget 0 = .ok completed) :
    capture (budget.under limits id) 0 = .ok { completed with observationId := id } := by
  unfold capture at h ⊢
  unfold Budget.intoCapture at h ⊢
  by_cases hfailed : budget.failed = true
  · simp [hfailed] at h
  by_cases hpending : budget.pending.isSome = true ∨ budget.requests = 0
  · simp [hfailed, hpending] at h
  cases hcompleted : Capture.fromCompleted budget.observationId budget.counts
      budget.exchanges with
  | error error => simp [hfailed, hpending, hcompleted] at h
  | ok captured =>
      obtain ⟨hcount, htotal, rfl⟩ := Capture.fromCompleted_eq_ok_iff.mp hcompleted
      have hunder := (@Capture.fromCompleted_eq_ok_iff id _ _ _).mpr ⟨hcount, htotal, rfl⟩
      simp only [hfailed, hpending, hcompleted, Bool.false_eq_true, if_false, gt_iff_lt,
        Nat.not_lt_zero, Except.ok.injEq] at h
      subst h
      simp only [Budget.under_failed, hfailed, Bool.false_eq_true, if_false, gt_iff_lt,
        Nat.not_lt_zero, Budget.under_pending, Budget.under_requests, hpending]
      have hcounts : (budget.under limits id).counts = budget.counts := rfl
      rw [hcounts, Budget.under_exchanges, show (budget.under limits id).observationId = id
        from rfl, hunder]

theorem selectContainers_within {daemon : Daemon} {budget after : Budget}
    {containers : List NativeId} (hsound : budget.Sound)
    (h : selectContainers fromSlice daemon api selector budget = .ok (containers, after))
    (hafter : Budget.Within limits after) : Budget.Within limits budget := by
  have hlisted (hlist : selectListed fromSlice daemon api selector budget =
      .ok (containers, after)) : Budget.Within limits budget := by
    simp only [selectListed, bind_eq_ok_iff, Prod.exists, Except.ok.injEq, Prod.mk.injEq] at hlist
    obtain ⟨body, listed, hexchange, picked, -, -, rfl⟩ := hlist
    obtain ⟨rfl, -, -, hreferenced, -⟩ := exchange_eq_ok hsound hexchange
    exact hafter.of_completed hreferenced
  cases selector with
  | containerIds ids | networkIds ids | volumeNames ids =>
      simp only [selectContainers, Except.ok.injEq, Prod.mk.injEq] at h
      rw [h.2]
      exact hafter
  | containerNames _ | namePrefix _ | label _ _ | discovery | allContainers => exact hlisted h

theorem inventory_tightens {budget : Budget} (hsound : budget.Sound) {completed : Capture}
    (h : inventory fromSlice (.fixed id' stream) api selector budget = .ok completed) :
    (FitsLimits limits selector completed → Budget.Within limits budget) ∧
    ((budget.under limits id).Sound →
      Follows IsBudget (FitsLimits limits selector completed)
        (inventory fromSlice (.fixed id stream) api selector (budget.under limits id))
        { completed with observationId := id }) := by
  simp only [inventory, bind_eq_ok_iff, Prod.exists, charged_eq_ok_iff, Except.ok.injEq] at h
  obtain ⟨infoBody, informed, hinfo, containers, listed, hselect, ⟨⟩, selected, hselection,
    gathering, hgather, networks, hnetworks, progress, hvolumes, ⟨⟩, -, captured, hcapture,
    rfl⟩ := h
  obtain ⟨rfl, hinformed, -, hreferenced, -⟩ := exchange_eq_ok hsound hinfo
  obtain ⟨_, _, _, _, hlisted, -⟩ := selectContainers_eq_ok hinformed hselect
  obtain ⟨hselectable, rfl⟩ := Budget.recordSelection_ok_iff.mp hselection
  have hselected := hlisted.selected hselectable.2
  obtain ⟨cs, hcs⟩ := inspectContainers_eq_ok hselected hgather
  obtain ⟨ns, hns⟩ := inspectNetworks_eq_ok (hcs.inspects.sound hselected) hnetworks
  obtain ⟨vs, hvs⟩ := inspectVolumes_eq_ok
    (hns.inspects.sound (hcs.inspects.sound hselected)) hvolumes
  obtain ⟨hexchanges, hcounts, -, -, haccounted⟩ := intoCapture_eq_ok
    (hvs.inspects.sound (hns.inspects.sound (hcs.inspects.sound hselected))) hcapture
  -- from the end of the run back to its start, everything stays within the limits
  have hend (hfits : FitsLimits limits selector (withSelection captured selector
      progress.selectedRoots networks.fallbacks)) : Budget.Within limits progress.budget := by
    have hbounds : (withSelection captured selector progress.selectedRoots
        networks.fallbacks).bounds = progress.budget.counts := hcounts
    have hkept : (withSelection captured selector progress.selectedRoots
        networks.fallbacks).exchanges = progress.budget.exchanges := hexchanges
    obtain ⟨hrequests, hexpansions, hselectedResources, -, hbody, htotal⟩ := hfits
    rw [hbounds] at hrequests hexpansions hselectedResources
    rw [hkept] at hbody htotal
    exact ⟨hrequests, hselectedResources, hexpansions, haccounted.bytesRead_eq ▸ htotal, hbody⟩
  have hgathered (hfits : Budget.Within limits progress.budget) :
      Gathering.Fits limits gathering := by
    refine ⟨hns.inspects.within (hvs.inspects.within hfits), ?_⟩
    have hnetworksLength := congrArg List.length hns.entries_eq
    have hvolumesLength := congrArg List.length hvs.ids_eq
    rw [List.length_map, gathering.related.sortedNetworks_perm.length_eq] at hnetworksLength
    rw [List.length_map, gathering.related.sortedVolumes_perm.length_eq] at hvolumesLength
    have hnetworksExpansions := hns.inspects.expansions_eq
    have hvolumesExpansions := hvs.inspects.expansions_eq
    have hle := hfits.expansions_le
    simp only at hnetworksExpansions
    rw [Gathering.potential]
    omega
  have hselectedWithin (hfits : Budget.Within limits progress.budget) :=
    (hcs.fits (hgathered hfits)).1
  have hlistedWithin (hfits : Budget.Within limits progress.budget) :
      Budget.Within limits listed := by
    obtain ⟨hrequests, hselectedResources, hexpansions, hbytes, hbody⟩ := hselectedWithin hfits
    exact ⟨hrequests, Nat.le_trans (Nat.le_add_right _ _) hselectedResources, hexpansions,
      hbytes, hbody⟩
  have hinformedWithin (hfits : Budget.Within limits progress.budget) :=
    selectContainers_within hinformed hselect (hlistedWithin hfits)
  refine ⟨fun hfits => (hinformedWithin (hend hfits)).of_completed hreferenced,
    fun hsound' => ?_⟩
  rw [inventory]
  refine ((exchange_tightens hsound hsound' _ hinfo).mono
    fun hfits => hinformedWithin (hend hfits)).bind fun hinfo' => ?_
  have hinformed' := (exchange_eq_ok hsound' hinfo').2.1
  refine ((selectContainers_tightens hinformed hinformed' _ hselect).mono
    fun hfits => hlistedWithin (hend hfits)).bind fun hselect' => ?_
  obtain ⟨_, _, _, _, hlisted', -⟩ := selectContainers_eq_ok hinformed' hselect'
  refine ((recordSelection_tightens _ (charged_eq_ok_iff.mpr hselection)).mono
    fun hfits => hselectedWithin (hend hfits)).bind fun hselection' => ?_
  obtain ⟨hselectable', -⟩ := Budget.recordSelection_ok_iff.mp (charged_eq_ok_iff.mp hselection')
  have hselected' := hlisted'.selected hselectable'.2
  refine ((inspectContainers_tightens ⟨⟨_, 1, []⟩, Related.ofSelector selector⟩ hselected
    hselected' _ hgather).mono
    fun hfits => hgathered (hend hfits)).bind fun hgather' => ?_
  obtain ⟨_, hcs'⟩ := inspectContainers_eq_ok hselected' hgather'
  refine ((inspectNetworks_tightens ⟨gathering.progress, [], []⟩ (hcs.inspects.sound hselected)
    (hcs'.inspects.sound hselected') _ hnetworks).mono
    fun hfits => hvs.inspects.within (hend hfits)).bind fun hnetworks' => ?_
  obtain ⟨_, hns'⟩ := inspectNetworks_eq_ok (hcs'.inspects.sound hselected') hnetworks'
  refine ((inspectVolumes_tightens (hns.inspects.sound (hcs.inspects.sound hselected))
    (hns'.inspects.sound (hcs'.inspects.sound hselected')) _ hvolumes).mono hend).bind
    fun hvolumes' => ?_
  have hcapture' := capture_under limits id hcapture
  refine .of_eq ?_
  change (capture (progress.budget.under limits id) 0 >>= fun completed =>
    .ok (withSelection completed selector progress.selectedRoots networks.fallbacks)) = _
  rw [hcapture', ok_bind]
  rfl

theorem new_under {limits' : Limits} {budget : Budget} (hvalid : limits.Valid)
    (h : Budget.new limits' (some id') = .ok budget) :
    Budget.new limits (some id) = .ok (budget.under limits id) := by
  unfold Budget.new at h ⊢
  rw [hvalid]
  split at h
  · simp at h
  · simp only [Except.ok.injEq] at h
    subst h
    rfl

theorem acquire_follows {limits' : Limits} {completed : Capture} (hvalid : limits.Valid)
    (h : acquire fromSlice (.fixed id' stream) selector limits' = .ok completed) :
    Follows IsBudget (FitsLimits limits selector completed)
      (acquire fromSlice (.fixed id stream) selector limits)
      { completed with observationId := id } := by
  simp only [acquire, bind_eq_ok_iff] at h
  obtain ⟨⟨⟩, hselector, h⟩ := h
  split at h
  · simp at h
  next budget hnew =>
  obtain ⟨-, hsound⟩ := Budget.sound_new hnew
  have hnew' : Budget.new limits (some id) = .ok (budget.under limits id) := new_under hvalid hnew
  obtain ⟨-, hsound'⟩ := Budget.sound_new hnew'
  simp only [bind_eq_ok_iff, Prod.exists] at h
  obtain ⟨versionBody, versioned, hversion, api, hapi, h⟩ := h
  obtain ⟨rfl, hversioned, -, -, -⟩ := exchange_eq_ok hsound hversion
  have hselected : Follows IsBudget (FitsLimits limits selector completed)
      (validateSelector selector limits) () := by
    rw [validateSelector_of_ok hselector limits]
    by_cases hentries : selector.entries ≤ limits.maxSelectedResources
    · rw [if_pos hentries]
      exact .of_eq rfl
    · rw [if_neg hentries]
      exact ⟨.inr ⟨_, rfl, _, rfl⟩, fun hfits => absurd hfits.entries_le hentries⟩
  rw [acquire]
  refine hselected.bind fun _ => ?_
  rw [show (Daemon.fixed id stream).freshId = some id from rfl, hnew']
  obtain ⟨hwithin, hinventory⟩ := @inventory_tightens id id' stream limits _ _ _ _ hversioned _ h
  refine ((exchange_tightens hsound hsound' _ hversion).mono hwithin).bind fun hversion' => ?_
  simp only [hapi, ok_bind]
  exact hinventory (exchange_eq_ok hsound' hversion').2.1

/-- Limits are tight and otherwise invisible: a run that succeeds under some limits
succeeds under other ones with the same capture exactly when that capture fits them,
and each resource inspected costs one expansion. -/
theorem acquire_tight {limits' : Limits} {completed : Capture} (hvalid : limits.Valid)
    (h : acquire fromSlice (.fixed id' stream) selector limits' = .ok completed) :
    ((∃ tight, acquire fromSlice (.fixed id stream) selector limits = .ok tight) ↔
      FitsLimits limits selector completed) ∧
    (∀ tight, acquire fromSlice (.fixed id stream) selector limits = .ok tight →
      tight = { completed with observationId := id }) ∧
    (¬ FitsLimits limits selector completed →
      ∃ error, acquire fromSlice (.fixed id stream) selector limits = .error (.budget error)) ∧
    completed.bounds.expansions = (inspected completed).length ∧
    completed.bounds.expansions = (inspectedIds completed .container).length +
      (inspectedIds completed .network).length + (inspectedIds completed .volume).length ∧
    (∀ kind, (inspectedIds completed kind).Nodup) ∧
    ∃ picked, Picks fromSlice selector (listBody completed) picked ∧
      inspectedIds completed .container = picked.eraseDups := by
  obtain ⟨history, hacquired⟩ := acquire_eq_ok h
  obtain ⟨hcases, hfits⟩ := @acquire_follows id id' stream limits _ _ _ _ hvalid h
  have hunique : ∀ tight, acquire fromSlice (.fixed id stream) selector limits = .ok tight →
      tight = { completed with observationId := id } := by
    intro tight htight
    rcases hcases with hok | ⟨error, herror, -⟩
    · rw [htight, Except.ok.injEq] at hok
      exact hok
    · rw [htight] at herror
      contradiction
  have hif : (∃ tight, acquire fromSlice (.fixed id stream) selector limits = .ok tight) →
      FitsLimits limits selector completed := by
    rintro ⟨tight, htight⟩
    obtain ⟨history', hacquired'⟩ := acquire_eq_ok htight
    obtain ⟨hrequests, hexpansions, hselected, hentries, hbody, htotal⟩ := hacquired'.fits
    rw [hunique tight htight] at hrequests hexpansions hselected hbody htotal
    exact ⟨hrequests, hexpansions, hselected, hentries, hbody, htotal⟩
  refine ⟨⟨hif, fun h => ⟨_, hfits h⟩⟩, hunique, fun hexceeds => ?_, ?_,
    hacquired.expansions_eq_inspectedIds, hacquired.inspectedIds_nodup, history.picked, ?_, ?_⟩
  · rcases hcases with hok | ⟨_, herror, error, rfl⟩
    · exact absurd (hif ⟨_, hok⟩) hexceeds
    · exact ⟨error, herror⟩
  · rw [hacquired.inspected_eq, List.length_map, hacquired.expansions_eq]
  · rw [hacquired.listBody_eq]
    exact hacquired.picks
  · rw [hacquired.inspectedIds_eq, hacquired.containers_eq]

end

/-- A response with a declared length. -/
def respond (body : String) : Except AcquisitionError Wire :=
  .ok ⟨[asBytes ("HTTP/1.1 200\r\nContent-Length:" ++ toString body.utf8ByteSize ++ "\r\n\r\n"),
    asBytes body], none⟩

/-- A daemon with one volume. -/
def volumeStream (path : String) : Except AcquisitionError Wire :=
  if path = "/version" then respond "\x7b\"ApiVersion\":\"1.45\"\x7d"
  else if path = "/v1.45/info" then respond "\x7b\x7d"
  else if path = "/v1.45/volumes/data" then respond "\x7b\"Name\":\"data\"\x7d"
  else .error .io

def volumeSelector : Selector := .volumeNames [⟨"data", by decide⟩]

def wideLimits : Limits := ⟨6, 2, 4, 300, 2000, 1, by decide⟩

def narrowLimits : Limits := ⟨3, 1, 1, 21, 38, 1, by decide⟩

theorem acquire_tight_volume :
    ∃ completed, acquire Json.fromSlice (.fixed ⟨1⟩ volumeStream) volumeSelector wideLimits =
        .ok completed ∧
      ((∃ tight, acquire Json.fromSlice (.fixed ⟨2⟩ volumeStream) volumeSelector narrowLimits =
        .ok tight) ↔ FitsLimits narrowLimits volumeSelector completed) := by
  obtain ⟨completed, h⟩ := exists_of_isOk (show (acquire Json.fromSlice
    (.fixed ⟨1⟩ volumeStream) volumeSelector wideLimits).isOk = true by decide +kernel)
  have hvalid : narrowLimits.Valid := rfl
  exact ⟨completed, h, (acquire_tight hvalid h).1⟩

end DockerLens.Acquisition
