import DockerLens.Acquisition.Trace

namespace DockerLens.Acquisition

open DockerLens.Text
open DockerLens.Json
open DockerLens.Observation
open DockerLens.Version
open DockerLens.Evidence
open DockerLens.Fold

/-- What a successful acquisition went through. -/
structure History where
  api : ApiVersion
  versionBody : Bytes
  infoBody : Bytes
  listBody : Option Bytes
  picked : List NativeId
  containers : List Inspection
  networks : List Inspection
  volumes : List Inspection
  related : Related

namespace History

def found (history : History) : List Inspection :=
  history.containers ++ history.networks ++ history.volumes

def versionExchange (history : History) : CapturedExchange :=
  ⟨.daemonVersion, none, none, okStatus, history.versionBody⟩

def infoExchange (history : History) : CapturedExchange :=
  ⟨.daemonInfo, none, some history.api, okStatus, history.infoBody⟩

def listExchange (history : History) (body : Bytes) : CapturedExchange :=
  ⟨.listContainers, none, some history.api, okStatus, body⟩

def exchanges (history : History) : List CapturedExchange :=
  [history.versionExchange, history.infoExchange] ++
    history.listBody.toList.map history.listExchange ++
    history.found.map (Inspection.exchange history.api)

end History

/-- The containers that a selector picks, from a list where it needs one. -/
def Picks (fromSlice : Bytes → Option Value) (selector : Selector) (listBody : Option Bytes)
    (picked : List NativeId) : Prop :=
  match selector with
  | .containerIds ids => listBody = none ∧ picked = ids
  | .networkIds _ | .volumeNames _ => listBody = none ∧ picked = []
  | .containerNames _ | .namePrefix _ | .label _ _ | .discovery | .allContainers =>
      ∃ body, listBody = some body ∧ selectedIds fromSlice body selector = .ok picked

/-- The selectors that have the containers listed. -/
def Selector.lists : Selector → Bool
  | .containerIds _ | .networkIds _ | .volumeNames _ => false
  | .containerNames _ | .namePrefix _ | .label _ _ | .discovery | .allContainers => true

theorem isSome_of_picks {fromSlice : Bytes → Option Value} {selector : Selector}
    {listBody : Option Bytes} {picked : List NativeId}
    (h : Picks fromSlice selector listBody picked) : listBody.isSome = selector.lists := by
  cases selector with
  | containerIds _ | networkIds _ | volumeNames _ =>
      obtain ⟨rfl, -⟩ := h
      rfl
  | containerNames _ | namePrefix _ | label _ _ | discovery | allContainers =>
      obtain ⟨body, rfl, -⟩ := h
      rfl

/-- The entries of a selector that names its resources. -/
def Selector.entries : Selector → Nat
  | .containerIds ids | .networkIds ids => ids.length
  | .volumeNames names | .containerNames names => names.length
  | .namePrefix _ | .label _ _ | .discovery | .allContainers => 0

theorem tooMany_of_not {limits : Limits} {count : Nat} (h : ¬ tooMany limits count = true)
    (other : Limits) :
    (tooMany other count = true) ↔ ¬ count ≤ other.maxSelectedResources := by
  simp only [tooMany, Bool.or_eq_true, decide_eq_true_eq, not_or, Nat.not_lt] at h ⊢
  omega

/-- A selector that is valid under some limits is valid under all that have room for
its entries. -/
theorem validateSelector_of_ok {selector : Selector} {limits : Limits}
    (h : validateSelector selector limits = .ok ()) (other : Limits) :
    validateSelector selector other =
      if selector.entries ≤ other.maxSelectedResources then .ok ()
      else .error (.budget .selectedResources) := by
  by_cases hentries : selector.entries ≤ other.maxSelectedResources
  · rw [if_pos hentries]
    cases selector with
    | containerIds ids | networkIds ids =>
        simp only [validateSelector] at h ⊢
        split_ifs at h with hmany hvalid
        rw [if_neg ((tooMany_of_not hmany other).not.mpr (not_not.mpr hentries)), if_neg hvalid]
    | volumeNames names | containerNames names =>
        simp only [validateSelector] at h ⊢
        split_ifs at h with hvalid hmany
        rw [if_neg hvalid, if_neg ((tooMany_of_not hmany other).not.mpr (not_not.mpr hentries))]
    | namePrefix _ | label _ _ | discovery | allContainers => exact h
  · rw [if_neg hentries]
    cases selector with
    | containerIds ids | networkIds ids =>
        simp only [validateSelector] at h ⊢
        split_ifs at h with hmany hvalid
        rw [if_pos ((tooMany_of_not hmany other).mpr hentries)]
    | volumeNames names | containerNames names =>
        simp only [validateSelector] at h ⊢
        split_ifs at h with hvalid hmany
        rw [if_neg hvalid, if_pos ((tooMany_of_not hmany other).mpr hentries)]
    | namePrefix _ | label _ _ | discovery | allContainers =>
        exact absurd (Nat.zero_le _) hentries

theorem entries_le_of_validateSelector {selector : Selector} {limits : Limits}
    (h : validateSelector selector limits = .ok ()) :
    selector.entries ≤ limits.maxSelectedResources := by
  by_contra hentries
  rw [validateSelector_of_ok h limits, if_neg hentries] at h
  simp at h

/-- A completed capture that other limits would have let through. -/
structure FitsLimits (limits : Limits) (selector : Selector) (capture : Capture) : Prop where
  requests_le : capture.bounds.requestCount ≤ limits.maxRequests
  expansions_le : capture.bounds.expansions ≤ limits.maxExpansions
  selectedResources_le : capture.bounds.selectedResources ≤ limits.maxSelectedResources
  entries_le : selector.entries ≤ limits.maxSelectedResources
  body_le : ∀ exchange ∈ capture.exchanges, exchange.body.length ≤ limits.maxResponseBytes
  total_le : totalBytes capture.exchanges ≤ limits.maxTotalBytes

/-- The history of a capture. -/
structure Acquired (fromSlice : Bytes → Option Value) (selector : Selector) (limits : Limits)
    (capture : Capture) (history : History) : Prop where
  selector_valid : validateSelector selector limits = .ok ()
  negotiated : negotiatedApi fromSlice history.versionBody = .ok history.api
  picks : Picks fromSlice selector history.listBody history.picked
  containers_eq : history.containers.map Inspection.id = history.picked.eraseDups
  containers_kind : ∀ inspection ∈ history.containers, inspection.kind = .container
  containers_readable : ∀ inspection ∈ history.containers,
    relatedIds fromSlice inspection.body = .ok (relatedOf fromSlice inspection.body)
  related_eq : history.related = history.containers.foldl
    (fun related inspection => related.merge (relatedOf fromSlice inspection.body))
    (Related.ofSelector selector)
  networks_eq : history.networks.map (fun inspection => (inspection.id, inspection.byName)) =
    history.related.sortedNetworks
  networks_kind : ∀ inspection ∈ history.networks, inspection.kind = .network
  natives : ∃ natives : List NativeId, natives.Nodup ∧
    history.networks.map (fun inspection => inspectedNetworkId fromSlice inspection.body) =
      natives.map .ok
  volumes_eq : history.volumes.map Inspection.id = history.related.sortedVolumes
  volumes_kind : ∀ inspection ∈ history.volumes, inspection.kind = .volume
  identified : ∀ inspection ∈ history.found, Identified fromSlice inspection
  references_eq : history.found.map Inspection.reference =
    (List.range' 1 history.found.length).map ResourceRef.mk
  exchanges_eq : capture.exchanges = history.exchanges
  roots_eq : capture.selectedRoots = history.found.filterMap (Inspection.root selector)
  fallbacks_eq : capture.networkNameFallbacks =
    (history.networks.filter Inspection.byName).map Inspection.reference
  selector_eq : capture.selector = some selector
  discoveryOnly_eq : capture.discoveryOnly = decide (selector = .discovery)
  requestCount_eq : capture.bounds.requestCount = capture.exchanges.length
  expansions_eq : capture.bounds.expansions = history.found.length
  selectedResources_eq : capture.bounds.selectedResources =
    history.picked.eraseDups.length + (Related.ofSelector selector).networks.length +
      (Related.ofSelector selector).volumes.length
  bytesRead_eq : capture.bounds.bytesRead = totalBytes capture.exchanges
  body_le : ∀ exchange ∈ capture.exchanges, exchange.body.length ≤ maxJsonBytes
  fits : FitsLimits limits selector capture

section
variable {fromSlice : Bytes → Option Value} {daemon : Daemon} {api : ApiVersion}
  {selector : Selector}

theorem intoCapture_eq_ok {budget : Budget} {elapsed : Duration} {completed : Capture}
    (hsound : budget.Sound) (h : capture budget elapsed = .ok completed) :
    completed.exchanges = budget.exchanges ∧ completed.bounds = budget.counts ∧
      completed.bounds.requestCount = completed.exchanges.length ∧
      completed.bounds.bytesRead = totalBytes completed.exchanges ∧ budget.Accounted := by
  rw [capture] at h
  split at h
  · simp at h
  · next captured hcapture =>
      simp only [Except.ok.injEq] at h
      subst h
      rw [Budget.intoCapture] at hcapture
      split at hcapture
      · simp at hcapture
      · next hlive =>
          split at hcapture
          · simp at hcapture
          · split at hcapture
            · simp at hcapture
            · split at hcapture
              · simp at hcapture
              · next hcompleted =>
                  simp only [Except.ok.injEq] at hcapture
                  subst hcapture
                  obtain ⟨hcount, -, rfl⟩ := Capture.fromCompleted_eq_ok_iff.mp hcompleted
                  have haccounted := hsound (by simpa using hlive)
                  exact ⟨rfl, rfl, hcount, haccounted.bytesRead_eq, haccounted⟩

/-- The containers that a selector takes from their list. -/
def selectListed (fromSlice : Bytes → Option Value) (daemon : Daemon) (api : ApiVersion)
    (selector : Selector) (budget : Budget) :
    Except AcquisitionError (List NativeId × Budget) := do
  let (body, budget) ← exchange daemon budget .listContainers none (some api)
  let ids ← selectedIds fromSlice body selector
  .ok (ids.eraseDups, budget)

/-- The exchanges up to the selection of the containers. -/
theorem selectContainers_eq_ok {budget after : Budget} {containers : List NativeId}
    (hsound : budget.Sound)
    (h : selectContainers fromSlice daemon api selector budget = .ok (containers, after)) :
    ∃ listBody picked, Picks fromSlice selector listBody picked ∧
      containers = picked.eraseDups ∧ after.Sound ∧
      after.exchanges = budget.exchanges ++
        listBody.toList.map (fun body => ⟨.listContainers, none, some api, okStatus, body⟩) ∧
      after.expansions = budget.expansions ∧
      after.selectedResources = budget.selectedResources ∧ after.limits = budget.limits ∧
      ∀ body ∈ listBody, body.length ≤ maxJsonBytes := by
  have hlisted (hlist : selectListed fromSlice daemon api selector budget =
      .ok (containers, after)) :
      ∃ body picked, selectedIds fromSlice body selector = .ok picked ∧
        containers = picked.eraseDups ∧ after.Sound ∧
        after.exchanges = budget.exchanges ++
          [⟨.listContainers, none, some api, okStatus, body⟩] ∧
        after.expansions = budget.expansions ∧
        after.selectedResources = budget.selectedResources ∧ after.limits = budget.limits ∧
        body.length ≤ maxJsonBytes := by
    simp only [selectListed, bind_eq_ok_iff, Prod.exists, Except.ok.injEq, Prod.mk.injEq] at hlist
    obtain ⟨body, listed, hexchange, picked, hpicked, rfl, rfl⟩ := hlist
    obtain ⟨rfl, hafter, hle, hreferenced, -⟩ := exchange_eq_ok hsound hexchange
    refine ⟨body, picked, hpicked, rfl, hafter, by simp, ?_, by simp, by simp, hle⟩
    rw [completed_expansions hreferenced]
    rfl
  cases selector with
  | containerIds ids =>
      simp only [selectContainers, Except.ok.injEq, Prod.mk.injEq] at h
      obtain ⟨rfl, rfl⟩ := h
      exact ⟨none, ids, ⟨rfl, rfl⟩, rfl, hsound, by simp, rfl, rfl, rfl, by simp⟩
  | networkIds ids | volumeNames ids =>
      simp only [selectContainers, Except.ok.injEq, Prod.mk.injEq] at h
      obtain ⟨rfl, rfl⟩ := h
      exact ⟨none, [], ⟨rfl, rfl⟩, rfl, hsound, by simp, rfl, rfl, rfl, by simp⟩
  | containerNames _ | namePrefix _ | label _ _ | discovery | allContainers =>
      obtain ⟨body, picked, hpicked, hcontainers, hafter, hexchanges, hexpansions, hselected,
        hlimits, hle⟩ := hlisted h
      exact ⟨some body, picked, ⟨body, rfl, hpicked⟩, hcontainers, hafter, hexchanges,
        hexpansions, hselected, hlimits, by simpa using hle⟩

end

theorem new_eq_ok {limits : Limits} {fresh : Option ObservationId} {budget : Budget}
    (h : Budget.new limits fresh = .ok budget) :
    budget.exchanges = [] ∧ budget.expansions = 0 ∧ budget.selectedResources = 0 := by
  rw [Budget.new] at h
  split at h
  · simp at h
  · split at h
    · simp at h
    · simp only [Except.ok.injEq] at h
      subst h
      exact ⟨rfl, rfl, rfl⟩

/-- Every successful acquisition has a history. -/
theorem acquire_eq_ok {fromSlice : Bytes → Option Value} {daemon : Daemon}
    {selector : Selector} {limits : Limits} {capture : Capture}
    (h : acquire fromSlice daemon selector limits = .ok capture) :
    ∃ history, Acquired fromSlice selector limits capture history := by
  simp only [acquire, bind_eq_ok_iff] at h
  obtain ⟨⟨⟩, hselector, h⟩ := h
  split at h
  · simp at h
  next budget hnew =>
  obtain ⟨hlimits, hsound⟩ := Budget.sound_new hnew
  obtain ⟨hexchanges, hexpansions, hselected⟩ := new_eq_ok hnew
  simp only [bind_eq_ok_iff, Prod.exists] at h
  obtain ⟨versionBody, versioned, hversion, api, hapi, h⟩ := h
  obtain ⟨rfl, hsound, hversionBody, hreferenced, -⟩ := exchange_eq_ok hsound hversion
  simp only [inventory, bind_eq_ok_iff, Prod.exists, charged_eq_ok_iff, Except.ok.injEq] at h
  obtain ⟨infoBody, informed, hinfo, containers, listed, hselect, ⟨⟩, selected, hselection,
    gathering, hgather, networks, hnetworks, progress, hvolumes, ⟨⟩, -, completed, hcapture,
    rfl⟩ := h
  obtain ⟨rfl, hsound, hinfoBody, hreferencedInfo, -⟩ := exchange_eq_ok hsound hinfo
  obtain ⟨listBody, picked, hpicks, rfl, hsound, hlistExchanges, hlistExpansions,
    hlistSelected, hlistLimits, hlistBody⟩ := selectContainers_eq_ok hsound hselect
  obtain ⟨hselectable, rfl⟩ := Budget.recordSelection_ok_iff.mp hselection
  have hsound := hsound.selected hselectable.2
  obtain ⟨cs, hcs⟩ := inspectContainers_eq_ok hsound hgather
  obtain ⟨ns, hns⟩ := inspectNetworks_eq_ok (hcs.inspects.sound hsound) hnetworks
  obtain ⟨vs, hvs⟩ := inspectVolumes_eq_ok
    (hns.inspects.sound (hcs.inspects.sound hsound)) hvolumes
  have hall := (hcs.inspects.trans hns.inspects).trans hvs.inspects
  obtain ⟨hcaptured, hcounts, hrequestCount, hbytesRead, haccounted⟩ :=
    intoCapture_eq_ok (hall.sound hsound) hcapture
  have hfinal : progress.budget.limits = limits := by
    rw [hall.limits_eq, ← hlimits]
    simp [Budget.selected, hlistLimits]
  refine ⟨⟨api, versionBody, infoBody, listBody, picked, cs, ns, vs, gathering.related⟩,
    ?_⟩
  refine
    { selector_valid := hselector
      negotiated := hapi
      picks := hpicks
      containers_eq := hcs.ids_eq
      containers_kind := hcs.kind_eq
      containers_readable := hcs.readable
      related_eq := hcs.related_eq
      networks_eq := hns.entries_eq
      networks_kind := hns.kind_eq
      natives := ⟨networks.inspectedIds, hns.inspectedIds_nodup List.nodup_nil, by
        simpa using hns.natives⟩
      volumes_eq := hvs.ids_eq
      volumes_kind := hvs.kind_eq
      identified := ?_
      references_eq := hall.references_eq
      exchanges_eq := ?_
      roots_eq := by simpa [History.found, withSelection] using hall.roots_eq
      fallbacks_eq := by simpa [withSelection] using hns.fallbacks_eq
      selector_eq := rfl
      discoveryOnly_eq := rfl
      requestCount_eq := hrequestCount
      expansions_eq := ?_
      selectedResources_eq := ?_
      bytesRead_eq := hbytesRead
      body_le := ?_
      fits := ?_ }
  · intro inspection hmem
    simp only [History.found, List.mem_append] at hmem
    rcases hmem with (hmem | hmem) | hmem
    · exact hcs.identified inspection hmem
    · exact hns.identified inspection hmem
    · exact hvs.identified inspection hmem
  · rw [withSelection_exchanges, hcaptured, hall.exchanges_eq, Budget.selected, hlistExchanges,
      completed_exchanges,
      completed_exchanges, hexchanges]
    rfl
  · rw [withSelection_bounds, hcounts]
    simp only [Budget.counts, hall.expansions_eq, Budget.selected, hlistExpansions,
      completed_expansions hreferencedInfo, completed_expansions hreferenced, hexpansions]
    simp [Budget.cost, ReadRequest.inspected, History.found]
  · rw [withSelection_bounds, hcounts]
    simp [Budget.counts, hall.selectedResources_eq, Budget.selected, hlistSelected, hselected,
      Nat.add_assoc]
  · intro exchange hmem
    rw [withSelection_exchanges, hcaptured, hall.exchanges_eq, Budget.selected,
      hlistExchanges] at hmem
    simp only [completed_exchanges, hexchanges, List.nil_append, List.mem_append,
      List.mem_singleton, List.mem_map, Option.mem_toList] at hmem
    rcases hmem with ((rfl | rfl) | ⟨body, hbody, rfl⟩) | ⟨inspection, hinspection, rfl⟩
    · exact hversionBody
    · exact hinfoBody
    · exact hlistBody body hbody
    · exact hall.body_le inspection (by simpa only [List.mem_append] using hinspection)
  · rw [← hfinal]
    refine
      { requests_le := hcounts ▸ haccounted.requests_le
        expansions_le := hcounts ▸ haccounted.expansions_le
        selectedResources_le := hcounts ▸ haccounted.selectedResources_le
        entries_le := hfinal ▸ entries_le_of_validateSelector hselector
        body_le := by simpa only [withSelection_exchanges, hcaptured] using haccounted.body_le
        total_le := ?_ }
    have hle := haccounted.bytesRead_le
    rw [haccounted.bytesRead_eq, ← hcaptured] at hle
    exact hle

/-- The body of the container list of a capture, if it has one. -/
def listBody (capture : Capture) : Option Bytes :=
  (capture.exchanges.find? fun exchange => exchange.request == .listContainers).map
    CapturedExchange.body

/-- The kinds and native ids of a capture's inspections, in order. -/
def inspected (capture : Capture) : List (RootKind × NativeId) :=
  capture.exchanges.filterMap fun exchange => exchange.request.inspected

/-- The native ids that a capture inspects as one kind of resource. -/
def inspectedIds (capture : Capture) (kind : RootKind) : List NativeId :=
  ((inspected capture).filter fun entry => entry.1 = kind).map Prod.snd

theorem filterMap_of_forall {α β : Type} {f : α → Option β} {g : α → β} {values : List α}
    (h : ∀ value ∈ values, f value = some (g value)) : values.filterMap f = values.map g := by
  rw [List.filterMap_congr h, List.filterMap_eq_map']

namespace Acquired

variable {fromSlice : Bytes → Option Value} {selector : Selector} {limits : Limits}
  {capture : Capture} {history : History}

theorem listBody_eq (h : Acquired fromSlice selector limits capture history) :
    listBody capture = history.listBody := by
  rw [listBody, h.exchanges_eq, History.exchanges]
  cases history.listBody with
  | none =>
      have hnone : (history.found.map (Inspection.exchange history.api)).find?
          (fun exchange => exchange.request == .listContainers) = none := by
        rw [List.find?_eq_none]
        rintro exchange hexchange
        obtain ⟨inspection, -, rfl⟩ := List.mem_map.mp hexchange
        simp only [Inspection.exchange, Inspection.request]
        split <;> simp
      simp [History.versionExchange, History.infoExchange, hnone]
  | some body =>
      simp [History.versionExchange, History.infoExchange, History.listExchange]

theorem requests_eq (h : Acquired fromSlice selector limits capture history) :
    capture.exchanges.map CapturedExchange.request =
      [.daemonVersion, .daemonInfo] ++ (if selector.lists then [.listContainers] else []) ++
        history.found.map Inspection.request := by
  have hlist : (history.listBody.toList.map history.listExchange).map CapturedExchange.request =
      if selector.lists then [.listContainers] else [] := by
    rw [← isSome_of_picks h.picks]
    cases history.listBody <;> rfl
  rw [h.exchanges_eq, History.exchanges, List.map_append, List.map_append, hlist, List.map_map]
  rfl

theorem inspected_eq (h : Acquired fromSlice selector limits capture history) :
    inspected capture = history.found.map fun inspection => (inspection.kind, inspection.id) := by
  rw [inspected, h.exchanges_eq, History.exchanges, List.filterMap_append,
    List.filterMap_append]
  have hfound : (history.found.map (Inspection.exchange history.api)).filterMap
      (fun exchange => exchange.request.inspected) =
      history.found.map fun inspection => (inspection.kind, inspection.id) := by
    rw [List.filterMap_map]
    exact filterMap_of_forall fun inspection _ => by simp [Inspection.exchange]
  rw [hfound]
  cases history.listBody <;> rfl

/-- The native ids of one kind are those of that kind's inspections. -/
theorem inspectedIds_eq (h : Acquired fromSlice selector limits capture history)
    (kind : RootKind) :
    inspectedIds capture kind =
      (match kind with
        | .container => history.containers
        | .network => history.networks
        | .volume => history.volumes).map Inspection.id := by
  have hsame : ∀ {kind : RootKind} {found : List Inspection},
      (∀ inspection ∈ found, inspection.kind = kind) →
      ((found.map fun inspection => (inspection.kind, inspection.id)).filter
        fun entry => entry.1 = kind).map Prod.snd = found.map Inspection.id := by
    intro kind found hkind
    rw [List.filter_eq_self.mpr (by simpa using hkind), List.map_map]
    rfl
  have hother : ∀ {kind other : RootKind} {found : List Inspection},
      (∀ inspection ∈ found, inspection.kind = kind) → kind ≠ other →
      (found.map fun inspection => (inspection.kind, inspection.id)).filter
        (fun entry => entry.1 = other) = [] := by
    intro kind other found hkind hne
    rw [List.filter_eq_nil_iff]
    intro entry hentry
    obtain ⟨inspection, hmem, rfl⟩ := List.mem_map.mp hentry
    simpa [hkind inspection hmem] using hne
  rw [inspectedIds, h.inspected_eq, History.found, List.map_append, List.map_append,
    List.filter_append, List.filter_append, List.map_append, List.map_append]
  cases kind with
  | container =>
      rw [hsame h.containers_kind, hother h.networks_kind (by decide),
        hother h.volumes_kind (by decide)]
      simp
  | network =>
      rw [hsame h.networks_kind, hother h.containers_kind (by decide),
        hother h.volumes_kind (by decide)]
      simp
  | volume =>
      rw [hsame h.volumes_kind, hother h.containers_kind (by decide),
        hother h.networks_kind (by decide)]
      simp

theorem inspectedIds_nodup (h : Acquired fromSlice selector limits capture history)
    (kind : RootKind) : (inspectedIds capture kind).Nodup := by
  rw [h.inspectedIds_eq]
  cases kind with
  | container =>
      rw [h.containers_eq]
      exact nodup_eraseDups _
  | network =>
      have hkeys : history.networks.map Inspection.id = keys history.related.sortedNetworks := by
        rw [keys, ← h.networks_eq, List.map_map]
        rfl
      rw [hkeys]
      exact (history.related.sortedNetworks_perm.map Prod.fst).nodup_iff.mpr
        history.related.networks_nodup
  | volume =>
      rw [h.volumes_eq]
      exact history.related.sortedVolumes_perm.nodup_iff.mpr history.related.volumes_nodup

theorem expansions_eq_inspectedIds (h : Acquired fromSlice selector limits capture history) :
    capture.bounds.expansions = (inspectedIds capture .container).length +
      (inspectedIds capture .network).length + (inspectedIds capture .volume).length := by
  rw [h.expansions_eq, h.inspectedIds_eq, h.inspectedIds_eq, h.inspectedIds_eq]
  simp [History.found, Nat.add_assoc]

end Acquired

end DockerLens.Acquisition
