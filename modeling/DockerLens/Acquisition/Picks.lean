import DockerLens.Acquisition.History

namespace DockerLens.Acquisition

open DockerLens.Text
open DockerLens.Json
open DockerLens.Observation
open DockerLens.Evidence
open DockerLens.Fold

/-- Names are matched only together with the entry that holds them. -/
def MatchedWith (matched : List String) (state : List String × Bool) : Prop :=
  state.1 = matched ∨ state.2 = true

theorem matchName_matched {native : String} {matched : List String} {name : NativeId}
    {state next : List String × Bool} (hstate : MatchedWith matched state)
    (h : matchName native state name = .ok next) : MatchedWith matched next := by
  rw [matchName] at h
  split at h
  · split at h
    · cases h
    · cases h
      exact .inr rfl
  · cases h
    exact hstate

theorem matchNative_matched {selector : Selector} {matched : List String} {native : Value}
    {state next : List String × Bool} (hstate : MatchedWith matched state)
    (h : matchNative selector state native = .ok next) : MatchedWith matched next := by
  rw [matchNative] at h
  split at h
  · cases h
  · dsimp only at h
    split at h
    · exact foldlM_induction (motive := fun _ state => MatchedWith matched state)
        (fun _ _ _ _ hbefore hstep => matchName_matched hbefore hstep) hstate h
    · cases h
      rcases hstate with hsame | hfound
      · exact .inl hsame
      · exact .inr (by simp [hfound])
    · cases h
      exact hstate

theorem matchEntry_matched {selector : Selector} {entry : Value} {matched names : List String}
    {found : Bool} (h : matchEntry selector entry matched = .ok (names, found)) :
    MatchedWith matched (names, found) := by
  cases selector with
  | allContainers | discovery =>
      cases h
      exact .inl rfl
  | containerNames _ | namePrefix _ =>
      rw [matchEntry, matchNames] at h
      split at h
      · cases h
      · split at h
        · cases h
        · exact foldlM_induction (motive := fun _ state => MatchedWith matched state)
            (fun _ _ _ _ hbefore hstep => matchNative_matched hbefore hstep) (.inl rfl) h
  | label key value =>
      rw [matchEntry] at h
      cases hlabel : matchLabel key value entry with
      | error => simp [hlabel, Except.map] at h
      | ok found =>
          simp only [hlabel, Except.map, Except.ok.injEq, Prod.mk.injEq] at h
          exact .inl h.1.symm
  | containerIds _ | networkIds _ | volumeNames _ => cases h

/-- What `selected_ids` keeps true from entry to entry. -/
structure Listed (selector : Selector) (entries : List Value) (listing : Listing) : Prop where
  mem : ∀ id ∈ listing.selected, ∃ entry ∈ entries,
    (entry.get "Id").bind Value.asStr = some id.text
  matched : listing.matchedNames ≠ [] → listing.selected ≠ []
  all : selector = .allContainers → entries ≠ [] → listing.selected ≠ []

theorem listEntry_listed {selector : Selector} {entries : List Value} {entry : Value}
    {listing next : Listing} (hlisted : Listed selector entries listing)
    (h : listEntry selector listing entry = .ok next) :
    Listed selector (entries ++ [entry]) next := by
  rw [listEntry] at h
  split at h
  · cases h
  split at h
  · cases h
  next id hid =>
  split at h
  · cases h
  split at h
  · cases h
  split at h
  · cases h
  next names found hmatch =>
  cases h
  have hmatched := matchEntry_matched hmatch
  have htext : (entry.get "Id").bind Value.asStr = some id.text := by
    obtain ⟨text, htext, hnew⟩ := Option.bind_eq_some_iff.mp hid
    rw [htext, NativeId.new_eq_some_iff.mp hnew]
  refine ⟨?_, ?_, ?_⟩
  · intro other hother
    have hcases : other ∈ listing.selected ∨ other = id := by
      cases found
      · exact .inl hother
      · simpa using hother
    rcases hcases with hold | rfl
    · obtain ⟨old, hold, hget⟩ := hlisted.mem other hold
      exact ⟨old, List.mem_append_left _ hold, hget⟩
    · exact ⟨entry, by simp, htext⟩
  · intro hnames
    rcases hmatched with hsame | hfound
    · have hbefore := hlisted.matched (hsame ▸ hnames)
      cases found <;> simp [hbefore]
    · simp only at hfound
      simp [hfound]
  · rintro rfl -
    rw [matchEntry] at hmatch
    cases hmatch
    simp

theorem selectedIds_eq_ok {fromSlice : Bytes → Option Value} {body : Bytes}
    {selector : Selector} {picked : List NativeId}
    (h : selectedIds fromSlice body selector = .ok picked) :
    ∃ entries listing, (fromSlice body).bind Value.asArray = some entries ∧
      rejectedByList selector = false ∧ unmatched selector listing = false ∧
      Listed selector entries listing ∧ picked = listing.selected := by
  rw [selectedIds] at h
  split at h
  · cases h
  next entries hentries =>
  split at h
  · cases h
  split at h
  · cases h
  next hrejected =>
  split at h
  · cases h
  next listing hlisting =>
  split at h
  · cases h
  next hunmatched =>
  cases h
  refine ⟨entries, listing, hentries, by simpa using hrejected, by simpa using hunmatched, ?_,
    rfl⟩
  exact foldlM_induction (motive := Listed selector)
    (fun _ _ _ _ hbefore hstep => listEntry_listed hbefore hstep)
    ⟨by simp, by simp, by simp⟩ hlisting

namespace Selector

/-- The kind of the resources that become roots under a selector. -/
def rootKind : Selector → RootKind
  | .networkIds _ => .network
  | .volumeNames _ => .volume
  | .containerIds _ | .containerNames _ | .namePrefix _ | .label _ _ | .discovery
  | .allContainers => .container

/-- The reason that the roots of a selector state. -/
def rootReason : Selector → SelectionReason
  | .networkIds _ => .exactNetworkId
  | .volumeNames _ => .exactVolumeName
  | selector => reason selector

/-- The resources that a selector picks, from a list where it needs one. -/
def Targets (fromSlice : Bytes → Option Value) (selector : Selector) (listBody : Option Bytes)
    (targets : List NativeId) : Prop :=
  match selector with
  | .networkIds ids => targets = ids
  | .volumeNames names => targets = names
  | .containerIds _ | .containerNames _ | .namePrefix _ | .label _ _ | .discovery
  | .allContainers => Picks fromSlice selector listBody targets

end Selector

/-- The inspections of one kind. -/
def History.inspections (history : History) : RootKind → List Inspection
  | .container => history.containers
  | .network => history.networks
  | .volume => history.volumes

namespace Acquired

variable {fromSlice : Bytes → Option Value} {selector : Selector} {limits : Limits}
  {capture : Capture} {history : History}

theorem inspections_kind (h : Acquired fromSlice selector limits capture history)
    {kind : RootKind} {inspection : Inspection} (hmem : inspection ∈ history.inspections kind) :
    inspection.kind = kind := by
  cases kind with
  | container => exact h.containers_kind inspection hmem
  | network => exact h.networks_kind inspection hmem
  | volume => exact h.volumes_kind inspection hmem

theorem mem_found {inspection : Inspection} :
    inspection ∈ history.found ↔ ∃ kind, inspection ∈ history.inspections kind := by
  simp only [History.found, List.mem_append]
  constructor
  · rintro ((hmem | hmem) | hmem)
    · exact ⟨.container, hmem⟩
    · exact ⟨.network, hmem⟩
    · exact ⟨.volume, hmem⟩
  · rintro ⟨kind, hmem⟩
    cases kind with
    | container => exact .inl (.inl hmem)
    | network => exact .inl (.inr hmem)
    | volume => exact .inr hmem

theorem root_eq_some {inspection : Inspection} (h : inspection.kind = selector.rootKind) :
    inspection.root selector =
      some ⟨inspection.reference, selector.rootKind, selector.rootReason⟩ := by
  cases selector <;>
    simp_all [Inspection.root, Inspection.rootOf, Selector.rootKind, Selector.rootReason,
      networkRoot, volumeRoot]

theorem root_eq_none {inspection : Inspection} (h : inspection.kind ≠ selector.rootKind)
    (hkind : inspection.kind ≠ .container) : inspection.root selector = none := by
  cases hfound : inspection.kind with
  | container => exact absurd hfound hkind
  | network | volume =>
      cases selector <;>
        simp_all [Inspection.root, Inspection.rootOf, Selector.rootKind, networkRoot, volumeRoot]

theorem containers_eq_nil (h : Acquired fromSlice selector limits capture history)
    (hkind : selector.rootKind ≠ .container) : history.containers = [] := by
  have hpicked : history.picked = [] := by
    have hpicks := h.picks
    cases selector <;> first | exact absurd rfl hkind | exact hpicks.2
  have hids := h.containers_eq
  rw [hpicked, List.eraseDups_nil] at hids
  exact List.map_eq_nil_iff.mp hids

theorem filterMap_root_eq_map (h : Acquired fromSlice selector limits capture history) :
    (history.inspections selector.rootKind).filterMap (Inspection.root selector) =
      (history.inspections selector.rootKind).map fun inspection =>
        ⟨inspection.reference, selector.rootKind, selector.rootReason⟩ :=
  filterMap_of_forall fun _ hmem => root_eq_some (h.inspections_kind hmem)

theorem filterMap_root_eq_nil (h : Acquired fromSlice selector limits capture history)
    {kind : RootKind} (hother : kind ≠ selector.rootKind) (hkind : kind ≠ .container) :
    (history.inspections kind).filterMap (Inspection.root selector) = [] := by
  rw [List.filterMap_eq_nil_iff]
  intro inspection hmem
  have hsame := h.inspections_kind hmem
  exact root_eq_none (hsame ▸ hother) (hsame ▸ hkind)

theorem selectedRoots_eq (h : Acquired fromSlice selector limits capture history) :
    capture.selectedRoots = (history.inspections selector.rootKind).map fun inspection =>
      ⟨inspection.reference, selector.rootKind, selector.rootReason⟩ := by
  rw [h.roots_eq, ← h.filterMap_root_eq_map, History.found, List.filterMap_append,
    List.filterMap_append]
  have hnone : ∀ kind ≠ selector.rootKind, kind ≠ .container →
      (history.inspections kind).filterMap (Inspection.root selector) = [] :=
    fun _ => h.filterMap_root_eq_nil
  cases hkind : selector.rootKind with
  | container =>
      have hnetworks := hnone .network (by simp [hkind]) (by simp)
      have hvolumes := hnone .volume (by simp [hkind]) (by simp)
      simp only [History.inspections] at hnetworks hvolumes ⊢
      simp [hnetworks, hvolumes]
  | network =>
      have hvolumes := hnone .volume (by simp [hkind]) (by simp)
      simp only [History.inspections] at hvolumes ⊢
      simp [hvolumes, h.containers_eq_nil (by simp [hkind])]
  | volume =>
      have hnetworks := hnone .network (by simp [hkind]) (by simp)
      simp only [History.inspections] at hnetworks ⊢
      simp [hnetworks, h.containers_eq_nil (by simp [hkind])]

theorem related_eq_ofSelector (h : Acquired fromSlice selector limits capture history)
    (hkind : selector.rootKind ≠ .container) : history.related = Related.ofSelector selector := by
  rw [h.related_eq, h.containers_eq_nil hkind, List.foldl_nil]

theorem networks_id_eq (h : Acquired fromSlice selector limits capture history) :
    history.networks.map Inspection.id = keys history.related.sortedNetworks := by
  rw [keys, ← h.networks_eq, List.map_map]
  rfl

/-- The inspections of the selector's own kind are those that it picks, once each. -/
theorem targets (h : Acquired fromSlice selector limits capture history) :
    ∃ targets, selector.Targets fromSlice history.listBody targets ∧
      ((history.inspections selector.rootKind).map Inspection.id).Perm targets.eraseDups := by
  cases hselector : selector with
  | networkIds ids =>
      refine ⟨ids, rfl, ?_⟩
      have hrelated := h.related_eq_ofSelector (by simp [hselector, Selector.rootKind])
      change (history.networks.map Inspection.id).Perm _
      rw [h.networks_id_eq, hrelated]
      refine ((Related.ofSelector selector).sortedNetworks_perm.map Prod.fst).trans ?_
      rw [hselector, Related.ofSelector, List.map_map]
      simp [Function.comp_def]
  | volumeNames names =>
      refine ⟨names, rfl, ?_⟩
      have hrelated := h.related_eq_ofSelector (by simp [hselector, Selector.rootKind])
      change (history.volumes.map Inspection.id).Perm _
      rw [h.volumes_eq, hrelated]
      refine (Related.ofSelector selector).sortedVolumes_perm.trans ?_
      rw [hselector]
      rfl
  | containerIds _ | containerNames _ | namePrefix _ | label _ _ | discovery | allContainers =>
      have hpicks := h.picks
      rw [hselector] at hpicks
      refine ⟨history.picked, hpicks, ?_⟩
      change (history.containers.map Inspection.id).Perm _
      rw [h.containers_eq]

theorem length_selectedRoots (h : Acquired fromSlice selector limits capture history) :
    capture.selectedRoots.length = capture.bounds.selectedResources := by
  rw [h.selectedRoots_eq, List.length_map, h.selectedResources_eq]
  have hcontainers := congrArg List.length h.containers_eq
  have hpicks := h.picks
  have hrelated := h.related_eq_ofSelector
  have hnetworks := congrArg List.length h.networks_id_eq
  have hvolumes := congrArg List.length h.volumes_eq
  rw [List.length_map] at hcontainers hnetworks hvolumes
  rw [keys, List.length_map] at hnetworks
  cases selector with
  | networkIds ids =>
      rw [hrelated (by simp [Selector.rootKind]),
        (Related.ofSelector (.networkIds ids)).sortedNetworks_perm.length_eq] at hnetworks
      simp [History.inspections, Selector.rootKind, hnetworks, hpicks.2, Related.ofSelector]
  | volumeNames names =>
      rw [hrelated (by simp [Selector.rootKind]),
        (Related.ofSelector (.volumeNames names)).sortedVolumes_perm.length_eq] at hvolumes
      simp [History.inspections, Selector.rootKind, hvolumes, hpicks.2, Related.ofSelector]
  | containerIds _ | containerNames _ | namePrefix _ | label _ _ | discovery | allContainers =>
      simp [History.inspections, Selector.rootKind, hcontainers, Related.ofSelector]

end Acquired

end DockerLens.Acquisition
