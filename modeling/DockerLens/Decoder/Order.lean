import DockerLens.Decoder.Contribution
import DockerLens.Json.Document

namespace DockerLens.Decoder

open DockerLens.Text
open DockerLens.Json
open DockerLens.Observation
open DockerLens.Acquisition
open DockerLens.Version
open DockerLens.Evidence
open DockerLens.Fold

/-- Two decode states that differ at most in the order of their lists. -/
structure SameDecoding (left right : Decoding) : Prop where
  release : left.release = right.release
  apiVersion : left.apiVersion = right.apiVersion
  minimumApiVersion : left.minimumApiVersion = right.minimumApiVersion
  mode : left.mode = right.mode
  memoryLimit : left.memoryLimit = right.memoryLimit
  swapLimit : left.swapLimit = right.swapLimit
  requestedApiVersions : ∀ api,
    api ∈ left.requestedApiVersions ↔ api ∈ right.requestedApiVersions
  containers : left.containers.Perm right.containers
  discoveredContainers : left.discoveredContainers.Perm right.discoveredContainers
  networks : left.networks.Perm right.networks
  volumes : left.volumes.Perm right.volumes
  findings : left.findings.Perm right.findings
  seenResources : left.seenResources = right.seenResources
  listedIds : left.listedIds = right.listedIds
  inspectedIds : left.inspectedIds = right.inspectedIds
  inspectedNativeObjects : left.inspectedNativeObjects = right.inspectedNativeObjects
  inspectedContainersByRef : left.inspectedContainersByRef = right.inspectedContainersByRef
  selectedFromList : left.selectedFromList = right.selectedFromList
  versionSeen : left.versionSeen = right.versionSeen
  infoSeen : left.infoSeen = right.infoSeen

theorem sameDecoding_equivalence : Equivalence SameDecoding where
  refl decoding := by constructor <;> simp
  symm h := by
    constructor
    case requestedApiVersions => exact fun api => (h.requestedApiVersions api).symm
    case containers => exact h.containers.symm
    case discoveredContainers => exact h.discoveredContainers.symm
    case networks => exact h.networks.symm
    case volumes => exact h.volumes.symm
    case findings => exact h.findings.symm
    all_goals simp only [h.release, h.apiVersion, h.minimumApiVersion, h.mode, h.memoryLimit,
      h.swapLimit, h.seenResources, h.listedIds, h.inspectedIds, h.inspectedNativeObjects,
      h.inspectedContainersByRef, h.selectedFromList, h.versionSeen, h.infoSeen]
  trans h h' := by
    constructor
    case requestedApiVersions =>
      exact fun api => (h.requestedApiVersions api).trans (h'.requestedApiVersions api)
    case containers => exact h.containers.trans h'.containers
    case discoveredContainers => exact h.discoveredContainers.trans h'.discoveredContainers
    case networks => exact h.networks.trans h'.networks
    case volumes => exact h.volumes.trans h'.volumes
    case findings => exact h.findings.trans h'.findings
    all_goals simp only [h.release, h.apiVersion, h.minimumApiVersion, h.mode, h.memoryLimit,
      h.swapLimit, h.seenResources, h.listedIds, h.inspectedIds, h.inspectedNativeObjects,
      h.inspectedContainersByRef, h.selectedFromList, h.versionSeen, h.infoSeen, h'.release,
      h'.apiVersion, h'.minimumApiVersion, h'.mode, h'.memoryLimit, h'.swapLimit,
      h'.seenResources, h'.listedIds, h'.inspectedIds, h'.inspectedNativeObjects,
      h'.inspectedContainersByRef, h'.selectedFromList, h'.versionSeen, h'.infoSeen]

theorem mem_addApi {apis : List ApiVersion} {found : Option ApiVersion} {api : ApiVersion} :
    api ∈ addApi apis found ↔ api ∈ apis ∨ found = some api := by
  cases found with
  | none => simp [addApi]
  | some other =>
      rw [addApi]
      split
      · next hmem =>
          simp only [Option.some.injEq, iff_self_or]
          rintro rfl
          exact hmem
      · simp [eq_comm]

theorem Admits.congr {left right : Decoding} {contribution : Contribution}
    (hsame : SameDecoding left right) (h : Admits left contribution) :
    Admits right contribution where
  release := hsame.release ▸ h.release
  version := hsame.versionSeen ▸ h.version
  info := hsame.infoSeen ▸ hsame.mode ▸ h.info
  listing := hsame.selectedFromList ▸ h.listing
  inspected := hsame.inspectedNativeObjects ▸ hsame.seenResources ▸ h.inspected

theorem SameDecoding.record {left right : Decoding} (h : SameDecoding left right)
    (contribution : Contribution) :
    SameDecoding (left.record contribution) (right.record contribution) where
  release := by simp only [Decoding.record, h.release]
  apiVersion := by simp only [Decoding.record, h.apiVersion]
  minimumApiVersion := by simp only [Decoding.record, h.minimumApiVersion]
  mode := by simp only [Decoding.record, h.mode]
  memoryLimit := by simp only [Decoding.record, h.memoryLimit]
  swapLimit := by simp only [Decoding.record, h.swapLimit]
  requestedApiVersions := by
    intro api
    simp only [Decoding.record, mem_addApi, h.requestedApiVersions api]
  containers := h.containers.append_right _
  discoveredContainers := h.discoveredContainers.append_right _
  networks := h.networks.append_right _
  volumes := h.volumes.append_right _
  findings := h.findings.append_right _
  seenResources := by simp only [Decoding.record, h.seenResources]
  listedIds := by simp only [Decoding.record, h.listedIds]
  inspectedIds := by simp only [Decoding.record, h.inspectedIds]
  inspectedNativeObjects := by simp only [Decoding.record, h.inspectedNativeObjects]
  inspectedContainersByRef := by simp only [Decoding.record, h.inspectedContainersByRef]
  selectedFromList := by simp only [Decoding.record, h.selectedFromList]
  versionSeen := by simp only [Decoding.record, h.versionSeen]
  infoSeen := by simp only [Decoding.record, h.infoSeen]

section Commute

variable {decoding : Decoding} {first second : Contribution}

/-- Two contributions that come from lists of one capture replay one selector. -/
def Replayable (first second : Contribution) : Prop :=
  ∀ selected ∈ first.listing, ∀ other ∈ second.listing, selected.isSome = other.isSome

theorem Admits.swap_left (hfirst : Admits decoding first)
    (hsecond : Admits (decoding.record first) second) : Admits decoding second where
  release := by
    intro found hfound known hknown
    have hbefore := hsecond.release found hfound
    cases hrelease : first.release with
    | none => exact hbefore known (by simpa [Decoding.record, hrelease] using hknown)
    | some release =>
        rw [hfirst.release release hrelease known hknown]
        exact hbefore release (by simp [Decoding.record, hrelease])
  version := by
    intro h
    have hseen := hsecond.version h
    simp only [Decoding.record, Bool.or_eq_false_iff] at hseen
    exact hseen.1
  info := by
    intro facts hfacts
    obtain ⟨hseen, hmode⟩ := hsecond.info facts hfacts
    simp only [Decoding.record, Bool.or_eq_false_iff, Option.isSome_eq_false_iff,
      Option.isNone_iff_eq_none] at hseen hmode
    exact ⟨hseen.1, by simpa [hseen.2] using hmode⟩
  listing := by
    intro h
    have hbefore := hsecond.listing h
    cases hlisting : first.listing with
    | none => simpa [Decoding.record, hlisting] using hbefore
    | some selected => exact hfirst.listing (by simp [hlisting])
  inspected := by
    intro resource hresource
    obtain ⟨hnative, hseen⟩ := hsecond.inspected resource hresource
    cases hinspected : first.inspected with
    | none =>
        simp only [Decoding.record, hinspected, Option.map_none, Option.getD_none] at hnative hseen
        exact ⟨hnative, hseen⟩
    | some other =>
        simp only [Decoding.record, hinspected, Option.map_some, Option.getD_some, addIds,
          Finset.mem_insert, not_or] at hnative hseen
        refine ⟨fun hmem => hnative ?_, hseen.2⟩
        split
        · exact Finset.mem_union_left _ hmem
        · exact hmem

theorem Admits.swap_right (hreplay : Replayable first second) (hfirst : Admits decoding first)
    (hsecond : Admits (decoding.record first) second) : Admits (decoding.record second) first where
  release := by
    intro found hfound known hknown
    cases hrelease : second.release with
    | none =>
        exact hfirst.release found hfound known (by simpa [Decoding.record, hrelease] using hknown)
    | some release =>
        have hsame := hsecond.release release hrelease found (by
          simp [Decoding.record, show first.release = some found from hfound])
        have hknown : release = known := by simpa [Decoding.record, hrelease] using hknown
        rw [← hknown, hsame]
  version := by
    intro h
    have hnone : second.version = none := by
      by_contra hsome
      have hseen := hsecond.version (Option.isSome_iff_ne_none.mpr hsome)
      simp [Decoding.record, h] at hseen
    simpa [Decoding.record, hnone] using hfirst.version h
  info := by
    intro facts hfacts
    have hnone : second.info = none := by
      by_contra hsome
      obtain ⟨other, hother⟩ := Option.ne_none_iff_exists'.mp hsome
      have hseen := (hsecond.info other hother).1
      simp [Decoding.record, show first.info = some facts from hfacts] at hseen
    simpa [Decoding.record, hnone] using hfirst.info facts hfacts
  listing := by
    intro h
    obtain ⟨selected, hselected⟩ := Option.isSome_iff_exists.mp h
    cases hlisting : second.listing with
    | none => simpa [Decoding.record, hlisting] using hfirst.listing h
    | some other =>
        have hfound : selected = none := by
          simpa [Decoding.record, hselected] using hsecond.listing (by simp [hlisting])
        have hsame := hreplay selected hselected other hlisting
        simpa [Decoding.record, hlisting, hfound] using hsame
  inspected := by
    intro resource hresource
    obtain ⟨hnative, hseen⟩ := hfirst.inspected resource hresource
    cases hinspected : second.inspected with
    | none => simpa [Decoding.record, hinspected] using ⟨hnative, hseen⟩
    | some other =>
        obtain ⟨hnative', hseen'⟩ := hsecond.inspected other hinspected
        simp only [Decoding.record, show first.inspected = some resource from hresource,
          Option.map_some, Option.getD_some, addIds, Finset.mem_insert, not_or] at hnative' hseen'
        simp only [Decoding.record, hinspected, Option.map_some, Option.getD_some, addIds,
          Finset.mem_insert, not_or]
        refine ⟨?_, fun h => hseen'.1 h.symm, hseen⟩
        split
        · next hkind =>
            rw [if_pos hkind.symm] at hnative'
            simp only [Finset.mem_union, Finset.mem_singleton, not_or] at hnative' ⊢
            exact ⟨hnative, fun h => hnative'.2 h.symm⟩
        · exact hnative

theorem addIds_comm (sets : RootKind → Finset String) (kind other : RootKind)
    (ids others : Finset String) :
    addIds (addIds sets kind ids) other others = addIds (addIds sets other others) kind ids := by
  funext found
  simp only [addIds]
  split <;> split <;> try rfl
  exact Finset.union_right_comm _ _ _

theorem addContainer_comm (byRef : ResourceRef → Option String) {kind other : RootKind}
    {reference reference' : ResourceRef} {id id' : String}
    (h : (kind, reference) ≠ (other, reference')) :
    addContainer (addContainer byRef kind reference id) other reference' id' =
      addContainer (addContainer byRef other reference' id') kind reference id := by
  funext found
  simp only [addContainer]
  split
  · next hother =>
      rw [if_neg]
      rintro ⟨rfl, rfl⟩
      exact h (by simp [hother.1, hother.2])
  · rfl

theorem perm_append_right_comm {α : Type} (front left right : List α) :
    (front ++ left ++ right).Perm (front ++ right ++ left) := by
  rw [List.append_assoc, List.append_assoc]
  exact List.perm_append_comm.append_left front

/-- Recording two contributions gives the same result in either order. -/
theorem record_comm (hreplay : Replayable first second)
    (hsecond : Admits (decoding.record first) second) :
    SameDecoding ((decoding.record first).record second)
      ((decoding.record second).record first) := by
  have hversion : first.version = none ∨ second.version = none := by
    by_contra h
    obtain ⟨hsome, hsome'⟩ := not_or.mp h
    have hseen := hsecond.version (Option.isSome_iff_ne_none.mpr hsome')
    simp [Decoding.record, Option.isSome_iff_ne_none.mpr hsome] at hseen
  have hinfo : first.info = none ∨ second.info = none := by
    by_contra h
    obtain ⟨hsome, hsome'⟩ := not_or.mp h
    obtain ⟨facts, hfacts⟩ := Option.ne_none_iff_exists'.mp hsome'
    have hseen := (hsecond.info facts hfacts).1
    simp [Decoding.record, Option.isSome_iff_ne_none.mpr hsome] at hseen
  have hinspected : ∀ resource ∈ first.inspected, ∀ other ∈ second.inspected,
      (resource.kind, resource.reference) ≠ (other.kind, other.reference) := by
    intro resource hresource other hother heq
    have hseen := (hsecond.inspected other hother).2
    simp [Decoding.record, show first.inspected = some resource from hresource, ← heq] at hseen
  constructor
  case release =>
    cases hrelease : first.release with
    | none => simp [Decoding.record, hrelease]
    | some release =>
        cases hrelease' : second.release with
        | none => simp [Decoding.record, hrelease, hrelease']
        | some release' =>
            have hsame := hsecond.release release' hrelease' release (by
              simp [Decoding.record, hrelease])
            simp [Decoding.record, hrelease, hrelease', hsame]
  case apiVersion => rcases hversion with h | h <;> simp [Decoding.record, h]
  case minimumApiVersion => rcases hversion with h | h <;> simp [Decoding.record, h]
  case mode => rcases hinfo with h | h <;> simp [Decoding.record, h]
  case memoryLimit => rcases hinfo with h | h <;> simp [Decoding.record, h]
  case swapLimit => rcases hinfo with h | h <;> simp [Decoding.record, h]
  case requestedApiVersions =>
    intro api
    simp only [Decoding.record, mem_addApi]
    tauto
  case containers => exact perm_append_right_comm _ _ _
  case discoveredContainers => exact perm_append_right_comm _ _ _
  case networks => exact perm_append_right_comm _ _ _
  case volumes => exact perm_append_right_comm _ _ _
  case findings => exact perm_append_right_comm _ _ _
  case seenResources =>
    simp only [Decoding.record]
    cases first.inspected <;> cases second.inspected <;> simp [Finset.insert_comm]
  case listedIds =>
    funext kind
    exact Finset.union_right_comm _ _ _
  case inspectedIds =>
    simp only [Decoding.record]
    cases first.inspected <;> cases second.inspected <;> simp [addIds_comm]
  case inspectedNativeObjects =>
    simp only [Decoding.record]
    cases first.inspected <;> cases second.inspected <;> simp [addIds_comm]
  case inspectedContainersByRef =>
    cases hfound : first.inspected with
    | none => simp [Decoding.record, hfound]
    | some resource =>
        cases hother : second.inspected with
        | none => simp [Decoding.record, hfound, hother]
        | some other =>
            simp only [Decoding.record, hfound, hother, Option.map_some, Option.getD_some]
            exact addContainer_comm _ (hinspected resource hfound other hother)
  case selectedFromList =>
    cases hlisting : first.listing with
    | none => simp [Decoding.record, hlisting]
    | some selected =>
        cases hother : second.listing with
        | none => simp [Decoding.record, hlisting, hother]
        | some other =>
            have hnone : selected = none := by
              simpa [Decoding.record, hlisting] using hsecond.listing (by simp [hother])
            have hsame := hreplay selected hlisting other hother
            have hempty : other = none := by
              simpa [hnone] using hsame.symm
            simp [Decoding.record, hlisting, hother, hnone, hempty]
  case versionSeen => simp only [Decoding.record, Bool.or_right_comm]
  case infoSeen => simp only [Decoding.record, Bool.or_right_comm]

end Commute

section
variable {fromSlice : Bytes → Option Value} {capture : Capture} {exchange : CapturedExchange}

theorem decodeExchange_respects : Respects (decodeExchange fromSlice capture) SameDecoding := by
  intro left right exchange left' hsame h
  obtain ⟨contribution, hcontribution, hadmits, rfl⟩ := decodeExchange_eq_ok_iff.mp h
  exact ⟨right.record contribution,
    decodeExchange_eq_ok_iff.mpr ⟨contribution, hcontribution, hadmits.congr hsame, rfl⟩,
    hsame.record contribution⟩

theorem decodeExchange_commutes : Commutes (decodeExchange fromSlice capture) SameDecoding := by
  intro decoding exchange exchange' middle both hmiddle hboth
  obtain ⟨first, hfirst, hadmits, rfl⟩ := decodeExchange_eq_ok_iff.mp hmiddle
  obtain ⟨second, hsecond, hadmits', rfl⟩ := decodeExchange_eq_ok_iff.mp hboth
  have hreplay : Replayable first second := by
    intro selected hselected other hother
    rw [ofExchange_listing hfirst selected hselected, ofExchange_listing hsecond other hother]
  exact ⟨decoding.record second, (decoding.record second).record first,
    decodeExchange_eq_ok_iff.mpr ⟨second, hsecond, hadmits.swap_left hadmits', rfl⟩,
    decodeExchange_eq_ok_iff.mpr
      ⟨first, hfirst, Admits.swap_right hreplay hadmits hadmits', rfl⟩,
    record_comm hreplay hadmits'⟩

end

/-- A capture with its exchanges in another order. -/
def reordered (capture : Capture) (exchanges : List CapturedExchange) : Capture :=
  { capture with exchanges }

/-- Two inventories that differ at most in the order of their lists. -/
structure SameInventory (left right : DecodedInventory) : Prop where
  observationId : left.observationId = right.observationId
  daemon : left.version.daemon = right.version.daemon
  resourceSupport : left.version.resourceSupport = right.version.resourceSupport
  requestedApiVersions : ∀ api,
    api ∈ left.version.requestedApiVersions ↔ api ∈ right.version.requestedApiVersions
  selectedRoots : left.selectedRoots = right.selectedRoots
  containers : left.containers.Perm right.containers
  discoveredContainers : left.discoveredContainers.Perm right.discoveredContainers
  networks : left.networks.Perm right.networks
  volumes : left.volumes.Perm right.volumes
  findings : left.findings.Perm right.findings

section
variable {capture : Capture} {left right : Decoding}

theorem rootObserved_congr (h : SameDecoding left right) :
    rootObserved left = rootObserved right := by
  funext root
  rw [rootObserved, rootObserved]
  split
  · exact h.containers.any_eq
  · exact h.networks.any_eq
  · exact h.volumes.any_eq

theorem rootsAccounted_congr (h : SameDecoding left right) (seen : Finset ResourceRef)
    (roots : List SelectedRoot) :
    rootsAccounted left seen roots = rootsAccounted right seen roots := by
  induction roots generalizing seen with
  | nil => rfl
  | cons root roots ih =>
      simp only [rootsAccounted, rootObserved_congr h, rootListed, h.inspectedContainersByRef,
        h.listedIds, ih]

theorem uninspected_congr (h : SameDecoding left right) :
    uninspected capture left = uninspected capture right := by
  funext kind
  rw [uninspected, uninspected, h.listedIds, h.inspectedIds]

theorem complete_congr (h : SameDecoding left right) :
    complete capture left = complete capture right := by
  rw [complete, complete, fallbacksSeen, fallbacksSeen, h.seenResources, selectionAgrees,
    selectionAgrees, h.selectedFromList, selectedContainers, selectedContainers,
    h.inspectedContainersByRef, rootsAccounted_congr h, uninspected_congr h,
    h.containers.length_eq]

theorem outOfRange_congr (h : SameDecoding left right) : outOfRange left = outOfRange right := by
  rw [outOfRange, outOfRange, h.minimumApiVersion, h.apiVersion, Bool.eq_iff_iff]
  simp only [Bool.or_eq_true, List.any_eq_true, h.requestedApiVersions]

theorem finish_congr (h : SameDecoding left right) (exchanges : List CapturedExchange)
    {inventory : DecodedInventory} (hfinish : finish capture left = .ok inventory) :
    ∃ inventory', finish (reordered capture exchanges) right = .ok inventory' ∧
      SameInventory inventory inventory' := by
  rw [finish, complete_congr h, outOfRange_congr h] at hfinish
  change ∃ inventory', finish capture right = .ok inventory' ∧ _
  rw [finish]
  split at hfinish
  · cases hfinish
  next hcomplete =>
  split at hfinish
  · cases hfinish
  next hrange =>
  cases hfinish
  rw [if_neg hcomplete, if_neg hrange]
  refine ⟨_, rfl, ?_⟩
  refine ⟨rfl, ?_, ?_, h.requestedApiVersions, rfl, h.containers, h.discoveredContainers,
    h.networks, h.volumes, ?_⟩
  · simp [decodedInventory, decodedVersion, h.release, h.apiVersion, h.minimumApiVersion, h.mode]
  · simp [decodedInventory, decodedVersion, h.memoryLimit, h.swapLimit]
  · simp only [decodedInventory, daemonFindings, h.release, h.apiVersion, h.mode]
    exact h.findings.append_right _

end

theorem decodeCapture_of_perm {fromSlice : Bytes → Option Value} {capture : Capture}
    {exchanges : List CapturedExchange} (hperm : capture.exchanges.Perm exchanges)
    {inventory : DecodedInventory} (h : decodeCapture fromSlice capture = .ok inventory) :
    ∃ inventory', decodeCapture fromSlice (reordered capture exchanges) = .ok inventory' ∧
      SameInventory inventory inventory' := by
  rw [decodeCapture] at h ⊢
  rw [hperm.length_eq] at h
  split at h
  · cases h
  next hlength =>
  obtain ⟨decoding, hloop, hfinish⟩ := bind_eq_ok_iff.mp h
  obtain ⟨decoding', hloop', hsame⟩ := foldlM_perm sameDecoding_equivalence
    decodeExchange_respects decodeExchange_commutes hperm hloop
  obtain ⟨inventory', hfinish', hinventory⟩ := finish_congr hsame exchanges hfinish
  refine ⟨inventory', ?_, hinventory⟩
  exact (if_neg hlength).trans (bind_eq_ok_iff.mpr ⟨decoding', hloop', hfinish'⟩)

/-- Decoding succeeds on both of two captures, with the same inventory up to the order of
its lists, or fails on both. -/
def SameOutcome (left right : Except DecodeError DecodedInventory) : Prop :=
  (∃ inventory inventory', left = .ok inventory ∧ right = .ok inventory' ∧
    SameInventory inventory inventory') ∨
  ∃ error error', left = .error error ∧ right = .error error'

/-- Decoding does not depend on the order of the exchanges. -/
theorem decodeCapture_perm (fromSlice : Bytes → Option Value) (capture : Capture)
    (exchanges : List CapturedExchange) (hperm : capture.exchanges.Perm exchanges) :
    SameOutcome (decodeCapture fromSlice capture)
      (decodeCapture fromSlice (reordered capture exchanges)) := by
  cases h : decodeCapture fromSlice capture with
  | ok inventory =>
      obtain ⟨inventory', h', hsame⟩ := decodeCapture_of_perm hperm h
      exact .inl ⟨inventory, inventory', rfl, h', hsame⟩
  | error error =>
      cases h' : decodeCapture fromSlice (reordered capture exchanges) with
      | error error' => exact .inr ⟨error, error', rfl, rfl⟩
      | ok inventory' =>
          -- The permutation the other way would decode the first capture as well.
          obtain ⟨inventory, hback, -⟩ := @decodeCapture_of_perm fromSlice
            (reordered capture exchanges) capture.exchanges hperm.symm inventory' h'
          exact absurd (h.symm.trans hback) (by simp)

/-- A version and an info exchange that agree on the release. -/
def versionThenInfo : List CapturedExchange :=
  [⟨.daemonVersion, none, none, ⟨200, validStatus_ok⟩,
      asBytes "\x7b\"Version\":\"28\",\"ApiVersion\":\"1.49\"\x7d"⟩,
    ⟨.daemonInfo, none, ApiVersion.new? 1 49, ⟨200, validStatus_ok⟩,
      asBytes "\x7b\"ServerVersion\":\"28\"\x7d"⟩]

def versionCapture : Capture where
  observationId := ⟨1⟩
  bounds := ⟨2, 0, 0, 59⟩
  exchanges := versionThenInfo
  route := .callerAssembled
  selectedRoots := []
  selector := none
  networkNameFallbacks := []
  discoveryOnly := false

theorem decodeCapture_perm_version :
    (decodeCapture Json.fromSlice versionCapture).isOk = true ∧
      SameOutcome (decodeCapture Json.fromSlice versionCapture)
        (decodeCapture Json.fromSlice (reordered versionCapture versionThenInfo.reverse)) :=
  ⟨by decide +kernel,
    decodeCapture_perm Json.fromSlice versionCapture versionThenInfo.reverse
      (List.reverse_perm versionThenInfo).symm⟩

end DockerLens.Decoder
