import DockerLens.Acquisition.Pinned
import DockerLens.Decoder.Closure
import DockerLens.Decoder.Discovered

namespace DockerLens.Decoder

open DockerLens.Text
open DockerLens.Json
open DockerLens.Observation
open DockerLens.Acquisition
open DockerLens.Version
open DockerLens.Evidence
open DockerLens.Fold

/-- A decode state without what the container list has put into it. -/
def Decoding.unlisted (decoding : Decoding) : Decoding :=
  { decoding with
    discoveredContainers := []
    listedIds := fun kind => if kind = .container then ∅ else decoding.listedIds kind
    selectedFromList := none }

theorem unlisted_start : Decoding.start.unlisted = .start := by
  have hlisted : (fun kind => if kind = RootKind.container then ∅
      else Decoding.start.listedIds kind) = fun _ => (∅ : Finset String) := by
    funext kind
    split <;> rfl
  rw [Decoding.unlisted, hlisted]
  rfl

/-- The inventory of the same containers by their ids, as another observation. -/
def pinnedInventory (id : ObservationId) (inventory : DecodedInventory) : DecodedInventory :=
  { inventory with
    observationId := id
    version :=
      { inventory.version with
        daemon := { inventory.version.daemon with observationId := id }
        resourceSupport := { inventory.version.resourceSupport with observationId := id } }
    discoveredContainers := []
    selectedRoots := inventory.selectedRoots.map exactRoot }

section
variable {fromSlice : Bytes → Option Value} {id : ObservationId} {capture : Capture}
  {decoding next : Decoding} {exchange : CapturedExchange} {contribution : Contribution}

theorem ofExchange_pinned (hrequest : exchange.request ≠ .listContainers) :
    Contribution.ofExchange fromSlice (pinned id capture) exchange =
      Contribution.ofExchange fromSlice capture exchange := by
  have hbody (body : Value) : Contribution.ofBody fromSlice (pinned id capture) exchange body =
      Contribution.ofBody fromSlice capture exchange body := by
    rw [Contribution.ofBody, Contribution.ofBody]
    cases hkind : exchange.request with
    | listContainers => exact absurd hkind hrequest
    | _ => rfl
  simp only [Contribution.ofExchange, hbody]

theorem ofExchange_unlisted (hrequest : exchange.request ≠ .listContainers)
    (h : Contribution.ofExchange fromSlice capture exchange = .ok contribution) :
    contribution.listing = none ∧ contribution.listed .container = ∅ ∧
      contribution.discovered = [] := by
  have hlisting := listing_of_ofExchange h
  obtain ⟨body, found, -, hfound, rfl⟩ := ofExchange_eq_ok h
  have hdiscovered := discovered_eq_nil hrequest hfound
  rw [Contribution.ofBody] at hfound
  cases hkind : exchange.request with
  | listContainers => exact absurd hkind hrequest
  | listNetworks =>
      simp only [hkind, Contribution.ofNetworkList, bind_eq_ok_iff, Except.ok.injEq] at hfound
      obtain ⟨_, -, _, -, rfl⟩ := hfound
      exact ⟨rfl, rfl, rfl⟩
  | listVolumes =>
      simp only [hkind, Contribution.ofVolumeList, bind_eq_ok_iff, Except.ok.injEq] at hfound
      obtain ⟨_, -, _, -, rfl⟩ := hfound
      exact ⟨rfl, rfl, rfl⟩
  | daemonVersion | daemonInfo | inspectContainer _ | inspectNetwork _ | inspectVolume _ =>
      rw [hkind] at hlisting
      exact ⟨hlisting.1, congrFun hlisting.2 _, hdiscovered⟩

theorem Admits.unlisted (h : Admits decoding contribution)
    (hlisting : contribution.listing = none) :
    Admits decoding.unlisted contribution where
  release := h.release
  version := h.version
  info := h.info
  listing hsome := by simp [hlisting] at hsome
  inspected := h.inspected

theorem record_unlisted (hlisting : contribution.listing = none)
    (hlisted : contribution.listed .container = ∅) (hdiscovered : contribution.discovered = []) :
    (decoding.record contribution).unlisted = decoding.unlisted.record contribution := by
  have hkinds : (fun kind => if kind = RootKind.container then ∅
      else decoding.listedIds kind ∪ contribution.listed kind) = fun kind =>
        (if kind = RootKind.container then ∅ else decoding.listedIds kind) ∪
          contribution.listed kind := by
    funext kind
    split
    · next hkind => rw [hkind, hlisted, Finset.union_empty]
    · rfl
  simp only [Decoding.unlisted, Decoding.record, hkinds, hlisting, hdiscovered, List.append_nil,
    Option.getD_none]

theorem decodeExchange_unlisted (hrequest : exchange.request ≠ .listContainers)
    (h : decodeExchange fromSlice capture decoding exchange = .ok next) :
    decodeExchange fromSlice (pinned id capture) decoding.unlisted exchange =
      .ok next.unlisted := by
  obtain ⟨contribution, hof, hadmits, rfl⟩ := decodeExchange_eq_ok_iff.mp h
  obtain ⟨hlisting, hlisted, hdiscovered⟩ := ofExchange_unlisted hrequest hof
  exact decodeExchange_eq_ok_iff.mpr ⟨contribution, (ofExchange_pinned hrequest).trans hof,
    hadmits.unlisted hlisting, record_unlisted hlisting hlisted hdiscovered⟩

theorem decodeExchange_listed (hrequest : exchange.request = .listContainers)
    (hapi : ∀ api ∈ exchange.apiVersion, api ∈ decoding.requestedApiVersions)
    (h : decodeExchange fromSlice capture decoding exchange = .ok next) :
    next.unlisted = decoding.unlisted := by
  obtain ⟨contribution, hof, -, rfl⟩ := decodeExchange_eq_ok_iff.mp h
  obtain ⟨body, found, -, hfound, rfl⟩ := ofExchange_eq_ok hof
  rw [Contribution.ofBody, hrequest] at hfound
  simp only [Contribution.ofContainerList, bind_eq_ok_iff, Except.ok.injEq] at hfound
  obtain ⟨_, -, _, -, listed, -, rfl⟩ := hfound
  have hkinds : (fun kind => if kind = RootKind.container then ∅ else decoding.listedIds kind ∪
      addIds (fun _ => ∅) .container (listed.map Prod.fst).toFinset kind) = fun kind =>
        if kind = RootKind.container then ∅ else decoding.listedIds kind := by
    funext kind
    split
    · rfl
    · next hkind => rw [addIds, if_neg hkind, Finset.union_empty]
  have happi : addApi decoding.requestedApiVersions exchange.apiVersion =
      decoding.requestedApiVersions := by
    cases hversion : exchange.apiVersion with
    | none => rfl
    | some api => exact if_pos (hapi api hversion)
  simp only [Decoding.unlisted, Decoding.record, Contribution.empty, hkinds, happi]
  simp

theorem rootsAccounted_unlisted {roots : List SelectedRoot} {seen : Finset ResourceRef}
    (h : rootsAccounted decoding seen roots = true) :
    rootsAccounted decoding.unlisted seen (roots.map exactRoot) = true := by
  induction roots generalizing seen with
  | nil => rfl
  | cons root roots ih =>
      simp only [rootsAccounted, Bool.and_eq_true] at h
      obtain ⟨⟨⟨hseen, hobserved⟩, -⟩, hroots⟩ := h
      simp only [List.map_cons, rootsAccounted, Bool.and_eq_true]
      exact ⟨⟨⟨hseen, hobserved⟩, by simp [rootListed, exactRoot]⟩, ih hroots⟩

theorem uninspected_unlisted {kind : RootKind}
    (h : uninspected capture decoding kind = false) :
    uninspected (pinned id capture) decoding.unlisted kind = false := by
  cases kind with
  | container => simp [uninspected, Decoding.unlisted]
  | network | volume => simpa [uninspected, Decoding.unlisted, pinned] using h

theorem complete_unlisted (h : complete capture decoding = true) :
    complete (pinned id capture) decoding.unlisted = true := by
  simp only [complete, Bool.and_eq_true, List.all_eq_true, Bool.not_eq_true'] at h ⊢
  obtain ⟨⟨⟨⟨⟨hfallbacks, -⟩, hlength⟩, hroots⟩, huninspected⟩, hempty⟩ := h
  refine ⟨⟨⟨⟨⟨hfallbacks, rfl⟩, ?_⟩, rootsAccounted_unlisted hroots⟩,
    fun kind hkind => uninspected_unlisted (huninspected kind hkind)⟩, ?_⟩
  · simpa [pinned] using hlength
  · simpa [pinned, Decoding.unlisted] using hempty

section
variable {selector : Selector} {limits : Limits} {history : History}

theorem plain_found (history : History) :
    ∀ exchange ∈ history.found.map (Inspection.exchange history.api),
      exchange.request ≠ .listContainers := by
  intro exchange hmem
  obtain ⟨inspection, -, rfl⟩ := List.mem_map.mp hmem
  cases hkind : inspection.kind <;> simp [Inspection.exchange, Inspection.request, hkind]

theorem plain_started (history : History) :
    ∀ exchange ∈ [history.versionExchange, history.infoExchange],
      exchange.request ≠ .listContainers := by
  simp [History.versionExchange, History.infoExchange]

theorem unlisted_exchanges (history : History) :
    unlisted history.exchanges = [history.versionExchange, history.infoExchange] ++
      history.found.map (Inspection.exchange history.api) := by
  rw [History.exchanges, unlisted_append, unlisted_append,
    unlisted_eq_self (plain_started history), unlisted_eq_self (plain_found history)]
  cases history.listBody <;> simp [unlisted, History.listExchange]

theorem decode_plain {exchanges : List CapturedExchange} {before after : Decoding}
    (hplain : ∀ exchange ∈ exchanges, exchange.request ≠ .listContainers)
    (hrun : exchanges.foldlM (decodeExchange fromSlice capture) before = .ok after) :
    exchanges.foldlM (decodeExchange fromSlice (pinned id capture)) before.unlisted =
      .ok after.unlisted :=
  foldlM_relabelled Decoding.unlisted (fun _ => True) (fun _ _ _ _ _ => trivial)
    (fun exchange hmem _ _ _ => decodeExchange_unlisted (hplain exchange hmem)) trivial hrun

/-- The decode loop over what was acquired, with and without the list. -/
theorem decode_unlisted (h : Acquired fromSlice selector limits capture history)
    (hloop : capture.exchanges.foldlM (decodeExchange fromSlice capture) .start = .ok decoding) :
    (unlisted capture.exchanges).foldlM (decodeExchange fromSlice (pinned id capture)) .start =
      .ok decoding.unlisted := by
  rw [h.exchanges_eq, History.exchanges, List.foldlM_append, bind_eq_ok_iff] at hloop
  obtain ⟨listed, hlisted, hrest⟩ := hloop
  rw [List.foldlM_append, bind_eq_ok_iff] at hlisted
  obtain ⟨started, hstarted, hlist⟩ := hlisted
  have hapi : history.api ∈ started.requestedApiVersions := by
    obtain ⟨contributions, hcontributions, rfl⟩ := decode_eq_ok hstarted
    obtain ⟨contribution, hmem, hof⟩ :=
      exists_of_forall₂_left hcontributions (List.mem_cons_of_mem _ List.mem_cons_self)
    obtain ⟨_, _, -, -, rfl⟩ := ofExchange_eq_ok hof
    exact Decoding.mem_requestedApiVersions.mpr (.inr ⟨_, hmem, rfl⟩)
  have hsame : listed.unlisted = started.unlisted := by
    cases hbody : history.listBody with
    | none =>
        simp only [hbody, Option.toList_none, List.map_nil, List.foldlM_nil] at hlist
        cases hlist
        rfl
    | some body =>
        simp only [hbody, Option.toList_some, List.map_cons, List.map_nil, List.foldlM_cons,
          List.foldlM_nil, bind_eq_ok_iff] at hlist
        obtain ⟨next, hnext, hdone⟩ := hlist
        cases hdone
        exact decodeExchange_listed rfl (by simpa [History.listExchange] using hapi) hnext
  have hstart := @decode_plain fromSlice id _ _ _ _ (plain_started history) hstarted
  rw [unlisted_start] at hstart
  rw [h.exchanges_eq, unlisted_exchanges, List.foldlM_append, hstart, ok_bind, ← hsame]
  exact decode_plain (plain_found history) hrest

/-- What was acquired decodes to the same inventory without its list, but for what it lists. -/
theorem decodeCapture_pinned {inventory : DecodedInventory}
    (h : Acquired fromSlice selector limits capture history)
    (hdecode : decodeCapture fromSlice capture = .ok inventory) :
    decodeCapture fromSlice (pinned id capture) = .ok (pinnedInventory id inventory) := by
  rw [decodeCapture] at hdecode
  split at hdecode
  · cases hdecode
  next hlength =>
  obtain ⟨decoding, hloop, hfinish⟩ := bind_eq_ok_iff.mp hdecode
  rw [finish] at hfinish
  split at hfinish
  · cases hfinish
  next hcomplete =>
  split at hfinish
  · cases hfinish
  next hrange =>
  cases hfinish
  rw [Bool.not_eq_true', Bool.not_eq_false] at hcomplete
  have hshort : ¬ (pinned id capture).exchanges.length > maxCollectionItems := fun hlong =>
    hlength (Nat.lt_of_lt_of_le hlong (length_unlisted_le _))
  have hrange' : ¬ outOfRange decoding.unlisted = true := hrange
  have hdecoded : (pinned id capture).exchanges.foldlM
      (decodeExchange fromSlice (pinned id capture)) .start = .ok decoding.unlisted :=
    decode_unlisted h hloop
  rw [decodeCapture, if_neg hshort, hdecoded, ok_bind, finish,
    if_neg (by rw [complete_unlisted hcomplete]; decide), if_neg hrange']
  rfl

/-- Containers that were selected from a list can be named by their ids instead: the daemon then
gives the same capture for one request and the bytes of the list less, and it decodes to the same
inventory. -/
theorem pinned_exact {stream : String → Except AcquisitionError Wire} {completed : Capture}
    (hlists : selector.lists = true)
    (h : acquire fromSlice (.fixed id stream) selector limits = .ok completed)
    (other : ObservationId) :
    acquire fromSlice (.fixed other stream) (.containerIds (inspectedIds completed .container))
        limits = .ok (pinned other completed) ∧
      (∃ body, listBody completed = some body ∧
        (pinned other completed).bounds.requestCount + 1 = completed.bounds.requestCount ∧
        (pinned other completed).bounds.bytesRead + body.length = completed.bounds.bytesRead) ∧
      ∀ inventory, decodeCapture fromSlice completed = .ok inventory →
        decodeCapture fromSlice (pinned other completed) =
          .ok (pinnedInventory other inventory) := by
  obtain ⟨history, hacquired⟩ := acquire_eq_ok h
  refine ⟨acquire_pinned hlists h other, ?_, fun inventory => decodeCapture_pinned hacquired⟩
  obtain ⟨body, hbody, -⟩ := picks_of_lists hlists hacquired.picks
  have hkept : unlisted completed.exchanges = [history.versionExchange, history.infoExchange] ++
      history.found.map (Inspection.exchange history.api) := by
    rw [hacquired.exchanges_eq, unlisted_exchanges]
  have hall : completed.exchanges = [history.versionExchange, history.infoExchange] ++
      [history.listExchange body] ++ history.found.map (Inspection.exchange history.api) := by
    rw [hacquired.exchanges_eq, History.exchanges, hbody]
    rfl
  refine ⟨body, hacquired.listBody_eq.trans hbody, ?_, ?_⟩
  · rw [hacquired.requestCount_eq, hall, pinned, hkept]
    simp only [List.length_append, List.length_cons, List.length_nil]
    omega
  · rw [hacquired.bytesRead_eq, hall, pinned, hkept]
    simp only [totalBytes_append, totalBytes_cons, totalBytes_nil, History.listExchange]
    omega

end

end

/-- A daemon that lists one container, which has nothing attached. -/
def listedStream (path : String) : Except AcquisitionError Wire :=
  if path = "/version" then respond "\x7b\"ApiVersion\":\"1.45\"\x7d"
  else if path = "/v1.45/info" then respond "\x7b\x7d"
  else if path = "/v1.45/containers/json?all=1" then
    respond ("[\x7b\"Id\":\"" ++ containerId ++ "\",\"Names\":[\"/web\"]\x7d]")
  else respond ("\x7b\"Id\":\"" ++ containerId ++ "\"\x7d")

def listedSelector : Selector := .namePrefix ⟨"we", by decide⟩

theorem toOption_eq_some_iff {ε α : Type} {x : Except ε α} {a : α} :
    x.toOption = some a ↔ x = .ok a := by
  cases x <;> simp [Except.toOption]

theorem pinned_exact_listed :
    ∃ completed inventory, acquire Json.fromSlice (.fixed ⟨1⟩ listedStream) listedSelector
        wideLimits = .ok completed ∧
      acquire Json.fromSlice (.fixed ⟨2⟩ listedStream)
        (.containerIds (inspectedIds completed .container)) wideLimits =
          .ok (pinned ⟨2⟩ completed) ∧
      decodeCapture Json.fromSlice (pinned ⟨2⟩ completed) =
        .ok (pinnedInventory ⟨2⟩ inventory) := by
  obtain ⟨inventory, h⟩ := Option.isSome_iff_exists.mp (show ((acquire Json.fromSlice
    (.fixed ⟨1⟩ listedStream) listedSelector wideLimits).toOption.bind fun completed =>
      (decodeCapture Json.fromSlice completed).toOption).isSome = true by decide +kernel)
  obtain ⟨completed, hacquire, hdecode⟩ := Option.bind_eq_some_iff.mp h
  rw [toOption_eq_some_iff] at hacquire hdecode
  obtain ⟨hpinned, -, hdecoded⟩ := pinned_exact rfl hacquire ⟨2⟩
  exact ⟨completed, inventory, hacquire, hpinned, hdecoded inventory hdecode⟩

end DockerLens.Decoder
