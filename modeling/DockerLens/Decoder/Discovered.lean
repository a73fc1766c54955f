import DockerLens.Acquisition.History
import DockerLens.Acquisition.Selected
import DockerLens.Decoder.Run

namespace DockerLens.Decoder

open DockerLens.Text
open DockerLens.Json
open DockerLens.Observation
open DockerLens.Acquisition
open DockerLens.Version
open DockerLens.Evidence
open DockerLens.Fold

/-- The ids of the entries of a container list; other exchanges list no container. -/
def containerIds (fromSlice : Bytes → Option Value) (exchange : CapturedExchange) : List String :=
  if exchange.request = .listContainers then
    (((fromSlice exchange.body).bind Value.asArray).getD []).filterMap fun entry =>
      (entry.get "Id").bind Value.asStr
  else []

/-- The container lists that leave a summary in the inventory. -/
def contributing (fromSlice : Bytes → Option Value) (exchanges : List CapturedExchange) :
    List CapturedExchange :=
  exchanges.filter fun exchange => containerIds fromSlice exchange ≠ []

/-- Every discovered container was discovered once, from one list. -/
structure DiscoveredOnce (fromSlice : Bytes → Option Value) (capture : Capture)
    (inventory : DecodedInventory) : Prop where
  length_le : inventory.discoveredContainers.length ≤ maxCollectionItems
  ids : (inventory.discoveredContainers.map ContainerSummary.id).Nodup
  lists : (contributing fromSlice capture.exchanges).length ≤ 1

/-- The entries of a container list have distinct ids, and at most one of the lists has entries. -/
structure ListedOnce (fromSlice : Bytes → Option Value) (exchanges : List CapturedExchange) :
    Prop where
  ids : ∀ exchange ∈ exchanges, (containerIds fromSlice exchange).Nodup
  one : exchanges.Pairwise fun left right =>
    containerIds fromSlice left = [] ∨ containerIds fromSlice right = []

section Lists

variable {α β : Type} {f : α → List β}

theorem length_filter_ne_nil_le_one_iff {values : List α} :
    (values.filter fun value => f value ≠ []).length ≤ 1 ↔
      values.Pairwise fun left right => f left = [] ∨ f right = [] := by
  induction values with
  | nil => simp
  | cons value values ih =>
      rw [List.pairwise_cons, ← ih]
      by_cases hvalue : f value = []
      · rw [List.filter_cons_of_neg (by simp [hvalue])]
        simp [hvalue]
      · have hnone : (values.filter fun value => f value ≠ []).length = 0 ↔
            ∀ other ∈ values, f other = [] := by
          rw [List.length_eq_zero_iff, List.filter_eq_nil_iff]
          simp
        rw [List.filter_cons_of_pos (by simp [hvalue]), List.length_cons]
        simp only [hvalue, false_or, ← hnone]
        omega

theorem length_flatMap_le {values : List α} {bound : Nat}
    (hone : values.Pairwise fun left right => f left = [] ∨ f right = [])
    (hbound : ∀ value ∈ values, (f value).length ≤ bound) :
    (values.flatMap f).length ≤ bound := by
  induction values with
  | nil => simp
  | cons value values ih =>
      rw [List.pairwise_cons] at hone
      rw [List.forall_mem_cons] at hbound
      rw [List.flatMap_cons, List.length_append]
      by_cases hvalue : f value = []
      · rw [hvalue, List.length_nil, Nat.zero_add]
        exact ih hone.2 hbound.2
      · have hrest : values.flatMap f = [] := by
          rw [List.flatMap_eq_nil_iff]
          exact fun other hother => (hone.1 other hother).resolve_left hvalue
        rw [hrest, List.length_nil, Nat.add_zero]
        exact hbound.1

theorem flatMap_filter_ne_nil (values : List α) :
    (values.filter fun value => f value ≠ []).flatMap f = values.flatMap f := by
  induction values with
  | nil => rfl
  | cons value values ih =>
      by_cases hvalue : f value = []
      · rw [List.filter_cons_of_neg (by simp [hvalue]), ih, List.flatMap_cons, hvalue,
          List.nil_append]
      · rw [List.filter_cons_of_pos (by simp [hvalue]), List.flatMap_cons, List.flatMap_cons, ih]

theorem nodup_flatMap_iff {values : List α}
    (hone : values.Pairwise fun left right => f left = [] ∨ f right = []) :
    (values.flatMap f).Nodup ↔ ∀ value ∈ values, (f value).Nodup := by
  rw [List.nodup_flatMap, and_iff_left]
  refine hone.imp fun {left right} hempty => ?_
  rcases hempty with hleft | hright
  · simp [Function.onFun, hleft]
  · simp [Function.onFun, hright]

end Lists

section
variable {fromSlice : Bytes → Option Value} {capture : Capture} {exchange : CapturedExchange}
  {contribution : Contribution}

theorem id_of_containerSummary {entry : Value} {summary : ContainerSummary}
    (h : containerSummary entry = .ok summary) :
    ∃ id, (entry.get "Id").bind Value.asStr = some id ∧ summary.id = asBytes id := by
  simp only [containerSummary, bind_eq_ok_iff, Except.ok.injEq] at h
  obtain ⟨_, -, id, hid, _, -, _, -, _, -, rfl⟩ := h
  exact ⟨id, get_of_listedId hid, rfl⟩

theorem summaries_of_listed {entries : List Value} {found : List (String × ContainerSummary)}
    (h : entries.mapM listedContainer = .ok found) :
    (found.map Prod.snd).map ContainerSummary.id =
      (entries.filterMap fun entry => (entry.get "Id").bind Value.asStr).map asBytes := by
  rw [mapM_eq_ok_iff] at h
  induction h with
  | nil => rfl
  | @cons entry listed entries found hhead _ ih =>
      simp only [listedContainer, bind_eq_ok_iff, Except.ok.injEq] at hhead
      obtain ⟨_, -, summary, hsummary, rfl⟩ := hhead
      obtain ⟨id, hid, hsame⟩ := id_of_containerSummary hsummary
      have hrest : (entry :: entries).filterMap (fun entry => (entry.get "Id").bind Value.asStr) =
          id :: entries.filterMap fun entry => (entry.get "Id").bind Value.asStr :=
        List.filterMap_cons_some hid
      rw [hrest, List.map_cons, List.map_cons, List.map_cons, ih, hsame]

/-- Only a container list discovers containers. -/
theorem discovered_eq_nil {body : Value} (hrequest : exchange.request ≠ .listContainers)
    (h : Contribution.ofBody fromSlice capture exchange body = .ok contribution) :
    contribution.discovered = [] := by
  cases hinspected : exchange.request.inspected with
  | none =>
      rw [Contribution.ofBody] at h
      split at h
      · simp only [Contribution.ofVersion, bind_eq_ok_iff, Except.ok.injEq] at h
        obtain ⟨_, -, _, -, _, -, _, -, rfl⟩ := h
        rfl
      · simp only [Contribution.ofInfo, bind_eq_ok_iff, Except.ok.injEq] at h
        obtain ⟨_, -, _, -, _, -, _, -, _, -, _, -, rfl⟩ := h
        rfl
      · next hlist => exact absurd hlist hrequest
      · simp only [Contribution.ofNetworkList, bind_eq_ok_iff, Except.ok.injEq] at h
        obtain ⟨_, -, _, -, rfl⟩ := h
        rfl
      · simp only [Contribution.ofVolumeList, bind_eq_ok_iff, Except.ok.injEq] at h
        obtain ⟨_, -, _, -, rfl⟩ := h
        rfl
      all_goals simp_all [ReadRequest.inspected]
  | some entry =>
      obtain ⟨kind, id⟩ := entry
      have hinspect : Contribution.ofInspect capture exchange kind id body = .ok contribution := by
        rw [Contribution.ofBody] at h
        cases hexchange : exchange.request <;> simp_all [ReadRequest.inspected]
      simp only [Contribution.ofInspect, bind_eq_ok_iff] at hinspect
      obtain ⟨reference, -, hinspect⟩ := hinspect
      split at hinspect
      · cases hinspect
      simp only [bind_eq_ok_iff, Except.ok.injEq] at hinspect
      obtain ⟨_, -, observed, hobserved, rfl⟩ := hinspect
      obtain ⟨_, _, _, _, rfl⟩ := observation_eq_ok hobserved
      rfl

theorem discovered_of_ofExchange
    (h : Contribution.ofExchange fromSlice capture exchange = .ok contribution) :
    contribution.discovered.map ContainerSummary.id =
        (containerIds fromSlice exchange).map asBytes ∧
      (containerIds fromSlice exchange).length ≤ maxCollectionItems := by
  obtain ⟨body, found, hbody, hfound, rfl⟩ := ofExchange_eq_ok h
  by_cases hrequest : exchange.request = .listContainers
  · simp only [Contribution.ofBody, hrequest, Contribution.ofContainerList, bind_eq_ok_iff,
      Except.ok.injEq] at hfound
    obtain ⟨_, -, entries, hentries, listed, hlisted, rfl⟩ := hfound
    have hids : containerIds fromSlice exchange =
        entries.filterMap fun entry => (entry.get "Id").bind Value.asStr := by
      rw [containerIds, if_pos hrequest, hbody, Option.bind_some, asArray_of_array hentries,
        Option.getD_some]
    rw [hids]
    refine ⟨summaries_of_listed hlisted, ?_⟩
    obtain ⟨_, hshaped, hlength⟩ := bind_eq_ok_iff.mp hentries
    split at hlength
    · cases hlength
    next hle =>
    cases hlength
    exact (List.length_filterMap_le _ _).trans (Nat.not_lt.mp hle)
  · rw [containerIds, if_neg hrequest]
    exact ⟨by rw [discovered_eq_nil hrequest hfound]; rfl, Nat.zero_le _⟩

theorem nodup_ids {selector : Selector} {entries : List Value}
    (h : Admitted selector entries) :
    (entries.filterMap fun entry => (entry.get "Id").bind Value.asStr).Nodup := by
  have hids : (entries.filterMap fun entry => (entry.get "Id").bind Value.asStr) =
      (entries.filterMap entryId).map NativeId.text := by
    rw [List.map_filterMap]
    apply List.filterMap_congr
    intro entry hentry
    obtain ⟨id, hid, -⟩ := (h.wellFormed entry hentry).1.id
    rw [hid, Option.map_some]
    obtain ⟨text, htext, hnew⟩ := Option.bind_eq_some_iff.mp hid
    rw [htext, NativeId.new_eq_some_iff.mp hnew]
  rw [hids]
  apply h.ids.map
  rintro ⟨left, -⟩ ⟨right, -⟩ rfl
  rfl

theorem containerIds_of_body {entries : List Value} (hrequest : exchange.request = .listContainers)
    (hentries : (fromSlice exchange.body).bind Value.asArray = some entries) :
    containerIds fromSlice exchange =
      entries.filterMap fun entry => (entry.get "Id").bind Value.asStr := by
  rw [containerIds, if_pos hrequest, hentries, Option.getD_some]

theorem nodup_containerIds {selector : Selector} {ids : List NativeId}
    (h : exchange.request = .listContainers →
      selectedIds fromSlice exchange.body selector = .ok ids) :
    (containerIds fromSlice exchange).Nodup := by
  by_cases hrequest : exchange.request = .listContainers
  · obtain ⟨entries, hentries, hadmitted, -⟩ := selectedIds_eq_ok_iff.mp (h hrequest)
    rw [containerIds_of_body hrequest hentries]
    exact nodup_ids hadmitted
  · rw [containerIds, if_neg hrequest]
    exact List.nodup_nil

/-- What a decode loop that replays a selector has found out about the lists it consumed. -/
structure Replayed (fromSlice : Bytes → Option Value) (exchanges : List CapturedExchange)
    (decoding : Decoding) : Prop where
  listed : ListedOnce fromSlice exchanges
  seen : decoding.selectedFromList = none →
    ∀ exchange ∈ exchanges, containerIds fromSlice exchange = []

/-- A second list is a conflict once the first was replayed. -/
theorem Replayed.step (hreplays : capture.selector.any replays = true)
    {exchanges : List CapturedExchange} {decoding next : Decoding}
    (h : Replayed fromSlice exchanges decoding)
    (hstep : decodeExchange fromSlice capture decoding exchange = .ok next) :
    Replayed fromSlice (exchanges ++ [exchange]) next := by
  obtain ⟨contribution, hcontribution, hadmits, rfl⟩ := decodeExchange_eq_ok_iff.mp hstep
  have hlisting := listing_of_ofExchange hcontribution
  by_cases hrequest : exchange.request = .listContainers
  · simp only [hrequest] at hlisting
    obtain ⟨_, _, _, selected, -, -, -, -, hselected, hreplay⟩ := hlisting
    have hearlier := h.seen (hadmits.listing (by rw [hselected]; rfl))
    have hsome : selected.isSome = true := by
      rw [replaySelection_isSome hreplay, hreplays]
    obtain ⟨selector, hselector, hselectorReplays⟩ := (Option.any_eq_true _ _).mp hreplays
    have hids : (containerIds fromSlice exchange).Nodup := by
      rw [replaySelection, hselector] at hreplay
      simp only [hselectorReplays, if_true] at hreplay
      split at hreplay
      · cases hreplay
      · next ids hids => exact nodup_containerIds fun _ => hids
    refine ⟨⟨?_, ?_⟩, ?_⟩
    · intro other hother
      rcases List.mem_append.mp hother with hother | hother
      · exact h.listed.ids other hother
      · rw [List.mem_singleton.mp hother]
        exact hids
    · rw [List.pairwise_append]
      exact ⟨h.listed.one, List.pairwise_singleton _ _, fun other hother _ _ =>
        .inl (hearlier other hother)⟩
    · intro hnone
      rw [Decoding.record, hselected] at hnone
      simp only [Option.getD_some] at hnone
      rw [hnone] at hsome
      cases hsome
  · have hempty : containerIds fromSlice exchange = [] := by
      rw [containerIds, if_neg hrequest]
    have hnone : contribution.listing = none := by
      cases hother : exchange.request with
      | listContainers => exact absurd hother hrequest
      | listNetworks | listVolumes =>
          simp only [hother] at hlisting
          exact hlisting
      | _ =>
          simp only [hother] at hlisting
          exact hlisting.1
    refine ⟨⟨?_, ?_⟩, ?_⟩
    · intro other hother
      rcases List.mem_append.mp hother with hother | hother
      · exact h.listed.ids other hother
      · rw [List.mem_singleton.mp hother, hempty]
        exact List.nodup_nil
    · rw [List.pairwise_append]
      exact ⟨h.listed.one, List.pairwise_singleton _ _, fun _ _ other hother =>
        .inr (by rw [List.mem_singleton.mp hother, hempty])⟩
    · intro hseen other hother
      rw [Decoding.record, hnone] at hseen
      simp only [Option.getD_none] at hseen
      rcases List.mem_append.mp hother with hother | hother
      · exact h.seen hseen other hother
      · rw [List.mem_singleton.mp hother, hempty]

theorem listedOnce_of_replays (hreplays : capture.selector.any replays = true)
    {exchanges : List CapturedExchange} {decoding : Decoding}
    (h : exchanges.foldlM (decodeExchange fromSlice capture) .start = .ok decoding) :
    ListedOnce fromSlice exchanges :=
  (foldlM_induction (motive := Replayed fromSlice) (fun _ _ _ _ => Replayed.step hreplays)
    ⟨⟨by simp, .nil⟩, by simp⟩ h).listed

theorem ids_of_decoded {exchanges : List CapturedExchange} {decoding : Decoding}
    (h : Decoded fromSlice capture exchanges decoding) :
    decoding.discoveredContainers.map ContainerSummary.id =
      (exchanges.flatMap (containerIds fromSlice)).map asBytes := by
  obtain ⟨contributions, hcontributions, rfl⟩ := h
  have happend : (Decoding.start.recordAll contributions).discoveredContainers =
      contributions.flatMap Contribution.discovered :=
    foldl_append Decoding.discoveredContainers fun _ _ => rfl
  rw [happend]
  clear happend
  induction hcontributions with
  | nil => rfl
  | cons hhead _ ih =>
      rw [List.flatMap_cons, List.flatMap_cons, List.map_append, List.map_append,
        (discovered_of_ofExchange hhead).1]
      exact congrArg _ ih

theorem ids_of_decodeCapture {inventory : DecodedInventory}
    (h : decodeCapture fromSlice capture = .ok inventory) :
    inventory.discoveredContainers.map ContainerSummary.id =
      ((contributing fromSlice capture.exchanges).flatMap (containerIds fromSlice)).map
        asBytes := by
  obtain ⟨decoding, hloop, -, -, rfl⟩ := decodeCapture_eq_ok h
  rw [contributing, flatMap_filter_ne_nil]
  exact ids_of_decoded (decode_eq_ok hloop)

theorem discoveredOnce_iff {inventory : DecodedInventory}
    (h : decodeCapture fromSlice capture = .ok inventory) :
    DiscoveredOnce fromSlice capture inventory ↔ ListedOnce fromSlice capture.exchanges := by
  obtain ⟨decoding, hloop, -, -, rfl⟩ := decodeCapture_eq_ok h
  have hdecoded := decode_eq_ok hloop
  have hids := ids_of_decoded hdecoded
  have hlength : ∀ exchange ∈ capture.exchanges,
      (containerIds fromSlice exchange).length ≤ maxCollectionItems := by
    obtain ⟨contributions, hcontributions, -⟩ := hdecoded
    intro exchange hexchange
    obtain ⟨contribution, -, hof⟩ := exists_of_forall₂_left hcontributions hexchange
    exact (discovered_of_ofExchange hof).2
  constructor
  · rintro ⟨-, hnodup, hlists⟩
    have hone := length_filter_ne_nil_le_one_iff.mp hlists
    refine ⟨(nodup_flatMap_iff hone).mp ?_, hone⟩
    exact (hids ▸ hnodup).of_map _
  · rintro ⟨hnodup, hone⟩
    have hbound := length_flatMap_le hone hlength
    refine ⟨?_, ?_, length_filter_ne_nil_le_one_iff.mpr hone⟩
    · have hsame := congrArg List.length hids
      rw [List.length_map, List.length_map] at hsame
      exact hsame.trans_le hbound
    · exact hids ▸ ((nodup_flatMap_iff hone).mpr hnodup).map asBytes_injective

/-- The discovered containers are those of the contributing lists. They are unique and bounded
exactly when the decoder replays the selector of the capture, or the capture itself lists every
container once. -/
theorem decodeCapture_discovered_iff {inventory : DecodedInventory}
    (h : decodeCapture fromSlice capture = .ok inventory) :
    inventory.discoveredContainers.map ContainerSummary.id =
        ((contributing fromSlice capture.exchanges).flatMap (containerIds fromSlice)).map
          asBytes ∧
      (DiscoveredOnce fromSlice capture inventory ↔
        capture.selector.any replays = true ∨ ListedOnce fromSlice capture.exchanges) := by
  refine ⟨ids_of_decodeCapture h, ?_⟩
  rw [discoveredOnce_iff h]
  constructor
  · exact .inr
  · rintro (hreplays | hlisted)
    · obtain ⟨decoding, hloop, -⟩ := decodeCapture_eq_ok h
      exact listedOnce_of_replays hreplays hloop
    · exact hlisted

/-- What is acquired lists every container once, whatever its selector. -/
theorem listedOnce_of_acquire {daemon : Daemon} {selector : Selector} {limits : Limits}
    (h : acquire fromSlice daemon selector limits = .ok capture) :
    ListedOnce fromSlice capture.exchanges := by
  obtain ⟨history, hacquired⟩ := acquire_eq_ok h
  have hfound : ∀ exchange ∈ history.found.map (Inspection.exchange history.api),
      containerIds fromSlice exchange = [] := by
    intro exchange hexchange
    obtain ⟨inspection, -, rfl⟩ := List.mem_map.mp hexchange
    rw [containerIds, if_neg]
    cases hkind : inspection.kind <;> simp [Inspection.exchange, Inspection.request, hkind]
  have hlisted : ∀ exchange ∈ history.listBody.toList.map history.listExchange,
      (containerIds fromSlice exchange).Nodup := by
    intro exchange hexchange
    obtain ⟨body, hbody, rfl⟩ := List.mem_map.mp hexchange
    rw [Option.mem_toList] at hbody
    have hpicks := hacquired.picks
    rw [hbody] at hpicks
    cases selector with
    | containerIds _ | networkIds _ | volumeNames _ => cases hpicks.1
    | _ =>
        obtain ⟨_, hsame, hids⟩ := hpicks
        cases hsame
        exact nodup_containerIds fun _ => hids
  have hone : (history.listBody.toList.map history.listExchange).Pairwise fun left right =>
      containerIds fromSlice left = [] ∨ containerIds fromSlice right = [] := by
    cases history.listBody <;> simp
  rw [hacquired.exchanges_eq, History.exchanges]
  refine ⟨?_, ?_⟩
  · intro exchange hexchange
    rcases List.mem_append.mp hexchange with hexchange | hexchange
    · rcases List.mem_append.mp hexchange with hexchange | hexchange
      · simp only [List.mem_cons, List.not_mem_nil, or_false] at hexchange
        rcases hexchange with rfl | rfl <;> exact List.nodup_nil
      · exact hlisted exchange hexchange
    · rw [hfound exchange hexchange]
      exact List.nodup_nil
  · rw [List.pairwise_append, List.pairwise_append]
    refine ⟨⟨?_, hone, ?_⟩, ?_, ?_⟩
    · exact List.pairwise_pair.mpr (.inl rfl)
    · intro left hleft _ _
      simp only [List.mem_cons, List.not_mem_nil, or_false] at hleft
      rcases hleft with rfl | rfl <;> exact .inl rfl
    · exact List.pairwise_of_forall_mem_list fun left hleft _ _ => .inl (hfound left hleft)
    · exact fun _ _ right hright => .inr (hfound right hright)

end

/-- A list of one container. -/
def databaseList : CapturedExchange :=
  ⟨.listContainers, none, ApiVersion.new? 1 49, ⟨200, validStatus_ok⟩,
    asBytes "[\x7b\"Id\":\"db\"\x7d]"⟩

def databaseInspection : CapturedExchange :=
  ⟨.inspectContainer ⟨"db", by decide⟩, some ⟨1⟩, ApiVersion.new? 1 49, ⟨200, validStatus_ok⟩,
    asBytes "\x7b\"Id\":\"db\"\x7d"⟩

theorem containerIds_databaseList : containerIds Json.fromSlice databaseList = ["db"] := by
  decide +kernel

theorem containerIds_databaseInspection : containerIds Json.fromSlice databaseInspection = [] :=
  rfl

theorem decodeCapture_discovered_iff_database :
    ∃ capture inventory,
      Capture.fromCompleted ⟨1⟩ ⟨2, 0, 1, 24⟩ [databaseList, databaseInspection] = .ok capture ∧
        decodeCapture Json.fromSlice capture = .ok inventory ∧
        inventory.discoveredContainers.map ContainerSummary.id = [asBytes "db"] ∧
        DiscoveredOnce Json.fromSlice capture inventory := by
  obtain ⟨capture, hcapture⟩ := exists_of_isOk (show (Capture.fromCompleted ⟨1⟩ ⟨2, 0, 1, 24⟩
    [databaseList, databaseInspection]).isOk = true by decide +kernel)
  obtain ⟨-, -, rfl⟩ := Capture.fromCompleted_eq_ok_iff.mp hcapture
  obtain ⟨inventory, hdecoded⟩ := exists_of_isOk (show (decodeCapture Json.fromSlice
    ⟨⟨1⟩, ⟨2, 0, 1, 24⟩, [databaseList, databaseInspection], .callerAssembled, [], none, [],
      false⟩).isOk = true by decide +kernel)
  obtain ⟨hids, honce⟩ := decodeCapture_discovered_iff hdecoded
  refine ⟨_, inventory, hcapture, hdecoded, hids.trans ?_, honce.mpr (.inr ⟨?_, ?_⟩)⟩
  · simp [contributing, containerIds_databaseList, containerIds_databaseInspection]
  · simp [containerIds_databaseList, containerIds_databaseInspection]
  · simp [containerIds_databaseInspection]

/-- Two lists of the same container, without a selector. -/
theorem decodeCapture_discovered_twice :
    ∃ capture inventory,
      Capture.fromCompleted ⟨1⟩ ⟨3, 0, 1, 37⟩ [databaseList, databaseList, databaseInspection] =
          .ok capture ∧
        decodeCapture Json.fromSlice capture = .ok inventory ∧
        inventory.discoveredContainers.map ContainerSummary.id = [asBytes "db", asBytes "db"] ∧
        ¬ DiscoveredOnce Json.fromSlice capture inventory := by
  obtain ⟨capture, hcapture⟩ := exists_of_isOk (show (Capture.fromCompleted ⟨1⟩ ⟨3, 0, 1, 37⟩
    [databaseList, databaseList, databaseInspection]).isOk = true by decide +kernel)
  obtain ⟨-, -, rfl⟩ := Capture.fromCompleted_eq_ok_iff.mp hcapture
  obtain ⟨inventory, hdecoded⟩ := exists_of_isOk (show (decodeCapture Json.fromSlice
    ⟨⟨1⟩, ⟨3, 0, 1, 37⟩, [databaseList, databaseList, databaseInspection], .callerAssembled, [],
      none, [], false⟩).isOk = true by decide +kernel)
  refine ⟨_, inventory, hcapture, hdecoded, (ids_of_decodeCapture hdecoded).trans ?_,
    fun honce => ?_⟩
  · simp [contributing, containerIds_databaseList, containerIds_databaseInspection]
  · have hone := ((discoveredOnce_iff hdecoded).mp honce).one
    simp [containerIds_databaseList] at hone

end DockerLens.Decoder
