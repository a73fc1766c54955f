import DockerLens.Acquisition.Registry
import DockerLens.Decoder.Replay
import DockerLens.Json.Document

namespace DockerLens.Decoder

open DockerLens.Text
open DockerLens.Json
open DockerLens.Observation
open DockerLens.Acquisition
open DockerLens.Version
open DockerLens.Evidence
open DockerLens.Fold

/-- A capture that a budget completed after some calls. Acquisition records its selection on
such a capture, so the parts that describe the selection are arbitrary. -/
def CompletedFromBudget (capture : Capture) : Prop :=
  ∃ limits fresh budget calls elapsed completed, Budget.new limits fresh = .ok budget ∧
    (budget.run calls).intoCapture elapsed = .ok completed ∧
    capture = { completed with
      route := capture.route
      selectedRoots := capture.selectedRoots
      selector := capture.selector
      networkNameFallbacks := capture.networkNameFallbacks
      discoveryOnly := capture.discoveryOnly }

/-- Whether an exchange inspects a resource of a kind. -/
def inspects (kind : RootKind) (exchange : CapturedExchange) : Bool :=
  exchange.request.inspected.any (·.1 = kind)

/-- A field that holds a native id. -/
def holds (id : NativeId) (origin : Origin) : Observed ProtectedValue :=
  .present (asBytes id.text) .present origin

/-- A container is observed under the reference and the id of its inspection. -/
def ContainerIdentified (exchange : CapturedExchange) (container : ContainerObservation) : Prop :=
  ∃ id, exchange.request = .inspectContainer id ∧
    exchange.resource = some container.reference ∧ container.id = holds id .runtimeAssigned

/-- A network is observed under the reference of its inspection and under its id, which the
inspection asked for unless it asked for the name. -/
def NetworkIdentified (capture : Capture) (exchange : CapturedExchange)
    (network : NetworkObservation) : Prop :=
  ∃ id native, exchange.request = .inspectNetwork id ∧
    exchange.resource = some network.reference ∧ network.id = holds native .runtimeAssigned ∧
    if network.reference ∈ capture.networkNameFallbacks then network.name = holds id .effective
    else native = id

/-- A volume is observed under the reference and the name of its inspection. -/
def VolumeIdentified (exchange : CapturedExchange) (volume : VolumeObservation) : Prop :=
  ∃ id, exchange.request = .inspectVolume id ∧
    exchange.resource = some volume.reference ∧ volume.name = holds id .effective

section Lists

variable {α β γ : Type} {relation : α → β → Prop} {left : List α} {right : List β}

theorem forall₂_filter_flatMap {p : α → Bool} {f : β → List γ} {same : α → γ → Prop}
    (h : List.Forall₂ relation left right)
    (hpick : ∀ a b, relation a b → p a = true → ∃ c, f b = [c] ∧ same a c)
    (hskip : ∀ a b, relation a b → p a = false → f b = []) :
    List.Forall₂ same (left.filter p) (right.flatMap f) := by
  induction h with
  | nil => exact .nil
  | @cons a b left right hhead _ ih =>
      rw [List.filter_cons, List.flatMap_cons]
      cases hp : p a with
      | true =>
          obtain ⟨c, hc, hsame⟩ := hpick a b hhead hp
          rw [hc]
          exact .cons hsame ih
      | false =>
          rw [hskip a b hhead hp]
          exact ih

theorem filterMap_of_forall₂ {f : α → Option γ} {g : β → γ}
    (h : List.Forall₂ relation left right) (hrow : ∀ a b, relation a b → f a = some (g b)) :
    left.filterMap f = right.map g := by
  induction h with
  | nil => rfl
  | @cons a b left right hhead _ ih =>
      rw [List.filterMap_cons, hrow a b hhead, ih]
      rfl

end Lists

section
variable {fromSlice : Bytes → Option Value} {capture : Capture} {exchange : CapturedExchange}
  {contribution : Contribution}

theorem ofInspect_of_ofExchange {kind : RootKind} {id : NativeId}
    (hrequest : exchange.request.inspected = some (kind, id))
    (h : Contribution.ofExchange fromSlice capture exchange = .ok contribution) :
    ∃ body found, fromSlice exchange.body = some body ∧
      Contribution.ofInspect capture exchange kind id body = .ok found ∧
      contribution = { found with api := exchange.apiVersion } := by
  obtain ⟨body, found, hbody, hfound, rfl⟩ := ofExchange_eq_ok h
  refine ⟨body, found, hbody, ?_, rfl⟩
  rw [Contribution.ofBody] at hfound
  cases hexchange : exchange.request <;> simp_all [ReadRequest.inspected]

theorem inspected_of_request {kind : RootKind} {id : NativeId}
    (hrequest : exchange.request.inspected = some (kind, id))
    (h : Contribution.ofExchange fromSlice capture exchange = .ok contribution) :
    ∃ reference body, ∃ native : NativeId, exchange.resource = some reference ∧
      Inspected fromSlice capture exchange kind id reference contribution body native.text := by
  obtain ⟨body, found, -, hfound, rfl⟩ := ofInspect_of_ofExchange hrequest h
  simp only [Contribution.ofInspect, bind_eq_ok_iff, shaped_eq_ok_iff] at hfound
  obtain ⟨reference, hreference, hfound⟩ := hfound
  split at hfound
  · cases hfound
  simp only [bind_eq_ok_iff, shaped_eq_ok_iff, Except.ok.injEq] at hfound
  obtain ⟨nativeId, hnative, observed, -, rfl⟩ := hfound
  obtain ⟨-, hnonempty⟩ := Option.filter_eq_some_iff.mp hnative
  obtain ⟨body', nativeId', hinspected⟩ := ofExchange_inspected hrequest hreference h
  obtain ⟨_, -, hcontribution⟩ := hinspected.observation
  obtain rfl : nativeId = nativeId' := by simpa using congrArg Contribution.inspected hcontribution
  exact ⟨reference, body', ⟨nativeId, by simpa using hnonempty⟩, hreference, hinspected⟩

theorem keys_of_ofExchange
    (h : Contribution.ofExchange fromSlice capture exchange = .ok contribution) :
    nativeOf fromSlice exchange =
        contribution.inspected.map (fun resource => (resource.kind, resource.nativeId)) ∧
      referenceOf exchange =
        contribution.inspected.map fun resource => (resource.kind, resource.reference) := by
  cases hrequest : exchange.request.inspected with
  | none =>
      obtain ⟨body, found, -, hfound, rfl⟩ := ofExchange_eq_ok h
      have hnone := (ofBody_uninspected hrequest hfound).1
      simp [nativeOf, referenceOf, hrequest, hnone]
  | some entry =>
      obtain ⟨reference, body, native, hreference, hinspected⟩ := inspected_of_request hrequest h
      rw [nativeOf_eq_some hrequest hinspected.body_eq hinspected.native,
        referenceOf_eq_some hrequest hreference]
      obtain ⟨observed, -, rfl⟩ := hinspected.observation
      exact ⟨rfl, rfl⟩

/-- What a successful decode loop has found out about the exchanges it consumed. -/
structure Distinct (fromSlice : Bytes → Option Value) (capture : Capture)
    (exchanges : List CapturedExchange) (decoding : Decoding) : Prop where
  decoded : Decoded fromSlice capture exchanges decoding
  natives : (exchanges.filterMap (nativeOf fromSlice)).Nodup
  references : (exchanges.filterMap referenceOf).Nodup

theorem nodup_filterMap_concat {α β : Type} {f : α → Option β} {values : List α} {a : α}
    (h : (values.filterMap f).Nodup) (hfresh : ∀ b, f a = some b → b ∉ values.filterMap f) :
    ((values ++ [a]).filterMap f).Nodup := by
  rw [List.filterMap_append]
  cases hb : f a with
  | none => simpa [hb] using h
  | some b =>
      simp only [List.filterMap_cons, hb, List.filterMap_nil]
      exact List.nodup_append.mpr ⟨h, List.nodup_singleton b, fun other hother same hsame => by
        rw [List.mem_singleton.mp hsame]
        rintro rfl
        exact hfresh _ hb hother⟩

/-- An exchange that the decoder accepts repeats no earlier resource. -/
theorem Distinct.step {exchanges : List CapturedExchange} {decoding next : Decoding}
    (h : Distinct fromSlice capture exchanges decoding)
    (hstep : decodeExchange fromSlice capture decoding exchange = .ok next) :
    Distinct fromSlice capture (exchanges ++ [exchange]) next := by
  obtain ⟨contribution, hcontribution, hadmits, -⟩ := decodeExchange_eq_ok_iff.mp hstep
  obtain ⟨hnative, hreference⟩ := keys_of_ofExchange hcontribution
  obtain ⟨contributions, hcontributions, hdecoding⟩ := h.decoded
  refine ⟨h.decoded.step hstep, nodup_filterMap_concat h.natives fun key hkey hmem => ?_,
    nodup_filterMap_concat h.references fun key hkey hmem => ?_⟩
  · rw [hnative, Option.map_eq_some_iff] at hkey
    obtain ⟨resource, hresource, rfl⟩ := hkey
    obtain ⟨earlier, hearlier, hsame⟩ := List.mem_filterMap.mp hmem
    obtain ⟨contribution', hmem', hof⟩ := exists_of_forall₂_left hcontributions hearlier
    rw [(keys_of_ofExchange hof).1, Option.map_eq_some_iff] at hsame
    obtain ⟨resource', hresource', hkey⟩ := hsame
    rw [Prod.mk.injEq] at hkey
    refine (hadmits.inspected resource hresource).1 ?_
    rw [hdecoding, Decoding.mem_inspectedNativeObjects]
    exact .inr ⟨contribution', hmem', resource', hresource', hkey.1.symm, hkey.2.symm⟩
  · rw [hreference, Option.map_eq_some_iff] at hkey
    obtain ⟨resource, hresource, rfl⟩ := hkey
    obtain ⟨earlier, hearlier, hsame⟩ := List.mem_filterMap.mp hmem
    obtain ⟨contribution', hmem', hof⟩ := exists_of_forall₂_left hcontributions hearlier
    rw [(keys_of_ofExchange hof).2, Option.map_eq_some_iff] at hsame
    obtain ⟨resource', hresource', hkey⟩ := hsame
    refine (hadmits.inspected resource hresource).2 ?_
    rw [hdecoding, Decoding.mem_seenResources]
    exact .inr ⟨contribution', hmem', resource', hresource', hkey.symm⟩

theorem decode_distinct {exchanges : List CapturedExchange} {decoding : Decoding}
    (h : exchanges.foldlM (decodeExchange fromSlice capture) .start = .ok decoding) :
    Distinct fromSlice capture exchanges decoding :=
  foldlM_induction (motive := Distinct fromSlice capture) (fun _ _ _ _ => Distinct.step)
    ⟨decoded_start, List.nodup_nil, List.nodup_nil⟩ h

end

section
variable {fromSlice : Bytes → Option Value} {capture : Capture} {exchange : CapturedExchange}
  {contribution : Contribution}

/-- An observation with this reference and this identity field is that of an exchange. -/
def Row (fromSlice : Bytes → Option Value) (kind : RootKind) (origin : Origin)
    (exchange : CapturedExchange) (reference : ResourceRef) (identity : Observed ProtectedValue) :
    Prop :=
  referenceOf exchange = some (kind, reference) ∧ ∃ native : NativeId,
    nativeOf fromSlice exchange = some (kind, native.text) ∧ identity = holds native origin

theorem eq_holds {body : Value} {key : String} {field : FieldPath} {origin : Origin}
    {id : NativeId} {found : Observed ProtectedValue}
    (hfield : stringField body [key] field origin = .ok found)
    (hget : (body.get key).bind Value.asStr = some id.text)
    (hkey : key ≠ "__docker_lens_redacted__") : found = holds id origin := by
  rw [stringField_of_get field origin hget hkey, Except.ok.injEq] at hfield
  rw [← hfield, holds, presence, if_neg id.nonempty]

theorem request_of_inspects {kind : RootKind} (h : inspects kind exchange = true) :
    ∃ id, exchange.request.inspected = some (kind, id) := by
  rw [inspects, Option.any_eq_true] at h
  obtain ⟨⟨_, id⟩, hrequest, hkind⟩ := h
  obtain rfl := of_decide_eq_true hkind
  exact ⟨id, hrequest⟩

theorem container_row (hinspects : inspects .container exchange = true)
    (h : Contribution.ofExchange fromSlice capture exchange = .ok contribution) :
    ∃ found, contribution.containers = [found] ∧ ContainerIdentified exchange found ∧
      Row fromSlice .container .runtimeAssigned exchange found.reference found.id := by
  obtain ⟨id, hrequest⟩ := request_of_inspects hinspects
  obtain ⟨reference, body, native, hreference, hinspected⟩ := inspected_of_request hrequest h
  obtain ⟨observed, hobserved, rfl⟩ := hinspected.observation
  obtain ⟨found, hfound, rfl⟩ := map_eq_ok hobserved
  obtain ⟨rfl, hid, -⟩ := container_eq_ok hfound
  have hidentity : (body.get "Id").bind Value.asStr = some id.text := hinspected.identity
  refine ⟨found, rfl, ⟨id, ?_, hreference, eq_holds hid hidentity (by decide)⟩,
    referenceOf_eq_some hrequest hreference, native,
    nativeOf_eq_some hrequest hinspected.body_eq hinspected.native,
    eq_holds hid hinspected.native (by decide)⟩
  cases hexchange : exchange.request <;> simp_all [ReadRequest.inspected]

theorem network_row (hinspects : inspects .network exchange = true)
    (h : Contribution.ofExchange fromSlice capture exchange = .ok contribution) :
    ∃ found, contribution.networks = [found] ∧ NetworkIdentified capture exchange found ∧
      Row fromSlice .network .runtimeAssigned exchange found.reference found.id := by
  obtain ⟨id, hrequest⟩ := request_of_inspects hinspects
  obtain ⟨reference, body, native, hreference, hinspected⟩ := inspected_of_request hrequest h
  obtain ⟨observed, hobserved, rfl⟩ := hinspected.observation
  obtain ⟨found, hfound, rfl⟩ := map_eq_ok hobserved
  obtain ⟨rfl, hid, hname, -⟩ := network_eq_ok hfound
  have hnative : (body.get "Id").bind Value.asStr = some native.text := hinspected.native
  have hidentity := hinspected.identity
  refine ⟨found, rfl, ⟨id, native, ?_, hreference, eq_holds hid hnative (by decide), ?_⟩,
    referenceOf_eq_some hrequest hreference, native,
    nativeOf_eq_some hrequest hinspected.body_eq hinspected.native,
    eq_holds hid hnative (by decide)⟩
  · cases hexchange : exchange.request <;> simp_all [ReadRequest.inspected]
  · split
    · next hfallback =>
        rw [identityKey, if_pos (.inr ⟨rfl, hfallback⟩)] at hidentity
        exact eq_holds hname hidentity (by decide)
    · next hfallback =>
        rw [identityKey, if_neg (by simpa using hfallback), hnative, Option.some.injEq]
          at hidentity
        exact NativeId.ext_text hidentity

theorem volume_row (hinspects : inspects .volume exchange = true)
    (h : Contribution.ofExchange fromSlice capture exchange = .ok contribution) :
    ∃ found, contribution.volumes = [found] ∧ VolumeIdentified exchange found ∧
      Row fromSlice .volume .effective exchange found.reference found.name := by
  obtain ⟨id, hrequest⟩ := request_of_inspects hinspects
  obtain ⟨reference, body, native, hreference, hinspected⟩ := inspected_of_request hrequest h
  obtain ⟨observed, hobserved, rfl⟩ := hinspected.observation
  obtain ⟨found, hfound, rfl⟩ := map_eq_ok hobserved
  obtain ⟨rfl, hname⟩ := volume_eq_ok hfound
  have hidentity : (body.get "Name").bind Value.asStr = some id.text := hinspected.identity
  refine ⟨found, rfl, ⟨id, ?_, hreference, eq_holds hname hidentity (by decide)⟩,
    referenceOf_eq_some hrequest hreference, native,
    nativeOf_eq_some hrequest hinspected.body_eq hinspected.native,
    eq_holds hname hinspected.native (by decide)⟩
  cases hexchange : exchange.request <;> simp_all [ReadRequest.inspected]

theorem no_row {kind : RootKind} (hskips : inspects kind exchange = false)
    (h : Contribution.ofExchange fromSlice capture exchange = .ok contribution) :
    match kind with
    | .container => contribution.containers = []
    | .network => contribution.networks = []
    | .volume => contribution.volumes = [] := by
  cases hrequest : exchange.request.inspected with
  | none =>
      obtain ⟨body, found, -, hfound, rfl⟩ := ofExchange_eq_ok h
      obtain ⟨-, hcontainers, hnetworks, hvolumes⟩ := ofBody_uninspected hrequest hfound
      cases kind <;> assumption
  | some entry =>
      obtain ⟨other, id⟩ := entry
      have hother : other ≠ kind := by simpa [inspects, hrequest] using hskips
      obtain ⟨reference, body, native, -, hinspected⟩ := inspected_of_request hrequest h
      obtain ⟨observed, hobserved, rfl⟩ := hinspected.observation
      cases other <;> obtain ⟨found, -, rfl⟩ := map_eq_ok hobserved <;>
        cases kind <;> first | rfl | exact absurd rfl hother

variable {exchanges : List CapturedExchange} {decoding : Decoding}

theorem container_rows (h : Decoded fromSlice capture exchanges decoding) :
    List.Forall₂ (fun exchange found => ContainerIdentified exchange found ∧
        Row fromSlice .container .runtimeAssigned exchange found.reference found.id)
      (exchanges.filter (inspects .container)) decoding.containers := by
  obtain ⟨contributions, hcontributions, rfl⟩ := h
  rw [Decoding.containers_recordAll]
  exact forall₂_filter_flatMap hcontributions (fun _ _ hof hinspects =>
    container_row hinspects hof) fun _ _ hof hskips => no_row hskips hof

theorem network_rows (h : Decoded fromSlice capture exchanges decoding) :
    List.Forall₂ (fun exchange found => NetworkIdentified capture exchange found ∧
        Row fromSlice .network .runtimeAssigned exchange found.reference found.id)
      (exchanges.filter (inspects .network)) decoding.networks := by
  obtain ⟨contributions, hcontributions, rfl⟩ := h
  rw [Decoding.networks_recordAll]
  exact forall₂_filter_flatMap hcontributions (fun _ _ hof hinspects =>
    network_row hinspects hof) fun _ _ hof hskips => no_row hskips hof

theorem volume_rows (h : Decoded fromSlice capture exchanges decoding) :
    List.Forall₂ (fun exchange found => VolumeIdentified exchange found ∧
        Row fromSlice .volume .effective exchange found.reference found.name)
      (exchanges.filter (inspects .volume)) decoding.volumes := by
  obtain ⟨contributions, hcontributions, rfl⟩ := h
  rw [Decoding.volumes_recordAll]
  exact forall₂_filter_flatMap hcontributions (fun _ _ hof hinspects =>
    volume_row hinspects hof) fun _ _ hof hskips => no_row hskips hof

section Rows

variable {γ : Type} {kind : RootKind} {origin : Origin} {p : CapturedExchange → Bool}
  {observations : List γ} {reference : γ → ResourceRef} {identity : γ → Observed ProtectedValue}

theorem rows_references
    (hrows : List.Forall₂ (fun exchange found =>
      Row fromSlice kind origin exchange (reference found) (identity found))
        (exchanges.filter p) observations) :
    (exchanges.filter p).filterMap referenceOf =
      observations.map fun found => (kind, reference found) :=
  filterMap_of_forall₂ hrows fun _ _ hrow => hrow.1

theorem rows_references_nodup (hreferences : (exchanges.filterMap referenceOf).Nodup)
    (hrows : List.Forall₂ (fun exchange found =>
      Row fromSlice kind origin exchange (reference found) (identity found))
        (exchanges.filter p) observations) :
    (observations.map fun found => (kind, reference found)).Nodup := by
  rw [← rows_references hrows]
  exact hreferences.sublist (List.filter_sublist.filterMap _)

theorem rows_identities_nodup (hnatives : (exchanges.filterMap (nativeOf fromSlice)).Nodup)
    (hrows : List.Forall₂ (fun exchange found =>
      Row fromSlice kind origin exchange (reference found) (identity found))
        (exchanges.filter p) observations) :
    (observations.map identity).Nodup := by
  have hfields : (exchanges.filter p).filterMap (fun exchange =>
      (nativeOf fromSlice exchange).map fun key =>
        Observed.present (asBytes key.2) .present origin) = observations.map identity := by
    refine filterMap_of_forall₂ hrows fun exchange found hrow => ?_
    obtain ⟨-, native, hnative, hidentity⟩ := hrow
    rw [hnative, hidentity]
    rfl
  have hkeys : ∀ key ∈ (exchanges.filter p).filterMap (nativeOf fromSlice), key.1 = kind := by
    intro key hkey
    obtain ⟨exchange, hexchange, hkey⟩ := List.mem_filterMap.mp hkey
    obtain ⟨found, -, -, native, hnative, -⟩ := exists_of_forall₂_left hrows hexchange
    rw [hnative, Option.some.injEq] at hkey
    rw [← hkey]
  rw [← hfields, ← List.map_filterMap]
  refine List.Nodup.map_on ?_ (hnatives.sublist (List.filter_sublist.filterMap _))
  intro left hleft right hright hsame
  refine Prod.ext ((hkeys left hleft).trans (hkeys right hright).symm) ?_
  simpa [Observed.present] using hsame

end Rows

/-- References that name one resource each are distinct across the three kinds. -/
theorem references_distinct {names : ResourceRef → Option (RootKind × NativeId)}
    (hnames : ∀ exchange ∈ exchanges, ∀ object reference,
      exchange.request.inspected = some object → exchange.resource = some reference →
        names reference = some object)
    (h : Distinct fromSlice capture exchanges decoding) :
    (decoding.containers.map ContainerObservation.reference ++
      decoding.networks.map NetworkObservation.reference ++
      decoding.volumes.map VolumeObservation.reference).Nodup := by
  have hcontainers := (container_rows h.decoded).imp fun _ _ hrow => hrow.2
  have hnetworks := (network_rows h.decoded).imp fun _ _ hrow => hrow.2
  have hvolumes := (volume_rows h.decoded).imp fun _ _ hrow => hrow.2
  -- the references with their kinds are the keys of the inspections, kind by kind
  have htagged : (decoding.containers.map (fun found => (RootKind.container, found.reference)) ++
      decoding.networks.map (fun found => (RootKind.network, found.reference)) ++
      decoding.volumes.map fun found => (RootKind.volume, found.reference)).Nodup := by
    simp only [List.nodup_append, rows_references_nodup h.references hcontainers,
      rows_references_nodup h.references hnetworks, rows_references_nodup h.references hvolumes,
      List.mem_append, List.mem_map, true_and]
    constructor
    · rintro _ ⟨left, -, rfl⟩ _ ⟨right, -, rfl⟩ hsame
      simp at hsame
    · rintro _ (⟨left, -, rfl⟩ | ⟨left, -, rfl⟩) _ ⟨right, -, rfl⟩ hsame <;> simp at hsame
  have hmem : ∀ key ∈ decoding.containers.map
        (fun found => (RootKind.container, found.reference)) ++
      decoding.networks.map (fun found => (RootKind.network, found.reference)) ++
      decoding.volumes.map (fun found => (RootKind.volume, found.reference)),
      key ∈ exchanges.filterMap referenceOf := by
    intro key hkey
    rw [← rows_references hcontainers, ← rows_references hnetworks, ← rows_references hvolumes,
      List.mem_append, List.mem_append] at hkey
    rcases hkey with (hkey | hkey) | hkey <;>
      exact (List.filter_sublist.filterMap _).subset hkey
  have hnamed : ∀ key ∈ exchanges.filterMap referenceOf,
      ∃ id, names key.2 = some (key.1, id) := by
    intro key hkey
    obtain ⟨exchange, hexchange, hkey⟩ := List.mem_filterMap.mp hkey
    simp only [referenceOf, Option.bind_eq_bind, Option.bind_eq_some_iff, Option.some.injEq]
      at hkey
    obtain ⟨⟨kind, id⟩, hrequest, reference, hreference, rfl⟩ := hkey
    exact ⟨id, hnames exchange hexchange _ _ hrequest hreference⟩
  have hdistinct := List.Nodup.map_on (f := Prod.snd) ?_ htagged
  · simpa [Function.comp_def] using hdistinct
  · intro left hleft right hright hsame
    obtain ⟨id, hid⟩ := hnamed left (hmem left hleft)
    obtain ⟨other, hother⟩ := hnamed right (hmem right hright)
    rw [hsame, hother, Option.some.injEq, Prod.mk.injEq] at hid
    exact Prod.ext hid.1.symm hsame

end

/-- Identity integrity: a decoded inventory has exactly one observation for each inspection of
the capture, under the reference of that inspection and under the native id it asked for, and
no two observations share a reference, or a native id within their kind. -/
theorem decodeCapture_identified {fromSlice : Bytes → Option Value} {capture : Capture}
    {inventory : DecodedInventory} (hcompleted : CompletedFromBudget capture)
    (h : decodeCapture fromSlice capture = .ok inventory) :
    List.Forall₂ ContainerIdentified (capture.exchanges.filter (inspects .container))
        inventory.containers ∧
      List.Forall₂ (NetworkIdentified capture) (capture.exchanges.filter (inspects .network))
        inventory.networks ∧
      List.Forall₂ VolumeIdentified (capture.exchanges.filter (inspects .volume))
        inventory.volumes ∧
      (inventory.containers.map ContainerObservation.reference ++
        inventory.networks.map NetworkObservation.reference ++
        inventory.volumes.map VolumeObservation.reference).Nodup ∧
      (inventory.containers.map ContainerObservation.id).Nodup ∧
      (inventory.networks.map NetworkObservation.id).Nodup ∧
      (inventory.volumes.map VolumeObservation.name).Nodup := by
  obtain ⟨limits, fresh, budget, calls, elapsed, completed, hnew, hinto, hcapture⟩ := hcompleted
  obtain ⟨names, hnames⟩ := Budget.completed_registered hnew hinto
  have hexchanges : capture.exchanges = completed.exchanges := by rw [hcapture]
  rw [← hexchanges] at hnames
  obtain ⟨decoding, hdecoding, -, -, rfl⟩ := decodeCapture_eq_ok h
  have hdistinct := decode_distinct hdecoding
  have hcontainers := container_rows hdistinct.decoded
  have hnetworks := network_rows hdistinct.decoded
  have hvolumes := volume_rows hdistinct.decoded
  exact ⟨hcontainers.imp fun _ _ hrow => hrow.1, hnetworks.imp fun _ _ hrow => hrow.1,
    hvolumes.imp fun _ _ hrow => hrow.1,
    references_distinct (fun exchange hexchange => (hnames exchange hexchange).2) hdistinct,
    rows_identities_nodup hdistinct.natives (hcontainers.imp fun _ _ hrow => hrow.2),
    rows_identities_nodup hdistinct.natives (hnetworks.imp fun _ _ hrow => hrow.2),
    rows_identities_nodup hdistinct.natives (hvolumes.imp fun _ _ hrow => hrow.2)⟩

/-- A budget that reads a network by its name and then a volume. -/
def fallbackCalls : List BudgetCall :=
  [.recordRequest 0 (.inspectNetwork ⟨"n", by decide⟩) (some ⟨1⟩) (some knownApi),
    .readResponse 0 0 ⟨200, validStatus_ok⟩
      ⟨asBytes "\x7b\"Id\":\"i\",\"Name\":\"n\"\x7d", false⟩,
    .recordRequest 0 (.inspectVolume ⟨"n", by decide⟩) (some ⟨2⟩) (some knownApi),
    .readResponse 0 0 ⟨200, validStatus_ok⟩ ⟨asBytes "\x7b\"Name\":\"n\"\x7d", false⟩]

def fallbackLimits : Limits := ⟨2, 1, 2, 100, 200, 1, by decide⟩

def fallbackCapture : Except LimitError Capture := do
  let budget ← Budget.new fallbackLimits (some ⟨1⟩)
  let completed ← (budget.run fallbackCalls).intoCapture 0
  .ok { completed with networkNameFallbacks := [⟨1⟩] }

theorem decodeCapture_identified_fallback :
    ∃ capture inventory, fallbackCapture = .ok capture ∧ CompletedFromBudget capture ∧
      decodeCapture Json.fromSlice capture = .ok inventory ∧
      List.Forall₂ (NetworkIdentified capture) (capture.exchanges.filter (inspects .network))
        inventory.networks ∧
      (inventory.containers.map ContainerObservation.reference ++
        inventory.networks.map NetworkObservation.reference ++
        inventory.volumes.map VolumeObservation.reference).Nodup := by
  have hdecodes : (fallbackCapture.toOption.any fun capture =>
      (decodeCapture Json.fromSlice capture).isOk) = true := by decide +kernel
  cases hcapture : fallbackCapture with
  | error => simp [hcapture, Except.toOption] at hdecodes
  | ok capture =>
      obtain ⟨inventory, hdecode⟩ := exists_of_isOk (show
        (decodeCapture Json.fromSlice capture).isOk = true by
          simpa [hcapture, Except.toOption] using hdecodes)
      obtain ⟨budget, hnew, hrest⟩ := bind_eq_ok_iff.mp hcapture
      obtain ⟨completed, hinto, hcompleted⟩ := bind_eq_ok_iff.mp hrest
      obtain rfl := Except.ok.inj hcompleted
      have hfrom : CompletedFromBudget { completed with networkNameFallbacks := [⟨1⟩] } :=
        ⟨_, _, budget, fallbackCalls, 0, completed, hnew, hinto, rfl⟩
      have hidentified := decodeCapture_identified hfrom hdecode
      exact ⟨_, inventory, rfl, hfrom, hdecode, hidentified.2.1, hidentified.2.2.2.1⟩

end DockerLens.Decoder
