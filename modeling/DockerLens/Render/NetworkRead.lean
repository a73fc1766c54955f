import DockerLens.Decoder.Known
import DockerLens.Render.Unique

namespace DockerLens.Render

open DockerLens.Text
open DockerLens.Json
open DockerLens.Observation
open DockerLens.Fold
open DockerLens.Acquisition
open DockerLens.Target
open DockerLens.Decoder

/-- What is decoded of a pool: its texts, and one entry for each auxiliary address. -/
structure PoolRead (pool : NetworkIpamPool) (found : IpamConfigObservation) : Prop where
  subnet : found.subnet = readText .effective (subnetText pool.subnet)
  gateway : found.gateway =
    readSome .effective (fun gateway => readText .effective (addressText gateway)) pool.gateway
  ipRange : found.ipRange =
    readSome .effective (fun range => readText .effective (subnetText range)) pool.ipRange
  auxiliary : Collected .effective (pool.auxiliaryAddresses.map fun auxiliary =>
    Decoder.readEntry (auxiliary.name.bytes, addressText auxiliary.address))
      found.auxiliaryAddresses

section Pieces

variable {α β : Type} {field : FieldPath} {origin : Origin}

theorem observe_text {text : α → Bytes} {found : Option α}
    (h : ∀ a ∈ found, isUtf8 (text a) = true) :
    observeValue origin (fun value => string value field)
        ((found.map fun a => stringValue (text a)).map Json.normalize) =
      .ok (readSome origin (fun a => readText origin (text a)) found) := by
  cases found with
  | none => rfl
  | some a =>
      rw [Option.map_some, Option.map_some, stringValue, normalize_string, observe_string,
        asBytes_decoded (h a rfl)]
      rfl

theorem observe_fixed (text : String) :
    observeValue origin (fun value => string value field) (some (Json.normalize (.string text))) =
      .ok (readText origin (asBytes text)) := by
  rw [normalize_string, observe_string]

theorem observe_identity (identity : TargetIdentity) :
    observeValue origin (fun value => string value field)
        (some (Json.normalize (stringValue identity.bytes))) =
      .ok (readText origin identity.bytes) :=
  @observe_text _ _ _ (fun _ => identity.bytes) (some ()) fun _ _ =>
    isUtf8_of_identity identity.checked

theorem observe_flag (flag : Bool) :
    observeValue origin (fun value => shaped field value.asBool)
        ((fieldIf flag (.bool true)).map Json.normalize) =
      .ok (if flag then .present true .present origin else .unavailable .missing origin) := by
  cases flag with
  | false => rfl
  | true =>
      rw [fieldIf, if_pos rfl, Option.map_some, Json.normalize, observe_bool]
      rfl

theorem observe_mapField (parse : Value → Except DecodeError (List β))
    {entry : α → String × Value} {read : α → β} {values : List α}
    (hparse : ∀ kept : List α, (∀ a ∈ kept, a ∈ values) → kept.length ≤ maxCollectionItems →
      parse (.object (kept.map fun a => ((entry a).1, Json.normalize (entry a).2))) =
        .ok (kept.map read))
    (hplain : ∀ a ∈ values, Json.normalize (entry a).2 ≠ .bool true)
    (hkeys : ((values.map entry).map Prod.fst).Nodup)
    (hlength : values.length ≤ maxCollectionItems) :
    ∃ found, observeValue origin parse
        ((fieldIf (!values.isEmpty) (.object (values.map entry))).map Json.normalize) =
        .ok found ∧
      Collected origin (values.map read) found := by
  rcases eq_or_ne values [] with rfl | hne
  · exact ⟨_, rfl, fun _ => rfl, fun hne => absurd rfl hne⟩
  obtain ⟨found, hfound, hperm⟩ := observe_map parse hparse hplain hkeys hlength hne
  refine ⟨.present found .present origin, ?_, ?_, ?_⟩
  · rw [fieldIf, if_pos (by simpa using hne), Option.map_some]
    exact hfound
  · intro hempty
    exact absurd (List.map_eq_nil_iff.mp hempty) hne
  · exact fun _ => ⟨found, rfl, hperm⟩

theorem observe_pairs (parse : Value → Except DecodeError (List β)) (read : Bytes × Bytes → β)
    {key value : α → Bytes} {values : List α}
    (hparse : ∀ kept : List α, kept.length ≤ maxCollectionItems →
      parse (.object (kept.map fun a => (decoded (key a), .string (decoded (value a))))) =
        .ok (kept.map fun a => read (asBytes (decoded (key a)), asBytes (decoded (value a)))))
    (hutf8 : ∀ a ∈ values, isUtf8 (key a) = true ∧ isUtf8 (value a) = true)
    (hkeys : (values.map key).Nodup) (hlength : values.length ≤ maxCollectionItems) :
    ∃ found, observeValue origin parse
        ((fieldIf (!values.isEmpty)
          (.object (values.map fun a => pairEntry (key a) (value a)))).map Json.normalize) =
        .ok found ∧
      Collected origin (values.map fun a => read (key a, value a)) found := by
  apply observe_mapField parse _ _ _ hlength
  · intro kept hmem hkept
    simp only [pairEntry, stringValue, normalize_string]
    rw [hparse kept hkept]
    congr 1
    apply List.map_congr_left
    intro a ha
    obtain ⟨hkey, hvalue⟩ := hutf8 a (hmem a ha)
    rw [asBytes_decoded hkey, asBytes_decoded hvalue]
  · intro a _
    rw [pairEntry, stringValue, normalize_string]
    exact Value.noConfusion
  · rw [List.map_map]
    exact nodup_decoded (fun a ha => (hutf8 a ha).1) hkeys

end Pieces

theorem known_pool (pool : NetworkIpamPool) : Known (Json.normalize (poolBody pool)) fun key =>
    (List.lookup key
      [("Subnet", some (stringValue (subnetText pool.subnet))),
        ("IPRange", pool.ipRange.map fun range => stringValue (subnetText range)),
        ("Gateway", pool.gateway.map fun gateway => stringValue (addressText gateway)),
        ("AuxiliaryAddresses", fieldIf (!pool.auxiliaryAddresses.isEmpty)
          (.object (pool.auxiliaryAddresses.map auxiliaryEntry)))]).join.map Json.normalize :=
  Known.ofFields (show ["__docker_lens_redacted__", "Subnet", "IPRange", "Gateway",
    "AuxiliaryAddresses"].Nodup by decide) (show 4 ≤ maxCollectionItems by decide)

theorem ipamConfig_pool {enableIpv6 : Bool} {pool : NetworkIpamPool}
    (h : PoolAccepted enableIpv6 pool)
    (hlength : pool.auxiliaryAddresses.length ≤ maxCollectionItems) :
    ∃ found, ipamConfig (Json.normalize (poolBody pool)) = .ok found ∧ PoolRead pool found := by
  have hknown := known_pool pool
  obtain ⟨members, hobject⟩ := hknown.object_eq .networkIpam
  have hsubnet : stringField (Json.normalize (poolBody pool)) ["Subnet"] .networkIpam .effective =
      .ok (readText .effective (subnetText pool.subnet)) :=
    (hknown.observed_eq "Subnet").trans
      (@observe_text _ _ _ _ (some pool.subnet) fun _ _ => isUtf8_asBytes _)
  have hgateway : stringField (Json.normalize (poolBody pool)) ["Gateway"] .networkIpam
      .effective = .ok (readSome .effective (fun gateway =>
        readText .effective (addressText gateway)) pool.gateway) :=
    (hknown.observed_eq "Gateway").trans (observe_text fun _ _ => isUtf8_asBytes _)
  have hrange : stringField (Json.normalize (poolBody pool)) ["IPRange"] .networkIpam
      .effective = .ok (readSome .effective (fun range =>
        readText .effective (subnetText range)) pool.ipRange) :=
    (hknown.observed_eq "IPRange").trans (observe_text fun _ _ => isUtf8_asBytes _)
  obtain ⟨auxiliary, hauxiliary, hread⟩ := observe_pairs
    (fun value => mapEntries value .networkIpam) Decoder.readEntry
    (fun _ hkept => mapEntries_texts .networkIpam hkept)
    (fun auxiliary (_ : auxiliary ∈ pool.auxiliaryAddresses) =>
      ⟨isUtf8_of_identity auxiliary.name.checked, isUtf8_asBytes auxiliary.address.value.text⟩)
    h.names hlength
  have haddresses : observed (Json.normalize (poolBody pool)) ["AuxiliaryAddresses"] .networkIpam
      .effective (fun value => mapEntries value .networkIpam) = .ok auxiliary :=
    (hknown.observed_eq "AuxiliaryAddresses").trans hauxiliary
  refine ⟨⟨_, _, _, auxiliary⟩, ?_, ⟨rfl, rfl, rfl, hread⟩⟩
  rw [ipamConfig, hobject, ok_bind, hsubnet, ok_bind, hgateway, ok_bind, hrange, ok_bind,
    haddresses, ok_bind]
  rfl

/-- What is decoded of an IPAM object. -/
structure IpamRead (ipam : Option NetworkIpam) (driver : Observed ProtectedValue)
    (configs : Observed (List IpamConfigObservation)) : Prop where
  driver : driver = readSome .effective
    (fun driver => readText .effective (asBytes (ipamDriverName driver))) (ipam.bind (·.driver))
  absent : ipam = none → configs = .unavailable .missing .effective
  configs : ∀ configured ∈ ipam, ∃ pools, configs = .present pools .present .effective ∧
    List.Forall₂ PoolRead configured.pools pools

theorem ipamConfigs_pools {enableIpv6 : Bool} {ipam : NetworkIpam}
    (h : IpamAccepted enableIpv6 ipam) (hlength : ipam.pools.length ≤ maxCollectionItems)
    (hauxiliary : ∀ pool ∈ ipam.pools, pool.auxiliaryAddresses.length ≤ maxCollectionItems) :
    ∃ pools, observeValue .effective ipamConfigs
        (some (Json.normalize (.array (ipam.pools.map poolBody)))) =
        .ok (.present pools .present .effective) ∧
      List.Forall₂ PoolRead ipam.pools pools := by
  obtain ⟨pools, hpools, hread⟩ := exists_mapM (f := fun pool =>
    ipamConfig (Json.normalize (poolBody pool))) fun pool hpool =>
      ipamConfig_pool (h.pools pool hpool) (hauxiliary pool hpool)
  refine ⟨pools, ?_, hread⟩
  rw [mapM_eq_ok_iff] at hpools
  rw [Json.normalize, normalizeAll_eq_map, List.map_map]
  have hconfigs : ipamConfigs (.array (ipam.pools.map (Json.normalize ∘ poolBody))) =
      .ok pools := by
    rw [ipamConfigs, array_eq_ok (by rwa [List.length_map]), ok_bind, mapM_eq_ok_iff,
      List.forall₂_map_left_iff]
    exact hpools
  rw [observe_array hconfigs, if_neg (by simpa using h.nonempty)]

/-- A flag that is there when it is authored. -/
def readFlag (flag : Bool) : Observed Bool :=
  if flag then .present true .present .effective else .unavailable .missing .effective

section Networks

variable {root : Value} {fields : String → Option Value}

/-- The two members below the IPAM object of a network. -/
theorem ipam_read {enableIpv6 : Bool} {ipam : Option NetworkIpam} (hknown : Known root fields)
    (hfield : fields "IPAM" = (ipam.map ipamBody).map Json.normalize)
    (h : ∀ configured ∈ ipam, IpamAccepted enableIpv6 configured)
    (hlength : ∀ configured ∈ ipam, configured.pools.length ≤ maxCollectionItems ∧
      ∀ pool ∈ configured.pools, pool.auxiliaryAddresses.length ≤ maxCollectionItems) :
    ∃ driver configs,
      stringField root ["IPAM", "Driver"] .networkIpam .effective = .ok driver ∧
      observed root ["IPAM", "Config"] .networkIpam .effective ipamConfigs = .ok configs ∧
      IpamRead ipam driver configs := by
  cases ipam with
  | none =>
      refine ⟨_, _, hknown.observed_none hfield _, hknown.observed_none hfield _, rfl,
        fun _ => rfl, ?_⟩
      rintro _ ⟨⟩
  | some configured =>
      have hchild : Known (Json.normalize (ipamBody configured)) fun key => (List.lookup key
          [("Driver", configured.driver.map fun driver =>
              stringValue (asBytes (ipamDriverName driver))),
            ("Config", some (.array (configured.pools.map poolBody)))]).join.map Json.normalize :=
        Known.ofFields (show ["__docker_lens_redacted__", "Driver", "Config"].Nodup by decide)
          (show 2 ≤ maxCollectionItems by decide)
      obtain ⟨hpools, hauxiliary⟩ := hlength configured rfl
      obtain ⟨pools, hconfigs, hread⟩ := ipamConfigs_pools (h configured rfl) hpools hauxiliary
      refine ⟨_, _, (hknown.observed_some hfield hchild "Driver").trans
        (observe_text fun _ _ => isUtf8_asBytes _),
        (hknown.observed_some hfield hchild "Config").trans hconfigs, rfl, ?_, ?_⟩
      · rintro ⟨⟩
      · rintro _ ⟨⟩
        exact ⟨pools, rfl, hread⟩

end Networks

/-- What is decoded of a created network. -/
structure NetworkRead (identity : TargetIdentity) (create : NetworkCreate) (id : String)
    (found : NetworkObservation) : Prop where
  id : found.id = readText .runtimeAssigned (asBytes id)
  activeEndpoints : found.activeEndpoints = .unavailable .missing .runtimeAssigned
  name : found.name = readText .effective identity.bytes
  driver : found.driver = readText .effective (asBytes "bridge")
  internal : found.internal = readFlag create.internal
  enableIpv6 : found.enableIpv6 = readFlag create.enableIpv6
  ipam : IpamRead create.ipam found.ipamDriver found.ipamConfigs
  options : Collected .effective (create.options.map fun option =>
    Decoder.readEntry (asBytes (bridgeOption option).1, asBytes (bridgeOption option).2))
      found.options
  labels : Collected .effective (create.labels.map fun label => readLabel (label.key, label.value))
    found.labels

/-- What is decoded of a created volume. -/
structure VolumeRead (identity : TargetIdentity) (labels : List VolumeLabel)
    (found : VolumeObservation) : Prop where
  name : found.name = readText .effective identity.bytes
  driver : found.driver = .unavailable .missing .effective
  mountpoint : found.mountpoint = .unavailable .missing .runtimeAssigned
  options : found.options = .unavailable .missing .effective
  labels : Collected .effective (labels.map fun label => readLabel (label.key, label.value))
    found.labels

/-- No list of a network is longer than the decoder reads. -/
structure Bounded (create : NetworkCreate) : Prop where
  options : create.options.length ≤ maxCollectionItems
  labels : create.labels.length ≤ maxCollectionItems
  pools : ∀ ipam ∈ create.ipam, ipam.pools.length ≤ maxCollectionItems ∧
    ∀ pool ∈ ipam.pools, pool.auxiliaryAddresses.length ≤ maxCollectionItems

theorem known_withId {fields : List (String × Option Value)}
    (hkeys : ("__docker_lens_redacted__" :: fields.map Prod.fst).Nodup)
    (hlength : fields.length < maxCollectionItems) (id : String) :
    Known (withMember "Id" (.string id) (Json.normalize (fieldsObject fields)))
      (Function.update (fun key => ((fields.lookup key).join).map Json.normalize) "Id"
        (some (.string id))) := by
  obtain ⟨members, hroot, hmembers⟩ := Known.exists_members (List.nodup_cons.mp hkeys).2
  exact (Known.ofFields hkeys (Nat.le_of_lt hlength)).withMember (by decide) _ hroot
    (Nat.lt_of_le_of_lt hmembers hlength)

theorem network_read {identity : TargetIdentity} {create : NetworkCreate}
    (h : CreateAccepted create) (hbounded : Bounded create) (id : String)
    (reference : ResourceRef) :
    ∃ found, network (withMember "Id" (.string id)
        (Json.normalize (networkBody identity create))) reference = .ok found ∧
      NetworkRead identity create id found := by
  have hknown := @known_withId (("Name", some (stringValue identity.bytes)) ::
    ("Driver", some (.string "bridge")) :: createFields create)
    (show ["__docker_lens_redacted__", "Name", "Driver", "Internal", "EnableIPv6", "IPAM",
      "Options", "Labels"].Nodup by decide) (show 7 < maxCollectionItems by decide) id
  obtain ⟨members, hobject⟩ := hknown.object_eq .other
  obtain ⟨driver, configs, hipamDriver, hconfigs, hipam⟩ :=
    ipam_read hknown rfl h.ipam hbounded.pools
  obtain ⟨options, hoptions, hreadOptions⟩ := observe_pairs
    (fun value => mapEntries value .networkOption) Decoder.readEntry
    (fun _ hkept => mapEntries_texts .networkOption hkept)
    (fun option (_ : option ∈ create.options) =>
      ⟨isUtf8_asBytes (bridgeOption option).1, isUtf8_asBytes (bridgeOption option).2⟩)
    (nodup_optionNames h.keys) hbounded.options
  obtain ⟨labels, hlabels, hreadLabels⟩ := observe_pairs Decoder.labels readLabel
    (fun _ hkept => labels_texts hkept)
    (fun label (_ : label ∈ create.labels) => isUtf8_of_label label.checked)
    h.labels hbounded.labels
  refine ⟨⟨reference, _, _, _, _, _, _, driver, configs, options, labels⟩, ?_,
    ⟨rfl, rfl, rfl, rfl, rfl, rfl, hipam, hreadOptions, hreadLabels⟩⟩
  have hid : stringField _ ["Id"] (.network 0) .runtimeAssigned =
      .ok (readText .runtimeAssigned (asBytes id)) :=
    (hknown.observed_eq "Id").trans (observe_string id)
  have hendpoints : observed _ ["Containers"] (.network 0) .runtimeAssigned
      activeNetworkEndpoints = .ok (.unavailable .missing .runtimeAssigned) :=
    hknown.observed_eq "Containers"
  have hname : stringField _ ["Name"] (.network 0) .effective =
      .ok (readText .effective identity.bytes) :=
    (hknown.observed_eq "Name").trans (observe_identity identity)
  have hdriver : stringField _ ["Driver"] (.network 0) .effective =
      .ok (readText .effective (asBytes "bridge")) :=
    (hknown.observed_eq "Driver").trans (observe_fixed "bridge")
  have hinternal : boolField _ ["Internal"] (.network 0) .effective =
      .ok (readFlag create.internal) :=
    (hknown.observed_eq "Internal").trans (observe_flag create.internal)
  have henable : boolField _ ["EnableIPv6"] .networkOption .effective =
      .ok (readFlag create.enableIpv6) :=
    (hknown.observed_eq "EnableIPv6").trans (observe_flag create.enableIpv6)
  have hfoundOptions : observed _ ["Options"] .networkOption .effective
      (fun value => mapEntries value .networkOption) = .ok options :=
    (hknown.observed_eq "Options").trans hoptions
  have hfoundLabels : observed _ ["Labels"] (.label 0) .effective Decoder.labels = .ok labels :=
    (hknown.observed_eq "Labels").trans hlabels
  rw [network, networkBody, hobject, ok_bind, hid, ok_bind, hendpoints, ok_bind, hname, ok_bind,
    hdriver, ok_bind, hinternal, ok_bind, henable, ok_bind, hipamDriver, ok_bind, hconfigs,
    ok_bind, hfoundOptions, ok_bind, hfoundLabels, ok_bind]
  rfl

theorem volume_read {identity : TargetIdentity} {labels : List VolumeLabel}
    (hkeys : (labels.map CheckedPair.key).Nodup) (hbounded : labels.length ≤ maxCollectionItems)
    (id : String) (reference : ResourceRef) :
    ∃ found, volume (withMember "Id" (.string id)
        (Json.normalize (volumeBody identity labels))) reference = .ok found ∧
      VolumeRead identity labels found := by
  have hknown := @known_withId
    [("Name", some (stringValue identity.bytes)),
      ("Labels", fieldIf (!labels.isEmpty)
        (.object (labels.map fun label => pairEntry label.key label.value)))]
    (show ["__docker_lens_redacted__", "Name", "Labels"].Nodup by decide)
    (show 2 < maxCollectionItems by decide) id
  obtain ⟨members, hobject⟩ := hknown.object_eq .other
  obtain ⟨found, hfound, hread⟩ := observe_pairs Decoder.labels readLabel
    (fun _ hkept => labels_texts hkept)
    (fun label (_ : label ∈ labels) => isUtf8_of_volumeLabel label.checked) hkeys hbounded
  refine ⟨⟨reference, _, _, _, _, found⟩, ?_, ⟨rfl, rfl, rfl, rfl, hread⟩⟩
  have hname : stringField _ ["Name"] (.volume 0) .effective =
      .ok (readText .effective identity.bytes) :=
    (hknown.observed_eq "Name").trans (observe_identity identity)
  have hdriver : stringField _ ["Driver"] (.volume 0) .effective =
      .ok (.unavailable .missing .effective) :=
    hknown.observed_eq "Driver"
  have hmountpoint : stringField _ ["Mountpoint"] (.volume 0) .runtimeAssigned =
      .ok (.unavailable .missing .runtimeAssigned) :=
    hknown.observed_eq "Mountpoint"
  have hoptions : observed _ ["Options"] (.volume 0) .effective
      (fun value => mapEntries value (.volume 0)) = .ok (.unavailable .missing .effective) :=
    hknown.observed_eq "Options"
  have hfoundLabels : observed _ ["Labels"] (.label 0) .effective Decoder.labels = .ok found :=
    (hknown.observed_eq "Labels").trans hfound
  rw [volume, volumeBody, hobject, ok_bind, hname, ok_bind, hdriver, ok_bind, hmountpoint,
    ok_bind, hoptions, ok_bind, hfoundLabels, ok_bind]
  rfl

/-- Decoding what the renderer emits for a created network or volume gives back what was
authored. -/
theorem created_read (intent : TargetIntent) (id : String) (reference : ResourceRef) :
    (∀ network create, .network network ∈ intent.resources → network.source = .create create →
      Bounded create →
      ∃ body root found, renderNetwork network = .ok body ∧
        fromSlice (asBytes (String.ofList body)) = some root ∧
        Decoder.network (withMember "Id" (.string id) root) reference = .ok found ∧
        NetworkRead network.identity create id found) ∧
    ∀ owner identity labels, .volume owner identity labels ∈ intent.resources →
      labels.length ≤ maxCollectionItems →
      ∃ body root found, renderVolume identity labels = .ok body ∧
        fromSlice (asBytes (String.ofList body)) = some root ∧
        volume (withMember "Id" (.string id) root) reference = .ok found ∧
        VolumeRead identity labels found := by
  constructor
  · intro network create hnetwork hsource hbounded
    have haccepted : SourceAccepted network.source := intent.accepted.each _ hnetwork
    rw [hsource] at haccepted
    obtain ⟨body, hbody, hspells⟩ := spells_network hsource
      fun ipam hipam => (haccepted.ipam ipam hipam).nonempty
    obtain ⟨found, hfound, hread⟩ := network_read haccepted hbounded id reference
    exact ⟨body, _, found, hbody, fromSlice_of_spells hspells, hfound, hread⟩
  · intro owner identity labels hvolume hlength
    have hlabels : LabelsAccepted (.volume owner identity labels) :=
      intent.accepted.labels _ hvolume
    obtain ⟨body, hbody, hspells⟩ := spells_volume identity labels
    obtain ⟨found, hfound, hread⟩ := volume_read hlabels.2.2 hlength id reference
    exact ⟨body, _, found, hbody, fromSlice_of_spells hspells, hfound, hread⟩

/-- A network with a pool, an option and a label. -/
def groundCreate : NetworkCreate where
  driver := .bridge
  internal := true
  enableIpv6 := false
  ipam := some ⟨some .default,
    [⟨⟨⟨.v4 0x0a010000⟩, 16, by decide, by decide⟩, some ⟨.v4 0x0a010001⟩, none,
      [⟨⟨asBytes "dns", by decide +kernel⟩, ⟨.v4 0x0a010002⟩⟩]⟩]⟩
  options := [.mtu ⟨1300, by decide, by decide⟩]
  labels := [⟨asBytes "zone", asBytes "east", by decide +kernel⟩]

/-- The network, and a volume with a label. -/
def groundIntent : TargetIntent :=
  ⟨[.network ⟨⟨1⟩, ⟨asBytes "front", validIdentity_front⟩, .declared, .create groundCreate⟩,
    .volume ⟨2⟩ ⟨asBytes "data", validIdentity_data⟩
      [⟨asBytes "tier", asBytes "edge", by decide +kernel⟩]], by decide +kernel⟩

theorem bounded_ground : Bounded groundCreate where
  options := by decide
  labels := by decide
  pools := by
    rintro _ ⟨⟩
    decide

theorem created_read_ground :
    (∃ network body root found, .network network ∈ groundIntent.resources ∧
      renderNetwork network = .ok body ∧
      fromSlice (asBytes (String.ofList body)) = some root ∧
      Decoder.network (withMember "Id" (.string "n1") root) ⟨1⟩ = .ok found ∧
      found.internal = .present true .present .effective ∧
      (∃ pool, found.ipamConfigs = .present [pool] .present .effective ∧
        pool.subnet = readText .effective (asBytes "10.1.0.0/16") ∧
        pool.gateway = readText .effective (asBytes "10.1.0.1") ∧
        pool.auxiliaryAddresses = .present [Decoder.readEntry (asBytes "dns", asBytes "10.1.0.2")]
          .present .effective) ∧
      found.labels = .present [readLabel (asBytes "zone", asBytes "east")] .present .effective) ∧
    ∃ identity labels body root found, .volume ⟨2⟩ identity labels ∈ groundIntent.resources ∧
      renderVolume identity labels = .ok body ∧
      fromSlice (asBytes (String.ofList body)) = some root ∧
      volume (withMember "Id" (.string "v1") root) ⟨2⟩ = .ok found ∧
      found.name = readText .effective (asBytes "data") ∧
      found.labels = .present [readLabel (asBytes "tier", asBytes "edge")] .present .effective := by
  constructor
  · obtain ⟨body, root, found, hbody, hroot, hfound, hread⟩ :=
      (created_read groundIntent "n1" ⟨1⟩).1 _ _ List.mem_cons_self rfl bounded_ground
    obtain ⟨pools, hpools, hall⟩ := hread.ipam.configs _ rfl
    obtain ⟨pool, _, hpool, hrest, rfl⟩ := List.forall₂_cons_left_iff.mp hall
    cases hrest
    obtain ⟨addresses, haddresses, hsame⟩ := hpool.auxiliary.2 (List.cons_ne_nil _ _)
    obtain ⟨labels, hlabels, hperm⟩ := hread.labels.2 (List.cons_ne_nil _ _)
    refine ⟨_, body, root, found, List.mem_cons_self, hbody, hroot, hfound, hread.internal,
      ⟨pool, hpools, hpool.subnet.trans ?_, hpool.gateway.trans ?_, ?_⟩, ?_⟩
    · decide +kernel
    · decide +kernel
    · rw [haddresses, List.perm_singleton.mp hsame]
      decide +kernel
    · rw [hlabels, List.perm_singleton.mp hperm]
  · obtain ⟨body, root, found, hbody, hroot, hfound, hread⟩ :=
      (created_read groundIntent "v1" ⟨2⟩).2 _ _ _ (List.mem_cons_of_mem _ List.mem_cons_self)
        (by decide)
    obtain ⟨labels, hlabels, hperm⟩ := hread.labels.2 (List.cons_ne_nil _ _)
    refine ⟨_, _, body, root, found, List.mem_cons_of_mem _ List.mem_cons_self, hbody, hroot,
      hfound, hread.name, ?_⟩
    rw [hlabels, List.perm_singleton.mp hperm]

end DockerLens.Render
