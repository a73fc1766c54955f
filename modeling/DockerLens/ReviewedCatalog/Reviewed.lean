import DockerLens.Render.Backed
import DockerLens.Render.Resolved
import DockerLens.ReviewedCatalog.Exact

namespace DockerLens.ReviewedCatalog

open DockerLens.Text
open DockerLens.Json
open DockerLens.Fold
open DockerLens.Observation
open DockerLens.Version
open DockerLens.Target
open DockerLens.Render

theorem lane_unique {left right : NativeEvidenceLane} {identity : TargetProfileIdentity}
    (hleft : left.matchesIdentity identity = true)
    (hright : right.matchesIdentity identity = true) : left = right := by
  obtain ⟨build, release, advertised, acquisition, rendering, mode⟩ := identity
  revert hleft hright
  cases left <;> cases right <;> cases build <;> cases mode <;>
    simp [NativeEvidenceLane.matchesIdentity, NativeEvidenceLane.isDebian11]

section Source

variable {fromStr : String → Option Value} {source : Source} {found : TargetCapabilityRecord}

theorem Source.exists_data (h : source.record fromStr = .ok found) :
    ∃ data, recordOf source.lane source.recordHash data = .ok found := by
  rw [Source.record, ReviewedCatalog.record, bind_eq_ok_iff] at h
  obtain ⟨data, -, hread⟩ := h
  exact ⟨data, hread⟩

theorem Source.lane_eq (h : source.record fromStr = .ok found) :
    found.evidence.lane = source.lane := by
  obtain ⟨data, hread⟩ := Source.exists_data h
  exact (readHead_spec (recordOf_eq_ok_iff.mp hread).1).1

theorem Source.admitted_iff (h : source.record fromStr = .ok found) :
    Admitted found ↔ source.lane.matchesIdentity found.profile.identity = true := by
  obtain ⟨data, hread⟩ := Source.exists_data h
  constructor
  · intro hadmitted
    exact Source.lane_eq h ▸ hadmitted.lane
  · exact admitted_of_recordOf hread

theorem Source.supports_eq (h : source.record fromStr = .ok found) :
    found.supports = fun capability => decide (capability ∈ (expectedAdmission source.lane).1) := by
  obtain ⟨data, hread⟩ := Source.exists_data h
  obtain ⟨hnames, hstate, -⟩ := facts_of_recordOf hread
  funext capability
  rw [Bool.eq_iff_iff, decide_eq_true_iff, ← hnames.mem_iff, ← Admitted.mem_available_iff,
    TargetCapabilityRecord.available, List.filter_eq_self.mpr]
  intro fact hfact
  rw [hstate fact hfact]
  rfl

end Source

section Reviewed

variable {fromStr : String → Option Value} {sources : List Source}
  {catalog : TargetCapabilityCatalog}

theorem nodup_identities {found : List TargetCapabilityRecord}
    (hlanes : (sources.map Source.lane).Nodup)
    (hfound : List.Forall₂ (fun source record => source.record fromStr = .ok record) sources found)
    (hadmitted : ∀ record ∈ found, Admitted record) :
    (found.map (·.profile.identity)).Nodup := by
  have hlanesFound : found.map (·.evidence.lane) = sources.map Source.lane := by
    rw [← List.forall₂_eq_eq_eq, List.forall₂_map_left_iff, List.forall₂_map_right_iff]
    exact hfound.flip.imp fun _ _ hrecord => Source.lane_eq hrecord
  rw [← hlanesFound] at hlanes
  refine List.Nodup.map_on ?_ (List.Nodup.of_map _ hlanes)
  intro left hleft right hright hidentity
  refine List.inj_on_of_nodup_map hlanes hleft hright (lane_unique (hadmitted left hleft).lane ?_)
  rw [hidentity]
  exact (hadmitted right hright).lane

theorem reviewed_eq_ok_iff :
    reviewed fromStr sources = .ok catalog ↔
      List.Forall₂ (fun source record => source.record fromStr = .ok record) sources
        catalog.records ∧
        (∀ record ∈ catalog.records, Admitted record) ∧
        (catalog.records.map (·.profile.identity)).Nodup := by
  rw [reviewed, bind_eq_ok_iff]
  simp only [records, mapM_eq_ok_iff, expectOk_eq_ok_iff,
    TargetCapabilityCatalog.fromRecords_eq_ok_iff]
  constructor
  · rintro ⟨found, hfound, rfl, hadmitted, hnodup⟩
    exact ⟨hfound, hadmitted, hnodup⟩
  · rintro ⟨hfound, hadmitted, hnodup⟩
    exact ⟨_, hfound, rfl, hadmitted, hnodup⟩

end Reviewed

/-- What the checked in records add up to: with one record for a lane they make a catalog exactly
when each is read and is of its lane, every one of them is resolved, and what is planned against a
resolved profile is rendered with the capabilities of its lane alone. -/
theorem reviewed_exact (fromStr : String → Option Value) (sources : List Source) :
    ((sources.map Source.lane).Nodup →
      ((∃ catalog, reviewed fromStr sources = .ok catalog) ↔
        ∀ source ∈ sources, ∃ found, source.record fromStr = .ok found ∧
          source.lane.matchesIdentity found.profile.identity = true)) ∧
    ∀ catalog, reviewed fromStr sources = .ok catalog →
      (∀ source ∈ sources, ∃ found, source.record fromStr = .ok found ∧
        catalog.resolve found.profile = .ok found ∧
        catalog.resolveIdentity found.profile.identity = .ok found) ∧
      ∀ profile found, catalog.resolve profile = .ok found →
        ∃ source ∈ sources, source.record fromStr = .ok found ∧
          source.lane.matchesIdentity profile.identity = true ∧
          ∀ hash intent nodes graph,
            OperationGraph.new hash intent (planning found) nodes = .ok graph →
            ∃ artifact native, render graph = .ok artifact ∧
              ArtifactAdmitted
                (fun capability => decide (capability ∈ (expectedAdmission source.lane).1))
                profile.identity.renderingApiVersion artifact native := by
  constructor
  · intro hlanes
    constructor
    · rintro ⟨catalog, hcatalog⟩ source hsource
      obtain ⟨hfound, hadmitted, -⟩ := reviewed_eq_ok_iff.mp hcatalog
      obtain ⟨found, hmem, hrecord⟩ := exists_of_forall₂_left hfound hsource
      exact ⟨found, hrecord, (Source.admitted_iff hrecord).mp (hadmitted found hmem)⟩
    · intro hall
      obtain ⟨found, hmap, -⟩ := exists_mapM hall
      have hfound := mapM_eq_ok_iff.mp hmap
      have hadmitted : ∀ record ∈ found, Admitted record := by
        intro record hrecord
        obtain ⟨source, hsource, hok⟩ := exists_of_forall₂_right hfound hrecord
        obtain ⟨same, hsame, hlane⟩ := hall source hsource
        obtain rfl := Except.ok.inj (hok.symm.trans hsame)
        exact (Source.admitted_iff hok).mpr hlane
      have hnodup := nodup_identities hlanes hfound hadmitted
      obtain ⟨profiles, hprofiles⟩ := admitRecords_eq_ok_iff.mpr ⟨hadmitted, hnodup⟩
      exact ⟨⟨found, profiles, hprofiles⟩, reviewed_eq_ok_iff.mpr ⟨hfound, hadmitted, hnodup⟩⟩
  · intro catalog hcatalog
    obtain ⟨hfound, hadmitted, hnodup⟩ := reviewed_eq_ok_iff.mp hcatalog
    have hrecords : TargetCapabilityCatalog.fromRecords catalog.records = .ok catalog :=
      TargetCapabilityCatalog.fromRecords_eq_ok_iff.mpr ⟨rfl, hadmitted, hnodup⟩
    constructor
    · intro source hsource
      obtain ⟨found, hmem, hrecord⟩ := exists_of_forall₂_left hfound hsource
      exact ⟨found, hrecord,
        (TargetCapabilityCatalog.resolve_eq_ok_iff hrecords).mpr ⟨hmem, rfl⟩,
        (TargetCapabilityCatalog.resolveIdentity_eq_ok_iff hrecords).mpr ⟨hmem, rfl⟩⟩
    · intro profile found hresolve
      obtain ⟨hmem, rfl⟩ := (TargetCapabilityCatalog.resolve_eq_ok_iff hrecords).mp hresolve
      obtain ⟨source, hsource, hrecord⟩ := exists_of_forall₂_right hfound hmem
      refine ⟨source, hsource, hrecord, (Source.admitted_iff hrecord).mp (hadmitted found hmem),
        ?_⟩
      intro hash intent nodes graph hgraph
      obtain ⟨artifact, native, hrendered, hall⟩ := exists_admitted hgraph
      obtain ⟨-, rfl⟩ := OperationGraph.new_eq_ok_iff.mp hgraph
      have hsupports : (planning found).supports =
          fun capability => decide (capability ∈ (expectedAdmission source.lane).1) :=
        Source.supports_eq hrecord
      exact ⟨artifact, native, hrendered, hsupports ▸ hall⟩

theorem plain_upstreamEntries : plainAll (upstreamEntries.map entryValue) = true := by
  have hmore : plain (entryValue ("PortHostIpv6", ["FixedIpv6HostPort",
      "EphemeralIpv6HostPort"])) = true := by decide +kernel
  have hall := plain_debianEntries
  simp only [plainAll_iff, List.forall_mem_map] at hall ⊢
  intro entry hentry
  simp only [upstreamEntries, List.mem_append, List.mem_singleton] at hentry
  rcases hentry with (htake | rfl) | hdrop
  · exact hall entry (List.mem_of_mem_take htake)
  · exact hmore
  · exact hall entry (List.mem_of_mem_drop hdrop)

theorem readCapabilities_congr {left right : NativeEvidenceLane}
    (h : expectedAdmission left = expectedAdmission right) :
    readCapabilities left = readCapabilities right := by
  funext entries
  rw [readCapabilities, h, readCapabilities]

theorem readCapabilities_upstreamEntries : (readCapabilities .upstreamRootful
    (upstreamEntries.map fun entry => normalize (entryValue entry))).isOk = true := by
  decide +kernel

/-- Every checked-in record is read, and it is of the identity of its lane. -/
theorem exists_checkedIn : ∀ source ∈ checkedIn, ∃ found,
    source.record Json.fromStr = .ok found ∧
      source.lane.matchesIdentity found.profile.identity = true := by
  have hdebian : (readCapabilities .debian11Rootless
      (debianEntries.map fun entry => normalize (entryValue entry))).isOk = true :=
    @readCapabilities_congr .debian11Rootful .debian11Rootless rfl ▸
      readCapabilities_debianEntries
  have hupstream : (readCapabilities .upstreamRootless
      (upstreamEntries.map fun entry => normalize (entryValue entry))).isOk = true :=
    @readCapabilities_congr .upstreamRootful .upstreamRootless rfl ▸
      readCapabilities_upstreamEntries
  simp only [checkedIn, List.forall_mem_cons]
  refine ⟨?_, ?_, ?_, ?_, ?_⟩
  · obtain ⟨found, hfound, hidentity⟩ := exists_record_debian
    rw [rootfulIdentity, Bool.and_eq_true] at hidentity
    exact ⟨found, hfound, hidentity.1⟩
  · exact exists_record
      (show plain (debianDocument "rootless" _ []) = true by decide +kernel) plain_debianEntries
      (show ((readHead .debian11Rootless _ (normalize (debianDocument "rootless" _
        []))).toOption.any fun head =>
          NativeEvidenceLane.debian11Rootless.matchesIdentity head.1.identity) = true by
        decide +kernel) hdebian
  · exact exists_record
      (show plain (upstreamDocument "rootful" _ []) = true by decide +kernel)
      plain_upstreamEntries
      (show ((readHead .upstreamRootful _ (normalize (upstreamDocument "rootful" _
        []))).toOption.any fun head =>
          NativeEvidenceLane.upstreamRootful.matchesIdentity head.1.identity) = true by
        decide +kernel) readCapabilities_upstreamEntries
  · exact exists_record
      (show plain (upstreamDocument "rootless" _ []) = true by decide +kernel)
      plain_upstreamEntries
      (show ((readHead .upstreamRootless _ (normalize (upstreamDocument "rootless" _
        []))).toOption.any fun head =>
          NativeEvidenceLane.upstreamRootless.matchesIdentity head.1.identity) = true by
        decide +kernel) hupstream
  · simp

/-- What a record of Debian 11 lets be planned, for a daemon of its release. -/
def debianCapability : PlanningCapabilitySet where
  supports capability := decide (capability ∈ reviewedCapabilities)
  context := .observed ⟨⟨1⟩, ⟨"29.1.0", release_nonempty⟩, NativeEvidenceLane.apiV1_41, .rootful⟩

theorem reviewed_exact_checkedIn :
    ∃ catalog, reviewed Json.fromStr checkedIn = .ok catalog ∧
      (∀ source ∈ checkedIn, ∃ found, source.record Json.fromStr = .ok found ∧
        catalog.resolve found.profile = .ok found ∧
        catalog.resolveIdentity found.profile.identity = .ok found) ∧
      ∃ profile found graph artifact native, catalog.resolve profile = .ok found ∧
        OperationGraph.new ⟨id, fun _ => .refl _⟩ frontIntent (planning found)
          (frontIntent.resources.map planNode) = .ok graph ∧
        render graph = .ok artifact ∧
        ArtifactAdmitted (fun capability => decide (capability ∈ reviewedCapabilities))
          profile.identity.renderingApiVersion artifact native := by
  obtain ⟨hexists, hall⟩ := reviewed_exact Json.fromStr checkedIn
  obtain ⟨catalog, hcatalog⟩ := (hexists (by decide)).mpr exists_checkedIn
  obtain ⟨hresolved, hplans⟩ := hall catalog hcatalog
  refine ⟨catalog, hcatalog, hresolved, ?_⟩
  obtain ⟨found, hfound, hidentity⟩ := exists_record_debian
  have hmem : (⟨.debian11Rootful, debianHash,
      fileText (debianDocument "rootful" debianManifest debianEntries)⟩ : Source) ∈ checkedIn :=
    List.mem_cons_self
  obtain ⟨same, hsame, hresolve, -⟩ := hresolved _ hmem
  obtain rfl := Except.ok.inj (hfound.symm.trans hsame)
  rw [rootfulIdentity, Bool.and_eq_true, decide_eq_true_iff] at hidentity
  obtain ⟨hlane, hapi, hmode⟩ := hidentity
  have hsupports := Source.supports_eq hsame
  obtain ⟨graph, hgraph⟩ := exists_of_isOk (show (OperationGraph.new ⟨id, fun _ => .refl _⟩
    frontIntent debianCapability (frontIntent.resources.map planNode)).isOk = true by
      decide +kernel)
  have hplanned : Planned frontIntent (planning found) (frontIntent.resources.map planNode) :=
    (OperationGraph.new_eq_ok_iff.mp hgraph).1.mono hapi hmode fun capability hcapability => by
      rw [planning, hsupports]
      exact hcapability
  have hnew := (@OperationGraph.new_eq_ok_iff ⟨id, fun _ => .refl _⟩ _ _ _ _).mpr ⟨hplanned, rfl⟩
  obtain ⟨source, -, -, hmatches, hrender⟩ := hplans found.profile found hresolve
  rw [lane_unique hmatches hlane] at hrender
  obtain ⟨artifact, native, hrendered, hadmitted⟩ := hrender _ _ _ _ hnew
  exact ⟨found.profile, found, _, artifact, native, hresolve, hnew, hrendered, hadmitted⟩

end DockerLens.ReviewedCatalog
