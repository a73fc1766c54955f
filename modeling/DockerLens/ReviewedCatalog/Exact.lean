import DockerLens.ReviewedCatalog.Records
import DockerLens.Version.Admission

namespace DockerLens.ReviewedCatalog

open DockerLens.Text
open DockerLens.Json
open DockerLens.Fold
open DockerLens.Collect
open DockerLens.Version

/-- An entry of the capabilities of a record states a capability, and each of the shapes
that this one requires once. -/
structure Complete (entry : Value) (capability : Capability) : Prop where
  available : (index entry "state").asStr = some "available"
  named : (index entry "name").asStr.bind (capabilityNames.lookup ·) = some capability
  listed : ∃ values shapes required, (index entry "admitted_shapes").asArray = some values ∧
    values.mapM readShape = .ok shapes ∧
    NativeCapabilityShape.requiredFor capability = some required ∧ shapes.Perm required

/-- The same members, up to a relation between those of one name. -/
structure SameBut (name : String) (related : Value → Value → Prop) (left right : Value) :
    Prop where
  others : ∀ other, other ≠ name → index left other = index right other
  related : related (index left name) (index right name)

/-- The same elements of an array, up to a relation and in any order. -/
def ArrayReordered (same : Value → Value → Prop) (left right : Value) : Prop :=
  ∃ values values', left = .array values ∧ right = .array values' ∧
    Reordered same values values'

/-- The same entry, with its shapes in any order. -/
def EntryRearranged : Value → Value → Prop :=
  SameBut "admitted_shapes" (ArrayReordered Eq)

/-- The same record, with its capabilities, and the shapes of each, in any order. -/
def Rearranged : Value → Value → Prop :=
  SameBut "capabilities" (ArrayReordered EntryRearranged)

theorem SameBut.symm {name : String} {related : Value → Value → Prop} {left right : Value}
    (hsymm : ∀ left right, related left right → related right left)
    (h : SameBut name related left right) : SameBut name related right left :=
  ⟨fun other hother => (h.others other hother).symm, hsymm _ _ h.related⟩

theorem ArrayReordered.symm {same : Value → Value → Prop} {left right : Value}
    (hsymm : ∀ left right, same left right → same right left)
    (h : ArrayReordered same left right) : ArrayReordered same right left := by
  obtain ⟨values, values', hleft, hright, hvalues⟩ := h
  exact ⟨values', values, hright, hleft, hvalues.symm.mono fun right left => hsymm left right⟩

theorem EntryRearranged.symm {left right : Value} (h : EntryRearranged left right) :
    EntryRearranged right left :=
  SameBut.symm (fun _ _ => ArrayReordered.symm fun _ _ => Eq.symm) h

theorem Rearranged.symm {left right : Value} (h : Rearranged left right) :
    Rearranged right left :=
  SameBut.symm (fun _ _ => ArrayReordered.symm fun _ _ => EntryRearranged.symm) h

/-- Whether a capability is supported once its record is admitted alone and resolved. -/
def resolvedSupport (reviewed : TargetCapabilityRecord) (capability : Capability) :
    Except CapabilityError Bool := do
  let catalog ← TargetCapabilityCatalog.fromRecords [reviewed]
  let resolved ← catalog.resolve reviewed.profile
  .ok (resolved.supports capability)

theorem expect_eq_ok_iff {α : Type} {found : Option α} {a : α} :
    expect found = .ok a ↔ found = some a := okOr_eq_ok_iff

theorem expectOk_eq_ok_iff {ε α : Type} {result : Except ε α} {a : α} :
    expectOk result = .ok a ↔ result = .ok a := by
  rw [expectOk, expect_eq_ok_iff]
  cases result <;> simp [Except.toOption]

theorem assert_eq_ok_iff {condition : Prop} [Decidable condition] {u : Unit} :
    assert condition = .ok u ↔ condition := ensure_eq_ok_iff

theorem length_eq_and_sameSet_iff {α : Type} [DecidableEq α] {left right : List α}
    (hnodup : right.Nodup) :
    left.length = right.length ∧ sameSet left right = true ↔ left.Perm right := by
  rw [sameSet, Bool.and_eq_true, List.all_eq_true, List.all_eq_true]
  simp only [decide_eq_true_eq]
  constructor
  · rintro ⟨hlength, -, hright⟩
    have hsubperm : right.Subperm left := List.subperm_of_subset hnodup fun _ h => hright _ h
    exact (hsubperm.perm_of_length_le (Nat.le_of_eq hlength)).symm
  · intro hperm
    exact ⟨hperm.length_eq, fun _ h => hperm.mem_iff.mp h, fun _ h => hperm.mem_iff.mpr h⟩

theorem readEntry_eq_ok_iff {entry : Value} {capability : Capability}
    {shapes : List NativeCapabilityShape} :
    readEntry entry = .ok (capability, shapes) ↔
      (index entry "state").asStr = some "available" ∧
      (index entry "name").asStr.bind (capabilityNames.lookup ·) = some capability ∧
      (∃ values, (index entry "admitted_shapes").asArray = some values ∧
        values.mapM readShape = .ok shapes) ∧
      ∃ required, NativeCapabilityShape.requiredFor capability = some required ∧
        shapes.Perm required := by
  simp only [readEntry, required, ReviewedCatalog.capability, bind_eq_ok_iff, expect_eq_ok_iff,
    assert_eq_ok_iff, exists_const, Except.ok.injEq, Prod.mk.injEq, Option.bind_eq_some_iff]
  constructor
  · rintro ⟨hstate, text, htext, name, hname, values, hvalues, read, hread, required, hrequired,
      hlength, hsame, rfl, rfl⟩
    have hnodup := (NativeCapabilityShape.requiredFor_eq_some hrequired).1
    exact ⟨hstate, ⟨text, htext, hname⟩, ⟨values, hvalues, hread⟩, required, hrequired,
      (length_eq_and_sameSet_iff hnodup).mp ⟨hlength, hsame⟩⟩
  · rintro ⟨hstate, ⟨text, htext, hname⟩, ⟨values, hvalues, hread⟩, required, hrequired, hperm⟩
    have hnodup := (NativeCapabilityShape.requiredFor_eq_some hrequired).1
    obtain ⟨hlength, hsame⟩ := (length_eq_and_sameSet_iff hnodup).mpr hperm
    exact ⟨hstate, text, htext, capability, hname, values, hvalues, shapes, hread, required,
      hrequired, hlength, hsame, rfl, rfl⟩

example : readEntry (.object [("admitted_shapes", .array [.string "FixedUdpPort",
      .string "FixedTcpPort"]), ("name", .string "PortPublish"), ("state", .string "available")]) =
    .ok (.portPublish, [.fixedUdpPort, .fixedTcpPort]) := rfl

theorem complete_of_readEntry {entry : Value} {capability : Capability}
    {shapes : List NativeCapabilityShape} (h : readEntry entry = .ok (capability, shapes)) :
    Complete entry capability := by
  obtain ⟨hstate, hname, ⟨values, hvalues, hread⟩, required, hrequired, hperm⟩ :=
    readEntry_eq_ok_iff.mp h
  exact ⟨hstate, hname, values, shapes, required, hvalues, hread, hrequired, hperm⟩

theorem nodup_expectedAdmission (lane : NativeEvidenceLane) :
    (expectedAdmission lane).1.Nodup ∧ (expectedAdmission lane).2.Nodup := by
  cases lane <;> decide

theorem requires_expectedAdmission (lane : NativeEvidenceLane) (shape : NativeCapabilityShape) :
    Requires (expectedAdmission lane).1 shape ↔ shape ∈ (expectedAdmission lane).2 := by
  have hevident : ∀ shape ∈ (expectedAdmission lane).2,
      shape.capability ∈ (expectedAdmission lane).1 := by
    cases lane <;> decide
  have hcomplete : ∀ capability ∈ (expectedAdmission lane).1,
      ∀ required ∈ NativeCapabilityShape.requiredFor capability,
        ∀ shape ∈ required, shape ∈ (expectedAdmission lane).2 := by
    cases lane <;> decide
  constructor
  · rintro ⟨capability, hcapability, required, hrequired, hshape⟩
    exact hcomplete capability hcapability required hrequired shape hshape
  · intro hshape
    obtain ⟨required, hrequired, hmem⟩ := NativeCapabilityShape.mem_requiredFor shape
    exact ⟨shape.capability, hevident shape hshape, required, hrequired, hmem⟩

theorem readEntry_rearranged {entry entry' : Value} (h : EntryRearranged entry entry')
    {stated : Capability × List NativeCapabilityShape} (hread : readEntry entry = .ok stated) :
    ∃ stated', readEntry entry' = .ok stated' ∧ stated.1 = stated'.1 ∧
      stated.2.Perm stated'.2 := by
  obtain ⟨hothers, values, values', hleft, hright, hvalues⟩ := h
  obtain ⟨hstate, hname, ⟨found, hfound, hshapes⟩, required, hrequired, hperm⟩ :=
    readEntry_eq_ok_iff.mp hread
  rw [hothers _ (by decide)] at hstate hname
  rw [hleft, Value.asArray_array] at hfound
  obtain rfl := Option.some.inj hfound
  have hsame : ∀ value value' : Value, value = value' → ∀ shape, readShape value = .ok shape →
      ∃ shape', readShape value' = .ok shape' ∧ shape = shape' := by
    rintro value _ rfl shape hshape
    exact ⟨shape, hshape, rfl⟩
  obtain ⟨shapes', hshapes', hmoved⟩ := hvalues.exists_mapM hsame hshapes
  have hshapesPerm : stated.2.Perm shapes' := by
    simpa using hmoved.map_perm (f := id) (g := id) fun _ _ h => h
  refine ⟨(stated.1, shapes'), ?_, rfl, hshapesPerm⟩
  rw [readEntry_eq_ok_iff, hright]
  exact ⟨hstate, hname, ⟨values', rfl, hshapes'⟩, required, hrequired,
    hshapesPerm.symm.trans hperm⟩

theorem readCapabilities_eq_ok_iff {lane : NativeEvidenceLane} {entries : List Value}
    {facts : List TargetCapabilityFact} {shapes : List NativeCapabilityShape} :
    readCapabilities lane entries = .ok (facts, shapes) ↔
      ∃ stated, entries.mapM readEntry = .ok stated ∧
        (stated.map Prod.fst).Perm (expectedAdmission lane).1 ∧
        (stated.flatMap Prod.snd).Perm (expectedAdmission lane).2 ∧
        facts = stated.map (fun entry => ⟨entry.1, .available⟩) ∧
        shapes = stated.flatMap Prod.snd := by
  obtain ⟨hcapabilities, hshapes⟩ := nodup_expectedAdmission lane
  have hfacts : ∀ stated : List (Capability × List NativeCapabilityShape),
      (stated.map fun entry => (⟨entry.1, .available⟩ : TargetCapabilityFact)).map
        TargetCapabilityFact.capability = stated.map Prod.fst := by
    intro stated
    rw [List.map_map]
    rfl
  simp only [readCapabilities, bind_eq_ok_iff, assert_eq_ok_iff, exists_const, hfacts,
    Except.ok.injEq, Prod.mk.injEq, ← length_eq_and_sameSet_iff hcapabilities,
    ← length_eq_and_sameSet_iff hshapes, List.length_map]
  constructor
  · rintro ⟨hlength, stated, hstated, hnames, hcount, hsame, rfl, rfl⟩
    have hread := (mapM_eq_ok_iff.mp hstated).length_eq
    exact ⟨stated, hstated, ⟨hread ▸ hlength, hnames⟩, ⟨hcount, hsame⟩, rfl, rfl⟩
  · rintro ⟨stated, hstated, ⟨hlength, hnames⟩, ⟨hcount, hsame⟩, rfl, rfl⟩
    have hread := (mapM_eq_ok_iff.mp hstated).length_eq
    exact ⟨hread ▸ hlength, stated, hstated, hnames, hcount, hsame, rfl, rfl⟩

theorem readHead_spec {lane : NativeEvidenceLane} {recordHash : String} {data : Value}
    {profile : TargetProfile} {evidence : NativeEvidenceReference}
    (h : readHead lane recordHash data = .ok (profile, evidence)) :
    evidence.lane = lane ∧ evidence.recordKey = profile.evidenceKey := by
  simp only [readHead, bind_eq_ok_iff, assert_eq_ok_iff, exists_const, Except.ok.injEq,
    Prod.mk.injEq] at h
  obtain ⟨-, -, -, -, name, -, -, identity, -, recordKey, -, manifest, -, manifestKey, -, built,
    hbuilt, rfl, rfl⟩ := h
  rw [expectOk_eq_ok_iff] at hbuilt
  simp only [NativeEvidenceReference.new, bind_eq_ok_iff, ensure_eq_ok_iff, exists_const,
    Except.ok.injEq] at hbuilt
  obtain ⟨-, -, -, rfl⟩ := hbuilt
  exact ⟨rfl, rfl⟩

theorem readHead_congr {lane : NativeEvidenceLane} {recordHash : String} {data data' : Value}
    (h : ∀ name, name ≠ "capabilities" → index data name = index data' name) :
    readHead lane recordHash data = readHead lane recordHash data' := by
  simp only [readHead, required, h "schema_version" (by decide), h "candidate_sha" (by decide),
    h "run_url" (by decide), h "native_manifest_artifact_name" (by decide), h "lane" (by decide),
    h "identity" (by decide), h "native_manifest_sha256" (by decide)]

theorem recordOf_eq_ok_iff {lane : NativeEvidenceLane} {recordHash : String} {data : Value}
    {reviewed : TargetCapabilityRecord} :
    recordOf lane recordHash data = .ok reviewed ↔
      readHead lane recordHash data = .ok (reviewed.profile, reviewed.evidence) ∧
      ∃ entries, (index data "capabilities").asArray = some entries ∧
        readCapabilities lane entries =
          .ok (reviewed.capabilities, reviewed.admittedShapes) := by
  simp only [recordOf, bind_eq_ok_iff, expect_eq_ok_iff, Except.ok.injEq]
  constructor
  · rintro ⟨⟨profile, evidence⟩, hhead, entries, hentries, ⟨facts, shapes⟩, hread, rfl⟩
    exact ⟨hhead, entries, hentries, hread⟩
  · rintro ⟨hhead, entries, hentries, hread⟩
    exact ⟨_, hhead, entries, hentries, _, hread, rfl⟩

/-- Moving the capabilities of a record, or the shapes of one, moves its facts and its
shapes only. -/
theorem recordOf_rearranged {lane : NativeEvidenceLane} {recordHash : String}
    {data data' : Value} (h : Rearranged data data') {reviewed : TargetCapabilityRecord}
    (hread : recordOf lane recordHash data = .ok reviewed) :
    ∃ reviewed', recordOf lane recordHash data' = .ok reviewed' ∧
      reviewed'.profile = reviewed.profile ∧
      reviewed.capabilities.Perm reviewed'.capabilities := by
  obtain ⟨hhead, found, hfound, hcapabilities⟩ := recordOf_eq_ok_iff.mp hread
  obtain ⟨entries, entries', hleft, hright, hentries⟩ := h.related
  rw [hleft, Value.asArray_array] at hfound
  obtain rfl := Option.some.inj hfound
  obtain ⟨stated, hstated, hnames, hshapes, hfacts, -⟩ :=
    readCapabilities_eq_ok_iff.mp hcapabilities
  obtain ⟨stated', hstated', hmoved⟩ := hentries.exists_mapM (f := readEntry) (g := readEntry)
    (fun _ _ hentry _ => readEntry_rearranged hentry) hstated
  have hnamesMoved : (stated.map Prod.fst).Perm (stated'.map Prod.fst) :=
    hmoved.map_perm fun _ _ hsame => hsame.1
  have hshapesMoved : (stated.flatMap Prod.snd).Perm (stated'.flatMap Prod.snd) :=
    hmoved.flatMap_perm fun _ _ hsame => hsame.2
  have hfactsMoved : (stated.map fun entry => (⟨entry.1, .available⟩ : TargetCapabilityFact)).Perm
      (stated'.map fun entry => ⟨entry.1, .available⟩) :=
    hmoved.map_perm fun _ _ hsame => by rw [hsame.1]
  have hcapabilities' : readCapabilities lane entries' =
      .ok (stated'.map (fun entry => ⟨entry.1, .available⟩), stated'.flatMap Prod.snd) :=
    readCapabilities_eq_ok_iff.mpr ⟨stated', hstated', hnamesMoved.symm.trans hnames,
      hshapesMoved.symm.trans hshapes, rfl, rfl⟩
  refine ⟨⟨reviewed.profile, reviewed.evidence,
    stated'.map fun entry => ⟨entry.1, .available⟩, stated'.flatMap Prod.snd⟩, ?_, rfl, ?_⟩
  · rw [recordOf_eq_ok_iff, ← readHead_congr h.others]
    exact ⟨hhead, entries', by rw [hright, Value.asArray_array], hcapabilities'⟩
  · rw [hfacts]
    exact hfactsMoved

theorem facts_of_recordOf {lane : NativeEvidenceLane} {recordHash : String} {data : Value}
    {reviewed : TargetCapabilityRecord} (h : recordOf lane recordHash data = .ok reviewed) :
    (reviewed.capabilities.map (·.capability)).Perm (expectedAdmission lane).1 ∧
      (∀ fact ∈ reviewed.capabilities, fact.state = .available) ∧
      reviewed.admittedShapes.Perm (expectedAdmission lane).2 ∧
      ∃ entries, (index data "capabilities").asArray = some entries ∧
        List.Forall₂ (fun entry fact => Complete entry fact.capability) entries
          reviewed.capabilities := by
  obtain ⟨-, entries, hentries, hcapabilities⟩ := recordOf_eq_ok_iff.mp h
  obtain ⟨stated, hstated, hnames, hshapes, hfacts, hadmitted⟩ :=
    readCapabilities_eq_ok_iff.mp hcapabilities
  rw [hfacts, hadmitted, List.map_map]
  refine ⟨hnames, ?_, hshapes, entries, hentries, List.forall₂_map_right_iff.mpr ?_⟩
  · intro fact hfact
    obtain ⟨entry, -, rfl⟩ := List.mem_map.mp hfact
    rfl
  · exact (mapM_eq_ok_iff.mp hstated).imp fun _ _ hentry => complete_of_readEntry hentry

theorem requires_of_recordOf {lane : NativeEvidenceLane} {recordHash : String} {data : Value}
    {reviewed : TargetCapabilityRecord} (h : recordOf lane recordHash data = .ok reviewed)
    (shape : NativeCapabilityShape) :
    shape ∈ reviewed.admittedShapes ↔
      Requires (reviewed.capabilities.map (·.capability)) shape := by
  obtain ⟨hnames, -, hshapes, -⟩ := facts_of_recordOf h
  rw [hshapes.mem_iff, ← requires_expectedAdmission]
  simp only [Requires, hnames.mem_iff]

theorem admitted_of_recordOf {lane : NativeEvidenceLane} {recordHash : String} {data : Value}
    {reviewed : TargetCapabilityRecord} (h : recordOf lane recordHash data = .ok reviewed)
    (hlane : lane.matchesIdentity reviewed.profile.identity = true) : Admitted reviewed := by
  obtain ⟨hevidence, hkey⟩ := readHead_spec (recordOf_eq_ok_iff.mp h).1
  obtain ⟨hnames, hstate, hshapes, entries, -, hentries⟩ := facts_of_recordOf h
  obtain ⟨hnodup, hnodupShapes⟩ := nodup_expectedAdmission lane
  have havailable : reviewed.available = reviewed.capabilities.map (·.capability) := by
    rw [TargetCapabilityRecord.available, List.filter_eq_self.mpr]
    intro fact hfact
    rw [hstate fact hfact]
    rfl
  refine ⟨hevidence ▸ hlane, hkey, hnames.symm.nodup hnodup, hshapes.symm.nodup hnodupShapes,
    ?_, ?_⟩
  · intro shape hshape
    obtain ⟨capability, hcapability, required, hrequired, hmem⟩ :=
      (requires_of_recordOf h shape).mp hshape
    rw [havailable, (NativeCapabilityShape.mem_iff_of_requiredFor hrequired).mp hmem]
    exact hcapability
  · intro capability hcapability
    rw [havailable] at hcapability
    obtain ⟨fact, hfact, rfl⟩ := List.mem_map.mp hcapability
    obtain ⟨entry, -, hcomplete⟩ := exists_of_forall₂_right hentries hfact
    obtain ⟨-, -, required, -, -, hrequired, -⟩ := hcomplete.listed
    refine ⟨required, hrequired, fun shape hshape => ?_⟩
    rw [requires_of_recordOf h]
    exact ⟨fact.capability, hcapability, required, hrequired, hshape⟩

/-- What becomes of a record that is admitted alone. -/
theorem fromRecords_of_recordOf {lane : NativeEvidenceLane} {recordHash : String} {data : Value}
    {reviewed : TargetCapabilityRecord} (h : recordOf lane recordHash data = .ok reviewed) :
    (lane.matchesIdentity reviewed.profile.identity = true →
      ∃ catalog, TargetCapabilityCatalog.fromRecords [reviewed] = .ok catalog) ∧
    (lane.matchesIdentity reviewed.profile.identity ≠ true →
      TargetCapabilityCatalog.fromRecords [reviewed] = .error .evidenceLaneMismatch) := by
  constructor
  · intro hlane
    obtain ⟨profiles, hprofiles⟩ := admitRecords_eq_ok_iff.mpr
      ⟨List.forall_mem_singleton.mpr (admitted_of_recordOf h hlane), List.nodup_singleton _⟩
    exact ⟨⟨[reviewed], profiles, hprofiles⟩, TargetCapabilityCatalog.fromRecords_eq_ok_iff.mpr
      ⟨rfl, List.forall_mem_singleton.mpr (admitted_of_recordOf h hlane),
        List.nodup_singleton _⟩⟩
  · intro hlane
    obtain ⟨hevidence, -⟩ := readHead_spec (recordOf_eq_ok_iff.mp h).1
    have hrejected : [reviewed].foldlM admitRecord [] = .error .evidenceLaneMismatch := by
      rw [List.foldlM_cons, admitRecord, ensure_bind List.not_mem_nil, ensure,
        if_neg (hevidence ▸ hlane)]
      rfl
    rw [TargetCapabilityCatalog.fromRecords]
    split
    · next profiles hprofiles =>
        rw [hrejected] at hprofiles
        cases hprofiles
    · next error herror =>
        rw [hrejected] at herror
        rw [Except.error.inj herror]

theorem resolvedSupport_of_recordOf {lane : NativeEvidenceLane} {recordHash : String}
    {data : Value} {reviewed : TargetCapabilityRecord}
    (h : recordOf lane recordHash data = .ok reviewed) (capability : Capability) :
    resolvedSupport reviewed capability =
      if lane.matchesIdentity reviewed.profile.identity = true then
        .ok (reviewed.supports capability)
      else .error .evidenceLaneMismatch := by
  obtain ⟨haccepted, hrejected⟩ := fromRecords_of_recordOf h
  rw [resolvedSupport]
  split
  · next hlane =>
      obtain ⟨catalog, hcatalog⟩ := haccepted hlane
      have hresolved : catalog.resolve reviewed.profile = .ok reviewed :=
        (TargetCapabilityCatalog.resolve_eq_ok_iff hcatalog).mpr ⟨List.mem_singleton_self _, rfl⟩
      rw [hcatalog, ok_bind, hresolved, ok_bind]
  · next hlane => rw [hrejected hlane, error_bind]

theorem record_of_parsed {fromStr : String → Option Value} {lane : NativeEvidenceLane}
    {recordHash source : String} {data : Value} (h : fromStr source = some data) :
    record fromStr lane recordHash source = recordOf lane recordHash data := by
  rw [record, h]
  rfl

/-- The records read are exactly those that the lane expects, whatever the order of their
capabilities and shapes. -/
theorem record_exact (fromStr : String → Option Value) (lane : NativeEvidenceLane)
    (recordHash source : String) :
    (∀ reviewed, record fromStr lane recordHash source = .ok reviewed →
      ((reviewed.capabilities.map (·.capability)).Nodup ∧
        (∀ fact ∈ reviewed.capabilities, fact.state = .available) ∧
        ∀ capability, capability ∈ reviewed.capabilities.map (·.capability) ↔
          capability ∈ (expectedAdmission lane).1) ∧
      (reviewed.admittedShapes.Nodup ∧
        (∀ shape, shape ∈ reviewed.admittedShapes ↔ shape ∈ (expectedAdmission lane).2) ∧
        ∀ shape, shape ∈ reviewed.admittedShapes ↔
          Requires (reviewed.capabilities.map (·.capability)) shape) ∧
      (∃ data entries, fromStr source = some data ∧
        (index data "capabilities").asArray = some entries ∧
        List.Forall₂ (fun entry fact => Complete entry fact.capability) entries
          reviewed.capabilities) ∧
      ((∃ catalog, TargetCapabilityCatalog.fromRecords [reviewed] = .ok catalog) ↔
        lane.matchesIdentity reviewed.profile.identity = true) ∧
      ∀ error, TargetCapabilityCatalog.fromRecords [reviewed] = .error error →
        error = .evidenceLaneMismatch) ∧
    ∀ rearranged data data', fromStr source = some data →
      fromStr rearranged = some data' → Rearranged data data' →
      (record fromStr lane recordHash source).isOk =
        (record fromStr lane recordHash rearranged).isOk ∧
      ∀ capability,
        (record fromStr lane recordHash source).map (resolvedSupport · capability) =
          (record fromStr lane recordHash rearranged).map (resolvedSupport · capability) := by
  constructor
  · intro reviewed hrecord
    rw [record, bind_eq_ok_iff] at hrecord
    obtain ⟨data, hdata, hread⟩ := hrecord
    rw [expect_eq_ok_iff] at hdata
    obtain ⟨hnames, hstate, hshapes, entries, hentries, hcomplete⟩ := facts_of_recordOf hread
    obtain ⟨hnodup, hnodupShapes⟩ := nodup_expectedAdmission lane
    obtain ⟨haccepted, hrejected⟩ := fromRecords_of_recordOf hread
    refine ⟨⟨hnames.symm.nodup hnodup, hstate, fun _ => hnames.mem_iff⟩,
      ⟨hshapes.symm.nodup hnodupShapes, fun _ => hshapes.mem_iff, requires_of_recordOf hread⟩,
      ⟨data, entries, hdata, hentries, hcomplete⟩, ⟨?_, haccepted⟩, ?_⟩
    · rintro ⟨catalog, hcatalog⟩
      by_contra hlane
      rw [hrejected hlane] at hcatalog
      cases hcatalog
    · intro error herror
      by_cases hlane : lane.matchesIdentity reviewed.profile.identity = true
      · obtain ⟨catalog, hcatalog⟩ := haccepted hlane
        rw [hcatalog] at herror
        cases herror
      · rw [hrejected hlane] at herror
        exact (Except.error.inj herror).symm
  · intro rearranged data data' hdata hdata' hrearranged
    rw [record_of_parsed hdata, record_of_parsed hdata']
    cases hread : recordOf lane recordHash data with
    | error panic =>
        cases hread' : recordOf lane recordHash data' with
        | error panic' => exact ⟨rfl, fun _ => by cases panic; cases panic'; rfl⟩
        | ok reviewed' =>
            obtain ⟨reviewed, hreviewed, -⟩ := recordOf_rearranged hrearranged.symm hread'
            rw [hread] at hreviewed
            cases hreviewed
    | ok reviewed =>
        obtain ⟨reviewed', hread', hprofile, hfacts⟩ := recordOf_rearranged hrearranged hread
        rw [hread']
        refine ⟨rfl, fun capability => ?_⟩
        have hsupports : reviewed'.supports capability = reviewed.supports capability :=
          hfacts.symm.any_eq
        change Except.ok (resolvedSupport reviewed capability) =
          Except.ok (resolvedSupport reviewed' capability)
        rw [resolvedSupport_of_recordOf hread, resolvedSupport_of_recordOf hread', hprofile,
          hsupports]

/-! The documents of the checked-in files, as they are read. -/

theorem normalize_entryValue (name : String) (shapes : List String) :
    normalize (entryValue (name, shapes)) =
      .object [("admitted_shapes", .array (shapes.map .string)), ("name", .string name),
        ("state", .string "available")] := by
  have hshapes : normalizeAll (shapes.map .string) = shapes.map .string := by simp
  rw [← hshapes]
  rfl

theorem normalize_recordValue (lane manifest : String) (identity : Value)
    (entries : List (String × List String)) :
    normalize (recordValue lane manifest identity entries) =
      .object [("candidate_sha", .string sourceCandidate),
        ("capabilities", .array (entries.map fun entry => normalize (entryValue entry))),
        ("identity", normalize identity), ("lane", .string lane),
        ("native_manifest_artifact_name", .string ("dockerlens-native-" ++ lane)),
        ("native_manifest_sha256", .string manifest), ("run_url", .string sourceRun),
        ("schema_version", .number (.posInt 1))] := by
  have hentries : normalizeAll (entries.map entryValue) =
      entries.map fun entry => normalize (entryValue entry) := by
    rw [normalizeAll_eq_map, List.map_map]
    rfl
  rw [← hentries]
  rfl

theorem index_recordValue (lane manifest : String) (identity : Value)
    (entries entries' : List (String × List String)) {name : String}
    (hname : name ≠ "capabilities") :
    index (normalize (recordValue lane manifest identity entries)) name =
      index (normalize (recordValue lane manifest identity entries')) name := by
  have hfalse : (name == "capabilities") = false := by simpa using hname
  simp [normalize_recordValue, index, Value.get, List.lookup_cons, hfalse]

theorem index_capabilities (lane manifest : String) (identity : Value)
    (entries : List (String × List String)) :
    index (normalize (recordValue lane manifest identity entries)) "capabilities" =
      .array (entries.map fun entry => normalize (entryValue entry)) := by
  simp [normalize_recordValue, index, Value.get, List.lookup_cons]

/-- The entries of a record, and the shapes of each, from the last to the first. -/
def reversed (entries : List (String × List String)) : List (String × List String) :=
  entries.reverse.map fun entry => (entry.1, entry.2.reverse)

theorem entryRearranged_reversed (name : String) (shapes : List String) :
    EntryRearranged (normalize (entryValue (name, shapes)))
      (normalize (entryValue (name, shapes.reverse))) := by
  have hlisted (shapes : List String) : index (normalize (entryValue (name, shapes)))
      "admitted_shapes" = .array (shapes.map .string) := by
    simp [normalize_entryValue, index, Value.get]
  refine ⟨fun other hother => ?_, _, _, hlisted _, hlisted _, shapes.map .string, ?_, ?_⟩
  · have hfalse : (other == "admitted_shapes") = false := by simpa using hother
    simp [normalize_entryValue, index, Value.get, List.lookup_cons, hfalse]
  · exact List.forall₂_same.mpr fun _ _ => rfl
  · exact (List.reverse_perm shapes).symm.map _

theorem rearranged_reversed (lane manifest : String) (identity : Value)
    (entries : List (String × List String)) :
    Rearranged (normalize (recordValue lane manifest identity entries))
      (normalize (recordValue lane manifest identity (reversed entries))) := by
  refine ⟨fun other hother => index_recordValue lane manifest identity _ _ hother, _, _,
    index_capabilities .., index_capabilities ..,
    entries.map fun entry => normalize (entryValue (entry.1, entry.2.reverse)), ?_, ?_⟩
  · rw [List.forall₂_map_left_iff, List.forall₂_map_right_iff, List.forall₂_same]
    exact fun entry _ => entryRearranged_reversed entry.1 entry.2
  · rw [reversed, List.map_map]
    exact (List.reverse_perm entries).symm.map _

theorem plain_entryValue_reverse {name : String} {shapes : List String}
    (h : plain (entryValue (name, shapes)) = true) :
    plain (entryValue (name, shapes.reverse)) = true := by
  simp only [entryValue, plain, plainMembers, plainAll_iff, List.forall_mem_map,
    Bool.and_eq_true, List.mem_reverse] at h ⊢
  exact h

theorem plain_reversed {entries : List (String × List String)}
    (h : plainAll (entries.map entryValue) = true) :
    plainAll ((reversed entries).map entryValue) = true := by
  simp only [plainAll_iff, List.forall_mem_map, reversed, List.mem_reverse] at h ⊢
  exact fun entry hentry => plain_entryValue_reverse (h entry hentry)

section File

variable {lane manifest : String} {identity : Value} {entries : List (String × List String)}
  (hplain : plain (recordValue lane manifest identity []) = true)
  (hentries : plainAll (entries.map entryValue) = true)
include hplain hentries

theorem fromStr_fileText :
    Json.fromStr (fileText (recordValue lane manifest identity entries)) =
      some (normalize (recordValue lane manifest identity entries)) := by
  have hall : plain (recordValue lane manifest identity entries) = true := by
    simpa only [recordValue, plain, plainMembers, hentries, List.map_nil, plainAll] using hplain
  rw [fileText, fromStr_compact hall (by decide)]

theorem exists_record {of : NativeEvidenceLane} {recordHash : String}
    {good : TargetProfileIdentity → Bool}
    (hhead : ((readHead of recordHash (normalize (recordValue lane manifest identity
      []))).toOption.any fun head => good head.1.identity) = true)
    (hread : (readCapabilities of (entries.map fun entry =>
      normalize (entryValue entry))).isOk = true) :
    ∃ found, record Json.fromStr of recordHash
        (fileText (recordValue lane manifest identity entries)) = .ok found ∧
      good found.profile.identity = true := by
  obtain ⟨⟨facts, shapes⟩, hcapabilities⟩ := exists_of_isOk hread
  rw [readHead_congr fun name hname =>
    index_recordValue lane manifest identity [] entries hname] at hhead
  cases hfound : readHead of recordHash
      (normalize (recordValue lane manifest identity entries)) with
  | error panic => simp [hfound, Except.toOption] at hhead
  | ok head =>
      simp only [hfound, Except.toOption, Option.any_some] at hhead
      refine ⟨⟨head.1, head.2, facts, shapes⟩, ?_, hhead⟩
      rw [record_of_parsed (fromStr_fileText hplain hentries)]
      refine recordOf_eq_ok_iff.mpr ⟨hfound, entries.map fun entry => normalize (entryValue entry),
        ?_, hcapabilities⟩
      rw [index_capabilities, Value.asArray_array]

end File

theorem plain_debianEntries : plainAll (debianEntries.map entryValue) = true := by decide +kernel

theorem readCapabilities_debianEntries : (readCapabilities .debian11Rootful
    (debianEntries.map fun entry => normalize (entryValue entry))).isOk = true := by
  decide +kernel

theorem plain_debianDocument : plain (debianDocument "rootful" debianManifest []) = true := by
  decide +kernel

/-- A record of Debian 11 is of the lane's identity, and it renders for the oldest API. -/
def rootfulIdentity (identity : TargetProfileIdentity) : Bool :=
  NativeEvidenceLane.debian11Rootful.matchesIdentity identity &&
    decide (identity.renderingApiVersion = NativeEvidenceLane.apiV1_41 ∧ identity.mode = .rootful)

theorem readHead_debianDocument : ((readHead .debian11Rootful debianHash
    (normalize (debianDocument "rootful" debianManifest []))).toOption.any fun head =>
      rootfulIdentity head.1.identity) = true := by
  decide +kernel

theorem exists_record_debian :
    ∃ found, record Json.fromStr .debian11Rootful debianHash
        (fileText (debianDocument "rootful" debianManifest debianEntries)) = .ok found ∧
      rootfulIdentity found.profile.identity = true :=
  exists_record plain_debianDocument plain_debianEntries readHead_debianDocument
    readCapabilities_debianEntries

theorem record_exact_debian :
    ∃ found, record Json.fromStr .debian11Rootful debianHash
        (fileText (debianDocument "rootful" debianManifest debianEntries)) = .ok found ∧
      ((found.capabilities.map (·.capability)).Nodup ∧
        ∀ capability, capability ∈ found.capabilities.map (·.capability) ↔
          capability ∈ reviewedCapabilities) ∧
      (∀ shape, shape ∈ found.admittedShapes ↔ shape ∈ reviewedShapes) ∧
      (∃ catalog, TargetCapabilityCatalog.fromRecords [found] = .ok catalog) ∧
      (record Json.fromStr .debian11Rootful debianHash
        (fileText (debianDocument "rootful" debianManifest (reversed debianEntries)))).isOk =
          true ∧
      ∀ capability,
        (record Json.fromStr .debian11Rootful debianHash
          (fileText (debianDocument "rootful" debianManifest (reversed debianEntries)))).map
            (resolvedSupport · capability) = .ok (resolvedSupport found capability) := by
  obtain ⟨found, hfound, hidentity⟩ := exists_record_debian
  obtain ⟨hexact, hmoved⟩ := record_exact Json.fromStr .debian11Rootful debianHash
    (fileText (debianDocument "rootful" debianManifest debianEntries))
  obtain ⟨⟨hnodup, -, hcapabilities⟩, ⟨-, hshapes, -⟩, -, hadmitted, -⟩ := hexact found hfound
  obtain ⟨hok, hsupport⟩ := hmoved _ _ _
    (fromStr_fileText plain_debianDocument plain_debianEntries)
    (fromStr_fileText plain_debianDocument (plain_reversed plain_debianEntries))
    (rearranged_reversed _ _ _ debianEntries)
  rw [rootfulIdentity, Bool.and_eq_true] at hidentity
  refine ⟨found, hfound, ⟨hnodup, hcapabilities⟩, hshapes, hadmitted.mpr hidentity.1, ?_, ?_⟩
  · exact hok.symm.trans (by rw [hfound]; rfl)
  · intro capability
    refine (hsupport capability).symm.trans ?_
    rw [hfound]
    rfl

end DockerLens.ReviewedCatalog
