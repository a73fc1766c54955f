import Mathlib.Data.List.Nodup
import DockerLens.Collect
import DockerLens.Version.Catalog

namespace DockerLens.Version

open DockerLens.Fold
open DockerLens.Collect

/-- The union of what some capabilities require. -/
def Requires (capabilities : List Capability) (shape : NativeCapabilityShape) : Prop :=
  ∃ capability ∈ capabilities, ∃ required,
    NativeCapabilityShape.requiredFor capability = some required ∧ shape ∈ required

/-- What the gate asks of one record; nothing here mentions an order. -/
structure Admitted (record : TargetCapabilityRecord) : Prop where
  lane : record.evidence.lane.matchesIdentity record.profile.identity = true
  key : record.evidence.recordKey = record.profile.evidenceKey
  capabilities : (record.capabilities.map (·.capability)).Nodup
  shapes : record.admittedShapes.Nodup
  evident : ∀ shape ∈ record.admittedShapes, shape.capability ∈ record.available
  complete : ∀ capability ∈ record.available, ∃ required,
    NativeCapabilityShape.requiredFor capability = some required ∧
      ∀ shape ∈ required, shape ∈ record.admittedShapes

theorem admitShape_eq_ok_iff {available : List Capability} (shapes : List NativeCapabilityShape)
    (shape : NativeCapabilityShape) (next : List NativeCapabilityShape) :
    admitShape available shapes shape = .ok next ↔
      shape.capability ∈ available ∧ (∀ earlier ∈ shapes, earlier ≠ shape) ∧
        next = shapes ++ [shape] := by
  have hfresh : shape ∉ shapes ↔ ∀ earlier ∈ shapes, earlier ≠ shape := by
    constructor
    · rintro h earlier hearlier rfl
      exact h hearlier
    · intro h hmem
      exact h shape hmem rfl
  rw [admitShape]
  simp only [bind_eq_ok_iff, ensure_eq_ok_iff, exists_const, hfresh, Except.ok.injEq]
  constructor
  · rintro ⟨hseen, hcapability, rfl⟩
    exact ⟨hcapability, hseen, rfl⟩
  · rintro ⟨hcapability, hseen, rfl⟩
    exact ⟨hseen, hcapability, rfl⟩

theorem completeShapes_eq_ok_iff {shapes : List NativeCapabilityShape} {capability : Capability} :
    completeShapes shapes capability = .ok () ↔
      ∃ required, NativeCapabilityShape.requiredFor capability = some required ∧
        ∀ shape ∈ required, shape ∈ shapes := by
  rw [completeShapes]
  split
  · next h => simp [h]
  · next required h => simp [h]

theorem collects_shapes (available : List Capability) :
    Collects (admitShape available) id (· ≠ ·) (fun shape => shape.capability ∈ available)
      fun shape => [shape] :=
  collects_append (fun _ _ h => h.symm) admitShape_eq_ok_iff

theorem mem_of_admitShapes {available : List Capability}
    {admitted shapes : List NativeCapabilityShape}
    (h : admitted.foldlM (admitShape available) [] = .ok shapes) (shape : NativeCapabilityShape) :
    shape ∈ shapes ↔ shape ∈ admitted := by
  have hheld := (collects_shapes available).held_foldlM h
  rw [← List.map_eq_flatMap, List.map_id'] at hheld
  exact hheld.mem_iff

theorem admitShapes_eq_ok_iff {available : List Capability}
    {admitted : List NativeCapabilityShape} :
    (∃ shapes, admitted.foldlM (admitShape available) [] = .ok shapes) ↔
      (∀ shape ∈ admitted, shape.capability ∈ available) ∧ admitted.Nodup := by
  rw [(collects_shapes available).foldlM_ok_iff_of_empty rfl, ← List.map_eq_flatMap, List.map_id']
  rfl

theorem admitRecord_eq_ok_iff (profiles : List TargetProfileIdentity)
    (record : TargetCapabilityRecord) (next : List TargetProfileIdentity) :
    admitRecord profiles record = .ok next ↔
      Admitted record ∧ (∀ earlier ∈ profiles, earlier ≠ record.profile.identity) ∧
        next = profiles ++ [record.profile.identity] := by
  rw [admitRecord]
  simp only [bind_eq_ok_iff, ensure_eq_ok_iff, exists_const, forM_eq_ok_iff,
    completeShapes_eq_ok_iff, Except.ok.injEq]
  constructor
  · rintro ⟨hfresh, hlane, hkey, hcapabilities, shapes, hshapes, hcomplete, rfl⟩
    obtain ⟨hevident, hnodup⟩ := admitShapes_eq_ok_iff.mp ⟨shapes, hshapes⟩
    simp only [mem_of_admitShapes hshapes] at hcomplete
    refine ⟨⟨hlane, hkey, hcapabilities, hnodup, hevident, hcomplete⟩, ?_, rfl⟩
    rintro earlier hearlier rfl
    exact hfresh hearlier
  · rintro ⟨h, hfresh, rfl⟩
    obtain ⟨shapes, hshapes⟩ := admitShapes_eq_ok_iff.mpr ⟨h.evident, h.shapes⟩
    refine ⟨fun hmem => hfresh _ hmem rfl, h.lane, h.key, h.capabilities, shapes, hshapes, ?_, rfl⟩
    simp only [mem_of_admitShapes hshapes]
    exact h.complete

theorem admitRecords_eq_ok_iff {records : List TargetCapabilityRecord} :
    (∃ profiles, records.foldlM admitRecord [] = .ok profiles) ↔
      (∀ record ∈ records, Admitted record) ∧
        (records.map (·.profile.identity)).Nodup :=
  foldlM_append_ok_iff (fun _ _ h => h.symm) admitRecord_eq_ok_iff

namespace Admitted

variable {record : TargetCapabilityRecord}

theorem mem_available_iff {capability : Capability} :
    capability ∈ record.available ↔ record.supports capability = true := by
  simp only [TargetCapabilityRecord.available, TargetCapabilityRecord.supports, List.mem_map,
    List.mem_filter, List.any_eq_true, Bool.and_eq_true, beq_iff_eq]
  constructor
  · rintro ⟨fact, ⟨hfact, hstate⟩, hcapability⟩
    exact ⟨fact, hfact, hcapability, hstate⟩
  · rintro ⟨fact, hfact, hcapability, hstate⟩
    exact ⟨fact, ⟨hfact, hstate⟩, hcapability⟩

theorem mem_shapes_iff (h : Admitted record) {shape : NativeCapabilityShape} :
    shape ∈ record.admittedShapes ↔ Requires record.available shape := by
  constructor
  · intro hshape
    obtain ⟨required, hrequired, hmem⟩ := NativeCapabilityShape.mem_requiredFor shape
    exact ⟨shape.capability, h.evident shape hshape, required, hrequired, hmem⟩
  · rintro ⟨capability, hcapability, required, hrequired, hmem⟩
    obtain ⟨found, hfound, hall⟩ := h.complete capability hcapability
    rw [hrequired] at hfound
    obtain rfl := Option.some.inj hfound
    exact hall shape hmem

theorem supports_eq_false (h : Admitted record) {capability : Capability}
    (hnone : NativeCapabilityShape.requiredFor capability = none) :
    record.supports capability = false := by
  rw [← Bool.not_eq_true, ← mem_available_iff]
  intro hcapability
  obtain ⟨required, hrequired, -⟩ := h.complete capability hcapability
  rw [hnone] at hrequired
  cases hrequired

end Admitted

namespace TargetCapabilityCatalog

variable {records : List TargetCapabilityRecord} {catalog : TargetCapabilityCatalog}

theorem fromRecords_eq_ok_iff :
    fromRecords records = .ok catalog ↔
      catalog.records = records ∧ (∀ record ∈ records, Admitted record) ∧
        (records.map (·.profile.identity)).Nodup := by
  rw [← admitRecords_eq_ok_iff, fromRecords]
  split
  · next profiles h =>
      rw [Except.ok.injEq]
      constructor
      · rintro rfl
        exact ⟨rfl, profiles, h⟩
      · rintro ⟨rfl, -⟩
        rfl
  · next error h =>
      constructor
      · intro herror
        cases herror
      · rintro ⟨-, profiles, hok⟩
        rw [h] at hok
        cases hok

theorem resolveIdentity_eq_ok_iff (h : fromRecords records = .ok catalog)
    {identity : TargetProfileIdentity} {record : TargetCapabilityRecord} :
    catalog.resolveIdentity identity = .ok record ↔
      record ∈ records ∧ record.profile.identity = identity := by
  obtain ⟨rfl, -, hnodup⟩ := fromRecords_eq_ok_iff.mp h
  rw [resolveIdentity, okOr_eq_ok_iff, find_key_eq_some_iff hnodup]

theorem resolve_eq_ok_iff (h : fromRecords records = .ok catalog) {profile : TargetProfile}
    {record : TargetCapabilityRecord} :
    catalog.resolve profile = .ok record ↔ record ∈ records ∧ record.profile = profile := by
  obtain ⟨rfl, -, hnodup⟩ := fromRecords_eq_ok_iff.mp h
  have hprofiles : (catalog.records.map (·.profile)).Nodup :=
    List.Nodup.of_map TargetProfile.identity (by rwa [List.map_map])
  rw [resolve, okOr_eq_ok_iff, find_key_eq_some_iff hprofiles]

end TargetCapabilityCatalog

end DockerLens.Version
