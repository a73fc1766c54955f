import DockerLens.Decoder.Acquired

namespace DockerLens.Decoder

open DockerLens.Text
open DockerLens.Json
open DockerLens.Acquisition
open DockerLens.Version

/-- The bounds that a `/version` body reports. -/
structure Reports (version : Value) (maximum : ApiVersion) (minimum : Option ApiVersion) :
    Prop where
  maximum : ((version.get "ApiVersion").bind Value.asStr).bind Acquisition.parseApi = some maximum
  minimum : minimumApi version = .ok minimum

/-- API version 1.41. -/
def oldestApi : ApiVersion where
  major := 1
  minor := 41
  major_pos := Nat.one_pos
  major_lt := ApiVersion.major_one_lt
  minor_lt := ApiVersion.minor_41_lt

/-- The API versions that the daemon and the library both take. -/
structure Admissible (maximum : ApiVersion) (minimum : Option ApiVersion) (api : ApiVersion) :
    Prop where
  oldest : ¬ api < oldestApi
  maximum : ¬ maximum < api
  known : ¬ knownApi < api
  minimum : ∀ lower ∈ minimum, ¬ api < lower

section Greatest

variable {maximum api : ApiVersion} {minimum : Option ApiVersion}

theorem Admissible.not_min_lt (h : Admissible maximum minimum api) :
    ¬ maximum.min knownApi < api := by
  rw [ApiVersion.min]
  split
  · exact h.known
  · exact h.maximum

theorem admissible_min_iff (hmajor : maximum.major = 1) :
    Admissible maximum minimum (maximum.min knownApi) ↔
      ¬ ((maximum.min knownApi).minor < 41 ∨
        minimum.any (fun lower => maximum.min knownApi < lower) = true) := by
  have hone : (maximum.min knownApi).major = 1 := by
    rw [ApiVersion.min]
    split
    · rfl
    · exact hmajor
  have holdest : ¬ maximum.min knownApi < oldestApi ↔ ¬ (maximum.min knownApi).minor < 41 := by
    rw [ApiVersion.lt_iff, hone]
    simp [oldestApi]
  have hlower : (∀ lower ∈ minimum, ¬ maximum.min knownApi < lower) ↔
      ¬ minimum.any (fun lower => maximum.min knownApi < lower) = true := by
    cases minimum <;> simp
  rw [not_or, ← holdest, ← hlower]
  constructor
  · intro h
    exact ⟨h.oldest, h.minimum⟩
  · rintro ⟨hold, hminimum⟩
    refine ⟨hold, ApiVersion.not_lt_min_left maximum knownApi, ?_, hminimum⟩
    rw [ApiVersion.min]
    split
    · exact ApiVersion.lt_irrefl knownApi
    · next hle => exact hle

theorem Admissible.least_bound (hmajor : maximum.major = 1)
    (h : Admissible maximum minimum api) :
    Admissible maximum minimum (maximum.min knownApi) := by
  have hle := h.not_min_lt
  rw [admissible_min_iff hmajor, not_or]
  have hone : (maximum.min knownApi).major = 1 := by
    rw [ApiVersion.min]
    split
    · rfl
    · exact hmajor
  constructor
  · have hold := h.oldest
    rw [ApiVersion.lt_iff] at hold hle
    simp only [oldestApi] at hold
    omega
  · cases minimum with
    | none => simp
    | some lower =>
        have hlower := h.minimum lower rfl
        rw [ApiVersion.lt_iff] at hle hlower
        simp only [Option.any_some, decide_eq_true_eq, ApiVersion.lt_iff]
        omega

end Greatest

/-- What the acquisition negotiates is the greatest admissible version, and nothing when
there is none. The decoder, which reads the bounds of the same body again, never finds that
version out of range. -/
theorem negotiatedApi_greatest {fromSlice : Bytes → Option Value} {body : Bytes} {version : Value}
    {maximum : ApiVersion} {minimum : Option ApiVersion} (hbody : fromSlice body = some version)
    (h : Reports version maximum minimum) (hmajor : maximum.major = 1) :
    (∀ api, negotiatedApi fromSlice body = .ok api ↔
      Admissible maximum minimum api ∧
        ∀ other, Admissible maximum minimum other → ¬ api < other) ∧
    (negotiatedApi fromSlice body = .error .version ↔
      ¬∃ api, Admissible maximum minimum api) ∧
    ∀ api, negotiatedApi fromSlice body = .ok api →
      ∃ upper lower, versionField version "ApiVersion" = .ok upper ∧
        versionField version "MinAPIVersion" = .ok lower ∧
        ∀ decoding : Decoding, decoding.apiVersion = upper →
          decoding.minimumApiVersion = lower →
          (∀ requested ∈ decoding.requestedApiVersions, requested = api) →
          outOfRange decoding = false := by
  have hvalue : negotiatedApi fromSlice body =
      if (maximum.min knownApi).minor < 41 ∨
          minimum.any (fun lower => maximum.min knownApi < lower) = true then
        .error .version
      else .ok (maximum.min knownApi) := by
    rw [negotiatedApi, hbody]
    simp only [h.maximum, h.minimum, hmajor, ne_eq, not_true_eq_false, if_false]
  have hgreatest : ∀ api, negotiatedApi fromSlice body = .ok api →
      api = maximum.min knownApi ∧ Admissible maximum minimum api := by
    intro api hapi
    rw [hvalue] at hapi
    split at hapi
    · cases hapi
    · next hrange =>
        cases hapi
        exact ⟨rfl, (admissible_min_iff hmajor).mpr hrange⟩
  refine ⟨?_, ?_, ?_⟩
  · intro api
    constructor
    · intro hapi
      obtain ⟨rfl, hadmissible⟩ := hgreatest api hapi
      exact ⟨hadmissible, fun other hother => hother.not_min_lt⟩
    · rintro ⟨hadmissible, hmaximal⟩
      have hbound := hadmissible.least_bound hmajor
      rw [hvalue, if_neg ((admissible_min_iff hmajor).mp hbound),
        ApiVersion.eq_of_not_lt (hmaximal _ hbound) hadmissible.not_min_lt]
  · rw [hvalue]
    constructor
    · rintro herror ⟨api, hadmissible⟩
      rw [if_neg ((admissible_min_iff hmajor).mp (hadmissible.least_bound hmajor))] at herror
      cases herror
    · intro hnone
      rw [if_pos]
      by_contra hrange
      exact hnone ⟨_, (admissible_min_iff hmajor).mpr hrange⟩
  · intro api hapi
    obtain ⟨-, hadmissible⟩ := hgreatest api hapi
    obtain ⟨text, htext, hparse⟩ := Option.bind_eq_some_iff.mp h.maximum
    obtain ⟨member, hget, htext⟩ := Option.bind_eq_some_iff.mp htext
    refine ⟨some maximum, minimum, versionField_of_get hget (by decide) htext hparse,
      versionField_minimum hget (by decide) h.minimum, ?_⟩
    intro decoding hupper hlower hrequested
    rw [outOfRange, hupper, hlower, Bool.or_eq_false_iff]
    have hle := hadmissible.maximum
    have hlowers := hadmissible.minimum
    constructor
    · cases minimum with
      | none => rfl
      | some lower =>
          have hnot := hlowers lower rfl
          rw [ApiVersion.lt_iff] at hnot hle
          simp only [Option.any_some, decide_eq_false_iff_not, ApiVersion.lt_iff]
          omega
    · rw [List.any_eq_false]
      intro requested hmem
      rw [hrequested requested hmem, Bool.or_eq_true, not_or]
      constructor
      · cases minimum with
        | none => simp
        | some lower => simpa using hlowers lower rfl
      · simpa using hle

theorem negotiatedApi_greatest_known :
    negotiatedApi Json.fromSlice
        (asBytes "\x7b\"ApiVersion\":\"1.52\",\"MinAPIVersion\":\"1.44\"\x7d") =
      .ok knownApi := by
  have hreports : (Json.fromSlice
      (asBytes "\x7b\"ApiVersion\":\"1.52\",\"MinAPIVersion\":\"1.44\"\x7d")).any
        (fun version =>
          decide (((version.get "ApiVersion").bind Value.asStr).bind Acquisition.parseApi =
            some ⟨1, 52, by decide, by decide, by decide⟩) &&
          match minimumApi version with
          | .ok minimum => decide (minimum = some ⟨1, 44, by decide, by decide, by decide⟩)
          | .error _ => false) = true := by
    decide +kernel
  obtain ⟨version, hbody, hversion⟩ := (Option.any_eq_true _ _).mp hreports
  rw [Bool.and_eq_true, decide_eq_true_eq] at hversion
  obtain ⟨hmaximum, hminimum⟩ := hversion
  split at hminimum
  · next minimum hread =>
      rw [decide_eq_true_eq] at hminimum
      subst hminimum
      apply ((negotiatedApi_greatest hbody ⟨hmaximum, hread⟩ rfl).1 knownApi).mpr
      refine ⟨⟨by decide, by decide, by decide, ?_⟩, fun other hother => hother.known⟩
      rintro lower ⟨⟩
      decide
  · cases hminimum

end DockerLens.Decoder
