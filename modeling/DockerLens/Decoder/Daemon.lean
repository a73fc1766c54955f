import DockerLens.Decoder.Availability
import DockerLens.Decoder.Order
import DockerLens.Decoder.Run

namespace DockerLens.Decoder

open DockerLens.Text
open DockerLens.Json
open DockerLens.Observation
open DockerLens.Acquisition
open DockerLens.Version
open DockerLens.Evidence
open DockerLens.Fold

/-- The limited meaning of a daemon report within its observation. -/
inductive ReportedResourceSupport
  | reportedUnavailable
  | reportedAvailableUnverified
  | unknown
  deriving DecidableEq, Repr

structure ResourceSupportAssessment where
  memoryLimit : ReportedResourceSupport
  swapLimit : ReportedResourceSupport
  deriving DecidableEq, Repr

inductive ResourceSupportError
  | observationScopeMismatch
  deriving DecidableEq, Repr

def assessReport (report : Observed Bool) : ReportedResourceSupport :=
  if report.availability ≠ .present ∨ report.origin ≠ .effective then .unknown
  else
    match report.value with
    | some false => .reportedUnavailable
    | some true => .reportedAvailableUnverified
    | none => .unknown

/-- Assess the reports for an explicitly supplied observation. -/
def ResourceSupportObservation.assess (self : ResourceSupportObservation)
    (observationId : ObservationId) : Except ResourceSupportError ResourceSupportAssessment :=
  if self.observationId ≠ observationId then .error .observationScopeMismatch
  else .ok ⟨assessReport self.memoryLimit, assessReport self.swapLimit⟩

section Tells

variable (fromSlice : Bytes → Option Value)

/-- The body of one of these requests has a member with this value. -/
def Tells (exchanges : List CapturedExchange) (request : ReadRequest) (key : String)
    (value : Value) : Prop :=
  ∃ exchange ∈ exchanges, exchange.request = request ∧
    ∃ body, fromSlice exchange.body = some body ∧ body.get key = some value

/-- `/info` names a rootless daemon among its security options. -/
def TellsRootless (exchanges : List CapturedExchange) : Prop :=
  ∃ options, Tells fromSlice exchanges .daemonInfo "SecurityOptions" (.array options) ∧
    ∃ option ∈ options, option.asStr.any isRootlessOption = true

/-- A report means what `/info` has under its key. -/
def Means (exchanges : List CapturedExchange) (key : String) : ReportedResourceSupport → Prop
  | .reportedAvailableUnverified => Tells fromSlice exchanges .daemonInfo key (.bool true)
  | .reportedUnavailable => Tells fromSlice exchanges .daemonInfo key (.bool false)
  | .unknown => ∀ value, ¬Tells fromSlice exchanges .daemonInfo key (.bool value)

/-- What the exchanges so far tell of the daemon, and nothing else, is what was decoded. -/
structure Told (exchanges : List CapturedExchange) (decoding : Decoding) : Prop where
  versions : exchanges.countP (·.request = .daemonVersion) = decoding.versionSeen.toNat
  infos : exchanges.countP (·.request = .daemonInfo) = decoding.infoSeen.toNat
  release : ∀ release, decoding.release = some release ↔
    Tells fromSlice exchanges .daemonVersion "Version" (.string release.text) ∨
      Tells fromSlice exchanges .daemonInfo "ServerVersion" (.string release.text)
  apiVersion : ∀ api, decoding.apiVersion = some api ↔ ∃ text,
    Tells fromSlice exchanges .daemonVersion "ApiVersion" (.string text) ∧
      parseApi text = some api
  minimumApiVersion : ∀ api, decoding.minimumApiVersion = some api ↔ ∃ text,
    Tells fromSlice exchanges .daemonVersion "MinAPIVersion" (.string text) ∧
      parseApi text = some api
  rootless : decoding.mode = .rootless ↔
    Tells fromSlice exchanges .daemonInfo "Rootless" (.bool true) ∨
      TellsRootless fromSlice exchanges
  rootful : decoding.mode = .rootful ↔
    Tells fromSlice exchanges .daemonInfo "Rootless" (.bool false)
  memoryLimit : Means fromSlice exchanges "MemoryLimit" (assessReport decoding.memoryLimit)
  swapLimit : Means fromSlice exchanges "SwapLimit" (assessReport decoding.swapLimit)

end Tells

section Fields

variable {members : List (String × Value)} {key : String}

/-- A member is read as it is, unless it is null, an envelope or missing. -/
theorem fieldValue_member (hkey : key ≠ "__docker_lens_redacted__") (field : FieldPath) :
    (∃ value, fieldValue (.object members) [key] field = .ok (some value) ∧
      (value.isNull || isRedacted value) = false ∧
      (Value.object members).get key = some value) ∨
    ∃ found, fieldValue (.object members) [key] field = .ok found ∧
      (∀ value, found = some value → (value.isNull || isRedacted value) = true) ∧
      ∀ value, (value.isNull || isRedacted value) = false →
        (Value.object members).get key ≠ some value := by
  rw [fieldValue, Value.get_object]
  split
  · next hstop =>
      have hredacted : isRedacted (.object members) = true := by simpa [Value.isNull] using hstop
      refine .inr ⟨_, rfl, ?_, fun value _ hvalue => ?_⟩
      · rintro value ⟨⟩
        exact hstop
      · rw [Value.object.inj (isRedacted_eq_true_iff.mp hredacted), lookup_singleton] at hvalue
        exact hkey hvalue.1
  · simp only [Value.asObject]
    cases hfound : members.lookup key with
    | none =>
        refine .inr ⟨none, rfl, ?_, ?_⟩
        · rintro value ⟨⟩
        · rintro value - ⟨⟩
    | some value =>
        cases hstop : value.isNull || isRedacted value with
        | false => exact .inl ⟨value, rfl, hstop, rfl⟩
        | true =>
            refine .inr ⟨some value, rfl, ?_, ?_⟩
            · rintro other ⟨⟩
              exact hstop
            · rintro other hother ⟨⟩
              rw [hstop] at hother
              cases hother

theorem releaseField_tells (hkey : key ≠ "__docker_lens_redacted__")
    {release : Option EngineRelease} (h : releaseField (.object members) key = .ok release)
    (other : EngineRelease) :
    release = some other ↔ (Value.object members).get key = some (.string other.text) := by
  rcases @fieldValue_member members key hkey .engineRelease with
    ⟨value, hfound, hplain, hget⟩ | ⟨found, hfound, hstop, hnone⟩
  · rw [releaseField, hfound, ok_bind] at h
    simp only [hplain, Bool.false_eq_true, if_false] at h
    rw [hget]
    cases value with
    | string text =>
        simp only [Value.asStr, Except.ok.injEq] at h
        subst h
        rw [EngineRelease.new]
        split
        · cases other
          simp
        · next hempty =>
            have hother := other.nonempty
            simp only [ne_eq, not_not] at hempty
            simp [hempty, hother.symm]
    | null | bool _ | number _ | array _ | object _ => cases h
  · have hrelease : release = none := by
      rw [releaseField, hfound, ok_bind] at h
      cases found with
      | none => exact (Except.ok.inj h).symm
      | some value =>
          simp only [hstop value rfl, if_true, Except.ok.injEq] at h
          exact h.symm
    rw [hrelease]
    exact iff_of_false (by simp) (hnone (.string other.text) rfl)

theorem versionField_tells (hkey : key ≠ "__docker_lens_redacted__")
    {version : Option ApiVersion} (h : versionField (.object members) key = .ok version)
    (api : ApiVersion) :
    version = some api ↔ ∃ text, (Value.object members).get key = some (.string text) ∧
      parseApi text = some api := by
  rcases @fieldValue_member members key hkey .apiVersion with
    ⟨value, hfound, hplain, hget⟩ | ⟨found, hfound, hstop, hnone⟩
  · rw [versionField, hfound, ok_bind] at h
    simp only [hplain, Bool.false_eq_true, if_false] at h
    rw [hget]
    cases value with
    | string text =>
        simp only [Value.asStr, Option.bind_some] at h
        cases hparsed : parseApi text with
        | none =>
            rw [hparsed] at h
            cases h
        | some parsed =>
            rw [hparsed] at h
            cases h
            simp [hparsed]
    | null | bool _ | number _ | array _ | object _ => cases h
  · have hversion : version = none := by
      rw [versionField, hfound, ok_bind] at h
      cases found with
      | none => exact (Except.ok.inj h).symm
      | some value =>
          simp only [hstop value rfl, if_true, Except.ok.injEq] at h
          exact h.symm
    rw [hversion]
    refine iff_of_false (by simp) ?_
    rintro ⟨text, hget, -⟩
    exact hnone (.string text) rfl hget

theorem rootlessField_tells {rootless : Option Bool}
    (h : rootlessField (.object members) = .ok rootless) (value : Bool) :
    rootless = some value ↔ (Value.object members).get "Rootless" = some (.bool value) := by
  rcases @fieldValue_member members "Rootless" (by decide) .daemonMode with
    ⟨member, hfound, hplain, hget⟩ | ⟨found, hfound, hstop, hnone⟩
  · rw [rootlessField, hfound, ok_bind] at h
    simp only [hplain, Bool.false_eq_true, if_false] at h
    rw [hget]
    cases member with
    | bool flag =>
        cases h
        simp
    | null | string _ | number _ | array _ | object _ => cases h
  · have hrootless : rootless = none := by
      rw [rootlessField, hfound, ok_bind] at h
      cases found with
      | none => exact (Except.ok.inj h).symm
      | some member =>
          simp only [hstop member rfl, if_true, Except.ok.injEq] at h
          exact h.symm
    rw [hrootless]
    exact iff_of_false (by simp) (hnone (.bool value) rfl)

theorem rootlessOption_tells {rootless : Bool}
    (h : rootlessOption (.object members) = .ok rootless) :
    rootless = true ↔ ∃ options,
      (Value.object members).get "SecurityOptions" = some (.array options) ∧
        ∃ option ∈ options, option.asStr.any isRootlessOption = true := by
  rcases @fieldValue_member members "SecurityOptions" (by decide) .daemonMode with
    ⟨member, hfound, hplain, hget⟩ | ⟨found, hfound, hstop, hnone⟩
  · rw [rootlessOption, hfound, ok_bind] at h
    simp only [hplain, Bool.false_eq_true, if_false, bind_eq_ok_iff, mapM_eq_ok_iff,
      shaped_eq_ok_iff, Except.ok.injEq] at h
    obtain ⟨options, hoptions, texts, htexts, rfl⟩ := h
    rw [hget, Value.asArray_eq_some_iff.mp (asArray_of_array hoptions)]
    simp only [Option.some.injEq, Value.array.injEq, exists_eq_left', List.any_eq_true]
    constructor
    · rintro ⟨text, htext, hrootless⟩
      obtain ⟨option, hoption, hasStr⟩ := exists_of_forall₂_right htexts htext
      exact ⟨option, hoption, by rw [hasStr]; exact hrootless⟩
    · rintro ⟨option, hoption, hrootless⟩
      obtain ⟨text, htext, hasStr⟩ := exists_of_forall₂_left htexts hoption
      rw [hasStr] at hrootless
      exact ⟨text, htext, hrootless⟩
  · have hrootless : rootless = false := by
      rw [rootlessOption, hfound, ok_bind] at h
      cases found with
      | none => exact (Except.ok.inj h).symm
      | some member =>
          simp only [hstop member rfl, if_true, Except.ok.injEq] at h
          exact h.symm
    rw [hrootless]
    refine iff_of_false (by simp) ?_
    rintro ⟨options, hget, -⟩
    exact hnone (.array options) rfl hget

/-- A flag is reported as it stands in the body, and what is no flag is not reported. -/
theorem boolField_tells (hkey : key ≠ "__docker_lens_redacted__") {field : FieldPath}
    {report : Observed Bool} (h : boolField (.object members) [key] field .effective = .ok report) :
    (∃ value, (Value.object members).get key = some (.bool value) ∧
      assessReport report =
        if value then .reportedAvailableUnverified else .reportedUnavailable) ∨
    (∀ value, (Value.object members).get key ≠ some (.bool value)) ∧
      assessReport report = .unknown := by
  rw [boolField, observed] at h
  rcases @fieldValue_member members key hkey field with
    ⟨member, hfound, hplain, hget⟩ | ⟨found, hfound, hstop, hnone⟩
  · rw [hfound, ok_bind, observeValue] at h
    rw [Bool.or_eq_false_iff] at hplain
    simp only [hplain, Bool.false_eq_true, if_false] at h
    cases member with
    | bool value =>
        cases h
        exact .inl ⟨value, hget, by cases value <;> rfl⟩
    | null | string _ | number _ | array _ | object _ => cases h
  · refine .inr ⟨fun value => hnone (.bool value) rfl, ?_⟩
    rw [hfound, ok_bind] at h
    cases found with
    | none =>
        cases h
        rfl
    | some member =>
        have hmember := hstop member rfl
        rw [observeValue] at h
        split at h
        · cases h
          rfl
        · next hnull =>
            simp only [hnull, Bool.false_or] at hmember
            rw [if_pos hmember] at h
            cases h
            rfl

end Fields

section Facts

variable {fromSlice : Bytes → Option Value} {capture : Capture} {exchange : CapturedExchange}
  {contribution : Contribution}

/-- What a `/version` body contributes. -/
structure VersionFacts (fromSlice : Bytes → Option Value) (exchange : CapturedExchange)
    (contribution : Contribution) (members : List (String × Value)) : Prop where
  request : exchange.request = .daemonVersion
  body : fromSlice exchange.body = some (.object members)
  info : contribution.info = none
  release : releaseField (.object members) "Version" = .ok contribution.release
  bounds : ∃ apiVersion minimumApiVersion,
    contribution.version = some (apiVersion, minimumApiVersion) ∧
      versionField (.object members) "ApiVersion" = .ok apiVersion ∧
      versionField (.object members) "MinAPIVersion" = .ok minimumApiVersion

/-- What an `/info` body contributes. -/
structure InfoRead (fromSlice : Bytes → Option Value) (exchange : CapturedExchange)
    (contribution : Contribution) (members : List (String × Value)) (facts : InfoFacts) : Prop where
  request : exchange.request = .daemonInfo
  body : fromSlice exchange.body = some (.object members)
  version : contribution.version = none
  info : contribution.info = some facts
  release : releaseField (.object members) "ServerVersion" = .ok contribution.release
  memoryLimit : boolField (.object members) ["MemoryLimit"] .resourceLimit .effective =
    .ok facts.memoryLimit
  swapLimit : boolField (.object members) ["SwapLimit"] .resourceLimit .effective =
    .ok facts.swapLimit
  option : rootlessOption (.object members) = .ok facts.option
  field : rootlessField (.object members) = .ok facts.field

/-- What has nothing to say of the daemon. -/
structure Silent (exchange : CapturedExchange) (contribution : Contribution) : Prop where
  notVersion : exchange.request ≠ .daemonVersion
  notInfo : exchange.request ≠ .daemonInfo
  version : contribution.version = none
  info : contribution.info = none
  release : contribution.release = none

theorem ofInspect_silent {kind : RootKind} {id : NativeId} {body : Value}
    (h : Contribution.ofInspect capture exchange kind id body = .ok contribution) :
    contribution.info = none ∧ contribution.release = none := by
  simp only [Contribution.ofInspect, bind_eq_ok_iff] at h
  obtain ⟨reference, -, h⟩ := h
  split at h
  · cases h
  simp only [bind_eq_ok_iff, Except.ok.injEq] at h
  obtain ⟨_, -, observed, hobserved, rfl⟩ := h
  obtain ⟨_, _, _, _, rfl⟩ := observation_eq_ok hobserved
  exact ⟨rfl, rfl⟩

theorem facts_of_ofExchange (h : Contribution.ofExchange fromSlice capture exchange =
    .ok contribution) :
    (∃ members, VersionFacts fromSlice exchange contribution members) ∨
      (∃ members facts, InfoRead fromSlice exchange contribution members facts) ∨
        Silent exchange contribution := by
  obtain ⟨body, found, hbody, hfound, rfl⟩ := ofExchange_eq_ok h
  rw [Contribution.ofBody] at hfound
  cases hrequest : exchange.request with
  | daemonVersion =>
      simp only [hrequest, Contribution.ofVersion, bind_eq_ok_iff, Except.ok.injEq] at hfound
      obtain ⟨members, hmembers, release, hrelease, api, hapi, minimum, hminimum, rfl⟩ := hfound
      obtain rfl := Value.asObject_eq_some_iff.mp (asObject_of_object hmembers)
      exact .inl ⟨members, hrequest, hbody, rfl, hrelease, api, minimum, rfl, hapi, hminimum⟩
  | daemonInfo =>
      simp only [hrequest, Contribution.ofInfo, bind_eq_ok_iff, Except.ok.injEq] at hfound
      obtain ⟨members, hmembers, memory, hmemory, swap, hswap, release, hrelease, option, hoption,
        field, hfield, rfl⟩ := hfound
      obtain rfl := Value.asObject_eq_some_iff.mp (asObject_of_object hmembers)
      exact .inr (.inl ⟨members, ⟨memory, swap, option, field⟩, hrequest, hbody, rfl, rfl, hrelease,
        hmemory, hswap, hoption, hfield⟩)
  | listContainers =>
      simp only [hrequest, Contribution.ofContainerList, bind_eq_ok_iff,
        Except.ok.injEq] at hfound
      obtain ⟨_, -, _, -, _, -, rfl⟩ := hfound
      exact .inr (.inr ⟨by simp [hrequest], by simp [hrequest], rfl, rfl, rfl⟩)
  | listNetworks =>
      simp only [hrequest, Contribution.ofNetworkList, bind_eq_ok_iff, Except.ok.injEq] at hfound
      obtain ⟨_, -, _, -, rfl⟩ := hfound
      exact .inr (.inr ⟨by simp [hrequest], by simp [hrequest], rfl, rfl, rfl⟩)
  | listVolumes =>
      simp only [hrequest, Contribution.ofVolumeList, bind_eq_ok_iff, Except.ok.injEq] at hfound
      obtain ⟨_, -, _, -, rfl⟩ := hfound
      exact .inr (.inr ⟨by simp [hrequest], by simp [hrequest], rfl, rfl, rfl⟩)
  | inspectContainer _ | inspectNetwork _ | inspectVolume _ =>
      simp only [hrequest] at hfound
      obtain ⟨hinfo, hrelease⟩ := ofInspect_silent hfound
      exact .inr (.inr ⟨by simp [hrequest], by simp [hrequest], (ofInspect_plain hfound).1, hinfo,
        hrelease⟩)

end Facts

section Step

variable {fromSlice : Bytes → Option Value} {exchanges : List CapturedExchange}
  {exchange : CapturedExchange} {key : String} {value : Value} {request : ReadRequest}

theorem tells_skip (h : exchange.request ≠ request) :
    Tells fromSlice (exchanges ++ [exchange]) request key value ↔
      Tells fromSlice exchanges request key value := by
  simp [Tells, h]

theorem tells_concat {members : List (String × Value)} (hrequest : exchange.request = request)
    (hbody : fromSlice exchange.body = some (.object members)) :
    Tells fromSlice (exchanges ++ [exchange]) request key value ↔
      Tells fromSlice exchanges request key value ∨
        (Value.object members).get key = some value := by
  simp [Tells, hrequest, hbody, or_and_right, exists_or]

theorem means_skip (h : exchange.request ≠ .daemonInfo) (report : ReportedResourceSupport) :
    Means fromSlice (exchanges ++ [exchange]) key report ↔
      Means fromSlice exchanges key report := by
  cases report <;> simp only [Means, tells_skip h]

variable {decoding : Decoding} {contribution : Contribution}

theorem Told.silent (h : Told fromSlice exchanges decoding)
    (hsilent : Silent exchange contribution) :
    Told fromSlice (exchanges ++ [exchange]) (decoding.record contribution) where
  versions := by
    simp [List.countP_append, h.versions, Decoding.record, hsilent.notVersion, hsilent.version]
  infos := by
    simp [List.countP_append, h.infos, Decoding.record, hsilent.notInfo, hsilent.info]
  release := by
    simpa [Decoding.record, hsilent.release, tells_skip hsilent.notVersion,
      tells_skip hsilent.notInfo] using h.release
  apiVersion := by
    simpa [Decoding.record, hsilent.version, tells_skip hsilent.notVersion] using h.apiVersion
  minimumApiVersion := by
    simpa [Decoding.record, hsilent.version, tells_skip hsilent.notVersion]
      using h.minimumApiVersion
  rootless := by
    simpa [Decoding.record, hsilent.info, TellsRootless, tells_skip hsilent.notInfo]
      using h.rootless
  rootful := by
    simpa [Decoding.record, hsilent.info, tells_skip hsilent.notInfo] using h.rootful
  memoryLimit := by
    simpa [Decoding.record, hsilent.info, means_skip hsilent.notInfo] using h.memoryLimit
  swapLimit := by
    simpa [Decoding.record, hsilent.info, means_skip hsilent.notInfo] using h.swapLimit

theorem not_tells (h : exchanges.countP (·.request = request) = 0) :
    ¬Tells fromSlice exchanges request key value := by
  rintro ⟨exchange, hexchange, hrequest, -⟩
  rw [List.countP_eq_zero] at h
  exact h exchange hexchange (decide_eq_true hrequest)

theorem or_eq_some_of_agree {α : Type} {found known : Option α} {a : α}
    (h : ∀ new ∈ found, ∀ old ∈ known, old = new) :
    found.or known = some a ↔ found = some a ∨ known = some a := by
  cases found with
  | none => simp
  | some new =>
      rw [Option.some_or]
      constructor
      · exact .inl
      · rintro (hnew | hold)
        · exact hnew
        · rw [h new rfl a hold]

theorem mergeMode_unknown {option : Bool} {field : Option Bool} {mode : DaemonMode}
    (h : mergeMode .unknown option field = .ok mode) :
    (mode = .rootless ↔ field = some true ∨ option = true) ∧
      (mode = .rootful ↔ field = some false) := by
  cases option with
  | false =>
      cases field with
      | none =>
          cases h
          decide
      | some value => cases value <;> cases h <;> decide
  | true =>
      cases field with
      | none =>
          cases h
          decide
      | some value =>
          cases value with
          | false => cases h
          | true =>
              cases h
              decide

theorem means_of_boolField {members : List (String × Value)}
    (hrequest : exchange.request = .daemonInfo)
    (hbody : fromSlice exchange.body = some (.object members))
    (hfirst : exchanges.countP (·.request = .daemonInfo) = 0)
    (hkey : key ≠ "__docker_lens_redacted__") {report : Observed Bool}
    (h : boolField (.object members) [key] .resourceLimit .effective = .ok report) :
    Means fromSlice (exchanges ++ [exchange]) key (assessReport report) := by
  have htells : ∀ value, Tells fromSlice (exchanges ++ [exchange]) .daemonInfo key value ↔
      (Value.object members).get key = some value := by
    intro value
    rw [tells_concat hrequest hbody, or_iff_right (not_tells hfirst)]
  rcases boolField_tells hkey h with ⟨value, hget, hreport⟩ | ⟨hnone, hreport⟩
  · rw [hreport]
    cases value with
    | true => exact (htells _).mpr hget
    | false => exact (htells _).mpr hget
  · rw [hreport]
    exact fun value htold => hnone value ((htells _).mp htold)

theorem Told.version (h : Told fromSlice exchanges decoding) {members : List (String × Value)}
    (hfacts : VersionFacts fromSlice exchange contribution members)
    (hadmits : Admits decoding contribution) :
    Told fromSlice (exchanges ++ [exchange]) (decoding.record contribution) := by
  obtain ⟨api, minimum, hversion, hapi, hminimum⟩ := hfacts.bounds
  have hseen : decoding.versionSeen = false := hadmits.version (by rw [hversion]; rfl)
  have hfirst : exchanges.countP (·.request = .daemonVersion) = 0 := by
    rw [h.versions, hseen]
    rfl
  have hother : exchange.request ≠ .daemonInfo := by
    rw [hfacts.request]
    decide
  have htells : ∀ {key value}, Tells fromSlice (exchanges ++ [exchange]) .daemonVersion key value ↔
      (Value.object members).get key = some value := by
    intro key value
    rw [tells_concat hfacts.request hfacts.body, or_iff_right (not_tells hfirst)]
  constructor
  case versions =>
    simp [List.countP_append, hfirst, Decoding.record, hfacts.request, hversion]
  case infos => simp [List.countP_append, h.infos, Decoding.record, hother, hfacts.info]
  case release =>
    intro release
    rw [Decoding.record, or_eq_some_of_agree hadmits.release, htells, tells_skip hother,
      releaseField_tells (by decide) hfacts.release, h.release,
      or_iff_right (not_tells hfirst)]
  case apiVersion =>
    intro other
    simp only [Decoding.record, hversion, htells]
    exact versionField_tells (by decide) hapi other
  case minimumApiVersion =>
    intro other
    simp only [Decoding.record, hversion, htells]
    exact versionField_tells (by decide) hminimum other
  case rootless =>
    simpa [Decoding.record, hfacts.info, TellsRootless, tells_skip hother] using h.rootless
  case rootful => simpa [Decoding.record, hfacts.info, tells_skip hother] using h.rootful
  case memoryLimit => simpa [Decoding.record, hfacts.info, means_skip hother] using h.memoryLimit
  case swapLimit => simpa [Decoding.record, hfacts.info, means_skip hother] using h.swapLimit

theorem Told.info (h : Told fromSlice exchanges decoding) {members : List (String × Value)}
    {facts : InfoFacts} (hread : InfoRead fromSlice exchange contribution members facts)
    (hadmits : Admits decoding contribution) :
    Told fromSlice (exchanges ++ [exchange]) (decoding.record contribution) := by
  obtain ⟨hseen, mode, hmode⟩ := hadmits.info facts hread.info
  have hfirst : exchanges.countP (·.request = .daemonInfo) = 0 := by
    rw [h.infos, hseen]
    rfl
  have hother : exchange.request ≠ .daemonVersion := by
    rw [hread.request]
    decide
  have htells : ∀ {key value}, Tells fromSlice (exchanges ++ [exchange]) .daemonInfo key value ↔
      (Value.object members).get key = some value := by
    intro key value
    rw [tells_concat hread.request hread.body, or_iff_right (not_tells hfirst)]
  have hunknown : decoding.mode = .unknown := by
    cases hknown : decoding.mode with
    | unknown => rfl
    | rootful => exact absurd (h.rootful.mp hknown) (not_tells hfirst)
    | rootless =>
        rcases h.rootless.mp hknown with htold | ⟨options, htold, -⟩
        · exact absurd htold (not_tells hfirst)
        · exact absurd htold (not_tells hfirst)
  have hafter : (decoding.record contribution).mode = mode := by
    simp [Decoding.record, hread.info, modeAfter, hmode]
  rw [hunknown] at hmode
  obtain ⟨hrootless, hrootful⟩ := mergeMode_unknown hmode
  constructor
  case versions => simp [List.countP_append, h.versions, Decoding.record, hother, hread.version]
  case infos => simp [List.countP_append, hfirst, Decoding.record, hread.request, hread.info]
  case release =>
    intro release
    rw [Decoding.record, or_eq_some_of_agree hadmits.release, htells, tells_skip hother,
      releaseField_tells (by decide) hread.release, h.release,
      or_iff_left (@not_tells _ _ "ServerVersion" _ _ hfirst), or_comm]
  case apiVersion =>
    simpa [Decoding.record, hread.version, tells_skip hother] using h.apiVersion
  case minimumApiVersion =>
    simpa [Decoding.record, hread.version, tells_skip hother] using h.minimumApiVersion
  case rootless =>
    rw [hafter, hrootless, rootlessField_tells hread.field, rootlessOption_tells hread.option]
    simp only [TellsRootless, htells]
  case rootful => rw [hafter, hrootful, rootlessField_tells hread.field, htells]
  case memoryLimit =>
    simp only [Decoding.record, hread.info]
    exact means_of_boolField hread.request hread.body hfirst (by decide) hread.memoryLimit
  case swapLimit =>
    simp only [Decoding.record, hread.info]
    exact means_of_boolField hread.request hread.body hfirst (by decide) hread.swapLimit

theorem told_start : Told fromSlice [] .start := by
  constructor <;> simp [Decoding.start, Tells, TellsRootless, Means, assessReport,
    Observed.unavailable]

theorem decode_told {capture : Capture}
    (h : exchanges.foldlM (decodeExchange fromSlice capture) .start = .ok decoding) :
    Told fromSlice exchanges decoding := by
  refine foldlM_induction (motive := Told fromSlice) ?_ told_start h
  intro consumed decoding exchange next hconsumed hnext
  obtain ⟨contribution, hcontribution, hadmits, rfl⟩ := decodeExchange_eq_ok_iff.mp hnext
  rcases facts_of_ofExchange hcontribution with
    ⟨members, hfacts⟩ | ⟨members, facts, hread⟩ | hsilent
  · exact hconsumed.version hfacts hadmits
  · exact hconsumed.info hread hadmits
  · exact hconsumed.silent hsilent

end Step

section Capture

variable {fromSlice : Bytes → Option Value} {capture : Capture} {inventory : DecodedInventory}

/-- The facts of the daemon are what at most one `/version` and at most one `/info` body have under
their keys. No default and no other exchange adds to them. -/
theorem decodeCapture_daemon (h : decodeCapture fromSlice capture = .ok inventory) :
    capture.exchanges.countP (·.request = .daemonVersion) ≤ 1 ∧
    capture.exchanges.countP (·.request = .daemonInfo) ≤ 1 ∧
    (∀ release, inventory.version.daemon.release = some release ↔
      Tells fromSlice capture.exchanges .daemonVersion "Version" (.string release.text) ∨
        Tells fromSlice capture.exchanges .daemonInfo "ServerVersion" (.string release.text)) ∧
    (∀ api, inventory.version.daemon.apiVersion = some api ↔ ∃ text,
      Tells fromSlice capture.exchanges .daemonVersion "ApiVersion" (.string text) ∧
        parseApi text = some api) ∧
    (∀ api, inventory.version.daemon.minimumApiVersion = some api ↔ ∃ text,
      Tells fromSlice capture.exchanges .daemonVersion "MinAPIVersion" (.string text) ∧
        parseApi text = some api) ∧
    (inventory.version.daemon.mode = .rootless ↔
      Tells fromSlice capture.exchanges .daemonInfo "Rootless" (.bool true) ∨
        TellsRootless fromSlice capture.exchanges) ∧
    (inventory.version.daemon.mode = .rootful ↔
      Tells fromSlice capture.exchanges .daemonInfo "Rootless" (.bool false)) := by
  obtain ⟨decoding, hloop, -, -, rfl⟩ := decodeCapture_eq_ok h
  have htold := decode_told hloop
  refine ⟨?_, ?_, htold.release, htold.apiVersion, htold.minimumApiVersion, htold.rootless,
    htold.rootful⟩
  · rw [htold.versions]
    exact Bool.toNat_le _
  · rw [htold.infos]
    exact Bool.toNat_le _

/-- A rootless daemon that limits memory and not swap. -/
def rootlessInfo : CapturedExchange :=
  ⟨.daemonInfo, none, ApiVersion.new? 1 49, ⟨200, validStatus_ok⟩,
    asBytes "\x7b\"MemoryLimit\":true,\"SwapLimit\":false,\"Rootless\":true\x7d"⟩

theorem decodeCapture_daemon_rootless :
    ∃ inventory, decodeCapture Json.fromSlice (reordered versionCapture [rootlessInfo]) =
        .ok inventory ∧ inventory.version.daemon.mode = .rootless := by
  obtain ⟨inventory, hinventory⟩ := exists_of_isOk (show
    (decodeCapture Json.fromSlice (reordered versionCapture [rootlessInfo])).isOk = true by
      decide +kernel)
  obtain ⟨-, -, -, -, -, hrootless, -⟩ := decodeCapture_daemon hinventory
  have hvalue : ((Json.fromSlice rootlessInfo.body).bind (·.get "Rootless")).bind Value.asBool =
      some true := by decide +kernel
  obtain ⟨value, hvalue, hflag⟩ := Option.bind_eq_some_iff.mp hvalue
  obtain ⟨body, hbody, hget⟩ := Option.bind_eq_some_iff.mp hvalue
  refine ⟨inventory, hinventory, hrootless.mpr (.inl ?_)⟩
  cases value with
  | bool flag =>
      cases hflag
      exact ⟨rootlessInfo, List.mem_singleton_self _, rfl, body, hbody, hget⟩
  | null | string _ | number _ | array _ | object _ => cases hflag

/-- An assessment is refused for another observation, and for its own it means what `/info` has
under the two keys. -/
theorem assess_told (h : decodeCapture fromSlice capture = .ok inventory) :
    inventory.observationId = capture.observationId ∧
    (∃ assessment, inventory.version.resourceSupport.assess capture.observationId =
        .ok assessment ∧
      Means fromSlice capture.exchanges "MemoryLimit" assessment.memoryLimit ∧
      Means fromSlice capture.exchanges "SwapLimit" assessment.swapLimit) ∧
    ∀ other, other ≠ capture.observationId →
      inventory.version.resourceSupport.assess other = .error .observationScopeMismatch := by
  obtain ⟨decoding, hloop, -, -, rfl⟩ := decodeCapture_eq_ok h
  have htold := decode_told hloop
  refine ⟨rfl, ⟨_, if_neg (by simp [decodedInventory, decodedVersion]), htold.memoryLimit,
    htold.swapLimit⟩, fun other hother => if_pos ?_⟩
  exact hother.symm

theorem assess_told_rootless :
    ∃ inventory assessment,
      decodeCapture Json.fromSlice (reordered versionCapture [rootlessInfo]) = .ok inventory ∧
        inventory.version.resourceSupport.assess ⟨1⟩ = .ok assessment ∧
        Means Json.fromSlice [rootlessInfo] "MemoryLimit" assessment.memoryLimit ∧
        Means Json.fromSlice [rootlessInfo] "SwapLimit" assessment.swapLimit ∧
        inventory.version.resourceSupport.assess ⟨2⟩ = .error .observationScopeMismatch := by
  obtain ⟨inventory, hinventory⟩ := exists_of_isOk (show
    (decodeCapture Json.fromSlice (reordered versionCapture [rootlessInfo])).isOk = true by
      decide +kernel)
  obtain ⟨-, ⟨assessment, hassessment, hmemory, hswap⟩, hother⟩ := assess_told hinventory
  exact ⟨inventory, assessment, hinventory, hassessment, hmemory, hswap, hother _ (by decide)⟩

end Capture

end DockerLens.Decoder
