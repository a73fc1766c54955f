import DockerLens.Acquisition.Budget

namespace DockerLens.Acquisition.Budget

open DockerLens.Text
open DockerLens.Observation
open DockerLens.Version
open DockerLens.Evidence

/-- The accounting of a budget that has not failed. -/
structure Accounted (budget : Budget) : Prop where
  valid : budget.limits.Valid
  requests_le : budget.requests ≤ budget.limits.maxRequests
  selectedResources_le : budget.selectedResources ≤ budget.limits.maxSelectedResources
  expansions_le : budget.expansions ≤ budget.limits.maxExpansions
  bytesRead_le : budget.bytesRead ≤ budget.limits.maxTotalBytes
  requests_eq : budget.requests =
    budget.exchanges.length + if budget.pending.isSome then 1 else 0
  bytesRead_eq : budget.bytesRead = totalBytes budget.exchanges
  body_le : ∀ exchange ∈ budget.exchanges,
    exchange.body.length ≤ budget.limits.maxResponseBytes

/-- A budget is accounted for until it fails. -/
def Sound (budget : Budget) : Prop := budget.failed = false → budget.Accounted

theorem sound_new {limits : Limits} {fresh : Option ObservationId} {budget : Budget}
    (h : new limits fresh = .ok budget) : budget.limits = limits ∧ budget.Sound := by
  rw [new] at h
  split at h
  · simp at h
  · next hvalid =>
      obtain ⟨hvalid, rfl⟩ := Limits.validate_eq_ok_iff.mp hvalid
      split at h
      · simp at h
      · rw [Except.ok.injEq] at h
        subst h
        refine ⟨rfl, fun _ => ⟨hvalid, ?_, ?_, ?_, ?_, ?_, ?_, ?_⟩⟩ <;> simp

@[simp] theorem poison_failed (budget : Budget) : budget.poison.failed = true := rfl

@[simp] theorem poison_limits (budget : Budget) : budget.poison.limits = budget.limits := rfl

theorem sound_of_failed {budget : Budget} (h : budget.failed = true) : budget.Sound := by
  intro hlive
  rw [h] at hlive
  contradiction

/-- Neither poisoned nor past its deadline. -/
def Live (budget : Budget) (elapsed : Duration) : Prop :=
  budget.failed = false ∧ elapsed ≤ budget.limits.maxElapsed

instance (budget : Budget) (elapsed : Duration) : Decidable (budget.Live elapsed) :=
  inferInstanceAs (Decidable (_ ∧ _))

theorem checkTime_of_live {budget : Budget} {elapsed : Duration} (h : budget.Live elapsed) :
    budget.checkTime elapsed = (.ok (), budget) := by
  rw [checkTime, if_neg (by simp [h.1]), if_neg (Nat.not_lt.mpr h.2)]

theorem checkTime_of_not_live {budget : Budget} {elapsed : Duration}
    (h : ¬ budget.Live elapsed) :
    ∃ error after, budget.checkTime elapsed = (.error error, after) ∧
      (error = .exhausted ∨ error = .elapsed) ∧ after.failed = true ∧
      after.limits = budget.limits ∧
      (budget.failed = true → error = .exhausted ∧ after = budget) := by
  rw [checkTime]
  by_cases hfailed : budget.failed = true
  · rw [if_pos hfailed]
    exact ⟨_, _, rfl, .inl rfl, hfailed, rfl, fun _ => ⟨rfl, rfl⟩⟩
  · rw [if_neg hfailed, if_pos (by simpa [Live, hfailed] using h)]
    exact ⟨_, _, rfl, .inr rfl, rfl, rfl, fun hf => absurd hf hfailed⟩

/-- How many expansions a request costs. -/
def cost (request : ReadRequest) : Nat := if request.inspected.isSome then 1 else 0

/-- The two maps after an inspected resource is registered. -/
def register (budget : Budget) (request : ReadRequest) (resource : Option ResourceRef) :
    Budget :=
  match resource, request.inspected with
  | some reference, some object =>
      { budget with
        expansions := budget.expansions + 1
        resourceIds := orInsert budget.resourceIds reference object
        nativeRefs := orInsert budget.nativeRefs object reference }
  | _, _ => budget

/-- The budget that an accepted request leaves. -/
def requested (budget : Budget) (request : ReadRequest) (resource : Option ResourceRef)
    (apiVersion : Option ApiVersion) : Budget :=
  { budget.register request resource with
    requests := budget.requests + 1
    pending := some ⟨request, resource, apiVersion⟩ }

/-- Everything `record_request` checks. -/
structure Requestable (budget : Budget) (elapsed : Duration) (request : ReadRequest)
    (resource : Option ResourceRef) (apiVersion : Option ApiVersion) : Prop where
  live : budget.Live elapsed
  idle : budget.pending = none
  referenced : request.inspected.isSome = resource.isSome
  versioned : request = .daemonVersion ∨ apiVersion.isSome = true
  consistent : ∀ reference object, resource = some reference →
    request.inspected = some object → budget.conflicts reference object = false
  expansions_le : request.inspected.isSome = true →
    budget.expansions + 1 ≤ budget.limits.maxExpansions
  requests_le : budget.requests + 1 ≤ budget.limits.maxRequests

/-- A rejection keeps the budget or poisons it, and which of the two it does can
be read off the error. -/
structure Rejected (before after : Budget) (error : LimitError) : Prop where
  limits_eq : after.limits = before.limits
  kept_or_failed : after = before ∨ after.failed = true
  kept : error ∈ [.pendingResponse, .invalidResourceRef, .missingApiVersion,
    .resourceConflict, .responseWithoutRequest] → after = before
  absorbed : before.failed = true → after = before

theorem Rejected.refl (budget : Budget) (error : LimitError) : Rejected budget budget error :=
  ⟨rfl, .inl rfl, fun _ => rfl, fun _ => rfl⟩

theorem Rejected.poisoned {before after : Budget} {error : LimitError}
    (hlimits : after.limits = before.limits) (hfailed : after.failed = true)
    (hlive : before.failed = false)
    (herror : error ∉ [.pendingResponse, .invalidResourceRef, .missingApiVersion,
      .resourceConflict, .responseWithoutRequest]) : Rejected before after error :=
  ⟨hlimits, .inr hfailed, fun h => absurd h herror, fun h => by simp [hlive] at h⟩

theorem Rejected.sound {before after : Budget} {error : LimitError}
    (h : Rejected before after error) (hsound : before.Sound) : after.Sound := by
  rcases h.kept_or_failed with rfl | hfailed
  · exact hsound
  · exact sound_of_failed hfailed

theorem checkTime_rejected {budget : Budget} {elapsed : Duration}
    (h : ¬ budget.Live elapsed) :
    ∃ error after, budget.checkTime elapsed = (.error error, after) ∧
      (error = .exhausted ∨ error = .elapsed) ∧ after.failed = true ∧
      Rejected budget after error := by
  obtain ⟨error, after, hcheck, herror, hfailed, hlimits, habsorbed⟩ :=
    checkTime_of_not_live h
  refine ⟨error, after, hcheck, herror, hfailed, hlimits, .inr hfailed, ?_,
    fun h => (habsorbed h).2⟩
  rcases herror with rfl | rfl <;> simp

theorem recordPending_of_le {budget : Budget} {pending : PendingRequest}
    (h : budget.requests + 1 ≤ budget.limits.maxRequests) :
    budget.recordPending pending =
      (.ok (), { budget with requests := budget.requests + 1, pending := some pending }) := by
  have hfits := budget.limits.fits.1
  rw [recordPending, checkedAdd_of_le (by omega)]
  simp only
  rw [if_neg (by omega)]

theorem recordPending_of_gt {budget : Budget} {pending : PendingRequest}
    (h : ¬ budget.requests + 1 ≤ budget.limits.maxRequests) :
    ∃ after, budget.recordPending pending = (.error .requests, after) ∧
      after.limits = budget.limits ∧ after.failed = true := by
  rw [recordPending]
  cases hsum : checkedAdd budget.requests 1 with
  | none => exact ⟨_, rfl, rfl, rfl⟩
  | some requests =>
      obtain ⟨rfl, -⟩ := checkedAdd_eq_some_iff.mp hsum
      simp only
      rw [if_pos (by omega)]
      exact ⟨_, rfl, rfl, rfl⟩

theorem recordInspected_of_le {budget : Budget} {reference : ResourceRef}
    {object : RootKind × NativeId} (hconflict : budget.conflicts reference object = false)
    (h : budget.expansions + 1 ≤ budget.limits.maxExpansions) :
    budget.recordInspected reference object =
      (.ok (), { budget with
        expansions := budget.expansions + 1
        resourceIds := orInsert budget.resourceIds reference object
        nativeRefs := orInsert budget.nativeRefs object reference }) := by
  have hfits := budget.limits.fits.2.2.1
  rw [recordInspected, if_neg (by simp [hconflict]), checkedAdd_of_le (by omega)]
  simp only
  rw [if_neg (by omega)]

theorem recordInspected_of_gt {budget : Budget} {reference : ResourceRef}
    {object : RootKind × NativeId} (hconflict : budget.conflicts reference object = false)
    (h : ¬ budget.expansions + 1 ≤ budget.limits.maxExpansions) :
    budget.recordInspected reference object = (.error .expansions, budget.poison) := by
  rw [recordInspected, if_neg (by simp [hconflict])]
  cases hsum : checkedAdd budget.expansions 1 with
  | none => rfl
  | some expansions =>
      obtain ⟨rfl, -⟩ := checkedAdd_eq_some_iff.mp hsum
      simp only
      rw [if_pos (by omega)]

theorem recordRequest_eq_recordChecked {budget : Budget} {elapsed : Duration}
    {request : ReadRequest} {resource : Option ResourceRef} {apiVersion : Option ApiVersion}
    (hlive : budget.Live elapsed) (hidle : budget.pending = none)
    (hreferenced : request.inspected.isSome = resource.isSome)
    (hversioned : request = .daemonVersion ∨ apiVersion.isSome = true) :
    budget.recordRequest elapsed request resource apiVersion =
      budget.recordChecked request resource apiVersion := by
  have hversion : ¬ (request ≠ .daemonVersion ∧ apiVersion.isNone = true) := by
    rintro ⟨hrequest, hnone⟩
    rcases hversioned with heq | hsome
    · exact hrequest heq
    · simp [Option.isNone_iff_eq_none.mp hnone] at hsome
  rw [recordRequest, checkTime_of_live hlive]
  simp only
  rw [if_neg (by simp [hidle]), if_neg (by simp [hreferenced]), if_neg hversion]

theorem recordChecked_some {budget : Budget} {request : ReadRequest}
    {reference : ResourceRef} {object : RootKind × NativeId}
    {apiVersion : Option ApiVersion} (hobject : request.inspected = some object) :
    budget.recordChecked request (some reference) apiVersion =
      match budget.recordInspected reference object with
      | (.error error, self) => (.error error, self)
      | (.ok (), self) => self.recordPending ⟨request, some reference, apiVersion⟩ := by
  unfold recordChecked
  generalize request.inspected = found at hobject ⊢
  subst hobject
  rfl

theorem recordChecked_none {budget : Budget} {request : ReadRequest}
    {apiVersion : Option ApiVersion} :
    budget.recordChecked request none apiVersion =
      budget.recordPending ⟨request, none, apiVersion⟩ := by
  simp only [recordChecked]

theorem recordRequest_of_requestable {budget : Budget} {elapsed : Duration}
    {request : ReadRequest} {resource : Option ResourceRef} {apiVersion : Option ApiVersion}
    (h : budget.Requestable elapsed request resource apiVersion) :
    budget.recordRequest elapsed request resource apiVersion =
      (.ok (), budget.requested request resource apiVersion) := by
  rw [recordRequest_eq_recordChecked h.live h.idle h.referenced h.versioned]
  have hreferenced := h.referenced
  cases hobject : request.inspected with
  | none =>
      obtain rfl : resource = none := by simpa [hobject] using hreferenced.symm
      rw [recordChecked_none, recordPending_of_le h.requests_le]
      rfl
  | some object =>
      rw [hobject, Option.isSome_some] at hreferenced
      obtain ⟨reference, rfl⟩ := Option.isSome_iff_exists.mp hreferenced.symm
      rw [recordChecked_some hobject, recordInspected_of_le
        (h.consistent reference object rfl hobject) (h.expansions_le (by simp [hobject]))]
      have hpending := @recordPending_of_le
        { budget with
          expansions := budget.expansions + 1
          resourceIds := orInsert budget.resourceIds reference object
          nativeRefs := orInsert budget.nativeRefs object reference }
        ⟨request, some reference, apiVersion⟩ h.requests_le
      simpa only [requested, register, hobject] using hpending

theorem recordChecked_rejected {budget : Budget} {request : ReadRequest}
    {resource : Option ResourceRef} {apiVersion : Option ApiVersion}
    (hlive : budget.failed = false)
    (hreferenced : request.inspected.isSome = resource.isSome)
    (hexcess : ¬ budget.requests + 1 ≤ budget.limits.maxRequests ∨
      request.inspected.isSome = true ∧
        ¬ budget.expansions + 1 ≤ budget.limits.maxExpansions ∨
      ∃ reference object, resource = some reference ∧ request.inspected = some object ∧
        budget.conflicts reference object = true) :
    ∃ error after, budget.recordChecked request resource apiVersion = (.error error, after) ∧
      Rejected budget after error := by
  cases hobject : request.inspected with
  | none =>
      obtain rfl : resource = none := by simpa [hobject] using hreferenced.symm
      have hrequests : ¬ budget.requests + 1 ≤ budget.limits.maxRequests := by
        simpa [hobject] using hexcess
      obtain ⟨after, hpending, hlimits, hfailed⟩ :=
        @recordPending_of_gt budget ⟨request, none, apiVersion⟩ hrequests
      exact ⟨_, _, (recordChecked_none).trans hpending,
        .poisoned hlimits hfailed hlive (by simp)⟩
  | some object =>
      rw [hobject, Option.isSome_some] at hreferenced
      obtain ⟨reference, rfl⟩ := Option.isSome_iff_exists.mp hreferenced.symm
      rw [recordChecked_some hobject]
      by_cases hconflict : budget.conflicts reference object = true
      · rw [recordInspected, if_pos hconflict]
        exact ⟨_, _, rfl, .refl ..⟩
      rw [Bool.not_eq_true] at hconflict
      by_cases hexpansions : budget.expansions + 1 ≤ budget.limits.maxExpansions
      · -- the expansion is already counted when the request counter overflows
        have hrequests : ¬ budget.requests + 1 ≤ budget.limits.maxRequests := by
          simpa [hobject, hexpansions, hconflict] using hexcess
        rw [recordInspected_of_le hconflict hexpansions]
        obtain ⟨after, hpending, hlimits, hfailed⟩ := @recordPending_of_gt
          { budget with
            expansions := budget.expansions + 1
            resourceIds := orInsert budget.resourceIds reference object
            nativeRefs := orInsert budget.nativeRefs object reference }
          ⟨request, some reference, apiVersion⟩ hrequests
        exact ⟨_, _, hpending, .poisoned hlimits hfailed hlive (by simp)⟩
      · rw [recordInspected_of_gt hconflict hexpansions]
        exact ⟨_, _, rfl, .poisoned rfl rfl hlive (by simp)⟩

/-- A request is either accepted with the budget `requested`, or rejected. -/
theorem recordRequest_cases (budget : Budget) (elapsed : Duration)
    (request : ReadRequest) (resource : Option ResourceRef)
    (apiVersion : Option ApiVersion) :
    (budget.Requestable elapsed request resource apiVersion ∧
      budget.recordRequest elapsed request resource apiVersion =
        (.ok (), budget.requested request resource apiVersion)) ∨
    ∃ error after,
      budget.recordRequest elapsed request resource apiVersion = (.error error, after) ∧
        Rejected budget after error := by
  by_cases hlive : budget.Live elapsed
  swap
  · obtain ⟨error, after, hcheck, -, -, hrejected⟩ := checkTime_rejected hlive
    exact .inr ⟨error, after, by rw [recordRequest, hcheck], hrejected⟩
  by_cases hidle : budget.pending = none
  swap
  · refine .inr ⟨.pendingResponse, budget, ?_, .refl ..⟩
    rw [recordRequest, checkTime_of_live hlive]
    simp only
    rw [if_pos (Option.isSome_iff_ne_none.mpr hidle)]
  by_cases hreferenced : request.inspected.isSome = resource.isSome
  swap
  · refine .inr ⟨.invalidResourceRef, budget, ?_, .refl ..⟩
    rw [recordRequest, checkTime_of_live hlive]
    simp only
    rw [if_neg (by simp [hidle]), if_pos hreferenced]
  by_cases hversioned : request = .daemonVersion ∨ apiVersion.isSome = true
  swap
  · rw [not_or, Bool.not_eq_true, Option.isSome_eq_false_iff] at hversioned
    refine .inr ⟨.missingApiVersion, budget, ?_, .refl ..⟩
    rw [recordRequest, checkTime_of_live hlive]
    simp only
    rw [if_neg (by simp [hidle]), if_neg (by simp [hreferenced]), if_pos hversioned]
  by_cases hrequestable : budget.Requestable elapsed request resource apiVersion
  · exact .inl ⟨hrequestable, recordRequest_of_requestable hrequestable⟩
  · right
    rw [recordRequest_eq_recordChecked hlive hidle hreferenced hversioned]
    refine recordChecked_rejected hlive.1 hreferenced ?_
    by_contra hwithin
    push Not at hwithin
    obtain ⟨hrequests, hexpansions, hconsistent⟩ := hwithin
    exact hrequestable ⟨hlive, hidle, hreferenced, hversioned, by
      intro reference object hreference hobject
      simpa using hconsistent reference object hreference hobject, hexpansions, hrequests⟩

theorem recordRequest_ok_iff {budget after : Budget} {elapsed : Duration}
    {request : ReadRequest} {resource : Option ResourceRef} {apiVersion : Option ApiVersion} :
    budget.recordRequest elapsed request resource apiVersion = (.ok (), after) ↔
      budget.Requestable elapsed request resource apiVersion ∧
        after = budget.requested request resource apiVersion := by
  constructor
  · intro h
    rcases budget.recordRequest_cases elapsed request resource apiVersion with
      ⟨hrequestable, heq⟩ | ⟨error, rejected, heq, -⟩
    · rw [heq] at h
      exact ⟨hrequestable, by simpa using h.symm⟩
    · simp [heq] at h
  · rintro ⟨hrequestable, rfl⟩
    exact recordRequest_of_requestable hrequestable

/-- The budget that an accepted selection leaves. -/
def selected (budget : Budget) (count : Nat) : Budget :=
  { budget with selectedResources := budget.selectedResources + count }

theorem recordSelection_of_le {budget : Budget} {elapsed : Duration} {count : Nat}
    (hlive : budget.Live elapsed)
    (h : budget.selectedResources + count ≤ budget.limits.maxSelectedResources) :
    budget.recordSelection elapsed count = (.ok (), budget.selected count) := by
  have hfits := budget.limits.fits.2.1
  rw [recordSelection, checkTime_of_live hlive]
  simp only
  rw [checkedAdd_of_le (by omega)]
  simp only
  rw [if_neg (by omega), selected]

theorem recordSelection_rejected {budget : Budget} {elapsed : Duration} {count : Nat}
    (h : ¬ (budget.Live elapsed ∧
      budget.selectedResources + count ≤ budget.limits.maxSelectedResources)) :
    ∃ error after, budget.recordSelection elapsed count = (.error error, after) ∧
      Rejected budget after error := by
  by_cases hlive : budget.Live elapsed
  swap
  · obtain ⟨error, after, hcheck, -, -, hrejected⟩ := checkTime_rejected hlive
    exact ⟨error, after, by rw [recordSelection, hcheck], hrejected⟩
  have hcount : ¬ budget.selectedResources + count ≤ budget.limits.maxSelectedResources :=
    fun hle => h ⟨hlive, hle⟩
  rw [recordSelection, checkTime_of_live hlive]
  simp only
  cases hsum : checkedAdd budget.selectedResources count with
  | none => exact ⟨_, _, rfl, .poisoned rfl rfl hlive.1 (by simp)⟩
  | some selectedResources =>
      obtain ⟨rfl, -⟩ := checkedAdd_eq_some_iff.mp hsum
      simp only
      rw [if_pos (by omega)]
      exact ⟨_, _, rfl, .poisoned rfl rfl hlive.1 (by simp)⟩

theorem recordSelection_ok_iff {budget after : Budget} {elapsed : Duration} {count : Nat} :
    budget.recordSelection elapsed count = (.ok (), after) ↔
      (budget.Live elapsed ∧
        budget.selectedResources + count ≤ budget.limits.maxSelectedResources) ∧
      after = budget.selected count := by
  by_cases h : budget.Live elapsed ∧
      budget.selectedResources + count ≤ budget.limits.maxSelectedResources
  · rw [recordSelection_of_le h.1 h.2]
    simp [h, eq_comm]
  · obtain ⟨error, rejected, heq, -⟩ := recordSelection_rejected h
    simp [heq, h]

theorem Sound.selected {budget : Budget} {count : Nat} (hsound : budget.Sound)
    (h : budget.selectedResources + count ≤ budget.limits.maxSelectedResources) :
    (budget.selected count).Sound :=
  fun hlive => { hsound hlive with selectedResources_le := h }

theorem recordExpansion_of_le {budget : Budget} {elapsed : Duration} {count : Nat}
    (hlive : budget.Live elapsed)
    (h : budget.expansions + count ≤ budget.limits.maxExpansions) :
    budget.recordExpansion elapsed count =
      (.ok (), { budget with expansions := budget.expansions + count }) := by
  have hfits := budget.limits.fits.2.2.1
  rw [recordExpansion, checkTime_of_live hlive]
  simp only
  rw [checkedAdd_of_le (by omega)]
  simp only
  rw [if_neg (by omega)]

theorem recordExpansion_rejected {budget : Budget} {elapsed : Duration} {count : Nat}
    (h : ¬ (budget.Live elapsed ∧
      budget.expansions + count ≤ budget.limits.maxExpansions)) :
    ∃ error after, budget.recordExpansion elapsed count = (.error error, after) ∧
      Rejected budget after error := by
  by_cases hlive : budget.Live elapsed
  swap
  · obtain ⟨error, after, hcheck, -, -, hrejected⟩ := checkTime_rejected hlive
    exact ⟨error, after, by rw [recordExpansion, hcheck], hrejected⟩
  have hcount : ¬ budget.expansions + count ≤ budget.limits.maxExpansions :=
    fun hle => h ⟨hlive, hle⟩
  rw [recordExpansion, checkTime_of_live hlive]
  simp only
  cases hsum : checkedAdd budget.expansions count with
  | none => exact ⟨_, _, rfl, .poisoned rfl rfl hlive.1 (by simp)⟩
  | some expansions =>
      obtain ⟨rfl, -⟩ := checkedAdd_eq_some_iff.mp hsum
      simp only
      rw [if_pos (by omega)]
      exact ⟨_, _, rfl, .poisoned rfl rfl hlive.1 (by simp)⟩

/-- The budget that an accepted response leaves. -/
def responded (budget : Budget) (pending : PendingRequest) (status : HttpStatus)
    (body : ProtectedValue) : Budget :=
  { budget with
    bytesRead := budget.bytesRead + body.length
    pending := none
    exchanges := budget.exchanges ++
      [⟨pending.request, pending.resource, pending.apiVersion, status, body⟩] }

/-- Everything `read_response` checks. -/
structure Respondable (budget : Budget) (before after : Duration) (pending : PendingRequest)
    (reader : Reader) : Prop where
  live : budget.Live before
  live_after : after ≤ budget.limits.maxElapsed
  awaited : budget.pending = some pending
  completes : reader.fails = false
  body_le : reader.data.length ≤ budget.allowance

theorem Accounted.allowance_lt {budget : Budget} (h : budget.Accounted) :
    budget.allowance < usizeMax := by
  have hvalid := h.valid
  have hfits := budget.limits.fits.2.2.2.1
  rw [Limits.Valid, Limits.validate] at hvalid
  split at hvalid
  · simp at hvalid
  · rw [allowance]
    omega

theorem Accounted.bytesRead_add_le {budget : Budget} (h : budget.Accounted) {size : Nat}
    (hsize : size ≤ budget.allowance) :
    budget.bytesRead + size ≤ budget.limits.maxTotalBytes := by
  have := h.bytesRead_le
  rw [allowance] at hsize
  omega

theorem readResponse_of_respondable {budget : Budget} {before after : Duration}
    (status : HttpStatus) {pending : PendingRequest} {reader : Reader}
    (hsound : budget.Sound) (h : budget.Respondable before after pending reader) :
    budget.readResponse before after status reader =
      (.ok reader.data, budget.responded pending status reader.data) := by
  have haccounted := hsound h.live.1
  have hallowance := haccounted.allowance_lt
  have hbody := h.body_le
  have htotal := haccounted.bytesRead_add_le hbody
  have hfits := budget.limits.fits.2.2.2.2
  have htake : reader.takeToEnd (min (budget.allowance + 1) usizeMax) =
      (reader.data, false) := by
    rw [Reader.takeToEnd, List.take_of_length_le (by omega), h.completes, Bool.false_and]
  have hbytes : min (budget.bytesRead + reader.data.length) usizeMax =
      budget.bytesRead + reader.data.length := Nat.min_eq_left (by omega)
  have hlive : ({ budget with
      bytesRead := budget.bytesRead + reader.data.length } : Budget).Live after :=
    ⟨h.live.1, h.live_after⟩
  rw [readResponse, checkTime_of_live h.live]
  simp only [h.awaited, Option.isNone_some, Bool.false_eq_true, if_false, htake, hbytes]
  rw [← h.awaited, checkTime_of_live hlive]
  simp only [h.awaited]
  rw [if_neg (Nat.not_lt.mpr hbody), responded]

theorem readResponse_rejected {budget : Budget} {before after : Duration}
    (status : HttpStatus) {reader : Reader} (hsound : budget.Sound)
    (h : ∀ pending, ¬ budget.Respondable before after pending reader) :
    ∃ error rejected, budget.readResponse before after status reader =
        (.error error, rejected) ∧ Rejected budget rejected error := by
  by_cases hlive : budget.Live before
  swap
  · obtain ⟨error, rejected, hcheck, -, -, hrejected⟩ := checkTime_rejected hlive
    exact ⟨error, rejected, by rw [readResponse, hcheck], hrejected⟩
  rw [readResponse, checkTime_of_live hlive]
  cases hpending : budget.pending with
  | none =>
      simp only [hpending, Option.isNone_none, if_true]
      exact ⟨_, _, rfl, .refl ..⟩
  | some pending =>
      simp only [hpending, Option.isNone_some, Bool.false_eq_true, if_false]
      by_cases hfailure : (reader.takeToEnd (min (budget.allowance + 1) usizeMax)).2 = true
      · rw [if_pos hfailure]
        exact ⟨_, _, rfl, .poisoned rfl rfl hlive.1 (by simp)⟩
      rw [if_neg hfailure]
      set taken := (reader.takeToEnd (min (budget.allowance + 1) usizeMax)).1 with htaken
      rw [← hpending]
      set counted : Budget := { budget with
        bytesRead := min (budget.bytesRead + taken.length) usizeMax } with hcounted
      by_cases hlate : counted.Live after
      · rw [checkTime_of_live hlate]
        simp only [hpending, hcounted]
        by_cases hbody : taken.length > budget.allowance
        · rw [if_pos hbody]
          exact ⟨_, _, rfl, .poisoned rfl rfl hlive.1 (by simp)⟩
        · -- a body within the allowance was read whole, so the call was respondable
          have hallowance := (hsound hlive.1).allowance_lt
          have hlength : reader.data.length ≤ budget.allowance := by
            rw [htaken, Reader.takeToEnd, List.length_take] at hbody
            omega
          have hcompletes : reader.fails = false := by
            rw [Reader.takeToEnd] at hfailure
            simpa [show reader.data.length < min (budget.allowance + 1) usizeMax by omega]
              using hfailure
          exact absurd ⟨hlive, hlate.2, hpending, hcompletes, hlength⟩ (h pending)
      · obtain ⟨error, rejected, hcheck, herror, hfailed, hrejected⟩ :=
          checkTime_rejected hlate
        rw [hcheck]
        refine ⟨_, _, rfl, .poisoned hrejected.limits_eq hfailed hlive.1 ?_⟩
        rcases herror with rfl | rfl <;> simp

end DockerLens.Acquisition.Budget
