import DockerLens.Acquisition.BudgetInvariant

namespace DockerLens.Acquisition.Budget

open DockerLens.Text
open DockerLens.Observation
open DockerLens.Version
open DockerLens.Evidence

@[simp] theorem register_limits (budget : Budget) (request : ReadRequest)
    (resource : Option ResourceRef) :
    (budget.register request resource).limits = budget.limits := by
  unfold register
  split <;> rfl

@[simp] theorem register_selectedResources (budget : Budget) (request : ReadRequest)
    (resource : Option ResourceRef) :
    (budget.register request resource).selectedResources = budget.selectedResources := by
  unfold register
  split <;> rfl

@[simp] theorem register_bytesRead (budget : Budget) (request : ReadRequest)
    (resource : Option ResourceRef) :
    (budget.register request resource).bytesRead = budget.bytesRead := by
  unfold register
  split <;> rfl

@[simp] theorem register_exchanges (budget : Budget) (request : ReadRequest)
    (resource : Option ResourceRef) :
    (budget.register request resource).exchanges = budget.exchanges := by
  unfold register
  split <;> rfl

@[simp] theorem register_failed (budget : Budget) (request : ReadRequest)
    (resource : Option ResourceRef) :
    (budget.register request resource).failed = budget.failed := by
  unfold register
  split <;> rfl

@[simp] theorem register_observationId (budget : Budget) (request : ReadRequest)
    (resource : Option ResourceRef) :
    (budget.register request resource).observationId = budget.observationId := by
  unfold register
  split <;> rfl

theorem register_expansions {budget : Budget} {request : ReadRequest}
    {resource : Option ResourceRef}
    (hreferenced : request.inspected.isSome = resource.isSome) :
    (budget.register request resource).expansions = budget.expansions + cost request := by
  unfold register cost
  split
  · next hobject => simp [hobject]
  · next hnone =>
      cases hobject : request.inspected with
      | none => simp
      | some object =>
          rw [hobject, Option.isSome_some] at hreferenced
          obtain ⟨reference, rfl⟩ := Option.isSome_iff_exists.mp hreferenced.symm
          exact absurd hobject (hnone reference object rfl)

theorem Requestable.sound {budget : Budget} {elapsed : Duration} {request : ReadRequest}
    {resource : Option ResourceRef} {apiVersion : Option ApiVersion}
    (h : budget.Requestable elapsed request resource apiVersion) (hsound : budget.Sound) :
    (budget.requested request resource apiVersion).Sound := by
  intro _
  have haccounted := hsound h.live.1
  have hexpansions := @register_expansions budget _ _ h.referenced
  refine ⟨?_, ?_, ?_, ?_, ?_, ?_, ?_, ?_⟩
  · simpa [requested] using haccounted.valid
  · simpa [requested] using h.requests_le
  · simpa [requested] using haccounted.selectedResources_le
  · have hlimit := h.expansions_le
    have hle := haccounted.expansions_le
    simp only [requested, hexpansions, register_limits, cost]
    split
    · next hinspected => exact hlimit hinspected
    · exact hle
  · simpa [requested] using haccounted.bytesRead_le
  · simp [requested, haccounted.requests_eq, h.idle]
  · simpa [requested] using haccounted.bytesRead_eq
  · simpa [requested] using haccounted.body_le

theorem Respondable.sound {budget : Budget} {before after : Duration}
    {status : HttpStatus} {pending : PendingRequest} {reader : Reader}
    (h : budget.Respondable before after pending reader) (hsound : budget.Sound) :
    (budget.responded pending status reader.data).Sound := by
  intro _
  have haccounted := hsound h.live.1
  refine ⟨haccounted.valid, haccounted.requests_le, haccounted.selectedResources_le,
    haccounted.expansions_le, haccounted.bytesRead_add_le h.body_le, ?_, ?_, ?_⟩
  · simp [responded, haccounted.requests_eq, h.awaited]
  · simp [responded, haccounted.bytesRead_eq]
  · intro exchange hexchange
    simp only [responded, List.mem_append, List.mem_singleton] at hexchange
    rcases hexchange with hold | rfl
    · exact haccounted.body_le exchange hold
    · exact Nat.le_trans h.body_le (Nat.min_le_left _ _)

/-- The budgets that an accepted call leaves. -/
inductive Stepped (budget : Budget) : Budget → Prop
  | requested {elapsed : Duration} {request : ReadRequest} {resource : Option ResourceRef}
      {apiVersion : Option ApiVersion}
      (h : budget.Requestable elapsed request resource apiVersion) :
      Stepped budget (budget.requested request resource apiVersion)
  | selected {elapsed : Duration} {count : Nat} (hlive : budget.Live elapsed)
      (h : budget.selectedResources + count ≤ budget.limits.maxSelectedResources) :
      Stepped budget (budget.selected count)
  | expanded {elapsed : Duration} {count : Nat} (hlive : budget.Live elapsed)
      (h : budget.expansions + count ≤ budget.limits.maxExpansions) :
      Stepped budget { budget with expansions := budget.expansions + count }
  | responded {before after : Duration} {pending : PendingRequest} {reader : Reader}
      {status : HttpStatus} (h : budget.Respondable before after pending reader) :
      Stepped budget (budget.responded pending status reader.data)

theorem Stepped.live {budget after : Budget} (h : Stepped budget after) :
    budget.failed = false := by
  cases h with
  | requested h => exact h.live.1
  | selected hlive _ => exact hlive.1
  | expanded hlive _ => exact hlive.1
  | responded h => exact h.live.1

theorem Stepped.sound {budget after : Budget} (h : Stepped budget after)
    (hsound : budget.Sound) : after.Sound := by
  cases h with
  | requested h => exact h.sound hsound
  | selected _ h => exact hsound.selected h
  | expanded hlive h => exact fun _ => { hsound hlive.1 with expansions_le := h }
  | responded h => exact h.sound hsound

theorem Stepped.limits {budget after : Budget} (h : Stepped budget after) :
    after.limits = budget.limits := by
  cases h with
  | requested h => simp [Budget.requested]
  | selected _ h => rfl
  | expanded _ h => rfl
  | responded h => rfl

/-- A call is accepted with one of the budgets above, or it is rejected. -/
theorem call_steps {budget : Budget} (hsound : budget.Sound) (next : BudgetCall) :
    ((budget.call next).1 = none ∧ Stepped budget (budget.call next).2) ∨
    ∃ error, (budget.call next).1 = some error ∧
      Rejected budget (budget.call next).2 error := by
  cases next with
  | recordRequest elapsed request resource apiVersion =>
      rw [call]
      rcases budget.recordRequest_cases elapsed request resource apiVersion with
        ⟨hrequestable, heq⟩ | ⟨error, after, heq, hrejected⟩
      · rw [heq]
        exact .inl ⟨rfl, .requested hrequestable⟩
      · rw [heq]
        exact .inr ⟨error, rfl, hrejected⟩
  | recordSelection elapsed count =>
      rw [call]
      by_cases h : budget.Live elapsed ∧
          budget.selectedResources + count ≤ budget.limits.maxSelectedResources
      · rw [recordSelection_of_le h.1 h.2]
        exact .inl ⟨rfl, .selected h.1 h.2⟩
      · obtain ⟨error, after, heq, hrejected⟩ := recordSelection_rejected h
        rw [heq]
        exact .inr ⟨error, rfl, hrejected⟩
  | recordExpansion elapsed count =>
      rw [call]
      by_cases h : budget.Live elapsed ∧
          budget.expansions + count ≤ budget.limits.maxExpansions
      · rw [recordExpansion_of_le h.1 h.2]
        exact .inl ⟨rfl, .expanded h.1 h.2⟩
      · obtain ⟨error, after, heq, hrejected⟩ := recordExpansion_rejected h
        rw [heq]
        exact .inr ⟨error, rfl, hrejected⟩
  | readResponse before after status reader =>
      rw [call]
      by_cases h : ∃ pending, budget.Respondable before after pending reader
      · obtain ⟨pending, h⟩ := h
        rw [readResponse_of_respondable status hsound h]
        exact .inl ⟨rfl, .responded h⟩
      · obtain ⟨error, rejected, heq, hrejected⟩ :=
          readResponse_rejected status hsound (not_exists.mp h)
        rw [heq]
        exact .inr ⟨error, rfl, hrejected⟩

theorem call_sound {budget : Budget} (hsound : budget.Sound) (next : BudgetCall) :
    (budget.call next).2.Sound ∧ (budget.call next).2.limits = budget.limits := by
  rcases call_steps hsound next with ⟨-, hstep⟩ | ⟨error, -, hrejected⟩
  · exact ⟨hstep.sound hsound, hstep.limits⟩
  · exact ⟨hrejected.sound hsound, hrejected.limits_eq⟩

theorem run_sound {budget : Budget} (hsound : budget.Sound) (calls : List BudgetCall) :
    (budget.run calls).Sound ∧ (budget.run calls).limits = budget.limits := by
  induction calls generalizing budget with
  | nil => exact ⟨hsound, rfl⟩
  | cons next calls ih =>
      obtain ⟨hafter, hlimits⟩ := call_sound hsound next
      obtain ⟨hrun, hrunLimits⟩ := ih hafter
      exact ⟨hrun, hrunLimits.trans hlimits⟩

theorem call_of_failed {budget : Budget} (hfailed : budget.failed = true)
    (next : BudgetCall) :
    (budget.call next).1 ≠ none ∧ (budget.call next).2 = budget := by
  rcases call_steps (sound_of_failed hfailed) next with
    ⟨-, hstep⟩ | ⟨error, herror, hrejected⟩
  · have hlive := hstep.live
    simp [hfailed] at hlive
  · exact ⟨by simp [herror], hrejected.absorbed hfailed⟩

theorem run_of_failed {budget : Budget} (hfailed : budget.failed = true)
    (calls : List BudgetCall) : budget.run calls = budget := by
  induction calls with
  | nil => rfl
  | cons next calls ih =>
      rw [run, List.foldl_cons, (call_of_failed hfailed next).2]
      exact ih

theorem intoCapture_ne_captureAccounting {budget : Budget} (hsound : budget.Sound)
    (elapsed : Duration) : budget.intoCapture elapsed ≠ .error .captureAccounting := by
  rw [intoCapture]
  by_cases hfailed : budget.failed = true
  · simp [hfailed]
  rw [if_neg hfailed]
  split
  · simp
  split
  · simp
  · next hcomplete =>
      rw [not_or, Bool.not_eq_true, Option.isSome_eq_false_iff] at hcomplete
      have haccounted := hsound (by simpa using hfailed)
      have hfits := budget.limits.fits.2.2.2.2
      have hbytes := haccounted.bytesRead_le
      have hpending := Option.isNone_iff_eq_none.mp hcomplete.1
      obtain ⟨capture, hcapture⟩ := @Capture.fromCompleted_eq_ok budget.observationId
        budget.counts budget.exchanges
        (by simpa [counts, hpending] using haccounted.requests_eq) haccounted.bytesRead_eq
        (by simp only [counts]; omega)
      simp [hcapture]

/-- The budget as a state machine: over every sequence of calls, a live budget is
accounted for, failure is absorbing, the five argument errors change nothing, and
completion never finds its own accounting wrong. -/
theorem run_accounted {limits : Limits} {fresh : Option ObservationId} {budget : Budget}
    (h : new limits fresh = .ok budget) (calls : List BudgetCall) :
    (budget.run calls).limits = limits ∧
    ((budget.run calls).failed = false → (budget.run calls).Accounted) ∧
    ((budget.run calls).failed = true →
      (∀ more, budget.run (calls ++ more) = budget.run calls) ∧
      (∀ next, ((budget.run calls).call next).1 ≠ none ∧
        ((budget.run calls).call next).2 = budget.run calls) ∧
      ∀ elapsed, ∃ error, (budget.run calls).intoCapture elapsed = .error error) ∧
    (∀ next error, ((budget.run calls).call next).1 = some error →
      error ∈ [.pendingResponse, .invalidResourceRef, .missingApiVersion,
        .resourceConflict, .responseWithoutRequest] →
      ((budget.run calls).call next).2 = budget.run calls) ∧
    ∀ elapsed, (budget.run calls).intoCapture elapsed ≠ .error .captureAccounting := by
  obtain ⟨hlimits, hnew⟩ := sound_new h
  obtain ⟨hsound, hrunLimits⟩ := run_sound hnew calls
  refine ⟨hrunLimits.trans hlimits, hsound, fun hfailed => ⟨?_, ?_, ?_⟩, ?_,
    intoCapture_ne_captureAccounting hsound⟩
  · intro more
    rw [run, List.foldl_append]
    exact run_of_failed hfailed more
  · exact call_of_failed hfailed
  · intro elapsed
    exact ⟨.exhausted, by rw [intoCapture, if_pos hfailed]⟩
  · intro next error herror hmember
    rcases call_steps hsound next with ⟨hnone, -⟩ | ⟨error', herror', hrejected⟩
    · simp [hnone] at herror
    · rw [herror', Option.some.injEq] at herror
      exact hrejected.kept (herror ▸ hmember)

/-- Limits of one request with a one-byte body. -/
def tightLimits : Limits where
  maxRequests := 1
  maxSelectedResources := 1
  maxExpansions := 1
  maxResponseBytes := 1
  maxTotalBytes := 1
  maxElapsed := 1
  fits := by decide

def tightBudget : Budget where
  observationId := ⟨1⟩
  limits := tightLimits
  requests := 0
  selectedResources := 0
  expansions := 0
  bytesRead := 0
  pending := none
  exchanges := []
  resourceIds := []
  nativeRefs := []
  failed := false

theorem run_accounted_tight :
    (tightBudget.run [.recordRequest 0 .daemonVersion none none,
      .readResponse 0 0 ⟨200, by decide⟩ ⟨[0, 0], false⟩]).failed = true ∧
    ∀ more, tightBudget.run ([.recordRequest 0 .daemonVersion none none,
        .readResponse 0 0 ⟨200, by decide⟩ ⟨[0, 0], false⟩] ++ more) =
      tightBudget.run [.recordRequest 0 .daemonVersion none none,
        .readResponse 0 0 ⟨200, by decide⟩ ⟨[0, 0], false⟩] := by
  have hfailed : (tightBudget.run [.recordRequest 0 .daemonVersion none none,
      .readResponse 0 0 ⟨200, by decide⟩ ⟨[0, 0], false⟩]).failed = true := by decide
  exact ⟨hfailed,
    ((@run_accounted tightLimits (some ⟨1⟩) tightBudget rfl _).2.2.1 hfailed).1⟩

end DockerLens.Acquisition.Budget
