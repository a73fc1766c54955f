import DockerLens.Acquisition.BudgetRun

namespace DockerLens.Acquisition.Budget

open DockerLens.Text
open DockerLens.Observation
open DockerLens.Version
open DockerLens.Evidence

section Entries

variable {κ α : Type} [BEq κ] [LawfulBEq κ] {entries : List (κ × α)} {key : κ} {value : α}

theorem lookup_orInsert_of_some {other : κ} {found : α} (h : entries.lookup other = some found) :
    (orInsert entries key value).lookup other = some found := by
  rw [orInsert]
  split
  · exact h
  · next hnone =>
      have hother : (other == key) = false := by
        rw [beq_eq_false_iff_ne]
        rintro rfl
        simp [h] at hnone
      rw [List.lookup_cons, hother]
      exact h

theorem lookup_orInsert_self (h : ∀ found, entries.lookup key = some found → found = value) :
    (orInsert entries key value).lookup key = some value := by
  rw [orInsert]
  split
  · next hsome =>
      obtain ⟨found, hfound⟩ := Option.isSome_iff_exists.mp hsome
      rw [hfound, h found hfound]
  · simp

end Entries

/-- A request names a reference exactly when it inspects, and that reference is registered
for the object it inspects. -/
structure Registers (budget : Budget) (request : ReadRequest) (resource : Option ResourceRef) :
    Prop where
  referenced : request.inspected.isSome = resource.isSome
  registered : ∀ object reference, request.inspected = some object →
    resource = some reference → budget.resourceIds.lookup reference = some object

theorem Registers.mono {budget after : Budget} {request : ReadRequest}
    {resource : Option ResourceRef} (h : Registers budget request resource)
    (hle : ∀ reference object, budget.resourceIds.lookup reference = some object →
      after.resourceIds.lookup reference = some object) : Registers after request resource :=
  ⟨h.referenced, fun object reference hobject hreference =>
    hle reference object (h.registered object reference hobject hreference)⟩

/-- Every inspection that a budget holds, captured or still pending, is registered. -/
structure Registered (budget : Budget) : Prop where
  exchanges : ∀ exchange ∈ budget.exchanges,
    Registers budget exchange.request exchange.resource
  pending : ∀ pending ∈ budget.pending, Registers budget pending.request pending.resource

theorem registered_new {limits : Limits} {fresh : Option ObservationId} {budget : Budget}
    (h : new limits fresh = .ok budget) : budget.Registered := by
  rw [new] at h
  split at h
  · cases h
  split at h
  · cases h
  · rw [Except.ok.injEq] at h
    subst h
    constructor <;> simp

theorem not_conflicts {budget : Budget} {reference : ResourceRef} {object : RootKind × NativeId}
    (h : budget.conflicts reference object = false) :
    ∀ found, budget.resourceIds.lookup reference = some found → found = object := by
  intro found hfound
  rw [conflicts, Bool.or_eq_false_iff, hfound] at h
  simpa using h.1

theorem register_lookup {budget : Budget} {request : ReadRequest}
    {resource : Option ResourceRef} {reference : ResourceRef} {object : RootKind × NativeId}
    (h : budget.resourceIds.lookup reference = some object) :
    (budget.register request resource).resourceIds.lookup reference = some object := by
  unfold register
  split
  · exact lookup_orInsert_of_some h
  · exact h

theorem Requestable.registered {budget : Budget} {elapsed : Duration} {request : ReadRequest}
    {resource : Option ResourceRef} {apiVersion : Option ApiVersion}
    (h : budget.Requestable elapsed request resource apiVersion) (hbefore : budget.Registered) :
    (budget.requested request resource apiVersion).Registered := by
  have hle : ∀ reference object, budget.resourceIds.lookup reference = some object →
      (budget.requested request resource apiVersion).resourceIds.lookup reference =
        some object := fun reference object hobject => register_lookup hobject
  constructor
  · intro exchange hexchange
    simp only [requested, register_exchanges] at hexchange
    exact (hbefore.exchanges exchange hexchange).mono hle
  · intro pending hpending
    obtain rfl : ⟨request, resource, apiVersion⟩ = pending := by
      simpa [requested] using hpending
    refine ⟨h.referenced, fun object reference hobject hreference => ?_⟩
    dsimp only at hobject hreference
    subst hreference
    have hconsistent := not_conflicts (h.consistent reference object rfl hobject)
    simp only [requested, register, hobject]
    exact lookup_orInsert_self hconsistent

theorem Respondable.registered {budget : Budget} {before after : Duration}
    {status : HttpStatus} {pending : PendingRequest} {reader : Reader}
    (h : budget.Respondable before after pending reader) (hbefore : budget.Registered) :
    (budget.responded pending status reader.data).Registered := by
  constructor
  · intro exchange hexchange
    simp only [responded, List.mem_append, List.mem_singleton] at hexchange
    rcases hexchange with hold | rfl
    · exact (hbefore.exchanges exchange hold).mono fun _ _ hlookup => hlookup
    · exact (hbefore.pending _ h.awaited).mono fun _ _ hlookup => hlookup
  · intro other hother
    simp [responded] at hother

theorem Stepped.registered {budget after : Budget} (h : Stepped budget after)
    (hbefore : budget.Registered) : after.Registered := by
  cases h with
  | requested h => exact h.registered hbefore
  | selected _ _ | expanded _ _ =>
      exact ⟨fun exchange hexchange =>
          (hbefore.exchanges exchange hexchange).mono fun _ _ hlookup => hlookup,
        fun pending hpending =>
          (hbefore.pending pending hpending).mono fun _ _ hlookup => hlookup⟩
  | responded h => exact h.registered hbefore

/-- A budget that has not failed holds registered inspections only. -/
def Registry (budget : Budget) : Prop := budget.failed = false → budget.Registered

theorem call_registry {budget : Budget} (hsound : budget.Sound) (h : budget.Registry)
    (next : BudgetCall) : (budget.call next).2.Registry := by
  rcases call_steps hsound next with ⟨-, hstep⟩ | ⟨error, -, hrejected⟩
  · exact fun _ => hstep.registered (h hstep.live)
  · intro hlive
    rcases hrejected.kept_or_failed with heq | hfailed
    · rw [heq] at hlive ⊢
      exact h hlive
    · simp [hfailed] at hlive

theorem run_registry {budget : Budget} (hsound : budget.Sound) (h : budget.Registry)
    (calls : List BudgetCall) : (budget.run calls).Registry := by
  induction calls generalizing budget with
  | nil => exact h
  | cons next calls ih => exact ih (call_sound hsound next).1 (call_registry hsound h next)

theorem intoCapture_eq_ok {budget : Budget} {elapsed : Duration} {capture : Capture}
    (h : budget.intoCapture elapsed = .ok capture) :
    budget.failed = false ∧ capture.exchanges = budget.exchanges := by
  rw [intoCapture] at h
  split at h
  · cases h
  next hfailed =>
  split at h
  · cases h
  split at h
  · cases h
  split at h
  · cases h
  · next completed hcompleted =>
      rw [Except.ok.injEq] at h
      subst h
      obtain ⟨-, -, rfl⟩ := Capture.fromCompleted_eq_ok_iff.mp hcompleted
      exact ⟨by simpa using hfailed, rfl⟩

theorem completed_registered {limits : Limits} {fresh : Option ObservationId} {budget : Budget}
    {calls : List BudgetCall} {elapsed : Duration} {capture : Capture}
    (hnew : new limits fresh = .ok budget)
    (h : (budget.run calls).intoCapture elapsed = .ok capture) :
    ∃ names : ResourceRef → Option (RootKind × NativeId), ∀ exchange ∈ capture.exchanges,
      exchange.request.inspected.isSome = exchange.resource.isSome ∧
      ∀ object reference, exchange.request.inspected = some object →
        exchange.resource = some reference → names reference = some object := by
  obtain ⟨hlive, hexchanges⟩ := intoCapture_eq_ok h
  have hregistered := run_registry (sound_new hnew).2 (fun _ => registered_new hnew) calls hlive
  refine ⟨fun reference => (budget.run calls).resourceIds.lookup reference, ?_⟩
  intro exchange hexchange
  have hexchange' := hregistered.exchanges exchange (hexchanges ▸ hexchange)
  exact ⟨hexchange'.referenced, hexchange'.registered⟩

end DockerLens.Acquisition.Budget
