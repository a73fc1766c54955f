import DockerLens.Collect
import DockerLens.Version.Catalog

namespace DockerLens.Version

open DockerLens.Fold
open DockerLens.Collect

/-- Observed facts that planning can rely on: the release and the API version of the daemon are
known. -/
structure ValidatedCapabilities where
  facts : DaemonFacts
  release_isSome : facts.release.isSome = true
  apiVersion_isSome : facts.apiVersion.isSome = true

/-- The provenance that a state of a capability can have. -/
def provenanceMatches : CapabilityState → FactProvenance → Bool
  | .available, .nativeConformance
  | .unavailable, .nativeConformance
  | .unavailable, .daemonResponse
  | .unknown, .unknown => true
  | _, _ => false

/-- A claim is made for exactly the daemon that was observed, and nothing is claimed without a
scope. -/
def scopeMatches (observed : CapabilityScope) : Option CapabilityScope → CapabilityState → Bool
  | none, .unknown => true
  | some scope, .available | some scope, .unavailable =>
      scope.observationId == observed.observationId && scope.release == observed.release &&
        scope.apiVersion == observed.apiVersion && scope.mode == observed.mode
  | _, _ => false

/-- One turn of the loop over the claims. -/
def checkFact (observed : CapabilityScope) (seen : List Capability) (fact : CapabilityFact) :
    Except CapabilityError (List Capability) := do
  ensure (fact.capability ∉ seen) .duplicateCapability
  ensure (provenanceMatches fact.state fact.provenance = true) .invalidProvenance
  ensure (scopeMatches observed fact.scope fact.state = true) .scopeMismatch
  .ok (seen ++ [fact.capability])

namespace ValidatedCapabilities

def new (facts : DaemonFacts) : Except CapabilityError ValidatedCapabilities :=
  match hrelease : facts.release, hapi : facts.apiVersion with
  | some release, some apiVersion => do
      ensure (facts.mode ≠ .unknown) .missingDaemonIdentity
      ensure (∀ minimum ∈ facts.minimumApiVersion, ¬ apiVersion < minimum) .invalidApiRange
      let _ ← facts.capabilities.foldlM
        (checkFact ⟨facts.observationId, release, apiVersion, facts.mode⟩) []
      .ok ⟨facts, by rw [hrelease]; rfl, by rw [hapi]; rfl⟩
  | _, _ => .error .missingDaemonIdentity

variable (self : ValidatedCapabilities)

def supports (capability : Capability) : Bool :=
  self.facts.capabilities.any fun fact =>
    fact.capability == capability && fact.state == .available

/-- The scope that a graph planned with the facts is for. -/
def scope : CapabilityScope where
  observationId := self.facts.observationId
  release := self.facts.release.get self.release_isSome
  apiVersion := self.facts.apiVersion.get self.apiVersion_isSome
  mode := self.facts.mode

end ValidatedCapabilities

/-- The claims that can be made for a daemon. -/
inductive Claim (observed : CapabilityScope) : CapabilityFact → Prop
  | available (capability : Capability) :
      Claim observed ⟨capability, .available, .nativeConformance, some observed⟩
  | unavailable (capability : Capability) {provenance : FactProvenance}
      (known : provenance ≠ .unknown) :
      Claim observed ⟨capability, .unavailable, provenance, some observed⟩
  | unknown (capability : Capability) : Claim observed ⟨capability, .unknown, .unknown, none⟩

theorem Claim.scope_eq {observed : CapabilityScope} {fact : CapabilityFact}
    (h : Claim observed fact) (hstate : fact.state = .available) : fact.scope = some observed := by
  cases h with
  | available => rfl
  | unavailable | unknown => cases hstate

/-- Facts that are validated. -/
structure Validated (facts : DaemonFacts) (observed : CapabilityScope) : Prop where
  observationId : facts.observationId = observed.observationId
  release : facts.release = some observed.release
  apiVersion : facts.apiVersion = some observed.apiVersion
  mode : facts.mode = observed.mode
  known : observed.mode ≠ .unknown
  minimum : ∀ minimum ∈ facts.minimumApiVersion, ¬ observed.apiVersion < minimum
  nodup : (facts.capabilities.map CapabilityFact.capability).Nodup
  claims : ∀ fact ∈ facts.capabilities, Claim observed fact

theorem scopeMatches_some_iff {observed scope : CapabilityScope} {state : CapabilityState} :
    scopeMatches observed (some scope) state = true ↔ scope = observed ∧ state ≠ .unknown := by
  obtain ⟨observationId, release, apiVersion, mode⟩ := scope
  cases observed
  cases state <;> simp [scopeMatches, and_assoc]

theorem claim_iff {observed : CapabilityScope} {fact : CapabilityFact} :
    (provenanceMatches fact.state fact.provenance = true ∧
      scopeMatches observed fact.scope fact.state = true) ↔ Claim observed fact := by
  obtain ⟨capability, state, provenance, scope⟩ := fact
  constructor
  · rintro ⟨hprovenance, hscope⟩
    cases scope with
    | none =>
        cases state with
        | available | unavailable => cases hscope
        | unknown =>
            cases provenance with
            | unknown => exact .unknown capability
            | daemonResponse | nativeConformance => cases hprovenance
    | some scope =>
        obtain ⟨rfl, hstate⟩ := scopeMatches_some_iff.mp hscope
        cases state with
        | unknown => exact absurd rfl hstate
        | available =>
            cases provenance with
            | nativeConformance => exact .available capability
            | daemonResponse | unknown => cases hprovenance
        | unavailable =>
            cases provenance with
            | nativeConformance | daemonResponse =>
                exact .unavailable capability (by rintro ⟨⟩)
            | unknown => cases hprovenance
  · rintro (_ | @⟨_, provenance, hknown⟩ | _)
    · exact ⟨rfl, scopeMatches_some_iff.mpr ⟨rfl, by rintro ⟨⟩⟩⟩
    · refine ⟨?_, scopeMatches_some_iff.mpr ⟨rfl, by rintro ⟨⟩⟩⟩
      cases provenance with
      | nativeConformance | daemonResponse => rfl
      | unknown => exact absurd rfl hknown
    · exact ⟨rfl, rfl⟩

theorem checkFacts_eq_ok_iff {observed : CapabilityScope} {facts : List CapabilityFact} :
    (∃ seen, facts.foldlM (checkFact observed) [] = .ok seen) ↔
      (∀ fact ∈ facts, Claim observed fact) ∧
        (facts.map CapabilityFact.capability).Nodup := by
  refine foldlM_append_ok_iff (fun _ _ h => h.symm) fun seen fact next => ?_
  rw [checkFact, ← claim_iff]
  simp only [bind_eq_ok_iff, ensure_eq_ok_iff, exists_const, Except.ok.injEq]
  constructor
  · rintro ⟨hfresh, hprovenance, hscope, rfl⟩
    exact ⟨⟨hprovenance, hscope⟩, fun earlier hearlier => ne_of_mem_of_not_mem hearlier hfresh, rfl⟩
  · rintro ⟨⟨hprovenance, hscope⟩, hfresh, rfl⟩
    exact ⟨fun hmem => hfresh _ hmem rfl, hprovenance, hscope, rfl⟩

namespace ValidatedCapabilities

variable {facts : DaemonFacts} {validated : ValidatedCapabilities}

/-- What is validated is the facts themselves, for the daemon that they were observed of. -/
theorem new_eq_ok_iff :
    new facts = .ok validated ↔ validated.facts = facts ∧ Validated facts validated.scope := by
  obtain ⟨observationId, release, apiVersion, minimum, mode, capabilities⟩ := facts
  cases release with
  | none =>
      constructor
      · rintro ⟨⟩
      · rintro ⟨-, h⟩
        cases h.release
  | some release =>
      cases apiVersion with
      | none =>
          constructor
          · rintro ⟨⟩
          · rintro ⟨-, h⟩
            cases h.apiVersion
      | some apiVersion =>
          simp only [new, bind_eq_ok_iff, ensure_eq_ok_iff, exists_const, Except.ok.injEq]
          constructor
          · rintro ⟨hknown, hminimum, seen, hseen, rfl⟩
            obtain ⟨hclaims, hnodup⟩ := checkFacts_eq_ok_iff.mp ⟨seen, hseen⟩
            exact ⟨rfl, rfl, rfl, rfl, rfl, hknown, hminimum, hnodup, hclaims⟩
          · rintro ⟨hfacts, h⟩
            obtain ⟨facts, hrelease, hapi⟩ := validated
            subst hfacts
            obtain ⟨seen, hseen⟩ := checkFacts_eq_ok_iff.mpr ⟨h.claims, h.nodup⟩
            exact ⟨h.known, h.minimum, seen, hseen, rfl⟩

theorem supports_iff (h : new facts = .ok validated) {capability : Capability} :
    validated.supports capability = true ↔
      ⟨capability, .available, .nativeConformance, some validated.scope⟩ ∈ facts.capabilities := by
  obtain ⟨hfacts, hvalidated⟩ := new_eq_ok_iff.mp h
  simp only [supports, hfacts, List.any_eq_true, Bool.and_eq_true, beq_iff_eq]
  constructor
  · rintro ⟨fact, hfact, rfl, hstate⟩
    cases hvalidated.claims fact hfact with
    | available capability => exact hfact
    | unavailable | unknown => cases hstate
  · intro hfact
    exact ⟨_, hfact, rfl, rfl⟩

theorem supports_eq_false {other : DaemonFacts} {elsewhere : ValidatedCapabilities}
    (h : new facts = .ok validated) (helsewhere : new other = .ok elsewhere)
    (hclaims : ∀ fact ∈ other.capabilities, fact ∈ facts.capabilities)
    (hscope : elsewhere.scope ≠ validated.scope) (capability : Capability) :
    elsewhere.supports capability = false := by
  rw [← Bool.not_eq_true, supports_iff helsewhere]
  intro hfact
  have hsame := ((new_eq_ok_iff.mp h).2.claims _ (hclaims _ hfact)).scope_eq rfl
  exact hscope (Option.some_inj.mp hsame)

end ValidatedCapabilities

end DockerLens.Version
