import Mathlib.Algebra.Order.Ring.Int
import Mathlib.Tactic.Common
import Mathlib.Data.List.Perm.Basic

namespace DockerLens.Fold

variable {ε α β σ : Type}

theorem bind_eq_ok_iff {x : Except ε α} {f : α → Except ε β} {b : β} :
    (x >>= f) = .ok b ↔ ∃ a, x = .ok a ∧ f a = .ok b := by
  cases x with
  | error => simp [bind, Except.bind]
  | ok a => simp [bind, Except.bind]

@[simp] theorem ok_bind {a : α} {f : α → Except ε β} : ((.ok a : Except ε α) >>= f) = f a := rfl

@[simp] theorem error_bind {error : ε} {f : α → Except ε β} :
    ((.error error : Except ε α) >>= f) = .error error := rfl

theorem map_eq_ok {x : Except ε α} {f : α → β} {b : β} (h : x.map f = .ok b) :
    ∃ a, x = .ok a ∧ b = f a := by
  cases x with
  | error => simp [Except.map] at h
  | ok a => exact ⟨a, rfl, by simpa [Except.map, eq_comm] using h⟩

theorem exists_of_isOk {x : Except ε α} (h : x.isOk = true) : ∃ a, x = .ok a := by
  cases x with
  | error => simp [Except.isOk, Except.toBool] at h
  | ok a => exact ⟨a, rfl⟩

theorem mapM_eq_ok_iff {f : α → Except ε β} {values : List α} {results : List β} :
    values.mapM f = .ok results ↔
      List.Forall₂ (fun value result => f value = .ok result) values results := by
  induction values generalizing results with
  | nil =>
      rw [List.mapM_nil]
      constructor
      · rintro ⟨⟩
        exact .nil
      · rintro ⟨⟩
        rfl
  | cons value values ih =>
      rw [List.mapM_cons, bind_eq_ok_iff]
      constructor
      · rintro ⟨result, hresult, hrest⟩
        rw [bind_eq_ok_iff] at hrest
        obtain ⟨results, hresults, ⟨⟩⟩ := hrest
        exact .cons hresult (ih.mp hresults)
      · rintro (_ | ⟨hresult, hresults⟩)
        refine ⟨_, hresult, ?_⟩
        rw [ih.mpr hresults]
        rfl

theorem exists_mapM {f : α → Except ε β} {related : α → β → Prop} {values : List α}
    (h : ∀ value ∈ values, ∃ result, f value = .ok result ∧ related value result) :
    ∃ results, values.mapM f = .ok results ∧ List.Forall₂ related values results := by
  induction values with
  | nil => exact ⟨[], mapM_eq_ok_iff.mpr .nil, .nil⟩
  | cons value values ih =>
      rw [List.forall_mem_cons] at h
      obtain ⟨result, hresult, hrelated⟩ := h.1
      obtain ⟨results, hresults, hall⟩ := ih h.2
      exact ⟨result :: results, mapM_eq_ok_iff.mpr (.cons hresult (mapM_eq_ok_iff.mp hresults)),
        .cons hrelated hall⟩

/-- Go on under a condition, or fail. -/
def ensure (condition : Prop) [Decidable condition] (error : ε) : Except ε Unit :=
  if condition then .ok () else .error error

@[simp] theorem ensure_eq_ok_iff {condition : Prop} [Decidable condition] {error : ε} {u : Unit} :
    ensure condition error = .ok u ↔ condition := by
  rw [ensure]
  split <;> simp_all

theorem ensure_bind {condition : Prop} [Decidable condition] {error : ε} (h : condition)
    {rest : Unit → Except ε β} : (ensure condition error >>= rest) = rest () := by
  rw [ensure, if_pos h]
  rfl

theorem forM_eq_ok_iff {check : α → Except ε Unit} {values : List α} {u : Unit} :
    values.forM check = .ok u ↔ ∀ value ∈ values, check value = .ok () := by
  induction values with
  | nil => exact ⟨fun _ _ h => absurd h List.not_mem_nil, fun _ => rfl⟩
  | cons value values ih =>
      change (check value >>= fun _ => values.forM check) = .ok u ↔ _
      rw [bind_eq_ok_iff, List.forall_mem_cons, ih]
      exact ⟨fun ⟨_, hvalue, hrest⟩ => ⟨hvalue, hrest⟩, fun h => ⟨(), h⟩⟩

/-- Every error of a computation is of some kind. -/
def Raises (kind : ε → Prop) (x : Except ε α) : Prop := ∀ error, x = .error error → kind error

section Raises

variable {kind : ε → Prop}

theorem Raises.ok {a : α} : Raises kind (.ok a : Except ε α) := fun _ h => by cases h

theorem Raises.error {error : ε} (h : kind error) : Raises kind (.error error : Except ε α) :=
  fun _ heq => by
    cases heq
    exact h

theorem Raises.mono {kind' : ε → Prop} {x : Except ε α} (h : Raises kind x)
    (himp : ∀ error, kind error → kind' error) : Raises kind' x :=
  fun error herror => himp error (h error herror)

theorem Raises.bind {x : Except ε α} {f : α → Except ε β} (hx : Raises kind x)
    (hf : ∀ a, Raises kind (f a)) : Raises kind (x >>= f) := by
  intro error h
  cases x with
  | error raised =>
      cases h
      exact hx error rfl
  | ok a => exact hf a error h

theorem Raises.map {x : Except ε α} {f : α → β} (hx : Raises kind x) :
    Raises kind (x.map f) := by
  intro error h
  cases x with
  | error raised =>
      cases h
      exact hx error rfl
  | ok a => cases h

theorem Raises.foldlM {step : σ → α → Except ε σ} {values : List α} {state : σ}
    (h : ∀ state a, Raises kind (step state a)) : Raises kind (values.foldlM step state) := by
  induction values generalizing state with
  | nil => exact .ok
  | cons value values ih =>
      rw [List.foldlM_cons]
      exact .bind (h state value) fun _ => ih

theorem Raises.mapM {f : α → Except ε β} {values : List α} (h : ∀ a, Raises kind (f a)) :
    Raises kind (values.mapM f) := by
  induction values with
  | nil => exact .ok
  | cons value values ih =>
      rw [List.mapM_cons]
      exact .bind (h value) fun _ => .bind ih fun _ => .ok

theorem Raises.forM {check : α → Except ε Unit} {values : List α}
    (h : ∀ value, Raises kind (check value)) : Raises kind (values.forM check) := by
  induction values with
  | nil => exact .ok
  | cons value values ih => exact .bind (h value) fun _ => ih

theorem Raises.ensure {condition : Prop} [Decidable condition] {error : ε} (h : kind error) :
    Raises kind (ensure condition error) := by
  rw [Fold.ensure]
  split
  · exact .ok
  · exact .error h

end Raises

/-- Every result of a computation has some property. -/
def Yields (holds : α → Prop) (x : Except ε α) : Prop := ∀ a, x = .ok a → holds a

section Yields

variable {holds : α → Prop} {holds' : β → Prop}

theorem Yields.ok {a : α} (h : holds a) : Yields holds (.ok a : Except ε α) := fun _ heq => by
  cases heq
  exact h

theorem Yields.error {error : ε} : Yields holds (.error error : Except ε α) := fun _ heq => by
  cases heq

theorem Yields.true {x : Except ε α} : Yields (fun _ => True) x := fun _ _ => trivial

theorem Yields.bind {x : Except ε α} {f : α → Except ε β} (hx : Yields holds x)
    (hf : ∀ a, holds a → Yields holds' (f a)) : Yields holds' (x >>= f) := by
  intro b h
  obtain ⟨a, ha, hb⟩ := bind_eq_ok_iff.mp h
  exact hf a (hx a ha) b hb

theorem Yields.map {x : Except ε α} {f : α → β} (hx : Yields holds x)
    (hf : ∀ a, holds a → holds' (f a)) : Yields holds' (x.map f) := by
  intro b h
  obtain ⟨a, ha, rfl⟩ := map_eq_ok h
  exact hf a (hx a ha)

theorem Yields.mapM {f : α → Except ε β} {values : List α} (h : ∀ a, Yields holds' (f a)) :
    Yields (fun results => ∀ b ∈ results, holds' b) (values.mapM f) := by
  intro results hresults
  rw [mapM_eq_ok_iff] at hresults
  induction hresults with
  | nil => exact fun b hb => absurd hb List.not_mem_nil
  | cons hhead _ ih => exact List.forall_mem_cons.mpr ⟨h _ _ hhead, ih⟩

end Yields

theorem foldlM_induction {step : σ → α → Except ε σ} {motive : List α → σ → Prop}
    (hstep : ∀ consumed state a next, motive consumed state → step state a = .ok next →
      motive (consumed ++ [a]) next)
    {state final : σ} {values : List α} (hstart : motive [] state)
    (h : values.foldlM step state = .ok final) : motive values final := by
  have hfrom : ∀ (values consumed : List α) (state : σ), motive consumed state →
      values.foldlM step state = .ok final → motive (consumed ++ values) final := by
    intro values
    induction values with
    | nil =>
        intro consumed state hstart h
        rw [List.foldlM_nil] at h
        cases h
        simpa using hstart
    | cons a values ih =>
        intro consumed state hstart h
        rw [List.foldlM_cons, bind_eq_ok_iff] at h
        obtain ⟨next, hnext, hrest⟩ := h
        simpa using ih (consumed ++ [a]) next (hstep consumed state a next hstart hnext) hrest
  exact hfrom values [] state hstart h

theorem raises_foldlM {kind : ε → Prop} {step : σ → α → Except ε σ}
    {motive : List α → σ → Prop}
    (hstep : ∀ consumed state a next, motive consumed state → step state a = .ok next →
      motive (consumed ++ [a]) next)
    {values : List α} {state : σ} (hstart : motive [] state)
    (hraises : ∀ consumed state a rest, consumed ++ a :: rest = values →
      motive consumed state → Raises kind (step state a)) :
    Raises kind (values.foldlM step state) := by
  have hfrom : ∀ (rest consumed : List α) (state : σ), consumed ++ rest = values →
      motive consumed state → Raises kind (rest.foldlM step state) := by
    intro rest
    induction rest with
    | nil => exact fun _ _ _ _ => .ok
    | cons a rest ih =>
        intro consumed state hvalues hmotive error herror
        rw [List.foldlM_cons] at herror
        cases hnext : step state a with
        | error raised =>
            simp only [hnext, error_bind, Except.error.injEq] at herror
            exact herror ▸ hraises consumed state a rest hvalues hmotive raised hnext
        | ok next =>
            rw [hnext, ok_bind] at herror
            exact ih (consumed ++ [a]) next (by simpa using hvalues)
              (hstep consumed state a next hmotive hnext) error herror
  exact hfrom values [] state rfl hstart

theorem exists_of_forall₂_left {relation : α → β → Prop} {left : List α} {right : List β}
    (h : List.Forall₂ relation left right) {a : α} (ha : a ∈ left) :
    ∃ b ∈ right, relation a b := by
  induction h with
  | nil => simp at ha
  | cons hhead _ ih =>
      rcases List.mem_cons.mp ha with rfl | ha
      · exact ⟨_, List.mem_cons_self, hhead⟩
      · obtain ⟨b, hb, hrelated⟩ := ih ha
        exact ⟨b, List.mem_cons_of_mem _ hb, hrelated⟩

theorem exists_of_forall₂_right {relation : α → β → Prop} {left : List α} {right : List β}
    (h : List.Forall₂ relation left right) {b : β} (hb : b ∈ right) :
    ∃ a ∈ left, relation a b :=
  exists_of_forall₂_left h.flip hb

section Accumulate

variable {step : σ → α → σ} {values : List α} {state : σ}

theorem foldl_iff (holds : σ → Prop) {adds : α → Prop}
    (h : ∀ state a, holds (step state a) ↔ holds state ∨ adds a) :
    holds (values.foldl step state) ↔ holds state ∨ ∃ a ∈ values, adds a := by
  induction values generalizing state with
  | nil => simp
  | cons a values ih => simp [ih, h, or_assoc]

theorem foldl_append (field : σ → List β) {added : α → List β}
    (h : ∀ state a, field (step state a) = field state ++ added a) :
    field (values.foldl step state) = field state ++ values.flatMap added := by
  induction values generalizing state with
  | nil => simp
  | cons a values ih => simp [ih, h]

theorem foldl_unchanged (field : σ → β)
    (h : ∀ state, ∀ a ∈ values, field (step state a) = field state) :
    field (values.foldl step state) = field state := by
  induction values generalizing state with
  | nil => rfl
  | cons a values ih =>
      rw [List.foldl_cons, ih fun state a ha => h state a (List.mem_cons_of_mem _ ha),
        h state a List.mem_cons_self]

end Accumulate

theorem mapM_congr {f g : α → Except ε β} {values : List α} (h : ∀ a ∈ values, f a = g a) :
    values.mapM f = values.mapM g := by
  induction values with
  | nil => rfl
  | cons a values ih =>
      rw [List.mapM_cons, List.mapM_cons, h a List.mem_cons_self,
        ih fun a ha => h a (List.mem_cons_of_mem _ ha)]

theorem foldlM_map {α' σ' : Type} {step : σ → α → Except ε σ} {step' : σ' → α' → Except ε σ'}
    {f : σ → σ'} {g : α → α'} {values : List α}
    (h : ∀ a ∈ values, ∀ state, step' (f state) (g a) = (step state a).map f) (state : σ) :
    (values.map g).foldlM step' (f state) = (values.foldlM step state).map f := by
  induction values generalizing state with
  | nil => rfl
  | cons a values ih =>
      rw [List.map_cons, List.foldlM_cons, List.foldlM_cons, h a List.mem_cons_self]
      cases step state a with
      | error error => rfl
      | ok next => exact ih (fun a ha => h a (List.mem_cons_of_mem _ ha)) next

theorem foldlM_relabelled {σ' : Type} {step : σ → α → Except ε σ} {step' : σ' → α → Except ε σ'}
    (relabel : σ → σ') (invariant : σ → Prop) {values : List α}
    (hinvariant : ∀ state a next, invariant state → step state a = .ok next → invariant next)
    (hstep : ∀ a ∈ values, ∀ state next, invariant state → step state a = .ok next →
      step' (relabel state) a = .ok (relabel next))
    {state final : σ} (hstart : invariant state) (h : values.foldlM step state = .ok final) :
    values.foldlM step' (relabel state) = .ok (relabel final) := by
  induction values generalizing state with
  | nil =>
      cases h
      rfl
  | cons a values ih =>
      rw [List.foldlM_cons, bind_eq_ok_iff] at h
      obtain ⟨next, hnext, hrest⟩ := h
      rw [List.foldlM_cons, hstep a List.mem_cons_self state next hstart hnext, ok_bind]
      exact ih (fun b hb => hstep b (List.mem_cons_of_mem _ hb))
        (hinvariant state a next hstart hnext) hrest

section Order

variable {step : σ → α → Except ε σ} {same : σ → σ → Prop}

/-- A step that does not tell equivalent states apart. -/
def Respects (step : σ → α → Except ε σ) (same : σ → σ → Prop) : Prop :=
  ∀ left right a left', same left right → step left a = .ok left' →
    ∃ right', step right a = .ok right' ∧ same left' right'

/-- Two steps that succeed in one order succeed in the other, up to equivalence. -/
def Commutes (step : σ → α → Except ε σ) (same : σ → σ → Prop) : Prop :=
  ∀ state a b first both, step state a = .ok first → step first b = .ok both →
    ∃ first' both', step state b = .ok first' ∧ step first' a = .ok both' ∧ same both both'

theorem Respects.foldlM (hrespects : Respects step same) {values : List α}
    {left right left' : σ} (hsame : same left right)
    (h : values.foldlM step left = .ok left') :
    ∃ right', values.foldlM step right = .ok right' ∧ same left' right' := by
  induction values generalizing left right with
  | nil =>
      rw [List.foldlM_nil] at h
      cases h
      exact ⟨right, rfl, hsame⟩
  | cons a values ih =>
      rw [List.foldlM_cons, bind_eq_ok_iff] at h
      obtain ⟨next, hnext, hrest⟩ := h
      obtain ⟨next', hnext', hsame'⟩ := hrespects left right a next hsame hnext
      obtain ⟨right', hright', hfinal⟩ := ih hsame' hrest
      exact ⟨right', by rw [List.foldlM_cons, hnext', ok_bind, hright'], hfinal⟩

/-- A fold whose steps commute up to an equivalence depends on the order of the
list only up to that equivalence. -/
theorem foldlM_perm (hsame : Equivalence same) (hrespects : Respects step same)
    (hcommutes : Commutes step same) {left right : List α} (hperm : left.Perm right)
    {state final : σ} (h : left.foldlM step state = .ok final) :
    ∃ final', right.foldlM step state = .ok final' ∧ same final final' := by
  induction hperm generalizing state final with
  | nil => exact ⟨final, h, hsame.refl final⟩
  | cons a _ ih =>
      rw [List.foldlM_cons, bind_eq_ok_iff] at h
      obtain ⟨next, hnext, hrest⟩ := h
      obtain ⟨final', hfinal', hrelated⟩ := ih hrest
      exact ⟨final', by rw [List.foldlM_cons, hnext, ok_bind, hfinal'], hrelated⟩
  | swap a b values =>
      rw [List.foldlM_cons, bind_eq_ok_iff] at h
      obtain ⟨first, hfirst, hrest⟩ := h
      rw [List.foldlM_cons, bind_eq_ok_iff] at hrest
      obtain ⟨both, hboth, hrest⟩ := hrest
      obtain ⟨first', both', hfirst', hboth', hrelated⟩ :=
        hcommutes state b a first both hfirst hboth
      obtain ⟨final', hfinal', hsamefinal⟩ := hrespects.foldlM hrelated hrest
      exact ⟨final', by
        rw [List.foldlM_cons, hfirst', ok_bind, List.foldlM_cons, hboth', ok_bind, hfinal'],
        hsamefinal⟩
  | trans _ _ ihleft ihright =>
      obtain ⟨middle, hmiddle, hleft⟩ := ihleft h
      obtain ⟨final', hfinal', hright⟩ := ihright hmiddle
      exact ⟨final', hfinal', hsame.trans hleft hright⟩

end Order

section Tightening

variable {σ' : Type} {rejected : ε → Prop}

/-- A computation yields a given result or is rejected, and it does yield the result
if that fits. -/
def Follows (rejected : ε → Prop) (fits : Prop) (x : Except ε α) (a : α) : Prop :=
  (x = .ok a ∨ ∃ error, x = .error error ∧ rejected error) ∧ (fits → x = .ok a)

theorem Follows.of_eq {fits : Prop} {x : Except ε α} {a : α} (h : x = .ok a) :
    Follows rejected fits x a :=
  ⟨.inl h, fun _ => h⟩

theorem Follows.mono {fits fits' : Prop} {x : Except ε α} {a : α}
    (h : Follows rejected fits x a) (himp : fits' → fits) : Follows rejected fits' x a :=
  ⟨h.1, fun hfits => h.2 (himp hfits)⟩

theorem Follows.bind {fits : Prop} {x : Except ε α} {a : α} {f : α → Except ε β} {b : β}
    (hx : Follows rejected fits x a) (hf : x = .ok a → Follows rejected fits (f a) b) :
    Follows rejected fits (x >>= f) b := by
  constructor
  · rcases hx.1 with hok | ⟨error, herror, hrejected⟩
    · rw [hok, ok_bind]
      exact (hf hok).1
    · rw [herror, error_bind]
      exact .inr ⟨error, rfl, hrejected⟩
  · intro hfits
    have hok := hx.2 hfits
    rw [hok, ok_bind]
    exact (hf hok).2 hfits

/-- The second computation is the first one under other limits. -/
def Tightens (rejected : ε → Prop) (fits : α → Prop) (relabel : α → β)
    (loose : Except ε α) (tight : Except ε β) : Prop :=
  ∀ a, loose = .ok a → Follows rejected (fits a) tight (relabel a)

/-- A loop tightens step by step; the invariants hold along the two runs. -/
theorem Tightens.foldlM {fits : σ → Prop} {relabel : σ → σ'} {step : σ → α → Except ε σ}
    {step' : σ' → α → Except ε σ'} (invariant : σ → Prop) (invariant' : σ' → Prop)
    (hinvariant : ∀ state a next, invariant state → step state a = .ok next → invariant next)
    (hinvariant' : ∀ state a next, invariant' state → step' state a = .ok next →
      invariant' next)
    (hstep : ∀ state a, invariant state → invariant' (relabel state) →
      Tightens rejected fits relabel (step state a) (step' (relabel state) a))
    (hmono : ∀ state a next, invariant state → step state a = .ok next → fits next → fits state)
    {values : List α} {state : σ} (hstart : invariant state)
    (hstart' : invariant' (relabel state)) :
    Tightens rejected fits relabel (values.foldlM step state)
      (values.foldlM step' (relabel state)) := by
  have hback : ∀ (values : List α) (state final : σ), invariant state →
      values.foldlM step state = .ok final → fits final → fits state := by
    intro values
    induction values with
    | nil =>
        intro state final _ h hfinal
        rw [List.foldlM_nil] at h
        cases h
        exact hfinal
    | cons a values ih =>
        intro state final hstate h hfinal
        rw [List.foldlM_cons, bind_eq_ok_iff] at h
        obtain ⟨next, hnext, hrest⟩ := h
        exact hmono state a next hstate hnext
          (ih next final (hinvariant state a next hstate hnext) hrest hfinal)
  induction values generalizing state with
  | nil =>
      intro final h
      rw [List.foldlM_nil] at h
      cases h
      exact ⟨.inl rfl, fun _ => rfl⟩
  | cons a values ih =>
      intro final h
      rw [List.foldlM_cons, bind_eq_ok_iff] at h
      obtain ⟨next, hnext, hrest⟩ := h
      have hnextInvariant := hinvariant state a next hstart hnext
      rw [List.foldlM_cons]
      refine ((hstep state a hstart hstart' next hnext).mono ?_).bind fun hnext' => ?_
      · exact hback values next final hnextInvariant hrest
      · exact ih hnextInvariant
          (hinvariant' (relabel state) a (relabel next) hstart' hnext') final hrest

end Tightening

section First

/-- The first value of a list with some property. -/
def First (holds : α → Prop) (values : List α) (value : α) : Prop :=
  ∃ before after, values = before ++ value :: after ∧ (∀ earlier ∈ before, ¬holds earlier) ∧
    holds value

variable {holds : α → Prop} {values : List α}

theorem first_cons_iff {head value : α} :
    First holds (head :: values) value ↔
      (holds head ∧ value = head) ∨ (¬holds head ∧ First holds values value) := by
  constructor
  · rintro ⟨before, after, heq, hbefore, hvalue⟩
    cases before with
    | nil =>
        obtain ⟨rfl, -⟩ := List.cons_eq_cons.mp heq
        exact .inl ⟨hvalue, rfl⟩
    | cons earlier before =>
        obtain ⟨rfl, rfl⟩ := List.cons_eq_cons.mp heq
        rw [List.forall_mem_cons] at hbefore
        exact .inr ⟨hbefore.1, before, after, rfl, hbefore.2, hvalue⟩
  · rintro (⟨hhead, rfl⟩ | ⟨hhead, before, after, rfl, hbefore, hvalue⟩)
    · exact ⟨[], values, rfl, by simp, hhead⟩
    · exact ⟨head :: before, after, rfl, List.forall_mem_cons.mpr ⟨hhead, hbefore⟩, hvalue⟩

theorem First.mem {value : α} (h : First holds values value) : value ∈ values := by
  obtain ⟨before, after, rfl, -⟩ := h
  simp

theorem First.property {value : α} (h : First holds values value) : holds value := by
  obtain ⟨-, -, -, -, hvalue⟩ := h
  exact hvalue

theorem First.unique {left right : α} (hleft : First holds values left)
    (hright : First holds values right) : left = right := by
  induction values with
  | nil => exact absurd hleft.mem List.not_mem_nil
  | cons head values ih =>
      rcases first_cons_iff.mp hleft with ⟨hhead, rfl⟩ | ⟨hhead, hleft⟩
      · rcases first_cons_iff.mp hright with ⟨-, rfl⟩ | ⟨hnot, -⟩
        · rfl
        · exact absurd hhead hnot
      · rcases first_cons_iff.mp hright with ⟨hnot, -⟩ | ⟨-, hright⟩
        · exact absurd hnot hhead
        · exact ih hleft hright

theorem First.congr {holds' : α → Prop} {value : α} (h : First holds values value)
    (hiff : ∀ value ∈ values, holds value ↔ holds' value) : First holds' values value := by
  obtain ⟨before, after, rfl, hbefore, hvalue⟩ := h
  simp only [List.forall_mem_append, List.forall_mem_cons] at hiff
  refine ⟨before, after, rfl, ?_, hiff.2.1.mp hvalue⟩
  intro earlier hearlier hholds
  exact hbefore earlier hearlier ((hiff.1 earlier hearlier).mpr hholds)

theorem First.exists_of_map {f : β → α} {values : List β} {value : α}
    (h : First holds (values.map f) value) :
    ∃ original, First (fun original => holds (f original)) values original ∧
      f original = value := by
  obtain ⟨before, after, heq, hbefore, hvalue⟩ := h
  obtain ⟨before', rest, rfl, rfl, hrest⟩ := List.map_eq_append_iff.mp heq
  obtain ⟨original, after', rfl, rfl, rfl⟩ := List.map_eq_cons_iff.mp hrest
  refine ⟨original, ⟨before', after', rfl, ?_, hvalue⟩, rfl⟩
  intro earlier hearlier
  exact hbefore _ (List.mem_map_of_mem hearlier)

theorem forM_congr {check check' : α → Except ε Unit}
    (h : ∀ value ∈ values, check value = check' value) :
    values.forM check = values.forM check' := by
  induction values with
  | nil => rfl
  | cons head values ih =>
      rw [List.forall_mem_cons] at h
      change (check head >>= fun _ => values.forM check) =
        (check' head >>= fun _ => values.forM check')
      rw [h.1, ih h.2]

/-- A loop of checks fails with the error of the first check that fails. -/
theorem forM_eq_error_iff {check : α → Except ε Unit} {error : ε} :
    values.forM check = .error error ↔
      ∃ value, First (fun value => check value ≠ .ok ()) values value ∧
        check value = .error error := by
  induction values with
  | nil =>
      constructor
      · rintro ⟨⟩
      · rintro ⟨value, hfirst, -⟩
        exact absurd hfirst.mem List.not_mem_nil
  | cons head values ih =>
      change (check head >>= fun _ => values.forM check) = .error error ↔ _
      simp only [first_cons_iff]
      cases hhead : check head with
      | error found =>
          constructor
          · intro heq
            exact ⟨head, .inl ⟨by simp, rfl⟩, hhead.trans heq⟩
          · rintro ⟨value, ⟨-, rfl⟩ | ⟨hnot, -⟩, hvalue⟩
            · exact hhead.symm.trans hvalue
            · exact absurd (by simp) hnot
      | ok u =>
          rw [ok_bind, ih]
          constructor
          · rintro ⟨value, hfirst, hvalue⟩
            exact ⟨value, .inr ⟨not_not.mpr rfl, hfirst⟩, hvalue⟩
          · rintro ⟨value, ⟨hnot, -⟩ | ⟨-, hfirst⟩, hvalue⟩
            · exact absurd rfl hnot
            · exact ⟨value, hfirst, hvalue⟩

end First

end DockerLens.Fold
