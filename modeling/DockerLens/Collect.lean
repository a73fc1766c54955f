import DockerLens.Fold
import Mathlib.Data.List.Perm.Basic

namespace DockerLens.Collect

open DockerLens.Fold

variable {ε α β γ σ : Type}

/-- A step that collects the items of an element: it fails on an element that is not
good, and on items that do not go together with those already held. -/
structure Collects (step : σ → α → Except ε σ) (held : σ → List β) (compatible : β → β → Prop)
    (good : α → Prop) (items : α → List β) : Prop where
  symmetric : ∀ left right, compatible left right → compatible right left
  ok_iff : ∀ state a, (held state).Pairwise compatible →
    ((∃ next, step state a = .ok next) ↔
      good a ∧ (held state ++ items a).Pairwise compatible)
  held_next : ∀ state a next, step state a = .ok next →
    (held next).Perm (held state ++ items a)

namespace Collects

variable {step : σ → α → Except ε σ} {held : σ → List β} {compatible : β → β → Prop}
  {good : α → Prop} {items : α → List β}

theorem held_foldlM (h : Collects step held compatible good items) {values : List α}
    {state final : σ} (hfold : values.foldlM step state = .ok final) :
    (held final).Perm (held state ++ values.flatMap items) := by
  induction values generalizing state with
  | nil =>
      rw [List.foldlM_nil] at hfold
      cases hfold
      simp
  | cons a values ih =>
      rw [List.foldlM_cons, bind_eq_ok_iff] at hfold
      obtain ⟨next, hnext, hrest⟩ := hfold
      have hitems := (h.held_next state a next hnext).append_right (values.flatMap items)
      rw [List.append_assoc, ← List.flatMap_cons] at hitems
      exact (ih hrest).trans hitems

/-- The loop accepts a list when each element is good and all the items go together:
a condition that does not mention the order. -/
theorem foldlM_ok_iff (h : Collects step held compatible good items) {values : List α}
    {state : σ} (hheld : (held state).Pairwise compatible) :
    (∃ final, values.foldlM step state = .ok final) ↔
      (∀ a ∈ values, good a) ∧
        (held state ++ values.flatMap items).Pairwise compatible := by
  induction values generalizing state with
  | nil =>
      rw [List.foldlM_nil]
      exact ⟨fun _ => by simpa using hheld, fun _ => ⟨state, rfl⟩⟩
  | cons a values ih =>
      have hassoc : held state ++ (a :: values).flatMap items =
          held state ++ items a ++ values.flatMap items := by
        rw [List.flatMap_cons, List.append_assoc]
      rw [List.forall_mem_cons, hassoc, List.foldlM_cons]
      have hmoved : ∀ next, step state a = .ok next →
          ((held next ++ values.flatMap items).Pairwise compatible ↔
            (held state ++ items a ++ values.flatMap items).Pairwise compatible) :=
        fun next hnext =>
          ((h.held_next state a next hnext).append_right _).pairwise_iff (h.symmetric _ _)
      constructor
      · rintro ⟨final, hfinal⟩
        rw [bind_eq_ok_iff] at hfinal
        obtain ⟨next, hnext, hrest⟩ := hfinal
        obtain ⟨hgood, hpairwise⟩ := (h.ok_iff state a hheld).mp ⟨next, hnext⟩
        have hnextHeld := ((h.held_next state a next hnext).pairwise_iff (h.symmetric _ _)).mpr
          hpairwise
        obtain ⟨hvalues, hall⟩ := (ih hnextHeld).mp ⟨final, hrest⟩
        exact ⟨⟨hgood, hvalues⟩, (hmoved next hnext).mp hall⟩
      · rintro ⟨⟨hgood, hvalues⟩, hall⟩
        have hpairwise := (List.pairwise_append.mp hall).1
        obtain ⟨next, hnext⟩ := (h.ok_iff state a hheld).mpr ⟨hgood, hpairwise⟩
        have hnextHeld := ((h.held_next state a next hnext).pairwise_iff (h.symmetric _ _)).mpr
          hpairwise
        obtain ⟨final, hfinal⟩ := (ih hnextHeld).mpr ⟨hvalues, (hmoved next hnext).mpr hall⟩
        exact ⟨final, by rw [hnext, ok_bind, hfinal]⟩

theorem foldlM_ok_iff_of_empty (h : Collects step held compatible good items) {values : List α}
    {state : σ} (hempty : held state = []) :
    (∃ final, values.foldlM step state = .ok final) ↔
      (∀ a ∈ values, good a) ∧ (values.flatMap items).Pairwise compatible := by
  have hheld : (held state).Pairwise compatible := by
    rw [hempty]
    exact .nil
  rw [h.foldlM_ok_iff hheld, hempty, List.nil_append]

end Collects

theorem collects_append {step : List β → α → Except ε (List β)} {compatible : β → β → Prop}
    {good : α → Prop} {item : α → β} (hsymmetric : ∀ x y, compatible x y → compatible y x)
    (h : ∀ seen a next, step seen a = .ok next ↔
      good a ∧ (∀ earlier ∈ seen, compatible earlier (item a)) ∧ next = seen ++ [item a]) :
    Collects step id compatible good (fun a => [item a]) where
  symmetric := hsymmetric
  ok_iff := by
    intro seen a hseen
    simp only [h, id_eq, List.pairwise_append, List.pairwise_singleton, List.mem_singleton,
      forall_eq, true_and]
    constructor
    · rintro ⟨_, hgood, hcompatible, -⟩
      exact ⟨hgood, hseen, hcompatible⟩
    · rintro ⟨hgood, -, hcompatible⟩
      exact ⟨_, hgood, hcompatible, rfl⟩
  held_next := by
    intro seen a next hnext
    rw [((h seen a next).mp hnext).2.2]
    exact .refl _

theorem foldlM_append_ok_iff {step : List β → α → Except ε (List β)}
    {compatible : β → β → Prop} {good : α → Prop} {item : α → β}
    (hsymmetric : ∀ x y, compatible x y → compatible y x)
    (h : ∀ seen a next, step seen a = .ok next ↔
      good a ∧ (∀ earlier ∈ seen, compatible earlier (item a)) ∧ next = seen ++ [item a])
    {values : List α} :
    (∃ final, values.foldlM step [] = .ok final) ↔
      (∀ a ∈ values, good a) ∧ (values.map item).Pairwise compatible := by
  rw [(collects_append hsymmetric h).foldlM_ok_iff_of_empty rfl, ← List.map_eq_flatMap]

/-- Items of two kinds, compared within their kind only. -/
def Beside (left : β → β → Prop) (right : γ → γ → Prop) : β ⊕ γ → β ⊕ γ → Prop
  | .inl a, .inl b => left a b
  | .inr a, .inr b => right a b
  | _, _ => True

section Beside

variable {left : β → β → Prop} {right : γ → γ → Prop}

theorem beside_symmetric (hleft : ∀ x y, left x y → left y x)
    (hright : ∀ x y, right x y → right y x) (x y : β ⊕ γ) (h : Beside left right x y) :
    Beside left right y x := by
  rcases x with a | a <;> rcases y with b | b
  · exact hleft _ _ h
  · trivial
  · trivial
  · exact hright _ _ h

theorem pairwise_beside_iff {items : List (β ⊕ γ)} :
    items.Pairwise (Beside left right) ↔
      (items.filterMap Sum.getLeft?).Pairwise left ∧
        (items.filterMap Sum.getRight?).Pairwise right := by
  induction items with
  | nil => simp
  | cons item items ih =>
      cases item with
      | inl a =>
          simp only [List.pairwise_cons, ih, List.filterMap_cons, Sum.getLeft?_inl,
            Sum.getRight?_inl, Sum.forall, Beside, List.mem_filterMap, Sum.getLeft?_eq_some_iff]
          simp [and_assoc]
      | inr a =>
          simp only [List.pairwise_cons, ih, List.filterMap_cons, Sum.getLeft?_inr,
            Sum.getRight?_inr, Sum.forall, Beside, List.mem_filterMap, Sum.getRight?_eq_some_iff]
          simp [and_left_comm]

/-- The items of two lists, one of each kind. -/
def both (first : List β) (second : List γ) : List (β ⊕ γ) :=
  first.map Sum.inl ++ second.map Sum.inr

@[simp] theorem filterMap_getLeft?_both {first : List β} {second : List γ} :
    (both first second).filterMap Sum.getLeft? = first := by
  simp [both, Function.comp_def]

@[simp] theorem filterMap_getRight?_both {first : List β} {second : List γ} :
    (both first second).filterMap Sum.getRight? = second := by
  simp [both, Function.comp_def]

theorem pairwise_both_iff {first : List β} {second : List γ} :
    (both first second).Pairwise (Beside left right) ↔
      first.Pairwise left ∧ second.Pairwise right := by
  rw [pairwise_beside_iff, filterMap_getLeft?_both, filterMap_getRight?_both]

theorem pairwise_both_append_iff {first first' : List β} {second second' : List γ} :
    (both first second ++ both first' second').Pairwise (Beside left right) ↔
      (first ++ first').Pairwise left ∧ (second ++ second').Pairwise right := by
  simp only [pairwise_beside_iff, List.filterMap_append, filterMap_getLeft?_both,
    filterMap_getRight?_both]

theorem perm_both_append {first first' : List β} {second second' : List γ} :
    (both (first ++ first') (second ++ second')).Perm
      (both first second ++ both first' second') := by
  simp only [both, List.map_append, List.append_assoc]
  apply List.Perm.append_left
  simp only [← List.append_assoc]
  exact List.perm_append_comm.append_right _

theorem both_perm {first first' : List β} {second second' : List γ} (hfirst : first.Perm first')
    (hsecond : second.Perm second') : (both first second).Perm (both first' second') :=
  (hfirst.map _).append (hsecond.map _)

end Beside

section Both

variable {step : σ → α → Except ε σ} {first : σ → List β} {second : σ → List γ}
  {left : β → β → Prop} {right : γ → γ → Prop} {good : α → Prop} {f : α → List β}
  {g : α → List γ}

theorem collects_both (hleft : ∀ x y, left x y → left y x)
    (hright : ∀ x y, right x y → right y x)
    (hok : ∀ state a, (first state).Pairwise left → (second state).Pairwise right →
      ((∃ next, step state a = .ok next) ↔ good a ∧ (first state ++ f a).Pairwise left ∧
        (second state ++ g a).Pairwise right))
    (hnext : ∀ state a next, step state a = .ok next →
      (first next).Perm (first state ++ f a) ∧ (second next).Perm (second state ++ g a)) :
    Collects step (fun state => both (first state) (second state)) (Beside left right) good
      (fun a => both (f a) (g a)) where
  symmetric := beside_symmetric hleft hright
  ok_iff := by
    intro state a hheld
    rw [pairwise_both_iff] at hheld
    rw [hok state a hheld.1 hheld.2, pairwise_both_append_iff]
  held_next := by
    intro state a next hstep
    obtain ⟨hfirst, hsecond⟩ := hnext state a next hstep
    exact (both_perm hfirst hsecond).trans perm_both_append

theorem foldlM_both_ok_iff
    (h : Collects step (fun state => both (first state) (second state)) (Beside left right) good
      (fun a => both (f a) (g a)))
    {values : List α} {state : σ} (hfirst : (first state).Pairwise left)
    (hsecond : (second state).Pairwise right) :
    (∃ final, values.foldlM step state = .ok final) ↔
      (∀ a ∈ values, good a) ∧ (first state ++ values.flatMap f).Pairwise left ∧
        (second state ++ values.flatMap g).Pairwise right := by
  rw [h.foldlM_ok_iff (pairwise_both_iff.mpr ⟨hfirst, hsecond⟩), pairwise_beside_iff]
  simp only [List.filterMap_append, List.filterMap_flatMap, filterMap_getLeft?_both,
    filterMap_getRight?_both]

theorem foldlM_both_held
    (h : Collects step (fun state => both (first state) (second state)) (Beside left right) good
      (fun a => both (f a) (g a)))
    {values : List α} {state final : σ} (hfold : values.foldlM step state = .ok final) :
    (first final).Perm (first state ++ values.flatMap f) ∧
      (second final).Perm (second state ++ values.flatMap g) := by
  have hheld := h.held_foldlM hfold
  have hfirst := hheld.filterMap Sum.getLeft?
  have hsecond := hheld.filterMap Sum.getRight?
  simp only [List.filterMap_append, List.filterMap_flatMap, filterMap_getLeft?_both,
    filterMap_getRight?_both] at hfirst hsecond
  exact ⟨hfirst, hsecond⟩

end Both

/-- New items, none of them twice and none of them among those already held. -/
structure Fresh (held items : List β) : Prop where
  nodup : items.Nodup
  new : ∀ item ∈ items, item ∉ held

section Fresh

variable {held : List β}

theorem fresh_nil : Fresh held [] := ⟨.nil, fun _ h => absurd h List.not_mem_nil⟩

theorem fresh_singleton_iff {item : β} : Fresh held [item] ↔ item ∉ held :=
  ⟨fun h => h.new item List.mem_cons_self,
    fun h => ⟨by simp, List.forall_mem_singleton.mpr h⟩⟩

theorem fresh_append_iff {front back : List β} :
    Fresh held (front ++ back) ↔ Fresh held front ∧ Fresh (held ++ front) back := by
  constructor
  · intro h
    obtain ⟨hfront, hback, hdisjoint⟩ := List.nodup_append.mp h.nodup
    refine ⟨⟨hfront, fun item hitem => h.new item (List.mem_append_left _ hitem)⟩, hback, ?_⟩
    intro item hitem hheld
    rcases List.mem_append.mp hheld with hheld | hother
    · exact h.new item (List.mem_append_right _ hitem) hheld
    · exact hdisjoint item hother item hitem rfl
  · rintro ⟨hfront, hback⟩
    refine ⟨List.nodup_append.mpr ⟨hfront.nodup, hback.nodup, ?_⟩, ?_⟩
    · rintro item hitem other hother rfl
      exact hback.new item hother (List.mem_append_right _ hitem)
    · intro item hitem hheld
      rcases List.mem_append.mp hitem with hitem | hitem
      · exact hfront.new item hitem hheld
      · exact hback.new item hitem (List.mem_append_left _ hheld)

theorem fresh_empty_iff {items : List β} : Fresh [] items ↔ items.Nodup :=
  ⟨Fresh.nodup, fun h => ⟨h, fun _ _ => List.not_mem_nil⟩⟩

/-- A loop that appends fresh items and remembers whether it found something. -/
theorem foldlM_fresh_iff {step : List β × Bool → α → Except ε (List β × Bool)}
    {good : α → Prop} {items : α → List β} {found : α → Bool} {values : List α}
    (h : ∀ a ∈ values, ∀ state next, step state a = .ok next ↔
      good a ∧ Fresh state.1 (items a) ∧ next = (state.1 ++ items a, state.2 || found a))
    {state final : List β × Bool} :
    values.foldlM step state = .ok final ↔
      (∀ a ∈ values, good a) ∧ Fresh state.1 (values.flatMap items) ∧
        final = (state.1 ++ values.flatMap items, state.2 || values.any found) := by
  induction values generalizing state with
  | nil =>
      rw [List.foldlM_nil]
      constructor
      · rintro ⟨⟩
        exact ⟨by simp, fresh_nil, by simp⟩
      · rintro ⟨-, -, rfl⟩
        simp
        rfl
  | cons a values ih =>
      rw [List.forall_mem_cons] at h
      rw [List.foldlM_cons, bind_eq_ok_iff, List.forall_mem_cons, List.flatMap_cons,
        fresh_append_iff, List.any_cons]
      simp only [h.1, ih h.2]
      constructor
      · rintro ⟨next, ⟨hgood, hfresh, rfl⟩, hvalues, hrest, rfl⟩
        exact ⟨⟨hgood, hvalues⟩, ⟨hfresh, hrest⟩, by simp [Bool.or_assoc]⟩
      · rintro ⟨⟨hgood, hvalues⟩, ⟨hfresh, hrest⟩, rfl⟩
        exact ⟨_, ⟨hgood, hfresh, rfl⟩, hvalues, hrest, by simp [Bool.or_assoc]⟩

end Fresh

/-- A lookup by a key that only one element has. -/
theorem find_key_eq_some_iff {κ : Type} [BEq κ] [LawfulBEq κ] {key : α → κ} {values : List α}
    (hnodup : (values.map key).Nodup) {sought : κ} {a : α} :
    values.find? (key · == sought) = some a ↔ a ∈ values ∧ key a = sought := by
  induction values with
  | nil => simp
  | cons first rest ih =>
      rw [List.map_cons, List.nodup_cons] at hnodup
      rw [List.find?_cons, List.mem_cons]
      split
      · next hfirst =>
          rw [beq_iff_eq] at hfirst
          constructor
          · rintro ⟨⟩
            exact ⟨.inl rfl, hfirst⟩
          · rintro ⟨rfl | ha, hsought⟩
            · rfl
            · have hmem : key first ∈ rest.map key := by
                rw [hfirst, ← hsought]
                exact List.mem_map_of_mem ha
              exact absurd hmem hnodup.1
      · next hfirst =>
          rw [beq_eq_false_iff_ne] at hfirst
          rw [ih hnodup.2]
          constructor
          · rintro ⟨ha, hsought⟩
            exact ⟨.inr ha, hsought⟩
          · rintro ⟨rfl | ha, hsought⟩
            · exact absurd hsought hfirst
            · exact ⟨ha, hsought⟩

/-- The elements of a list, each up to a relation, in another order. -/
def Reordered (same : α → β → Prop) (left : List α) (right : List β) : Prop :=
  ∃ middle, List.Forall₂ same left middle ∧ middle.Perm right

namespace Reordered

variable {same : α → β → Prop} {left : List α} {right : List β}

theorem symm (h : Reordered same left right) : Reordered (fun b a => same a b) right left := by
  obtain ⟨middle, hsame, hperm⟩ := h
  obtain ⟨back, hback, hmoved⟩ := List.perm_comp_forall₂ hperm.symm hsame.flip
  exact ⟨back, hback, hmoved⟩

theorem mono {same' : α → β → Prop} (h : Reordered same left right)
    (himp : ∀ a b, same a b → same' a b) : Reordered same' left right := by
  obtain ⟨middle, hsame, hperm⟩ := h
  exact ⟨middle, hsame.imp himp, hperm⟩

theorem exists_left (h : Reordered same left right) {b : β} (hb : b ∈ right) :
    ∃ a ∈ left, same a b := by
  obtain ⟨middle, hsame, hperm⟩ := h
  exact exists_of_forall₂_right hsame (hperm.mem_iff.mpr hb)

theorem forall_mem (h : Reordered same left right) {good : α → Prop} {good' : β → Prop}
    (himp : ∀ a b, same a b → good a → good' b) (hgood : ∀ a ∈ left, good a) :
    ∀ b ∈ right, good' b := by
  intro b hb
  obtain ⟨a, ha, hrelated⟩ := h.exists_left hb
  exact himp a b hrelated (hgood a ha)

theorem map_perm (h : Reordered same left right) {f : α → γ} {g : β → γ}
    (hequal : ∀ a b, same a b → f a = g b) : (left.map f).Perm (right.map g) := by
  obtain ⟨middle, hsame, hperm⟩ := h
  have hmap : left.map f = middle.map g := by
    rw [← List.forall₂_eq_eq_eq, List.forall₂_map_left_iff, List.forall₂_map_right_iff]
    exact hsame.imp hequal
  rw [hmap]
  exact hperm.map g

theorem flatMap_perm (h : Reordered same left right) {f : α → List γ} {g : β → List γ}
    (hequal : ∀ a b, same a b → (f a).Perm (g b)) : (left.flatMap f).Perm (right.flatMap g) := by
  obtain ⟨middle, hsame, hperm⟩ := h
  have hmiddle : (left.flatMap f).Perm (middle.flatMap g) := by
    clear hperm
    induction hsame with
    | nil => exact .refl _
    | cons hhead _ ih => exact (hequal _ _ hhead).append ih
  exact hmiddle.trans (hperm.flatMap_right g)

theorem length_eq (h : Reordered same left right) : left.length = right.length := by
  obtain ⟨middle, hsame, hperm⟩ := h
  exact hsame.length_eq.trans hperm.length_eq

theorem ne_nil (h : Reordered same left right) (hleft : left ≠ []) : right ≠ [] := by
  rintro rfl
  exact hleft (List.eq_nil_of_length_eq_zero h.length_eq)

theorem exists_mapM {δ : Type} {f : α → Except ε γ} {g : β → Except ε δ}
    {related : γ → δ → Prop}
    (himp : ∀ a b, same a b → ∀ x, f a = .ok x → ∃ y, g b = .ok y ∧ related x y)
    (h : Reordered same left right) {results : List γ} (hresults : left.mapM f = .ok results) :
    ∃ results', right.mapM g = .ok results' ∧ Reordered related results results' := by
  obtain ⟨middle, hsame, hperm⟩ := h
  rw [mapM_eq_ok_iff] at hresults
  have hmiddle : ∃ moved, List.Forall₂ (fun b y => g b = .ok y) middle moved ∧
      List.Forall₂ related results moved := by
    clear hperm
    induction hsame generalizing results with
    | nil =>
        cases hresults
        exact ⟨[], .nil, .nil⟩
    | cons hhead _ ih =>
        cases hresults with
        | cons hresult hrest =>
            obtain ⟨y, hy, hrelated⟩ := himp _ _ hhead _ hresult
            obtain ⟨moved, hmoved, hall⟩ := ih hrest
            exact ⟨y :: moved, .cons hy hmoved, .cons hrelated hall⟩
  obtain ⟨moved, hmoved, hrelated⟩ := hmiddle
  obtain ⟨results', hresults', hback⟩ := List.perm_comp_forall₂ hperm.symm hmoved
  exact ⟨results', mapM_eq_ok_iff.mpr hresults', moved, hrelated, hback.symm⟩

end Reordered

end DockerLens.Collect
