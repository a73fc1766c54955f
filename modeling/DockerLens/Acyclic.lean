import DockerLens.Topological
import Mathlib.Data.Fintype.Order
import Mathlib.Logic.Relation

namespace DockerLens.Topological

open Relation

variable {ν α : Type} {key : ν → α} {deps : ν → List α}

section Cycles

/-- A key depends directly on another. -/
def Depends (key : ν → α) (deps : ν → List α) (nodes : List ν) (left right : α) : Prop :=
  ∃ node ∈ nodes, key node = left ∧ right ∈ deps node

/-- Some key depends on itself, directly or through others. -/
def Cyclic (key : ν → α) (deps : ν → List α) (nodes : List ν) : Prop :=
  ∃ reference, TransGen (Depends key deps nodes) reference reference

variable [DecidableEq α]

theorem Linear.idxOf_lt {order : List ν} (h : Linear key deps order)
    (hkeys : (order.map key).Nodup) {left right : α}
    (hdepends : Depends key deps order left right) :
    (order.map key).idxOf right < (order.map key).idxOf left := by
  obtain ⟨node, hnode, rfl, hright⟩ := hdepends
  obtain ⟨before, after, rfl⟩ := List.append_of_mem hnode
  have hbefore : right ∈ before.map key := h before node after rfl right hright
  rw [List.map_append, List.map_cons] at hkeys ⊢
  have hfresh : key node ∉ before.map key := by
    intro hmem
    exact (List.nodup_append.mp hkeys).2.2 _ hmem _ List.mem_cons_self rfl
  rw [List.idxOf_append_of_mem hbefore, List.idxOf_append_of_notMem hfresh, List.idxOf_cons_self,
    Nat.add_zero]
  exact List.idxOf_lt_length_of_mem hbefore

theorem Linear.not_cyclic {order : List ν} (h : Linear key deps order)
    (hkeys : (order.map key).Nodup) : ¬Cyclic key deps order := by
  rintro ⟨reference, hcycle⟩
  have hlt : ∀ left right, TransGen (Depends key deps order) left right →
      (order.map key).idxOf right < (order.map key).idxOf left := by
    intro left right hpath
    induction hpath with
    | single hdepends => exact h.idxOf_lt hkeys hdepends
    | tail _ hdepends ih => exact (h.idxOf_lt hkeys hdepends).trans ih
  exact Nat.lt_irrefl _ (hlt reference reference hcycle)

theorem exists_source {relation : α → α → Prop}
    (hacyclic : ∀ reference, ¬TransGen relation reference reference) {missing : List α}
    (hmissing : missing ≠ []) :
    ∃ reference ∈ missing, ∀ other ∈ missing, ¬relation reference other := by
  let below : {reference // reference ∈ missing} → {reference // reference ∈ missing} → Prop :=
    fun left right => TransGen relation right.val left.val
  have htrans : IsTrans _ below := ⟨fun _ _ _ hleft hright => hright.trans hleft⟩
  have hirrefl : Std.Irrefl below := ⟨fun reference => hacyclic reference.val⟩
  have hwf : WellFounded below := Finite.wellFounded_of_trans_of_irrefl below
  obtain ⟨first, hfirst⟩ := List.exists_mem_of_ne_nil missing hmissing
  obtain ⟨least, -, hleast⟩ := hwf.has_min Set.univ ⟨⟨first, hfirst⟩, trivial⟩
  refine ⟨least.val, least.property, ?_⟩
  intro other hother hrelated
  exact hleast ⟨other, hother⟩ trivial (.single hrelated)

theorem Linear.grow {nodes order : List ν} (hacyclic : ¬Cyclic key deps nodes)
    (hclosed : ∀ node ∈ nodes, ∀ dependency ∈ deps node, dependency ∈ nodes.map key)
    (h : Linear key deps order) (hmissing : ∃ node ∈ nodes, key node ∉ order.map key) :
    ∃ node ∈ nodes, key node ∉ order.map key ∧ Linear key deps (order ++ [node]) := by
  obtain ⟨other, hother, hnew⟩ := hmissing
  have hmem : ∀ reference, reference ∈ (nodes.map key).filter (· ∉ order.map key) ↔
      reference ∈ nodes.map key ∧ reference ∉ order.map key := by
    intro reference
    rw [List.mem_filter, decide_eq_true_eq]
  obtain ⟨reference, hreference, hsource⟩ := exists_source (not_exists.mp hacyclic)
    (List.ne_nil_of_mem ((hmem (key other)).mpr ⟨List.mem_map_of_mem hother, hnew⟩))
  obtain ⟨hfound, hnew⟩ := (hmem reference).mp hreference
  obtain ⟨node, hnode, rfl⟩ := List.mem_map.mp hfound
  refine ⟨node, hnode, hnew, h.concat ?_⟩
  intro dependency hdependency
  by_contra hnot
  exact hsource dependency
    ((hmem dependency).mpr ⟨hclosed node hnode dependency hdependency, hnot⟩)
    ⟨node, hnode, rfl, hdependency⟩

/-- Nodes whose dependencies are among them have a linear order exactly when no node
depends on itself, however far. -/
theorem exists_linear_iff {nodes : List ν} (hkeys : (nodes.map key).Nodup)
    (hclosed : ∀ node ∈ nodes, ∀ dependency ∈ deps node, dependency ∈ nodes.map key) :
    (∃ order : List ν, order.Perm nodes ∧ Linear key deps order) ↔ ¬Cyclic key deps nodes := by
  constructor
  · rintro ⟨order, hperm, hlinear⟩ ⟨reference, hcycle⟩
    apply hlinear.not_cyclic ((hperm.map key).nodup_iff.mpr hkeys)
    have hle : Depends key deps nodes ≤ Depends key deps order := by
      rintro left right ⟨node, hnode, hkey, hright⟩
      exact ⟨node, hperm.mem_iff.mpr hnode, hkey, hright⟩
    exact ⟨reference, TransGen.mono hle _ _ hcycle⟩
  · intro hacyclic
    have hfrom : ∀ (missing : Nat) (order : List ν), order.length + missing = nodes.length →
        (order.map key).Nodup → order ⊆ nodes → Linear key deps order →
        ∃ order : List ν, order.Perm nodes ∧ Linear key deps order := by
      intro missing
      induction missing with
      | zero =>
          intro order hlength hnodup hsubset hlinear
          exact ⟨order, (List.subperm_of_subset (nodup_of_map hnodup) hsubset).perm_of_length_le
            (by omega), hlinear⟩
      | succ missing ih =>
          intro order hlength hnodup hsubset hlinear
          have hmissing : ∃ node ∈ nodes, key node ∉ order.map key := by
            by_contra hall
            simp only [not_exists, not_and, not_not] at hall
            have hle := (List.subperm_of_subset hkeys (List.forall_mem_map.mpr hall)).length_le
            rw [List.length_map, List.length_map] at hle
            omega
          obtain ⟨node, hnode, hnew, hlinear⟩ := hlinear.grow hacyclic hclosed hmissing
          apply ih (order ++ [node]) _ _ _ hlinear
          · rw [List.length_append, List.length_singleton]
            omega
          · rw [List.map_append, List.map_singleton, ← List.concat_eq_append]
            exact hnodup.concat hnew
          · exact List.append_subset.mpr ⟨hsubset, by simpa using hnode⟩
    exact hfrom nodes.length [] (Nat.zero_add _) List.nodup_nil (List.nil_subset _) linear_nil

end Cycles

section Counters

variable [DecidableEq α]

/-- A release that aborts where the counter is zero. -/
def releaseChecked (state : (α → Nat) × List α) (dependent : α) :
    Option ((α → Nat) × List α) :=
  if state.1 dependent = 0 then none else some (release state dependent)

/-- The visit with such releases. -/
def visitChecked (dependents : α → List α) : Nat → Visit α → Option (Visit α)
  | 0, state => some state
  | fuel + 1, state =>
      match state.ready with
      | [] => some state
      | reference :: ready => do
          let (remaining, ready) ←
            (dependents reference).foldlM releaseChecked (state.remaining, ready)
          visitChecked dependents fuel ⟨remaining, ready, state.visited + 1⟩

theorem foldlM_releaseChecked {dependents : List α} (hnodup : dependents.Nodup)
    {remaining : α → Nat} (hpos : ∀ dependent ∈ dependents, 0 < remaining dependent)
    (ready : List α) :
    dependents.foldlM releaseChecked (remaining, ready) =
      some (dependents.foldl release (remaining, ready)) := by
  induction dependents generalizing remaining ready with
  | nil => rfl
  | cons dependent dependents ih =>
      rw [List.nodup_cons] at hnodup
      have hfirst : remaining dependent ≠ 0 := Nat.pos_iff_ne_zero.mp (hpos _ List.mem_cons_self)
      rw [List.foldlM_cons, List.foldl_cons, releaseChecked, if_neg hfirst]
      apply ih hnodup.2
      intro other hother
      have hne : other ≠ dependent := by
        rintro rfl
        exact hnodup.1 hother
      rw [Function.update_of_ne hne]
      exact hpos other (List.mem_cons_of_mem _ hother)

theorem Visiting.remaining_pos {nodes : List ν} {state : Visit α} {done queue : List ν}
    {node : ν} (h : Visiting key deps nodes state done (node :: queue)) :
    ∀ dependent ∈ dependents key deps nodes (key node), 0 < state.remaining dependent := by
  intro dependent hdependent
  obtain ⟨other, hother, rfl⟩ := List.mem_map.mp hdependent
  rw [List.mem_filter, decide_eq_true_eq] at hother
  have hfresh : key node ∉ done.map key := by
    have hnodup := h.nodup
    rw [List.map_append, List.nodup_append] at hnodup
    intro hmem
    exact hnodup.2.2 _ hmem _ (by simp) rfl
  rw [h.remaining other hother.1]
  exact List.length_pos_of_mem
    (List.mem_filter.mpr ⟨by simpa using hother.2, by simpa using hfresh⟩)

theorem Visiting.checked {nodes : List ν} (hkeys : (nodes.map key).Nodup) {state : Visit α}
    {done queue : List ν} (h : Visiting key deps nodes state done queue) (fuel : Nat) :
    visitChecked (dependents key deps nodes) fuel state =
      some (visit (dependents key deps nodes) fuel state) := by
  induction fuel generalizing state done queue with
  | zero => rfl
  | succ fuel ih =>
      obtain ⟨remaining, ready, count⟩ := state
      have hready := h.ready
      simp only at hready
      subst hready
      cases queue with
      | nil => rfl
      | cons node queue =>
          obtain ⟨queue', hpop⟩ := h.pop hkeys
          have hdependents : (dependents key deps nodes (key node)).Nodup :=
            hkeys.sublist (List.filter_sublist.map key)
          simp only [List.map_cons, visitChecked, visit,
            foldlM_releaseChecked hdependents h.remaining_pos, Option.bind_eq_bind,
            Option.bind_some]
          exact ih hpop

/-- The state ahead of the first pop. -/
def startVisit (key : ν → α) (deps : ν → List α) (nodes : List ν) (start : List α) : Visit α :=
  let remaining := dependencyCount key deps nodes
  ⟨remaining, (start.filter (remaining · = 0)).reverse, 0⟩

theorem visit_sound {nodes : List ν} (hkeys : (nodes.map key).Nodup) {start : List α}
    (hstart : start.Perm (nodes.map key)) :
    (∀ fuel, visitChecked (dependents key deps nodes) fuel (startVisit key deps nodes start) =
      some (visit (dependents key deps nodes) fuel (startVisit key deps nodes start))) ∧
    (visit (dependents key deps nodes) nodes.length
      (startVisit key deps nodes start)).ready = [] := by
  obtain ⟨queue, hqueue⟩ := Visiting.start hkeys hstart
    fun node hnode => dependencyCount_key hkeys hnode
  refine ⟨fun fuel => hqueue.checked hkeys fuel, ?_⟩
  have hfuel : nodes.length ≤ ([] : List ν).length + nodes.length := by simp
  obtain ⟨done, hdone⟩ := hqueue.run hkeys hfuel
  exact hdone.ready

end Counters

end DockerLens.Topological
