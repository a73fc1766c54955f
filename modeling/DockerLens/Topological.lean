import Mathlib.Data.List.Induction
import Mathlib.Data.List.Nodup
import Mathlib.Data.List.Dedup
import Mathlib.Data.List.Perm.Subperm
import Mathlib.Logic.Function.Basic

namespace DockerLens.Topological

variable {ν α : Type} (key : ν → α) (deps : ν → List α)

/-- Every node comes after all nodes that it depends on. -/
def Linear (order : List ν) : Prop :=
  ∀ before node after, order = before ++ node :: after →
    ∀ dependency ∈ deps node, dependency ∈ before.map key

variable {key deps}

theorem linear_nil : Linear key deps [] := by
  intro before node after h
  simp at h

theorem Linear.concat {order : List ν} {node : ν} (h : Linear key deps order)
    (hnode : ∀ dependency ∈ deps node, dependency ∈ order.map key) :
    Linear key deps (order ++ [node]) := by
  intro before other after heq
  rcases List.eq_nil_or_concat after with rfl | ⟨after, last, rfl⟩
  · obtain ⟨rfl, hlast⟩ := List.append_inj' heq rfl
    injection hlast with hlast
    exact hlast ▸ hnode
  · rw [List.concat_eq_append, ← List.cons_append, ← List.append_assoc] at heq
    obtain ⟨rfl, -⟩ := List.append_inj' heq rfl
    exact h before other after rfl

theorem Linear.append {order more : List ν} (h : Linear key deps order)
    (hmore : ∀ before node after, more = before ++ node :: after →
      ∀ dependency ∈ deps node, dependency ∈ (order ++ before).map key) :
    Linear key deps (order ++ more) := by
  induction more using List.reverseRecOn with
  | nil => simpa using h
  | append_singleton more last ih =>
      rw [← List.append_assoc]
      refine Linear.concat (ih ?_) (hmore more last [] rfl)
      rintro before node after rfl
      apply hmore before node (after ++ [last])
      rw [List.append_assoc, List.cons_append]

theorem Linear.left {order more : List ν} (h : Linear key deps (order ++ more)) :
    Linear key deps order := by
  rintro before node after rfl
  apply h before node (after ++ more)
  rw [List.append_assoc, List.cons_append]

theorem Linear.flatMap {σ β : Type} {stepKey : σ → β} {stepDeps : σ → List β}
    {steps : ν → List σ} {order : List ν} (h : Linear key deps order)
    (hsteps : ∀ node ∈ order, ∀ earlier, earlier ⊆ order →
      (∀ dependency ∈ deps node, dependency ∈ earlier.map key) →
      ∀ before step after, steps node = before ++ step :: after →
        ∀ dependency ∈ stepDeps step, dependency ∈ (earlier.flatMap steps ++ before).map stepKey) :
    Linear stepKey stepDeps (order.flatMap steps) := by
  induction order using List.reverseRecOn with
  | nil => exact linear_nil
  | append_singleton order last ih =>
      have hsubset : order ⊆ order ++ [last] := List.subset_append_left order [last]
      rw [List.flatMap_append, List.flatMap_singleton]
      apply Linear.append
      · apply ih h.left
        intro node hnode earlier hearlier
        exact hsteps node (hsubset hnode) earlier (List.Subset.trans hearlier hsubset)
      · exact hsteps last List.mem_concat_self order hsubset (h order last [] rfl)

/-- A linear order has a first node outside a list that misses some node of it; what
that node depends on is in the list. -/
theorem Linear.exists_first [DecidableEq α] {order : List ν} (h : Linear key deps order)
    {emitted : List α} (hmissing : ∃ node ∈ order, key node ∉ emitted) :
    ∃ node ∈ order, key node ∉ emitted ∧ ∀ dependency ∈ deps node, dependency ∈ emitted := by
  have hfrom : ∀ after before, order = before ++ after →
      (∀ node ∈ before, key node ∈ emitted) → (∃ node ∈ after, key node ∉ emitted) →
      ∃ node ∈ order, key node ∉ emitted ∧ ∀ dependency ∈ deps node, dependency ∈ emitted := by
    intro after
    induction after with
    | nil =>
        rintro before - - ⟨node, hnode, -⟩
        simp at hnode
    | cons first after ih =>
        intro before horder hbefore hrest
        by_cases hfirst : key first ∈ emitted
        · apply ih (before ++ [first])
          · simpa using horder
          · intro node hnode
            rcases List.mem_append.mp hnode with hnode | hnode
            · exact hbefore node hnode
            · rwa [List.mem_singleton.mp hnode]
          · obtain ⟨node, hnode, hkey⟩ := hrest
            rcases List.mem_cons.mp hnode with rfl | hnode
            · exact absurd hfirst hkey
            · exact ⟨node, hnode, hkey⟩
        · refine ⟨first, by simp [horder], hfirst, ?_⟩
          intro dependency hdependency
          obtain ⟨node, hnode, rfl⟩ :=
            List.mem_map.mp (h before first after horder dependency hdependency)
          exact hbefore node hnode
  exact hfrom order [] rfl (by simp) hmissing

theorem nodup_of_map {nodes : List ν} (h : (nodes.map key).Nodup) : nodes.Nodup :=
  List.Nodup.of_map key h

theorem eq_of_key {nodes : List ν} (h : (nodes.map key).Nodup) {left right : ν}
    (hleft : left ∈ nodes) (hright : right ∈ nodes) (hkey : key left = key right) :
    left = right :=
  List.inj_on_of_nodup_map h hleft hright hkey

section Kahn

variable [DecidableEq α]

/-- The counters of unvisited dependencies, the stack of ready keys with its top first,
and the number of visited ones. -/
structure Visit (α : Type) where
  remaining : α → Nat
  ready : List α
  visited : Nat

/-- One dependent of a visited key has a dependency less. -/
def release (state : (α → Nat) × List α) (dependent : α) : (α → Nat) × List α :=
  let count := state.1 dependent - 1
  (Function.update state.1 dependent count,
    if count = 0 then dependent :: state.2 else state.2)

/-- Pop ready keys until none is left. -/
def visit (dependents : α → List α) : Nat → Visit α → Visit α
  | 0, state => state
  | fuel + 1, state =>
      match state.ready with
      | [] => state
      | reference :: ready =>
          let (remaining, ready) := (dependents reference).foldl release (state.remaining, ready)
          visit dependents fuel ⟨remaining, ready, state.visited + 1⟩

variable (key deps)

/-- The keys of the nodes that depend on a key. -/
def dependents (nodes : List ν) (reference : α) : List α :=
  (nodes.filter fun node => decide (reference ∈ deps node)).map key

/-- The number of different dependencies of the node with a key. -/
def dependencyCount (nodes : List ν) (reference : α) : Nat :=
  ((nodes.find? (key · = reference)).map fun node => (deps node).dedup.length).getD 0

/-- The number of keys that the visit reaches from the ready ones in a given order. -/
def visited (nodes : List ν) (start : List α) : Nat :=
  let remaining := dependencyCount key deps nodes
  (visit (dependents key deps nodes) nodes.length
    ⟨remaining, (start.filter (remaining · = 0)).reverse, 0⟩).visited

variable {key deps}

theorem foldl_release {dependents : List α} (hnodup : dependents.Nodup)
    (remaining : α → Nat) (ready : List α) :
    dependents.foldl release (remaining, ready) =
      (fun reference =>
          if reference ∈ dependents then remaining reference - 1 else remaining reference,
        (dependents.filter (remaining · - 1 = 0)).reverse ++ ready) := by
  induction dependents generalizing remaining ready with
  | nil => simp
  | cons dependent dependents ih =>
      rw [List.nodup_cons] at hnodup
      rw [List.foldl_cons, release, ih hnodup.2]
      have hsame : ∀ reference ∈ dependents,
          Function.update remaining dependent (remaining dependent - 1) reference =
            remaining reference := by
        intro reference hreference
        apply Function.update_of_ne
        rintro rfl
        exact hnodup.1 hreference
      apply Prod.ext
      · funext reference
        by_cases heq : reference = dependent
        · subst heq
          simp [hnodup.1]
        · by_cases hmem : reference ∈ dependents <;> simp [heq, hmem]
      · have hfilter : dependents.filter (fun reference => decide
            (Function.update remaining dependent (remaining dependent - 1) reference - 1 = 0)) =
            dependents.filter (fun reference => decide (remaining reference - 1 = 0)) := by
          apply List.filter_congr
          intro reference hreference
          rw [hsame reference hreference]
        simp only [hfilter, List.filter_cons]
        split <;> simp_all

/-- What holds between two pops: `done` are the nodes visited so far and `queue` those
that are ready. -/
structure Visiting (key : ν → α) (deps : ν → List α) (nodes : List ν) (state : Visit α)
    (done queue : List ν) : Prop where
  ready : state.ready = queue.map key
  visited : state.visited = done.length
  nodup : ((done ++ queue).map key).Nodup
  subset : ∀ node ∈ done ++ queue, node ∈ nodes
  linear : Linear key deps done
  remaining : ∀ node ∈ nodes,
    state.remaining (key node) = ((deps node).dedup.filter (· ∉ done.map key)).length
  released : ∀ node ∈ nodes, state.remaining (key node) = 0 ↔ node ∈ done ++ queue

theorem mem_dependents {nodes : List ν} (h : (nodes.map key).Nodup) {node : ν}
    (hnode : node ∈ nodes) {reference : α} :
    key node ∈ dependents key deps nodes reference ↔ reference ∈ deps node := by
  simp only [dependents, List.mem_map, List.mem_filter, decide_eq_true_eq]
  constructor
  · rintro ⟨other, ⟨hother, hmem⟩, hkey⟩
    rwa [← eq_of_key h hother hnode hkey]
  · intro hmem
    exact ⟨node, ⟨hnode, hmem⟩, rfl⟩

theorem length_filter_concat {references done : List α} (hnodup : references.Nodup)
    {reference : α} (hnew : reference ∉ done) :
    (references.filter (· ∉ done ++ [reference])).length =
      (references.filter (· ∉ done)).length - (if reference ∈ references then 1 else 0) := by
  have herase : references.filter (· ∉ done ++ [reference]) =
      (references.filter (· ∉ done)).erase reference := by
    rw [(hnodup.filter _).erase_eq_filter, List.filter_filter]
    apply List.filter_congr
    intro other _
    by_cases hdone : other ∈ done <;> by_cases heq : other = reference <;> simp [hdone, heq]
  have hmem : reference ∈ references.filter (· ∉ done) ↔ reference ∈ references := by
    simp [List.mem_filter, hnew]
  rw [herase, List.length_erase]
  simp only [hmem]
  split <;> rfl

theorem Visiting.pop {nodes : List ν} (hkeys : (nodes.map key).Nodup)
    {remaining : α → Nat} {ready : List α} {count : Nat} {done queue : List ν} {node : ν}
    (h : Visiting key deps nodes ⟨remaining, key node :: ready, count⟩ done (node :: queue)) :
    ∃ queue', Visiting key deps nodes
      (let state := (dependents key deps nodes (key node)).foldl release (remaining, ready)
       ⟨state.1, state.2, count + 1⟩) (done ++ [node]) queue' := by
  have hnode : node ∈ nodes := h.subset node (by simp)
  have hfresh : key node ∉ done.map key := by
    have hnodup := h.nodup
    rw [List.map_append, List.nodup_append] at hnodup
    intro hmem
    exact hnodup.2.2 _ hmem _ (by simp) rfl
  have hready : ready = queue.map key := by
    have := h.ready
    simpa using this
  have hdependents : (dependents key deps nodes (key node)).Nodup :=
    (hkeys.sublist (List.filter_sublist.map key))
  -- what is released now has the popped node as its only dependency left
  let fresh := nodes.filter fun other =>
    decide (key node ∈ deps other) && decide (remaining (key other) - 1 = 0)
  have hfresh_mem : ∀ other, other ∈ fresh ↔
      other ∈ nodes ∧ key node ∈ deps other ∧ remaining (key other) - 1 = 0 := by
    intro other
    simp [fresh]
  have hcount : ∀ other ∈ nodes, key node ∈ deps other → 0 < remaining (key other) := by
    intro other hother hmem
    have hlength := h.remaining other hother
    simp only at hlength
    rw [hlength]
    exact List.length_pos_of_mem (List.mem_filter.mpr ⟨by simpa using hmem, by simpa using hfresh⟩)
  refine ⟨fresh.reverse ++ queue, ?_⟩
  rw [foldl_release hdependents]
  have hnext : ∀ other ∈ nodes,
      (if key other ∈ dependents key deps nodes (key node) then remaining (key other) - 1
        else remaining (key other)) =
      ((deps other).dedup.filter (· ∉ (done ++ [node]).map key)).length := by
    intro other hother
    rw [List.map_append, List.map_singleton, length_filter_concat (List.nodup_dedup _) hfresh,
      ← h.remaining other hother]
    simp only [mem_dependents hkeys hother, List.mem_dedup]
    split <;> rfl
  have hreleased : ∀ other ∈ nodes, ((if key other ∈ dependents key deps nodes (key node) then
      remaining (key other) - 1 else remaining (key other)) = 0 ↔
        other ∈ done ++ [node] ++ (fresh.reverse ++ queue)) := by
    intro other hother
    have hold := h.released other hother
    simp only [mem_dependents hkeys hother]
    simp only [List.mem_append, List.mem_cons, List.mem_reverse, hfresh_mem] at hold ⊢
    split
    · next hmem =>
        have hpos := hcount other hother hmem
        have hnot : ¬ (other ∈ done ∨ other = node ∨ other ∈ queue) := by
          rw [← hold]
          omega
        constructor
        · intro hzero
          exact .inr (.inl ⟨hother, hmem, hzero⟩)
        · rintro ((hdone | heq) | hnew | hqueue)
          · exact absurd (.inl hdone) hnot
          · exact absurd (.inr (.inl (by simpa using heq))) hnot
          · exact hnew.2.2
          · exact absurd (.inr (.inr hqueue)) hnot
    · next hmem =>
        rw [hold]
        constructor
        · rintro (hdone | heq | hqueue)
          · exact .inl (.inl hdone)
          · exact .inl (.inr (by simpa using heq))
          · exact .inr (.inr hqueue)
        · rintro ((hdone | heq) | hnew | hqueue)
          · exact .inl hdone
          · exact .inr (.inl (by simpa using heq))
          · exact absurd hnew.2.1 hmem
          · exact .inr (.inr hqueue)
  constructor
  · simp only [hready, List.map_append, List.map_reverse]
    congr 2
    simp only [dependents, fresh, List.filter_map, List.filter_filter]
    congr 1
    apply List.filter_congr
    intro other _
    simp [Bool.and_comm]
  · have := h.visited
    simp only at this ⊢
    simp [this]
  · have hold := h.nodup
    have hall : ((done ++ [node] ++ (fresh.reverse ++ queue)).map key).Perm
        ((done ++ node :: queue).map key ++ fresh.map key) := by
      rw [← List.map_append]
      apply List.Perm.map
      have hswap : (fresh.reverse ++ queue).Perm (queue ++ fresh) :=
        List.perm_append_comm.trans ((List.reverse_perm fresh).append_left queue)
      simpa using (hswap.append_left (done ++ [node]))
    rw [hall.nodup_iff, List.nodup_append]
    refine ⟨hold, hkeys.sublist (List.filter_sublist.map key), ?_⟩
    rintro _ hleft _ hright rfl
    obtain ⟨left, hleft, hkey⟩ := List.mem_map.mp hleft
    obtain ⟨right, hright, hright'⟩ := List.mem_map.mp hright
    have hmem := (hfresh_mem right).mp hright
    have heq : left = right :=
      eq_of_key hkeys (h.subset left hleft) hmem.1 (hkey.trans hright'.symm)
    subst heq
    have hzero := (h.released left hmem.1).mpr hleft
    have hpos := hcount left hmem.1 hmem.2.1
    simp only at hzero
    omega
  · intro other hother
    simp only [List.mem_append, List.mem_reverse, hfresh_mem] at hother
    rcases hother with (hdone | heq) | hnew | hqueue
    · exact h.subset other (by simp [hdone])
    · rwa [List.mem_singleton.mp heq]
    · exact hnew.1
    · exact h.subset other (by simp [hqueue])
  · apply h.linear.concat
    intro dependency hdependency
    have hzero := (h.released node hnode).mpr (by simp)
    rw [h.remaining node hnode, List.length_eq_zero_iff, List.filter_eq_nil_iff] at hzero
    simpa using hzero dependency (by simpa using hdependency)
  · exact hnext
  · exact hreleased

theorem Visiting.run {nodes : List ν} (hkeys : (nodes.map key).Nodup) {state : Visit α}
    {done queue : List ν} (h : Visiting key deps nodes state done queue) {fuel : Nat}
    (hfuel : nodes.length ≤ done.length + fuel) :
    ∃ done', Visiting key deps nodes (visit (dependents key deps nodes) fuel state) done' [] := by
  induction fuel generalizing state done queue with
  | zero =>
      have hsub : (done ++ queue).Subperm nodes :=
        List.subperm_of_subset (nodup_of_map h.nodup) h.subset
      have hlength := hsub.length_le
      rw [List.length_append] at hlength
      have hqueue : queue = [] := List.length_eq_zero_iff.mp (by omega)
      subst hqueue
      exact ⟨done, h⟩
  | succ fuel ih =>
      obtain ⟨remaining, ready, count⟩ := state
      have hready := h.ready
      simp only at hready
      subst hready
      cases queue with
      | nil => exact ⟨done, h⟩
      | cons node queue =>
          obtain ⟨queue', hpop⟩ := h.pop hkeys
          apply ih hpop
          rw [List.length_append, List.length_singleton]
          omega

theorem Visiting.start {nodes : List ν} (hkeys : (nodes.map key).Nodup) {start : List α}
    (hstart : start.Perm (nodes.map key)) {remaining : α → Nat}
    (hremaining : ∀ node ∈ nodes, remaining (key node) = (deps node).dedup.length) :
    ∃ queue, Visiting key deps nodes
      ⟨remaining, (start.filter (remaining · = 0)).reverse, 0⟩ [] queue := by
  have hperm : ((start.filter (remaining · = 0)).reverse).Perm
      ((nodes.filter fun node => decide (remaining (key node) = 0)).map key) := by
    refine (List.reverse_perm _).trans ((hstart.filter _).trans ?_)
    rw [List.filter_map]
    exact .refl _
  obtain ⟨queue, hqueue, hmap⟩ : ∃ queue : List ν, queue.Perm
      (nodes.filter fun node => decide (remaining (key node) = 0)) ∧
      (start.filter (remaining · = 0)).reverse = queue.map key := by
    have hcomp : Relation.Comp (· = List.map key ·) List.Perm
        (start.filter (remaining · = 0)).reverse
        (nodes.filter fun node => decide (remaining (key node) = 0)) := by
      rw [List.eq_map_comp_perm]
      exact hperm
    obtain ⟨queue, hmap, hqueue⟩ := hcomp
    exact ⟨queue, hqueue, hmap⟩
  refine ⟨queue, ⟨hmap, rfl, ?_, ?_, linear_nil, ?_, ?_⟩⟩
  · rw [List.nil_append, (hqueue.map key).nodup_iff]
    exact hkeys.sublist (List.filter_sublist.map key)
  · intro node hnode
    rw [List.nil_append, hqueue.mem_iff, List.mem_filter] at hnode
    exact hnode.1
  · intro node hnode
    simp [hremaining node hnode]
  · intro node hnode
    rw [List.nil_append, hqueue.mem_iff, List.mem_filter]
    simp [hnode]

theorem dependencyCount_key {nodes : List ν} (hkeys : (nodes.map key).Nodup) {node : ν}
    (hnode : node ∈ nodes) :
    dependencyCount key deps nodes (key node) = (deps node).dedup.length := by
  rw [dependencyCount]
  cases hfind : nodes.find? (key · = key node) with
  | none =>
      rw [List.find?_eq_none] at hfind
      simpa using hfind node hnode
  | some found =>
      have hkey : key found = key node := by simpa using List.find?_some hfind
      rw [eq_of_key hkeys (List.mem_of_find?_eq_some hfind) hnode hkey]
      rfl

/-- The visit reaches every node if and only if the nodes have a linear order. -/
theorem visited_eq_length_iff {nodes : List ν} (hkeys : (nodes.map key).Nodup)
    {start : List α} (hstart : start.Perm (nodes.map key)) :
    visited key deps nodes start = nodes.length ↔
      ∃ order : List ν, order.Perm nodes ∧ Linear key deps order := by
  have hremaining : ∀ node ∈ nodes,
      dependencyCount key deps nodes (key node) = (deps node).dedup.length :=
    fun node hnode => dependencyCount_key hkeys hnode
  have hfuel : nodes.length ≤ ([] : List ν).length + nodes.length := by simp
  obtain ⟨queue, hqueue⟩ := Visiting.start hkeys hstart hremaining
  obtain ⟨done, hdone⟩ := hqueue.run hkeys hfuel
  have hnodup : done.Nodup := by simpa using nodup_of_map hdone.nodup
  have hsub : done ⊆ nodes := fun node hnode => hdone.subset node (by simpa using hnode)
  rw [visited, hdone.visited]
  constructor
  · intro hlength
    exact ⟨done, (List.subperm_of_subset hnodup hsub).perm_of_length_le
      (Nat.le_of_eq hlength.symm), hdone.linear⟩
  · rintro ⟨order, hperm, hlinear⟩
    apply Nat.le_antisymm (List.subperm_of_subset hnodup hsub).length_le
    apply (List.subperm_of_subset (nodup_of_map hkeys) ?_).length_le
    by_contra hmissing
    simp only [List.subset_def, not_forall] at hmissing
    obtain ⟨node, hnode, hnot⟩ := hmissing
    have hnew : key node ∉ done.map key := by
      intro hmem
      obtain ⟨other, hother, hkey⟩ := List.mem_map.mp hmem
      exact hnot (eq_of_key hkeys (hsub hother) hnode hkey ▸ hother)
    obtain ⟨first, hfirst, hnew, hdeps⟩ :=
      hlinear.exists_first ⟨node, hperm.mem_iff.mpr hnode, hnew⟩
    have hfirst := hperm.mem_iff.mp hfirst
    have hmem : first ∈ done ++ [] := by
      rw [← hdone.released first hfirst, hdone.remaining first hfirst, List.length_eq_zero_iff,
        List.filter_eq_nil_iff]
      intro dependency hdependency
      simpa using hdeps dependency (by simpa using hdependency)
    rw [List.append_nil] at hmem
    exact hnew (List.mem_map_of_mem hmem)

end Kahn

section Scan

variable [DecidableEq α]

variable (key deps)

/-- The first node that is not emitted yet and whose dependencies all are. -/
def next (nodes : List ν) (emitted : List α) : Option ν :=
  nodes.find? fun node =>
    decide (key node ∉ emitted) && (deps node).all fun dependency => decide (dependency ∈ emitted)

/-- The order in which repeated scanning emits the nodes. -/
def scan (nodes : List ν) : Nat → List ν → List ν
  | 0, done => done
  | fuel + 1, done =>
      match next key deps nodes (done.map key) with
      | none => done
      | some node => scan nodes fuel (done ++ [node])

variable {key deps}

theorem next_eq_some {nodes : List ν} {emitted : List α} {node : ν}
    (h : next key deps nodes emitted = some node) :
    node ∈ nodes ∧ key node ∉ emitted ∧ ∀ dependency ∈ deps node, dependency ∈ emitted := by
  have hfound := List.find?_some h
  simp only [Bool.and_eq_true, decide_eq_true_eq, List.all_eq_true] at hfound
  exact ⟨List.mem_of_find?_eq_some h, hfound⟩

theorem next_map {ν' α' : Type} [DecidableEq α'] {key' : ν' → α'} {deps' : ν' → List α'}
    {f : ν → ν'} {g : α → α'} (hinjective : Function.Injective g)
    (hkey : ∀ node, key' (f node) = g (key node))
    (hdeps : ∀ node, deps' (f node) = (deps node).map g) (nodes : List ν) (emitted : List α) :
    next key' deps' (nodes.map f) (emitted.map g) = (next key deps nodes emitted).map f := by
  rw [next, List.find?_map, next]
  congr 2
  funext node
  simp only [Function.comp_def, hkey, hdeps, List.all_map, List.mem_map_of_injective hinjective]

theorem exists_next {nodes : List ν}
    (hlinear : ∃ order : List ν, order.Perm nodes ∧ Linear key deps order) {emitted : List α}
    (hmissing : ∃ node ∈ nodes, key node ∉ emitted) :
    ∃ node, next key deps nodes emitted = some node := by
  obtain ⟨order, hperm, hlinear⟩ := hlinear
  obtain ⟨node, hnode, hkey⟩ := hmissing
  obtain ⟨first, hfirst, hnew, hdeps⟩ :=
    hlinear.exists_first ⟨node, hperm.mem_iff.mpr hnode, hkey⟩
  rw [next, ← Option.isSome_iff_exists, List.find?_isSome]
  exact ⟨first, hperm.mem_iff.mp hfirst, by simpa [hnew] using hdeps⟩

theorem advance {nodes : List ν} (hkeys : (nodes.map key).Nodup)
    (hlinear : ∃ order : List ν, order.Perm nodes ∧ Linear key deps order) {done : List ν}
    (hlength : done.length < nodes.length) (hnodup : (done.map key).Nodup) (hsub : done ⊆ nodes) :
    ∃ node, next key deps nodes (done.map key) = some node ∧ node ∈ nodes ∧
      ((done ++ [node]).map key).Nodup ∧ done ++ [node] ⊆ nodes ∧
      ∀ dependency ∈ deps node, dependency ∈ done.map key := by
  have hmissing : ∃ node ∈ nodes, key node ∉ done.map key := by
    by_contra hall
    simp only [not_exists, not_and, not_not] at hall
    have hle := (List.subperm_of_subset hkeys (List.forall_mem_map.mpr hall)).length_le
    rw [List.length_map, List.length_map] at hle
    omega
  obtain ⟨node, hnext⟩ := exists_next hlinear hmissing
  obtain ⟨hnode, hnew, hdeps⟩ := next_eq_some hnext
  refine ⟨node, hnext, hnode, ?_, ?_, hdeps⟩
  · rw [List.map_append, List.map_singleton, List.nodup_append]
    refine ⟨hnodup, by simp, ?_⟩
    rintro left hleft right hright rfl
    rw [List.mem_singleton] at hright
    exact hnew (hright ▸ hleft)
  · exact List.append_subset.mpr ⟨hsub, by simpa using hnode⟩

theorem scan_linear {nodes : List ν} (hkeys : (nodes.map key).Nodup)
    (hlinear : ∃ order : List ν, order.Perm nodes ∧ Linear key deps order) :
    (scan key deps nodes nodes.length []).Perm nodes ∧
      Linear key deps (scan key deps nodes nodes.length []) := by
  have hfrom : ∀ (fuel : Nat) (done : List ν), done.length + fuel = nodes.length →
      (done.map key).Nodup → done ⊆ nodes → Linear key deps done →
      (scan key deps nodes fuel done).Perm nodes ∧
        Linear key deps (scan key deps nodes fuel done) := by
    intro fuel
    induction fuel with
    | zero =>
        intro done hlength hnodup hsub hdone
        exact ⟨(List.subperm_of_subset (nodup_of_map hnodup) hsub).perm_of_length_le
          (by omega), hdone⟩
    | succ fuel ih =>
        intro done hlength hnodup hsub hdone
        obtain ⟨node, hnext, -, hnodup', hsub', hdeps⟩ :=
          advance hkeys hlinear (by omega) hnodup hsub
        rw [scan, hnext]
        refine ih (done ++ [node]) ?_ hnodup' hsub' (hdone.concat hdeps)
        rw [List.length_append, List.length_singleton]
        omega
  exact hfrom nodes.length [] (by simp) (by simp) (by simp) linear_nil

end Scan

end DockerLens.Topological
