import DockerLens.Acquisition.Selection
import DockerLens.Fold

namespace DockerLens.Acquisition

open DockerLens.Fold

theorem nodup_eraseDups {α : Type} [DecidableEq α] (values : List α) :
    values.eraseDups.Nodup := by
  induction hlength : values.length using Nat.strongRecOn generalizing values with
  | ind length ih =>
      cases values with
      | nil => simp
      | cons value values =>
          have hshorter : (values.filter fun other => !other == value).length <
              (value :: values).length :=
            Nat.lt_succ_of_le (List.length_filter_le _ _)
          rw [List.eraseDups_cons, List.nodup_cons]
          exact ⟨by simp [List.mem_eraseDups], ih _ (hlength ▸ hshorter) _ rfl⟩

theorem eraseDups_of_nodup {α : Type} [DecidableEq α] {values : List α} (h : values.Nodup) :
    values.eraseDups = values := by
  induction values with
  | nil => rfl
  | cons value values ih =>
      rw [List.nodup_cons] at h
      have hfilter : values.filter (fun other => !other == value) = values := by
        rw [List.filter_eq_self]
        intro other hother
        simpa using fun heq : other = value => h.1 (heq ▸ hother)
      rw [List.eraseDups_cons, hfilter, ih h.2]

/-- The keys of the map from native networks to their `by_name` flag. -/
def keys (networks : List (NativeId × Bool)) : List NativeId := networks.map Prod.fst

@[simp] theorem keys_append (left right : List (NativeId × Bool)) :
    keys (left ++ right) = keys left ++ keys right :=
  List.map_append

/-- `*previous &= by_name` for an id that is there, else an insertion. -/
def mergeFlag (networks : List (NativeId × Bool)) (found : NativeId × Bool) :
    List (NativeId × Bool) :=
  if found.1 ∈ keys networks then
    networks.map fun entry => if entry.1 = found.1 then (entry.1, entry.2 && found.2) else entry
  else networks ++ [found]

/-- One related network, merged into the known ones or into the new ones. -/
def mergeNetwork (maps : List (NativeId × Bool) × List (NativeId × Bool))
    (found : NativeId × Bool) : List (NativeId × Bool) × List (NativeId × Bool) :=
  if found.1 ∈ keys maps.1 then (mergeFlag maps.1 found, maps.2)
  else (maps.1, mergeFlag maps.2 found)

theorem keys_mergeFlag_of_mem {networks : List (NativeId × Bool)} {found : NativeId × Bool}
    (h : found.1 ∈ keys networks) : keys (mergeFlag networks found) = keys networks := by
  rw [mergeFlag, if_pos h, keys, List.map_map]
  refine List.map_congr_left fun entry _ => ?_
  simp only [Function.comp_apply]
  split <;> rfl

theorem keys_mergeFlag_of_not_mem {networks : List (NativeId × Bool)}
    {found : NativeId × Bool} (h : found.1 ∉ keys networks) :
    keys (mergeFlag networks found) = keys networks ++ [found.1] := by
  rw [mergeFlag, if_neg h, keys_append]
  rfl

theorem nodup_keys_mergeFlag {networks : List (NativeId × Bool)} {found : NativeId × Bool}
    (h : (keys networks).Nodup) : (keys (mergeFlag networks found)).Nodup := by
  by_cases hmem : found.1 ∈ keys networks
  · rwa [keys_mergeFlag_of_mem hmem]
  · rw [keys_mergeFlag_of_not_mem hmem]
    exact List.nodup_append.mpr ⟨h, by simp, by
      rintro key hkey other hother rfl
      rw [List.mem_singleton] at hother
      exact hmem (hother ▸ hkey)⟩

theorem mem_keys_mergeFlag {networks : List (NativeId × Bool)} {found : NativeId × Bool}
    {id : NativeId} :
    id ∈ keys (mergeFlag networks found) ↔ id ∈ keys networks ∨ id = found.1 := by
  by_cases hmem : found.1 ∈ keys networks
  · rw [keys_mergeFlag_of_mem hmem]
    constructor
    · exact .inl
    · rintro (h | rfl)
      · exact h
      · exact hmem
  · simp [keys_mergeFlag_of_not_mem hmem]

theorem mergeFlag_false_of_mem {networks : List (NativeId × Bool)}
    {found : NativeId × Bool} {id : NativeId} (h : (id, false) ∈ networks) :
    (id, false) ∈ mergeFlag networks found := by
  rw [mergeFlag]
  split
  · rw [List.mem_map]
    refine ⟨(id, false), h, ?_⟩
    split <;> simp
  · exact List.mem_append_left _ h

theorem mergeFlag_false_found {networks : List (NativeId × Bool)} {id : NativeId} :
    (id, false) ∈ mergeFlag networks (id, false) := by
  rw [mergeFlag]
  split
  · next h =>
      obtain ⟨entry, hentry, hid⟩ := List.mem_map.mp h
      rw [List.mem_map]
      exact ⟨entry, hentry, by simp [hid]⟩
  · simp

theorem mem_keys_mergeNetwork {maps : List (NativeId × Bool) × List (NativeId × Bool)}
    {found : NativeId × Bool} {id : NativeId} :
    id ∈ keys (mergeNetwork maps found).1 ++ keys (mergeNetwork maps found).2 ↔
      id ∈ keys maps.1 ++ keys maps.2 ∨ id = found.1 := by
  rw [mergeNetwork]
  split <;> simp only [List.mem_append, mem_keys_mergeFlag] <;> tauto

theorem mergeNetwork_false_of_mem {maps : List (NativeId × Bool) × List (NativeId × Bool)}
    {found : NativeId × Bool} {id : NativeId} (h : (id, false) ∈ maps.1 ++ maps.2) :
    (id, false) ∈ (mergeNetwork maps found).1 ++ (mergeNetwork maps found).2 := by
  rw [mergeNetwork]
  rcases List.mem_append.mp h with h | h
  · split
    · exact List.mem_append_left _ (mergeFlag_false_of_mem h)
    · exact List.mem_append_left _ h
  · split
    · exact List.mem_append_right _ h
    · exact List.mem_append_right _ (mergeFlag_false_of_mem h)

theorem mergeNetwork_false_found {maps : List (NativeId × Bool) × List (NativeId × Bool)}
    {id : NativeId} :
    (id, false) ∈ (mergeNetwork maps (id, false)).1 ++ (mergeNetwork maps (id, false)).2 := by
  rw [mergeNetwork]
  split
  · exact List.mem_append_left _ mergeFlag_false_found
  · exact List.mem_append_right _ mergeFlag_false_found

/-- The native resources waiting for their inspection, each of them once. -/
structure Related where
  networks : List (NativeId × Bool)
  volumes : List NativeId
  networks_nodup : (keys networks).Nodup
  volumes_nodup : volumes.Nodup

namespace Related

/-- The networks and volumes that a selector names itself. -/
def ofSelector : Selector → Related
  | .networkIds ids =>
      { networks := ids.eraseDups.map (·, false)
        volumes := []
        networks_nodup := by
          rw [keys, List.map_map, show Prod.fst ∘ (fun id : NativeId => (id, false)) = id from rfl,
            List.map_id]
          exact nodup_eraseDups ids
        volumes_nodup := List.nodup_nil }
  | .volumeNames names =>
      { networks := []
        volumes := names.eraseDups
        networks_nodup := List.nodup_nil
        volumes_nodup := nodup_eraseDups names }
  | _ =>
      { networks := []
        volumes := []
        networks_nodup := List.nodup_nil
        volumes_nodup := List.nodup_nil }

/-- The known networks with their new flags, and the networks not known before. -/
def mergedNetworks (self : Related) (found : RelatedResources) :
    List (NativeId × Bool) × List (NativeId × Bool) :=
  found.networks.foldl mergeNetwork (self.networks, [])

/-- The volumes not known before. -/
def newVolumes (self : Related) (found : RelatedResources) : List NativeId :=
  (found.volumes.filter (· ∉ self.volumes)).eraseDups

/-- Two disjoint maps stay disjoint, and the first one keeps its keys. -/
theorem foldl_mergeNetwork_nodup {networks : List (NativeId × Bool)}
    {maps : List (NativeId × Bool) × List (NativeId × Bool)}
    (h : (keys maps.1 ++ keys maps.2).Nodup) :
    keys (networks.foldl mergeNetwork maps).1 = keys maps.1 ∧
      (keys (networks.foldl mergeNetwork maps).1 ++
        keys (networks.foldl mergeNetwork maps).2).Nodup := by
  induction networks generalizing maps with
  | nil => exact ⟨rfl, h⟩
  | cons found networks ih =>
      rw [List.foldl_cons]
      by_cases hknown : found.1 ∈ keys maps.1
      · have hkeys := keys_mergeFlag_of_mem hknown
        have hstep : mergeNetwork maps found = (mergeFlag maps.1 found, maps.2) :=
          if_pos hknown
        obtain ⟨hfirst, hnodup⟩ := @ih (mergeNetwork maps found)
          (by rwa [hstep, hkeys])
        exact ⟨by rw [hfirst, hstep, hkeys], hnodup⟩
      · have hstep : mergeNetwork maps found = (maps.1, mergeFlag maps.2 found) :=
          if_neg hknown
        obtain ⟨hfirst, hnodup⟩ := @ih (mergeNetwork maps found) (by
          rw [hstep]
          rw [List.nodup_append] at h ⊢
          refine ⟨h.1, nodup_keys_mergeFlag h.2.1, fun key hkey other hother => ?_⟩
          rcases mem_keys_mergeFlag.mp hother with hold | rfl
          · exact h.2.2 key hkey other hold
          · rintro rfl
            exact hknown hkey)
        exact ⟨by rw [hfirst, hstep], hnodup⟩

/-- `networks.extend(new_networks)` and `volumes.extend(new_volumes)`. -/
def merge (self : Related) (found : RelatedResources) : Related where
  networks := (self.mergedNetworks found).1 ++ (self.mergedNetworks found).2
  volumes := self.volumes ++ self.newVolumes found
  networks_nodup := by
    rw [keys_append]
    exact (foldl_mergeNetwork_nodup (by simpa [keys] using self.networks_nodup)).2
  volumes_nodup := by
    refine List.nodup_append.mpr ⟨self.volumes_nodup, nodup_eraseDups _, ?_⟩
    rintro volume hvolume other hother rfl
    simp only [newVolumes, List.mem_eraseDups, List.mem_filter, decide_eq_true_eq] at hother
    exact hother.2 hvolume

/-- The native resources in a capture's inspection order: by the bytes of their ids. -/
def sortedNetworks (self : Related) : List (NativeId × Bool) :=
  self.networks.mergeSort fun left right =>
    decide (Text.asBytes left.1.text ≤ Text.asBytes right.1.text)

def sortedVolumes (self : Related) : List NativeId :=
  self.volumes.mergeSort fun left right =>
    decide (Text.asBytes left.text ≤ Text.asBytes right.text)

theorem mem_keys_merge {self : Related} {found : RelatedResources} {id : NativeId} :
    id ∈ keys (self.merge found).networks ↔
      id ∈ keys self.networks ∨ id ∈ keys found.networks := by
  have hfold := @foldl_iff _ _ mergeNetwork found.networks (self.networks, [])
    (fun maps => id ∈ keys maps.1 ++ keys maps.2) (fun found => id = found.1)
    fun _ _ => mem_keys_mergeNetwork
  simp only [merge, mergedNetworks, keys_append]
  rw [hfold]
  simp [keys, eq_comm]

theorem merge_false_of_mem {self : Related} {found : RelatedResources} {id : NativeId}
    (h : (id, false) ∈ self.networks ∨ (id, false) ∈ found.networks) :
    (id, false) ∈ (self.merge found).networks := by
  change (id, false) ∈ (found.networks.foldl mergeNetwork (self.networks, [])).1 ++
    (found.networks.foldl mergeNetwork (self.networks, [])).2
  have hstart : ∀ (networks : List (NativeId × Bool)) maps,
      (id, false) ∈ maps.1 ++ maps.2 ∨ (id, false) ∈ networks →
      (id, false) ∈ (networks.foldl mergeNetwork maps).1 ++
        (networks.foldl mergeNetwork maps).2 := by
    intro networks
    induction networks with
    | nil => simp
    | cons entry networks ih =>
        rintro maps (h | h)
        · exact ih _ (.inl (mergeNetwork_false_of_mem h))
        · rcases List.mem_cons.mp h with rfl | h
          · exact ih _ (.inl mergeNetwork_false_found)
          · exact ih _ (.inr h)
  exact hstart _ _ (h.imp_left fun h => List.mem_append_left _ h)

theorem mem_volumes_merge {self : Related} {found : RelatedResources} {id : NativeId} :
    id ∈ (self.merge found).volumes ↔ id ∈ self.volumes ∨ id ∈ found.volumes := by
  simp only [merge, newVolumes, List.mem_append, List.mem_eraseDups, List.mem_filter,
    decide_eq_true_eq]
  tauto

theorem sortedNetworks_perm (self : Related) : self.sortedNetworks.Perm self.networks :=
  List.mergeSort_perm _ _

theorem sortedVolumes_perm (self : Related) : self.sortedVolumes.Perm self.volumes :=
  List.mergeSort_perm _ _

end Related

end DockerLens.Acquisition
