import DockerLens.Json.Reading

namespace DockerLens.Json

/-- An object each member of which is allowed. -/
def AllMembers (allowed : String → Value → Prop) : Value → Prop
  | .object members => ∀ member ∈ members, allowed member.1 member.2
  | _ => False

/-- An array each value of which is allowed. -/
def AllElements (allowed : Value → Prop) : Value → Prop
  | .array values => ∀ value ∈ values, allowed value
  | _ => False

theorem mem_insertMember {member other : String × Value} {members : List (String × Value)}
    (h : member ∈ insertMember other members) : member = other ∨ member ∈ members := by
  induction members with
  | nil =>
      rw [insertMember, List.mem_singleton] at h
      exact .inl h
  | cons first members ih =>
      rw [insertMember] at h
      split at h
      · rcases List.mem_cons.mp h with rfl | hrest
        · exact .inl rfl
        · exact .inr (List.mem_cons_of_mem _ hrest)
      · split at h
        · exact List.mem_cons.mp h
        · rcases List.mem_cons.mp h with rfl | hrest
          · exact .inr List.mem_cons_self
          · exact (ih hrest).imp id (List.mem_cons_of_mem _)

theorem mem_sortMembers {member : String × Value} {members : List (String × Value)}
    (h : member ∈ sortMembers members) : member ∈ members := by
  have hfold : ∀ (members sorted : List (String × Value)),
      member ∈ members.foldl (fun sorted member => insertMember member sorted) sorted →
      member ∈ sorted ∨ member ∈ members := by
    intro members
    induction members with
    | nil => exact fun sorted hsorted => .inl hsorted
    | cons first members ih =>
        intro sorted hsorted
        rcases ih _ hsorted with hinsert | hrest
        · rcases mem_insertMember hinsert with rfl | hmember
          · exact .inr List.mem_cons_self
          · exact .inl hmember
        · exact .inr (List.mem_cons_of_mem _ hrest)
  exact (hfold members [] h).resolve_left List.not_mem_nil

section Normal

variable {α : Type} {allowed : String → Value → Prop}

theorem allMembers_normalize {members : List (String × Value)}
    (h : ∀ member ∈ members, allowed member.1 (normalize member.2)) :
    AllMembers allowed (normalize (.object members)) := by
  rw [normalize, normalizeMembers_eq_map]
  intro member hmember
  obtain ⟨original, horiginal, rfl⟩ := List.mem_map.mp (mem_sortMembers hmember)
  exact h original horiginal

theorem allElements_normalize {allowed : Value → Prop} {value : α → Value} {values : List α}
    (h : ∀ a ∈ values, allowed (normalize (value a))) :
    AllElements allowed (normalize (.array (values.map value))) := by
  rw [normalize, normalizeAll_eq_map, List.map_map]
  intro element helement
  obtain ⟨a, ha, rfl⟩ := List.mem_map.mp helement
  exact h a ha

/-- What is asked of a member that may be absent. -/
def FieldAllowed (allowed : String → Value → Prop) (field : String × Option Value) : Prop :=
  ∀ value ∈ field.2, allowed field.1 (normalize value)

theorem allMembers_fields {fields : List (String × Option Value)}
    (h : ∀ field ∈ fields, FieldAllowed allowed field) :
    AllMembers allowed (normalize (fieldsObject fields)) := by
  apply allMembers_normalize
  intro member hmember
  induction fields with
  | nil => cases hmember
  | cons field fields ih =>
      rw [present] at hmember
      rcases List.mem_append.mp hmember with hfirst | hrest
      · obtain ⟨value, hvalue, rfl⟩ := List.mem_map.mp hfirst
        exact h field List.mem_cons_self value (Option.mem_toList.mp hvalue)
      · exact ih (fun other hother => h other (List.mem_cons_of_mem _ hother)) hrest

theorem FieldAllowed.some {key : String} {value : Value} (h : allowed key (normalize value)) :
    FieldAllowed allowed (key, some value) := by
  rintro _ ⟨⟩
  exact h

theorem FieldAllowed.map {key : String} {value : α → Value} {found : Option α}
    (h : ∀ a ∈ found, allowed key (normalize (value a))) :
    FieldAllowed allowed (key, found.map value) := by
  intro _ hvalue
  obtain ⟨a, ha, rfl⟩ := Option.map_eq_some_iff.mp hvalue
  exact h a ha

end Normal

end DockerLens.Json
