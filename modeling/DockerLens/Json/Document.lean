import DockerLens.Json.Parser
import Mathlib.Data.List.Perm.Basic

namespace DockerLens.Json

open DockerLens.Text

/-- `BTreeMap::insert`: in the order of the keys' bytes, replacing an equal key. -/
def insertMember (member : String × Value) : List (String × Value) → List (String × Value)
  | [] => [member]
  | other :: rest =>
      if member.1 = other.1 then member :: rest
      else if asBytes member.1 < asBytes other.1 then member :: other :: rest
      else other :: insertMember member rest

/-- The members of an object text as a `BTreeMap`. -/
def sortMembers (members : List (String × Value)) : List (String × Value) :=
  members.foldl (fun sorted member => insertMember member sorted) []

mutual

/-- A document as `serde_json` keeps it: every object is a sorted map in which the
last of equal keys wins. -/
def normalize : Value → Value
  | .array values => .array (normalizeAll values)
  | .object members => .object (sortMembers (normalizeMembers members))
  | .null => .null
  | .bool value => .bool value
  | .number value => .number value
  | .string value => .string value

def normalizeAll : List Value → List Value
  | [] => []
  | value :: values => normalize value :: normalizeAll values

def normalizeMembers : List (String × Value) → List (String × Value)
  | [] => []
  | (key, value) :: members => (key, normalize value) :: normalizeMembers members

end

/-- A stand-in for `serde_json::from_slice` on the texts of this development. It has neither the
recursion limit of the crate, which is 128, nor its range of numbers, so it also reads texts that
the crate refuses. -/
def fromSlice (bytes : Bytes) : Option Value :=
  match fromUtf8 bytes with
  | none => none
  | some text => (parse text.toList).map normalize

/-- A stand-in for `serde_json::from_str`, in the same way. -/
def fromStr (text : String) : Option Value := fromSlice (asBytes text)

@[simp] theorem normalizeAll_eq_map (values : List Value) :
    normalizeAll values = values.map normalize := by
  induction values with
  | nil => rfl
  | cons value values ih => rw [normalizeAll, ih, List.map_cons]

@[simp] theorem normalizeMembers_eq_map (members : List (String × Value)) :
    normalizeMembers members = members.map fun member => (member.1, normalize member.2) := by
  induction members with
  | nil => rfl
  | cons member members ih => rw [normalizeMembers, ih, List.map_cons]

theorem lookup_member (member : String × Value) (members : List (String × Value))
    (key : String) :
    (member :: members).lookup key =
      if key = member.1 then some member.2 else members.lookup key := by
  rw [List.lookup_cons]
  by_cases hkey : key = member.1
  · rw [if_pos hkey, beq_iff_eq.mpr hkey]
  · rw [if_neg hkey, beq_eq_false_iff_ne.mpr hkey]

theorem lookup_insertMember (member : String × Value) (members : List (String × Value))
    (key : String) :
    (insertMember member members).lookup key =
      if key = member.1 then some member.2 else members.lookup key := by
  induction members with
  | nil => exact lookup_member member [] key
  | cons other rest ih =>
      rw [insertMember]
      split
      · next hsame =>
          rw [lookup_member, lookup_member, ← hsame]
          split <;> simp_all
      · next hother =>
          split
          · rw [lookup_member]
          · rw [lookup_member, ih, lookup_member]
            by_cases hkey : key = member.1
            · rw [if_pos hkey, if_neg (fun h => hother (hkey ▸ h)), if_pos hkey]
            · rw [if_neg hkey, if_neg hkey]

theorem insertMember_perm {member : String × Value} {members : List (String × Value)}
    (h : member.1 ∉ members.map Prod.fst) :
    (insertMember member members).Perm (member :: members) := by
  induction members with
  | nil => exact .refl _
  | cons other rest ih =>
      rw [List.map_cons, List.mem_cons, not_or] at h
      rw [insertMember, if_neg h.1]
      split
      · exact .refl _
      · exact ((ih h.2).cons other).trans (.swap member other rest)

theorem sortMembers_perm {members : List (String × Value)}
    (h : (members.map Prod.fst).Nodup) : (sortMembers members).Perm members := by
  have hfold : ∀ (members sorted : List (String × Value)),
      ((sorted ++ members).map Prod.fst).Nodup →
      (members.foldl (fun sorted member => insertMember member sorted) sorted).Perm
        (sorted ++ members) := by
    intro members
    induction members with
    | nil =>
        intro sorted _
        rw [List.append_nil]
        exact .refl _
    | cons member members ih =>
        intro sorted hnodup
        have hfresh : member.1 ∉ sorted.map Prod.fst := by
          rw [List.map_append, List.map_cons, List.nodup_append] at hnodup
          intro hmem
          exact hnodup.2.2 _ hmem _ (List.mem_cons_self ..) rfl
        have hinsert := insertMember_perm hfresh
        have hmiddle : (insertMember member sorted ++ members).Perm
            (sorted ++ member :: members) :=
          (hinsert.append_right members).trans List.perm_middle.symm
        rw [List.foldl_cons]
        exact (ih _ ((hmiddle.map Prod.fst).nodup_iff.mpr hnodup)).trans hmiddle
  exact hfold members [] h

theorem lookup_sortMembers {members : List (String × Value)}
    (h : (members.map Prod.fst).Nodup) (key : String) :
    (sortMembers members).lookup key = members.lookup key := by
  have hfold : ∀ (members sorted : List (String × Value)), (members.map Prod.fst).Nodup →
      (members.foldl (fun sorted member => insertMember member sorted) sorted).lookup key =
        (members.lookup key).or (sorted.lookup key) := by
    intro members
    induction members with
    | nil =>
        intro sorted _
        rfl
    | cons member members ih =>
        intro sorted hnodup
        rw [List.map_cons, List.nodup_cons] at hnodup
        rw [List.foldl_cons, ih _ hnodup.2, lookup_insertMember, lookup_member]
        by_cases hkey : key = member.1
        · have hnone : members.lookup key = none := by
            rw [List.lookup_eq_none_iff]
            intro other hother
            have hne : key ≠ other.1 := fun heq =>
              hnodup.1 (hkey ▸ heq ▸ List.mem_map_of_mem hother)
            simpa using hne
          rw [if_pos hkey, if_pos hkey, hnone]
          rfl
        · rw [if_neg hkey, if_neg hkey]
  rw [sortMembers, hfold members [] h]
  simp

end DockerLens.Json
