import DockerLens.Json.Document
import DockerLens.Json.Spelling

namespace DockerLens.Json

open DockerLens.Text

theorem fromSlice_of_spells {value : Value} {text : List Char} (h : Spells value text) :
    fromSlice (asBytes (String.ofList text)) = some (normalize value) := by
  have hparse : parse (text ++ []) = some value := h.parse_eq rfl
  rw [List.append_nil] at hparse
  rw [fromSlice, fromUtf8_asBytes]
  simp [hparse]

theorem lookup_map_normalize (members : List (String × Value)) (key : String) :
    (members.map fun member => (member.1, normalize member.2)).lookup key =
      (members.lookup key).map normalize := by
  induction members with
  | nil => rfl
  | cons member members ih =>
      rw [List.map_cons, lookup_member, lookup_member, ih]
      split <;> rfl

theorem get_normalize {members : List (String × Value)} (h : (members.map Prod.fst).Nodup)
    (key : String) :
    (normalize (.object members)).get key = (members.lookup key).map normalize := by
  have hkeys : ((members.map fun member => (member.1, normalize member.2)).map Prod.fst).Nodup := by
    rw [List.map_map]
    exact h
  rw [normalize, normalizeMembers_eq_map, Value.get_object, lookup_sortMembers hkeys,
    lookup_map_normalize]

theorem get_normalize_fields {fields : List (String × Option Value)}
    (h : (fields.map Prod.fst).Nodup) (key : String) :
    (normalize (fieldsObject fields)).get key = ((fields.lookup key).join).map normalize := by
  rw [fieldsObject, get_normalize (h.sublist (keys_present_sublist fields)), lookup_present h]

@[simp] theorem normalize_string (text : String) : normalize (.string text) = .string text := by
  rw [normalize]

end DockerLens.Json
