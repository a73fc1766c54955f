import Mathlib.Logic.Function.Basic
import DockerLens.Decoder.Availability
import DockerLens.Decoder.Resources
import DockerLens.Json.Reading

namespace DockerLens.Decoder

open DockerLens.Text
open DockerLens.Json
open DockerLens.Observation
open DockerLens.Acquisition
open DockerLens.Fold

/-- An object with these members: it is no envelope, and it is not too large. -/
structure Known (root : Value) (fields : String → Option Value) : Prop where
  bounded : ∃ members, root = .object members ∧ members.length ≤ maxCollectionItems
  plain : isRedacted root = false
  get : ∀ key, root.get key = fields key

theorem isRedacted_of_get_none {value : Value} (h : value.get "__docker_lens_redacted__" = none) :
    isRedacted value = false := by
  rw [Bool.eq_false_iff]
  intro hredacted
  rw [isRedacted_eq_true_iff] at hredacted
  rw [hredacted] at h
  cases h

namespace Known

variable {root child : Value} {fields inner : String → Option Value}

theorem object_eq (h : Known root fields) (field : FieldPath) :
    ∃ members, object root field = .ok members := by
  obtain ⟨members, rfl, hlength⟩ := h.bounded
  refine ⟨members, ?_⟩
  rw [object, Value.asObject, shaped, ok_bind, if_neg (Nat.not_lt.mpr hlength)]

theorem fieldValue_eq (h : Known root fields) (key : String) (path : List String)
    (field : FieldPath) :
    fieldValue root (key :: path) field =
      (fields key).elim (.ok none) fun value => fieldValue value path field := by
  obtain ⟨members, rfl, -⟩ := h.bounded
  rw [fieldValue_object h.plain, ← h.get, Value.get_object]
  cases members.lookup key <;> rfl

variable {α : Type} {parse : Value → Except DecodeError α} {field : FieldPath} {origin : Origin}

theorem observed_eq (h : Known root fields) (key : String) :
    observed root [key] field origin parse = observeValue origin parse (fields key) := by
  rw [observed, h.fieldValue_eq]
  cases fields key <;> rfl

theorem observed_none (h : Known root fields) {key : String} (hkey : fields key = none)
    (path : List String) :
    observed root (key :: path) field origin parse = .ok (.unavailable .missing origin) := by
  rw [observed, h.fieldValue_eq, hkey]
  rfl

theorem observed_some (h : Known root fields) {key : String} (hkey : fields key = some child)
    (hchild : Known child inner) (name : String) :
    observed root [key, name] field origin parse = observeValue origin parse (inner name) := by
  rw [← hchild.observed_eq, observed, observed, h.fieldValue_eq, hkey]
  rfl

theorem exists_members {fields : List (String × Option Value)}
    (hkeys : (fields.map Prod.fst).Nodup) :
    ∃ members, Json.normalize (fieldsObject fields) = .object members ∧
      members.length ≤ fields.length := by
  have hpresent : ((present fields).map Prod.fst).Nodup :=
    hkeys.sublist (keys_present_sublist fields)
  have hnormal : (((present fields).map fun member => (member.1, Json.normalize member.2)).map
      Prod.fst).Nodup := by
    rw [List.map_map]
    exact hpresent
  refine ⟨_, by rw [fieldsObject, Json.normalize, normalizeMembers_eq_map], ?_⟩
  rw [(sortMembers_perm hnormal).length_eq, List.length_map]
  simpa using (keys_present_sublist fields).length_le

theorem ofFields {fields : List (String × Option Value)}
    (hkeys : ("__docker_lens_redacted__" :: fields.map Prod.fst).Nodup)
    (hlength : fields.length ≤ maxCollectionItems) :
    Known (Json.normalize (fieldsObject fields))
      fun key => ((fields.lookup key).join).map Json.normalize := by
  obtain ⟨hname, hkeys⟩ := List.nodup_cons.mp hkeys
  refine ⟨?_, ?_, get_normalize_fields hkeys⟩
  · obtain ⟨members, hobject, hmembers⟩ := exists_members hkeys
    exact ⟨members, hobject, Nat.le_trans hmembers hlength⟩
  · apply isRedacted_of_get_none
    rw [get_normalize_fields hkeys, List.lookup_eq_none_iff.mpr]
    · rfl
    · intro field hfield
      rw [bne_iff_ne]
      intro hkey
      exact hname (hkey ▸ List.mem_map_of_mem hfield)

end Known

/-- An object with one more member, as a map holds it. -/
def withMember (key : String) (value : Value) : Value → Value
  | .object members => .object (insertMember (key, value) members)
  | other => other

theorem length_insertMember (member : String × Value) (members : List (String × Value)) :
    (insertMember member members).length ≤ members.length + 1 := by
  induction members with
  | nil => simp [insertMember]
  | cons other members ih =>
      rw [insertMember]
      split
      · simp
      · split
        · simp
        · simpa using ih

theorem Known.withMember {root : Value} {fields : String → Option Value} (h : Known root fields)
    {key : String} (hname : key ≠ "__docker_lens_redacted__") (value : Value)
    {members : List (String × Value)} (hroot : root = .object members)
    (hlength : members.length < maxCollectionItems) :
    Known (withMember key value root) (Function.update fields key (some value)) := by
  subst hroot
  have hget : ∀ other, (Decoder.withMember key value (.object members)).get other =
      Function.update fields key (some value) other := by
    intro other
    rw [Decoder.withMember, Value.get_object, lookup_insertMember, Function.update_apply,
      ← h.get other, Value.get_object]
  refine ⟨⟨_, rfl, ?_⟩, ?_, hget⟩
  · exact Nat.le_trans (length_insertMember _ _) hlength
  · have hself := hget key
    rw [Function.update_self] at hself
    exact isRedacted_of_get hself hname

section Values

/-- A text that was read. -/
def readText (origin : Origin) (text : Bytes) : Observed ProtectedValue :=
  .present text (if text.isEmpty then .empty else .present) origin

/-- What is read of a member that may be absent. -/
def readSome {α β : Type} (origin : Origin) (read : α → Observed β) : Option α → Observed β
  | none => .unavailable .missing origin
  | some a => read a

theorem presence_string (text : String) :
    presence (.string text) = if (asBytes text).isEmpty then .empty else .present := by
  have hempty : (asBytes text).isEmpty = true ↔ text = "" := by simp
  rw [presence]
  by_cases htext : text = ""
  · rw [if_pos htext, if_pos (hempty.mpr htext)]
  · rw [if_neg htext, if_neg (fun h => htext (hempty.mp h))]

variable {field : FieldPath} {origin : Origin}

theorem observe_string (text : String) :
    observeValue origin (fun value => string value field) (some (.string text)) =
      .ok (readText origin (asBytes text)) := by
  rw [observeValue, if_neg (by simp [Value.isNull]), if_neg (by simp), string, Value.asStr_string,
    Option.map_some, shaped, Except.map, presence_string]
  rfl

theorem observe_bool (flag : Bool) :
    observeValue origin (fun value => shaped field value.asBool) (some (.bool flag)) =
      .ok (.present flag .present origin) := by
  rfl

theorem observe_object {α : Type} {parse : Value → Except DecodeError α}
    {members : List (String × Value)} {parsed : α} (hne : members ≠ [])
    (hplain : isRedacted (.object members) = false)
    (hparse : parse (.object members) = .ok parsed) :
    observeValue origin parse (some (.object members)) = .ok (.present parsed .present origin) := by
  have hpresence : presence (.object members) = .present := by
    cases members with
    | nil => exact absurd rfl hne
    | cons member members => rfl
  rw [observeValue, if_neg (by simp [Value.isNull]), if_neg (by simp [hplain]), hparse, Except.map,
    hpresence]

theorem observe_array {α : Type} {parse : Value → Except DecodeError α} {values : List Value}
    {parsed : α} (hparse : parse (.array values) = .ok parsed) :
    observeValue origin parse (some (.array values)) =
      .ok (.present parsed (if values.isEmpty then .empty else .present) origin) := by
  have hpresence : presence (.array values) = if values.isEmpty then .empty else .present := by
    cases values <;> rfl
  rw [observeValue, if_neg (by simp [Value.isNull]), if_neg (by simp [isRedacted]), hparse,
    Except.map, hpresence]

theorem array_eq_ok {values : List Value} (h : values.length ≤ maxCollectionItems) :
    array (.array values) field = .ok values := by
  rw [array, Value.asArray, shaped, ok_bind, if_neg (Nat.not_lt.mpr h)]

theorem object_eq_ok {members : List (String × Value)}
    (h : members.length ≤ maxCollectionItems) : object (.object members) field = .ok members := by
  rw [object, Value.asObject, shaped, ok_bind, if_neg (Nat.not_lt.mpr h)]

theorem mapM_zipIdx_ok {α β : Type} {f : α × Nat → Except DecodeError β} {values : List α}
    {results : List β}
    (h : List.Forall₂ (fun a b => ∀ index, f (a, index) = .ok b) values results) (start : Nat) :
    (values.zipIdx start).mapM f = .ok results := by
  induction h generalizing start with
  | nil => rfl
  | cons hhead _ ih =>
      rw [List.zipIdx_cons, List.mapM_cons, hhead start, ok_bind, ih, ok_bind]
      rfl

end Values

section Maps

variable {α β : Type} {origin : Origin}

/-- An entry of a map of texts that was read. -/
def readEntry (entry : Bytes × Bytes) : MapEntryObservation :=
  ⟨entry.1, readText .effective entry.2⟩

def readLabel (entry : Bytes × Bytes) : LabelObservation :=
  ⟨entry.1, readText .effective entry.2⟩

/-- A member with a list is read as a list of these values, in some order, and it is missing when
there are none. -/
def Collected (origin : Origin) (expected : List β) (found : Observed (List β)) : Prop :=
  (expected = [] → found = .unavailable .missing origin) ∧
    (expected ≠ [] → ∃ values, found = .present values .present origin ∧ values.Perm expected)

theorem normalize_map {entry : α → String × Value} {values : List α}
    (h : ((values.map entry).map Prod.fst).Nodup) :
    ∃ kept : List α, kept.Perm values ∧ Json.normalize (.object (values.map entry)) =
      .object (kept.map fun a => ((entry a).1, Json.normalize (entry a).2)) := by
  have hmembers : (values.map entry).map (fun member => (member.1, Json.normalize member.2)) =
      values.map fun a => ((entry a).1, Json.normalize (entry a).2) := List.map_map
  have hkeys : ((values.map fun a => ((entry a).1, Json.normalize (entry a).2)).map
      Prod.fst).Nodup := by
    rw [List.map_map] at h ⊢
    exact h
  have hperm := sortMembers_perm hkeys
  have hkept : Relation.Comp
      (· = List.map (fun a => ((entry a).1, Json.normalize (entry a).2)) ·) List.Perm
      (sortMembers (values.map fun a => ((entry a).1, Json.normalize (entry a).2))) values := by
    rw [List.eq_map_comp_perm]
    exact hperm
  obtain ⟨kept, hsorted, hkept⟩ := hkept
  refine ⟨kept, hkept, ?_⟩
  rw [Json.normalize, normalizeMembers_eq_map, hmembers, hsorted]

theorem isRedacted_map {entry : α → String × Value} {values : List α}
    (h : ∀ a ∈ values, (entry a).2 ≠ .bool true) :
    isRedacted (.object (values.map entry)) = false := by
  rw [Bool.eq_false_iff]
  intro hredacted
  rw [isRedacted_eq_true_iff, Value.object.injEq] at hredacted
  obtain ⟨a, rest, hvalues, ha, -⟩ := List.map_eq_cons_iff.mp hredacted
  apply h a (hvalues ▸ List.mem_cons_self)
  rw [ha]

theorem observe_map (parse : Value → Except DecodeError (List β)) {entry : α → String × Value}
    {read : α → β} {values : List α}
    (hparse : ∀ kept : List α, (∀ a ∈ kept, a ∈ values) → kept.length ≤ maxCollectionItems →
      parse (.object (kept.map fun a => ((entry a).1, Json.normalize (entry a).2))) =
        .ok (kept.map read))
    (hplain : ∀ a ∈ values, Json.normalize (entry a).2 ≠ .bool true)
    (hkeys : ((values.map entry).map Prod.fst).Nodup)
    (hlength : values.length ≤ maxCollectionItems) (hne : values ≠ []) :
    ∃ found, observeValue origin parse (some (Json.normalize (.object (values.map entry)))) =
        .ok (.present found .present origin) ∧ found.Perm (values.map read) := by
  obtain ⟨kept, hperm, hnormal⟩ := normalize_map hkeys
  have hmem : ∀ a ∈ kept, a ∈ values := fun a ha => hperm.mem_iff.mp ha
  refine ⟨kept.map read, ?_, hperm.map read⟩
  rw [hnormal]
  apply observe_object
  · intro hempty
    have hkept : kept = [] := List.map_eq_nil_iff.mp hempty
    rw [hkept] at hperm
    exact hne hperm.nil_eq.symm
  · exact isRedacted_map fun a ha => hplain a (hmem a ha)
  · exact hparse kept hmem (hperm.length_eq ▸ hlength)

theorem mapEntries_texts {name text : α → String} (field : FieldPath) {kept : List α}
    (hlength : kept.length ≤ maxCollectionItems) :
    mapEntries (.object (kept.map fun a => (name a, .string (text a)))) field =
      .ok (kept.map fun a => readEntry (asBytes (name a), asBytes (text a))) := by
  rw [mapEntries, object_eq_ok (by rwa [List.length_map]), ok_bind, mapM_eq_ok_iff,
    List.forall₂_map_left_iff, List.forall₂_map_right_iff, List.forall₂_same]
  intro a _
  rw [mapEntry, observed, fieldValue_nil, ok_bind, observe_string]
  rfl

theorem labels_texts {name text : α → String} {kept : List α}
    (hlength : kept.length ≤ maxCollectionItems) :
    labels (.object (kept.map fun a => (name a, .string (text a)))) =
      .ok (kept.map fun a => readLabel (asBytes (name a), asBytes (text a))) := by
  have hlabel : ∀ a ∈ kept, ∀ index, label ((name a, .string (text a)), index) =
      .ok (readLabel (asBytes (name a), asBytes (text a))) := by
    intro a _ index
    rw [label, labelValue, if_neg (by simp [Value.isNull]), if_neg (by simp), string,
      Value.asStr_string]
    rfl
  rw [labels, object_eq_ok (by rwa [List.length_map]), ok_bind]
  apply mapM_zipIdx_ok
  rw [List.forall₂_map_left_iff, List.forall₂_map_right_iff, List.forall₂_same]
  exact hlabel

end Maps

end DockerLens.Decoder
