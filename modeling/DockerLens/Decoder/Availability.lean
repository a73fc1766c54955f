import DockerLens.Decoder.Fields

namespace DockerLens.Decoder

open DockerLens.Json
open DockerLens.Observation
open DockerLens.Fold

/-- A path leads to a value, through objects that are no envelopes. -/
inductive Reaches : Value → List String → Value → Prop
  | here (value : Value) : Reaches value [] value
  | member {members : List (String × Value)} {component : String} {path : List String}
      {child value : Value} (hplain : isRedacted (.object members) = false)
      (hmember : members.lookup component = some child) (hrest : Reaches child path value) :
      Reaches (.object members) (component :: path) value

section Walk

variable (root : Value) (path : List String)

/-- Some object on the path lacks its component. -/
def Lacks : Prop :=
  ∃ front component back members, path = front ++ component :: back ∧
    Reaches root front (.object members) ∧ isRedacted (.object members) = false ∧
    members.lookup component = none

/-- The first null or envelope on the path, or at its end, is of some kind. -/
def Stops (stop : Value → Bool) : Prop :=
  ∃ front back value, path = front ++ back ∧ Reaches root front value ∧ stop value = true

/-- A value that is no object, and neither null nor an envelope, stands before the end. -/
def Blocked : Prop :=
  ∃ front component back value, path = front ++ component :: back ∧ Reaches root front value ∧
    value.isNull = false ∧ isRedacted value = false ∧ value.asObject = none

/-- The path ends in a value that is neither null nor an envelope. -/
structure Found (value : Value) : Prop where
  reaches : Reaches root path value
  notNull : value.isNull = false
  notRedacted : isRedacted value = false

end Walk

section

variable {root value : Value} {path front back : List String} {field : FieldPath}

theorem lookup_singleton {key name : String} {member found : Value} :
    [(name, member)].lookup key = some found ↔ key = name ∧ member = found := by
  rw [List.lookup_cons]
  split
  · next h => simp [beq_iff_eq.mp h]
  · next h => simp [beq_eq_false_iff_ne.mp h]

theorem isRedacted_eq_true_iff :
    isRedacted value = true ↔ value = .object [("__docker_lens_redacted__", .bool true)] := by
  constructor
  · intro h
    match value with
    | .null | .bool _ | .number _ | .string _ | .array _ => simp [isRedacted] at h
    | .object [] => simp [isRedacted] at h
    | .object (_ :: _ :: _) => simp [isRedacted] at h
    | .object [(key, member)] =>
        rw [isRedacted, Bool.and_eq_true] at h
        have hmember := h.2
        split at hmember
        · next hlookup =>
            rw [lookup_singleton] at hlookup
            obtain ⟨rfl, rfl⟩ := hlookup
            rfl
        · cases hmember
  · rintro rfl
    rfl

theorem Reaches.fieldValue_append (h : Reaches root front value) (back : List String)
    (field : FieldPath) :
    fieldValue root (front ++ back) field = fieldValue value back field := by
  induction h with
  | here value => rfl
  | member hplain hmember _ ih => rw [List.cons_append, fieldValue_object hplain, hmember, ← ih]

theorem Lacks.fieldValue_eq (h : Lacks root path) (field : FieldPath) :
    fieldValue root path field = .ok none := by
  obtain ⟨front, component, back, members, rfl, hreaches, hplain, hmissing⟩ := h
  rw [hreaches.fieldValue_append, fieldValue_object hplain, hmissing]

theorem Stops.fieldValue_eq {stop : Value → Bool} (h : Stops root path stop)
    (hstop : ∀ value, stop value = true → value.isNull = true ∨ isRedacted value = true)
    (field : FieldPath) :
    ∃ value, fieldValue root path field = .ok (some value) ∧ stop value = true := by
  obtain ⟨front, back, value, rfl, hreaches, hvalue⟩ := h
  refine ⟨value, ?_, hvalue⟩
  rw [hreaches.fieldValue_append]
  cases back with
  | nil => rfl
  | cons component back => rw [fieldValue, if_pos (by simpa using hstop value hvalue)]

theorem Blocked.fieldValue_eq (h : Blocked root path) (field : FieldPath) :
    fieldValue root path field = .error (.invalidShape field) := by
  obtain ⟨front, component, back, value, rfl, hreaches, hnull, hredacted, hobject⟩ := h
  rw [hreaches.fieldValue_append, fieldValue]
  simp [hnull, hredacted, hobject]

theorem Found.fieldValue_eq (h : Found root path value) (field : FieldPath) :
    fieldValue root path field = .ok (some value) := by
  have hwalk := h.reaches.fieldValue_append [] field
  rw [List.append_nil] at hwalk
  rw [hwalk, fieldValue_nil]

/-- Every path is walked in one of five ways. -/
theorem walk_cases (root : Value) (path : List String) :
    Lacks root path ∨ Stops root path Value.isNull ∨ Stops root path isRedacted ∨
      Blocked root path ∨ ∃ value, Found root path value := by
  induction path generalizing root with
  | nil =>
      by_cases hnull : root.isNull = true
      · exact .inr (.inl ⟨[], [], root, rfl, .here root, hnull⟩)
      by_cases hredacted : isRedacted root = true
      · exact .inr (.inr (.inl ⟨[], [], root, rfl, .here root, hredacted⟩))
      rw [Bool.not_eq_true] at hnull hredacted
      exact .inr (.inr (.inr (.inr ⟨root, .here root, hnull, hredacted⟩)))
  | cons component path ih =>
      by_cases hnull : root.isNull = true
      · exact .inr (.inl ⟨[], component :: path, root, rfl, .here root, hnull⟩)
      by_cases hredacted : isRedacted root = true
      · exact .inr (.inr (.inl ⟨[], component :: path, root, rfl, .here root, hredacted⟩))
      rw [Bool.not_eq_true] at hnull hredacted
      cases hobject : root.asObject with
      | none =>
          exact .inr (.inr (.inr (.inl
            ⟨[], component, path, root, rfl, .here root, hnull, hredacted, hobject⟩)))
      | some members =>
          rw [Value.asObject_eq_some_iff] at hobject
          subst hobject
          cases hmember : members.lookup component with
          | none => exact .inl ⟨[], component, path, members, rfl, .here _, hredacted, hmember⟩
          | some child =>
              -- the outcome below the child is the outcome from the object
              have hbelow : ∀ {front value}, Reaches child front value →
                  Reaches (.object members) (component :: front) value :=
                fun hreaches => .member hredacted hmember hreaches
              rcases ih child with ⟨front, last, back, found, rfl, hreaches, hrest⟩ |
                ⟨front, back, found, rfl, hreaches, hrest⟩ |
                ⟨front, back, found, rfl, hreaches, hrest⟩ |
                ⟨front, last, back, found, rfl, hreaches, hrest⟩ | ⟨found, hfound⟩
              · exact .inl ⟨_, last, back, found, rfl, hbelow hreaches, hrest⟩
              · exact .inr (.inl ⟨_, back, found, rfl, hbelow hreaches, hrest⟩)
              · exact .inr (.inr (.inl ⟨_, back, found, rfl, hbelow hreaches, hrest⟩))
              · exact .inr (.inr (.inr (.inl
                  ⟨_, last, back, found, rfl, hbelow hreaches, hrest⟩)))
              · exact .inr (.inr (.inr (.inr
                  ⟨found, hbelow hfound.reaches, hfound.notNull, hfound.notRedacted⟩)))

end

/-- Whether there is something in a value. -/
def IsEmpty (value : Value) : Prop :=
  value = .string "" ∨ value = .array [] ∨ value = .object []

/-- Just the empty values are tagged as empty. -/
def Tagged (value : Value) (availability : Availability) : Prop :=
  availability = .empty ∧ IsEmpty value ∨ availability = .present ∧ ¬IsEmpty value

theorem tagged_iff {value : Value} {availability : Availability} :
    Tagged value availability ↔ presence value = availability := by
  rw [Tagged, IsEmpty]
  match value with
  | .null | .bool _ | .number _ => simp [presence, eq_comm]
  | .string text => by_cases htext : text = "" <;> simp [presence, htext, eq_comm]
  | .array [] | .object [] => simp [presence, eq_comm]
  | .array (_ :: _) | .object (_ :: _) => simp [presence, eq_comm]

section Observe

variable {α : Type} {root : Value} {path : List String} {field : FieldPath} {origin : Origin}
  {parse : Value → Except DecodeError α}

theorem Lacks.observed_eq (h : Lacks root path) :
    observed root path field origin parse = .ok (.unavailable .missing origin) := by
  rw [observed, h.fieldValue_eq, ok_bind, observeValue]

theorem observed_eq_of_null (h : Stops root path Value.isNull) :
    observed root path field origin parse = .ok (.unavailable .null origin) := by
  obtain ⟨value, hvalue, hnull⟩ := h.fieldValue_eq (fun _ => .inl) field
  rw [observed, hvalue, ok_bind, observeValue, if_pos hnull]

theorem observed_eq_of_redacted (h : Stops root path isRedacted) :
    observed root path field origin parse = .ok (.unavailable .redacted origin) := by
  obtain ⟨value, hvalue, hredacted⟩ := h.fieldValue_eq (fun _ => .inr) field
  have hnull : value.isNull = false := by
    rw [isRedacted_eq_true_iff.mp hredacted]
    rfl
  rw [observed, hvalue, ok_bind, observeValue, if_neg (by simp [hnull]), if_pos hredacted]

theorem Blocked.observed_eq (h : Blocked root path) :
    observed root path field origin parse = .error (.invalidShape field) := by
  rw [observed, h.fieldValue_eq, error_bind]

theorem Found.observed_eq {value : Value} (h : Found root path value) :
    observed root path field origin parse =
      (parse value).map fun parsed => .present parsed (presence value) origin := by
  rw [observed, h.fieldValue_eq, ok_bind, observeValue, if_neg (by simp [h.notNull]),
    if_neg (by simp [h.notRedacted])]

/-- What an observation says about a document and a path, whatever its parser. -/
structure ObservesExactly (root : Value) (path : List String) (field : FieldPath)
    (origin : Origin) (parse : Value → Except DecodeError α) : Prop where
  missing : observed root path field origin parse = .ok (.unavailable .missing origin) ↔
    Lacks root path
  null : observed root path field origin parse = .ok (.unavailable .null origin) ↔
    Stops root path Value.isNull
  redacted : observed root path field origin parse = .ok (.unavailable .redacted origin) ↔
    Stops root path isRedacted
  error : ∀ error, observed root path field origin parse = .error error ↔
    Blocked root path ∧ error = .invalidShape field ∨
      ∃ value, Found root path value ∧ parse value = .error error
  parsed : ∀ parsed availability,
    observed root path field origin parse = .ok (.present parsed availability origin) ↔
      ∃ value, Found root path value ∧ parse value = .ok parsed ∧ Tagged value availability
  walked : Lacks root path ∨ Stops root path Value.isNull ∨ Stops root path isRedacted ∨
    Blocked root path ∨ ∃ value, Found root path value

theorem map_present_ne_unavailable {result : Except DecodeError α}
    {availability other : Availability} :
    (result.map fun parsed => Observed.present parsed availability origin) ≠
      .ok (.unavailable other origin) := by
  cases result with
  | error error => rintro ⟨⟩
  | ok parsed => simp [Except.map, Observed.present, Observed.unavailable]

theorem observesExactly (root : Value) (path : List String) (field : FieldPath) (origin : Origin)
    (parse : Value → Except DecodeError α) : ObservesExactly root path field origin parse where
  missing := by
    refine ⟨fun heq => ?_, Lacks.observed_eq⟩
    rcases walk_cases root path with h | h | h | h | ⟨value, h⟩
    · exact h
    · simp [observed_eq_of_null h, Observed.unavailable] at heq
    · simp [observed_eq_of_redacted h, Observed.unavailable] at heq
    · simp [h.observed_eq] at heq
    · exact absurd (h.observed_eq ▸ heq) map_present_ne_unavailable
  null := by
    refine ⟨fun heq => ?_, observed_eq_of_null⟩
    rcases walk_cases root path with h | h | h | h | ⟨value, h⟩
    · simp [h.observed_eq, Observed.unavailable] at heq
    · exact h
    · simp [observed_eq_of_redacted h, Observed.unavailable] at heq
    · simp [h.observed_eq] at heq
    · exact absurd (h.observed_eq ▸ heq) map_present_ne_unavailable
  redacted := by
    refine ⟨fun heq => ?_, observed_eq_of_redacted⟩
    rcases walk_cases root path with h | h | h | h | ⟨value, h⟩
    · simp [h.observed_eq, Observed.unavailable] at heq
    · simp [observed_eq_of_null h, Observed.unavailable] at heq
    · exact h
    · simp [h.observed_eq] at heq
    · exact absurd (h.observed_eq ▸ heq) map_present_ne_unavailable
  error := by
    intro error
    constructor
    · intro heq
      rcases walk_cases root path with h | h | h | h | ⟨value, h⟩
      · simp [h.observed_eq] at heq
      · simp [observed_eq_of_null h] at heq
      · simp [observed_eq_of_redacted h] at heq
      · rw [h.observed_eq, Except.error.injEq] at heq
        exact .inl ⟨h, heq.symm⟩
      · rw [h.observed_eq] at heq
        refine .inr ⟨value, h, ?_⟩
        cases hparse : parse value with
        | error raised => simpa [hparse, Except.map] using heq
        | ok parsed => simp [hparse, Except.map] at heq
    · rintro (⟨h, rfl⟩ | ⟨value, h, hparse⟩)
      · exact h.observed_eq
      · rw [h.observed_eq, hparse]
        rfl
  parsed := by
    intro parsed availability
    constructor
    · intro heq
      rcases walk_cases root path with h | h | h | h | ⟨value, h⟩
      · simp [h.observed_eq, Observed.present, Observed.unavailable] at heq
      · simp [observed_eq_of_null h, Observed.present, Observed.unavailable] at heq
      · simp [observed_eq_of_redacted h, Observed.present, Observed.unavailable] at heq
      · simp [h.observed_eq] at heq
      · rw [h.observed_eq] at heq
        obtain ⟨found, hparse, hfound⟩ := map_eq_ok heq
        simp only [Observed.present, Observed.mk.injEq, Option.some.injEq, true_and] at hfound
        exact ⟨value, h, hfound.2 ▸ hparse, tagged_iff.mpr hfound.1.symm⟩
    · rintro ⟨value, h, hparse, htagged⟩
      rw [h.observed_eq, hparse, tagged_iff.mp htagged]
      rfl
  walked := walk_cases root path

end Observe

end DockerLens.Decoder
