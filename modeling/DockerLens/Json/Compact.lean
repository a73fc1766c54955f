import DockerLens.Json.Reading

namespace DockerLens.Json

open DockerLens.Text

/-- The characters that stand for themselves in a string. -/
def plainChar (char : Char) : Bool :=
  char != '"' && char != '\\' && !decide (char.toNat < 0x20)

/-- The integers that a document has without sign, fraction and exponent. -/
def plainNumber : Number → Bool
  | .posInt magnitude => decide (magnitude < 2 ^ 64)
  | .negInt _ | .float _ => false

mutual

/-- The documents whose strings are without escapes and whose numbers are plain. -/
def plain : Value → Bool
  | .null => true
  | .bool _ => true
  | .number value => plainNumber value
  | .string text => text.toList.all plainChar
  | .array values => plainAll values
  | .object members => plainMembers members

def plainAll : List Value → Bool
  | [] => true
  | value :: values => plain value && plainAll values

def plainMembers : List (String × Value) → Bool
  | [] => true
  | (key, value) :: members => key.toList.all plainChar && (plain value && plainMembers members)

end

def quoted (text : String) : List Char := '"' :: (text.toList ++ ['"'])

def numberText : Number → List Char
  | .posInt magnitude => Nat.toDigits 10 magnitude
  | .negInt magnitude => '-' :: Nat.toDigits 10 magnitude
  | .float lexeme => lexeme

mutual

/-- The text of a plain document without white space. -/
def compact : Value → List Char
  | .null => "null".toList
  | .bool value => (if value then "true" else "false").toList
  | .number value => numberText value
  | .string text => quoted text
  | .array values => '[' :: (compactAll values).tail ++ [']']
  | .object members => '\x7b' :: (compactMembers members).tail ++ ['\x7d']

/-- Elements, each after a comma. -/
def compactAll : List Value → List Char
  | [] => []
  | value :: values => ',' :: (compact value ++ compactAll values)

/-- Members, each after a comma. -/
def compactMembers : List (String × Value) → List Char
  | [] => []
  | (key, value) :: members =>
      ',' :: (quoted key ++ ':' :: (compact value ++ compactMembers members))

end

theorem plainAll_iff {values : List Value} :
    plainAll values = true ↔ ∀ value ∈ values, plain value = true := by
  induction values with
  | nil => simp [plainAll]
  | cons value values ih => rw [plainAll, Bool.and_eq_true, ih, List.forall_mem_cons]

theorem quotes_quoted {text : String} (h : text.toList.all plainChar = true) :
    Quotes text (quoted text) := by
  have hplain : ∀ char ∈ text.toList, char ≠ '"' ∧ char ≠ '\\' ∧ ¬ char.toNat < 0x20 := by
    intro char hchar
    have hall := List.all_eq_true.mp h char hchar
    simpa [plainChar, and_assoc] using hall
  have hquotes := quotes_plain hplain
  rwa [String.ofList_toList] at hquotes

theorem spells_numberText {value : Number} (h : plainNumber value = true) :
    Spells (.number value) (numberText value) := by
  cases value with
  | posInt magnitude => exact spells_posInt (of_decide_eq_true h)
  | negInt _ | float _ => cases h

mutual

theorem spells_compact (value : Value) (h : plain value = true) :
    Spells value (compact value) := by
  cases value with
  | null => exact spells_null
  | bool value => exact spells_bool value
  | number value => exact spells_numberText h
  | string text => exact (quotes_quoted h).spells
  | array values =>
      cases values with
      | nil => exact spells_array_nil
      | cons value values =>
          exact (elements_compactAll (value :: values) h).spells (List.cons_ne_nil _ _)
  | object members =>
      cases members with
      | nil => exact spells_object_nil
      | cons member members =>
          exact @Members.spells (member :: members) _ []
            (members_compactMembers (member :: members) h) (List.cons_ne_nil _ _) rfl

theorem elements_compactAll (values : List Value) (h : plainAll values = true) :
    Elements values (compactAll values) := by
  cases values with
  | nil => exact .nil
  | cons value values =>
      rw [plainAll, Bool.and_eq_true] at h
      exact .cons (spells_compact value h.1) (elements_compactAll values h.2)

theorem members_compactMembers (members : List (String × Value))
    (h : plainMembers members = true) : Members members (compactMembers members) := by
  cases members with
  | nil => exact .nil
  | cons member members =>
      obtain ⟨key, value⟩ := member
      rw [plainMembers, Bool.and_eq_true, Bool.and_eq_true] at h
      exact .cons (quotes_quoted h.1) (spells_compact value h.2.1)
        (members_compactMembers members h.2.2)

end

theorem fromStr_compact {value : Value} {pad : List Char} (h : plain value = true)
    (hpad : pad.all isSpace = true) :
    fromStr (String.ofList (compact value ++ pad)) = some (normalize value) := by
  rw [fromStr, fromSlice, fromUtf8_asBytes]
  simp [(spells_compact value h).parse_eq hpad]

end DockerLens.Json
