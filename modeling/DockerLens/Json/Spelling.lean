import DockerLens.Decimal
import DockerLens.Json.Document

namespace DockerLens.Json

open DockerLens.Text

/-- What follows a value and cannot be read as more of it. -/
def Delimited (rest : List Char) : Prop :=
  ∀ char after, rest = char :: after →
    char.isDigit = false ∧ char ≠ '.' ∧ char ≠ 'e' ∧ char ≠ 'E'

/-- A text that reads as a value wherever a delimiter follows. -/
structure Spells (value : Value) (text : List Char) : Prop where
  starts : ∃ char after, text = char :: after ∧ isSpace char = false ∧ char ≠ ']'
  parse : ∀ (fuel : Nat) (rest : List Char), 2 * text.length ≤ fuel → Delimited rest →
    parseValue fuel (text ++ rest) = some (value, rest)

/-- A quoted text that reads as a string. -/
structure Quotes (content : String) (text : List Char) : Prop where
  starts : ∃ after, text = '"' :: after
  parse : ∀ after rest, text = '"' :: after →
    parseString (after ++ rest) = some (content.toList, rest)

/-- Elements, each after a comma. -/
inductive Elements : List Value → List Char → Prop
  | nil : Elements [] []
  | cons {value : Value} {values : List Value} {text rest : List Char}
      (head : Spells value text) (tail : Elements values rest) :
      Elements (value :: values) (',' :: (text ++ rest))

/-- Members, each after a comma. -/
inductive Members : List (String × Value) → List Char → Prop
  | nil : Members [] []
  | cons {key : String} {value : Value} {members : List (String × Value)}
      {name text rest : List Char} (quotes : Quotes key name) (head : Spells value text)
      (tail : Members members rest) :
      Members ((key, value) :: members) (',' :: (name ++ ':' :: (text ++ rest)))

section Delimiters

theorem delimited_nil : Delimited [] := by
  intro char after h
  cases h

theorem delimited_cons {char : Char} {rest : List Char} (hdigit : char.isDigit = false)
    (hother : char ≠ '.' ∧ char ≠ 'e' ∧ char ≠ 'E') : Delimited (char :: rest) := by
  intro other after h
  injection h with h
  exact h ▸ ⟨hdigit, hother⟩

theorem delimited_comma (rest : List Char) : Delimited (',' :: rest) :=
  delimited_cons (by decide) (by decide)

theorem delimited_bracket (rest : List Char) : Delimited (']' :: rest) :=
  delimited_cons (by decide) (by decide)

theorem delimited_brace {pad : List Char} (hpad : pad.all isSpace = true) (rest : List Char) :
    Delimited (pad ++ '\x7d' :: rest) := by
  cases pad with
  | nil => exact delimited_cons (by decide) (by decide)
  | cons char pad =>
      rw [List.all_cons, Bool.and_eq_true] at hpad
      have hspace := hpad.1
      simp only [isSpace, Bool.or_eq_true, beq_iff_eq] at hspace
      rw [List.cons_append]
      rcases hspace with ((rfl | rfl) | rfl) | rfl <;>
        exact delimited_cons (by decide) (by decide)

theorem skipSpace_cons {char : Char} (h : isSpace char = false) (rest : List Char) :
    skipSpace (char :: rest) = char :: rest := by
  rw [skipSpace, List.dropWhile_cons_of_neg (by simp [h])]

theorem skipSpace_brace {pad : List Char} (hpad : pad.all isSpace = true) (rest : List Char) :
    skipSpace (pad ++ '\x7d' :: rest) = '\x7d' :: rest := by
  induction pad with
  | nil => exact skipSpace_cons (by decide) rest
  | cons char pad ih =>
      rw [List.all_cons, Bool.and_eq_true] at hpad
      rw [List.cons_append, skipSpace, List.dropWhile_cons_of_pos hpad.1]
      exact ih hpad.2

end Delimiters

section Scalars

theorem spells_null : Spells .null "null".toList := by
  refine ⟨⟨'n', ['u', 'l', 'l'], by simp, by decide, by decide⟩, ?_⟩
  intro fuel rest hfuel _
  cases fuel with
  | zero => simp at hfuel
  | succ fuel => simp [parseValue, skipSpace, isSpace]

theorem spells_bool (value : Bool) :
    Spells (.bool value) (if value then "true" else "false").toList := by
  cases value
  · refine ⟨⟨'f', ['a', 'l', 's', 'e'], by simp, by decide, by decide⟩, ?_⟩
    intro fuel rest hfuel _
    cases fuel with
    | zero => simp at hfuel
    | succ fuel => simp [parseValue, skipSpace, isSpace]
  · refine ⟨⟨'t', ['r', 'u', 'e'], by simp, by decide, by decide⟩, ?_⟩
    intro fuel rest hfuel _
    cases fuel with
    | zero => simp at hfuel
    | succ fuel => simp [parseValue, skipSpace, isSpace]

theorem parseString_plain {char : Char} (hquote : char ≠ '"') (hslash : char ≠ '\\')
    (hcontrol : ¬ char.toNat < 0x20) (rest : List Char) :
    parseString (char :: rest) =
      (parseString rest).map fun (text, after) => (char :: text, after) := by
  have hplain : ¬ (char.toNat < 0x20 ∨ char = '\\') := by
    rintro (h | h)
    · exact hcontrol h
    · exact hslash h
  rw [parseString.eq_def]
  split
  · next heq => cases heq
  · next heq =>
      injection heq with heq _
      exact absurd heq hquote
  · next heq =>
      injection heq with heq _
      exact absurd heq hslash
  · next heq =>
      injection heq with heq _
      exact absurd heq hslash
  · next heq =>
      injection heq with hchar hrest
      subst hchar hrest
      rw [if_neg hplain]

theorem quotes_plain {content : List Char}
    (h : ∀ char ∈ content, char ≠ '"' ∧ char ≠ '\\' ∧ ¬ char.toNat < 0x20) :
    Quotes (String.ofList content) ('"' :: (content ++ ['"'])) := by
  refine ⟨⟨_, rfl⟩, ?_⟩
  intro after rest hafter
  obtain rfl : content ++ ['"'] = after := (List.cons.inj hafter).2
  rw [List.append_assoc, String.toList_ofList]
  induction content with
  | nil => rw [List.nil_append, List.singleton_append, parseString]
  | cons char content ih =>
      rw [List.forall_mem_cons] at h
      obtain ⟨⟨hquote, hslash, hcontrol⟩, hrest⟩ := h
      rw [List.cons_append, parseString_plain hquote hslash hcontrol, ih hrest rfl]
      rfl

theorem Quotes.spells {content : String} {text : List Char} (h : Quotes content text) :
    Spells (.string content) text := by
  obtain ⟨after, rfl⟩ := h.starts
  refine ⟨⟨'"', after, rfl, by decide, by decide⟩, ?_⟩
  intro fuel rest hfuel _
  cases fuel with
  | zero => simp at hfuel
  | succ fuel =>
      rw [List.cons_append, parseValue, skipSpace_cons (by decide)]
      simp [h.parse after rest rfl]

theorem takeWhile_digits {digits rest : List Char} (hdigits : ∀ char ∈ digits, char.isDigit = true)
    (hrest : Delimited rest) :
    (digits ++ rest).takeWhile Char.isDigit = digits ∧
      (digits ++ rest).dropWhile Char.isDigit = rest := by
  have hstop : rest.takeWhile Char.isDigit = [] ∧ rest.dropWhile Char.isDigit = rest := by
    cases rest with
    | nil => exact ⟨rfl, rfl⟩
    | cons char after =>
        have hchar := (hrest char after rfl).1
        simp [hchar]
  rw [List.takeWhile_append_of_pos hdigits, List.dropWhile_append_of_pos hdigits, hstop.1,
    hstop.2, List.append_nil]
  exact ⟨rfl, rfl⟩

theorem integral_digits {value : Nat} {rest : List Char} (hrest : Delimited rest) :
    integral (Nat.toDigits 10 value ++ rest) = some (Nat.toDigits 10 value, rest) := by
  have hdigits : ∀ char ∈ Nat.toDigits 10 value, char.isDigit = true :=
    fun char hchar => Nat.isDigit_of_mem_toDigits (by decide) (by decide) hchar
  obtain ⟨htake, hdrop⟩ := takeWhile_digits hdigits hrest
  rw [integral, htake, hdrop]
  by_cases hvalue : 0 < value
  · obtain ⟨char, after, heq, hchar⟩ := head_toDigits value hvalue
    rw [heq]
    split
    · next h => cases h
    · next h =>
        injection h with h _
        exact absurd h hchar
    · next h =>
        injection h with h _
        exact absurd h hchar
    · rfl
  · have hzero : value = 0 := by omega
    subst hzero
    simp

theorem fraction_delimited {rest : List Char} (h : Delimited rest) :
    fraction rest = some ([], rest) := by
  rw [fraction.eq_def]
  split
  · next after =>
      exact absurd rfl (h '.' after rfl).2.1
  · rfl

theorem exponent_delimited {rest : List Char} (h : Delimited rest) :
    exponent rest = some ([], rest) := by
  cases rest with
  | nil => rfl
  | cons char after =>
      obtain ⟨-, -, he, hE⟩ := h char after rfl
      rw [exponent]
      simp [he, hE]

theorem parseUnsignedNumber_digits (negative : Bool) {value : Nat} {rest : List Char}
    (hrest : Delimited rest) :
    parseUnsignedNumber negative (Nat.toDigits 10 value ++ rest) =
      some (integer negative (Nat.toDigits 10 value), rest) := by
  simp [parseUnsignedNumber, integral_digits hrest, fraction_delimited hrest,
    exponent_delimited hrest]

theorem parseValue_number {char : Char} {after : List Char} (fuel : Nat)
    (hchar : char.isDigit = true ∨ char = '-') :
    parseValue (fuel + 1) (char :: after) =
      (parseNumber (char :: after)).map fun (number, rest) => (.number number, rest) := by
  have hne : char ≠ ' ' ∧ char ≠ '\t' ∧ char ≠ '\n' ∧ char ≠ '\r' ∧ char ≠ 'n' ∧ char ≠ 't' ∧
      char ≠ 'f' ∧ char ≠ '"' ∧ char ≠ '[' ∧ char ≠ '\x7b' := by
    refine ⟨?_, ?_, ?_, ?_, ?_, ?_, ?_, ?_, ?_, ?_⟩ <;>
    · rintro rfl
      revert hchar
      decide
  obtain ⟨h1, h2, h3, h4, h5, h6, h7, h8, h9, h10⟩ := hne
  have hspace : isSpace char = false := by simp [isSpace, h1, h2, h3, h4]
  rw [parseValue, skipSpace_cons hspace]
  split <;> first
    | rfl
    | (next h => injection h with h _; exact absurd h (by assumption))

theorem digitsValue_toDigits (value : Nat) : digitsValue (Nat.toDigits 10 value) = value := by
  simp [digitsValue]

theorem integer_toDigits {value : Nat} (h : value < 2 ^ 64) :
    integer false (Nat.toDigits 10 value) = .posInt value := by
  simp only [integer, digitsValue_toDigits, Bool.false_eq_true, if_false, if_pos h]

theorem integer_neg_toDigits {value : Nat} (hpos : 0 < value) (h : value ≤ 2 ^ 63) :
    integer true (Nat.toDigits 10 value) = .negInt value := by
  simp only [integer, digitsValue_toDigits, if_true, if_pos (And.intro hpos h)]

theorem spells_posInt {value : Nat} (hvalue : value < 2 ^ 64) :
    Spells (.number (.posInt value)) (Nat.toDigits 10 value) := by
  have hdigits : ∀ char ∈ Nat.toDigits 10 value, char.isDigit = true :=
    fun char hchar => Nat.isDigit_of_mem_toDigits (by decide) (by decide) hchar
  obtain ⟨char, after, heq⟩ := List.exists_cons_of_ne_nil (@Nat.toDigits_ne_nil value 10)
  have hchar : char.isDigit = true := hdigits char (by simp [heq])
  have hne : char ≠ '-' := by
    rintro rfl
    exact absurd hchar (by decide)
  constructor
  · refine ⟨char, after, heq, ?_, ?_⟩
    · rw [Bool.eq_false_iff]
      intro hspace
      simp only [isSpace, Bool.or_eq_true, beq_iff_eq] at hspace
      rcases hspace with ((rfl | rfl) | rfl) | rfl <;> revert hchar <;> decide
    · rintro rfl
      exact absurd hchar (by decide)
  · intro fuel rest hfuel hrest
    cases fuel with
    | zero => simp [heq] at hfuel
    | succ fuel =>
        have hnumber : parseNumber (Nat.toDigits 10 value ++ rest) =
            some (.posInt value, rest) := by
          rw [parseNumber.eq_def]
          split
          · next h =>
              rw [heq, List.cons_append] at h
              injection h with h _
              exact absurd h hne
          · rw [parseUnsignedNumber_digits false hrest, integer_toDigits hvalue]
        rw [heq, List.cons_append] at hnumber ⊢
        rw [parseValue_number fuel (.inl hchar), hnumber]
        rfl

theorem spells_negInt {value : Nat} (hpos : 0 < value) (hvalue : value ≤ 2 ^ 63) :
    Spells (.number (.negInt value)) ('-' :: Nat.toDigits 10 value) := by
  refine ⟨⟨'-', _, rfl, by decide, by decide⟩, ?_⟩
  intro fuel rest hfuel hrest
  cases fuel with
  | zero => simp at hfuel
  | succ fuel =>
      rw [List.cons_append, parseValue_number fuel (.inr rfl), parseNumber,
        parseUnsignedNumber_digits true hrest, integer_neg_toDigits hpos hvalue]
      rfl

end Scalars

section Lists

/-- The elements of an array up to its bracket. -/
theorem Elements.parse {values : List Value} {text : List Char}
    (h : Elements values (',' :: text)) (hne : values ≠ []) (fuel : Nat) (rest : List Char)
    (hfuel : 2 * text.length + 1 ≤ fuel) :
    parseElements fuel (text ++ ']' :: rest) = some (values, rest) := by
  induction values generalizing text fuel with
  | nil => exact absurd rfl hne
  | cons value values ih =>
      generalize htext : ',' :: text = whole at h
      cases h with
      | @cons _ _ first after head tail =>
          injection htext with _ htext
          subst htext
          obtain ⟨fuel, rfl⟩ : ∃ smaller, fuel = smaller + 1 := ⟨fuel - 1, by omega⟩
          rw [List.length_append] at hfuel
          rw [parseElements, List.append_assoc]
          cases tail with
          | nil =>
              rw [List.nil_append, head.parse fuel _ (by omega) (delimited_bracket rest)]
              simp only [skipSpace_cons (show isSpace ']' = false by decide)]
          | @cons other others second later head' tail' =>
              rw [List.cons_append, head.parse fuel _ (by omega) (delimited_comma _)]
              simp only [List.length_cons, List.length_append] at hfuel
              have hrest := ih (.cons head' tail') (by simp) fuel (by
                rw [List.length_append]
                omega)
              simp only [skipSpace_cons (show isSpace ',' = false by decide)]
              rw [hrest]
              rfl

theorem spells_array_nil : Spells (.array []) ['[', ']'] := by
  refine ⟨⟨'[', [']'], rfl, by decide, by decide⟩, ?_⟩
  intro fuel rest hfuel _
  cases fuel with
  | zero => simp at hfuel
  | succ fuel => simp [parseValue, skipSpace, isSpace]

theorem Elements.spells {values : List Value} {text : List Char}
    (h : Elements values (',' :: text)) (hne : values ≠ []) :
    Spells (.array values) ('[' :: text ++ [']']) := by
  refine ⟨⟨'[', text ++ [']'], rfl, by decide, by decide⟩, ?_⟩
  intro fuel rest hfuel _
  simp only [List.length_append, List.length_cons, List.length_nil] at hfuel
  obtain ⟨fuel, rfl⟩ : ∃ smaller, fuel = smaller + 1 := ⟨fuel - 1, by omega⟩
  have hparse := h.parse hne fuel rest (by omega)
  obtain ⟨char, after, heq, hspace, hchar⟩ : ∃ char after, text = char :: after ∧
      isSpace char = false ∧ char ≠ ']' := by
    generalize htext : ',' :: text = whole at h
    cases h with
    | nil => exact absurd rfl hne
    | cons head tail =>
        injection htext with _ htext
        obtain ⟨char, after, rfl, hspace, hchar⟩ := head.starts
        exact ⟨char, _, htext, hspace, hchar⟩
  subst heq
  simp only [List.cons_append, List.append_assoc, List.nil_append] at hparse ⊢
  rw [parseValue, skipSpace_cons (by decide)]
  simp only [skipSpace_cons hspace]
  split
  · next heq =>
      injection heq with heq _
      exact absurd heq hchar
  · rw [hparse]
    rfl

end Lists

section Objects

theorem Members.append {left right : List (String × Value)} {text rest : List Char}
    (hleft : Members left text) (hright : Members right rest) :
    Members (left ++ right) (text ++ rest) := by
  induction hleft with
  | nil => exact hright
  | cons quotes head _ ih =>
      simpa using Members.cons quotes head ih

theorem Members.singleton {key : String} {value : Value} {name text : List Char}
    (quotes : Quotes key name) (head : Spells value text) :
    Members [(key, value)] (',' :: (name ++ ':' :: text)) := by
  have h := Members.cons quotes head .nil
  rwa [List.append_nil] at h

/-- The members of an object up to its brace, which white space may precede. -/
theorem Members.parse {members : List (String × Value)} {text pad : List Char}
    (h : Members members (',' :: text)) (hne : members ≠ []) (hpad : pad.all isSpace = true)
    (fuel : Nat) (rest : List Char) (hfuel : 2 * text.length + 1 ≤ fuel) :
    parseMembers fuel (text ++ (pad ++ '\x7d' :: rest)) = some (members, rest) := by
  induction members generalizing text fuel with
  | nil => exact absurd rfl hne
  | cons member members ih =>
      generalize htext : ',' :: text = whole at h
      cases h with
      | @cons key value _ name first after quotes head tail =>
          injection htext with _ htext
          subst htext
          obtain ⟨inner, rfl⟩ := quotes.starts
          obtain ⟨fuel, rfl⟩ : ∃ smaller, fuel = smaller + 1 := ⟨fuel - 1, by omega⟩
          simp only [List.length_append, List.length_cons] at hfuel
          simp only [List.cons_append, List.append_assoc]
          rw [parseMembers, skipSpace_cons (by decide)]
          simp only [quotes.parse inner _ rfl]
          rw [skipSpace_cons (by decide)]
          cases tail with
          | nil =>
              simp only [List.nil_append]
              rw [head.parse fuel _ (by omega) (delimited_brace hpad rest)]
              simp [skipSpace_brace hpad]
          | @cons key' value' _ name' second later quotes' head' tail' =>
              simp only [List.cons_append, List.length_cons, List.length_append] at hfuel ⊢
              rw [head.parse fuel _ (by omega) (delimited_comma _)]
              have hrest := ih (.cons quotes' head' tail') (by simp) fuel (by
                simp only [List.length_append, List.length_cons]
                omega)
              simp only [skipSpace_cons (show isSpace ',' = false by decide)]
              rw [hrest]
              simp

/-- An object whose brace white space may precede. -/
theorem Members.spells {members : List (String × Value)} {text pad : List Char}
    (h : Members members (',' :: text)) (hne : members ≠ []) (hpad : pad.all isSpace = true) :
    Spells (.object members) ('\x7b' :: text ++ (pad ++ ['\x7d'])) := by
  refine ⟨⟨'\x7b', text ++ (pad ++ ['\x7d']), rfl, by decide, by decide⟩, ?_⟩
  intro fuel rest hfuel _
  simp only [List.length_append, List.length_cons, List.length_nil] at hfuel
  obtain ⟨fuel, rfl⟩ : ∃ smaller, fuel = smaller + 1 := ⟨fuel - 1, by omega⟩
  have hparse := h.parse hne hpad fuel rest (by omega)
  obtain ⟨after, heq⟩ : ∃ after, text = '"' :: after := by
    generalize htext : ',' :: text = whole at h
    cases h with
    | nil => exact absurd rfl hne
    | cons quotes head tail =>
        injection htext with _ htext
        obtain ⟨inner, rfl⟩ := quotes.starts
        exact ⟨_, htext⟩
  subst heq
  simp only [List.cons_append, List.append_assoc, List.nil_append] at hparse ⊢
  rw [parseValue, skipSpace_cons (by decide)]
  simp only [skipSpace_cons (show isSpace '"' = false by decide)]
  split
  · next heq =>
      injection heq with heq _
      exact absurd heq (by decide)
  · rw [hparse]
    rfl

theorem spells_object_nil : Spells (.object []) ['\x7b', '\x7d'] := by
  refine ⟨⟨'\x7b', ['\x7d'], rfl, by decide, by decide⟩, ?_⟩
  intro fuel rest hfuel _
  cases fuel with
  | zero => simp at hfuel
  | succ fuel => simp [parseValue, skipSpace, isSpace]

end Objects

theorem Spells.parse_eq {value : Value} {text pad : List Char} (h : Spells value text)
    (hpad : pad.all isSpace = true) : Json.parse (text ++ pad) = some value := by
  have hdelimited : Delimited pad := by
    cases pad with
    | nil => exact delimited_nil
    | cons char pad =>
        rw [List.all_cons, Bool.and_eq_true] at hpad
        have hspace := hpad.1
        simp only [isSpace, Bool.or_eq_true, beq_iff_eq] at hspace
        rcases hspace with ((rfl | rfl) | rfl) | rfl <;>
          exact delimited_cons (by decide) (by decide)
  have hskip : skipSpace pad = [] := by
    rw [skipSpace, ← List.append_nil pad, List.dropWhile_append_of_pos (List.all_eq_true.mp hpad)]
    rfl
  rw [Json.parse, h.parse _ pad (by rw [List.length_append]; omega) hdelimited]
  simp [hskip]

section Unique

/-- No object holds two members of one key. -/
inductive UniqueKeys : Value → Prop
  | null : UniqueKeys .null
  | bool (value : Bool) : UniqueKeys (.bool value)
  | number (value : Number) : UniqueKeys (.number value)
  | string (value : String) : UniqueKeys (.string value)
  | array {values : List Value} (elements : ∀ value ∈ values, UniqueKeys value) :
      UniqueKeys (.array values)
  | object {members : List (String × Value)} (keys : (members.map Prod.fst).Nodup)
      (values : ∀ member ∈ members, UniqueKeys member.2) : UniqueKeys (.object members)

end Unique

section Fields

/-- The members of an object that are there. -/
def present : List (String × Option Value) → List (String × Value)
  | [] => []
  | (key, value) :: fields => (value.toList.map fun value => (key, value)) ++ present fields

/-- An object some of whose members may be absent. -/
def fieldsObject (fields : List (String × Option Value)) : Value := .object (present fields)

@[simp] theorem present_append (left right : List (String × Option Value)) :
    present (left ++ right) = present left ++ present right := by
  induction left with
  | nil => rfl
  | cons field left ih =>
      rw [List.cons_append, present, present, ih, List.append_assoc]

theorem mem_present {fields : List (String × Option Value)} {member : String × Value} :
    member ∈ present fields ↔ (member.1, some member.2) ∈ fields := by
  induction fields with
  | nil => simp [present]
  | cons field fields ih =>
      obtain ⟨key, value⟩ := field
      rw [present, List.mem_append, ih, List.mem_cons]
      cases value with
      | none => simp
      | some value => simp [Prod.ext_iff]

theorem keys_present_sublist (fields : List (String × Option Value)) :
    ((present fields).map Prod.fst).Sublist (fields.map Prod.fst) := by
  induction fields with
  | nil => exact .refl _
  | cons field fields ih =>
      obtain ⟨key, value⟩ := field
      cases value with
      | none => exact ih.cons key
      | some value => exact ih.cons_cons key

theorem lookup_present {fields : List (String × Option Value)}
    (h : (fields.map Prod.fst).Nodup) (key : String) :
    (present fields).lookup key = (fields.lookup key).join := by
  induction fields with
  | nil => rfl
  | cons field fields ih =>
      obtain ⟨name, value⟩ := field
      rw [List.map_cons, List.nodup_cons] at h
      rw [present, List.lookup_cons]
      cases value with
      | none =>
          rw [Option.toList_none, List.map_nil, List.nil_append, ih h.2]
          by_cases hkey : key = name
          · subst hkey
            have hnone : fields.lookup key = none := by
              rw [List.lookup_eq_none_iff]
              intro other hother
              have hne : key ≠ other.1 := by
                intro heq
                have hmem : other.1 ∈ fields.map Prod.fst := List.mem_map_of_mem hother
                exact h.1 (heq ▸ hmem)
              simpa using hne
            simp [hnone]
          · have hbeq : (key == name) = false := by simpa using hkey
            rw [hbeq]
      | some value =>
          simp only [Option.toList_some, List.map_cons, List.map_nil, List.cons_append,
            List.nil_append, List.lookup_cons, ih h.2]
          cases key == name <;> rfl

theorem uniqueKeys_fields {fields : List (String × Option Value)}
    (hkeys : (fields.map Prod.fst).Nodup)
    (hvalues : ∀ field ∈ fields, ∀ value, field.2 = some value → UniqueKeys value) :
    UniqueKeys (fieldsObject fields) := by
  apply UniqueKeys.object
  · exact hkeys.sublist (keys_present_sublist fields)
  · intro member hmember
    exact hvalues _ (mem_present.mp hmember) member.2 rfl

end Fields

end DockerLens.Json
