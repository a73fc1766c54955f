import DockerLens.Json.Spelling
import DockerLens.Render.Text

namespace DockerLens.Render

open DockerLens.Text
open DockerLens.Json
open DockerLens.Fold
open DockerLens.Target

/-- A rendering that succeeds with a text of some kind. -/
def Writes (kind : Chars → Prop) (rendered : Rendered Chars) : Prop :=
  ∃ text, rendered = .ok text ∧ kind text

/-- A rendering of members, each after a comma. -/
def WritesFields (fields : List (String × Option Value)) : Rendered Chars → Prop :=
  Writes (Members (present fields))

/-- A rendering of nonempty elements without the first comma. -/
def WritesElements (values : List Value) : Rendered Chars → Prop :=
  Writes fun text => Elements values (',' :: text)

/-- A rendering of nonempty members without the first comma. -/
def WritesMembers (members : List (String × Value)) : Rendered Chars → Prop :=
  Writes fun text => Members members (',' :: text)

theorem Writes.mono {kind kind' : Chars → Prop} {rendered : Rendered Chars}
    (h : Writes kind rendered) (himp : ∀ text, kind text → kind' text) :
    Writes kind' rendered := by
  obtain ⟨text, hok, htext⟩ := h
  exact ⟨text, hok, himp text htext⟩

theorem writes_ok {kind : Chars → Prop} {text : Chars} (h : kind text) : Writes kind (.ok text) :=
  ⟨text, rfl, h⟩

section Strings

/-- The text that bytes encode; bytes that encode none have the empty one. -/
def decoded (bytes : Bytes) : String := (fromUtf8 bytes).getD ""

theorem asBytes_decoded {bytes : Bytes} (h : isUtf8 bytes = true) :
    asBytes (decoded bytes) = bytes := by
  obtain ⟨text, htext⟩ := isUtf8_iff.mp h
  rw [decoded, htext]
  exact asBytes_of_fromUtf8 htext

@[simp] theorem decoded_asBytes (text : String) : decoded (asBytes text) = text := by
  rw [decoded, fromUtf8_asBytes]
  rfl

theorem decoded_inj {left right : Bytes} (hleft : isUtf8 left = true)
    (hright : isUtf8 right = true) : decoded left = decoded right ↔ left = right := by
  constructor
  · intro h
    rw [← asBytes_decoded hleft, h, asBytes_decoded hright]
  · rintro rfl
    rfl

theorem hexCode_hex4 {code : Nat} (h : code ≤ 0x1f) :
    ∃ a b c d, hex4 code = [a, b, c, d] ∧ hexCode a b c d = some code := by
  have hall : ∀ code : Fin 32, ∃ a b c d, hex4 code.val = [a, b, c, d] ∧
      hexCode a b c d = some code.val := by
    intro code
    have hlength : (hex4 code.val).length = 4 := by
      revert code
      decide +kernel
    obtain ⟨a, b, c, d, heq⟩ := List.length_eq_four.mp hlength
    refine ⟨a, b, c, d, heq, ?_⟩
    have hcode : ∀ code : Fin 32, hexCode ((hex4 code.val).getD 0 '0')
        ((hex4 code.val).getD 1 '0') ((hex4 code.val).getD 2 '0')
        ((hex4 code.val).getD 3 '0') = some code.val := by
      decide +kernel
    have := hcode code
    rwa [heq] at this
  exact hall ⟨code, by omega⟩

theorem printed_escape (char : Char) : ∀ written ∈ escape char, 0x20 ≤ written.toNat := by
  rw [escape]
  split
  · exact forall_mem_of_all (by decide)
  split
  · exact forall_mem_of_all (by decide)
  split
  · exact forall_mem_of_all (by decide)
  split
  · exact forall_mem_of_all (by decide)
  split
  · exact forall_mem_of_all (by decide)
  split
  · next h =>
      have hall : ∀ code : Fin 32, ('\\' :: 'u' :: hex4 code.val).all fun written =>
          decide (0x20 ≤ written.toNat) := by
        decide +kernel
      exact forall_mem_of_all (hall ⟨char.toNat, by omega⟩)
  · next h =>
      rw [List.forall_mem_singleton]
      omega

/-- Reading an escaped character gives it back. -/
theorem parseString_escape (char : Char) (rest : Chars) :
    parseString (escape char ++ rest) =
      (parseString rest).map fun (text, after) => (char :: text, after) := by
  rw [escape]
  split
  · next h =>
      subst h
      simp [parseString, simpleEscape]
  split
  · next h =>
      subst h
      simp [parseString, simpleEscape]
  split
  · next h =>
      subst h
      simp [parseString, simpleEscape]
  split
  · next h =>
      subst h
      simp [parseString, simpleEscape]
  split
  · next h =>
      subst h
      simp [parseString, simpleEscape]
  split
  · next h =>
      obtain ⟨a, b, c, d, heq, hcode⟩ := hexCode_hex4 h
      have hlow : char.toNat < 0xD800 := by omega
      simp [heq, parseString, hcode, hlow, Char.ofNat_toNat]
  · next hquote hslash _ _ _ hcontrol =>
      rw [List.singleton_append]
      exact parseString_plain hquote hslash (by omega) rest

theorem parseString_escapes (chars rest : Chars) :
    parseString (chars.flatMap escape ++ '"' :: rest) = some (chars, rest) := by
  induction chars with
  | nil => simp [parseString]
  | cons char chars ih =>
      rw [List.flatMap_cons, List.append_assoc, parseString_escape, ih]
      rfl

theorem quotes_escapes (content : String) :
    Quotes content ('"' :: content.toList.flatMap escape ++ ['"']) := by
  constructor
  · exact ⟨content.toList.flatMap escape ++ ['"'], rfl⟩
  · intro after rest h
    rw [List.cons_append] at h
    injection h with _ h
    rw [← h, List.append_assoc]
    exact parseString_escapes content.toList rest

theorem writes_jsonString {bytes : Bytes} (h : isUtf8 bytes = true) :
    Writes (Quotes (decoded bytes)) (jsonString bytes) := by
  obtain ⟨content, hcontent⟩ := isUtf8_iff.mp h
  rw [jsonString, decoded, hcontent]
  exact writes_ok (quotes_escapes content)

/-- The JSON value of a rendered string. -/
def stringValue (bytes : Bytes) : Value := .string (decoded bytes)

theorem spells_jsonString {bytes : Bytes} (h : isUtf8 bytes = true) :
    Writes (Spells (stringValue bytes)) (jsonString bytes) :=
  (writes_jsonString h).mono fun _ => Quotes.spells

/-- A key that needs no escapes, in quotes. -/
def keyText (key : String) : Chars := '"' :: key.toList ++ ['"']

/-- No character of the key is escaped. -/
def PlainKey (key : String) : Prop := key.toList.flatMap escape = key.toList

instance (key : String) : Decidable (PlainKey key) :=
  inferInstanceAs (Decidable (_ = _))

theorem quotes_keyText {key : String} (h : PlainKey key) : Quotes key (keyText key) := by
  rw [keyText, ← h]
  exact quotes_escapes key

end Strings

section Pushes

theorem pushes_eq_ok {parts : List (Rendered Chars)} {texts : List Chars}
    (h : List.Forall₂ (fun part text => part = .ok text) parts texts) :
    pushes parts = .ok texts.flatten := by
  have hmap : parts.mapM id = .ok texts := mapM_eq_ok_iff.mpr h
  rw [pushes, hmap]
  rfl

theorem pushes_cons {part : Rendered Chars} {parts : List (Rendered Chars)} {text rest : Chars}
    (hpart : part = .ok text) (hrest : pushes parts = .ok rest) :
    pushes (part :: parts) = .ok (text ++ rest) := by
  subst hpart
  rw [pushes, List.mapM_cons]
  rw [pushes] at hrest
  cases hmap : parts.mapM id with
  | error => simp [hmap, Except.map] at hrest
  | ok texts =>
      simp only [hmap, Except.map, Except.ok.injEq] at hrest
      rw [← hrest]
      rfl

theorem pushes_cons_eq (part : Rendered Chars) (parts : List (Rendered Chars)) :
    pushes (part :: parts) = part >>= fun text => (pushes parts).map (text ++ ·) := by
  rw [pushes, pushes, List.mapM_cons]
  cases part with
  | error => rfl
  | ok text => cases parts.mapM id <;> simp [ok_bind, Except.map]

theorem pushes_nested (parts rest : List (Rendered Chars)) :
    pushes (pushes parts :: rest) = pushes (parts ++ rest) := by
  induction parts with
  | nil =>
      rw [List.nil_append, pushes_cons_eq, show pushes [] = .ok [] from rfl, ok_bind]
      cases pushes rest <;> rfl
  | cons part parts ih =>
      rw [pushes_cons_eq] at ih
      rw [List.cons_append, pushes_cons_eq, pushes_cons_eq, pushes_cons_eq, ← ih]
      cases part with
      | error => rfl
      | ok text =>
          rw [ok_bind, ok_bind]
          cases pushes parts with
          | error => rfl
          | ok middle => cases pushes rest <;> simp [Except.map, ok_bind]

theorem pushes_tail {rest rest' : List (Rendered Chars)} (parts : List (Rendered Chars))
    (h : pushes rest = pushes rest') : pushes (parts ++ rest) = pushes (parts ++ rest') := by
  rw [← pushes_nested, ← pushes_nested, pushes_cons_eq, pushes_cons_eq, h]

/-- Pushes of members, up to a closing text. -/
inductive Parts (closing : Chars) :
    List (Rendered Chars) → List (String × Option Value) → Prop
  | close {text : String} (hclosing : text.toList = closing) : Parts closing [push text] []
  | fields {part : Rendered Chars} {fields rest : List (String × Option Value)}
      {parts : List (Rendered Chars)} (head : WritesFields fields part)
      (tail : Parts closing parts rest) : Parts closing (part :: parts) (fields ++ rest)
  | keyed {text : String} {part : Rendered Chars} {key : String} {value : Value}
      {rest : List (String × Option Value)} {parts : List (Rendered Chars)}
      (hkey : PlainKey key ∧ text.toList = ',' :: (keyText key ++ [':']))
      (head : Writes (Spells value) part) (tail : Parts closing parts rest) :
      Parts closing (push text :: part :: parts) ((key, some value) :: rest)
  | fixed {text : String} {key : String} {value : Value} {spelling : Chars}
      {rest : List (String × Option Value)} {parts : List (Rendered Chars)}
      (hkey : PlainKey key ∧ text.toList = ',' :: (keyText key ++ ':' :: spelling))
      (head : Spells value spelling) (tail : Parts closing parts rest) :
      Parts closing (push text :: parts) ((key, some value) :: rest)

theorem Parts.writes {closing : Chars} {parts : List (Rendered Chars)}
    {fields : List (String × Option Value)} (h : Parts closing parts fields) :
    ∃ text, pushes parts = .ok (text ++ closing) ∧ Members (present fields) text := by
  induction h with
  | @close text hclosing =>
      have hpushes := pushes_cons (@rfl _ (push text)) (pushes_eq_ok .nil)
      exact ⟨[], by simpa [hclosing] using hpushes, .nil⟩
  | fields head _ ih =>
      obtain ⟨text, htext, hmembers⟩ := head
      obtain ⟨rest, hrest, hall⟩ := ih
      refine ⟨text ++ rest, ?_, ?_⟩
      · rw [pushes_cons htext hrest, List.append_assoc]
      · rw [present_append]
        exact hmembers.append hall
  | @keyed opening part key value rest parts hkey head _ ih =>
      obtain ⟨text, htext, hspells⟩ := head
      obtain ⟨after, hafter, hall⟩ := ih
      have hpushes := pushes_cons (@rfl _ (push opening)) (pushes_cons htext hafter)
      refine ⟨',' :: (keyText key ++ ':' :: text) ++ after, ?_, ?_⟩
      · rw [hpushes, hkey.2]
        simp
      · exact (Members.singleton (quotes_keyText hkey.1) hspells).append hall
  | @fixed opening key value spelling rest parts hkey head _ ih =>
      obtain ⟨after, hafter, hall⟩ := ih
      have hpushes := pushes_cons (@rfl _ (push opening)) hafter
      refine ⟨',' :: (keyText key ++ ':' :: spelling) ++ after, ?_, ?_⟩
      · rw [hpushes, hkey.2]
        simp
      · exact (Members.singleton (quotes_keyText hkey.1) head).append hall

/-- The closing text of an object: a brace, which white space may precede. -/
def Closes (closing : Chars) : Prop :=
  ∃ pad, closing = pad ++ ['\x7d'] ∧ pad.all isSpace = true

theorem closes_brace : Closes "\x7d".toList := ⟨[], rfl, rfl⟩

/-- Members that hold fixed texts, each before a comma. -/
def fixedText : List (String × String) → Chars
  | [] => []
  | (key, text) :: members => keyText key ++ ':' :: (keyText text ++ ',' :: fixedText members)

def fixedFields (members : List (String × String)) : List (String × Option Value) :=
  members.map fun member => (member.1, some (.string member.2))

theorem members_fixedText {members : List (String × String)} {fields : List (String × Value)}
    {text : Chars} (hplain : ∀ member ∈ members, PlainKey member.1 ∧ PlainKey member.2)
    (h : Members fields (',' :: text)) :
    Members (present (fixedFields members) ++ fields) (',' :: (fixedText members ++ text)) := by
  induction members with
  | nil => exact h
  | cons member members ih =>
      rw [List.forall_mem_cons] at hplain
      have hmember := Members.cons (quotes_keyText hplain.1.1)
        (quotes_keyText hplain.1.2).spells (ih hplain.2)
      simpa [fixedFields, fixedText, present] using hmember

theorem spells_opened {fixed : List (String × String)} {opening : String}
    {part : Rendered Chars} {key : String} {value : Value}
    {fields : List (String × Option Value)} {closing : Chars} {parts : List (Rendered Chars)}
    (hplain : ∀ member ∈ fixed, PlainKey member.1 ∧ PlainKey member.2)
    (hopening : PlainKey key ∧
      opening.toList = '\x7b' :: (fixedText fixed ++ (keyText key ++ [':'])))
    (hfirst : Writes (Spells value) part) (hclosing : Closes closing)
    (hrest : Parts closing parts fields) :
    Writes (Spells (fieldsObject (fixedFields fixed ++ (key, some value) :: fields)))
      (pushes (push opening :: part :: parts)) := by
  obtain ⟨text, htext, hspells⟩ := hfirst
  obtain ⟨rest, hpushes, hmembers⟩ := hrest.writes
  obtain ⟨pad, rfl, hpad⟩ := hclosing
  have hlast : Members (present ((key, some value) :: fields))
      (',' :: (keyText key ++ ':' :: text ++ rest)) := by
    have h := (Members.singleton (quotes_keyText hopening.1) hspells).append hmembers
    simpa [present] using h
  refine ⟨_, pushes_cons rfl (pushes_cons htext hpushes), ?_⟩
  have h := (members_fixedText hplain hlast).spells (by simp [present]) hpad
  rw [hopening.2]
  simpa [fieldsObject] using h

theorem spells_object {opening : String} {part : Rendered Chars} {key : String} {value : Value}
    {fields : List (String × Option Value)} {closing : Chars} {parts : List (Rendered Chars)}
    (hopening : PlainKey key ∧ opening.toList = '\x7b' :: (keyText key ++ [':']))
    (hfirst : Writes (Spells value) part) (hclosing : Closes closing)
    (hrest : Parts closing parts fields) :
    Writes (Spells (fieldsObject ((key, some value) :: fields)))
      (pushes (push opening :: part :: parts)) :=
  @spells_opened [] _ _ _ _ _ _ _ (by simp) hopening hfirst hclosing hrest

theorem writesFields_append {left right : List (String × Option Value)}
    {parts : List (Rendered Chars)} {part : Rendered Chars} (hleft : WritesFields left part)
    (hright : WritesFields right (pushes parts)) :
    WritesFields (left ++ right) (pushes (part :: parts)) := by
  obtain ⟨text, htext, hmembers⟩ := hleft
  obtain ⟨rest, hrest, hall⟩ := hright
  refine ⟨text ++ rest, pushes_cons htext hrest, ?_⟩
  rw [present_append]
  exact hmembers.append hall

theorem writesFields_pushes_nil : WritesFields [] (pushes []) := ⟨[], rfl, .nil⟩

theorem writesFields_keyed {text key : String} {value : Value} {part : Rendered Chars}
    (hkey : PlainKey key ∧ text.toList = ',' :: (keyText key ++ [':']))
    (h : Writes (Spells value) part) :
    WritesFields [(key, some value)] (pushes [push text, part]) := by
  obtain ⟨spelling, hspelling, hspells⟩ := h
  have hpushes := pushes_cons (@rfl _ (push text)) (pushes_cons hspelling (pushes_eq_ok .nil))
  refine ⟨_, hpushes, ?_⟩
  have hmember := Members.singleton (quotes_keyText hkey.1) hspells
  rw [hkey.2]
  simpa [present] using hmember

theorem writesFields_push {text key : String} {value : Value} {spelling : Chars}
    (hkey : PlainKey key ∧ text.toList = ',' :: (keyText key ++ ':' :: spelling))
    (h : Spells value spelling) : WritesFields [(key, some value)] (push text) := by
  refine ⟨_, rfl, ?_⟩
  have hmember := Members.singleton (quotes_keyText hkey.1) h
  rw [hkey.2]
  simpa [present] using hmember

theorem writesFields_array {opening closing key : String} {values : List Value}
    {part : Rendered Chars}
    (hopening : PlainKey key ∧ opening.toList = ',' :: (keyText key ++ [':', '[']))
    (hclosing : closing.toList = [']']) (hne : values ≠ []) (h : WritesElements values part) :
    WritesFields [(key, some (.array values))] (pushes [push opening, part, push closing]) := by
  obtain ⟨text, htext, helements⟩ := h
  have hpushes := pushes_cons (@rfl _ (push opening)) (pushes_cons htext
    (pushes_cons (@rfl _ (push closing)) (pushes_eq_ok .nil)))
  refine ⟨_, hpushes, ?_⟩
  have hmember := Members.singleton (quotes_keyText hopening.1) (helements.spells hne)
  rw [hopening.2, hclosing]
  simpa [present] using hmember

theorem writesFields_object {opening closing key : String} {members : List (String × Value)}
    {part : Rendered Chars}
    (hopening : PlainKey key ∧ opening.toList = ',' :: (keyText key ++ [':', '\x7b']))
    (hclosing : closing.toList = ['\x7d']) (hne : members ≠ []) (h : WritesMembers members part) :
    WritesFields [(key, some (.object members))] (pushes [push opening, part, push closing]) := by
  obtain ⟨text, htext, hmembers⟩ := h
  have hpushes := pushes_cons (@rfl _ (push opening)) (pushes_cons htext
    (pushes_cons (@rfl _ (push closing)) (pushes_eq_ok .nil)))
  refine ⟨_, hpushes, ?_⟩
  have hobject := hmembers.spells hne (@rfl _ (([] : List Char).all isSpace))
  have hmember := Members.singleton (quotes_keyText hopening.1) hobject
  rw [hopening.2, hclosing]
  simpa [present] using hmember

end Pushes

section Loops

variable {α : Type} {render : α → Rendered Chars}

theorem separated_cons {value : α} {values : List α} {text rest : Chars}
    (hvalue : render value = .ok text) (hrest : separated render values = .ok rest) :
    separated render (value :: values) =
      .ok (text ++ if values = [] then [] else ',' :: rest) := by
  rw [separated] at hrest
  cases hmap : values.mapM render with
  | error => simp [hmap, Except.map] at hrest
  | ok texts =>
      have hall := mapM_eq_ok_iff.mp hmap
      have hcons : (value :: values).mapM render = .ok (text :: texts) :=
        mapM_eq_ok_iff.mpr (.cons hvalue hall)
      rw [separated, hcons]
      simp only [hmap, Except.map, Except.ok.injEq] at hrest ⊢
      cases hall with
      | nil => simp
      | cons _ _ =>
          rw [← hrest]
          simp [List.intercalate]

theorem writesElements_forall₂ {elements : List Value} {values : List α}
    (h : List.Forall₂ (fun element a => Writes (Spells element) (render a)) elements values)
    (hne : values ≠ []) : WritesElements elements (separated render values) := by
  induction h with
  | nil => exact absurd rfl hne
  | @cons element first elements values hfirst hrest ih =>
      obtain ⟨text, htext, hspells⟩ := hfirst
      by_cases hlast : values = []
      · subst hlast
        cases hrest
        refine ⟨_, separated_cons htext (by rfl : separated render [] = .ok []), ?_⟩
        simpa using Elements.cons hspells .nil
      · obtain ⟨rest, hrest, helements⟩ := ih hlast
        refine ⟨_, separated_cons htext hrest, ?_⟩
        rw [if_neg hlast]
        exact .cons hspells helements

theorem forall₂_spells {value : α → Value} {values : List α}
    (h : ∀ a ∈ values, Writes (Spells (value a)) (render a)) :
    List.Forall₂ (fun element a => Writes (Spells element) (render a)) (values.map value)
      values := by
  rw [List.forall₂_map_left_iff, List.forall₂_same]
  exact h

theorem writesElements_separated {value : α → Value} {values : List α} (hne : values ≠ [])
    (h : ∀ a ∈ values, Writes (Spells (value a)) (render a)) :
    WritesElements (values.map value) (separated render values) :=
  writesElements_forall₂ (forall₂_spells h) hne

theorem writesMembers_separated {member : α → String × Value} {values : List α}
    (hne : values ≠ []) (h : ∀ a ∈ values, WritesMembers [member a] (render a)) :
    WritesMembers (values.map member) (separated render values) := by
  induction values with
  | nil => exact absurd rfl hne
  | cons first values ih =>
      obtain ⟨text, htext, hmember⟩ := h first (by simp)
      by_cases hlast : values = []
      · subst hlast
        refine ⟨_, separated_cons htext (by rfl : separated render [] = .ok []), ?_⟩
        simpa using hmember
      · obtain ⟨rest, hrest, hmembers⟩ := ih hlast fun a ha => h a (List.mem_cons_of_mem _ ha)
        refine ⟨_, separated_cons htext hrest, ?_⟩
        rw [if_neg hlast]
        exact hmember.append hmembers

theorem writesMembers_entry {key : Bytes} {value : Value} {part : Rendered Chars}
    (hkey : isUtf8 key = true) (h : Writes (Spells value) part) :
    WritesMembers [(decoded key, value)] (pushes [jsonString key, push ":", part]) := by
  obtain ⟨name, hname, hquotes⟩ := writes_jsonString hkey
  obtain ⟨text, htext, hspells⟩ := h
  have hpushes := pushes_cons hname (pushes_cons (@rfl _ (push ":"))
    (pushes_cons htext (pushes_eq_ok .nil)))
  refine ⟨_, hpushes, ?_⟩
  simpa using Members.singleton hquotes hspells

theorem writesMembers_pair {key value : Bytes} (hkey : isUtf8 key = true)
    (hvalue : isUtf8 value = true) :
    WritesMembers [(decoded key, stringValue value)] (jsonPair key value) :=
  writesMembers_entry hkey (spells_jsonString hvalue)

end Loops

section Optional

/-- A member under a condition. -/
def fieldIf (condition : Bool) (value : Value) : Option Value :=
  if condition then some value else none

theorem writesFields_if {condition : Bool} {key : String} {value : Value}
    {part : Rendered Chars} (h : condition = true → WritesFields [(key, some value)] part) :
    WritesFields [(key, fieldIf condition value)] (pushIf condition part) := by
  cases condition with
  | true => exact h rfl
  | false => exact ⟨[], rfl, .nil⟩

theorem writesFields_some {α : Type} {key : String} {value : α → Value}
    {render : α → Rendered Chars} {found : Option α}
    (h : ∀ a, found = some a → WritesFields [(key, some (value a))] (render a)) :
    WritesFields [(key, found.map value)] (pushSome render found) := by
  cases found with
  | none => exact ⟨[], rfl, .nil⟩
  | some a => exact h a rfl

theorem ne_nil_of_isEmpty {α : Type} {values : List α} (h : (!values.isEmpty) = true) :
    values ≠ [] := by
  rintro rfl
  cases h

theorem writesFields_list {α : Type} {opening closing key : String} {value : α → Value}
    {render : α → Rendered Chars} {values : List α}
    (hopening : PlainKey key ∧ opening.toList = ',' :: (keyText key ++ [':', '[']))
    (hclosing : closing.toList = [']'])
    (h : ∀ a ∈ values, Writes (Spells (value a)) (render a)) :
    WritesFields [(key, fieldIf (!values.isEmpty) (.array (values.map value)))]
      (pushIf (!values.isEmpty) (pushes [push opening, separated render values, push closing])) :=
  writesFields_if fun hne =>
    writesFields_array hopening hclosing (by simpa using ne_nil_of_isEmpty hne)
      (writesElements_separated (ne_nil_of_isEmpty hne) h)

theorem writesFields_map {α : Type} {opening closing key : String}
    {member : α → String × Value} {render : α → Rendered Chars} {values : List α}
    (hopening : PlainKey key ∧ opening.toList = ',' :: (keyText key ++ [':', '\x7b']))
    (hclosing : closing.toList = ['\x7d'])
    (h : ∀ a ∈ values, WritesMembers [member a] (render a)) :
    WritesFields [(key, fieldIf (!values.isEmpty) (.object (values.map member)))]
      (pushIf (!values.isEmpty) (pushes [push opening, separated render values, push closing])) :=
  writesFields_if fun hne =>
    writesFields_object hopening hclosing (by simpa using ne_nil_of_isEmpty hne)
      (writesMembers_separated (ne_nil_of_isEmpty hne) h)

end Optional

section Inner

/-- The text between the braces of an object that starts with no fixed member. -/
inductive Inner (fields : List (String × Option Value)) (text : Chars) : Prop
  | empty (hnone : present fields = []) (htext : text = [])
  | members (hne : present fields ≠ []) (h : Members (present fields) (',' :: text))

theorem inner_nil : Inner [] [] := .empty rfl rfl

theorem Inner.absent {fields : List (String × Option Value)} {text : Chars}
    (h : Inner fields text) (key : String) : Inner (fields ++ [(key, none)]) text := by
  have hsame : present (fields ++ [(key, none)]) = present fields := by simp [present]
  cases h with
  | empty hnone htext => exact .empty (hsame.trans hnone) htext
  | members hne h => exact .members (hsame ▸ hne) (hsame ▸ h)

theorem Inner.member {fields : List (String × Option Value)} {text spelling : Chars}
    (h : Inner fields text) {key : String} {value : Value} {hasField : Bool}
    (hhas : hasField = true ↔ present fields ≠ [])
    (hmember : Members [(key, value)] (',' :: spelling)) :
    Inner (fields ++ [(key, some value)])
      (text ++ (if hasField then [','] else []) ++ spelling) := by
  have hpresent : present (fields ++ [(key, some value)]) = present fields ++ [(key, value)] := by
    simp [present]
  cases h with
  | empty hnone htext =>
      have hfalse : hasField = false := by
        rw [Bool.eq_false_iff]
        intro htrue
        exact hhas.mp htrue hnone
      subst htext hfalse
      exact .members (by simp [hpresent]) (by simpa [hpresent, hnone] using hmember)
  | members hne h =>
      rw [hhas.mpr hne]
      refine .members (by simp [hpresent]) ?_
      rw [hpresent]
      simpa using h.append hmember

theorem Inner.spells {fields : List (String × Option Value)} {text : Chars}
    (h : Inner fields text) : Spells (fieldsObject fields) ('\x7b' :: text ++ ['\x7d']) := by
  cases h with
  | empty hnone htext =>
      subst htext
      rw [fieldsObject, hnone]
      exact spells_object_nil
  | members hne h => exact h.spells hne (@rfl _ (([] : List Char).all isSpace))

theorem writesMembers_keyed {text key : String} {value : Value} {part : Rendered Chars}
    (hkey : PlainKey key ∧ text.toList = keyText key ++ [':'])
    (h : Writes (Spells value) part) :
    WritesMembers [(key, value)] (pushes [push text, part]) := by
  obtain ⟨spelling, hspelling, hspells⟩ := h
  have hpushes := pushes_cons (@rfl _ (push text)) (pushes_cons hspelling (pushes_eq_ok .nil))
  refine ⟨_, hpushes, ?_⟩
  have hmember := Members.singleton (quotes_keyText hkey.1) hspells
  rw [hkey.2]
  simpa using hmember

theorem writesMembers_push {text key : String} {value : Value} {spelling : Chars}
    (hkey : PlainKey key ∧ text.toList = keyText key ++ ':' :: spelling)
    (h : Spells value spelling) : WritesMembers [(key, value)] (push text) := by
  refine ⟨_, rfl, ?_⟩
  rw [hkey.2]
  exact Members.singleton (quotes_keyText hkey.1) h

theorem writesMembers_array {opening closing key : String} {values : List Value}
    {part : Rendered Chars}
    (hopening : PlainKey key ∧ opening.toList = keyText key ++ [':', '['])
    (hclosing : closing.toList = [']']) (hne : values ≠ []) (h : WritesElements values part) :
    WritesMembers [(key, .array values)] (pushes [push opening, part, push closing]) := by
  obtain ⟨text, htext, helements⟩ := h
  have hpushes := pushes_cons (@rfl _ (push opening)) (pushes_cons htext
    (pushes_cons (@rfl _ (push closing)) (pushes_eq_ok .nil)))
  refine ⟨_, hpushes, ?_⟩
  have hmember := Members.singleton (quotes_keyText hopening.1) (helements.spells hne)
  rw [hopening.2, hclosing]
  simpa using hmember

theorem writesMembers_object {opening closing key : String} {members : List (String × Value)}
    {part : Rendered Chars}
    (hopening : PlainKey key ∧ opening.toList = keyText key ++ [':', '\x7b'])
    (hclosing : closing.toList = ['\x7d']) (hne : members ≠ []) (h : WritesMembers members part) :
    WritesMembers [(key, .object members)] (pushes [push opening, part, push closing]) := by
  obtain ⟨text, htext, hmembers⟩ := h
  have hpushes := pushes_cons (@rfl _ (push opening)) (pushes_cons htext
    (pushes_cons (@rfl _ (push closing)) (pushes_eq_ok .nil)))
  refine ⟨_, hpushes, ?_⟩
  have hobject := hmembers.spells hne (@rfl _ (([] : List Char).all isSpace))
  have hmember := Members.singleton (quotes_keyText hopening.1) hobject
  rw [hopening.2, hclosing]
  simpa using hmember

end Inner

section Numbers

def numberValue (value : Nat) : Value := .number (.posInt value)

theorem spells_decimal {value : Nat} (h : value < 2 ^ 64) :
    Writes (Spells (numberValue value)) (.ok (decimal value)) :=
  writes_ok (spells_posInt h)

end Numbers

end DockerLens.Render
