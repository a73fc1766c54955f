import DockerLens.Json.Spelling

namespace DockerLens.Json

/-- The letters behind a backslash, with what they stand for. -/
def shortEscapes : List (Char × Char) :=
  [('"', '"'), ('\\', '\\'), ('/', '/'), ('b', '\x08'), ('f', '\x0c'), ('n', '\n'), ('r', '\r'),
    ('t', '\t')]

/-- A piece of a string literal of RFC 8259, and the character that it denotes. -/
inductive Denotes : List Char → Char → Prop
  | unescaped {char : Char} (printed : 0x20 ≤ char.toNat) (quote : char ≠ '"')
      (backslash : char ≠ '\\') : Denotes [char] char
  | short {letter char : Char} (listed : (letter, char) ∈ shortEscapes) :
      Denotes ['\\', letter] char
  | unicode {a b c d : Char} {code : Nat} (digits : hexCode a b c d = some code)
      (scalar : code < 0xD800 ∨ 0xE000 ≤ code) : Denotes ['\\', 'u', a, b, c, d] (Char.ofNat code)
  | surrogates {a b c d e f g h : Char} {high low : Nat} (first : hexCode a b c d = some high)
      (second : hexCode e f g h = some low) (high_range : 0xD800 ≤ high ∧ high < 0xDC00)
      (low_range : 0xDC00 ≤ low ∧ low < 0xE000) :
      Denotes ['\\', 'u', a, b, c, d, '\\', 'u', e, f, g, h]
        (Char.ofNat (0x10000 + (high - 0xD800) * 0x400 + (low - 0xDC00)))

/-- The pieces between the quotes of a literal. -/
inductive Pieces : List Char → List Char → Prop
  | nil : Pieces [] []
  | cons {piece text : List Char} {char : Char} {content : List Char} (head : Denotes piece char)
      (tail : Pieces text content) : Pieces (piece ++ text) (char :: content)

/-- A string literal of RFC 8259, and its content. -/
inductive Literal : List Char → String → Prop
  | quoted {text content : List Char} (pieces : Pieces text content) :
      Literal ('"' :: (text ++ ['"'])) (String.ofList content)

theorem parseString_piece {piece : List Char} {char : Char} (h : Denotes piece char)
    (rest : List Char) :
    parseString (piece ++ rest) =
      (parseString rest).map fun (text, after) => (char :: text, after) := by
  cases h with
  | unescaped printed quote backslash =>
      exact parseString_plain quote backslash (Nat.not_lt.mpr printed) rest
  | short listed =>
      simp only [shortEscapes, List.mem_cons, Prod.mk.injEq, List.not_mem_nil, or_false] at listed
      rcases listed with ⟨rfl, rfl⟩ | ⟨rfl, rfl⟩ | ⟨rfl, rfl⟩ | ⟨rfl, rfl⟩ | ⟨rfl, rfl⟩ |
        ⟨rfl, rfl⟩ | ⟨rfl, rfl⟩ | ⟨rfl, rfl⟩ <;> simp [parseString, simpleEscape]
  | unicode digits scalar =>
      simp only [List.cons_append, List.nil_append, parseString, digits, if_pos scalar]
  | @surrogates a b c d e f g h high low first second high_range low_range =>
      have hnot : ¬(high < 0xD800 ∨ 0xE000 ≤ high) := by omega
      have hpair : surrogatePair high low =
          some (Char.ofNat (0x10000 + (high - 0xD800) * 0x400 + (low - 0xDC00))) := by
        rw [surrogatePair, if_pos ⟨high_range.1, high_range.2, low_range.1, low_range.2⟩]
      simp only [List.cons_append, List.nil_append, parseString, first, second, if_neg hnot,
        Option.bind_some, hpair]

theorem parseString_pieces {text content : List Char} (h : Pieces text content)
    (rest : List Char) : parseString (text ++ '"' :: rest) = some (content, rest) := by
  induction h with
  | nil => simp [parseString]
  | cons head _ ih =>
      rw [List.append_assoc, parseString_piece head, ih]
      rfl

namespace Literal

theorem quotes {text : List Char} {content : String} (h : Literal text content) :
    Quotes content text := by
  obtain ⟨pieces⟩ := h
  refine ⟨⟨_, rfl⟩, ?_⟩
  intro after rest hafter
  obtain rfl := (List.cons.inj hafter).2
  rw [List.append_assoc, String.toList_ofList]
  exact parseString_pieces pieces rest

theorem parse_eq {text : List Char} {content : String} (h : Literal text content) :
    parse text = some (.string content) := by
  have hparse := h.quotes.spells.parse_eq (@rfl _ (([] : List Char).all isSpace))
  rwa [List.append_nil] at hparse

theorem unambiguous {text : List Char} {left right : String} (hleft : Literal text left)
    (hright : Literal text right) : left = right := by
  have hparse := hleft.parse_eq
  rw [hright.parse_eq] at hparse
  exact (Value.string.inj (Option.some.inj hparse)).symm

end Literal

end DockerLens.Json
