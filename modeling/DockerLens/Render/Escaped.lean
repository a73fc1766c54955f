import DockerLens.Json.Literal
import DockerLens.Render.Spelled

namespace DockerLens.Render

open DockerLens.Text
open DockerLens.Json
open DockerLens.Target

/-- What is written for a character denotes the character. -/
theorem denotes_escape (char : Char) : Denotes (escape char) char := by
  rw [escape]
  split
  · next h =>
      subst h
      exact .short (by decide)
  split
  · next h =>
      subst h
      exact .short (by decide)
  split
  · next h =>
      subst h
      exact .short (by decide)
  split
  · next h =>
      subst h
      exact .short (by decide)
  split
  · next h =>
      subst h
      exact .short (by decide)
  split
  · next h =>
      obtain ⟨a, b, c, d, heq, hcode⟩ := hexCode_hex4 h
      have hdenotes := Denotes.unicode hcode (.inl (by omega))
      rwa [Char.ofNat_toNat, ← heq] at hdenotes
  · next hquote hslash _ _ _ hcontrol => exact .unescaped (by omega) hquote hslash

theorem pieces_escapes (chars : Chars) : Pieces (chars.flatMap escape) chars := by
  induction chars with
  | nil => exact .nil
  | cons char chars ih => exact .cons (denotes_escape char) ih

/-- Bytes that are valid UTF-8 are written as a literal without control characters, which is a
literal of nothing else and from which the parser gets them back; distinct bytes are written as
distinct literals. -/
theorem json_string_literal :
    (∀ bytes, isUtf8 bytes = true →
      ∃ text content, jsonString bytes = .ok text ∧ asBytes content = bytes ∧
        Literal text content ∧ (∀ other, Literal text other → other = content) ∧
        Json.parse text = some (.string content) ∧ ∀ char ∈ text, 0x20 ≤ char.toNat) ∧
    ∀ left right text, jsonString left = .ok text → jsonString right = .ok text → left = right := by
  have hliteral : ∀ content : String,
      Literal ('"' :: content.toList.flatMap escape ++ ['"']) content := by
    intro content
    simpa using Literal.quoted (pieces_escapes content.toList)
  refine ⟨?_, ?_⟩
  · intro bytes hutf8
    obtain ⟨content, hcontent⟩ := isUtf8_iff.mp hutf8
    refine ⟨_, content, by rw [jsonString, hcontent], asBytes_of_fromUtf8 hcontent,
      hliteral content, fun other hother => hother.unambiguous (hliteral content),
      (hliteral content).parse_eq, ?_⟩
    intro char hchar
    rw [List.cons_append, List.mem_cons, List.mem_append, List.mem_flatMap,
      List.mem_singleton] at hchar
    rcases hchar with rfl | ⟨source, -, hchar⟩ | rfl
    · decide
    · exact printed_escape source char hchar
    · decide
  · intro left right text hleft hright
    have hdecoded : ∀ {bytes}, jsonString bytes = .ok text →
        ∃ content, asBytes content = bytes ∧ Literal text content := by
      intro bytes h
      rw [jsonString] at h
      split at h
      · cases h
      · next content hcontent =>
          cases h
          exact ⟨content, asBytes_of_fromUtf8 hcontent, hliteral content⟩
    obtain ⟨content, rfl, hcontent⟩ := hdecoded hleft
    obtain ⟨other, rfl, hother⟩ := hdecoded hright
    rw [hcontent.unambiguous hother]

end DockerLens.Render
