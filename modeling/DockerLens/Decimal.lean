import Mathlib.Data.List.Basic
import Mathlib.Data.List.Induction
import DockerLens.Text

namespace DockerLens.Text

theorem toDigit_isSome_iff {radix : Nat} {char : Char} :
    (toDigit radix char).isSome ↔
      48 ≤ char.toNat ∧ char.toNat ≤ 57 ∧ char.toNat - 48 < radix ∨
      97 ≤ char.toNat ∧ char.toNat ≤ 102 ∧ char.toNat - 87 < radix ∨
      65 ≤ char.toNat ∧ char.toNat ≤ 70 ∧ char.toNat - 55 < radix := by
  have hdigit : ('0' ≤ char ∧ char ≤ '9') = (48 ≤ char.toNat ∧ char.toNat ≤ 57) := rfl
  have hlower : ('a' ≤ char ∧ char ≤ 'f') = (97 ≤ char.toNat ∧ char.toNat ≤ 102) := rfl
  have hupper : ('A' ≤ char ∧ char ≤ 'F') = (65 ≤ char.toNat ∧ char.toNat ≤ 70) := rfl
  have hzero : '0'.toNat = 48 := rfl
  have ha : 'a'.toNat = 97 := rfl
  have hA : 'A'.toNat = 65 := rfl
  simp only [toDigit, hdigit, hlower, hupper, hzero, ha, hA]
  split_ifs <;> simp [Option.filter] <;> omega

theorem isDigit_iff {char : Char} : char.isDigit ↔ 48 ≤ char.toNat ∧ char.toNat ≤ 57 := by
  simp only [Char.isDigit, ge_iff_le, Bool.and_eq_true, decide_eq_true_eq]
  rfl

theorem isDigit_of_toDigit {char : Char} (h : (toDigit 10 char).isSome) : char.isDigit := by
  rw [toDigit_isSome_iff] at h
  rw [isDigit_iff]
  omega

theorem toDigit_of_isDigit {char : Char} (h : char.isDigit) :
    toDigit 10 char = some (char.toNat - '0'.toNat) := by
  rw [isDigit_iff] at h
  have hdigit : '0' ≤ char ∧ char ≤ '9' := h
  have hzero : '0'.toNat = 48 := rfl
  rw [toDigit, if_pos hdigit, Option.filter_some, if_pos]
  exact decide_eq_true (by omega)

theorem isSome_of_mapM {f : Char → Option Nat} {token : List Char} {values : List Nat}
    (h : token.mapM f = some values) : ∀ char ∈ token, (f char).isSome := by
  induction token generalizing values with
  | nil => simp
  | cons char token ih =>
      simp only [List.mapM_cons, Option.pure_def, Option.bind_eq_bind, Option.bind_eq_some_iff,
        Option.some.injEq] at h
      obtain ⟨value, hvalue, values', hvalues, -⟩ := h
      rw [List.forall_mem_cons]
      exact ⟨Option.isSome_of_eq_some hvalue, ih hvalues⟩

theorem mapM_toDigit {digits : List Char} (h : ∀ char ∈ digits, char.isDigit) :
    digits.mapM (toDigit 10) = some (digits.map fun char => char.toNat - '0'.toNat) := by
  induction digits with
  | nil => rfl
  | cons char digits ih =>
      rw [List.forall_mem_cons] at h
      rw [List.mapM_cons, toDigit_of_isDigit h.1, ih h.2]
      rfl

theorem head_toDigits (value : Nat) (hvalue : 0 < value) :
    ∃ char after, Nat.toDigits 10 value = char :: after ∧ char ≠ '0' := by
  induction value using Nat.strongRecOn with
  | ind value ih =>
      rw [Nat.toDigits_eq_if (by decide)]
      split
      · next hsmall =>
          have hdigit : ∀ digit : Fin 10, 0 < digit.val → digit.val.digitChar ≠ '0' := by decide
          exact ⟨_, [], rfl, hdigit ⟨value, hsmall⟩ hvalue⟩
      · next hlarge =>
          obtain ⟨char, after, heq, hchar⟩ := ih (value / 10) (by omega) (by omega)
          exact ⟨char, after ++ [(value % 10).digitChar], by rw [heq, List.cons_append], hchar⟩

/-- The digits of a nonempty numeral, in characters. -/
structure Digits (digits : List Char) : Prop where
  nonempty : digits ≠ []
  digit : ∀ char ∈ digits, char.isDigit

theorem digits_toDigits (value : Nat) : Digits (Nat.toDigits 10 value) where
  nonempty := Nat.toDigits_ne_nil
  digit _ hchar := Nat.isDigit_of_mem_toDigits (by decide) (by decide) hchar

theorem digitChar_of_isDigit {char : Char} (h : char.isDigit) :
    (char.toNat - '0'.toNat).digitChar = char := by
  rw [isDigit_iff] at h
  have hall : ∀ code < 10, (code : Nat).digitChar = Char.ofNat (code + 48) := by decide
  have hzero : '0'.toNat = 48 := rfl
  rw [hzero, hall _ (by omega), Nat.sub_add_cancel h.1, Char.ofNat_toNat]

/-- Digits without a leading zero are those of their value. -/
theorem toDigits_ofDigitChars {digits : List Char} (h : Digits digits)
    (hzero : digits.head? = some '0' → digits.length = 1) :
    Nat.toDigits 10 (Nat.ofDigitChars 10 digits 0) = digits := by
  obtain ⟨hne, hdigit⟩ := h
  induction digits using List.reverseRecOn with
  | nil => exact absurd rfl hne
  | append_singleton digits char ih =>
      have hchar : char.isDigit := hdigit char (by simp)
      have hsmall : char.toNat - '0'.toNat < 10 := by
        have hcode := isDigit_iff.mp hchar
        have hcharzero : '0'.toNat = 48 := rfl
        omega
      rw [Nat.ofDigitChars_append, Nat.ofDigitChars_cons, Nat.ofDigitChars_nil]
      rcases digits with _ | ⟨first, rest⟩
      · rw [Nat.ofDigitChars_nil, Nat.mul_zero, Nat.zero_add, Nat.toDigits_of_lt_base hsmall,
          digitChar_of_isDigit hchar, List.nil_append]
      · have hfirst : first ≠ '0' := by
          rintro rfl
          simpa using hzero rfl
        have hprefix := ih (fun hhead => absurd (Option.some.inj hhead) hfirst) (by simp)
          (fun c hc => hdigit c (List.mem_append_left _ hc))
        have hpos : 0 < Nat.ofDigitChars 10 (first :: rest) 0 := by
          apply Nat.pos_of_ne_zero
          intro hvalue
          rw [hvalue, Nat.toDigits_zero] at hprefix
          exact hfirst (List.cons.inj hprefix).1.symm
        rw [← Nat.toDigits_append_toDigits (by decide) hpos hsmall, hprefix,
          Nat.toDigits_of_lt_base hsmall, digitChar_of_isDigit hchar]

section Parsing

theorem head?_ne_plus_of_digits {digits : List Char} (h : Digits digits) :
    ∀ rest, digits ≠ '+' :: rest := by
  rintro rest rfl
  have hplus := isDigit_iff.mp (h.digit '+' List.mem_cons_self)
  revert hplus
  decide

theorem foldl_digits (digits : List Char) :
    (digits.map fun char => char.toNat - '0'.toNat).foldl (fun sum digit => sum * 10 + digit) 0 =
      Nat.ofDigitChars 10 digits 0 := by
  rw [List.foldl_map, Nat.ofDigitChars_eq_foldl]
  congr 1
  funext sum char
  rw [Nat.mul_comm]

theorem digits_of_parsed {max value : Nat} {text : List Char}
    (h : parseUnsigned 10 max text = some value) :
    ∃ digits, (text = digits ∨ text = '+' :: digits) ∧ Digits digits ∧
      Nat.ofDigitChars 10 digits 0 = value ∧ value ≤ max := by
  unfold parseUnsigned at h
  extract_lets digits at h
  have hsign : text = digits ∨ text = '+' :: digits := by
    unfold digits
    split
    · exact .inr rfl
    · exact .inl rfl
  refine ⟨digits, hsign, ?_⟩
  clear_value digits
  split at h
  · cases h
  · next hempty =>
      cases hmap : digits.mapM (toDigit 10) with
      | none => simp [hmap] at h
      | some values =>
          have hdigit : ∀ char ∈ digits, char.isDigit :=
            fun char hchar => isDigit_of_toDigit (isSome_of_mapM hmap char hchar)
          rw [mapM_toDigit hdigit] at h
          dsimp only at h
          rw [foldl_digits] at h
          split at h
          · next hmax =>
              obtain rfl := Option.some.inj h
              exact ⟨⟨by simpa using hempty, hdigit⟩, rfl, hmax⟩
          · cases h

theorem parsed_of_digits {max : Nat} {text digits : List Char}
    (hsign : text = digits ∨ text = '+' :: digits) (hdigits : Digits digits)
    (hmax : Nat.ofDigitChars 10 digits 0 ≤ max) :
    parseUnsigned 10 max text = some (Nat.ofDigitChars 10 digits 0) := by
  unfold parseUnsigned
  extract_lets unsigned
  have hunsigned : unsigned = digits := by
    unfold unsigned
    rcases hsign with rfl | rfl
    · split
      · next rest => exact absurd rfl (head?_ne_plus_of_digits hdigits rest)
      · rfl
    · rfl
  rw [hunsigned, if_neg (by simpa using hdigits.nonempty), mapM_toDigit hdigits.digit]
  dsimp only
  rw [foldl_digits, if_pos hmax]

theorem parseUnsigned_eq_some_iff {max value : Nat} {text : List Char} :
    parseUnsigned 10 max text = some value ↔
      ∃ digits, (text = digits ∨ text = '+' :: digits) ∧ Digits digits ∧
        Nat.ofDigitChars 10 digits 0 = value ∧ value ≤ max := by
  constructor
  · exact digits_of_parsed
  · rintro ⟨digits, hsign, hdigits, rfl, hmax⟩
    exact parsed_of_digits hsign hdigits hmax

end Parsing

section Bytes

/-- A nonempty sequence of the bytes `0` to `9`. -/
structure AsciiDigits (bytes : Bytes) : Prop where
  nonempty : bytes ≠ []
  digit : ∀ byte ∈ bytes, 48 ≤ byte ∧ byte ≤ 57

/-- The number that decimal digits write. -/
def decimalValue (digits : Bytes) : Nat :=
  digits.foldl (fun value digit => 10 * value + (digit.toNat - 48)) 0

def asciiBytes (chars : List Char) : Bytes := chars.map fun char => UInt8.ofNat char.toNat

theorem toNat_byte {char : Char} (h : char.toNat < 128) :
    (UInt8.ofNat char.toNat).toNat = char.toNat := by
  rw [UInt8.toNat_ofNat', Nat.mod_eq_of_lt (by omega)]

theorem asciiDigits_iff {chars : List Char} (h : ∀ char ∈ chars, char.toNat < 128) :
    AsciiDigits (asciiBytes chars) ↔ Digits chars := by
  have hbyte : ∀ char ∈ chars, 48 ≤ UInt8.ofNat char.toNat ∧ UInt8.ofNat char.toNat ≤ 57 ↔
      char.isDigit := by
    intro char hchar
    rw [isDigit_iff, UInt8.le_iff_toNat_le, UInt8.le_iff_toNat_le, toNat_byte (h char hchar)]
    rfl
  constructor
  · rintro ⟨hne, hdigit⟩
    refine ⟨by simpa [asciiBytes] using hne, fun char hchar => ?_⟩
    exact (hbyte char hchar).mp (hdigit _ (List.mem_map_of_mem hchar))
  · rintro ⟨hne, hdigit⟩
    refine ⟨by simpa [asciiBytes] using hne, fun byte hmem => ?_⟩
    obtain ⟨char, hchar, rfl⟩ := List.mem_map.mp hmem
    exact (hbyte char hchar).mpr (hdigit char hchar)

theorem decimalValue_asciiBytes {chars : List Char} (h : ∀ char ∈ chars, char.toNat < 128) :
    decimalValue (asciiBytes chars) = Nat.ofDigitChars 10 chars 0 := by
  rw [decimalValue, asciiBytes, List.foldl_map, Nat.ofDigitChars_eq_foldl]
  apply List.foldl_ext
  intro value char hchar
  rw [toNat_byte (h char hchar)]
  rfl

theorem ascii_of_digits {chars : List Char} (h : Digits chars) :
    ∀ char ∈ chars, char.toNat < 128 := by
  intro char hchar
  have hdigit := isDigit_iff.mp (h.digit char hchar)
  omega

theorem exists_chars {bytes : Bytes} (h : AsciiDigits bytes) :
    ∃ chars, Digits chars ∧ asciiBytes chars = bytes := by
  have hbytes : asciiBytes (bytes.map fun byte => Char.ofNat byte.toNat) = bytes := by
    rw [asciiBytes, List.map_map]
    conv_rhs => rw [← List.map_id bytes]
    apply List.map_congr_left
    intro byte _
    have hall : ∀ code < 256, UInt8.ofNat (Char.ofNat code).toNat = UInt8.ofNat code := by
      decide +kernel
    simpa using hall byte.toNat byte.toNat_lt
  refine ⟨bytes.map fun byte => Char.ofNat byte.toNat, ?_, hbytes⟩
  constructor
  · simpa using h.nonempty
  · intro char hchar
    obtain ⟨byte, hbyte, rfl⟩ := List.mem_map.mp hchar
    obtain ⟨hlow, hhigh⟩ := h.digit byte hbyte
    rw [UInt8.le_iff_toNat_le] at hlow hhigh
    have hall : ∀ code < 58, 48 ≤ code → (Char.ofNat code).isDigit := by decide
    exact hall byte.toNat (Nat.lt_succ_of_le hhigh) hlow

theorem asBytes_digits {chars : List Char} (h : Digits chars) :
    asBytes (String.ofList chars) = asciiBytes chars := asBytes_ascii (ascii_of_digits h)

/-- The bytes that the standard parser reads as a number. -/
theorem parseUnsigned_bytes_iff {max value : Nat} {bytes : Bytes} :
    ((fromUtf8 bytes).bind fun text => parseUnsigned 10 max text.toList) = some value ↔
      ∃ digits, (bytes = digits ∨ bytes = 43 :: digits) ∧ AsciiDigits digits ∧
        decimalValue digits = value ∧ value ≤ max := by
  have hplus : ∀ chars, Digits chars →
      asBytes (String.ofList ('+' :: chars)) = 43 :: asciiBytes chars := by
    intro chars h
    rw [asBytes_cons, asBytes_digits h]
    rfl
  constructor
  · intro h
    obtain ⟨text, htext, hparse⟩ := Option.bind_eq_some_iff.mp h
    obtain ⟨digits, hsign, hdigits, rfl, hmax⟩ := parseUnsigned_eq_some_iff.mp hparse
    have hascii := ascii_of_digits hdigits
    refine ⟨asciiBytes digits, ?_, (asciiDigits_iff hascii).mpr hdigits,
      decimalValue_asciiBytes hascii, hmax⟩
    rw [← asBytes_of_fromUtf8 htext, ← hplus digits hdigits, ← asBytes_digits hdigits,
      ← String.ofList_toList (s := text)]
    exact hsign.imp (congrArg fun chars => asBytes (String.ofList chars))
      (congrArg fun chars => asBytes (String.ofList chars))
  · rintro ⟨digits, hsign, hdigits, rfl, hmax⟩
    obtain ⟨chars, hchars, rfl⟩ := exists_chars hdigits
    rw [decimalValue_asciiBytes (ascii_of_digits hchars)] at hmax ⊢
    rw [← hplus chars hchars, ← asBytes_digits hchars] at hsign
    rcases hsign with rfl | rfl
    · rw [fromUtf8_asBytes, Option.bind_some, parseUnsigned_eq_some_iff, String.toList_ofList]
      exact ⟨chars, .inl rfl, hchars, rfl, hmax⟩
    · rw [fromUtf8_asBytes, Option.bind_some, parseUnsigned_eq_some_iff, String.toList_ofList]
      exact ⟨chars, .inr rfl, hchars, rfl, hmax⟩

theorem eq_repr_iff {bytes : Bytes} {value : Nat} :
    bytes = asBytes value.repr ↔
      AsciiDigits bytes ∧ decimalValue bytes = value ∧
        (bytes.head? = some 48 → bytes.length = 1) := by
  rw [Nat.repr_eq_ofList_toDigits, asBytes_digits (digits_toDigits value)]
  have hascii := ascii_of_digits (digits_toDigits value)
  constructor
  · rintro rfl
    refine ⟨(asciiDigits_iff hascii).mpr (digits_toDigits value), ?_, ?_⟩
    · rw [decimalValue_asciiBytes hascii, Nat.ofDigitChars_ten_toDigits]
    · intro hhead
      rcases Nat.eq_zero_or_pos value with rfl | hpos
      · rfl
      · obtain ⟨char, after, heq, hchar⟩ := head_toDigits value hpos
        rw [heq, List.forall_mem_cons] at hascii
        rw [heq, asciiBytes, List.map_cons, List.head?_cons, Option.some.injEq] at hhead
        have hcode := congrArg UInt8.toNat hhead
        rw [toNat_byte hascii.1] at hcode
        exact absurd (Char.toNat_inj.mp hcode) hchar
  · rintro ⟨hdigits, rfl, hzero⟩
    obtain ⟨chars, hchars, rfl⟩ := exists_chars hdigits
    rw [decimalValue_asciiBytes (ascii_of_digits hchars), toDigits_ofDigitChars hchars]
    intro hhead
    rw [asciiBytes, List.head?_map, hhead, List.length_map] at hzero
    exact hzero rfl

end Bytes

end DockerLens.Text
