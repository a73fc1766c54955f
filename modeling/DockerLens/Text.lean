import Mathlib.Algebra.Order.Ring.Int
import Mathlib.Tactic.Common

namespace DockerLens.Text

theorem forall_mem_of_all {α : Type} {values : List α} {p : α → Prop} [DecidablePred p]
    (h : values.all (p ·) = true) : ∀ value ∈ values, p value := by
  intro value hvalue
  exact of_decide_eq_true (List.all_eq_true.mp h value hvalue)

/-- Raw bytes, as `Vec<u8>` and `&[u8]`. -/
abbrev Bytes := List UInt8

/-- The UTF-8 bytes of a string. -/
def asBytes (text : String) : Bytes := text.toByteArray.data.toList

/-- The string that a byte sequence encodes, when it is valid UTF-8. -/
def fromUtf8 (bytes : Bytes) : Option String := String.fromUTF8? ⟨bytes.toArray⟩

@[simp] theorem fromUtf8_asBytes (text : String) :
    fromUtf8 (asBytes text) = some text := by
  have hbytes : (⟨(asBytes text).toArray⟩ : ByteArray) = text.toByteArray := by
    simp [asBytes]
  rw [fromUtf8, hbytes, String.fromUTF8?]
  simp [String.fromUTF8, text.isValidUTF8]

theorem asBytes_of_fromUtf8 {bytes : Bytes} {text : String}
    (h : fromUtf8 bytes = some text) : asBytes text = bytes := by
  rw [fromUtf8, String.fromUTF8?] at h
  split at h
  · injection h with h
    subst h
    simp [asBytes, String.fromUTF8]
  · simp at h

theorem fromUtf8_eq_some_iff {bytes : Bytes} {text : String} :
    fromUtf8 bytes = some text ↔ asBytes text = bytes := by
  constructor
  · exact asBytes_of_fromUtf8
  · rintro rfl
    exact fromUtf8_asBytes text

theorem asBytes_injective : Function.Injective asBytes := by
  intro left right h
  have hleft := fromUtf8_asBytes left
  rw [h, fromUtf8_asBytes, Option.some.injEq] at hleft
  exact hleft.symm

@[simp] theorem asBytes_inj {left right : String} :
    asBytes left = asBytes right ↔ left = right :=
  asBytes_injective.eq_iff

@[simp] theorem asBytes_append (left right : String) :
    asBytes (left ++ right) = asBytes left ++ asBytes right := by
  simp [asBytes]

@[simp] theorem asBytes_eq_nil {text : String} : asBytes text = [] ↔ text = "" := by
  rw [← @asBytes_inj text ""]
  rfl

@[simp] theorem length_asBytes (text : String) :
    (asBytes text).length = text.utf8ByteSize := by
  rw [asBytes, Array.length_toList]
  rfl

theorem fromUtf8_append {left right : Bytes} {x y : String}
    (hx : fromUtf8 left = some x) (hy : fromUtf8 right = some y) :
    fromUtf8 (left ++ right) = some (x ++ y) := by
  rw [fromUtf8_eq_some_iff] at hx hy ⊢
  rw [asBytes_append, hx, hy]

theorem asBytes_cons (char : Char) (chars : List Char) :
    asBytes (String.ofList (char :: chars)) =
      asBytes (String.singleton char) ++ asBytes (String.ofList chars) := by
  rw [← asBytes_append]
  congr 1
  apply String.toList_injective
  simp

theorem asBytes_singleton {char : Char} (h : char.toNat < 128) :
    asBytes (String.singleton char) = [UInt8.ofNat char.toNat] := by
  have hall : ∀ code : Fin 128, asBytes (String.singleton (Char.ofNat code)) =
      [UInt8.ofNat code.val] := by decide +kernel
  have hchar := hall ⟨char.toNat, h⟩
  rwa [Char.ofNat_toNat] at hchar

theorem asBytes_ascii {chars : List Char} (h : ∀ char ∈ chars, char.toNat < 128) :
    asBytes (String.ofList chars) = chars.map fun char => UInt8.ofNat char.toNat := by
  induction chars with
  | nil => decide
  | cons char chars ih =>
      rw [List.forall_mem_cons] at h
      rw [asBytes_cons, asBytes_singleton h.1, ih h.2, List.map_cons, List.singleton_append]

theorem le_toNat_ofNat {value : Nat} (hlow : 128 ≤ value) (hhigh : value < 256) :
    128 ≤ (UInt8.ofNat value).toNat := by
  rw [UInt8.toNat_ofNat']
  omega

theorem le_of_mem_asBytes_singleton {char : Char} (h : 128 ≤ char.toNat) {byte : UInt8}
    (hbyte : byte ∈ asBytes (String.singleton char)) : 128 ≤ byte.toNat := by
  rw [asBytes, String.toByteArray_singleton, List.utf8Encode_singleton, List.data_toByteArray,
    List.toList_toArray, String.utf8EncodeChar] at hbyte
  have hchar : char.val.toNat = char.toNat := rfl
  simp only [hchar] at hbyte
  rw [if_neg (by omega)] at hbyte
  split_ifs at hbyte
  · simp only [List.mem_cons, List.not_mem_nil, or_false] at hbyte
    rcases hbyte with rfl | rfl <;> exact le_toNat_ofNat (by omega) (by omega)
  · simp only [List.mem_cons, List.not_mem_nil, or_false] at hbyte
    rcases hbyte with rfl | rfl | rfl <;> exact le_toNat_ofNat (by omega) (by omega)
  · simp only [List.mem_cons, List.not_mem_nil, or_false] at hbyte
    rcases hbyte with rfl | rfl | rfl | rfl <;> exact le_toNat_ofNat (by omega) (by omega)

theorem mem_of_asBytes {char : Char} (h : char.toNat < 128) {chars : List Char}
    (hbyte : UInt8.ofNat char.toNat ∈ asBytes (String.ofList chars)) : char ∈ chars := by
  induction chars with
  | nil => exact absurd hbyte (by simp [asBytes])
  | cons first chars ih =>
      rw [asBytes_cons, List.mem_append] at hbyte
      rcases hbyte with hbyte | hbyte
      · by_cases hfirst : first.toNat < 128
        · rw [asBytes_singleton hfirst, List.mem_singleton] at hbyte
          have hcode := congrArg UInt8.toNat hbyte
          rw [UInt8.toNat_ofNat', UInt8.toNat_ofNat', Nat.mod_eq_of_lt (by omega),
            Nat.mod_eq_of_lt (by omega)] at hcode
          rw [Char.toNat_inj.mp hcode]
          exact List.mem_cons_self
        · have hlow := le_of_mem_asBytes_singleton (by omega) hbyte
          rw [UInt8.toNat_ofNat'] at hlow
          omega
      · exact List.mem_cons_of_mem _ (ih hbyte)

/-- A stream of lines, each of which ends with the separator. -/
structure Lines {α : Type} [BEq α] (separator : α) (stream : List α) (lines : List (List α)) :
    Prop where
  split : stream.splitOnP (· == separator) = lines ++ [[]]
  plain : ∀ line ∈ lines, separator ∉ line
  ends : stream = [] ∨ stream.getLast? = some separator

theorem lines_of_plain {α : Type} [BEq α] [LawfulBEq α] {separator : α} {lines : List (List α)}
    (h : ∀ line ∈ lines, separator ∉ line) :
    Lines separator (lines.flatMap (· ++ [separator])) lines where
  split := by
    induction lines with
    | nil => simp
    | cons line lines ih =>
        rw [List.forall_mem_cons] at h
        have hplain : ∀ a ∈ line, (a == separator) = false := by
          intro a ha
          rw [beq_eq_false_iff_ne]
          rintro rfl
          exact h.1 ha
        rw [List.flatMap_cons, List.append_assoc, List.singleton_append,
          List.splitOnP_append_cons_of_forall_mem hplain separator (beq_self_eq_true _),
          ih h.2, List.cons_append]
  plain := h
  ends := by
    rcases List.eq_nil_or_concat lines with rfl | ⟨lines, line, rfl⟩
    · exact .inl rfl
    · right
      rw [List.concat_eq_append, List.flatMap_append, List.flatMap_singleton, ← List.append_assoc,
        List.getLast?_concat]

def isAsciiDigit (byte : UInt8) : Bool := 48 ≤ byte && byte ≤ 57

def isAsciiUppercase (byte : UInt8) : Bool := 65 ≤ byte && byte ≤ 90

def isAsciiLowercase (byte : UInt8) : Bool := 97 ≤ byte && byte ≤ 122

def isAsciiAlphabetic (byte : UInt8) : Bool :=
  isAsciiUppercase byte || isAsciiLowercase byte

def isAsciiAlphanumeric (byte : UInt8) : Bool :=
  isAsciiAlphabetic byte || isAsciiDigit byte

def isAsciiHexdigit (byte : UInt8) : Bool :=
  isAsciiDigit byte || (65 ≤ byte && byte ≤ 70) || (97 ≤ byte && byte ≤ 102)

/-- Space, tab, line feed, form feed and carriage return. -/
def isAsciiWhitespace (byte : UInt8) : Bool :=
  byte == 32 || byte == 9 || byte == 10 || byte == 12 || byte == 13

/-- `char::is_whitespace`, the Unicode `White_Space` property. -/
def isWhitespace (char : Char) : Bool :=
  let code := char.toNat
  (9 ≤ code && code ≤ 13) || code == 0x20 || code == 0x85 || code == 0xA0 ||
    code == 0x1680 || (0x2000 ≤ code && code ≤ 0x200A) || code == 0x2028 ||
    code == 0x2029 || code == 0x202F || code == 0x205F || code == 0x3000

/-- `str::trim`. -/
def trim (text : List Char) : List Char :=
  ((text.dropWhile isWhitespace).reverse.dropWhile isWhitespace).reverse

/-- `str::split_once` at a character. -/
def splitOnce (separator : Char) : List Char → Option (List Char × List Char)
  | [] => none
  | char :: rest =>
      if char = separator then some ([], rest)
      else (splitOnce separator rest).map fun (before, after) => (char :: before, after)

theorem splitOnce_append {separator : Char} {before after : List Char} (h : separator ∉ before) :
    splitOnce separator (before ++ separator :: after) = some (before, after) := by
  induction before with
  | nil => rw [List.nil_append, splitOnce, if_pos rfl]
  | cons char before ih =>
      rw [List.mem_cons, not_or] at h
      rw [List.cons_append, splitOnce, if_neg (Ne.symm h.1), ih h.2]
      rfl

/-- `str::split("\r\n")`. -/
def splitLines : List Char → List (List Char)
  | [] => [[]]
  | '\r' :: '\n' :: rest => [] :: splitLines rest
  | char :: rest =>
      match splitLines rest with
      | [] => [[char]]
      | line :: lines => (char :: line) :: lines

/-- `str::split_ascii_whitespace`. -/
def splitAsciiWhitespace (text : List Char) : List (List Char) :=
  (text.splitOnP fun char =>
    char == ' ' || char == '\t' || char == '\n' || char == '\x0c' || char == '\r').filter
      (!·.isEmpty)

/-- `str::eq_ignore_ascii_case`. -/
def eqIgnoreAsciiCase (left right : List Char) : Bool :=
  left.map Char.toLower == right.map Char.toLower

/-- `char::to_digit` for a radix up to sixteen. -/
def toDigit (radix : Nat) (char : Char) : Option Nat :=
  let value :=
    if '0' ≤ char ∧ char ≤ '9' then some (char.toNat - '0'.toNat)
    else if 'a' ≤ char ∧ char ≤ 'f' then some (char.toNat - 'a'.toNat + 10)
    else if 'A' ≤ char ∧ char ≤ 'F' then some (char.toNat - 'A'.toNat + 10)
    else none
  value.filter (· < radix)

/-- `from_str_radix` of an unsigned type: an optional plus sign, at least one
digit, and a value that fits. -/
def parseUnsigned (radix max : Nat) (text : List Char) : Option Nat :=
  let digits := match text with
    | '+' :: rest => rest
    | _ => text
  if digits.isEmpty then none
  else
    match digits.mapM (toDigit radix) with
    | none => none
    | some values =>
        let value := values.foldl (fun sum digit => sum * radix + digit) 0
        if value ≤ max then some value else none

end DockerLens.Text
