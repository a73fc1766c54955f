import DockerLens.Acquisition.Framing
import DockerLens.Acquisition.Stream

namespace DockerLens.Acquisition

open DockerLens.Text
open DockerLens.Evidence
open DockerLens.Fold

/-- The value of an unsigned numeral; leading zeros are allowed. -/
def numeral (radix : Nat) (digits : List Char) : Option Nat :=
  if digits.isEmpty then none
  else (digits.mapM (toDigit radix)).map fun values =>
    values.foldl (fun sum digit => sum * radix + digit) 0

theorem digits_of_numeral {radix value : Nat} {digits : List Char}
    (h : numeral radix digits = some value) :
    digits ≠ [] ∧ ∀ char ∈ digits, (toDigit radix char).isSome := by
  rw [numeral] at h
  split at h
  · simp at h
  · next hempty =>
      rw [Option.map_eq_some_iff] at h
      obtain ⟨values, hvalues, -⟩ := h
      exact ⟨by simpa using hempty, isSome_of_mapM hvalues⟩

theorem parseUnsigned_of_numeral {radix value : Nat} {digits : List Char} (max : Nat)
    (h : numeral radix digits = some value) (hmax : value ≤ max) :
    parseUnsigned radix max digits = some value := by
  obtain ⟨hne, hdigits⟩ := digits_of_numeral h
  have hplus : ∀ rest, digits ≠ '+' :: rest := by
    rintro rest rfl
    have hsome := hdigits '+' List.mem_cons_self
    rw [toDigit_isSome_iff] at hsome
    have hcode : '+'.toNat = 43 := rfl
    omega
  rw [numeral] at h
  unfold parseUnsigned
  split at h
  · simp at h
  · next hempty =>
      rw [Option.map_eq_some_iff] at h
      obtain ⟨values, hvalues, rfl⟩ := h
      split
      · next rest => exact absurd rfl (hplus rest)
      · dsimp only
        rw [if_neg hempty, hvalues]
        exact if_pos hmax

/-- Text without a carriage return or a line feed. -/
def OneLine (text : String) : Prop := 13 ∉ asBytes text ∧ 10 ∉ asBytes text

instance (text : String) : Decidable (OneLine text) := inferInstanceAs (Decidable (_ ∧ _))

/-- A header field as it stands in a response head. -/
structure Field where
  name : String
  value : String
  name_line : OneLine name
  value_line : OneLine value
  name_colon : ':' ∉ name.toList

namespace Field

/-- The line of a field. -/
def text (self : Field) : String := self.name ++ ":" ++ self.value

/-- A field of a name, in any case. -/
abbrev Named (self : Field) (name : String) : Prop :=
  eqIgnoreAsciiCase self.name.toList name.toList = true

/-- A field that does not change where the body ends or how it is coded. -/
structure Plain (field : Field) : Prop where
  length : ¬ field.Named "content-length"
  transfer : ¬ field.Named "transfer-encoding"
  coding : field.Named "content-encoding" →
    eqIgnoreAsciiCase (trim field.value.toList) "identity".toList = true

/-- The one field that frames a body of `size` bytes by its length. -/
structure Declares (field : Field) (size : Nat) : Prop where
  named : field.Named "content-length"
  value : numeral 10 (trim field.value.toList) = some size

/-- The one field that frames a body by its chunks. -/
structure Chunks (field : Field) : Prop where
  named : field.Named "transfer-encoding"
  value : eqIgnoreAsciiCase (trim field.value.toList) "chunked".toList = true

end Field

/-- A chunk-size line: the size in hexadecimal and an optional extension. -/
structure SizeLine (size : Nat) where
  digits : List Char
  extension : Bytes
  digits_eq : numeral 16 digits = some size
  extension_start : extension = [] ∨ extension.head? = some 59
  extension_line : 13 ∉ extension
  short : (asBytes (String.ofList digits)).length + extension.length + 2 ≤ 64

/-- The line of a chunk's size. -/
def SizeLine.bytes {size : Nat} (self : SizeLine size) : Bytes :=
  asBytes (String.ofList self.digits) ++ self.extension

/-- A chunk of a body, with its line. -/
structure Chunk where
  data : Bytes
  nonempty : data ≠ []
  line : SizeLine data.length

/-- A chunk as it is sent. -/
def Chunk.bytes (self : Chunk) : Bytes :=
  self.line.bytes ++ [13, 10] ++ self.data ++ [13, 10]

/-- How a response delivers its body. -/
inductive Delivery
  | length (field : Field) (body : Bytes) (declares : field.Declares body.length)
  | chunked (field : Field) (chunks : List Chunk) (last : SizeLine 0) (declared : field.Chunks)

namespace Delivery

/-- The field that frames a body. -/
def field : Delivery → Field
  | length field _ _ | chunked field _ _ _ => field

/-- The bytes of a body, without their framing. -/
def body : Delivery → Bytes
  | length _ body _ => body
  | chunked _ chunks _ _ => chunks.flatMap Chunk.data

/-- What is sent behind the head. -/
def bytes : Delivery → Bytes
  | length _ body _ => body
  | chunked _ chunks last _ => chunks.flatMap Chunk.bytes ++ last.bytes ++ [13, 10] ++ [13, 10]

end Delivery

/-- A well-formed response that frames its body once. -/
structure Response where
  version : String
  status : HttpStatus
  reason : String
  before : List Field
  delivery : Delivery
  after : List Field
  version_eq : version = "HTTP/1.1" ∨ version = "HTTP/1.0"
  reason_start : reason = "" ∨ reason.toList.head? = some ' '
  reason_line : OneLine reason
  before_plain : ∀ field ∈ before, field.Plain
  after_plain : ∀ field ∈ after, field.Plain

namespace Response

def statusText (self : Response) : String :=
  self.version ++ " " ++ String.ofList (Nat.toDigits 10 self.status.code) ++ self.reason

def fields (self : Response) : List Field := self.before ++ self.delivery.field :: self.after

def lines (self : Response) : List String := self.statusText :: self.fields.map Field.text

/-- Header lines with their line ends, and the empty line behind them. -/
def headText (lines : List String) : String :=
  lines.foldr (fun line rest => line ++ "\r\n" ++ rest) "\r\n"

def head (self : Response) : Bytes := asBytes (headText self.lines)

def bytes (self : Response) : Bytes := self.head ++ self.delivery.bytes

def body (self : Response) : Bytes := self.delivery.body

end Response

theorem mem_asBytes {text : String} {char : Char} {byte : UInt8} (hchar : char ∈ text.toList)
    (hbyte : byte ∈ asBytes (String.singleton char)) : byte ∈ asBytes text := by
  obtain ⟨before, after, hsplit⟩ := List.append_of_mem hchar
  have htext : text = String.ofList before ++ String.singleton char ++ String.ofList after := by
    apply String.toList_injective
    simp [hsplit]
  rw [htext, asBytes_append, asBytes_append]
  exact List.mem_append_left _ (List.mem_append_right _ hbyte)

theorem OneLine.return_not_mem {text : String} (h : OneLine text) : '\r' ∉ text.toList :=
  fun hmem => h.1 (mem_asBytes hmem (by decide))

theorem OneLine.append {left right : String} (hleft : OneLine left) (hright : OneLine right) :
    OneLine (left ++ right) := by
  rw [OneLine, asBytes_append, List.mem_append, List.mem_append, not_or, not_or]
  exact ⟨⟨hleft.1, hright.1⟩, hleft.2, hright.2⟩

theorem splitLines_cons {line rest : List Char} (h : '\r' ∉ line) :
    splitLines (line ++ '\r' :: '\n' :: rest) = line :: splitLines rest := by
  induction line with
  | nil => rw [List.nil_append, splitLines]
  | cons char line ih =>
      rw [List.mem_cons, not_or] at h
      rw [List.cons_append, splitLines, ih h.2]
      rintro rest' rfl
      exact absurd rfl h.1

theorem splitLines_headText {lines : List String} (h : ∀ line ∈ lines, OneLine line) :
    splitLines (Response.headText lines).toList = lines.map String.toList ++ [[], []] := by
  induction lines with
  | nil => decide
  | cons line lines ih =>
      rw [List.forall_mem_cons] at h
      have htext : (Response.headText (line :: lines)).toList =
          line.toList ++ '\r' :: '\n' :: (Response.headText lines).toList := by
        simp [Response.headText]
      rw [htext, splitLines_cons h.1.return_not_mem, ih h.2]
      rfl

theorem asBytes_headText_cons (line : String) (lines : List String) :
    asBytes (Response.headText (line :: lines)) =
      asBytes line ++ ([13, 10] ++ asBytes (Response.headText lines)) := by
  have hend : asBytes "\r\n" = [13, 10] := by decide
  rw [Response.headText, List.foldr_cons, asBytes_append, asBytes_append, hend,
    List.append_assoc]
  rfl

/-- Only its end looks like the end of a head. -/
theorem headText_end {lines : List String}
    (h : ∀ line ∈ lines, OneLine line ∧ line ≠ "") {begun rest : Bytes}
    (heq : asBytes (Response.headText lines) = begun ++ ([13, 10, 13, 10] ++ rest)) :
    rest = [] := by
  induction lines generalizing begun with
  | nil =>
      have hlength := congrArg List.length heq
      rw [show (asBytes (Response.headText [])).length = 2 by decide] at hlength
      simp only [List.length_append, List.length_cons] at hlength
      omega
  | cons line lines ih =>
      rw [List.forall_mem_cons] at h
      rw [asBytes_headText_cons, List.append_eq_append_iff] at heq
      have hreturn : ∀ rest', asBytes (Response.headText lines) = [13, 10] ++ rest' →
          rest' = [] := by
        intro rest' hrest
        cases lines with
        | nil =>
            rw [show asBytes (Response.headText []) = [13, 10] by decide] at hrest
            simpa using hrest
        | cons line' lines =>
            rw [asBytes_headText_cons] at hrest
            cases hline : asBytes line' with
            | nil => exact absurd (asBytes_eq_nil.mp hline) (h.2 line' List.mem_cons_self).2
            | cons byte bytes =>
                rw [hline] at hrest
                have hbyte : byte = 13 := (List.cons.inj hrest).1
                have hmem := (h.2 line' List.mem_cons_self).1.1
                rw [hline, hbyte] at hmem
                exact absurd List.mem_cons_self hmem
      rcases heq with ⟨between, -, hrest⟩ | ⟨between, hline, hrest⟩
      · match between with
        | [] => exact hreturn rest (by simpa using hrest)
        | [_] => simp at hrest
        | _ :: _ :: between =>
            simp only [List.cons_append, List.cons.injEq, List.nil_append] at hrest
            exact ih h.2 hrest.2.2
      · match between with
        | [] => exact hreturn rest (by simpa using hrest.symm)
        | byte :: between =>
            have hbyte : 13 = byte := (List.cons.inj hrest).1
            refine absurd ?_ h.1.1.1
            rw [hline, ← hbyte]
            simp

theorem numeral_status (status : HttpStatus) :
    numeral 10 (Nat.toDigits 10 status.code) = some status.code ∧
      ∀ char ∈ Nat.toDigits 10 status.code, char.isDigit := by
  obtain ⟨code, -, hcode⟩ := status
  have hall : ∀ code < 600, numeral 10 (Nat.toDigits 10 code) = some code ∧
      (Nat.toDigits 10 code).all Char.isDigit = true := by decide +kernel
  obtain ⟨hnumeral, hdigits⟩ := hall code (by omega)
  exact ⟨hnumeral, List.all_eq_true.mp hdigits⟩

theorem splitAsciiWhitespace_cons {token rest : List Char} (hne : token ≠ [])
    (h : token.all fun char => !(char == ' ' || char == '\t' || char == '\n' || char == '\x0c' ||
      char == '\r')) (hrest : rest = [] ∨ rest.head? = some ' ') :
    splitAsciiWhitespace (token ++ rest) = token :: splitAsciiWhitespace (rest.drop 1) := by
  have hkeep : (!token.isEmpty) = true := by simpa using hne
  have hblank : ∀ char ∈ token, (char == ' ' || char == '\t' || char == '\n' ||
      char == '\x0c' || char == '\r') = false := by
    intro char hchar
    have hnot := List.all_eq_true.mp h char hchar
    exact (Bool.not_eq_true' _).mp hnot
  rw [splitAsciiWhitespace, splitAsciiWhitespace]
  rcases hrest with rfl | hstart
  · rw [List.append_nil, List.splitOnP_eq_singleton hblank]
    simp [hkeep]
  · obtain ⟨after, rfl⟩ := List.head?_eq_some_iff.mp hstart
    rw [List.splitOnP_append_cons_of_forall_mem hblank ' ' (by decide)]
    simp [hkeep]

theorem not_blank_of_isDigit {char : Char} (h : char.isDigit) :
    !(char == ' ' || char == '\t' || char == '\n' || char == '\x0c' || char == '\r') := by
  rw [isDigit_iff] at h
  simp only [Bool.not_eq_true', Bool.or_eq_false_iff, beq_eq_false_iff_ne]
  refine ⟨⟨⟨⟨?_, ?_⟩, ?_⟩, ?_⟩, ?_⟩
  all_goals
    rintro rfl
    exact absurd h (by decide)

theorem statusLine_statusText (response : Response) :
    statusLine response.statusText.toList = .ok response.status := by
  obtain ⟨hnumeral, hdigits⟩ := numeral_status response.status
  have hparse := parseUnsigned_of_numeral 65535 hnumeral
    (Nat.le_trans response.status.valid.2 (by decide))
  have hnew : HttpStatus.new response.status.code = .ok response.status := by
    rw [HttpStatus.new, dif_pos response.status.valid]
  have hreason : response.reason.toList = [] ∨ response.reason.toList.head? = some ' ' := by
    rcases response.reason_start with h | h
    · exact .inl (by rw [h]; rfl)
    · exact .inr h
  have hcode := splitAsciiWhitespace_cons (digits_of_numeral hnumeral).1
    (List.all_eq_true.mpr fun char hchar => not_blank_of_isDigit (hdigits char hchar)) hreason
  have hversion : splitAsciiWhitespace response.statusText.toList =
      response.version.toList :: Nat.toDigits 10 response.status.code ::
        splitAsciiWhitespace (response.reason.toList.drop 1) := by
    have htext : response.statusText.toList = response.version.toList ++
        ' ' :: (Nat.toDigits 10 response.status.code ++ response.reason.toList) := by
      simp [Response.statusText]
    rw [htext]
    rcases response.version_eq with h | h
    all_goals
      rw [h, splitAsciiWhitespace_cons (by decide) (by decide) (.inr rfl), List.drop_one,
        List.tail_cons, hcode]
  have hknown : response.version.toList = "HTTP/1.1".toList ∨
      response.version.toList = "HTTP/1.0".toList := by
    rcases response.version_eq with h | h
    · exact .inl (by rw [h])
    · exact .inr (by rw [h])
  rw [statusLine, hversion]
  simp only
  rw [if_pos hknown, hparse]
  simp only [hnew]

namespace Field

theorem splitOnce_text (field : Field) :
    splitOnce ':' field.text.toList = some (field.name.toList, field.value.toList) := by
  have htext : field.text.toList = field.name.toList ++ ':' :: field.value.toList := by
    simp [text]
  rw [htext, splitOnce_append field.name_colon]

theorem text_ne_nil (field : Field) : field.text.toList.isEmpty = false := by
  simp [text]

theorem oneLine (field : Field) : OneLine field.text :=
  (field.name_line.append (by decide)).append field.value_line

theorem headerLine_plain {field : Field} (h : field.Plain) (framing : Framing) :
    headerLine framing field.text.toList = .ok framing := by
  rw [headerLine, field.text_ne_nil, field.splitOnce_text]
  simp only [Bool.false_eq_true, if_false]
  rw [if_neg h.length, if_neg h.transfer, if_neg]
  rw [Bool.and_eq_true, not_and]
  intro hnamed
  rw [h.coding hnamed]
  decide

theorem headerLine_declares {field : Field} {size : Nat} (h : field.Declares size)
    (hsize : size ≤ usizeMax) (chunked : Bool) :
    headerLine ⟨none, chunked⟩ field.text.toList = .ok ⟨some size, chunked⟩ := by
  rw [headerLine, field.text_ne_nil, field.splitOnce_text]
  simp only [Bool.false_eq_true, if_false]
  rw [if_pos h.named, if_neg (by simp), parseUnsigned_of_numeral usizeMax h.value hsize]

theorem headerLine_chunks {field : Field} (h : field.Chunks) (contentLength : Option Nat) :
    headerLine ⟨contentLength, false⟩ field.text.toList = .ok ⟨contentLength, true⟩ := by
  have hother : ¬ field.Named "content-length" := by
    intro hnamed
    have hlength := beq_iff_eq.mp hnamed
    rw [beq_iff_eq.mp h.named] at hlength
    exact absurd hlength (by decide)
  rw [headerLine, field.text_ne_nil, field.splitOnce_text]
  simp only [Bool.false_eq_true, if_false]
  rw [if_neg hother, if_pos h.named, if_neg (by rw [h.value]; decide)]

theorem foldlM_plain {fields : List Field} (h : ∀ field ∈ fields, field.Plain)
    (framing : Framing) :
    (fields.map fun field => field.text.toList).foldlM headerLine framing = .ok framing := by
  induction fields with
  | nil => rfl
  | cons field fields ih =>
      rw [List.forall_mem_cons] at h
      rw [List.map_cons, List.foldlM_cons, headerLine_plain h.1, ok_bind]
      exact ih h.2

end Field

namespace Delivery

/-- The framing that a delivery declares. -/
def framing (delivery : Delivery) : Framing :=
  match delivery with
  | length _ body _ => ⟨some body.length, false⟩
  | chunked _ _ _ _ => ⟨none, true⟩

theorem headerLine_field (delivery : Delivery) (h : delivery.body.length ≤ usizeMax) :
    headerLine ⟨none, false⟩ delivery.field.text.toList = .ok delivery.framing := by
  cases delivery with
  | length field body declares => exact Field.headerLine_declares declares h false
  | chunked field chunks last declared => exact Field.headerLine_chunks declared none

end Delivery

namespace Response

theorem oneLine_statusText (response : Response) : OneLine response.statusText := by
  have hcode : OneLine (String.ofList (Nat.toDigits 10 response.status.code)) := by
    obtain ⟨code, -, hcode⟩ := response.status
    have hall : ∀ code : Fin 600, OneLine (String.ofList (Nat.toDigits 10 code.val)) := by
      decide +kernel
    exact hall ⟨code, by omega⟩
  have hversion : OneLine response.version := by
    rcases response.version_eq with h | h
    all_goals
      rw [h]
      decide
  exact ((hversion.append (by decide)).append hcode).append response.reason_line

theorem lines_oneLine (response : Response) :
    ∀ line ∈ response.lines, OneLine line ∧ line ≠ "" := by
  rw [lines, List.forall_mem_cons]
  refine ⟨⟨response.oneLine_statusText, ?_⟩, ?_⟩
  · intro hempty
    have htext := congrArg String.toList hempty
    simp [statusText] at htext
  · intro line hline
    obtain ⟨field, -, rfl⟩ := List.mem_map.mp hline
    refine ⟨field.oneLine, fun hempty => ?_⟩
    have htext := field.text_ne_nil
    rw [hempty] at htext
    exact absurd htext (by decide)

theorem head_headText (response : Response) (h : response.body.length ≤ usizeMax) :
    Acquisition.head (headText response.lines).toList =
      .ok (response.status, response.delivery.framing) := by
  have hlines := splitLines_headText fun line hline => (response.lines_oneLine line hline).1
  rw [lines, List.map_cons] at hlines
  have hfields : ((response.fields.map Field.text).map String.toList ++ [[], []]).foldlM
      headerLine ⟨none, false⟩ = .ok response.delivery.framing := by
    have hmap : (response.fields.map Field.text).map String.toList =
        response.fields.map fun field => field.text.toList := by
      rw [List.map_map]
      rfl
    rw [hmap, fields, List.map_append, List.map_cons, List.append_assoc, List.foldlM_append,
      Field.foldlM_plain response.before_plain, ok_bind, List.cons_append, List.foldlM_cons,
      response.delivery.headerLine_field h, ok_bind, List.foldlM_append,
      Field.foldlM_plain response.after_plain, ok_bind]
    rfl
  rw [Acquisition.head, lines, hlines, List.cons_append]
  simp only
  rw [statusLine_statusText, ok_bind, hfields, ok_bind]
  cases response.delivery with
  | length => rfl
  | chunked => rfl

theorem headText_suffix (line : String) (lines : List String) :
    [13, 10, 13, 10] <:+ asBytes (headText (line :: lines)) := by
  induction lines generalizing line with
  | nil => exact ⟨asBytes line, by rw [asBytes_headText_cons]; rfl⟩
  | cons next lines ih =>
      rw [asBytes_headText_cons, ← List.append_assoc]
      exact (ih next).trans (List.suffix_append _ _)

theorem upTo_head (response : Response) {wire : Wire} {rest : Bytes} (hsolid : wire.Solid)
    (hstream : wire.stream = response.head ++ rest)
    (hlength : response.head.length ≤ maxHeaderBytes) :
    ∃ after, wire.upTo (asBytes "\r\n\r\n") maxHeaderBytes [] = .ok (response.head, after) ∧
      wire.Past response.head after := by
  have hmark : asBytes "\r\n\r\n" = [13, 10, 13, 10] := by decide
  have hend : [13, 10, 13, 10] <:+ response.head := headText_suffix _ _
  have hne : response.head ≠ [] := by
    rintro hnil
    rw [hnil, List.suffix_nil] at hend
    contradiction
  rw [hmark]
  refine Wire.upTo_past hsolid hstream hlength hne hend ?_
  rintro early ⟨after, hafter⟩ - hproper ⟨begun, hearly⟩
  rw [List.nil_append] at hearly
  have hnil : after = [] := by
    apply headText_end response.lines_oneLine
    rw [← List.append_assoc, hearly, hafter]
    rfl
  rw [hnil, List.append_nil] at hafter
  exact hproper hafter

end Response

namespace SizeLine

variable {size : Nat} (self : SizeLine size)

theorem mem_digits {digits : List Char} (h : ∀ char ∈ digits, isHexDigit char) {byte : UInt8}
    (hbyte : byte ∈ asBytes (String.ofList digits)) :
    ∃ char, isHexDigit char ∧ byte = UInt8.ofNat char.toNat := by
  have hascii : ∀ char ∈ digits, char.toNat < 128 := by
    intro char hchar
    have hdigit := h char hchar
    rw [isHexDigit_iff, isDigit_iff] at hdigit
    omega
  rw [asBytes_ascii hascii] at hbyte
  obtain ⟨char, hchar, rfl⟩ := List.mem_map.mp hbyte
  exact ⟨char, h char hchar, rfl⟩

theorem not_mem_digits {byte : UInt8}
    (hbyte : byte.toNat < 48 ∨ 57 < byte.toNat ∧ byte.toNat < 65) :
    byte ∉ asBytes (String.ofList self.digits) := by
  intro hmem
  have hdigits := (digits_of_numeral self.digits_eq).2
  obtain ⟨char, hchar, rfl⟩ := mem_digits
    (fun char hchar => isHexDigit_of_toDigit (hdigits char hchar)) hmem
  rw [isHexDigit_iff, isDigit_iff] at hchar
  have hsmall : char.toNat < UInt8.size := by
    have hsize : UInt8.size = 256 := rfl
    omega
  rw [UInt8.toNat_ofNat_of_lt' hsmall] at hbyte
  omega

theorem chunkSize_bytes (hsize : size ≤ usizeMax) : chunkSize self.bytes = .ok size := by
  have hbefore : self.bytes.takeWhile (· != 59) = asBytes (String.ofList self.digits) := by
    have hall : ∀ byte ∈ asBytes (String.ofList self.digits), (byte != 59) = true := by
      intro byte hbyte
      rw [bne_iff_ne]
      rintro rfl
      exact self.not_mem_digits (by decide) hbyte
    rw [bytes, List.takeWhile_append_of_pos hall]
    rcases self.extension_start with h | h
    · rw [h]
      simp
    · obtain ⟨rest, hrest⟩ := List.head?_eq_some_iff.mp h
      rw [hrest]
      simp
  rw [chunkSize, hbefore, fromUtf8_asBytes]
  simp only [String.toList_ofList]
  rw [parseUnsigned_of_numeral usizeMax self.digits_eq hsize]

theorem line_end {line begun rest : Bytes} (h : 13 ∉ line)
    (heq : line ++ [13, 10] = begun ++ ([13, 10] ++ rest)) : rest = [] := by
  rw [List.append_eq_append_iff] at heq
  rcases heq with ⟨between, -, hrest⟩ | ⟨between, hline, hrest⟩
  · have hlength := congrArg List.length hrest
    simp only [List.length_append, List.length_cons, List.length_nil] at hlength
    exact List.length_eq_zero_iff.mp (by omega)
  · match between with
    | [] => simpa using hrest
    | byte :: between =>
        have hbyte : 13 = byte := (List.cons.inj hrest).1
        refine absurd ?_ h
        rw [hline, ← hbyte]
        simp

theorem line_bytes {wire : Wire} {rest : Bytes} (hsolid : wire.Solid)
    (hstream : wire.stream = self.bytes ++ [13, 10] ++ rest) :
    ∃ after, wire.line 64 = .ok (self.bytes, after) ∧
      wire.Past (self.bytes ++ [13, 10]) after := by
  have hmark : asBytes "\r\n" = [13, 10] := by decide
  have hreturn : 13 ∉ self.bytes := by
    rw [bytes, List.mem_append, not_or]
    exact ⟨self.not_mem_digits (by decide), self.extension_line⟩
  have hlength : (self.bytes ++ [13, 10]).length ≤ 64 := by
    rw [bytes, List.length_append, List.length_append]
    exact self.short
  have hupTo : ∃ after, Wire.upTo [13, 10] 64 [] wire =
      .ok ([] ++ (self.bytes ++ [13, 10]), after) ∧ wire.Past (self.bytes ++ [13, 10]) after := by
    refine Wire.upTo_past hsolid hstream hlength (by simp) (List.suffix_append _ _) ?_
    rintro early ⟨later, hlater⟩ - hproper ⟨begun, hearly⟩
    rw [List.nil_append] at hearly
    have hnil : later = [] := by
      apply line_end hreturn
      rw [← List.append_assoc, hearly, hlater]
    rw [hnil, List.append_nil] at hlater
    exact hproper hlater
  obtain ⟨after, hupTo, hafter⟩ := hupTo
  refine ⟨after, ?_, hafter⟩
  rw [Wire.line, hmark, hupTo, List.nil_append]
  simp

end SizeLine

theorem chunkEnd_past {wire : Wire} {rest : Bytes} (hsolid : wire.Solid)
    (hstream : wire.stream = [13, 10] ++ rest) :
    ∃ after, chunkEnd wire = .ok after ∧ wire.Past [13, 10] after := by
  obtain ⟨middle, hfirst, hmiddle⟩ := Wire.byte_past hsolid hstream
  have hnext : middle.stream = 10 :: rest := by
    have heq := hmiddle.stream_eq
    rw [hstream] at heq
    exact (List.cons.inj heq).2.symm
  obtain ⟨after, hsecond, hafter⟩ := Wire.byte_past hmiddle.solid hnext
  refine ⟨after, ?_, hmiddle.trans hafter⟩
  rw [chunkEnd, hfirst, ok_bind]
  simp only [ne_eq, not_true_eq_false, if_false]
  rw [hsecond, ok_bind]
  rfl

/-- Chunks that fit the allowance are appended one after the other. -/
theorem chunks_past {chunks : List Chunk} {wire : Wire} {allowance : Nat} {body rest : Bytes}
    (hallowance : allowance ≤ usizeMax) (hsolid : wire.Solid)
    (hstream : wire.stream = chunks.flatMap Chunk.bytes ++ rest)
    (hfits : body.length + (chunks.flatMap Chunk.data).length ≤ allowance) :
    ∃ after, Acquisition.chunks wire allowance body =
        Acquisition.chunks after allowance (body ++ chunks.flatMap Chunk.data) ∧
      wire.Past (chunks.flatMap Chunk.bytes) after := by
  induction chunks generalizing wire body with
  | nil =>
      refine ⟨wire, ?_, hsolid, ?_, rfl⟩
      · simp
      · simp
  | cons chunk chunks ih =>
      have hpos := List.length_pos_iff.mpr chunk.nonempty
      rw [List.flatMap_cons, List.length_append] at hfits
      have hsized : wire.stream = chunk.line.bytes ++ [13, 10] ++
          (chunk.data ++ ([13, 10] ++ (chunks.flatMap Chunk.bytes ++ rest))) := by
        rw [hstream, List.flatMap_cons, Chunk.bytes]
        simp only [List.append_assoc]
      obtain ⟨lined, hline, hlined⟩ := chunk.line.line_bytes hsolid hsized
      have hlinedStream : lined.stream = chunk.data ++
          ([13, 10] ++ (chunks.flatMap Chunk.bytes ++ rest)) := by
        have heq := hlined.stream_eq
        rw [hsized] at heq
        exact (List.append_cancel_left heq).symm
      obtain ⟨filled, hexact, hfilled⟩ := Wire.exact_past body hlined.solid hlinedStream rfl
      have hfilledStream : filled.stream =
          [13, 10] ++ (chunks.flatMap Chunk.bytes ++ rest) := by
        have heq := hfilled.stream_eq
        rw [hlinedStream] at heq
        exact (List.append_cancel_left heq).symm
      obtain ⟨ended, hend, hended⟩ := chunkEnd_past hfilled.solid hfilledStream
      have hendedStream : ended.stream = chunks.flatMap Chunk.bytes ++ rest := by
        have heq := hended.stream_eq
        rw [hfilledStream] at heq
        exact (List.append_cancel_left heq).symm
      have hfitsRest : (body ++ chunk.data).length + (chunks.flatMap Chunk.data).length ≤
          allowance := by
        rw [List.length_append]
        omega
      obtain ⟨after, hchunks, hafter⟩ := ih hended.solid hendedStream hfitsRest
      refine ⟨after, ?_, ?_⟩
      · rw [chunks_eq, hline, ok_bind]
        simp only [chunk.line.chunkSize_bytes (by omega), ok_bind]
        rw [if_neg (by omega), if_neg (by omega), nextChunk, hexact, ok_bind]
        simp only [hend, ok_bind]
        rw [hchunks, List.flatMap_cons, List.append_assoc]
      · have hpast := ((hlined.trans hfilled).trans hended).trans hafter
        rwa [List.flatMap_cons, Chunk.bytes]

/-- The empty chunk and the empty trailer end the body. -/
theorem chunks_last {last : SizeLine 0} {wire : Wire} {allowance : Nat} {body rest : Bytes}
    (hsolid : wire.Solid)
    (hstream : wire.stream = last.bytes ++ [13, 10] ++ ([13, 10] ++ rest)) :
    chunks wire allowance body = .ok body := by
  obtain ⟨lined, hline, hlined⟩ := last.line_bytes hsolid hstream
  have hlinedStream : lined.stream = [13, 10] ++ rest := by
    have heq := hlined.stream_eq
    rw [hstream] at heq
    exact (List.append_cancel_left heq).symm
  have hmark : asBytes "\r\n" = [13, 10] := by decide
  have hupTo : ∃ after, Wire.upTo [13, 10] maxHeaderBytes [] lined =
      .ok ([] ++ [13, 10], after) ∧ lined.Past [13, 10] after := by
    refine Wire.upTo_past hlined.solid hlinedStream (by decide) (by simp) (List.suffix_refl _) ?_
    rintro early ⟨later, hlater⟩ - hproper hsuffix
    rw [List.nil_append] at hsuffix
    have hlength := hsuffix.length_le
    have htotal := congrArg List.length hlater
    simp only [List.length_append, List.length_cons, List.length_nil] at hlength htotal
    have hnil : later = [] := List.length_eq_zero_iff.mp (by omega)
    rw [hnil, List.append_nil] at hlater
    exact hproper hlater
  obtain ⟨after, hupTo, -⟩ := hupTo
  rw [chunks_eq, hline, ok_bind]
  simp only [last.chunkSize_bytes (Nat.zero_le _), ok_bind, if_true]
  rw [lastChunk, Wire.line, hmark, hupTo]
  rfl

/-- A well-formed response is read back exactly, however its bytes are fragmented. -/
theorem httpGet_response (response : Response) {wire : Wire} {allowance : Nat} {rest : Bytes}
    (hallowance : allowance ≤ usizeMax) (hhead : response.head.length ≤ maxHeaderBytes)
    (hbody : response.body.length ≤ allowance) (hsolid : wire.Solid)
    (hstream : wire.stream = response.bytes ++ rest) :
    httpGet wire allowance = .ok (response.status, response.body) := by
  rw [Response.bytes, List.append_assoc] at hstream
  obtain ⟨after, hupTo, hafter⟩ := response.upTo_head hsolid hstream hhead
  have hrest : after.stream = response.delivery.bytes ++ rest := by
    have heq := hafter.stream_eq
    rw [hstream] at heq
    exact (List.append_cancel_left heq).symm
  rw [httpGet, hupTo]
  simp only [Response.head, fromUtf8_asBytes]
  rw [response.head_headText (by omega)]
  rw [Response.body] at hbody ⊢
  cases hdelivery : response.delivery with
  | length field body declares =>
      rw [hdelivery] at hrest hbody
      simp only [Delivery.framing]
      have hfits : ¬ body.length > allowance := Nat.not_lt.mpr hbody
      rw [if_neg hfits]
      obtain ⟨done, hexact, -⟩ := Wire.exact_past [] hafter.solid hrest rfl
      rw [show Delivery.bytes (.length field body declares) = body from rfl] at hexact
      rw [hexact]
      rfl
  | chunked field chunks last declared =>
      rw [hdelivery] at hrest hbody
      simp only [Delivery.framing]
      simp only [Delivery.bytes, List.append_assoc] at hrest
      obtain ⟨ended, hchunks, hended⟩ := chunks_past hallowance hafter.solid hrest
        (by rw [List.length_nil, Nat.zero_add]; exact hbody)
      have hendedStream : ended.stream = last.bytes ++ [13, 10] ++ ([13, 10] ++ rest) := by
        have heq := hended.stream_eq
        rw [hrest] at heq
        rw [List.append_assoc]
        exact (List.append_cancel_left heq).symm
      rw [hchunks, chunks_last hended.solid hendedStream]
      rfl

theorem prefix_of_ne_append {text before : Bytes} {byte : UInt8} (h : text <+: before ++ [byte])
    (hne : text ≠ before ++ [byte]) : text <+: before := by
  rcases List.prefix_concat_iff.mp h with heq | hinitial
  · exact absurd heq hne
  · exact hinitial

/-- A body that stops where its last line feed should be. -/
theorem chunks_unfinished {chunks : List Chunk} {last : SizeLine 0} {wire : Wire}
    {allowance : Nat} (hallowance : allowance ≤ usizeMax) (hsolid : wire.Solid)
    (hfailure : wire.failure = none)
    (hstream : wire.stream =
      chunks.flatMap Chunk.bytes ++ (last.bytes ++ [13, 10] ++ [13, 0]))
    (hfits : (chunks.flatMap Chunk.data).length ≤ allowance) :
    Acquisition.chunks wire allowance [] = .error .protocol := by
  obtain ⟨ended, hchunks, hended⟩ := chunks_past hallowance hsolid hstream
    (by rw [List.length_nil, Nat.zero_add]; exact hfits)
  have hendedStream : ended.stream = last.bytes ++ [13, 10] ++ [13, 0] := by
    have heq := hended.stream_eq
    rw [hstream] at heq
    exact (List.append_cancel_left heq).symm
  obtain ⟨lined, hline, hlined⟩ := last.line_bytes hended.solid hendedStream
  have hlinedStream : lined.stream = [13, 0] := by
    have heq := hlined.stream_eq
    rw [hendedStream] at heq
    exact (List.append_cancel_left heq).symm
  have hending : lined.ending = .protocol := by
    rw [hlined.ending_eq, hended.ending_eq, Wire.ending, hfailure]
    rfl
  have hupTo : Wire.upTo (asBytes "\r\n") maxHeaderBytes [] lined = .error .protocol := by
    rw [← hending]
    apply Wire.upTo_end hlined.solid
    · rw [hlinedStream]
      decide
    · rw [hlinedStream]
      rintro begun hbegun - hsuffix
      have hfeed : 10 ∈ asBytes "\r\n" := by decide
      exact absurd (hbegun.subset (hsuffix.subset hfeed)) (by decide)
  rw [hchunks, chunks_eq, hline, ok_bind]
  simp only [last.chunkSize_bytes (Nat.zero_le _), ok_bind, if_true]
  rw [lastChunk, Wire.line, hupTo]
  rfl

theorem httpGet_truncated_head (response : Response) {wire : Wire} {allowance : Nat}
    (hhead : response.head.length ≤ maxHeaderBytes) (hsolid : wire.Solid)
    (hfailure : wire.failure = none) (hinitial : wire.stream <+: response.head)
    (hne : wire.stream ≠ response.head) : httpGet wire allowance = .error .protocol := by
  have hending : wire.ending = .protocol := by
    rw [Wire.ending, hfailure]
    rfl
  have hupTo : wire.upTo (asBytes "\r\n\r\n") maxHeaderBytes [] = .error .protocol := by
    rw [← hending]
    apply Wire.upTo_end hsolid
    · have hlt : wire.stream.length < response.head.length :=
        Nat.lt_of_le_of_ne hinitial.length_le fun heq => hne (hinitial.eq_of_length heq)
      omega
    · rintro begun hbegun - ⟨early, hearly⟩
      obtain ⟨later, hlater⟩ := hbegun.trans hinitial
      have hnil : later = [] := by
        apply headText_end response.lines_oneLine
        rw [List.nil_append] at hearly
        rw [← List.append_assoc, show ([13, 10, 13, 10] : Bytes) = asBytes "\r\n\r\n" by decide,
          hearly, hlater]
        rfl
      rw [hnil, List.append_nil] at hlater
      subst hlater
      exact hne (hinitial.eq_of_length (Nat.le_antisymm hinitial.length_le hbegun.length_le))
  rw [httpGet, hupTo]

/-- A well-formed response that ends too early is a protocol error. -/
theorem httpGet_truncated (response : Response) {wire : Wire} {allowance : Nat}
    (hallowance : allowance ≤ usizeMax) (hhead : response.head.length ≤ maxHeaderBytes)
    (hbody : response.body.length ≤ allowance) (hsolid : wire.Solid)
    (hfailure : wire.failure = none) (hinitial : wire.stream <+: response.bytes)
    (hne : wire.stream ≠ response.bytes) : httpGet wire allowance = .error .protocol := by
  by_cases hcut : wire.stream <+: response.head ∧ wire.stream ≠ response.head
  · exact httpGet_truncated_head response hhead hsolid hfailure hcut.1 hcut.2
  · have hwhole : response.head <+: wire.stream := by
      rcases List.prefix_or_prefix_of_prefix hinitial (List.prefix_append _ _) with h | h
      · have heq := not_not.mp (fun hne => hcut ⟨h, hne⟩)
        exact ⟨[], by rw [List.append_nil, heq]⟩
      · exact h
    obtain ⟨part, hpart⟩ := hwhole
    rw [← hpart, Response.bytes] at hinitial hne
    have hpartPrefix := (List.prefix_append_right_inj _).mp hinitial
    have hpartNe : part ≠ response.delivery.bytes := fun heq => hne (by rw [heq])
    obtain ⟨after, hupTo, hafter⟩ := response.upTo_head hsolid hpart.symm hhead
    have hrest : after.stream = part := by
      have heq := hafter.stream_eq
      rw [← hpart] at heq
      exact (List.append_cancel_left heq).symm
    have hafterFailure : after.failure = none := hafter.failure_eq.trans hfailure
    have hending : after.ending = .protocol := by
      rw [Wire.ending, hafterFailure]
      rfl
    rw [httpGet, hupTo]
    simp only [Response.head, fromUtf8_asBytes]
    rw [response.head_headText (by omega)]
    rw [Response.body] at hbody
    cases hdelivery : response.delivery with
    | length field body declares =>
        rw [hdelivery] at hpartPrefix hpartNe hbody
        simp only [Delivery.framing]
        have hfits : ¬ body.length > allowance := Nat.not_lt.mpr hbody
        have hshort : after.stream.length < body.length := by
          rw [hrest]
          exact Nat.lt_of_le_of_ne hpartPrefix.length_le
            fun heq => hpartNe (hpartPrefix.eq_of_length heq)
        rw [if_neg hfits, Wire.exact_end hafter.solid hshort, hending]
        rfl
    | chunked field chunks last declared =>
        rw [hdelivery] at hpartPrefix hpartNe hbody
        simp only [Delivery.framing]
        -- The same stream with a wrong last byte is rejected, and goes on from this one.
        let spoiled : Wire :=
          ⟨(chunks.flatMap Chunk.bytes ++ (last.bytes ++ [13, 10] ++ [13, 0])).map ([·]), none⟩
        have hspoiled : spoiled.stream =
            chunks.flatMap Chunk.bytes ++ (last.bytes ++ [13, 10] ++ [13, 0]) := by
          rw [Wire.stream, ← List.flatMap_def, List.flatMap_singleton']
        have hspoiledSolid : spoiled.Solid := by
          rw [Wire.Solid, List.mem_map]
          rintro ⟨byte, -, hnil⟩
          contradiction
        have hlast : Delivery.bytes (.chunked field chunks last declared) =
            chunks.flatMap Chunk.bytes ++ (last.bytes ++ [13, 10] ++ [13]) ++ [10] := by
          simp [Delivery.bytes]
        rw [hlast] at hpartPrefix hpartNe
        have hends : Ends after spoiled := by
          refine ⟨hafter.solid, hspoiledSolid, hafterFailure, ?_⟩
          rw [hrest, hspoiled]
          refine (prefix_of_ne_append hpartPrefix hpartNe).trans ?_
          exact ⟨[0], by simp⟩
        have hsame : (fun _ : Nat => Ends) (67 * (allowance - ([] : Bytes).length) +
            (64 + maxHeaderBytes)) after spoiled := hends
        have hstop : Acquisition.chunks after allowance [] = .error .protocol := by
          rcases simulates_ends.chunks hsame with ⟨-, hstop⟩ | heq
          · exact hstop
          · rw [heq]
            exact chunks_unfinished hallowance hspoiledSolid rfl hspoiled hbody
        rw [hstop]
        rfl

/-- Framing of bodies. A well-formed response is read back exactly, in any fragments, and
is a protocol error when the stream ends before it does. Of any stream whatsoever only
the bytes within the wire limit matter, no body exceeds the allowance, and a body or a
chunk that would is rejected before anything of it is stored. -/
theorem httpGet_framed {allowance : Nat} (hallowance : allowance ≤ usizeMax) :
    (∀ response : Response, response.head.length ≤ maxHeaderBytes →
      response.body.length ≤ allowance → ∀ wire : Wire, wire.Solid →
        (response.bytes <+: wire.stream →
          httpGet wire allowance = .ok (response.status, response.body)) ∧
        (wire.failure = none → wire.stream <+: response.bytes → wire.stream ≠ response.bytes →
          httpGet wire allowance = .error .protocol)) ∧
    ∀ wire : Wire, wire.Solid →
      (∀ other : Wire, other.Solid → wireLimit allowance ≤ wire.stream.length →
        wire.stream.take (wireLimit allowance) <+: other.stream →
          httpGet other allowance = httpGet wire allowance) ∧
      (∀ status body, httpGet wire allowance = .ok (status, body) →
        body.length ≤ allowance) ∧
      (∀ reached body, ReadsChunks allowance wire [] reached body → body.length ≤ allowance) ∧
      (Oversized wire allowance → httpGet wire allowance = .error (.budget .bytes)) ∧
      (∀ longer, Ends wire longer → httpGet wire allowance = .error .protocol ∨
        httpGet wire allowance = httpGet longer allowance) := by
  refine ⟨fun response hhead hbody wire hsolid => ⟨?_, ?_⟩, fun wire hsolid =>
    ⟨?_, ?_, ?_, httpGet_oversized, fun longer hends => httpGet_ends hends⟩⟩
  · rintro ⟨rest, hstream⟩
    exact httpGet_response response hallowance hhead hbody hsolid hstream.symm
  · exact httpGet_truncated response hallowance hhead hbody hsolid
  · intro other hother hlength hinitial
    refine httpGet_agree ⟨hother, hsolid, ?_, ?_⟩
    · obtain ⟨rest, hrest⟩ := hinitial
      rw [← hrest, List.take_append_of_le_length, List.take_take, Nat.min_self]
      rw [List.length_take]
      omega
    · intro hshort
      have hle := hinitial.length_le
      rw [List.length_take] at hle
      omega
  · intro status body h
    exact (httpGet_of_ok h).1
  · intro reached body hreads
    exact hreads.length_le (Nat.zero_le _)

theorem version_supported : "HTTP/1.1" = "HTTP/1.1" ∨ "HTTP/1.1" = "HTTP/1.0" := .inl rfl

/-- A response in two chunks. -/
def chunkedResponse : Response where
  version := "HTTP/1.1"
  status := ⟨200, validStatus_ok⟩
  reason := " OK"
  before := [⟨"Server", " Docker", by decide, by decide, by decide⟩]
  delivery := .chunked ⟨"Transfer-Encoding", " Chunked", by decide, by decide, by decide⟩
    [⟨asBytes "\x7b", by decide, ⟨"01".toList, [], by decide, by decide, by decide, by decide⟩⟩,
      ⟨asBytes "\x7d", by decide,
        ⟨"1".toList, asBytes ";a=b", by decide, by decide, by decide, by decide⟩⟩]
    ⟨"0".toList, [], by decide, by decide, by decide, by decide⟩ ⟨by decide, by decide⟩
  after := []
  version_eq := version_supported
  reason_start := .inr rfl
  reason_line := by decide
  before_plain := by
    intro field hfield
    rw [List.mem_singleton] at hfield
    subst hfield
    exact ⟨by decide, by decide, by decide⟩
  after_plain := List.forall_mem_nil _

theorem httpGet_framed_chunked :
    2 ≤ usizeMax ∧ httpGet ⟨[chunkedResponse.bytes.take 3, chunkedResponse.bytes.drop 3], none⟩ 2 =
      .ok (⟨200, by decide⟩, asBytes "\x7b\x7d") := by
  refine ⟨by decide, ?_⟩
  have hframed := (httpGet_framed (by decide : 2 ≤ usizeMax)).1 chunkedResponse (by decide)
    (by decide) ⟨[chunkedResponse.bytes.take 3, chunkedResponse.bytes.drop 3], none⟩
    (by rw [Wire.Solid]; decide)
  exact hframed.1 ⟨[], by decide⟩

end DockerLens.Acquisition
