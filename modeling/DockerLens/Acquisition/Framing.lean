import DockerLens.Acquisition.Http
import DockerLens.Decimal
import DockerLens.Fold

namespace DockerLens.Acquisition

open DockerLens.Text
open DockerLens.Evidence
open DockerLens.Fold

/-- The status code field of the first header line. -/
def statusToken (headers : List Char) : List Char :=
  ((splitAsciiWhitespace ((splitLines headers).headD [])).drop 1).headD []

/-- The value of a header line that declares a content length. -/
def lengthToken (line : List Char) : Option (List Char) :=
  if line.isEmpty then none
  else
    match splitOnce ':' line with
    | none => none
    | some (name, value) =>
        if eqIgnoreAsciiCase name "content-length".toList then some (trim value) else none

/-- The size field of a chunk-size line. -/
def sizeToken (line : Bytes) : List Char :=
  ((fromUtf8 (line.takeWhile (· != 59))).getD "").toList

/-- The size fields of the chunks that follow, as far as they are read. -/
def sizeTokens (wire : Wire) (allowance : Nat) (body : Bytes) : List (List Char) :=
  match wire.line 64 with
  | .error _ => []
  | .ok (line, wire) =>
      sizeToken line ::
        match chunkSize line with
        | .error _ => []
        | .ok 0 => []
        | .ok (size + 1) =>
            if hsize : size + 1 > allowance - body.length then []
            else
              match hexact : wire.exact (size + 1) body with
              | .error _ => []
              | .ok (extended, wire) =>
                  have hprogress : allowance - extended.length < allowance - body.length := by
                    have hlength := Wire.exact_length hexact
                    omega
                  match chunkEnd wire with
                  | .error _ => []
                  | .ok wire => sizeTokens wire allowance extended
termination_by allowance - body.length

/-- The numbers of a response that decide where its body ends, as they are written. -/
structure FramingTokens where
  status : List Char
  lengths : List (List Char)
  sizes : List (List Char)
  deriving DecidableEq

def framingTokens (wire : Wire) (allowance : Nat) : FramingTokens :=
  match wire.upTo (asBytes "\r\n\r\n") maxHeaderBytes [] with
  | .error _ => ⟨[], [], []⟩
  | .ok (headers, wire) =>
      match fromUtf8 headers with
      | none => ⟨[], [], []⟩
      | some headers =>
          let lengths := (splitLines headers.toList).tail.filterMap lengthToken
          { status := statusToken headers.toList
            lengths
            sizes := if lengths.isEmpty then sizeTokens wire allowance [] else [] }

def isHexDigit (char : Char) : Bool :=
  char.isDigit || ('a' ≤ char && char ≤ 'f') || ('A' ≤ char && char ≤ 'F')

/-- The digit grammar of the protocol. -/
structure FramingTokens.Strict (tokens : FramingTokens) : Prop where
  status : tokens.status.length = 3 ∧ tokens.status.all Char.isDigit
  lengths : ∀ token ∈ tokens.lengths, token ≠ [] ∧ token.all Char.isDigit
  sizes : ∀ token ∈ tokens.sizes, token ≠ [] ∧ token.all isHexDigit

/-- A status code field three characters wide, and no plus sign before any number. -/
structure FramingTokens.Bare (tokens : FramingTokens) : Prop where
  width : tokens.status.length = 3
  status : tokens.status.head? ≠ some '+'
  lengths : ∀ token ∈ tokens.lengths, token.head? ≠ some '+'
  sizes : ∀ token ∈ tokens.sizes, token.head? ≠ some '+'

theorem isHexDigit_iff {char : Char} :
    isHexDigit char ↔ char.isDigit ∨ (97 ≤ char.toNat ∧ char.toNat ≤ 102) ∨
      (65 ≤ char.toNat ∧ char.toNat ≤ 70) := by
  simp only [isHexDigit, Bool.or_eq_true, Bool.and_eq_true, decide_eq_true_eq, or_assoc]
  rfl

theorem isHexDigit_of_toDigit {char : Char} (h : (toDigit 16 char).isSome) :
    isHexDigit char := by
  rw [toDigit_isSome_iff] at h
  rw [isHexDigit_iff, isDigit_iff]
  omega

theorem head?_ne_plus {digit : Char → Bool} (hplus : digit '+' = false) {token : List Char}
    (h : token.all digit) : token.head? ≠ some '+' := by
  intro hhead
  have hdigit := List.all_eq_true.mp h _ (List.mem_of_mem_head? hhead)
  rw [hplus] at hdigit
  contradiction

theorem digits_of_parseUnsigned {radix max value : Nat} {token : List Char}
    (h : parseUnsigned radix max token = some value) (hbare : token.head? ≠ some '+') :
    token ≠ [] ∧ ∀ char ∈ token, (toDigit radix char).isSome := by
  unfold parseUnsigned at h
  split at h
  · next rest => simp at hbare
  · dsimp only at h
    split at h
    · simp at h
    · next hempty =>
        refine ⟨by simpa using hempty, fun char hchar => ?_⟩
        cases hdigits : token.mapM (toDigit radix) with
        | none => simp [hdigits] at h
        | some values => exact isSome_of_mapM hdigits char hchar

theorem parsed_of_statusLine {line : List Char} {status : HttpStatus}
    (h : statusLine line = .ok status) :
    ∃ value, parseUnsigned 10 65535 (((splitAsciiWhitespace line).drop 1).headD []) =
      some value := by
  unfold statusLine at h
  split at h
  · next version code rest hsplit =>
      rw [hsplit]
      split at h
      · split at h
        · simp at h
        · next value hvalue => exact ⟨value, hvalue⟩
      · simp at h
  · simp at h

/-- A declared length of a line that is accepted parses, and it is the only one. -/
theorem parsed_of_headerLine {framing after : Framing} {line : List Char}
    (h : headerLine framing line = .ok after) :
    (∀ token ∈ lengthToken line, ∃ length, parseUnsigned 10 usizeMax token = some length) ∧
      (after.contentLength = none ↔ framing.contentLength = none ∧ lengthToken line = none) := by
  unfold headerLine at h
  unfold lengthToken
  split at h
  · next hempty => simp_all
  · next hempty =>
      rw [if_neg hempty]
      cases hsplit : splitOnce ':' line with
      | none => simp [hsplit] at h
      | some field =>
          obtain ⟨name, value⟩ := field
          simp only [hsplit] at h ⊢
          by_cases hname : eqIgnoreAsciiCase name "content-length".toList = true
          · rw [if_pos hname] at h ⊢
            split at h
            · simp at h
            · next hfirst =>
                split at h
                · simp at h
                · next length hlength =>
                    rw [Except.ok.injEq] at h
                    subst h
                    simp [hlength]
          · rw [if_neg hname] at h ⊢
            split_ifs at h
            all_goals
              rw [Except.ok.injEq] at h
              subst h
              simp

theorem parsed_of_head {headers : List Char} {status : HttpStatus} {framing : Framing}
    (h : head headers = .ok (status, framing)) :
    (∃ value, parseUnsigned 10 65535 (statusToken headers) = some value) ∧
      (∀ token ∈ (splitLines headers).tail.filterMap lengthToken,
        ∃ length, parseUnsigned 10 usizeMax token = some length) ∧
      (framing.contentLength = none ↔
        (splitLines headers).tail.filterMap lengthToken = []) := by
  unfold head at h
  unfold statusToken
  split at h
  · simp at h
  · next line lines hlines =>
      simp only [bind_eq_ok_iff] at h
      obtain ⟨status', hstatus, framing', hframing, h⟩ := h
      split at h
      · simp at h
      · simp only [Except.ok.injEq, Prod.mk.injEq] at h
        obtain ⟨rfl, rfl⟩ := h
        rw [hlines, List.headD_cons, List.tail_cons]
        refine ⟨parsed_of_statusLine hstatus, ?_⟩
        refine foldlM_induction (motive := fun consumed framing =>
          (∀ token ∈ consumed.filterMap lengthToken,
            ∃ length, parseUnsigned 10 usizeMax token = some length) ∧
          (framing.contentLength = none ↔ consumed.filterMap lengthToken = []))
          ?_ ?_ hframing
        · rintro consumed framing line after ⟨hparsed, hnone⟩ hstep
          obtain ⟨htoken, hafter⟩ := parsed_of_headerLine hstep
          rw [List.filterMap_append, hafter, hnone]
          cases hline : lengthToken line with
          | none => simpa [List.filterMap_cons, hline] using hparsed
          | some token =>
              rw [hline] at htoken
              simp only [List.filterMap_cons, hline, List.filterMap_nil, List.mem_append,
                List.mem_singleton]
              refine ⟨?_, by simp⟩
              rintro token' (hmem | rfl)
              · exact hparsed token' hmem
              · exact htoken token' rfl
        · simp

theorem parsed_of_chunkSize {line : Bytes} {size : Nat} (h : chunkSize line = .ok size) :
    parseUnsigned 16 usizeMax (sizeToken line) = some size := by
  unfold chunkSize at h
  unfold sizeToken
  split at h
  · simp at h
  · next hex hhex =>
      rw [hhex, Option.getD_some]
      split at h
      · simp at h
      · next value hvalue =>
          rw [Except.ok.injEq] at h
          rw [hvalue, h]

theorem parsed_of_chunks {wire : Wire} {allowance : Nat} {body result : Bytes}
    (h : chunks wire allowance body = .ok result) :
    ∀ token ∈ sizeTokens wire allowance body,
      ∃ size, parseUnsigned 16 usizeMax token = some size := by
  fun_induction chunks wire allowance body with
  | case1 => simp at h
  | case2 => simp at h
  | case3 => simp at h
  | case4 wire body line after hline hsize trailer rest htrailer hempty =>
      rw [sizeTokens]
      simp only [hline, hsize, List.mem_singleton]
      rintro token rfl
      exact ⟨0, parsed_of_chunkSize hsize⟩
  | case5 => simp at h
  | case6 => simp at h
  | case7 => simp at h
  | case8 => simp at h
  | case9 wire body line after hline size hsize hfits extended rest hexact hprogress
      final hend ih =>
      rw [sizeTokens]
      simp only [hline, hsize, dif_neg hfits, List.mem_cons]
      rintro token (rfl | htoken)
      · exact ⟨size + 1, parsed_of_chunkSize hsize⟩
      · refine ih h token ?_
        split at htoken
        · simp at htoken
        · next extended' rest' hexact' =>
            rw [hexact, Except.ok.injEq, Prod.mk.injEq] at hexact'
            obtain ⟨rfl, rfl⟩ := hexact'
            simpa only [hend] using htoken

/-- Every number that frames an accepted response got through the integer parser. -/
theorem parsed_of_httpGet {wire : Wire} {allowance : Nat} {status : HttpStatus} {body : Bytes}
    (h : httpGet wire allowance = .ok (status, body)) :
    (∃ value, parseUnsigned 10 65535 (framingTokens wire allowance).status = some value) ∧
      (∀ token ∈ (framingTokens wire allowance).lengths,
        ∃ length, parseUnsigned 10 usizeMax token = some length) ∧
      (∀ token ∈ (framingTokens wire allowance).sizes,
        ∃ size, parseUnsigned 16 usizeMax token = some size) := by
  unfold httpGet at h
  unfold framingTokens
  cases hupTo : Wire.upTo (asBytes "\r\n\r\n") maxHeaderBytes [] wire with
  | error => simp [hupTo] at h
  | ok found =>
      obtain ⟨headers, rest⟩ := found
      rw [hupTo] at h
      dsimp only at h ⊢
      cases htext : fromUtf8 headers with
      | none => simp [htext] at h
      | some text =>
          rw [htext] at h
          dsimp only at h ⊢
          split at h
          · simp at h
          · next declared status' framing hhead =>
              obtain ⟨hstatus, hlengths, hnone⟩ := parsed_of_head hhead
              refine ⟨hstatus, hlengths, fun token htoken => ?_⟩
              split at h
              · cases hchunks : chunks rest allowance [] with
                | error => simp [hchunks, Except.map] at h
                | ok result =>
                    split at htoken
                    · exact parsed_of_chunks hchunks token htoken
                    · simp at htoken
              · next length hlength =>
                  have hsome := hnone.not.mp (by simp [hlength])
                  rw [if_neg (by simpa using hsome)] at htoken
                  simp at htoken

/-- The framing grammar of an accepted response is strict exactly when none of its
numbers is signed and its status code is not padded. -/
theorem httpGet_strict_iff {wire : Wire} {allowance : Nat} {status : HttpStatus} {body : Bytes}
    (h : httpGet wire allowance = .ok (status, body)) :
    (framingTokens wire allowance).Strict ↔ (framingTokens wire allowance).Bare := by
  obtain ⟨⟨value, hstatus⟩, hlengths, hsizes⟩ := parsed_of_httpGet h
  constructor
  · intro hstrict
    exact
      { width := hstrict.status.1
        status := head?_ne_plus (by decide) hstrict.status.2
        lengths := fun token htoken =>
          head?_ne_plus (by decide) (hstrict.lengths token htoken).2
        sizes := fun token htoken => head?_ne_plus (by decide) (hstrict.sizes token htoken).2 }
  · intro hbare
    have hdigits := digits_of_parseUnsigned hstatus hbare.status
    refine ⟨⟨hbare.width, ?_⟩, fun token htoken => ?_, fun token htoken => ?_⟩
    · exact List.all_eq_true.mpr fun char hchar => isDigit_of_toDigit (hdigits.2 char hchar)
    · obtain ⟨length, hlength⟩ := hlengths token htoken
      obtain ⟨hne, hall⟩ := digits_of_parseUnsigned hlength (hbare.lengths token htoken)
      exact ⟨hne, List.all_eq_true.mpr fun char hchar => isDigit_of_toDigit (hall char hchar)⟩
    · obtain ⟨size, hsize⟩ := hsizes token htoken
      obtain ⟨hne, hall⟩ := digits_of_parseUnsigned hsize (hbare.sizes token htoken)
      exact ⟨hne, List.all_eq_true.mpr fun char hchar =>
        isHexDigit_of_toDigit (hall char hchar)⟩

/-- A chunked response whose first chunk size is signed. -/
def signedChunk : Wire :=
  ⟨[asBytes "HTTP/1.1 200 OK\r\nTransfer-Encoding: chunked\r\n\r\n+2\r\nhi\r\n0\r\n\r\n"], none⟩

/-- A response whose status code and content length are signed. -/
def signedLength : Wire :=
  ⟨[asBytes "HTTP/1.1 +200 OK\r\nContent-Length: +2\r\n\r\nhi"], none⟩

theorem httpGet_signed :
    (httpGet signedChunk 2 = .ok (⟨200, by decide⟩, asBytes "hi") ∧
      ¬ (framingTokens signedChunk 2).Strict) ∧
    (httpGet signedLength 2 = .ok (⟨200, by decide⟩, asBytes "hi") ∧
      ¬ (framingTokens signedLength 2).Strict) := by
  refine ⟨⟨by decide +kernel, fun hstrict => ?_⟩, by decide +kernel, fun hstrict => ?_⟩
  · have hsizes := hstrict.sizes
    rw [show (framingTokens signedChunk 2).sizes = ["+2".toList, "0".toList] by
      decide +kernel] at hsizes
    exact absurd (hsizes _ (List.mem_cons_self)).2 (by decide)
  · have hstatus := hstrict.status.1
    rw [show (framingTokens signedLength 2).status = "+200".toList by decide +kernel] at hstatus
    exact absurd hstatus (by decide)

def bareLength : Wire :=
  ⟨[asBytes "HTTP/1.1 200 OK\r\nContent-Length: 2\r\n\r\nhi"], none⟩

theorem httpGet_strict_bareLength :
    httpGet bareLength 2 = .ok (⟨200, by decide⟩, asBytes "hi") ∧
      (framingTokens bareLength 2).Strict := by
  have h : httpGet bareLength 2 = .ok (⟨200, by decide⟩, asBytes "hi") := by decide +kernel
  refine ⟨h, (httpGet_strict_iff h).mpr ?_⟩
  rw [show framingTokens bareLength 2 = ⟨"200".toList, ["2".toList], []⟩ by decide +kernel]
  exact ⟨by decide, by decide, by decide, by decide⟩

end DockerLens.Acquisition
