import DockerLens.Evidence

namespace DockerLens.Acquisition

open DockerLens.Text
open DockerLens.Evidence

/-- What a connected stream delivers: one fragment a read, then the end of the
stream or the error of the read that follows. -/
structure Wire where
  fragments : List Bytes
  failure : Option AcquisitionError
  deriving DecidableEq

namespace Wire

/-- Read at most `count` bytes; none at the end of the stream. -/
def read (self : Wire) (count : Nat) : Except AcquisitionError (Bytes × Wire) :=
  match self.fragments with
  | [] =>
      match self.failure with
      | some error => .error error
      | none => .ok ([], self)
  | fragment :: rest =>
      if fragment.length ≤ count then .ok (fragment, { self with fragments := rest })
      else .ok (fragment.take count, { self with fragments := fragment.drop count :: rest })

theorem read_length_le {self after : Wire} {count : Nat} {bytes : Bytes}
    (h : self.read count = .ok (bytes, after)) : bytes.length ≤ count := by
  unfold read at h
  split at h
  · split at h
    · simp at h
    · simp only [Except.ok.injEq, Prod.mk.injEq] at h
      simp [← h.1]
  · split at h
    · next hle =>
        simp only [Except.ok.injEq, Prod.mk.injEq] at h
        rw [← h.1]
        exact hle
    · simp only [Except.ok.injEq, Prod.mk.injEq] at h
      rw [← h.1, List.length_take]
      exact Nat.min_le_left _ _

def byte (self : Wire) : Except AcquisitionError (UInt8 × Wire) :=
  match self.read 1 with
  | .error error => .error error
  | .ok ([byte], self) => .ok (byte, self)
  | .ok (_, _) => .error .protocol

/-- Bytes up to `terminator`, which must end within `cap` bytes; the bytes so far
stand in `read`. -/
def upTo (terminator : Bytes) : Nat → Bytes → Wire → Except AcquisitionError (Bytes × Wire)
  | 0, _, _ => .error .protocol
  | cap + 1, read, self =>
      match self.byte with
      | .error error => .error error
      | .ok (byte, self) =>
          if terminator.isSuffixOf (read ++ [byte]) then .ok (read ++ [byte], self)
          else upTo terminator cap (read ++ [byte]) self

/-- One line of at most `cap` bytes, without its line end. -/
def line (self : Wire) (cap : Nat) : Except AcquisitionError (Bytes × Wire) :=
  match upTo (asBytes "\r\n") cap [] self with
  | .error error => .error error
  | .ok (line, self) => .ok (line.take (line.length - 2), self)

/-- Append exactly `count` bytes to `out`, at most 8192 bytes a read. -/
def exact (self : Wire) (count : Nat) (out : Bytes) : Except AcquisitionError (Bytes × Wire) :=
  if count = 0 then .ok (out, self)
  else
    match self.read (min count 8192) with
    | .error error => .error error
    | .ok (bytes, self) =>
        if bytes.length = 0 then .error .protocol
        else self.exact (count - bytes.length) (out ++ bytes)
termination_by count

theorem exact_length {self after : Wire} {count : Nat} {out body : Bytes}
    (h : self.exact count out = .ok (body, after)) : body.length = out.length + count := by
  fun_induction exact self count out with
  | case1 self out =>
      simp only [Except.ok.injEq, Prod.mk.injEq] at h
      simp [← h.1]
  | case2 => simp at h
  | case3 => simp at h
  | case4 self count out hcount bytes after' hread hbytes ih =>
      have hle := read_length_le hread
      rw [ih h, List.length_append]
      omega

end Wire

/-- The header fields that decide how a body is framed. -/
structure Framing where
  contentLength : Option Nat
  chunked : Bool
  deriving DecidableEq

/-- One header line. -/
def headerLine (framing : Framing) (line : List Char) : Except AcquisitionError Framing :=
  if line.isEmpty then .ok framing
  else
    match splitOnce ':' line with
    | none => .error .protocol
    | some (name, value) =>
        let value := trim value
        if eqIgnoreAsciiCase name "content-length".toList then
          if framing.contentLength.isSome then .error .protocol
          else
            match parseUnsigned 10 usizeMax value with
            | none => .error .protocol
            | some length => .ok { framing with contentLength := some length }
        else if eqIgnoreAsciiCase name "transfer-encoding".toList then
          if framing.chunked || !eqIgnoreAsciiCase value "chunked".toList then
            .error .protocol
          else .ok { framing with chunked := true }
        else if eqIgnoreAsciiCase name "content-encoding".toList
            && !eqIgnoreAsciiCase value "identity".toList then
          .error .protocol
        else .ok framing

def statusLine (line : List Char) : Except AcquisitionError HttpStatus :=
  match splitAsciiWhitespace line with
  | version :: code :: _ =>
      if version = "HTTP/1.1".toList ∨ version = "HTTP/1.0".toList then
        match parseUnsigned 10 65535 code with
        | none => .error .protocol
        | some code =>
            match HttpStatus.new code with
            | .error _ => .error .protocol
            | .ok status => .ok status
      else .error .protocol
  | _ => .error .protocol

/-- The status line and the header lines; exactly one framing must be declared. -/
def head (headers : List Char) : Except AcquisitionError (HttpStatus × Framing) :=
  match splitLines headers with
  | [] => .error .protocol
  | status :: lines => do
      let status ← statusLine status
      let framing ← lines.foldlM headerLine ⟨none, false⟩
      if framing.chunked = framing.contentLength.isSome then .error .protocol
      else .ok (status, framing)

/-- The size of a chunk, before any extension. -/
def chunkSize (line : Bytes) : Except AcquisitionError Nat :=
  match fromUtf8 (line.takeWhile (· != 59)) with
  | none => .error .protocol
  | some hex =>
      match parseUnsigned 16 usizeMax hex.toList with
      | none => .error .protocol
      | some size => .ok size

/-- The carriage return and the line feed after a chunk. -/
def chunkEnd (wire : Wire) : Except AcquisitionError Wire := do
  let (first, wire) ← wire.byte
  if first ≠ 13 then .error .protocol
  else
    let (second, wire) ← wire.byte
    if second ≠ 10 then .error .protocol else .ok wire

/-- Chunks until the empty one and its trailer line. -/
def chunks (wire : Wire) (allowance : Nat) (body : Bytes) : Except AcquisitionError Bytes :=
  match wire.line 64 with
  | .error error => .error error
  | .ok (line, wire) =>
      match chunkSize line with
      | .error error => .error error
      | .ok 0 =>
          match wire.line maxHeaderBytes with
          | .error error => .error error
          | .ok (trailer, _) => if trailer.isEmpty then .ok body else .error .protocol
      | .ok (size + 1) =>
          if hsize : size + 1 > allowance - body.length then .error (.budget .bytes)
          else
            match hexact : wire.exact (size + 1) body with
            | .error error => .error error
            | .ok (extended, wire) =>
                have hprogress : allowance - extended.length < allowance - body.length := by
                  have hlength := Wire.exact_length hexact
                  omega
                match chunkEnd wire with
                | .error error => .error error
                | .ok wire => chunks wire allowance extended
termination_by allowance - body.length

/-- The response to one request on a fresh connection, with at most `allowance`
body bytes. -/
def httpGet (wire : Wire) (allowance : Nat) : Except AcquisitionError (HttpStatus × Bytes) :=
  match wire.upTo (asBytes "\r\n\r\n") maxHeaderBytes [] with
  | .error error => .error error
  | .ok (headers, wire) =>
      match fromUtf8 headers with
      | none => .error .protocol
      | some headers =>
          match head headers.toList with
          | .error error => .error error
          | .ok (status, framing) =>
              match framing.contentLength with
              | none => (chunks wire allowance []).map fun body => (status, body)
              | some size =>
                  if size > allowance then .error (.budget .bytes)
                  else (wire.exact size []).map fun (body, _) => (status, body)

/-- A body that one allowance lets through is cut off by another exactly when it
is longer than that. -/
theorem chunks_of_ok {wire : Wire} {allowance : Nat} {body result : Bytes}
    (h : chunks wire allowance body = .ok result) (hbody : body.length ≤ allowance) :
    body.length ≤ result.length ∧ result.length ≤ allowance ∧
      ∀ other, body.length ≤ other →
        chunks wire other body =
          if result.length ≤ other then .ok result else .error (.budget .bytes) := by
  fun_induction chunks wire allowance body with
  | case1 => simp at h
  | case2 => simp at h
  | case3 => simp at h
  | case4 wire body line after hline hsize trailer end' htrailer hempty =>
      simp only [Except.ok.injEq] at h
      subst h
      refine ⟨Nat.le_refl _, hbody, fun other hother => ?_⟩
      rw [if_pos hother, chunks]
      simp [hline, hsize, htrailer, hempty]
  | case5 => simp at h
  | case6 => simp at h
  | case7 => simp at h
  | case8 => simp at h
  | case9 wire body line after hline size hsize hfits extended rest hexact hprogress
      final hend ih =>
      have hlength := Wire.exact_length hexact
      obtain ⟨hgrows, hle, hother⟩ := ih h (by omega)
      refine ⟨by omega, hle, fun other hbodyOther => ?_⟩
      rw [chunks]
      simp only [hline, hsize]
      by_cases hsmall : size + 1 > other - body.length
      · rw [dif_pos hsmall, if_neg (by omega)]
      · rw [dif_neg hsmall]
        split
        · next herror => simp [hexact] at herror
        · next extended' rest' hexact' =>
            rw [hexact, Except.ok.injEq, Prod.mk.injEq] at hexact'
            obtain ⟨rfl, rfl⟩ := hexact'
            simp only [hend]
            exact hother other (by omega)

theorem httpGet_of_ok {wire : Wire} {allowance : Nat} {status : HttpStatus} {body : Bytes}
    (h : httpGet wire allowance = .ok (status, body)) :
    body.length ≤ allowance ∧ ∀ other,
      httpGet wire other =
        if body.length ≤ other then .ok (status, body) else .error (.budget .bytes) := by
  unfold httpGet at h ⊢
  cases hupTo : wire.upTo (asBytes "\r\n\r\n") maxHeaderBytes [] with
  | error => simp [hupTo] at h
  | ok received =>
      obtain ⟨headers, wire⟩ := received
      simp only [hupTo] at h ⊢
      cases htext : fromUtf8 headers with
      | none => simp [htext] at h
      | some headers =>
          simp only [htext] at h ⊢
          cases hhead : head headers.toList with
          | error => simp [hhead] at h
          | ok declared =>
              obtain ⟨status', framing⟩ := declared
              simp only [hhead] at h ⊢
              cases hlength : framing.contentLength with
              | none =>
                  simp only [hlength] at h ⊢
                  cases hchunks : chunks wire allowance [] with
                  | error => simp [hchunks, Except.map] at h
                  | ok result =>
                      obtain ⟨-, hle, hother⟩ := chunks_of_ok hchunks (Nat.zero_le _)
                      simp only [hchunks, Except.map, Except.ok.injEq, Prod.mk.injEq] at h
                      obtain ⟨rfl, rfl⟩ := h
                      refine ⟨hle, fun other => ?_⟩
                      rw [hother other (Nat.zero_le _)]
                      split <;> rfl
              | some size =>
                  simp only [hlength] at h ⊢
                  by_cases hsize : size > allowance
                  · simp [hsize] at h
                  · rw [if_neg hsize] at h
                    cases hexact : wire.exact size [] with
                    | error => simp [hexact, Except.map] at h
                    | ok result =>
                        have hresult := Wire.exact_length hexact
                        simp only [hexact, Except.map, Except.ok.injEq, Prod.mk.injEq] at h
                        obtain ⟨rfl, rfl⟩ := h
                        rw [List.length_nil, Nat.zero_add] at hresult
                        rw [hresult]
                        refine ⟨Nat.not_lt.mp hsize, fun other => ?_⟩
                        by_cases hother : size ≤ other
                        · rw [if_neg (Nat.not_lt.mpr hother), if_pos hother]
                          rfl
                        · rw [if_pos (Nat.not_le.mp hother), if_neg hother]

end DockerLens.Acquisition
