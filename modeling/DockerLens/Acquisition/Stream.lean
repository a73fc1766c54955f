import DockerLens.Acquisition.Http
import DockerLens.Fold

namespace DockerLens.Acquisition

open DockerLens.Text
open DockerLens.Evidence
open DockerLens.Fold

namespace Wire

/-- The bytes that a wire still delivers. -/
def stream (self : Wire) : Bytes := self.fragments.flatten

/-- Every read before the end of the stream delivers at least one byte. -/
def Solid (self : Wire) : Prop := [] ∉ self.fragments

/-- The error of a read that needs more than the stream holds. -/
def ending (self : Wire) : AcquisitionError := self.failure.getD .protocol

/-- What reading some bytes of a wire leaves behind. -/
structure Past (before : Wire) (bytes : Bytes) (after : Wire) : Prop where
  solid : after.Solid
  stream_eq : before.stream = bytes ++ after.stream
  failure_eq : after.failure = before.failure

theorem Past.trans {self middle after : Wire} {first second : Bytes}
    (hfirst : self.Past first middle) (hsecond : middle.Past second after) :
    self.Past (first ++ second) after where
  solid := hsecond.solid
  stream_eq := by rw [hfirst.stream_eq, hsecond.stream_eq, List.append_assoc]
  failure_eq := hsecond.failure_eq.trans hfirst.failure_eq

theorem Past.ending_eq {self after : Wire} {bytes : Bytes} (h : self.Past bytes after) :
    after.ending = self.ending := by
  rw [ending, h.failure_eq, ending]

/-- A read before the end of the stream makes progress. -/
theorem read_past {self : Wire} (count : Nat) (hsolid : self.Solid) (hne : self.stream ≠ [])
    (hcount : 0 < count) :
    ∃ bytes after, self.read count = .ok (bytes, after) ∧ bytes ≠ [] ∧ bytes.length ≤ count ∧
      self.Past bytes after := by
  obtain ⟨fragments, failure⟩ := self
  cases fragments with
  | nil => exact absurd rfl hne
  | cons fragment rest =>
      rw [Solid, List.mem_cons, not_or] at hsolid
      by_cases hle : fragment.length ≤ count
      · refine ⟨fragment, ⟨rest, failure⟩, ?_, Ne.symm hsolid.1, hle, hsolid.2, ?_, rfl⟩
        · rw [read]
          exact if_pos hle
        · simp [stream]
      · refine ⟨fragment.take count, ⟨fragment.drop count :: rest, failure⟩, ?_, ?_, ?_, ?_, ?_,
          rfl⟩
        · rw [read]
          exact if_neg hle
        · rw [ne_eq, List.take_eq_nil_iff, not_or]
          exact ⟨by omega, Ne.symm hsolid.1⟩
        · exact List.length_take_le _ _
        · rw [Solid, List.mem_cons, not_or]
          refine ⟨fun hnil => ?_, hsolid.2⟩
          have hlength := congrArg List.length hnil
          rw [List.length_nil, List.length_drop] at hlength
          omega
        · simp [stream, ← List.append_assoc]

theorem read_end {self : Wire} (count : Nat) (hsolid : self.Solid) (hnil : self.stream = []) :
    (self.failure = none ∧ self.read count = .ok ([], self)) ∨
      ∃ error, self.failure = some error ∧ self.read count = .error error := by
  obtain ⟨fragments, failure⟩ := self
  cases fragments with
  | nil =>
      cases failure with
      | none => exact .inl ⟨rfl, rfl⟩
      | some error => exact .inr ⟨error, rfl, rfl⟩
  | cons fragment rest =>
      rw [Solid, List.mem_cons, not_or] at hsolid
      rw [stream, List.flatten_cons, List.append_eq_nil_iff] at hnil
      exact absurd hnil.1.symm hsolid.1

theorem byte_past {self : Wire} {byte : UInt8} {rest : Bytes} (hsolid : self.Solid)
    (h : self.stream = byte :: rest) :
    ∃ after, self.byte = .ok (byte, after) ∧ self.Past [byte] after := by
  obtain ⟨bytes, after, hread, hne, hlength, hpast⟩ :=
    read_past 1 hsolid (by rw [h]; exact List.cons_ne_nil _ _) Nat.one_pos
  match bytes, hne, hlength with
  | [first], _, _ =>
      have hfirst := hpast.stream_eq
      rw [h, List.singleton_append, List.cons.injEq] at hfirst
      obtain ⟨rfl, -⟩ := hfirst
      refine ⟨after, ?_, hpast⟩
      rw [Wire.byte, hread]

theorem byte_end {self : Wire} (hsolid : self.Solid) (h : self.stream = []) :
    self.byte = .error self.ending := by
  rcases read_end 1 hsolid h with ⟨hfailure, hread⟩ | ⟨error, hfailure, hread⟩
  · rw [Wire.byte, hread, ending, hfailure]
    rfl
  · rw [Wire.byte, hread, ending, hfailure]
    rfl

theorem exact_past {self : Wire} {count : Nat} {data rest : Bytes} (out : Bytes)
    (hsolid : self.Solid) (h : self.stream = data ++ rest) (hcount : data.length = count) :
    ∃ after, self.exact count out = .ok (out ++ data, after) ∧ self.Past data after := by
  induction count using Nat.strongRecOn generalizing self out data with
  | _ count ih =>
      rw [exact]
      by_cases hzero : count = 0
      · obtain rfl : data = [] := List.length_eq_zero_iff.mp (hcount.trans hzero)
        refine ⟨self, ?_, hsolid, rfl, rfl⟩
        rw [if_pos hzero, List.append_nil]
      · have hne : self.stream ≠ [] := by
          rw [h]
          intro hnil
          rw [List.append_eq_nil_iff] at hnil
          simp [hnil.1] at hcount
          omega
        obtain ⟨bytes, middle, hread, hbytes, hlength, hpast⟩ :=
          read_past (min count 8192) hsolid hne (by omega)
        have hpos := List.length_pos_iff.mpr hbytes
        have hle : bytes.length ≤ data.length := by omega
        have hsplit : data = bytes ++ data.drop bytes.length := by
          have hstream := hpast.stream_eq
          rw [h] at hstream
          have htake := congrArg (List.take bytes.length) hstream
          rw [List.take_append_of_le_length hle, List.take_left] at htake
          conv_lhs => rw [← List.take_append_drop bytes.length data, htake]
        have hmiddle : middle.stream = data.drop bytes.length ++ rest := by
          have hstream := hpast.stream_eq
          rw [h, hsplit, List.append_assoc] at hstream
          simpa using (List.append_cancel_left hstream).symm
        obtain ⟨after, hexact, hafter⟩ := ih (count - bytes.length) (by omega)
          (out ++ bytes) hpast.solid hmiddle (by rw [List.length_drop, hcount])
        refine ⟨after, ?_, ?_⟩
        · rw [if_neg hzero, hread]
          simp only
          rw [if_neg (by omega), hexact, List.append_assoc, ← hsplit]
        · rw [hsplit]
          exact hpast.trans hafter

theorem exact_end {self : Wire} {count : Nat} {out : Bytes} (hsolid : self.Solid)
    (h : self.stream.length < count) : self.exact count out = .error self.ending := by
  induction count using Nat.strongRecOn generalizing self out with
  | _ count ih =>
      rw [exact, if_neg (by omega)]
      by_cases hnil : self.stream = []
      · rcases read_end (min count 8192) hsolid hnil with
          ⟨hfailure, hread⟩ | ⟨error, hfailure, hread⟩
        · rw [hread, ending, hfailure]
          rfl
        · rw [hread, ending, hfailure]
          rfl
      · obtain ⟨bytes, after, hread, hbytes, hlength, hpast⟩ :=
          read_past (min count 8192) hsolid hnil (by omega)
        have hpos := List.length_pos_iff.mpr hbytes
        have hsum := congrArg List.length hpast.stream_eq
        rw [List.length_append] at hsum
        rw [hread]
        simp only
        rw [if_neg (by omega), ih _ (by omega) hpast.solid (by omega), hpast.ending_eq]

/-- A line ends at the first place where its terminator does. -/
theorem upTo_past {terminator : Bytes} {cap : Nat} {read text rest : Bytes} {self : Wire}
    (hsolid : self.Solid) (h : self.stream = text ++ rest) (hcap : text.length ≤ cap)
    (hne : text ≠ []) (hend : terminator <:+ read ++ text)
    (hfirst : ∀ begun, begun <+: text → begun ≠ [] → begun ≠ text →
      ¬ terminator <:+ read ++ begun) :
    ∃ after, upTo terminator cap read self = .ok (read ++ text, after) ∧
      self.Past text after := by
  induction text generalizing cap read self with
  | nil => exact absurd rfl hne
  | cons byte text ih =>
      obtain ⟨cap, rfl⟩ : ∃ smaller, cap = smaller + 1 :=
        ⟨cap - 1, by rw [List.length_cons] at hcap; omega⟩
      have hshort : text.length ≤ cap := by
        rw [List.length_cons] at hcap
        omega
      obtain ⟨middle, hbyte, hmiddle⟩ := byte_past hsolid h
      rw [upTo, hbyte]
      simp only
      by_cases hlast : text = []
      · subst hlast
        rw [if_pos (List.isSuffixOf_iff_suffix.mpr hend)]
        exact ⟨middle, rfl, hmiddle⟩
      · have hnot := hfirst [byte] ⟨text, rfl⟩ (List.cons_ne_nil _ _)
          (fun heq => hlast (List.cons.inj heq).2.symm)
        rw [if_neg (fun hsuffix => hnot (List.isSuffixOf_iff_suffix.mp hsuffix))]
        have hstream : middle.stream = text ++ rest := by
          have hstream := hmiddle.stream_eq
          rw [h] at hstream
          exact (List.cons.inj hstream).2.symm
        have hnext : ∀ begun, begun <+: text → begun ≠ [] → begun ≠ text →
            ¬ terminator <:+ read ++ [byte] ++ begun := by
          intro begun hbegun _ hproper
          rw [List.append_assoc, List.singleton_append]
          exact hfirst (byte :: begun) ((List.cons_prefix_cons).mpr ⟨rfl, hbegun⟩)
            (List.cons_ne_nil _ _) (fun heq => hproper (List.cons.inj heq).2)
        obtain ⟨after, hupTo, hafter⟩ := ih hmiddle.solid hstream hshort hlast
          (by rw [List.append_assoc]; exact hend) hnext
        refine ⟨after, ?_, ?_⟩
        · rw [hupTo, List.append_assoc]
          rfl
        · exact hmiddle.trans hafter

/-- A stream that ends before its terminator does. -/
theorem upTo_end {terminator : Bytes} {cap : Nat} {read : Bytes} {self : Wire}
    (hsolid : self.Solid) (hcap : self.stream.length < cap)
    (hnone : ∀ begun, begun <+: self.stream → begun ≠ [] → ¬ terminator <:+ read ++ begun) :
    upTo terminator cap read self = .error self.ending := by
  induction cap generalizing read self with
  | zero => exact absurd hcap (Nat.not_lt_zero _)
  | succ cap ih =>
      rw [upTo]
      cases hstream : self.stream with
      | nil => rw [byte_end hsolid hstream]
      | cons byte rest =>
          obtain ⟨after, hbyte, hafter⟩ := byte_past hsolid hstream
          have hrest : after.stream = rest := by
            have heq := hafter.stream_eq
            rw [hstream] at heq
            exact (List.cons.inj heq).2.symm
          have hfirst := hnone [byte] (by rw [hstream]; exact ⟨rest, rfl⟩) (List.cons_ne_nil _ _)
          rw [hbyte]
          simp only
          rw [if_neg (fun hsuffix => hfirst (List.isSuffixOf_iff_suffix.mp hsuffix)),
            ih hafter.solid, hafter.ending_eq]
          · rw [hstream, List.length_cons] at hcap
            rw [hrest]
            omega
          · intro begun hbegun _
            rw [List.append_assoc, List.singleton_append]
            apply hnone (byte :: begun) _ (List.cons_ne_nil _ _)
            rw [hstream, ← hrest]
            exact List.cons_prefix_cons.mpr ⟨rfl, hbegun⟩

end Wire

/-- The last chunk of a body, with its trailer line. -/
def lastChunk (wire : Wire) (body : Bytes) : Except AcquisitionError Bytes := do
  let (trailer, _) ← wire.line maxHeaderBytes
  if trailer.isEmpty then .ok body else .error .protocol

/-- One chunk of a body, and the chunks after it. -/
def nextChunk (wire : Wire) (allowance size : Nat) (body : Bytes) :
    Except AcquisitionError Bytes := do
  let (extended, wire) ← wire.exact size body
  let wire ← chunkEnd wire
  chunks wire allowance extended

theorem chunks_eq (wire : Wire) (allowance : Nat) (body : Bytes) :
    chunks wire allowance body = (do
      let (line, wire) ← wire.line 64
      let size ← chunkSize line
      if size = 0 then lastChunk wire body
      else if size > allowance - body.length then .error (.budget .bytes)
      else nextChunk wire allowance size body) := by
  rw [chunks]
  cases hline : wire.line 64 with
  | error error => rfl
  | ok received =>
      obtain ⟨line, wire⟩ := received
      simp only [ok_bind]
      cases hsize : chunkSize line with
      | error error => rfl
      | ok size =>
          simp only [ok_bind]
          cases size with
          | zero =>
              rw [if_pos rfl, lastChunk]
              cases wire.line maxHeaderBytes with
              | error error => rfl
              | ok received => rfl
          | succ size =>
              simp only
              rw [if_neg (Nat.succ_ne_zero size)]
              by_cases hfits : size + 1 > allowance - body.length
              · rw [dif_pos hfits, if_pos hfits]
              · rw [dif_neg hfits, if_neg hfits, nextChunk]
                split
                · next error hexact =>
                    rw [hexact]
                    rfl
                · next extended wire hexact =>
                    simp only [hexact, ok_bind]
                    cases chunkEnd wire with
                    | error error => rfl
                    | ok wire => rfl

/-- Whole chunks read one after the other, each within the allowance. -/
inductive ReadsChunks (allowance : Nat) : Wire → Bytes → Wire → Bytes → Prop
  | done (wire : Wire) (body : Bytes) : ReadsChunks allowance wire body wire body
  | chunk {wire lined filled next reached : Wire} {line body extended final : Bytes} {size : Nat}
      (hline : wire.line 64 = .ok (line, lined)) (hsize : chunkSize line = .ok size)
      (hpos : size ≠ 0) (hfits : size ≤ allowance - body.length)
      (hexact : lined.exact size body = .ok (extended, filled))
      (hend : chunkEnd filled = .ok next)
      (hrest : ReadsChunks allowance next extended reached final) :
      ReadsChunks allowance wire body reached final

theorem ReadsChunks.chunks_eq {allowance : Nat} {wire reached : Wire} {body final : Bytes}
    (h : ReadsChunks allowance wire body reached final) :
    chunks wire allowance body = chunks reached allowance final := by
  induction h with
  | done => rfl
  | chunk hline hsize hpos hfits hexact hend _ ih =>
      rw [← ih, Acquisition.chunks_eq, hline, ok_bind]
      simp only [hsize, ok_bind]
      rw [if_neg hpos, if_neg (Nat.not_lt.mpr hfits), nextChunk, hexact, ok_bind]
      simp only [hend, ok_bind]

theorem ReadsChunks.length_le {allowance : Nat} {wire reached : Wire} {body final : Bytes}
    (h : ReadsChunks allowance wire body reached final) (hbody : body.length ≤ allowance) :
    final.length ≤ allowance := by
  induction h with
  | done => exact hbody
  | chunk _ _ _ hfits hexact _ _ ih =>
      have hlength := Wire.exact_length hexact
      exact ih (by omega)

/-- A response that frames a body, or the next chunk of one, beyond the allowance. -/
inductive Oversized (wire : Wire) (allowance : Nat) : Prop
  | length {headers : Bytes} {text : String} {rest : Wire} {status : HttpStatus}
      {framing : Framing} {size : Nat}
      (hhead : wire.upTo (asBytes "\r\n\r\n") maxHeaderBytes [] = .ok (headers, rest))
      (htext : fromUtf8 headers = some text)
      (hframing : head text.toList = .ok (status, framing))
      (hlength : framing.contentLength = some size) (hexceeds : allowance < size)
  | chunk {headers line body : Bytes} {text : String} {rest reached lined : Wire}
      {status : HttpStatus} {framing : Framing} {size : Nat}
      (hhead : wire.upTo (asBytes "\r\n\r\n") maxHeaderBytes [] = .ok (headers, rest))
      (htext : fromUtf8 headers = some text)
      (hframing : head text.toList = .ok (status, framing))
      (hchunked : framing.contentLength = none)
      (hreads : ReadsChunks allowance rest [] reached body)
      (hline : reached.line 64 = .ok (line, lined)) (hsize : chunkSize line = .ok size)
      (hexceeds : allowance < body.length + size)

theorem httpGet_oversized {wire : Wire} {allowance : Nat} (h : Oversized wire allowance) :
    httpGet wire allowance = .error (.budget .bytes) := by
  cases h with
  | length hhead htext hframing hlength hexceeds =>
      rw [httpGet, hhead]
      simp only [htext, hframing, hlength]
      exact if_pos hexceeds
  | chunk hhead htext hframing hchunked hreads hline hsize hexceeds =>
      have hbody := hreads.length_le (Nat.zero_le _)
      rw [httpGet, hhead]
      simp only [htext, hframing, hchunked]
      rw [hreads.chunks_eq, chunks_eq, hline, ok_bind]
      simp only [hsize, ok_bind]
      rw [if_neg (by omega), if_pos (by omega)]
      rfl

/-- Two reads with the same outcome, after which the wires are related again; where
`stops` holds, the first may also end early. -/
def Lockstep {α : Type} (stops : Prop) (same : Wire → Wire → Prop)
    (left right : Except AcquisitionError (α × Wire)) : Prop :=
  (stops ∧ left = .error .protocol) ∨
    (∃ error, left = .error error ∧ right = .error error) ∨
    ∃ a left' right', left = .ok (a, left') ∧ right = .ok (a, right') ∧ same left' right'

/-- The same for a result that leaves no wire to read on. -/
def Outcome {α : Type} (stops : Prop) (left right : Except AcquisitionError α) : Prop :=
  (stops ∧ left = .error .protocol) ∨ left = right

/-- Two ways to deliver a stream, related for some number of bytes yet to be read,
that the two primitive reads cannot tell apart. -/
structure Simulates (stops : Prop) (same : Nat → Wire → Wire → Prop) : Prop where
  mono {count count' : Nat} {left right : Wire} : same count left right → count' ≤ count →
    same count' left right
  byte {count : Nat} {left right : Wire} : same (1 + count) left right →
    Lockstep stops (same count) left.byte right.byte
  exact {size count : Nat} {left right : Wire} (out : Bytes) : same (size + count) left right →
    Lockstep stops (same count) (left.exact size out) (right.exact size out)

section Simulates

variable {stops : Prop} {same : Nat → Wire → Wire → Prop} {left right : Wire}

theorem Lockstep.stop {α : Type} {relation : Wire → Wire → Prop}
    {x y : Except AcquisitionError (α × Wire)} (hstops : stops) (h : x = .error .protocol) :
    Lockstep stops relation x y := .inl ⟨hstops, h⟩

theorem Lockstep.fail {α : Type} {relation : Wire → Wire → Prop}
    {x y : Except AcquisitionError (α × Wire)} {error : AcquisitionError} (hx : x = .error error)
    (hy : y = .error error) : Lockstep stops relation x y := .inr (.inl ⟨error, hx, hy⟩)

theorem Lockstep.go {α : Type} {relation : Wire → Wire → Prop} {a : α}
    (h : relation left right) :
    Lockstep stops relation (.ok (a, left)) (.ok (a, right)) :=
  .inr (.inr ⟨a, left, right, rfl, rfl, h⟩)

theorem Lockstep.outcome {α β : Type} {relation : Wire → Wire → Prop}
    {x y : Except AcquisitionError (α × Wire)} {f : α × Wire → Except AcquisitionError β}
    (h : Lockstep stops relation x y)
    (hf : ∀ a left right, x = .ok (a, left) → relation left right →
      Outcome stops (f (a, left)) (f (a, right))) :
    Outcome stops (x >>= f) (y >>= f) := by
  rcases h with ⟨hstops, rfl⟩ | ⟨error, rfl, rfl⟩ | ⟨a, left, right, rfl, rfl, h⟩
  · exact .inl ⟨hstops, rfl⟩
  · exact .inr rfl
  · exact hf a left right rfl h

theorem Outcome.map {α β : Type} {x y : Except AcquisitionError α} {f : α → β}
    (h : Outcome stops x y) : Outcome stops (x.map f) (y.map f) := by
  rcases h with ⟨hstops, rfl⟩ | rfl
  · exact .inl ⟨hstops, rfl⟩
  · exact .inr rfl

variable (hsimulates : Simulates stops same)
include hsimulates

theorem Simulates.upTo {cap count : Nat} (terminator read : Bytes)
    (h : same (cap + count) left right) :
    Lockstep stops (same count) (left.upTo terminator cap read)
      (right.upTo terminator cap read) := by
  induction cap generalizing read left right with
  | zero => exact .fail rfl rfl
  | succ cap ih =>
      rw [Wire.upTo, Wire.upTo]
      have hbyte : same (1 + (cap + count)) left right := hsimulates.mono h (by omega)
      rcases hsimulates.byte hbyte with
        ⟨hstops, hleft⟩ | ⟨error, hleft, hright⟩ | ⟨byte, left', right', hleft, hright, hnext⟩
      · rw [hleft]
        exact .stop hstops rfl
      · rw [hleft, hright]
        exact .fail rfl rfl
      · rw [hleft, hright]
        simp only
        split
        · exact .go (hsimulates.mono hnext (by omega))
        · exact ih _ hnext

theorem Simulates.line {cap count : Nat} (h : same (cap + count) left right) :
    Lockstep stops (same count) (left.line cap) (right.line cap) := by
  rw [Wire.line, Wire.line]
  rcases hsimulates.upTo (asBytes "\r\n") [] h with
    ⟨hstops, hleft⟩ | ⟨error, hleft, hright⟩ | ⟨line, left', right', hleft, hright, hnext⟩
  · rw [hleft]
    exact .stop hstops rfl
  · rw [hleft, hright]
    exact .fail rfl rfl
  · rw [hleft, hright]
    exact .go hnext

theorem Simulates.chunkEnd {count : Nat} {α : Type} {f : Wire → Except AcquisitionError α}
    (h : same (2 + count) left right)
    (hf : ∀ left right, same count left right → Outcome stops (f left) (f right)) :
    Outcome stops (chunkEnd left >>= f) (chunkEnd right >>= f) := by
  have hfirst : same (1 + (1 + count)) left right := hsimulates.mono h (by omega)
  simp only [Acquisition.chunkEnd, bind_assoc]
  refine (hsimulates.byte hfirst).outcome fun first left right _ hnext => ?_
  by_cases hreturn : first ≠ 13
  · simp only [if_pos hreturn]
    exact .inr rfl
  · simp only [if_neg hreturn, bind_assoc]
    refine (hsimulates.byte hnext).outcome fun second left right _ hnext => ?_
    by_cases hfeed : second ≠ 10
    · simp only [if_pos hfeed]
      exact .inr rfl
    · simp only [if_neg hfeed, ok_bind]
      exact hf left right hnext

theorem Simulates.lastChunk {body : Bytes} (h : same maxHeaderBytes left right) :
    Outcome stops (lastChunk left body) (lastChunk right body) := by
  have hline : same (maxHeaderBytes + 0) left right := h
  exact (hsimulates.line hline).outcome fun _ _ _ _ _ => .inr rfl

/-- Each byte of a chunked body costs at most itself, a size line and a chunk end. -/
theorem Simulates.chunks {allowance : Nat} {body : Bytes}
    (h : same (67 * (allowance - body.length) + (64 + maxHeaderBytes)) left right) :
    Outcome stops (chunks left allowance body) (chunks right allowance body) := by
  induction hleft : allowance - body.length using Nat.strongRecOn generalizing left right body with
  | ind remaining ih =>
      rw [chunks_eq, chunks_eq]
      have hline : same (64 + (67 * remaining + maxHeaderBytes)) left right :=
        hsimulates.mono h (by omega)
      refine (hsimulates.line hline).outcome fun line left right _ hnext => ?_
      simp only
      cases chunkSize line with
      | error error => exact .inr rfl
      | ok size =>
          simp only [ok_bind]
          by_cases hlast : size = 0
          · rw [if_pos hlast, if_pos hlast]
            exact hsimulates.lastChunk (hsimulates.mono hnext (by omega))
          · rw [if_neg hlast, if_neg hlast]
            by_cases hfits : size > allowance - body.length
            · rw [if_pos hfits, if_pos hfits]
              exact .inr rfl
            · rw [if_neg hfits, if_neg hfits, nextChunk, nextChunk]
              have hdata : same (size + (2 + (67 * (remaining - size) + (64 + maxHeaderBytes))))
                  left right := hsimulates.mono hnext (by omega)
              refine (hsimulates.exact body hdata).outcome fun extended _ _ hexact hnext => ?_
              have hlength := Wire.exact_length hexact
              refine hsimulates.chunkEnd hnext fun left right hnext => ?_
              refine ih (allowance - extended.length) (by omega) (hsimulates.mono hnext ?_) rfl
              omega

end Simulates

/-- The most bytes of a stream that a response with some allowance can use. -/
def wireLimit (allowance : Nat) : Nat :=
  maxHeaderBytes + allowance + 66 * (allowance + 1) + maxHeaderBytes

theorem Simulates.httpGet {stops : Prop} {same : Nat → Wire → Wire → Prop} {left right : Wire}
    {allowance : Nat} (hsimulates : Simulates stops same)
    (h : same (wireLimit allowance) left right) :
    Outcome stops (httpGet left allowance) (httpGet right allowance) := by
  have hhead : same (maxHeaderBytes + (67 * allowance + (64 + maxHeaderBytes))) left right :=
    hsimulates.mono h (by rw [wireLimit]; omega)
  unfold Acquisition.httpGet
  rcases hsimulates.upTo (asBytes "\r\n\r\n") [] hhead with
    ⟨hstops, hl⟩ | ⟨error, hl, hr⟩ | ⟨headers, left', right', hl, hr, hnext⟩
  · rw [hl]
    exact .inl ⟨hstops, rfl⟩
  · rw [hl, hr]
    exact .inr rfl
  · rw [hl, hr]
    simp only
    cases fromUtf8 headers with
    | none => exact .inr rfl
    | some headers =>
        simp only
        cases head headers.toList with
        | error error => exact .inr rfl
        | ok declared =>
            obtain ⟨status, framing⟩ := declared
            simp only
            cases framing.contentLength with
            | none =>
                have hbody : same (67 * (allowance - ([] : Bytes).length) +
                    (64 + maxHeaderBytes)) left' right' := hnext
                exact (hsimulates.chunks hbody).map
            | some size =>
                simp only
                by_cases hfits : size > allowance
                · rw [if_pos hfits, if_pos hfits]
                  exact .inr rfl
                · rw [if_neg hfits, if_neg hfits]
                  have hbody : same (size + 0) left' right' := hsimulates.mono hnext (by omega)
                  rcases hsimulates.exact [] hbody with
                    ⟨hstops, hl⟩ | ⟨error, hl, hr⟩ | ⟨body, left'', right'', hl, hr, -⟩
                  · rw [hl]
                    exact .inl ⟨hstops, rfl⟩
                  · rw [hl, hr]
                    exact .inr rfl
                  · rw [hl, hr]
                    exact .inr rfl

/-- Two wires whose first `count` bytes are the same, however they are fragmented. -/
structure Agree (count : Nat) (left right : Wire) : Prop where
  left_solid : left.Solid
  right_solid : right.Solid
  stream_eq : left.stream.take count = right.stream.take count
  failure_eq : left.stream.length < count → left.failure = right.failure

theorem Agree.mono {count count' : Nat} {left right : Wire} (h : Agree count left right)
    (hle : count' ≤ count) : Agree count' left right where
  left_solid := h.left_solid
  right_solid := h.right_solid
  stream_eq := by
    have htake := congrArg (List.take count') h.stream_eq
    rwa [List.take_take, List.take_take, Nat.min_eq_left hle] at htake
  failure_eq := fun hlength => h.failure_eq (by omega)

theorem Agree.length_eq {count : Nat} {left right : Wire} (h : Agree count left right)
    (hlength : left.stream.length < count) : right.stream = left.stream := by
  have htake := h.stream_eq
  rw [List.take_of_length_le (by omega)] at htake
  have hlengths := congrArg List.length htake
  rw [List.length_take] at hlengths
  rw [htake, List.take_of_length_le (by omega)]

theorem Agree.ending_eq {count : Nat} {left right : Wire} (h : Agree count left right)
    (hlength : left.stream.length < count) : right.ending = left.ending := by
  rw [Wire.ending, Wire.ending, h.failure_eq hlength]

theorem Agree.past {count : Nat} {left right left' right' : Wire} {bytes : Bytes}
    (h : Agree (bytes.length + count) left right) (hleft : left.Past bytes left')
    (hright : right.Past bytes right') : Agree count left' right' where
  left_solid := hleft.solid
  right_solid := hright.solid
  stream_eq := by
    have htake := h.stream_eq
    rw [hleft.stream_eq, hright.stream_eq, List.take_length_add_append,
      List.take_length_add_append] at htake
    exact List.append_cancel_left htake
  failure_eq := fun hlength => by
    rw [hleft.failure_eq, hright.failure_eq]
    apply h.failure_eq
    rw [hleft.stream_eq, List.length_append]
    omega

theorem simulates_agree : Simulates False Agree where
  mono := Agree.mono
  byte := by
    intro count left right h
    cases hleft : left.stream with
    | nil =>
        have hlength : left.stream.length < 1 + count := by
          rw [hleft, List.length_nil]
          omega
        have hright := (h.length_eq hlength).trans hleft
        refine .fail (Wire.byte_end h.left_solid hleft) ?_
        rw [Wire.byte_end h.right_solid hright, h.ending_eq hlength]
    | cons byte rest =>
        have htake := h.stream_eq
        rw [hleft, Nat.add_comm, List.take_succ_cons] at htake
        cases hright : right.stream with
        | nil => simp [hright] at htake
        | cons byte' rest' =>
            rw [hright, List.take_succ_cons, List.cons.injEq] at htake
            obtain ⟨rfl, -⟩ := htake
            obtain ⟨left', hleft', hpast⟩ := Wire.byte_past h.left_solid hleft
            obtain ⟨right', hright', hpast'⟩ := Wire.byte_past h.right_solid hright
            rw [hleft', hright']
            exact .go (h.past hpast hpast')
  exact := by
    intro size count left right out h
    by_cases hlength : left.stream.length < size
    · have hright := h.length_eq (by omega)
      refine .fail (Wire.exact_end h.left_solid hlength) ?_
      rw [Wire.exact_end h.right_solid (by rw [hright]; exact hlength), h.ending_eq (by omega)]
    · have htake : (left.stream.take size).length = size := by
        rw [List.length_take]
        omega
      have hright : right.stream = left.stream.take size ++ right.stream.drop size := by
        rw [(h.mono (Nat.le_add_right size count)).stream_eq, List.take_append_drop]
      obtain ⟨left', hleft', hpast⟩ := Wire.exact_past out h.left_solid
        (List.take_append_drop size left.stream).symm htake
      obtain ⟨right', hright', hpast'⟩ := Wire.exact_past out h.right_solid hright htake
      rw [hleft', hright']
      exact .go (Agree.past (by rwa [htake]) hpast hpast')

theorem httpGet_agree {left right : Wire} {allowance : Nat}
    (h : Agree (wireLimit allowance) left right) :
    httpGet left allowance = httpGet right allowance := by
  rcases simulates_agree.httpGet h with ⟨hstops, -⟩ | heq
  · exact hstops.elim
  · exact heq

/-- A stream that ends, and one that goes on in the same way. -/
structure Ends (ended longer : Wire) : Prop where
  solid : ended.Solid
  longer_solid : longer.Solid
  failure_eq : ended.failure = none
  stream_prefix : ended.stream <+: longer.stream

theorem Ends.ending_eq {ended longer : Wire} (h : Ends ended longer) :
    ended.ending = .protocol := by
  rw [Wire.ending, h.failure_eq]
  rfl

theorem Ends.past {ended longer ended' longer' : Wire} {bytes : Bytes} (h : Ends ended longer)
    (hended : ended.Past bytes ended') (hlonger : longer.Past bytes longer') :
    Ends ended' longer' where
  solid := hended.solid
  longer_solid := hlonger.solid
  failure_eq := hended.failure_eq.trans h.failure_eq
  stream_prefix := by
    have hprefix := h.stream_prefix
    rw [hended.stream_eq, hlonger.stream_eq] at hprefix
    exact (List.prefix_append_right_inj bytes).mp hprefix

theorem simulates_ends : Simulates True fun _ => Ends where
  mono := fun h _ => h
  byte := by
    intro count ended longer h
    cases hended : ended.stream with
    | nil => exact .stop trivial (by rw [Wire.byte_end h.solid hended, h.ending_eq])
    | cons byte rest =>
        obtain ⟨more, hmore⟩ := h.stream_prefix
        rw [hended, List.cons_append] at hmore
        obtain ⟨ended', hended', hpast⟩ := Wire.byte_past h.solid hended
        obtain ⟨longer', hlonger', hpast'⟩ := Wire.byte_past h.longer_solid hmore.symm
        rw [hended', hlonger']
        exact .go (h.past hpast hpast')
  exact := by
    intro size count ended longer out h
    by_cases hlength : ended.stream.length < size
    · exact .stop trivial (by rw [Wire.exact_end h.solid hlength, h.ending_eq])
    · have htake : (ended.stream.take size).length = size := by
        rw [List.length_take]
        omega
      obtain ⟨more, hmore⟩ := h.stream_prefix
      have hlonger :
          longer.stream = ended.stream.take size ++ (ended.stream.drop size ++ more) := by
        rw [← List.append_assoc, List.take_append_drop, hmore]
      obtain ⟨ended', hended', hpast⟩ := Wire.exact_past out h.solid
        (List.take_append_drop size ended.stream).symm htake
      obtain ⟨longer', hlonger', hpast'⟩ := Wire.exact_past out h.longer_solid hlonger htake
      rw [hended', hlonger']
      exact .go (h.past hpast hpast')

theorem httpGet_ends {ended longer : Wire} {allowance : Nat} (h : Ends ended longer) :
    httpGet ended allowance = .error .protocol ∨
      httpGet ended allowance = httpGet longer allowance := by
  have hsame : (fun _ : Nat => Ends) (wireLimit allowance) ended longer := h
  rcases simulates_ends.httpGet hsame with ⟨-, hstop⟩ | heq
  · exact .inl hstop
  · exact .inr heq

end DockerLens.Acquisition
