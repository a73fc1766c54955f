import DockerLens.Decimal
import DockerLens.Version.Catalog

namespace DockerLens.Version

open DockerLens.Text
open DockerLens.Fold

theorem splitOnceAt_append {first : Char} {rest before after : List Char} (h : first ∉ before) :
    splitOnceAt (first :: rest) (before ++ first :: rest ++ after) = some (before, after) := by
  induction before with
  | nil =>
      have hstart : (first :: rest).isPrefixOf ((first :: rest) ++ after) = true :=
        List.isPrefixOf_iff_prefix.mpr (List.prefix_append _ _)
      rw [List.nil_append, List.cons_append, splitOnceAt, ← List.cons_append, if_pos hstart,
        List.drop_left]
  | cons char before ih =>
      rw [List.mem_cons, not_or] at h
      have hstart : (first :: rest).isPrefixOf (char :: (before ++ first :: rest ++ after)) ≠
          true := by
        intro hsame
        rw [List.isPrefixOf_cons_cons, Bool.and_eq_true, beq_iff_eq] at hsame
        exact h.1 hsame.1
      rw [List.cons_append, List.cons_append, splitOnceAt, if_neg hstart, ih h.2]
      rfl

theorem eq_of_splitOnceAt {separator text before after : List Char}
    (h : splitOnceAt separator text = some (before, after)) :
    text = before ++ separator ++ after := by
  induction text generalizing before with
  | nil =>
      rw [splitOnceAt] at h
      split at h
      · next hempty =>
          cases h
          rw [List.isEmpty_iff.mp hempty]
          rfl
      · cases h
  | cons char text ih =>
      rw [splitOnceAt] at h
      split at h
      · next hstart =>
          cases h
          obtain ⟨after, hafter⟩ := List.isPrefixOf_iff_prefix.mp hstart
          rw [← hafter, List.drop_left, List.nil_append]
      · obtain ⟨⟨front, back⟩, hsplit, heq⟩ := Option.map_eq_some_iff.mp h
        cases heq
        rw [ih hsplit]
        rfl

theorem first_digit_iff {char : Char} :
    ('1' ≤ char ∧ char ≤ '9') ↔ char.isDigit ∧ char ≠ '0' := by
  have hnine : char ≤ '9' ↔ char.toNat ≤ 57 := Iff.rfl
  have hone : '1' ≤ char ↔ 49 ≤ char.toNat := Iff.rfl
  have hzero : char = '0' ↔ char.toNat = 48 := Char.toNat_inj.symm
  rw [isDigit_iff, hnine, hone, ne_eq, hzero]
  omega

theorem validRunPart_iff {part : List Char} :
    validRunPart part = true ↔ ∃ number, 0 < number ∧ part = Nat.toDigits 10 number := by
  rw [validRunPart, Bool.and_eq_true, List.all_eq_true]
  constructor
  · rintro ⟨hhead, hdigits⟩
    cases part with
    | nil => cases hhead
    | cons first rest =>
        have hfirst : '1' ≤ first ∧ first ≤ '9' := by simpa using hhead
        obtain ⟨-, hnonzero⟩ := first_digit_iff.mp hfirst
        have hwritten := toDigits_ofDigitChars ⟨List.cons_ne_nil first rest, hdigits⟩
          fun hzero => absurd (Option.some_inj.mp hzero) hnonzero
        refine ⟨_, Nat.pos_of_ne_zero fun hvalue => ?_, hwritten.symm⟩
        rw [hvalue, Nat.toDigits_zero] at hwritten
        exact hnonzero (List.cons.inj hwritten).1.symm
  · rintro ⟨number, hnumber, rfl⟩
    have hdigits := (digits_toDigits number).digit
    obtain ⟨first, rest, heq, hnonzero⟩ := head_toDigits number hnumber
    refine ⟨?_, hdigits⟩
    rw [heq] at hdigits ⊢
    have hfirst := first_digit_iff.mpr ⟨hdigits first List.mem_cons_self, hnonzero⟩
    simpa using hfirst

/-- The URL of an attempt of a run. -/
def runUrl (run attempt : Nat) : String :=
  runUrlPrefix ++ (run.repr ++ ("/attempts/" ++ attempt.repr))

theorem splitOnceAt_runUrl (run attempt : Nat) :
    splitOnceAt "/attempts/".toList
        (Nat.toDigits 10 run ++ "/attempts/".toList ++ Nat.toDigits 10 attempt) =
      some (Nat.toDigits 10 run, Nat.toDigits 10 attempt) := by
  refine splitOnceAt_append fun hslash => ?_
  have hdigit := (digits_toDigits run).digit '/' hslash
  revert hdigit
  decide

theorem toList_runUrl (run attempt : Nat) :
    (runUrl run attempt).toList = runUrlPrefix.toList ++
      (Nat.toDigits 10 run ++ "/attempts/".toList ++ Nat.toDigits 10 attempt) := by
  simp only [runUrl, String.toList_append, Nat.repr_eq_ofList_toDigits, String.toList_ofList,
    List.append_assoc]

theorem validRunUrl_iff {url : String} :
    validRunUrl url = true ↔
      ∃ run attempt, 0 < run ∧ 0 < attempt ∧ url = runUrl run attempt := by
  rw [validRunUrl, Bool.and_eq_true]
  constructor
  · rintro ⟨hstart, hparts⟩
    obtain ⟨path, hpath⟩ := List.isPrefixOf_iff_prefix.mp hstart
    rw [← hpath, ← String.length_toList, List.drop_left] at hparts
    split at hparts
    · cases hparts
    · next before after hsplit =>
        rw [Bool.and_eq_true, validRunPart_iff, validRunPart_iff] at hparts
        obtain ⟨⟨run, hrun, rfl⟩, attempt, hattempt, rfl⟩ := hparts
        refine ⟨run, attempt, hrun, hattempt, String.toList_injective ?_⟩
        rw [toList_runUrl, ← hpath, eq_of_splitOnceAt hsplit]
  · rintro ⟨run, attempt, hrun, hattempt, rfl⟩
    rw [toList_runUrl, ← String.length_toList, List.drop_left, splitOnceAt_runUrl]
    refine ⟨List.isPrefixOf_iff_prefix.mpr (List.prefix_append _ _), ?_⟩
    simp only [Bool.and_eq_true, validRunPart_iff]
    exact ⟨⟨run, hrun, rfl⟩, attempt, hattempt, rfl⟩

theorem toDigits_injective {left right : Nat} (h : Nat.toDigits 10 left = Nat.toDigits 10 right) :
    left = right := by
  have hvalue := congrArg (Nat.ofDigitChars 10 · 0) h
  simpa using hvalue

theorem runUrl_injective {run run' attempt attempt' : Nat}
    (h : runUrl run attempt = runUrl run' attempt') : run = run' ∧ attempt = attempt' := by
  have htext := congrArg String.toList h
  rw [toList_runUrl, toList_runUrl] at htext
  have hsplit := congrArg (splitOnceAt "/attempts/".toList) (List.append_cancel_left htext)
  rw [splitOnceAt_runUrl, splitOnceAt_runUrl, Option.some_inj, Prod.mk.injEq] at hsplit
  exact ⟨toDigits_injective hsplit.1, toDigits_injective hsplit.2⟩

/-- The digits of a Git object name. -/
def hexDigits : List Char := "0123456789abcdef".toList

theorem hexDigits_ascii {char : Char} (h : char ∈ hexDigits) : char.toNat < 128 := by
  have hall : hexDigits.all (fun char => char.toNat < 128) = true := by decide
  simpa using List.all_eq_true.mp hall char h

/-- A candidate is forty hexadecimal digits in lower case. -/
theorem validCandidateSha_iff {sha : String} :
    validCandidateSha sha = true ↔
      sha.toList.length = 40 ∧ ∀ char ∈ sha.toList, char ∈ hexDigits := by
  rw [validCandidateSha, Bool.and_eq_true, beq_iff_eq, List.all_eq_true]
  constructor
  · rintro ⟨hlength, hbytes⟩
    have hall : ∀ code : Fin 256,
        (isAsciiDigit (UInt8.ofNat code.val) ||
          (97 ≤ UInt8.ofNat code.val && UInt8.ofNat code.val ≤ 102)) = true →
        Char.ofNat code.val ∈ hexDigits ∧
          UInt8.ofNat (Char.ofNat code.val).toNat = UInt8.ofNat code.val := by
      decide +kernel
    have hbyte : ∀ byte ∈ asBytes sha, Char.ofNat byte.toNat ∈ hexDigits ∧
        UInt8.ofNat (Char.ofNat byte.toNat).toNat = byte := by
      intro byte hmem
      have hcode := hall ⟨byte.toNat, byte.toNat_lt⟩
      rw [UInt8.ofNat_toNat] at hcode
      exact hcode (hbytes byte hmem)
    have hsha : sha = String.ofList ((asBytes sha).map fun byte => Char.ofNat byte.toNat) := by
      apply asBytes_injective
      rw [asBytes_ascii, List.map_map]
      · conv_lhs => rw [← List.map_id (asBytes sha)]
        exact List.map_congr_left fun byte hmem => (hbyte byte hmem).2.symm
      · intro char hchar
        obtain ⟨byte, hmem, rfl⟩ := List.mem_map.mp hchar
        exact hexDigits_ascii (hbyte byte hmem).1
    have htext : sha.toList = (asBytes sha).map fun byte => Char.ofNat byte.toNat := by
      conv_lhs => rw [hsha, String.toList_ofList]
    rw [htext, List.length_map]
    refine ⟨hlength, fun char hchar => ?_⟩
    obtain ⟨byte, hmem, rfl⟩ := List.mem_map.mp hchar
    exact (hbyte byte hmem).1
  · rintro ⟨hlength, hchars⟩
    have hbytes : asBytes sha = sha.toList.map fun char => UInt8.ofNat char.toNat := by
      conv_lhs => rw [← String.ofList_toList (s := sha)]
      exact asBytes_ascii fun char hchar => hexDigits_ascii (hchars char hchar)
    rw [hbytes, List.length_map]
    refine ⟨hlength, fun byte hmem => ?_⟩
    obtain ⟨char, hchar, rfl⟩ := List.mem_map.mp hmem
    have hall : hexDigits.all (fun char => isAsciiDigit (UInt8.ofNat char.toNat) ||
        (97 ≤ UInt8.ofNat char.toNat && UInt8.ofNat char.toNat ≤ 102)) = true := by
      decide
    exact List.all_eq_true.mp hall char (hchars char hchar)

/-- The outcomes of building a reference to native evidence. -/
inductive Located (lane : NativeEvidenceLane) (url sha artifact : String)
    (manifestKey recordKey : CapabilityEvidenceKey) :
    Except CapabilityError NativeEvidenceReference → Prop
  | located {run attempt : Nat} (run_pos : 0 < run) (attempt_pos : 0 < attempt)
      (url_eq : url = runUrl run attempt) (length : sha.toList.length = 40)
      (hex : ∀ char ∈ sha.toList, char ∈ hexDigits) (artifact_eq : artifact = lane.artifactName) :
      Located lane url sha artifact manifestKey recordKey
        (.ok ⟨lane, url, sha, artifact, manifestKey, recordKey⟩)
  | runUrl (url_ne : ∀ run attempt, 0 < run → 0 < attempt → url ≠ runUrl run attempt) :
      Located lane url sha artifact manifestKey recordKey (.error .invalidEvidenceRunUrl)
  | candidate {run attempt : Nat} (run_pos : 0 < run) (attempt_pos : 0 < attempt)
      (url_eq : url = Version.runUrl run attempt)
      (sha_invalid : sha.toList.length = 40 → ∃ char ∈ sha.toList, char ∉ hexDigits) :
      Located lane url sha artifact manifestKey recordKey (.error .invalidEvidenceCandidateSha)
  | artifact {run attempt : Nat} (run_pos : 0 < run) (attempt_pos : 0 < attempt)
      (url_eq : url = Version.runUrl run attempt) (length : sha.toList.length = 40)
      (hex : ∀ char ∈ sha.toList, char ∈ hexDigits) (artifact_ne : artifact ≠ lane.artifactName) :
      Located lane url sha artifact manifestKey recordKey (.error .invalidEvidenceArtifactName)

section Located

variable {lane : NativeEvidenceLane} {url sha artifact : String}
  {manifestKey recordKey : CapabilityEvidenceKey}

theorem located_new : Located lane url sha artifact manifestKey recordKey
    (NativeEvidenceReference.new lane url sha artifact manifestKey recordKey) := by
  rw [NativeEvidenceReference.new]
  by_cases hurl : validRunUrl url = true
  · rw [ensure_bind hurl]
    obtain ⟨run, attempt, hrun, hattempt, heq⟩ := validRunUrl_iff.mp hurl
    by_cases hsha : validCandidateSha sha = true
    · rw [ensure_bind hsha]
      obtain ⟨hlength, hhex⟩ := validCandidateSha_iff.mp hsha
      by_cases hartifact : artifact = lane.artifactName
      · rw [ensure_bind hartifact]
        exact .located hrun hattempt heq hlength hhex hartifact
      · rw [ensure, if_neg hartifact, error_bind]
        exact .artifact hrun hattempt heq hlength hhex hartifact
    · rw [ensure, if_neg hsha, error_bind]
      refine .candidate hrun hattempt heq fun hlength => ?_
      by_contra hnone
      simp only [not_exists, not_and, not_not] at hnone
      exact hsha (validCandidateSha_iff.mpr ⟨hlength, hnone⟩)
  · rw [ensure, if_neg hurl, error_bind]
    exact .runUrl fun run attempt hrun hattempt heq =>
      hurl (validRunUrl_iff.mpr ⟨run, attempt, hrun, hattempt, heq⟩)

/-- There is one outcome. -/
theorem Located.unique {left right : Except CapabilityError NativeEvidenceReference}
    (hleft : Located lane url sha artifact manifestKey recordKey left)
    (hright : Located lane url sha artifact manifestKey recordKey right) : left = right := by
  cases hleft with
  | located hrun hattempt hurl hlength hhex hartifact =>
      cases hright with
      | located => rfl
      | runUrl hnone => exact absurd hurl (hnone _ _ hrun hattempt)
      | candidate _ _ _ hinvalid =>
          obtain ⟨char, hchar, hnot⟩ := hinvalid hlength
          exact absurd (hhex char hchar) hnot
      | artifact _ _ _ _ _ hne => exact absurd hartifact hne
  | runUrl hnone =>
      cases hright with
      | runUrl => rfl
      | located hrun hattempt hurl | candidate hrun hattempt hurl | artifact hrun hattempt hurl =>
          exact absurd hurl (hnone _ _ hrun hattempt)
  | candidate hrun hattempt hurl hinvalid =>
      cases hright with
      | runUrl hnone => exact absurd hurl (hnone _ _ hrun hattempt)
      | candidate => rfl
      | located _ _ _ hlength hhex | artifact _ _ _ hlength hhex =>
          obtain ⟨char, hchar, hnot⟩ := hinvalid hlength
          exact absurd (hhex char hchar) hnot
  | artifact hrun hattempt hurl hlength hhex hne =>
      cases hright with
      | runUrl hnone => exact absurd hurl (hnone _ _ hrun hattempt)
      | candidate _ _ _ hinvalid =>
          obtain ⟨char, hchar, hnot⟩ := hinvalid hlength
          exact absurd (hhex char hchar) hnot
      | located _ _ _ _ _ hartifact => exact absurd hartifact hne
      | artifact => rfl

end Located

/-- A locator is accepted exactly when it names an attempt of a run by two positive decimal numbers,
a candidate by forty hexadecimal digits and the artifact of its lane, it is refused with the first
of them that is wrong, and the URL says which attempt of which run it is. -/
theorem reference_located (lane : NativeEvidenceLane) (url sha artifact : String)
    (manifestKey recordKey : CapabilityEvidenceKey) :
    (∀ result, NativeEvidenceReference.new lane url sha artifact manifestKey recordKey = result ↔
      Located lane url sha artifact manifestKey recordKey result) ∧
    ∀ run attempt run' attempt', url = runUrl run attempt → url = runUrl run' attempt' →
      run = run' ∧ attempt = attempt' := by
  refine ⟨fun result => ⟨?_, located_new.unique⟩, ?_⟩
  · rintro rfl
    exact located_new
  · rintro run attempt run' attempt' rfl hsame
    exact runUrl_injective hsame

end DockerLens.Version
