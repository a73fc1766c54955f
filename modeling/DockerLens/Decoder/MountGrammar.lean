import DockerLens.Decoder.MountMode
import Mathlib.Data.List.Count
import Mathlib.Data.List.Nodup

namespace DockerLens.Decoder.MountMode

open DockerLens.Text
open DockerLens.Observation
open DockerLens.Fold

/-- The known groups, of each of which a mode may hold one token. -/
inductive Group
  | access
  | relabel
  | propagation
  | consistency
  | copy
  deriving DecidableEq, Repr

/-- The tokens of a group. -/
def Group.words : Group → List Bytes
  | access => ["ro", "rw"].map asBytes
  | relabel => ["z", "Z"].map asBytes
  | propagation => ["private", "rprivate", "shared", "rshared", "slave", "rslave"].map asBytes
  | consistency => ["consistent", "cached", "delegated"].map asBytes
  | copy => ["nocopy"].map asBytes

def accessWord : MountAccess → Bytes
  | .readOnly => asBytes "ro"
  | .readWrite => asBytes "rw"

def relabelWord : BindRelabel → Bytes
  | .shared => asBytes "z"
  | .private => asBytes "Z"

/-- The tokens of a mode; the empty mode has none. -/
def modeTokens (raw : Bytes) : List Bytes := if raw.isEmpty then [] else splitCommas raw

/-- What makes a mode an error. -/
def Malformed (raw : Bytes) : Prop :=
  256 < raw.length ∨ 16 < (modeTokens raw).length ∨ [] ∈ modeTokens raw ∨
    ∃ group : Group, 2 ≤ (modeTokens raw).countP (· ∈ group.words)

section Classes

def Token.group : Token → Option Group
  | .access .. => some .access
  | .relabel .. => some .relabel
  | .propagation => some .propagation
  | .consistency => some .consistency
  | .copy => some .copy
  | .other => none

def Token.access? : Token → Option MountAccess
  | .access found => some found
  | _ => none

def Token.relabel? : Token → Option BindRelabel
  | .relabel found => some found
  | _ => none

theorem classify_words :
    (∀ access, classify (accessWord access) = .access access) ∧
    (∀ relabel, classify (relabelWord relabel) = .relabel relabel) ∧
    (∀ word ∈ Group.propagation.words, classify word = .propagation) ∧
    (∀ word ∈ Group.consistency.words, classify word = .consistency) ∧
    (∀ word ∈ Group.copy.words, classify word = .copy) := by
  refine ⟨?_, ?_, ?_, ?_, ?_⟩
  · rintro (_ | _) <;> decide +kernel
  · rintro (_ | _) <;> decide +kernel
  · decide +kernel
  · decide +kernel
  · decide +kernel

theorem classify_eq_access_iff {token : Bytes} {access : MountAccess} :
    classify token = .access access ↔ token = accessWord access := by
  constructor
  · intro h
    rw [classify] at h
    split_ifs at h with h1 h2
    · cases h
      exact h1
    · cases h
      exact h2
  · rintro rfl
    exact classify_words.1 access

theorem classify_eq_relabel_iff {token : Bytes} {relabel : BindRelabel} :
    classify token = .relabel relabel ↔ token = relabelWord relabel := by
  constructor
  · intro h
    rw [classify] at h
    split_ifs at h with h1 h2 h3 h4
    · cases h
      exact h3
    · cases h
      exact h4
  · rintro rfl
    exact classify_words.2.1 relabel

/-- The class of a token tells its group. -/
theorem group_classify_iff {token : Bytes} {group : Group} :
    (classify token).group = some group ↔ token ∈ group.words := by
  constructor
  · intro h
    rw [classify] at h
    split_ifs at h with h1 h2 h3 h4 h5 h6 h7 <;>
      simp only [Token.group, Option.some_inj, reduceCtorEq] at h <;> subst h
    · exact h1 ▸ List.mem_cons_self
    · exact h2 ▸ List.mem_cons_of_mem _ List.mem_cons_self
    · exact h3 ▸ List.mem_cons_self
    · exact h4 ▸ List.mem_cons_of_mem _ List.mem_cons_self
    · exact h5
    · exact h6
    · exact h7 ▸ List.mem_cons_self
  · intro h
    obtain ⟨haccess, hrelabel, hpropagation, hconsistency, hcopy⟩ := classify_words
    cases group with
    | access =>
        simp only [Group.words, List.map_cons, List.map_nil, List.mem_cons, List.not_mem_nil,
          or_false] at h
        rcases h with rfl | rfl
        · rw [show classify (asBytes "ro") = _ from haccess .readOnly, Token.group]
        · rw [show classify (asBytes "rw") = _ from haccess .readWrite, Token.group]
    | relabel =>
        simp only [Group.words, List.map_cons, List.map_nil, List.mem_cons, List.not_mem_nil,
          or_false] at h
        rcases h with rfl | rfl
        · rw [show classify (asBytes "z") = _ from hrelabel .shared, Token.group]
        · rw [show classify (asBytes "Z") = _ from hrelabel .private, Token.group]
    | propagation => rw [hpropagation token h, Token.group]
    | consistency => rw [hconsistency token h, Token.group]
    | copy => rw [hcopy token h, Token.group]

end Classes

section Scanning

/-- What the scan of a token list holds. -/
def scanOf (tokens : List Token) : Scan where
  access := tokens.findSome? Token.access?
  relabel := tokens.findSome? Token.relabel?
  propagation := tokens.any (·.group = some .propagation)
  consistency := tokens.any (·.group = some .consistency)
  copy := tokens.any (·.group = some .copy)
  unsupported := tokens.any fun token => token.group ≠ some .access ∧ token.group ≠ some .relabel

theorem group_seen_iff {done : List Token} {group : Group} :
    group ∈ done.filterMap Token.group ↔ done.any (·.group = some group) = true := by
  simp [List.mem_filterMap]

theorem access_seen_iff {done : List Token} :
    .access ∈ done.filterMap Token.group ↔ (scanOf done).access.isSome = true := by
  rw [scanOf, List.findSome?_isSome_iff, List.mem_filterMap]
  apply exists_congr
  intro token
  apply and_congr_right
  intro _
  cases token <;> simp [Token.group, Token.access?]

theorem relabel_seen_iff {done : List Token} :
    .relabel ∈ done.filterMap Token.group ↔ (scanOf done).relabel.isSome = true := by
  rw [scanOf, List.findSome?_isSome_iff, List.mem_filterMap]
  apply exists_congr
  intro token
  apply and_congr_right
  intro _
  cases token <;> simp [Token.group, Token.relabel?]

/-- A token is refused when its group was seen before, and else it is recorded. -/
theorem scanToken_scanOf (done : List Token) (token : Token) :
    scanToken (scanOf done) token =
      if ∃ group, token.group = some group ∧ group ∈ done.filterMap Token.group then none
      else some (scanOf (done ++ [token])) := by
  cases token with
  | access access =>
      rw [scanToken]
      split
      · next hseen => exact (if_pos ⟨_, rfl, access_seen_iff.mpr hseen⟩).symm
      · next hnew =>
          rw [if_neg]
          · rw [Bool.not_eq_true, Option.isSome_eq_false_iff, Option.isNone_iff_eq_none] at hnew
            simp only [scanOf] at hnew
            simp [scanOf, List.findSome?_append, hnew, Token.access?, Token.relabel?, Token.group]
          · rintro ⟨group, ⟨⟩, hmem⟩
            exact hnew (access_seen_iff.mp hmem)
  | relabel relabel =>
      rw [scanToken]
      split
      · next hseen => exact (if_pos ⟨_, rfl, relabel_seen_iff.mpr hseen⟩).symm
      · next hnew =>
          rw [if_neg]
          · rw [Bool.not_eq_true, Option.isSome_eq_false_iff, Option.isNone_iff_eq_none] at hnew
            simp only [scanOf] at hnew
            simp [scanOf, List.findSome?_append, hnew, Token.access?, Token.relabel?, Token.group]
          · rintro ⟨group, ⟨⟩, hmem⟩
            exact hnew (relabel_seen_iff.mp hmem)
  | propagation | consistency | copy =>
      rw [scanToken]
      split
      · next hseen => exact (if_pos ⟨_, rfl, group_seen_iff.mpr hseen⟩).symm
      · next hnew =>
          rw [if_neg]
          · simp [scanOf, List.findSome?_append, Token.access?, Token.relabel?, Token.group]
          · rintro ⟨group, ⟨⟩, hmem⟩
            exact hnew (group_seen_iff.mp hmem)
  | other =>
      rw [scanToken, if_neg]
      · simp [scanOf, List.findSome?_append, Token.access?, Token.relabel?, Token.group]
      · rintro ⟨group, ⟨⟩, -⟩

/-- The token lists that are scanned to their end. -/
structure Fits (tokens : List Bytes) : Prop where
  length : tokens.length ≤ maxModeTokens
  nonempty : [] ∉ tokens
  groups : (tokens.filterMap fun token => (classify token).group).Nodup

theorem Fits.left {done rest : List Bytes} (h : Fits (done ++ rest)) : Fits done where
  length := by
    have hlength := h.length
    rw [List.length_append] at hlength
    omega
  nonempty hmem := h.nonempty (List.mem_append_left _ hmem)
  groups := by
    have hgroups := h.groups
    rw [List.filterMap_append] at hgroups
    exact (List.nodup_append.mp hgroups).1

/-- The scan of the rest of a token list, after tokens that fit. -/
theorem foldlM_scanTokens {field : FieldPath} {done : List Bytes} (hdone : Fits done)
    (rest : List Bytes) :
    (Fits (done ++ rest) ∧
      (rest.zipIdx done.length).foldlM (scanTokens field) (scanOf (done.map classify)) =
        .ok (scanOf ((done ++ rest).map classify))) ∨
    (¬Fits (done ++ rest) ∧
      (rest.zipIdx done.length).foldlM (scanTokens field) (scanOf (done.map classify)) =
        .error (.invalidValue field)) := by
  induction rest generalizing done with
  | nil => exact .inl ⟨by rwa [List.append_nil], by rw [List.append_nil]; rfl⟩
  | cons token rest ih =>
      have hassoc : done ++ token :: rest = done ++ [token] ++ rest := by simp
      rw [List.zipIdx_cons, List.foldlM_cons, scanTokens]
      by_cases hbounds : done.length ≥ maxModeTokens ∨ token = []
      · refine .inr ⟨?_, by rw [if_pos hbounds]; rfl⟩
        intro hfits
        rcases hbounds with hlength | rfl
        · have hmost := hfits.length
          rw [List.length_append, List.length_cons] at hmost
          omega
        · exact hfits.nonempty (List.mem_append_right _ List.mem_cons_self)
      · rw [not_or] at hbounds
        rw [if_neg (not_or.mpr hbounds), scanToken_scanOf]
        have hgroups : (∃ group, (classify token).group = some group ∧
            group ∈ (done.map classify).filterMap Token.group) ↔
              ¬(((done ++ [token]).filterMap fun token => (classify token).group)).Nodup := by
          rw [List.filterMap_append, List.filterMap_map]
          cases hgroup : (classify token).group with
          | none => simp [hgroup, hdone.groups]
          | some group =>
              have hone : [token].filterMap (fun token => (classify token).group) = [group] := by
                simp [hgroup]
              rw [hone, ← List.concat_eq_append, List.nodup_concat]
              simp [hdone.groups]
        dsimp only
        by_cases hseen : ∃ group, (classify token).group = some group ∧
            group ∈ (done.map classify).filterMap Token.group
        · rw [if_pos hseen]
          refine .inr ⟨?_, rfl⟩
          intro hfits
          rw [hassoc] at hfits
          exact hgroups.mp hseen hfits.left.groups
        · rw [if_neg hseen]
          have hnext : Fits (done ++ [token]) := by
            refine ⟨?_, ?_, not_not.mp (mt hgroups.mpr hseen)⟩
            · rw [List.length_append, List.length_singleton]
              omega
            · simpa using ⟨hdone.nonempty, hbounds.2⟩
          have hrest := ih hnext
          rw [← hassoc, List.length_append, List.length_singleton, List.map_append,
            List.map_singleton] at hrest
          exact hrest

end Scanning

section Grammar

/-- The tokens of a mode that asks for access and relabelling only. -/
def Plain (raw : Bytes) : Prop :=
  ∀ token ∈ modeTokens raw, token ∈ Group.access.words ∨ token ∈ Group.relabel.words

theorem count_groups (tokens : List Bytes) (group : Group) :
    (tokens.filterMap fun token => (classify token).group).count group =
      tokens.countP (· ∈ group.words) := by
  rw [List.count_filterMap]
  apply List.countP_congr
  intro token _
  simp [group_classify_iff]

theorem not_malformed_iff {raw : Bytes} :
    ¬Malformed raw ↔ raw.length ≤ 256 ∧ Fits (modeTokens raw) := by
  simp only [Malformed, not_or, not_exists, Nat.not_lt, Nat.not_le]
  constructor
  · rintro ⟨hlength, htokens, hnonempty, hgroups⟩
    refine ⟨hlength, htokens, hnonempty, List.nodup_iff_count_le_one.mpr ?_⟩
    intro group
    rw [count_groups]
    exact Nat.le_of_lt_succ (hgroups group)
  · rintro ⟨hlength, hfits⟩
    refine ⟨hlength, hfits.length, hfits.nonempty, ?_⟩
    intro group
    rw [← count_groups]
    exact Nat.lt_succ_of_le (List.nodup_iff_count_le_one.mp hfits.groups group)

theorem parse_eq (raw : Bytes) (field : FieldPath) :
    (Malformed raw ∧ parse raw field = .error (.invalidValue field)) ∨
    (¬Malformed raw ∧ parse raw field =
      .ok (let scan := scanOf ((modeTokens raw).map classify)
        if scan.unsupported then .unsupported else .supported scan.access scan.relabel)) := by
  have htokens : (if raw.isEmpty then [] else (splitCommas raw).zipIdx) =
      (modeTokens raw).zipIdx := by
    rw [modeTokens]
    split <;> rfl
  have hempty : Fits [] := ⟨Nat.zero_le _, List.not_mem_nil, .nil⟩
  rw [parse]
  by_cases hlength : raw.length > maxModeBytes
  · rw [if_pos hlength]
    exact .inl ⟨.inl hlength, rfl⟩
  · rw [if_neg hlength]
    simp only [htokens]
    rcases foldlM_scanTokens hempty (modeTokens raw) with ⟨hfits, hscan⟩ | ⟨hnot, hscan⟩
    · refine .inr ⟨not_malformed_iff.mpr ⟨Nat.le_of_not_gt hlength, hfits⟩, ?_⟩
      have hscan : (modeTokens raw).zipIdx.foldlM (scanTokens field) .start =
          .ok (scanOf ((modeTokens raw).map classify)) := hscan
      rw [hscan]
      rfl
    · refine .inl ⟨?_, ?_⟩
      · by_contra hwell
        exact hnot (not_malformed_iff.mp hwell).2
      · have hscan : (modeTokens raw).zipIdx.foldlM (scanTokens field) .start =
            .error (.invalidValue field) := hscan
        rw [hscan]
        rfl

theorem unsupported_iff {raw : Bytes} :
    (scanOf ((modeTokens raw).map classify)).unsupported = true ↔ ¬Plain raw := by
  simp only [scanOf, List.any_map, List.any_eq_true, Function.comp_apply, decide_eq_true_eq,
    Plain, not_forall, ne_eq, group_classify_iff, not_or, exists_prop]

theorem findSome?_eq_some_iff {α β : Type} {f : α → Option β} {values : List α}
    (h : values.countP (fun value => (f value).isSome) ≤ 1) {found : β} :
    values.findSome? f = some found ↔ ∃ value ∈ values, f value = some found := by
  rw [← List.length_filterMap_eq_countP] at h
  rw [← List.head?_filterMap, ← List.mem_filterMap]
  match hfound : values.filterMap f, h with
  | [], _ => simp
  | [only], _ => simp [eq_comm]

theorem countP_group_le {raw : Bytes} (h : ¬Malformed raw) (group : Group) :
    (modeTokens raw).countP (· ∈ group.words) ≤ 1 := by
  have hgroups := (not_malformed_iff.mp h).2.groups
  rw [← count_groups]
  exact List.nodup_iff_count_le_one.mp hgroups group

theorem access_iff {raw : Bytes} (h : (modeTokens raw).countP (· ∈ Group.access.words) ≤ 1)
    {access : MountAccess} :
    (scanOf ((modeTokens raw).map classify)).access = some access ↔
      accessWord access ∈ modeTokens raw := by
  have hcount : ((modeTokens raw).map classify).countP (fun token => token.access?.isSome) ≤ 1 := by
    rw [List.countP_map]
    refine Nat.le_trans (Nat.le_of_eq (List.countP_congr ?_)) h
    intro token _
    rw [decide_eq_true_eq, ← group_classify_iff, Function.comp_apply]
    cases classify token <;> simp [Token.group, Token.access?]
  rw [scanOf, findSome?_eq_some_iff hcount]
  simp only [List.mem_map, exists_exists_and_eq_and]
  constructor
  · rintro ⟨token, htoken, hclass⟩
    have haccess : classify token = .access access := by
      cases hkind : classify token <;> simp_all [Token.access?]
    exact classify_eq_access_iff.mp haccess ▸ htoken
  · intro hword
    exact ⟨_, hword, by rw [classify_words.1 access]; rfl⟩

theorem relabel_iff {raw : Bytes} (h : (modeTokens raw).countP (· ∈ Group.relabel.words) ≤ 1)
    {relabel : BindRelabel} :
    (scanOf ((modeTokens raw).map classify)).relabel = some relabel ↔
      relabelWord relabel ∈ modeTokens raw := by
  have hcount :
      ((modeTokens raw).map classify).countP (fun token => token.relabel?.isSome) ≤ 1 := by
    rw [List.countP_map]
    refine Nat.le_trans (Nat.le_of_eq (List.countP_congr ?_)) h
    intro token _
    rw [decide_eq_true_eq, ← group_classify_iff, Function.comp_apply]
    cases classify token <;> simp [Token.group, Token.relabel?]
  rw [scanOf, findSome?_eq_some_iff hcount]
  simp only [List.mem_map, exists_exists_and_eq_and]
  constructor
  · rintro ⟨token, htoken, hclass⟩
    have hrelabel : classify token = .relabel relabel := by
      cases hkind : classify token <;> simp_all [Token.relabel?]
    exact classify_eq_relabel_iff.mp hrelabel ▸ htoken
  · intro hword
    exact ⟨_, hword, by rw [classify_words.2.1 relabel]; rfl⟩

theorem length_splitOnP {α : Type} (separates : α → Bool) (values : List α) :
    ((values.splitOnP separates).map (·.length + 1)).sum = values.length + 1 := by
  induction values with
  | nil => rfl
  | cons value values ih =>
      rw [List.splitOnP_cons_eq_if_modifyHead]
      split
      · rw [List.map_cons, List.sum_cons, ih, List.length_nil, List.length_cons]
        omega
      · obtain ⟨first, rest, hsplit⟩ :=
          List.exists_cons_of_ne_nil (List.splitOnP_ne_nil separates values)
        rw [hsplit, List.map_cons, List.sum_cons] at ih
        rw [hsplit, List.modifyHead_cons, List.map_cons, List.sum_cons, List.length_cons,
          List.length_cons]
        omega

theorem length_modeTokens {raw : Bytes} (h : modeTokens raw ≠ []) :
    ((modeTokens raw).map (·.length + 1)).sum = raw.length + 1 := by
  have hsplit : modeTokens raw = splitCommas raw := by
    rw [modeTokens] at h ⊢
    split at h
    · exact absurd rfl h
    · next hraw => rw [if_neg hraw]
  rw [hsplit]
  exact length_splitOnP _ raw

theorem sum_length_le {tokens : List Bytes} {bound : Nat}
    (h : ∀ token ∈ tokens, token.length ≤ bound) :
    (tokens.map (·.length + 1)).sum ≤ (bound + 1) * tokens.length := by
  induction tokens with
  | nil => exact Nat.le_refl _
  | cons token tokens ih =>
      have hrest := ih fun other hother => h other (List.mem_cons_of_mem _ hother)
      have hfirst := h token List.mem_cons_self
      rw [List.map_cons, List.sum_cons, List.length_cons, Nat.mul_succ]
      omega

/-- At most one token of each of the two groups is a short mode. -/
theorem not_malformed_of_plain {raw : Bytes} (h : Plain raw)
    (haccess : (modeTokens raw).countP (· ∈ Group.access.words) ≤ 1)
    (hrelabel : (modeTokens raw).countP (· ∈ Group.relabel.words) ≤ 1) : ¬Malformed raw := by
  have hwords : ∀ word, word ∈ Group.access.words ∨ word ∈ Group.relabel.words →
      word ≠ [] ∧ word.length ≤ 2 ∧ word ∉ Group.propagation.words ∧
        word ∉ Group.consistency.words ∧ word ∉ Group.copy.words := by
    have hall : ∀ word ∈ Group.access.words ++ Group.relabel.words,
        word ≠ [] ∧ word.length ≤ 2 ∧ word ∉ Group.propagation.words ∧
          word ∉ Group.consistency.words ∧ word ∉ Group.copy.words := by
      decide +kernel
    exact fun word hword => hall word (List.mem_append.mpr hword)
  have hcount : (modeTokens raw).length ≤ 2 := by
    have hsum : (modeTokens raw).length = _ :=
      List.length_eq_countP_add_countP fun token => decide (token ∈ Group.access.words)
    have hothers : (modeTokens raw).countP
          (fun token => ¬decide (token ∈ Group.access.words) = true) ≤
        (modeTokens raw).countP (· ∈ Group.relabel.words) := by
      apply List.countP_mono_left
      intro token htoken hnot
      have hnot : token ∉ Group.access.words := by simpa using hnot
      exact decide_eq_true ((h token htoken).resolve_left hnot)
    omega
  rintro (hlength | htokens | hempty | ⟨group, hgroup⟩)
  · have hne : modeTokens raw ≠ [] := by
      intro hnil
      rw [modeTokens] at hnil
      split at hnil
      · next hraw =>
          rw [List.isEmpty_iff.mp hraw] at hlength
          simp at hlength
      · exact List.splitOnP_ne_nil _ _ hnil
    have hsum := length_modeTokens hne
    have hbound : ((modeTokens raw).map (·.length + 1)).sum ≤ 3 * (modeTokens raw).length :=
      sum_length_le fun token htoken => (hwords token (h token htoken)).2.1
    omega
  · omega
  · exact (hwords [] (h [] hempty)).1 rfl
  · have hnone : ∀ words : List Bytes, (∀ token ∈ modeTokens raw, token ∉ words) →
        (modeTokens raw).countP (· ∈ words) = 0 := by
      intro words hnot
      rw [List.countP_eq_zero]
      intro token htoken
      simpa using hnot token htoken
    cases group with
    | access => omega
    | relabel => omega
    | propagation =>
        rw [hnone _ fun token htoken => (hwords token (h token htoken)).2.2.1] at hgroup
        omega
    | consistency =>
        rw [hnone _ fun token htoken => (hwords token (h token htoken)).2.2.2.1] at hgroup
        omega
    | copy =>
        rw [hnone _ fun token htoken => (hwords token (h token htoken)).2.2.2.2] at hgroup
        omega

theorem Malformed.perm {raw raw' : Bytes} (h : (modeTokens raw).Perm (modeTokens raw')) :
    Malformed raw ↔ Malformed raw' := by
  have hlength : raw.length = raw'.length := by
    by_cases hnil : modeTokens raw = []
    · have hnil' : modeTokens raw' = [] := List.nil_perm.mp (hnil ▸ h)
      have hempty : ∀ raw : Bytes, modeTokens raw = [] → raw = [] := by
        intro raw hraw
        rw [modeTokens] at hraw
        split at hraw
        · next hcondition => exact List.isEmpty_iff.mp hcondition
        · exact absurd hraw (List.splitOnP_ne_nil _ _)
      rw [hempty raw hnil, hempty raw' hnil']
    · have hne : modeTokens raw' ≠ [] := fun hnil' => hnil (List.perm_nil.mp (hnil' ▸ h))
      have hsum : raw.length + 1 = raw'.length + 1 := by
        rw [← length_modeTokens hnil, ← length_modeTokens hne]
        exact (h.map _).sum_nat
      omega
  simp only [Malformed, hlength, h.length_eq, h.mem_iff, h.countP_eq]

theorem Plain.perm {raw raw' : Bytes} (h : (modeTokens raw).Perm (modeTokens raw')) :
    Plain raw ↔ Plain raw' := by
  simp only [Plain, h.mem_iff]

/-- The whole grammar of modes. A mode is supported exactly when it asks once at most for an
access and once at most for a relabelling, and for nothing else; it is an error exactly when it
is malformed, whatever unknown tokens it holds; and the order of its tokens does not matter. -/
theorem parse_grammar :
    (∀ raw field access relabel, parse raw field = .ok (.supported access relabel) ↔
      Plain raw ∧ (modeTokens raw).countP (· ∈ Group.access.words) ≤ 1 ∧
        (modeTokens raw).countP (· ∈ Group.relabel.words) ≤ 1 ∧
        (∀ value, access = some value ↔ accessWord value ∈ modeTokens raw) ∧
        ∀ value, relabel = some value ↔ relabelWord value ∈ modeTokens raw) ∧
    (∀ raw field error, parse raw field = .error error ↔
      Malformed raw ∧ error = .invalidValue field) ∧
    (∀ raw field, parse raw field = .ok .unsupported ↔ ¬Malformed raw ∧ ¬Plain raw) ∧
    ∀ raw raw' field, (modeTokens raw).Perm (modeTokens raw') →
      parse raw field = parse raw' field := by
  have hsupported : ∀ raw field access relabel, parse raw field = .ok (.supported access relabel) ↔
      Plain raw ∧ (modeTokens raw).countP (· ∈ Group.access.words) ≤ 1 ∧
        (modeTokens raw).countP (· ∈ Group.relabel.words) ≤ 1 ∧
        (∀ value, access = some value ↔ accessWord value ∈ modeTokens raw) ∧
        ∀ value, relabel = some value ↔ relabelWord value ∈ modeTokens raw := by
    intro raw field access relabel
    constructor
    · intro h
      rcases parse_eq raw field with ⟨-, herror⟩ | ⟨hwell, hok⟩
      · rw [herror] at h
        cases h
      · rw [hok] at h
        dsimp only at h
        split at h
        · cases h
        · next hplain =>
            cases h
            have haccess := countP_group_le hwell .access
            have hrelabel := countP_group_le hwell .relabel
            exact ⟨not_not.mp (mt unsupported_iff.mpr hplain), haccess, hrelabel,
              fun value => access_iff haccess, fun value => relabel_iff hrelabel⟩
    · rintro ⟨hplain, haccess, hrelabel, hvalues, hvalues'⟩
      rcases parse_eq raw field with ⟨hmalformed, -⟩ | ⟨-, hok⟩
      · exact absurd hmalformed (not_malformed_of_plain hplain haccess hrelabel)
      · have hall : ¬(scanOf ((modeTokens raw).map classify)).unsupported = true :=
          fun hnot => unsupported_iff.mp hnot hplain
        have hfound : (scanOf ((modeTokens raw).map classify)).access = access :=
          Option.ext fun value => (access_iff haccess).trans (hvalues value).symm
        have hfound' : (scanOf ((modeTokens raw).map classify)).relabel = relabel :=
          Option.ext fun value => (relabel_iff hrelabel).trans (hvalues' value).symm
        rw [hok]
        dsimp only
        rw [if_neg hall, hfound, hfound']
  have herror : ∀ raw field error, parse raw field = .error error ↔
      Malformed raw ∧ error = .invalidValue field := by
    intro raw field error
    rcases parse_eq raw field with ⟨hmalformed, hparse⟩ | ⟨hwell, hparse⟩
    · simp [hparse, hmalformed, eq_comm]
    · simp [hparse, hwell]
  have hunsupported : ∀ raw field, parse raw field = .ok .unsupported ↔
      ¬Malformed raw ∧ ¬Plain raw := by
    intro raw field
    rcases parse_eq raw field with ⟨hmalformed, hparse⟩ | ⟨hwell, hparse⟩
    · simp [hparse, hmalformed]
    · rw [hparse, ← unsupported_iff]
      dsimp only
      split
      · next hother => simp [hwell, hother]
      · next hplain => simp [hplain]
  refine ⟨hsupported, herror, hunsupported, ?_⟩
  intro raw raw' field hperm
  cases hparse : parse raw field with
  | error error =>
      rw [herror] at hparse
      exact ((herror raw' field error).mpr ⟨(Malformed.perm hperm).mp hparse.1, hparse.2⟩).symm
  | ok found =>
      cases found with
      | supported access relabel =>
          rw [hsupported, hperm.countP_eq, hperm.countP_eq, Plain.perm hperm] at hparse
          simp only [hperm.mem_iff] at hparse
          exact ((hsupported raw' field access relabel).mpr hparse).symm
      | unsupported =>
          rw [hunsupported, Malformed.perm hperm, Plain.perm hperm] at hparse
          exact ((hunsupported raw' field).mpr hparse).symm

theorem parse_grammar_swapped :
    parse (asBytes "z,ro") .other = parse (asBytes "ro,z") .other := by
  refine parse_grammar.2.2.2 _ _ _ ?_
  rw [show modeTokens (asBytes "z,ro") = [asBytes "z", asBytes "ro"] by decide +kernel,
    show modeTokens (asBytes "ro,z") = [asBytes "ro", asBytes "z"] by decide +kernel]
  exact List.Perm.swap _ _ _

end Grammar

end DockerLens.Decoder.MountMode
