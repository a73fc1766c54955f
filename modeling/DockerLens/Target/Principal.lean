import DockerLens.Decimal
import DockerLens.Target.Accepted

namespace DockerLens.Target

open DockerLens.Text
open DockerLens.Fold

/-- `[A-Za-z_]` -/
def NameStart (byte : UInt8) : Prop :=
  (65 ≤ byte ∧ byte ≤ 90) ∨ (97 ≤ byte ∧ byte ≤ 122) ∨ byte = 95

/-- `[A-Za-z0-9_.-]` -/
def NamePart (byte : UInt8) : Prop :=
  NameStart byte ∨ (48 ≤ byte ∧ byte ≤ 57) ∨ byte = 46 ∨ byte = 45

/-- A decimal ID without leading zeros, or a name matching `[A-Za-z_][A-Za-z0-9_.-]{0,31}`. -/
inductive Principal : Bytes → Prop
  | id (number : Nat) (bounded : number ≤ 2147483647) : Principal (asBytes number.repr)
  | name (first : UInt8) (rest : Bytes) (starts : NameStart first)
      (parts : ∀ byte ∈ rest, NamePart byte) (short : rest.length ≤ 31) : Principal (first :: rest)

/-- One principal, or two around a colon. -/
inductive UserGrammar : Bytes → Prop
  | user {user : Bytes} (h : Principal user) : UserGrammar user
  | group {user group : Bytes} (huser : Principal user) (hgroup : Principal group) :
      UserGrammar (user ++ 58 :: group)

section Bytes

theorem isAsciiDigit_iff {byte : UInt8} :
    isAsciiDigit byte = true ↔ 48 ≤ byte ∧ byte ≤ 57 := by
  simp only [isAsciiDigit, Bool.and_eq_true, decide_eq_true_eq]

theorem nameStart_iff {byte : UInt8} :
    (isAsciiAlphabetic byte || byte == 95) = true ↔ NameStart byte := by
  simp only [isAsciiAlphabetic, isAsciiUppercase, isAsciiLowercase, Bool.or_eq_true,
    Bool.and_eq_true, decide_eq_true_eq, beq_iff_eq, NameStart, or_assoc]

theorem namePart_iff {byte : UInt8} : isNameByte byte = true ↔ NamePart byte := by
  rw [NamePart, ← nameStart_iff, ← isAsciiDigit_iff]
  simp only [isNameByte, isAsciiAlphanumeric, Bool.or_eq_true, beq_iff_eq]
  tauto

theorem not_digit_of_nameStart {byte : UInt8} (h : NameStart byte) : ¬isAsciiDigit byte = true := by
  rw [isAsciiDigit_iff]
  rintro ⟨-, hhigh⟩
  simp only [NameStart, UInt8.le_iff_toNat_le] at h hhigh
  have hlow : (65 : UInt8).toNat ≤ byte.toNat ∨ (97 : UInt8).toNat ≤ byte.toNat ∨ byte = 95 :=
    h.imp And.left (Or.imp_left And.left)
  rcases hlow with hlow | hlow | rfl
  · exact absurd (Nat.le_trans hlow hhigh) (by decide)
  · exact absurd (Nat.le_trans hlow hhigh) (by decide)
  · exact absurd hhigh (by decide)

end Bytes

theorem validId_iff {bytes : Bytes} (hdigits : AsciiDigits bytes) :
    (bytes.length ≤ 10 ∧ (bytes.head? = some 48 → bytes.length = 1) ∧
        ((fromUtf8 bytes).bind fun value => parseUnsigned 10 (2 ^ 31 - 1) value.toList).isSome) ↔
      ∃ number ≤ 2147483647, bytes = asBytes number.repr := by
  constructor
  · rintro ⟨-, hzero, hparse⟩
    obtain ⟨value, hvalue⟩ := Option.isSome_iff_exists.mp hparse
    obtain ⟨digits, hsign, -, hnumber, hmax⟩ := parseUnsigned_bytes_iff.mp hvalue
    have hbytes : bytes = digits := by
      rcases hsign with h | h
      · exact h
      · have hplus := hdigits.digit 43 (h ▸ List.mem_cons_self)
        exact absurd hplus.1 (by decide)
    rw [hbytes] at hdigits hzero ⊢
    exact ⟨value, hmax, eq_repr_iff.mpr ⟨hdigits, hnumber, hzero⟩⟩
  · rintro ⟨number, hbound, hbytes⟩
    obtain ⟨-, hnumber, hzero⟩ := eq_repr_iff.mp hbytes
    refine ⟨?_, hzero, ?_⟩
    · rw [hbytes, Nat.repr_eq_ofList_toDigits, asBytes_digits (digits_toDigits number), asciiBytes,
        List.length_map, Nat.length_toDigits_le_iff (by decide) (by decide)]
      omega
    · apply Option.isSome_of_eq_some
      exact parseUnsigned_bytes_iff.mpr ⟨bytes, .inl rfl, hdigits, hnumber, hbound⟩

theorem Principal.ne_nil {bytes : Bytes} (h : Principal bytes) : bytes ≠ [] := by
  cases h with
  | id number bounded => exact (eq_repr_iff.mp rfl).1.nonempty
  | name first rest => exact List.cons_ne_nil first rest

theorem validUserPrincipal_iff {bytes : Bytes} :
    validUserPrincipal bytes = true ↔ Principal bytes := by
  rcases bytes with _ | ⟨first, rest⟩
  · constructor
    · intro h
      cases h
    · intro h
      exact absurd rfl h.ne_nil
  · rw [validUserPrincipal]
    split
    · next hfirst =>
        simp only [Bool.and_eq_true, decide_eq_true_eq, List.all_eq_true]
        constructor
        · rintro ⟨⟨⟨hlength, hzero⟩, hdigits⟩, hparse⟩
          have hascii : AsciiDigits (first :: rest) :=
            ⟨List.cons_ne_nil first rest,
              fun byte hbyte => isAsciiDigit_iff.mp (hdigits byte hbyte)⟩
          have hleading : (first :: rest).head? = some 48 → (first :: rest).length = 1 := by
            intro hhead
            rw [List.head?_cons, Option.some.injEq] at hhead
            simpa [hhead] using hzero
          obtain ⟨number, hbound, hbytes⟩ := (validId_iff hascii).mp ⟨hlength, hleading, hparse⟩
          rw [hbytes]
          exact .id number hbound
        · intro h
          generalize hbytes : first :: rest = bytes at h
          cases h with
          | id number bounded =>
              rw [← hbytes]
              have hascii := (eq_repr_iff.mp hbytes).1
              obtain ⟨hlength, hzero, hparse⟩ := (validId_iff hascii).mpr ⟨number, bounded, hbytes⟩
              refine ⟨⟨⟨hlength, ?_⟩, fun byte hbyte => ?_⟩, hparse⟩
              · by_cases hhead : first = 48
                · simpa [hhead] using hzero
                · simp [hhead]
              · exact isAsciiDigit_iff.mpr (hascii.digit byte hbyte)
          | name first' rest' starts parts short =>
              obtain ⟨rfl, rfl⟩ := List.cons.inj hbytes
              exact absurd hfirst (not_digit_of_nameStart starts)
    · next hfirst =>
        simp only [Bool.and_eq_true, decide_eq_true_eq, List.all_eq_true, nameStart_iff,
          namePart_iff, List.length_cons]
        constructor
        · rintro ⟨⟨hlength, hstart⟩, hparts⟩
          exact .name first rest hstart hparts (Nat.le_of_succ_le_succ hlength)
        · intro h
          generalize hbytes : first :: rest = bytes at h
          cases h with
          | id number bounded =>
              have hdigit := (eq_repr_iff.mp hbytes).1.digit first List.mem_cons_self
              exact absurd (isAsciiDigit_iff.mpr hdigit) hfirst
          | name first' rest' starts parts short =>
              obtain ⟨rfl, rfl⟩ := List.cons.inj hbytes
              exact ⟨⟨Nat.succ_le_succ short, starts⟩, parts⟩

theorem Principal.plain {bytes : Bytes} (h : Principal bytes) :
    ∀ byte ∈ bytes, (byte == 58) = false := by
  intro byte hbyte
  rw [beq_eq_false_iff_ne]
  rintro rfl
  cases h with
  | id number bounded => exact absurd ((eq_repr_iff.mp rfl).1.digit 58 hbyte).2 (by decide)
  | name first rest starts parts short =>
      rcases List.mem_cons.mp hbyte with rfl | hbyte
      · revert starts
        simp only [NameStart]
        decide
      · have hpart := parts 58 hbyte
        revert hpart
        simp only [NamePart, NameStart]
        decide

theorem validContainerUser_iff {bytes : Bytes} :
    validContainerUser bytes = true ↔ UserGrammar bytes := by
  constructor
  · intro h
    rw [validContainerUser] at h
    rw [← intercalate_splitOnP bytes 58]
    split at h
    · next user heq =>
        rw [heq]
        simpa [List.intercalate] using UserGrammar.user (validUserPrincipal_iff.mp h)
    · next user group heq =>
        rw [heq]
        rw [Bool.and_eq_true, validUserPrincipal_iff, validUserPrincipal_iff] at h
        simpa [List.intercalate] using UserGrammar.group h.1 h.2
    · cases h
  · intro h
    rw [validContainerUser]
    cases h with
    | user h =>
        rw [List.splitOnP_eq_singleton h.plain]
        exact validUserPrincipal_iff.mpr h
    | @group user group huser hgroup =>
        rw [List.splitOnP_append_cons_of_forall_mem huser.plain 58 rfl,
          List.splitOnP_eq_singleton hgroup.plain]
        exact Bool.and_eq_true_iff.mpr
          ⟨validUserPrincipal_iff.mpr huser, validUserPrincipal_iff.mpr hgroup⟩

/-- A container user is in the grammar and nothing else is; a supplementary group is one
principal. -/
theorem user_and_group_grammar :
    (∀ bytes user, ContainerUser.new bytes = .ok user ↔ UserGrammar bytes ∧ user.bytes = bytes) ∧
    (∀ bytes, ContainerUser.new bytes = .error .invalidContainerUser ↔ ¬UserGrammar bytes) ∧
    ∀ resources intent, TargetIntent.new resources = .ok intent →
      ∀ container, .container container ∈ resources →
        ∀ group ∈ container.settings.groupAdd, Principal group.bytes := by
  refine ⟨?_, ?_, ?_⟩
  · intro bytes user
    rw [ContainerUser.new, Checked.new, ← validContainerUser_iff]
    split
    · next h =>
        rw [Except.ok.injEq]
        constructor
        · rintro rfl
          exact ⟨h, rfl⟩
        · rintro ⟨-, rfl⟩
          rfl
    · next h =>
        constructor
        · intro herror
          cases herror
        · intro haccepted
          exact absurd haccepted.1 h
  · intro bytes
    rw [ContainerUser.new, Checked.new, ← validContainerUser_iff]
    split
    · next h =>
        constructor
        · intro hok
          cases hok
        · intro hrefused
          exact absurd h hrefused
    · next h => exact ⟨fun _ => h, fun _ => rfl⟩
  · intro resources intent hnew container hcontainer group hgroup
    have haccepted : Accepted resources :=
      TargetIntent.new_isOk_iff.mp (congrArg Except.isOk hnew)
    have hcontainer : ContainerAccepted resources container := haccepted.each _ hcontainer
    exact validUserPrincipal_iff.mp (hcontainer.settings.groups group hgroup)

/-- A container of one user with two supplementary groups, and its network. -/
def groupedResources : List TargetResource :=
  [.network ⟨⟨1⟩, ⟨asBytes "front", validIdentity_front⟩, .declared, .create NetworkCreate.bridge⟩,
    .container {
      reference := ⟨2⟩, identity := ⟨asBytes "web", validIdentity_web⟩
      image := ⟨asBytes "nginx", validImage_nginx⟩, environment := [], ports := [], mounts := []
      networks := [⟨⟨1⟩, [], none, none⟩], entrypoint := .inherit, command := .inherit
      healthcheck := none, restart := none
      settings := { ContainerSettings.default with
        user := some ⟨asBytes "www:1000", by decide +kernel⟩
        groupAdd := [⟨asBytes "audio", by decide +kernel⟩, ⟨asBytes "1001", by decide +kernel⟩] } }]

theorem user_and_group_grammar_groups :
    (∃ user, ContainerUser.new (asBytes "www:1000") = .ok user) ∧
      UserGrammar (asBytes "www:1000") ∧ ¬UserGrammar (asBytes "www:01") ∧
      ∃ intent, TargetIntent.new groupedResources = .ok intent ∧ Principal (asBytes "audio") ∧
        Principal (asBytes "1001") := by
  obtain ⟨husers, hrefused, hgroups⟩ := user_and_group_grammar
  obtain ⟨user, huser⟩ := exists_of_isOk (show (ContainerUser.new (asBytes "www:1000")).isOk = true
    by decide +kernel)
  obtain ⟨intent, hnew⟩ := exists_of_isOk (show (TargetIntent.new groupedResources).isOk = true by
    decide +kernel)
  refine ⟨⟨user, huser⟩, ((husers _ user).mp huser).1, (hrefused _).mp (by decide +kernel), intent,
    hnew, ?_⟩
  have hall := hgroups _ intent hnew _ (List.mem_cons_of_mem _ List.mem_cons_self)
  exact ⟨hall _ List.mem_cons_self, hall _ (List.mem_cons_of_mem _ List.mem_cons_self)⟩

end DockerLens.Target
