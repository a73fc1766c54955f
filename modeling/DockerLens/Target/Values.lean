import DockerLens.Fold
import DockerLens.Observation

namespace DockerLens.Target

open DockerLens.Text
open DockerLens.Observation

/-- The reasons to refuse a value or an intent. -/
inductive IntentError
  | empty
  | duplicateResource
  | unsupportedOrchestration
  | invalidIdentity
  | invalidImage
  | invalidEnvironment
  | invalidArgument
  | commandClearRequiresEntrypoint
  | invalidMount
  | invalidHealthcheck
  | invalidRestart
  | duplicatePort
  | invalidPort
  | duplicateMount
  | invalidContainerLabel
  | duplicateContainerLabel
  | invalidContainerUser
  | invalidWorkingDirectory
  | invalidContainerHostname
  | invalidContainerSetting
  | duplicateContainerSetting
  | invalidNetworkDriver
  | duplicateNetworkOption
  | invalidNetworkOption
  | duplicateNetworkLabel
  | invalidNetworkLabel
  | invalidNetworkAddress
  | duplicateNetworkAddress
  | invalidNetworkSubnet
  | invalidNetworkIpam
  | invalidNetworkAlias
  | duplicateNetworkAlias
  | duplicateNetworkAttachment
  | duplicateDefaultNetwork
  | invalidNetworkAttachment
  | invalidVolumeLabel
  | duplicateVolumeLabel
  deriving DecidableEq, Repr

/-- Protected bytes that passed the check of their constructor. -/
structure Checked (valid : Bytes → Bool) where
  bytes : ProtectedValue
  checked : valid bytes = true
  deriving DecidableEq

/-- The smart constructor of checked bytes, with the error of their type. -/
def Checked.new {valid : Bytes → Bool} (error : IntentError) (bytes : Bytes) :
    Except IntentError (Checked valid) :=
  if h : valid bytes = true then .ok ⟨bytes, h⟩ else .error error

/-- A protected key and value that passed the check of their constructor. -/
structure CheckedPair (valid : Bytes → Bytes → Bool) where
  key : ProtectedValue
  value : ProtectedValue
  checked : valid key value = true
  deriving DecidableEq

/-- The smart constructor of a checked pair, with the error of its type. -/
def CheckedPair.new {valid : Bytes → Bytes → Bool} (error : IntentError) (key value : Bytes) :
    Except IntentError (CheckedPair valid) :=
  if h : valid key value = true then .ok ⟨key, value, h⟩ else .error error

/-- `str::from_utf8(..).is_ok()`. -/
def isUtf8 (bytes : Bytes) : Bool := (fromUtf8 bytes).isSome

/-- UTF-8 without a null byte. -/
def validText (value : Bytes) : Bool := !value.contains 0 && isUtf8 value

/-- The characters after the first one of a name. -/
def isNameByte (byte : UInt8) : Bool :=
  isAsciiAlphanumeric byte || byte == 95 || byte == 45 || byte == 46

/-- An alphanumeric byte, then alphanumeric bytes, underscores, hyphens and periods. -/
def validIdentity : Bytes → Bool
  | [] => false
  | first :: rest => isAsciiAlphanumeric first && rest.all isNameByte

/-- Explicit desired identity, never an observed or runtime-assigned name. -/
abbrev TargetIdentity := Checked validIdentity

/-- `TargetIdentity::new`. -/
def TargetIdentity.new : Bytes → Except IntentError TargetIdentity :=
  Checked.new .invalidIdentity

theorem validIdentity_front : validIdentity (asBytes "front") = true := by decide +kernel

theorem validIdentity_data : validIdentity (asBytes "data") = true := by decide +kernel

theorem validIdentity_web : validIdentity (asBytes "web") = true := by decide +kernel

/-- What an image reference has to look like. -/
def validImage (bytes : Bytes) : Bool :=
  match fromUtf8 bytes with
  | none => false
  | some value =>
      let chars := value.toList
      !chars.isEmpty && !chars.any isWhitespace && !chars.contains '\x00' && !chars.contains '$'

/-- A concrete image reference, with no inferred tag or platform. -/
abbrev ImageReference := Checked validImage

/-- `ImageReference::new`. -/
def ImageReference.new : Bytes → Except IntentError ImageReference := Checked.new .invalidImage

theorem validImage_nginx : validImage (asBytes "nginx") = true := by decide +kernel

/-- A key that is not empty and has no `=`, and a text. -/
def validAssignment (key value : Bytes) : Bool :=
  !key.isEmpty && !key.contains 61 && validText key && validText value

/-- An authored assignment, including an explicitly empty value. -/
abbrev EnvironmentAssignment := CheckedPair validAssignment

/-- `EnvironmentAssignment::new`. -/
def EnvironmentAssignment.new : Bytes → Bytes → Except IntentError EnvironmentAssignment :=
  CheckedPair.new .invalidEnvironment

/-- One Engine exec-form element, never a shell fragment. -/
abbrev Argument := Checked validText

def Argument.new : Bytes → Except IntentError Argument := Checked.new .invalidArgument

/-- A text that starts with a slash. -/
def validAbsolutePath (value : Bytes) : Bool := value.head? == some 47 && validText value

/-- A key that is not empty, and a text. -/
def validLabel (key value : Bytes) : Bool := !key.isEmpty && validText key && validText value

/-- A label of a container, and also any other pair of a container's settings. -/
abbrev ContainerLabel := CheckedPair validLabel

def ContainerLabel.new : Bytes → Bytes → Except IntentError ContainerLabel :=
  CheckedPair.new .invalidContainerLabel

/-- A label of a created network. -/
abbrev NetworkLabel := CheckedPair validLabel

def NetworkLabel.new : Bytes → Bytes → Except IntentError NetworkLabel :=
  CheckedPair.new .invalidNetworkLabel

/-- How many labels a volume has at most. -/
def maxVolumeLabelCount : Nat := 64

/-- How long the labels of a volume are in all. -/
def maxVolumeLabelTotalBytes : Nat := 16 * 1024

/-- How long the key of a volume's label is at most. -/
def maxVolumeLabelKeyBytes : Nat := 128

/-- How long the value of a volume's label is at most. -/
def maxVolumeLabelValueBytes : Nat := 4096

/-- A label within the bounds of a volume's labels. -/
def validVolumeLabel (key value : Bytes) : Bool :=
  !key.isEmpty && decide (key.length ≤ maxVolumeLabelKeyBytes) &&
    decide (value.length ≤ maxVolumeLabelValueBytes) && validText key && validText value

/-- One explicitly authored label of a created volume. -/
abbrev VolumeLabel := CheckedPair validVolumeLabel

def VolumeLabel.new : Bytes → Bytes → Except IntentError VolumeLabel :=
  CheckedPair.new .invalidVolumeLabel

/-- A canonical decimal ID that fits an `i32`, or a name of at most 32 bytes. -/
def validUserPrincipal : Bytes → Bool
  | [] => false
  | first :: rest =>
      if isAsciiDigit first then
        decide ((first :: rest).length ≤ 10) && (rest.isEmpty || first != 48) &&
          (first :: rest).all isAsciiDigit &&
          ((fromUtf8 (first :: rest)).bind fun value =>
            parseUnsigned 10 (2 ^ 31 - 1) value.toList).isSome
      else
        decide ((first :: rest).length ≤ 32) && (isAsciiAlphabetic first || first == 95) &&
          rest.all isNameByte

/-- One principal, or a user and a group around a colon. -/
def validContainerUser (bytes : Bytes) : Bool :=
  match bytes.splitOnP (· == 58) with
  | [user] => validUserPrincipal user
  | [user, group] => validUserPrincipal user && validUserPrincipal group
  | _ => false

/-- A protected authored `user` or `user:group`. -/
abbrev ContainerUser := Checked validContainerUser

def ContainerUser.new : Bytes → Except IntentError ContainerUser :=
  Checked.new .invalidContainerUser

/-- The directory that a container starts in. -/
abbrev WorkingDirectory := Checked validAbsolutePath

def WorkingDirectory.new : Bytes → Except IntentError WorkingDirectory :=
  Checked.new .invalidWorkingDirectory

/-- A text that is not empty and has neither colon nor white space. -/
def validHostname (bytes : Bytes) : Bool :=
  !bytes.isEmpty && validText bytes && !bytes.contains 58 && !bytes.any isAsciiWhitespace

/-- The name that a container has for itself. -/
abbrev ContainerHostname := Checked validHostname

def ContainerHostname.new : Bytes → Except IntentError ContainerHostname :=
  Checked.new .invalidContainerHostname

/-- A text that is not empty. -/
def validToken (bytes : Bytes) : Bool := !bytes.isEmpty && validText bytes

/-- A protected native token used only in its typed Engine field. -/
abbrev ContainerToken := Checked validToken

def ContainerToken.new : Bytes → Except IntentError ContainerToken :=
  Checked.new .invalidContainerSetting

/-- A further name of a container in one network. -/
abbrev NetworkAlias := Checked validIdentity

def NetworkAlias.new : Bytes → Except IntentError NetworkAlias :=
  Checked.new .invalidNetworkAlias

theorem isUtf8_iff {bytes : Bytes} : isUtf8 bytes = true ↔ ∃ text, fromUtf8 bytes = some text :=
  Option.isSome_iff_exists

theorem isUtf8_append {left right : Bytes} (hleft : isUtf8 left = true)
    (hright : isUtf8 right = true) : isUtf8 (left ++ right) = true := by
  obtain ⟨x, hx⟩ := isUtf8_iff.mp hleft
  obtain ⟨y, hy⟩ := isUtf8_iff.mp hright
  exact isUtf8_iff.mpr ⟨x ++ y, fromUtf8_append hx hy⟩

@[simp] theorem isUtf8_asBytes (text : String) : isUtf8 (asBytes text) = true :=
  isUtf8_iff.mpr ⟨text, fromUtf8_asBytes text⟩

theorem isUtf8_of_validText {bytes : Bytes} (h : validText bytes = true) :
    isUtf8 bytes = true := by
  rw [validText, Bool.and_eq_true] at h
  exact h.2

theorem isUtf8_of_ascii {bytes : Bytes} (h : ∀ byte ∈ bytes, byte < 128) :
    isUtf8 bytes = true := by
  have hbyte : ∀ byte : UInt8, byte < 128 → isUtf8 [byte] = true := by
    intro byte hbyte
    have hvalue : ∀ code : Fin 128,
        [UInt8.ofNat code] = asBytes (String.singleton (Char.ofNat code)) := by
      decide +kernel
    have hcode := hvalue ⟨byte.toNat, UInt8.lt_iff_toNat_lt.mp hbyte⟩
    rw [UInt8.ofNat_toNat] at hcode
    rw [hcode]
    exact isUtf8_asBytes _
  induction bytes with
  | nil => exact isUtf8_asBytes ""
  | cons byte bytes ih =>
      have hrest := ih fun other hother => h other (List.mem_cons_of_mem _ hother)
      exact isUtf8_append (hbyte byte (h byte List.mem_cons_self)) hrest

theorem ascii_of_alphanumeric {byte : UInt8} (h : isAsciiAlphanumeric byte = true) :
    byte < 128 := by
  have hall : ∀ code : Fin 256,
      isAsciiAlphanumeric (UInt8.ofNat code) = true → UInt8.ofNat code < 128 := by
    decide +kernel
  have hbyte := hall ⟨byte.toNat, byte.toNat_lt⟩
  rw [UInt8.ofNat_toNat] at hbyte
  exact hbyte h

theorem ascii_of_nameByte {byte : UInt8} (h : isNameByte byte = true) : byte < 128 := by
  simp only [isNameByte, Bool.or_eq_true, beq_iff_eq] at h
  rcases h with ((h | rfl) | rfl) | rfl
  · exact ascii_of_alphanumeric h
  · decide
  · decide
  · decide

theorem nameBytes_of_identity {bytes : Bytes} (h : validIdentity bytes = true) :
    ∀ byte ∈ bytes, isNameByte byte = true := by
  intro byte hbyte
  cases bytes with
  | nil => simp at hbyte
  | cons first rest =>
      rw [validIdentity, Bool.and_eq_true, List.all_eq_true] at h
      rcases List.mem_cons.mp hbyte with rfl | hbyte
      · rw [isNameByte, h.1]
        rfl
      · exact h.2 byte hbyte

section Utf8

theorem isUtf8_of_identity {bytes : Bytes} (h : validIdentity bytes = true) :
    isUtf8 bytes = true :=
  isUtf8_of_ascii fun byte hbyte => ascii_of_nameByte (nameBytes_of_identity h byte hbyte)

theorem isUtf8_of_image {bytes : Bytes} (h : validImage bytes = true) : isUtf8 bytes = true := by
  rw [validImage] at h
  split at h
  · cases h
  · next value hvalue => exact isUtf8_iff.mpr ⟨value, hvalue⟩

theorem isUtf8_of_absolutePath {bytes : Bytes} (h : validAbsolutePath bytes = true) :
    isUtf8 bytes = true := by
  rw [validAbsolutePath, Bool.and_eq_true] at h
  exact isUtf8_of_validText h.2

theorem isUtf8_of_hostname {bytes : Bytes} (h : validHostname bytes = true) :
    isUtf8 bytes = true := by
  simp only [validHostname, Bool.and_eq_true] at h
  exact isUtf8_of_validText h.1.1.2

theorem isUtf8_of_token {bytes : Bytes} (h : validToken bytes = true) : isUtf8 bytes = true := by
  rw [validToken, Bool.and_eq_true] at h
  exact isUtf8_of_validText h.2

theorem ascii_of_userPrincipal {bytes : Bytes} (h : validUserPrincipal bytes = true) :
    ∀ byte ∈ bytes, byte < 128 := by
  intro byte hbyte
  cases bytes with
  | nil => simp at hbyte
  | cons first rest =>
      rw [validUserPrincipal] at h
      split at h
      · simp only [Bool.and_eq_true, List.all_eq_true] at h
        apply ascii_of_alphanumeric
        rw [isAsciiAlphanumeric, h.1.2 byte hbyte, Bool.or_true]
      · simp only [Bool.and_eq_true, Bool.or_eq_true, List.all_eq_true, beq_iff_eq] at h
        rcases List.mem_cons.mp hbyte with rfl | hbyte
        · rcases h.1.2 with halpha | rfl
          · apply ascii_of_alphanumeric
            rw [isAsciiAlphanumeric, halpha, Bool.true_or]
          · decide
        · exact ascii_of_nameByte (h.2 byte hbyte)

theorem intercalate_splitOnP (bytes : Bytes) (separator : UInt8) :
    [separator].intercalate (bytes.splitOnP (· == separator)) = bytes := by
  rw [← List.splitOn]
  exact List.intercalate_splitOn separator

theorem isUtf8_of_containerUser {bytes : Bytes} (h : validContainerUser bytes = true) :
    isUtf8 bytes = true := by
  apply isUtf8_of_ascii
  rw [validContainerUser] at h
  rw [← intercalate_splitOnP bytes 58]
  split at h
  · next user heq =>
      rw [heq]
      intro byte hbyte
      exact ascii_of_userPrincipal h byte (by simpa using hbyte)
  · next user group heq =>
      rw [heq]
      rw [Bool.and_eq_true] at h
      intro byte hbyte
      simp only [List.intercalate, List.intersperse, List.flatten_cons, List.flatten_nil,
        List.mem_append, List.mem_singleton, List.append_nil] at hbyte
      rcases hbyte with hbyte | rfl | hbyte
      · exact ascii_of_userPrincipal h.1 byte hbyte
      · decide
      · exact ascii_of_userPrincipal h.2 byte hbyte
  · cases h

theorem isUtf8_of_label {key value : Bytes} (h : validLabel key value = true) :
    isUtf8 key = true ∧ isUtf8 value = true := by
  simp only [validLabel, Bool.and_eq_true] at h
  exact ⟨isUtf8_of_validText h.1.2, isUtf8_of_validText h.2⟩

theorem isUtf8_of_volumeLabel {key value : Bytes} (h : validVolumeLabel key value = true) :
    isUtf8 key = true ∧ isUtf8 value = true := by
  simp only [validVolumeLabel, Bool.and_eq_true] at h
  exact ⟨isUtf8_of_validText h.1.2, isUtf8_of_validText h.2⟩

theorem isUtf8_of_assignment {key value : Bytes} (h : validAssignment key value = true) :
    isUtf8 key = true ∧ isUtf8 value = true := by
  simp only [validAssignment, Bool.and_eq_true] at h
  exact ⟨isUtf8_of_validText h.1.2, isUtf8_of_validText h.2⟩

end Utf8

end DockerLens.Target
