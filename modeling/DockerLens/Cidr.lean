import Mathlib.Algebra.Order.Ring.Int
import Mathlib.Data.Nat.Basic
import Mathlib.Data.Set.Basic
import Mathlib.Order.Interval.Set.Defs

namespace DockerLens.Cidr

/-! Prefixes of machine words: the word-level masks compute with aligned blocks of numbers. -/

/-- The numbers that agree with a base on all but the low bits. -/
def block (low base : Nat) : Set Nat := { value | value / 2 ^ low = base / 2 ^ low }

theorem self_mem_block (low base : Nat) : base ∈ block low base := rfl

theorem mem_block_iff {low base value : Nat} (haligned : 2 ^ low ∣ base) :
    value ∈ block low base ↔ base ≤ value ∧ value < base + 2 ^ low := by
  have hpos : 0 < 2 ^ low := Nat.two_pow_pos low
  obtain ⟨quotient, rfl⟩ := haligned
  rw [block, Set.mem_ofPred_eq, Nat.mul_div_cancel_left _ hpos, Nat.div_eq_iff hpos]
  rw [Nat.mul_comm quotient]
  omega

theorem div_eq_of_le {low high value base : Nat} (hle : low ≤ high)
    (h : value / 2 ^ low = base / 2 ^ low) : value / 2 ^ high = base / 2 ^ high := by
  obtain ⟨more, rfl⟩ := Nat.exists_eq_add_of_le hle
  rw [Nat.pow_add, ← Nat.div_div_eq_div_mul, h, Nat.div_div_eq_div_mul]

theorem block_subset {low high base base' value : Nat} (hle : low ≤ high)
    (hvalue : value ∈ block low base) (hvalue' : value ∈ block high base') :
    block low base ⊆ block high base' := by
  intro other hother
  have hequal : other / 2 ^ low = value / 2 ^ low := Eq.trans hother (Eq.symm hvalue)
  exact (div_eq_of_le hle hequal).trans hvalue'

theorem blocks_meet_iff {low low' base base' : Nat} :
    (base' ∈ block low base ∨ base ∈ block low' base') ↔
      (block low base ∩ block low' base').Nonempty := by
  constructor
  · rintro (h | h)
    · exact ⟨base', h, self_mem_block low' base'⟩
    · exact ⟨base, self_mem_block low base, h⟩
  · rintro ⟨value, hvalue, hvalue'⟩
    rcases Nat.le_total low low' with hle | hle
    · exact .inr (block_subset hle hvalue hvalue' (self_mem_block low base))
    · exact .inl (block_subset hle hvalue' hvalue (self_mem_block low' base'))

section Words

variable {w : Nat}

/-- `checked_shl`: no result for a shift by the width or more. -/
def checkedShl (value : BitVec w) (shift : Nat) : Option (BitVec w) :=
  if shift < w then some (value <<< shift) else none

/-- `checked_shr`. -/
def checkedShr (value : BitVec w) (shift : Nat) : Option (BitVec w) :=
  if shift < w then some (value >>> shift) else none

theorem checkedShl_getD (value : BitVec w) (shift : Nat) :
    (checkedShl value shift).getD 0 = value <<< shift := by
  rw [checkedShl]
  split
  · rfl
  · next h => exact (BitVec.shiftLeft_eq_zero (Nat.le_of_not_lt h)).symm

/-- The mask that keeps all but the low bits. -/
def mask (w low : Nat) : BitVec w := BitVec.allOnes w <<< low

theorem and_mask (value : BitVec w) (low : Nat) :
    value &&& mask w low = (value >>> low) <<< low := by
  ext i hi
  simp only [mask, BitVec.getElem_and, BitVec.getElem_shiftLeft, BitVec.getElem_allOnes]
  by_cases h : i < low
  · simp [h]
  · simp [h, BitVec.getElem_eq_testBit_toNat, Nat.testBit_shiftRight,
      Nat.add_sub_cancel' (Nat.le_of_not_lt h)]

theorem toNat_and_mask (value : BitVec w) (low : Nat) :
    (value &&& mask w low).toNat = value.toNat / 2 ^ low * 2 ^ low := by
  have hle := Nat.div_mul_le_self value.toNat (2 ^ low)
  rw [and_mask, BitVec.toNat_shiftLeft, BitVec.toNat_ushiftRight, Nat.shiftLeft_eq,
    Nat.shiftRight_eq_div_pow]
  exact Nat.mod_eq_of_lt (hle.trans_lt value.isLt)

theorem and_mask_eq_iff {base value : BitVec w} {low : Nat} :
    base &&& mask w low = value &&& mask w low ↔ value.toNat ∈ block low base.toNat := by
  have hpos : 0 < 2 ^ low := Nat.two_pow_pos low
  rw [← BitVec.toNat_inj, toNat_and_mask, toNat_and_mask, Nat.mul_left_inj hpos.ne', block,
    Set.mem_ofPred_eq, eq_comm]

theorem and_not_mask_eq_zero_iff {value : BitVec w} {low : Nat} :
    value &&& ~~~(mask w low) = 0 ↔ 2 ^ low ∣ value.toNat := by
  have hsplit : value &&& ~~~(mask w low) = 0 ↔ value &&& mask w low = value := by
    constructor
    · intro h
      ext i hi
      have hbit := congrArg (fun word : BitVec w => word.getLsbD i) h
      simp only [BitVec.getLsbD_and, BitVec.getLsbD_not, hi, BitVec.getElem_and] at hbit ⊢
      simpa [BitVec.getLsbD_eq_getElem, hi] using hbit
    · intro h
      rw [← h, BitVec.and_assoc]
      simp
  rw [hsplit, ← BitVec.toNat_inj, toNat_and_mask, ← Nat.dvd_iff_div_mul_eq]

theorem ones_div (low high : Nat) : (2 ^ (low + high) - 1) / 2 ^ low = 2 ^ high - 1 := by
  have hlow := Nat.two_pow_pos low
  have hhigh := Nat.two_pow_pos high
  have hle : 2 ^ low ≤ 2 ^ low * 2 ^ high := Nat.le_mul_of_pos_right _ hhigh
  have hsplit : 2 ^ (low + high) - 1 = 2 ^ low * (2 ^ high - 1) + (2 ^ low - 1) := by
    rw [Nat.pow_add, Nat.mul_sub_one]
    omega
  rw [hsplit, Nat.mul_add_div hlow, Nat.div_eq_of_lt (by omega), Nat.add_zero]

/-- The mask of the low bits. -/
def lowMask (w high : Nat) : BitVec w := BitVec.allOnes w >>> high

theorem toNat_lowMask {high : Nat} (hhigh : high ≤ w) :
    (lowMask w high).toNat = 2 ^ (w - high) - 1 := by
  rw [lowMask, BitVec.toNat_ushiftRight, BitVec.toNat_allOnes, Nat.shiftRight_eq_div_pow]
  obtain ⟨low, rfl⟩ := Nat.exists_eq_add_of_le hhigh
  rw [ones_div, Nat.add_sub_cancel_left]

theorem checkedShr_allOnes {high : Nat} (hhigh : high < w) :
    checkedShr (BitVec.allOnes w) high = some (lowMask w high) := if_pos hhigh

theorem toNat_or_lowMask {base : BitVec w} {high : Nat} (hhigh : high ≤ w)
    (haligned : 2 ^ (w - high) ∣ base.toNat) :
    (base ||| lowMask w high).toNat = base.toNat + (2 ^ (w - high) - 1) := by
  obtain ⟨quotient, hquotient⟩ := haligned
  have hpos := Nat.two_pow_pos (w - high)
  rw [BitVec.toNat_or, toNat_lowMask hhigh, hquotient,
    ← Nat.two_pow_add_eq_or_of_lt (by omega)]

end Words

end DockerLens.Cidr
