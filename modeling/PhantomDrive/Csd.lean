/-
PhantomDrive/Csd.lean

`SDReadCSD` of `sd.c`: the capacity of the card from its CSD register.

The card answers CMD9 with 128 bits, which the controller leaves in four words.  What
the fields mean is in the SD Physical Layer specification; `Csd` reads them off the 128
bits by their bit numbers, and `sdReadCsd` off the words as the code does.

For a version 2.0 register the code computes the capacity, and the reserved bits above
`C_SIZE` that its mask lets through are shifted out of the word.  For version 1.0 it
leaves `READ_BL_LEN` out of the count, so that the result is in sectors of 512 bytes
only if `READ_BL_LEN` is 9.  Main results: `sdReadCsd_iff`, `sdReadCsd_two_gigabyte_card`.
-/
import Mathlib

namespace PhantomDrive

/-! ### The register -/

/-- The CSD register as the card sends it, bit 127 first. -/
abbrev Csd := BitVec 128

namespace Csd

/-- `CSD_STRUCTURE`, bits 127..126: 0 for version 1.0, 1 for version 2.0. -/
def structureVersion (csd : Csd) : ℕ := (csd.extractLsb' 126 2).toNat

/-- `C_SIZE` of version 2.0, bits 69..48. -/
def cSize2 (csd : Csd) : ℕ := (csd.extractLsb' 48 22).toNat

/-- `C_SIZE` of version 1.0, bits 73..62. -/
def cSize1 (csd : Csd) : ℕ := (csd.extractLsb' 62 12).toNat

/-- `C_SIZE_MULT`, bits 49..47. -/
def cSizeMult (csd : Csd) : ℕ := (csd.extractLsb' 47 3).toNat

/-- `READ_BL_LEN`, bits 83..80. -/
def readBlLen (csd : Csd) : ℕ := (csd.extractLsb' 80 4).toNat

/-- The capacity of the card in sectors of 512 bytes. -/
def sectors (csd : Csd) : ℕ :=
  if csd.structureVersion = 1 then (csd.cSize2 + 1) * 1024
  else (csd.cSize1 + 1) * 2 ^ (csd.cSizeMult + 2) * 2 ^ csd.readBlLen / 512

/-- Word `i` of the response: `R32_EMMC_RESPONSE0` has the lowest bits. -/
def word (csd : Csd) (i : ℕ) : UInt32 := ⟨csd.extractLsb' (32 * i) 32⟩

end Csd

/-! ### `SDReadCSD` -/

/-- `EMMCType`, as far as `SDReadCSD` sets it. -/
inductive EmmcType
  | capacitySdCardV2
  | highCapacitySdCard
deriving DecidableEq, Repr

/-- The length of `EMMC_CSD`. -/
abbrev csdWords : ℕ := 4

/-- What `SDReadCSD` leaves in `*pEMMCPara`. -/
structure SdParameter where
  emmcCsd : Vector UInt32 csdWords
  emmcType : EmmcType
  emmcSecNum : UInt32
  emmcSecSize : UInt32

/-- `SDReadCSD` behind CMD9; `success` is `sta == CMD_SUCCESS` and `response` what the controller
has in `R32_EMMC_RESPONSE0` to `3`. -/
def sdReadCsd (success : Bool) (response : ℕ → UInt32) (para : SdParameter) : SdParameter :=
  let r : SdParameter × UInt32 :=
    if success then
      let csd : Vector UInt32 csdWords := #v[response 0, response 1, response 2, response 3]
      let para := { para with emmcCsd := csd }
      if csd[3] >>> 30 ≠ 0 then
        ({ para with emmcType := .highCapacitySdCard },
          ((((csd[2] &&& 0x0ff) <<< 16) ||| ((csd[1] &&& 0xffff0000) >>> 16)) + 1) <<< 10)
      else
        let diskBlockNum := (((csd[2] &&& 0x3ff) <<< 2) ||| (csd[1] >>> 30)) + 1
        ({ para with emmcType := .capacitySdCardV2 },
          diskBlockNum <<< (((csd[1] >>> 15) &&& 0x07) + 2))
    else (para, 0)
  { r.1 with
    emmcSecNum := r.2
    emmcSecSize := (1 : UInt32) <<< ((r.1.emmcCsd[2] >>> 16) &&& 0x000f) }

/-! ### The words -/

section Words

variable (csd : Csd)

theorem Csd.toNat_word (i : ℕ) : (csd.word i).toNat = csd.toNat / 2 ^ (32 * i) % 2 ^ 32 := by
  show (csd.extractLsb' (32 * i) 32).toNat = _
  rw [BitVec.extractLsb'_toNat, Nat.shiftRight_eq_div_pow]

/-- Fields that do not overlap add up. -/
theorem shiftLeft_or (a b : ℕ) {n : ℕ} (h : b < 2 ^ n) : a <<< n ||| b = a * 2 ^ n + b := by
  rw [← Nat.shiftLeft_add_eq_or_of_lt h, Nat.shiftLeft_eq]

/-- The upper half of a word, masked first or not. -/
theorem toNat_upperHalf (w : UInt32) : ((w &&& 0xffff0000) >>> 16).toNat = w.toNat / 2 ^ 16 := by
  have hw := w.toNat_lt
  rw [UInt32.toNat_shiftRight, UInt32.toNat_and]
  show (w.toNat &&& 4294901760) >>> 16 = _
  rw [← Nat.shiftRight_eq_div_pow]
  refine Nat.eq_of_testBit_eq fun i => ?_
  rw [Nat.testBit_shiftRight, Nat.testBit_and, Nat.testBit_shiftRight]
  by_cases hi : i < 16
  · have hmask : Nat.testBit 4294901760 (16 + i) = true := by
      interval_cases i
      all_goals rfl
    rw [hmask, Bool.and_true]
  · have hzero : w.toNat.testBit (16 + i) = false :=
      Nat.testBit_lt_two_pow (hw.trans_le (Nat.pow_le_pow_right (by decide) (by omega)))
    rw [hzero, Bool.false_and]

/-- The mask of eight bits takes the reserved bits 71..70 in; they are shifted out of the count. -/
theorem toNat_secNum2 :
    (((((csd.word 2 &&& 0x0ff) <<< 16) ||| ((csd.word 1 &&& 0xffff0000) >>> 16)) + 1) <<< 10).toNat
      = (csd.cSize2 + 1) * 1024 % 2 ^ 32 := by
  have hlow : (csd.word 2 &&& 0x0ff).toNat = csd.toNat / 2 ^ 64 % 2 ^ 32 % 2 ^ 8 := by
    rw [UInt32.toNat_and, csd.toNat_word]
    exact Nat.and_two_pow_sub_one_eq_mod _ 8
  have hupper : ((csd.word 1 &&& 0xffff0000) >>> 16).toNat = csd.toNat / 2 ^ 32 % 2 ^ 32 / 2 ^ 16 := by
    rw [toNat_upperHalf, csd.toNat_word]
  have hshift : ((csd.word 2 &&& 0x0ff) <<< 16).toNat
      = (csd.toNat / 2 ^ 64 % 2 ^ 32 % 2 ^ 8) <<< 16 := by
    rw [UInt32.toNat_shiftLeft, hlow]
    refine Nat.mod_eq_of_lt ?_
    show _ <<< 16 < _
    rw [Nat.shiftLeft_eq]
    omega
  have hsize : csd.cSize2 = csd.toNat / 2 ^ 48 % 2 ^ 22 := by
    rw [Csd.cSize2, BitVec.extractLsb'_toNat, Nat.shiftRight_eq_div_pow]
  rw [UInt32.toNat_shiftLeft, UInt32.toNat_add, UInt32.toNat_or, hshift, hupper,
    shiftLeft_or _ _ (by omega), hsize]
  show (_ % 2 ^ 32) <<< 10 % 2 ^ 32 = _
  rw [Nat.shiftLeft_eq]
  show (_ + 1) % 2 ^ 32 * 2 ^ 10 % 2 ^ 32 = _
  omega

/-- The count of version 1.0, without `READ_BL_LEN`. -/
theorem toNat_secNum1 :
    (((((csd.word 2 &&& 0x3ff) <<< 2) ||| (csd.word 1 >>> 30)) + 1)
        <<< (((csd.word 1 >>> 15) &&& 0x07) + 2)).toNat
      = (csd.cSize1 + 1) * 2 ^ (csd.cSizeMult + 2) := by
  have hlow : (csd.word 2 &&& 0x3ff).toNat = csd.toNat / 2 ^ 64 % 2 ^ 32 % 2 ^ 10 := by
    rw [UInt32.toNat_and, csd.toNat_word]
    exact Nat.and_two_pow_sub_one_eq_mod _ 10
  have hshift : ((csd.word 2 &&& 0x3ff) <<< 2).toNat
      = (csd.toNat / 2 ^ 64 % 2 ^ 32 % 2 ^ 10) <<< 2 := by
    rw [UInt32.toNat_shiftLeft, hlow]
    refine Nat.mod_eq_of_lt ?_
    show _ <<< 2 < _
    rw [Nat.shiftLeft_eq]
    omega
  have htop : (csd.word 1 >>> 30).toNat = csd.toNat / 2 ^ 32 % 2 ^ 32 / 2 ^ 30 := by
    rw [UInt32.toNat_shiftRight, csd.toNat_word]
    exact Nat.shiftRight_eq_div_pow _ 30
  have hmult : ((csd.word 1 >>> 15) &&& 0x07).toNat = csd.cSizeMult := by
    rw [UInt32.toNat_and, UInt32.toNat_shiftRight, csd.toNat_word, Csd.cSizeMult,
      BitVec.extractLsb'_toNat, Nat.shiftRight_eq_div_pow]
    show (csd.toNat / 2 ^ 32 % 2 ^ 32) / 2 ^ 15 &&& (2 ^ 3 - 1) = csd.toNat >>> 47 % 2 ^ 3
    rw [Nat.and_two_pow_sub_one_eq_mod, Nat.shiftRight_eq_div_pow]
    omega
  have hmultlt : csd.cSizeMult < 8 := (csd.extractLsb' 47 3).isLt
  have hamount : (((csd.word 1 >>> 15) &&& 0x07) + 2).toNat % 32 = csd.cSizeMult + 2 := by
    rw [UInt32.toNat_add, hmult]
    show (csd.cSizeMult + 2) % 2 ^ 32 % 32 = _
    omega
  have hsize : csd.cSize1 = csd.toNat / 2 ^ 62 % 2 ^ 12 := by
    rw [Csd.cSize1, BitVec.extractLsb'_toNat, Nat.shiftRight_eq_div_pow]
  have hcount : ((((csd.word 2 &&& 0x3ff) <<< 2) ||| (csd.word 1 >>> 30)) + 1).toNat
      = csd.cSize1 + 1 := by
    rw [UInt32.toNat_add, UInt32.toNat_or, hshift, htop, shiftLeft_or _ _ (by omega), hsize]
    show (_ + 1) % 2 ^ 32 = _
    omega
  have hsizelt : csd.cSize1 < 2 ^ 12 := (csd.extractLsb' 62 12).isLt
  rw [UInt32.toNat_shiftLeft, hcount, hamount, Nat.shiftLeft_eq]
  refine Nat.mod_eq_of_lt ?_
  calc (csd.cSize1 + 1) * 2 ^ (csd.cSizeMult + 2)
      ≤ 2 ^ 12 * 2 ^ 9 := Nat.mul_le_mul (by omega) (Nat.pow_le_pow_right (by decide) (by omega))
    _ < 2 ^ 32 := by decide

/-- The test of `CSD_STRUCTURE`. -/
theorem word_three_ne_zero_iff : csd.word 3 >>> 30 ≠ 0 ↔ csd.structureVersion ≠ 0 := by
  have hversion : (csd.word 3 >>> 30).toNat = csd.structureVersion := by
    have hlt := csd.isLt
    rw [UInt32.toNat_shiftRight, csd.toNat_word, Csd.structureVersion, BitVec.extractLsb'_toNat,
      Nat.shiftRight_eq_div_pow]
    show csd.toNat / 2 ^ 96 % 2 ^ 32 / 2 ^ 30 = csd.toNat >>> 126 % 2 ^ 2
    rw [Nat.shiftRight_eq_div_pow]
    omega
  rw [← hversion, ne_eq, ← UInt32.toNat_inj]
  rfl

end Words

/-! ### The capacity -/

/-- **The capacity of a version 2.0 register** is right, whatever the reserved bits. -/
theorem sdReadCsd_version2 (csd : Csd) (para : SdParameter) (h : csd.structureVersion = 1)
    (hfits : csd.sectors < 2 ^ 32) :
    (sdReadCsd true csd.word para).emmcSecNum.toNat = csd.sectors := by
  have htest : csd.word 3 >>> 30 ≠ 0 := (word_three_ne_zero_iff csd).mpr (by rw [h]; decide)
  have hsectors : csd.sectors = (csd.cSize2 + 1) * 1024 := if_pos h
  have hnum : (sdReadCsd true csd.word para).emmcSecNum
      = ((((csd.word 2 &&& 0x0ff) <<< 16) ||| ((csd.word 1 &&& 0xffff0000) >>> 16)) + 1) <<< 10 := by
    show Prod.snd (if csd.word 3 >>> 30 ≠ 0 then _ else _) = _
    rw [if_pos htest]
    rfl
  rw [hnum, toNat_secNum2, hsectors]
  rw [hsectors] at hfits
  exact Nat.mod_eq_of_lt hfits

/-- **The capacity of a version 1.0 register** is the count of blocks of `2 ^ READ_BL_LEN`. -/
theorem sdReadCsd_version1 (csd : Csd) (para : SdParameter) (h : csd.structureVersion = 0) :
    (sdReadCsd true csd.word para).emmcSecNum.toNat
      = (csd.cSize1 + 1) * 2 ^ (csd.cSizeMult + 2) := by
  have htest : ¬ csd.word 3 >>> 30 ≠ 0 := fun hne => (word_three_ne_zero_iff csd).mp hne h
  have hnum : (sdReadCsd true csd.word para).emmcSecNum
      = ((((csd.word 2 &&& 0x3ff) <<< 2) ||| (csd.word 1 >>> 30)) + 1)
        <<< (((csd.word 1 >>> 15) &&& 0x07) + 2) := by
    show Prod.snd (if csd.word 3 >>> 30 ≠ 0 then _ else _) = _
    rw [if_neg htest]
    rfl
  rw [hnum, toNat_secNum1]

/-- A positive count of blocks is the count of sectors if and only if a block is a sector. -/
theorem blocks_eq_sectors_iff {blocks readBlLen : ℕ} (h : 0 < blocks) :
    blocks = blocks * 2 ^ readBlLen / 512 ↔ readBlLen = 9 := by
  constructor
  · intro heq
    rcases Nat.lt_trichotomy readBlLen 9 with hlt | rfl | hgt
    · have hpow : 2 ^ readBlLen ≤ 2 ^ 8 := Nat.pow_le_pow_right (by decide) (by omega)
      have hmul : blocks * 2 ^ readBlLen ≤ blocks * 256 := Nat.mul_le_mul_left _ hpow
      omega
    · rfl
    · have hpow : 2 ^ 10 ≤ 2 ^ readBlLen := Nat.pow_le_pow_right (by decide) (by omega)
      have hmul : blocks * 1024 ≤ blocks * 2 ^ readBlLen := Nat.mul_le_mul_left _ hpow
      omega
  · rintro rfl
    exact (Nat.mul_div_cancel _ (by decide)).symm

/-- **`EMMCSecNum` is the capacity** in sectors of 512 bytes, for every register of version 1.0 or
2.0 of a card with fewer than 2^32 sectors, if and only if the version is 2.0 or the blocks have 512
bytes. -/
theorem sdReadCsd_iff (csd : Csd) (para : SdParameter)
    (hversion : csd.structureVersion = 0 ∨ csd.structureVersion = 1)
    (hfits : csd.sectors < 2 ^ 32) :
    (sdReadCsd true csd.word para).emmcSecNum.toNat = csd.sectors
      ↔ csd.structureVersion = 1 ∨ csd.readBlLen = 9 := by
  rcases hversion with hone | htwo
  · have hne : csd.structureVersion ≠ 1 := by
      rw [hone]
      decide
    have hpos : 0 < (csd.cSize1 + 1) * 2 ^ (csd.cSizeMult + 2) := by positivity
    rw [sdReadCsd_version1 csd para hone, Csd.sectors, if_neg hne, blocks_eq_sectors_iff hpos]
    exact ⟨Or.inr, fun h => h.resolve_left hne⟩
  · exact ⟨fun _ => Or.inl htwo, fun _ => sdReadCsd_version2 csd para htwo hfits⟩

/-- No register was read yet. -/
def SdParameter.zero : SdParameter := ⟨#v[0, 0, 0, 0], .capacitySdCardV2, 0, 0⟩

/-- A version 2.0 register of a card of 8 GiB, all its reserved bits set. -/
theorem sdReadCsd_iff_eight_gigabyte :
    (sdReadCsd true (Csd.word 0x4000_0000_0000_00C0_3FFF_0000_0000_0000) SdParameter.zero).emmcSecNum.toNat
        = Csd.sectors 0x4000_0000_0000_00C0_3FFF_0000_0000_0000
      ↔ Csd.structureVersion 0x4000_0000_0000_00C0_3FFF_0000_0000_0000 = 1
        ∨ Csd.readBlLen 0x4000_0000_0000_00C0_3FFF_0000_0000_0000 = 9 :=
  sdReadCsd_iff 0x4000_0000_0000_00C0_3FFF_0000_0000_0000 SdParameter.zero (Or.inr (by decide))
    (by decide)

/-- A version 1.0 register of a card of 2 GiB: `C_SIZE` 4095, `C_SIZE_MULT` 7 and `READ_BL_LEN` 10.
`EMMCSecNum` is half of its sectors. -/
theorem sdReadCsd_two_gigabyte_card :
    let csd : Csd := 4095 <<< 62 ||| 7 <<< 47 ||| 10 <<< 80
    csd.structureVersion = 0 ∧ csd.sectors = 4194304
      ∧ (sdReadCsd true csd.word SdParameter.zero).emmcSecNum = 2097152 := by
  decide +kernel

end PhantomDrive
