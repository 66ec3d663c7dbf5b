/-
PhantomDrive/XtsStandard.lean

The format on the card of the XTS build.  `phantomdrive_xts_buf` computes the tweaks on
words whose bytes it has reversed, masks and encrypts up to 60 sectors at a time, and
leaves the block cipher to the engine; what it writes is XTS as the standard has it,
sector by sector (`phantomdriveXts_standard`).

The standard is stated over 16-byte blocks: a block is the polynomial whose coefficients
are its bits, the lowest bit of byte 0 first, and the mask of block `j` is the tweak
times `X ^ j`.  AES is a permutation of the blocks for every key.
-/
import PhantomDrive.XtsTweak

namespace PhantomDrive

open Polynomial

/-! ### XTS -/

local instance neZero_sixteen : NeZero 16 := ⟨by decide⟩

/-- The polynomial of a block: bit `k % 8` of byte `k / 8` is coefficient `k`. -/
noncomputable def Block.poly (b : Block) : (ZMod 2)[X] :=
  ∑ k ∈ Finset.range 128, if (b (Fin.ofNat 16 (k / 8))).toNat.testBit (k % 8) then X ^ k else 0

/-- The block of a polynomial of degree less than 128. -/
def Block.ofPoly (p : (ZMod 2)[X]) : Block := fun i =>
  UInt8.ofNat (∑ k ∈ Finset.range 8, if p.coeff (8 * i + k) = 1 then 2 ^ k else 0)

/-- A tweak times `alpha ^ j` in GF(2^128). -/
noncomputable def alphaPow (j : ℕ) (tweak : Block) : Block :=
  Block.ofPoly ((X ^ j * tweak.poly) %ₘ xtsModulus)

/-- The 16 bytes that are encrypted for the tweak of a sector: its number in bytes 8 to 11, most
significant byte first. -/
def tweakBlock (lba : UInt32) : Block := fun i =>
  if 8 ≤ i.val ∧ i.val < 12 then wordByte lba (11 - i) else 0

/-- XTS of the sector `lba` with the two block ciphers `e₁` and `e₂`. -/
noncomputable def xtsStandard (e₁ e₂ : Block → Block) (lba : UInt32) (sector : Sector) : Sector :=
  sectorOfBlocks fun j =>
    let mask := alphaPow j (e₂ (tweakBlock lba))
    xorBlock (e₁ (xorBlock (sectorBlock sector j) mask)) mask

/-- The bytes of a block in reverse order. -/
def revBlock (b : Block) : Block := fun i => b (Fin.rev i)

/-- What the firmware relies on in the driver of the engine: the single-register mode encrypts the
reversed bytes and reverses the result, the self-DMA mode encrypts the blocks as they lie. -/
structure EcdcIsAes (ecdc : Ecdc) (aes : AesKey → Equiv.Perm Block) : Prop where
  singleRegister : ∀ key t,
    (ecdc.singleRegister key t).bytes = revBlock (aes key (revBlock t.bytes))
  selfDma : ∀ key b, ecdc.selfDma key b = aes key b

/-! ### Bytes and words -/

section Bytes

@[simp] theorem bytes_ofBytes (b : Block) : (XtsBlock.ofBytes b).bytes = b := by
  funext i
  have hword : ∀ w < 4, (XtsBlock.ofBytes b).word w
      = wordOfBytes (b (Fin.ofNat 16 (4 * w + 0))) (b (Fin.ofNat 16 (4 * w + 1)))
        (b (Fin.ofNat 16 (4 * w + 2))) (b (Fin.ofNat 16 (4 * w + 3))) := by
    intro w hw
    interval_cases w
    all_goals rfl
  have hi := i.isLt
  rw [XtsBlock.bytes, hword _ (by omega),
    wordByte_wordOfBytes (fun k => b (Fin.ofNat 16 (4 * (i.val / 4) + k))) (by omega)]
  congr 1
  apply Fin.ext
  show (4 * (i.val / 4) + i.val % 4) % 16 = i.val
  omega

/-- Reversing the bytes in place. -/
theorem bytes_xtsNormalizeTweak (t : XtsBlock) : (xtsNormalizeTweak t).bytes = revBlock t.bytes := by
  rw [xtsNormalizeTweak, bytes_ofBytes]
  rfl

@[simp] theorem revBlock_revBlock (b : Block) : revBlock (revBlock b) = b := by
  funext i
  simp [revBlock]

end Bytes

/-! ### Blocks as polynomials -/

section Polynomials

/-- A tweak is the same polynomial as words and as bytes. -/
theorem poly_bytes (t : XtsBlock) : t.bytes.poly = t.poly := by
  rw [t.poly_eq, BinaryPoly.ofNat_eq_sum t.toNat_lt, Block.poly]
  refine Finset.sum_congr rfl fun k hk => ?_
  have hk := Finset.mem_range.mp hk
  have hsplit : 32 * (k / 32) + k % 32 = k := by omega
  have hbit : (t.bytes (Fin.ofNat 16 (k / 8))).toNat.testBit (k % 8) = t.toNat.testBit k := by
    have hword := t.testBit_toNat (w := k / 32) (b := k % 32) (by omega) (by omega)
    rw [hsplit] at hword
    have hbyte : (Fin.ofNat 16 (k / 8)).val = k / 8 := by
      show k / 8 % 16 = k / 8
      omega
    have hdiv : k / 8 / 4 = k / 32 := by omega
    have hmod : 8 * (k / 8 % 4) + k % 8 = k % 32 := by omega
    rw [XtsBlock.bytes, hbyte, testBit_wordByte _ (by omega) (by omega), hdiv, hmod, hword]
  rw [hbit]

/-- A byte is the sum of its bits. -/
theorem sum_testBit (b : UInt8) :
    UInt8.ofNat (∑ k ∈ Finset.range 8, if b.toNat.testBit k then 2 ^ k else 0) = b := by
  have hall : ∀ n < 256, (∑ k ∈ Finset.range 8, if n.testBit k then 2 ^ k else 0) = n := by
    decide +kernel
  rw [hall b.toNat b.toNat_lt, UInt8.ofNat_toNat]

/-- A block is read back from its polynomial. -/
theorem ofPoly_poly (b : Block) : Block.ofPoly b.poly = b := by
  funext i
  have hi := i.isLt
  refine (congrArg UInt8.ofNat (Finset.sum_congr rfl fun k hk => ?_)).trans (sum_testBit (b i))
  have hk := Finset.mem_range.mp hk
  have hbyte : Fin.ofNat 16 ((8 * i.val + k) / 8) = i := by
    apply Fin.ext
    show (8 * i.val + k) / 8 % 16 = i.val
    omega
  have hmod : (8 * i.val + k) % 8 = k := by omega
  have hcoeff : b.poly.coeff (8 * i + k) = if (b i).toNat.testBit k then 1 else 0 := by
    rw [Block.poly, BinaryPoly.coeff_sum_X_pow 128
      (fun k => (b (Fin.ofNat 16 (k / 8))).toNat.testBit (k % 8)), hbyte, hmod]
    by_cases hbit : (b i).toNat.testBit k = true
    · rw [if_pos ⟨by omega, hbit⟩, if_pos hbit]
    · rw [if_neg fun h => hbit h.2, if_neg hbit]
  rw [hcoeff]
  by_cases hbit : (b i).toNat.testBit k = true
  · rw [if_pos hbit, if_pos hbit, if_pos rfl]
  · rw [if_neg hbit, if_neg hbit, if_neg (by decide)]

/-- **The masks** are the tweak times the powers of `alpha`. -/
theorem bytes_iterate_xtsMulAlpha (t : XtsBlock) (j : ℕ) :
    (xtsMulAlpha^[j] t).bytes = alphaPow j t.bytes := by
  rw [alphaPow, poly_bytes, ← poly_iterate_xtsMulAlpha, ← poly_bytes, ofPoly_poly]

end Polynomials

/-! ### The buffer -/

section Buffer

variable {ecdc : Ecdc} {aes : AesKey → Equiv.Perm Block}

/-- The input of the tweak encryption, once its bytes are reversed. -/
theorem revBlock_bytes_lba (lba : UInt32) :
    revBlock (XtsBlock.bytes { w0 := 0, w1 := lba, w2 := 0, w3 := 0 }) = tweakBlock lba := by
  funext i
  have hzero : ∀ k < 4, wordByte 0 k = 0 := by decide
  fin_cases i
  all_goals first | rfl | exact hzero _ (by decide)

/-- **The tweak** of a sector. -/
theorem bytes_xtsTweak (h : EcdcIsAes ecdc aes) (keys : AesKeys) (lba : UInt32) :
    (xtsTweak ecdc keys lba).bytes = aes keys.tweakKey (tweakBlock lba) := by
  rw [xtsTweak, bytes_xtsNormalizeTweak, h.singleRegister, revBlock_revBlock, revBlock_bytes_lba]

/-- **A sector** is processed as the standard has it. -/
theorem xtsSector_standard (h : EcdcIsAes ecdc aes) (keys : AesKeys) (lba : UInt32)
    (sector : Sector) :
    xtsSector ecdc keys (ecdc.selfDma keys.dataKey) lba sector
      = xtsStandard (aes keys.dataKey) (aes keys.tweakKey) lba sector := by
  rw [xtsSector, xtsStandard, xtsXorSector]
  congr 1
  funext j
  simp only [xtsXorSector, sectorBlock_sectorOfBlocks, h.selfDma, bytes_iterate_xtsMulAlpha,
    bytes_xtsTweak h]

/-- A buffer sector by sector is the same in one call as in one call for each sector. -/
theorem mapIdx_split (f : UInt32 → Sector → Sector) (buf : List Sector) (sdLba : UInt32) :
    buf.mapIdx (fun i s => f (sdLba + UInt32.ofNat i) s)
      = (buf.mapIdx fun i s =>
          [s].mapIdx fun j s => f (sdLba + UInt32.ofNat i + UInt32.ofNat j) s).flatten := by
  have hflatten : ∀ (g : ℕ → Sector → Sector) (buf : List Sector),
      (buf.mapIdx fun i s => [g i s]).flatten = buf.mapIdx g := by
    intro g buf
    induction buf generalizing g with
    | nil => rfl
    | cons s rest ih =>
      rw [List.mapIdx_cons, List.mapIdx_cons, List.flatten_cons, ih fun i => g (i + 1)]
      rfl
  rw [← hflatten]
  congr 2
  funext i s
  show [_] = [f (sdLba + UInt32.ofNat i + 0) s]
  rw [UInt32.add_zero]

/-- What undoes every sector undoes the buffer. -/
theorem mapIdx_mapIdx_eq {f g : ℕ → Sector → Sector} (h : ∀ i s, g i (f i s) = s)
    (buf : List Sector) : (buf.mapIdx f).mapIdx g = buf := by
  apply List.ext_getElem
  · simp
  · intro i _ _
    simp [h]

/-- Encrypting a sector undoes decrypting it. -/
theorem encryptSector_decryptSector (ecdc : Ecdc) (mode : AesMode) (keys : AesKeys)
    (lba : UInt32) (s : Sector) :
    encryptSector ecdc mode keys lba (decryptSector ecdc mode keys lba s) = s := by
  cases mode with
  | xts => exact xtsSector_symm ecdc keys (ecdc.selfDma keys.dataKey).symm lba s
  | ctr => exact ctrSector_ctrSector ..

/-- **The XTS build.**  With an engine that computes AES, `phantomdrive_encrypt_buf` is XTS on every
sector of every buffer, `phantomdrive_decrypt_buf` is its inverse, and both do the same in one call
as in one call for each sector. -/
theorem phantomdriveXts_standard (ecdc : Ecdc) (aes : AesKey → Equiv.Perm Block)
    (h : EcdcIsAes ecdc aes) (keys : AesKeys) (buf : List Sector) (sdLba : UInt32) :
    phantomdriveEncryptBuf ecdc .xts keys buf sdLba
        = (buf.mapIdx fun i s =>
            xtsStandard (aes keys.dataKey) (aes keys.tweakKey) (sdLba + UInt32.ofNat i) s)
      ∧ phantomdriveDecryptBuf ecdc .xts keys (phantomdriveEncryptBuf ecdc .xts keys buf sdLba) sdLba
        = buf
      ∧ phantomdriveEncryptBuf ecdc .xts keys (phantomdriveDecryptBuf ecdc .xts keys buf sdLba) sdLba
        = buf
      ∧ phantomdriveEncryptBuf ecdc .xts keys buf sdLba
        = (buf.mapIdx fun i s =>
            phantomdriveEncryptBuf ecdc .xts keys [s] (sdLba + UInt32.ofNat i)).flatten
      ∧ phantomdriveDecryptBuf ecdc .xts keys buf sdLba
        = (buf.mapIdx fun i s =>
            phantomdriveDecryptBuf ecdc .xts keys [s] (sdLba + UInt32.ofNat i)).flatten := by
  refine ⟨?_, ?_, ?_, ?_, ?_⟩
  · rw [phantomdriveEncryptBuf_eq_mapIdx]
    congr 1
    funext i s
    exact xtsSector_standard h keys _ s
  · rw [phantomdriveEncryptBuf_eq_mapIdx, phantomdriveDecryptBuf_eq_mapIdx]
    exact mapIdx_mapIdx_eq
      (fun i s => decryptSector_encryptSector ecdc .xts keys (sdLba + UInt32.ofNat i) s) buf
  · rw [phantomdriveDecryptBuf_eq_mapIdx, phantomdriveEncryptBuf_eq_mapIdx]
    exact mapIdx_mapIdx_eq
      (fun i s => encryptSector_decryptSector ecdc .xts keys (sdLba + UInt32.ofNat i) s) buf
  · rw [phantomdriveEncryptBuf_eq_mapIdx, mapIdx_split (encryptSector ecdc .xts keys)]
    congr 2
    funext i s
    rw [phantomdriveEncryptBuf_eq_mapIdx]
  · rw [phantomdriveDecryptBuf_eq_mapIdx, mapIdx_split (decryptSector ecdc .xts keys)]
    congr 2
    funext i s
    rw [phantomdriveDecryptBuf_eq_mapIdx]

/-- An engine for a block cipher. -/
def Ecdc.ofAes (aes : AesKey → Equiv.Perm Block) : Ecdc where
  selfDma := aes
  singleRegister := fun key t => .ofBytes (revBlock (aes key (revBlock t.bytes)))
  keystream := fun key count => aes key (revBlock count.bytes)

theorem ecdcIsAes_ofAes (aes : AesKey → Equiv.Perm Block) : EcdcIsAes (Ecdc.ofAes aes) aes where
  singleRegister := fun _ _ => bytes_ofBytes _
  selfDma := fun _ _ => rfl

/-- A block cipher that xors the first half of the key. -/
def sampleCipher (key : AesKey) : Equiv.Perm Block :=
  Function.Involutive.toPerm (fun b => xorBlock b fun i => key[i.val]) fun b => xorBlock_xorBlock b _

/-- Two sectors at the highest sector number and the lowest. -/
theorem phantomdriveXts_standard_wraps :
    phantomdriveEncryptBuf (Ecdc.ofAes sampleCipher) .xts
        ⟨Vector.replicate 32 1, Vector.replicate 32 2⟩ [fun _ => 0, fun _ => 7] 0xFFFFFFFF
      = [xtsStandard (sampleCipher (Vector.replicate 32 1)) (sampleCipher (Vector.replicate 32 2))
          0xFFFFFFFF fun _ => 0,
        xtsStandard (sampleCipher (Vector.replicate 32 1)) (sampleCipher (Vector.replicate 32 2))
          0 fun _ => 7] :=
  (phantomdriveXts_standard (Ecdc.ofAes sampleCipher) sampleCipher (ecdcIsAes_ofAes sampleCipher)
    ⟨Vector.replicate 32 1, Vector.replicate 32 2⟩ [fun _ => 0, fun _ => 7] 0xFFFFFFFF).1

end Buffer

end PhantomDrive
