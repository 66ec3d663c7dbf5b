/-
PhantomDrive/XtsTweak.lean

The tweaks of XTS.  `xts_mul_alpha` shifts four words of 32 bits by one bit and folds
the carry back with 0x87; read as polynomials over the field with two elements, bit `b`
of word `w` for the coefficient `32 * w + b`, that is multiplication by `X` modulo
`X ^ 128 + X ^ 7 + X ^ 2 + X + 1` (`poly_xtsMulAlpha`).

So it loses nothing, and since `X ^ d + 1` is coprime to the modulus for every
`d` below 32, the 32 tweaks of a sector are distinct unless they are all zero.
Main result: `xtsMulAlpha_spec`.
-/
import PhantomDrive.Crypto
import PhantomDrive.Lib.BinaryPoly

namespace PhantomDrive

open Polynomial

/-! ### Tweaks as polynomials -/

/-- The polynomial of a tweak: bit `b` of word `w` is the coefficient `32 * w + b`. -/
noncomputable def XtsBlock.poly (t : XtsBlock) : (ZMod 2)[X] :=
  ∑ w ∈ Finset.range 4, ∑ b ∈ Finset.range 32,
    if (t.word w).toNat.testBit b then X ^ (32 * w + b) else 0

/-- The modulus of XTS. -/
noncomputable def xtsModulus : (ZMod 2)[X] := X ^ 128 + X ^ 7 + X ^ 2 + X + 1

/-- The four words as one number. -/
def XtsBlock.toNat (t : XtsBlock) : ℕ :=
  t.w0.toNat + 2 ^ 32 * (t.w1.toNat + 2 ^ 32 * (t.w2.toNat + 2 ^ 32 * t.w3.toNat))

theorem XtsBlock.toNat_lt (t : XtsBlock) : t.toNat < 2 ^ 128 := by
  have h0 := t.w0.toNat_lt
  have h1 := t.w1.toNat_lt
  have h2 := t.w2.toNat_lt
  have h3 := t.w3.toNat_lt
  unfold XtsBlock.toNat
  omega

theorem XtsBlock.toNat_injective : Function.Injective XtsBlock.toNat := by
  rintro ⟨w0, w1, w2, w3⟩ ⟨w0', w1', w2', w3'⟩ h
  have h0 := w0.toNat_lt
  have h1 := w1.toNat_lt
  have h2 := w2.toNat_lt
  have h0' := w0'.toNat_lt
  have h1' := w1'.toNat_lt
  have h2' := w2'.toNat_lt
  simp only [XtsBlock.toNat] at h
  simp only [XtsBlock.mk.injEq, ← UInt32.toNat_inj]
  omega

/-- Bit `b` of word `w` is bit `32 * w + b` of the number. -/
theorem XtsBlock.testBit_toNat (t : XtsBlock) {w b : ℕ} (hw : w < 4) (hb : b < 32) :
    t.toNat.testBit (32 * w + b) = (t.word w).toNat.testBit b := by
  have h0 := t.w0.toNat_lt
  have h1 := t.w1.toNat_lt
  have h2 := t.w2.toNat_lt
  have hlow : ∀ {a n : ℕ} (i : ℕ), a < 2 ^ 32 → i < 32 →
      (a + 2 ^ 32 * n).testBit i = a.testBit i := by
    intro a n i ha hi
    rw [Nat.add_comm, Nat.testBit_two_pow_mul_add _ ha, if_pos hi]
  have hhigh : ∀ {a n : ℕ} (i : ℕ), a < 2 ^ 32 →
      (a + 2 ^ 32 * n).testBit (32 + i) = n.testBit i := by
    intro a n i ha
    rw [Nat.add_comm, Nat.testBit_two_pow_mul_add _ ha, if_neg (by omega), Nat.add_sub_cancel_left]
  unfold XtsBlock.toNat XtsBlock.word
  interval_cases w
  · exact (congrArg _ (by omega)).trans (hlow b h0 hb)
  · have hi : 32 * 1 + b = 32 + b := by omega
    rw [hi, hhigh b h0, hlow b h1 hb]
    rfl
  · have hi : 32 * 2 + b = 32 + (32 + b) := by omega
    rw [hi, hhigh _ h0, hhigh b h1, hlow b h2 hb]
    rfl
  · have hi : 32 * 3 + b = 32 + (32 + (32 + b)) := by omega
    rw [hi, hhigh _ h0, hhigh _ h1, hhigh b h2]
    rfl

/-- A sum over words and bits is a sum over bits. -/
theorem sum_words_bits (f : ℕ → (ZMod 2)[X]) (n : ℕ) :
    ∑ w ∈ Finset.range n, ∑ b ∈ Finset.range 32, f (32 * w + b)
      = ∑ k ∈ Finset.range (32 * n), f k := by
  induction n with
  | zero => rfl
  | succ n ih =>
    rw [Finset.sum_range_succ, ih, Nat.mul_succ, Finset.sum_range_add]

theorem XtsBlock.poly_eq (t : XtsBlock) : t.poly = BinaryPoly.ofNat t.toNat := by
  rw [BinaryPoly.ofNat_eq_sum t.toNat_lt, XtsBlock.poly]
  have hbits := sum_words_bits (fun k => if t.toNat.testBit k then X ^ k else 0) 4
  refine Eq.trans (Finset.sum_congr rfl fun w hw => Finset.sum_congr rfl fun b hb => ?_) hbits
  rw [t.testBit_toNat (Finset.mem_range.mp hw) (Finset.mem_range.mp hb)]

theorem XtsBlock.poly_injective : Function.Injective XtsBlock.poly := by
  intro t u h
  rw [XtsBlock.poly_eq, XtsBlock.poly_eq] at h
  exact XtsBlock.toNat_injective (BinaryPoly.ofNat_injective h)

/-! ### The modulus -/

theorem sum_of_five (a b c d e : (ZMod 2)[X]) : a + b + c + d + e = a + (b + c + d + e) := by
  simp only [add_assoc]

theorem xtsModulus_eq_add : xtsModulus = X ^ 128 + (X ^ 7 + X ^ 2 + X + 1) := by
  delta xtsModulus
  exact sum_of_five (X ^ 128) (X ^ 7) (X ^ 2) X 1

theorem xtsModulus_eq : xtsModulus = BinaryPoly.ofNat (2 ^ 128 ^^^ 0x87) := by
  have hconst : 0x87 = 2 ^ 7 ^^^ 2 ^ 2 ^^^ 2 ^ 1 ^^^ 1 := by decide
  rw [hconst, BinaryPoly.ofNat_xor, BinaryPoly.ofNat_xor, BinaryPoly.ofNat_xor,
    BinaryPoly.ofNat_xor, BinaryPoly.ofNat_two_pow, BinaryPoly.ofNat_two_pow,
    BinaryPoly.ofNat_two_pow, BinaryPoly.ofNat_two_pow, BinaryPoly.ofNat_one, pow_one,
    xtsModulus_eq_add]

theorem degree_xtsTail : (X ^ 7 + X ^ 2 + X + 1 : (ZMod 2)[X]).degree < 128 := by
  have hdegree : (X ^ 7 + X ^ 2 + X + 1 : (ZMod 2)[X]).degree ≤ 7 := by
    compute_degree
  exact hdegree.trans_lt (by norm_num)

theorem xtsModulus_monic : xtsModulus.Monic := by
  rw [xtsModulus_eq_add]
  exact monic_X_pow_add degree_xtsTail

theorem degree_xtsModulus : xtsModulus.degree = 128 := by
  have hpow : (X ^ 128 : (ZMod 2)[X]).degree = 128 := degree_X_pow 128
  have hlt : (X ^ 7 + X ^ 2 + X + 1 : (ZMod 2)[X]).degree < (X ^ 128 : (ZMod 2)[X]).degree := by
    rw [hpow]
    exact degree_xtsTail
  rw [xtsModulus_eq_add, degree_add_eq_left_of_degree_lt hlt, hpow]

theorem XtsBlock.degree_poly_lt (t : XtsBlock) : t.poly.degree < xtsModulus.degree := by
  rw [degree_xtsModulus, t.poly_eq]
  exact BinaryPoly.degree_ofNat_lt t.toNat_lt

theorem xtsModulus_coprime_X : IsCoprime xtsModulus X := by
  have hX : (X : (ZMod 2)[X]) = BinaryPoly.ofNat 2 := by
    rw [← pow_one (X : (ZMod 2)[X]), ← BinaryPoly.ofNat_two_pow, pow_one]
  have hcoprime : BinaryPoly.CoprimeBy 300 (2 ^ 128 ^^^ 0x87) 2 := by decide +kernel
  rw [xtsModulus_eq, hX]
  exact BinaryPoly.isCoprime_of_bezout hcoprime

/-- Euclid's algorithm finds cofactors for every `X ^ d + 1`. -/
theorem xtsModulus_coprime_X_pow_add_one {d : ℕ} (hpos : 0 < d) (hlt : d < 32) :
    IsCoprime xtsModulus (X ^ d + 1) := by
  have hall : ∀ d < 32, 0 < d → BinaryPoly.CoprimeBy 300 (2 ^ 128 ^^^ 0x87) (2 ^ d ^^^ 1) := by
    decide +kernel
  have hcoprime := BinaryPoly.isCoprime_of_bezout (hall d hlt hpos)
  rwa [← xtsModulus_eq, BinaryPoly.ofNat_xor, BinaryPoly.ofNat_two_pow,
    BinaryPoly.ofNat_one] at hcoprime

/-! ### Multiplication by alpha -/

/-- Low bits are xored below the rest. -/
theorem xor_add_two_pow_mul {a c k n : ℕ} (ha : a < 2 ^ k) (hc : c < 2 ^ k) :
    (a ^^^ c) + 2 ^ k * n = (a + 2 ^ k * n) ^^^ c := by
  refine Nat.eq_of_testBit_eq fun i => ?_
  rw [Nat.testBit_xor, Nat.add_comm, Nat.testBit_two_pow_mul_add _ (Nat.xor_lt_two_pow ha hc),
    Nat.add_comm, Nat.testBit_two_pow_mul_add _ ha, Nat.testBit_xor]
  by_cases hi : i < k
  · rw [if_pos hi, if_pos hi]
  · have hzero : c.testBit i = false :=
      Nat.testBit_lt_two_pow (hc.trans_le (Nat.pow_le_pow_right (by decide) (by omega)))
    rw [if_neg hi, if_neg hi, hzero, Bool.xor_false]

/-- A word shifted by one bit, with the bit that the word below it loses. -/
theorem toNat_shift_or (hi lo : UInt32) :
    ((hi <<< 1) ||| (lo >>> 31)).toNat = 2 * hi.toNat % 2 ^ 32 + lo.toNat / 2 ^ 31 := by
  have hlo := lo.toNat_lt
  have hhi := hi.toNat_lt
  have hshift : (hi <<< 1).toNat = (2 * hi.toNat % 2 ^ 32) := by
    rw [UInt32.toNat_shiftLeft]
    show hi.toNat <<< 1 % 2 ^ 32 = _
    rw [Nat.shiftLeft_eq, pow_one, mul_comm]
  have htop : (lo >>> 31).toNat = lo.toNat / 2 ^ 31 := by
    rw [UInt32.toNat_shiftRight]
    exact Nat.shiftRight_eq_div_pow _ 31
  have heven : 2 * hi.toNat % 2 ^ 32 = (hi.toNat % 2 ^ 31) <<< 1 := by
    rw [Nat.shiftLeft_eq, pow_one]
    omega
  rw [UInt32.toNat_or, hshift, htop, heven, ← Nat.shiftLeft_add_eq_or_of_lt (by omega)]

/-- The four words together: twice the number, and the bit that is lost is folded back. -/
theorem toNat_xtsMulAlpha (t : XtsBlock) :
    (xtsMulAlpha t).toNat
      = if 2 ^ 127 ≤ t.toNat then (2 * t.toNat - 2 ^ 128) ^^^ 0x87 else 2 * t.toNat := by
  have h0 := t.w0.toNat_lt
  have h1 := t.w1.toNat_lt
  have h2 := t.w2.toNat_lt
  have h3 := t.w3.toNat_lt
  have hcarry : t.w3 >>> 31 ≠ 0 ↔ 2 ^ 127 ≤ t.toNat := by
    have htop : (t.w3 >>> 31).toNat = t.w3.toNat / 2 ^ 31 := by
      rw [UInt32.toNat_shiftRight]
      exact Nat.shiftRight_eq_div_pow _ 31
    rw [ne_eq, ← UInt32.toNat_inj, htop, UInt32.toNat_zero, XtsBlock.toNat]
    omega
  have hlow : (t.w0 <<< 1).toNat = 2 * t.w0.toNat % 2 ^ 32 := by
    rw [UInt32.toNat_shiftLeft]
    show t.w0.toNat <<< 1 % 2 ^ 32 = _
    rw [Nat.shiftLeft_eq, pow_one, mul_comm]
  rw [XtsBlock.toNat, xtsMulAlpha]
  dsimp only
  rw [toNat_shift_or, toNat_shift_or, toNat_shift_or]
  by_cases h : t.w3 >>> 31 ≠ 0
  · have hbig := hcarry.mp h
    have hsum : 2 * t.w0.toNat % 2 ^ 32 + 2 ^ 32 * (2 * t.w1.toNat % 2 ^ 32 + t.w0.toNat / 2 ^ 31
        + 2 ^ 32 * (2 * t.w2.toNat % 2 ^ 32 + t.w1.toNat / 2 ^ 31
          + 2 ^ 32 * (2 * t.w3.toNat % 2 ^ 32 + t.w2.toNat / 2 ^ 31)))
        = 2 * t.toNat - 2 ^ 128 := by
      unfold XtsBlock.toNat at hbig ⊢
      omega
    have hconst : (0x87 : UInt32).toNat = 0x87 := rfl
    rw [if_pos h, if_pos hbig, UInt32.toNat_xor, hlow, hconst,
      xor_add_two_pow_mul (by omega) (by decide), hsum]
  · have hsmall : ¬ 2 ^ 127 ≤ t.toNat := fun hle => h (hcarry.mpr hle)
    rw [if_neg h, if_neg hsmall, hlow]
    unfold XtsBlock.toNat at hsmall ⊢
    omega

/-- **`xts_mul_alpha` multiplies by `X`.** -/
theorem poly_xtsMulAlpha (t : XtsBlock) : (xtsMulAlpha t).poly = (X * t.poly) %ₘ xtsModulus := by
  have hlt := t.toNat_lt
  have hdegree := (xtsMulAlpha t).degree_poly_lt
  have hdouble : X * t.poly = BinaryPoly.ofNat (2 * t.toNat) := by
    rw [t.poly_eq, BinaryPoly.ofNat_two_mul]
  -- the quotient is the bit that the number loses
  by_cases hbig : 2 ^ 127 ≤ t.toNat
  · refine ((div_modByMonic_unique 1 _ xtsModulus_monic ⟨?_, hdegree⟩).2).symm
    have hhigh : (2 * t.toNat - 2 ^ 128) ^^^ 2 ^ 128 = 2 * t.toNat := by
      have hxor := xor_add_two_pow_mul (a := 0) (c := 2 * t.toNat - 2 ^ 128) (k := 128) (n := 1)
        (by decide) (by omega)
      rw [Nat.zero_xor, Nat.zero_add, Nat.mul_one] at hxor
      rw [Nat.xor_comm, ← hxor]
      omega
    have hfold : ((2 * t.toNat - 2 ^ 128) ^^^ 0x87) ^^^ (2 ^ 128 ^^^ 0x87) = 2 * t.toNat := by
      rw [Nat.xor_assoc, Nat.xor_comm (2 ^ 128), ← Nat.xor_assoc 0x87, Nat.xor_self, Nat.zero_xor,
        hhigh]
    rw [mul_one, hdouble, (xtsMulAlpha t).poly_eq, toNat_xtsMulAlpha, if_pos hbig, xtsModulus_eq,
      ← BinaryPoly.ofNat_xor, hfold]
  · refine ((div_modByMonic_unique 0 _ xtsModulus_monic ⟨?_, hdegree⟩).2).symm
    rw [mul_zero, add_zero, hdouble, (xtsMulAlpha t).poly_eq, toNat_xtsMulAlpha, if_neg hbig]

/-- After `j` multiplications. -/
theorem poly_iterate_xtsMulAlpha (t : XtsBlock) (j : ℕ) :
    (xtsMulAlpha^[j] t).poly = (X ^ j * t.poly) %ₘ xtsModulus := by
  induction j with
  | zero =>
    rw [pow_zero, one_mul, (modByMonic_eq_self_iff xtsModulus_monic).mpr t.degree_poly_lt]
    rfl
  | succ j ih =>
    have hmod := modByMonic_add_div (X ^ j * t.poly) xtsModulus
    rw [Function.iterate_succ_apply', poly_xtsMulAlpha, ih, pow_succ', mul_assoc]
    conv_rhs => rw [← hmod, mul_add, add_modByMonic, mul_left_comm,
      (modByMonic_eq_zero_iff_dvd xtsModulus_monic).mpr (dvd_mul_right xtsModulus _), add_zero]

theorem xtsMulAlpha_injective : Function.Injective xtsMulAlpha := by
  intro t u h
  have hmod := congrArg XtsBlock.poly h
  rw [poly_xtsMulAlpha, poly_xtsMulAlpha] at hmod
  have hdvd : xtsModulus ∣ X * (t.poly - u.poly) := by
    rw [← modByMonic_eq_zero_iff_dvd xtsModulus_monic, mul_sub, sub_modByMonic, hmod, sub_self]
  have hdegree : (t.poly - u.poly).degree < xtsModulus.degree :=
    (degree_sub_le _ _).trans_lt (max_lt t.degree_poly_lt u.degree_poly_lt)
  exact XtsBlock.poly_injective
    (sub_eq_zero.mp (BinaryPoly.eq_zero_of_dvd_mul xtsModulus_coprime_X hdegree hdvd))

instance : Finite XtsBlock :=
  Finite.of_injective (fun t => (⟨t.toNat, t.toNat_lt⟩ : Fin (2 ^ 128))) fun _ _ h =>
    XtsBlock.toNat_injective (Fin.mk.inj h)

/-- The tweaks of a sector are distinct. -/
theorem iterate_xtsMulAlpha_injective {t : XtsBlock} (ht : t ≠ ⟨0, 0, 0, 0⟩) :
    Function.Injective fun j : Fin 32 => xtsMulAlpha^[j] t := by
  have hne : t.poly ≠ 0 := by
    intro hzero
    refine ht (XtsBlock.poly_injective ?_)
    rw [hzero, XtsBlock.poly_eq]
    exact BinaryPoly.ofNat_zero.symm
  have hlt : ∀ j k : Fin 32, j < k → xtsMulAlpha^[j] t ≠ xtsMulAlpha^[k] t := by
    intro j k hjk heq
    have hpoly := congrArg XtsBlock.poly heq
    rw [poly_iterate_xtsMulAlpha, poly_iterate_xtsMulAlpha] at hpoly
    exact BinaryPoly.X_pow_mul_modByMonic_ne xtsModulus_monic xtsModulus_coprime_X
      (fun _ => xtsModulus_coprime_X_pow_add_one) t.degree_poly_lt hne hjk k.isLt hpoly
  intro j k heq
  rcases lt_trichotomy j k with hjk | hjk | hjk
  · exact absurd heq (hlt j k hjk)
  · exact hjk
  · exact absurd heq.symm (hlt k j hjk)

/-- **The tweaks of a sector.**  `xts_mul_alpha` is multiplication by `X` modulo
`X ^ 128 + X ^ 7 + X ^ 2 + X + 1` and a bijection; and the 32 tweaks that `xts_xor_sector` derives
from an initial tweak that is not zero are distinct. -/
theorem xtsMulAlpha_spec :
    (∀ t : XtsBlock, (xtsMulAlpha t).poly = (X * t.poly) %ₘ xtsModulus)
      ∧ Function.Bijective xtsMulAlpha
      ∧ ∀ t : XtsBlock, t ≠ ⟨0, 0, 0, 0⟩ → ∃ tweaks : Fin 32 → XtsBlock,
          Function.Injective tweaks
            ∧ ∀ s j, sectorBlock (xtsXorSector s t) j
              = xorBlock (sectorBlock s j) (tweaks j).bytes := by
  refine ⟨poly_xtsMulAlpha, Finite.injective_iff_bijective.mp xtsMulAlpha_injective,
    fun t ht => ⟨_, iterate_xtsMulAlpha_injective ht, fun s j => ?_⟩⟩
  rw [xtsXorSector, sectorBlock_sectorOfBlocks]

/-- The tweaks from the initial tweak 1. -/
theorem xtsMulAlpha_spec_one : ∃ tweaks : Fin 32 → XtsBlock, Function.Injective tweaks
    ∧ ∀ s j, sectorBlock (xtsXorSector s ⟨1, 0, 0, 0⟩) j
      = xorBlock (sectorBlock s j) (tweaks j).bytes :=
  xtsMulAlpha_spec.2.2 ⟨1, 0, 0, 0⟩ (by decide)

end PhantomDrive
