/-
PhantomDrive/Lib/BinaryPoly.lean

Polynomials over the field with two elements as natural numbers: bit `k` of the number
is the coefficient of `X ^ k`.  Addition is `^^^`, multiplication by `X` is doubling, and
the product without carries (`mul`) is the product of the polynomials, so that an
identity between polynomials can be checked by computing with numbers.

The use of it here is coprimality: `bezout` runs Euclid's algorithm on numbers, and
`isCoprime_of_bezout` takes its result for a proof once it has been checked.  From it,
when the first multiples of a polynomial by powers of `X` differ modulo another
(`X_pow_mul_modByMonic_ne`).
-/
import Mathlib

namespace BinaryPoly

open Polynomial

/-! ### Numbers as polynomials -/

/-- The polynomial whose coefficients are the bits of `n`. -/
noncomputable def ofNat (n : ℕ) : (ZMod 2)[X] :=
  ∑ k ∈ Finset.range n.size, if n.testBit k then X ^ k else 0

/-- A sum of powers of `X`, by its coefficients. -/
theorem coeff_sum_X_pow (m : ℕ) (p : ℕ → Bool) (k : ℕ) :
    (∑ i ∈ Finset.range m, if p i then (X : (ZMod 2)[X]) ^ i else 0).coeff k
      = if k < m ∧ p k = true then 1 else 0 := by
  rw [finsetSum_coeff]
  by_cases hk : k < m
  · rw [Finset.sum_eq_single k]
    · by_cases hp : p k = true
      · simp [hp, hk]
      · simp [hp]
    · intro i _ hne
      by_cases hp : p i = true
      · rw [if_pos hp, coeff_X_pow, if_neg (Ne.symm hne)]
      · rw [if_neg hp, coeff_zero]
    · intro hnot
      exact absurd (Finset.mem_range.mpr hk) hnot
  · rw [if_neg fun h => hk h.1]
    refine Finset.sum_eq_zero fun i hi => ?_
    have hne : k ≠ i := by
      have := Finset.mem_range.mp hi
      omega
    by_cases hp : p i = true
    · rw [if_pos hp, coeff_X_pow, if_neg hne]
    · rw [if_neg hp, coeff_zero]

theorem coeff_ofNat (n k : ℕ) : (ofNat n).coeff k = if n.testBit k then 1 else 0 := by
  rw [ofNat, coeff_sum_X_pow]
  by_cases hbit : n.testBit k = true
  · have hk : k < n.size := Nat.lt_size.mpr (Nat.ge_two_pow_of_testBit hbit)
    rw [if_pos ⟨hk, hbit⟩, if_pos hbit]
  · rw [if_neg fun h => hbit h.2, if_neg hbit]

theorem ofNat_eq_sum {n m : ℕ} (h : n < 2 ^ m) :
    ofNat n = ∑ k ∈ Finset.range m, if n.testBit k then X ^ k else 0 := by
  ext k
  rw [coeff_ofNat, coeff_sum_X_pow]
  by_cases hbit : n.testBit k = true
  · have hk : k < m := (Nat.pow_lt_pow_iff_right (by decide)).mp
      ((Nat.ge_two_pow_of_testBit hbit).trans_lt h)
    rw [if_pos hbit, if_pos ⟨hk, hbit⟩]
  · rw [if_neg hbit, if_neg fun h => hbit h.2]

theorem ofNat_injective : Function.Injective ofNat := by
  intro a b h
  refine Nat.eq_of_testBit_eq fun k => ?_
  have hcoeff := congrArg (fun p => p.coeff k) h
  simp only [coeff_ofNat] at hcoeff
  rcases ha : a.testBit k with - | -
  all_goals
    rcases hb : b.testBit k with - | -
    all_goals simp [ha, hb] at hcoeff ⊢

theorem degree_ofNat_lt {n m : ℕ} (h : n < 2 ^ m) : (ofNat n).degree < m := by
  rw [degree_lt_iff_coeff_zero]
  intro k hk
  rw [coeff_ofNat, Nat.testBit_lt_two_pow (h.trans_le (Nat.pow_le_pow_right (by decide) hk))]
  rfl

@[simp] theorem ofNat_zero : ofNat 0 = 0 := by
  ext k
  simp [coeff_ofNat]

theorem ofNat_xor (a b : ℕ) : ofNat (a ^^^ b) = ofNat a + ofNat b := by
  ext k
  rw [coeff_add, coeff_ofNat, coeff_ofNat, coeff_ofNat, Nat.testBit_xor]
  rcases a.testBit k with - | -
  all_goals
    rcases b.testBit k with - | -
    all_goals decide

theorem ofNat_shiftLeft (a k : ℕ) : ofNat (a <<< k) = X ^ k * ofNat a := by
  ext i
  rw [coeff_ofNat, Nat.testBit_shiftLeft, coeff_X_pow_mul']
  by_cases h : k ≤ i
  · rw [if_pos h, coeff_ofNat]
    simp [h]
  · rw [if_neg h]
    simp [h]

@[simp] theorem ofNat_one : ofNat 1 = 1 := by
  rw [ofNat_eq_sum (m := 1) (by decide)]
  simp

theorem ofNat_two_pow (k : ℕ) : ofNat (2 ^ k) = X ^ k := by
  have hshift : 1 <<< k = 2 ^ k := by rw [Nat.shiftLeft_eq, one_mul]
  rw [← hshift, ofNat_shiftLeft, ofNat_one, mul_one]

theorem ofNat_two_mul (n : ℕ) : ofNat (2 * n) = X * ofNat n := by
  have hshift : n <<< 1 = 2 * n := by rw [Nat.shiftLeft_eq, pow_one, mul_comm]
  rw [← hshift, ofNat_shiftLeft, pow_one]

/-! ### Products -/

/-- The product without carries. -/
def mul (a b : ℕ) : ℕ :=
  (List.range (b.log2 + 1)).foldl (fun acc k => if b.testBit k then acc ^^^ (a <<< k) else acc) 0

theorem ofNat_foldl (a b : ℕ) (ks : List ℕ) (acc : ℕ) :
    ofNat (ks.foldl (fun acc k => if b.testBit k then acc ^^^ (a <<< k) else acc) acc)
      = ofNat acc + (ks.map fun k => if b.testBit k then X ^ k * ofNat a else 0).sum := by
  induction ks generalizing acc with
  | nil => simp
  | cons k ks ih =>
    rw [List.foldl_cons, ih, List.map_cons, List.sum_cons, ← add_assoc]
    congr 1
    by_cases hbit : b.testBit k = true
    · rw [if_pos hbit, if_pos hbit, ofNat_xor, ofNat_shiftLeft]
    · rw [if_neg hbit, if_neg hbit, add_zero]

theorem ofNat_mul (a b : ℕ) : ofNat (mul a b) = ofNat a * ofNat b := by
  have hsum : ofNat b = ((List.range (b.log2 + 1)).map fun k =>
      if b.testBit k then (X : (ZMod 2)[X]) ^ k else 0).sum :=
    ofNat_eq_sum Nat.lt_log2_self
  rw [mul, ofNat_foldl, ofNat_zero, zero_add, hsum, mul_comm, ← List.sum_map_mul_right]
  congr 2
  funext k
  by_cases hbit : b.testBit k = true
  · rw [if_pos hbit, if_pos hbit]
  · rw [if_neg hbit, if_neg hbit, zero_mul]

/-! ### Coprimality -/

/-- Euclid's algorithm on two remainders with their cofactors, one subtraction a step. -/
def euclid : ℕ → ℕ × ℕ × ℕ → ℕ × ℕ × ℕ → ℕ × ℕ × ℕ
  | 0, x, _ => x
  | fuel + 1, x, y =>
      if y.1 = 0 then x
      else if x.1.log2 < y.1.log2 ∨ x.1 = 0 then euclid fuel y x
      else
        let k := x.1.log2 - y.1.log2
        euclid fuel (x.1 ^^^ (y.1 <<< k), x.2.1 ^^^ (y.2.1 <<< k), x.2.2 ^^^ (y.2.2 <<< k)) y

/-- What Euclid's algorithm proposes for the cofactors of `a` and `b`. -/
def bezout (fuel a b : ℕ) : ℕ × ℕ := (euclid fuel (a, 1, 0) (b, 0, 1)).2

/-- `a` and `b` are coprime, by cofactors that were found. -/
def CoprimeBy (fuel a b : ℕ) : Prop :=
  mul (bezout fuel a b).1 a ^^^ mul (bezout fuel a b).2 b = 1

instance (fuel a b : ℕ) : Decidable (CoprimeBy fuel a b) :=
  inferInstanceAs (Decidable (_ = _))

theorem isCoprime_of_bezout {fuel a b : ℕ} (h : CoprimeBy fuel a b) :
    IsCoprime (ofNat a) (ofNat b) := by
  refine ⟨ofNat (bezout fuel a b).1, ofNat (bezout fuel a b).2, ?_⟩
  rw [← ofNat_mul, ← ofNat_mul, ← ofNat_xor, h, ofNat_one]

/-! ### Multiples by powers of `X` -/

section Multiples

variable {p t : (ZMod 2)[X]}

/-- Multiplication by a polynomial that is coprime to the modulus loses nothing. -/
theorem eq_zero_of_dvd_mul {q : (ZMod 2)[X]} (hq : IsCoprime p q) (ht : t.degree < p.degree)
    (h : p ∣ q * t) : t = 0 := by
  have hdvd : p ∣ t := hq.dvd_of_dvd_mul_left h
  by_contra hne
  exact absurd (degree_le_of_dvd hdvd hne) (not_le_of_gt ht)

/-- **Distinct multiples.**  Where `X` and `X ^ d + 1` for all `0 < d < n` are coprime to the
modulus, the first `n` multiples of a non-zero remainder by powers of `X` are distinct. -/
theorem X_pow_mul_modByMonic_ne {n : ℕ} (hp : p.Monic) (hX : IsCoprime p X)
    (hone : ∀ d, 0 < d → d < n → IsCoprime p (X ^ d + 1)) (ht : t.degree < p.degree) (hne : t ≠ 0)
    {j k : ℕ} (hjk : j < k) (hk : k < n) : (X ^ j * t) %ₘ p ≠ (X ^ k * t) %ₘ p := by
  intro heq
  have hdiff : p ∣ X ^ j * t - X ^ k * t := by
    rw [← modByMonic_eq_zero_iff_dvd hp, sub_modByMonic, heq, sub_self]
  have hfactor : X ^ j * t - X ^ k * t = X ^ j * ((X ^ (k - j) + 1) * t) := by
    have hpow : (X : (ZMod 2)[X]) ^ k = X ^ j * X ^ (k - j) := by
      rw [← pow_add, Nat.add_sub_cancel' hjk.le]
    rw [hpow, CharTwo.sub_eq_add]
    ring
  rw [hfactor] at hdiff
  have hprod : p ∣ (X ^ (k - j) + 1) * t := (hX.pow_right).dvd_of_dvd_mul_left hdiff
  exact hne (eq_zero_of_dvd_mul (hone (k - j) (by omega) (by omega)) ht hprod)

end Multiples

end BinaryPoly
