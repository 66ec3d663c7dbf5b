/-
PhantomDrive/Lib/Fips180.lean

SHA-256 as FIPS 180-4 defines it, for messages of whole bytes: the constants as bits of roots of
primes, the message schedule by its recurrence, the compression of a block, padding and the digest.
A table of constants is checked against the roots by integer arithmetic (`fracBits_eq`).
-/
import PhantomDrive.Lib.Blocks

namespace PhantomDrive.Fips180

/-! ### Constants -/

/-- The first 32 bits of the fractional part. -/
noncomputable def fracBits (x : ℝ) : UInt32 := UInt32.ofNat ⌊2 ^ 32 * Int.fract x⌋₊

/-- `K_t`: from the cube roots of the first 64 primes. -/
noncomputable def K (t : ℕ) : UInt32 := fracBits ((Nat.nth Nat.Prime t : ℝ) ^ (1 / 3 : ℝ))

/-- The number of words of a hash value. -/
abbrev hashWords : ℕ := 8

/-- `H(0)`: from the square roots of the first eight primes. -/
noncomputable def H0 : Vector UInt32 hashWords :=
  Vector.ofFn fun i => fracBits (Real.sqrt (Nat.nth Nat.Prime i))

/-- `c` is the first 32 bits of the fractional part of the `d`-th root of `p`, as integers say it. -/
def IsRootBits (d p : ℕ) (c : UInt32) : Prop :=
  ∃ w < p, (w * 2 ^ 32 + c.toNat) ^ d ≤ p * (2 ^ 32) ^ d
    ∧ p * (2 ^ 32) ^ d < (w * 2 ^ 32 + c.toNat + 1) ^ d

instance (d p : ℕ) (c : UInt32) : Decidable (IsRootBits d p c) :=
  inferInstanceAs (Decidable (∃ w < p, _ ∧ _))

theorem fracBits_eq {d p : ℕ} {c : UInt32} {x : ℝ} (hd : d ≠ 0) (hx : 0 ≤ x) (hroot : x ^ d = p)
    (h : IsRootBits d p c) : fracBits x = c := by
  obtain ⟨w, -, hle, hlt⟩ := h
  have hc : (c.toNat : ℝ) + 1 ≤ 2 ^ 32 := by exact_mod_cast c.toNat_lt
  have hc0 : (0 : ℝ) ≤ c.toNat := Nat.cast_nonneg _
  have hpow : (2 ^ 32 * x) ^ d = p * (2 ^ 32) ^ d := by rw [mul_pow, hroot, mul_comm]
  have hlow : (w : ℝ) * 2 ^ 32 + c.toNat ≤ 2 ^ 32 * x := by
    refine le_of_pow_le_pow_left₀ hd (by positivity) ?_
    rw [hpow]
    exact_mod_cast hle
  have hhigh : 2 ^ 32 * x < (w : ℝ) * 2 ^ 32 + c.toNat + 1 := by
    refine lt_of_pow_lt_pow_left₀ d (by positivity) ?_
    rw [hpow]
    exact_mod_cast hlt
  have hfloor : ⌊x⌋ = (w : ℤ) := by
    rw [Int.floor_eq_iff]
    push_cast
    constructor
    all_goals linarith
  have hbits : ⌊2 ^ 32 * Int.fract x⌋₊ = c.toNat := by
    rw [Int.fract, hfloor, Nat.floor_eq_iff (by push_cast; linarith)]
    push_cast
    constructor
    all_goals linarith
  rw [fracBits, hbits, UInt32.ofNat_toNat]

/-- The values that satisfy a predicate are enumerated in order by filtering a range. -/
theorem nth_eq_getD {p : ℕ → Prop} [DecidablePred p] (n : ℕ) :
    ∀ t < ((List.range n).filter fun i => p i).length,
      Nat.nth p t = ((List.range n).filter fun i => p i).getD t 0 := by
  induction n with
  | zero => exact fun t ht => absurd ht (Nat.not_lt_zero t)
  | succ n ih =>
    intro t ht
    have hlen : ((List.range n).filter fun i => p i).length = Nat.count p n := by
      rw [Nat.count, List.countP_eq_length_filter]
    rw [List.range_succ, List.filter_append] at ht ⊢
    rw [List.length_append] at ht
    by_cases hold : t < ((List.range n).filter fun i => p i).length
    · rw [ih t hold, List.getD_append _ _ _ _ hold]
    · by_cases hn : p n
      · have hlast : [n].filter (fun i => p i) = [n] := by simp [hn]
        rw [hlast, List.length_singleton] at ht
        have htn : t = Nat.count p n := by omega
        rw [hlast, htn, Nat.nth_count hn, List.getD_append_right _ _ _ _ (by omega), hlen,
          Nat.sub_self]
        rfl
      · have hlast : [n].filter (fun i => p i) = [] := by simp [hn]
        rw [hlast, List.length_nil] at ht
        omega

/-- The first 64 primes. -/
def rootPrimes : List ℕ := [2, 3, 5, 7, 11, 13, 17, 19, 23, 29, 31, 37, 41, 43, 47, 53, 59, 61, 67,
  71, 73, 79, 83, 89, 97, 101, 103, 107, 109, 113, 127, 131, 137, 139, 149, 151, 157, 163, 167, 173,
  179, 181, 191, 193, 197, 199, 211, 223, 227, 229, 233, 239, 241, 251, 257, 263, 269, 271, 277, 281,
  283, 293, 307, 311]

/-- Trial division below `18 ^ 2`. -/
theorem prime_iff_of_lt {i : ℕ} (hi : i < 312) :
    i.Prime ↔ 2 ≤ i ∧ ∀ m < 18, 2 ≤ m → m < i → ¬ m ∣ i := by
  constructor
  · intro h
    exact ⟨h.two_le, fun m _ hm hmi => (Nat.prime_def_lt'.mp h).2 m hm hmi⟩
  · rintro ⟨h2, h⟩
    refine Nat.prime_def_le_sqrt.mpr ⟨h2, fun m hm hsqrt => ?_⟩
    have hmul : m * m ≤ i := Nat.le_sqrt.mp hsqrt
    exact h m (by nlinarith) hm (by nlinarith)

theorem rootPrimes_eq : (List.range 312).filter (fun i => i.Prime) = rootPrimes := by
  rw [List.filter_congr (q := fun i => decide (2 ≤ i ∧ ∀ m < 18, 2 ≤ m → m < i → ¬ m ∣ i))]
  · decide +kernel
  · intro i hi
    simp only [decide_eq_decide]
    exact prime_iff_of_lt (List.mem_range.mp hi)

theorem nth_prime {t : ℕ} (ht : t < 64) : Nat.nth Nat.Prime t = rootPrimes.getD t 0 := by
  rw [← rootPrimes_eq]
  exact nth_eq_getD 312 t (by rw [rootPrimes_eq]; exact ht)

theorem K_eq {t : ℕ} {c : UInt32} (ht : t < 64) (h : IsRootBits 3 (rootPrimes.getD t 0) c) :
    K t = c := by
  refine fracBits_eq (by decide) (by positivity) ?_ h
  rw [nth_prime ht, ← Real.rpow_natCast, ← Real.rpow_mul (by positivity)]
  norm_num

theorem H0_eq {i : Fin 8} {c : UInt32} (h : IsRootBits 2 (rootPrimes.getD i 0) c) : H0[i] = c := by
  have hi := i.isLt
  rw [H0, Fin.getElem_fin, Vector.getElem_ofFn]
  refine fracBits_eq (by decide) (Real.sqrt_nonneg _) ?_ h
  have hprime : i.val < 64 := hi.trans (by decide)
  rw [nth_prime hprime, Real.sq_sqrt (by positivity)]

/-! ### Functions -/

/-- `ROTR`. -/
def rotr (n : ℕ) (x : UInt32) : UInt32 := ⟨x.toBitVec.rotateRight n⟩

def ch (x y z : UInt32) : UInt32 := (x &&& y) ^^^ (~~~x &&& z)
def maj (x y z : UInt32) : UInt32 := (x &&& y) ^^^ (x &&& z) ^^^ (y &&& z)
def bigSigma0 (x : UInt32) : UInt32 := rotr 2 x ^^^ rotr 13 x ^^^ rotr 22 x
def bigSigma1 (x : UInt32) : UInt32 := rotr 6 x ^^^ rotr 11 x ^^^ rotr 25 x
def smallSigma0 (x : UInt32) : UInt32 := rotr 7 x ^^^ rotr 18 x ^^^ (x >>> 3)
def smallSigma1 (x : UInt32) : UInt32 := rotr 17 x ^^^ rotr 19 x ^^^ (x >>> 10)

/-- Word `t` of a block, its most significant byte first. -/
def messageWord (M : List UInt8) (t : ℕ) : UInt32 :=
  UInt32.ofNat ((M.getD (4 * t) 0).toNat * 2 ^ 24 + (M.getD (4 * t + 1) 0).toNat * 2 ^ 16
    + (M.getD (4 * t + 2) 0).toNat * 2 ^ 8 + (M.getD (4 * t + 3) 0).toNat)

/-- The message schedule `W_t`. -/
def W (M : List UInt8) (t : ℕ) : UInt32 :=
  if t < 16 then messageWord M t
  else smallSigma1 (W M (t - 2)) + W M (t - 7) + smallSigma0 (W M (t - 15)) + W M (t - 16)

/-- The working variables. -/
structure Vars where
  a : UInt32
  b : UInt32
  c : UInt32
  d : UInt32
  e : UInt32
  f : UInt32
  g : UInt32
  h : UInt32

/-- One round with the constant `k` and the schedule word `w`. -/
def round (v : Vars) (k w : UInt32) : Vars :=
  let t1 := v.h + bigSigma1 v.e + ch v.e v.f v.g + k + w
  let t2 := bigSigma0 v.a + maj v.a v.b v.c
  { h := v.g, g := v.f, f := v.e, e := v.d + t1, d := v.c, c := v.b, b := v.a, a := t1 + t2 }

/-- The working variables before the first round. -/
def Vars.ofHash (H : Vector UInt32 hashWords) : Vars where
  a := H[0]
  b := H[1]
  c := H[2]
  d := H[3]
  e := H[4]
  f := H[5]
  g := H[6]
  h := H[7]

/-- The hash value after a block. -/
noncomputable def compress (H : Vector UInt32 hashWords) (M : List UInt8) : Vector UInt32 hashWords :=
  let v := (List.range 64).foldl (fun v t => round v (K t) (W M t)) (Vars.ofHash H)
  #v[v.a + H[0], v.b + H[1], v.c + H[2], v.d + H[3], v.e + H[4], v.f + H[5], v.g + H[6], v.h + H[7]]

/-! ### Padding and digest -/

/-- The zero bytes behind the byte that holds the closing bit. -/
def padZeros (len : ℕ) : ℕ := (119 - len % 64) % 64

/-- The length in bits as eight bytes, most significant first. -/
def lengthBytes (bits : ℕ) : List UInt8 :=
  (List.range 8).map fun k => UInt8.ofNat (bits / 2 ^ (8 * (7 - k)))

/-- The padded message. -/
def pad (m : List UInt8) : List UInt8 :=
  m ++ [0x80] ++ List.replicate (padZeros m.length) 0 ++ lengthBytes (8 * m.length)

/-- The zero bytes are as few as can be: behind the closing byte the message is 8 bytes short of a
full block for the first time. -/
theorem padZeros_least (len : ℕ) :
    (len + 1 + padZeros len) % 64 = 56
      ∧ ∀ z, (len + 1 + z) % 64 = 56 → padZeros len ≤ z := by
  unfold padZeros
  constructor
  · omega
  · omega

/-- The hash value as bytes, each word most significant byte first. -/
def digestBytes (H : Vector UInt32 hashWords) : List UInt8 :=
  H.toList.flatMap fun w => (List.range 4).map fun k => UInt8.ofNat (w.toNat / 2 ^ (8 * (3 - k)))

/-- SHA-256: the blocks of the padded message one after the other. -/
noncomputable def sha256 (m : List UInt8) : List UInt8 :=
  digestBytes ((List.range ((pad m).length / 64)).foldl
    (fun H i => compress H (Blocks.block 64 (pad m) i)) H0)

/-- SHA-256 from a hash value and the rest that no block has been made of. -/
theorem sha256_eq_absorb (m : List UInt8) :
    sha256 m = digestBytes (Blocks.absorb 64 compress H0 (pad m)).1 := by
  rw [sha256, Blocks.absorb_eq_foldl (by decide)]

end PhantomDrive.Fips180
