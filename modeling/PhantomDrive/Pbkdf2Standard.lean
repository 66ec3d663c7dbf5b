/-
PhantomDrive/Pbkdf2Standard.lean

`derive_key` computes PBKDF2 with HMAC-SHA256.  The code hashes the two key blocks once and starts
every HMAC from the hash states behind them: a restored context stands for the 64 bytes of its key
block (`represents_restore`), so the rest of an HMAC is updates of that context.

`derive_key` also keeps each `U` in one buffer that is message and output of the next call.
`deriveKeyInPlace` runs it on its buffers, with the output written word by word into the buffer the
message was read from; whatever the buffers hold before, it leaves what `deriveKey` returns.

Main result: `deriveKey_standard`.
-/
import PhantomDrive.Sha256Standard
import PhantomDrive.Lib.Pbkdf2

namespace PhantomDrive

/-- HMAC-SHA256, as the two standards define it. -/
noncomputable def hmacStandard : List UInt8 → List UInt8 → List UInt8 :=
  Rfc2104.hmac Fips180.sha256 64

/-! ### The buffers -/

section Buffers

/-- The body of the last loop of `sha256_final`: word `i` of the digest into `hash`. -/
def sha256WriteWord {n : ℕ} (word : UInt32) (hash : Vector UInt8 n) (i : ℕ) : Vector UInt8 n :=
  let hash := hash.setIfInBounds (i * 4) (wordByte word 3)
  let hash := hash.setIfInBounds (i * 4 + 1) (wordByte word 2)
  let hash := hash.setIfInBounds (i * 4 + 2) (wordByte word 1)
  hash.setIfInBounds (i * 4 + 3) (wordByte word 0)

/-- The last loop of `sha256_final`. -/
def sha256WriteHash (state : Vector UInt32 8) (hash : Vector UInt8 32) : Vector UInt8 32 :=
  (List.range 8).foldl (fun hash i => sha256WriteWord (state.toList.getD i 0) hash i) hash

/-- The context of `sha256_final` behind its padding. -/
def sha256Padded (ctx : Sha256Ctx) : Sha256Ctx :=
  let bits := ctx.totalLen * 8
  let ctx := sha256PadZeros 64 (sha256Update ctx [0x80])
  (List.range 8).foldl (fun ctx k =>
    sha256Update ctx [(bits >>> (8 * (7 - k)).toUInt64).toUInt8]) ctx

/-- `hmac_sha256(inner_state, outer_state, u, 32, NULL, 0, u)`: the digest is written into the buffer
the message was read from. -/
def hmacSha256InPlace (st : HmacStates) (u : Vector UInt8 32) : Vector UInt8 32 :=
  let ctx := sha256Update (sha256RestoreHmacState st.inner) u.toList
  let innerHash := sha256WriteHash (sha256Padded ctx).state (Vector.replicate 32 0)
  let ctx := sha256Update (sha256RestoreHmacState st.outer) innerHash.toList
  sha256WriteHash (sha256Padded ctx).state u

/-- The loop of `derive_key` on the buffers `u` and `key_out`. -/
def deriveKeyLoop (st : HmacStates) : ℕ → Vector UInt8 32 × Vector UInt8 32 →
    Vector UInt8 32 × Vector UInt8 32
  | 0, mem => mem
  | n + 1, (u, keyOut) =>
      let u := hmacSha256InPlace st u
      deriveKeyLoop st n (u, Vector.zipWith (· ^^^ ·) keyOut u)

/-- `derive_key` on its buffers, from what `u` holds before; `key_out` afterwards. -/
def deriveKeyInPlace (kdfRounds : ℕ) (password : List UInt8) (salt : Vector UInt8 8)
    (u : Vector UInt8 32) : Vector UInt8 32 :=
  let st := hmacSha256Init password
  let ctx := sha256Update (sha256Update (sha256RestoreHmacState st.inner) salt.toList) [0, 0, 0, 1]
  let innerHash := sha256WriteHash (sha256Padded ctx).state (Vector.replicate 32 0)
  let ctx := sha256Update (sha256RestoreHmacState st.outer) innerHash.toList
  let u := sha256WriteHash (sha256Padded ctx).state u
  (deriveKeyLoop st (kdfRounds - 1) (u, u)).2

theorem getElem_sha256WriteWord {n : ℕ} (word : UInt32) (hash : Vector UInt8 n) (i : ℕ) {k : ℕ}
    (hk : k < n) : (sha256WriteWord word hash i)[k]
      = if k / 4 = i then wordByte word (3 - k % 4) else hash[k] := by
  simp only [sha256WriteWord, Vector.getElem_setIfInBounds]
  by_cases h : k / 4 = i
  · rw [if_pos h]
    have hoffset : k % 4 < 4 := Nat.mod_lt _ (by decide)
    have hk : k = i * 4 + k % 4 := by omega
    generalize k % 4 = r at hoffset hk
    interval_cases r
    · rw [if_neg (by omega), if_neg (by omega), if_neg (by omega), if_pos (by omega)]
    · rw [if_neg (by omega), if_neg (by omega), if_pos (by omega)]
    · rw [if_neg (by omega), if_pos (by omega)]
    · rw [if_pos (by omega)]
  · rw [if_neg h, if_neg (by omega), if_neg (by omega), if_neg (by omega), if_neg (by omega)]

/-- Writing the digest leaves nothing of what the buffer held. -/
theorem sha256WriteHash_eq (state : Vector UInt32 8) (hash : Vector UInt8 32) :
    sha256WriteHash state hash = sha256Digest state := by
  apply Vector.ext
  intro k hk
  have hprefix : ∀ n, k / 4 < n → ((List.range n).foldl (fun hash i =>
      sha256WriteWord (state.toList.getD i 0) hash i) hash)[k]
        = wordByte (state.toList.getD (k / 4) 0) (3 - k % 4) := by
    intro n
    induction n with
    | zero => exact fun h => absurd h (Nat.not_lt_zero _)
    | succ n ih =>
      intro hlt
      rw [List.range_succ, List.foldl_append, List.foldl_cons, List.foldl_nil,
        getElem_sha256WriteWord _ _ _ hk]
      by_cases hlast : k / 4 = n
      · rw [if_pos hlast, hlast]
      · rw [if_neg hlast, ih (by omega)]
  have hword : state.toList.getD (k / 4) 0 = state[k / 4] := by
    rw [List.getD_eq_getElem _ _ (by simp; omega), Vector.getElem_toList]
  rw [sha256WriteHash, hprefix 8 (by omega), sha256Digest, Vector.getElem_ofFn, hword]

theorem sha256WriteHash_padded (ctx : Sha256Ctx) (hash : Vector UInt8 32) :
    sha256WriteHash (sha256Padded ctx).state hash = sha256Final ctx :=
  sha256WriteHash_eq _ hash

theorem hmacSha256InPlace_eq (st : HmacStates) (u : Vector UInt8 32) :
    hmacSha256InPlace st u = hmacSha256 st u.toList [] := by
  simp only [hmacSha256InPlace, sha256WriteHash_padded, hmacSha256, List.length_nil, lt_irrefl,
    if_false]

theorem deriveKeyLoop_eq (st : HmacStates) (n : ℕ) (u keyOut : Vector UInt8 32) :
    (deriveKeyLoop st n (u, keyOut)).2 = deriveKeyRounds st n u keyOut := by
  induction n generalizing u keyOut with
  | zero => rfl
  | succ n ih =>
    rw [deriveKeyLoop, deriveKeyRounds, hmacSha256InPlace_eq]
    exact ih _ _

/-- **The buffers** hold what the functions return. -/
theorem deriveKeyInPlace_eq (kdfRounds : ℕ) (password : List UInt8) (salt : Vector UInt8 8)
    (u : Vector UInt8 32) : deriveKeyInPlace kdfRounds password salt u
      = deriveKey kdfRounds password salt := by
  simp only [deriveKeyInPlace, sha256WriteHash_padded, deriveKeyLoop_eq]
  rfl

end Buffers

/-! ### HMAC -/

section Hmac

/-- A restored context stands for the key block, whatever lies in its buffer. -/
theorem represents_restore {block : List UInt8} (hlen : block.length = 64) (buf : Vector UInt8 64) :
    Represents { sha256RestoreHmacState (sha256Update sha256Init block).state with buf := buf } block
    where
  totalLen := by
    rw [hlen]
    rfl
  bufLen := by
    rw [hlen]
    rfl
  tail := by
    have hrest := Blocks.length_absorb (f := sha256Transform) (by decide : 0 < 64) block
      sha256Init.state
    rw [hlen] at hrest
    rw [List.length_eq_zero_iff.mp hrest]
    rfl
  state := ((represents_init (Vector.replicate 64 0)).update block).state

/-- A short key in the block of zeros, with a pad. -/
theorem memcpyAt_xor (key : List UInt8) (hlen : key.length ≤ 64) (pad : UInt8) :
    ((memcpyAt (Vector.replicate 64 0) 0 key key.length : Vector UInt8 64).map (· ^^^ pad)).toList
      = xorBytes (key ++ List.replicate (64 - key.length) 0) (List.replicate 64 pad) := by
  apply List.ext_getElem
  · simp [xorBytes]
    omega
  · intro i h₁ h₂
    have hi : i < 64 := by simpa using h₁
    have hget := getElem_memcpyAt (Vector.replicate 64 0) 0 key key.length hi
    simp only [Vector.toList_map, List.getElem_map, Vector.getElem_toList, hget, xorBytes,
      List.getElem_zipWith, List.getElem_replicate]
    refine congrArg (· ^^^ pad) ?_
    by_cases hkey : i < key.length
    · rw [if_pos ⟨by omega, by omega⟩, List.getElem_append_left hkey, Nat.sub_zero,
        List.getD_eq_getElem _ _ hkey]
    · rw [if_neg (by omega), List.getElem_append_right (by omega), List.getElem_replicate,
        Vector.getElem_replicate]

/-- The key block of the code, with a pad: a key longer than a block is hashed. -/
theorem keyBlock_eq (key : List UInt8) (pad : UInt8) :
    ((if 64 < key.length then memcpyAt (Vector.replicate 64 0) 0 (sha256 key).toList 32
        else memcpyAt (Vector.replicate 64 0) 0 key key.length : Vector UInt8 64).map
          (· ^^^ pad)).toList
      = xorBytes (Rfc2104.keyBlock Fips180.sha256 64 key) (List.replicate 64 pad) := by
  have hhash : (sha256 key).toList.length = 32 := Vector.length_toList
  rw [Rfc2104.keyBlock]
  by_cases hlong : 64 < key.length
  · have hblock := memcpyAt_xor (sha256 key).toList (by omega) pad
    rw [hhash] at hblock
    rw [if_pos hlong, if_pos hlong, hblock, ← sha256_standard, hhash]
  · rw [if_neg hlong, if_neg hlong, memcpyAt_xor key (by omega)]

/-- The two hash states of the code are those behind the two key blocks of the standard. -/
theorem hmacSha256Init_eq (key : List UInt8) :
    hmacSha256Init key =
      { inner := (sha256Update sha256Init (xorBytes (Rfc2104.keyBlock Fips180.sha256 64 key)
          (List.replicate 64 0x36))).state
        outer := (sha256Update sha256Init (xorBytes (Rfc2104.keyBlock Fips180.sha256 64 key)
          (List.replicate 64 0x5c))).state } := by
  have htwice : ∀ b : UInt8, (b ^^^ 0x36) ^^^ (0x36 ^^^ 0x5c) = b ^^^ 0x5c := by
    intro b
    rw [UInt8.xor_assoc, ← UInt8.xor_assoc 0x36]
    simp
  have hinner := keyBlock_eq key 0x36
  have houter := keyBlock_eq key 0x5c
  simp only [hmacSha256Init, Vector.map_map, Function.comp_def, htwice, hinner, houter]

theorem length_keyBlock (key : List UInt8) (pad : UInt8) :
    (xorBytes (Rfc2104.keyBlock Fips180.sha256 64 key) (List.replicate 64 pad)).length = 64 := by
  rw [← keyBlock_eq, Vector.length_toList]

/-- **HMAC.**  The two hash states and the rest of the message give the textbook's code. -/
theorem hmacSha256_standard (key data suffix : List UInt8) :
    (hmacSha256 (hmacSha256Init key) data suffix).toList = hmacStandard key (data ++ suffix) := by
  have hinner := (represents_restore (length_keyBlock key 0x36) (Vector.replicate 64 0)).update data
  have houter := represents_restore (length_keyBlock key 0x5c) (Vector.replicate 64 0)
  have hsuffix : ∀ {ctx : Sha256Ctx} {m : List UInt8}, Represents ctx m →
      Represents (if 0 < suffix.length then sha256Update ctx suffix else ctx) (m ++ suffix) := by
    intro ctx m h
    split
    · exact h.update suffix
    · rename_i hnone
      rw [List.length_eq_zero_iff.mp (Nat.eq_zero_of_not_pos hnone), List.append_nil]
      exact h
  have hhash := (hsuffix hinner).final
  rw [List.append_assoc] at hhash
  rw [hmacSha256Init_eq, hmacStandard, Rfc2104.hmac, ← hhash]
  exact (houter.update _).final

end Hmac

/-! ### PBKDF2 -/

section Pbkdf2

/-- The rounds: each one takes the next `U` into the key. -/
theorem deriveKeyRounds_standard (password S : List UInt8) (n : ℕ) :
    ∀ (j : ℕ) (u key : Vector UInt8 32), u.toList = Rfc8018.u hmacStandard password S 1 j →
      (deriveKeyRounds (hmacSha256Init password) n u key).toList
        = ((List.range' (j + 1) n).map fun j => Rfc8018.u hmacStandard password S 1 j).foldl
            xorBytes key.toList := by
  induction n with
  | zero => exact fun _ _ _ _ => rfl
  | succ n ih =>
    intro j u key hu
    have hnext : (hmacSha256 (hmacSha256Init password) u.toList []).toList
        = Rfc8018.u hmacStandard password S 1 (j + 1) := by
      rw [hmacSha256_standard, List.append_nil, hu, Rfc8018.u]
    rw [deriveKeyRounds, ih (j + 1) _ _ hnext, List.range'_succ, List.map_cons, List.foldl_cons,
      Vector.toList_zipWith, hnext]
    rfl

/-- **The key derivation.**  For every password, every salt and every number of rounds, `derive_key`
leaves the 32 bytes of PBKDF2-HMAC-SHA256 in `key_out`, whatever its buffers held before. -/
theorem deriveKey_standard (kdfRounds : ℕ) (password : List UInt8) (salt : Vector UInt8 8)
    (u : Vector UInt8 32) :
    (deriveKeyInPlace kdfRounds password salt u).toList
        = Rfc8018.pbkdf2 (Rfc2104.hmac Fips180.sha256 64) 32 password salt.toList kdfRounds 32
      ∧ deriveKeyInPlace kdfRounds password salt u = deriveKey kdfRounds password salt := by
  refine ⟨?_, deriveKeyInPlace_eq kdfRounds password salt u⟩
  have hfirst : (hmacSha256 (hmacSha256Init password) salt.toList [0, 0, 0, 1]).toList
      = Rfc8018.u hmacStandard password salt.toList 1 0 := hmacSha256_standard ..
  have hf : Rfc8018.f hmacStandard password salt.toList kdfRounds 1
      = (deriveKey kdfRounds password salt).toList := by
    have hindex : ∀ j, 0 + 1 + j = j + 1 := by omega
    rw [deriveKey]
    generalize hmacSha256 (hmacSha256Init password) salt.toList [0, 0, 0, 1] = u at hfirst ⊢
    have hkey := deriveKeyRounds_standard password salt.toList (kdfRounds - 1) 0 u u hfirst
    simp only [List.range'_eq_map_range, List.map_map, Function.comp_def, hindex, hfirst] at hkey
    exact hkey.symm
  have hblocks : (32 + 32 - 1) / 32 = 1 := by decide
  rw [deriveKeyInPlace_eq, Rfc8018.pbkdf2, hblocks, List.range_one, List.flatMap_singleton]
  show _ = List.take 32 (Rfc8018.f hmacStandard password salt.toList kdfRounds 1)
  rw [hf, List.take_of_length_le (by rw [Vector.length_toList])]

end Pbkdf2

end PhantomDrive
