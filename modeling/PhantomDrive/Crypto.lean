/-
PhantomDrive/Crypto.lean

`crypto.c`: streaming SHA-256 and the PBKDF2-HMAC-SHA256 key derivation that
turns the typed password into the disk keys.  Everything is translated as the
code computes it: the context with its partial block, the padding fed through
`sha256_update` byte by byte, the precomputed inner and outer hash states and the
round loop that xors each `u` into the key.

`phantomdrive_aes_xts.c` and `phantomdrive_aes_ctr.c`: the two builds of the disk
cipher over the ECDC engine.  The engine is hardware behind a driver that is not in
the repository, so it is a parameter, `Ecdc`: one keyed permutation of 16-byte blocks
for the self-DMA mode, one function on register words for the single-register mode,
one keystream for the counter mode.  What the firmware does around it (tweaks,
batches, counters, byte orders) is translated.

Main results: whatever the batches, a buffer is processed sector by sector
(`xtsBuf_eq_mapIdx`, `ctrBuf_eq_mapIdx`), and decrypting one sector at its own
LBA undoes the encryption of a whole chunk (`decryptSector_encryptSector`).
-/
import PhantomDrive.Basic

namespace PhantomDrive

/-! ### SHA-256 -/

/-- The round constants `K`. -/
def sha256K : Vector UInt32 64 := #v[
  0x428a2f98, 0x71374491, 0xb5c0fbcf, 0xe9b5dba5,
  0x3956c25b, 0x59f111f1, 0x923f82a4, 0xab1c5ed5,
  0xd807aa98, 0x12835b01, 0x243185be, 0x550c7dc3,
  0x72be5d74, 0x80deb1fe, 0x9bdc06a7, 0xc19bf174,
  0xe49b69c1, 0xefbe4786, 0x0fc19dc6, 0x240ca1cc,
  0x2de92c6f, 0x4a7484aa, 0x5cb0a9dc, 0x76f988da,
  0x983e5152, 0xa831c66d, 0xb00327c8, 0xbf597fc7,
  0xc6e00bf3, 0xd5a79147, 0x06ca6351, 0x14292967,
  0x27b70a85, 0x2e1b2138, 0x4d2c6dfc, 0x53380d13,
  0x650a7354, 0x766a0abb, 0x81c2c92e, 0x92722c85,
  0xa2bfe8a1, 0xa81a664b, 0xc24b8b70, 0xc76c51a3,
  0xd192e819, 0xd6990624, 0xf40e3585, 0x106aa070,
  0x19a4c116, 0x1e376c08, 0x2748774c, 0x34b0bcb5,
  0x391c0cb3, 0x4ed8aa4a, 0x5b9cca4f, 0x682e6ff3,
  0x748f82ee, 0x78a5636f, 0x84c87814, 0x8cc70208,
  0x90befffa, 0xa4506ceb, 0xbef9a3f7, 0xc67178f2]

/-- `ROTR(x, n)`. -/
def rotr (x n : UInt32) : UInt32 := (x >>> n) ||| (x <<< (32 - n))

def ch (x y z : UInt32) : UInt32 := (x &&& y) ^^^ (~~~x &&& z)
def maj (x y z : UInt32) : UInt32 := (x &&& y) ^^^ (x &&& z) ^^^ (y &&& z)
def ep0 (x : UInt32) : UInt32 := rotr x 2 ^^^ rotr x 13 ^^^ rotr x 22
def ep1 (x : UInt32) : UInt32 := rotr x 6 ^^^ rotr x 11 ^^^ rotr x 25
def sig0 (x : UInt32) : UInt32 := rotr x 7 ^^^ rotr x 18 ^^^ (x >>> 3)
def sig1 (x : UInt32) : UInt32 := rotr x 17 ^^^ rotr x 19 ^^^ (x >>> 10)

/-- `sha256_ctx_t`.  `buf[0 .. bufLen)` holds the bytes of the unfinished block. -/
structure Sha256Ctx where
  state : Vector UInt32 8
  buf : Vector UInt8 64
  bufLen : ℕ
  totalLen : UInt64

/-- `memcpy(dst + at, src, len)` into an array of fixed size. -/
def memcpyAt {n : ℕ} (dst : Vector UInt8 n) (at_ : ℕ) (src : List UInt8) (len : ℕ) :
    Vector UInt8 n :=
  Vector.ofFn fun i =>
    if at_ ≤ i.val ∧ i.val < at_ + len then src.getD (i - at_) 0 else dst[i]

/-- The first loops of `sha256_transform`: the message schedule `W[0..63]`. -/
def sha256Schedule (block : List UInt8) : Vector UInt32 64 :=
  let w0 : Vector UInt32 64 := Vector.ofFn fun i =>
    if i.val < 16 then
      wordOfBytes (block.getD (i * 4 + 3) 0) (block.getD (i * 4 + 2) 0)
        (block.getD (i * 4 + 1) 0) (block.getD (i * 4) 0)
    else 0
  (List.range 48).foldl (fun w k =>
    w.setIfInBounds (k + 16)
      (sig1 (w.toList.getD (k + 14) 0) + w.toList.getD (k + 9) 0 +
        sig0 (w.toList.getD (k + 1) 0) + w.toList.getD k 0)) w0

/-- One round of `sha256_transform` on the working variables `a .. h`. -/
def sha256Round (v : Vector UInt32 8) (k w : UInt32) : Vector UInt32 8 :=
  let t1 := v[7] + ep1 v[4] + ch v[4] v[5] v[6] + k + w
  let t2 := ep0 v[0] + maj v[0] v[1] v[2]
  #v[t1 + t2, v[0], v[1], v[2], v[3] + t1, v[4], v[5], v[6]]

/-- `sha256_transform`: absorb one 64-byte block into the state. -/
def sha256Transform (state : Vector UInt32 8) (block : List UInt8) : Vector UInt32 8 :=
  let w := sha256Schedule block
  let v := (List.range 64).foldl (fun v i =>
    sha256Round v (sha256K.toList.getD i 0) (w.toList.getD i 0)) state
  Vector.ofFn fun i => state[i] + v[i]

/-- `sha256_init`. -/
def sha256Init : Sha256Ctx where
  state := #v[0x6a09e667, 0xbb67ae85, 0x3c6ef372, 0xa54ff53a,
    0x510e527f, 0x9b05688c, 0x1f83d9ab, 0x5be0cd19]
  buf := Vector.replicate 64 0
  bufLen := 0
  totalLen := 0

/-- The loop `for (i = 0; i + 64 <= len; i += 64)` of `sha256_update`: absorb the
full blocks and return the state with the bytes left over. -/
def sha256FullBlocks (state : Vector UInt32 8) (data : List UInt8) :
    Vector UInt32 8 × List UInt8 :=
  if 64 ≤ data.length then
    sha256FullBlocks (sha256Transform state (data.take 64)) (data.drop 64)
  else (state, data)
termination_by data.length
decreasing_by simp only [List.length_drop]; omega

/-- `sha256_update`. -/
def sha256Update (ctx : Sha256Ctx) (data : List UInt8) : Sha256Ctx :=
  let ctx := { ctx with totalLen := ctx.totalLen + data.length.toUInt64 }
  -- fill the partial block first
  let (ctx, data) :=
    if 0 < ctx.bufLen then
      let space := 64 - ctx.bufLen
      let copy := if data.length < space then data.length else space
      let buf := memcpyAt ctx.buf ctx.bufLen data copy
      let bufLen := ctx.bufLen + copy
      if bufLen = 64 then
        ({ ctx with state := sha256Transform ctx.state buf.toList, buf := buf, bufLen := 0 },
          data.drop copy)
      else ({ ctx with buf := buf, bufLen := bufLen }, data.drop copy)
    else (ctx, data)
  let (state, rest) := sha256FullBlocks ctx.state data
  -- store the remainder
  if 0 < rest.length then
    { ctx with state := state, buf := memcpyAt ctx.buf 0 rest rest.length, bufLen := rest.length }
  else { ctx with state := state }

/-- The loop `while (ctx->buf_len != 56) sha256_update(ctx, &zero, 1)` of
`sha256_final`; at most 63 zeros are needed. -/
def sha256PadZeros : ℕ → Sha256Ctx → Sha256Ctx
  | 0, ctx => ctx
  | fuel + 1, ctx =>
      if ctx.bufLen = 56 then ctx else sha256PadZeros fuel (sha256Update ctx [0x00])

/-- The digest bytes of a hash state, each word most significant byte first. -/
def sha256Digest (state : Vector UInt32 8) : Vector UInt8 32 :=
  Vector.ofFn fun i => wordByte state[i.val / 4] (3 - i % 4)

/-- `sha256_final`. -/
def sha256Final (ctx : Sha256Ctx) : Vector UInt8 32 :=
  let bits := ctx.totalLen * 8
  let ctx := sha256Update ctx [0x80]
  let ctx := sha256PadZeros 64 ctx
  let ctx := (List.range 8).foldl (fun ctx k =>
    sha256Update ctx [(bits >>> (8 * (7 - k)).toUInt64).toUInt8]) ctx
  sha256Digest ctx.state

/-- `sha256`. -/
def sha256 (data : List UInt8) : Vector UInt8 32 :=
  sha256Final (sha256Update sha256Init data)

/-! ### PBKDF2-HMAC-SHA256 -/

/-- The precomputed hash states of HMAC: `inner_state` and `outer_state`. -/
structure HmacStates where
  inner : Vector UInt32 8
  outer : Vector UInt32 8

/-- `hmac_sha256_init`. -/
def hmacSha256Init (key : List UInt8) : HmacStates :=
  let zeros : Vector UInt8 64 := Vector.replicate 64 0
  let keyBlock :=
    if 64 < key.length then memcpyAt zeros 0 (sha256 key).toList 32
    else memcpyAt zeros 0 key key.length
  let innerBlock := keyBlock.map (· ^^^ 0x36)
  let outerBlock := innerBlock.map (· ^^^ (0x36 ^^^ 0x5c))
  { inner := (sha256Update sha256Init innerBlock.toList).state
    outer := (sha256Update sha256Init outerBlock.toList).state }

/-- `sha256_restore_hmac_state`: continue from a state that has absorbed one block. -/
def sha256RestoreHmacState (state : Vector UInt32 8) : Sha256Ctx where
  state := state
  buf := Vector.replicate 64 0
  bufLen := 0
  totalLen := 64

/-- `hmac_sha256`. -/
def hmacSha256 (st : HmacStates) (data suffix : List UInt8) : Vector UInt8 32 :=
  let ctx := sha256Update (sha256RestoreHmacState st.inner) data
  let ctx := if 0 < suffix.length then sha256Update ctx suffix else ctx
  let innerHash := sha256Final ctx
  sha256Final (sha256Update (sha256RestoreHmacState st.outer) innerHash.toList)

/-- The loop `for (round = 1; round < KDF_ROUNDS; round++)` of `derive_key`. -/
def deriveKeyRounds (st : HmacStates) : ℕ → Vector UInt8 32 → Vector UInt8 32 → Vector UInt8 32
  | 0, _, key => key
  | n + 1, u, key =>
      let u := hmacSha256 st u.toList []
      deriveKeyRounds st n u (Vector.zipWith (· ^^^ ·) key u)

/-- `derive_key`. -/
def deriveKey (kdfRounds : ℕ) (password : List UInt8) (salt : Vector UInt8 8) :
    Vector UInt8 32 :=
  let st := hmacSha256Init password
  let u := hmacSha256 st salt.toList [0, 0, 0, 1]
  deriveKeyRounds st (kdfRounds - 1) u u

/-! ### The engine -/

/-- `xts_block_t`: four 32-bit words; word `i` lies at bytes `4 * i ..` in memory,
least significant byte first. -/
structure XtsBlock where
  w0 : UInt32
  w1 : UInt32
  w2 : UInt32
  w3 : UInt32
deriving DecidableEq, Repr

/-- Word `i` of a block. -/
def XtsBlock.word (t : XtsBlock) (i : ℕ) : UInt32 :=
  if i = 0 then t.w0 else if i = 1 then t.w1 else if i = 2 then t.w2 else t.w3

/-- The block as the 16 bytes it occupies in memory. -/
def XtsBlock.bytes (t : XtsBlock) : Block := fun i =>
  wordByte (t.word (i / 4)) (i % 4)

/-- The block that occupies 16 given bytes. -/
def XtsBlock.ofBytes (b : Block) : XtsBlock where
  w0 := wordOfBytes (b 0) (b 1) (b 2) (b 3)
  w1 := wordOfBytes (b 4) (b 5) (b 6) (b 7)
  w2 := wordOfBytes (b 8) (b 9) (b 10) (b 11)
  w3 := wordOfBytes (b 12) (b 13) (b 14) (b 15)

/-- A 256-bit key as stored in `aes_key`, `xts_data_key` or `xts_tweak_key`. -/
abbrev AesKey := Vector UInt8 32

/-- The ECDC engine, as the firmware uses it under a key. -/
structure Ecdc where
  /-- `ECDC_SelfDMA` in ECB mode on one block; decryption is the inverse. -/
  selfDma : AesKey → Equiv.Perm Block
  /-- `ECDC_SingleRegister` in ECB encryption mode on register words. -/
  singleRegister : AesKey → XtsBlock → XtsBlock
  /-- The keystream block `ECDC_SelfDMA` xors in counter mode for a counter. -/
  keystream : AesKey → XtsBlock → Block

/-- `AES_MODE` of the build. -/
inductive AesMode
  | xts
  | ctr
deriving DecidableEq, Repr

/-- The keys of the build in use: `aes_key` (CTR) or `xts_data_key` and
`xts_tweak_key` (XTS). -/
structure AesKeys where
  dataKey : AesKey
  tweakKey : AesKey

/-! ### Blocks of a sector -/

/-- Block `j` of a sector. -/
def sectorBlock (s : Sector) (j : Fin 32) : Block := fun i =>
  s ⟨16 * j + i, by omega⟩

/-- The sector made of 32 blocks. -/
def sectorOfBlocks (f : Fin 32 → Block) : Sector := fun k =>
  f ⟨k / 16, by omega⟩ ⟨k % 16, by omega⟩

@[simp] theorem sectorBlock_sectorOfBlocks (f : Fin 32 → Block) (j : Fin 32) :
    sectorBlock (sectorOfBlocks f) j = f j := by
  funext i
  have hdiv : (16 * j.val + i.val) / 16 = j.val := by omega
  have hmod : (16 * j.val + i.val) % 16 = i.val := by omega
  simp only [sectorBlock, sectorOfBlocks, hdiv, hmod]

@[simp] theorem sectorOfBlocks_sectorBlock (s : Sector) :
    sectorOfBlocks (sectorBlock s) = s := by
  funext k
  have hk : 16 * (k.val / 16) + k.val % 16 = k.val := by omega
  simp only [sectorBlock, sectorOfBlocks, hk]

/-- `block ^= mask`, byte by byte. -/
def xorBlock (b mask : Block) : Block := fun i => b i ^^^ mask i

@[simp] theorem xorBlock_xorBlock (b mask : Block) : xorBlock (xorBlock b mask) mask = b := by
  funext i
  simp [xorBlock]

/-! ### XTS -/

/-- `xts_normalize_tweak`: reverse the 16 bytes of a block. -/
def xtsNormalizeTweak (t : XtsBlock) : XtsBlock :=
  XtsBlock.ofBytes fun i => t.bytes (Fin.rev i)

/-- `xts_mul_alpha`. -/
def xtsMulAlpha (t : XtsBlock) : XtsBlock :=
  let carry := t.w3 >>> 31
  let w3 := (t.w3 <<< 1) ||| (t.w2 >>> 31)
  let w2 := (t.w2 <<< 1) ||| (t.w1 >>> 31)
  let w1 := (t.w1 <<< 1) ||| (t.w0 >>> 31)
  let w0 := t.w0 <<< 1
  { w0 := if carry ≠ 0 then w0 ^^^ 0x87 else w0, w1 := w1, w2 := w2, w3 := w3 }

/-- `xts_xor_sector`: xor block `j` with the initial tweak times `alpha ^ j`.
The 32-bit xors on little-endian memory are xors of the tweak's bytes. -/
def xtsXorSector (sector : Sector) (initialTweak : XtsBlock) : Sector :=
  sectorOfBlocks fun j => xorBlock (sectorBlock sector j) (xtsMulAlpha^[j] initialTweak).bytes

/-- One iteration of `xts_make_tweaks`: the tweak of one sector. -/
def xtsTweak (ecdc : Ecdc) (keys : AesKeys) (lba : UInt32) : XtsBlock :=
  xtsNormalizeTweak
    (ecdc.singleRegister keys.tweakKey { w0 := 0, w1 := lba, w2 := 0, w3 := 0 })

/-- `xts_make_tweaks`: `xts_tweaks[i]` for the sectors `sd_lba + i` of a batch. -/
def xtsMakeTweaks (ecdc : Ecdc) (keys : AesKeys) (sdLba : UInt32) (numSectors : ℕ) :
    List XtsBlock :=
  (List.range numSectors).map fun i => xtsTweak ecdc keys (sdLba + UInt32.ofNat i)

/-- `ECDC_SelfDMA` over a buffer of whole sectors: every block through `f`. -/
def selfDmaSectors (f : Block → Block) (buf : List Sector) : List Sector :=
  buf.map fun s => sectorOfBlocks fun j => f (sectorBlock s j)

/-- One pass of the loop of `phantomdrive_xts_buf` over a batch of sectors. -/
def xtsBatch (ecdc : Ecdc) (keys : AesKeys) (f : Block → Block) (batch : List Sector)
    (sdLba : UInt32) : List Sector :=
  let tweaks := xtsMakeTweaks ecdc keys sdLba batch.length
  let masked := List.zipWith xtsXorSector batch tweaks
  List.zipWith xtsXorSector (selfDmaSectors f masked) tweaks

/-- `phantomdrive_xts_buf`: batches of at most `XTS_MAX_BATCH_SECTORS` = 60 sectors. -/
def xtsBuf (ecdc : Ecdc) (keys : AesKeys) (f : Block → Block) (buf : List Sector)
    (sdLba : UInt32) : List Sector :=
  if buf = [] then []
  else
    let batch := buf.take 60
    xtsBatch ecdc keys f batch sdLba ++
      xtsBuf ecdc keys f (buf.drop 60) (sdLba + UInt32.ofNat batch.length)
termination_by buf.length
decreasing_by
  have hpos : 0 < buf.length := List.length_pos_iff.mpr ‹_›
  simp only [List.length_drop]
  omega

/-! ### CTR -/

/-- The body of `phantomdrive_ctr_buf` for one sector: the engine starts from the
counter `(0, lba, 0, 0)` and counts its low word up once for each block. -/
def ctrSector (ecdc : Ecdc) (keys : AesKeys) (lba : UInt32) (sector : Sector) : Sector :=
  sectorOfBlocks fun j => xorBlock (sectorBlock sector j)
    (ecdc.keystream keys.dataKey { w0 := UInt32.ofNat j, w1 := lba, w2 := 0, w3 := 0 })

/-- `phantomdrive_ctr_buf`. -/
def ctrBuf (ecdc : Ecdc) (keys : AesKeys) (buf : List Sector) (sdLba : UInt32) : List Sector :=
  buf.mapIdx fun i s => ctrSector ecdc keys (sdLba + UInt32.ofNat i) s

/-! ### The interface of `phantomdrive.h` -/

/-- `phantomdrive_encrypt_buf`. -/
def phantomdriveEncryptBuf (ecdc : Ecdc) (mode : AesMode) (keys : AesKeys)
    (buf : List Sector) (sdLba : UInt32) : List Sector :=
  match mode with
  | .xts => xtsBuf ecdc keys (ecdc.selfDma keys.dataKey) buf sdLba
  | .ctr => ctrBuf ecdc keys buf sdLba

/-- `phantomdrive_decrypt_buf`. -/
def phantomdriveDecryptBuf (ecdc : Ecdc) (mode : AesMode) (keys : AesKeys)
    (buf : List Sector) (sdLba : UInt32) : List Sector :=
  match mode with
  | .xts => xtsBuf ecdc keys (ecdc.selfDma keys.dataKey).symm buf sdLba
  | .ctr => ctrBuf ecdc keys buf sdLba

/-- `phantomdrive_crypto_unlock`: derive the keys; the XTS build counts `salt[0]` up
before it derives its second key.  Returns the keys and the salt left behind. -/
def phantomdriveCryptoUnlock (kdfRounds : ℕ) (mode : AesMode) (keys : AesKeys)
    (password : List UInt8) (salt : Vector UInt8 8) : AesKeys × Vector UInt8 8 :=
  match mode with
  | .xts =>
      let dataKey := deriveKey kdfRounds password salt
      let salt := salt.set 0 (salt[0] + 1)
      ({ dataKey := dataKey, tweakKey := deriveKey kdfRounds password salt }, salt)
  | .ctr => ({ keys with dataKey := deriveKey kdfRounds password salt }, salt)

/-! ### Sector by sector -/

/-- What `phantomdrive_xts_buf` does to the sector at `lba`. -/
def xtsSector (ecdc : Ecdc) (keys : AesKeys) (f : Block → Block) (lba : UInt32)
    (sector : Sector) : Sector :=
  let tweak := xtsTweak ecdc keys lba
  xtsXorSector (sectorOfBlocks fun j => f (sectorBlock (xtsXorSector sector tweak) j)) tweak

theorem xtsBatch_eq_mapIdx (ecdc : Ecdc) (keys : AesKeys) (f : Block → Block)
    (batch : List Sector) (sdLba : UInt32) :
    xtsBatch ecdc keys f batch sdLba
      = batch.mapIdx fun i s => xtsSector ecdc keys f (sdLba + UInt32.ofNat i) s := by
  apply List.ext_getElem
  · simp [xtsBatch, xtsMakeTweaks, selfDmaSectors]
  · intro i h₁ h₂
    simp [xtsBatch, xtsMakeTweaks, selfDmaSectors, xtsSector]

/-- One pass of the loop of `phantomdrive_xts_buf`. -/
theorem xtsBuf_of_ne_nil (ecdc : Ecdc) (keys : AesKeys) (f : Block → Block)
    {buf : List Sector} (sdLba : UInt32) (hne : buf ≠ []) :
    xtsBuf ecdc keys f buf sdLba
      = xtsBatch ecdc keys f (buf.take 60) sdLba
        ++ xtsBuf ecdc keys f (buf.drop 60) (sdLba + UInt32.ofNat (buf.take 60).length) := by
  rw [xtsBuf, if_neg hne]

/-- The batches of `phantomdrive_xts_buf` leave no trace: sector `i` of the buffer is
processed on its own at `sd_lba + i`. -/
theorem xtsBuf_eq_mapIdx (ecdc : Ecdc) (keys : AesKeys) (f : Block → Block)
    (buf : List Sector) (sdLba : UInt32) :
    xtsBuf ecdc keys f buf sdLba
      = buf.mapIdx fun i s => xtsSector ecdc keys f (sdLba + UInt32.ofNat i) s := by
  induction buf, sdLba using xtsBuf.induct with
  | case1 sdLba => simp [xtsBuf]
  | case2 buf sdLba hne batch ih =>
      have hshift : ∀ i n : ℕ, sdLba + UInt32.ofNat n + UInt32.ofNat i
          = sdLba + UInt32.ofNat (i + n) := by
        intro i n
        rw [UInt32.add_assoc, ← UInt32.ofNat_add, Nat.add_comm]
      rw [xtsBuf_of_ne_nil ecdc keys f sdLba hne, xtsBatch_eq_mapIdx, ih]
      conv_rhs => rw [← List.take_append_drop 60 buf, List.mapIdx_append]
      simp only [hshift, batch]

/-- What `phantomdrive_encrypt_buf` does to the sector at `lba`. -/
def encryptSector (ecdc : Ecdc) (mode : AesMode) (keys : AesKeys) (lba : UInt32)
    (sector : Sector) : Sector :=
  match mode with
  | .xts => xtsSector ecdc keys (ecdc.selfDma keys.dataKey) lba sector
  | .ctr => ctrSector ecdc keys lba sector

/-- What `phantomdrive_decrypt_buf` does to the sector at `lba`. -/
def decryptSector (ecdc : Ecdc) (mode : AesMode) (keys : AesKeys) (lba : UInt32)
    (sector : Sector) : Sector :=
  match mode with
  | .xts => xtsSector ecdc keys (ecdc.selfDma keys.dataKey).symm lba sector
  | .ctr => ctrSector ecdc keys lba sector

theorem phantomdriveEncryptBuf_eq_mapIdx (ecdc : Ecdc) (mode : AesMode) (keys : AesKeys)
    (buf : List Sector) (sdLba : UInt32) :
    phantomdriveEncryptBuf ecdc mode keys buf sdLba
      = buf.mapIdx fun i s => encryptSector ecdc mode keys (sdLba + UInt32.ofNat i) s := by
  cases mode with
  | xts => exact xtsBuf_eq_mapIdx ..
  | ctr => rfl

theorem phantomdriveDecryptBuf_eq_mapIdx (ecdc : Ecdc) (mode : AesMode) (keys : AesKeys)
    (buf : List Sector) (sdLba : UInt32) :
    phantomdriveDecryptBuf ecdc mode keys buf sdLba
      = buf.mapIdx fun i s => decryptSector ecdc mode keys (sdLba + UInt32.ofNat i) s := by
  cases mode with
  | xts => exact xtsBuf_eq_mapIdx ..
  | ctr => rfl

@[simp] theorem length_phantomdriveEncryptBuf (ecdc : Ecdc) (mode : AesMode) (keys : AesKeys)
    (buf : List Sector) (sdLba : UInt32) :
    (phantomdriveEncryptBuf ecdc mode keys buf sdLba).length = buf.length := by
  simp [phantomdriveEncryptBuf_eq_mapIdx]

/-! ### Decryption undoes encryption -/

@[simp] theorem xtsXorSector_xtsXorSector (s : Sector) (t : XtsBlock) :
    xtsXorSector (xtsXorSector s t) t = s := by
  simp [xtsXorSector]

theorem xtsSector_symm (ecdc : Ecdc) (keys : AesKeys) (e : Equiv.Perm Block) (lba : UInt32)
    (s : Sector) :
    xtsSector ecdc keys e.symm lba (xtsSector ecdc keys e lba s) = s := by
  simp [xtsSector]

theorem ctrSector_ctrSector (ecdc : Ecdc) (keys : AesKeys) (lba : UInt32) (s : Sector) :
    ctrSector ecdc keys lba (ctrSector ecdc keys lba s) = s := by
  simp [ctrSector]

/-- Decrypting a sector at the LBA it was encrypted at gives the plaintext back, in
both builds. -/
theorem decryptSector_encryptSector (ecdc : Ecdc) (mode : AesMode) (keys : AesKeys)
    (lba : UInt32) (s : Sector) :
    decryptSector ecdc mode keys lba (encryptSector ecdc mode keys lba s) = s := by
  cases mode with
  | xts => exact xtsSector_symm ..
  | ctr => exact ctrSector_ctrSector ..

end PhantomDrive
