/-
PhantomDrive/CtrCounter.lean

The format on the card of the CTR build.  `phantomdrive_ctr_buf` loads the counter of the engine
once for each sector and lets the engine count through the 32 blocks; the state of the engine is
carried from sector to sector and from call to call.  Whatever that state, block `j` of a sector is
xored with the cipher of a counter that holds the number of the sector and `j` alone
(`phantomdriveCtr_counter`).

The driver of the engine is a parameter, `CtrDriver`; what the firmware relies on in it is
`CountsUp`.  The build of `Crypto.lean`, whose engine is a keystream function, is the same cipher
(`phantomdriveCtrBuf_eq`).
-/
import PhantomDrive.XtsStandard

namespace PhantomDrive

variable {σ : Type}

/-! ### The driver -/

/-- The calls of the driver that the CTR build makes, as changes of the state of the engine. -/
structure CtrDriver (σ : Type) where
  /-- `ECDC_Init` in the mode `MODE_AES_CTR`. -/
  init : AesKey → XtsBlock → σ → σ
  /-- `ECDC_SetCount`. -/
  setCount : XtsBlock → σ → σ
  /-- `ECDC_Excute(SELFDMA_ENCRY, MODE_LITTLE_ENDIAN)`. -/
  excute : σ → σ
  /-- `ECDC_SelfDMA` over blocks in memory. -/
  selfDma : List Block → σ → List Block × σ
  /-- `phantomdrive_ecdc_disable_data_path`. -/
  disableDataPath : σ → σ

/-- The counter `n` blocks after `count`: the engine counts the low word. -/
def XtsBlock.advance (count : XtsBlock) (n : ℕ) : XtsBlock :=
  { count with w0 := count.w0 + UInt32.ofNat n }

/-- What the firmware relies on: a key stays loaded, and the self-DMA mode xors block `j` with the
cipher of the loaded counter plus `j`, which the cipher reads with its bytes reversed. -/
structure CountsUp (driver : CtrDriver σ) (aes : AesKey → Block → Block)
    (Keyed : AesKey → σ → Prop) : Prop where
  init : ∀ key count st, Keyed key (driver.init key count st)
  setCount : ∀ key count st, Keyed key st → Keyed key (driver.setCount count st)
  excute : ∀ key st, Keyed key st → Keyed key (driver.excute st)
  selfDma : ∀ key blocks st, Keyed key st → Keyed key (driver.selfDma blocks st).2
  disableDataPath : ∀ key st, Keyed key st → Keyed key (driver.disableDataPath st)
  counts : ∀ key blocks count st, Keyed key st →
    (driver.selfDma blocks (driver.excute (driver.setCount count st))).1
      = blocks.mapIdx fun j b => xorBlock b (aes key (revBlock (count.advance j).bytes))

/-! ### The code -/

/-- `phantomdrive_ecdc_set_sector_nonce`. -/
def phantomdriveEcdcSetSectorNonce (driver : CtrDriver σ) (sdLba : UInt32) : σ → σ :=
  driver.setCount { w0 := 0, w1 := sdLba, w2 := 0, w3 := 0 }

/-- The loop of `phantomdrive_ctr_buf` from sector `i` on. -/
def ctrSectors (driver : CtrDriver σ) (sdLba : UInt32) : ℕ → List Sector → σ → List Sector × σ
  | _, [], st => ([], st)
  | i, s :: rest, st =>
      let st := phantomdriveEcdcSetSectorNonce driver (sdLba + UInt32.ofNat i) st
      let st := driver.excute st
      let (blocks, st) := driver.selfDma (List.ofFn (sectorBlock s)) st
      let (rest, st) := ctrSectors driver sdLba (i + 1) rest st
      (sectorOfBlocks (fun j => blocks.getD j fun _ => 0) :: rest, st)

/-- `phantomdrive_ctr_buf`. -/
def phantomdriveCtrBuf (driver : CtrDriver σ) (buf : List Sector) (sdLba : UInt32) (st : σ) :
    List Sector × σ :=
  if buf.length = 0 then (buf, st)
  else
    let (buf, st) := ctrSectors driver sdLba 0 buf st
    (buf, driver.disableDataPath st)

/-- `phantomdrive_encrypt_buf` of the CTR build. -/
def ctrEncryptBuf (driver : CtrDriver σ) (buf : List Sector) (sdLba : UInt32) (st : σ) :
    List Sector × σ :=
  phantomdriveCtrBuf driver buf sdLba st

/-- `phantomdrive_decrypt_buf` of the CTR build. -/
def ctrDecryptBuf (driver : CtrDriver σ) (buf : List Sector) (sdLba : UInt32) (st : σ) :
    List Sector × σ :=
  phantomdriveCtrBuf driver buf sdLba st

/-- Calls one after the other: each part begins at the sector behind the part before it. -/
def ctrCalls (call : List Sector → UInt32 → σ → List Sector × σ) :
    List (List Sector) → UInt32 → σ → List Sector × σ
  | [], _, st => ([], st)
  | part :: parts, sdLba, st =>
      let (part', st) := call part sdLba st
      let (rest, st) := ctrCalls call parts (sdLba + UInt32.ofNat part.length) st
      (part' ++ rest, st)

/-! ### The counter -/

/-- The 16 bytes of the counter as `decrypt_device` of the test builds it: the sector and the block
as two words in bytes 8 to 15, most significant byte first. -/
def counterBlock (lba : UInt32) (j : ℕ) : Block := fun i =>
  if i.val < 8 then 0
  else if i.val < 12 then wordByte lba (11 - i)
  else wordByte (UInt32.ofNat j) (15 - i)

/-- CTR of the sector `lba` with the block cipher `e`. -/
def ctrStandard (e : Block → Block) (lba : UInt32) (sector : Sector) : Sector :=
  sectorOfBlocks fun j => xorBlock (sectorBlock sector j) (e (counterBlock lba j))

/-- The counter of block `j`, once its bytes are reversed. -/
theorem revBlock_bytes_advance (lba : UInt32) (j : ℕ) :
    revBlock (XtsBlock.advance { w0 := 0, w1 := lba, w2 := 0, w3 := 0 } j).bytes
      = counterBlock lba j := by
  have hzero : ∀ k < 4, wordByte 0 k = 0 := by decide
  rw [XtsBlock.advance, UInt32.zero_add]
  funext i
  fin_cases i
  all_goals first | rfl | exact hzero _ (by decide)

/-- **No counter is used twice.** -/
theorem counterBlock_inj {lba lba' : UInt32} {j j' : ℕ} (hj : j < 2 ^ 32) (hj' : j' < 2 ^ 32)
    (h : counterBlock lba j = counterBlock lba' j') : lba = lba' ∧ j = j' := by
  have hbyte : ∀ i, counterBlock lba j i = counterBlock lba' j' i := congrFun h
  constructor
  · rw [← wordOfBytes_wordByte lba, ← wordOfBytes_wordByte lba']
    congr 1
    exacts [hbyte 11, hbyte 10, hbyte 9, hbyte 8]
  · have hword : UInt32.ofNat j = UInt32.ofNat j' := by
      rw [← wordOfBytes_wordByte (UInt32.ofNat j), ← wordOfBytes_wordByte (UInt32.ofNat j')]
      congr 1
      exacts [hbyte 15, hbyte 14, hbyte 13, hbyte 12]
    have hnat := congrArg UInt32.toNat hword
    rw [UInt32.toNat_ofNat', UInt32.toNat_ofNat'] at hnat
    omega

theorem ctrStandard_ctrStandard (e : Block → Block) (lba : UInt32) (s : Sector) :
    ctrStandard e lba (ctrStandard e lba s) = s := by
  simp [ctrStandard]

/-! ### Sector by sector -/

section Counts

variable {driver : CtrDriver σ} {aes : AesKey → Block → Block} {Keyed : AesKey → σ → Prop}
  {key : AesKey}

/-- One sector: the blocks the engine leaves are the sector in counter mode. -/
theorem CountsUp.sector (h : CountsUp driver aes Keyed) {st : σ} (hst : Keyed key st)
    (lba : UInt32) (s : Sector) :
    sectorOfBlocks (fun j => (driver.selfDma (List.ofFn (sectorBlock s))
        (driver.excute (phantomdriveEcdcSetSectorNonce driver lba st))).1.getD j fun _ => 0)
      = ctrStandard (aes key) lba s := by
  refine congrArg sectorOfBlocks (funext fun j => ?_)
  have hcounts := h.counts key (List.ofFn (sectorBlock s)) ⟨0, lba, 0, 0⟩ st hst
  simp only [phantomdriveEcdcSetSectorNonce, hcounts, revBlock_bytes_advance,
    List.getD_eq_getElem?_getD, List.getElem?_mapIdx, List.getElem?_ofFn, j.isLt, dif_pos,
    Option.map_some, Option.getD_some]

/-- The loop, whatever the engine did before. -/
theorem CountsUp.sectors (h : CountsUp driver aes Keyed) (sdLba : UInt32) (buf : List Sector) :
    ∀ (i : ℕ) {st : σ}, Keyed key st →
      (ctrSectors driver sdLba i buf st).1
          = buf.mapIdx (fun k s => ctrStandard (aes key) (sdLba + UInt32.ofNat (i + k)) s)
        ∧ Keyed key (ctrSectors driver sdLba i buf st).2 := by
  induction buf with
  | nil => exact fun _ _ hst => ⟨rfl, hst⟩
  | cons s rest ih =>
    intro i st hst
    have hset := h.excute key _ (h.setCount key ⟨0, sdLba + UInt32.ofNat i, 0, 0⟩ st hst)
    have hkeyed := h.selfDma key (List.ofFn (sectorBlock s)) _ hset
    obtain ⟨hrest, hend⟩ := ih (i + 1) hkeyed
    have hindex : ∀ k, i + 1 + k = i + (k + 1) := by omega
    simp only [hindex] at hrest
    refine ⟨?_, hend⟩
    rw [List.mapIdx_cons, ← hrest, Nat.add_zero, ← h.sector hst]
    rfl

/-- A call, whatever the engine did before. -/
theorem CountsUp.buf (h : CountsUp driver aes Keyed) (buf : List Sector) (sdLba : UInt32) {st : σ}
    (hst : Keyed key st) :
    (phantomdriveCtrBuf driver buf sdLba st).1
        = buf.mapIdx (fun i s => ctrStandard (aes key) (sdLba + UInt32.ofNat i) s)
      ∧ Keyed key (phantomdriveCtrBuf driver buf sdLba st).2 := by
  obtain ⟨hbuf, hend⟩ := h.sectors sdLba buf 0 hst
  simp only [Nat.zero_add] at hbuf
  rw [phantomdriveCtrBuf]
  split
  · rename_i hzero
    rw [List.eq_nil_of_length_eq_zero hzero]
    exact ⟨rfl, hst⟩
  · exact ⟨hbuf, h.disableDataPath key _ hend⟩

/-- **Calls one after the other** do what one call does. -/
theorem CountsUp.calls (h : CountsUp driver aes Keyed) (parts : List (List Sector)) :
    ∀ (sdLba : UInt32) {st : σ}, Keyed key st →
      (ctrCalls (phantomdriveCtrBuf driver) parts sdLba st).1
          = parts.flatten.mapIdx (fun i s => ctrStandard (aes key) (sdLba + UInt32.ofNat i) s)
        ∧ Keyed key (ctrCalls (phantomdriveCtrBuf driver) parts sdLba st).2 := by
  induction parts with
  | nil => exact fun _ _ hst => ⟨rfl, hst⟩
  | cons part parts ih =>
    intro sdLba st hst
    obtain ⟨hpart, hmid⟩ := h.buf part sdLba hst
    obtain ⟨hrest, hend⟩ := ih (sdLba + UInt32.ofNat part.length) hmid
    have hshift : ∀ i, sdLba + UInt32.ofNat part.length + UInt32.ofNat i
        = sdLba + UInt32.ofNat (i + part.length) := by
      intro i
      rw [UInt32.add_assoc, ← UInt32.ofNat_add, Nat.add_comm]
    simp only [hshift] at hrest
    refine ⟨?_, hend⟩
    rw [List.flatten_cons, List.mapIdx_append, ← hpart, ← hrest]
    rfl

/-- The driver's build is the CTR build over the engine for the same cipher. -/
theorem phantomdriveCtrBuf_eq {aes : AesKey → Equiv.Perm Block}
    (h : CountsUp driver (fun key => aes key) Keyed) (keys : AesKeys) (buf : List Sector)
    (sdLba : UInt32) {st : σ} (hst : Keyed keys.dataKey st) :
    (phantomdriveCtrBuf driver buf sdLba st).1
      = phantomdriveEncryptBuf (Ecdc.ofAes aes) .ctr keys buf sdLba := by
  rw [(h.buf buf sdLba hst).1, phantomdriveEncryptBuf_eq_mapIdx]
  congr 1
  funext i s
  show _ = ctrSector (Ecdc.ofAes aes) keys (sdLba + UInt32.ofNat i) s
  rw [ctrStandard, ctrSector]
  congr 1
  funext j
  have hcount := revBlock_bytes_advance (sdLba + UInt32.ofNat i) j
  rw [XtsBlock.advance, UInt32.zero_add] at hcount
  show _ = xorBlock _ (aes keys.dataKey (revBlock _))
  rw [hcount]

/-- **The CTR build.**  Under any key and from any state of the engine that holds it,
`phantomdrive_encrypt_buf` xors block `j` of sector `i` with the cipher of the counter of
`sd_lba + i` and `j`; what it wrote in any number of calls is read back in any other; and within
the card two different blocks never have one counter. -/
theorem phantomdriveCtr_counter (driver : CtrDriver σ) (aes : AesKey → Block → Block)
    (Keyed : AesKey → σ → Prop) (h : CountsUp driver aes Keyed) (key : AesKey) (st : σ)
    (hst : Keyed key st) (buf : List Sector) (sdLba : UInt32)
    (hfits : sdLba.toNat + buf.length ≤ 2 ^ 32) :
    (ctrEncryptBuf driver buf sdLba st).1
        = (buf.mapIdx fun i s => sectorOfBlocks fun j => xorBlock (sectorBlock s j)
            (aes key (counterBlock (sdLba + UInt32.ofNat i) j)))
      ∧ (∀ parts parts' st', parts.flatten = buf → Keyed key st' →
          parts'.flatten = (ctrCalls (ctrEncryptBuf driver) parts sdLba st).1 →
          (ctrCalls (ctrDecryptBuf driver) parts' sdLba st').1 = buf)
      ∧ (∀ i < buf.length, ∀ i' < buf.length, ∀ j j' : Fin 32,
          counterBlock (sdLba + UInt32.ofNat i) j = counterBlock (sdLba + UInt32.ofNat i') j' →
          i = i' ∧ j = j') := by
  refine ⟨(h.buf buf sdLba hst).1, fun parts parts' st' hparts hst' hparts' => ?_,
    fun i hi i' hi' j j' heq => ?_⟩
  · have hencrypt := (h.calls parts sdLba hst).1
    have hdecrypt := (h.calls parts' sdLba hst').1
    rw [hparts] at hencrypt
    rw [hparts'.trans hencrypt] at hdecrypt
    exact hdecrypt.trans
      (mapIdx_mapIdx_eq (fun i s => ctrStandard_ctrStandard (aes key) (sdLba + UInt32.ofNat i) s) buf)
  · have hj := j.isLt
    have hj' := j'.isLt
    obtain ⟨hlba, hblock⟩ := counterBlock_inj (by omega) (by omega) heq
    have hnat := congrArg UInt32.toNat hlba
    rw [toNat_add_ofNat (by omega), toNat_add_ofNat (by omega)] at hnat
    exact ⟨by omega, Fin.ext hblock⟩

end Counts

/-! ### An engine -/

/-- An engine that is a key and a counter. -/
def CtrDriver.ofAes (aes : AesKey → Block → Block) : CtrDriver (AesKey × XtsBlock) where
  init := fun key count _ => (key, count)
  setCount := fun count st => (st.1, count)
  excute := id
  selfDma := fun blocks st =>
    (blocks.mapIdx fun j b => xorBlock b (aes st.1 (revBlock (st.2.advance j).bytes)),
      (st.1, st.2.advance blocks.length))
  disableDataPath := id

theorem countsUp_ofAes (aes : AesKey → Block → Block) :
    CountsUp (CtrDriver.ofAes aes) aes fun key st => st.1 = key where
  init := fun _ _ _ => rfl
  setCount := fun _ _ _ h => h
  excute := fun _ _ h => h
  selfDma := fun _ _ _ h => h
  disableDataPath := fun _ _ h => h
  counts := by
    rintro key blocks count st rfl
    rfl

/-- The last two sectors a sector number reaches, from an engine that has counted before. -/
theorem phantomdriveCtr_counter_last_sectors :
    (ctrEncryptBuf (CtrDriver.ofAes fun key => sampleCipher key) [fun _ => 0, fun _ => 7] 0xFFFFFFFE
          (Vector.replicate 32 1, ⟨7, 0, 0, 0⟩)).1
        = ([fun _ => 0, fun _ => 7] : List Sector).mapIdx (fun i s => sectorOfBlocks fun j =>
            xorBlock (sectorBlock s j)
              (sampleCipher (Vector.replicate 32 1) (counterBlock (0xFFFFFFFE + UInt32.ofNat i) j)))
      ∧ ∀ i < 2, ∀ i' < 2, ∀ j j' : Fin 32,
          counterBlock (0xFFFFFFFE + UInt32.ofNat i) j
            = counterBlock (0xFFFFFFFE + UInt32.ofNat i') j' → i = i' ∧ j = j' :=
  ⟨(phantomdriveCtr_counter (CtrDriver.ofAes fun key => sampleCipher key)
      (fun key => sampleCipher key) _ (countsUp_ofAes _) (Vector.replicate 32 1)
      (Vector.replicate 32 1, ⟨7, 0, 0, 0⟩) rfl [fun _ => 0, fun _ => 7] 0xFFFFFFFE (by decide)).1,
    (phantomdriveCtr_counter (CtrDriver.ofAes fun key => sampleCipher key)
      (fun key => sampleCipher key) _ (countsUp_ofAes _) (Vector.replicate 32 1)
      (Vector.replicate 32 1, ⟨7, 0, 0, 0⟩) rfl [fun _ => 0, fun _ => 7] 0xFFFFFFFE
      (by decide)).2.2⟩

end PhantomDrive
