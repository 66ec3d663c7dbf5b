/-
PhantomDrive/Containment.lean

Which sectors of the card one READ(10) or WRITE(10) can reach.

The write path tests a chunk against the end of the card only.  While locked, a write
stays below `LOCKED_SECTORS` exactly when its range does, or when the first chunk that
leaves it is refused for running past the card (`lockedWriteContained_iff`).  While
unlocked, the 32-bit sum `lba + LOCKED_SECTORS` may wrap, and a read is not tested at
all (`unlockedContained_iff`).
-/
import PhantomDrive.Command

namespace PhantomDrive

/-- `a` reads sector `k` of the card.  A CMD18 for no sector delivers one before it is stopped. -/
def Action.ReadsSector (a : Action) (k : ℕ) : Prop :=
  match a with
  | .cardRead _ lba numSectors => lba.toNat ≤ k ∧ k < lba.toNat + max 1 numSectors
  | _ => False

/-- What was done between `d` and `d'` reads and writes only sectors `within`. -/
def TouchedWithin (d d' : Drive) (within : ℕ → Prop) : Prop :=
  ∃ entries, d'.log = d.log ++ entries
    ∧ ∀ a ∈ entries, ∀ k, a.ReadsSector k ∨ a.WritesSector k → within k

section Execute

variable {dev : Device} {d : Drive} {cbw packet : List UInt8} {lba : UInt32} {count : ℕ}

/-! ### From the CBW to the stream -/

/-- The drive when the stream of a WRITE(10) starts. -/
def Drive.atStream (dev : Device) (cbw packet : List UInt8) (d : Drive) : Drive :=
  { (d.bulkOut dev cbw).bulkOut dev packet with
    bot := { d.bot.parsedRw10 cbw with writePending := false, transferBytesLeft := 0 } }

/-- The stream of a WRITE(10). -/
def writeStreamOf (lba : UInt32) (count : ℕ) : WriteStream where
  sectorsLeft := count
  lba := lba
  firstPacket := true

/-- A WRITE(10) alone is its stream and a CSW. -/
theorem executeWrite_eq_stream (dev : Device) (packet : List UInt8) (io : ℕ → ChunkIo)
    (hcbw : IsWrite10 cbw lba count)
    (hflags : d.bot.transferFlags.dataOut = false) :
    executeWrite dev cbw packet io d
      = let d' := writeChunks dev io (writeStreamOf lba count) (d.atStream dev cbw packet)
        let flags := { d'.bot.transferFlags with dataOut := false }
        let d'' := if d'.bot.transferBytesLeft = 0 then
          { d' with bot := botSendCsw { d'.bot with transferFlags := flags } } else d'
        { d'' with bot := { d''.bot with rxCtrl := .ack } } := by
  have hfirst : (d.bulkOut dev cbw).bot = d.bot.parsedRw10 cbw :=
    botHandleBulkOut_write10 hcbw hflags
  have hout : (d.bulkOut dev cbw).bot.transferFlags.dataOut = true := by
    rw [hfirst]
    show (d.bot.transferFlags.dataOut || ((BulkOnlyCmd.ofPacket cbw).dataLen ≠ 0
      && !(BulkOnlyCmd.ofPacket cbw).dirIn)) = true
    rw [hcbw.dirIn_eq]
    simp [hcbw.dataLen_ne]
  have hsecond : ((d.bulkOut dev cbw).bulkOut dev packet).bot
      = { d.bot.parsedRw10 cbw with writePending := true } := by
    show botHandleBulkOut _ _ _ (d.bulkOut dev cbw).bot = _
    rw [botHandleBulkOut_data hout, hfirst]
  have hsectors : (d.bot.parsedRw10 cbw).transferSectors = count := by
    rw [transferSectors_parsedRw10, hcbw.count_eq]
  have hlba : (d.bot.parsedRw10 cbw).currentLba = lba := hcbw.lba_eq
  have hstart : writeStreamUsb2 dev io (d.bot.parsedRw10 cbw).transferSectors
        (d.bot.parsedRw10 cbw).currentLba (d.atStream dev cbw packet)
      = writeChunks dev io (writeStreamOf lba count) (d.atStream dev cbw packet) := by
    rw [hsectors, hlba]
    rfl
  rw [executeWrite, pollWrite, hsecond, if_pos rfl, ← hstart]
  rfl

/-- A WRITE(10) does to the card what its stream does. -/
theorem executeWrite_eq (dev : Device) (packet : List UInt8) (io : ℕ → ChunkIo)
    (hcbw : IsWrite10 cbw lba count)
    (hflags : d.bot.transferFlags.dataOut = false) :
    (executeWrite dev cbw packet io d).log
        = (writeChunks dev io (writeStreamOf lba count) (d.atStream dev cbw packet)).log
      ∧ (executeWrite dev cbw packet io d).card
        = (writeChunks dev io (writeStreamOf lba count) (d.atStream dev cbw packet)).card := by
  rw [executeWrite_eq_stream dev packet io hcbw hflags]
  dsimp only
  constructor
  · split <;> rfl
  · split <;> rfl

/-- A READ(10) issues one read command to the card, however its loops go. -/
theorem executeRead_log (dev : Device) (io : ReadIo) (hcbw : IsRead10 cbw lba count)
    (hflags : d.bot.transferFlags.dataOut = false)
    (hrange : (d.phantom.isLocked
      && read10AccessesHiddenSdSectors dev (d.bot.parsedRw10 cbw)) = false) :
    (executeRead dev cbw io d).1.log
      = d.log ++ [.cardRead d.phantom.isLocked
          (computePhysicalLba dev d.phantom.isLocked lba) count] := by
  have hbot : (d.bulkOut dev cbw).bot = { d.bot.parsedRw10 cbw with readPending := true } :=
    botHandleBulkOut_read10 hcbw hflags hrange
  have hsectors : (d.bot.parsedRw10 cbw).transferSectors = count := by
    rw [transferSectors_parsedRw10, hcbw.count_eq]
  have hlba : (d.bot.parsedRw10 cbw).currentLba = lba := hcbw.lba_eq
  rw [executeRead, pollRead, hbot, if_pos rfl, mscReadSectors_log]
  show d.log ++ [Action.cardRead d.phantom.isLocked (computePhysicalLba dev d.phantom.isLocked
    (d.bot.parsedRw10 cbw).currentLba) (d.bot.parsedRw10 cbw).transferSectors] = _
  rw [hsectors, hlba]

/-- The sectors a chunk of a stream writes. -/
theorem WriteStream.chunkWrite_writes {s : WriteStream} {locked : Bool} {j k : ℕ}
    {data : List Sector} :
    (s.chunkWrite dev locked j data).WritesSector k
      ↔ (computePhysicalLba dev locked (s.lba + UInt32.ofNat (60 * j))).toNat ≤ k
        ∧ k < (computePhysicalLba dev locked (s.lba + UInt32.ofNat (60 * j))).toNat
            + data.length := Iff.rfl

/-! ### Writes while locked -/

/-- Chunk `j` of a locked write starts at its host sector. -/
theorem lockedChunk_inCard_iff (dev : Device) {j : ℕ} (hj : 60 * j < count)
    (hwrap : lba.toNat + 60 * j < 2 ^ 32) :
    (writeStreamOf lba count).InCard dev true j
      ↔ lba.toNat + 60 * j + min (count - 60 * j) 60 ≤ dev.emmcSecNum.toNat := by
  have hlba : computePhysicalLba dev true (lba + UInt32.ofNat (60 * j))
      = lba + UInt32.ofNat (60 * j) := rfl
  rw [WriteStream.InCard]
  show dev.outOfCard (computePhysicalLba dev true (lba + UInt32.ofNat (60 * j)))
    (min (count - 60 * j) 60) = false ↔ _
  rw [hlba, outOfCard_eq_false_iff (by omega) (by omega), toNat_add_ofNat hwrap]

/-- While locked, chunk `j` of a write ends below `limit` when its range does. -/
theorem lockedChunk_below (count : ℕ) {j k limit : ℕ} {data : List Sector}
    (hlen : data.length = min (count - 60 * j) 60)
    (hend : lba.toNat + 60 * j + min (count - 60 * j) 60 ≤ limit)
    (hlimit : limit < 2 ^ 32)
    (hk : ((writeStreamOf lba count).chunkWrite dev true j data).WritesSector k) : k < limit := by
  rw [WriteStream.chunkWrite_writes] at hk
  have hlba : (computePhysicalLba dev true ((writeStreamOf lba count).lba
      + UInt32.ofNat (60 * j))).toNat = lba.toNat + 60 * j := by
    show (lba + UInt32.ofNat (60 * j)).toNat = _
    exact toNat_add_ofNat (by omega)
  omega

/-- The number of whole chunks before the first one that leaves the decoy. -/
def chunksBelow (limit lba : ℕ) : ℕ := (limit - lba) / 60

/-- The first sector of that chunk. -/
def firstChunkAcross (limit lba : ℕ) : ℕ := lba + 60 * chunksBelow limit lba

/-- The WRITE(10) stays on the decoy, whatever the packets and the card do: it touches no hidden
sector, and every hidden sector is as it was. -/
def LockedWriteContained (dev : Device) (d : Drive) (cbw packet : List UInt8) : Prop :=
  ∀ io, TouchedWithin d (executeWrite dev cbw packet io d) (· < dev.lockedSectors.toNat)
    ∧ ∀ k, dev.lockedSectors.toNat ≤ k → (executeWrite dev cbw packet io d).card k = d.card k

/-- A card that stores everything is handed the first chunk that reaches further, if that chunk
lies inside the card. -/
theorem not_lockedWriteContained (hlocked : d.phantom.isLocked = true)
    (hflags : d.bot.transferFlags.dataOut = false) (hcbw : IsWrite10 cbw lba count)
    (hpos : count ≠ 0) (hend : dev.lockedSectors.toNat < lba.toNat + count)
    (hfits : firstChunkAcross dev.lockedSectors.toNat lba.toNat
      + min (count - 60 * chunksBelow dev.lockedSectors.toNat lba.toNat) 60
        ≤ dev.emmcSecNum.toNat) :
    ¬ LockedWriteContained dev d cbw packet := by
  intro hall
  have hsec := dev.emmcSecNum.toNat_lt
  have hstart : (d.atStream dev cbw packet).phantom.isLocked = true := hlocked
  unfold firstChunkAcross chunksBelow at hfits
  let io : ℕ → ChunkIo := fun _ => ⟨fun _ _ => 0, .success, fun _ => 0⟩
  obtain ⟨⟨entries, hlog, hbelow⟩, -⟩ := hall io
  obtain ⟨heq, -⟩ := executeWrite_eq dev packet io hcbw hflags
  generalize hk : (dev.lockedSectors.toNat - lba.toNat) / 60 = j at hfits
  have hj : 60 * j < count := by omega
  have hin : ∀ i ≤ j, (writeStreamOf lba count).InCard dev
      (d.atStream dev cbw packet).phantom.isLocked i := by
    intro i hi
    rw [hstart, lockedChunk_inCard_iff dev (by omega) (by omega)]
    rcases Nat.lt_or_eq_of_le hi with hlt | rfl
    · omega
    · exact hfits
  obtain ⟨entries', data, hlog', hmem, hlen⟩ := writeChunks_complete dev io
    (writeStreamOf lba count) (d.atStream dev cbw packet) (fun _ => rfl) hj hin
  have hsame : entries = entries' := List.append_cancel_left (hlog.symm.trans (heq.trans hlog'))
  rw [hstart] at hmem
  have hlen' : data.length = min (count - 60 * j) 60 := hlen
  have hlba : (computePhysicalLba dev true ((writeStreamOf lba count).lba
      + UInt32.ofNat (60 * j))).toNat = lba.toNat + 60 * j := by
    show (lba + UInt32.ofNat (60 * j)).toNat = _
    exact toNat_add_ofNat (by omega)
  have hreach := hbelow _ (hsame ▸ hmem) (max dev.lockedSectors.toNat (lba.toNat + 60 * j))
    (Or.inr (by
      rw [WriteStream.chunkWrite_writes, hlba]
      omega))
  omega

/-- **A locked write and the hidden sectors.**  A WRITE(10) or WRITE AND VERIFY(10) executed while
locked stays on the decoy if and only if its count is zero, its range ends below
`LOCKED_SECTORS`, or its first chunk that reaches further runs past the end of the card. -/
theorem lockedWriteContained_iff (lba : UInt32) (count : ℕ) (hlocked : d.phantom.isLocked = true)
    (hflags : d.bot.transferFlags.dataOut = false) (hcbw : IsWrite10 cbw lba count)
    (hcard : dev.lockedSectors.toNat < dev.emmcSecNum.toNat) :
    LockedWriteContained dev d cbw packet
      ↔ count = 0 ∨ lba.toNat + count ≤ dev.lockedSectors.toNat
        ∨ dev.emmcSecNum.toNat < firstChunkAcross dev.lockedSectors.toNat lba.toNat
            + min (count - 60 * chunksBelow dev.lockedSectors.toNat lba.toNat) 60 := by
  constructor
  · intro hall
    by_contra hcond
    simp only [not_or, not_le, not_lt] at hcond
    exact not_lockedWriteContained hlocked hflags hcbw hcond.1 hcond.2.1 hcond.2.2 hall
  intro hcond io
  have hmax : count < 65536 := hcbw.count_eq ▸ blockCount_lt _
  have hsec := dev.emmcSecNum.toNat_lt
  have hstart : (d.atStream dev cbw packet).phantom.isLocked = true := hlocked
  unfold firstChunkAcross chunksBelow at hcond
  obtain ⟨heq, hcardEq⟩ := executeWrite_eq dev packet io hcbw hflags
  obtain ⟨-, entries, hlog, hhands, hframe⟩ := writeChunks_sound dev io
    (writeStreamOf lba count) (d.atStream dev cbw packet)
  have hbelow : ∀ a ∈ entries, ∀ k, a.WritesSector k → k < dev.lockedSectors.toNat := by
    intro a ha k hk
    obtain ⟨j, data, hj, rfl, hlen, hin⟩ := hhands a ha
    rw [hstart] at hin hk
    have hj' : 60 * j < count := hj
    refine lockedChunk_below count hlen ?_ (by omega) hk
    rcases hcond with hzero | hend | hrefused
    · omega
    · omega
    · -- the chunk that reaches further is refused, so chunk `j` comes before it
      by_contra hover
      generalize hn : (dev.lockedSectors.toNat - lba.toNat) / 60 = n at hrefused
      have hn' : n ≤ j := by omega
      have hlt : lba.toNat < 2 ^ 32 := lba.toNat_lt
      have := (lockedChunk_inCard_iff dev (by omega) (by omega)).mp (hin n hn')
      omega
  refine ⟨⟨entries, heq.trans hlog, ?_⟩, ?_⟩
  · rintro a ha k (hread | hwrite)
    · obtain ⟨j, data, -, rfl, -⟩ := hhands a ha
      exact absurd hread id
    · exact hbelow a ha k hwrite
  · intro k hk
    rw [hcardEq]
    exact hframe k fun a ha hw => absurd (hbelow a ha k hw) (by omega)

/-- The last sector of the decoy alone. -/
theorem lockedWriteContained_last_decoy_sector :
    LockedWriteContained sampleDevice (sampleDrive .locked)
      (cbwPacket 0 512 (rw10Cdb 0x2A 16777215 1)) [] :=
  (lockedWriteContained_iff 16777215 1 rfl rfl
    ⟨by decide +kernel, by decide +kernel, Or.inl (by decide +kernel), by decide +kernel,
      by decide +kernel, by decide +kernel, by decide +kernel⟩ (by decide)).mpr
    (Or.inr (Or.inl (by decide)))

/-- A WRITE(10) of the first hidden sector reaches it while locked. -/
theorem lockedWrite_reaches_hidden_sector :
    (sampleDrive .locked).phantom.isLocked = true
      ∧ IsWrite10 (cbwPacket 0 512 (rw10Cdb 0x2A 16777216 1)) 16777216 1
      ∧ ¬ LockedWriteContained sampleDevice (sampleDrive .locked)
          (cbwPacket 0 512 (rw10Cdb 0x2A 16777216 1)) [] := by
  have hcbw : IsWrite10 (cbwPacket 0 512 (rw10Cdb 0x2A 16777216 1)) 16777216 1 :=
    ⟨by decide +kernel, by decide +kernel, Or.inl (by decide +kernel), by decide +kernel,
      by decide +kernel, by decide +kernel, by decide +kernel⟩
  exact ⟨rfl, hcbw, not_lockedWriteContained rfl rfl hcbw (by decide) (by decide) (by decide)⟩

/-! ### Reads and writes while unlocked -/

/-- The 32-bit sum `lba + LOCKED_SECTORS`. -/
theorem toNat_unlockedLba (dev : Device) (lba : UInt32) :
    (computePhysicalLba dev false lba).toNat
      = (lba.toNat + dev.lockedSectors.toNat) % 2 ^ 32 :=
  UInt32.toNat_add ..

/-- Chunk `j` of an unlocked write, as long as no sum has wrapped. -/
theorem unlockedChunk_inCard_iff {j : ℕ} (hj : 60 * j < count)
    (hwrap : lba.toNat + dev.lockedSectors.toNat + 60 * j < 2 ^ 32) :
    (writeStreamOf lba count).InCard dev false j
      ↔ lba.toNat + dev.lockedSectors.toNat + 60 * j + min (count - 60 * j) 60
          ≤ dev.emmcSecNum.toNat := by
  rw [WriteStream.InCard]
  show dev.outOfCard (computePhysicalLba dev false (lba + UInt32.ofNat (60 * j)))
    (min (count - 60 * j) 60) = false ↔ _
  rw [outOfCard_eq_false_iff (by omega) (by omega), toNat_unlockedLba,
    toNat_add_ofNat (by omega), Nat.mod_eq_of_lt (by omega)]
  omega

/-- As long as all chunks up to `j` pass the test, the sum does not wrap on the way. -/
theorem unlockedChunks_no_wrap {j : ℕ} (hj : 60 * j < count)
    (hfirst : lba.toNat + dev.lockedSectors.toNat < 2 ^ 32)
    (hin : ∀ i ≤ j, (writeStreamOf lba count).InCard dev false i) :
    lba.toNat + dev.lockedSectors.toNat + 60 * j + min (count - 60 * j) 60
      ≤ dev.emmcSecNum.toNat := by
  have hsec := dev.emmcSecNum.toNat_lt
  induction j with
  | zero => exact (unlockedChunk_inCard_iff hj (by omega)).mp (hin 0 le_rfl)
  | succ j ih =>
      have hprev := ih (by omega) fun i hi => hin i (by omega)
      exact (unlockedChunk_inCard_iff hj (by omega)).mp (hin (j + 1) le_rfl)

/-- The hidden volume. -/
def Device.onHiddenVolume (dev : Device) (k : ℕ) : Prop :=
  dev.lockedSectors.toNat ≤ k ∧ k < dev.emmcSecNum.toNat

/-- The READ(10) touches sectors of the hidden volume only, however its loops go. -/
def UnlockedReadContained (dev : Device) (d : Drive) (cbw : List UInt8) : Prop :=
  ∀ io, TouchedWithin d (executeRead dev cbw io d).1 dev.onHiddenVolume

/-- The WRITE(10) touches sectors of the hidden volume only, whatever the packets and the card
do. -/
def UnlockedWriteContained (dev : Device) (d : Drive) (cbw packet : List UInt8) : Prop :=
  ∀ io, TouchedWithin d (executeWrite dev cbw packet io d) dev.onHiddenVolume

/-- A read goes to the card as it is. -/
theorem unlockedReadContained_iff_range (hlocked : d.phantom.isLocked = false)
    (hflags : d.bot.transferFlags.dataOut = false) (hcbw : IsRead10 cbw lba count) :
    UnlockedReadContained dev d cbw
      ↔ ∀ k, (lba.toNat + dev.lockedSectors.toNat) % 2 ^ 32 ≤ k →
          k < (lba.toNat + dev.lockedSectors.toNat) % 2 ^ 32 + max 1 count →
            dev.onHiddenVolume k := by
  have hlog := fun io => executeRead_log dev io hcbw hflags (by simp [hlocked])
  simp only [hlocked] at hlog
  rw [← toNat_unlockedLba]
  constructor
  · intro hall k hk hk'
    obtain ⟨entries, heq, hwithin⟩ := hall ⟨fun _ _ => 0, []⟩
    have hsame := List.append_cancel_left (heq.symm.trans (hlog _))
    exact hwithin (.cardRead false (computePhysicalLba dev false lba) count)
      (hsame ▸ List.mem_singleton_self _) k (Or.inl ⟨hk, hk'⟩)
  · intro hrange io
    refine ⟨_, hlog io, ?_⟩
    intro a ha k hk
    obtain rfl := List.mem_singleton.mp ha
    rcases hk with hread | hwrite
    · exact hrange k hread.1 hread.2
    · exact absurd hwrite id

/-- A write whose first sum wraps is handed to the card below `LOCKED_SECTORS` when its first
chunk lies inside the card. -/
theorem not_unlockedWriteContained (hlocked : d.phantom.isLocked = false)
    (hflags : d.bot.transferFlags.dataOut = false) (hcbw : IsWrite10 cbw lba count)
    (hpos : count ≠ 0) (hwrap : 2 ^ 32 ≤ lba.toNat + dev.lockedSectors.toNat)
    (hfits : lba.toNat + dev.lockedSectors.toNat - 2 ^ 32 + min count 60
      ≤ dev.emmcSecNum.toNat) :
    ¬ UnlockedWriteContained dev d cbw packet := by
  intro hall
  have hlba := lba.toNat_lt
  have hlim := dev.lockedSectors.toNat_lt
  have hstart : (d.atStream dev cbw packet).phantom.isLocked = false := hlocked
  have hphys : (computePhysicalLba dev false lba).toNat
      = lba.toNat + dev.lockedSectors.toNat - 2 ^ 32 := by
    rw [toNat_unlockedLba]
    omega
  have hzero : (writeStreamOf lba count).lba + UInt32.ofNat (60 * 0) = lba := by
    simp [writeStreamOf]
  let io : ℕ → ChunkIo := fun _ => ⟨fun _ _ => 0, .success, fun _ => 0⟩
  obtain ⟨entries, hlog, hwithin⟩ := hall io
  obtain ⟨heq, -⟩ := executeWrite_eq dev packet io hcbw hflags
  have hin : ∀ i ≤ 0, (writeStreamOf lba count).InCard dev
      (d.atStream dev cbw packet).phantom.isLocked i := by
    intro i hi
    obtain rfl : i = 0 := by omega
    rw [hstart, WriteStream.InCard, hzero]
    show dev.outOfCard (computePhysicalLba dev false lba) (min (count - 60 * 0) 60) = false
    rw [outOfCard_eq_false_iff (by omega) (by omega), hphys]
    omega
  obtain ⟨entries', data, hlog', hmem, hlen⟩ := writeChunks_complete dev io
    (writeStreamOf lba count) (d.atStream dev cbw packet) (j := 0) (fun _ => rfl)
    (Nat.pos_of_ne_zero hpos) hin
  have hsame : entries = entries' := List.append_cancel_left (hlog.symm.trans (heq.trans hlog'))
  have hlen' : data.length = min (count - 60 * 0) 60 := hlen
  rw [hstart] at hmem
  have hreach := hwithin _ (hsame ▸ hmem) (lba.toNat + dev.lockedSectors.toNat - 2 ^ 32)
    (Or.inr (by
      rw [WriteStream.chunkWrite_writes, hzero, hphys]
      omega))
  exact absurd hreach.1 (by omega)

/-- **Reads and writes while unlocked.**  A READ(10) stays on the hidden volume if and only if
its range, which is never empty, lies inside the reported capacity.  A WRITE(10) does if and only
if its count is zero, `lba + LOCKED_SECTORS` fits in 32 bits, or the wrapped first chunk runs
past the end of the card. -/
theorem unlockedContained_iff (dev : Device) (d : Drive) (cbw packet : List UInt8)
    (lba : UInt32) (count : ℕ) (hlocked : d.phantom.isLocked = false)
    (hflags : d.bot.transferFlags.dataOut = false)
    (hcard : dev.lockedSectors.toNat < dev.emmcSecNum.toNat) :
    (IsRead10 cbw lba count →
      (UnlockedReadContained dev d cbw
        ↔ lba.toNat + max 1 count ≤ dev.emmcSecNum.toNat - dev.lockedSectors.toNat))
    ∧ (IsWrite10 cbw lba count →
      (UnlockedWriteContained dev d cbw packet
        ↔ count = 0 ∨ lba.toNat + dev.lockedSectors.toNat < 2 ^ 32
          ∨ dev.emmcSecNum.toNat
              < lba.toNat + dev.lockedSectors.toNat - 2 ^ 32 + min count 60)) := by
  have hlba := lba.toNat_lt
  have hsec := dev.emmcSecNum.toNat_lt
  refine ⟨fun hcbw => ?_, fun hcbw => ?_⟩
  · rw [unlockedReadContained_iff_range hlocked hflags hcbw]
    unfold Device.onHiddenVolume
    constructor
    · intro hrange
      have hfirst := hrange _ le_rfl (by omega)
      have hlast := hrange ((lba.toNat + dev.lockedSectors.toNat) % 2 ^ 32 + (max 1 count - 1))
        (by omega) (by omega)
      omega
    · intro hcond k hk hk'
      omega
  · constructor
    · intro hall
      by_contra hcond
      simp only [not_or, not_lt] at hcond
      exact not_unlockedWriteContained hlocked hflags hcbw hcond.1 hcond.2.1 hcond.2.2 hall
    intro hcond io
    have hstart : (d.atStream dev cbw packet).phantom.isLocked = false := hlocked
    obtain ⟨heq, -⟩ := executeWrite_eq dev packet io hcbw hflags
    obtain ⟨-, entries, hlog, hhands, -⟩ := writeChunks_sound dev io
      (writeStreamOf lba count) (d.atStream dev cbw packet)
    refine ⟨entries, heq.trans hlog, ?_⟩
    intro a ha k hk
    obtain ⟨j, data, hj, rfl, hlen, hin⟩ := hhands a ha
    rw [hstart] at hin hk
    have hj' : 60 * j < count := hj
    have hlen' : data.length = min (count - 60 * j) 60 := hlen
    rcases hk with hread | hwrite
    · exact absurd hread id
    rw [WriteStream.chunkWrite_writes] at hwrite
    have hnowrap : lba.toNat + dev.lockedSectors.toNat < 2 ^ 32 := by
      rcases hcond with hzero | hfits | hrefused
      · omega
      · exact hfits
      · -- the first chunk is refused, so nothing is handed over
        by_contra hwrap
        have hfirst := hin 0 (Nat.zero_le _)
        rw [WriteStream.InCard] at hfirst
        have hfirst' : dev.outOfCard (computePhysicalLba dev false (lba + UInt32.ofNat (60 * 0)))
            (min (count - 60 * 0) 60) = false := hfirst
        have hlim := dev.lockedSectors.toNat_lt
        rw [outOfCard_eq_false_iff (by omega) (by omega), toNat_unlockedLba,
          toNat_add_ofNat (by omega)] at hfirst'
        omega
    have hend := unlockedChunks_no_wrap hj' hnowrap hin
    have hphys : (computePhysicalLba dev false ((writeStreamOf lba count).lba
        + UInt32.ofNat (60 * j))).toNat
        = lba.toNat + dev.lockedSectors.toNat + 60 * j := by
      show (computePhysicalLba dev false (lba + UInt32.ofNat (60 * j))).toNat = _
      rw [toNat_unlockedLba, toNat_add_ofNat (by omega), Nat.mod_eq_of_lt (by omega)]
      omega
    unfold Device.onHiddenVolume
    omega

/-- The first hidden sector, read and written. -/
theorem unlockedContained_first_hidden_sector :
    UnlockedReadContained sampleDevice (sampleDrive .unlocked)
        (cbwPacket 0x80 512 (rw10Cdb 0x28 0 1))
      ∧ UnlockedWriteContained sampleDevice (sampleDrive .unlocked)
          (cbwPacket 0 512 (rw10Cdb 0x2A 0 1)) [] := by
  constructor
  · have h := (unlockedContained_iff sampleDevice (sampleDrive .unlocked)
      (cbwPacket 0x80 512 (rw10Cdb 0x28 0 1)) [] 0 1
      rfl rfl (by decide)).1
      ⟨by decide +kernel, by decide +kernel, by decide +kernel, by decide +kernel,
        by decide +kernel, by decide +kernel, by decide +kernel⟩
    exact h.mpr (by decide)
  · have h := (unlockedContained_iff sampleDevice (sampleDrive .unlocked)
      (cbwPacket 0 512 (rw10Cdb 0x2A 0 1)) [] 0 1
      rfl rfl (by decide)).2
      ⟨by decide +kernel, by decide +kernel, Or.inl (by decide +kernel), by decide +kernel,
        by decide +kernel, by decide +kernel, by decide +kernel⟩
    exact h.mpr (Or.inr (Or.inl (by decide)))

/-- At LBA `2 ^ 32 - LOCKED_SECTORS` the sum wraps to zero: the first decoy sector is read and
written through the unlocked volume. -/
theorem unlocked_reaches_decoy_sector :
    (sampleDrive .unlocked).phantom.isLocked = false
      ∧ ¬ UnlockedReadContained sampleDevice (sampleDrive .unlocked)
          (cbwPacket 0x80 512 (rw10Cdb 0x28 4278190080 1))
      ∧ ¬ UnlockedWriteContained sampleDevice (sampleDrive .unlocked)
          (cbwPacket 0 512 (rw10Cdb 0x2A 4278190080 1)) [] := by
  have hread : IsRead10 (cbwPacket 0x80 512 (rw10Cdb 0x28 4278190080 1)) 4278190080 1 :=
    ⟨by decide +kernel, by decide +kernel, by decide +kernel, by decide +kernel,
      by decide +kernel, by decide +kernel, by decide +kernel⟩
  have hwrite : IsWrite10 (cbwPacket 0 512 (rw10Cdb 0x2A 4278190080 1)) 4278190080 1 :=
    ⟨by decide +kernel, by decide +kernel, Or.inl (by decide +kernel), by decide +kernel,
      by decide +kernel, by decide +kernel, by decide +kernel⟩
  refine ⟨rfl, ?_, not_unlockedWriteContained rfl rfl hwrite (by decide) (by decide) (by decide)⟩
  rw [unlockedReadContained_iff_range rfl rfl hread]
  intro hrange
  exact absurd (hrange 0 (by decide) (by decide)).1 (by decide)

end Execute

end PhantomDrive
