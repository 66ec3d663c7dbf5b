/-
PhantomDrive/WritePath.lean

What a WRITE does to the drive: one pass of `write_stream_usb2` by cases
(`writeIter_spec`), and what the loop hands to the card: chunk `j` of a stream goes to
the card exactly when it and all chunks before it lie below `EMMCSecNum`
(`writeChunks_sound`, `writeChunks_complete`).
-/
import PhantomDrive.MscWrite
import PhantomDrive.SnoopScan

namespace PhantomDrive

/-! ### The bounds of a chunk -/

theorem outOfCard_eq_false_iff {dev : Device} {lba : UInt32} {n : ℕ} (hpos : 0 < n)
    (hmax : n < 2 ^ 32) :
    dev.outOfCard lba n = false ↔ lba.toNat + n ≤ dev.emmcSecNum.toNat := by
  have hn : (UInt32.ofNat n).toNat = n := by
    rw [UInt32.toNat_ofNat', Nat.mod_eq_of_lt hmax]
  simp only [Device.outOfCard, Bool.or_eq_false_iff, decide_eq_false_iff_not, UInt32.not_le,
    UInt32.not_lt]
  constructor
  · rintro ⟨hlt, hle⟩
    rw [UInt32.lt_iff_toNat_lt] at hlt
    rw [UInt32.le_iff_toNat_le, hn, UInt32.toNat_sub_of_le _ _ (UInt32.le_iff_toNat_le.mpr hlt.le)]
      at hle
    omega
  · intro h
    have hlt : lba.toNat < dev.emmcSecNum.toNat := by omega
    refine ⟨UInt32.lt_iff_toNat_lt.mpr hlt, ?_⟩
    rw [UInt32.le_iff_toNat_le, hn, UInt32.toNat_sub_of_le _ _ (UInt32.le_iff_toNat_le.mpr hlt.le)]
    omega

/-! ### One pass -/

section Iter

variable {dev : Device} {io : ChunkIo} {s : WriteStream} {d : Drive}

@[simp] theorem length_receiveChunkUsb2 (rxBuff : Sector) (firstPacket : Bool) (n : ℕ)
    (packets : ℕ → Sector) : (receiveChunkUsb2 rxBuff firstPacket n packets).length = n := by
  simp [receiveChunkUsb2]

/-- The sectors of a pass as they go to the card: scrubbed while locked, else encrypted. -/
def chunkData (dev : Device) (io : ChunkIo) (s : WriteStream) (d : Drive) : List Sector :=
  let buf := receiveChunkUsb2 d.rxBuff s.firstPacket s.chunkSectors io.packets
  if d.phantom.isLocked then
    sectorsOfBytes buf.length (phantomdriveSnoopWrite io.now (chunkBytes buf) s.lba d.phantom).1
  else phantomdriveEncryptBuf dev.ecdc dev.aesMode d.keys buf (computePhysicalLba dev false s.lba)

@[simp] theorem length_chunkData : (chunkData dev io s d).length = s.chunkSectors := by
  unfold chunkData
  split <;> simp

/-- The statics after a pass. -/
def chunkPhantom (io : ChunkIo) (s : WriteStream) (d : Drive) : Phantom :=
  let buf := receiveChunkUsb2 d.rxBuff s.firstPacket s.chunkSectors io.packets
  if d.phantom.isLocked then (phantomdriveSnoopWrite io.now (chunkBytes buf) s.lba d.phantom).2
  else d.phantom

end Iter

/-! ### What a pass leaves of the statics -/

/-- Snooping may arm the unlock; it does not touch the salt. -/
theorem phantomdriveSnoopWrite_setup (now : ℕ → UInt64) (buf : List UInt8) (lba : UInt32)
    (p : Phantom) :
    let q := (phantomdriveSnoopWrite now buf lba p).2
    (q.state = p.state ∨ q.state = .unlockPending) ∧ q.saltBytes = p.saltBytes := by
  apply phantomdriveSnoopWrite_preserves
    (P := fun q => (q.state = p.state ∨ q.state = .unlockPending) ∧ q.saltBytes = p.saltBytes) buf
  · unfold beginSnoopWrite
    by_cases hlba : lba ≠ p.nextWriteLba
    · rw [if_pos hlba]
      exact ⟨Or.inl rfl, rfl⟩
    · rw [if_neg hlba]
      exact ⟨Or.inl rfl, rfl⟩
  · exact fun _ _ hq => hq
  · exact fun _ _ hq => hq
  · exact fun _ hq => hq
  · intro i v q hq
    rwa [openPendingPassword_state, openPendingPassword_saltBytes]
  · exact fun _ hq => ⟨Or.inr rfl, hq.2⟩
  · intro q hq
    unfold finishPasswordSnoop
    split
    · exact hq
    · exact ⟨Or.inr rfl, hq.2⟩

theorem phantomdriveSnoopWrite_isLocked {now : ℕ → UInt64} {p : Phantom} {lba : UInt32}
    (buf : List UInt8) (h : p.isLocked = true) :
    (phantomdriveSnoopWrite now buf lba p).2.isLocked = true := by
  have hlocked : p.state ≠ .unlocked := of_decide_eq_true h
  refine decide_eq_true ?_
  rcases (phantomdriveSnoopWrite_setup now buf lba p).1 with hsame | hpending
  · rwa [hsame]
  · rw [hpending]
    exact LockState.noConfusion

theorem chunkPhantom_isLocked (io : ChunkIo) (s : WriteStream) (d : Drive) :
    (chunkPhantom io s d).isLocked = d.phantom.isLocked := by
  unfold chunkPhantom
  by_cases h : d.phantom.isLocked = true
  · rw [if_pos h, phantomdriveSnoopWrite_isLocked _ h, h]
  · rw [if_neg h]

/-! ### One pass by cases -/

section Pass

variable {dev : Device} {io : ChunkIo} {s : WriteStream} {d : Drive}

/-- The physical sector a pass starts at. -/
def chunkLba (dev : Device) (s : WriteStream) (d : Drive) : UInt32 :=
  computePhysicalLba dev d.phantom.isLocked s.lba

/-- A pass hands its chunk to `write_chunk_to_sd`. -/
theorem writeIter_eq :
    writeIter dev io s d
      = let r := writeChunkToSd dev io.outcome s.lba (chunkData dev io s d) (chunkLba dev s d)
          { d with phantom := chunkPhantom io s d }
        if r.1 then r
        else (false, { r.2 with
          bot := botSetSense senseKeyMediumError senseAscWriteError .failed r.2.bot }) := by
  unfold writeIter writeReceivedChunk chunkData chunkPhantom chunkLba
  by_cases h : d.phantom.isLocked = true
  · simp only [h, if_true]
  · have hf : d.phantom.isLocked = false := by simpa using h
    simp only [hf, Bool.false_eq_true, if_false]

/-- A chunk outside the card is refused, and the stream ends. -/
theorem writeIter_of_outOfCard (hs : 0 < s.sectorsLeft)
    (h : dev.outOfCard (chunkLba dev s d) s.chunkSectors = true) :
    writeIter dev io s d
      = (false, { d with
          phantom := chunkPhantom io s d
          bot := botSetSense senseKeyMediumError senseAscWriteError .failed d.bot }) := by
  have hpos : s.chunkSectors ≠ 0 := by
    unfold WriteStream.chunkSectors
    omega
  rw [writeIter_eq, writeChunkToSd]
  simp only [length_chunkData, if_neg hpos, if_pos h, Bool.false_eq_true, if_false]

/-- The drive after the chunk of a pass was handed to the card. -/
def handedChunk (dev : Device) (io : ChunkIo) (s : WriteStream) (d : Drive) : Drive :=
  { d with
    phantom := chunkPhantom io s d
    card := d.card.attempt (chunkLba dev s d).toNat (chunkData dev io s d) io.outcome
    log := d.log ++ [.cardWrite d.phantom.isLocked s.lba (chunkLba dev s d)
      (chunkData dev io s d)] }

/-- A chunk inside the card is handed to the card, which stores it or fails. -/
theorem writeIter_of_inCard (hs : 0 < s.sectorsLeft)
    (h : dev.outOfCard (chunkLba dev s d) s.chunkSectors = false) :
    writeIter dev io s d
      = if io.outcome.ok then (true, handedChunk dev io s d)
        else (false, { handedChunk dev io s d with
          bot := botSetSense senseKeyMediumError senseAscWriteError .failed d.bot }) := by
  have hpos : s.chunkSectors ≠ 0 := by
    unfold WriteStream.chunkSectors
    omega
  rw [writeIter_eq, writeChunkToSd]
  simp only [length_chunkData, if_neg hpos, h, Bool.false_eq_true, if_false,
    chunkPhantom_isLocked]
  rcases hok : io.outcome.ok with - | -
  · simp [handedChunk]
  · simp [handedChunk]

/-- What a pass can do to the drive, as far as its bot goes: nothing, or the sense data of a
failed write. -/
def WriteFailed (b : Bot) : Bot := botSetSense senseKeyMediumError senseAscWriteError .failed b

/-- What a pass leaves behind. -/
structure PassEffect (dev : Device) (io : ChunkIo) (s : WriteStream) (d d' : Drive) : Prop where
  phantom : d'.phantom = chunkPhantom io s d
  keys : d'.keys = d.keys
  rxBuff : d'.rxBuff = d.rxBuff
  bot : d'.bot = d.bot ∨ d'.bot = WriteFailed d.bot
  log : d'.log = d.log
    ∨ dev.outOfCard (chunkLba dev s d) s.chunkSectors = false
        ∧ d'.log = d.log ++ [.cardWrite d.phantom.isLocked s.lba (chunkLba dev s d)
          (chunkData dev io s d)]

theorem writeIter_effect (hs : 0 < s.sectorsLeft) :
    PassEffect dev io s d (writeIter dev io s d).2 := by
  rcases hcard : dev.outOfCard (chunkLba dev s d) s.chunkSectors with - | -
  · rw [writeIter_of_inCard hs hcard]
    split
    · exact ⟨rfl, rfl, rfl, Or.inl rfl, Or.inr ⟨hcard, rfl⟩⟩
    · exact ⟨rfl, rfl, rfl, Or.inr rfl, Or.inr ⟨hcard, rfl⟩⟩
  · rw [writeIter_of_outOfCard hs hcard]
    exact ⟨rfl, rfl, rfl, Or.inr rfl, Or.inl rfl⟩

end Pass

/-! ### The chunks of a stream -/

section Chunks

variable {dev : Device}

/-- Chunk `j` of a stream passes the test of `write_chunk_to_sd`. -/
def WriteStream.InCard (s : WriteStream) (dev : Device) (locked : Bool) (j : ℕ) : Prop :=
  dev.outOfCard (computePhysicalLba dev locked (s.lba + UInt32.ofNat (60 * j)))
    (min (s.sectorsLeft - 60 * j) 60) = false

/-- Chunk `j` of a stream is handed to the card as `data`. -/
def WriteStream.chunkWrite (s : WriteStream) (dev : Device) (locked : Bool) (j : ℕ)
    (data : List Sector) : Action :=
  .cardWrite locked (s.lba + UInt32.ofNat (60 * j))
    (computePhysicalLba dev locked (s.lba + UInt32.ofNat (60 * j))) data

theorem WriteStream.next_sectorsLeft (s : WriteStream) :
    s.next.sectorsLeft = s.sectorsLeft - 60 := by
  simp only [WriteStream.next, WriteStream.chunkSectors]
  omega

/-- Chunk `j` of what remains is chunk `j + 1` of the stream. -/
theorem WriteStream.next_chunk {s : WriteStream} {j : ℕ} (h : 60 * j < s.next.sectorsLeft) :
    s.next.lba + UInt32.ofNat (60 * j) = s.lba + UInt32.ofNat (60 * (j + 1))
      ∧ s.next.sectorsLeft - 60 * j = s.sectorsLeft - 60 * (j + 1) := by
  have hnext := s.next_sectorsLeft
  have hchunk : s.chunkSectors = 60 := by
    unfold WriteStream.chunkSectors
    omega
  refine ⟨?_, by omega⟩
  rw [WriteStream.next, hchunk, UInt32.add_assoc, ← UInt32.ofNat_add]
  congr 2
  omega

theorem WriteStream.next_inCard {s : WriteStream} {locked : Bool} {j : ℕ}
    (h : 60 * j < s.next.sectorsLeft) :
    s.next.InCard dev locked j ↔ s.InCard dev locked (j + 1) := by
  unfold WriteStream.InCard
  rw [(WriteStream.next_chunk h).1, (WriteStream.next_chunk h).2]

theorem WriteStream.inCard_zero_iff {s : WriteStream} {d : Drive} :
    s.InCard dev d.phantom.isLocked 0
      ↔ dev.outOfCard (chunkLba dev s d) s.chunkSectors = false := by
  unfold WriteStream.InCard chunkLba WriteStream.chunkSectors
  simp

theorem writeChunks_of_zero {io : ℕ → ChunkIo} {s : WriteStream} {d : Drive}
    (h : s.sectorsLeft = 0) : writeChunks dev io s d = d := by
  rw [writeChunks, if_pos h]

theorem writeChunks_of_pos {io : ℕ → ChunkIo} {s : WriteStream} {d : Drive}
    (h : 0 < s.sectorsLeft) :
    writeChunks dev io s d
      = let r := writeIter dev (io 0) s d
        if r.1 then writeChunks dev (fun k => io (k + 1)) s.next r.2 else r.2 := by
  rw [writeChunks, if_neg (by omega)]

/-- The loop when its first chunk is refused. -/
theorem writeChunks_of_refused {io : ℕ → ChunkIo} {s : WriteStream} {d : Drive}
    (hpos : 0 < s.sectorsLeft) (h : ¬ s.InCard dev d.phantom.isLocked 0) :
    writeChunks dev io s d
      = { d with
          phantom := chunkPhantom (io 0) s d
          bot := botSetSense senseKeyMediumError senseAscWriteError .failed d.bot } := by
  rw [WriteStream.inCard_zero_iff, Bool.not_eq_false] at h
  rw [writeChunks_of_pos hpos, writeIter_of_outOfCard hpos h]
  rfl

/-- The loop when the card stores its first chunk. -/
theorem writeChunks_of_stored {io : ℕ → ChunkIo} {s : WriteStream} {d : Drive}
    (hpos : 0 < s.sectorsLeft) (h : s.InCard dev d.phantom.isLocked 0)
    (hok : (io 0).outcome.ok = true) :
    writeChunks dev io s d
      = writeChunks dev (fun k => io (k + 1)) s.next (handedChunk dev (io 0) s d) := by
  rw [writeChunks_of_pos hpos, writeIter_of_inCard hpos (WriteStream.inCard_zero_iff.mp h),
    if_pos hok]
  rfl

/-- The loop when the card fails on its first chunk. -/
theorem writeChunks_of_failed {io : ℕ → ChunkIo} {s : WriteStream} {d : Drive}
    (hpos : 0 < s.sectorsLeft) (h : s.InCard dev d.phantom.isLocked 0)
    (hok : (io 0).outcome.ok = false) :
    writeChunks dev io s d
      = { handedChunk dev (io 0) s d with
          bot := botSetSense senseKeyMediumError senseAscWriteError .failed d.bot } := by
  rw [writeChunks_of_pos hpos, writeIter_of_inCard hpos (WriteStream.inCard_zero_iff.mp h),
    hok]
  rfl

theorem handedChunk_isLocked (dev : Device) (io : ChunkIo) (s : WriteStream) (d : Drive) :
    (handedChunk dev io s d).phantom.isLocked = d.phantom.isLocked :=
  chunkPhantom_isLocked io s d

theorem handedChunk_log (io : ChunkIo) (s : WriteStream) (d : Drive) :
    (handedChunk dev io s d).log
      = d.log ++ [s.chunkWrite dev d.phantom.isLocked 0 (chunkData dev io s d)] := by
  simp [handedChunk, WriteStream.chunkWrite, chunkLba]

/-- `a` hands a chunk of the stream to the card, behind chunks that passed the test. -/
def WriteStream.Hands (s : WriteStream) (dev : Device) (locked : Bool) (a : Action) : Prop :=
  ∃ j data, 60 * j < s.sectorsLeft ∧ a = s.chunkWrite dev locked j data
    ∧ data.length = min (s.sectorsLeft - 60 * j) 60 ∧ ∀ i ≤ j, s.InCard dev locked i

theorem WriteStream.hands_first {s : WriteStream} {d : Drive} (io : ChunkIo)
    (hpos : 0 < s.sectorsLeft) (h : s.InCard dev d.phantom.isLocked 0) :
    s.Hands dev d.phantom.isLocked
      (s.chunkWrite dev d.phantom.isLocked 0 (chunkData dev io s d)) := by
  refine ⟨0, chunkData dev io s d, by omega, rfl, ?_, ?_⟩
  · rw [length_chunkData, WriteStream.chunkSectors, Nat.mul_zero, Nat.sub_zero]
  · intro i hi
    obtain rfl : i = 0 := by omega
    exact h

theorem WriteStream.hands_next {s : WriteStream} {locked : Bool} {a : Action}
    (hfirst : s.InCard dev locked 0) (h : s.next.Hands dev locked a) : s.Hands dev locked a := by
  obtain ⟨j, data, hj, rfl, hlen, hcard⟩ := h
  have hshift := WriteStream.next_chunk hj
  refine ⟨j + 1, data, by omega, ?_, ?_, ?_⟩
  · rw [WriteStream.chunkWrite, WriteStream.chunkWrite, hshift.1]
  · rw [hlen, hshift.2]
  · intro i hi
    rcases i with - | i
    · exact hfirst
    · exact (WriteStream.next_inCard (by omega)).mp (hcard i (by omega))

/-- `a` hands sector `k` of the card to `EMMCCardWriteMulSec`. -/
def Action.WritesSector (a : Action) (k : ℕ) : Prop :=
  match a with
  | .cardWrite _ _ lba data => lba.toNat ≤ k ∧ k < lba.toNat + data.length
  | _ => False

/-- An attempt changes no sector outside the chunk. -/
theorem Card.attempt_outside {card : Card} {lba : ℕ} {data : List Sector}
    {outcome : WriteOutcome} {k : ℕ} (h : ¬ (lba ≤ k ∧ k < lba + data.length)) :
    card.attempt lba data outcome k = card k := by
  cases outcome with
  | success => exact Card.write_outside (by omega)
  | failure left => exact if_neg h

theorem handedChunk_card {io : ChunkIo} {s : WriteStream} {d : Drive} {k : ℕ}
    (h : ¬ (s.chunkWrite dev d.phantom.isLocked 0 (chunkData dev io s d)).WritesSector k) :
    (handedChunk dev io s d).card k = d.card k := by
  apply Card.attempt_outside
  simpa [WriteStream.chunkWrite, Action.WritesSector, chunkLba] using h

/-- What the loop hands to the card are chunks of its stream, each behind chunks that passed
the test; no other sector changes, and the lock does not change meanwhile. -/
theorem writeChunks_sound (dev : Device) (io : ℕ → ChunkIo) (s : WriteStream) (d : Drive) :
    (writeChunks dev io s d).phantom.isLocked = d.phantom.isLocked
      ∧ ∃ entries, (writeChunks dev io s d).log = d.log ++ entries
        ∧ (∀ a ∈ entries, s.Hands dev d.phantom.isLocked a)
        ∧ ∀ k, (∀ a ∈ entries, ¬ a.WritesSector k) →
          (writeChunks dev io s d).card k = d.card k := by
  induction hn : s.sectorsLeft using Nat.strong_induction_on generalizing io s d with
  | _ n ih =>
    rcases Nat.eq_zero_or_pos s.sectorsLeft with hzero | hpos
    · rw [writeChunks_of_zero hzero]
      exact ⟨rfl, [], by simp, by simp, fun _ _ => rfl⟩
    by_cases hcard : s.InCard dev d.phantom.isLocked 0
    · have hfirst := WriteStream.hands_first (io 0) hpos hcard
      rcases hok : (io 0).outcome.ok with - | -
      · rw [writeChunks_of_failed hpos hcard hok]
        refine ⟨handedChunk_isLocked dev .., _, handedChunk_log ..,
          by simpa using hfirst, ?_⟩
        intro k hk
        exact handedChunk_card (hk _ (List.mem_singleton_self _))
      · rw [writeChunks_of_stored hpos hcard hok]
        obtain ⟨hlocked, entries, hlog, hentries, hframe⟩ := ih s.next.sectorsLeft
          (by have := s.next_sectorsLeft; omega) (fun k => io (k + 1)) s.next
          (handedChunk dev (io 0) s d) rfl
        rw [handedChunk_isLocked] at hlocked hentries
        refine ⟨hlocked, s.chunkWrite dev d.phantom.isLocked 0 (chunkData dev (io 0) s d)
          :: entries, ?_, ?_, ?_⟩
        · rw [hlog, handedChunk_log, List.append_assoc, List.singleton_append]
        · intro a ha
          rcases List.mem_cons.mp ha with rfl | ha
          · exact hfirst
          · exact WriteStream.hands_next hcard (hentries a ha)
        · intro k hk
          rw [hframe k fun a ha => hk a (List.mem_cons_of_mem _ ha)]
          exact handedChunk_card (hk _ List.mem_cons_self)
    · rw [writeChunks_of_refused hpos hcard]
      exact ⟨chunkPhantom_isLocked .., [], by simp, by simp, fun _ _ => rfl⟩

/-- With a card that stores what it is given, every chunk that passes the test together with
all chunks before it is handed over. -/
theorem writeChunks_complete (dev : Device) (io : ℕ → ChunkIo) (s : WriteStream) (d : Drive)
    (hio : ∀ k, (io k).outcome.ok = true) {j : ℕ} (hj : 60 * j < s.sectorsLeft)
    (hcard : ∀ i ≤ j, s.InCard dev d.phantom.isLocked i) :
    ∃ entries data, (writeChunks dev io s d).log = d.log ++ entries
      ∧ s.chunkWrite dev d.phantom.isLocked j data ∈ entries
      ∧ data.length = min (s.sectorsLeft - 60 * j) 60 := by
  induction j generalizing io s d with
  | zero =>
      have hpos : 0 < s.sectorsLeft := by omega
      rw [writeChunks_of_stored hpos (hcard 0 le_rfl) (hio 0)]
      obtain ⟨-, entries, hlog, -, -⟩ := writeChunks_sound dev (fun k => io (k + 1)) s.next
        (handedChunk dev (io 0) s d)
      refine ⟨s.chunkWrite dev d.phantom.isLocked 0 (chunkData dev (io 0) s d) :: entries,
        chunkData dev (io 0) s d, ?_, List.mem_cons_self, ?_⟩
      · rw [hlog, handedChunk_log, List.append_assoc, List.singleton_append]
      · rw [length_chunkData, WriteStream.chunkSectors, Nat.mul_zero, Nat.sub_zero]
  | succ j ih =>
      have hpos : 0 < s.sectorsLeft := by omega
      have hj' : 60 * j < s.next.sectorsLeft := by
        have := s.next_sectorsLeft
        omega
      have hshift := WriteStream.next_chunk hj'
      rw [writeChunks_of_stored hpos (hcard 0 (Nat.zero_le _)) (hio 0)]
      obtain ⟨entries, data, hlog, hmem, hlen⟩ := ih (fun k => io (k + 1)) s.next (handedChunk dev (io 0) s d)
        (fun k => hio (k + 1)) hj' (by
          intro i hi
          rw [handedChunk_isLocked]
          exact (WriteStream.next_inCard (by omega)).mpr (hcard (i + 1) (by omega)))
      refine ⟨s.chunkWrite dev d.phantom.isLocked 0 (chunkData dev (io 0) s d) :: entries, data,
        ?_, List.mem_cons_of_mem _ ?_, ?_⟩
      · rw [hlog, handedChunk_log, List.append_assoc, List.singleton_append]
      · rw [handedChunk_isLocked, WriteStream.chunkWrite, hshift.1] at hmem
        exact hmem
      · rw [hlen, hshift.2]

end Chunks

end PhantomDrive
