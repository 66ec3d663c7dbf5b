/-
PhantomDrive/WriteBuffers.lean

WRITE(10) with its two buffers.  `write_stream_usb2` receives a chunk into one buffer, hands it to
the card, and receives the next chunk into the other one before it knows that the card is ready.
Here the buffers, the packets of the host and their count are explicit; `MscWrite.lean` has a chunk
as one step and sees the same drive (`mscWriteSectorsRun_drive`).

Main result: whatever the driver of the card answers, the chunks handed over are those of the
packets in order, one after the other as long as they are stored; the CSW tells whether all were;
and the host has been asked for the packets of these chunks and for no other
(`mscWriteSectorsRun_chunks`).
-/
import PhantomDrive.WritePath
import PhantomDrive.Session

namespace PhantomDrive

/-! ### The code -/

/-- What a WRITE(10) meets: the packets behind the one in `endp1Rbuff`, and for each chunk the
result of the driver and the clock. -/
structure WriteEnv where
  packets : ℕ → Sector
  outcome : ℕ → WriteOutcome
  now : ℕ → ℕ → UInt64

/-- `write_stream_usb2` while it runs. -/
structure WriteRun where
  /-- `UDisk_Out_Buf`. -/
  outBuf : ℕ → Sector
  /-- `UDisk_In_Buf`. -/
  inBuf : ℕ → Sector
  /-- `buf` is `UDisk_In_Buf`. -/
  useIn : Bool
  firstPacket : Bool
  /-- The packets taken from the endpoint. -/
  received : ℕ
  /-- The chunks handed to `write_received_chunk`. -/
  handed : ℕ
  sectorsLeft : ℕ
  lba : UInt32
  /-- The buffer handed to the card that `wait_dat0_ready` has not been called for. -/
  inFlight : Option Bool
  /-- A packet went into a buffer in flight. -/
  clobbered : Bool
  drive : Drive

/-- The buffer `buf` points to. -/
def WriteRun.buf (s : WriteRun) : ℕ → Sector := if s.useIn then s.inBuf else s.outBuf

def WriteRun.setBuf (f : ℕ → Sector) (s : WriteRun) : WriteRun :=
  if s.useIn then { s with inBuf := f } else { s with outBuf := f }

/-- `chunk_sectors`. -/
def WriteRun.chunkSectors (s : WriteRun) : ℕ := min s.sectorsLeft 60

/-- The loop of `receive_chunk_usb2`: the next packets into the sectors from `i` on. -/
def receivePackets (packets : ℕ → Sector) : ℕ → ℕ → (ℕ → Sector) → ℕ → (ℕ → Sector) × ℕ
  | 0, _, buf, received => (buf, received)
  | n + 1, i, buf, received =>
      receivePackets packets n (i + 1) (Function.update buf i (packets received)) (received + 1)

/-- `receive_chunk_usb2`. -/
def WriteRun.receive (env : WriteEnv) (s : WriteRun) : WriteRun :=
  let s := { s with clobbered := s.clobbered || s.inFlight = some s.useIn }
  let buf := if s.firstPacket then Function.update s.buf 0 s.drive.rxBuff else s.buf
  let sectorsReceived := if s.firstPacket then 1 else 0
  let r := receivePackets env.packets (s.chunkSectors - sectorsReceived) sectorsReceived buf
    s.received
  { s.setBuf r.1 with firstPacket := false, received := r.2 }

/-- `write_received_chunk`, which scrubs or encrypts in the buffer. -/
def WriteRun.write (dev : Device) (env : WriteEnv) (s : WriteRun) : Bool × WriteRun :=
  let data := (List.range s.chunkSectors).map s.buf
  let physicalLba := computePhysicalLba dev s.drive.phantom.isLocked s.lba
  let stored :=
    if s.drive.phantom.isLocked then
      sectorsOfBytes data.length
        (phantomdriveSnoopWrite (env.now s.handed) (chunkBytes data) s.lba s.drive.phantom).1
    else phantomdriveEncryptBuf dev.ecdc dev.aesMode s.drive.keys data physicalLba
  let r := writeReceivedChunk dev ⟨env.packets, env.outcome s.handed, env.now s.handed⟩ data s.lba
    s.drive
  (r.1, { s.setBuf fun i => stored.getD i (s.buf i) with
    handed := s.handed + 1, inFlight := some s.useIn, drive := r.2 })

/-- `wait_dat0_ready`. -/
def WriteRun.waitDat0Ready (s : WriteRun) : WriteRun := { s with inFlight := none }

/-- `bot_set_sense(SENSE_KEY_MEDIUM_ERROR, SENSE_ASC_WRITE_ERROR, CSW_STATUS_FAILED)`. -/
def WriteRun.fail (s : WriteRun) : WriteRun :=
  { s with drive := { s.drive with
    bot := botSetSense senseKeyMediumError senseAscWriteError .failed s.drive.bot } }

/-- The locals behind a chunk that was stored. -/
def WriteRun.advance (s : WriteRun) : WriteRun :=
  { s with
    lba := s.lba + UInt32.ofNat s.chunkSectors, sectorsLeft := s.sectorsLeft - s.chunkSectors }

/-- `buf = alternate_write_buf(buf)`. -/
def WriteRun.alternate (s : WriteRun) : WriteRun := { s with useIn := !s.useIn }

@[simp] theorem WriteRun.setBuf_sectorsLeft (f : ℕ → Sector) (s : WriteRun) :
    (s.setBuf f).sectorsLeft = s.sectorsLeft := by
  unfold WriteRun.setBuf
  split
  all_goals rfl

@[simp] theorem WriteRun.write_sectorsLeft (dev : Device) (env : WriteEnv) (s : WriteRun) :
    (s.write dev env).2.sectorsLeft = s.sectorsLeft := WriteRun.setBuf_sectorsLeft _ s

@[simp] theorem WriteRun.receive_sectorsLeft (env : WriteEnv) (s : WriteRun) :
    (s.receive env).sectorsLeft = s.sectorsLeft := WriteRun.setBuf_sectorsLeft ..

theorem WriteRun.waitDat0Ready_of_none {s : WriteRun} (h : s.inFlight = none) :
    s.waitDat0Ready = s := by
  cases s
  cases h
  rfl

/-- The loop `while (sectors_left > 0)` of `write_stream_usb2`. -/
def WriteRun.loop (dev : Device) (env : WriteEnv) (s : WriteRun) : WriteRun :=
  if s.sectorsLeft = 0 then s
  else
    let r := s.write dev env
    if !r.1 then r.2.fail
    else
      let s := r.2.advance
      if s.sectorsLeft = 0 then s.waitDat0Ready
      else WriteRun.loop dev env (s.alternate.receive env).waitDat0Ready
termination_by s.sectorsLeft
decreasing_by
  show (WriteRun.receive env _).sectorsLeft < _
  rw [WriteRun.receive_sectorsLeft]
  show (WriteRun.write dev env _).2.sectorsLeft - min (WriteRun.write dev env _).2.sectorsLeft 60 < _
  rw [WriteRun.write_sectorsLeft]
  omega

/-- `write_stream_usb2` when it begins, from what the two buffers hold. -/
def WriteRun.start (outBuf inBuf : ℕ → Sector) (totalSectors : ℕ) (lba : UInt32) (d : Drive) :
    WriteRun where
  outBuf := outBuf
  inBuf := inBuf
  useIn := false
  firstPacket := true
  received := 0
  handed := 0
  sectorsLeft := totalSectors
  lba := lba
  inFlight := none
  clobbered := false
  drive := d

/-- `write_stream_usb2`. -/
def writeStreamUsb2Run (dev : Device) (env : WriteEnv) (outBuf inBuf : ℕ → Sector)
    (totalSectors : ℕ) (lba : UInt32) (d : Drive) : WriteRun :=
  let s := WriteRun.start outBuf inBuf totalSectors lba d
  if 0 < s.sectorsLeft then (s.receive env).loop dev env else s

/-- `msc_write_sectors`. -/
def mscWriteSectorsRun (dev : Device) (env : WriteEnv) (outBuf inBuf : ℕ → Sector) (d : Drive) :
    WriteRun :=
  let totalSectors := d.bot.transferSectors
  let lba := d.bot.currentLba
  let d := { d with bot := { d.bot with transferBytesLeft := 0 } }
  let s := writeStreamUsb2Run dev env outBuf inBuf totalSectors lba d
  if s.drive.bot.transferBytesLeft = 0 then
    let flags := { s.drive.bot.transferFlags with dataOut := false }
    { s with drive := { s.drive with bot := botSendCsw { s.drive.bot with transferFlags := flags } } }
  else s

/-! ### The chunks of a command -/

section Command

variable (dev : Device) (env : WriteEnv) (d : Drive) (n : ℕ) (lba : UInt32)

/-- Sector `i` that the host sends for the command. -/
def commandSector (i : ℕ) : Sector := if i = 0 then d.rxBuff else env.packets (i - 1)

/-- The sectors of chunk `k` as the host sends them. -/
def chunkSent (k : ℕ) : List Sector :=
  (List.range (min (n - 60 * k) 60)).map fun i => commandSector env d (60 * k + i)

/-- The sector of the host where chunk `k` begins. -/
def chunkStart (k : ℕ) : UInt32 := lba + UInt32.ofNat (60 * k)

/-- Where chunk `k` begins on the card. -/
def chunkTarget (k : ℕ) : UInt32 :=
  computePhysicalLba dev d.phantom.isLocked (chunkStart lba k)

/-- The statics before chunk `k`: while locked, the chunks before it were snooped. -/
def phantomAt : ℕ → Phantom
  | 0 => d.phantom
  | k + 1 =>
      if d.phantom.isLocked then
        (phantomdriveSnoopWrite (env.now k) (chunkBytes (chunkSent env d n k)) (chunkStart lba k)
          (phantomAt k)).2
      else phantomAt k

/-- Chunk `k` as it is handed to the card: scrubbed while locked, else encrypted. -/
def chunkHanded (k : ℕ) : List Sector :=
  if d.phantom.isLocked then
    sectorsOfBytes (chunkSent env d n k).length
      (phantomdriveSnoopWrite (env.now k) (chunkBytes (chunkSent env d n k)) (chunkStart lba k)
        (phantomAt env d n lba k)).1
  else
    phantomdriveEncryptBuf dev.ecdc dev.aesMode d.keys (chunkSent env d n k)
      (chunkTarget dev d lba k)

/-- Chunk `k` does not fit on the card. -/
def chunkOutside (k : ℕ) : Bool :=
  dev.outOfCard (chunkTarget dev d lba k) (chunkSent env d n k).length

/-- Chunk `k` is stored if it is handed over. -/
def chunkStored (k : ℕ) : Bool :=
  !chunkOutside dev env d n lba k && (env.outcome k).ok

/-- What is asked of the card for chunk `k`. -/
def handover (k : ℕ) : Action :=
  .cardWrite d.phantom.isLocked (chunkStart lba k) (chunkTarget dev d lba k)
    (chunkHanded dev env d n lba k)

/-- What was asked of the card for the first `J` chunks; the driver is not called for one that does
not fit. -/
def handovers (J : ℕ) : List Action :=
  ((List.range J).filter fun k => !chunkOutside dev env d n lba k).map (handover dev env d n lba)

/-- The card behind the first chunks. -/
def cardAt : ℕ → Card
  | 0 => d.card
  | k + 1 =>
      if chunkOutside dev env d n lba k then cardAt k
      else (cardAt k).attempt (chunkTarget dev d lba k).toNat (chunkHanded dev env d n lba k)
        (env.outcome k)

/-- The drive when `k` chunks were handed over. -/
def driveAt (k : ℕ) : Drive :=
  { d with
    phantom := phantomAt env d n lba k
    card := cardAt dev env d n lba k
    log := d.log ++ handovers dev env d n lba k }

end Command

/-! ### One chunk -/

section Chunk

variable {dev : Device} {env : WriteEnv} {d : Drive} {n : ℕ} {lba : UInt32}

@[simp] theorem length_chunkSent (k : ℕ) : (chunkSent env d n k).length = min (n - 60 * k) 60 := by
  simp [chunkSent]

@[simp] theorem length_chunkHanded (k : ℕ) :
    (chunkHanded dev env d n lba k).length = min (n - 60 * k) 60 := by
  unfold chunkHanded
  split
  · simp
  · simp

theorem phantomAt_isLocked (env : WriteEnv) (d : Drive) (n : ℕ) (lba : UInt32) (k : ℕ) :
    (phantomAt env d n lba k).isLocked = d.phantom.isLocked := by
  induction k with
  | zero => rfl
  | succ k ih =>
    rw [phantomAt]
    by_cases h : d.phantom.isLocked = true
    · rw [if_pos h, phantomdriveSnoopWrite_isLocked _ (ih.trans h), h]
    · rw [if_neg h, ih]

theorem handovers_succ (k : ℕ) :
    handovers dev env d n lba (k + 1)
      = if chunkOutside dev env d n lba k then handovers dev env d n lba k
        else handovers dev env d n lba k ++ [handover dev env d n lba k] := by
  rw [handovers, List.range_succ, List.filter_append, List.map_append]
  rcases hout : chunkOutside dev env d n lba k with - | -
  · rw [List.filter_singleton, hout]
    rfl
  · rw [List.filter_singleton, hout]
    exact List.append_nil _

@[simp] theorem driveAt_zero : driveAt dev env d n lba 0 = d := by
  rw [driveAt, handovers]
  exact congrArg (fun log => { d with log := log }) (List.append_nil d.log)

/-- A chunk that is stored is on the card as it was handed over. -/
theorem cardAt_of_stored {k : ℕ} (h : chunkStored dev env d n lba k = true) :
    cardAt dev env d n lba (k + 1)
      = (cardAt dev env d n lba k).write (chunkTarget dev d lba k).toNat
          (chunkHanded dev env d n lba k) := by
  obtain ⟨hinside, hok⟩ := Bool.and_eq_true_iff.mp h
  rw [cardAt, if_neg (by simpa using hinside)]
  rcases houtcome : env.outcome k with - | left
  · rfl
  · rw [houtcome] at hok
    cases hok

/-- `write_chunk_to_sd` on chunk `k`. -/
theorem writeChunkToSd_driveAt (dev : Device) (env : WriteEnv) (d : Drive) (lba : UInt32) {k : ℕ}
    (hk : 60 * k < n) :
    writeChunkToSd dev (env.outcome k) (chunkStart lba k) (chunkHanded dev env d n lba k)
        (chunkTarget dev d lba k)
        { driveAt dev env d n lba k with phantom := phantomAt env d n lba (k + 1) }
      = (chunkStored dev env d n lba k, driveAt dev env d n lba (k + 1)) := by
  have hpos : min (n - 60 * k) 60 ≠ 0 := by omega
  have houtside : dev.outOfCard (chunkTarget dev d lba k) (min (n - 60 * k) 60)
      = chunkOutside dev env d n lba k := by
    rw [chunkOutside, length_chunkSent]
  rw [writeChunkToSd, length_chunkHanded, if_neg hpos, houtside, chunkStored, driveAt, driveAt,
    handovers_succ, cardAt]
  dsimp only
  rw [phantomAt_isLocked]
  rcases chunkOutside dev env d n lba k with - | -
  · rw [if_neg Bool.false_ne_true, if_neg Bool.false_ne_true, if_neg Bool.false_ne_true,
      ← List.append_assoc]
    rfl
  · rfl

/-- **One chunk**: `write_received_chunk` on the packets of chunk `k`. -/
theorem writeReceivedChunk_driveAt (dev : Device) (env : WriteEnv) (d : Drive) (lba : UInt32)
    {k : ℕ} (hk : 60 * k < n) :
    writeReceivedChunk dev ⟨env.packets, env.outcome k, env.now k⟩ (chunkSent env d n k)
        (chunkStart lba k) (driveAt dev env d n lba k)
      = (chunkStored dev env d n lba k, driveAt dev env d n lba (k + 1)) := by
  have hlocked := phantomAt_isLocked env d n lba k
  have hsd := writeChunkToSd_driveAt dev env d lba hk
  rw [chunkHanded, phantomAt] at hsd
  have hphantom : (driveAt dev env d n lba k).phantom = phantomAt env d n lba k := rfl
  rw [writeReceivedChunk, hphantom, hlocked]
  by_cases h : d.phantom.isLocked = true
  · rw [if_pos h, if_pos h] at hsd
    rw [if_pos h]
    exact hsd
  · rw [if_neg h, if_neg h] at hsd
    rw [if_neg h]
    exact hsd

end Chunk

/-! ### The buffers -/

section Buffers

variable {dev : Device} {env : WriteEnv} {d : Drive} {n : ℕ} {lba : UInt32}

theorem receivePackets_eq (packets : ℕ → Sector) (m : ℕ) :
    ∀ (i : ℕ) (buf : ℕ → Sector) (received : ℕ),
      receivePackets packets m i buf received
        = (fun k => if i ≤ k ∧ k < i + m then packets (received + (k - i)) else buf k,
          received + m) := by
  induction m with
  | zero =>
    intro i buf received
    rw [receivePackets]
    refine congrArg₂ Prod.mk (funext fun k => ?_) rfl
    rw [if_neg (by omega)]
  | succ m ih =>
    intro i buf received
    rw [receivePackets, ih]
    refine congrArg₂ Prod.mk (funext fun k => ?_) (by omega)
    rcases lt_trichotomy k i with hlt | rfl | hgt
    · rw [if_neg (by omega), if_neg (by omega), Function.update_of_ne (by omega)]
    · rw [if_neg (by omega), if_pos (by omega), Function.update_self, Nat.sub_self]
      rfl
    · by_cases hin : k < i + (m + 1)
      · rw [if_pos (by omega), if_pos (by omega)]
        congr 1
        omega
      · rw [if_neg (by omega), if_neg (by omega), Function.update_of_ne (by omega)]

@[simp] theorem WriteRun.setBuf_buf (f : ℕ → Sector) (s : WriteRun) : (s.setBuf f).buf = f := by
  unfold WriteRun.setBuf WriteRun.buf
  by_cases h : s.useIn = true
  · rw [if_pos h]
    exact if_pos h
  · rw [if_neg h]
    exact if_neg h

/-- `write_stream_usb2` stands before its chunk `k`, which is to be received next. -/
structure Awaits (dev : Device) (env : WriteEnv) (d : Drive) (n : ℕ) (lba : UInt32) (k : ℕ)
    (s : WriteRun) : Prop where
  pos : 60 * k < n
  sectorsLeft : s.sectorsLeft = n - 60 * k
  start : s.lba = chunkStart lba k
  firstPacket : s.firstPacket = decide (k = 0)
  received : s.received = 60 * k - 1
  handed : s.handed = k
  inFlight : s.inFlight ≠ some s.useIn
  clobbered : s.clobbered = false
  drive : s.drive = driveAt dev env d n lba k

/-- `write_stream_usb2` has received chunk `k`, and no buffer is in flight. -/
structure HasReceived (dev : Device) (env : WriteEnv) (d : Drive) (n : ℕ) (lba : UInt32) (k : ℕ)
    (s : WriteRun) : Prop where
  pos : 60 * k < n
  sectorsLeft : s.sectorsLeft = n - 60 * k
  start : s.lba = chunkStart lba k
  firstPacket : s.firstPacket = false
  received : s.received = min n (60 * (k + 1)) - 1
  handed : s.handed = k
  inFlight : s.inFlight = none
  clobbered : s.clobbered = false
  drive : s.drive = driveAt dev env d n lba k
  buf : (List.range s.chunkSectors).map s.buf = chunkSent env d n k

/-- Storing into the buffer leaves the rest. -/
theorem WriteRun.setBuf_frame (f : ℕ → Sector) (s : WriteRun) :
    (s.setBuf f).lba = s.lba ∧ (s.setBuf f).handed = s.handed ∧ (s.setBuf f).drive = s.drive
      ∧ (s.setBuf f).clobbered = s.clobbered ∧ (s.setBuf f).useIn = s.useIn
      ∧ (s.setBuf f).firstPacket = s.firstPacket ∧ (s.setBuf f).received = s.received
      ∧ (s.setBuf f).inFlight = s.inFlight := by
  unfold WriteRun.setBuf
  split
  all_goals exact ⟨rfl, rfl, rfl, rfl, rfl, rfl, rfl, rfl⟩

/-- What the loop of `receive_chunk_usb2` leaves, and how many packets it takes. -/
theorem Awaits.packets {k : ℕ} {s : WriteRun} (h : Awaits dev env d n lba k s) :
    let start := if s.firstPacket then 1 else 0
    let buf := if s.firstPacket then Function.update s.buf 0 s.drive.rxBuff else s.buf
    let r := receivePackets env.packets (s.chunkSectors - start) start buf s.received
    (∀ i < min (n - 60 * k) 60, r.1 i = commandSector env d (60 * k + i))
      ∧ r.2 = min n (60 * (k + 1)) - 1 := by
  have hk := h.pos
  have hrx : s.drive.rxBuff = d.rxBuff := by
    rw [h.drive]
    rfl
  rw [WriteRun.chunkSectors, h.sectorsLeft, h.received, h.firstPacket, hrx]
  dsimp only
  by_cases hfirst : k = 0
  · subst hfirst
    rw [decide_eq_true rfl, if_pos rfl, if_pos rfl, receivePackets_eq]
    refine ⟨fun i hi => ?_, by omega⟩
    dsimp only
    rcases Nat.eq_zero_or_pos i with rfl | hpos
    · rw [if_neg (by omega), Function.update_self, commandSector, if_pos (by omega)]
    · rw [if_pos (by omega), commandSector, if_neg (by omega)]
      congr 1
      omega
  · rw [decide_eq_false hfirst, if_neg Bool.false_ne_true, if_neg Bool.false_ne_true,
      receivePackets_eq]
    refine ⟨fun i hi => ?_, by omega⟩
    dsimp only
    rw [if_pos (by omega), commandSector, if_neg (by omega)]
    congr 1
    omega

/-- **Receiving a chunk** takes its packets in order, and no more. -/
theorem Awaits.receive {k : ℕ} {s : WriteRun} (h : Awaits dev env d n lba k s) :
    HasReceived dev env d n lba k (s.receive env).waitDat0Ready := by
  obtain ⟨hbuf, hcount⟩ := h.packets
  have hclobbered : (s.clobbered || decide (s.inFlight = some s.useIn)) = false := by
    rw [h.clobbered, decide_eq_false h.inFlight]
    rfl
  have hleft : (s.receive env).waitDat0Ready.sectorsLeft = n - 60 * k :=
    (WriteRun.receive_sectorsLeft env s).trans h.sectorsLeft
  have hframe := fun f => WriteRun.setBuf_frame f
    { s with clobbered := s.clobbered || decide (s.inFlight = some s.useIn) }
  refine ⟨h.pos, hleft, ?_, rfl, hcount, ?_, rfl, ?_, ?_, ?_⟩
  · exact (hframe _).1.trans h.start
  · exact (hframe _).2.1.trans h.handed
  · exact (hframe _).2.2.2.1.trans hclobbered
  · exact (hframe _).2.2.1.trans h.drive
  · have hstored : (s.receive env).waitDat0Ready.buf = _ := WriteRun.setBuf_buf _
      { s with clobbered := s.clobbered || decide (s.inFlight = some s.useIn) }
    rw [WriteRun.chunkSectors, hleft, hstored, chunkSent]
    exact List.map_congr_left fun i hi => hbuf i (List.mem_range.mp hi)

/-- **Handing a chunk over.** -/
theorem HasReceived.write {k : ℕ} {s : WriteRun} (h : HasReceived dev env d n lba k s) :
    (s.write dev env).1 = chunkStored dev env d n lba k
      ∧ (s.write dev env).2.drive = driveAt dev env d n lba (k + 1)
      ∧ (s.write dev env).2.handed = k + 1 ∧ (s.write dev env).2.inFlight = some s.useIn
      ∧ (s.write dev env).2.useIn = s.useIn ∧ (s.write dev env).2.lba = s.lba
      ∧ (s.write dev env).2.firstPacket = false ∧ (s.write dev env).2.received = s.received
      ∧ (s.write dev env).2.clobbered = false := by
  have hchunk := writeReceivedChunk_driveAt dev env d lba h.pos
  rw [← h.buf, ← h.start, ← h.drive, ← h.handed] at hchunk
  have hdrive : (writeReceivedChunk dev ⟨env.packets, env.outcome s.handed, env.now s.handed⟩
      ((List.range s.chunkSectors).map s.buf) s.lba s.drive).2
        = driveAt dev env d n lba (k + 1) := by
    rw [hchunk, h.handed]
  have hstatus : (writeReceivedChunk dev ⟨env.packets, env.outcome s.handed, env.now s.handed⟩
      ((List.range s.chunkSectors).map s.buf) s.lba s.drive).1 = chunkStored dev env d n lba k := by
    rw [hchunk, h.handed]
  obtain ⟨hlba, -, -, hclobbered, huse, hfirst, hreceived, -⟩ := WriteRun.setBuf_frame (fun i =>
    (if s.drive.phantom.isLocked then
      sectorsOfBytes ((List.range s.chunkSectors).map s.buf).length
        (phantomdriveSnoopWrite (env.now s.handed)
          (chunkBytes ((List.range s.chunkSectors).map s.buf)) s.lba s.drive.phantom).1
    else phantomdriveEncryptBuf dev.ecdc dev.aesMode s.drive.keys
      ((List.range s.chunkSectors).map s.buf)
      (computePhysicalLba dev s.drive.phantom.isLocked s.lba)).getD i (s.buf i)) s
  exact ⟨hstatus, hdrive, congrArg (· + 1) h.handed, rfl, huse, hlba, hfirst.trans h.firstPacket,
    hreceived, hclobbered.trans h.clobbered⟩

/-- `write_stream_usb2` is done, with `J` chunks handed over. -/
structure Ends (dev : Device) (env : WriteEnv) (d : Drive) (n : ℕ) (lba : UInt32) (J : ℕ)
    (s : WriteRun) : Prop where
  within : ∀ k < J, 60 * k < n
  behindStored : ∀ k, k + 1 < J → chunkStored dev env d n lba k = true
  handed : s.handed = J
  received : s.received = min n (60 * J) - 1
  clobbered : s.clobbered = false
  finish : (∀ k, 60 * k < n → chunkStored dev env d n lba k = true) ∧ n ≤ 60 * J
        ∧ s.drive = driveAt dev env d n lba J
    ∨ 0 < J ∧ chunkStored dev env d n lba (J - 1) = false
        ∧ s.drive = { driveAt dev env d n lba J with bot := WriteFailed d.bot }

/-- The next chunk, behind one that was stored. -/
theorem HasReceived.next {k : ℕ} {s : WriteRun} (h : HasReceived dev env d n lba k s)
    (hmore : 60 * (k + 1) < n) :
    Awaits dev env d n lba (k + 1) (s.write dev env).2.advance.alternate := by
  obtain ⟨-, hdrive, hhanded, hflight, huse, hlba, hfirst, hreceived, hclobbered⟩ := h.write
  have hleft : (s.write dev env).2.sectorsLeft = n - 60 * k :=
    (WriteRun.write_sectorsLeft ..).trans h.sectorsLeft
  have hchunk : (s.write dev env).2.chunkSectors = 60 := by
    rw [WriteRun.chunkSectors, hleft]
    omega
  refine ⟨hmore, ?_, ?_, ?_, ?_, hhanded, ?_, hclobbered, hdrive⟩
  · show (s.write dev env).2.sectorsLeft - (s.write dev env).2.chunkSectors = _
    rw [hleft, hchunk]
    omega
  · show (s.write dev env).2.lba + UInt32.ofNat (s.write dev env).2.chunkSectors = _
    rw [hlba, hchunk, h.start, chunkStart, chunkStart, UInt32.add_assoc, ← UInt32.ofNat_add,
      Nat.mul_succ]
  · rw [decide_eq_false (Nat.succ_ne_zero k)]
    exact hfirst
  · show (s.write dev env).2.received = _
    rw [hreceived, h.received]
    omega
  · show (s.write dev env).2.inFlight ≠ some (!(s.write dev env).2.useIn)
    rw [hflight, huse]
    cases s.useIn
    all_goals decide

/-- **The loop**, from any chunk on: it hands over chunks as long as they are stored. -/
theorem HasReceived.loop {k : ℕ} {s : WriteRun} (h : HasReceived dev env d n lba k s)
    (hbefore : ∀ j < k, chunkStored dev env d n lba j = true) :
    ∃ J, Ends dev env d n lba J (s.loop dev env) := by
  induction hm : n - 60 * k using Nat.strong_induction_on generalizing k s with
  | h m ih =>
    have hpos := h.pos
    obtain ⟨hstatus, hdrive, hhanded, hflight, huse, hlba, hfirst, hreceived, hclobbered⟩ := h.write
    have hwithin : ∀ j < k + 1, 60 * j < n := by
      intro j hj
      omega
    have hleft : (s.write dev env).2.advance.sectorsLeft = n - 60 * (k + 1) := by
      show (s.write dev env).2.sectorsLeft - min (s.write dev env).2.sectorsLeft 60 = _
      rw [WriteRun.write_sectorsLeft, h.sectorsLeft]
      omega
    have hloop : s.sectorsLeft ≠ 0 := by
      rw [h.sectorsLeft]
      omega
    rw [WriteRun.loop, if_neg hloop]
    dsimp only
    rw [hstatus, hleft]
    rcases hstored : chunkStored dev env d n lba k with - | -
    · -- the driver fails: the loop is left with the sense data
      rw [Bool.not_false, if_pos rfl]
      refine ⟨k + 1, hwithin, fun j hj => hbefore j (by omega), hhanded, ?_, hclobbered, ?_⟩
      · show (s.write dev env).2.received = _
        rw [hreceived, h.received]
      · refine Or.inr ⟨Nat.succ_pos k, hstored, ?_⟩
        unfold WriteRun.fail
        rw [hdrive]
        rfl
    · rw [Bool.not_true, if_neg Bool.false_ne_true]
      have hall : ∀ j < k + 1, chunkStored dev env d n lba j = true := by
        intro j hj
        rcases Nat.lt_succ_iff_lt_or_eq.mp hj with hlt | rfl
        · exact hbefore j hlt
        · exact hstored
      by_cases hlast : n - 60 * (k + 1) = 0
      · rw [if_pos hlast]
        refine ⟨k + 1, hwithin, fun j hj => hbefore j (by omega), hhanded, ?_, hclobbered, ?_⟩
        · show (s.write dev env).2.received = _
          rw [hreceived, h.received]
        · exact Or.inl ⟨fun j hj => hall j (by omega), by omega, hdrive⟩
      · rw [if_neg hlast]
        exact ih (n - 60 * (k + 1)) (by omega) (h.next (by omega)).receive hall rfl

/-- The stream of a command ends, with the chunks it has handed over. -/
theorem writeStreamUsb2Run_ends (dev : Device) (env : WriteEnv) (outBuf inBuf : ℕ → Sector) (n : ℕ)
    (lba : UInt32) (d : Drive) :
    ∃ J, Ends dev env d n lba J (writeStreamUsb2Run dev env outBuf inBuf n lba d) := by
  rw [writeStreamUsb2Run]
  by_cases hpos : 0 < n
  · have hstart : 0 < (WriteRun.start outBuf inBuf n lba d).sectorsLeft := hpos
    rw [if_pos hstart]
    have hfirst : Awaits dev env d n lba 0 (.start outBuf inBuf n lba d) :=
      ⟨hpos, rfl, (UInt32.add_zero lba).symm, rfl, rfl, rfl, (Option.some_ne_none _).symm, rfl, by
        rw [driveAt_zero]
        rfl⟩
    have hreceived := hfirst.receive
    rw [WriteRun.waitDat0Ready_of_none (WriteRun.setBuf_frame _ _).2.2.2.2.2.2.2] at hreceived
    exact hreceived.loop fun j hj => absurd hj (Nat.not_lt_zero j)
  · have hstart : ¬0 < (WriteRun.start outBuf inBuf n lba d).sectorsLeft := hpos
    rw [if_neg hstart]
    refine ⟨0, fun k hk => absurd hk (Nat.not_lt_zero k), fun k hk => absurd hk (Nat.not_lt_zero _),
      rfl, ?_, rfl, Or.inl ⟨fun k hk => by omega, by omega, driveAt_zero.symm⟩⟩
    show 0 = min n (60 * 0) - 1
    omega

/-! ### Against one step a chunk -/

/-- The environment of chunk `k`. -/
def WriteEnv.chunk (env : WriteEnv) (k : ℕ) : ChunkIo where
  packets := fun i => env.packets (60 * k + i - 1)
  outcome := env.outcome k
  now := env.now k

/-- The locals of `writeChunks` before chunk `k`. -/
def streamAt (n : ℕ) (lba : UInt32) (k : ℕ) : WriteStream where
  sectorsLeft := n - 60 * k
  lba := chunkStart lba k
  firstPacket := decide (k = 0)

theorem streamAt_next {k : ℕ} (hmore : 60 * (k + 1) ≤ n) :
    (streamAt n lba k).next = streamAt n lba (k + 1) := by
  have hchunk : (streamAt n lba k).chunkSectors = 60 := by
    show min (n - 60 * k) 60 = 60
    omega
  rw [WriteStream.next, hchunk, streamAt, streamAt, chunkStart, chunkStart, UInt32.add_assoc,
    ← UInt32.ofNat_add, decide_eq_false (Nat.succ_ne_zero k), Nat.mul_succ, Nat.sub_sub]

theorem receiveChunkUsb2_chunkSent (env : WriteEnv) (d : Drive) (n : ℕ) (lba : UInt32) (k : ℕ) :
    receiveChunkUsb2 d.rxBuff (streamAt n lba k).firstPacket (streamAt n lba k).chunkSectors
        (env.chunk k).packets = chunkSent env d n k := by
  refine List.map_congr_left fun i _ => ?_
  rw [commandSector]
  refine if_congr ?_ rfl rfl
  rw [streamAt, decide_eq_true_iff]
  omega

/-- A pass of `writeChunks`. -/
theorem writeIter_driveAt {k : ℕ} (hk : 60 * k < n) :
    writeIter dev (env.chunk k) (streamAt n lba k) (driveAt dev env d n lba k)
      = if chunkStored dev env d n lba k then (true, driveAt dev env d n lba (k + 1))
        else (false, { driveAt dev env d n lba (k + 1) with bot := WriteFailed d.bot }) := by
  have hbuf := receiveChunkUsb2_chunkSent env d n lba k
  have hchunk := writeReceivedChunk_driveAt dev env d lba hk
  have hwrite : writeReceivedChunk dev (env.chunk k) (chunkSent env d n k) (chunkStart lba k)
      (driveAt dev env d n lba k) = _ := hchunk
  have hrx : (driveAt dev env d n lba k).rxBuff = d.rxBuff := rfl
  have hlba : (streamAt n lba k).lba = chunkStart lba k := rfl
  rw [writeIter, hrx, hbuf, hlba, hwrite]
  rcases chunkStored dev env d n lba k with - | -
  all_goals rfl

theorem Ends.of_zero {J : ℕ} {s : WriteRun} (h : Ends dev env d n lba J s) (hzero : J = 0) :
    n ≤ 60 * J ∧ s.drive = driveAt dev env d n lba J := by
  rcases h.finish with ⟨-, hle, hdrive⟩ | ⟨hpos, -, -⟩
  · exact ⟨hle, hdrive⟩
  · omega

/-- Both loops end with the same drive. -/
theorem Ends.drive_eq {J : ℕ} {s : WriteRun} (h : Ends dev env d n lba J s) (m : ℕ) :
    ∀ k, k + m = J → (m = 0 → n ≤ 60 * J ∧ s.drive = driveAt dev env d n lba J) →
      writeChunks dev (fun j => env.chunk (k + j)) (streamAt n lba k) (driveAt dev env d n lba k)
        = s.drive := by
  induction m with
  | zero =>
    rintro k rfl hdone
    obtain ⟨hle, hdrive⟩ := hdone rfl
    have hzero : (streamAt n lba k).sectorsLeft = 0 := Nat.sub_eq_zero_of_le hle
    rw [writeChunks_of_zero hzero]
    exact hdrive.symm
  | succ m ih =>
    intro k hk _
    have hwithin : 60 * k < n := h.within k (by omega)
    have hpos : 0 < (streamAt n lba k).sectorsLeft := Nat.sub_pos_of_lt hwithin
    have hshift : (fun j => env.chunk (k + (j + 1))) = fun j => env.chunk (k + 1 + j) :=
      funext fun j => congrArg env.chunk (by omega)
    rw [writeChunks_of_pos hpos, Nat.add_zero, writeIter_driveAt hwithin, hshift]
    rcases hstored : chunkStored dev env d n lba k with - | -
    · -- the chunk that failed is the last one
      rcases h.finish with ⟨hall, -, -⟩ | ⟨-, -, hdrive⟩
      · exact absurd (hall k hwithin) (by rw [hstored]; exact Bool.false_ne_true)
      · have hlast : k + 1 = J := by
          by_contra hne
          exact absurd (h.behindStored k (by omega)) (by rw [hstored]; exact Bool.false_ne_true)
        rw [if_neg Bool.false_ne_true, hdrive, hlast]
        rfl
    · rw [if_pos rfl]
      have hdone : m = 0 → n ≤ 60 * J ∧ s.drive = driveAt dev env d n lba J := by
        rintro rfl
        rcases h.finish with ⟨-, hle, hdrive⟩ | ⟨-, hfailed, -⟩
        · exact ⟨hle, hdrive⟩
        · rw [← hk, Nat.add_sub_cancel, hstored] at hfailed
          cases hfailed
      have hrest := ih (k + 1) (by omega) hdone
      by_cases hmore : 60 * (k + 1) ≤ n
      · rw [← streamAt_next hmore] at hrest
        exact hrest
      · -- a last chunk of fewer than 60 sectors: nothing is left
        have hzero : (streamAt n lba (k + 1)).sectorsLeft = 0 := Nat.sub_eq_zero_of_le (by omega)
        have hnext : (streamAt n lba k).next.sectorsLeft = 0 := by
          show n - 60 * k - min (n - 60 * k) 60 = 0
          omega
        rw [writeChunks_of_zero hzero] at hrest
        show writeChunks dev _ (streamAt n lba k).next _ = _
        rw [writeChunks_of_zero hnext, hrest]

/-- **Refinement**: with its buffers `msc_write_sectors` leaves the drive of `mscWriteSectors`. -/
theorem mscWriteSectorsRun_drive (dev : Device) (env : WriteEnv) (outBuf inBuf : ℕ → Sector)
    (d : Drive) :
    (mscWriteSectorsRun dev env outBuf inBuf d).drive = mscWriteSectors dev env.chunk d := by
  obtain ⟨J, h⟩ := writeStreamUsb2Run_ends dev env outBuf inBuf d.bot.transferSectors
    d.bot.currentLba { d with bot := { d.bot with transferBytesLeft := 0 } }
  have hsame := h.drive_eq J 0 (Nat.zero_add J) h.of_zero
  have hshift : (fun j => env.chunk (0 + j)) = env.chunk :=
    funext fun j => congrArg env.chunk (Nat.zero_add j)
  have hbegin : streamAt d.bot.transferSectors d.bot.currentLba 0
      = ⟨d.bot.transferSectors, d.bot.currentLba, true⟩ := by
    rw [streamAt, chunkStart]
    exact congrArg (fun lba => WriteStream.mk _ lba true) (UInt32.add_zero _)
  rw [hshift, hbegin, driveAt_zero] at hsame
  rw [mscWriteSectorsRun, mscWriteSectors, writeStreamUsb2]
  dsimp only
  rw [hsame]
  split
  · rfl
  · rfl

end Buffers

/-! ### A whole command -/

section WithBot

variable (dev : Device) (env : WriteEnv) (d : Drive) (b : Bot) (n : ℕ) (lba : UInt32)

theorem phantomAt_withBot (k : ℕ) :
    phantomAt env { d with bot := b } n lba k = phantomAt env d n lba k := by
  induction k with
  | zero => rfl
  | succ k ih =>
    rw [phantomAt, phantomAt, ih]
    rfl

theorem chunkHanded_withBot :
    chunkHanded dev env { d with bot := b } n lba = chunkHanded dev env d n lba := by
  funext k
  rw [chunkHanded, phantomAt_withBot]
  rfl

/-- What goes to the card does not depend on the transport layer. -/
theorem handovers_withBot (J : ℕ) :
    handovers dev env { d with bot := b } n lba J = handovers dev env d n lba J := by
  have heach : handover dev env { d with bot := b } n lba = handover dev env d n lba := by
    funext k
    rw [handover, handover, chunkHanded_withBot]
    rfl
  rw [handovers, heach]
  rfl

theorem cardAt_withBot (k : ℕ) :
    cardAt dev env { d with bot := b } n lba k = cardAt dev env d n lba k := by
  induction k with
  | zero => rfl
  | succ k ih =>
    rw [cardAt, cardAt, ih, chunkHanded_withBot]
    rfl

end WithBot

/-- What `msc_write_sectors` does behind the stream `r`: the CSW goes out. -/
structure Answers (b : Bot) (r s : WriteRun) : Prop where
  handed : s.handed = r.handed
  received : s.received = r.received
  clobbered : s.clobbered = r.clobbered
  log : s.drive.log = r.drive.log
  card : s.drive.card = r.drive.card
  queued : s.drive.bot.queued = b.queued ++ [.csw (cswBytes b.cbwTag b.cswStatus)]
  cswStatus : s.drive.bot.cswStatus = b.cswStatus
  senseKey : s.drive.bot.senseKey = b.senseKey
  senseAsc : s.drive.bot.senseAsc = b.senseAsc

theorem mscWriteSectorsRun_answers (dev : Device) (env : WriteEnv) (outBuf inBuf : ℕ → Sector)
    (d : Drive) {r : WriteRun} {b : Bot}
    (hr : writeStreamUsb2Run dev env outBuf inBuf d.bot.transferSectors d.bot.currentLba
      { d with bot := { d.bot with transferBytesLeft := 0 } } = r)
    (hbot : r.drive.bot = b) (hleft : b.transferBytesLeft = 0) :
    Answers b r (mscWriteSectorsRun dev env outBuf inBuf d) := by
  subst hr hbot
  have heq : mscWriteSectorsRun dev env outBuf inBuf d = _ := if_pos hleft
  rw [heq]
  exact ⟨rfl, rfl, rfl, rfl, rfl, botSendCsw_queued _, rfl, rfl, rfl⟩

/-- **WRITE(10)**.  The command has the status that `scsi_parse_rw10_cdb` gives it. -/
theorem mscWriteSectorsRun_chunks (dev : Device) (env : WriteEnv) (outBuf inBuf : ℕ → Sector)
    (d : Drive) (hpassed : d.bot.cswStatus = .passed) :
    let n := d.bot.transferSectors
    let lba := d.bot.currentLba
    let s := mscWriteSectorsRun dev env outBuf inBuf d
    let AllStored := ∀ k, 60 * k < n → chunkStored dev env d n lba k = true
    ∃ J, ((∀ k < J, 60 * k < n) ∧ (∀ k, k + 1 < J → chunkStored dev env d n lba k = true)
        ∧ (AllStored ∧ n ≤ 60 * J ∨ 0 < J ∧ chunkStored dev env d n lba (J - 1) = false))
      ∧ s.handed = J ∧ s.received = min n (60 * J) - 1 ∧ s.clobbered = false
      ∧ s.drive.log = d.log ++ handovers dev env d n lba J
      ∧ s.drive.card = cardAt dev env d n lba J
      ∧ (∀ k, k + 1 < J → cardAt dev env d n lba (k + 1)
          = (cardAt dev env d n lba k).write (chunkTarget dev d lba k).toNat
              (chunkHanded dev env d n lba k))
      ∧ s.drive.bot.queued
          = d.bot.queued ++ [.csw (cswBytes d.bot.cbwTag s.drive.bot.cswStatus)]
      ∧ (s.drive.bot.cswStatus = .passed ↔ AllStored)
      ∧ (¬AllStored → s.drive.bot.cswStatus = .failed
          ∧ s.drive.bot.senseKey = senseKeyMediumError
          ∧ s.drive.bot.senseAsc = senseAscWriteError) := by
  intro n lba s AllStored
  let d' : Drive := { d with bot := { d.bot with transferBytesLeft := 0 } }
  obtain ⟨J, h⟩ := writeStreamUsb2Run_ends dev env outBuf inBuf n lba d'
  have hstored : ∀ k, k + 1 < J → chunkStored dev env d n lba k = true := h.behindStored
  have hcards := fun k (hk : k + 1 < J) => cardAt_of_stored (hstored k hk)
  have hlog : (driveAt dev env d' n lba J).log = d.log ++ handovers dev env d n lba J :=
    congrArg (d.log ++ ·) (handovers_withBot dev env d _ n lba J)
  have hcard : (driveAt dev env d' n lba J).card = cardAt dev env d n lba J :=
    cardAt_withBot dev env d _ n lba J
  rcases h.finish with ⟨hall, hle, hdrive⟩ | ⟨hpos, hfailed, hdrive⟩
  · -- every chunk is stored
    have ha := mscWriteSectorsRun_answers dev env outBuf inBuf d rfl (congrArg Drive.bot hdrive) rfl
    have hstatus : s.drive.bot.cswStatus = .passed := ha.cswStatus.trans hpassed
    refine ⟨J, ⟨h.within, hstored, Or.inl ⟨hall, hle⟩⟩, ha.handed.trans h.handed,
      ha.received.trans h.received, ha.clobbered.trans h.clobbered,
      (ha.log.trans (congrArg Drive.log hdrive)).trans hlog,
      (ha.card.trans (congrArg Drive.card hdrive)).trans hcard, hcards,
      ?_, iff_of_true hstatus hall, fun hnot => absurd hall hnot⟩
    rw [hstatus, ← hpassed]
    exact ha.queued
  · -- the last chunk handed over fails
    have ha := mscWriteSectorsRun_answers dev env outBuf inBuf d rfl (congrArg Drive.bot hdrive) rfl
    have hstatus : s.drive.bot.cswStatus = .failed := ha.cswStatus
    have hlast : chunkStored dev env d n lba (J - 1) = false := hfailed
    have hnot : ¬AllStored := by
      intro hall
      exact absurd (hall (J - 1) (h.within _ (Nat.sub_lt hpos Nat.one_pos)))
        (by rw [hlast]; exact Bool.false_ne_true)
    refine ⟨J, ⟨h.within, hstored, Or.inr ⟨hpos, hlast⟩⟩, ha.handed.trans h.handed,
      ha.received.trans h.received, ha.clobbered.trans h.clobbered,
      (ha.log.trans (congrArg Drive.log hdrive)).trans hlog,
      (ha.card.trans (congrArg Drive.card hdrive)).trans hcard, hcards,
      ?_, iff_of_false ?_ hnot, fun _ => ⟨hstatus, ha.senseKey, ha.senseAsc⟩⟩
    · rw [hstatus]
      exact ha.queued
    · rw [hstatus]
      exact CswStatus.noConfusion

/-- A WRITE(10) of 150 sectors whose second chunk fails. -/
def sampleWrite : Drive :=
  let d := sampleDrive .unlocked
  { d with bot := { d.bot with transferBytesLeft := 76800, currentLba := 1000, cswStatus := .passed } }

/-- The third chunk is neither received nor handed over. -/
theorem mscWriteSectorsRun_chunks_second_fails :
    let env : WriteEnv := {
      packets := fun _ _ => 0
      outcome := fun k => if k = 1 then .failure fun _ => none else .success
      now := fun _ _ => 0 }
    let s := mscWriteSectorsRun sampleDevice env (fun _ _ => 0) (fun _ _ => 0) sampleWrite
    s.handed = 2 ∧ s.received = 119 ∧ s.drive.bot.cswStatus = .failed
      ∧ s.drive.bot.senseKey = senseKeyMediumError := by
  intro env s
  obtain ⟨J, ⟨-, hbefore, hend⟩, hhanded, hreceived, -, -, -, -, -, -, hsense⟩ :=
    mscWriteSectorsRun_chunks sampleDevice env (fun _ _ => 0) (fun _ _ => 0) sampleWrite rfl
  have hsectors : sampleWrite.bot.transferSectors = 150 := by decide
  have hlba : sampleWrite.bot.currentLba = 1000 := rfl
  have hout : ∀ k < 3, chunkOutside sampleDevice env sampleWrite 150 1000 k = false := by
    intro k hk
    rw [chunkOutside, length_chunkSent]
    interval_cases k
    all_goals decide
  have hzero : chunkStored sampleDevice env sampleWrite 150 1000 0 = true := by
    rw [chunkStored, hout 0 (by decide)]
    rfl
  have hone : chunkStored sampleDevice env sampleWrite 150 1000 1 = false := by
    rw [chunkStored, hout 1 (by decide)]
    rfl
  rw [hsectors, hlba] at hbefore hend hsense
  rw [hsectors] at hreceived
  have hnot : ¬∀ k, 60 * k < 150 → chunkStored sampleDevice env sampleWrite 150 1000 k = true :=
    fun hall => absurd (hall 1 (by decide)) (by rw [hone]; exact Bool.false_ne_true)
  have hJ : J = 2 := by
    rcases hend with ⟨hall, -⟩ | ⟨hpos, hlast⟩
    · exact absurd hall hnot
    · rcases Nat.lt_trichotomy J 2 with hlt | heq | hgt
      · obtain rfl : J = 1 := by omega
        exact absurd hlast (by rw [hzero]; exact fun h => Bool.noConfusion h)
      · exact heq
      · exact absurd (hbefore 1 hgt) (by rw [hone]; exact Bool.false_ne_true)
  subst hJ
  exact ⟨hhanded, hreceived, (hsense hnot).1, (hsense hnot).2.1⟩

end PhantomDrive
