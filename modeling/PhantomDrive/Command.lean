/-
PhantomDrive/Command.lean

One command from its CBW to its CSW, as it runs when nothing else happens meanwhile:
the two interrupt entry points on the whole drive, `msc_read_sectors`, the two branches
of `bot_poll` that move data, and the READ(10) and WRITE(10) of a host.

Main results: what a READ(10) or WRITE(10) CBW leaves behind when it is accepted
(`bulkOut_read10`, `bulkOut_write10`).
-/
import PhantomDrive.ReadRing
import PhantomDrive.WritePath

namespace PhantomDrive

/-! ### The entry points on the whole drive -/

/-- An EP1 OUT packet: it lands in `endp1Rbuff`, and the interrupt calls
`bot_handle_bulk_out`. -/
def Drive.bulkOut (dev : Device) (packet : List UInt8) (d : Drive) : Drive :=
  { d with
    rxBuff := fun i => packet.getD i (d.rxBuff i)
    bot := botHandleBulkOut dev d.phantom.isLocked packet d.bot }

/-- An EP1 IN completion: the endpoint goes back to NAK, and the interrupt calls
`bot_handle_bulk_in`. -/
def Drive.bulkIn (dev : Device) (d : Drive) : Drive :=
  { d with bot := botHandleBulkIn dev { d.bot with txCtrl := .nak } }

/-! ### `msc_read_sectors` -/

/-- The environment of a read: what the ring holds before it, and the order of the events. -/
structure ReadIo where
  ring : ℕ → Sector
  events : List ReadEvent

/-- The request of a read that starts now. -/
def Drive.readRequest (dev : Device) (d : Drive) (actualLba : UInt32) (preqnum : ℕ) :
    ReadRequest where
  actualLba := actualLba
  preqnum := preqnum
  card := d.card
  decrypt := fun lba sector =>
    if !d.phantom.isLocked then
      (phantomdriveDecryptBuf dev.ecdc dev.aesMode d.keys [sector] lba).headD sector
    else sector

/-- `read_stream_usb2`, up to `emmc_start_multiblock_read`: the read command to the card. -/
def startReadStream (actualLba : UInt32) (preqnum : ℕ) (d : Drive) : Drive :=
  { d with log := d.log ++ [.cardRead d.phantom.isLocked actualLba preqnum] }

/-- The rest of `read_stream_usb2`: its loops over a sequence of events, and whether they were
left. -/
def finishReadStream (dev : Device) (io : ReadIo) (actualLba : UInt32) (preqnum : ℕ)
    (d : Drive) : Drive × Bool :=
  match readStreamUsb2 (d.readRequest dev actualLba preqnum) io.ring io.events with
  | none => (d, false)
  | some delivered =>
      let packets := delivered.map fun s => InPacket.data (List.ofFn s)
      ({ d with bot := { d.bot with queued := d.bot.queued ++ packets, txCtrl := .nak } }, true)

/-- `msc_read_sectors`, and whether it returns. -/
def mscReadSectors (dev : Device) (io : ReadIo) (d : Drive) : Drive × Bool :=
  let preqnum := d.bot.transferSectors
  let d := { d with bot := { d.bot with transferBytesLeft := 0 } }
  let actualLba := computePhysicalLba dev d.phantom.isLocked d.bot.currentLba
  let r := finishReadStream dev io actualLba preqnum (startReadStream actualLba preqnum d)
  if r.2 then
    let b := botSendCsw
      { r.1.bot with currentLba := r.1.bot.currentLba + UInt32.ofNat preqnum }
    let flags := { b.transferFlags with dataIn := false }
    ({ r.1 with bot := { b with transferFlags := flags } }, true)
  else r

theorem finishReadStream_log (dev : Device) (io : ReadIo) (actualLba : UInt32) (preqnum : ℕ)
    (d : Drive) : (finishReadStream dev io actualLba preqnum d).1.log = d.log := by
  unfold finishReadStream
  split <;> rfl

/-- A read issues one read command to the card, whether it returns or not. -/
theorem mscReadSectors_log (dev : Device) (io : ReadIo) (d : Drive) :
    (mscReadSectors dev io d).1.log
      = d.log ++ [.cardRead d.phantom.isLocked
          (computePhysicalLba dev d.phantom.isLocked d.bot.currentLba) d.bot.transferSectors] := by
  unfold mscReadSectors
  dsimp only
  split
  · exact finishReadStream_log ..
  · exact finishReadStream_log ..

/-- When the loops were left, the host has taken the sectors of the read. -/
theorem finishReadStream_of_returns {dev : Device} {io : ReadIo} {actualLba : UInt32}
    {preqnum : ℕ} {d : Drive} (hn : 0 < preqnum)
    (h : (finishReadStream dev io actualLba preqnum d).2 = true) :
    (finishReadStream dev io actualLba preqnum d).1
      = { d with
          bot := { d.bot with
            queued := d.bot.queued ++ ((List.range preqnum).map fun i =>
              .data (List.ofFn ((d.readRequest dev actualLba preqnum).plain i)))
            txCtrl := .nak } } := by
  unfold finishReadStream at h ⊢
  split at h
  · cases h
  · rename_i delivered hdelivered
    have hall := readStreamUsb2_delivers (r := d.readRequest dev actualLba preqnum) hn hdelivered
    subst hall
    simp only [List.map_map]
    rfl

/-- When `msc_read_sectors` returns, the sectors of the read are queued in order, the CSW behind
them, and no transfer flag is left. -/
theorem mscReadSectors_of_returns {dev : Device} {io : ReadIo} {d : Drive}
    (hn : 0 < d.bot.transferSectors) (h : (mscReadSectors dev io d).2 = true) :
    let actualLba := computePhysicalLba dev d.phantom.isLocked d.bot.currentLba
    let d' := (mscReadSectors dev io d).1
    (∃ csw, d'.bot.queued = d.bot.queued ++ ((List.range d.bot.transferSectors).map fun i =>
        .data (List.ofFn ((d.readRequest dev actualLba d.bot.transferSectors).plain i)))
          ++ [.csw csw])
      ∧ d'.bot.transferFlags = .none ∧ d'.bot.readPending = d.bot.readPending
      ∧ d'.bot.writePending = d.bot.writePending
      ∧ d'.phantom = d.phantom ∧ d'.keys = d.keys ∧ d'.card = d.card := by
  unfold mscReadSectors at h ⊢
  dsimp only at h ⊢
  split at h
  · rename_i hreturns
    rw [if_pos hreturns, finishReadStream_of_returns hn hreturns]
    exact ⟨⟨_, rfl⟩, rfl, rfl, rfl, rfl, rfl, rfl⟩
  · rename_i hnot
    exact absurd h hnot

/-! ### The two branches of `bot_poll` that move data -/

/-- `if (g_bot.read_pending) ..`, and whether it returns. -/
def pollRead (dev : Device) (io : ReadIo) (d : Drive) : Drive × Bool :=
  if d.bot.readPending then
    mscReadSectors dev io { d with bot := { d.bot with readPending := false } }
  else (d, true)

/-- `if (g_bot.write_pending) ..`. -/
def pollWrite (dev : Device) (io : ℕ → ChunkIo) (d : Drive) : Drive :=
  if d.bot.writePending then
    let d := mscWriteSectors dev io { d with bot := { d.bot with writePending := false } }
    { d with bot := { d.bot with rxCtrl := .ack } }
  else d

/-! ### The commands of a host -/

/-- A CBW that asks for `count` sectors from `lba` on. -/
structure IsRead10 (packet : List UInt8) (lba : UInt32) (count : ℕ) : Prop where
  length_eq : packet.length = 31
  signature : (BulkOnlyCmd.ofPacket packet).validSignature = true
  opcode_eq : (BulkOnlyCmd.ofPacket packet).opcode = 0x28
  lba_eq : (BulkOnlyCmd.ofPacket packet).lba = lba
  count_eq : (BulkOnlyCmd.ofPacket packet).blockCount.toNat = count
  dataLen_ne : (BulkOnlyCmd.ofPacket packet).dataLen ≠ 0
  dirIn_eq : (BulkOnlyCmd.ofPacket packet).dirIn = true

/-- A CBW that announces data for `count` sectors from `lba` on; WRITE AND VERIFY(10) is no
different. -/
structure IsWrite10 (packet : List UInt8) (lba : UInt32) (count : ℕ) : Prop where
  length_eq : packet.length = 31
  signature : (BulkOnlyCmd.ofPacket packet).validSignature = true
  opcode_eq : (BulkOnlyCmd.ofPacket packet).opcode = 0x2A
    ∨ (BulkOnlyCmd.ofPacket packet).opcode = 0x2E
  lba_eq : (BulkOnlyCmd.ofPacket packet).lba = lba
  count_eq : (BulkOnlyCmd.ofPacket packet).blockCount.toNat = count
  dataLen_ne : (BulkOnlyCmd.ofPacket packet).dataLen ≠ 0
  dirIn_eq : (BulkOnlyCmd.ofPacket packet).dirIn = false

/-- A WRITE(10) of no sectors without a data phase. -/
structure IsEmptyWrite10 (packet : List UInt8) : Prop where
  length_eq : packet.length = 31
  signature : (BulkOnlyCmd.ofPacket packet).validSignature = true
  opcode_eq : (BulkOnlyCmd.ofPacket packet).opcode = 0x2A
    ∨ (BulkOnlyCmd.ofPacket packet).opcode = 0x2E
  dataLen_eq : (BulkOnlyCmd.ofPacket packet).dataLen = 0

/-- A CBW packet with tag 1: its flag byte, its host length and its CDB. -/
def cbwPacket (flag : UInt8) (dataLen : UInt32) (cdb : List UInt8) : List UInt8 :=
  [0x55, 0x53, 0x42, 0x43, 1, 0, 0, 0, wordByte dataLen 0, wordByte dataLen 1,
    wordByte dataLen 2, wordByte dataLen 3, flag, 0, UInt8.ofNat cdb.length]
    ++ cdb ++ List.replicate (16 - cdb.length) 0

/-- The CDB of a READ(10), WRITE(10), VERIFY(10), .. -/
def rw10Cdb (opcode : UInt8) (lba : UInt32) (count : UInt32) : List UInt8 :=
  [opcode, 0, wordByte lba 3, wordByte lba 2, wordByte lba 1, wordByte lba 0, 0,
    wordByte count 1, wordByte count 0, 0]

/-- An 8 GiB decoy on a 16 GiB card, with an engine that leaves blocks as they are. -/
def sampleDevice : Device where
  lockedSectors := 16777216
  emmcSecNum := 33554432
  uniqueId := 0x0807060504030201
  kdfRounds := 1
  aesMode := .ctr
  ecdc :=
    { selfDma := fun _ => Equiv.refl Block
      singleRegister := fun _ block => block
      keystream := fun _ _ _ => 0 }
  ram := fun _ _ => 0xAA
  initTxCtrl := .nak
  initRxCtrl := .ack

/-- A drive with no command in progress. -/
def sampleDrive (state : LockState) : Drive where
  bot := Bot.init
  rxBuff := fun _ => 0
  phantom := { Phantom.statics with state := state }
  keys := ⟨Vector.replicate 32 0, Vector.replicate 32 0⟩
  card := fun _ _ => 0
  log := []

/-- A READ(10) alone: the CBW is accepted and the main loop reads. -/
def executeRead (dev : Device) (cbw : List UInt8) (io : ReadIo) (d : Drive) : Drive × Bool :=
  pollRead dev io (d.bulkOut dev cbw)

/-- A WRITE(10) alone: the CBW is accepted, the first data packet comes in and the main loop
writes. -/
def executeWrite (dev : Device) (cbw packet : List UInt8) (io : ℕ → ChunkIo) (d : Drive) :
    Drive :=
  pollWrite dev io ((d.bulkOut dev cbw).bulkOut dev packet)

/-! ### Acceptance -/

/-- The transport layer after the CDB of a READ(10) or WRITE(10) was parsed. -/
def Bot.parsedRw10 (b : Bot) (packet : List UInt8) : Bot :=
  scsiParseRw10Cdb (botBeginCbwTransfer { b with cbwCsw := .ofPacket packet })

section Acceptance

variable {dev : Device} {b : Bot} {packet : List UInt8} {lba : UInt32} {count : ℕ}

theorem blockCount_lt (cmd : BulkOnlyCmd) : cmd.blockCount.toNat < 65536 := by
  have hhi : (cmd[22].toUInt32 <<< 8).toNat = cmd[22].toNat * 256 := by
    have hlt := cmd[22].toNat_lt
    have h8 : (8 : UInt32).toNat % 32 = 8 := rfl
    rw [UInt32.toNat_shiftLeft, UInt8.toNat_toUInt32, h8, Nat.shiftLeft_eq]
    omega
  have h22 := cmd[22].toNat_lt
  have h23 := cmd[23].toNat_lt
  rw [BulkOnlyCmd.blockCount, UInt32.toNat_add, hhi, UInt8.toNat_toUInt32]
  omega

/-- The bytes of a transfer do not overflow. -/
theorem toNat_blockCount_mul (cmd : BulkOnlyCmd) :
    (cmd.blockCount * 512).toNat = cmd.blockCount.toNat * 512 := by
  have hlt := blockCount_lt cmd
  rw [UInt32.toNat_mul]
  show cmd.blockCount.toNat * 512 % 4294967296 = _
  omega

theorem toNat_blockCount_mul_div (cmd : BulkOnlyCmd) :
    (cmd.blockCount * 512 / 512).toNat = cmd.blockCount.toNat := by
  rw [UInt32.toNat_div, toNat_blockCount_mul]
  exact Nat.mul_div_cancel _ (by decide)

/-- The sectors of a transfer are the block count of the CDB. -/
theorem transferSectors_blockCount (cmd : BulkOnlyCmd) :
    (cmd.blockCount * 512 / 512).toNat % 65536 = cmd.blockCount.toNat := by
  rw [toNat_blockCount_mul_div, Nat.mod_eq_of_lt (blockCount_lt cmd)]

theorem transferSectors_parsedRw10 :
    (b.parsedRw10 packet).transferSectors = (BulkOnlyCmd.ofPacket packet).blockCount.toNat :=
  transferSectors_blockCount _

/-- A READ(10) that is not rejected is marked for `bot_poll`. -/
theorem botHandleBulkOut_read10 {locked : Bool} (hcbw : IsRead10 packet lba count)
    (hflags : b.transferFlags.dataOut = false)
    (hrange : (locked && read10AccessesHiddenSdSectors dev (b.parsedRw10 packet)) = false) :
    botHandleBulkOut dev locked packet b = { b.parsedRw10 packet with readPending := true } := by
  have hcommand : (BulkOnlyCmd.ofPacket packet).command = .read10 := by
    rw [BulkOnlyCmd.command, hcbw.opcode_eq]
    rfl
  have hread : (BulkOnlyCmd.ofPacket packet).isRead10 = true := by
    rw [BulkOnlyCmd.isRead10, hcbw.opcode_eq]
    rfl
  have hdispatch : botDispatchScsi dev locked { b with cbwCsw := .ofPacket packet }
      = b.parsedRw10 packet := by
    rw [botDispatchScsi, if_pos hcbw.signature, scsiDispatchCommand]
    have : (botBeginCbwTransfer { b with cbwCsw := .ofPacket packet }).cbwCsw.command = .read10 :=
      hcommand
    rw [this]
    show scsiHandleRead10 dev locked _ = _
    rw [scsiHandleRead10]
    exact if_neg (by rw [Bool.not_eq_true]; exact hrange)
  have hout : (b.parsedRw10 packet).transferFlags.dataOut = false := by
    show (b.transferFlags.dataOut || ((BulkOnlyCmd.ofPacket packet).dataLen ≠ 0
      && !(BulkOnlyCmd.ofPacket packet).dirIn)) = false
    rw [hflags, hcbw.dirIn_eq]
    simp
  have hin : (b.parsedRw10 packet).transferFlags.dataIn = true := by
    show (b.transferFlags.dataIn || ((BulkOnlyCmd.ofPacket packet).dataLen ≠ 0
      && (BulkOnlyCmd.ofPacket packet).dirIn)) = true
    rw [hcbw.dirIn_eq]
    simp [hcbw.dataLen_ne]
  rw [botHandleBulkOut, hflags, if_neg (by simp), if_pos hcbw.length_eq, hdispatch,
    botStartCommand, hout, if_neg (by simp), if_pos hin]
  exact if_pos hread

/-- WRITE(10) and WRITE AND VERIFY(10) only parse their CDB. -/
theorem botDispatchScsi_write10 (dev : Device) (b : Bot) (locked : Bool)
    (hsignature : (BulkOnlyCmd.ofPacket packet).validSignature = true)
    (hopcode : (BulkOnlyCmd.ofPacket packet).opcode = 0x2A
      ∨ (BulkOnlyCmd.ofPacket packet).opcode = 0x2E) :
    botDispatchScsi dev locked { b with cbwCsw := .ofPacket packet } = b.parsedRw10 packet := by
  have heq : (botBeginCbwTransfer { b with cbwCsw := .ofPacket packet }).cbwCsw.command
      = (BulkOnlyCmd.ofPacket packet).command := rfl
  rw [botDispatchScsi, if_pos hsignature, scsiDispatchCommand, heq, BulkOnlyCmd.command]
  rcases hopcode with hop | hop
  · rw [hop]
    rfl
  · rw [hop]
    rfl

/-- A WRITE(10) waits for its data. -/
theorem botHandleBulkOut_write10 {locked : Bool} (hcbw : IsWrite10 packet lba count)
    (hflags : b.transferFlags.dataOut = false) :
    botHandleBulkOut dev locked packet b = b.parsedRw10 packet := by
  have hdispatch := botDispatchScsi_write10 dev b locked
    hcbw.signature hcbw.opcode_eq
  have hout : (b.parsedRw10 packet).transferFlags.dataOut = true := by
    show (b.transferFlags.dataOut || ((BulkOnlyCmd.ofPacket packet).dataLen ≠ 0
      && !(BulkOnlyCmd.ofPacket packet).dirIn)) = true
    rw [hcbw.dirIn_eq]
    simp [hcbw.dataLen_ne]
  rw [botHandleBulkOut, hflags, if_neg (by simp), if_pos hcbw.length_eq, hdispatch,
    botStartCommand, if_pos hout]

/-- A WRITE(10) of no sectors without a data phase is answered at once. -/
theorem botHandleBulkOut_emptyWrite10 {locked : Bool} (hcbw : IsEmptyWrite10 packet)
    (hflags : b.transferFlags = .none) :
    botHandleBulkOut dev locked packet b = botSendCsw (b.parsedRw10 packet) := by
  have hout : (b.parsedRw10 packet).transferFlags.dataOut = false := by
    show (b.transferFlags.dataOut || ((BulkOnlyCmd.ofPacket packet).dataLen ≠ 0
      && !(BulkOnlyCmd.ofPacket packet).dirIn)) = false
    rw [hflags, hcbw.dataLen_eq]
    simp
  have hin : (b.parsedRw10 packet).transferFlags.dataIn = false := by
    show (b.transferFlags.dataIn || ((BulkOnlyCmd.ofPacket packet).dataLen ≠ 0
      && (BulkOnlyCmd.ofPacket packet).dirIn)) = false
    rw [hflags, hcbw.dataLen_eq]
    simp
  have hnot : ¬ b.transferFlags.dataOut = true := by simp [hflags]
  rw [botHandleBulkOut, if_neg hnot, if_pos hcbw.length_eq,
    botDispatchScsi_write10 dev b locked hcbw.signature hcbw.opcode_eq, botStartCommand, hout, hin,
    if_neg (by simp), if_neg (by simp)]
  exact if_pos rfl

/-- The first data packet of a WRITE(10) is marked for `bot_poll`. -/
theorem botHandleBulkOut_data {locked : Bool} (hflags : b.transferFlags.dataOut = true) :
    botHandleBulkOut dev locked packet b = { b with writePending := true } := by
  rw [botHandleBulkOut, if_pos hflags]

end Acceptance

end PhantomDrive
