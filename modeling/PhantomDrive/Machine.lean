/-
PhantomDrive/Machine.lean

The whole firmware as a state machine: `main`, which calls `bot_poll` for ever, and the
USB interrupt, which may come between any two accesses of `main` to what they share.

`MainPc` says where `main` stands.  One step of `main` makes at most one access to a
volatile field of `g_bot` (a compound assignment is a load and a store) or runs one of
the stretches that keep the interrupt off: the read loops, one chunk of a write, an
attempt to unlock.  An interrupt is one call of `bot_handle_bulk_out` or
`bot_handle_bulk_in`; while the interrupt is off it does not come.

Two parts of `bot_send_csw` are longer: `.fill` reads `cbw_tag` and `csw_status`, and
`.copy` is a `memcpy`.  What they read is changed by a CBW and its answer only.  Where
these come in the middle of a part, and not before or after it, the state they leave
differs in bytes 0 to 12 of `g_cbw_csw` and in what is sent of them, and in nothing else:
no branch of the firmware looks at these bytes before the next CBW has overwritten them.
A host that waits for its CSW sends no CBW there (`Serial`), and then a part is as good
as its single accesses.
-/
import PhantomDrive.Command
import PhantomDrive.TryUnlock

namespace PhantomDrive

/-! ### The state -/

/-- The four parts of `bot_send_csw` that an interrupt may separate. -/
inductive CswStage
  | clear
  | fill
  | copy
  | ack
deriving DecidableEq, Repr

/-- Which function called `bot_send_csw`. -/
inductive CswCaller
  | read
  | write
deriving DecidableEq, Repr

/-- Where `main` stands, and its locals: the access named is the next one. -/
inductive MainPc
  /-- `if (g_bot.read_pending)`. -/
  | poll
  /-- `g_bot.read_pending = false`. -/
  | readTake
  /-- `preqnum = g_bot.transfer_bytes_left / SECTOR_SIZE`. -/
  | readCount
  /-- `g_bot.transfer_bytes_left = 0`. -/
  | readZero (preqnum : ℕ)
  /-- `compute_physical_lba(g_bot.current_lba)`. -/
  | readLba (preqnum : ℕ)
  /-- `read_stream_usb2` up to the command to the card; the interrupt goes off. -/
  | readStart (preqnum : ℕ) (actualLba : UInt32)
  /-- The loops of `read_stream_usb2`; the interrupt goes on behind them. -/
  | readRun (preqnum : ℕ) (actualLba : UInt32)
  /-- `g_bot.current_lba += preqnum`, the load. -/
  | readAdvanceLoad (preqnum : ℕ)
  /-- `g_bot.current_lba += preqnum`, the store. -/
  | readAdvanceStore (lba : UInt32)
  /-- `bot_send_csw()`. -/
  | csw (stage : CswStage) (caller : CswCaller)
  /-- `g_bot.transfer_flags &= ~BOT_FLAG_DATA_IN`, the load. -/
  | readFlagsLoad
  /-- `g_bot.transfer_flags &= ~BOT_FLAG_DATA_IN`, the store. -/
  | readFlagsStore (flags : TransferFlags)
  /-- `if (g_bot.write_pending)`. -/
  | pollWrite
  /-- `g_bot.write_pending = false`. -/
  | writeTake
  /-- `total_sectors = g_bot.transfer_bytes_left / SECTOR_SIZE`. -/
  | writeCount
  /-- `lba = g_bot.current_lba`. -/
  | writeLba (totalSectors : ℕ)
  /-- `g_bot.transfer_bytes_left = 0`. -/
  | writeZero (totalSectors : ℕ) (lba : UInt32)
  /-- `write_stream_usb2` up to its loop; the interrupt goes off. -/
  | writeStart (totalSectors : ℕ) (lba : UInt32)
  /-- The loop of `write_stream_usb2`; the interrupt goes on behind it. -/
  | writeRun (stream : WriteStream)
  /-- `if (g_bot.transfer_bytes_left == 0)`. -/
  | writeCheck
  /-- `g_bot.transfer_flags &= ~BOT_FLAG_DATA_OUT`, the load. -/
  | writeFlagsLoad
  /-- `g_bot.transfer_flags &= ~BOT_FLAG_DATA_OUT`, the store. -/
  | writeFlagsStore (flags : TransferFlags)
  /-- `last_write_ms = ..` and `R8_UEP1_RX_CTRL` to ACK. -/
  | writeDone
  /-- `if (!phantomdrive_get_unlock_pending())` and the rest of `bot_poll`. -/
  | pollUnlock
deriving DecidableEq, Repr

structure Sys where
  drive : Drive
  pc : MainPc
  /-- `USBHS_IRQn` is enabled. -/
  usbIrq : Bool
  /-- `last_write_ms`. -/
  lastWriteMs : UInt64
  /-- `last_check_ms`. -/
  lastCheckMs : UInt64

/-- `main` up to its loop, with a card that `unlock_file_init` has left as `card`. -/
def Sys.init (dev : Device) (card : Card) : Sys where
  drive :=
    { bot := usb20DeviceInit dev { Bot.init with
        capacity := dev.lockedSectors
        inquiryResponse := scsiInquirySetIdentity gInquiryResponse
          [0x52, 0x4B, 0x6C, 0x61, 0x62, 0x73]
          [0x50, 0x68, 0x61, 0x6E, 0x74, 0x6F, 0x6D, 0x64, 0x72, 0x69, 0x76, 0x65] }
      rxBuff := fun _ => 0
      phantom := phantomdriveInit dev.uniqueId Phantom.statics
      keys := ⟨Vector.replicate 32 0, Vector.replicate 32 0⟩
      card := card
      log := [] }
  pc := .poll
  usbIrq := true
  lastWriteMs := 0
  lastCheckMs := 0

/-! ### The steps of `main` -/

/-- What one step of `main` meets: the clock (`bsp_get_tick() / bsp_get_nbtick_1ms()`) as
`bot_poll` reads it and as the test of the timeout right behind it reads it, and the rest. -/
structure MainIo where
  now : UInt64
  nowTimeout : UInt64
  read : ReadIo
  chunk : ChunkIo
  unlock : UnlockIo

/-- `UNLOCK_IDLE_MS`. -/
def unlockIdleMs : UInt64 := 500

/-- Go on at `pc` after `f`. -/
def Sys.next (s : Sys) (f : Bot → Bot) (pc : MainPc) : Sys :=
  { s with
    drive := { s.drive with bot := f s.drive.bot }
    pc := pc }

/-- The end of `bot_poll`. -/
def pollUnlock (dev : Device) (io : MainIo) (s : Sys) : Sys :=
  if !s.drive.phantom.unlockPending then { s with pc := .poll }
  else
    let tooEarly := !phantomdriveUnlockTimeoutReached io.nowTimeout s.drive.phantom
      && (io.now - s.lastWriteMs < unlockIdleMs || io.now - s.lastCheckMs < unlockIdleMs)
    if tooEarly then { s with pc := .poll }
    else
      { s with
        lastCheckMs := io.now
        drive := phantomdriveTryUnlock dev io.unlock s.drive
        pc := .poll }

/-- The loops of `read_stream_usb2`, if they are left. -/
def readRun (dev : Device) (io : MainIo) (preqnum : ℕ) (actualLba : UInt32) (s : Sys) : Sys :=
  let r := finishReadStream dev io.read actualLba preqnum s.drive
  if r.2 then { s with drive := r.1, usbIrq := true, pc := .readAdvanceLoad preqnum } else s

/-- One pass of the loop of `write_stream_usb2`. -/
def writeRun (dev : Device) (io : MainIo) (stream : WriteStream) (s : Sys) : Sys :=
  if stream.sectorsLeft = 0 then { s with usbIrq := true, pc := .writeCheck }
  else
    let r := writeIter dev io.chunk stream s.drive
    if r.1 then { s with drive := r.2, pc := .writeRun stream.next }
    else { s with drive := r.2, usbIrq := true, pc := .writeCheck }

/-- One step of `main`. -/
def mainStep (dev : Device) (io : MainIo) (s : Sys) : Sys :=
  let b := s.drive.bot
  match s.pc with
  | .poll => s.next id (if b.readPending then .readTake else .pollWrite)
  | .readTake => s.next (fun b => { b with readPending := false }) .readCount
  | .readCount => s.next id (.readZero b.transferSectors)
  | .readZero preqnum => s.next (fun b => { b with transferBytesLeft := 0 }) (.readLba preqnum)
  | .readLba preqnum =>
      s.next id (.readStart preqnum
        (computePhysicalLba dev s.drive.phantom.isLocked b.currentLba))
  | .readStart preqnum actualLba =>
      { s with
        drive := startReadStream actualLba preqnum s.drive
        usbIrq := false
        pc := .readRun preqnum actualLba }
  | .readRun preqnum actualLba => readRun dev io preqnum actualLba s
  | .readAdvanceLoad preqnum =>
      s.next id (.readAdvanceStore (b.currentLba + UInt32.ofNat preqnum))
  | .readAdvanceStore lba => s.next (fun b => { b with currentLba := lba }) (.csw .clear .read)
  | .csw .clear caller => s.next botSendCswClear (.csw .fill caller)
  | .csw .fill caller => s.next botSendCswFill (.csw .copy caller)
  | .csw .copy caller => s.next botSendCswCopy (.csw .ack caller)
  | .csw .ack .read => s.next botQueueTx .readFlagsLoad
  | .csw .ack .write => s.next botQueueTx .writeDone
  | .readFlagsLoad => s.next id (.readFlagsStore { b.transferFlags with dataIn := false })
  | .readFlagsStore flags => s.next (fun b => { b with transferFlags := flags }) .pollWrite
  | .pollWrite => s.next id (if b.writePending then .writeTake else .pollUnlock)
  | .writeTake => s.next (fun b => { b with writePending := false }) .writeCount
  | .writeCount => s.next id (.writeLba b.transferSectors)
  | .writeLba totalSectors => s.next id (.writeZero totalSectors b.currentLba)
  | .writeZero totalSectors lba =>
      s.next (fun b => { b with transferBytesLeft := 0 }) (.writeStart totalSectors lba)
  | .writeStart totalSectors lba =>
      { s with
        usbIrq := false
        pc := .writeRun { sectorsLeft := totalSectors, lba := lba, firstPacket := true } }
  | .writeRun stream => writeRun dev io stream s
  | .writeCheck =>
      s.next id (if b.transferBytesLeft = 0 then .writeFlagsLoad else .writeDone)
  | .writeFlagsLoad => s.next id (.writeFlagsStore { b.transferFlags with dataOut := false })
  | .writeFlagsStore flags =>
      s.next (fun b => { b with transferFlags := flags }) (.csw .clear .write)
  | .writeDone =>
      { s.next (fun b => { b with rxCtrl := .ack }) .pollUnlock with lastWriteMs := io.now }
  | .pollUnlock => pollUnlock dev io s

/-! ### Events -/

inductive Event
  /-- `bot_handle_bulk_out` is called with a packet. -/
  | bulkOut (packet : List UInt8)
  /-- `bot_handle_bulk_in` is called. -/
  | bulkIn
  /-- One step of `main`. -/
  | main (io : MainIo)

/-- One event; an interrupt does not come while it is off. -/
def step (dev : Device) (s : Sys) : Event → Sys
  | .bulkOut packet => if s.usbIrq then { s with drive := s.drive.bulkOut dev packet } else s
  | .bulkIn => if s.usbIrq then { s with drive := s.drive.bulkIn dev } else s
  | .main io => mainStep dev io s

/-- A clock at zero, a card that stores what it is given, no event in the ring and no file
system. -/
def sampleMainIo : MainIo where
  now := 0
  nowTimeout := 0
  read := ⟨fun _ _ => 0, []⟩
  chunk := ⟨fun _ _ => 0, .success, fun _ => 0⟩
  unlock :=
    { pending := false
      mounts := false
      directory := ⟨false, [], false⟩
      now := 0
      pendingAfterFind := false
      deletion := ⟨false, 0, false, 0, false, false⟩
      card := id }

/-! ### The longer steps of `main`, by cases -/

section Long

variable (dev : Device)

/-- The read loops are left with the packets queued and EP1 IN at NAK, or go on. -/
theorem readRun_cases (io : MainIo) (preqnum : ℕ) (actualLba : UInt32) (s : Sys) :
    readRun dev io preqnum actualLba s = s
      ∨ ∃ packets, readRun dev io preqnum actualLba s
          = { s with
              drive := { s.drive with
                bot := { s.drive.bot with
                  queued := s.drive.bot.queued ++ packets
                  txCtrl := .nak } }
              usbIrq := true
              pc := .readAdvanceLoad preqnum } := by
  unfold readRun finishReadStream
  rcases readStreamUsb2 (s.drive.readRequest dev actualLba preqnum) io.read.ring io.read.events
    with - | delivered
  · exact Or.inl rfl
  · exact Or.inr ⟨_, rfl⟩

/-- The write loop ends, or makes a pass and goes on or ends behind it. -/
theorem writeRun_cases (io : MainIo) (stream : WriteStream) (s : Sys) :
    stream.sectorsLeft = 0
        ∧ writeRun dev io stream s = { s with usbIrq := true, pc := .writeCheck }
      ∨ 0 < stream.sectorsLeft ∧ ∃ d', PassEffect dev io.chunk stream s.drive d'
        ∧ (writeRun dev io stream s = { s with drive := d', pc := .writeRun stream.next }
          ∨ writeRun dev io stream s
            = { s with drive := d', usbIrq := true, pc := .writeCheck }) := by
  unfold writeRun
  rcases Nat.eq_zero_or_pos stream.sectorsLeft with hzero | hpos
  · exact Or.inl ⟨hzero, if_pos hzero⟩
  · refine Or.inr ⟨hpos, _, writeIter_effect hpos, ?_⟩
    rw [if_neg (by omega)]
    dsimp only
    split
    · exact Or.inl rfl
    · exact Or.inr rfl

/-- The end of `bot_poll` does nothing but go on, or attempts to unlock. -/
theorem pollUnlock_cases (io : MainIo) (s : Sys) :
    pollUnlock dev io s = { s with pc := .poll }
      ∨ s.drive.phantom.unlockPending = true
        ∧ pollUnlock dev io s
          = { s with
              lastCheckMs := io.now
              drive := phantomdriveTryUnlock dev io.unlock s.drive
              pc := .poll } := by
  unfold pollUnlock
  split
  · exact Or.inl rfl
  rename_i hpending
  dsimp only
  split
  · exact Or.inl rfl
  · exact Or.inr ⟨by simpa using hpending, rfl⟩

/-- What one step of `main` does: nothing, a read command, a chunk handed to the card, or a key
derivation. -/
theorem mainStep_log (io : MainIo) (s : Sys) :
    (mainStep dev io s).drive.log = s.drive.log
      ∨ (∃ preqnum lba, s.pc = .readStart preqnum lba
          ∧ (mainStep dev io s).drive.log
            = s.drive.log ++ [.cardRead s.drive.phantom.isLocked lba preqnum])
      ∨ (∃ stream data, s.pc = .writeRun stream ∧ 0 < stream.sectorsLeft
          ∧ dev.outOfCard (chunkLba dev stream s.drive) stream.chunkSectors = false
          ∧ data.length = stream.chunkSectors
          ∧ (mainStep dev io s).drive.log
            = s.drive.log ++ [.cardWrite s.drive.phantom.isLocked stream.lba
                (chunkLba dev stream s.drive) data])
      ∨ ∃ password salt, s.pc = .pollUnlock
          ∧ (mainStep dev io s).drive.log = s.drive.log ++ [.cryptoUnlock password salt] := by
  cases hpc : s.pc with
  | readStart preqnum lba =>
    simp only [mainStep, hpc]
    exact Or.inr (Or.inl ⟨preqnum, lba, rfl, rfl⟩)
  | readRun preqnum lba =>
    simp only [mainStep, hpc]
    rcases readRun_cases dev io preqnum lba s with h | ⟨packets, h⟩
    · rw [h]
      exact Or.inl rfl
    · rw [h]
      exact Or.inl rfl
  | csw stage caller =>
    cases stage
    case ack =>
      cases caller
      all_goals
        simp only [mainStep, hpc]
        exact Or.inl rfl
    all_goals
      simp only [mainStep, hpc]
      exact Or.inl rfl
  | writeRun stream =>
    simp only [mainStep, hpc]
    rcases writeRun_cases dev io stream s with ⟨-, h⟩ | ⟨hpos, d', heffect, h⟩
    · rw [h]
      exact Or.inl rfl
    have hdrive : (writeRun dev io stream s).drive = d' := by
      rcases h with h | h
      · rw [h]
      · rw [h]
    rw [hdrive]
    rcases heffect.log with hlog | ⟨hcard, hlog⟩
    · exact Or.inl hlog
    · exact Or.inr (Or.inr (Or.inl
        ⟨stream, _, rfl, hpos, hcard, length_chunkData, hlog⟩))
  | pollUnlock =>
    simp only [mainStep, hpc]
    rcases pollUnlock_cases dev io s with h | ⟨-, h⟩
    · rw [h]
      exact Or.inl rfl
    rw [h]
    rcases phantomdriveTryUnlock_cases dev io.unlock s.drive with hgive | hswitch
    · exact Or.inl hgive.log
    · obtain ⟨card, len, passwordLen, -, hswitched⟩ := hswitch.switched
      exact Or.inr (Or.inr (Or.inr ⟨_, _, trivial, congrArg Drive.log hswitched⟩))
  | writeStart totalSectors lba =>
    simp only [mainStep, hpc]
    exact Or.inl trivial
  | _ =>
    simp only [mainStep, hpc]
    exact Or.inl rfl

/-- An interrupt works on the transport layer and `endp1Rbuff` only. -/
theorem step_interrupt {s : Sys} {e : Event} (h : ∀ io, e ≠ .main io) :
    ∃ bot rxBuff, step dev s e
      = { s with drive := { s.drive with
            bot := bot
            rxBuff := rxBuff } } := by
  cases e with
  | bulkOut packet =>
    unfold step
    dsimp only
    split
    · exact ⟨_, _, rfl⟩
    · exact ⟨_, _, rfl⟩
  | bulkIn =>
    unfold step
    dsimp only
    split
    · exact ⟨_, _, rfl⟩
    · exact ⟨_, _, rfl⟩
  | main io => exact absurd rfl (h io)

/-- An interrupt does nothing to the card. -/
theorem step_log_interrupt {s : Sys} {e : Event} (h : ∀ io, e ≠ .main io) :
    (step dev s e).drive.log = s.drive.log := by
  obtain ⟨bot, rxBuff, hstep⟩ := step_interrupt dev h
  rw [hstep]

end Long

end PhantomDrive
