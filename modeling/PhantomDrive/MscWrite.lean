/-
PhantomDrive/MscWrite.lean

`msc_write.c`: WRITE(10) from the endpoint to the card, in chunks of at most 60
sectors.  Also the record of the whole drive that this path works on, with a log of
what the firmware asks of the card.

The packets of the host, the outcome of `EMMCCardWriteMulSec` and the clock are the
environment; `ChunkIo` has them for one chunk.
-/
import PhantomDrive.Bot
import PhantomDrive.Snoop

namespace PhantomDrive

/-! ### The drive -/

/-- What the firmware does that can be seen from outside the USB: a read command to the
card (`EMMC_CMD18`), sectors handed to `EMMCCardWriteMulSec`, a derivation of the keys.
`locked` is `phantomdrive_is_locked()` at that time, `hostLba` the sector number of the host. -/
inductive Action
  | cardRead (locked : Bool) (lba : UInt32) (numSectors : ℕ)
  | cardWrite (locked : Bool) (hostLba lba : UInt32) (data : List Sector)
  | cryptoUnlock (password : List UInt8) (salt : Vector UInt8 8)

structure Drive where
  bot : Bot
  /-- `endp1Rbuff`. -/
  rxBuff : Sector
  phantom : Phantom
  keys : AesKeys
  card : Card
  /-- What was done so far, the newest last. -/
  log : List Action

/-- `compute_physical_lba`. -/
def computePhysicalLba (dev : Device) (locked : Bool) (hostLba : UInt32) : UInt32 :=
  if !locked then hostLba + dev.lockedSectors else hostLba

/-! ### One chunk -/

/-- What `EMMCCardWriteMulSec` does: it stores the chunk, or it fails and leaves in each
sector of the chunk what it held or something else. -/
inductive WriteOutcome
  | success
  | failure (left : ℕ → Option Sector)

/-- The card after `EMMCCardWriteMulSec` on the sectors from `lba` on. -/
def Card.attempt (card : Card) (lba : ℕ) (data : List Sector) : WriteOutcome → Card
  | .success => card.write lba data
  | .failure left => fun s =>
      if lba ≤ s ∧ s < lba + data.length then (left (s - lba)).getD (card s) else card s

def WriteOutcome.ok : WriteOutcome → Bool
  | .success => true
  | .failure _ => false

/-- `write_lba >= EMMCSecNum || chunk_sectors > EMMCSecNum - write_lba`. -/
def Device.outOfCard (dev : Device) (lba : UInt32) (chunkSectors : ℕ) : Bool :=
  dev.emmcSecNum ≤ lba || dev.emmcSecNum - lba < UInt32.ofNat chunkSectors

/-- `write_chunk_to_sd`: whether the status is `CMD_SUCCESS`, and the drive. -/
def writeChunkToSd (dev : Device) (outcome : WriteOutcome) (hostLba : UInt32)
    (buf : List Sector) (writeLba : UInt32) (d : Drive) : Bool × Drive :=
  if buf.length = 0 then (true, d)
  else if dev.outOfCard writeLba buf.length then (false, d)
  else
    (outcome.ok,
      { d with
        card := d.card.attempt writeLba.toNat buf outcome
        log := d.log ++ [.cardWrite d.phantom.isLocked hostLba writeLba buf] })

/-- The environment of one chunk: the packets received for it, what the card does with it and
the clock. -/
structure ChunkIo where
  packets : ℕ → Sector
  outcome : WriteOutcome
  now : ℕ → UInt64

/-- `receive_chunk_usb2`: the first sector of a command is in `endp1Rbuff` already. -/
def receiveChunkUsb2 (rxBuff : Sector) (firstPacket : Bool) (chunkSectors : ℕ)
    (packets : ℕ → Sector) : List Sector :=
  (List.range chunkSectors).map fun k => if firstPacket ∧ k = 0 then rxBuff else packets k

/-- `write_received_chunk`. -/
def writeReceivedChunk (dev : Device) (io : ChunkIo) (buf : List Sector) (lba : UInt32)
    (d : Drive) : Bool × Drive :=
  let physicalLba := computePhysicalLba dev d.phantom.isLocked lba
  if d.phantom.isLocked then
    let snooped := phantomdriveSnoopWrite io.now (chunkBytes buf) lba d.phantom
    writeChunkToSd dev io.outcome lba (sectorsOfBytes buf.length snooped.1) physicalLba
      { d with phantom := snooped.2 }
  else
    writeChunkToSd dev io.outcome lba
      (phantomdriveEncryptBuf dev.ecdc dev.aesMode d.keys buf physicalLba) physicalLba d

/-! ### The stream of a command -/

/-- The locals of the loop of `write_stream_usb2`. -/
structure WriteStream where
  sectorsLeft : ℕ
  lba : UInt32
  firstPacket : Bool
deriving DecidableEq, Repr

/-- `chunk_sectors`. -/
def WriteStream.chunkSectors (s : WriteStream) : ℕ := min s.sectorsLeft 60

/-- The locals when a chunk was stored and another one follows. -/
def WriteStream.next (s : WriteStream) : WriteStream where
  sectorsLeft := s.sectorsLeft - s.chunkSectors
  lba := s.lba + UInt32.ofNat s.chunkSectors
  firstPacket := false

/-- One pass of the loop of `write_stream_usb2`: whether the chunk was stored, and the drive. -/
def writeIter (dev : Device) (io : ChunkIo) (s : WriteStream) (d : Drive) : Bool × Drive :=
  let buf := receiveChunkUsb2 d.rxBuff s.firstPacket s.chunkSectors io.packets
  let r := writeReceivedChunk dev io buf s.lba d
  if r.1 then r
  else (false, { r.2 with
    bot := botSetSense senseKeyMediumError senseAscWriteError .failed r.2.bot })

/-- The loop of `write_stream_usb2`; `io k` is the environment of chunk `k`. -/
def writeChunks (dev : Device) (io : ℕ → ChunkIo) (s : WriteStream) (d : Drive) : Drive :=
  if s.sectorsLeft = 0 then d
  else
    let r := writeIter dev (io 0) s d
    if r.1 then writeChunks dev (fun k => io (k + 1)) s.next r.2 else r.2
termination_by s.sectorsLeft
decreasing_by
  simp only [WriteStream.next, WriteStream.chunkSectors]
  omega

/-- `write_stream_usb2`. -/
def writeStreamUsb2 (dev : Device) (io : ℕ → ChunkIo) (totalSectors : ℕ) (lba : UInt32)
    (d : Drive) : Drive :=
  writeChunks dev io { sectorsLeft := totalSectors, lba := lba, firstPacket := true } d

/-- `g_bot.transfer_bytes_left / SECTOR_SIZE` as a `uint16_t`. -/
def Bot.transferSectors (b : Bot) : ℕ := (b.transferBytesLeft / 512).toNat % 65536

/-- `msc_write_sectors`. -/
def mscWriteSectors (dev : Device) (io : ℕ → ChunkIo) (d : Drive) : Drive :=
  let totalSectors := d.bot.transferSectors
  let lba := d.bot.currentLba
  let d := { d with bot := { d.bot with transferBytesLeft := 0 } }
  let d := writeStreamUsb2 dev io totalSectors lba d
  if d.bot.transferBytesLeft = 0 then
    let flags := { d.bot.transferFlags with dataOut := false }
    { d with bot := botSendCsw { d.bot with transferFlags := flags } }
  else d

end PhantomDrive
