/-
PhantomDrive/MscRead.lean

`msc_read.c`: READ(10) from the card to the endpoint through a ring of 60 sectors.

`read_stream_usb2` polls two devices while the USB interrupt is off: the card
controller, which fills one slot after the other and stops at each gap, and the
endpoint, which sends one slot at a time.  The engine is a state machine with three
events: the card finishes a sector, the host takes a packet, the polling loop makes
one half of a pass (its USB part or its eMMC part).  Any interleaving is a run.
-/
import PhantomDrive.Lib.Runs
import PhantomDrive.MscWrite

namespace PhantomDrive

/-! ### The read pipe -/

/-- `READ_RING_SECTORS`. -/
def readRingSectors : ℕ := 60

/-- `read_pipe_t`. -/
structure ReadPipe where
  emmcDone : ℕ
  usbDone : ℕ
  emmcSlot : ℕ
  usbSlot : ℕ
  emmcPausedForUsbBuffer : Bool
  usbFirstPacket : Bool
deriving DecidableEq, Repr

/-- The pipe a read starts with. -/
def ReadPipe.init : ReadPipe where
  emmcDone := 0
  usbDone := 0
  emmcSlot := 0
  usbSlot := 0
  emmcPausedForUsbBuffer := false
  usbFirstPacket := true

/-- `next_read_ring_slot`. -/
def nextReadRingSlot (slot : ℕ) : ℕ := if slot + 1 = readRingSectors then 0 else slot + 1

/-- `read_pipe_has_safe_usb_sector`. -/
def ReadPipe.hasSafeUsbSector (pipe : ReadPipe) : Bool :=
  1 < pipe.emmcDone && pipe.usbDone < pipe.emmcDone - 1

/-- `read_pipe_has_space_for_emmc`. -/
def ReadPipe.hasSpaceForEmmc (pipe : ReadPipe) : Bool :=
  pipe.emmcDone - pipe.usbDone < readRingSectors - 2

/-! ### The engine -/

/-- Where the polling loop stands: before the USB part or the eMMC part of a pass of the first
loop, in the loop that drains the ring, in the wait for the last packet, behind it. -/
inductive ReadPhase
  | usb
  | emmc
  | drain
  | wait
  | stopped
deriving DecidableEq, Repr

/-- A read while it is going on: the locals, the ring and the registers of the two devices. -/
structure ReadEngine where
  pipe : ReadPipe
  phase : ReadPhase
  /-- `UDisk_In_Buf`, slot by slot. -/
  ring : ℕ → Sector
  /-- The slot `R32_EMMC_DMA_BEG1` points to. -/
  dmaSlot : ℕ
  /-- How many sectors of the command the card has put into the ring. -/
  blocksRead : ℕ
  /-- The gap stop is released, so the card fills `dmaSlot`. -/
  running : Bool
  /-- `RB_EMMC_IF_BKGAP`. -/
  bkgap : Bool
  /-- `RB_EMMC_IF_TRANDONE`. -/
  tranDone : Bool
  /-- The slot that EP1 IN sends. -/
  txSlot : Option ℕ
  /-- `RB_USB_IF_TRANSFER`. -/
  transfer : Bool
  /-- The sectors the host has taken. -/
  delivered : List Sector

/-- The engine right after `emmc_start_multiblock_read`. -/
def ReadEngine.init (ring : ℕ → Sector) : ReadEngine where
  pipe := ReadPipe.init
  phase := .usb
  ring := ring
  dmaSlot := 0
  blocksRead := 0
  running := true
  bkgap := false
  tranDone := false
  txSlot := none
  transfer := false
  delivered := []

/-- What stays fixed during a read: the command and the cipher to undo, if any. -/
structure ReadRequest where
  actualLba : UInt32
  preqnum : ℕ
  card : Card
  /-- `if (decrypt) phantomdrive_decrypt_buf(sector, lba, 1)`. -/
  decrypt : UInt32 → Sector → Sector

/-- `queue_usb_read_sector`. -/
def ReadEngine.queueUsbReadSector (sendSlot : ℕ) (e : ReadEngine) : ReadEngine :=
  { e with txSlot := some sendSlot }

/-- What both loops do when a packet can be queued. -/
def ReadEngine.sendSector (e : ReadEngine) : ReadEngine :=
  let sendSlot := e.pipe.usbSlot
  let e := { e with transfer := false }.queueUsbReadSector sendSlot
  { e with
    pipe := { e.pipe with
      usbFirstPacket := false
      usbDone := e.pipe.usbDone + 1
      usbSlot := nextReadRingSlot e.pipe.usbSlot } }

/-- The USB part of a pass of the first loop. -/
def ReadEngine.usbPart (e : ReadEngine) : ReadEngine :=
  if e.pipe.hasSafeUsbSector && (e.transfer || e.pipe.usbFirstPacket) then
    let e := e.sendSector
    if e.pipe.emmcPausedForUsbBuffer then
      { e with pipe := { e.pipe with emmcPausedForUsbBuffer := false }, running := true }
    else e
  else e

/-- `completed_slot` after the card is done with it: decrypted if the drive is unlocked. -/
def ReadEngine.completeSlot (r : ReadRequest) (e : ReadEngine) : ReadEngine :=
  { e with
    ring := Function.update e.ring e.pipe.emmcSlot
      (r.decrypt (r.actualLba + UInt32.ofNat e.pipe.emmcDone) (e.ring e.pipe.emmcSlot)) }

/-- The eMMC part of a pass of the first loop. -/
def ReadEngine.emmcPart (r : ReadRequest) (e : ReadEngine) : ReadEngine :=
  if e.bkgap then
    let e := e.completeSlot r
    let pipe := { e.pipe with
      emmcDone := e.pipe.emmcDone + 1
      emmcSlot := nextReadRingSlot e.pipe.emmcSlot }
    let e := { e with bkgap := false, pipe := pipe, dmaSlot := pipe.emmcSlot, phase := .usb }
    if pipe.hasSpaceForEmmc then { e with running := true }
    else { e with pipe := { pipe with emmcPausedForUsbBuffer := true } }
  else if e.tranDone then
    let e := e.completeSlot r
    { e with
      tranDone := false
      pipe := { e.pipe with emmcDone := e.pipe.emmcDone + 1 }
      phase := .drain }
  else { e with phase := .usb }

/-- One pass of the loop that drains the ring. -/
def ReadEngine.drainPass (e : ReadEngine) : ReadEngine :=
  if e.pipe.usbDone < e.pipe.emmcDone then
    if e.transfer || e.pipe.usbFirstPacket then e.sendSector else e
  else { e with phase := .wait }

/-- The polling loops of `read_stream_usb2`, half a pass at a time. -/
def ReadEngine.poll (r : ReadRequest) (e : ReadEngine) : ReadEngine :=
  match e.phase with
  | .usb => { e.usbPart with phase := .emmc }
  | .emmc => e.emmcPart r
  | .drain => e.drainPass
  | .wait => if e.transfer then { e with transfer := false, phase := .stopped } else e
  | .stopped => e

/-- The card finishes the sector it fills.  It raises `BKGAP` and stops at the gap, or raises
`TRANDONE` behind the last sector of the command. -/
def ReadEngine.cardEvent (r : ReadRequest) (e : ReadEngine) : ReadEngine :=
  if e.running then
    { e with
      ring := Function.update e.ring e.dmaSlot (r.card (r.actualLba.toNat + e.blocksRead))
      blocksRead := e.blocksRead + 1
      running := false
      bkgap := e.blocksRead + 1 < r.preqnum
      tranDone := r.preqnum ≤ e.blocksRead + 1 }
  else e

/-- The host takes the packet that EP1 IN sends. -/
def ReadEngine.usbEvent (e : ReadEngine) : ReadEngine :=
  match e.txSlot with
  | some slot =>
      { e with
        delivered := e.delivered ++ [e.ring slot]
        txSlot := none
        transfer := true }
  | none => e

inductive ReadEvent
  | card
  | usb
  | poll
deriving DecidableEq, Repr

/-- One event; an event that cannot happen changes nothing. -/
def ReadEngine.step (r : ReadRequest) (e : ReadEngine) : ReadEvent → ReadEngine
  | .card => e.cardEvent r
  | .usb => e.usbEvent
  | .poll => e.poll r

/-- `read_stream_usb2` over a sequence of events: the sectors the host has taken, once the
function has returned. -/
def readStreamUsb2 (r : ReadRequest) (ring : ℕ → Sector) (events : List ReadEvent) :
    Option (List Sector) :=
  let e := Runs.run (ReadEngine.step r) (ReadEngine.init ring) events
  if e.phase = .stopped then some e.delivered else none

end PhantomDrive
