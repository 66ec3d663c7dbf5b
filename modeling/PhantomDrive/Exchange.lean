/-
PhantomDrive/Exchange.lean

One exchange of the Bulk-Only Transport (CBW, data, CSW) as an observer beside the
firmware records it, and what a host that sends one command at a time promises.

`Exchange` is what the observer knows of the command in progress: its CBW, what the
lock and `csw_status` were when it came, and what was moved for it so far.  No function
of the firmware reads it.  `Session` runs it along with the firmware.

`Ongoing` lists the phases an exchange goes through; `Session.lean` proves that every
orderly run stays within them.
-/
import PhantomDrive.Response

namespace PhantomDrive

/-! ### What a CBW asks for -/

/-- The transport layer when the handler of a CBW is called. -/
def Bot.beginCbw (cmd : BulkOnlyCmd) (b : Bot) : Bot := botBeginCbwTransfer { b with cbwCsw := cmd }

/-- The command is rejected by its handler. -/
def BulkOnlyCmd.refused (dev : Device) (locked : Bool) (cmd : BulkOnlyCmd) : Bool :=
  (Bot.init.beginCbw cmd).rejects dev locked

/-- `transfer_bytes_left` behind the handler: the host length, clamped to the response, or the
block count of the CDB. -/
def BulkOnlyCmd.deviceBytes (cmd : BulkOnlyCmd) : UInt32 :=
  (Bot.init.beginCbw cmd).bytesAfterDispatch

/-- `transfer_bytes_left / SECTOR_SIZE` behind the handler, as a `uint16_t`. -/
def BulkOnlyCmd.deviceSectors (cmd : BulkOnlyCmd) : ℕ := (cmd.deviceBytes / 512).toNat % 65536

/-- The number of data bytes in packets. -/
def byteCount (datas : List (List UInt8)) : ℕ := (datas.map List.length).sum

@[simp] theorem byteCount_nil : byteCount [] = 0 := rfl

theorem byteCount_append (datas later : List (List UInt8)) :
    byteCount (datas ++ later) = byteCount datas + byteCount later := by
  simp [byteCount]

/-! ### The observer -/

/-- What the observer knows of the last packet that was taken as a CBW. -/
structure Exchange where
  cbw : BulkOnlyCmd
  /-- `phantomdrive_is_locked()` when it came. -/
  locked : Bool
  /-- `csw_status` when it came. -/
  status : CswStatus
  /-- The response it asks for. -/
  response : List UInt8
  /-- The number of packets queued before. -/
  mark : ℕ
  /-- The host has not taken its CSW yet. -/
  outstanding : Bool
  /-- OUT packets taken as data. -/
  received : ℕ
  /-- Sectors the card has stored. -/
  stored : ℕ
  /-- A chunk was refused, or the card failed on it. -/
  failed : Bool

/-- Before the first CBW. -/
def Exchange.none : Exchange where
  cbw := Vector.replicate 31 0
  locked := true
  status := .passed
  response := []
  mark := 0
  outstanding := false
  received := 0
  stored := 0
  failed := false

theorem validSignature_none : Exchange.none.cbw.validSignature = false := by decide

/-- A CBW is taken. -/
def Exchange.begin (s : Sys) (cmd : BulkOnlyCmd) : Exchange where
  cbw := cmd
  locked := s.drive.phantom.isLocked
  status := s.drive.bot.cswStatus
  response := s.drive.bot.response cmd
  mark := s.drive.bot.queued.length
  outstanding := true
  received := 0
  stored := 0
  failed := false

/-- EP1 IN sends a CSW. -/
def Bot.sendsCsw (b : Bot) : Bool :=
  b.txCtrl = .ack && match b.txBuff with
    | .csw _ => true
    | .data _ => false

/-- The packets of a pass of the write loop that come in during the pass. -/
def WriteStream.newPackets (stream : WriteStream) : ℕ :=
  stream.chunkSectors - if stream.firstPacket then 1 else 0

/-- A pass of the write loop. -/
def Exchange.pass (dev : Device) (io : ChunkIo) (stream : WriteStream) (d : Drive) (x : Exchange) :
    Exchange :=
  if stream.sectorsLeft = 0 then x
  else
    let stored := (writeIter dev io stream d).1
    { x with
      received := x.received + stream.newPackets
      stored := if stored then x.stored + stream.chunkSectors else x.stored
      failed := x.failed || !stored }

/-- What the observer notes down about one event. -/
def observe (dev : Device) (x : Exchange) (s : Sys) : Event → Exchange
  | .bulkOut packet =>
      if s.usbIrq then
        if s.drive.bot.transferFlags.dataOut then { x with received := x.received + 1 }
        else if packet.length = 31 then .begin s (.ofPacket packet)
        else x
      else x
  | .bulkIn =>
      if s.usbIrq then { x with outstanding := x.outstanding && !s.drive.bot.sendsCsw } else x
  | .main io =>
      match s.pc with
      | .writeRun stream => x.pass dev io.chunk stream s.drive
      | _ => x

/-- The firmware and its observer. -/
structure Session where
  exchange : Exchange
  sys : Sys

def Session.init (dev : Device) (card : Card) : Session := ⟨.none, Sys.init dev card⟩

def Session.step (dev : Device) (t : Session) (e : Event) : Session where
  exchange := observe dev t.exchange t.sys e
  sys := PhantomDrive.step dev t.sys e

/-- The observer does not change the run. -/
theorem session_run_sys (dev : Device) (t : Session) (events : List Event) :
    (Runs.run (Session.step dev) t events).sys = Runs.run (step dev) t.sys events := by
  induction events generalizing t with
  | nil => rfl
  | cons e events ih => exact ih (t.step dev e)

/-- Interrupts that are off change nothing. -/
theorem Session.step_of_off {dev : Device} {t : Session} {e : Event}
    (hirq : t.sys.usbIrq = false) (hne : ∀ io, e ≠ .main io) : t.step dev e = t := by
  unfold Session.step PhantomDrive.step observe
  cases e with
  | bulkOut packet => simp only [hirq, Bool.false_eq_true, if_false]
  | bulkIn => simp only [hirq, Bool.false_eq_true, if_false]
  | main io => exact absurd rfl (hne io)

/-- An OUT packet. -/
theorem Session.step_bulkOut {dev : Device} {t : Session} {packet : List UInt8}
    (hirq : t.sys.usbIrq = true) :
    t.step dev (.bulkOut packet)
      = { exchange :=
            if t.sys.drive.bot.transferFlags.dataOut then
              { t.exchange with received := t.exchange.received + 1 }
            else if packet.length = 31 then .begin t.sys (.ofPacket packet)
            else t.exchange
          sys := { t.sys with drive := t.sys.drive.bulkOut dev packet } } := by
  unfold Session.step PhantomDrive.step observe
  dsimp only
  rw [if_pos hirq, if_pos hirq]

/-- An IN completion. -/
theorem Session.step_bulkIn {dev : Device} {t : Session} (hirq : t.sys.usbIrq = true) :
    t.step dev .bulkIn
      = { exchange :=
            { t.exchange with
              outstanding := t.exchange.outstanding && !t.sys.drive.bot.sendsCsw }
          sys := { t.sys with drive := t.sys.drive.bulkIn dev } } := by
  unfold Session.step PhantomDrive.step observe
  dsimp only
  rw [if_pos hirq, if_pos hirq]

/-! ### What a CBW fixes -/

/-- The exchange of the same CBW. -/
structure SameCbw (x x' : Exchange) : Prop where
  cbw : x'.cbw = x.cbw
  locked : x'.locked = x.locked
  status : x'.status = x.status

theorem Exchange.pass_sameCbw (dev : Device) (io : ChunkIo) (stream : WriteStream) (d : Drive)
    (x : Exchange) :
    SameCbw x (x.pass dev io stream d) ∧ (x.pass dev io stream d).response = x.response := by
  unfold Exchange.pass
  split
  · exact ⟨⟨rfl, rfl, rfl⟩, rfl⟩
  · exact ⟨⟨rfl, rfl, rfl⟩, rfl⟩

/-- An event is a CBW, or leaves the observer with the one it has and with its response. -/
theorem observe_cases (dev : Device) (x : Exchange) (s : Sys) (e : Event) :
    (∃ packet, e = .bulkOut packet ∧ s.TakesCbw packet
        ∧ observe dev x s e = .begin s (.ofPacket packet))
      ∨ (∀ packet, e = .bulkOut packet → ¬ s.TakesCbw packet)
        ∧ SameCbw x (observe dev x s e) ∧ (observe dev x s e).response = x.response := by
  unfold observe
  cases e with
  | bulkOut packet =>
    dsimp only
    split
    · rename_i hirq
      split
      · rename_i hout
        refine Or.inr ⟨?_, ⟨rfl, rfl, rfl⟩, rfl⟩
        rintro _ ⟨⟩ htakes
        exact Bool.false_ne_true (htakes.2.1.symm.trans hout)
      rename_i hout
      split
      · rename_i hlen
        exact Or.inl ⟨packet, rfl, ⟨hirq, by simpa using hout, hlen⟩, rfl⟩
      · rename_i hlen
        refine Or.inr ⟨?_, ⟨rfl, rfl, rfl⟩, rfl⟩
        rintro _ ⟨⟩ htakes
        exact hlen htakes.2.2
    · rename_i hirq
      refine Or.inr ⟨?_, ⟨rfl, rfl, rfl⟩, rfl⟩
      rintro _ ⟨⟩ htakes
      exact hirq htakes.1
  | bulkIn =>
    refine Or.inr ⟨fun packet => Event.noConfusion, ?_⟩
    dsimp only
    split
    · exact ⟨⟨rfl, rfl, rfl⟩, rfl⟩
    · exact ⟨⟨rfl, rfl, rfl⟩, rfl⟩
  | main io =>
    refine Or.inr ⟨fun packet => Event.noConfusion, ?_⟩
    dsimp only
    split
    · exact Exchange.pass_sameCbw ..
    · exact ⟨⟨rfl, rfl, rfl⟩, rfl⟩

/-- A condition on the CBWs of a run. -/
def CbwMeets (P : Exchange → Prop) (t : Session) : Event → Prop
  | .bulkOut packet => t.sys.TakesCbw packet → P (.begin t.sys (.ofPacket packet))
  | _ => True

/-- What holds of every CBW that is taken holds of the exchange that goes on. -/
theorem cbwMeets_step {dev : Device} {P : Exchange → Prop}
    (hsame : ∀ {x x'}, SameCbw x x' → P x → P x') {t : Session} {e : Event} (h : P t.exchange)
    (hok : CbwMeets P t e) : P (t.step dev e).exchange := by
  rcases observe_cases dev t.exchange t.sys e with
    ⟨packet, rfl, htakes, hbegin⟩ | ⟨-, hkeeps, -⟩
  · show P (observe dev t.exchange t.sys (.bulkOut packet))
    rw [hbegin]
    exact hok htakes
  · exact hsame hkeeps h

/-! ### Orderly runs -/

/-- `main` executes a write, from the test of `write_pending` to the store of the flags. -/
def MainPc.inWrite : MainPc → Bool
  | .writeTake | .writeCount | .writeLba _ | .writeZero .. | .writeStart .. | .writeRun _
  | .writeCheck | .writeFlagsLoad | .writeFlagsStore _ => true
  | _ => false

/-- `main` stands between the ACK of the CSW of a READ(10), which lets the host take it, and the
store of `transfer_flags`. -/
def MainPc.clearsDataIn : MainPc → Bool
  | .readFlagsLoad | .readFlagsStore _ => true
  | _ => false

/-- What a host that sends one command at a time and the endpoint promise: the next CBW comes when
the host has taken the CSW of the last one; EP1 OUT takes no further packet while a data packet
waits or is being written; and EP1 IN completes only what was queued, or whose halt is cleared. -/
def Serial (t : Session) : Event → Prop
  | .bulkOut packet => t.sys.usbIrq = true →
      if t.sys.drive.bot.transferFlags.dataOut then
        t.sys.drive.bot.writePending = false ∧ t.sys.pc.inWrite = false
      else packet.length = 31 → t.exchange.outstanding = false
  | .bulkIn => t.sys.usbIrq = true → t.sys.drive.bot.txCtrl ≠ .nak
  | .main _ => True

/-- No CBW comes between the ACK of the CSW of a READ(10) and the store of `transfer_flags`. -/
def ClearOfUpdate (t : Session) : Event → Prop
  | .bulkOut packet => t.sys.TakesCbw packet → t.sys.pc.clearsDataIn = false
  | _ => True

/-- The condition on an event of an orderly run. -/
def Orderly (t : Session) (e : Event) : Prop := Serial t e ∧ ClearOfUpdate t e

/-! ### The data phase of a command -/

/-- How the device moves the data of a command: not at all, from a response, by `msc_read_sectors`
or by `msc_write_sectors`. -/
inductive DataPhase
  | none
  | respond
  | read
  | write
deriving DecidableEq, Repr

namespace Exchange

def rejected (dev : Device) (x : Exchange) : Bool := x.cbw.refused dev x.locked

/-- The direction bit and the opcode choose how data are moved. -/
def dataPhase (dev : Device) (x : Exchange) : DataPhase :=
  if x.rejected dev || x.cbw.dataLen = 0 then .none
  else if x.cbw.dirIn then if x.cbw.isRead10 then .read else .respond
  else .write

/-- `csw_status` of the command: a card failure overrides what the handler has set. -/
def cswStatus (dev : Device) (x : Exchange) : CswStatus :=
  if x.failed || x.rejected dev then .failed
  else if x.cbw.command.keepsStatus then x.status
  else .passed

/-- The packets queued since the CBW. -/
def packets (x : Exchange) (b : Bot) : List InPacket := b.queued.drop x.mark

/-- No data came in and nothing was written. -/
def Untouched (x : Exchange) : Prop := x.received = 0 ∧ x.stored = 0 ∧ x.failed = false

/-- The write is over: all sectors are stored, or a chunk failed. -/
def WriteEnded (x : Exchange) : Prop :=
  x.failed = false ∧ x.stored = x.cbw.deviceSectors ∧ x.received = max 1 x.cbw.deviceSectors
    ∨ x.failed = true ∧ x.stored < x.cbw.deviceSectors ∧ x.received ≤ x.cbw.deviceSectors
      ∧ min x.cbw.deviceSectors 60 ≤ x.received

/-- What was moved for a command whose CSW is sent; `bytesIn` of it went to the host. -/
def Settled (dev : Device) (x : Exchange) (bytesIn : ℕ) : Prop :=
  match x.dataPhase dev with
  | .none => bytesIn = 0 ∧ x.Untouched
  | .respond => bytesIn = x.cbw.deviceBytes.toNat ∧ x.Untouched
  | .read => bytesIn = 512 * max 1 x.cbw.deviceSectors ∧ x.Untouched
  | .write => bytesIn = 0 ∧ x.WriteEnded

/-- The CSW is queued, behind the data and nothing else. -/
def Finished (dev : Device) (x : Exchange) (b : Bot) : Prop :=
  ∃ datas : List (List UInt8),
    x.packets b = datas.map .data ++ [.csw (cswBytes x.cbw.tag (x.cswStatus dev))]
      ∧ x.Settled dev (byteCount datas)

end Exchange

/-- Before the first CBW there is no data phase. -/
theorem dataPhase_none (dev : Device) : Exchange.none.dataPhase dev = .none := by
  have hlen : Exchange.none.cbw.dataLen = 0 := by decide
  rw [Exchange.dataPhase, decide_eq_true hlen, Bool.or_true, if_pos rfl]

theorem SameCbw.rejected {dev : Device} {x x' : Exchange} (h : SameCbw x x') :
    x'.rejected dev = x.rejected dev := by
  rw [Exchange.rejected, h.cbw, h.locked, Exchange.rejected]

theorem SameCbw.dataPhase {dev : Device} {x x' : Exchange} (h : SameCbw x x') :
    x'.dataPhase dev = x.dataPhase dev := by
  rw [Exchange.dataPhase, h.rejected, h.cbw, Exchange.dataPhase]

/-! ### The phases of an exchange -/

/-- `main` looks for something to do. -/
def MainPc.settled : MainPc → Bool
  | .poll | .pollWrite | .writeDone | .pollUnlock => true
  | _ => false

/-- Nothing is pending, and `main` executes nothing: at most the update of the flags behind an
earlier READ(10) is left to do. -/
structure AtRest (b : Bot) (pc : MainPc) : Prop where
  readPending : b.readPending = false
  writePending : b.writePending = false
  pc : pc.settled = true
    ∨ b.transferFlags = .none ∧ (pc = .readFlagsLoad ∨ pc = .readFlagsStore .none)

/-- The transport layer holds what the command in progress needs for its CSW. -/
structure Current (dev : Device) (x : Exchange) (b : Bot) : Prop where
  valid : x.cbw.validSignature = true
  outstanding : x.outstanding = true
  cbwTag : b.cbwTag = x.cbw.tag
  cswStatus : b.cswStatus = x.cswStatus dev
  mark : x.mark ≤ b.queued.length

/-- No command: the host has taken the CSW of the last one. -/
structure Idling (dev : Device) (x : Exchange) (b : Bot) (pc : MainPc) : Prop
    extends AtRest b pc where
  outstanding : x.outstanding = false
  mark : x.mark ≤ b.queued.length
  transferFlags : b.transferFlags = .none
  txCtrl : b.txCtrl = .nak
  finished : x.cbw.validSignature = false ∧ x.packets b = []
    ∨ x.cbw.validSignature = true ∧ x.Finished dev b

/-- A response packet is queued; more may follow. -/
structure Responding (dev : Device) (x : Exchange) (b : Bot) (pc : MainPc) : Prop
    extends Current dev x b, AtRest b pc where
  dataPhase : x.dataPhase dev = .respond
  untouched : x.Untouched
  dataOut : b.transferFlags.dataOut = false
  cswPending : b.transferFlags.cswPending = true
  isRead10 : b.cbwCsw.isRead10 = false
  txCtrl : b.txCtrl = .ack
  txBuff : ∃ bytes, b.txBuff = .data bytes
  sent : ∃ datas, x.packets b = datas.map .data
    ∧ byteCount datas + b.transferBytesLeft.toNat = x.cbw.deviceBytes.toNat
  last : b.transferFlags.dataIn = false → b.transferBytesLeft = 0

/-- No data phase, and no CSW yet. -/
structure Halted (dev : Device) (x : Exchange) (b : Bot) (pc : MainPc) : Prop
    extends Current dev x b, AtRest b pc where
  dataPhase : x.dataPhase dev = .none
  untouched : x.Untouched
  transferFlags : b.transferFlags = ⟨false, false, true⟩
  txCtrl : b.txCtrl ≠ .ack
  packets : x.packets b = []

/-- Where `main` stands in a READ(10). -/
def ReadingAt (x : Exchange) (b : Bot) : MainPc → Prop
  | .poll | .pollWrite | .writeDone | .pollUnlock | .readTake =>
      b.readPending = true ∧ b.transferBytesLeft = x.cbw.deviceBytes ∧ x.packets b = []
  | .readCount =>
      b.readPending = false ∧ b.transferBytesLeft = x.cbw.deviceBytes ∧ x.packets b = []
  | .readZero n | .readLba n | .readStart n _ | .readRun n _ =>
      b.readPending = false ∧ n = x.cbw.deviceSectors ∧ x.packets b = []
  | .readAdvanceLoad _ | .readAdvanceStore _ =>
      b.readPending = false ∧ ∃ datas, x.packets b = datas.map .data
        ∧ byteCount datas = 512 * max 1 x.cbw.deviceSectors
  | _ => False

/-- A READ(10) is pending or being executed. -/
structure Reading (dev : Device) (x : Exchange) (b : Bot) (pc : MainPc) : Prop
    extends Current dev x b where
  dataPhase : x.dataPhase dev = .read
  untouched : x.Untouched
  writePending : b.writePending = false
  transferFlags : b.transferFlags = ⟨true, false, true⟩
  isRead10 : b.cbwCsw.isRead10 = true
  txCtrl : b.txCtrl = .nak
  at_ : ReadingAt x b pc

/-- The target of a WRITE(10) or READ(10) is the one of its CDB. -/
def Exchange.TargetIs (x : Exchange) (lba : UInt32) : Prop :=
  x.cbw.command.isRw10 = true → lba = x.cbw.lba

/-- The data phase of the command goes to the device, and none of it came in. -/
structure Awaiting (dev : Device) (x : Exchange) (b : Bot) (pc : MainPc) : Prop
    extends Current dev x b, AtRest b pc where
  dataPhase : x.dataPhase dev = .write
  untouched : x.Untouched
  transferFlags : b.transferFlags = ⟨false, true, true⟩
  txCtrl : b.txCtrl = .nak
  packets : x.packets b = []
  left : b.transferBytesLeft = x.cbw.deviceBytes
  target : x.TargetIs b.currentLba

/-- What is done and left of the write loop. -/
structure StreamAt (x : Exchange) (stream : WriteStream) : Prop where
  sectors : stream.sectorsLeft + x.stored = x.cbw.deviceSectors
  lba : ∃ lba, x.TargetIs lba ∧ stream.lba = lba + UInt32.ofNat x.stored
  failed : x.failed = false
  first : stream.firstPacket = true → x.stored = 0 ∧ x.received = 1
  later : stream.firstPacket = false → 0 < x.stored ∧ x.received = x.stored
    ∧ min x.cbw.deviceSectors 60 ≤ x.received

/-- Nothing of a write was done yet: only its first packet is in. -/
structure Exchange.FirstPacket (x : Exchange) : Prop where
  received : x.received = 1
  stored : x.stored = 0
  failed : x.failed = false

/-- Where `main` stands in a write. -/
def WritingAt (x : Exchange) (b : Bot) : MainPc → Prop
  | .poll | .pollWrite | .writeDone | .pollUnlock | .writeTake =>
      b.writePending = true ∧ b.transferBytesLeft = x.cbw.deviceBytes ∧ x.TargetIs b.currentLba
        ∧ x.FirstPacket
  | .writeCount =>
      b.writePending = false ∧ b.transferBytesLeft = x.cbw.deviceBytes ∧ x.TargetIs b.currentLba
        ∧ x.FirstPacket
  | .writeLba n =>
      b.writePending = false ∧ n = x.cbw.deviceSectors ∧ x.TargetIs b.currentLba ∧ x.FirstPacket
  | .writeZero n lba =>
      b.writePending = false ∧ n = x.cbw.deviceSectors ∧ x.TargetIs lba ∧ x.FirstPacket
  | .writeStart n lba =>
      b.writePending = false ∧ b.transferBytesLeft = 0 ∧ n = x.cbw.deviceSectors ∧ x.TargetIs lba
        ∧ x.FirstPacket
  | .writeRun stream =>
      b.writePending = false ∧ b.transferBytesLeft = 0 ∧ StreamAt x stream
  | .writeCheck => b.writePending = false ∧ b.transferBytesLeft = 0 ∧ x.WriteEnded
  | .writeFlagsLoad => b.writePending = false ∧ x.WriteEnded
  | .writeFlagsStore flags =>
      b.writePending = false ∧ flags = ⟨false, false, true⟩ ∧ x.WriteEnded
  | _ => False

/-- A data packet is pending or being written. -/
structure Writing (dev : Device) (x : Exchange) (b : Bot) (pc : MainPc) : Prop
    extends Current dev x b where
  dataPhase : x.dataPhase dev = .write
  readPending : b.readPending = false
  transferFlags : b.transferFlags = ⟨false, true, true⟩
  txCtrl : b.txCtrl = .nak
  packets : x.packets b = []
  at_ : WritingAt x b pc

/-- Where `main` stands in `bot_send_csw`. -/
def ClosingAt (dev : Device) (x : Exchange) (b : Bot) : MainPc → Prop
  | .csw .clear .read =>
      b.transferFlags = ⟨true, false, true⟩ ∧ b.cbwCsw.isRead10 = x.cbw.isRead10
  | .csw .clear .write => b.transferFlags = ⟨false, false, true⟩
  | .csw .fill _ => b.transferFlags = .none
  | .csw .copy _ =>
      b.transferFlags = .none
        ∧ b.cbwCsw.toList.take 13 = cswBytes x.cbw.tag (x.cswStatus dev)
  | .csw .ack _ =>
      b.transferFlags = .none ∧ b.txBuff = .csw (cswBytes x.cbw.tag (x.cswStatus dev))
  | _ => False

/-- `main` sends the CSW. -/
structure Closing (dev : Device) (x : Exchange) (b : Bot) (pc : MainPc) : Prop
    extends Current dev x b where
  readPending : b.readPending = false
  writePending : b.writePending = false
  txCtrl : b.txCtrl = .nak
  dataPhase : x.dataPhase dev = .read ∨ x.dataPhase dev = .write
  sent : ∃ datas, x.packets b = datas.map .data ∧ x.Settled dev (byteCount datas)
  at_ : ClosingAt dev x b pc

/-- The CSW is queued. -/
structure Closed (dev : Device) (x : Exchange) (b : Bot) (pc : MainPc) : Prop
    extends Current dev x b, AtRest b pc where
  transferFlags : b.transferFlags = .none
  txCtrl : b.txCtrl = .ack
  txBuff : b.txBuff = .csw (cswBytes x.cbw.tag (x.cswStatus dev))
  finished : x.Finished dev b

/-- The CBW had no signature: the device waits for a reset. -/
structure Void (x : Exchange) (b : Bot) (pc : MainPc) : Prop extends AtRest b pc where
  invalid : x.cbw.validSignature = false
  outstanding : x.outstanding = true
  mark : x.mark ≤ b.queued.length
  transferFlags : b.transferFlags = .none
  txCtrl : b.txCtrl ≠ .ack
  packets : x.packets b = []

/-- **The phases of an exchange.** -/
inductive Ongoing (dev : Device) (x : Exchange) (b : Bot) (pc : MainPc) : Prop
  | idling (h : Idling dev x b pc)
  | responding (h : Responding dev x b pc)
  | halted (h : Halted dev x b pc)
  | reading (h : Reading dev x b pc)
  | awaiting (h : Awaiting dev x b pc)
  | writing (h : Writing dev x b pc)
  | closing (h : Closing dev x b pc)
  | closed (h : Closed dev x b pc)
  | void (h : Void x b pc)

end PhantomDrive
