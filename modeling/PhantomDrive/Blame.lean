/-
PhantomDrive/Blame.lean

Whose failure a CSW reports.  `csw_status`, the sense data and the buffers are left by
one command and found by the next.  Every handler but those of MODE SENSE sets
`csw_status`, so what an earlier command has left does not matter to a command
(`status_blame`), except to a MODE SENSE that is accepted while `csw_status` is FAILED:
it reports the failure again (`modeSense6_blamed`).

The proof runs two drives side by side that differ in what earlier commands have left
(`Past`) and shows that they answer the same.
-/
import PhantomDrive.HostView

namespace PhantomDrive

/-! ### What earlier commands leave behind -/

/-- The fields that keep traces of earlier commands: the sense data, the buffer of the CBW, the
buffer of EP1 IN and the record of what was queued. -/
structure Past where
  senseKey : UInt8
  senseAsc : UInt8
  cbwCsw : BulkOnlyCmd
  txBuff : InPacket
  queued : List InPacket

/-- The same state with another past. -/
def Bot.withPast (p : Past) (b : Bot) : Bot :=
  { b with
    senseKey := p.senseKey
    senseAsc := p.senseAsc
    cbwCsw := p.cbwCsw
    txBuff := p.txBuff
    queued := p.queued }

def Drive.withPast (p : Past) (log : List Action) (d : Drive) : Drive :=
  { d with bot := d.bot.withPast p, log := log }

def Sys.withPast (p : Past) (log : List Action) (s : Sys) : Sys :=
  { s with drive := s.drive.withPast p log }

/-- The same bytes; with `masked`, but for those of the sense in a response of REQUEST SENSE. -/
def SameBytes (masked : Bool) (bytes bytes' : List UInt8) : Prop :=
  ∀ i : ℕ, (masked = true → i ≠ 2 ∧ i ≠ 12) → bytes'[i]? = bytes[i]?

/-- The same packet; with `masked`, but for the sense in data. -/
inductive SamePacket (masked : Bool) : InPacket → InPacket → Prop
  | data {bytes bytes' : List UInt8} (h : SameBytes masked bytes bytes') :
      SamePacket masked (.data bytes) (.data bytes')
  | csw (bytes : List UInt8) : SamePacket masked (.csw bytes) (.csw bytes)

/-- The same packets behind those in `q` and `q'`, and the same bytes where the next packet is made
from. -/
structure Alike (masked : Bool) (q q' : List InPacket) (b : Bot) (pc : MainPc) (p : Past) :
    Prop where
  cbwCsw : SameBytes masked b.cbwCsw.toList p.cbwCsw.toList
  sent : ∃ new new', b.queued = q ++ new ∧ p.queued = q' ++ new'
    ∧ List.Forall₂ (SamePacket masked) new new'
  copy : ∀ caller, pc = .csw .copy caller → p.cbwCsw = b.cbwCsw
  ack : ∀ caller, pc = .csw .ack caller → SamePacket masked b.txBuff p.txBuff

section Bytes

variable {masked : Bool} {q q' : List InPacket} {b : Bot} {pc : MainPc} {p : Past} {dev : Device}

theorem SameBytes.refl (masked : Bool) (bytes : List UInt8) : SameBytes masked bytes bytes :=
  fun _ _ => rfl

/-- The sense does not lie on the opcode. -/
theorem SameBytes.isRead10 {cmd cmd' : BulkOnlyCmd} (h : SameBytes masked cmd.toList cmd'.toList) :
    cmd'.isRead10 = cmd.isRead10 := by
  have hopcode : cmd'.opcode = cmd.opcode := by
    have hget := h 15 fun _ => ⟨by decide, by decide⟩
    simpa [BulkOnlyCmd.opcode] using hget
  rw [BulkOnlyCmd.isRead10, hopcode, BulkOnlyCmd.isRead10]

/-- What is read from a buffer with the same bytes. -/
theorem sameBytes_responseBytes (h : SameBytes masked b.cbwCsw.toList p.cbwCsw.toList) (len : ℕ) :
    SameBytes masked (b.responseBytes dev len) ((b.withPast p).responseBytes dev len) := by
  intro i hi
  have hobject : (b.withPast p).responseObject[i]? = b.responseObject[i]? := by
    unfold Bot.responseObject
    have hptr : (b.withPast p).responsePtr = b.responsePtr := rfl
    rw [hptr]
    cases b.responsePtr with
    | null => rfl
    | cbwCsw => exact h i hi
    | inquiry => rfl
  have hget : (b.withPast p).responseObject.getD i (dev.ram b.responsePtr i)
      = b.responseObject.getD i (dev.ram b.responsePtr i) := by
    rw [List.getD_eq_getElem?_getD, hobject, ← List.getD_eq_getElem?_getD]
  unfold Bot.responseBytes
  rw [List.getElem?_map, List.getElem?_map]
  by_cases hlt : i < len
  · rw [List.getElem?_range hlt]
    exact congrArg some hget
  · rw [List.getElem?_eq_none (by rw [List.length_range]; omega)]
    rfl

/-- `bot_send_csw` overwrites the sense in the buffer. -/
theorem botSendCswFill_withPast (h : SameBytes masked b.cbwCsw.toList p.cbwCsw.toList) :
    botSendCswFill (b.withPast p)
      = (botSendCswFill b).withPast { p with cbwCsw := (botSendCswFill b).cbwCsw } := by
  have hsame : (botSendCswFill (b.withPast p)).cbwCsw = (botSendCswFill b).cbwCsw := by
    apply Vector.ext
    intro i hi
    by_cases hfilled : i < 13
    · have htake : (botSendCswFill (b.withPast p)).cbwCsw.toList.take 13
          = (botSendCswFill b).cbwCsw.toList.take 13 := by
        rw [take_botSendCswFill, take_botSendCswFill]
        rfl
      have hget := congrArg (fun bytes => bytes[i]?) htake
      simpa [List.getElem?_take_of_lt hfilled, hi] using hget
    · have hkeep := h i fun _ => ⟨by omega, by omega⟩
      have hbuf : (b.withPast p).cbwCsw[i] = b.cbwCsw[i] := by
        show p.cbwCsw[i] = b.cbwCsw[i]
        simpa [hi] using hkeep
      unfold botSendCswFill
      dsimp only
      repeat rw [Vector.getElem_set_ne _ _ (by omega)]
      exact hbuf
  rw [← hsame]
  unfold botSendCswFill
  rfl

end Bytes

/-! ### The transport layer with another past -/

section Handlers

variable {masked : Bool} {q q' : List InPacket} {b : Bot} {pc : MainPc} {p : Past}

/-- One more packet, the same on both sides. -/
theorem Alike.queue (h : Alike masked q q' b pc p) {packet packet' : InPacket}
    (hpacket : SamePacket masked packet packet') :
    ∃ new new', b.queued ++ [packet] = q ++ new ∧ p.queued ++ [packet'] = q' ++ new'
      ∧ List.Forall₂ (SamePacket masked) new new' := by
  obtain ⟨new, new', hnew, hnew', hsame⟩ := h.sent
  refine ⟨new ++ [packet], new' ++ [packet'], ?_, ?_, ?_⟩
  · rw [hnew, List.append_assoc]
  · rw [hnew', List.append_assoc]
  · exact List.rel_append hsame (.cons hpacket .nil)

/-- **A response packet.** -/
theorem Alike.sendData (dev : Device) (h : Alike masked q q' b pc p) :
    ∃ p', botSendResponseData dev (b.withPast p) = (botSendResponseData dev b).withPast p'
      ∧ Alike masked q q' (botSendResponseData dev b) pc p' := by
  have hpacket : ∀ len, SamePacket masked (.data (b.responseBytes dev len))
      (.data ((b.withPast p).responseBytes dev len)) := fun len =>
    .data (sameBytes_responseBytes h.cbwCsw len)
  have hleft : (b.withPast p).transferBytesLeft = b.transferBytesLeft := rfl
  have hsize : (b.withPast p).packSize = b.packSize := rfl
  unfold botSendResponseData
  rw [hleft, hsize]
  split
  · exact ⟨{ p with
      txBuff := .data ((b.withPast p).responseBytes dev b.packSize.toNat)
      queued := p.queued ++ [.data ((b.withPast p).responseBytes dev b.packSize.toNat)] }, rfl,
      h.cbwCsw, h.queue (hpacket _), h.copy, fun _ _ => hpacket _⟩
  · exact ⟨{ p with
      txBuff := .data ((b.withPast p).responseBytes dev b.transferBytesLeft.toNat)
      queued := p.queued ++ [.data ((b.withPast p).responseBytes dev b.transferBytesLeft.toNat)] },
      rfl, h.cbwCsw, h.queue (hpacket _), h.copy, fun _ _ => hpacket _⟩

/-- **A CSW**, which overwrites the sense. -/
theorem Alike.sendCsw (h : Alike masked q q' b pc p) :
    ∃ p', botSendCsw (b.withPast p) = (botSendCsw b).withPast p'
      ∧ Alike masked q q' (botSendCsw b) pc p' := by
  have hcleared : SameBytes masked (botSendCswClear b).cbwCsw.toList p.cbwCsw.toList := h.cbwCsw
  have hfill := botSendCswFill_withPast hcleared
  refine ⟨{ p with
    cbwCsw := (botSendCswFill (botSendCswClear b)).cbwCsw
    txBuff := .csw ((botSendCswFill (botSendCswClear b)).cbwCsw.toList.take 13)
    queued := p.queued ++ [.csw ((botSendCswFill (botSendCswClear b)).cbwCsw.toList.take 13)] },
    ?_, SameBytes.refl masked _, h.queue (.csw _), fun _ _ => rfl, fun _ _ => .csw _⟩
  show botQueueTx (botSendCswCopy (botSendCswFill ((botSendCswClear b).withPast p))) = _
  rw [hfill]
  rfl

/-- **An IN completion.** -/
theorem Alike.bulkIn (dev : Device) (h : Alike masked q q' b pc p) :
    ∃ p', botHandleBulkIn dev (b.withPast p) = (botHandleBulkIn dev b).withPast p'
      ∧ Alike masked q q' (botHandleBulkIn dev b) pc p' := by
  have hflags : (b.withPast p).transferFlags = b.transferFlags := rfl
  have hread : (b.withPast p).cbwCsw.isRead10 = b.cbwCsw.isRead10 := h.cbwCsw.isRead10
  unfold botHandleBulkIn
  rw [hflags, hread]
  split
  · split
    · exact ⟨p, rfl, h.cbwCsw, h.sent, h.copy, h.ack⟩
    · exact h.sendData dev
  · split
    · exact h.sendCsw
    · exact ⟨p, rfl, h⟩

/-- What is started behind a CBW. -/
theorem Alike.startCommand (dev : Device) (h : Alike masked q q' b pc p) :
    ∃ p', botStartCommand dev (b.withPast p) = (botStartCommand dev b).withPast p'
      ∧ Alike masked q q' (botStartCommand dev b) pc p' := by
  have hflags : (b.withPast p).transferFlags = b.transferFlags := rfl
  have hstatus : (b.withPast p).cswStatus = b.cswStatus := rfl
  have hread : (b.withPast p).cbwCsw.isRead10 = b.cbwCsw.isRead10 := h.cbwCsw.isRead10
  unfold botStartCommand
  rw [hflags, hread, hstatus]
  split
  · exact ⟨p, rfl, h⟩
  split
  · split
    · exact ⟨p, rfl, h.cbwCsw, h.sent, h.copy, h.ack⟩
    · exact h.sendData dev
  · split
    · exact h.sendCsw
    · exact ⟨p, rfl, h⟩

end Handlers

/-! ### A CBW -/

section Dispatch

variable {dev : Device} {locked : Bool} {b : Bot} {p : Past} {status : CswStatus}

/-- The buffer of a REQUEST SENSE, whatever the sense. -/
theorem sameBytes_reqSense (cmd : BulkOnlyCmd) (key asc key' asc' : UInt8) :
    SameBytes true (memcpyBuf cmd (reqSense key asc) 18).toList
      (memcpyBuf cmd (reqSense key' asc') 18).toList := by
  intro i hi
  obtain ⟨hkey, hasc⟩ := hi rfl
  by_cases hlt : i < 31
  · have hget : ∀ j < 18, j ≠ 2 → j ≠ 12 →
        (reqSense key' asc').getD j 0 = (reqSense key asc).getD j 0 := by
      intro j hj hj2 hj12
      interval_cases j
      all_goals first | rfl | exact absurd rfl hj2 | exact absurd rfl hj12
    rw [Vector.getElem?_toList, Vector.getElem?_toList, Vector.getElem?_eq_getElem hlt,
      Vector.getElem?_eq_getElem hlt]
    simp only [memcpyBuf, memcpyAt, Vector.getElem_ofFn]
    by_cases hcopied : i < 18
    · rw [if_pos ⟨Nat.zero_le i, by omega⟩, if_pos ⟨Nat.zero_le i, by omega⟩]
      exact congrArg some (hget i hcopied hkey hasc)
    · rw [if_neg (by omega), if_neg (by omega)]
  · rw [List.getElem?_eq_none (by simpa using hlt), List.getElem?_eq_none (by simpa using hlt)]

/-- **A handler** finds another past and another `csw_status`, and leaves the same, if it is not one
of those that keep `csw_status`. -/
theorem scsiDispatchCommand_withPast (hcmd : p.cbwCsw = b.cbwCsw)
    (hkeep : b.cbwCsw.command.keepsStatus = true → b.rejects dev locked = false →
      status = b.cswStatus) :
    ∃ p', scsiDispatchCommand dev locked { b.withPast p with cswStatus := status }
        = (scsiDispatchCommand dev locked b).withPast p'
      ∧ SameBytes (b.cbwCsw.command = .requestSense)
          (scsiDispatchCommand dev locked b).cbwCsw.toList p'.cbwCsw.toList
      ∧ p'.queued = p.queued := by
  obtain ⟨key, asc, cmd, tx, queued⟩ := p
  dsimp only at hcmd
  subst hcmd
  have hrejects : b.rejects dev locked = b.rejects dev locked := rfl
  conv_rhs at hrejects => unfold Bot.rejects
  have hsame : ({ b.withPast ⟨key, asc, b.cbwCsw, tx, queued⟩ with
      cswStatus := status } : Bot).cbwCsw.command = b.cbwCsw.command := rfl
  unfold scsiDispatchCommand
  rw [hsame]
  rcases hcommand : b.cbwCsw.command with - | - | - | - | - | - | - | - | - | - | - | - | - | - | -
  all_goals
    simp only [hcommand] at hrejects
    dsimp only
  case inquiry =>
    rw [scsiHandleInquiry_eq, scsiHandleInquiry_eq]
    exact ⟨⟨senseKeyNoError, senseAscNoError, _, tx, queued⟩, rfl, SameBytes.refl _ _, rfl⟩
  case readFormatCapacity =>
    unfold scsiHandleReadFormatCapacity
    rw [scsiCopyResponseToBotBuffer_eq, scsiCopyResponseToBotBuffer_eq]
    exact ⟨⟨senseKeyNoError, senseAscNoError, _, tx, queued⟩, rfl, SameBytes.refl _ _, rfl⟩
  case readCapacity =>
    unfold scsiHandleReadCapacity
    rw [scsiCopyResponseToBotBuffer_eq, scsiCopyResponseToBotBuffer_eq]
    exact ⟨⟨senseKeyNoError, senseAscNoError, _, tx, queued⟩, rfl, SameBytes.refl _ _, rfl⟩
  case modeSense =>
    have hstatus := hkeep (by rw [hcommand]; rfl) hrejects
    unfold scsiHandleModeSense6
    rw [scsiCopyResponseToBotBuffer_eq, scsiCopyResponseToBotBuffer_eq, hstatus]
    exact ⟨⟨key, asc, _, tx, queued⟩, rfl, SameBytes.refl _ _, rfl⟩
  case modeSense2 =>
    generalize hother : ({ b.withPast ⟨key, asc, b.cbwCsw, tx, queued⟩ with
      cswStatus := status } : Bot) = other
    have hbuf : other.cbwCsw = b.cbwCsw := by
      rw [← hother]
      rfl
    unfold scsiHandleModeSense10
    rw [hbuf]
    subst hother
    by_cases hpage : b.cbwCsw[17] ≠ 0x3F
    · rw [if_pos hpage, if_pos hpage, botStallActiveDataEndpoints_eq, botStallActiveDataEndpoints_eq]
      exact ⟨⟨senseKeyIllegalRequest, senseAscInvalidCommand, _, tx, queued⟩, rfl,
        SameBytes.refl _ _, rfl⟩
    · have hstatus := hkeep (by rw [hcommand]; rfl) (hrejects.trans (decide_eq_false hpage))
      rw [if_neg hpage, if_neg hpage, scsiCopyResponseToBotBuffer_eq,
        scsiCopyResponseToBotBuffer_eq, hstatus]
      exact ⟨⟨key, asc, _, tx, queued⟩, rfl, SameBytes.refl _ _, rfl⟩
  case read10 =>
    unfold scsiHandleRead10
    dsimp only
    have hhidden : read10AccessesHiddenSdSectors dev (scsiParseRw10Cdb
        { b.withPast ⟨key, asc, b.cbwCsw, tx, queued⟩ with cswStatus := status })
        = read10AccessesHiddenSdSectors dev (scsiParseRw10Cdb b) := rfl
    rw [hhidden]
    split
    · rw [botStallActiveDataEndpoints_eq, botStallActiveDataEndpoints_eq]
      exact ⟨⟨senseKeyIllegalRequest, senseAscLbaOutOfRange, _, tx, queued⟩, rfl,
        SameBytes.refl _ _, rfl⟩
    · exact ⟨⟨senseKeyNoError, senseAscNoError, _, tx, queued⟩, rfl, SameBytes.refl _ _, rfl⟩
  case requestSense =>
    exact ⟨⟨key, asc, _, tx, queued⟩, rfl, sameBytes_reqSense _ _ _ _ _, rfl⟩
  case unsupported =>
    unfold scsiHandleUnsupported
    rw [botStallActiveDataEndpoints_eq, botStallActiveDataEndpoints_eq]
    exact ⟨⟨senseKeyIllegalRequest, senseAscInvalidCommand, _, tx, queued⟩, rfl,
      SameBytes.refl _ _, rfl⟩
  all_goals
    exact ⟨⟨senseKeyNoError, senseAscNoError, _, tx, queued⟩, rfl, SameBytes.refl _ _, rfl⟩

end Dispatch

/-! ### The drive with another past -/

section Drives

variable (dev : Device) (d : Drive) (p : Past) (log : List Action)

/-- An attempt to unlock does not look at the past. -/
theorem phantomdriveTryUnlock_withPast (io : UnlockIo) :
    ∃ log', phantomdriveTryUnlock dev io (d.withPast p log)
      = (phantomdriveTryUnlock dev io d).withPast p log' := by
  have hphantom : (d.withPast p log).phantom = d.phantom := rfl
  have hidle : ∀ pending, botUsbIsIdle pending (d.withPast p log).bot = botUsbIsIdle pending d.bot :=
    fun _ => rfl
  have hidle' : ∀ pending card, botUsbIsIdle pending ({ d.withPast p log with card := card }).bot
      = botUsbIsIdle pending d.bot := fun _ _ => rfl
  unfold phantomdriveTryUnlock
  rw [hphantom, hidle]
  split
  · exact ⟨log, rfl⟩
  split
  · exact ⟨log, rfl⟩
  dsimp only
  split
  · exact ⟨log, rfl⟩
  rw [hidle']
  split
  · exact ⟨log, rfl⟩
  unfold deleteAndSwitch
  rcases (unlockSearch io d.phantom).1.isSome with - | -
  all_goals
    dsimp only
    split
    · exact ⟨log, rfl⟩
    · exact ⟨_, rfl⟩

/-- A pass of the write loop neither. -/
theorem writeIter_withPast (io : ChunkIo) {stream : WriteStream} (hpos : 0 < stream.sectorsLeft) :
    (writeIter dev io stream (d.withPast p log)).1 = (writeIter dev io stream d).1
      ∧ ∃ p' log', (writeIter dev io stream (d.withPast p log)).2
          = (writeIter dev io stream d).2.withPast p' log'
        ∧ p'.cbwCsw = p.cbwCsw ∧ p'.queued = p.queued := by
  have hlba : chunkLba dev stream (d.withPast p log) = chunkLba dev stream d := rfl
  rcases hcard : dev.outOfCard (chunkLba dev stream d) stream.chunkSectors with - | -
  · rw [writeIter_of_inCard hpos hcard, writeIter_of_inCard hpos (hlba ▸ hcard)]
    split
    · exact ⟨rfl, p, _, rfl, rfl, rfl⟩
    · exact ⟨rfl, { p with senseKey := senseKeyMediumError, senseAsc := senseAscWriteError }, _,
        rfl, rfl, rfl⟩
  · rw [writeIter_of_outOfCard hpos hcard, writeIter_of_outOfCard hpos (hlba ▸ hcard)]
    exact ⟨rfl, { p with senseKey := senseKeyMediumError, senseAsc := senseAscWriteError }, log,
      rfl, rfl, rfl⟩

end Drives

/-! ### Side by side -/

/-- Two drives that differ in their past only, and have queued the same behind `q` and `q'`. -/
def SideBySide (masked : Bool) (q q' : List InPacket) (s s' : Sys) : Prop :=
  ∃ p log, s' = s.withPast p log ∧ Alike masked q q' s.drive.bot s.pc p

section Steps

variable {masked : Bool} {q q' : List InPacket} {b b' : Bot} {pc pc' : MainPc} {p p' : Past}
  {dev : Device} {s s' : Sys}

/-- Where `main` goes on behind a step that queues nothing and leaves the buffer. -/
theorem Alike.next (h : Alike masked q q' b pc p) (hcbw : b'.cbwCsw = b.cbwCsw)
    (hqueued : b'.queued = b.queued) (hcbw' : p'.cbwCsw = p.cbwCsw)
    (hqueued' : p'.queued = p.queued) (hcopy : ∀ caller, pc' ≠ .csw .copy caller)
    (hack : ∀ caller, pc' ≠ .csw .ack caller) : Alike masked q q' b' pc' p' where
  cbwCsw := by
    rw [hcbw, hcbw']
    exact h.cbwCsw
  sent := by
    rw [hqueued, hqueued']
    exact h.sent
  copy := fun caller hpc => absurd hpc (hcopy caller)
  ack := fun caller hpc => absurd hpc (hack caller)

/-- The loops of a read queue the same sectors. -/
theorem SideBySide.readRun (io : MainIo) (preqnum : ℕ) (actualLba : UInt32)
    (h : SideBySide masked q q' s s') : SideBySide masked q q'
      (PhantomDrive.readRun dev io preqnum actualLba s)
      (PhantomDrive.readRun dev io preqnum actualLba s') := by
  obtain ⟨p, log, rfl, halike⟩ := h
  have hrequest : (s.withPast p log).drive.readRequest dev actualLba preqnum
      = s.drive.readRequest dev actualLba preqnum := rfl
  unfold PhantomDrive.readRun finishReadStream
  rw [hrequest]
  rcases readStreamUsb2 (s.drive.readRequest dev actualLba preqnum) io.read.ring io.read.events
    with - | delivered
  · exact ⟨p, log, rfl, halike⟩
  obtain ⟨new, new', hnew, hnew', hsame⟩ := halike.sent
  dsimp only
  rw [if_pos rfl, if_pos rfl]
  generalize hpackets : (delivered.map fun s => InPacket.data (List.ofFn s)) = packets
  have hrefl : List.Forall₂ (SamePacket masked) packets packets := by
    rw [← hpackets, List.forall₂_map_left_iff, List.forall₂_map_right_iff]
    exact List.forall₂_same.mpr fun _ _ => .data (SameBytes.refl masked _)
  refine ⟨{ p with queued := p.queued ++ packets }, log, ?_, halike.cbwCsw,
    ⟨new ++ packets, new' ++ packets, ?_, ?_, List.rel_append hsame hrefl⟩,
    fun _ => MainPc.noConfusion, fun _ => MainPc.noConfusion⟩
  · rfl
  · dsimp only
    rw [hnew, List.append_assoc]
  · dsimp only
    rw [hnew', List.append_assoc]

/-- A pass of the write loop reports the same. -/
theorem SideBySide.writeRun (io : MainIo) (stream : WriteStream)
    (h : SideBySide masked q q' s s') : SideBySide masked q q'
      (PhantomDrive.writeRun dev io stream s) (PhantomDrive.writeRun dev io stream s') := by
  obtain ⟨p, log, rfl, halike⟩ := h
  unfold PhantomDrive.writeRun
  rcases Nat.eq_zero_or_pos stream.sectorsLeft with hzero | hpos
  · rw [if_pos hzero, if_pos hzero]
    exact ⟨p, log, rfl, halike.next rfl rfl rfl rfl (fun _ => MainPc.noConfusion)
      fun _ => MainPc.noConfusion⟩
  have hne : stream.sectorsLeft ≠ 0 := by omega
  rw [if_neg hne, if_neg hne]
  have hdrive : (s.withPast p log).drive = s.drive.withPast p log := rfl
  obtain ⟨hstored, p', log', hpass, hcbw, hqueued⟩ :=
    writeIter_withPast dev s.drive p log io.chunk hpos
  have hbot : (writeIter dev io.chunk stream s.drive).2.bot = s.drive.bot
      ∨ (writeIter dev io.chunk stream s.drive).2.bot = WriteFailed s.drive.bot :=
    (writeIter_effect hpos).bot
  have hkept : (writeIter dev io.chunk stream s.drive).2.bot.cbwCsw = s.drive.bot.cbwCsw
      ∧ (writeIter dev io.chunk stream s.drive).2.bot.queued = s.drive.bot.queued := by
    rcases hbot with hbot | hbot
    · rw [hbot]
      exact ⟨rfl, rfl⟩
    · rw [hbot]
      exact ⟨rfl, rfl⟩
  dsimp only
  rw [hdrive, hstored]
  rcases (writeIter dev io.chunk stream s.drive).1 with - | -
  · rw [if_neg Bool.false_ne_true, if_neg Bool.false_ne_true]
    refine ⟨p', log', ?_, halike.next hkept.1 hkept.2 hcbw hqueued (fun _ => MainPc.noConfusion)
      fun _ => MainPc.noConfusion⟩
    rw [hpass]
    rfl
  · rw [if_pos rfl, if_pos rfl]
    refine ⟨p', log', ?_, halike.next hkept.1 hkept.2 hcbw hqueued (fun _ => MainPc.noConfusion)
      fun _ => MainPc.noConfusion⟩
    rw [hpass]
    rfl

/-- The end of `bot_poll` comes to the same. -/
theorem SideBySide.pollUnlock (io : MainIo) (h : SideBySide masked q q' s s') :
    SideBySide masked q q' (PhantomDrive.pollUnlock dev io s)
      (PhantomDrive.pollUnlock dev io s') := by
  obtain ⟨p, log, rfl, halike⟩ := h
  have hphantom : (s.withPast p log).drive.phantom = s.drive.phantom := rfl
  have htimes : (s.withPast p log).lastWriteMs = s.lastWriteMs
      ∧ (s.withPast p log).lastCheckMs = s.lastCheckMs := ⟨rfl, rfl⟩
  have hgoOn : SideBySide masked q q' { s with pc := .poll }
      { s.withPast p log with pc := .poll } :=
    ⟨p, log, rfl, halike.next rfl rfl rfl rfl (fun _ => MainPc.noConfusion)
      fun _ => MainPc.noConfusion⟩
  unfold PhantomDrive.pollUnlock
  rw [hphantom, htimes.1, htimes.2]
  split
  · exact hgoOn
  dsimp only
  split
  · exact hgoOn
  obtain ⟨log', hunlock⟩ := phantomdriveTryUnlock_withPast dev s.drive p log io.unlock
  have hkept : (phantomdriveTryUnlock dev io.unlock s.drive).bot.cbwCsw = s.drive.bot.cbwCsw
      ∧ (phantomdriveTryUnlock dev io.unlock s.drive).bot.queued = s.drive.bot.queued := by
    rcases phantomdriveTryUnlock_cases dev io.unlock s.drive with hgive | hswitch
    · rcases hgive.bot with hbot | ⟨-, hbot⟩
      · rw [hbot]
        exact ⟨rfl, rfl⟩
      · rw [hbot]
        exact ⟨rfl, rfl⟩
    · obtain ⟨card, len, passwordLen, -, hswitched⟩ := hswitch.switched
      rw [hswitched]
      exact ⟨rfl, rfl⟩
  refine ⟨p, log', ?_, halike.next hkept.1 hkept.2 rfl rfl (fun _ => MainPc.noConfusion)
    fun _ => MainPc.noConfusion⟩
  have hdrive : (s.withPast p log).drive = s.drive.withPast p log := rfl
  rw [hdrive, hunlock]
  rfl

/-- **A step of `main`.** -/
theorem SideBySide.main (io : MainIo) (h : SideBySide masked q q' s s') :
    SideBySide masked q q' (mainStep dev io s) (mainStep dev io s') := by
  have h' := h
  obtain ⟨p, log, rfl, halike⟩ := h'
  have hpc' : (s.withPast p log).pc = s.pc := rfl
  have hnext : ∀ {b' pc'}, b'.cbwCsw = s.drive.bot.cbwCsw → b'.queued = s.drive.bot.queued →
      (∀ stage caller, pc' ≠ .csw stage caller) → Alike masked q q' b' pc' p :=
    fun hcbw hqueued hpc => halike.next hcbw hqueued rfl rfl (hpc .copy) (hpc .ack)
  have hcsw : ∀ {stage stage' : CswStage} {caller : CswCaller} {P : Prop}, stage ≠ stage' →
      ∀ caller', MainPc.csw stage caller = .csw stage' caller' → P :=
    fun hne _ heq => absurd (MainPc.csw.inj heq).1 hne
  cases hpc : s.pc with
  | poll =>
    simp only [mainStep, hpc', hpc]
    refine ⟨p, log, rfl, hnext rfl rfl fun _ _ => ?_⟩
    show (if s.drive.bot.readPending = true then MainPc.readTake else .pollWrite) ≠ _
    split
    · exact MainPc.noConfusion
    · exact MainPc.noConfusion
  | pollWrite =>
    simp only [mainStep, hpc', hpc]
    refine ⟨p, log, rfl, hnext rfl rfl fun _ _ => ?_⟩
    show (if s.drive.bot.writePending = true then MainPc.writeTake else .pollUnlock) ≠ _
    split
    · exact MainPc.noConfusion
    · exact MainPc.noConfusion
  | writeCheck =>
    simp only [mainStep, hpc', hpc]
    refine ⟨p, log, rfl, hnext rfl rfl fun _ _ => ?_⟩
    show (if s.drive.bot.transferBytesLeft = 0 then MainPc.writeFlagsLoad else .writeDone) ≠ _
    split
    · exact MainPc.noConfusion
    · exact MainPc.noConfusion
  | readRun preqnum actualLba =>
    simp only [mainStep, hpc', hpc]
    exact h.readRun io preqnum actualLba
  | writeRun stream =>
    simp only [mainStep, hpc', hpc]
    exact h.writeRun io stream
  | pollUnlock =>
    simp only [mainStep, hpc', hpc]
    exact h.pollUnlock io
  | readAdvanceStore lba =>
    simp only [mainStep, hpc', hpc]
    exact ⟨p, log, rfl, halike.cbwCsw, halike.sent, hcsw CswStage.noConfusion,
      hcsw CswStage.noConfusion⟩
  | writeFlagsStore flags =>
    simp only [mainStep, hpc', hpc]
    exact ⟨p, log, rfl, halike.cbwCsw, halike.sent, hcsw CswStage.noConfusion,
      hcsw CswStage.noConfusion⟩
  | csw stage caller =>
    cases stage with
    | clear =>
      simp only [mainStep, hpc', hpc]
      exact ⟨p, log, rfl, halike.cbwCsw, halike.sent, hcsw CswStage.noConfusion,
      hcsw CswStage.noConfusion⟩
    | fill =>
      obtain ⟨cmd, heq, -⟩ := botSendCswFill_eq s.drive.bot
      have hfill := botSendCswFill_withPast halike.cbwCsw
      have hbot : (s.withPast p log).drive.bot = s.drive.bot.withPast p := rfl
      simp only [mainStep, hpc', hpc, Sys.next, hbot, hfill]
      rw [heq]
      exact ⟨{ p with cbwCsw := cmd }, log, rfl, SameBytes.refl masked _, halike.sent,
        fun _ _ => rfl, hcsw CswStage.noConfusion⟩
    | copy =>
      simp only [mainStep, hpc', hpc]
      refine ⟨{ p with txBuff := .csw (p.cbwCsw.toList.take 13) }, log, rfl, halike.cbwCsw,
        halike.sent, hcsw CswStage.noConfusion, fun _ _ => ?_⟩
      dsimp only
      rw [halike.copy caller hpc]
      exact .csw _
    | ack =>
      have hsent := halike.queue (halike.ack caller hpc)
      cases caller with
      | read =>
        simp only [mainStep, hpc', hpc]
        exact ⟨{ p with queued := p.queued ++ [p.txBuff] }, log, rfl, halike.cbwCsw, hsent,
          fun _ => MainPc.noConfusion, fun _ => MainPc.noConfusion⟩
      | write =>
        simp only [mainStep, hpc', hpc]
        exact ⟨{ p with queued := p.queued ++ [p.txBuff] }, log, rfl, halike.cbwCsw, hsent,
          fun _ => MainPc.noConfusion, fun _ => MainPc.noConfusion⟩
  | _ =>
    simp only [mainStep, hpc', hpc]
    exact ⟨p, _, rfl, hnext rfl rfl fun _ _ => MainPc.noConfusion⟩

/-- An event that is not taken as a CBW. -/
def NoCbw (s : Sys) : Event → Prop
  | .bulkOut packet => ¬ s.TakesCbw packet
  | _ => True

/-- **An event** that is not a CBW. -/
theorem SideBySide.step {e : Event} (h : SideBySide masked q q' s s') (hok : NoCbw s e) :
    SideBySide masked q q' (PhantomDrive.step dev s e) (PhantomDrive.step dev s' e) := by
  have h' := h
  obtain ⟨p, log, rfl, halike⟩ := h'
  have hirq : (s.withPast p log).usbIrq = s.usbIrq := rfl
  cases e with
  | main io => exact h.main io
  | bulkIn =>
    unfold PhantomDrive.step
    dsimp only
    rw [hirq]
    split
    · have hnak : Alike masked q q' { s.drive.bot with txCtrl := .nak } s.pc p :=
        ⟨halike.cbwCsw, halike.sent, halike.copy, halike.ack⟩
      obtain ⟨p', hin, halike'⟩ := hnak.bulkIn dev
      have hbot : { (s.withPast p log).drive.bot with txCtrl := EpResponse.nak }
          = Bot.withPast p { s.drive.bot with txCtrl := .nak } := rfl
      refine ⟨p', log, ?_, halike'⟩
      unfold Drive.bulkIn
      rw [hbot, hin]
      rfl
    · exact h
  | bulkOut packet =>
    unfold PhantomDrive.step
    dsimp only
    rw [hirq]
    split
    · rename_i hon
      have hflags : (s.withPast p log).drive.bot.transferFlags = s.drive.bot.transferFlags := rfl
      unfold Drive.bulkOut botHandleBulkOut
      rw [hflags]
      by_cases hout : s.drive.bot.transferFlags.dataOut = true
      · rw [if_pos hout, if_pos hout]
        exact ⟨p, log, rfl, halike.cbwCsw, halike.sent, halike.copy, halike.ack⟩
      · have hlen : packet.length ≠ 31 := fun hlen => hok ⟨hon, by simpa using hout, hlen⟩
        rw [if_neg hout, if_neg hout, if_neg hlen, if_neg hlen]
        exact ⟨p, log, rfl, halike⟩
    · exact h

end Steps

/-! ### The answer to a CBW -/

section Answer

variable {dev : Device} {s : Sys} {packet : List UInt8} {p : Past} {log : List Action}
  {status : CswStatus}

/-- The same state with another `csw_status`. -/
def Sys.withStatus (status : CswStatus) (s : Sys) : Sys :=
  { s with drive := { s.drive with bot := { s.drive.bot with cswStatus := status } } }

/-- A MODE SENSE is accepted only while `csw_status` is PASSED. -/
def Exchange.KeepsPassed (dev : Device) (x : Exchange) : Prop :=
  x.cbw.validSignature = true → x.cbw.command.keepsStatus = true → x.rejected dev = false →
    x.status = .passed

/-- Both drives have stalled the same endpoints and queued the same packets since `s` and `s'`. -/
structure SameAnswer (masked : Bool) (s s' u u' : Sys) : Prop where
  txCtrl : u'.drive.bot.txCtrl = u.drive.bot.txCtrl
  rxCtrl : u'.drive.bot.rxCtrl = u.drive.bot.rxCtrl
  queued : ∃ new new', u.drive.bot.queued = s.drive.bot.queued ++ new
    ∧ u'.drive.bot.queued = s'.drive.bot.queued ++ new'
    ∧ List.Forall₂ (SamePacket masked) new new'

/-- **A CBW** gets the same answer, whatever the past and `csw_status`. -/
theorem sideBySide_cbw (htakes : s.TakesCbw packet)
    (hvalid : (BulkOnlyCmd.ofPacket packet).validSignature = true)
    (hpc : ∀ stage caller, s.pc ≠ .csw stage caller)
    (hkeep : (Exchange.begin s (.ofPacket packet)).KeepsPassed dev)
    (hkeep' : (Exchange.begin ((s.withPast p log).withStatus status)
      (.ofPacket packet)).KeepsPassed dev) :
    SideBySide ((BulkOnlyCmd.ofPacket packet).command = .requestSense) s.drive.bot.queued p.queued
      (step dev s (.bulkOut packet))
      (step dev ((s.withPast p log).withStatus status) (.bulkOut packet)) := by
  obtain ⟨hirq, hout, hlen⟩ := htakes
  have htaken : ∀ b : Bot, b.transferFlags.dataOut = false →
      botHandleBulkOut dev s.drive.phantom.isLocked packet b
        = botStartCommand dev (scsiDispatchCommand dev s.drive.phantom.isLocked
          (b.begun packet)) := by
    intro b hout
    rcases botHandleBulkOut_cases dev s.drive.phantom.isLocked packet b with
      ⟨h, -⟩ | ⟨-, h, -⟩ | ⟨-, -, h, -⟩ | ⟨-, -, -, h⟩
    · exact absurd (hout.symm.trans h) Bool.false_ne_true
    · exact absurd hlen h
    · exact absurd (h.symm.trans hvalid) Bool.false_ne_true
    · exact h
  have hd := scsiDispatchCommand_dispatched dev s.drive.phantom.isLocked
    (s.drive.bot.begun packet)
  have hsame : (s.drive.bot.begun packet).cbwCsw.command.keepsStatus = true →
      (s.drive.bot.begun packet).rejects dev s.drive.phantom.isLocked = false →
        status = (s.drive.bot.begun packet).cswStatus := by
    intro hkeeps hrejects
    have hrefused := (beginCbw_rejects ..).symm.trans hrejects
    exact (hkeep' hvalid hkeeps hrefused).trans (hkeep hvalid hkeeps hrefused).symm
  have hbuf : ({ p with cbwCsw := .ofPacket packet } : Past).cbwCsw
      = (s.drive.bot.begun packet).cbwCsw := (begun_cbwCsw ..).symm
  obtain ⟨p', hdispatch, hbytes, hqueued⟩ := scsiDispatchCommand_withPast hbuf hsame
  have halike : Alike ((BulkOnlyCmd.ofPacket packet).command = .requestSense) s.drive.bot.queued
      p.queued (scsiDispatchCommand dev s.drive.phantom.isLocked (s.drive.bot.begun packet)) s.pc
      p' := by
    refine ⟨hbytes, ⟨[], [], ?_, ?_, .nil⟩, fun caller h => absurd h (hpc _ _),
      fun caller h => absurd h (hpc _ _)⟩
    · rw [hd.queued, List.append_nil]
      rfl
    · rw [hqueued, List.append_nil]
  obtain ⟨p'', hstart, halike'⟩ := halike.startCommand dev
  have hbot : (s.drive.bulkOut dev packet).bot = botStartCommand dev
      (scsiDispatchCommand dev s.drive.phantom.isLocked (s.drive.bot.begun packet)) :=
    htaken _ hout
  have hother : (((s.withPast p log).withStatus status).drive.bulkOut dev packet).bot
      = (botStartCommand dev (scsiDispatchCommand dev s.drive.phantom.isLocked
          (s.drive.bot.begun packet))).withPast p'' := by
    have hbegun : ((s.withPast p log).withStatus status).drive.bot.begun packet
        = { (s.drive.bot.begun packet).withPast { p with cbwCsw := .ofPacket packet } with
            cswStatus := status } := rfl
    have htaken' := htaken ((s.withPast p log).withStatus status).drive.bot hout
    rw [hbegun, hdispatch, hstart] at htaken'
    exact htaken'
  rw [← hbot] at hother halike'
  have hdrive : ((s.withPast p log).withStatus status).drive.bulkOut dev packet
      = (s.drive.bulkOut dev packet).withPast p'' log := by
    have hfields : ∀ d : Drive, d.bulkOut dev packet
        = { d with
            rxBuff := fun i => packet.getD i (d.rxBuff i)
            bot := (d.bulkOut dev packet).bot } := fun _ => rfl
    rw [hfields, hother]
    rfl
  have hirq' : ((s.withPast p log).withStatus status).usbIrq = true := hirq
  unfold step
  dsimp only
  rw [if_pos hirq, if_pos hirq', hdrive]
  exact ⟨p'', log, rfl, halike'⟩

end Answer

/-! ### Runs -/

section Runs

variable {dev : Device}

/-- A host that sends one command at a time, and no MODE SENSE while `csw_status` is not PASSED. -/
def Blameless (dev : Device) (t : Session) (e : Event) : Prop :=
  Orderly t e ∧ CbwMeets (Exchange.KeepsPassed dev) t e

theorem CswStatus.byte_injective {status status' : CswStatus} (h : status.byte = status'.byte) :
    status = status' := by
  revert h
  cases status
  all_goals
    cases status'
    all_goals decide

/-- A CSW that reports a failure is about the command itself. -/
theorem Exchange.Finished.blames {x : Exchange} {b : Bot} (h : x.Finished dev b)
    (hvalid : x.cbw.validSignature = true) (hkeep : x.KeepsPassed dev) {csw : List UInt8}
    (hcsw : .csw csw ∈ x.packets b) (hfailed : csw.getD 12 0 = CswStatus.failed.byte) :
    x.rejected dev = true ∨ x.failed = true := by
  have heq := Exchange.csw_eq_of_finished h hcsw
  have hstatus : x.cswStatus dev = .failed := by
    refine CswStatus.byte_injective (Eq.trans ?_ hfailed)
    rw [heq]
    rfl
  rcases hrejected : x.rejected dev with - | -
  · refine Or.inr ?_
    rcases hpass : x.failed with - | -
    · rw [Exchange.cswStatus, hpass, hrejected, Bool.or_false, if_neg Bool.false_ne_true] at hstatus
      split at hstatus
      · rename_i hkeeps
        exact absurd ((hkeep hvalid hkeeps hrejected).symm.trans hstatus) CswStatus.noConfusion
      · exact CswStatus.noConfusion hstatus
    · rfl
  · exact Or.inl rfl

/-- **The status of a CSW** in every run with a host that sends one command at a time and no
MODE SENSE while `csw_status` is not PASSED: a CSW reports FAILED only for a command that was
itself rejected or failed on the card; and whatever sense data and `csw_status` a command finds, it
gets the same packets, stalls and CSW, but for the sense in the data of a REQUEST SENSE. -/
theorem status_blame (dev : Device) (hinit : dev.initTxCtrl = .nak) (card : Card)
    (events : List Event)
    (hrun : Runs.Along (Session.step dev) (Blameless dev) (Session.init dev card) events) :
    let t := Runs.run (Session.step dev) (Session.init dev card) events
    (∀ csw, .csw csw ∈ t.exchange.packets t.sys.drive.bot →
        csw.getD 12 0 = CswStatus.failed.byte →
          t.exchange.rejected dev = true ∨ t.exchange.failed = true)
      ∧ ∀ (p : Past) (log : List Action) (status : CswStatus) (packet : List UInt8)
          (later : List Event),
        let s' := (t.sys.withPast p log).withStatus status
        t.sys.TakesCbw packet → (BulkOnlyCmd.ofPacket packet).validSignature = true →
          Blameless dev t (.bulkOut packet) →
          (Exchange.begin s' (.ofPacket packet)).KeepsPassed dev →
          Runs.Along (step dev) NoCbw (step dev t.sys (.bulkOut packet)) later →
            SameAnswer ((BulkOnlyCmd.ofPacket packet).command = .requestSense) t.sys s'
              (Runs.run (step dev) t.sys (.bulkOut packet :: later))
              (Runs.run (step dev) s' (.bulkOut packet :: later)) := by
  intro t
  have hinv : t.InPhase dev ∧ t.exchange.KeepsPassed dev := by
    refine Runs.invariant (P := fun t => t.InPhase dev ∧ t.exchange.KeepsPassed dev)
      (fun t e h hok => ⟨inPhase_step hinit t e h.1 hok.1, cbwMeets_step ?_ h.2 hok.2⟩)
      ⟨inPhase_init hinit card, fun hvalid => ?_⟩ hrun
    · intro x x' hsame hx
      unfold Exchange.KeepsPassed
      rw [hsame.rejected, hsame.cbw, hsame.status]
      exact hx
    · exact absurd (validSignature_none.symm.trans hvalid) Bool.false_ne_true
  refine ⟨fun csw hcsw hfailed => ?_, fun p log status packet later => ?_⟩
  · have hongoing : Ongoing dev t.exchange t.sys.drive.bot t.sys.pc := hinv.1
    obtain ⟨hvalid, hfinished⟩ := hongoing.finished_of_csw hcsw
    exact hfinished.blames hvalid hinv.2 hcsw hfailed
  · intro s' htakes hvalid hok hkeep' hlater
    have hpc : ∀ stage caller, t.sys.pc ≠ .csw stage caller := by
      intro stage caller hpc
      have hserial := hok.1.1 htakes.1
      rw [htakes.2.1, if_neg Bool.false_ne_true] at hserial
      have hidle := Ongoing.idling_of hinv.1 (hserial htakes.2.2)
      rcases hidle.pc with hsettled | ⟨-, hflags | hflags⟩
      · rw [hpc] at hsettled
        cases hsettled
      · exact MainPc.noConfusion (hpc.symm.trans hflags)
      · exact MainPc.noConfusion (hpc.symm.trans hflags)
    have hfirst : SideBySide _ _ _ _ (step dev s' (.bulkOut packet)) :=
      sideBySide_cbw htakes hvalid hpc (hok.2 htakes) hkeep'
    have hstep : ∀ u u' e, SideBySide ((BulkOnlyCmd.ofPacket packet).command = .requestSense)
        t.sys.drive.bot.queued p.queued u u' → NoCbw u e →
          SideBySide ((BulkOnlyCmd.ofPacket packet).command = .requestSense)
            t.sys.drive.bot.queued p.queued (step dev u e) (step dev u' e) :=
      fun _ _ _ h hok => h.step hok
    obtain ⟨p', log', heq, halike⟩ := Runs.lockstep hstep hfirst hlater
    have hrun' : Runs.run (step dev) s' (.bulkOut packet :: later)
        = (Runs.run (step dev) t.sys (.bulkOut packet :: later)).withPast p' log' := heq
    rw [hrun']
    exact ⟨rfl, rfl, halike.sent⟩

end Runs

/-- An INQUIRY on a drive that was just started, and on one that has failed a command before. -/
theorem status_blame_inquiry :
    let s := Sys.init sampleDevice fun _ _ => 0
    let s' := (s.withPast ⟨0x05, 0x20, Vector.replicate 31 0, .data [], []⟩ []).withStatus .failed
    SameAnswer ((BulkOnlyCmd.ofPacket (cbwPacket 0x80 36 [0x12])).command = .requestSense) s s'
      (Runs.run (step sampleDevice) s (sampleInquiry 36))
      (Runs.run (step sampleDevice) s' (sampleInquiry 36)) :=
  (status_blame sampleDevice rfl (fun _ _ => 0) [] trivial).2
    ⟨0x05, 0x20, Vector.replicate 31 0, .data [], []⟩ [] .failed (cbwPacket 0x80 36 [0x12])
    [.bulkIn, .bulkIn] ⟨rfl, rfl, rfl⟩ rfl
    ⟨⟨fun _ _ => rfl, fun _ => rfl⟩, fun _ _ hkeeps _ => (Bool.false_ne_true hkeeps).elim⟩
    (fun _ hkeeps _ => (Bool.false_ne_true hkeeps).elim) ⟨trivial, trivial, trivial⟩

/-- An unknown opcode, whose CSW the host takes, and a MODE SENSE(6). -/
def sampleModeSense : List Event :=
  [.bulkOut (cbwPacket 0x00 0 [0xFF]), .bulkIn, .bulkIn, .bulkOut (cbwPacket 0x80 12 [0x1A]),
    .bulkIn]

/-- The MODE SENSE(6), which is answered, reports the failure of the command before it. -/
theorem modeSense6_blamed :
    let t := Runs.run (Session.step sampleDevice) (Session.init sampleDevice fun _ _ => 0)
      sampleModeSense
    Runs.Along (Session.step sampleDevice) Orderly (Session.init sampleDevice fun _ _ => 0)
        sampleModeSense
      ∧ t.exchange.cbw.command = .modeSense
      ∧ t.exchange.rejected sampleDevice = false ∧ t.exchange.failed = false
      ∧ ∃ csw, .csw csw ∈ t.exchange.packets t.sys.drive.bot
        ∧ csw.getD 12 0 = CswStatus.failed.byte := by
  intro t
  have hpackets : ∃ data, t.exchange.packets t.sys.drive.bot
      = [.data data, .csw (cswBytes t.exchange.cbw.tag .failed)] := ⟨_, rfl⟩
  obtain ⟨data, hpackets⟩ := hpackets
  refine ⟨⟨⟨fun _ _ => rfl, fun _ => rfl⟩, ⟨fun _ => EpResponse.noConfusion, trivial⟩,
    ⟨fun _ => EpResponse.noConfusion, trivial⟩, ⟨fun _ _ => rfl, fun _ => rfl⟩,
    ⟨fun _ => EpResponse.noConfusion, trivial⟩, trivial⟩, rfl, rfl, rfl,
    cswBytes t.exchange.cbw.tag .failed, ?_, rfl⟩
  rw [hpackets]
  exact List.mem_cons_of_mem _ (List.mem_singleton_self _)

end PhantomDrive
