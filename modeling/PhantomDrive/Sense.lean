/-
PhantomDrive/Sense.lean

What REQUEST SENSE tells.  The abstract model is the sense data of a SCSI target: every
command sets it, or leaves it as it was, and so does a write that fails (`Sense.note`).
The firmware keeps it in two fields of `g_bot`, which the interrupt and `main` both
write.

Main result: `requestSense_run`.  In every orderly run, a REQUEST SENSE reports the sense
data left by what came before it, and a CSW that does not report success always has a
sense key that says why.
-/
import PhantomDrive.Answers
import PhantomDrive.BlockDevice

namespace PhantomDrive

/-! ### The sense data of a target -/

structure Sense where
  key : UInt8
  asc : UInt8
deriving DecidableEq, Repr

namespace Sense

def noError : Sense := ⟨senseKeyNoError, senseAscNoError⟩
def invalidCommand : Sense := ⟨senseKeyIllegalRequest, senseAscInvalidCommand⟩
def lbaOutOfRange : Sense := ⟨senseKeyIllegalRequest, senseAscLbaOutOfRange⟩
def writeError : Sense := ⟨senseKeyMediumError, senseAscWriteError⟩

end Sense

/-- What a command leaves when its handler is done: REQUEST SENSE and an accepted MODE SENSE leave
what there was. -/
def BulkOnlyCmd.senseAfter (dev : Device) (locked : Bool) (cmd : BulkOnlyCmd) (sense : Sense) :
    Sense :=
  if cmd.validSignature then
    match cmd.command with
    | .modeSense | .requestSense => sense
    | .modeSense2 => if cmd.refused dev locked then .invalidCommand else sense
    | .read10 => if cmd.refused dev locked then .lbaOutOfRange else .noError
    | .unsupported => .invalidCommand
    | _ => .noError
  else .invalidCommand

/-- The sense data follow what happens to the target: a CBW, or a chunk of a write that is refused
or that the card fails on. -/
def Sense.note (dev : Device) (s : Sys) (sense : Sense) : Event → Sense
  | .bulkOut packet =>
      if s.TakesCbw packet then
        (BulkOnlyCmd.ofPacket packet).senseAfter dev s.drive.phantom.isLocked sense
      else sense
  | .bulkIn => sense
  | .main io =>
      match s.pc with
      | .writeRun stream =>
          if stream.sectorsLeft ≠ 0 ∧ (writeIter dev io.chunk stream s.drive).1 = false then
            .writeError
          else sense
      | _ => sense

/-- The firmware and the sense data: as they are now, and as they were when the command in progress
came. -/
structure SenseRun where
  session : Session
  sense : Sense
  asked : Sense

def SenseRun.init (dev : Device) (card : Card) : SenseRun := ⟨.init dev card, .noError, .noError⟩

def SenseRun.step (dev : Device) (w : SenseRun) (e : Event) : SenseRun where
  session := w.session.step dev e
  sense := w.sense.note dev w.session.sys e
  asked := match e with
    | .bulkOut packet => if w.session.sys.TakesCbw packet then w.sense else w.asked
    | _ => w.asked

/-! ### The sense data of the firmware -/

/-- `sense_key` and `sense_asc`. -/
def Bot.sense (b : Bot) : Sense := ⟨b.senseKey, b.senseAsc⟩

/-- A status other than PASSED has its reason. -/
def Bot.Explained (b : Bot) : Prop := b.cswStatus ≠ .passed → b.senseKey ≠ senseKeyNoError

/-- What only a handler and a failed write change. -/
structure SameSense (b b' : Bot) : Prop where
  sense : b'.sense = b.sense
  status : b'.cswStatus = b.cswStatus

section Handlers

variable {dev : Device} {locked : Bool} {b b' : Bot}

theorem SameSense.refl (b : Bot) : SameSense b b := ⟨rfl, rfl⟩

theorem SameSense.explained (h : SameSense b b') (hb : b.Explained) : b'.Explained := by
  unfold Bot.Explained
  rw [h.status, show b'.senseKey = b.senseKey from congrArg Sense.key h.sense]
  exact hb

theorem SendsData.sameSense (h : SendsData b b') : SameSense b b' := by
  obtain ⟨bytes, left, dataIn, rfl, -, -⟩ := h
  exact ⟨rfl, rfl⟩

theorem botStartCommand_sameSense (dev : Device) (b : Bot) :
    SameSense b (botStartCommand dev b) := by
  rcases botStartCommand_cases dev b with h | ⟨-, -, -, h⟩ | ⟨-, -, -, h⟩ | ⟨-, -, h⟩
  · rw [h]
    exact .refl b
  · rw [h]
    exact ⟨rfl, rfl⟩
  · exact h.sameSense
  · rw [h]
    exact ⟨rfl, rfl⟩

theorem botHandleBulkIn_sameSense (dev : Device) (b : Bot) :
    SameSense b (botHandleBulkIn dev b) := by
  rcases botHandleBulkIn_cases dev b with ⟨-, -, h⟩ | ⟨-, -, h⟩ | ⟨-, -, h⟩ | ⟨-, -, h⟩
  · rw [h]
    exact ⟨rfl, rfl⟩
  · exact h.sameSense
  · rw [h]
    exact ⟨rfl, rfl⟩
  · rw [h]
    exact .refl b

theorem illegalRequest_ne : senseKeyIllegalRequest ≠ senseKeyNoError := by decide

theorem mediumError_ne : senseKeyMediumError ≠ senseKeyNoError := by decide

/-- A command that reports success needs no reason. -/
theorem explained_of_passed (h : b.cswStatus = .passed) : b.Explained := fun hne => absurd h hne

theorem explained_of_key {key : UInt8} (h : b.senseKey = key) (hne : key ≠ senseKeyNoError) :
    b.Explained := fun _ hkey => hne (h.symm.trans hkey)

/-- **The handlers** leave the sense data of the target, and explain the status. -/
theorem scsiDispatchCommand_sense (dev : Device) (locked : Bool) (cmd : BulkOnlyCmd)
    (hvalid : cmd.validSignature = true) (b : Bot) :
    (scsiDispatchCommand dev locked (b.beginCbw cmd)).sense = cmd.senseAfter dev locked b.sense
      ∧ (b.Explained → (scsiDispatchCommand dev locked (b.beginCbw cmd)).Explained) := by
  have hrejects := beginCbw_rejects dev locked cmd b
  have hcbw : (b.beginCbw cmd).cbwCsw = cmd := rfl
  have hbegin : SameSense b (b.beginCbw cmd) := ⟨rfl, rfl⟩
  unfold BulkOnlyCmd.senseAfter
  rw [if_pos hvalid, ← hrejects, ← hbegin.sense]
  have hexplained := hbegin.explained
  generalize b.beginCbw cmd = d at hcbw hexplained
  unfold scsiDispatchCommand Bot.rejects
  rw [hcbw]
  cases cmd.command with
  | inquiry =>
    dsimp only
    rw [scsiHandleInquiry_eq]
    exact ⟨rfl, fun _ => explained_of_passed rfl⟩
  | modeSense =>
    dsimp only
    unfold scsiHandleModeSense6
    rw [scsiCopyResponseToBotBuffer_eq]
    exact ⟨rfl, hexplained⟩
  | modeSense2 =>
    dsimp only
    unfold scsiHandleModeSense10
    rw [hcbw]
    by_cases hpage : cmd[17] ≠ 0x3F
    · rw [if_pos hpage, decide_eq_true hpage, botStallActiveDataEndpoints_eq]
      exact ⟨rfl, fun _ => explained_of_key rfl illegalRequest_ne⟩
    · rw [if_neg hpage, decide_eq_false hpage, scsiCopyResponseToBotBuffer_eq]
      exact ⟨rfl, hexplained⟩
  | read10 =>
    dsimp only
    unfold scsiHandleRead10
    dsimp only
    rcases hhidden : locked && read10AccessesHiddenSdSectors dev (scsiParseRw10Cdb d) with - | -
    · exact ⟨rfl, fun _ => explained_of_passed rfl⟩
    · rw [if_pos rfl, botStallActiveDataEndpoints_eq]
      exact ⟨rfl, fun _ => explained_of_key rfl illegalRequest_ne⟩
  | requestSense => exact ⟨rfl, fun _ => explained_of_passed rfl⟩
  | unsupported =>
    dsimp only
    unfold scsiHandleUnsupported
    rw [botStallActiveDataEndpoints_eq]
    exact ⟨rfl, fun _ => explained_of_key rfl illegalRequest_ne⟩
  | readFormatCapacity =>
    dsimp only
    unfold scsiHandleReadFormatCapacity
    rw [scsiCopyResponseToBotBuffer_eq]
    exact ⟨rfl, fun _ => explained_of_passed rfl⟩
  | readCapacity =>
    dsimp only
    unfold scsiHandleReadCapacity
    rw [scsiCopyResponseToBotBuffer_eq]
    exact ⟨rfl, fun _ => explained_of_passed rfl⟩
  | _ => exact ⟨rfl, fun _ => explained_of_passed rfl⟩

/-- **An OUT packet.** -/
theorem botHandleBulkOut_sense (dev : Device) (locked : Bool) (packet : List UInt8) (b : Bot) :
    (botHandleBulkOut dev locked packet b).sense
        = (if b.transferFlags.dataOut = false ∧ packet.length = 31 then
            (BulkOnlyCmd.ofPacket packet).senseAfter dev locked b.sense
          else b.sense)
      ∧ (b.Explained → (botHandleBulkOut dev locked packet b).Explained) := by
  rcases botHandleBulkOut_cases dev locked packet b with
    ⟨hout, heq⟩ | ⟨hout, hlen, heq⟩ | ⟨hout, hlen, hvalid, heq⟩ | ⟨hout, hlen, hvalid, heq⟩
  · rw [heq, if_neg fun h => Bool.false_ne_true (h.1.symm.trans hout)]
    exact ⟨rfl, id⟩
  · rw [heq, if_neg fun h => hlen h.2]
    exact ⟨rfl, id⟩
  · rw [heq, if_pos ⟨hout, hlen⟩, botRejectInvalidCbwSignature_eq, BulkOnlyCmd.senseAfter, hvalid]
    exact ⟨rfl, fun _ => explained_of_key rfl illegalRequest_ne⟩
  · obtain ⟨hsense, hexplained⟩ :=
      scsiDispatchCommand_sense dev locked (.ofPacket packet) hvalid b
    have hstart := botStartCommand_sameSense dev (scsiDispatchCommand dev locked (b.begun packet))
    rw [heq, if_pos ⟨hout, hlen⟩]
    exact ⟨hstart.sense.trans hsense, fun h => hstart.explained (hexplained h)⟩

end Handlers

/-! ### The sense data in `main` -/

section Main

variable {dev : Device}

/-- Outside the write loop, `main` leaves the sense data alone. -/
theorem mainStep_sameSense (dev : Device) (io : MainIo) {s : Sys}
    (hrun : ∀ stream, s.pc ≠ .writeRun stream) :
    SameSense s.drive.bot (mainStep dev io s).drive.bot := by
  cases hpc : s.pc with
  | writeRun stream => exact absurd hpc (hrun stream)
  | readRun preqnum actualLba =>
    simp only [mainStep, hpc]
    rcases readRun_cases dev io preqnum actualLba s with h | ⟨packets, h⟩
    · rw [h]
      exact .refl _
    · rw [h]
      exact ⟨rfl, rfl⟩
  | csw stage caller =>
    cases stage
    case ack =>
      cases caller
      all_goals
        simp only [mainStep, hpc]
        exact ⟨rfl, rfl⟩
    all_goals
      simp only [mainStep, hpc]
      exact ⟨rfl, rfl⟩
  | pollUnlock =>
    simp only [mainStep, hpc]
    rcases pollUnlock_cases dev io s with h | ⟨-, h⟩
    · rw [h]
      exact .refl _
    rw [h]
    dsimp only
    rcases phantomdriveTryUnlock_cases dev io.unlock s.drive with hgive | hswitch
    · rcases hgive.bot with hbot | ⟨-, hbot⟩
      · rw [hbot]
        exact .refl _
      · rw [hbot]
        exact ⟨rfl, rfl⟩
    · obtain ⟨card, len, passwordLen, -, hswitched⟩ := hswitch.switched
      rw [hswitched]
      exact ⟨rfl, rfl⟩
  | writeStart totalSectors lba =>
    simp only [mainStep, hpc]
    exact .refl _
  | _ =>
    simp only [mainStep, hpc]
    exact ⟨rfl, rfl⟩

/-- A pass leaves the sense data alone, or fails. -/
theorem writeIter_sense (dev : Device) (io : ChunkIo) {stream : WriteStream} {d : Drive}
    (hpos : 0 < stream.sectorsLeft) :
    (writeIter dev io stream d).1 = true ∧ (writeIter dev io stream d).2.bot = d.bot
      ∨ (writeIter dev io stream d).1 = false
        ∧ (writeIter dev io stream d).2.bot = WriteFailed d.bot := by
  rcases hcard : dev.outOfCard (chunkLba dev stream d) stream.chunkSectors with - | -
  · rw [writeIter_of_inCard hpos hcard]
    rcases io.outcome.ok with - | -
    · exact Or.inr ⟨rfl, rfl⟩
    · exact Or.inl ⟨rfl, rfl⟩
  · rw [writeIter_of_outOfCard hpos hcard]
    exact Or.inr ⟨rfl, rfl⟩

/-- **One step of `main`** changes the sense data when a write fails, and not otherwise. -/
theorem mainStep_sense (io : MainIo) (s : Sys) :
    (mainStep dev io s).drive.bot.sense = s.drive.bot.sense.note dev s (.main io)
      ∧ (s.drive.bot.Explained → (mainStep dev io s).drive.bot.Explained) := by
  by_cases hrun : ∃ stream, s.pc = .writeRun stream
  · obtain ⟨stream, hpc⟩ := hrun
    simp only [mainStep, hpc, Sense.note]
    unfold writeRun
    rcases Nat.eq_zero_or_pos stream.sectorsLeft with hzero | hpos
    · rw [if_pos hzero, if_neg fun h => h.1 hzero]
      exact ⟨rfl, id⟩
    rw [if_neg hpos.ne']
    dsimp only
    rcases writeIter_sense dev io.chunk (d := s.drive) hpos with
      ⟨hdone, hbot⟩ | ⟨hdone, hbot⟩
    · rw [hdone, if_pos rfl, if_neg fun h => Bool.false_ne_true h.2.symm]
      dsimp only
      rw [hbot]
      exact ⟨rfl, id⟩
    · rw [hdone, if_neg Bool.false_ne_true, if_pos ⟨hpos.ne', rfl⟩]
      dsimp only
      rw [hbot]
      exact ⟨rfl, fun _ => explained_of_key rfl mediumError_ne⟩
  · have hrun : ∀ stream, s.pc ≠ .writeRun stream := fun stream hpc => hrun ⟨stream, hpc⟩
    have hsame := mainStep_sameSense dev io hrun
    refine ⟨hsame.sense.trans ?_, hsame.explained⟩
    unfold Sense.note
    cases hpc : s.pc with
    | writeRun stream => exact absurd hpc (hrun stream)
    | _ => rfl

/-- **One event**: the two fields of `g_bot` follow the sense data of the target. -/
theorem step_sense (dev : Device) (s : Sys) (e : Event) :
    (step dev s e).drive.bot.sense = s.drive.bot.sense.note dev s e
      ∧ (s.drive.bot.Explained → (step dev s e).drive.bot.Explained) := by
  cases e with
  | bulkOut packet =>
    obtain ⟨hsense, hexplained⟩ := botHandleBulkOut_sense dev
      s.drive.phantom.isLocked packet s.drive.bot
    unfold step Sense.note
    dsimp only
    by_cases htakes : s.TakesCbw packet
    · rw [if_pos htakes.2] at hsense
      rw [if_pos htakes.1, if_pos htakes]
      exact ⟨hsense, hexplained⟩
    · rw [if_neg htakes]
      split
      · rename_i hirq
        rw [if_neg fun h => htakes ⟨hirq, h⟩] at hsense
        exact ⟨hsense, hexplained⟩
      · exact ⟨rfl, id⟩
  | bulkIn =>
    have hsame := botHandleBulkIn_sameSense dev { s.drive.bot with txCtrl := .nak }
    unfold step Sense.note
    dsimp only
    split
    · exact ⟨hsame.sense, hsame.explained⟩
    · exact ⟨rfl, id⟩
  | main io => exact mainStep_sense io s

end Main

/-! ### Runs -/

/-- What holds of the sense data in every state of a run. -/
structure SenseInv (dev : Device) (w : SenseRun) : Prop extends AnswerInv dev w.session where
  sense : w.session.sys.drive.bot.sense = w.sense
  explained : w.session.sys.drive.bot.Explained
  asked : w.session.exchange.cbw.command = .requestSense →
    w.session.exchange.cbw.validSignature = true →
      w.session.exchange.response = reqSense w.asked.key w.asked.asc

section Runs

variable {dev : Device} {w : SenseRun}

theorem response_requestSense {cmd : BulkOnlyCmd} {b : Bot} (h : cmd.command = .requestSense) :
    b.response cmd = reqSense b.sense.key b.sense.asc := by
  unfold Bot.response
  rw [h]
  rfl

/-- A REQUEST SENSE asks for the sense data of the moment it comes. -/
theorem SenseInv.asked_step (h : SenseInv dev w) (e : Event) :
    (w.step dev e).session.exchange.cbw.command = .requestSense →
      (w.step dev e).session.exchange.cbw.validSignature = true →
        (w.step dev e).session.exchange.response
          = reqSense (w.step dev e).asked.key (w.step dev e).asked.asc := by
  show (observe dev w.session.exchange w.session.sys e).cbw.command = .requestSense →
    (observe dev w.session.exchange w.session.sys e).cbw.validSignature = true →
      (observe dev w.session.exchange w.session.sys e).response = _
  rcases observe_cases dev w.session.exchange w.session.sys e with
    ⟨packet, rfl, htakes, hbegin⟩ | ⟨hnot, hsame, hresponse⟩
  · have hasked : (w.step dev (.bulkOut packet)).asked = w.sense := if_pos htakes
    rw [hbegin, hasked, ← h.sense]
    dsimp only [Exchange.begin]
    exact fun hcommand _ => response_requestSense hcommand
  · have hasked : (w.step dev e).asked = w.asked := by
      cases e with
      | bulkOut packet => exact if_neg (hnot packet rfl)
      | bulkIn => rfl
      | main io => rfl
    rw [hsame.cbw, hresponse, hasked]
    exact h.asked

theorem senseInv_step (hinit : dev.initTxCtrl = .nak) (w : SenseRun) (e : Event)
    (h : SenseInv dev w) (hok : Orderly w.session e) : SenseInv dev (w.step dev e) := by
  obtain ⟨hsense, hexplained⟩ := step_sense dev w.session.sys e
  refine ⟨answerInv_step hinit w.session e h.toAnswerInv hok, ?_, hexplained h.explained,
    h.asked_step e⟩
  show (step dev w.session.sys e).drive.bot.sense = w.sense.note dev w.session.sys e
  rw [hsense, h.sense]

theorem senseInv_init (hinit : dev.initTxCtrl = .nak) (card : Card) :
    SenseInv dev (.init dev card) where
  toAnswerInv := answerInv_init hinit card
  sense := rfl
  explained := explained_of_passed rfl
  asked _ hvalid := absurd (validSignature_none.symm.trans hvalid) Bool.false_ne_true

/-- The status byte of the CSW that EP1 IN sends is the one that was set last. -/
theorem Ongoing.csw_status {x : Exchange} {b : Bot} {pc : MainPc} (h : Ongoing dev x b pc)
    {csw : List UInt8} (htx : b.txCtrl = .ack) (hbuff : b.txBuff = .csw csw) :
    csw.getD 12 0 = b.cswStatus.byte := by
  have hnak : ∀ {P : Prop}, b.txCtrl = .nak → P := fun hnak =>
    EpResponse.noConfusion (hnak.symm.trans htx)
  cases h with
  | idling h => exact hnak h.txCtrl
  | responding h =>
    obtain ⟨bytes, hbytes⟩ := h.txBuff
    exact InPacket.noConfusion (hbytes.symm.trans hbuff)
  | halted h => exact absurd htx h.txCtrl
  | reading h => exact hnak h.txCtrl
  | awaiting h => exact hnak h.txCtrl
  | writing h => exact hnak h.txCtrl
  | closing h => exact hnak h.txCtrl
  | closed h =>
    have hcsw : cswBytes x.cbw.tag (x.cswStatus dev) = csw :=
      InPacket.csw.inj (h.txBuff.symm.trans hbuff)
    rw [← hcsw, h.cswStatus]
    rfl
  | void h => exact absurd htx h.txCtrl

end Runs

/-- **What REQUEST SENSE tells.**  In every orderly run, a REQUEST SENSE of at most 18 bytes is
answered with the sense data as they were when it came; and whenever EP1 IN sends a CSW that does
not report success, the sense data say why. -/
theorem requestSense_run (dev : Device) (hinit : dev.initTxCtrl = .nak) (card : Card)
    (events : List Event)
    (hrun : Runs.Along (SenseRun.step dev) (fun w e => Orderly w.session e) (.init dev card)
      events) :
    let w := Runs.run (SenseRun.step dev) (.init dev card) events
    (w.session.exchange.cbw.validSignature = true → w.session.exchange.dataPhase dev = .respond →
        w.session.exchange.cbw.command = .requestSense → w.session.exchange.cbw.dataLen ≤ 18 →
          dataOf (w.session.exchange.packets w.session.sys.drive.bot)
            = (reqSense w.asked.key w.asked.asc).take w.session.exchange.cbw.dataLen.toNat)
      ∧ ∀ csw, w.session.sys.drive.bot.txCtrl = .ack →
        w.session.sys.drive.bot.txBuff = .csw csw → csw.getD 12 0 ≠ CswStatus.passed.byte →
          w.sense.key ≠ senseKeyNoError := by
  intro w
  have hinv : SenseInv dev w := Runs.invariant (P := SenseInv dev) (senseInv_step hinit)
    (senseInv_init hinit card) hrun
  constructor
  · intro hvalid hphase hcommand hlen
    have hanswers : w.session.exchange.cbw.answers = true := by
      unfold BulkOnlyCmd.answers
      rw [hcommand]
      exact decide_eq_true hlen
    rw [hinv.data hvalid hphase hanswers, hinv.asked hcommand hvalid]
  · intro csw htx hbuff hfailed
    rw [Ongoing.csw_status hinv.phase htx hbuff] at hfailed
    have hkey := hinv.explained fun hpassed => hfailed (congrArg CswStatus.byte hpassed)
    rw [← hinv.sense]
    exact hkey

/-- An unknown opcode, whose CSW the host takes, and a REQUEST SENSE. -/
def sampleRequestSense : List Event :=
  [.bulkOut (cbwPacket 0x00 0 [0xFF]), .bulkIn, .bulkIn, .bulkOut (cbwPacket 0x80 18 [0x03])]

/-- The sense data name the command that was not known. -/
theorem requestSense_run_unsupported :
    let w := Runs.run (SenseRun.step sampleDevice) (.init sampleDevice fun _ _ => 0)
      sampleRequestSense
    dataOf (w.session.exchange.packets w.session.sys.drive.bot)
      = reqSense senseKeyIllegalRequest senseAscInvalidCommand := by
  intro w
  have hrun : Runs.Along (SenseRun.step sampleDevice) (fun w e => Orderly w.session e)
        (.init sampleDevice fun _ _ => 0) sampleRequestSense
      ∧ w.session.exchange.cbw.validSignature = true
      ∧ w.session.exchange.dataPhase sampleDevice = .respond
      ∧ w.session.exchange.cbw.command = .requestSense
      ∧ w.session.exchange.cbw.dataLen ≤ 18 ∧ w.session.exchange.cbw.dataLen = 18
      ∧ w.asked = .invalidCommand := by
    decide +kernel
  obtain ⟨hrun, hvalid, hphase, hcommand, hle, hlen, hasked⟩ := hrun
  have hdata : dataOf (w.session.exchange.packets w.session.sys.drive.bot)
      = (reqSense w.asked.key w.asked.asc).take w.session.exchange.cbw.dataLen.toNat :=
    (requestSense_run sampleDevice rfl (fun _ _ => 0) sampleRequestSense hrun).1 hvalid hphase
      hcommand hle
  rw [hdata, hasked, hlen]
  rfl

end PhantomDrive
