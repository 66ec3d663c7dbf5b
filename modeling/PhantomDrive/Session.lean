/-
PhantomDrive/Session.lean

Every orderly run goes through the phases of `Ongoing`: one command at a time, from its
CBW over its data phase to its CSW.

There is one lemma for each phase and kind of event; the phases that leave `main`
nothing to do share one.  Main result: `inPhase_run`.
-/
import PhantomDrive.Exchange

namespace PhantomDrive

/-! ### The CSW -/

/-- The buffer holds the CSW after `bot_send_csw` has filled it. -/
theorem take_botSendCswFill (b : Bot) :
    (botSendCswFill b).cbwCsw.toList.take 13 = cswBytes b.cbwTag b.cswStatus := by
  apply List.ext_getElem
  · simp [cswBytes]
  · intro i h _
    have hi : i < 13 := by
      rw [List.length_take, Vector.length_toList] at h
      omega
    rw [List.getElem_take, Vector.getElem_toList]
    interval_cases i
    all_goals simp [botSendCswFill, cswBytes]

/-- `bot_send_csw` fills the buffer and nothing else. -/
theorem botSendCswFill_eq (b : Bot) :
    ∃ cmd : BulkOnlyCmd, botSendCswFill b = { b with cbwCsw := cmd }
      ∧ cmd.toList.take 13 = cswBytes b.cbwTag b.cswStatus :=
  ⟨(botSendCswFill b).cbwCsw, by unfold botSendCswFill; rfl, take_botSendCswFill b⟩

theorem botSendCsw_txBuff (b : Bot) :
    (botSendCsw b).txBuff = .csw (cswBytes b.cbwTag b.cswStatus) :=
  congrArg InPacket.csw (take_botSendCswFill (botSendCswClear b))

theorem botSendCsw_queued (b : Bot) :
    (botSendCsw b).queued = b.queued ++ [.csw (cswBytes b.cbwTag b.cswStatus)] := by
  show b.queued ++ [(botSendCswCopy (botSendCswFill (botSendCswClear b))).txBuff] = _
  rw [← botSendCsw_txBuff]
  rfl

/-! ### At rest -/

section Rest

variable {dev : Device} {x : Exchange} {b b' : Bot} {pc : MainPc}

theorem AtRest.of_flags_ne {flags : TransferFlags} (h : AtRest b pc)
    (hflags : b.transferFlags = flags) (hne : flags ≠ .none) : pc.settled = true := by
  rcases h.pc with hpc | ⟨hnone, -⟩
  · exact hpc
  · exact absurd (hflags.symm.trans hnone) hne

theorem AtRest.not_writeRun (h : AtRest b pc) (stream : WriteStream) : pc ≠ .writeRun stream := by
  rintro rfl
  rcases h.pc with hpc | ⟨-, hpc | hpc⟩
  · cases hpc
  · cases hpc
  · cases hpc

/-- **`main` at rest** changes nothing an exchange depends on, and stays at rest. -/
theorem mainStep_atRest (hinit : dev.initTxCtrl = .nak) (io : MainIo) {s : Sys}
    (h : AtRest s.drive.bot s.pc) :
    ∃ rxCtrl capacity,
      (mainStep dev io s).drive.bot
        = { s.drive.bot with rxCtrl := rxCtrl, capacity := capacity }
      ∧ AtRest (mainStep dev io s).drive.bot (mainStep dev io s).pc := by
  have hkeep : ∀ pc', pc'.settled = true → AtRest s.drive.bot pc' := fun pc' hpc' =>
    ⟨h.readPending, h.writePending, Or.inl hpc'⟩
  rcases h.pc with hpc | ⟨hflags, hpc | hpc⟩
  · cases hpc' : s.pc with
    | poll =>
      simp only [mainStep, hpc']
      rw [if_neg (by rw [h.readPending]; exact Bool.false_ne_true)]
      exact ⟨s.drive.bot.rxCtrl, s.drive.bot.capacity, rfl, hkeep _ rfl⟩
    | pollWrite =>
      simp only [mainStep, hpc']
      rw [if_neg (by rw [h.writePending]; exact Bool.false_ne_true)]
      exact ⟨s.drive.bot.rxCtrl, s.drive.bot.capacity, rfl, hkeep _ rfl⟩
    | writeDone =>
      simp only [mainStep, hpc']
      exact ⟨.ack, s.drive.bot.capacity, rfl, h.readPending, h.writePending, Or.inl rfl⟩
    | pollUnlock =>
      simp only [mainStep, hpc']
      rcases pollUnlock_cases dev io s with hrun | ⟨-, hrun⟩
      · rw [hrun]
        exact ⟨s.drive.bot.rxCtrl, s.drive.bot.capacity, rfl, hkeep _ rfl⟩
      rw [hrun]
      rcases phantomdriveTryUnlock_cases dev io.unlock s.drive with hgive | hswitch
      · rcases hgive.bot with hbot | ⟨hidle, hbot⟩
        · dsimp only
          rw [hbot]
          exact ⟨s.drive.bot.rxCtrl, s.drive.bot.capacity, rfl, hkeep _ rfl⟩
        · dsimp only
          rw [hbot, usb20DeviceInit, hinit, ← hidle.txCtrl]
          exact ⟨_, s.drive.bot.capacity, rfl, h.readPending, h.writePending, Or.inl rfl⟩
      · obtain ⟨card, len, passwordLen, -, hswitched⟩ := hswitch.switched
        have hidle := hswitch.idle
        dsimp only
        rw [hswitched, phantomdriveSwitch, usb20DeviceInit]
        dsimp only
        rw [hinit, ← hidle.txCtrl, ← hidle.flags]
        refine ⟨dev.initRxCtrl, dev.emmcSecNum - dev.lockedSectors, ?_, rfl, rfl, Or.inl rfl⟩
        rw [h.readPending, h.writePending]
    | _ =>
      rw [hpc'] at hpc
      cases hpc
  · simp only [mainStep, hpc]
    refine ⟨s.drive.bot.rxCtrl, s.drive.bot.capacity, rfl, h.readPending, h.writePending,
      Or.inr ⟨hflags, Or.inr ?_⟩⟩
    rw [hflags]
    rfl
  · simp only [mainStep, hpc]
    refine ⟨s.drive.bot.rxCtrl, s.drive.bot.capacity, ?_, h.readPending, h.writePending, Or.inl rfl⟩
    show { s.drive.bot with transferFlags := TransferFlags.none } = s.drive.bot
    rw [← hflags]

/-- What `main` at rest may change is not part of any phase. -/
theorem Current.rest (h : Current dev x b) (rxCtrl : EpResponse) (capacity : UInt32) :
    Current dev x { b with rxCtrl := rxCtrl, capacity := capacity } :=
  ⟨h.valid, h.outstanding, h.cbwTag, h.cswStatus, h.mark⟩

end Rest

/-! ### The CSW from the interrupt -/

section Close

variable {dev : Device} {x : Exchange} {b : Bot} {pc : MainPc}

/-- What is queued is queued behind the packets of the command. -/
theorem Exchange.packets_append (hmark : x.mark ≤ b.queued.length) (later : List InPacket) :
    x.packets { b with queued := b.queued ++ later } = x.packets b ++ later :=
  List.drop_append_of_le_length hmark

/-- A CSW behind the data of the command finishes it. -/
theorem Current.finished (h : Current dev x b) {datas : List (List UInt8)}
    (hsent : x.packets b = datas.map .data) (hsettled : x.Settled dev (byteCount datas)) {b' : Bot}
    (hqueued : b'.queued = b.queued ++ [.csw (cswBytes b.cbwTag b.cswStatus)]) :
    x.Finished dev b' := by
  refine ⟨datas, ?_, hsettled⟩
  rw [Exchange.packets, hqueued, List.drop_append_of_le_length h.mark, ← hsent, h.cbwTag,
    h.cswStatus]
  rfl

/-- **`bot_send_csw` closes the exchange.** -/
theorem Current.closed (h : Current dev x b) (hread : b.readPending = false)
    (hwrite : b.writePending = false) (hpc : pc.settled = true) {datas : List (List UInt8)}
    (hsent : x.packets b = datas.map .data) (hsettled : x.Settled dev (byteCount datas)) :
    Closed dev x (botSendCsw b) pc where
  valid := h.valid
  outstanding := h.outstanding
  cbwTag := h.cbwTag
  cswStatus := h.cswStatus
  mark := by
    rw [botSendCsw_queued, List.length_append]
    exact h.mark.trans (Nat.le_add_right ..)
  readPending := hread
  writePending := hwrite
  pc := Or.inl hpc
  transferFlags := rfl
  txCtrl := rfl
  txBuff := by rw [botSendCsw_txBuff, h.cbwTag, h.cswStatus]
  finished := h.finished hsent hsettled (botSendCsw_queued b)

/-- What `bot_send_response_data` sends: a packet, or what is left in the last one. -/
theorem botSendResponseData_sent (dev : Device) (hin : b.transferFlags.dataIn = true) :
    ∃ (bytes : List UInt8) (left : UInt32) (dataIn : Bool),
      botSendResponseData dev b = { b with
          transferBytesLeft := left
          transferFlags := { b.transferFlags with dataIn := dataIn }
          txBuff := .data bytes
          txCtrl := .ack
          queued := b.queued ++ [.data bytes] }
        ∧ bytes.length + left.toNat = b.transferBytesLeft.toNat
        ∧ (dataIn = false → left = 0) := by
  unfold botSendResponseData
  split
  · rename_i hmore
    refine ⟨b.responseBytes dev b.packSize.toNat, b.transferBytesLeft - b.packSize.toUInt32,
      b.transferFlags.dataIn, rfl, ?_, fun hfalse => ?_⟩
    · have hlt := UInt32.lt_iff_toNat_lt.mp hmore
      have hlen : (b.responseBytes dev b.packSize.toNat).length = b.packSize.toUInt32.toNat := by
        simp [Bot.responseBytes]
      rw [hlen, UInt32.toNat_sub_of_le _ _ (UInt32.le_of_lt hmore)]
      omega
    · exact absurd (hfalse.symm.trans hin) Bool.false_ne_true
  · refine ⟨b.responseBytes dev b.transferBytesLeft.toNat, 0, false, rfl, ?_, fun _ => rfl⟩
    simp [Bot.responseBytes]

/-- **A response packet** goes on with the response, or is its last one. -/
theorem Current.responds (h : Current dev x b) (hrest : AtRest b pc)
    (hphase : x.dataPhase dev = .respond) (huntouched : x.Untouched)
    (hflags : b.transferFlags = ⟨true, false, true⟩) (hread : b.cbwCsw.isRead10 = false)
    {datas : List (List UInt8)} (hsent : x.packets b = datas.map .data)
    (hcount : byteCount datas + b.transferBytesLeft.toNat = x.cbw.deviceBytes.toNat) :
    Responding dev x (botSendResponseData dev b) pc := by
  obtain ⟨bytes, left, dataIn, heq, hlen, hlast⟩ :=
    botSendResponseData_sent dev (b := b) (by rw [hflags])
  have hsettled : pc.settled = true := hrest.of_flags_ne hflags (by decide)
  rw [heq]
  refine ⟨⟨h.valid, h.outstanding, h.cbwTag, h.cswStatus, ?_⟩,
    ⟨hrest.readPending, hrest.writePending, Or.inl hsettled⟩, hphase, huntouched, by rw [hflags],
    by rw [hflags], hread, rfl, ⟨bytes, rfl⟩, ⟨datas ++ [bytes], ?_, ?_⟩, hlast⟩
  · dsimp only
    rw [List.length_append]
    exact h.mark.trans (Nat.le_add_right ..)
  · rw [Exchange.packets]
    dsimp only
    rw [List.drop_append_of_le_length h.mark, List.map_append, ← hsent]
    rfl
  · rw [byteCount_append, ← hcount]
    simp only [byteCount, List.map_cons, List.map_nil, List.sum_cons, List.sum_nil]
    omega

end Close

/-! ### An IN completion -/

section BulkIn

variable {dev : Device} {x : Exchange} {b : Bot} {pc : MainPc}

/-- The exchange as the observer sees it behind an IN completion. -/
def Exchange.taken (x : Exchange) (b : Bot) : Exchange :=
  { x with outstanding := x.outstanding && !b.sendsCsw }

theorem Exchange.taken_eq (h : b.sendsCsw = false) : x.taken b = x := by
  rw [Exchange.taken, h, Bool.not_false, Bool.and_true]

theorem sendsCsw_of_ne (h : b.txCtrl ≠ .ack) : b.sendsCsw = false := by
  rw [Bot.sendsCsw, decide_eq_false h, Bool.false_and]

theorem Responding.bulkIn (h : Responding dev x b pc) :
    Ongoing dev (x.taken b) (botHandleBulkIn dev { b with txCtrl := .nak }) pc := by
  obtain ⟨bytes, hbytes⟩ := h.txBuff
  obtain ⟨datas, hsent, hcount⟩ := h.sent
  have hnot : b.sendsCsw = false := by
    rw [Bot.sendsCsw, hbytes, Bool.and_false]
  rw [Exchange.taken_eq hnot]
  have hcurrent : Current dev x { b with txCtrl := .nak } :=
    ⟨h.valid, h.outstanding, h.cbwTag, h.cswStatus, h.mark⟩
  have hne : b.transferFlags ≠ .none := by
    intro hnone
    have hcsw := h.cswPending
    rw [hnone] at hcsw
    cases hcsw
  have hsettled : pc.settled = true := h.toAtRest.of_flags_ne rfl hne
  unfold botHandleBulkIn
  dsimp only
  by_cases hin : b.transferFlags.dataIn = true
  · rw [if_pos hin, if_neg (by rw [h.isRead10]; exact Bool.false_ne_true)]
    refine .responding (hcurrent.responds ⟨h.readPending, h.writePending, Or.inl hsettled⟩
      h.dataPhase h.untouched ?_ h.isRead10 hsent hcount)
    show TransferFlags.mk b.transferFlags.dataIn b.transferFlags.dataOut
      b.transferFlags.cswPending = _
    rw [hin, h.dataOut, h.cswPending]
  · rw [if_neg hin, if_pos h.cswPending]
    have hleft : b.transferBytesLeft = 0 := h.last (by simpa using hin)
    refine .closed (hcurrent.closed h.readPending h.writePending hsettled hsent ?_)
    rw [Exchange.Settled, h.dataPhase]
    rw [hleft] at hcount
    exact ⟨hcount, h.untouched⟩

theorem Halted.bulkIn (h : Halted dev x b pc) :
    Ongoing dev (x.taken b) (botHandleBulkIn dev { b with txCtrl := .nak }) pc := by
  rw [Exchange.taken_eq (sendsCsw_of_ne h.txCtrl)]
  have hcurrent : Current dev x { b with txCtrl := .nak } :=
    ⟨h.valid, h.outstanding, h.cbwTag, h.cswStatus, h.mark⟩
  have hsettled : pc.settled = true := h.toAtRest.of_flags_ne h.transferFlags (by decide)
  unfold botHandleBulkIn
  dsimp only
  rw [if_neg (by rw [h.transferFlags]; exact Bool.false_ne_true),
    if_pos (by rw [h.transferFlags])]
  have hsent : x.packets { b with txCtrl := .nak } = ([] : List (List UInt8)).map .data := h.packets
  refine .closed (hcurrent.closed h.readPending h.writePending hsettled hsent ?_)
  rw [Exchange.Settled, h.dataPhase]
  exact ⟨rfl, h.untouched⟩

/-- The host takes the CSW. -/
theorem Closed.bulkIn (h : Closed dev x b pc) :
    Ongoing dev (x.taken b) (botHandleBulkIn dev { b with txCtrl := .nak }) pc := by
  have hsends : b.sendsCsw = true := by
    rw [Bot.sendsCsw, h.txCtrl, h.txBuff]
    rfl
  have hbot : botHandleBulkIn dev { b with txCtrl := .nak } = { b with txCtrl := .nak } := by
    unfold botHandleBulkIn
    dsimp only
    rw [h.transferFlags]
    rfl
  rw [hbot]
  refine .idling ⟨⟨h.readPending, h.writePending, h.pc⟩, ?_, h.mark, h.transferFlags, rfl,
    Or.inr ⟨h.valid, h.finished⟩⟩
  rw [Exchange.taken, hsends, Bool.not_true, Bool.and_false]

theorem Void.bulkIn (h : Void x b pc) :
    Ongoing dev (x.taken b) (botHandleBulkIn dev { b with txCtrl := .nak }) pc := by
  rw [Exchange.taken_eq (sendsCsw_of_ne h.txCtrl)]
  have hbot : botHandleBulkIn dev { b with txCtrl := .nak } = { b with txCtrl := .nak } := by
    unfold botHandleBulkIn
    dsimp only
    rw [h.transferFlags]
    rfl
  rw [hbot]
  exact .void ⟨⟨h.readPending, h.writePending, h.pc⟩, h.invalid, h.outstanding, h.mark,
    h.transferFlags, EpResponse.noConfusion, h.packets⟩

/-- **An IN completion** keeps an exchange within its phases. -/
theorem Ongoing.bulkIn (h : Ongoing dev x b pc) (htx : b.txCtrl ≠ .nak) :
    Ongoing dev (x.taken b) (botHandleBulkIn dev { b with txCtrl := .nak }) pc := by
  cases h with
  | idling h => exact absurd h.txCtrl htx
  | responding h => exact h.bulkIn
  | halted h => exact h.bulkIn
  | reading h => exact absurd h.txCtrl htx
  | awaiting h => exact absurd h.txCtrl htx
  | writing h => exact absurd h.txCtrl htx
  | closing h => exact absurd h.txCtrl htx
  | closed h => exact h.bulkIn
  | void h => exact h.bulkIn

end BulkIn

/-! ### An OUT packet -/

/-- The flags while the data phase of a command has not begun. -/
def DataPhase.flags : DataPhase → TransferFlags
  | .none => ⟨false, false, true⟩
  | .respond | .read => ⟨true, false, true⟩
  | .write => ⟨false, true, true⟩

section Begin

variable {dev : Device} {s : Sys} {cmd : BulkOnlyCmd} {b' : Bot}

/-- Only the CBW decides whether the handler rejects it. -/
theorem beginCbw_rejects (dev : Device) (locked : Bool) (cmd : BulkOnlyCmd) (b : Bot) :
    (b.beginCbw cmd).rejects dev locked = cmd.refused dev locked := by
  unfold BulkOnlyCmd.refused Bot.rejects
  rfl

theorem beginCbw_bytesAfterDispatch (cmd : BulkOnlyCmd) (b : Bot) :
    (b.beginCbw cmd).bytesAfterDispatch = cmd.deviceBytes := by
  unfold BulkOnlyCmd.deviceBytes Bot.bytesAfterDispatch
  rfl

/-- Only a READ(10) is executed by `msc_read_sectors`. -/
theorem Exchange.isRead10_of_dataPhase {x : Exchange} {phase : DataPhase}
    (h : x.dataPhase dev = phase) :
    (phase = .read → x.cbw.isRead10 = true) ∧ (phase = .respond → x.cbw.isRead10 = false) := by
  unfold Exchange.dataPhase at h
  split at h
  · subst h
    exact ⟨DataPhase.noConfusion, DataPhase.noConfusion⟩
  split at h
  · rcases hread : x.cbw.isRead10 with - | -
    · rw [hread] at h
      subst h
      exact ⟨DataPhase.noConfusion, fun _ => rfl⟩
    · rw [hread] at h
      subst h
      exact ⟨fun _ => rfl, DataPhase.noConfusion⟩
  · subst h
    exact ⟨DataPhase.noConfusion, DataPhase.noConfusion⟩

/-- With no flag left over, the data phase of a command is its own. -/
theorem beginCbw_transferFlags {b : Bot} (h : b.transferFlags = .none) :
    (b.beginCbw cmd).transferFlags
      = ⟨cmd.dataLen ≠ 0 && cmd.dirIn, cmd.dataLen ≠ 0 && !cmd.dirIn, true⟩ := by
  show TransferFlags.mk (b.transferFlags.dataIn || _) (b.transferFlags.dataOut || _) true = _
  rw [h]
  simp only [TransferFlags.none_dataIn, TransferFlags.none_dataOut, Bool.false_or]

/-- The flags behind the handler are those of the data phase. -/
theorem Dispatched.flags
    (hd : Dispatched dev s.drive.phantom.isLocked (s.drive.bot.beginCbw cmd) b')
    (hflags : s.drive.bot.transferFlags = .none) :
    b'.transferFlags = ((Exchange.begin s cmd).dataPhase dev).flags := by
  rw [hd.transferFlags, beginCbw_rejects, beginCbw_transferFlags hflags, Exchange.dataPhase,
    Exchange.rejected]
  dsimp only [Exchange.begin]
  by_cases hrefused : cmd.refused dev s.drive.phantom.isLocked = true
  · simp [hrefused, DataPhase.flags]
  by_cases hlen : cmd.dataLen = 0
  · simp [hrefused, hlen, DataPhase.flags]
  by_cases hdir : cmd.dirIn = true
  · by_cases hread : cmd.isRead10 = true
    · simp [hrefused, hlen, hdir, hread, DataPhase.flags]
    · simp [hrefused, hlen, hdir, hread, DataPhase.flags]
  · simp [hrefused, hlen, hdir, DataPhase.flags]

/-- What the handler leaves is what the observer noted down. -/
theorem Dispatched.current
    (hd : Dispatched dev s.drive.phantom.isLocked (s.drive.bot.beginCbw cmd) b')
    (ha : Answered dev s.drive.phantom.isLocked (s.drive.bot.beginCbw cmd) b')
    (hvalid : cmd.validSignature = true) : Current dev (.begin s cmd) b' where
  valid := hvalid
  outstanding := rfl
  cbwTag := ha.cbwTag
  cswStatus := by
    rw [ha.cswStatus, Bot.statusAfterDispatch, beginCbw_rejects]
    rfl
  mark := by
    rw [hd.queued]
    exact le_rfl

theorem Dispatched.packets
    (hd : Dispatched dev s.drive.phantom.isLocked (s.drive.bot.beginCbw cmd) b') :
    (Exchange.begin s cmd).packets b' = [] := by
  have hqueued : b'.queued = s.drive.bot.queued := hd.queued
  rw [Exchange.packets, hqueued]
  exact List.drop_length

theorem Dispatched.target
    (hd : Dispatched dev s.drive.phantom.isLocked (s.drive.bot.beginCbw cmd) b') :
    (Exchange.begin s cmd).TargetIs b'.currentLba := by
  intro hrw
  rw [hd.currentLba]
  exact if_pos hrw

theorem Dispatched.left
    (hd : Dispatched dev s.drive.phantom.isLocked (s.drive.bot.beginCbw cmd) b') :
    b'.transferBytesLeft = (Exchange.begin s cmd).cbw.deviceBytes :=
  hd.transferBytesLeft.trans (beginCbw_bytesAfterDispatch cmd s.drive.bot)

theorem untouched_begin : (Exchange.begin s cmd).Untouched := ⟨rfl, rfl, rfl⟩

/-- A command that is not rejected stalls nothing. -/
theorem Answered.txCtrl_of_dataPhase
    (ha : Answered dev s.drive.phantom.isLocked (s.drive.bot.beginCbw cmd) b')
    (h : (Exchange.begin s cmd).dataPhase dev ≠ .none) : b'.txCtrl = s.drive.bot.txCtrl := by
  have hnot : cmd.refused dev s.drive.phantom.isLocked = false := by
    rcases hrefused : cmd.refused dev s.drive.phantom.isLocked with - | -
    · rfl
    · refine absurd ?_ h
      have hrejected : (Exchange.begin s cmd).rejected dev = true := hrefused
      rw [Exchange.dataPhase, hrejected]
      rfl
  rw [ha.txCtrl, Bot.stallsIn, beginCbw_rejects, hnot, Bool.false_and, if_neg Bool.false_ne_true]
  rfl

/-- **A CBW with its signature** begins an exchange. -/
theorem Idling.begin {x : Exchange} (h : Idling dev x s.drive.bot s.pc)
    (hsettled : s.pc.settled = true) (hvalid : cmd.validSignature = true) :
    Ongoing dev (.begin s cmd) (botStartCommand dev
      (scsiDispatchCommand dev s.drive.phantom.isLocked (s.drive.bot.beginCbw cmd))) s.pc := by
  have hd := scsiDispatchCommand_dispatched dev s.drive.phantom.isLocked (s.drive.bot.beginCbw cmd)
  have ha := scsiDispatchCommand_answered dev s.drive.phantom.isLocked (s.drive.bot.beginCbw cmd)
  generalize scsiDispatchCommand dev s.drive.phantom.isLocked (s.drive.bot.beginCbw cmd) = b'
    at hd ha
  have hcurrent := hd.current ha hvalid
  have hflags := hd.flags h.transferFlags
  have hread := hd.readPending.trans h.readPending
  have hwrite := hd.writePending.trans h.writePending
  have hrest : AtRest b' s.pc := ⟨hread, hwrite, Or.inl hsettled⟩
  have htx := ha.txCtrl_of_dataPhase
  have hsent : (Exchange.begin s cmd).packets b' = ([] : List (List UInt8)).map .data := hd.packets
  rcases hphase : (Exchange.begin s cmd).dataPhase dev with - | - | - | -
  all_goals
    rw [hphase, DataPhase.flags] at hflags
    rw [hphase] at htx
    rw [botStartCommand, hflags]
    dsimp only
  case none =>
    rw [if_neg Bool.false_ne_true, if_neg Bool.false_ne_true]
    split
    · refine .closed (hcurrent.closed hread hwrite hsettled hsent ?_)
      rw [Exchange.Settled, hphase]
      exact ⟨rfl, untouched_begin⟩
    · refine .halted ⟨hcurrent, hrest, hphase, untouched_begin, hflags, ?_, hd.packets⟩
      rw [ha.txCtrl]
      split
      · exact EpResponse.noConfusion
      · show s.drive.bot.txCtrl ≠ .ack
        rw [h.txCtrl]
        exact EpResponse.noConfusion
  case respond =>
    have hnot : b'.cbwCsw.isRead10 = false :=
      hd.isRead10.trans ((Exchange.isRead10_of_dataPhase hphase).2 rfl)
    rw [if_neg Bool.false_ne_true, if_pos rfl, hnot, if_neg Bool.false_ne_true]
    refine .responding (hcurrent.responds hrest hphase untouched_begin hflags hnot hsent ?_)
    rw [byteCount_nil, Nat.zero_add, hd.left]
  case read =>
    have hyes : b'.cbwCsw.isRead10 = true :=
      hd.isRead10.trans ((Exchange.isRead10_of_dataPhase hphase).1 rfl)
    rw [if_neg Bool.false_ne_true, if_pos rfl, hyes, if_pos rfl]
    refine .reading ⟨⟨hvalid, rfl, hcurrent.cbwTag, hcurrent.cswStatus, hcurrent.mark⟩, hphase,
      untouched_begin, hwrite, rfl, hyes, (htx DataPhase.noConfusion).trans h.txCtrl, ?_⟩
    have hat : true = true ∧ b'.transferBytesLeft = (Exchange.begin s cmd).cbw.deviceBytes
        ∧ (Exchange.begin s cmd).packets b' = [] := ⟨rfl, hd.left, hd.packets⟩
    cases hpc : s.pc with
    | poll => exact hat
    | pollWrite => exact hat
    | writeDone => exact hat
    | pollUnlock => exact hat
    | _ =>
      rw [hpc] at hsettled
      cases hsettled
  case write =>
    rw [if_pos rfl]
    exact .awaiting ⟨hcurrent, hrest, hphase, untouched_begin, hflags,
      (htx DataPhase.noConfusion).trans h.txCtrl, hd.packets, hd.left, hd.target⟩

end Begin

section BulkOut

variable {dev : Device} {x : Exchange} {b : Bot} {pc : MainPc}

/-- What was queued before the CBW stays queued. -/
theorem Ongoing.mark (h : Ongoing dev x b pc) : x.mark ≤ b.queued.length := by
  cases h with
  | idling h => exact h.mark
  | responding h => exact h.mark
  | halted h => exact h.mark
  | reading h => exact h.mark
  | awaiting h => exact h.mark
  | writing h => exact h.mark
  | closing h => exact h.mark
  | closed h => exact h.mark
  | void h => exact h.mark

/-- The host sends a CBW only to an idle device. -/
theorem Ongoing.idling_of (h : Ongoing dev x b pc) (hout : x.outstanding = false) :
    Idling dev x b pc := by
  have hnot : ∀ {P : Prop}, x.outstanding = true → P := fun hyes =>
    absurd (hout.symm.trans hyes) Bool.false_ne_true
  cases h with
  | idling h => exact h
  | responding h => exact hnot h.outstanding
  | halted h => exact hnot h.outstanding
  | reading h => exact hnot h.outstanding
  | awaiting h => exact hnot h.outstanding
  | writing h => exact hnot h.outstanding
  | closing h => exact hnot h.outstanding
  | closed h => exact hnot h.outstanding
  | void h => exact hnot h.outstanding

/-- `DATA_OUT` is set only while data are awaited or written. -/
theorem Ongoing.dataOut_cases (h : Ongoing dev x b pc) (hflag : b.transferFlags.dataOut = true) :
    Awaiting dev x b pc ∨ Writing dev x b pc := by
  have hnot : ∀ {flags : TransferFlags} {P : Prop}, b.transferFlags = flags →
      flags.dataOut = false → P := fun heq hfalse =>
    absurd (hfalse.symm.trans (heq ▸ hflag)) Bool.false_ne_true
  cases h with
  | idling h => exact hnot h.transferFlags rfl
  | responding h => exact hnot rfl h.dataOut
  | halted h => exact hnot h.transferFlags rfl
  | reading h => exact hnot h.transferFlags rfl
  | awaiting h => exact Or.inl h
  | writing h => exact Or.inr h
  | closing h =>
    have hat := h.at_
    unfold ClosingAt at hat
    split at hat
    · exact hnot hat.1 rfl
    · exact hnot hat rfl
    · exact hnot hat rfl
    · exact hnot hat.1 rfl
    · exact hnot hat.1 rfl
    · exact hat.elim
  | closed h => exact hnot h.transferFlags rfl
  | void h => exact hnot h.transferFlags rfl

/-- While a write is going on, a packet is pending or `main` writes it. -/
theorem WritingAt.busy (h : WritingAt x b pc) : b.writePending = true ∨ pc.inWrite = true := by
  cases pc with
  | poll => exact Or.inl h.1
  | pollWrite => exact Or.inl h.1
  | writeDone => exact Or.inl h.1
  | pollUnlock => exact Or.inl h.1
  | writeTake => exact Or.inr rfl
  | writeCount => exact Or.inr rfl
  | writeLba n => exact Or.inr rfl
  | writeZero n lba => exact Or.inr rfl
  | writeStart n lba => exact Or.inr rfl
  | writeRun stream => exact Or.inr rfl
  | writeCheck => exact Or.inr rfl
  | writeFlagsLoad => exact Or.inr rfl
  | writeFlagsStore flags => exact Or.inr rfl
  | _ => exact h.elim

/-- The first data packet is pending. -/
theorem Awaiting.first (h : Awaiting dev x b pc) :
    Writing dev { x with received := x.received + 1 } { b with writePending := true } pc := by
  obtain ⟨hreceived, hstored, hfailed⟩ := h.untouched
  have hsettled := h.toAtRest.of_flags_ne h.transferFlags (by decide)
  refine ⟨⟨h.valid, h.outstanding, h.cbwTag, h.cswStatus, h.mark⟩, h.dataPhase, h.readPending,
    h.transferFlags, h.txCtrl, h.packets, ?_⟩
  have hat : true = true ∧ b.transferBytesLeft = x.cbw.deviceBytes
      ∧ x.TargetIs b.currentLba ∧ Exchange.FirstPacket { x with received := x.received + 1 } :=
    ⟨rfl, h.left, h.target, congrArg (· + 1) hreceived, hstored, hfailed⟩
  cases pc with
  | poll => exact hat
  | pollWrite => exact hat
  | writeDone => exact hat
  | pollUnlock => exact hat
  | _ => cases hsettled

/-- **An OUT packet** keeps an exchange within its phases, or begins one. -/
theorem Ongoing.bulkOut {t : Session} {packet : List UInt8}
    (h : Ongoing dev t.exchange t.sys.drive.bot t.sys.pc) (hirq : t.sys.usbIrq = true)
    (hok : Orderly t (.bulkOut packet)) :
    Ongoing dev (observe dev t.exchange t.sys (.bulkOut packet))
      (botHandleBulkOut dev t.sys.drive.phantom.isLocked packet t.sys.drive.bot) t.sys.pc := by
  obtain ⟨hserial, hclear⟩ := hok
  have hserial := hserial hirq
  unfold observe
  dsimp only
  rw [if_pos hirq]
  rcases botHandleBulkOut_cases dev t.sys.drive.phantom.isLocked packet t.sys.drive.bot with
    ⟨hout, heq⟩ | ⟨hout, hlen, heq⟩ | ⟨hout, hlen, hvalid, heq⟩ | ⟨hout, hlen, hvalid, heq⟩
  · rw [heq, if_pos hout]
    rw [if_pos hout] at hserial
    rcases h.dataOut_cases hout with h | h
    · exact .writing h.first
    · rcases h.at_.busy with hpending | hin
      · exact absurd (hserial.1.symm.trans hpending) Bool.false_ne_true
      · exact absurd (hserial.2.symm.trans hin) Bool.false_ne_true
  · rw [heq, hout, if_neg Bool.false_ne_true, if_neg hlen]
    exact h
  all_goals
    rw [hout, if_neg Bool.false_ne_true] at hserial
    have hidle := h.idling_of (hserial hlen)
    rw [heq, hout, if_neg Bool.false_ne_true, if_pos hlen]
  · rw [botRejectInvalidCbwSignature_eq]
    refine .void ⟨⟨hidle.readPending, hidle.writePending, ?_⟩, hvalid, rfl, le_rfl, ?_,
      EpResponse.noConfusion, List.drop_length⟩
    · rcases hidle.pc with hsettled | ⟨-, hpc⟩
      · exact Or.inl hsettled
      · refine Or.inr ⟨?_, hpc⟩
        show TransferFlags.mk false false t.sys.drive.bot.transferFlags.cswPending = _
        rw [hidle.transferFlags]
        rfl
    · show TransferFlags.mk false false t.sys.drive.bot.transferFlags.cswPending = _
      rw [hidle.transferFlags]
      rfl
  · have hsettled : t.sys.pc.settled = true := by
      have hclear := hclear ⟨hirq, hout, hlen⟩
      rcases hidle.pc with hsettled | ⟨-, hpc | hpc⟩
      · exact hsettled
      · rw [hpc] at hclear
        cases hclear
      · rw [hpc] at hclear
        cases hclear
    exact hidle.begin hsettled hvalid

end BulkOut

/-! ### `main` in a command -/

section Main

variable {dev : Device} {x : Exchange} {s : Sys} {io : MainIo}

/-- The read loops are left with whole sectors queued. -/
theorem readRun_sent (dev : Device) (io : MainIo) (preqnum : ℕ) (actualLba : UInt32) (s : Sys) :
    readRun dev io preqnum actualLba s = s
      ∨ ∃ datas : List (List UInt8), byteCount datas = 512 * max 1 preqnum
        ∧ readRun dev io preqnum actualLba s
          = { s with
              drive := { s.drive with
                bot := { s.drive.bot with
                  queued := s.drive.bot.queued ++ datas.map .data
                  txCtrl := .nak } }
              usbIrq := true
              pc := .readAdvanceLoad preqnum } := by
  unfold readRun finishReadStream
  rcases hread : readStreamUsb2 (s.drive.readRequest dev actualLba preqnum) io.read.ring
      io.read.events with - | delivered
  · exact Or.inl rfl
  · have hlen : delivered.length = max 1 preqnum := readStreamUsb2_length hread
    refine Or.inr ⟨delivered.map fun sector => List.ofFn sector, ?_, ?_⟩
    · rw [byteCount, List.map_map, ← hlen]
      have hconst : (List.length ∘ fun sector : Sector => List.ofFn sector) = fun _ => 512 := by
        funext sector
        rw [Function.comp_apply, List.length_ofFn]
      rw [hconst, List.map_const', List.sum_replicate, smul_eq_mul, Nat.mul_comm]
    · rw [List.map_map]
      rfl

/-- A drive with a flag set is not unlocked. -/
theorem pollUnlock_bot (io : MainIo) (hbusy : s.drive.bot.transferFlags ≠ .none) :
    (pollUnlock dev io s).drive.bot = s.drive.bot := by
  rcases pollUnlock_cases dev io s with hrun | ⟨-, hrun⟩
  · rw [hrun]
  rw [hrun]
  rcases phantomdriveTryUnlock_cases dev io.unlock s.drive with hgive | hswitch
  · rcases hgive.bot with hbot | ⟨hidle, -⟩
    · exact hbot
    · exact absurd hidle.flags hbusy
  · exact absurd hswitch.idle.flags hbusy

theorem pollUnlock_pc (dev : Device) (io : MainIo) (s : Sys) :
    (pollUnlock dev io s).pc = .poll := by
  rcases pollUnlock_cases dev io s with hrun | ⟨-, hrun⟩
  · rw [hrun]
  · rw [hrun]

/-- The exchange moves on with the bot as it was. -/
theorem Reading.at {pc : MainPc} {b : Bot} (h : Reading dev x b pc) {b' : Bot} {pc' : MainPc}
    (hcurrent : Current dev x b') (hwrite : b'.writePending = b.writePending)
    (hflags : b'.transferFlags = b.transferFlags) (hread : b'.cbwCsw = b.cbwCsw)
    (htx : b'.txCtrl = .nak) (hat : ReadingAt x b' pc') : Ongoing dev x b' pc' :=
  .reading ⟨hcurrent, h.dataPhase, h.untouched, hwrite.trans h.writePending,
    hflags.trans h.transferFlags, hread ▸ h.isRead10, htx, hat⟩

/-- **`main` in a READ(10).** -/
theorem Reading.main (h : Reading dev x s.drive.bot s.pc) :
    Ongoing dev x (mainStep dev io s).drive.bot (mainStep dev io s).pc := by
  have hat := h.at_
  have hcurrent := h.toCurrent
  cases hpc : s.pc with
  | poll =>
    rw [hpc] at hat
    simp only [mainStep, hpc]
    rw [if_pos hat.1]
    exact h.at hcurrent rfl rfl rfl h.txCtrl hat
  | pollWrite =>
    rw [hpc] at hat
    simp only [mainStep, hpc]
    rw [if_neg (by rw [h.writePending]; exact Bool.false_ne_true)]
    exact h.at hcurrent rfl rfl rfl h.txCtrl hat
  | writeDone =>
    rw [hpc] at hat
    simp only [mainStep, hpc]
    exact h.at (hcurrent.rest .ack s.drive.bot.capacity) rfl rfl rfl h.txCtrl hat
  | pollUnlock =>
    rw [hpc] at hat
    simp only [mainStep, hpc]
    have hbusy : s.drive.bot.transferFlags ≠ .none := by
      rw [h.transferFlags]
      decide
    rw [pollUnlock_bot io hbusy, pollUnlock_pc]
    exact h.at hcurrent rfl rfl rfl h.txCtrl hat
  | readTake =>
    rw [hpc] at hat
    simp only [mainStep, hpc]
    exact h.at ⟨h.valid, h.outstanding, h.cbwTag, h.cswStatus, h.mark⟩ rfl rfl rfl h.txCtrl
      ⟨rfl, hat.2⟩
  | readCount =>
    rw [hpc] at hat
    simp only [mainStep, hpc]
    refine h.at hcurrent rfl rfl rfl h.txCtrl ⟨hat.1, ?_, hat.2.2⟩
    rw [Bot.transferSectors, hat.2.1]
    rfl
  | readZero preqnum =>
    rw [hpc] at hat
    simp only [mainStep, hpc]
    exact h.at ⟨h.valid, h.outstanding, h.cbwTag, h.cswStatus, h.mark⟩ rfl rfl rfl h.txCtrl hat
  | readLba preqnum =>
    rw [hpc] at hat
    simp only [mainStep, hpc]
    exact h.at hcurrent rfl rfl rfl h.txCtrl hat
  | readStart preqnum actualLba =>
    rw [hpc] at hat
    simp only [mainStep, hpc]
    exact h.at hcurrent rfl rfl rfl h.txCtrl hat
  | readRun preqnum actualLba =>
    rw [hpc] at hat
    simp only [mainStep, hpc]
    rcases readRun_sent dev io preqnum actualLba s with hrun | ⟨datas, hcount, hrun⟩
    · rw [hrun, hpc]
      exact h.at hcurrent rfl rfl rfl h.txCtrl hat
    · rw [hrun]
      refine h.at ⟨h.valid, h.outstanding, h.cbwTag, h.cswStatus, ?_⟩ rfl rfl rfl rfl
        ⟨hat.1, datas, ?_, ?_⟩
      · dsimp only
        rw [List.length_append]
        exact h.mark.trans (Nat.le_add_right ..)
      · rw [Exchange.packets]
        dsimp only
        rw [List.drop_append_of_le_length h.mark]
        have hnone : s.drive.bot.queued.drop x.mark = [] := hat.2.2
        rw [hnone, List.nil_append]
      · rw [hcount, hat.2.1]
  | readAdvanceLoad preqnum =>
    rw [hpc] at hat
    simp only [mainStep, hpc]
    exact h.at hcurrent rfl rfl rfl h.txCtrl hat
  | readAdvanceStore lba =>
    rw [hpc] at hat
    simp only [mainStep, hpc]
    obtain ⟨hread, datas, hsent, hcount⟩ := hat
    refine .closing ⟨⟨h.valid, h.outstanding, h.cbwTag, h.cswStatus, h.mark⟩, hread,
      h.writePending, h.txCtrl, Or.inl h.dataPhase, ⟨datas, hsent, ?_⟩, h.transferFlags, ?_⟩
    · rw [Exchange.Settled, h.dataPhase]
      exact ⟨hcount, h.untouched⟩
    · exact h.isRead10.trans ((Exchange.isRead10_of_dataPhase h.dataPhase).1 rfl).symm
  | _ =>
    rw [hpc] at hat
    exact hat.elim

/-- The exchange moves on in a write, with the counters as they were. -/
theorem Writing.at {pc : MainPc} {b : Bot} (h : Writing dev x b pc) {b' : Bot} {pc' : MainPc}
    (hcurrent : Current dev x b') (hread : b'.readPending = b.readPending)
    (hflags : b'.transferFlags = b.transferFlags) (htx : b'.txCtrl = b.txCtrl)
    (hqueued : b'.queued = b.queued) (hat : WritingAt x b' pc') : Ongoing dev x b' pc' :=
  .writing ⟨hcurrent, h.dataPhase, hread.trans h.readPending, hflags.trans h.transferFlags,
    htx.trans h.txCtrl, (congrArg (List.drop x.mark) hqueued).trans h.packets, hat⟩

/-- A pass stores its chunk, or reports a write error. -/
theorem writeIter_stored (dev : Device) (io : ChunkIo) {stream : WriteStream} (d : Drive)
    (hpos : 0 < stream.sectorsLeft) :
    (writeIter dev io stream d).1 = true ∧ (writeIter dev io stream d).2.bot = d.bot
      ∨ (writeIter dev io stream d).1 = false
        ∧ (writeIter dev io stream d).2.bot = WriteFailed d.bot := by
  rcases hcard : dev.outOfCard (chunkLba dev stream d) stream.chunkSectors with - | -
  · rw [writeIter_of_inCard hpos hcard]
    split
    · exact Or.inl ⟨rfl, rfl⟩
    · exact Or.inr ⟨rfl, rfl⟩
  · rw [writeIter_of_outOfCard hpos hcard]
    exact Or.inr ⟨rfl, rfl⟩

theorem WriteStream.chunkSectors_pos {stream : WriteStream} (h : 0 < stream.sectorsLeft) :
    0 < stream.chunkSectors ∧ stream.chunkSectors ≤ stream.sectorsLeft
      ∧ (stream.chunkSectors = 60 ∨ stream.chunkSectors = stream.sectorsLeft) := by
  unfold WriteStream.chunkSectors
  omega

/-- The loop is left behind its last chunk. -/
theorem StreamAt.ended {stream : WriteStream} (h : StreamAt x stream)
    (hzero : stream.sectorsLeft = 0) : x.WriteEnded := by
  have hsectors := h.sectors
  refine Or.inl ⟨h.failed, by omega, ?_⟩
  rcases hfirst : stream.firstPacket with - | -
  · have hlater := h.later hfirst
    omega
  · have hfirst := h.first hfirst
    omega

/-- What has come in when a pass has received its chunk. -/
theorem StreamAt.received {stream : WriteStream} (h : StreamAt x stream)
    (hpos : 0 < stream.sectorsLeft) :
    x.received + stream.newPackets = x.stored + stream.chunkSectors
      ∧ min x.cbw.deviceSectors 60 ≤ x.received + stream.newPackets := by
  have hsectors := h.sectors
  obtain ⟨hchunk, hle, hsize⟩ := WriteStream.chunkSectors_pos hpos
  unfold WriteStream.newPackets
  rcases hfirst : stream.firstPacket with - | -
  · have hlater := h.later hfirst
    rw [if_neg Bool.false_ne_true]
    omega
  · have hfirst := h.first hfirst
    rw [if_pos rfl]
    omega

/-- A pass whose chunk is stored. -/
theorem StreamAt.next {stream : WriteStream} (h : StreamAt x stream)
    (hpos : 0 < stream.sectorsLeft) :
    StreamAt { x with
      received := x.received + stream.newPackets
      stored := x.stored + stream.chunkSectors } stream.next := by
  have hsectors := h.sectors
  obtain ⟨hchunk, hle, -⟩ := WriteStream.chunkSectors_pos hpos
  obtain ⟨hreceived, hmin⟩ := h.received hpos
  obtain ⟨lba, htarget, hlba⟩ := h.lba
  refine ⟨?_, ⟨lba, htarget, ?_⟩, h.failed, fun hfirst => (Bool.false_ne_true hfirst).elim,
    fun _ => ⟨Nat.add_pos_right _ hchunk, hreceived, hmin⟩⟩
  · show stream.sectorsLeft - stream.chunkSectors + (x.stored + stream.chunkSectors)
      = x.cbw.deviceSectors
    omega
  · show stream.lba + UInt32.ofNat stream.chunkSectors = _
    rw [hlba, UInt32.add_assoc, ← UInt32.ofNat_add]

/-- A pass whose chunk is not stored ends the write. -/
theorem StreamAt.aborted {stream : WriteStream} (h : StreamAt x stream)
    (hpos : 0 < stream.sectorsLeft) :
    Exchange.WriteEnded { x with
      received := x.received + stream.newPackets
      failed := true } := by
  have hsectors := h.sectors
  obtain ⟨hchunk, hle, -⟩ := WriteStream.chunkSectors_pos hpos
  obtain ⟨hreceived, hmin⟩ := h.received hpos
  refine Or.inr ⟨rfl, ?_, ?_, hmin⟩
  · show x.stored < x.cbw.deviceSectors
    omega
  · show x.received + stream.newPackets ≤ x.cbw.deviceSectors
    omega

/-- **A pass of the write loop.** -/
theorem Writing.pass {stream : WriteStream} (h : Writing dev x s.drive.bot (.writeRun stream)) :
    Ongoing dev (x.pass dev io.chunk stream s.drive) (writeRun dev io stream s).drive.bot
      (writeRun dev io stream s).pc := by
  have hcurrent := h.toCurrent
  obtain ⟨hpending, hleft, hstream⟩ := h.at_
  unfold Exchange.pass writeRun
  by_cases hzero : stream.sectorsLeft = 0
  · rw [if_pos hzero, if_pos hzero]
    exact h.at hcurrent rfl rfl rfl rfl ⟨hpending, hleft, hstream.ended hzero⟩
  rw [if_neg hzero, if_neg hzero]
  have hpos : 0 < stream.sectorsLeft := Nat.pos_of_ne_zero hzero
  dsimp only
  rcases writeIter_stored dev io.chunk s.drive hpos with ⟨hstored, hbot⟩ | ⟨hstored, hbot⟩
  · rw [hstored, if_pos rfl, if_pos rfl, hbot, Bool.not_true, Bool.or_false]
    exact .writing ⟨⟨h.valid, h.outstanding, h.cbwTag, h.cswStatus, h.mark⟩, h.dataPhase,
      h.readPending, h.transferFlags, h.txCtrl, h.packets, hpending, hleft, hstream.next hpos⟩
  · rw [hstored, if_neg Bool.false_ne_true, if_neg Bool.false_ne_true, hbot, Bool.not_false,
      Bool.or_true]
    exact .writing ⟨⟨h.valid, h.outstanding, h.cbwTag, rfl, h.mark⟩, h.dataPhase,
      h.readPending, h.transferFlags, h.txCtrl, h.packets, hpending, hleft, hstream.aborted hpos⟩

/-- **`main` in a write.** -/
theorem Writing.main (h : Writing dev x s.drive.bot s.pc) :
    Ongoing dev (observe dev x s (.main io)) (mainStep dev io s).drive.bot
      (mainStep dev io s).pc := by
  have hat := h.at_
  have hcurrent := h.toCurrent
  unfold observe
  cases hpc : s.pc with
  | poll =>
    rw [hpc] at hat
    simp only [mainStep, hpc]
    rw [if_neg (by rw [h.readPending]; exact Bool.false_ne_true)]
    exact h.at hcurrent rfl rfl rfl rfl hat
  | pollWrite =>
    rw [hpc] at hat
    simp only [mainStep, hpc]
    rw [if_pos hat.1]
    exact h.at hcurrent rfl rfl rfl rfl hat
  | writeDone =>
    rw [hpc] at hat
    simp only [mainStep, hpc]
    exact h.at (hcurrent.rest .ack s.drive.bot.capacity) rfl rfl rfl rfl hat
  | pollUnlock =>
    rw [hpc] at hat
    simp only [mainStep, hpc]
    have hbusy : s.drive.bot.transferFlags ≠ .none := by
      rw [h.transferFlags]
      decide
    rw [pollUnlock_bot io hbusy, pollUnlock_pc]
    exact h.at hcurrent rfl rfl rfl rfl hat
  | writeTake =>
    rw [hpc] at hat
    simp only [mainStep, hpc]
    exact h.at ⟨h.valid, h.outstanding, h.cbwTag, h.cswStatus, h.mark⟩ rfl rfl rfl rfl
      ⟨rfl, hat.2⟩
  | writeCount =>
    rw [hpc] at hat
    simp only [mainStep, hpc]
    refine h.at hcurrent rfl rfl rfl rfl ⟨hat.1, ?_, hat.2.2⟩
    rw [Bot.transferSectors, hat.2.1]
    rfl
  | writeLba totalSectors =>
    rw [hpc] at hat
    simp only [mainStep, hpc]
    exact h.at hcurrent rfl rfl rfl rfl hat
  | writeZero totalSectors lba =>
    rw [hpc] at hat
    simp only [mainStep, hpc]
    exact h.at ⟨h.valid, h.outstanding, h.cbwTag, h.cswStatus, h.mark⟩ rfl rfl rfl rfl
      ⟨hat.1, rfl, hat.2⟩
  | writeStart totalSectors lba =>
    rw [hpc] at hat
    simp only [mainStep, hpc]
    obtain ⟨hpending, hleft, hsectors, htarget, hfirst⟩ := hat
    refine h.at hcurrent rfl rfl rfl rfl ⟨hpending, hleft, ?_, ⟨lba, htarget, ?_⟩, hfirst.failed,
      fun _ => ⟨hfirst.stored, hfirst.received⟩, fun hfalse => (Bool.false_ne_true hfalse.symm).elim⟩
    · rw [hfirst.stored, ← hsectors]
      rfl
    · rw [hfirst.stored]
      exact (UInt32.add_zero lba).symm
  | writeRun stream =>
    rw [hpc] at h
    simp only [mainStep, hpc]
    exact h.pass
  | writeCheck =>
    rw [hpc] at hat
    simp only [mainStep, hpc]
    rw [if_pos hat.2.1]
    exact h.at hcurrent rfl rfl rfl rfl ⟨hat.1, hat.2.2⟩
  | writeFlagsLoad =>
    rw [hpc] at hat
    simp only [mainStep, hpc]
    refine h.at hcurrent rfl rfl rfl rfl ⟨hat.1, ?_, hat.2⟩
    rw [h.transferFlags]
  | writeFlagsStore flags =>
    rw [hpc] at hat
    simp only [mainStep, hpc]
    obtain ⟨hpending, hflags, hended⟩ := hat
    refine .closing ⟨⟨h.valid, h.outstanding, h.cbwTag, h.cswStatus, h.mark⟩, h.readPending,
      hpending, h.txCtrl, Or.inr h.dataPhase, ⟨[], h.packets, ?_⟩, hflags⟩
    rw [Exchange.Settled, h.dataPhase]
    exact ⟨rfl, hended⟩
  | _ =>
    rw [hpc] at hat
    exact hat.elim

/-- The exchange moves on in `bot_send_csw`. -/
theorem Closing.at {pc : MainPc} {b : Bot} (h : Closing dev x b pc) {b' : Bot} {pc' : MainPc}
    (hcurrent : Current dev x b') (hread : b'.readPending = b.readPending)
    (hwrite : b'.writePending = b.writePending) (htx : b'.txCtrl = b.txCtrl)
    (hqueued : b'.queued = b.queued) (hat : ClosingAt dev x b' pc') : Ongoing dev x b' pc' := by
  obtain ⟨datas, hsent, hsettled⟩ := h.sent
  exact .closing ⟨hcurrent, hread.trans h.readPending, hwrite.trans h.writePending,
    htx.trans h.txCtrl, h.dataPhase,
    ⟨datas, (congrArg (List.drop x.mark) hqueued).trans hsent, hsettled⟩, hat⟩

/-- The CSW is handed to EP1 IN. -/
theorem Closing.ack {pc pc' : MainPc} {b : Bot} (h : Closing dev x b pc)
    (hflags : b.transferFlags = .none)
    (hbuff : b.txBuff = .csw (cswBytes x.cbw.tag (x.cswStatus dev)))
    (hpc : pc'.settled = true ∨ pc' = .readFlagsLoad) : Ongoing dev x (botQueueTx b) pc' := by
  obtain ⟨datas, hsent, hsettled⟩ := h.sent
  have hbuff' : b.txBuff = .csw (cswBytes b.cbwTag b.cswStatus) := by
    rw [hbuff, h.cbwTag, h.cswStatus]
  have hmark : x.mark ≤ (botQueueTx b).queued.length := by
    rw [botQueueTx, List.length_append]
    exact h.mark.trans (Nat.le_add_right ..)
  exact .closed ⟨⟨h.valid, h.outstanding, h.cbwTag, h.cswStatus, hmark⟩,
    ⟨h.readPending, h.writePending, hpc.imp_right fun hload => ⟨hflags, Or.inl hload⟩⟩, hflags, rfl,
    hbuff, h.toCurrent.finished hsent hsettled (congrArg (b.queued ++ [·]) hbuff')⟩

/-- **`main` in `bot_send_csw`.** -/
theorem Closing.main (h : Closing dev x s.drive.bot s.pc) :
    Ongoing dev x (mainStep dev io s).drive.bot (mainStep dev io s).pc := by
  have hat := h.at_
  have hcurrent : ∀ b', b'.cbwTag = s.drive.bot.cbwTag → b'.cswStatus = s.drive.bot.cswStatus →
      b'.queued = s.drive.bot.queued → Current dev x b' := fun b' htag hstatus hqueued =>
    ⟨h.valid, h.outstanding, htag.trans h.cbwTag, hstatus.trans h.cswStatus, hqueued ▸ h.mark⟩
  cases hpc : s.pc with
  | csw stage caller =>
    rw [hpc] at hat
    cases stage with
    | clear =>
      simp only [mainStep, hpc]
      refine h.at (hcurrent _ rfl rfl rfl) rfl rfl rfl rfl ?_
      cases caller with
      | read => exact rfl
      | write => exact rfl
    | fill =>
      obtain ⟨cmd, heq, hfill⟩ := botSendCswFill_eq s.drive.bot
      rw [h.cbwTag, h.cswStatus] at hfill
      simp only [mainStep, hpc, Sys.next, heq]
      refine h.at (hcurrent _ rfl rfl rfl) rfl rfl rfl rfl ?_
      cases caller with
      | read => exact ⟨hat, hfill⟩
      | write => exact ⟨hat, hfill⟩
    | copy =>
      simp only [mainStep, hpc]
      refine h.at (hcurrent _ rfl rfl rfl) rfl rfl rfl rfl ?_
      cases caller with
      | read => exact ⟨hat.1, congrArg InPacket.csw hat.2⟩
      | write => exact ⟨hat.1, congrArg InPacket.csw hat.2⟩
    | ack =>
      cases caller with
      | read =>
        simp only [mainStep, hpc]
        exact h.ack hat.1 hat.2 (Or.inr rfl)
      | write =>
        simp only [mainStep, hpc]
        exact h.ack hat.1 hat.2 (Or.inl rfl)
  | _ =>
    rw [hpc] at hat
    exact hat.elim

theorem observe_main_of_ne (h : ∀ stream, s.pc ≠ .writeRun stream) :
    observe dev x s (.main io) = x := by
  unfold observe
  dsimp only
  split
  · rename_i stream hpc
    exact absurd hpc (h stream)
  · rfl

theorem ReadingAt.not_writeRun {b : Bot} {pc : MainPc} (h : ReadingAt x b pc)
    (stream : WriteStream) : pc ≠ .writeRun stream := by
  rintro rfl
  exact h

theorem ClosingAt.not_writeRun {b : Bot} {pc : MainPc} (h : ClosingAt dev x b pc)
    (stream : WriteStream) : pc ≠ .writeRun stream := by
  rintro rfl
  exact h

/-- **A step of `main`** keeps an exchange within its phases. -/
theorem Ongoing.main (hinit : dev.initTxCtrl = .nak) (h : Ongoing dev x s.drive.bot s.pc) :
    Ongoing dev (observe dev x s (.main io)) (mainStep dev io s).drive.bot
      (mainStep dev io s).pc := by
  have hrest : AtRest s.drive.bot s.pc → observe dev x s (.main io) = x
      ∧ ∃ rxCtrl capacity, (mainStep dev io s).drive.bot
          = { s.drive.bot with rxCtrl := rxCtrl, capacity := capacity }
        ∧ AtRest (mainStep dev io s).drive.bot (mainStep dev io s).pc :=
    fun h => ⟨observe_main_of_ne h.not_writeRun, mainStep_atRest hinit io h⟩
  cases h with
  | idling h =>
    obtain ⟨hsame, rxCtrl, capacity, hbot, hrest⟩ := hrest h.toAtRest
    rw [hbot] at hrest
    rw [hsame, hbot]
    exact .idling ⟨hrest, h.outstanding, h.mark, h.transferFlags, h.txCtrl, h.finished⟩
  | responding h =>
    obtain ⟨hsame, rxCtrl, capacity, hbot, hrest⟩ := hrest h.toAtRest
    rw [hbot] at hrest
    rw [hsame, hbot]
    exact .responding ⟨h.toCurrent.rest rxCtrl capacity, hrest, h.dataPhase, h.untouched, h.dataOut,
      h.cswPending, h.isRead10, h.txCtrl, h.txBuff, h.sent, h.last⟩
  | halted h =>
    obtain ⟨hsame, rxCtrl, capacity, hbot, hrest⟩ := hrest h.toAtRest
    rw [hbot] at hrest
    rw [hsame, hbot]
    exact .halted ⟨h.toCurrent.rest rxCtrl capacity, hrest, h.dataPhase, h.untouched,
      h.transferFlags, h.txCtrl, h.packets⟩
  | reading h =>
    rw [observe_main_of_ne h.at_.not_writeRun]
    exact h.main
  | awaiting h =>
    obtain ⟨hsame, rxCtrl, capacity, hbot, hrest⟩ := hrest h.toAtRest
    rw [hbot] at hrest
    rw [hsame, hbot]
    exact .awaiting ⟨h.toCurrent.rest rxCtrl capacity, hrest, h.dataPhase, h.untouched,
      h.transferFlags, h.txCtrl, h.packets, h.left, h.target⟩
  | writing h => exact h.main
  | closing h =>
    rw [observe_main_of_ne h.at_.not_writeRun]
    exact h.main
  | closed h =>
    obtain ⟨hsame, rxCtrl, capacity, hbot, hrest⟩ := hrest h.toAtRest
    rw [hbot] at hrest
    rw [hsame, hbot]
    exact .closed ⟨h.toCurrent.rest rxCtrl capacity, hrest, h.transferFlags, h.txCtrl, h.txBuff,
      h.finished⟩
  | void h =>
    obtain ⟨hsame, rxCtrl, capacity, hbot, hrest⟩ := hrest h.toAtRest
    rw [hbot] at hrest
    rw [hsame, hbot]
    exact .void ⟨hrest, h.invalid, h.outstanding, h.mark, h.transferFlags, h.txCtrl, h.packets⟩

end Main

/-! ### Runs -/

/-- The exchange of a session is in one of its phases. -/
def Session.InPhase (dev : Device) (t : Session) : Prop :=
  Ongoing dev t.exchange t.sys.drive.bot t.sys.pc

theorem inPhase_init {dev : Device} (hinit : dev.initTxCtrl = .nak) (card : Card) :
    (Session.init dev card).InPhase dev :=
  .idling ⟨⟨rfl, rfl, Or.inl rfl⟩, rfl, Nat.zero_le _, rfl, hinit, Or.inl ⟨validSignature_none, rfl⟩⟩

/-- **An event of an orderly run** keeps the exchange within its phases. -/
theorem inPhase_step {dev : Device} (hinit : dev.initTxCtrl = .nak) (t : Session) (e : Event)
    (h : t.InPhase dev) (hok : Orderly t e) : (t.step dev e).InPhase dev := by
  have hoff : t.sys.usbIrq = false → (∀ io, e ≠ .main io) → (t.step dev e).InPhase dev := by
    intro hirq hne
    rw [Session.step_of_off hirq hne]
    exact h
  cases e with
  | bulkOut packet =>
    rcases hirq : t.sys.usbIrq with - | -
    · exact hoff hirq fun io => Event.noConfusion
    · have hout := Ongoing.bulkOut h hirq hok
      unfold Session.InPhase Session.step PhantomDrive.step
      dsimp only
      rw [if_pos hirq]
      exact hout
  | bulkIn =>
    rcases hirq : t.sys.usbIrq with - | -
    · exact hoff hirq fun io => Event.noConfusion
    · have hin := Ongoing.bulkIn h (hok.1 hirq)
      unfold Session.InPhase Session.step PhantomDrive.step observe
      dsimp only
      rw [if_pos hirq, if_pos hirq]
      exact hin
  | main io => exact Ongoing.main hinit h

/-- **Every orderly run stays within the phases of an exchange.** -/
theorem inPhase_run {dev : Device} (hinit : dev.initTxCtrl = .nak) (card : Card)
    {events : List Event}
    (hrun : Runs.Along (Session.step dev) Orderly (Session.init dev card) events) :
    (Runs.run (Session.step dev) (Session.init dev card) events).InPhase dev :=
  Runs.invariant (P := Session.InPhase dev) (inPhase_step hinit) (inPhase_init hinit card) hrun

end PhantomDrive
