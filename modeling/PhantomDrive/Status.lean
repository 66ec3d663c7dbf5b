/-
PhantomDrive/Status.lean

What a CBW leaves of the status of its command: `csw_status`, the tag and the endpoints
that are stalled.  From it, when a command that was just accepted can complete.

MODE SENSE(6) and MODE SENSE(10) are the two handlers that do not set `csw_status`, and
a rejected command without a data phase has no endpoint to stall.  Main results:
`scsiDispatchCommand_answered`, `canComplete_iff`.
-/
import PhantomDrive.ReadGuard

namespace PhantomDrive

/-! ### The status fields behind a handler -/

/-- The commands whose handler leaves `csw_status` as it was, unless it rejects them. -/
def ScsiCommand.keepsStatus : ScsiCommand → Bool
  | .modeSense | .modeSense2 => true
  | _ => false

/-- `csw_status` after the handler of the command. -/
def Bot.statusAfterDispatch (dev : Device) (locked : Bool) (b : Bot) : CswStatus :=
  if b.rejects dev locked then .failed
  else if b.cbwCsw.command.keepsStatus then b.cswStatus
  else .passed

/-- `scsi_handle_unsupported` sets `DATA_IN` before it stalls. -/
def Bot.stallsIn (dev : Device) (locked : Bool) (b : Bot) : Bool :=
  b.rejects dev locked && (b.transferFlags.dataIn || b.cbwCsw.command = .unsupported)

/-- A rejected command with a data-out phase. -/
def Bot.stallsOut (dev : Device) (locked : Bool) (b : Bot) : Bool :=
  b.rejects dev locked && b.transferFlags.dataOut

/-- What the handler of a command leaves of its status, beside what `Dispatched` says. -/
structure Answered (dev : Device) (locked : Bool) (b b' : Bot) : Prop where
  cbwTag : b'.cbwTag = b.cbwTag
  cswStatus : b'.cswStatus = b.statusAfterDispatch dev locked
  txCtrl : b'.txCtrl = if b.stallsIn dev locked then .stall else b.txCtrl
  rxCtrl : b'.rxCtrl = if b.stallsOut dev locked then .stall else b.rxCtrl

/-- A handler that rejects nothing stalls nothing. -/
theorem Answered.of_not_rejects {dev : Device} {locked : Bool} {b b' : Bot}
    (hrejects : b.rejects dev locked = false) (htag : b'.cbwTag = b.cbwTag)
    (hstatus : b'.cswStatus = if b.cbwCsw.command.keepsStatus then b.cswStatus else .passed)
    (htx : b'.txCtrl = b.txCtrl) (hrx : b'.rxCtrl = b.rxCtrl) : Answered dev locked b b' where
  cbwTag := htag
  cswStatus := by rw [hstatus, Bot.statusAfterDispatch, hrejects, if_neg Bool.false_ne_true]
  txCtrl := by rw [htx, Bot.stallsIn, hrejects, Bool.false_and, if_neg Bool.false_ne_true]
  rxCtrl := by rw [hrx, Bot.stallsOut, hrejects, Bool.false_and, if_neg Bool.false_ne_true]

/-- A handler that rejects its command reports it and stalls the active endpoints. -/
theorem Answered.of_rejects {dev : Device} {locked : Bool} {b b' : Bot}
    (hrejects : b.rejects dev locked = true) (htag : b'.cbwTag = b.cbwTag)
    (hstatus : b'.cswStatus = .failed)
    (htx : b'.txCtrl = if b.transferFlags.dataIn || b.cbwCsw.command = .unsupported then .stall
      else b.txCtrl)
    (hrx : b'.rxCtrl = if b.transferFlags.dataOut then .stall else b.rxCtrl) :
    Answered dev locked b b' where
  cbwTag := htag
  cswStatus := by rw [hstatus, Bot.statusAfterDispatch, hrejects, if_pos rfl]
  txCtrl := by rw [htx, Bot.stallsIn, hrejects, Bool.true_and]
  rxCtrl := by rw [hrx, Bot.stallsOut, hrejects, Bool.true_and]

/-- **The handlers and the status**, command by command. -/
theorem scsiDispatchCommand_answered (dev : Device) (locked : Bool) (b : Bot) :
    Answered dev locked b (scsiDispatchCommand dev locked b) := by
  have hrejects : b.rejects dev locked = b.rejects dev locked := rfl
  have hkeeps : b.cbwCsw.command.keepsStatus = b.cbwCsw.command.keepsStatus := rfl
  conv_rhs at hrejects => unfold Bot.rejects
  conv_rhs at hkeeps => unfold ScsiCommand.keepsStatus
  unfold scsiDispatchCommand
  rcases hcommand : b.cbwCsw.command with - | - | - | - | - | - | - | - | - | - | - | - | - | - | -
  all_goals simp only [hcommand] at hrejects hkeeps
  case inquiry =>
    rw [scsiHandleInquiry_eq]
    exact .of_not_rejects hrejects rfl (by rw [hcommand, hkeeps]; rfl) rfl rfl
  case readFormatCapacity =>
    dsimp only
    unfold scsiHandleReadFormatCapacity
    rw [scsiCopyResponseToBotBuffer_eq]
    exact .of_not_rejects hrejects rfl (by rw [hcommand, hkeeps]; rfl) rfl rfl
  case readCapacity =>
    dsimp only
    unfold scsiHandleReadCapacity
    rw [scsiCopyResponseToBotBuffer_eq]
    exact .of_not_rejects hrejects rfl (by rw [hcommand, hkeeps]; rfl) rfl rfl
  case modeSense =>
    dsimp only
    unfold scsiHandleModeSense6
    rw [scsiCopyResponseToBotBuffer_eq]
    exact .of_not_rejects hrejects rfl (by rw [hcommand, hkeeps]; rfl) rfl rfl
  case modeSense2 =>
    dsimp only
    unfold scsiHandleModeSense10
    split
    · rename_i hpage
      rw [decide_eq_true hpage] at hrejects
      rw [botStallActiveDataEndpoints_eq]
      refine .of_rejects hrejects rfl rfl ?_ rfl
      rw [hcommand, decide_eq_false ScsiCommand.noConfusion, Bool.or_false]
      rfl
    · rename_i hpage
      rw [decide_eq_false hpage] at hrejects
      rw [scsiCopyResponseToBotBuffer_eq]
      exact .of_not_rejects hrejects rfl (by rw [hcommand, hkeeps]; rfl) rfl rfl
  case read10 =>
    dsimp only
    unfold scsiHandleRead10
    dsimp only
    split
    · rename_i hhidden
      rw [hhidden] at hrejects
      rw [botStallActiveDataEndpoints_eq]
      refine .of_rejects hrejects rfl rfl ?_ rfl
      rw [hcommand, decide_eq_false ScsiCommand.noConfusion, Bool.or_false]
      rfl
    · rename_i hhidden
      rw [Bool.not_eq_true] at hhidden
      rw [hhidden] at hrejects
      exact .of_not_rejects hrejects rfl (by rw [hcommand, hkeeps]; rfl) rfl rfl
  case unsupported =>
    dsimp only
    unfold scsiHandleUnsupported
    rw [botStallActiveDataEndpoints_eq]
    refine .of_rejects hrejects rfl rfl ?_ rfl
    rw [hcommand, decide_eq_true rfl, Bool.or_true]
    rfl
  all_goals
    exact .of_not_rejects hrejects rfl (by rw [hcommand, hkeeps]; rfl) rfl rfl

/-! ### Behind a CBW -/

section Begun

variable (dev : Device) (locked : Bool) (b : Bot) (packet : List UInt8)

@[simp] theorem begun_cbwCsw : (b.begun packet).cbwCsw = .ofPacket packet := rfl

@[simp] theorem begun_cswPending : (b.begun packet).transferFlags.cswPending = true := rfl

@[simp] theorem begun_cswStatus : (b.begun packet).cswStatus = b.cswStatus := rfl

/-- With no flag left over, the data phase of a command is its own. -/
theorem begun_transferFlags (h : b.transferFlags = .none) :
    (b.begun packet).transferFlags
      = ⟨(BulkOnlyCmd.ofPacket packet).dataLen ≠ 0 && (BulkOnlyCmd.ofPacket packet).dirIn,
        (BulkOnlyCmd.ofPacket packet).dataLen ≠ 0 && !(BulkOnlyCmd.ofPacket packet).dirIn,
        true⟩ := by
  show TransferFlags.mk (b.transferFlags.dataIn || _) (b.transferFlags.dataOut || _) true = _
  rw [h]
  simp only [TransferFlags.none_dataIn, TransferFlags.none_dataOut, Bool.false_or]

end Begun

/-! ### Which commands can complete -/

/-- A command was accepted and something is left that completes it: a packet was queued, a read
is pending, data are awaited, or an endpoint is stalled with the CSW pending. -/
def CanComplete (b b' : Bot) : Prop :=
  b.queued.length < b'.queued.length ∨ b'.readPending = true ∨ b'.transferFlags.dataOut = true
    ∨ b'.transferFlags.cswPending = true ∧ (b'.txCtrl = .stall ∨ b'.rxCtrl = .stall)

/-- When the command in `packet` can complete: it has a data phase, or it is an unknown opcode,
or an endpoint is still stalled, or it is accepted and `csw_status` is PASSED behind its
handler. -/
def Bot.completes (dev : Device) (locked : Bool) (packet : List UInt8) (b : Bot) : Prop :=
  (BulkOnlyCmd.ofPacket packet).dataLen ≠ 0
    ∨ (BulkOnlyCmd.ofPacket packet).command = .unsupported
    ∨ b.txCtrl = .stall ∨ b.rxCtrl = .stall
    ∨ (b.begun packet).rejects dev locked = false
        ∧ ((BulkOnlyCmd.ofPacket packet).command.keepsStatus = true → b.cswStatus = .passed)

section Completion

variable {dev : Device} {locked : Bool} {b b' : Bot} {packet : List UInt8}

/-- Nothing is queued and nothing pending: only a stalled endpoint lets the command go on. -/
theorem canComplete_iff_stalled (hqueued : b'.queued = b.queued) (hread : b'.readPending = false)
    (hout : b'.transferFlags.dataOut = false) (hcsw : b'.transferFlags.cswPending = true) :
    CanComplete b b' ↔ b'.txCtrl = .stall ∨ b'.rxCtrl = .stall := by
  simp [CanComplete, hqueued, hread, hout, hcsw]

/-- A rejected command is left to its stalled endpoints. -/
theorem canComplete_rejected_iff (hflags : b.transferFlags = .none)
    (hread : b.readPending = false)
    (hd : Dispatched dev locked (b.begun packet) b')
    (ha : Answered dev locked (b.begun packet) b')
    (hrejects : (b.begun packet).rejects dev locked = true) :
    CanComplete b (botStartCommand dev b') ↔ b.completes dev locked packet := by
  have hb' : b'.transferFlags = ⟨false, false, true⟩ := by
    rw [hd.transferFlags, if_pos hrejects, begun_transferFlags b packet hflags]
  have hfailed : b'.cswStatus ≠ .passed := by
    rw [ha.cswStatus, Bot.statusAfterDispatch, if_pos hrejects]
    exact CswStatus.noConfusion
  have hstart : botStartCommand dev b' = b' := by
    rw [botStartCommand, hb', if_neg Bool.false_ne_true, if_neg Bool.false_ne_true,
      if_neg hfailed]
  have hqueued : b'.queued = b.queued := hd.queued
  rw [hstart, canComplete_iff_stalled hqueued (hd.readPending.trans hread) (by rw [hb'])
    (by rw [hb']), ha.txCtrl, ha.rxCtrl, Bot.stallsIn, Bot.stallsOut, hrejects,
    begun_transferFlags b packet hflags, begun_cbwCsw, Bool.true_and, Bool.true_and]
  show _ ↔ _ ∨ _ ∨ b.txCtrl = .stall ∨ b.rxCtrl = .stall ∨ _
  rw [hrejects]
  generalize (BulkOnlyCmd.ofPacket packet).dataLen = len
  generalize (BulkOnlyCmd.ofPacket packet).command = command
  have htx : (b.begun packet).txCtrl = b.txCtrl := rfl
  have hrx : (b.begun packet).rxCtrl = b.rxCtrl := rfl
  rw [htx, hrx]
  by_cases hlen : len = 0
  · by_cases hcommand : command = .unsupported
    · simp [hlen, hcommand]
    · simp [hlen, hcommand]
  · cases (BulkOnlyCmd.ofPacket packet).dirIn with
    | false => simp [hlen]
    | true => simp [hlen]

/-- An accepted command has a data phase, or depends on `csw_status`. -/
theorem canComplete_accepted_iff (hflags : b.transferFlags = .none)
    (hread : b.readPending = false)
    (hd : Dispatched dev locked (b.begun packet) b')
    (ha : Answered dev locked (b.begun packet) b')
    (hrejects : (b.begun packet).rejects dev locked = false) :
    CanComplete b (botStartCommand dev b') ↔ b.completes dev locked packet := by
  have hb' := hd.transferFlags
  rw [hrejects, if_neg Bool.false_ne_true, begun_transferFlags b packet hflags] at hb'
  have hqueued : b'.queued = b.queued := hd.queued
  by_cases hlen : (BulkOnlyCmd.ofPacket packet).dataLen = 0
  · -- no data phase: the CSW is sent if the status is PASSED
    rw [hlen] at hb'
    have hstart : botStartCommand dev b'
        = if b'.cswStatus = .passed then botSendCsw b' else b' := by
      rw [botStartCommand, hb', if_neg (by simp), if_neg (by simp)]
    have hcommand : (BulkOnlyCmd.ofPacket packet).command ≠ .unsupported := by
      intro hun
      rw [Bot.rejects, begun_cbwCsw, hun] at hrejects
      cases hrejects
    have hstatus : b'.cswStatus = .passed
        ↔ ((BulkOnlyCmd.ofPacket packet).command.keepsStatus = true → b.cswStatus = .passed) := by
      rw [ha.cswStatus, Bot.statusAfterDispatch, hrejects, if_neg Bool.false_ne_true, begun_cbwCsw]
      cases (BulkOnlyCmd.ofPacket packet).command.keepsStatus with
      | false => simp
      | true => simp
    rw [hstart]
    by_cases hpassed : b'.cswStatus = .passed
    · rw [if_pos hpassed]
      refine iff_of_true (Or.inl ?_)
        (Or.inr (Or.inr (Or.inr (Or.inr ⟨hrejects, hstatus.mp hpassed⟩))))
      show b.queued.length < (b'.queued ++ _).length
      rw [hqueued, List.length_append]
      exact Nat.lt_succ_self _
    · rw [if_neg hpassed, canComplete_iff_stalled hqueued (hd.readPending.trans hread)
        (by rw [hb']; simp) (by rw [hb']), ha.txCtrl, ha.rxCtrl, Bot.stallsIn, Bot.stallsOut,
        hrejects]
      show b.txCtrl = .stall ∨ b.rxCtrl = .stall ↔ _
      rw [hstatus] at hpassed
      simp only [Bot.completes, hlen, hcommand, hpassed, ne_eq, not_true_eq_false, and_false,
        or_false, false_or]
  · -- a data phase
    refine iff_of_true ?_ (Or.inl hlen)
    rcases hdir : (BulkOnlyCmd.ofPacket packet).dirIn with - | -
    · have hout : b'.transferFlags.dataOut = true := by
        rw [hb', hdir]
        simp [hlen]
      have hstart : botStartCommand dev b' = b' := by rw [botStartCommand, if_pos hout]
      rw [hstart]
      exact Or.inr (Or.inr (Or.inl hout))
    · have hout : b'.transferFlags.dataOut = false := by
        rw [hb', hdir]
        simp
      have hin : b'.transferFlags.dataIn = true := by
        rw [hb', hdir]
        simp [hlen]
      rw [botStartCommand, hout, if_neg Bool.false_ne_true, if_pos hin]
      split
      · exact Or.inr (Or.inl rfl)
      · obtain ⟨bytes, left, dataIn, hsends, -, -⟩ := botSendResponseData_sends dev b'
        rw [hsends]
        refine Or.inl ?_
        show b.queued.length < (b'.queued ++ _).length
        rw [hqueued, List.length_append]
        exact Nat.lt_succ_self _

/-- **Which commands can complete.**  A CBW that is taken while no flag is set and nothing is
pending leaves something to complete it exactly when it has a data phase, is an unknown opcode,
finds an endpoint stalled, or is accepted with PASSED in `csw_status`. -/
theorem canComplete_iff (dev : Device) (locked : Bool) (packet : List UInt8) (b : Bot)
    (hflags : b.transferFlags = .none) (hread : b.readPending = false)
    (hlen : packet.length = 31)
    (hvalid : (BulkOnlyCmd.ofPacket packet).validSignature = true) :
    CanComplete b (botHandleBulkOut dev locked packet b) ↔ b.completes dev locked packet := by
  have hd := scsiDispatchCommand_dispatched dev locked (b.begun packet)
  have ha := scsiDispatchCommand_answered dev locked (b.begun packet)
  have hout : b.transferFlags.dataOut = false := by rw [hflags]; rfl
  have htaken : botHandleBulkOut dev locked packet b
      = botStartCommand dev (scsiDispatchCommand dev locked (b.begun packet)) := by
    rcases botHandleBulkOut_cases dev locked packet b with
      ⟨h, -⟩ | ⟨-, h, -⟩ | ⟨-, -, h, -⟩ | ⟨-, -, -, h⟩
    · exact absurd (h.symm.trans hout) (by simp)
    · exact absurd hlen h
    · exact absurd (h.symm.trans hvalid) (by simp)
    · exact h
  rw [htaken]
  rcases hrejects : (b.begun packet).rejects dev locked with - | -
  · exact canComplete_accepted_iff hflags hread hd ha hrejects
  · exact canComplete_rejected_iff hflags hread hd ha hrejects

/-- A TEST UNIT READY on a drive that was just started is answered at once. -/
theorem canComplete_iff_testUnitReady :
    CanComplete (Sys.init sampleDevice fun _ _ => 0).drive.bot
        (botHandleBulkOut sampleDevice true (cbwPacket 0x00 0 [0x00])
          (Sys.init sampleDevice fun _ _ => 0).drive.bot)
      ↔ (Sys.init sampleDevice fun _ _ => 0).drive.bot.completes sampleDevice true
          (cbwPacket 0x00 0 [0x00]) :=
  canComplete_iff sampleDevice true (cbwPacket 0x00 0 [0x00])
    (Sys.init sampleDevice fun _ _ => 0).drive.bot rfl rfl rfl rfl

/-- MODE SENSE(10) for page 0 without a data phase, the first command of a run: rejected, with
nothing queued, pending or stalled. -/
theorem modeSense10_without_data_stuck :
    let packet := cbwPacket 0x00 0 [0x5A]
    let s := Sys.init sampleDevice fun _ _ => 0
    let s' := step sampleDevice s (.bulkOut packet)
    packet.length = 31 ∧ (BulkOnlyCmd.ofPacket packet).validSignature = true
      ∧ s.drive.bot.transferFlags = .none ∧ s.drive.bot.readPending = false
      ∧ s.drive.bot.writePending = false ∧ s'.drive.bot.transferFlags = ⟨false, false, true⟩
      ∧ ¬ CanComplete s.drive.bot s'.drive.bot := by
  refine ⟨rfl, rfl, rfl, rfl, rfl, rfl, ?_⟩
  rintro (hqueued | hread | hout | ⟨-, htx | hrx⟩)
  · exact absurd hqueued (Nat.not_lt_zero _)
  · cases hread
  · cases hout
  · cases htx
  · cases hrx

end Completion

end PhantomDrive
