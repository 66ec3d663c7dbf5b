/-
PhantomDrive/Dispatch.lean

What the two entry points of the USB interrupt can do to the transport layer, field by
field: which flags, target and length a CBW leaves behind, and which packets are queued.
The invariants of the state machine are proved from these lemmas and do not unfold the
handlers.

Main results: `botHandleBulkOut_cases`, `botHandleBulkIn_cases`, and the fields of
`scsiDispatchCommand`.
-/
import PhantomDrive.Bot

namespace PhantomDrive

/-! ### The handlers in closed form -/

theorem clampBytes_le (n left : UInt32) :
    (clampBytes n left).toNat ≤ n.toNat ∧ (clampBytes n left).toNat ≤ left.toNat := by
  unfold clampBytes
  split
  · rename_i h
    exact ⟨le_rfl, (UInt32.lt_iff_toNat_lt.mp h).le⟩
  · rename_i h
    exact ⟨UInt32.le_iff_toNat_le.mp (UInt32.not_lt.mp h), le_rfl⟩

theorem botStallActiveDataEndpoints_eq (b : Bot) :
    botStallActiveDataEndpoints b
      = { b with
          transferFlags := { b.transferFlags with dataIn := false, dataOut := false }
          txCtrl := if b.transferFlags.dataIn then .stall else b.txCtrl
          rxCtrl := if b.transferFlags.dataOut then .stall else b.rxCtrl } := by
  obtain ⟨⟨dataIn, dataOut, cswPending⟩⟩ := b
  cases dataIn <;> cases dataOut <;> rfl

theorem scsiCopyResponseToBotBuffer_eq (response : List UInt8) (n : UInt32) (b : Bot) :
    scsiCopyResponseToBotBuffer response n b
      = { b with
          transferBytesLeft := clampBytes n b.transferBytesLeft
          cbwCsw := memcpyBuf b.cbwCsw response (clampBytes n b.transferBytesLeft).toNat
          responsePtr := .cbwCsw } := by
  unfold scsiCopyResponseToBotBuffer clampBytes
  by_cases h : n < b.transferBytesLeft
  · simp only [if_pos h]
  · simp only [if_neg h]

/-! ### What a CBW leaves behind -/

/-- The opcode byte lies behind what most responses overlay, and the others overlay it with
zero. -/
theorem isRead10_memcpyBuf {cmd : BulkOnlyCmd} {response : List UInt8} {len : ℕ}
    (hcmd : cmd.isRead10 = false) (hresponse : response.getD 15 0 = 0) :
    (memcpyBuf cmd response len).isRead10 = false := by
  have hopcode : (memcpyBuf cmd response len).opcode
      = if 15 < len then response.getD 15 0 else cmd.opcode := by
    simp [BulkOnlyCmd.opcode, memcpyBuf, memcpyAt]
  rw [BulkOnlyCmd.isRead10, hopcode, hresponse]
  split
  · rfl
  · exact hcmd

theorem isRead10_setBufBe32 (cmd : BulkOnlyCmd) (at_ : ℕ) (value : UInt32) (h : at_ + 3 < 15) :
    (setBufBe32 cmd at_ value (by omega)).isRead10 = cmd.isRead10 := by
  have hopcode : (setBufBe32 cmd at_ value (by omega)).opcode = cmd.opcode := by
    unfold BulkOnlyCmd.opcode setBufBe32
    rw [Vector.getElem_set_ne _ _ (by omega), Vector.getElem_set_ne _ _ (by omega),
      Vector.getElem_set_ne _ _ (by omega), Vector.getElem_set_ne _ _ (by omega)]
  rw [BulkOnlyCmd.isRead10, hopcode, BulkOnlyCmd.isRead10]

theorem isRead10_botSendCswFill (b : Bot) :
    (botSendCswFill b).cbwCsw.isRead10 = b.cbwCsw.isRead10 := by
  have hopcode : (botSendCswFill b).cbwCsw.opcode = b.cbwCsw.opcode := by
    simp [BulkOnlyCmd.opcode, botSendCswFill]
  rw [BulkOnlyCmd.isRead10, hopcode, BulkOnlyCmd.isRead10]

/-- Only READ(10) has the opcode of READ(10). -/
theorem isRead10_eq_command (cmd : BulkOnlyCmd) :
    cmd.isRead10 = decide (cmd.command = .read10) := by
  have hopcode : ∀ op : UInt8, decide (op = 0x28) = decide (ScsiCommand.ofOpcode op = .read10) := by
    decide +kernel
  exact hopcode cmd.opcode

/-- What the handler of a command leaves of the transport layer: everything the handlers do not
touch, the flags, the target and the length, and whether the buffer still looks like READ(10). -/
structure Dispatched (dev : Device) (locked : Bool) (b b' : Bot) : Prop where
  capacity : b'.capacity = b.capacity
  packSize : b'.packSize = b.packSize
  readPending : b'.readPending = b.readPending
  writePending : b'.writePending = b.writePending
  txBuff : b'.txBuff = b.txBuff
  queued : b'.queued = b.queued
  transferFlags : b'.transferFlags
    = if b.rejects dev locked then
        { b.transferFlags with dataIn := false, dataOut := false }
      else b.transferFlags
  currentLba : b'.currentLba = if b.cbwCsw.command.isRw10 then b.cbwCsw.lba else b.currentLba
  transferBytesLeft : b'.transferBytesLeft = b.bytesAfterDispatch
  isRead10 : b'.cbwCsw.isRead10 = b.cbwCsw.isRead10

/-- **The handlers, field by field.** -/
theorem scsiDispatchCommand_dispatched (dev : Device) (locked : Bool) (b : Bot) :
    Dispatched dev locked b (scsiDispatchCommand dev locked b) := by
  have hread := isRead10_eq_command b.cbwCsw
  -- what the three functions of the statement give for each command
  have hrejects : b.rejects dev locked = b.rejects dev locked := rfl
  have hbytes : b.bytesAfterDispatch = b.bytesAfterDispatch := rfl
  have hrw : b.cbwCsw.command.isRw10 = b.cbwCsw.command.isRw10 := rfl
  conv_rhs at hrejects => unfold Bot.rejects
  conv_rhs at hbytes => unfold Bot.bytesAfterDispatch
  conv_rhs at hrw => unfold ScsiCommand.isRw10
  unfold scsiDispatchCommand
  rcases hcommand : b.cbwCsw.command with - | - | - | - | - | - | - | - | - | - | - | - | - | - | -
  all_goals
    simp only [hcommand, reduceCtorEq, decide_false, decide_true] at hread hrejects hbytes hrw
  case inquiry =>
    rw [scsiHandleInquiry_eq]
    exact ⟨rfl, rfl, rfl, rfl, rfl, rfl, by rw [hrejects]; rfl, by rw [hcommand, hrw]; rfl,
      hbytes.symm, rfl⟩
  case readFormatCapacity =>
    dsimp only
    unfold scsiHandleReadFormatCapacity
    rw [scsiCopyResponseToBotBuffer_eq]
    refine ⟨rfl, rfl, rfl, rfl, rfl, rfl, by rw [hrejects]; rfl, by rw [hcommand, hrw]; rfl,
      hbytes.symm, ?_⟩
    rw [hread]
    exact (isRead10_setBufBe32 _ 4 b.capacity (by omega)).trans (isRead10_memcpyBuf hread rfl)
  case readCapacity =>
    dsimp only
    unfold scsiHandleReadCapacity
    rw [scsiCopyResponseToBotBuffer_eq]
    refine ⟨rfl, rfl, rfl, rfl, rfl, rfl, by rw [hrejects]; rfl, by rw [hcommand, hrw]; rfl,
      hbytes.symm, ?_⟩
    rw [hread]
    exact (isRead10_setBufBe32 _ 0 (b.capacity - 1) (by omega)).trans
      (isRead10_memcpyBuf hread rfl)
  case modeSense =>
    dsimp only
    unfold scsiHandleModeSense6
    rw [scsiCopyResponseToBotBuffer_eq]
    refine ⟨rfl, rfl, rfl, rfl, rfl, rfl, by rw [hrejects]; rfl, by rw [hcommand, hrw]; rfl,
      hbytes.symm, ?_⟩
    rw [hread]
    exact (isRead10_setBufBe32 _ 4 b.capacity (by omega)).trans (isRead10_memcpyBuf hread rfl)
  case modeSense2 =>
    dsimp only
    unfold scsiHandleModeSense10
    split
    · rename_i hpage
      rw [botStallActiveDataEndpoints_eq]
      exact ⟨rfl, rfl, rfl, rfl, rfl, rfl, by rw [hrejects, decide_eq_true hpage]; rfl,
        by rw [hcommand, hrw]; rfl, by rw [hbytes, if_pos hpage]; rfl, rfl⟩
    · rename_i hpage
      rw [scsiCopyResponseToBotBuffer_eq]
      refine ⟨rfl, rfl, rfl, rfl, rfl, rfl, by rw [hrejects, decide_eq_false hpage]; rfl,
        by rw [hcommand, hrw]; rfl, by rw [hbytes, if_neg hpage], ?_⟩
      rw [hread]
      exact (isRead10_setBufBe32 _ 8 b.capacity (by omega)).trans (isRead10_memcpyBuf hread rfl)
  case read10 =>
    dsimp only
    unfold scsiHandleRead10
    dsimp only
    split
    · rename_i hhidden
      rw [botStallActiveDataEndpoints_eq]
      exact ⟨rfl, rfl, rfl, rfl, rfl, rfl, by rw [hrejects, hhidden]; rfl,
        by rw [hcommand, hrw]; rfl, hbytes.symm, rfl⟩
    · rename_i hhidden
      exact ⟨rfl, rfl, rfl, rfl, rfl, rfl, by rw [hrejects, if_neg hhidden]; rfl,
        by rw [hcommand, hrw]; rfl, hbytes.symm, rfl⟩
  case requestSense =>
    refine ⟨rfl, rfl, rfl, rfl, rfl, rfl, by rw [hrejects]; rfl, by rw [hcommand, hrw]; rfl,
      hbytes.symm, ?_⟩
    rw [hread]
    exact isRead10_memcpyBuf hread rfl
  case unsupported =>
    dsimp only
    unfold scsiHandleUnsupported
    rw [botStallActiveDataEndpoints_eq]
    exact ⟨rfl, rfl, rfl, rfl, rfl, rfl, by rw [hrejects]; rfl, by rw [hcommand, hrw]; rfl,
      hbytes.symm, rfl⟩
  all_goals
    exact ⟨rfl, rfl, rfl, rfl, rfl, rfl, by rw [hrejects]; rfl, by rw [hcommand, hrw]; rfl,
      hbytes.symm, rfl⟩

/-! ### The entry points -/

/-- A response packet is queued: what `bot_send_response_data` can do. -/
def SendsData (b b' : Bot) : Prop :=
  ∃ (bytes : List UInt8) (left : UInt32) (dataIn : Bool),
    b' = { b with
        transferBytesLeft := left
        transferFlags := { b.transferFlags with dataIn := dataIn }
        txBuff := .data bytes
        txCtrl := .ack
        queued := b.queued ++ [.data bytes] }
      ∧ left.toNat ≤ b.transferBytesLeft.toNat
      ∧ (dataIn = true → b.transferFlags.dataIn = true)

theorem botSendResponseData_sends (dev : Device) (b : Bot) :
    SendsData b (botSendResponseData dev b) := by
  unfold botSendResponseData
  split
  · rename_i hmore
    have hle : (b.transferBytesLeft - b.packSize.toUInt32).toNat ≤ b.transferBytesLeft.toNat := by
      rw [UInt32.toNat_sub_of_le _ _ (UInt32.le_of_lt hmore)]
      exact Nat.sub_le ..
    exact ⟨_, _, b.transferFlags.dataIn, rfl, hle, id⟩
  · exact ⟨_, _, false, rfl, Nat.zero_le _, fun h => by cases h⟩

/-- `bot_reject_invalid_cbw_signature` clears both data flags and stalls both endpoints. -/
theorem botRejectInvalidCbwSignature_eq (b : Bot) :
    botRejectInvalidCbwSignature b
      = { b with
          senseKey := senseKeyIllegalRequest
          senseAsc := senseAscInvalidCommand
          cswStatus := .phaseError
          transferFlags := { b.transferFlags with dataIn := false, dataOut := false }
          txCtrl := .stall
          rxCtrl := .stall } := rfl

/-- Nothing is started behind a CBW without its signature. -/
theorem botStartCommand_reject (dev : Device) (b : Bot) :
    botStartCommand dev (botRejectInvalidCbwSignature b) = botRejectInvalidCbwSignature b := by
  rw [botRejectInvalidCbwSignature_eq, botStartCommand]
  simp only [Bool.false_eq_true, if_false, reduceCtorEq]

/-- What is started behind a dispatched CBW. -/
theorem botStartCommand_cases (dev : Device) (b : Bot) :
    botStartCommand dev b = b
      ∨ b.transferFlags.dataOut = false ∧ b.transferFlags.dataIn = true
          ∧ b.cbwCsw.isRead10 = true ∧ botStartCommand dev b = { b with readPending := true }
      ∨ b.transferFlags.dataOut = false ∧ b.transferFlags.dataIn = true
          ∧ b.cbwCsw.isRead10 = false ∧ SendsData b (botStartCommand dev b)
      ∨ b.transferFlags.dataOut = false ∧ b.transferFlags.dataIn = false
          ∧ botStartCommand dev b = botSendCsw b := by
  unfold botStartCommand
  rcases hout : b.transferFlags.dataOut with - | -
  · rcases hin : b.transferFlags.dataIn with - | -
    · by_cases hpassed : b.cswStatus = .passed
      · exact Or.inr (Or.inr (Or.inr ⟨rfl, rfl, if_pos hpassed⟩))
      · exact Or.inl (if_neg hpassed)
    · rcases hread : b.cbwCsw.isRead10 with - | -
      · exact Or.inr (Or.inr (Or.inl ⟨rfl, rfl, rfl, botSendResponseData_sends dev b⟩))
      · exact Or.inr (Or.inl ⟨rfl, rfl, rfl, rfl⟩)
  · exact Or.inl rfl

/-- The transport layer when the handler of a CBW is called. -/
def Bot.begun (b : Bot) (packet : List UInt8) : Bot :=
  botBeginCbwTransfer { b with cbwCsw := .ofPacket packet }

/-- **An OUT packet** is data, a CBW with or without its signature, or dropped. -/
theorem botHandleBulkOut_cases (dev : Device) (locked : Bool) (packet : List UInt8) (b : Bot) :
    b.transferFlags.dataOut = true
        ∧ botHandleBulkOut dev locked packet b = { b with writePending := true }
      ∨ b.transferFlags.dataOut = false ∧ packet.length ≠ 31
          ∧ botHandleBulkOut dev locked packet b = b
      ∨ b.transferFlags.dataOut = false ∧ packet.length = 31
          ∧ (BulkOnlyCmd.ofPacket packet).validSignature = false
          ∧ botHandleBulkOut dev locked packet b
            = botRejectInvalidCbwSignature { b with cbwCsw := .ofPacket packet }
      ∨ b.transferFlags.dataOut = false ∧ packet.length = 31
          ∧ (BulkOnlyCmd.ofPacket packet).validSignature = true
          ∧ botHandleBulkOut dev locked packet b
            = botStartCommand dev (scsiDispatchCommand dev locked (b.begun packet)) := by
  unfold botHandleBulkOut
  rcases hout : b.transferFlags.dataOut with - | -
  case true => exact Or.inl ⟨rfl, rfl⟩
  by_cases hlen : packet.length = 31
  case neg => exact Or.inr (Or.inl ⟨rfl, hlen, if_neg hlen⟩)
  have hdispatch : botDispatchScsi dev locked { b with cbwCsw := .ofPacket packet }
      = if (BulkOnlyCmd.ofPacket packet).validSignature then
          scsiDispatchCommand dev locked (b.begun packet)
        else botRejectInvalidCbwSignature { b with cbwCsw := .ofPacket packet } := rfl
  rw [if_neg Bool.false_ne_true, if_pos hlen, hdispatch]
  rcases hvalid : (BulkOnlyCmd.ofPacket packet).validSignature with - | -
  · rw [if_neg Bool.false_ne_true]
    exact Or.inr (Or.inr (Or.inl ⟨rfl, hlen, rfl, botStartCommand_reject ..⟩))
  · rw [if_pos rfl]
    exact Or.inr (Or.inr (Or.inr ⟨rfl, hlen, rfl, rfl⟩))

/-- **An IN completion** marks the next part of a READ(10), or queues the next response packet,
or the CSW, or nothing. -/
theorem botHandleBulkIn_cases (dev : Device) (b : Bot) :
    b.transferFlags.dataIn = true ∧ b.cbwCsw.isRead10 = true
        ∧ botHandleBulkIn dev b = { b with readPending := true }
      ∨ b.transferFlags.dataIn = true ∧ b.cbwCsw.isRead10 = false
          ∧ SendsData b (botHandleBulkIn dev b)
      ∨ b.transferFlags.dataIn = false ∧ b.transferFlags.cswPending = true
          ∧ botHandleBulkIn dev b = botSendCsw b
      ∨ b.transferFlags.dataIn = false ∧ b.transferFlags.cswPending = false
          ∧ botHandleBulkIn dev b = b := by
  unfold botHandleBulkIn
  rcases hin : b.transferFlags.dataIn with - | -
  · rcases hcsw : b.transferFlags.cswPending with - | -
    · exact Or.inr (Or.inr (Or.inr ⟨rfl, rfl, rfl⟩))
    · exact Or.inr (Or.inr (Or.inl ⟨rfl, rfl, rfl⟩))
  · rcases hread : b.cbwCsw.isRead10 with - | -
    · exact Or.inr (Or.inl ⟨rfl, rfl, botSendResponseData_sends dev b⟩)
    · exact Or.inl ⟨rfl, rfl, rfl⟩

/-! ### What no interrupt touches -/

/-- What the interrupt leaves alone. -/
structure SameSetup (b b' : Bot) : Prop where
  capacity : b'.capacity = b.capacity
  packSize : b'.packSize = b.packSize

theorem SendsData.sameSetup {b b' : Bot} (h : SendsData b b') : SameSetup b b' := by
  obtain ⟨bytes, left, dataIn, rfl, -, -⟩ := h
  exact ⟨rfl, rfl⟩

theorem botStartCommand_sameSetup (dev : Device) (b : Bot) :
    SameSetup b (botStartCommand dev b) := by
  rcases botStartCommand_cases dev b with h | ⟨-, -, -, h⟩ | ⟨-, -, -, h⟩ | ⟨-, -, h⟩
  · rw [h]
    exact ⟨rfl, rfl⟩
  · rw [h]
    exact ⟨rfl, rfl⟩
  · exact h.sameSetup
  · rw [h]
    exact ⟨rfl, rfl⟩

theorem botHandleBulkOut_sameSetup (dev : Device) (locked : Bool) (packet : List UInt8) (b : Bot) :
    SameSetup b (botHandleBulkOut dev locked packet b) := by
  rcases botHandleBulkOut_cases dev locked packet b with
    ⟨-, h⟩ | ⟨-, -, h⟩ | ⟨-, -, -, h⟩ | ⟨-, -, -, h⟩
  · rw [h]
    exact ⟨rfl, rfl⟩
  · rw [h]
    exact ⟨rfl, rfl⟩
  · rw [h]
    exact ⟨rfl, rfl⟩
  · have hdispatch := scsiDispatchCommand_dispatched dev locked (b.begun packet)
    have hstart := botStartCommand_sameSetup dev
      (scsiDispatchCommand dev locked (b.begun packet))
    rw [h]
    exact ⟨hstart.capacity.trans hdispatch.capacity, hstart.packSize.trans hdispatch.packSize⟩

theorem botHandleBulkIn_sameSetup (dev : Device) (b : Bot) :
    SameSetup b (botHandleBulkIn dev b) := by
  rcases botHandleBulkIn_cases dev b with ⟨-, -, h⟩ | ⟨-, -, h⟩ | ⟨-, -, h⟩ | ⟨-, -, h⟩
  · rw [h]
    exact ⟨rfl, rfl⟩
  · exact h.sameSetup
  · rw [h]
    exact ⟨rfl, rfl⟩
  · rw [h]
    exact ⟨rfl, rfl⟩

end PhantomDrive
