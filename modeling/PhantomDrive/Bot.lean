/-
PhantomDrive/Bot.lean

`bot_state.h`, `bot_state.c`, `scsi_tables.c` and `bot.c`: the Bulk-Only Transport
layer.  Its state, its constants and the fixed SCSI responses; CBW parsing, the SCSI
handlers, the response and status packets, and the two entry points of the USB
interrupt, `bot_handle_bulk_in` and `bot_handle_bulk_out`.

`Bot` collects everything the handlers of `bot.c` read and write: the fields of
`g_bot`, the 31-byte buffer `g_cbw_csw` that the CBW, the responses and the CSW
overlay, the response pointer and the response fields of endpoint 1.  `queued` is
a record kept for the proofs: every packet handed to EP1 IN so far, in order.

Every function of the source is a function on `Bot`.  Two things it reads from
elsewhere are arguments: the device (`LOCKED_SECTORS`, the RAM behind a response)
and whether `phantomdrive_is_locked()` holds.

At the end what a command asks for, said without the handlers: its tag and its CSW,
whether it is rejected, what is left to transfer, and its response.
-/
import PhantomDrive.Crypto

namespace PhantomDrive

/-! ### The device -/

/-- What `g_response_ptr` may point to. -/
inductive ResponsePtr
  | null
  | cbwCsw
  | inquiry
deriving DecidableEq, Repr

/-- What is fixed for a device in one power cycle: the build options, the card size
`SDCardInit` found, the unique id, the cipher engine, the RAM that follows the
objects a response may be read from and what the USB driver resets endpoint 1 to. -/
structure Device where
  /-- `LOCKED_SECTORS`. -/
  lockedSectors : UInt32
  /-- `TF_EMMCParam.EMMCSecNum`. -/
  emmcSecNum : UInt32
  uniqueId : UInt64
  /-- `KDF_ROUNDS`. -/
  kdfRounds : ℕ
  aesMode : AesMode
  ecdc : Ecdc
  /-- The byte at an offset past the end of the object a pointer points to. -/
  ram : ResponsePtr → ℕ → UInt8
  /-- The response fields of endpoint 1 after `USB20_Device_Init(ENABLE)`. -/
  initTxCtrl : EpResponse
  initRxCtrl : EpResponse

/-! ### Status and flags -/

/-- `CSW_STATUS_*`. -/
inductive CswStatus
  | passed
  | failed
  | phaseError
deriving DecidableEq, Repr

def CswStatus.byte : CswStatus → UInt8
  | passed => 0x00
  | failed => 0x01
  | phaseError => 0x02

/-- `transfer_flags`, bit by bit: `BOT_FLAG_DATA_IN`, `BOT_FLAG_DATA_OUT` and
`BOT_FLAG_CSW_PENDING`. -/
structure TransferFlags where
  dataIn : Bool
  dataOut : Bool
  cswPending : Bool
deriving DecidableEq, Repr

/-- `transfer_flags = 0`. -/
def TransferFlags.none : TransferFlags := ⟨false, false, false⟩

@[simp] theorem TransferFlags.none_dataIn : TransferFlags.none.dataIn = false := rfl
@[simp] theorem TransferFlags.none_dataOut : TransferFlags.none.dataOut = false := rfl
@[simp] theorem TransferFlags.none_cswPending : TransferFlags.none.cswPending = false := rfl

def senseKeyNoError : UInt8 := 0x00
def senseAscNoError : UInt8 := 0x00
def senseKeyMediumError : UInt8 := 0x03
def senseAscWriteError : UInt8 := 0x0C
def senseKeyIllegalRequest : UInt8 := 0x05
def senseAscInvalidCommand : UInt8 := 0x20
def senseAscLbaOutOfRange : UInt8 := 0x21

/-! ### The command block wrapper -/

/-- `BULK_ONLY_CMD`: the 31 bytes that the CBW, the responses and the CSW share. -/
abbrev BulkOnlyCmd := Vector UInt8 31

/-- `mCBW_CB_Buf[0]`. -/
def BulkOnlyCmd.opcode (cmd : BulkOnlyCmd) : UInt8 := cmd[15]

/-- `dCBWDataTransferLength`, little-endian. -/
def BulkOnlyCmd.dataLen (cmd : BulkOnlyCmd) : UInt32 := wordOfBytes cmd[8] cmd[9] cmd[10] cmd[11]

/-- Bit 7 of `mCBW_Flag`: the data phase, if any, goes to the host. -/
def BulkOnlyCmd.dirIn (cmd : BulkOnlyCmd) : Bool := cmd[12] &&& 0x80 ≠ 0

/-- The LBA of a READ(10) or WRITE(10) CDB: `mCBW_CB_Buf[2..5]`, big-endian. -/
def BulkOnlyCmd.lba (cmd : BulkOnlyCmd) : UInt32 := wordOfBytes cmd[20] cmd[19] cmd[18] cmd[17]

/-- The block count of a READ(10) or WRITE(10) CDB: `mCBW_CB_Buf[7..8]`, big-endian. -/
def BulkOnlyCmd.blockCount (cmd : BulkOnlyCmd) : UInt32 :=
  (cmd[22].toUInt32 <<< 8) + cmd[23].toUInt32

/-- `'U' 'S' 'B' 'C'`. -/
def BulkOnlyCmd.validSignature (cmd : BulkOnlyCmd) : Bool :=
  cmd[0] = 0x55 && cmd[1] = 0x53 && cmd[2] = 0x42 && cmd[3] = 0x43

/-- The first 31 bytes of a packet as a CBW. -/
def BulkOnlyCmd.ofPacket (pbuf : List UInt8) : BulkOnlyCmd :=
  Vector.ofFn fun i => pbuf.getD i 0

/-! ### SCSI tables -/

/-- The initial `g_inquiry_response`. -/
def gInquiryResponse : Vector UInt8 36 := #v[
  0x00, 0x80, 0x02, 0x02, 0x1F, 0x00, 0x00, 0x00,
  0x52, 0x4B, 0x6C, 0x61, 0x62, 0x73, 0x20, 0x20,
  0x50, 0x68, 0x61, 0x6E, 0x74, 0x6F, 0x6D, 0x64,
  0x72, 0x69, 0x76, 0x65, 0x20, 0x20, 0x20, 0x20,
  0x31, 0x2E, 0x30, 0x20]

/-- `scsi_inquiry_set_field`: the text up to its NUL, padded with blanks. -/
def scsiInquirySetField (response : Vector UInt8 36) (offset length : ℕ) (text : List UInt8) :
    Vector UInt8 36 :=
  Vector.ofFn fun i =>
    if offset ≤ i.val ∧ i.val < offset + length then
      (text.takeWhile (· ≠ 0)).getD (i - offset) 0x20
    else response[i]

/-- `scsi_inquiry_set_identity`. -/
def scsiInquirySetIdentity (response : Vector UInt8 36) (vendor product : List UInt8) :
    Vector UInt8 36 :=
  scsiInquirySetField (scsiInquirySetField response 8 8 vendor) 16 16 product

/-- `g_format_capacity_response`. -/
def gFormatCapacityResponse : List UInt8 :=
  [0x00, 0x00, 0x00, 0x08, 0x00, 0x00, 0x00, 0x40, 0x02, 0x00, 0x02, 0x00]

/-- `g_read_capacity_response`. -/
def gReadCapacityResponse : List UInt8 :=
  [0x00, 0x00, 0x00, 0x3F, 0x00, 0x00, 0x02, 0x00]

/-- `g_mode_sense6_response`. -/
def gModeSense6Response : List UInt8 :=
  [0x0B, 0x00, 0x00, 0x08, 0x00, 0x00, 0x00, 0x3F, 0x00, 0x00, 0x02, 0x00]

/-- `g_mode_sense10_response`. -/
def gModeSense10Response : List UInt8 :=
  [0x00, 0x0E, 0x00, 0x00, 0x00, 0x00, 0x00, 0x08,
   0x00, 0x00, 0x00, 0x3F, 0x00, 0x00, 0x02, 0x00]

/-! ### The state of the transport layer -/

/-- A packet in `endp1Tbuff`: response or sector data, or a CSW. -/
inductive InPacket
  | data (bytes : List UInt8)
  | csw (bytes : List UInt8)
deriving DecidableEq, Repr

structure Bot where
  transferFlags : TransferFlags
  capacity : UInt32
  cbwTag : Vector UInt8 4
  senseKey : UInt8
  senseAsc : UInt8
  cswStatus : CswStatus
  transferBytesLeft : UInt32
  currentLba : UInt32
  sectorsDone : UInt16
  packSize : UInt16
  readPending : Bool
  writePending : Bool
  /-- `g_cbw_csw`. -/
  cbwCsw : BulkOnlyCmd
  /-- `g_response_ptr`. -/
  responsePtr : ResponsePtr
  inquiryResponse : Vector UInt8 36
  /-- The response field of `R8_UEP1_TX_CTRL`. -/
  txCtrl : EpResponse
  /-- The response field of `R8_UEP1_RX_CTRL`. -/
  rxCtrl : EpResponse
  /-- `endp1Tbuff` up to `R16_UEP1_T_LEN`. -/
  txBuff : InPacket
  queued : List InPacket

/-- `g_bot` and the buffers as the C start-up code leaves them: `pack_size` is the
sector size, everything else is zero. -/
def Bot.init : Bot where
  transferFlags := .none
  capacity := 0
  cbwTag := Vector.replicate 4 0
  senseKey := 0
  senseAsc := 0
  cswStatus := .passed
  transferBytesLeft := 0
  currentLba := 0
  sectorsDone := 0
  packSize := 512
  readPending := false
  writePending := false
  cbwCsw := Vector.replicate 31 0
  responsePtr := .null
  inquiryResponse := gInquiryResponse
  txCtrl := .nak
  rxCtrl := .ack
  txBuff := .data []
  queued := []

/-- `scsi_inquiry_set_identity` does not change the identity the table already holds. -/
example : scsiInquirySetIdentity gInquiryResponse
    [0x52, 0x4B, 0x6C, 0x61, 0x62, 0x73]
    [0x50, 0x68, 0x61, 0x6E, 0x74, 0x6F, 0x6D, 0x64, 0x72, 0x69, 0x76, 0x65]
      = gInquiryResponse := by
  decide +kernel

/-! ### Sense data and endpoint stalls -/

/-- `bot_set_sense`. -/
def botSetSense (key asc : UInt8) (status : CswStatus) (b : Bot) : Bot :=
  { b with senseKey := key, senseAsc := asc, cswStatus := status }

/-- `bot_stall_active_data_endpoints`. -/
def botStallActiveDataEndpoints (b : Bot) : Bot :=
  let b :=
    if b.transferFlags.dataIn then
      { b with txCtrl := .stall, transferFlags := { b.transferFlags with dataIn := false } }
    else b
  if b.transferFlags.dataOut then
    { b with rxCtrl := .stall, transferFlags := { b.transferFlags with dataOut := false } }
  else b

/-! ### Packets to the host -/

/-- Hand `endp1Tbuff` to EP1 IN: `R8_UEP1_TX_CTRL` to ACK. -/
def botQueueTx (b : Bot) : Bot :=
  { b with txCtrl := .ack, queued := b.queued ++ [b.txBuff] }

/-- The object `g_response_ptr` points to. -/
def Bot.responseObject (b : Bot) : List UInt8 :=
  match b.responsePtr with
  | .null => []
  | .cbwCsw => b.cbwCsw.toList
  | .inquiry => b.inquiryResponse.toList

/-- `len` bytes read from `g_response_ptr`: its object, then the RAM behind it. -/
def Bot.responseBytes (dev : Device) (b : Bot) (len : ℕ) : List UInt8 :=
  (List.range len).map fun i => b.responseObject.getD i (dev.ram b.responsePtr i)

/-- `bot_send_response_data`. -/
def botSendResponseData (dev : Device) (b : Bot) : Bot :=
  if b.packSize.toUInt32 < b.transferBytesLeft then
    botQueueTx { b with
      transferBytesLeft := b.transferBytesLeft - b.packSize.toUInt32
      txBuff := .data (b.responseBytes dev b.packSize.toNat) }
  else
    botQueueTx { b with
      transferBytesLeft := 0
      transferFlags := { b.transferFlags with dataIn := false }
      txBuff := .data (b.responseBytes dev b.transferBytesLeft.toNat) }

/-- `bot_send_csw`, first statement: `transfer_flags = 0`. -/
def botSendCswClear (b : Bot) : Bot := { b with transferFlags := .none }

/-- `bot_send_csw`: the `mCSW` fields. -/
def botSendCswFill (b : Bot) : Bot :=
  { b with
    cbwCsw := ((((((((((((b.cbwCsw.set 0 0x55).set 1 0x53).set 2 0x42).set 3 0x53).set 4
      b.cbwTag[0]).set 5 b.cbwTag[1]).set 6 b.cbwTag[2]).set 7 b.cbwTag[3]).set 8 0x00).set 9
      0x00).set 10 0x00).set 11 0x00).set 12 b.cswStatus.byte }

/-- `bot_send_csw`: copy `CSW_SIZE` = 13 bytes to `endp1Tbuff` and set the length. -/
def botSendCswCopy (b : Bot) : Bot :=
  { b with txBuff := .csw (b.cbwCsw.toList.take 13) }

/-- `bot_send_csw`. -/
def botSendCsw (b : Bot) : Bot :=
  botQueueTx (botSendCswCopy (botSendCswFill (botSendCswClear b)))

/-! ### Command block wrappers -/

/-- `bot_begin_cbw_transfer`.  The flags are or-ed in: what an earlier command left
set stays set. -/
def botBeginCbwTransfer (b : Bot) : Bot :=
  let cmd := b.cbwCsw
  { b with
    cbwTag := #v[cmd[4], cmd[5], cmd[6], cmd[7]]
    transferBytesLeft := cmd.dataLen
    transferFlags :=
      { dataIn := b.transferFlags.dataIn || (cmd.dataLen ≠ 0 && cmd.dirIn)
        dataOut := b.transferFlags.dataOut || (cmd.dataLen ≠ 0 && !cmd.dirIn)
        cswPending := true } }

/-- `bot_reject_invalid_cbw_signature`. -/
def botRejectInvalidCbwSignature (b : Bot) : Bot :=
  let b := botSetSense senseKeyIllegalRequest senseAscInvalidCommand .phaseError b
  botStallActiveDataEndpoints
    { b with transferFlags := { b.transferFlags with dataIn := true, dataOut := true } }

/-! ### SCSI handlers -/

/-- `memcpy(dst, src, len)` into the start of `g_cbw_csw.buf`. -/
def memcpyBuf (dst : BulkOnlyCmd) (src : List UInt8) (len : ℕ) : BulkOnlyCmd :=
  memcpyAt dst 0 src len

/-- `scsi_copy_response_to_bot_buffer`. -/
def scsiCopyResponseToBotBuffer (response : List UInt8) (responseSize : UInt32) (b : Bot) : Bot :=
  let b :=
    if responseSize < b.transferBytesLeft then { b with transferBytesLeft := responseSize } else b
  { b with
    cbwCsw := memcpyBuf b.cbwCsw response b.transferBytesLeft.toNat
    responsePtr := .cbwCsw }

/-- `read10_accesses_hidden_sd_sectors`. -/
def read10AccessesHiddenSdSectors (dev : Device) (b : Bot) : Bool :=
  let lba := b.currentLba
  let sectorCount := b.transferBytesLeft / 512
  if sectorCount = 0 then false
  else if dev.lockedSectors ≤ lba then true
  else dev.lockedSectors - lba < sectorCount

/-- `scsi_parse_rw10_cdb`. -/
def scsiParseRw10Cdb (b : Bot) : Bot :=
  botSetSense senseKeyNoError senseAscNoError .passed
    { b with
      currentLba := b.cbwCsw.lba
      transferBytesLeft := b.cbwCsw.blockCount * 512
      sectorsDone := 0 }

/-- `scsi_handle_inquiry`. -/
def scsiHandleInquiry (b : Bot) : Bot :=
  let b := if 36 < b.transferBytesLeft then { b with transferBytesLeft := 36 } else b
  botSetSense senseKeyNoError senseAscNoError .passed
    { b with inquiryResponse := b.inquiryResponse.set 0 0x00, responsePtr := .inquiry }

/-- `g_cbw_csw.buf[at .. at + 3] = value`, most significant byte first. -/
def setBufBe32 (cmd : BulkOnlyCmd) (at_ : ℕ) (value : UInt32) (h : at_ + 3 < 31) : BulkOnlyCmd :=
  (((cmd.set at_ (wordByte value 3)).set (at_ + 1) (wordByte value 2)).set (at_ + 2)
    (wordByte value 1)).set (at_ + 3) (wordByte value 0)

/-- `scsi_handle_read_format_capacity`. -/
def scsiHandleReadFormatCapacity (b : Bot) : Bot :=
  let b := scsiCopyResponseToBotBuffer gFormatCapacityResponse 0x0C b
  botSetSense senseKeyNoError senseAscNoError .passed
    { b with cbwCsw := setBufBe32 b.cbwCsw 4 b.capacity (by decide) }

/-- `scsi_handle_read_capacity`: the final valid LBA, not the sector count. -/
def scsiHandleReadCapacity (b : Bot) : Bot :=
  let b := scsiCopyResponseToBotBuffer gReadCapacityResponse 0x08 b
  botSetSense senseKeyNoError senseAscNoError .passed
    { b with cbwCsw := setBufBe32 b.cbwCsw 0 (b.capacity - 1) (by decide) }

/-- `scsi_handle_read10`. -/
def scsiHandleRead10 (dev : Device) (locked : Bool) (b : Bot) : Bot :=
  let b := scsiParseRw10Cdb b
  if locked && read10AccessesHiddenSdSectors dev b then
    botStallActiveDataEndpoints
      (botSetSense senseKeyIllegalRequest senseAscLbaOutOfRange .failed b)
  else b

/-- `scsi_handle_write10`. -/
def scsiHandleWrite10 (b : Bot) : Bot := scsiParseRw10Cdb b

/-- `scsi_handle_write_and_verify10`. -/
def scsiHandleWriteAndVerify10 (b : Bot) : Bot := scsiHandleWrite10 b

/-- `scsi_handle_mode_sense6`.  Sense and status are left as they were. -/
def scsiHandleModeSense6 (b : Bot) : Bot :=
  let b := scsiCopyResponseToBotBuffer gModeSense6Response 0x0C b
  { b with cbwCsw := setBufBe32 b.cbwCsw 4 b.capacity (by decide) }

/-- `scsi_handle_mode_sense10`. -/
def scsiHandleModeSense10 (b : Bot) : Bot :=
  if b.cbwCsw[17] ≠ 0x3F then
    botStallActiveDataEndpoints
      (botSetSense senseKeyIllegalRequest senseAscInvalidCommand .failed b)
  else
    let b := scsiCopyResponseToBotBuffer gModeSense10Response 0x10 b
    { b with cbwCsw := setBufBe32 b.cbwCsw 8 b.capacity (by decide) }

/-- The 18 bytes of `ReqSense`. -/
def reqSense (key asc : UInt8) : List UInt8 :=
  [0x70, 0x00, key, 0x00, 0x00, 0x00, 0x00, 0x0A, 0x00,
   0x00, 0x00, 0x00, asc, 0x00, 0x00, 0x00, 0x00, 0x00]

/-- `scsi_handle_request_sense`.  `transfer_bytes_left` stays the host length. -/
def scsiHandleRequestSense (b : Bot) : Bot :=
  { b with
    cbwCsw := memcpyBuf b.cbwCsw (reqSense b.senseKey b.senseAsc) 18
    responsePtr := .cbwCsw
    cswStatus := .passed }

/-- The handlers that only report success: `scsi_handle_test_unit_ready`,
`scsi_handle_prevent_allow_removal`, `scsi_handle_verify10`,
`scsi_handle_start_stop_unit` and `scsi_handle_synchronize_cache`. -/
def scsiHandleNoData (b : Bot) : Bot :=
  botSetSense senseKeyNoError senseAscNoError .passed b

def scsiHandleTestUnitReady (b : Bot) : Bot := scsiHandleNoData b
def scsiHandlePreventAllowRemoval (b : Bot) : Bot := scsiHandleNoData b
def scsiHandleVerify10 (b : Bot) : Bot := scsiHandleNoData b
def scsiHandleStartStopUnit (b : Bot) : Bot := scsiHandleNoData b
def scsiHandleSynchronizeCache (b : Bot) : Bot := scsiHandleNoData b

/-- `scsi_handle_unsupported`. -/
def scsiHandleUnsupported (b : Bot) : Bot :=
  let b := botSetSense senseKeyIllegalRequest senseAscInvalidCommand .failed b
  botStallActiveDataEndpoints { b with transferFlags := { b.transferFlags with dataIn := true } }

/-- The cases of the `switch` of `scsi_dispatch_command`. -/
inductive ScsiCommand
  | inquiry | readFormatCapacity | readCapacity | read10 | write10 | wrVerify10
  | modeSense | modeSense2 | requestSense | testReady | prevtRemove | verify10
  | startStop | syncCache | unsupported
deriving DecidableEq, Repr

/-- The case an opcode selects: `CMD_U_INQUIRY`, `CMD_U_READ_FORMAT_CAPACITY`, .. -/
def ScsiCommand.ofOpcode (op : UInt8) : ScsiCommand :=
  if op = 0x12 then inquiry
  else if op = 0x23 then readFormatCapacity
  else if op = 0x25 then readCapacity
  else if op = 0x28 then read10
  else if op = 0x2A then write10
  else if op = 0x2E then wrVerify10
  else if op = 0x1A then modeSense
  else if op = 0x5A then modeSense2
  else if op = 0x03 then requestSense
  else if op = 0x00 then testReady
  else if op = 0x1E then prevtRemove
  else if op = 0x2F then verify10
  else if op = 0x1B then startStop
  else if op = 0x35 then syncCache
  else unsupported

/-- The command of a CBW. -/
def BulkOnlyCmd.command (cmd : BulkOnlyCmd) : ScsiCommand := ScsiCommand.ofOpcode cmd.opcode

/-- `mCBW_CB_Buf[0] == CMD_U_READ10`. -/
def BulkOnlyCmd.isRead10 (cmd : BulkOnlyCmd) : Bool := cmd.opcode = 0x28

/-- `scsi_dispatch_command`. -/
def scsiDispatchCommand (dev : Device) (locked : Bool) (b : Bot) : Bot :=
  match b.cbwCsw.command with
  | .inquiry => scsiHandleInquiry b
  | .readFormatCapacity => scsiHandleReadFormatCapacity b
  | .readCapacity => scsiHandleReadCapacity b
  | .read10 => scsiHandleRead10 dev locked b
  | .write10 => scsiHandleWrite10 b
  | .wrVerify10 => scsiHandleWriteAndVerify10 b
  | .modeSense => scsiHandleModeSense6 b
  | .modeSense2 => scsiHandleModeSense10 b
  | .requestSense => scsiHandleRequestSense b
  | .testReady => scsiHandleTestUnitReady b
  | .prevtRemove => scsiHandlePreventAllowRemoval b
  | .verify10 => scsiHandleVerify10 b
  | .startStop => scsiHandleStartStopUnit b
  | .syncCache => scsiHandleSynchronizeCache b
  | .unsupported => scsiHandleUnsupported b

/-- `bot_dispatch_scsi`. -/
def botDispatchScsi (dev : Device) (locked : Bool) (b : Bot) : Bot :=
  if b.cbwCsw.validSignature then scsiDispatchCommand dev locked (botBeginCbwTransfer b)
  else botRejectInvalidCbwSignature b

/-! ### The entry points of the USB interrupt -/

/-- `bot_handle_bulk_in`. -/
def botHandleBulkIn (dev : Device) (b : Bot) : Bot :=
  if b.transferFlags.dataIn then
    if b.cbwCsw.isRead10 then { b with readPending := true } else botSendResponseData dev b
  else if b.transferFlags.cswPending then botSendCsw b
  else b

/-- The end of `bot_handle_bulk_out`: what is started right after a CBW was dispatched. -/
def botStartCommand (dev : Device) (b : Bot) : Bot :=
  if b.transferFlags.dataOut then b
  else if b.transferFlags.dataIn then
    if b.cbwCsw.isRead10 then { b with readPending := true } else botSendResponseData dev b
  else if b.cswStatus = .passed then botSendCsw b
  else b

/-- `bot_handle_bulk_out`. -/
def botHandleBulkOut (dev : Device) (locked : Bool) (pbuf : List UInt8) (b : Bot) : Bot :=
  if b.transferFlags.dataOut then { b with writePending := true }
  else if pbuf.length = 31 then
    botStartCommand dev (botDispatchScsi dev locked { b with cbwCsw := .ofPacket pbuf })
  else b

/-! ### What a command asks for -/

/-- `dCBWTag`. -/
def BulkOnlyCmd.tag (cmd : BulkOnlyCmd) : Vector UInt8 4 := #v[cmd[4], cmd[5], cmd[6], cmd[7]]

/-- The CSW of a command: its signature, the tag, no residue, the status. -/
def cswBytes (tag : Vector UInt8 4) (status : CswStatus) : List UInt8 :=
  [0x55, 0x53, 0x42, 0x53, tag[0], tag[1], tag[2], tag[3], 0x00, 0x00, 0x00, 0x00, status.byte]

/-- The commands whose CDB is parsed by `scsi_parse_rw10_cdb`. -/
def ScsiCommand.isRw10 : ScsiCommand → Bool
  | .read10 | .write10 | .wrVerify10 => true
  | _ => false

/-- The command is answered with a stall: a read of hidden sectors while locked, a page of
MODE SENSE(10) other than `0x3F`, an unknown opcode. -/
def Bot.rejects (dev : Device) (locked : Bool) (b : Bot) : Bool :=
  match b.cbwCsw.command with
  | .read10 => locked && read10AccessesHiddenSdSectors dev (scsiParseRw10Cdb b)
  | .modeSense2 => b.cbwCsw[17] ≠ 0x3F
  | .unsupported => true
  | _ => false

/-- `if (left > n) left = n`. -/
def clampBytes (n left : UInt32) : UInt32 := if n < left then n else left

/-- `transfer_bytes_left` after the handler of the command. -/
def Bot.bytesAfterDispatch (b : Bot) : UInt32 :=
  match b.cbwCsw.command with
  | .read10 | .write10 | .wrVerify10 => b.cbwCsw.blockCount * 512
  | .inquiry => clampBytes 36 b.transferBytesLeft
  | .readFormatCapacity | .modeSense => clampBytes 12 b.transferBytesLeft
  | .readCapacity => clampBytes 8 b.transferBytesLeft
  | .modeSense2 =>
      if b.cbwCsw[17] ≠ 0x3F then b.transferBytesLeft else clampBytes 16 b.transferBytesLeft
  | _ => b.transferBytesLeft

theorem scsiHandleInquiry_eq (b : Bot) :
    scsiHandleInquiry b
      = botSetSense senseKeyNoError senseAscNoError .passed
        { b with
          transferBytesLeft := clampBytes 36 b.transferBytesLeft
          inquiryResponse := b.inquiryResponse.set 0 0x00
          responsePtr := .inquiry } := by
  unfold scsiHandleInquiry clampBytes
  by_cases h : 36 < b.transferBytesLeft
  · simp only [if_pos h]
  · simp only [if_neg h]

/-! ### The responses -/

/-- A response with a value at an offset, most significant byte first. -/
def setBe32 (response : List UInt8) (at_ : ℕ) (value : UInt32) : List UInt8 :=
  (((response.set at_ (wordByte value 3)).set (at_ + 1) (wordByte value 2)).set (at_ + 2)
    (wordByte value 1)).set (at_ + 3) (wordByte value 0)

@[simp] theorem length_setBe32 (response : List UInt8) (at_ : ℕ) (value : UInt32) :
    (setBe32 response at_ value).length = response.length := by
  simp [setBe32]

/-- The response of a command: its table with the capacity in it, the identity, or the stored
sense.  A command that is rejected or that defines no data has none. -/
def Bot.response (cmd : BulkOnlyCmd) (b : Bot) : List UInt8 :=
  match cmd.command with
  | .inquiry => (b.inquiryResponse.set 0 0x00).toList
  | .readFormatCapacity => setBe32 gFormatCapacityResponse 4 b.capacity
  | .readCapacity => setBe32 gReadCapacityResponse 0 (b.capacity - 1)
  | .modeSense => setBe32 gModeSense6Response 4 b.capacity
  | .modeSense2 => if cmd[17] ≠ 0x3F then [] else setBe32 gModeSense10Response 8 b.capacity
  | .requestSense => reqSense b.senseKey b.senseAsc
  | _ => []

/-- `R`: the length of the response. -/
theorem length_response (cmd : BulkOnlyCmd) (b : Bot) :
    (b.response cmd).length
      = match cmd.command with
        | .inquiry => 36
        | .readFormatCapacity | .modeSense => 12
        | .readCapacity => 8
        | .modeSense2 => if cmd[17] ≠ 0x3F then 0 else 16
        | .requestSense => 18
        | _ => 0 := by
  unfold Bot.response
  rcases cmd.command with - | - | - | - | - | - | - | - | - | - | - | - | - | - | -
  case modeSense2 =>
    dsimp only
    split
    · rfl
    · exact length_setBe32 ..
  all_goals simp [gFormatCapacityResponse, gReadCapacityResponse, gModeSense6Response, reqSense]

end PhantomDrive
