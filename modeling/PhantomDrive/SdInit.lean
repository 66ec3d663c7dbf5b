/-
PhantomDrive/SdInit.lean

`sd.c`: how `SDCardInit` brings the card from power-up to the transfer state.

The driver functions that send a command and wait for the controller are not part of the
repository, and the card is not either: the code is a program that asks, and what it is
answered is the partner's choice.  A command sent is one request, its reply the first
status of `CheckCMDComp` that is not `CMD_NULL` with the response registers; a partner
that never replies is a loop that is never left.

`SdSeen` is what an observer of the commands and the responses knows.  Main result:
`sdCardInit_disciplined`, over every conversation, with a card that may fail any command
at any time, answer anything or fall silent.
-/
import PhantomDrive.Lib.Dialogue
import PhantomDrive.Csd

namespace PhantomDrive

open Dialogue

/-! ### Requests -/

/-- `CMD_SUCCESS` and `OP_SUCCESS`, or `CMD_FAILED` and `OP_FAILED`: the statuses of the driver. -/
inductive Sta
  | success
  | failed
deriving DecidableEq, Repr

/-- `RESP_TYPE_48` and `RESP_TYPE_136`. -/
inductive RespType
  | resp48
  | resp136
deriving DecidableEq, Repr

/-- `cmd_set_val`: `RB_EMMC_CKIDX`, `RB_EMMC_CKCRC`, the type of the response and the index. -/
structure CmdSet where
  ckIdx : Bool
  ckCrc : Bool
  resp : RespType
  cmd : ℕ
deriving DecidableEq, Repr

/-- A status with `R32_EMMC_RESPONSE0` to `3`. -/
structure CmdReply where
  sta : Sta
  response : ℕ → UInt32

/-- `R16_EMMC_CLK_DIV`: `RB_EMMC_CLKMode`, `RB_EMMC_PHASEINV`, `RB_EMMC_CLKOE`, and whether the
divider is `EMMCCLK_48` and not `LOWEMMCCLK`. -/
structure ClkDiv where
  clkMode : Bool
  phaseInv : Bool
  clkOe : Bool
  emmcClk48 : Bool
deriving DecidableEq, Repr

inductive SdRequest
  /-- `mDelayuS` and `mDelaymS`. -/
  | delay (us : ℕ)
  /-- `EMMCResetIdle`: CMD0. -/
  | resetIdle
  /-- `EMMCSendCmd`, a delay, and `CheckCMDComp` until it is not `CMD_NULL`. -/
  | sendCmd (arg : UInt32) (set : CmdSet) (us : ℕ)
  /-- `EMMCReadCID`: CMD2. -/
  | readCid
  /-- `SelectEMMCCard`: CMD7 to the address of the card. -/
  | selectCard (rca : UInt16)
  /-- `R32_EMMC_DMA_BEG1`, `R32_EMMC_TRAN_MODE` and `R32_EMMC_BLOCK_CFG`: one block into `scr_buf`. -/
  | setupRead (bytes : ℕ)
  /-- The loop that only `RB_EMMC_IF_TRANDONE` ends. -/
  | waitTranDone
  /-- The loop that `RB_EMMC_IF_TRANDONE` or `EMMCOpErr` ends. -/
  | waitTranDoneOrErr
  /-- `R8_EMMC_CONTROL = RB_EMMC_ALL_CLR | RB_EMMC_RST_LGC`, then `RB_EMMC_DMAEN`. -/
  | resetController
  /-- `bLW_OP_DAT4` or `bLW_OP_DAT0` in `R8_EMMC_CONTROL`. -/
  | busWidth (four : Bool)
  /-- `R16_EMMC_CLK_DIV`. -/
  | clkDiv (clk : ClkDiv)
  /-- `R16_EMMC_INT_FG` is written. -/
  | clearFlags
  /-- `EMMCOpErr = 0`. -/
  | clearOpErr
deriving DecidableEq, Repr

/-- What a request is answered. -/
abbrev SdRequest.Reply : SdRequest → Type
  | .sendCmd .. => CmdReply
  | .readCid => Sta
  | .selectCard _ => Sta
  -- the block in `scr_buf`
  | .waitTranDone => List UInt8
  -- no block if `EMMCOpErr` was set
  | .waitTranDoneOrErr => Option (List UInt8)
  | _ => Unit

abbrev SdProg := Prog SdRequest SdRequest.Reply

/-- One request of the code. -/
abbrev sdAsk (q : SdRequest) : SdProg q.Reply := Prog.request q

/-- `SD_PARAMETER`: what `SDReadCSD` leaves there, and the address of the card. -/
structure SdPara extends SdParameter where
  emmcRca : UInt16

/-- `EMMC_RCA << 16`. -/
def rcaArg (rca : UInt16) : UInt32 := rca.toUInt32 <<< 16

/-! ### The functions of `sd.c` -/

/-- `RB_EMMC_CKIDX | RB_EMMC_CKCRC | RESP_TYPE_48 | cmd`. -/
def checkedCmd (cmd : ℕ) : CmdSet := ⟨true, true, .resp48, cmd⟩

/-- `EMMCSendCmd` and the loop behind it. -/
def sendCmd (arg : UInt32) (set : CmdSet) (us : ℕ) : SdProg CmdReply :=
  sdAsk (.sendCmd arg set us)

/-- The loop of `SDReadOCR` with `left` rounds to go. -/
def sdReadOcrLoop : ℕ → SdPara → SdProg (Sta × SdPara)
  | 0, para => pure (.failed, para)
  | left + 1, para => do
      let app ← sendCmd 0 (checkedCmd 55) 2
      if app.sta = .failed then
        sdAsk (.delay 20000)
        sdReadOcrLoop left para
      else
        let r ← sendCmd 0x40FF8000 ⟨false, false, .resp48, 41⟩ 2
        if r.sta = .success ∧ r.response 3 &&& 0x80000000 ≠ 0 then
          let emmcType : EmmcType :=
            if r.response 3 &&& 0x40000000 ≠ 0 then .highCapacitySdCard else .capacitySdCardV2
          pure (.success, { para with emmcType := emmcType })
        else
          sdAsk (.delay 20000)
          sdReadOcrLoop left para

/-- The rounds of `SDReadOCR`. -/
def ocrRounds : ℕ := 100

/-- `SDReadOCR`. -/
def sdReadOcr (para : SdPara) : SdProg (Sta × SdPara) := sdReadOcrLoop ocrRounds para

/-- `SDSetRCA`. -/
def sdSetRca (para : SdPara) : SdProg (Sta × SdPara) := do
  let r ← sendCmd 0 (checkedCmd 3) 0
  if r.sta = .success then
    pure (r.sta, { para with emmcRca := (r.response 3 >>> 16).toUInt16 })
  else pure (r.sta, para)

/-- `SDReadCSD`: CMD9, and what is made of its response. -/
def sdReadCsdCmd (para : SdPara) : SdProg (Sta × SdPara) := do
  let r ← sendCmd (rcaArg para.emmcRca) ⟨false, false, .resp136, 9⟩ 0
  pure (r.sta, { para with
    toSdParameter := sdReadCsd (r.sta = .success) r.response para.toSdParameter })

/-- `SDSetBusWidth`. -/
def sdSetBusWidth (para : SdPara) (busMode : UInt8) : SdProg Sta := do
  let app ← sendCmd (rcaArg para.emmcRca) (checkedCmd 55) 0
  if app.sta = .success then
    let r ← sendCmd (if busMode = 0 then 0x0 else 0x2) (checkedCmd 6) 0
    pure r.sta
  else pure app.sta

/-- `SD_ReadSCR`. -/
def sdReadScr (para : SdPara) : SdProg Sta := do
  let app ← sendCmd (rcaArg para.emmcRca) (checkedCmd 55) 0
  if app.sta = .success then
    sdAsk (.setupRead 8)
    let r ← sendCmd 0 (checkedCmd 51) 0
    let _ ← sdAsk .waitTranDone
    sdAsk .clearFlags
    pure r.sta
  else pure app.sta

/-- `SD_SWITCH_STATUS_LEN`. -/
def sdSwitchStatusLen : ℕ := 64

/-- `SD_SwitchFunction`, with the block in `scr_buf` if it succeeds. -/
def sdSwitchFunction (arg : UInt32) : SdProg (Option (List UInt8)) := do
  sdAsk .clearOpErr
  sdAsk .clearFlags
  sdAsk (.setupRead sdSwitchStatusLen)
  let r ← sendCmd arg (checkedCmd 6) 0
  if r.sta ≠ .success then
    sdAsk .clearFlags
    sdAsk .clearOpErr
    pure none
  else
    match ← sdAsk .waitTranDoneOrErr with
    | none =>
        sdAsk .clearFlags
        sdAsk .clearOpErr
        pure none
    | some block =>
        sdAsk .clearFlags
        pure (some block)

/-- `SD_CMD6_CHECK_HIGH_SPEED`. -/
def sdCmd6CheckHighSpeed : UInt32 := 0x00FFFFF1

/-- `SD_CMD6_SET_HIGH_SPEED`. -/
def sdCmd6SetHighSpeed : UInt32 := 0x80FFFFF1

/-- `SD_EnableHighSpeed`; what it finds is only logged. -/
def sdEnableHighSpeed : SdProg Unit := do
  match ← sdSwitchFunction sdCmd6CheckHighSpeed with
  | none => pure ()
  | some block =>
      -- `SD_SWITCH_G1_HIGH_SPEED`
      if block.getD 13 0 &&& 0x02 = 0 then pure ()
      else
        match ← sdSwitchFunction sdCmd6SetHighSpeed with
        | none => pure ()
        | some _ => sdAsk (.delay 2)

/-- The clock of `SD_IO_init`. -/
def initClk : ClkDiv := ⟨false, true, true, false⟩

/-- The clock at the end of `SD_do_init`. -/
def highSpeedClk : ClkDiv := ⟨true, true, true, true⟩

/-- `SD_IO_init`, as far as the controller goes. -/
def sdIoInit : SdProg Unit := do
  sdAsk .resetController
  sdAsk (.busWidth false)
  sdAsk (.clkDiv initClk)
  sdAsk .clearFlags

/-- The loop of `SD_do_init` that sends CMD8, with `left` rounds to go. -/
def sendIfCondLoop : ℕ → SdProg Sta
  | 0 => pure .failed
  | left + 1 => do
      sdAsk .clearOpErr
      let r ← sendCmd 0x01AA (checkedCmd 8) 0
      if r.sta = .success then pure .success
      else
        sdAsk (.delay 30000)
        sendIfCondLoop left

/-- `SD_do_init`. -/
def sdDoInit (para : SdPara) : SdProg (Sta × SdPara) := do
  sdAsk .resetIdle
  sdAsk (.delay 30000)
  sdAsk .resetIdle
  sdAsk (.delay 30000)
  if (← sendIfCondLoop 3) ≠ .success then return (.failed, para)
  let ocr ← sdReadOcr para
  if ocr.1 ≠ .success then return (.failed, ocr.2)
  if (← sdAsk .readCid) ≠ .success then return (.failed, ocr.2)
  let addr ← sdSetRca ocr.2
  if addr.1 ≠ .success then return (.failed, addr.2)
  let csd ← sdReadCsdCmd addr.2
  if csd.1 ≠ .success then return (.failed, csd.2)
  sdAsk (.delay 5000)
  if (← sdAsk (.selectCard csd.2.emmcRca)) ≠ .success then return (.failed, csd.2)
  if (← sdSetBusWidth csd.2 1) ≠ .success then return (.failed, csd.2)
  sdAsk (.busWidth true)
  if (← sdReadScr csd.2) ≠ .success then return (.failed, csd.2)
  sdEnableHighSpeed
  sdAsk (.clkDiv highSpeedClk)
  return (.success, csd.2)

/-- `SDCardInit`. -/
def sdCardInit (para : SdPara) : SdProg (Sta × SdPara) := do
  sdIoInit
  sdAsk .clearOpErr
  sdDoInit para

/-! ### What an observer knows -/

structure SdSeen where
  /-- The commands so far. -/
  sent : ℕ
  /-- The last command was CMD55, and it was acknowledged. -/
  appCmd : Bool
  /-- A response to ACMD41 had the power-up bit. -/
  powered : Bool
  /-- The address in the response to the last CMD3 acknowledged. -/
  rca : Option UInt16
  /-- The response to the last CMD9 acknowledged. -/
  csd : Option (ℕ → UInt32)
  /-- CMD7 was acknowledged. -/
  selected : Bool
  /-- The last ACMD6 acknowledged asked for four bits. -/
  cardWide : Bool
  /-- The controller drives four bits. -/
  hostWide : Bool
  /-- The length of the block the controller is set up for. -/
  setup : ℕ
  clk : Option ClkDiv

namespace SdSeen

/-- Nothing was seen yet. -/
def init : SdSeen := ⟨0, false, false, none, none, false, false, false, 0, none⟩

/-- The argument that addresses the card: zero until it has published an address. -/
def address (s : SdSeen) : UInt32 := (s.rca.map rcaArg).getD 0

/-- A command other than CMD0 was sent. -/
def command (s : SdSeen) : SdSeen := { s with sent := s.sent + 1, appCmd := false }

/-- What command `cmd` acknowledged with this response says; `app` if it is an application
command. -/
def acknowledged (s : SdSeen) (app : Bool) (arg : UInt32) (response : ℕ → UInt32) : ℕ → SdSeen
  | 55 => { s with appCmd := true }
  | 41 => { s with powered := s.powered || response 3 &&& 0x80000000 ≠ 0 }
  | 3 => { s with rca := some (response 3 >>> 16).toUInt16 }
  | 9 => { s with csd := some response }
  | 6 => if app then { s with cardWide := arg = 2 } else s
  | _ => s

/-- What is known behind an exchange. -/
def next (s : SdSeen) : Exchange SdRequest SdRequest.Reply → SdSeen
  | ⟨.resetIdle, _⟩ =>
      { init with sent := s.sent + 1, hostWide := s.hostWide, setup := s.setup, clk := s.clk }
  | ⟨.sendCmd arg set _, r⟩ =>
      if r.sta = .success then s.command.acknowledged s.appCmd arg r.response set.cmd
      else s.command
  | ⟨.readCid, _⟩ => s.command
  | ⟨.selectCard _, r⟩ => { s.command with selected := r = .success }
  | ⟨.setupRead bytes, _⟩ => { s with setup := bytes }
  | ⟨.busWidth four, _⟩ => { s with hostWide := four }
  | ⟨.clkDiv clk, _⟩ => { s with clk := some clk }
  | _ => s

/-- The commands `SDCardInit` may send. -/
def commandLimit : ℕ := 215

/-- Which request is in order. -/
def Allows (s : SdSeen) : SdRequest → Prop
  | .resetIdle => s.sent < commandLimit
  | .sendCmd arg set _ => s.sent < commandLimit ∧
      match set.cmd with
      | 8 => s.powered = false
      | 55 => arg = s.address
      -- the application commands are sent behind CMD55
      | 41 => s.appCmd = true ∧ s.powered = false
      | 51 => s.appCmd = true ∧ s.selected = true ∧ s.setup = 8 ∧ s.hostWide = s.cardWide
      | 6 => s.selected = true ∧
          if s.appCmd then arg = 2
          else s.setup = 64 ∧ s.hostWide = s.cardWide
            ∧ (arg = sdCmd6CheckHighSpeed ∨ arg = sdCmd6SetHighSpeed)
      | 3 => s.powered = true ∧ s.rca = none
      | 9 => s.rca.isSome = true ∧ arg = s.address ∧ s.selected = false
      | _ => False
  | .readCid => s.sent < commandLimit ∧ s.powered = true ∧ s.rca = none
  | .selectCard rca => s.sent < commandLimit ∧ s.rca = some rca ∧ s.csd.isSome = true
  | .busWidth four => four = true → s.cardWide = true
  | .clkDiv clk => clk.emmcClk48 = true → s.hostWide = true ∧ s.cardWide = true
  | _ => True

end SdSeen

/-- What an observer knows behind a conversation from the start. -/
def seenAfter (t : List (Exchange SdRequest SdRequest.Reply)) : SdSeen := t.foldl SdSeen.next .init

/-! ### The functions keep the order -/

/-- The observer of the commands as a partner that may answer anything. -/
abbrev sdObserver : Partner SdRequest SdRequest.Reply SdSeen := observer SdSeen.next SdSeen.Allows

section Functions

variable {P : Sta × SdPara → SdSeen → Prop} {s : SdSeen}

/-- What a function that does not address the card leaves alone, in at most `limit` commands. -/
structure SameBut (limit : ℕ) (s s' : SdSeen) : Prop where
  sent : s'.sent ≤ s.sent + limit
  rca : s'.rca = s.rca
  csd : s'.csd = s.csd
  selected : s'.selected = s.selected
  cardWide : s'.cardWide = s.cardWide
  hostWide : s'.hostWide = s.hostWide
  powered : s.powered = true → s'.powered = true

theorem SameBut.refl (s : SdSeen) : SameBut 0 s s := ⟨le_rfl, rfl, rfl, rfl, rfl, rfl, id⟩

theorem SameBut.trans {limit limit' total : ℕ} {s' s'' : SdSeen} (h : SameBut limit s s')
    (h' : SameBut limit' s' s'') (htotal : limit + limit' ≤ total) : SameBut total s s'' where
  sent := by
    have := h.sent
    have := h'.sent
    omega
  rca := h'.rca.trans h.rca
  csd := h'.csd.trans h.csd
  selected := h'.selected.trans h.selected
  cardWide := h'.cardWide.trans h.cardWide
  hostWide := h'.hostWide.trans h.hostWide
  powered := h'.powered ∘ h.powered

/-- `SDReadOCR` succeeds only behind a response with the power-up bit. -/
theorem sdReadOcrLoop_wp (left : ℕ) (para : SdPara) (hsent : s.sent + 2 * left ≤ SdSeen.commandLimit)
    (hpowered : s.powered = false) (hrca : s.rca = none)
    (hfailed : ∀ s', P (.failed, para) s')
    (hready : ∀ para' s', SameBut (2 * left) s s' → s'.powered = true → P (.success, para') s') :
    (sdReadOcrLoop left para).wp sdObserver P s := by
  induction left generalizing s with
  | zero => exact hfailed s
  | succ left ih =>
    have hround : ∀ s', s'.powered = false → SameBut 2 s s' →
        (sdAsk (.delay 20000) >>= fun _ => sdReadOcrLoop left para).wp sdObserver P s' := by
      intro s' hpow hsame
      refine wp_observer_request.mpr ⟨trivial, fun _ => ?_⟩
      refine ih ?_ hpow (hsame.rca.trans hrca) fun para' s'' hsame' hpow' =>
        hready para' s'' (hsame.trans hsame' (by omega)) hpow'
      show s'.sent + _ ≤ _
      have := hsame.sent
      omega
    rw [sdReadOcrLoop]
    refine wp_observer_request.mpr ⟨⟨by omega, ?_⟩, fun app => ?_⟩
    · show (0 : UInt32) = (s.rca.map rcaArg).getD 0
      rw [hrca]
      rfl
    obtain ⟨sta, response⟩ := app
    cases sta with
    | failed => exact hround _ hpowered ⟨by show s.sent + 1 ≤ _; omega, rfl, rfl, rfl, rfl, rfl, id⟩
    | success =>
      refine wp_observer_request.mpr ⟨⟨by show s.sent + 1 < _; omega, rfl, hpowered⟩, ?_⟩
      rintro ⟨sta, response'⟩
      have hsent' : s.sent + 1 + 1 ≤ s.sent + 2 := le_rfl
      cases sta with
      | failed => exact hround _ hpowered ⟨hsent', rfl, rfl, rfl, rfl, rfl, id⟩
      | success =>
        show Prog.wp _ (if Sta.success = Sta.success ∧ response' 3 &&& 0x80000000 ≠ 0 then _ else _) _ _
        by_cases hbit : response' 3 &&& 0x80000000 = 0
        · rw [if_neg fun h => h.2 hbit]
          refine hround _ ?_ ⟨hsent', rfl, rfl, rfl, rfl, rfl, fun h => ?_⟩
          swap
          · exact absurd (hpowered.symm.trans h) Bool.false_ne_true
          show (s.powered || decide (response' 3 &&& 0x80000000 ≠ 0)) = false
          rw [hpowered, hbit]
          rfl
        · rw [if_pos ⟨rfl, hbit⟩]
          have hpow : (s.powered || decide (response' 3 &&& 0x80000000 ≠ 0)) = true := by
            rw [decide_eq_true hbit, Bool.or_true]
          exact hready _ _ ⟨by show s.sent + 1 + 1 ≤ _; omega, rfl, rfl, rfl, rfl, rfl,
            fun _ => hpow⟩ hpow

/-- The loop that sends CMD8. -/
theorem sendIfCondLoop_wp {P : Sta → SdSeen → Prop} (left : ℕ)
    (hsent : s.sent + left ≤ SdSeen.commandLimit) (hpowered : s.powered = false)
    (hfailed : ∀ s', P .failed s')
    (hsuccess : ∀ s', SameBut left s s' → s'.powered = false → P .success s') :
    (sendIfCondLoop left).wp sdObserver P s := by
  induction left generalizing s with
  | zero => exact hfailed s
  | succ left ih =>
    rw [sendIfCondLoop]
    refine wp_observer_request.mpr ⟨trivial, fun _ => ?_⟩
    refine wp_observer_request.mpr ⟨⟨by show s.sent < _; omega, hpowered⟩, ?_⟩
    rintro ⟨sta, response⟩
    cases sta with
    | success =>
      exact hsuccess _ ⟨by show s.sent + 1 ≤ _; omega, rfl, rfl, rfl, rfl, rfl, id⟩ hpowered
    | failed =>
      have hround : SameBut 1 s s.command := ⟨le_rfl, rfl, rfl, rfl, rfl, rfl, id⟩
      refine wp_observer_request.mpr ⟨trivial, fun _ => ?_⟩
      refine ih (by show s.sent + 1 + left ≤ _; omega) hpowered fun s' hsame hpow =>
        hsuccess s' (hround.trans hsame (Nat.add_comm 1 left).le) hpow

/-- `SD_ReadSCR` of a card that is selected. -/
theorem sdReadScr_wp {P : Sta → SdSeen → Prop} (para : SdPara)
    (hsent : s.sent + 2 ≤ SdSeen.commandLimit) (hrca : s.rca = some para.emmcRca)
    (hselected : s.selected = true) (hwide : s.hostWide = s.cardWide)
    (hpost : ∀ sta s', SameBut 2 s s' → s'.appCmd = false → P sta s') :
    (sdReadScr para).wp sdObserver P s := by
  rw [sdReadScr]
  refine wp_observer_request.mpr ⟨⟨by omega, ?_⟩, ?_⟩
  · show rcaArg para.emmcRca = (s.rca.map rcaArg).getD 0
    rw [hrca]
    rfl
  rintro ⟨sta, response⟩
  cases sta with
  | failed => exact hpost _ _ ⟨by show s.sent + 1 ≤ _; omega, rfl, rfl, rfl, rfl, rfl, id⟩ rfl
  | success =>
    refine wp_observer_request.mpr ⟨trivial, fun _ => ?_⟩
    refine wp_observer_request.mpr
      ⟨⟨by show s.sent + 1 < _; omega, rfl, hselected, rfl, hwide⟩, ?_⟩
    rintro ⟨sta, response'⟩
    refine wp_observer_request.mpr ⟨trivial, fun _ => ?_⟩
    refine wp_observer_request.mpr ⟨trivial, fun _ => ?_⟩
    cases sta
    all_goals exact hpost _ _ ⟨le_rfl, rfl, rfl, rfl, rfl, rfl, id⟩ rfl

/-- `SD_SwitchFunction` of a card that is selected. -/
theorem sdSwitchFunction_wp {P : Option (List UInt8) → SdSeen → Prop} {arg : UInt32}
    (harg : arg = sdCmd6CheckHighSpeed ∨ arg = sdCmd6SetHighSpeed)
    (hsent : s.sent + 1 ≤ SdSeen.commandLimit) (hselected : s.selected = true)
    (hwide : s.hostWide = s.cardWide) (happ : s.appCmd = false)
    (hpost : ∀ block s', SameBut 1 s s' → s'.appCmd = false → P block s') :
    (sdSwitchFunction arg).wp sdObserver P s := by
  -- without CMD55 before it, command 6 does not set the width
  have hnext : ∀ r : CmdReply,
      SdSeen.next { s with setup := 64 } ⟨.sendCmd arg (checkedCmd 6) 0, r⟩
        = { s with setup := 64, sent := s.sent + 1, appCmd := false } := by
    rintro ⟨sta, response⟩
    cases sta with
    | failed => rfl
    | success =>
      show (if s.appCmd = true then _ else _) = _
      rw [happ]
      rfl
  have hsame : SameBut 1 s { s with setup := 64, sent := s.sent + 1, appCmd := false } :=
    ⟨le_rfl, rfl, rfl, rfl, rfl, rfl, id⟩
  rw [sdSwitchFunction]
  refine wp_observer_request.mpr ⟨trivial, fun _ => ?_⟩
  refine wp_observer_request.mpr ⟨trivial, fun _ => ?_⟩
  refine wp_observer_request.mpr ⟨trivial, fun _ => ?_⟩
  refine wp_observer_request.mpr ⟨⟨by show s.sent < _; omega, hselected, ?_⟩, fun r => ?_⟩
  · show if s.appCmd = true then _ else _
    rw [happ]
    exact ⟨rfl, hwide, harg⟩
  show Prog.wp _ _ _ (SdSeen.next { s with setup := 64 } ⟨_, r⟩)
  rw [hnext r]
  obtain ⟨sta, response⟩ := r
  cases sta with
  | failed =>
    refine wp_observer_request.mpr ⟨trivial, fun _ => ?_⟩
    exact wp_observer_request.mpr ⟨trivial, fun _ => hpost _ _ hsame rfl⟩
  | success =>
    refine wp_observer_request.mpr ⟨trivial, ?_⟩
    rintro (- | block)
    · refine wp_observer_request.mpr ⟨trivial, fun _ => ?_⟩
      exact wp_observer_request.mpr ⟨trivial, fun _ => hpost _ _ hsame rfl⟩
    · exact wp_observer_request.mpr ⟨trivial, fun _ => hpost _ _ hsame rfl⟩

/-- `SD_EnableHighSpeed` of a card that is selected. -/
theorem sdEnableHighSpeed_wp {P : Unit → SdSeen → Prop} (hsent : s.sent + 2 ≤ SdSeen.commandLimit)
    (hselected : s.selected = true) (hwide : s.hostWide = s.cardWide) (happ : s.appCmd = false)
    (hpost : ∀ s', SameBut 2 s s' → P () s') : sdEnableHighSpeed.wp sdObserver P s := by
  have hone : ∀ {s'}, SameBut 1 s s' → SameBut 2 s s' := fun h => h.trans (.refl _) (by decide)
  rw [sdEnableHighSpeed, wp_bind]
  refine sdSwitchFunction_wp (Or.inl rfl) (by omega) hselected hwide happ ?_
  rintro (- | block) s' hsame happ'
  · exact hpost s' (hone hsame)
  dsimp only
  split
  · exact hpost s' (hone hsame)
  rw [wp_bind]
  have hsent' := hsame.sent
  refine sdSwitchFunction_wp (Or.inr rfl) (by omega) (hsame.selected.trans hselected)
    (hsame.hostWide.trans (hwide.trans hsame.cardWide.symm)) happ' ?_
  rintro (- | block') s'' hsame' -
  · exact hpost s'' (hsame.trans hsame' le_rfl)
  · exact wp_observer_ask.mpr ⟨trivial, fun _ => hpost s'' (hsame.trans hsame' le_rfl)⟩

/-- `SDSetRCA` of a card that has no address yet. -/
theorem sdSetRca_wp (para : SdPara) (hsent : s.sent < SdSeen.commandLimit)
    (hpowered : s.powered = true) (hrca : s.rca = none) (hfailed : ∀ s', P (.failed, para) s')
    (hsuccess : ∀ rca, P (.success, { para with emmcRca := rca })
      { s with sent := s.sent + 1, appCmd := false, rca := some rca }) :
    (sdSetRca para).wp sdObserver P s := by
  rw [sdSetRca]
  refine wp_observer_request.mpr ⟨⟨hsent, hpowered, hrca⟩, ?_⟩
  rintro ⟨sta, response⟩
  cases sta with
  | failed => exact hfailed _
  | success => exact hsuccess _

/-- `SDReadCSD` of a card in stand-by. -/
theorem sdReadCsdCmd_wp (para : SdPara) (hsent : s.sent < SdSeen.commandLimit)
    (hrca : s.rca = some para.emmcRca) (hselected : s.selected = false)
    (hfailed : ∀ para' s', P (.failed, para') s')
    (hsuccess : ∀ csd, P (.success, { para with
        toSdParameter := sdReadCsd true csd para.toSdParameter })
      { s with sent := s.sent + 1, appCmd := false, csd := some csd }) :
    (sdReadCsdCmd para).wp sdObserver P s := by
  rw [sdReadCsdCmd]
  refine wp_observer_request.mpr ⟨⟨hsent, by rw [hrca]; rfl, ?_, hselected⟩, ?_⟩
  · show rcaArg para.emmcRca = (s.rca.map rcaArg).getD 0
    rw [hrca]
    rfl
  rintro ⟨sta, csd⟩
  cases sta with
  | failed => exact hfailed _ _
  | success => exact hsuccess csd

/-- `SDSetBusWidth` to four bits of a card that is selected. -/
theorem sdSetBusWidth_wp {P : Sta → SdSeen → Prop} (para : SdPara)
    (hsent : s.sent + 2 ≤ SdSeen.commandLimit) (hrca : s.rca = some para.emmcRca)
    (hselected : s.selected = true) (hfailed : ∀ s', P .failed s')
    (hsuccess : P .success { s with sent := s.sent + 2, appCmd := false, cardWide := true }) :
    (sdSetBusWidth para 1).wp sdObserver P s := by
  rw [sdSetBusWidth]
  refine wp_observer_request.mpr ⟨⟨by omega, ?_⟩, ?_⟩
  · show rcaArg para.emmcRca = (s.rca.map rcaArg).getD 0
    rw [hrca]
    rfl
  rintro ⟨sta, response⟩
  cases sta with
  | failed => exact hfailed _
  | success =>
    refine wp_observer_request.mpr ⟨⟨by show s.sent + 1 < _; omega, hselected, rfl⟩, ?_⟩
    rintro ⟨sta, response'⟩
    cases sta with
    | failed => exact hfailed _
    | success => exact hsuccess

end Functions

/-! ### The whole sequence -/

/-- What `OP_SUCCESS` says of the card and of the controller. -/
structure BroughtUp (para : SdPara) (s : SdSeen) : Prop where
  powered : s.powered = true
  rca : s.rca = some para.emmcRca
  csd : ∃ response before, s.csd = some response
    ∧ para.toSdParameter = sdReadCsd true response before
  selected : s.selected = true
  cardWide : s.cardWide = true
  hostWide : s.hostWide = true
  clk : s.clk = some highSpeedClk

/-- The sequence goes on behind a success. -/
theorem wp_proceed {σ : Type} {E : Partner SdRequest SdRequest.Reply σ}
    {p q : SdProg (Sta × SdPara)} {P : Sta × SdPara → σ → Prop} {s : σ} (h : q.wp E P s) :
    (if Sta.success ≠ .success then p else q).wp E P s := by
  rwa [if_neg (fun h => h rfl)]

theorem sdDoInit_wp (para : SdPara) {s : SdSeen} (hsent : s.sent = 0) :
    (sdDoInit para).wp sdObserver (fun r s' => r.1 = .success → BroughtUp r.2 s') s := by
  have hfailed : ∀ (para' : SdPara) (s' : SdSeen), Sta.failed = .success → BroughtUp para' s' :=
    fun _ _ h => by cases h
  rw [sdDoInit]
  refine wp_observer_request.mpr ⟨by show s.sent < _; rw [hsent]; decide, fun _ => ?_⟩
  refine wp_observer_request.mpr ⟨trivial, fun _ => ?_⟩
  refine wp_observer_request.mpr ⟨by show s.sent + 1 < _; rw [hsent]; decide, fun _ => ?_⟩
  refine wp_observer_request.mpr ⟨trivial, fun _ => ?_⟩
  -- CMD8
  rw [wp_bind]
  refine sendIfCondLoop_wp 3 (by show s.sent + 1 + 1 + 3 ≤ _; rw [hsent]; decide) rfl (hfailed _) ?_
  intro s₁ hsame₁ hpow₁
  have hsent₁ : s₁.sent ≤ s.sent + 1 + 1 + 3 := hsame₁.sent
  refine wp_proceed ?_
  -- ACMD41
  rw [wp_bind]
  refine sdReadOcrLoop_wp ocrRounds para (by rw [ocrRounds, SdSeen.commandLimit]; omega) hpow₁
    hsame₁.rca (hfailed para) ?_
  intro para₂ s₂ hsame₂ hpow₂
  have hsent₂ : s₂.sent ≤ s₁.sent + 200 := hsame₂.sent
  have hlimit : s₂.sent + 10 ≤ SdSeen.commandLimit := by
    rw [SdSeen.commandLimit]
    omega
  have hrca₂ : s₂.rca = none := hsame₂.rca.trans hsame₁.rca
  have hselected₂ : s₂.selected = false := hsame₂.selected.trans hsame₁.selected
  refine wp_proceed ?_
  -- CMD2
  refine wp_observer_request.mpr ⟨⟨by omega, hpow₂, hrca₂⟩, ?_⟩
  rintro (- | -)
  swap
  · exact hfailed _ _
  refine wp_proceed ?_
  -- CMD3
  rw [wp_bind]
  refine sdSetRca_wp _ (by show s₂.sent + 1 < _; omega) hpow₂ hrca₂ (hfailed _) fun rca => ?_
  refine wp_proceed ?_
  -- CMD9
  rw [wp_bind]
  refine sdReadCsdCmd_wp _ (by show s₂.sent + 1 + 1 < _; omega) rfl hselected₂ hfailed fun csd => ?_
  refine wp_proceed ?_
  refine wp_observer_request.mpr ⟨trivial, fun _ => ?_⟩
  -- CMD7
  refine wp_observer_request.mpr ⟨⟨by show s₂.sent + 1 + 1 + 1 < _; omega, rfl, rfl⟩, ?_⟩
  rintro (- | -)
  swap
  · exact hfailed _ _
  refine wp_proceed ?_
  -- ACMD6
  rw [wp_bind]
  refine sdSetBusWidth_wp _ (by show s₂.sent + 1 + 1 + 1 + 1 + 2 ≤ _; omega) rfl rfl (hfailed _) ?_
  refine wp_proceed ?_
  refine wp_observer_request.mpr ⟨fun _ => rfl, fun _ => ?_⟩
  -- ACMD51
  rw [wp_bind]
  refine sdReadScr_wp _ (by show s₂.sent + 1 + 1 + 1 + 1 + 2 + 2 ≤ _; omega) rfl rfl rfl ?_
  rintro (- | -) s₃ hsame₃ happ₃
  swap
  · exact hfailed _ _
  have hsent₃ : s₃.sent ≤ s₂.sent + 1 + 1 + 1 + 1 + 2 + 2 := hsame₃.sent
  refine wp_proceed ?_
  -- CMD6
  rw [wp_bind]
  refine sdEnableHighSpeed_wp (by omega) hsame₃.selected
    (hsame₃.hostWide.trans hsame₃.cardWide.symm) happ₃ ?_
  intro s₄ hsame₄
  have hhost : s₄.hostWide = true := hsame₄.hostWide.trans hsame₃.hostWide
  have hcard : s₄.cardWide = true := hsame₄.cardWide.trans hsame₃.cardWide
  refine wp_observer_request.mpr ⟨fun _ => ⟨hhost, hcard⟩, fun _ _ => ?_⟩
  exact
    { powered := hsame₄.powered (hsame₃.powered hpow₂)
      rca := hsame₄.rca.trans hsame₃.rca
      csd := ⟨csd, _, hsame₄.csd.trans hsame₃.csd, rfl⟩
      selected := hsame₄.selected.trans hsame₃.selected
      cardWide := hcard
      hostWide := hhost
      clk := rfl }

/-- **Discipline of the start-up**, over every conversation with a card that may answer anything:
every request put is in order, and `OP_SUCCESS` is returned only with the card powered up,
addressed, selected and on four bits like the controller, the clock raised, and in `*pEMMCPara` the
address it published and what its CSD says. -/
theorem sdCardInit_disciplined (para : SdPara) (t : List (Exchange SdRequest SdRequest.Reply)) :
    (∀ q next, Reaches (sdCardInit para) t (.ask q next) → (seenAfter t).Allows q)
      ∧ ∀ para', Reaches (sdCardInit para) t (.done (.success, para')) →
          BroughtUp para' (seenAfter t) := by
  have hwp : (sdCardInit para).wp sdObserver (fun r s' => r.1 = .success → BroughtUp r.2 s')
      .init := by
    refine wp_observer_request.mpr ⟨trivial, fun _ => ?_⟩
    refine wp_observer_request.mpr ⟨fun h => absurd h Bool.false_ne_true, fun _ => ?_⟩
    refine wp_observer_request.mpr ⟨fun h => absurd h Bool.false_ne_true, fun _ => ?_⟩
    refine wp_observer_request.mpr ⟨trivial, fun _ => ?_⟩
    refine wp_observer_request.mpr ⟨trivial, fun _ => ?_⟩
    exact sdDoInit_wp para rfl
  have hconv := observer_conversation SdSeen.next SdSeen.Allows .init t
  exact ⟨fun q next hreach => wp_legal hwp hreach hconv,
    fun para' hreach => wp_result hwp hreach hconv rfl⟩

end PhantomDrive
