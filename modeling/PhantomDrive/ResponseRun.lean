/-
PhantomDrive/ResponseRun.lean

What the host gets in the data-in phase of a command that is not a READ(10): the
command's own response, up to the host length, and no other byte (`response_run`), as
long as the commands are ones that `BulkOnlyCmd.answers` allows.

A REQUEST SENSE for more than 18 bytes, or a command without a response that is sent
with a data-in phase, reads on behind the response or from wherever the last one was
(`requestSense_reads_on`).
-/
import PhantomDrive.HostView

namespace PhantomDrive

/-! ### The packet size -/

section PackSize

variable {dev : Device}

theorem mainStep_packSize (io : MainIo) (s : Sys) :
    (mainStep dev io s).drive.bot.packSize = s.drive.bot.packSize := by
  cases hpc : s.pc with
  | readRun preqnum actualLba =>
    simp only [mainStep, hpc]
    rcases readRun_cases dev io preqnum actualLba s with h | ⟨packets, h⟩
    · rw [h]
    · rw [h]
  | csw stage caller =>
    cases stage
    case ack =>
      cases caller
      all_goals
        simp only [mainStep, hpc]
        rfl
    case fill =>
      obtain ⟨cmd, heq, -⟩ := botSendCswFill_eq s.drive.bot
      simp only [mainStep, hpc, Sys.next, heq]
    all_goals
      simp only [mainStep, hpc]
      rfl
  | writeRun stream =>
    simp only [mainStep, hpc]
    rcases writeRun_cases dev io stream s with ⟨-, h⟩ | ⟨-, d', heffect, h⟩
    · rw [h]
    · have hdrive : (writeRun dev io stream s).drive = d' := by
        rcases h with h | h
        · rw [h]
        · rw [h]
      rw [hdrive]
      rcases heffect.bot with hbot | hbot
      · rw [hbot]
      · rw [hbot]
        rfl
  | pollUnlock =>
    simp only [mainStep, hpc]
    rcases pollUnlock_cases dev io s with h | ⟨-, h⟩
    · rw [h]
    rw [h]
    rcases phantomdriveTryUnlock_cases dev io.unlock s.drive with hgive | hswitch
    · rcases hgive.bot with hbot | ⟨-, hbot⟩
      · dsimp only
        rw [hbot]
      · dsimp only
        rw [hbot]
        rfl
    · obtain ⟨card, len, passwordLen, -, hswitched⟩ := hswitch.switched
      dsimp only
      rw [hswitched]
      rfl
  | writeStart totalSectors lba => simp only [mainStep, hpc]
  | _ =>
    simp only [mainStep, hpc]
    rfl

theorem step_packSize (s : Sys) (e : Event) :
    (step dev s e).drive.bot.packSize = s.drive.bot.packSize := by
  cases e with
  | bulkOut packet =>
    unfold step
    dsimp only
    split
    · exact (botHandleBulkOut_sameSetup ..).packSize
    · rfl
  | bulkIn =>
    unfold step
    dsimp only
    split
    · exact (botHandleBulkIn_sameSetup ..).packSize
    · rfl
  | main io => exact mainStep_packSize io s

/-- `pack_size` is the sector size in every reachable state. -/
theorem packSize_run (dev : Device) (card : Card) (events : List Event) :
    (Runs.run (step dev) (Sys.init dev card) events).drive.bot.packSize = 512 :=
  Runs.invariant_of_forall (P := fun s : Sys => s.drive.bot.packSize = 512)
    (fun s e h => (step_packSize s e).trans h) rfl events

end PackSize

/-! ### The condition -/

/-- No command is in progress, and none is left in `main`. -/
structure Sys.Quiet (s : Sys) : Prop extends AtRest s.drive.bot s.pc where
  transferFlags : s.drive.bot.transferFlags = .none
  txCtrl : s.drive.bot.txCtrl = .nak

/-- The observer starts in a state that no command left anything in. -/
def Session.at (s : Sys) : Session := ⟨{ Exchange.none with mark := s.drive.bot.queued.length }, s⟩

/-- A data-in phase is asked for only of a command whose handler answers it, or rejects it. -/
def Answerable (dev : Device) (t : Session) : Event → Prop
  | .bulkOut packet => t.sys.TakesCbw packet →
      let cmd := BulkOnlyCmd.ofPacket packet
      cmd.dataLen ≠ 0 → cmd.dirIn = true → cmd.isRead10 = false →
        cmd.refused dev t.sys.drive.phantom.isLocked = false → cmd.answers = true
  | _ => True

/-! ### The invariant -/

/-- The response is sent, and all of it. -/
def Exchange.Responded (dev : Device) (x : Exchange) (b : Bot) : Prop :=
  x.cbw.validSignature = true → x.dataPhase dev = .respond →
    dataOf (x.packets b) = x.response.take x.cbw.dataLen.toNat ∧ b.transferFlags.dataIn = false

section Steps

variable {dev : Device} {x : Exchange} {b : Bot} {pc : MainPc}

/-- Only the CBW and what the device reports decide the response. -/
theorem beginCbw_response (cmd : BulkOnlyCmd) (b : Bot) :
    (b.beginCbw cmd).response cmd = b.response cmd := by
  unfold Bot.response
  rfl

/-- What the data phase says about the CBW. -/
theorem Exchange.of_respond (h : x.dataPhase dev = .respond) :
    x.rejected dev = false ∧ x.cbw.dataLen ≠ 0 ∧ x.cbw.dirIn = true ∧ x.cbw.isRead10 = false := by
  unfold Exchange.dataPhase at h
  split at h
  · cases h
  rename_i hnone
  split at h
  · rename_i hdir
    split at h
    · cases h
    · rename_i hread
      simp only [Bool.or_eq_true, decide_eq_true_eq, not_or, Bool.not_eq_true] at hnone
      exact ⟨hnone.1, hnone.2, hdir, by simpa using hread⟩
  · cases h

/-- **The CBW** of a command that answers gets the response at once, in one packet. -/
theorem responded_begin {s : Sys} {cmd : BulkOnlyCmd} (hflags : s.drive.bot.transferFlags = .none)
    (hpack : s.drive.bot.packSize = 512)
    (hanswers : cmd.dataLen ≠ 0 → cmd.dirIn = true → cmd.isRead10 = false →
      cmd.refused dev s.drive.phantom.isLocked = false → cmd.answers = true) :
    (Exchange.begin s cmd).Responded dev (botStartCommand dev
      (scsiDispatchCommand dev s.drive.phantom.isLocked (s.drive.bot.beginCbw cmd))) := by
  intro hvalid hphase
  obtain ⟨hrejected, hlen, hdir, hread⟩ := Exchange.of_respond hphase
  have hanswers := hanswers hlen hdir hread hrejected
  have hd := scsiDispatchCommand_dispatched dev s.drive.phantom.isLocked (s.drive.bot.beginCbw cmd)
  have hrejects : (s.drive.bot.beginCbw cmd).rejects dev s.drive.phantom.isLocked = false :=
    (beginCbw_rejects ..).trans hrejected
  have hholds := responseBytes_dispatch (b := s.drive.bot.beginCbw cmd) hanswers hrejects rfl
  have hresponse : (s.drive.bot.beginCbw cmd).response (s.drive.bot.beginCbw cmd).cbwCsw
      = (Exchange.begin s cmd).response := beginCbw_response cmd s.drive.bot
  rw [hresponse] at hholds
  generalize scsiDispatchCommand dev s.drive.phantom.isLocked (s.drive.bot.beginCbw cmd) = b'
    at hd hholds
  have hb' := hd.flags hflags
  have hnot : b'.cbwCsw.isRead10 = false := hd.isRead10.trans hread
  have hle : ¬ b'.packSize.toUInt32 < b'.transferBytesLeft := by
    have hpack' : b'.packSize = 512 := hd.packSize.trans hpack
    have h512 : ((512 : UInt16).toUInt32).toNat = 512 := rfl
    rw [hpack', UInt32.lt_iff_toNat_lt, h512]
    have := hholds.2
    omega
  rw [hphase, DataPhase.flags] at hb'
  rw [botStartCommand, hb', if_neg Bool.false_ne_true, if_pos rfl, hnot,
    if_neg Bool.false_ne_true, botSendResponseData, if_neg hle]
  refine ⟨?_, rfl⟩
  have hpackets : (Exchange.begin s cmd).packets b' = [] := hd.packets
  have hmark : (Exchange.begin s cmd).mark ≤ b'.queued.length := by
    rw [hd.queued]
    exact le_rfl
  show dataOf ((b'.queued ++ [InPacket.data (b'.responseBytes dev b'.transferBytesLeft.toNat)]).drop
    (Exchange.begin s cmd).mark) = _
  rw [List.drop_append_of_le_length hmark]
  have hnil : b'.queued.drop (Exchange.begin s cmd).mark = [] := hpackets
  rw [hnil, List.nil_append, hholds.1]
  exact List.append_nil _

/-- Behind a response, an IN completion sends no further data. -/
theorem Ongoing.responded_bulkIn (h : Ongoing dev x b pc) (hdone : x.Responded dev b) :
    (x.taken b).Responded dev (botHandleBulkIn dev { b with txCtrl := .nak }) := by
  intro hvalid hphase
  obtain ⟨hdata, hin⟩ := hdone hvalid hphase
  rcases botHandleBulkIn_cases dev { b with txCtrl := .nak } with
    ⟨hin', -, -⟩ | ⟨hin', -, -⟩ | ⟨-, -, heq⟩ | ⟨-, -, heq⟩
  · exact absurd (hin.symm.trans hin') Bool.false_ne_true
  · exact absurd (hin.symm.trans hin') Bool.false_ne_true
  · rw [heq]
    refine ⟨?_, rfl⟩
    show dataOf ((botSendCsw { b with txCtrl := .nak }).queued.drop x.mark) = _
    rw [botSendCsw_queued, List.drop_append_of_le_length h.mark, dataOf_append_csw]
    exact hdata
  · rw [heq]
    exact ⟨hdata, hin⟩

/-- A step of `main` leaves the CBW of the exchange and its data phase alone. -/
theorem observe_main_dataPhase (io : MainIo) (s : Sys) :
    (observe dev x s (.main io)).dataPhase dev = x.dataPhase dev := by
  unfold observe
  dsimp only
  split
  · unfold Exchange.pass
    split
    · rfl
    · rfl
  · rfl

/-- Behind a response, `main` sends no data. -/
theorem Ongoing.responded_main {s : Sys} (hinit : dev.initTxCtrl = .nak) (io : MainIo)
    (h : Ongoing dev x s.drive.bot s.pc) (hdone : x.Responded dev s.drive.bot) :
    (observe dev x s (.main io)).Responded dev (mainStep dev io s).drive.bot := by
  have hrest : AtRest s.drive.bot s.pc →
      (observe dev x s (.main io)).Responded dev (mainStep dev io s).drive.bot := by
    intro hrest
    obtain ⟨rxCtrl, capacity, hbot, -⟩ := mainStep_atRest hinit io hrest
    rw [observe_main_of_ne hrest.not_writeRun, hbot]
    exact hdone
  have hother : x.dataPhase dev ≠ .respond →
      (observe dev x s (.main io)).Responded dev (mainStep dev io s).drive.bot := by
    intro hne _ hphase
    exact absurd ((observe_main_dataPhase io s).symm.trans hphase) hne
  cases h with
  | idling h => exact hrest h.toAtRest
  | responding h => exact hrest h.toAtRest
  | halted h => exact hrest h.toAtRest
  | reading h => exact hother (h.dataPhase ▸ DataPhase.noConfusion)
  | awaiting h => exact hrest h.toAtRest
  | writing h => exact hother (h.dataPhase ▸ DataPhase.noConfusion)
  | closing h =>
    rcases h.dataPhase with hphase | hphase
    · exact hother (hphase ▸ DataPhase.noConfusion)
    · exact hother (hphase ▸ DataPhase.noConfusion)
  | closed h => exact hrest h.toAtRest
  | void h => exact hrest h.toAtRest

/-- An OUT packet that is a CBW gets its response. -/
theorem Ongoing.responded_bulkOut {t : Session} {packet : List UInt8}
    (h : t.InPhase dev) (hdone : t.exchange.Responded dev t.sys.drive.bot)
    (hpack : t.sys.drive.bot.packSize = 512) (hirq : t.sys.usbIrq = true)
    (hok : Orderly t (.bulkOut packet)) (hanswers : Answerable dev t (.bulkOut packet)) :
    (observe dev t.exchange t.sys (.bulkOut packet)).Responded dev
      (botHandleBulkOut dev t.sys.drive.phantom.isLocked packet t.sys.drive.bot) := by
  have hserial := hok.1 hirq
  unfold observe
  dsimp only
  rw [if_pos hirq]
  rcases botHandleBulkOut_cases dev t.sys.drive.phantom.isLocked packet t.sys.drive.bot with
    ⟨hout, heq⟩ | ⟨hout, hlen, heq⟩ | ⟨hout, hlen, hvalid, heq⟩ | ⟨hout, hlen, hvalid, heq⟩
  · rw [heq, if_pos hout]
    intro _ hphase
    have hwrite : t.exchange.dataPhase dev = .write :=
      (Ongoing.dataOut_cases h hout).elim (fun h => h.dataPhase) fun h => h.dataPhase
    exact absurd (hphase.symm.trans hwrite) DataPhase.noConfusion
  · rw [heq, hout, if_neg Bool.false_ne_true, if_neg hlen]
    exact hdone
  · rw [heq, hout, if_neg Bool.false_ne_true, if_pos hlen]
    exact fun hvalid' => absurd (hvalid.symm.trans hvalid') Bool.false_ne_true
  · rw [hout, if_neg Bool.false_ne_true] at hserial
    rw [heq, hout, if_neg Bool.false_ne_true, if_pos hlen]
    exact responded_begin (Ongoing.idling_of h (hserial hlen)).transferFlags hpack
      (hanswers ⟨hirq, hout, hlen⟩)

end Steps

/-! ### Runs -/

/-- What holds of the responses in every state of a run whose steps meet the condition. -/
structure ResponseInv (dev : Device) (t : Session) : Prop where
  phase : t.InPhase dev
  packSize : t.sys.drive.bot.packSize = 512
  responded : t.exchange.Responded dev t.sys.drive.bot

theorem responseInv_step {dev : Device} (hinit : dev.initTxCtrl = .nak) (t : Session) (e : Event)
    (h : ResponseInv dev t) (hok : Orderly t e ∧ Answerable dev t e) :
    ResponseInv dev (t.step dev e) := by
  refine ⟨inPhase_step hinit t e h.phase hok.1, (step_packSize t.sys e).trans h.packSize, ?_⟩
  have hoff : ¬ t.sys.usbIrq = true → (∀ io, e ≠ .main io) →
      (t.step dev e).exchange.Responded dev (t.step dev e).sys.drive.bot := by
    intro hirq hne
    rw [Session.step_of_off (Bool.eq_false_of_not_eq_true hirq) hne]
    exact h.responded
  by_cases hirq : t.sys.usbIrq = true
  · cases e with
    | bulkOut packet =>
      have hout := Ongoing.responded_bulkOut h.phase h.responded h.packSize hirq hok.1 hok.2
      unfold Session.step PhantomDrive.step
      dsimp only
      rw [if_pos hirq]
      exact hout
    | bulkIn =>
      have hin := Ongoing.responded_bulkIn h.phase h.responded
      unfold Session.step PhantomDrive.step observe
      dsimp only
      rw [if_pos hirq, if_pos hirq]
      exact hin
    | main io => exact Ongoing.responded_main hinit io h.phase h.responded
  · cases e with
    | bulkOut packet => exact hoff hirq fun io => Event.noConfusion
    | bulkIn => exact hoff hirq fun io => Event.noConfusion
    | main io => exact Ongoing.responded_main hinit io h.phase h.responded

/-- The session that starts in a quiet state. -/
theorem inPhase_at {dev : Device} {s : Sys} (h : s.Quiet) : (Session.at s).InPhase dev :=
  .idling ⟨h.toAtRest, rfl, le_rfl, h.transferFlags, h.txCtrl,
    Or.inl ⟨validSignature_none, List.drop_length⟩⟩

/-- Before the first CBW there is nothing to respond to. -/
theorem responded_none {dev : Device} {s : Sys} :
    (Session.at s).exchange.Responded dev s.drive.bot := by
  intro hvalid
  exact absurd (validSignature_none.symm.trans hvalid) Bool.false_ne_true

/-- A command without a data phase sends no data. -/
theorem Ongoing.dataOf_none {dev : Device} {x : Exchange} {b : Bot} {pc : MainPc}
    (h : Ongoing dev x b pc) (hphase : x.dataPhase dev = .none) : dataOf (x.packets b) = [] := by
  have hne : ∀ {phase : DataPhase} {P : Prop}, x.dataPhase dev = phase → phase ≠ .none → P :=
    fun heq hne => absurd (heq.symm.trans hphase) hne
  have hfinished : x.Finished dev b → dataOf (x.packets b) = [] := by
    rintro ⟨datas, hpackets, hsettled⟩
    rw [Exchange.Settled, hphase] at hsettled
    rw [hpackets, dataOf_append_csw, ← List.length_eq_zero_iff, length_dataOf]
    exact hsettled.1
  have hnil : x.packets b = [] → dataOf (x.packets b) = [] := fun hnil => by
    rw [hnil]
    rfl
  cases h with
  | idling h => exact h.finished.elim (fun hnone => hnil hnone.2) fun h => hfinished h.2
  | responding h => exact hne h.dataPhase DataPhase.noConfusion
  | halted h => exact hnil h.packets
  | reading h => exact hne h.dataPhase DataPhase.noConfusion
  | awaiting h => exact hne h.dataPhase DataPhase.noConfusion
  | writing h => exact hne h.dataPhase DataPhase.noConfusion
  | closing h =>
    rcases h.dataPhase with heq | heq
    · exact hne heq DataPhase.noConfusion
    · exact hne heq DataPhase.noConfusion
  | closed h => exact hfinished h.finished
  | void h => exact hnil h.packets

/-- **The data-in phase.**  From every reachable state in which no command is in progress, in every
orderly run whose data-in commands answer: the data queued for a command that is not a READ(10)
are its own response, up to the host length, and none if it is rejected. -/
theorem response_run (dev : Device) (hinit : dev.initTxCtrl = .nak) (card : Card)
    (earlier events : List Event)
    (hquiet : (Runs.run (step dev) (Sys.init dev card) earlier).Quiet)
    (hrun : Runs.Along (Session.step dev) (fun t e => Orderly t e ∧ Answerable dev t e)
      (Session.at (Runs.run (step dev) (Sys.init dev card) earlier)) events) :
    let t := Runs.run (Session.step dev)
      (Session.at (Runs.run (step dev) (Sys.init dev card) earlier)) events
    t.exchange.cbw.validSignature = true → t.exchange.cbw.dataLen ≠ 0 →
      t.exchange.cbw.dirIn = true → t.exchange.cbw.isRead10 = false →
        dataOf (t.exchange.packets t.sys.drive.bot)
          = if t.exchange.rejected dev then []
            else t.exchange.response.take t.exchange.cbw.dataLen.toNat := by
  intro t hvalid hlen hdir hread
  have hinv : ResponseInv dev t := Runs.invariant (P := ResponseInv dev) (responseInv_step hinit)
    ⟨inPhase_at hquiet, packSize_run dev card earlier, responded_none⟩ hrun
  rcases hrejected : t.exchange.rejected dev with - | -
  · have hphase : t.exchange.dataPhase dev = .respond := by
      rw [Exchange.dataPhase, hrejected, hdir, hread, decide_eq_false hlen]
      rfl
    exact (hinv.responded hvalid hphase).1
  · have hphase : t.exchange.dataPhase dev = .none := by
      rw [Exchange.dataPhase, hrejected]
      rfl
    exact Ongoing.dataOf_none hinv.phase hphase

/-- The first command of a run is an INQUIRY. -/
theorem response_run_inquiry :
    let t := Runs.run (Session.step sampleDevice)
      (Session.at (Runs.run (step sampleDevice) (Sys.init sampleDevice fun _ _ => 0) []))
      (sampleInquiry 36)
    dataOf (t.exchange.packets t.sys.drive.bot)
      = if t.exchange.rejected sampleDevice then []
        else t.exchange.response.take t.exchange.cbw.dataLen.toNat :=
  response_run sampleDevice rfl (fun _ _ => 0) [] (sampleInquiry 36)
    ⟨⟨rfl, rfl, Or.inl rfl⟩, rfl, rfl⟩
    ⟨⟨⟨fun _ _ => rfl, fun _ => rfl⟩, fun _ _ _ _ _ => rfl⟩,
      ⟨⟨fun _ => EpResponse.noConfusion, trivial⟩, trivial⟩,
      ⟨⟨fun _ => EpResponse.noConfusion, trivial⟩, trivial⟩, trivial⟩
    rfl (by decide +kernel) rfl rfl

/-- A REQUEST SENSE for 252 bytes, the first command of a run, is sent 252 bytes: its 18, the rest of
the buffer and what lies behind it. -/
theorem requestSense_reads_on :
    let t := Runs.run (Session.step sampleDevice) (Session.init sampleDevice fun _ _ => 0)
      [.bulkOut (cbwPacket 0x80 252 [0x03])]
    t.exchange.cbw.validSignature = true ∧ t.exchange.cbw.dirIn = true
      ∧ t.exchange.cbw.isRead10 = false ∧ t.exchange.rejected sampleDevice = false
      ∧ t.exchange.response.length = 18
      ∧ (dataOf (t.exchange.packets t.sys.drive.bot)).length = 252
      ∧ dataOf (t.exchange.packets t.sys.drive.bot)
        ≠ t.exchange.response.take t.exchange.cbw.dataLen.toNat := by
  intro t
  have hpackets : ∃ b : Bot, t.exchange.packets t.sys.drive.bot
      = [.data (b.responseBytes sampleDevice 252)] := ⟨_, rfl⟩
  obtain ⟨b, hpackets⟩ := hpackets
  have hcbw : t.exchange.cbw = .ofPacket (cbwPacket 0x80 252 [0x03]) := rfl
  have hresponse : t.exchange.response.length = 18 := rfl
  have hsent : (dataOf (t.exchange.packets t.sys.drive.bot)).length = 252 := by
    rw [hpackets]
    show (b.responseBytes sampleDevice 252 ++ []).length = 252
    rw [List.append_nil, Bot.responseBytes, List.length_map, List.length_range]
  refine ⟨rfl, ?_, rfl, rfl, hresponse, hsent, fun heq => ?_⟩
  · rw [hcbw]
    decide +kernel
  · rw [heq, List.length_take, hresponse] at hsent
    omega

end PhantomDrive
