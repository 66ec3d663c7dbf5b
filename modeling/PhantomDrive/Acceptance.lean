/-
PhantomDrive/Acceptance.lean

Under which lock state a command runs.  The USB interrupt accepts a CBW and `main` executes it, with
an attempt to unlock possibly in between.  An observer notes of the last CBW that was accepted its
tag, the lock state at that time, and whether the host has taken its CSW.

A READ(10) or WRITE(10) always runs under the lock state of its acceptance: the drive switches when
nothing is pending, so what is executed later was accepted later (`locked_of_executes`).  That the
CSW of the last command was taken before is a matter of the flags: as long as a CSW is outstanding,
something in the state will send it (`Owed`), unless the CBW came between the load and the store of
`transfer_flags &= ~BOT_FLAG_DATA_IN` and lost what it had set.

Main results: `unlock_run`, `unlock_with_lost_command`.
-/
import PhantomDrive.Session
import PhantomDrive.LockState
import PhantomDrive.ReadGuard
import PhantomDrive.HostView

namespace PhantomDrive

/-! ### The observer -/

/-- What is noted of the last CBW that was accepted. -/
structure Accepted where
  /-- `dCBWTag`. -/
  tag : Vector UInt8 4
  /-- `phantomdrive_is_locked()` when it came. -/
  locked : Bool
  /-- The host has not taken its CSW. -/
  outstanding : Bool

/-- Before the first CBW. -/
def Accepted.none : Accepted := ⟨Vector.replicate 4 0, true, false⟩

/-- The packet is a CSW with this tag. -/
def InPacket.answers (tag : Vector UInt8 4) : InPacket → Bool
  | .csw bytes => bytes.take 8 = (cswBytes tag .passed).take 8
  | .data _ => false

/-- The device takes the packet as a CBW, and it has a signature. -/
def Sys.accepts (s : Sys) (packet : List UInt8) : Bool :=
  s.TakesCbw packet && (BulkOnlyCmd.ofPacket packet).validSignature

/-- What the observer notes about one event. -/
def note (x : Accepted) (s : Sys) : Event → Accepted
  | .bulkOut packet =>
      if s.accepts packet then
        ⟨(BulkOnlyCmd.ofPacket packet).tag, s.drive.phantom.isLocked, true⟩
      else x
  | .bulkIn =>
      if s.usbIrq && s.drive.bot.txCtrl = .ack && s.drive.bot.txBuff.answers x.tag then
        { x with outstanding := false }
      else x
  | .main _ => x

/-- The firmware and the observer. -/
structure Watch where
  accepted : Accepted
  sys : Sys

def Watch.init (dev : Device) (card : Card) : Watch := ⟨.none, Sys.init dev card⟩

def Watch.step (dev : Device) (t : Watch) (e : Event) : Watch :=
  ⟨note t.accepted t.sys e, PhantomDrive.step dev t.sys e⟩

/-! ### What is promised -/

/-- What the host promises: a CBW comes when it has taken the CSW of the last one. -/
def OneAtATime (t : Watch) : Event → Prop
  | .bulkOut packet => t.sys.TakesCbw packet → t.accepted.outstanding = false
  | _ => True

instance (t : Watch) : ∀ e, Decidable (OneAtATime t e)
  | .bulkOut packet =>
      inferInstanceAs (Decidable (t.sys.TakesCbw packet → t.accepted.outstanding = false))
  | .bulkIn | .main _ => .isTrue trivial

/-- The flags that `main` is about to store behind the CSW of a READ(10). -/
def MainPc.storesBehindRead : MainPc → Option TransferFlags
  | .readFlagsStore flags => some flags
  | _ => none

/-- A CBW that comes between the load of `transfer_flags &= ~BOT_FLAG_DATA_IN` and its store can do
without the flags it sets: `main` stores a pending CSW, or the CBW is a READ(10) that is marked for
`bot_poll`, or it was answered at once. -/
def NotLost (dev : Device) (t : Watch) : Event → Prop
  | .bulkOut packet => t.sys.accepts packet = true → ∀ flags ∈ t.sys.pc.storesBehindRead,
      let b := botHandleBulkOut dev t.sys.drive.phantom.isLocked packet t.sys.drive.bot
      flags.cswPending = true ∨ b.readPending = true ∨ b.transferFlags.cswPending = false
  | _ => True

instance (dev : Device) (t : Watch) : ∀ e, Decidable (NotLost dev t e)
  | .bulkOut packet =>
      inferInstanceAs (Decidable (t.sys.accepts packet = true →
        ∀ flags ∈ t.sys.pc.storesBehindRead,
          let b := botHandleBulkOut dev t.sys.drive.phantom.isLocked packet t.sys.drive.bot
          flags.cswPending = true ∨ b.readPending = true ∨ b.transferFlags.cswPending = false))
  | .bulkIn | .main _ => .isTrue trivial

/-- `main` is in `msc_read_sectors` or `msc_write_sectors`. -/
def MainPc.executes (pc : MainPc) : Bool := pc.inRead || pc.inWrite

/-- A step that serves the host under one lock state: the drive switches when it is idle and the
host has taken the CSW of the last CBW; what is executed runs under the lock state at acceptance. -/
structure Coherent (dev : Device) (t : Watch) (e : Event) : Prop where
  switches : t.sys.drive.phantom.isLocked = true →
    (step dev t.sys e).drive.phantom.isLocked = false →
      t.accepted.outstanding = false ∧ t.sys.drive.bot.Idle
  executes : t.sys.pc.executes = true → t.sys.drive.phantom.isLocked = t.accepted.locked

/-! ### A CSW that is owed -/

/-- `main` is on its way to `bot_send_csw`, and reads the tag only there. -/
def MainPc.sendsCsw : MainPc → Bool
  | .readTake | .readCount | .readZero _ | .readLba _ | .readStart .. | .readRun ..
  | .readAdvanceLoad _ | .readAdvanceStore _ | .writeFlagsStore _ | .csw .clear _
  | .csw .fill _ => true
  | _ => false

/-- `transfer_flags` when the next store of `main` is done. -/
def MainPc.flagsAfter (b : Bot) : MainPc → TransferFlags
  | .readFlagsStore flags => flags
  | _ => b.transferFlags

/-- EP1 IN sends a CSW with this tag. -/
def Bot.answers (b : Bot) (tag : Vector UInt8 4) : Prop :=
  b.txCtrl = .ack ∧ b.txBuff.answers tag = true

/-- The CSW is in the buffer that `main` copies, or in the one it hands to the endpoint, or there
already. -/
def MainPc.CswInHand (tag : Vector UInt8 4) (b : Bot) : MainPc → Prop
  | .csw .copy _ => (InPacket.csw (b.cbwCsw.toList.take 13)).answers tag = true
  | .csw .ack _ => b.txBuff.answers tag = true
  | _ => b.answers tag

/-- **Something will send the CSW**: `main` on its way, a READ(10), the flags, or the endpoint. -/
def Owed (tag : Vector UInt8 4) (b : Bot) (pc : MainPc) : Prop :=
  pc.sendsCsw = true ∨ b.readPending = true ∨ (pc.flagsAfter b).cswPending = true
    ∨ pc.CswInHand tag b

/-- The CSW is queued, and was built in `g_cbw_csw` before. -/
structure CswReady (tag : Vector UInt8 4) (b : Bot) : Prop where
  sent : b.answers tag
  built : (InPacket.csw (b.cbwCsw.toList.take 13)).answers tag = true

/-- No data are left to be sent without a CSW behind them. -/
def TransferFlags.Wf (flags : TransferFlags) : Prop :=
  flags.dataIn = true → flags.cswPending = true

section Owed

variable {dev : Device} {tag : Vector UInt8 4} {b b' : Bot} {pc : MainPc}

theorem answers_cswBytes (tag : Vector UInt8 4) (status : CswStatus) :
    (InPacket.csw (cswBytes tag status)).answers tag = true := decide_eq_true rfl

theorem Owed.of_ready (h : CswReady tag b) : Owed tag b pc := by
  refine Or.inr (Or.inr (Or.inr ?_))
  cases pc with
  | csw stage caller =>
    cases stage with
    | copy => exact h.built
    | ack => exact h.sent.2
    | clear => exact h.sent
    | fill => exact h.sent
  | _ => exact h.sent

theorem cswReady_botSendCsw (b : Bot) : CswReady b.cbwTag (botSendCsw b) where
  sent := by
    refine ⟨rfl, ?_⟩
    rw [botSendCsw_txBuff]
    exact answers_cswBytes ..
  built := by
    have hbuilt : (botSendCsw b).cbwCsw.toList.take 13 = cswBytes b.cbwTag b.cswStatus :=
      take_botSendCswFill (botSendCswClear b)
    rw [hbuilt]
    exact answers_cswBytes ..

/-- The flags count, except where `main` is about to overwrite them. -/
theorem Owed.of_flags (h : b.transferFlags.cswPending = true)
    (hpc : ∀ flags, pc ≠ .readFlagsStore flags) : Owed tag b pc := by
  refine Or.inr (Or.inr (Or.inl ?_))
  cases pc with
  | readFlagsStore flags => exact absurd rfl (hpc flags)
  | _ => exact h

/-- What is owed does not depend on the rest of the transport layer. -/
theorem Owed.of_same (h : Owed tag b pc) (hread : b'.readPending = b.readPending)
    (hflags : b'.transferFlags = b.transferFlags) (hctrl : b'.txCtrl = b.txCtrl)
    (hbuff : b'.txBuff = b.txBuff) (hcmd : b'.cbwCsw = b.cbwCsw) : Owed tag b' pc := by
  have hafter : pc.flagsAfter b' = pc.flagsAfter b := by
    cases pc with
    | readFlagsStore flags => rfl
    | _ => exact hflags
  have hhand : pc.CswInHand tag b' ↔ pc.CswInHand tag b := by
    unfold MainPc.CswInHand Bot.answers
    rw [hctrl, hbuff, hcmd]
  unfold Owed
  rw [hread, hafter, hhand]
  exact h

/-- **An IN completion** that does not take the CSW leaves it owed. -/
theorem Owed.bulkIn (h : Owed tag b pc) (hwf : b.transferFlags.Wf) (htag : b.cbwTag = tag)
    (hnot : ¬ b.answers tag) :
    (botHandleBulkIn dev { b with txCtrl := .nak }).cbwTag = tag
      ∧ Owed tag (botHandleBulkIn dev { b with txCtrl := .nak }) pc := by
  rcases botHandleBulkIn_cases dev { b with txCtrl := .nak } with
    ⟨-, -, heq⟩ | ⟨hin, -, hsends⟩ | ⟨-, -, heq⟩ | ⟨-, hnone, heq⟩
  · rw [heq]
    exact ⟨htag, Or.inr (Or.inl rfl)⟩
  · -- more data go out, and the CSW is still pending behind them
    obtain ⟨bytes, left, dataIn, heq, -, -⟩ := hsends
    rw [heq]
    refine ⟨htag, ?_⟩
    cases pc with
    | readFlagsStore flags =>
      rcases h with hpc | hread | hflags | hhand
      · cases hpc
      · exact Or.inr (Or.inl hread)
      · exact Or.inr (Or.inr (Or.inl hflags))
      · exact absurd hhand hnot
    | _ => exact Owed.of_flags (hwf hin) fun _ => MainPc.noConfusion
  · rw [heq]
    refine ⟨htag, ?_⟩
    apply Owed.of_ready
    rw [← htag]
    exact cswReady_botSendCsw { b with txCtrl := .nak }
  · -- nothing is sent: what was queued was not the CSW
    rw [heq]
    refine ⟨htag, ?_⟩
    rcases h with hpc | hread | hflags | hhand
    · exact Or.inl hpc
    · exact Or.inr (Or.inl hread)
    · refine Or.inr (Or.inr (Or.inl ?_))
      cases pc with
      | readFlagsStore flags => exact hflags
      | _ => exact hflags
    · refine Or.inr (Or.inr (Or.inr ?_))
      cases pc with
      | csw stage caller =>
        cases stage with
        | copy => exact hhand
        | ack => exact hhand
        | clear => exact absurd hhand hnot
        | fill => exact absurd hhand hnot
      | _ => exact absurd hhand hnot

/-- **An accepted CBW** is owed its CSW: the flags say so, or it was answered at once. -/
theorem botHandleBulkOut_accepts (dev : Device) (locked : Bool) {packet : List UInt8}
    (hout : b.transferFlags.dataOut = false) (hlen : packet.length = 31)
    (hvalid : (BulkOnlyCmd.ofPacket packet).validSignature = true) :
    let b' := botHandleBulkOut dev locked packet b
    b'.cbwTag = (BulkOnlyCmd.ofPacket packet).tag
      ∧ (b'.transferFlags.cswPending = true
        ∨ b'.transferFlags = .none ∧ CswReady (BulkOnlyCmd.ofPacket packet).tag b') := by
  rcases botHandleBulkOut_cases dev locked packet b with
    ⟨hdata, -⟩ | ⟨-, hother, -⟩ | ⟨-, -, hinvalid, -⟩ | ⟨-, -, -, heq⟩
  · exact absurd (hout.symm.trans hdata) Bool.false_ne_true
  · exact absurd hlen hother
  · exact absurd (hinvalid.symm.trans hvalid) Bool.false_ne_true
  have hd := scsiDispatchCommand_dispatched dev locked (b.begun packet)
  have ha := scsiDispatchCommand_answered dev locked (b.begun packet)
  have htag : (scsiDispatchCommand dev locked (b.begun packet)).cbwTag
      = (BulkOnlyCmd.ofPacket packet).tag := ha.cbwTag
  have hpending : (scsiDispatchCommand dev locked
      (b.begun packet)).transferFlags.cswPending = true := by
    rw [hd.transferFlags]
    split
    · rfl
    · rfl
  dsimp only
  rw [heq]
  generalize scsiDispatchCommand dev locked (b.begun packet) = b₁ at htag hpending ⊢
  generalize (BulkOnlyCmd.ofPacket packet).tag = tag at htag ⊢
  rcases botStartCommand_cases dev b₁ with
    hsame | ⟨-, -, -, hread⟩ | ⟨-, -, -, bytes, left, dataIn, hsends, -, -⟩ | ⟨-, -, hcsw⟩
  · rw [hsame]
    exact ⟨htag, Or.inl hpending⟩
  · rw [hread]
    exact ⟨htag, Or.inl hpending⟩
  · rw [hsends]
    exact ⟨htag, Or.inl hpending⟩
  · rw [hcsw]
    refine ⟨htag, Or.inr ⟨rfl, ?_⟩⟩
    rw [← htag]
    exact cswReady_botSendCsw _

/-- Nothing is owed by an idle drive whose `main` is at the attempt to unlock. -/
theorem Owed.not_idle (h : Owed tag b .pollUnlock) : ¬ b.Idle := by
  rintro ⟨hflags, hread, -, hctrl⟩
  rcases h with hpc | hpending | hcsw | hhand
  · cases hpc
  · exact absurd (hread.symm.trans hpending) Bool.false_ne_true
  · have hnone : b.transferFlags.cswPending = true := hcsw
    rw [hflags] at hnone
    cases hnone
  · exact absurd (hctrl.symm.trans hhand.1) EpResponse.noConfusion

/-- **A step of `main`** leaves owed what is owed. -/
theorem Owed.main (io : MainIo) {s : Sys} (htag : s.drive.bot.cbwTag = tag)
    (h : Owed tag s.drive.bot s.pc) :
    (mainStep dev io s).drive.bot.cbwTag = tag
      ∧ Owed tag (mainStep dev io s).drive.bot (mainStep dev io s).pc := by
  cases hpc : s.pc with
  | poll =>
    rw [hpc] at h
    simp only [mainStep, hpc]
    refine ⟨htag, ?_⟩
    show Owed tag s.drive.bot (if _ then _ else _)
    split
    · exact Or.inl rfl
    · exact h
  | readRun preqnum actualLba =>
    simp only [mainStep, hpc]
    rcases readRun_cases dev io preqnum actualLba s with hsame | ⟨packets, hsame⟩
    · rw [hsame]
      exact ⟨htag, h⟩
    · rw [hsame]
      exact ⟨htag, Or.inl rfl⟩
  | csw stage caller =>
    rw [hpc] at h
    cases stage with
    | clear =>
      simp only [mainStep, hpc]
      exact ⟨htag, Or.inl rfl⟩
    | fill =>
      -- the CSW is built for the tag that stands in `g_bot` now
      simp only [mainStep, hpc]
      refine ⟨htag, Or.inr (Or.inr (Or.inr ?_))⟩
      show (InPacket.csw ((botSendCswFill s.drive.bot).cbwCsw.toList.take 13)).answers tag = true
      rw [take_botSendCswFill, htag]
      exact answers_cswBytes ..
    | copy =>
      simp only [mainStep, hpc]
      exact ⟨htag, h⟩
    | ack =>
      rcases h with hsends | hread | hflags | hhand
      · cases hsends
      all_goals
        cases caller
        all_goals simp only [mainStep, hpc]
      · exact ⟨htag, Or.inr (Or.inl hread)⟩
      · exact ⟨htag, Or.inr (Or.inl hread)⟩
      · exact ⟨htag, Or.inr (Or.inr (Or.inl hflags))⟩
      · exact ⟨htag, Or.inr (Or.inr (Or.inl hflags))⟩
      · exact ⟨htag, Or.inr (Or.inr (Or.inr ⟨rfl, hhand⟩))⟩
      · exact ⟨htag, Or.inr (Or.inr (Or.inr ⟨rfl, hhand⟩))⟩
  | pollWrite =>
    rw [hpc] at h
    simp only [mainStep, hpc]
    refine ⟨htag, ?_⟩
    show Owed tag s.drive.bot (if _ then _ else _)
    split
    · exact h
    · exact h
  | writeRun stream =>
    rw [hpc] at h
    simp only [mainStep, hpc]
    rcases writeRun_cases dev io stream s with ⟨-, hsame⟩ | ⟨-, d', heffect, hsame⟩
    · rw [hsame]
      exact ⟨htag, h⟩
    have hbot : d'.bot.cbwTag = tag ∧ Owed tag d'.bot (.writeRun stream) := by
      rcases heffect.bot with hbot | hbot
      · rw [hbot]
        exact ⟨htag, h⟩
      · rw [hbot]
        exact ⟨htag, h.of_same rfl rfl rfl rfl rfl⟩
    rcases hsame with hsame | hsame
    · rw [hsame]
      exact hbot
    · rw [hsame]
      exact hbot
  | writeCheck =>
    rw [hpc] at h
    simp only [mainStep, hpc]
    refine ⟨htag, ?_⟩
    show Owed tag s.drive.bot (if _ then _ else _)
    split
    · exact h
    · exact h
  | pollUnlock =>
    rw [hpc] at h
    simp only [mainStep, hpc]
    rcases pollUnlock_cases dev io s with hsame | ⟨-, hsame⟩
    · rw [hsame]
      exact ⟨htag, h⟩
    · -- the drive is not idle, so the attempt leaves it alone
      rw [hsame, phantomdriveTryUnlock_busy dev io.unlock h.not_idle]
      exact ⟨htag, h⟩
  | readFlagsLoad =>
    rw [hpc] at h
    simp only [mainStep, hpc]
    exact ⟨htag, h⟩
  | readFlagsStore flags =>
    rw [hpc] at h
    simp only [mainStep, hpc]
    exact ⟨htag, h⟩
  | writeTake | writeCount | writeLba | writeZero | writeStart | writeDone =>
    rw [hpc] at h
    simp only [mainStep, hpc]
    exact ⟨htag, h⟩
  | _ =>
    simp only [mainStep, hpc]
    exact ⟨htag, Or.inl rfl⟩

end Owed

/-! ### Flags -/

/-- The flags that `main` has loaded and is about to store. -/
def MainPc.loaded : MainPc → Option TransferFlags
  | .readFlagsStore flags | .writeFlagsStore flags => some flags
  | _ => none

/-- The flags in memory and those `main` has loaded. -/
structure FlagsInv (s : Sys) : Prop where
  flags : s.drive.bot.transferFlags.Wf
  loaded : ∀ flags, s.pc.loaded = some flags → flags.Wf

section Flags

variable {dev : Device} {s : Sys}

theorem wf_none : TransferFlags.none.Wf := fun h => Bool.noConfusion h

theorem wf_of_cswPending {flags : TransferFlags} (h : flags.cswPending = true) : flags.Wf :=
  fun _ => h

theorem wf_of_not_loaded {pc : MainPc} (h : pc.loaded = none) :
    ∀ flags, pc.loaded = some flags → flags.Wf := by
  intro flags hsome
  rw [h] at hsome
  cases hsome

theorem FlagsInv.goOn {s' : Sys} (h : FlagsInv s)
    (hflags : s'.drive.bot.transferFlags = s.drive.bot.transferFlags) (hpc : s'.pc.loaded = none) :
    FlagsInv s' where
  flags := by
    rw [hflags]
    exact h.flags
  loaded := wf_of_not_loaded hpc

theorem FlagsInv.main (io : MainIo) (h : FlagsInv s) : FlagsInv (mainStep dev io s) := by
  cases hpc : s.pc with
  | poll =>
    simp only [mainStep, hpc]
    refine h.goOn rfl ?_
    show (if _ then _ else _ : MainPc).loaded = none
    split
    · rfl
    · rfl
  | readRun preqnum actualLba =>
    have hloaded := h.loaded
    simp only [mainStep, hpc]
    rcases readRun_cases dev io preqnum actualLba s with hsame | ⟨packets, hsame⟩
    · rw [hsame]
      exact h
    · rw [hsame]
      exact h.goOn rfl rfl
  | csw stage caller =>
    cases stage with
    | clear =>
      simp only [mainStep, hpc]
      exact ⟨wf_none, wf_of_not_loaded rfl⟩
    | fill =>
      simp only [mainStep, hpc]
      exact h.goOn rfl rfl
    | copy =>
      simp only [mainStep, hpc]
      exact h.goOn rfl rfl
    | ack =>
      cases caller
      all_goals
        simp only [mainStep, hpc]
        exact h.goOn rfl rfl
  | readFlagsLoad =>
    simp only [mainStep, hpc]
    refine ⟨h.flags, ?_⟩
    rintro flags hsome
    obtain rfl := Option.some.inj hsome
    exact fun hin => Bool.noConfusion hin
  | writeFlagsLoad =>
    simp only [mainStep, hpc]
    refine ⟨h.flags, ?_⟩
    rintro flags hsome
    obtain rfl := Option.some.inj hsome
    exact h.flags
  | readFlagsStore flags =>
    have hloaded := h.loaded flags (by rw [hpc]; rfl)
    simp only [mainStep, hpc]
    exact ⟨hloaded, wf_of_not_loaded rfl⟩
  | writeFlagsStore flags =>
    have hloaded := h.loaded flags (by rw [hpc]; rfl)
    simp only [mainStep, hpc]
    exact ⟨hloaded, wf_of_not_loaded rfl⟩
  | pollWrite =>
    simp only [mainStep, hpc]
    refine h.goOn rfl ?_
    show (if _ then _ else _ : MainPc).loaded = none
    split
    · rfl
    · rfl
  | writeRun stream =>
    simp only [mainStep, hpc]
    rcases writeRun_cases dev io stream s with ⟨-, hsame⟩ | ⟨-, d', heffect, hsame⟩
    · rw [hsame]
      exact h.goOn rfl rfl
    have hflags : d'.bot.transferFlags = s.drive.bot.transferFlags := by
      rcases heffect.bot with hbot | hbot
      · rw [hbot]
      · rw [hbot]
        rfl
    rcases hsame with hsame | hsame
    · rw [hsame]
      exact h.goOn hflags rfl
    · rw [hsame]
      exact h.goOn hflags rfl
  | writeCheck =>
    simp only [mainStep, hpc]
    refine h.goOn rfl ?_
    show (if _ then _ else _ : MainPc).loaded = none
    split
    · rfl
    · rfl
  | pollUnlock =>
    simp only [mainStep, hpc]
    rcases pollUnlock_cases dev io s with hsame | ⟨-, hsame⟩
    · rw [hsame]
      exact h.goOn rfl rfl
    rw [hsame]
    rcases phantomdriveTryUnlock_cases dev io.unlock s.drive with hgive | hswitch
    · have hflags : (phantomdriveTryUnlock dev io.unlock s.drive).bot.transferFlags
          = s.drive.bot.transferFlags := by
        rcases hgive.bot with hbot | ⟨-, hbot⟩
        · rw [hbot]
        · rw [hbot]
          rfl
      exact h.goOn hflags rfl
    · obtain ⟨card, len, passwordLen, -, hdrive⟩ := hswitch.switched
      rw [hdrive]
      exact ⟨wf_none, wf_of_not_loaded rfl⟩
  | _ =>
    simp only [mainStep, hpc]
    exact h.goOn rfl rfl

theorem FlagsInv.bulkIn (h : FlagsInv s) :
    (botHandleBulkIn dev { s.drive.bot with txCtrl := .nak }).transferFlags.Wf := by
  rcases botHandleBulkIn_cases dev { s.drive.bot with txCtrl := .nak } with
    ⟨-, -, heq⟩ | ⟨hin, -, bytes, left, dataIn, heq, -, -⟩ | ⟨-, -, heq⟩ | ⟨-, -, heq⟩
  · rw [heq]
    exact h.flags
  · rw [heq]
    exact wf_of_cswPending (h.flags hin)
  · rw [heq]
    exact wf_none
  · rw [heq]
    exact h.flags

theorem FlagsInv.bulkOut (h : FlagsInv s) (locked : Bool) (packet : List UInt8) :
    (botHandleBulkOut dev locked packet s.drive.bot).transferFlags.Wf := by
  rcases botHandleBulkOut_cases dev locked packet s.drive.bot with
    ⟨-, heq⟩ | ⟨-, -, heq⟩ | ⟨-, -, -, heq⟩ | ⟨hout, hlen, hvalid, -⟩
  · rw [heq]
    exact h.flags
  · rw [heq]
    exact h.flags
  · rw [heq]
    exact fun hin => Bool.noConfusion hin
  · rcases (botHandleBulkOut_accepts dev locked hout hlen hvalid).2 with hcsw | ⟨hnone, -⟩
    · exact wf_of_cswPending hcsw
    · rw [hnone]
      exact wf_none

end Flags

/-! ### What runs was accepted under the same lock -/

/-- `main` has nothing to do, and no command is in progress. -/
structure Quiet (s : Sys) : Prop where
  transferFlags : s.drive.bot.transferFlags = .none
  readPending : s.drive.bot.readPending = false
  writePending : s.drive.bot.writePending = false
  pc : s.pc = .poll ∨ s.pc = .pollWrite ∨ s.pc = .pollUnlock

/-- The last CBW was accepted under the lock state of now, or nothing is left of it. -/
def SameLockSince (t : Watch) : Prop :=
  t.sys.drive.phantom.isLocked = t.accepted.locked ∨ Quiet t.sys

section Lock

variable {dev : Device} {t : Watch} {s : Sys}

/-- Nothing starts by itself, and an attempt to unlock leaves nothing behind. -/
theorem Quiet.main (io : MainIo) (h : Quiet s) : Quiet (mainStep dev io s) := by
  rcases h.pc with hpc | hpc | hpc
  · simp only [mainStep, hpc]
    refine ⟨h.transferFlags, h.readPending, h.writePending, Or.inr (Or.inl ?_)⟩
    exact if_neg (by rw [h.readPending]; exact Bool.false_ne_true)
  · simp only [mainStep, hpc]
    refine ⟨h.transferFlags, h.readPending, h.writePending, Or.inr (Or.inr ?_)⟩
    exact if_neg (by rw [h.writePending]; exact Bool.false_ne_true)
  · simp only [mainStep, hpc]
    rcases pollUnlock_cases dev io s with hsame | ⟨-, hsame⟩
    · rw [hsame]
      exact ⟨h.transferFlags, h.readPending, h.writePending, Or.inl rfl⟩
    rw [hsame]
    rcases phantomdriveTryUnlock_cases dev io.unlock s.drive with hgive | hswitch
    · rcases hgive.bot with hbot | ⟨-, hbot⟩
      · refine ⟨?_, ?_, ?_, Or.inl rfl⟩
        · exact (congrArg Bot.transferFlags hbot).trans h.transferFlags
        · exact (congrArg Bot.readPending hbot).trans h.readPending
        · exact (congrArg Bot.writePending hbot).trans h.writePending
      · refine ⟨?_, ?_, ?_, Or.inl rfl⟩
        · exact (congrArg Bot.transferFlags hbot).trans h.transferFlags
        · exact (congrArg Bot.readPending hbot).trans h.readPending
        · exact (congrArg Bot.writePending hbot).trans h.writePending
    · obtain ⟨card, len, passwordLen, -, hdrive⟩ := hswitch.switched
      rw [hdrive]
      exact ⟨rfl, rfl, rfl, Or.inl rfl⟩

theorem isLocked_snoops {d d' : Drive} (h : Snoops d d') :
    d'.phantom.isLocked = d.phantom.isLocked := by
  obtain ⟨hbefore, hafter⟩ := h.not_unlocked
  exact (decide_eq_true hafter).trans (decide_eq_true hbefore).symm

/-- An attempt to unlock gives up and leaves the lock alone, or switches an idle drive, and then
nothing is left of a command. -/
theorem pollUnlock_lock (io : MainIo) (s : Sys) :
    (pollUnlock dev io s).drive.phantom.isLocked = s.drive.phantom.isLocked
      ∨ s.drive.bot.Idle ∧ Quiet (pollUnlock dev io s) := by
  rcases pollUnlock_cases dev io s with hsame | ⟨-, hsame⟩
  · rw [hsame]
    exact Or.inl rfl
  rw [hsame]
  rcases phantomdriveTryUnlock_cases dev io.unlock s.drive with hgive | hswitch
  · rcases hgive.phantom with hphantom | ⟨len, -, -, hphantom⟩
    · exact Or.inl (congrArg Phantom.isLocked hphantom)
    · exact Or.inl ((congrArg Phantom.isLocked hphantom).trans rfl)
  · obtain ⟨card, len, passwordLen, -, hdrive⟩ := hswitch.switched
    rw [hdrive]
    exact Or.inr ⟨hswitch.idle, rfl, rfl, rfl, Or.inl rfl⟩

/-- Only an attempt to unlock changes the lock. -/
theorem step_isLocked (dev : Device) (e : Event) (s : Sys) :
    (step dev s e).drive.phantom.isLocked = s.drive.phantom.isLocked
      ∨ s.pc = .pollUnlock ∧ s.drive.bot.Idle ∧ Quiet (step dev s e) := by
  rcases step_lock dev s e with hsame | hsnoops | hattempts
  · exact Or.inl (congrArg Phantom.isLocked hsame.phantom)
  · exact Or.inl (isLocked_snoops hsnoops)
  have hpc := hattempts.pc
  have hinterrupt : (∀ io, e ≠ .main io) →
      (step dev s e).drive.phantom.isLocked = s.drive.phantom.isLocked := by
    intro hne
    obtain ⟨bot, rxBuff, hstep⟩ := step_interrupt dev hne
    rw [hstep]
  cases e with
  | main io =>
    have hstep : step dev s (.main io) = pollUnlock dev io s := by
      show mainStep dev io s = _
      simp only [mainStep, hpc]
    rw [hstep]
    exact (pollUnlock_lock io s).imp_right fun h => ⟨hpc, h⟩
  | bulkOut packet => exact Or.inl (hinterrupt fun io => Event.noConfusion)
  | bulkIn => exact Or.inl (hinterrupt fun io => Event.noConfusion)

theorem Quiet.bulkIn (h : Quiet s) : Quiet (step dev s .bulkIn) := by
  have hnothing : botHandleBulkIn dev { s.drive.bot with txCtrl := .nak }
      = { s.drive.bot with txCtrl := .nak } := by
    have hflags : { s.drive.bot with txCtrl := .nak }.transferFlags = .none := h.transferFlags
    unfold botHandleBulkIn
    rw [hflags]
    rfl
  unfold step
  dsimp only
  split
  · refine ⟨?_, ?_, ?_, h.pc⟩
    · exact (congrArg Bot.transferFlags hnothing).trans h.transferFlags
    · exact (congrArg Bot.readPending hnothing).trans h.readPending
    · exact (congrArg Bot.writePending hnothing).trans h.writePending
  · exact h

/-- A packet that is not accepted starts nothing. -/
theorem Quiet.bulkOut {packet : List UInt8} (h : Quiet s) (hnot : s.accepts packet = false) :
    Quiet (step dev s (.bulkOut packet)) := by
  unfold step
  dsimp only
  split
  swap
  · exact h
  rename_i hirq
  have hquiet : ∀ b : Bot, b.transferFlags = .none → b.readPending = false →
      b.writePending = false →
      botHandleBulkOut dev s.drive.phantom.isLocked packet s.drive.bot = b →
      Quiet { s with drive := s.drive.bulkOut dev packet } := by
    intro b hflags hread hwrite hbot
    refine ⟨?_, ?_, ?_, h.pc⟩
    · exact (congrArg Bot.transferFlags hbot).trans hflags
    · exact (congrArg Bot.readPending hbot).trans hread
    · exact (congrArg Bot.writePending hbot).trans hwrite
  rcases botHandleBulkOut_cases dev s.drive.phantom.isLocked packet s.drive.bot with
    ⟨hdata, -⟩ | ⟨-, -, heq⟩ | ⟨-, -, -, heq⟩ | ⟨hout, hlen, hvalid, -⟩
  · rw [h.transferFlags] at hdata
    cases hdata
  · exact hquiet _ h.transferFlags h.readPending h.writePending heq
  · rw [botRejectInvalidCbwSignature_eq] at heq
    refine hquiet _ ?_ ?_ ?_ heq
    · dsimp only
      rw [h.transferFlags]
      rfl
    · exact h.readPending
    · exact h.writePending
  · have haccepts : s.accepts packet = true :=
      Bool.and_eq_true_iff.mpr ⟨decide_eq_true ⟨hirq, hout, hlen⟩, hvalid⟩
    exact absurd (hnot.symm.trans haccepts) Bool.false_ne_true

/-- **One event** keeps the lock state of the acceptance, or finds the drive quiet. -/
theorem sameLockSince_step (e : Event) (h : SameLockSince t) :
    SameLockSince (t.step dev e) := by
  rcases step_isLocked dev e t.sys with hsame | ⟨-, -, hquiet⟩
  swap
  · exact Or.inr hquiet
  cases e with
  | bulkOut packet =>
    by_cases haccepts : t.sys.accepts packet = true
    · refine Or.inl ?_
      show _ = (note t.accepted t.sys (.bulkOut packet)).locked
      rw [note, if_pos haccepts]
      exact hsame
    · have hnote : note t.accepted t.sys (.bulkOut packet) = t.accepted := if_neg haccepts
      rcases h with hlock | hquiet
      · exact Or.inl ((hsame.trans hlock).trans (congrArg Accepted.locked hnote).symm)
      · exact Or.inr (hquiet.bulkOut (Bool.eq_false_iff.mpr haccepts))
  | bulkIn =>
    have hnote : (note t.accepted t.sys .bulkIn).locked = t.accepted.locked := by
      unfold note
      dsimp only
      split
      · rfl
      · rfl
    rcases h with hlock | hquiet
    · exact Or.inl ((hsame.trans hlock).trans hnote.symm)
    · exact Or.inr hquiet.bulkIn
  | main io =>
    rcases h with hlock | hquiet
    · exact Or.inl (hsame.trans hlock)
    · exact Or.inr (hquiet.main io)

/-- What `main` executes was accepted under the lock state of now. -/
theorem SameLockSince.executes (h : SameLockSince t) (hpc : t.sys.pc.executes = true) :
    t.sys.drive.phantom.isLocked = t.accepted.locked := by
  rcases h with hlock | hquiet
  · exact hlock
  · rcases hquiet.pc with hquietPc | hquietPc | hquietPc
    all_goals
      rw [hquietPc] at hpc
      cases hpc

end Lock

/-- In every run, what `main` executes was accepted under the lock state of now. -/
theorem locked_of_executes (dev : Device) (card : Card) (events : List Event)
    (hpc : (Runs.run (Watch.step dev) (Watch.init dev card) events).sys.pc.executes = true) :
    let t := Runs.run (Watch.step dev) (Watch.init dev card) events
    t.sys.drive.phantom.isLocked = t.accepted.locked :=
  SameLockSince.executes (Runs.invariant_of_forall (P := SameLockSince)
    (fun _ e h => sameLockSince_step e h) (Or.inl rfl) events) hpc

/-! ### The CSW of the last command -/

/-- **The invariant.** -/
structure WatchInv (t : Watch) : Prop where
  flags : FlagsInv t.sys
  owed : t.accepted.outstanding = true →
    t.sys.drive.bot.cbwTag = t.accepted.tag ∧ Owed t.accepted.tag t.sys.drive.bot t.sys.pc
  lock : SameLockSince t

theorem watchInv_init (dev : Device) (card : Card) : WatchInv (Watch.init dev card) where
  flags := ⟨wf_none, wf_of_not_loaded rfl⟩
  owed := fun h => Bool.noConfusion h
  lock := Or.inl rfl

section Inv

variable {dev : Device} {t : Watch}

theorem WatchInv.main (io : MainIo) (h : WatchInv t) : WatchInv (t.step dev (.main io)) where
  flags := h.flags.main io
  owed := fun hout => (h.owed hout).2.main io (h.owed hout).1
  lock := sameLockSince_step _ h.lock

/-- While the interrupt is off nothing comes in. -/
theorem Watch.step_masked (h : t.sys.usbIrq = false) :
    t.step dev .bulkIn = t ∧ ∀ packet, t.step dev (.bulkOut packet) = t := by
  have hoff : ¬ t.sys.usbIrq = true := by
    rw [h]
    exact Bool.false_ne_true
  have haccepts : ∀ packet, ¬ t.sys.accepts packet = true := by
    intro packet hyes
    have htakes : t.sys.TakesCbw packet := of_decide_eq_true (Bool.and_eq_true_iff.mp hyes).1
    exact hoff htakes.1
  have hnote : note t.accepted t.sys .bulkIn = t.accepted := by
    unfold note
    dsimp only
    rw [h]
    rfl
  refine ⟨?_, fun packet => ?_⟩
  · have hstep : PhantomDrive.step dev t.sys .bulkIn = t.sys := if_neg hoff
    rw [Watch.step, hstep, hnote]
  · have hstep : PhantomDrive.step dev t.sys (.bulkOut packet) = t.sys := if_neg hoff
    have hsame : note t.accepted t.sys (.bulkOut packet) = t.accepted := if_neg (haccepts packet)
    rw [Watch.step, hstep, hsame]

/-- An IN completion: the host takes the CSW that is outstanding, or it stays owed. -/
theorem WatchInv.bulkIn (h : WatchInv t) : WatchInv (t.step dev .bulkIn) := by
  rcases hirq : t.sys.usbIrq with - | -
  · rw [(Watch.step_masked hirq).1]
    exact h
  have hstep : PhantomDrive.step dev t.sys .bulkIn
      = { t.sys with drive := t.sys.drive.bulkIn dev } := if_pos hirq
  have hlock : SameLockSince (t.step dev .bulkIn) := sameLockSince_step _ h.lock
  rw [Watch.step, hstep] at hlock ⊢
  refine ⟨⟨h.flags.bulkIn, h.flags.loaded⟩, ?_, hlock⟩
  by_cases htaken : t.sys.drive.bot.answers t.accepted.tag
  · have hnote : note t.accepted t.sys .bulkIn = { t.accepted with outstanding := false } := by
      refine if_pos ?_
      rw [hirq, decide_eq_true htaken.1, htaken.2]
      rfl
    rw [hnote]
    exact fun hout => Bool.noConfusion hout
  · have hnote : note t.accepted t.sys .bulkIn = t.accepted := by
      refine if_neg fun hyes => htaken ?_
      obtain ⟨hack, hcsw⟩ := Bool.and_eq_true_iff.mp hyes
      exact ⟨of_decide_eq_true (Bool.and_eq_true_iff.mp hack).2, hcsw⟩
    rw [hnote]
    intro hout
    obtain ⟨htag, howed⟩ := h.owed hout
    exact howed.bulkIn h.flags.flags htag htaken

/-- An OUT packet: an accepted CBW is owed its CSW. -/
theorem WatchInv.bulkOut {packet : List UInt8} (h : WatchInv t)
    (hone : OneAtATime t (.bulkOut packet)) (hlost : NotLost dev t (.bulkOut packet)) :
    WatchInv (t.step dev (.bulkOut packet)) := by
  rcases hirq : t.sys.usbIrq with - | -
  · rw [(Watch.step_masked hirq).2]
    exact h
  have hstep : PhantomDrive.step dev t.sys (.bulkOut packet)
      = { t.sys with drive := t.sys.drive.bulkOut dev packet } := if_pos hirq
  have hlock : SameLockSince (t.step dev (.bulkOut packet)) := sameLockSince_step _ h.lock
  rw [Watch.step, hstep] at hlock ⊢
  refine ⟨⟨h.flags.bulkOut t.sys.drive.phantom.isLocked packet, h.flags.loaded⟩, ?_, hlock⟩
  show (note t.accepted t.sys (.bulkOut packet)).outstanding = true → _
  -- a packet that is not accepted leaves the observer alone
  have hkeep : t.sys.accepts packet = false →
      note t.accepted t.sys (.bulkOut packet) = t.accepted :=
    fun hnot => if_neg (by rw [hnot]; exact Bool.false_ne_true)
  rcases botHandleBulkOut_cases dev t.sys.drive.phantom.isLocked packet t.sys.drive.bot with
    ⟨hdata, heq⟩ | ⟨hout, hother, heq⟩ | ⟨hout, hlen, hinvalid, -⟩ | ⟨hout, hlen, hvalid, -⟩
  · -- data of a write: only `write_pending` changes
    have hnot : t.sys.accepts packet = false := by
      refine Bool.and_eq_false_iff.mpr (Or.inl (decide_eq_false ?_))
      rintro ⟨-, hout, -⟩
      exact Bool.false_ne_true (hout.symm.trans hdata)
    rw [hkeep hnot]
    intro houtstanding
    obtain ⟨htag, howed⟩ := h.owed houtstanding
    show (botHandleBulkOut dev _ packet t.sys.drive.bot).cbwTag = _
      ∧ Owed _ (botHandleBulkOut dev _ packet t.sys.drive.bot) t.sys.pc
    rw [heq]
    exact ⟨htag, howed.of_same rfl rfl rfl rfl rfl⟩
  · -- a packet of another length is dropped
    have hnot : t.sys.accepts packet = false :=
      Bool.and_eq_false_iff.mpr (Or.inl (decide_eq_false fun htakes => hother htakes.2.2))
    rw [hkeep hnot]
    intro houtstanding
    show (botHandleBulkOut dev _ packet t.sys.drive.bot).cbwTag = _
      ∧ Owed _ (botHandleBulkOut dev _ packet t.sys.drive.bot) t.sys.pc
    rw [heq]
    exact h.owed houtstanding
  · -- no signature: the endpoint stalls, but no CSW was outstanding
    have hnot : t.sys.accepts packet = false := Bool.and_eq_false_iff.mpr (Or.inr hinvalid)
    rw [hkeep hnot, hone ⟨hirq, hout, hlen⟩]
    exact fun houtstanding => Bool.noConfusion houtstanding
  · have haccepts : t.sys.accepts packet = true :=
      Bool.and_eq_true_iff.mpr ⟨decide_eq_true ⟨hirq, hout, hlen⟩, hvalid⟩
    have hnote : note t.accepted t.sys (.bulkOut packet)
        = ⟨(BulkOnlyCmd.ofPacket packet).tag, t.sys.drive.phantom.isLocked, true⟩ :=
      if_pos haccepts
    rw [hnote]
    rintro -
    obtain ⟨htag, hpending⟩ :=
      botHandleBulkOut_accepts dev t.sys.drive.phantom.isLocked hout hlen hvalid
    refine ⟨htag, ?_⟩
    show Owed _ (botHandleBulkOut dev t.sys.drive.phantom.isLocked packet t.sys.drive.bot) t.sys.pc
    rcases hpending with hcsw | ⟨-, hready⟩
    swap
    · exact Owed.of_ready hready
    by_cases hstore : ∃ flags, t.sys.pc = .readFlagsStore flags
    · -- the flags are about to be overwritten
      obtain ⟨flags, hpc⟩ := hstore
      have hstores : flags ∈ t.sys.pc.storesBehindRead := by
        rw [hpc]
        rfl
      rcases hlost haccepts flags hstores with hflags | hread | hnone
      · rw [hpc]
        exact Or.inr (Or.inr (Or.inl hflags))
      · exact Or.inr (Or.inl hread)
      · exact absurd (hnone.symm.trans hcsw) Bool.false_ne_true
    · exact Owed.of_flags hcsw fun flags hpc => hstore ⟨flags, hpc⟩

theorem watchInv_step {e : Event} (h : WatchInv t) (hok : OneAtATime t e ∧ NotLost dev t e) :
    WatchInv (t.step dev e) := by
  cases e with
  | main io => exact h.main io
  | bulkIn => exact h.bulkIn
  | bulkOut packet => exact h.bulkOut hok.1 hok.2

/-- The drive switches when no CSW is outstanding. -/
theorem WatchInv.coherent (h : WatchInv t) (e : Event) : Coherent dev t e where
  switches := by
    intro hlocked hunlocked
    rcases step_isLocked dev e t.sys with hsame | ⟨hpc, hidle, -⟩
    · rw [hsame, hlocked] at hunlocked
      cases hunlocked
    refine ⟨Bool.eq_false_iff.mpr fun houtstanding => ?_, hidle⟩
    have howed := (h.owed houtstanding).2
    rw [hpc] at howed
    exact howed.not_idle hidle
  executes := h.lock.executes

end Inv

/-- **Unlocking between two commands.**  In every run of a host that sends one command at a time,
none of them lost in the update of the flags behind a READ(10), every event is coherent: the drive
switches when it is idle and no CSW is outstanding, and what `main` executes was accepted under the
lock state of now. -/
theorem unlock_run (dev : Device) (card : Card) {events : List Event}
    (hrun : Runs.Along (Watch.step dev) (fun t e => OneAtATime t e ∧ NotLost dev t e)
      (Watch.init dev card) events) (e : Event) :
    Coherent dev (Runs.run (Watch.step dev) (Watch.init dev card) events) e :=
  WatchInv.coherent (Runs.invariant (fun _ _ => watchInv_step) (watchInv_init dev card) hrun) e

/-- A READ(10) of one sector up to the translation of its LBA. -/
theorem unlock_run_read :
    let t := Runs.run (Watch.step sampleDevice) (Watch.init sampleDevice fun _ _ => 0)
      (.bulkOut (cbwPacket 0x80 512 (rw10Cdb 0x28 0 1)) :: List.replicate 4 (.main sampleReadIo))
    t.sys.pc = .readLba 1 ∧ t.accepted.outstanding = true
      ∧ t.sys.drive.phantom.isLocked = t.accepted.locked := by
  intro t
  have hpc : t.sys.pc = .readLba 1 := by decide +kernel
  have hcoherent : Coherent sampleDevice t (.main sampleReadIo) :=
    unlock_run sampleDevice (fun _ _ => 0) (by decide +kernel) (.main sampleReadIo)
  refine ⟨hpc, by decide +kernel, hcoherent.executes ?_⟩
  rw [hpc]
  rfl

/-- `password:a` is written, and the host takes the CSW. -/
def sampleArm : List Event :=
  [.bulkOut (cbwPacket 0x00 512 (rw10Cdb 0x2A 0 1)),
    .bulkOut (passwordPrefix ++ [0x61] ++ List.replicate 502 0x0A)]
    ++ List.replicate 18 (.main sampleMainIo) ++ [.bulkIn]

/-- An attempt that finds no file when the time is up. -/
def sampleLateIo : MainIo :=
  { sampleMainIo with
    nowTimeout := 3000
    unlock := { sampleMainIo.unlock with now := 3000 } }

/-- A READ(10) up to the load of the flags behind its CSW; the host takes the CSW and sends an
INQUIRY, and takes its data when `main` has stored the flags. -/
def sampleLostCommand : List Event :=
  sampleArm ++ [.bulkOut (cbwPacket 0x80 512 (rw10Cdb 0x28 0 1))]
    ++ List.replicate 14 (.main sampleReadIo)
    ++ [.bulkIn, .bulkOut (cbwPacket 0x80 36 [0x12]), .main sampleMainIo, .bulkIn,
      .main sampleMainIo]

/-- A host that sends one command at a time waits for the CSW of an INQUIRY, and the drive
switches. -/
theorem unlock_with_lost_command :
    let t := Runs.run (Watch.step sampleDevice) (Watch.init sampleDevice fun _ _ => 0)
      sampleLostCommand
    Runs.Along (Watch.step sampleDevice) OneAtATime (Watch.init sampleDevice fun _ _ => 0)
        sampleLostCommand
      ∧ ¬ Coherent sampleDevice t (.main sampleLateIo) := by
  intro t
  -- one evaluation of the run for all that is read off it
  have hrun : Runs.Along (Watch.step sampleDevice) OneAtATime
        (Watch.init sampleDevice fun _ _ => 0) sampleLostCommand
      ∧ t.sys.drive.phantom.isLocked = true
      ∧ (step sampleDevice t.sys (.main sampleLateIo)).drive.phantom.isLocked = false
      ∧ t.accepted.outstanding = true := by
    decide +kernel
  obtain ⟨hrun, hlocked, hunlocked, houtstanding⟩ := hrun
  refine ⟨hrun, fun h => ?_⟩
  have htaken := (h.switches hlocked hunlocked).1
  exact absurd (htaken.symm.trans houtstanding) Bool.false_ne_true

end PhantomDrive
