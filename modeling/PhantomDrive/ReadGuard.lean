/-
PhantomDrive/ReadGuard.lean

Reads while locked, over whole runs.

`scsi_handle_read10` tests the range of a READ(10) in the interrupt; `msc_read_sectors`
reads later, in `main`, from fields that the next CBW overwrites.  As long as no CBW
comes between the two (`ReadsAlone`), every read command issued while locked stays on
the decoy (`lockedReads_run`).  Without that condition a rejected READ(10) behind an
accepted one is enough to read hidden sectors (`lockedRead_reaches_hidden_sector`).
-/
import PhantomDrive.LockState

namespace PhantomDrive

/-! ### The condition -/

/-- The device takes the packet as a CBW. -/
def Sys.TakesCbw (s : Sys) (packet : List UInt8) : Prop :=
  s.usbIrq = true ∧ s.drive.bot.transferFlags.dataOut = false ∧ packet.length = 31

instance (s : Sys) (packet : List UInt8) : Decidable (s.TakesCbw packet) :=
  inferInstanceAs (Decidable (_ ∧ _))

/-- `main` is in `msc_read_sectors`, and `bot_send_csw` has not cleared the flags yet. -/
def MainPc.inRead : MainPc → Bool
  | .readTake | .readCount | .readZero _ | .readLba _ | .readStart .. | .readRun ..
  | .readAdvanceLoad _ | .readAdvanceStore _ | .csw .clear .read => true
  | _ => false

/-- `main` is between the load and the store of `g_bot.transfer_flags &= ~BOT_FLAG_DATA_OUT`. -/
def MainPc.atFlagsStore : MainPc → Bool
  | .writeFlagsStore _ => true
  | _ => false

/-- A READ(10) of no sectors at a hidden LBA, with a data-in phase. -/
def Sys.emptyHiddenRead (dev : Device) (s : Sys) (packet : List UInt8) : Bool :=
  let cmd := BulkOnlyCmd.ofPacket packet
  s.drive.phantom.isLocked && (s.drive.bot.begun packet).transferFlags.dataIn
    && cmd.isRead10 && cmd.blockCount = 0 && dev.lockedSectors ≤ cmd.lba

/-- The condition on an event: a CBW comes only when no READ(10) is pending or being executed,
and not into the update of the flags of a write; it is not a READ(10) of no sectors at a hidden
LBA; and no IN completion marks a READ(10) again while it is being executed. -/
def ReadsAlone (dev : Device) (s : Sys) : Event → Prop
  | .bulkOut packet => s.TakesCbw packet →
      s.pc.atFlagsStore = false
        ∧ ((BulkOnlyCmd.ofPacket packet).validSignature = true →
            s.drive.bot.readPending = false ∧ s.pc.inRead = false
              ∧ s.emptyHiddenRead dev packet = false)
  | .bulkIn => s.usbIrq = true →
      ¬ (s.pc.inRead = true ∧ s.drive.bot.transferFlags.dataIn = true
        ∧ s.drive.bot.cbwCsw.isRead10 = true)
  | .main _ => True

/-! ### The invariant -/

/-- The start and all of `n` sectors from `lba` on lie on the decoy. -/
def Device.OnDecoy (dev : Device) (lba : UInt32) (n : ℕ) : Prop :=
  lba.toNat < dev.lockedSectors.toNat ∧ lba.toNat + n ≤ dev.lockedSectors.toNat

/-- What the range test has made sure of. -/
def Bot.Validated (dev : Device) (b : Bot) : Prop :=
  dev.OnDecoy b.currentLba (b.transferBytesLeft.toNat / 512)

theorem Device.OnDecoy.mono {dev : Device} {lba : UInt32} {m n : ℕ} (h : dev.OnDecoy lba n)
    (hle : m ≤ n) : dev.OnDecoy lba m :=
  ⟨h.1, (Nat.add_le_add_left hle _).trans h.2⟩

theorem Bot.transferSectors_le (b : Bot) : b.transferSectors ≤ b.transferBytesLeft.toNat / 512 := by
  rw [Bot.transferSectors, UInt32.toNat_div]
  exact Nat.mod_le ..

/-- What `main` relies on where it stands. -/
def PcGuard (dev : Device) (b : Bot) : MainPc → Prop
  | .readTake | .readCount => b.Validated dev
  | .readZero n | .readLba n => dev.OnDecoy b.currentLba n
  | .readStart n lba => dev.OnDecoy lba n
  | .readFlagsStore flags => flags.dataIn = false
  | .writeFlagsStore flags => flags.dataIn = true → b.cbwCsw.isRead10 = true → b.Validated dev
  | _ => True

/-- A READ(10) that is pending, or that an IN completion would make pending, was tested, and
nothing makes one pending while one is being executed. -/
structure ReadGuard (dev : Device) (b : Bot) (pc : MainPc) : Prop where
  pending : b.readPending = true → b.Validated dev
  dataIn : b.transferFlags.dataIn = true → b.cbwCsw.isRead10 = true → pc.inRead = false →
    b.Validated dev
  window : pc.inRead = true → pc ≠ .readTake → b.readPending = false
  atPc : PcGuard dev b pc

/-- The update marks no read, keeps the target and does not lengthen the transfer. -/
structure Quieter (b b' : Bot) : Prop where
  readPending : b'.readPending = true → b.readPending = true
  dataIn : b'.transferFlags.dataIn = true → b'.cbwCsw.isRead10 = true →
    b.transferFlags.dataIn = true ∧ b.cbwCsw.isRead10 = true
  currentLba : b'.currentLba = b.currentLba
  left : b'.transferBytesLeft.toNat ≤ b.transferBytesLeft.toNat

theorem Quieter.refl (b : Bot) : Quieter b b := ⟨id, fun h h' => ⟨h, h'⟩, rfl, le_rfl⟩

section Guard

variable {dev : Device} {b b' : Bot} {pc pc' : MainPc}

theorem Quieter.validated (hq : Quieter b b') (h : b.Validated dev) : b'.Validated dev := by
  unfold Bot.Validated
  rw [hq.currentLba]
  exact h.mono (Nat.div_le_div_right hq.left)

/-- A quieter update keeps the guard, wherever `main` goes outside of a read. -/
theorem ReadGuard.quieter (h : ReadGuard dev b pc) (hq : Quieter b b')
    (hpc : pc'.inRead = false → pc.inRead = false)
    (hwindow : pc'.inRead = true → pc' ≠ .readTake → b'.readPending = false)
    (hat : PcGuard dev b' pc') : ReadGuard dev b' pc' where
  pending := fun hp => hq.validated (h.pending (hq.readPending hp))
  dataIn := fun hin hread hout =>
    hq.validated (h.dataIn (hq.dataIn hin hread).1 (hq.dataIn hin hread).2 (hpc hout))
  window := hwindow
  atPc := hat

/-- What `main` relies on survives a quieter update. -/
theorem PcGuard.quieter (h : PcGuard dev b pc) (hq : Quieter b b')
    (hstore : pc.atFlagsStore = true → b'.cbwCsw.isRead10 = true → b.cbwCsw.isRead10 = true) :
    PcGuard dev b' pc := by
  cases pc with
  | readTake => exact hq.validated h
  | readCount => exact hq.validated h
  | readZero n =>
    show dev.OnDecoy b'.currentLba n
    rw [hq.currentLba]
    exact h
  | readLba n =>
    show dev.OnDecoy b'.currentLba n
    rw [hq.currentLba]
    exact h
  | writeFlagsStore flags => exact fun hin hread => hq.validated (h hin (hstore rfl hread))
  | readStart n lba => exact h
  | readFlagsStore flags => exact h
  | _ => trivial

/-- An interrupt that is quieter keeps the guard. -/
theorem ReadGuard.interrupt (h : ReadGuard dev b pc) (hq : Quieter b b')
    (hstore : pc.atFlagsStore = true → b'.cbwCsw.isRead10 = true → b.cbwCsw.isRead10 = true) :
    ReadGuard dev b' pc := by
  refine h.quieter hq id (fun hin hne => ?_) (h.atPc.quieter hq hstore)
  have hnot := h.window hin hne
  by_contra hp
  rw [Bool.not_eq_false] at hp
  rw [hq.readPending hp] at hnot
  cases hnot

end Guard

/-! ### The interrupt -/

section Interrupt

variable {dev : Device} {b b' : Bot} {pc : MainPc}

/-- A READ(10) that is not rejected while locked passed the range test. -/
theorem not_rejects_read10 (hcommand : b.cbwCsw.command = .read10)
    (h : b.rejects dev true = false) :
    b.cbwCsw.blockCount = 0 ∨ b.cbwCsw.lba.toNat < dev.lockedSectors.toNat
      ∧ b.cbwCsw.lba.toNat + b.cbwCsw.blockCount.toNat ≤ dev.lockedSectors.toNat := by
  have hcount := toNat_blockCount_mul_div b.cbwCsw
  simp only [Bot.rejects, hcommand, Bool.true_and] at h
  have htest : read10AccessesHiddenSdSectors dev (scsiParseRw10Cdb b)
      = if b.cbwCsw.blockCount * 512 / 512 = 0 then false
        else if dev.lockedSectors ≤ b.cbwCsw.lba then true
        else decide (dev.lockedSectors - b.cbwCsw.lba < b.cbwCsw.blockCount * 512 / 512) := rfl
  rw [htest] at h
  split at h
  · rename_i hzero
    left
    rw [← UInt32.toNat_inj, ← hcount, hzero]
  split at h
  · cases h
  rename_i hlba
  have hlt : b.cbwCsw.lba.toNat < dev.lockedSectors.toNat :=
    UInt32.lt_iff_toNat_lt.mp (UInt32.not_le.mp hlba)
  have hfits := of_decide_eq_false h
  rw [UInt32.not_lt, UInt32.le_iff_toNat_le, hcount,
    UInt32.toNat_sub_of_le _ _ (UInt32.le_iff_toNat_le.mpr hlt.le)] at hfits
  exact Or.inr ⟨hlt, by omega⟩

/-- A READ(10) accepted while locked is validated, unless it is empty and hidden. -/
theorem Dispatched.validated {packet : List UInt8}
    (hd : Dispatched dev true (b.begun packet) b')
    (hempty : ((b.begun packet).transferFlags.dataIn && (BulkOnlyCmd.ofPacket packet).isRead10
      && (BulkOnlyCmd.ofPacket packet).blockCount = 0
      && dev.lockedSectors ≤ (BulkOnlyCmd.ofPacket packet).lba) = false)
    (hin : b'.transferFlags.dataIn = true) (hread : b'.cbwCsw.isRead10 = true) :
    b'.Validated dev := by
  have hcmd : (b.begun packet).cbwCsw.isRead10 = true := hd.isRead10 ▸ hread
  have hcommand : (b.begun packet).cbwCsw.command = .read10 := by
    rw [isRead10_eq_command] at hcmd
    exact of_decide_eq_true hcmd
  have hkept : (b.begun packet).rejects dev true = false := by
    rcases hrejects : (b.begun packet).rejects dev true with - | -
    · rfl
    · rw [hd.transferFlags, if_pos hrejects] at hin
      cases hin
  have hbegun : (b.begun packet).transferFlags.dataIn = true := by
    rw [hd.transferFlags, hkept, if_neg Bool.false_ne_true] at hin
    exact hin
  have hlba : b'.currentLba = (BulkOnlyCmd.ofPacket packet).lba := by
    rw [hd.currentLba, hcommand]
    rfl
  have hleft : b'.transferBytesLeft.toNat / 512
      = (BulkOnlyCmd.ofPacket packet).blockCount.toNat := by
    have hbytes : b'.transferBytesLeft = (BulkOnlyCmd.ofPacket packet).blockCount * 512 := by
      rw [hd.transferBytesLeft, Bot.bytesAfterDispatch, hcommand]
      rfl
    rw [hbytes, toNat_blockCount_mul]
    exact Nat.mul_div_cancel _ (by decide)
  rw [Bot.Validated, hlba, hleft]
  rcases not_rejects_read10 hcommand hkept with hzero | hrange
  · -- an empty read passes the range test anywhere
    have hzero' : (BulkOnlyCmd.ofPacket packet).blockCount = 0 := hzero
    have hcmd' : (BulkOnlyCmd.ofPacket packet).isRead10 = true := hcmd
    rw [hbegun, hcmd', hzero'] at hempty
    have hlt : ¬ dev.lockedSectors ≤ (BulkOnlyCmd.ofPacket packet).lba := by
      simpa using hempty
    have hlt' := UInt32.lt_iff_toNat_lt.mp (UInt32.not_le.mp hlt)
    refine ⟨hlt', ?_⟩
    rw [hzero', UInt32.toNat_zero, Nat.add_zero]
    exact hlt'.le
  · exact hrange

theorem SendsData.quieter (h : SendsData b b') : Quieter b b' := by
  obtain ⟨bytes, left, dataIn, rfl, hle, hin⟩ := h
  exact ⟨id, fun h h' => ⟨hin h, h'⟩, rfl, hle⟩

theorem quieter_botSendCsw (b : Bot) : Quieter b (botSendCsw b) :=
  ⟨id, fun h => (Bool.false_ne_true h).elim, rfl, le_rfl⟩

theorem isRead10_botSendCsw (b : Bot) : (botSendCsw b).cbwCsw.isRead10 = b.cbwCsw.isRead10 :=
  isRead10_botSendCswFill (botSendCswClear b)

/-- A CBW that is taken with no read going on keeps the guard. -/
theorem ReadGuard.cbw {packet : List UInt8} (hout : pc.inRead = false)
    (hat : PcGuard dev (botStartCommand dev b') pc) (hpending : b.readPending = false)
    (hd : Dispatched dev true (b.begun packet) b')
    (hempty : ((b.begun packet).transferFlags.dataIn && (BulkOnlyCmd.ofPacket packet).isRead10
      && (BulkOnlyCmd.ofPacket packet).blockCount = 0
      && dev.lockedSectors ≤ (BulkOnlyCmd.ofPacket packet).lba) = false) :
    ReadGuard dev (botStartCommand dev b') pc := by
  have hidle : b'.readPending = false := hd.readPending.trans hpending
  have hvalid := hd.validated hempty
  refine ⟨?_, ?_, fun hin => absurd (hin.symm.trans hout) (by simp), hat⟩
  · intro hp
    rcases botStartCommand_cases dev b' with h | ⟨-, hin, hread, h⟩ | ⟨-, -, -, h⟩ | ⟨-, -, h⟩
    · rw [h, hidle] at hp
      cases hp
    · rw [h]
      exact hvalid hin hread
    · obtain ⟨bytes, left, dataIn, heq, -, -⟩ := h
      rw [heq] at hp
      exact absurd (hp.symm.trans hidle) (by simp)
    · rw [h] at hp
      exact absurd (hp.symm.trans hidle) (by simp)
  · intro hin hread _
    rcases botStartCommand_cases dev b' with h | ⟨-, hin', hread', h⟩ | ⟨-, -, hnot, h⟩ | ⟨-, -, h⟩
    · rw [h] at hin hread ⊢
      exact hvalid hin hread
    · rw [h]
      exact hvalid hin' hread'
    · have hq := h.quieter.dataIn hin hread
      rw [hnot] at hq
      exact absurd hq.2 (by simp)
    · rw [h] at hin
      cases hin

end Interrupt

/-! ### `main` -/

section Main

variable {dev : Device} {b b' : Bot} {pc pc' : MainPc}

/-- Outside of a read, `main` goes on with nothing to rely on. -/
theorem ReadGuard.goOn (h : ReadGuard dev b pc) (hq : Quieter b b') (hpc : pc.inRead = false)
    (hpc' : pc'.inRead = false) (hat : PcGuard dev b' pc') : ReadGuard dev b' pc' :=
  h.quieter hq (fun _ => hpc) (fun hin => absurd (hin.symm.trans hpc') (by simp)) hat

/-- Inside of a read, no read is pending. -/
theorem ReadGuard.goOnReading (h : ReadGuard dev b pc) (hin : pc.inRead = true)
    (hne : pc ≠ .readTake) (hpending : b'.readPending = b.readPending)
    (hpc' : pc'.inRead = true) (hat : PcGuard dev b' pc') : ReadGuard dev b' pc' := by
  have hnot : b'.readPending = false := hpending.trans (h.window hin hne)
  exact ⟨fun hp => absurd (hp.symm.trans hnot) (by simp),
    fun _ _ hout => absurd (hout.symm.trans hpc') (by simp), fun _ _ => hnot, hat⟩

theorem Bot.Validated.sectors (h : b.Validated dev) :
    dev.OnDecoy b.currentLba b.transferSectors :=
  Device.OnDecoy.mono h b.transferSectors_le

/-- A store of flags that mark no read in. -/
theorem ReadGuard.storeFlags (h : ReadGuard dev b pc) (flags : TransferFlags)
    (hpc' : pc'.inRead = false) (hat' : PcGuard dev { b with transferFlags := flags } pc')
    (hin : flags.dataIn = true → b.cbwCsw.isRead10 = true → b.Validated dev) :
    ReadGuard dev { b with transferFlags := flags } pc' :=
  ⟨h.pending, fun hflag hread _ => hin hflag hread,
    fun hinRead => absurd (hinRead.symm.trans hpc') (by simp), hat'⟩

theorem quieter_setBytesZero (b : Bot) : Quieter b { b with transferBytesLeft := 0 } :=
  ⟨id, fun h h' => ⟨h, h'⟩, rfl, Nat.zero_le _⟩

theorem quieter_botSendCswFill (b : Bot) : Quieter b (botSendCswFill b) :=
  ⟨id, fun h h' => ⟨h, (isRead10_botSendCswFill b).symm.trans h'⟩, rfl, le_rfl⟩

theorem quieter_botSendCswClear (b : Bot) : Quieter b (botSendCswClear b) :=
  ⟨id, fun h => (Bool.false_ne_true h).elim, rfl, le_rfl⟩

theorem quieter_botSendCswCopy (b : Bot) : Quieter b (botSendCswCopy b) :=
  ⟨id, fun h h' => ⟨h, h'⟩, rfl, le_rfl⟩

theorem quieter_botQueueTx (b : Bot) : Quieter b (botQueueTx b) :=
  ⟨id, fun h h' => ⟨h, h'⟩, rfl, le_rfl⟩

theorem quieter_writeFailed (b : Bot) : Quieter b (WriteFailed b) :=
  ⟨id, fun h h' => ⟨h, h'⟩, rfl, le_rfl⟩

/-- A drive that is locked after a step was locked before it. -/
theorem isLocked_of_step {s : Sys} {e : Event}
    (h : (step dev s e).drive.phantom.isLocked = true) : s.drive.phantom.isLocked = true := by
  have hafter : (step dev s e).drive.phantom.state ≠ .unlocked := of_decide_eq_true h
  refine decide_eq_true fun hbefore => hafter ?_
  have hmoves : s.drive.phantom.state.Moves (step dev s e).drive.phantom.state := step_moves s e
  rw [hbefore] at hmoves
  generalize (step dev s e).drive.phantom.state = st at hmoves
  cases hmoves
  rfl

/-- **One step of `main`** keeps the guard of a locked drive. -/
theorem ReadGuard.mainStep {io : MainIo} {s : Sys}
    (h : ReadGuard dev s.drive.bot s.pc) (hlocked : s.drive.phantom.isLocked = true)
    (hlocked' : (mainStep dev io s).drive.phantom.isLocked = true) :
    ReadGuard dev (mainStep dev io s).drive.bot (mainStep dev io s).pc := by
  have hat := h.atPc
  cases hpc : s.pc with
  | poll =>
    rw [hpc] at h
    simp only [PhantomDrive.mainStep, hpc]
    by_cases hp : s.drive.bot.readPending = true
    · rw [if_pos hp]
      exact ⟨h.pending, fun _ _ hout => (Bool.false_ne_true hout.symm).elim,
        fun _ hne => absurd rfl hne, h.pending hp⟩
    · rw [if_neg hp]
      exact h.goOn (Quieter.refl _) rfl rfl trivial
  | readTake =>
    rw [hpc] at hat
    simp only [PhantomDrive.mainStep, hpc]
    exact ⟨fun hp => (Bool.false_ne_true hp).elim,
      fun _ _ hout => (Bool.false_ne_true hout.symm).elim, fun _ _ => rfl, hat⟩
  | readCount =>
    rw [hpc] at h hat
    simp only [PhantomDrive.mainStep, hpc]
    exact h.goOnReading rfl MainPc.noConfusion rfl rfl (Bot.Validated.sectors hat)
  | readZero preqnum =>
    rw [hpc] at h hat
    simp only [PhantomDrive.mainStep, hpc]
    exact h.goOnReading rfl MainPc.noConfusion rfl rfl hat
  | readLba preqnum =>
    rw [hpc] at h hat
    simp only [PhantomDrive.mainStep, hpc, hlocked]
    exact h.goOnReading rfl MainPc.noConfusion rfl rfl hat
  | readStart preqnum actualLba =>
    rw [hpc] at h
    simp only [PhantomDrive.mainStep, hpc]
    exact h.goOnReading rfl MainPc.noConfusion rfl rfl trivial
  | readRun preqnum actualLba =>
    rw [hpc] at h
    simp only [PhantomDrive.mainStep, hpc]
    rcases readRun_cases dev io preqnum actualLba s with hrun | ⟨packets, hrun⟩
    · rw [hrun, hpc]
      exact h
    · rw [hrun]
      exact h.goOnReading rfl MainPc.noConfusion rfl rfl trivial
  | readAdvanceLoad preqnum =>
    rw [hpc] at h
    simp only [PhantomDrive.mainStep, hpc]
    exact h.goOnReading rfl MainPc.noConfusion rfl rfl trivial
  | readAdvanceStore lba =>
    rw [hpc] at h
    simp only [PhantomDrive.mainStep, hpc]
    exact h.goOnReading rfl MainPc.noConfusion rfl rfl trivial
  | csw stage caller =>
    rw [hpc] at h
    cases stage with
    | clear =>
      simp only [PhantomDrive.mainStep, hpc]
      refine ⟨fun hp => ?_, fun hin => (Bool.false_ne_true hin).elim,
        fun hin => (Bool.false_ne_true hin).elim, trivial⟩
      exact (quieter_botSendCswClear _).validated (h.pending hp)
    | fill =>
      simp only [PhantomDrive.mainStep, hpc]
      exact h.goOn (quieter_botSendCswFill _) rfl rfl trivial
    | copy =>
      simp only [PhantomDrive.mainStep, hpc]
      exact h.goOn (quieter_botSendCswCopy _) rfl rfl trivial
    | ack =>
      cases caller
      all_goals
        simp only [PhantomDrive.mainStep, hpc]
        exact h.goOn (quieter_botQueueTx _) rfl rfl trivial
  | readFlagsLoad =>
    rw [hpc] at h
    simp only [PhantomDrive.mainStep, hpc]
    exact h.goOn (Quieter.refl _) rfl rfl rfl
  | readFlagsStore flags =>
    rw [hpc] at h hat
    simp only [PhantomDrive.mainStep, hpc]
    have hflags : flags.dataIn = false := hat
    exact h.storeFlags flags rfl trivial fun hin => absurd (hin.symm.trans hflags) (by simp)
  | pollWrite =>
    rw [hpc] at h
    simp only [PhantomDrive.mainStep, hpc]
    split
    · exact h.goOn (Quieter.refl _) rfl rfl trivial
    · exact h.goOn (Quieter.refl _) rfl rfl trivial
  | writeZero totalSectors lba =>
    rw [hpc] at h
    simp only [PhantomDrive.mainStep, hpc]
    exact h.goOn (quieter_setBytesZero _) rfl rfl trivial
  | writeRun stream =>
    rw [hpc] at h
    simp only [PhantomDrive.mainStep, hpc]
    rcases writeRun_cases dev io stream s with ⟨-, hrun⟩ | ⟨-, d', heffect, hrun⟩
    · rw [hrun]
      exact h.goOn (Quieter.refl _) rfl rfl trivial
    · have hq : Quieter s.drive.bot d'.bot := by
        rcases heffect.bot with hbot | hbot
        · rw [hbot]
          exact Quieter.refl _
        · rw [hbot]
          exact quieter_writeFailed _
      rcases hrun with hrun | hrun
      · rw [hrun]
        exact h.goOn hq rfl rfl trivial
      · rw [hrun]
        exact h.goOn hq rfl rfl trivial
  | writeCheck =>
    rw [hpc] at h
    simp only [PhantomDrive.mainStep, hpc]
    split
    · exact h.goOn (Quieter.refl _) rfl rfl trivial
    · exact h.goOn (Quieter.refl _) rfl rfl trivial
  | writeFlagsLoad =>
    rw [hpc] at h
    simp only [PhantomDrive.mainStep, hpc]
    exact h.goOn (Quieter.refl _) rfl rfl fun hin hread => h.dataIn hin hread rfl
  | writeFlagsStore flags =>
    rw [hpc] at h hat
    simp only [PhantomDrive.mainStep, hpc]
    exact h.storeFlags flags rfl trivial hat
  | pollUnlock =>
    rw [hpc] at h
    simp only [PhantomDrive.mainStep, hpc] at hlocked' ⊢
    rcases pollUnlock_cases dev io s with hrun | ⟨-, hrun⟩
    · rw [hrun]
      exact h.goOn (Quieter.refl _) rfl rfl trivial
    rw [hrun] at hlocked' ⊢
    rcases phantomdriveTryUnlock_cases dev io.unlock s.drive with hgive | hswitch
    · have hq : Quieter s.drive.bot (phantomdriveTryUnlock dev io.unlock s.drive).bot := by
        rcases hgive.bot with hbot | ⟨-, hbot⟩
        · rw [hbot]
          exact Quieter.refl _
        · rw [hbot]
          exact ⟨id, fun h h' => ⟨h, h'⟩, rfl, le_rfl⟩
      exact h.goOn hq rfl rfl trivial
    · -- an unlocked drive is not locked
      obtain ⟨card, len, passwordLen, -, hswitched⟩ := hswitch.switched
      rw [hswitched] at hlocked'
      cases hlocked'
  | _ =>
    rw [hpc] at h
    simp only [PhantomDrive.mainStep, hpc]
    exact h.goOn ⟨id, fun h h' => ⟨h, h'⟩, rfl, le_rfl⟩ rfl rfl trivial

end Main

/-! ### Runs -/

section Runs

variable {dev : Device} {s : Sys}

/-- **An OUT packet** keeps the guard of a locked drive. -/
theorem ReadGuard.bulkOut {packet : List UInt8} (h : ReadGuard dev s.drive.bot s.pc)
    (hlocked : s.drive.phantom.isLocked = true) (hirq : s.usbIrq = true)
    (hok : ReadsAlone dev s (.bulkOut packet)) :
    ReadGuard dev (botHandleBulkOut dev true packet s.drive.bot) s.pc := by
  rcases botHandleBulkOut_cases dev true packet s.drive.bot with
    ⟨-, heq⟩ | ⟨-, -, heq⟩ | ⟨hout, hlen, -, heq⟩ | ⟨hout, hlen, hvalid, heq⟩
  · rw [heq]
    exact h.interrupt ⟨id, fun h h' => ⟨h, h'⟩, rfl, le_rfl⟩ fun _ => id
  · rw [heq]
    exact h
  · obtain ⟨hstore, -⟩ := hok ⟨hirq, hout, hlen⟩
    rw [heq, botRejectInvalidCbwSignature_eq]
    exact h.interrupt ⟨id, fun hin => (Bool.false_ne_true hin).elim, rfl, le_rfl⟩
      fun hat => absurd (hat.symm.trans hstore) (by simp)
  · obtain ⟨hstore, hok⟩ := hok ⟨hirq, hout, hlen⟩
    obtain ⟨hpending, hread, hempty⟩ := hok hvalid
    rw [heq]
    have hd := scsiDispatchCommand_dispatched dev true (s.drive.bot.begun packet)
    unfold Sys.emptyHiddenRead at hempty
    rw [hlocked] at hempty
    refine ReadGuard.cbw hread ?_ hpending hd hempty
    have hat := h.atPc
    cases hpc : s.pc with
    | readFlagsStore flags =>
      rw [hpc] at hat
      have hflags : flags.dataIn = false := hat
      exact hflags
    | writeFlagsStore flags =>
      rw [hpc] at hstore
      cases hstore
    | readTake =>
      rw [hpc] at hread
      cases hread
    | readCount =>
      rw [hpc] at hread
      cases hread
    | readZero preqnum =>
      rw [hpc] at hread
      cases hread
    | readLba preqnum =>
      rw [hpc] at hread
      cases hread
    | readStart preqnum lba =>
      rw [hpc] at hread
      cases hread
    | _ => trivial

/-- **An IN completion** keeps the guard. -/
theorem ReadGuard.bulkIn (h : ReadGuard dev s.drive.bot s.pc) (hirq : s.usbIrq = true)
    (hok : ReadsAlone dev s .bulkIn) :
    ReadGuard dev (botHandleBulkIn dev { s.drive.bot with txCtrl := .nak }) s.pc := by
  have hnak : ReadGuard dev { s.drive.bot with txCtrl := .nak } s.pc :=
    h.interrupt ⟨id, fun h h' => ⟨h, h'⟩, rfl, le_rfl⟩ fun _ => id
  have hnot := hok hirq
  generalize hb : { s.drive.bot with txCtrl := .nak } = b at hnak
  have hin : b.transferFlags.dataIn = s.drive.bot.transferFlags.dataIn := by rw [← hb]
  have hread : b.cbwCsw.isRead10 = s.drive.bot.cbwCsw.isRead10 := by rw [← hb]
  rw [← hin, ← hread] at hnot
  rcases botHandleBulkIn_cases dev b with
    ⟨hin', hread', heq⟩ | ⟨-, -, hsends⟩ | ⟨-, -, heq⟩ | ⟨-, -, heq⟩
  · -- the completion marks a read, so none is being executed
    have hout : s.pc.inRead = false := by
      by_contra hin
      exact hnot ⟨by simpa using hin, hin', hread'⟩
    have hvalid := hnak.dataIn hin' hread' hout
    rw [heq]
    have hat : PcGuard dev { b with readPending := true } s.pc := by
      cases hpc : s.pc with
      | readFlagsStore flags => exact hpc ▸ hnak.atPc
      | writeFlagsStore flags => exact fun _ _ => hvalid
      | readTake => exact hvalid
      | readCount => exact hvalid
      | readZero preqnum => exact hpc ▸ hnak.atPc
      | readLba preqnum => exact hpc ▸ hnak.atPc
      | readStart preqnum lba => exact hpc ▸ hnak.atPc
      | _ => trivial
    exact ⟨fun _ => hvalid, fun _ _ _ => hvalid,
      fun hin => absurd (hin.symm.trans hout) (by simp), hat⟩
  · have hop : (botHandleBulkIn dev b).cbwCsw.isRead10 = b.cbwCsw.isRead10 := by
      obtain ⟨bytes, left, dataIn, heq, -⟩ := hsends
      rw [heq]
    exact hnak.interrupt hsends.quieter fun _ hr => hop ▸ hr
  · rw [heq]
    exact hnak.interrupt (quieter_botSendCsw b) fun _ hr => isRead10_botSendCsw b ▸ hr
  · rw [heq]
    exact hnak

end Runs

end PhantomDrive
