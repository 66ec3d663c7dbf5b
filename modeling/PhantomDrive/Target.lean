/-
PhantomDrive/Target.lean

Which sectors a command writes.  `bot_handle_bulk_out` takes every data-out packet for
the data of a write, whatever the opcode, and `msc_write_sectors` takes the target from
`current_lba`, which only a READ(10) or WRITE(10) sets.  So a command with a data-out
phase of a sector or more has to be a WRITE; then no other command touches the card, and
a WRITE touches only the sectors of its CDB (`target_run`).

A VERIFY(10) with a data-out phase writes (`verify10_writes`).
-/
import PhantomDrive.Session

namespace PhantomDrive

/-! ### What a command may write -/

/-- WRITE(10) and WRITE AND VERIFY(10). -/
def ScsiCommand.isWrite : ScsiCommand → Bool
  | .write10 | .wrVerify10 => true
  | _ => false

/-- What is handed to the card is of a WRITE, and within `[LBA, LBA + count)` of its CDB. -/
def Action.Within (x : Exchange) : Action → Prop
  | .cardWrite _ hostLba _ data =>
      x.cbw.command.isWrite = true ∧ x.cbw.lba.toNat ≤ hostLba.toNat
        ∧ hostLba.toNat + data.length ≤ x.cbw.lba.toNat + x.cbw.blockCount.toNat
  | _ => True

/-- What an event does to the card while a command is processed: what it hands to the card belongs
to the command, no other sector changes, and none at all unless the command is a WRITE. -/
structure OnTarget (x : Exchange) (s s' : Sys) : Prop where
  log : ∃ entries, s'.drive.log = s.drive.log ++ entries ∧ (∀ a ∈ entries, a.Within x)
    ∧ ∀ k, (∀ a ∈ entries, ¬ a.WritesSector k) → s'.drive.card k = s.drive.card k
  card : x.cbw.command.isWrite = false → s'.drive.card = s.drive.card

/-! ### The condition -/

/-- A data-out phase with a sector or more belongs to a WRITE. -/
def Exchange.WritesOnly (dev : Device) (x : Exchange) : Prop :=
  x.dataPhase dev = .write → x.cbw.deviceSectors ≠ 0 → x.cbw.command.isWrite = true

/-- No chunk that the card takes starts beyond the last LBA there is. -/
def NoWrap (dev : Device) (t : Session) : Event → Prop
  | .main _ => ∀ stream, t.sys.pc = .writeRun stream → 0 < stream.sectorsLeft →
      dev.outOfCard (chunkLba dev stream t.sys.drive) stream.chunkSectors = false →
        t.exchange.cbw.lba.toNat + t.exchange.stored < 2 ^ 32
  | _ => True

/-- The condition on an event of the run. -/
def WritesDeclared (dev : Device) (t : Session) (e : Event) : Prop :=
  Orderly t e ∧ CbwMeets (Exchange.WritesOnly dev) t e ∧ NoWrap dev t e

/-! ### Events that leave the card alone -/

section Untouched

variable {dev : Device} {x : Exchange} {s s' : Sys}

/-- Nothing is handed to the card and nothing on it changes. -/
theorem OnTarget.of_untouched (hlog : ∃ entries, s'.drive.log = s.drive.log ++ entries
      ∧ ∀ a ∈ entries, a.Within x) (hcard : s'.drive.card = s.drive.card) : OnTarget x s s' := by
  obtain ⟨entries, hlog, hwithin⟩ := hlog
  exact ⟨⟨entries, hlog, hwithin, fun k _ => congrFun hcard k⟩, fun _ => hcard⟩

/-- An interrupt does not touch the card. -/
theorem onTarget_interrupt {e : Event} (h : ∀ io, e ≠ .main io) :
    OnTarget x s (step dev s e) := by
  refine .of_untouched ⟨[], ?_, fun _ hmem => absurd hmem List.not_mem_nil⟩ ?_
  · rw [step_log_interrupt dev h, List.append_nil]
  · obtain ⟨bot, rxBuff, hstep⟩ := step_interrupt dev h
    rw [hstep]

/-- Outside the write loop and an attempt to unlock, `main` does not change the card. -/
theorem mainStep_card (io : MainIo) (hrun : ∀ stream, s.pc ≠ .writeRun stream)
    (hbusy : s.pc = .pollUnlock → ¬ s.drive.bot.Idle) :
    (mainStep dev io s).drive.card = s.drive.card := by
  cases hpc : s.pc with
  | readRun preqnum actualLba =>
    simp only [mainStep, hpc]
    rcases readRun_cases dev io preqnum actualLba s with h | ⟨packets, h⟩
    · rw [h]
    · rw [h]
  | csw stage caller =>
    cases stage
    case ack =>
      cases caller
      all_goals
        simp only [mainStep, hpc]
        rfl
    all_goals
      simp only [mainStep, hpc]
      rfl
  | writeRun stream => exact absurd hpc (hrun stream)
  | pollUnlock =>
    simp only [mainStep, hpc]
    rcases pollUnlock_cases dev io s with h | ⟨-, h⟩
    · rw [h]
    · rw [h, phantomdriveTryUnlock_busy dev io.unlock (hbusy hpc)]
  | writeStart totalSectors lba => simp only [mainStep, hpc]
  | _ =>
    simp only [mainStep, hpc]
    rfl

theorem onTarget_main (io : MainIo) (hrun : ∀ stream, s.pc ≠ .writeRun stream)
    (hbusy : s.pc = .pollUnlock → ¬ s.drive.bot.Idle) : OnTarget x s (mainStep dev io s) := by
  refine .of_untouched ?_ (mainStep_card io hrun hbusy)
  rcases mainStep_log dev io s with h | ⟨preqnum, lba, -, h⟩ | ⟨stream, data, hpc, -⟩
    | ⟨password, salt, -, h⟩
  · exact ⟨[], by rw [h, List.append_nil], fun _ hmem => absurd hmem List.not_mem_nil⟩
  · refine ⟨_, h, fun a hmem => ?_⟩
    rw [List.mem_singleton.mp hmem]
    trivial
  · exact absurd hpc (hrun stream)
  · refine ⟨_, h, fun a hmem => ?_⟩
    rw [List.mem_singleton.mp hmem]
    trivial

/-- While a command is processed, an attempt to unlock finds the drive busy. -/
theorem Ongoing.not_idle {b : Bot} (h : Ongoing dev x b .pollUnlock) (hout : x.outstanding = true)
    (hvalid : x.cbw.validSignature = true) : ¬ b.Idle := by
  intro hidle
  have hflags : ∀ {flags : TransferFlags} {P : Prop}, b.transferFlags = flags →
      flags ≠ .none → P := fun heq hne => absurd (heq.symm.trans hidle.flags) hne
  cases h with
  | idling h => exact absurd (h.outstanding.symm.trans hout) Bool.false_ne_true
  | responding h => exact EpResponse.noConfusion (h.txCtrl.symm.trans hidle.txCtrl)
  | halted h => exact hflags h.transferFlags (by decide)
  | reading h => exact hflags h.transferFlags (by decide)
  | awaiting h => exact hflags h.transferFlags (by decide)
  | writing h => exact hflags h.transferFlags (by decide)
  | closing h => exact h.at_.elim
  | closed h => exact EpResponse.noConfusion (h.txCtrl.symm.trans hidle.txCtrl)
  | void h => exact absurd (h.invalid.symm.trans hvalid) Bool.false_ne_true

end Untouched

/-! ### The write loop -/

section Pass

variable {dev : Device} {x : Exchange} {s : Sys}

theorem ScsiCommand.isRw10_of_isWrite {command : ScsiCommand} (h : command.isWrite = true) :
    command.isRw10 = true := by
  cases command with
  | write10 => rfl
  | wrVerify10 => rfl
  | _ => cases h

/-- The sectors of a WRITE are the block count of its CDB. -/
theorem deviceSectors_of_isWrite {cmd : BulkOnlyCmd} (h : cmd.command.isWrite = true) :
    cmd.deviceSectors = cmd.blockCount.toNat := by
  have hbytes : cmd.deviceBytes = cmd.blockCount * 512 := by
    have hcommand : (Bot.init.beginCbw cmd).cbwCsw.command = cmd.command := rfl
    rw [BulkOnlyCmd.deviceBytes, Bot.bytesAfterDispatch, hcommand]
    cases hcmd : cmd.command with
    | write10 => rfl
    | wrVerify10 => rfl
    | _ =>
      rw [hcmd] at h
      cases h
  rw [BulkOnlyCmd.deviceSectors, hbytes, transferSectors_blockCount]

/-- In the write loop, a write is going on. -/
theorem Ongoing.writing_of {b : Bot} {stream : WriteStream}
    (h : Ongoing dev x b (.writeRun stream)) : Writing dev x b (.writeRun stream) := by
  cases h with
  | idling h => exact absurd rfl (h.toAtRest.not_writeRun stream)
  | responding h => exact absurd rfl (h.toAtRest.not_writeRun stream)
  | halted h => exact absurd rfl (h.toAtRest.not_writeRun stream)
  | reading h => exact h.at_.elim
  | awaiting h => exact absurd rfl (h.toAtRest.not_writeRun stream)
  | writing h => exact h
  | closing h => exact h.at_.elim
  | closed h => exact absurd rfl (h.toAtRest.not_writeRun stream)
  | void h => exact absurd rfl (h.toAtRest.not_writeRun stream)

/-- **A pass** hands a chunk of the WRITE to the card, or none. -/
theorem Writing.onTarget {stream : WriteStream} (io : MainIo)
    (h : Writing dev x s.drive.bot (.writeRun stream)) (hwrites : x.WritesOnly dev)
    (hwrap : 0 < stream.sectorsLeft →
      dev.outOfCard (chunkLba dev stream s.drive) stream.chunkSectors = false →
        x.cbw.lba.toNat + x.stored < 2 ^ 32) : OnTarget x s (writeRun dev io stream s) := by
  have hstream : StreamAt x stream := h.at_.2.2
  rcases Nat.eq_zero_or_pos stream.sectorsLeft with hzero | hpos
  · unfold writeRun
    rw [if_pos hzero]
    exact .of_untouched ⟨[], (List.append_nil _).symm, fun _ hmem => absurd hmem List.not_mem_nil⟩
      rfl
  have hdrive : (writeRun dev io stream s).drive = (writeIter dev io.chunk stream s.drive).2 := by
    unfold writeRun
    rw [if_neg (by omega)]
    dsimp only
    split
    · rfl
    · rfl
  have hsectors := hstream.sectors
  have hwrite : x.cbw.command.isWrite = true := hwrites h.dataPhase (by omega)
  obtain ⟨lba, htarget, hlba⟩ := hstream.lba
  rw [htarget (ScsiCommand.isRw10_of_isWrite hwrite)] at hlba
  rw [deviceSectors_of_isWrite hwrite] at hsectors
  have hle := (WriteStream.chunkSectors_pos hpos).2.1
  refine ⟨?_, fun hnot => absurd (hnot.symm.trans hwrite) Bool.false_ne_true⟩
  rw [hdrive]
  rcases hcard : dev.outOfCard (chunkLba dev stream s.drive) stream.chunkSectors with - | -
  case true =>
    rw [writeIter_of_outOfCard hpos hcard]
    exact ⟨[], (List.append_nil _).symm, fun _ hmem => absurd hmem List.not_mem_nil, fun _ _ => rfl⟩
  -- the chunk starts at the LBA of the CDB and what was stored before
  have hstart : stream.lba.toNat = x.cbw.lba.toNat + x.stored := by
    have hlt := hwrap hpos hcard
    rw [hlba, UInt32.toNat_add, UInt32.toNat_ofNat']
    omega
  have hhanded : ∃ entries, (handedChunk dev io.chunk stream s.drive).log = s.drive.log ++ entries
      ∧ (∀ a ∈ entries, a.Within x) ∧ ∀ k, (∀ a ∈ entries, ¬ a.WritesSector k) →
        (handedChunk dev io.chunk stream s.drive).card k = s.drive.card k := by
    refine ⟨_, rfl, fun a hmem => ?_, fun k hk => Card.attempt_outside ?_⟩
    · rw [List.mem_singleton.mp hmem]
      refine ⟨hwrite, by omega, ?_⟩
      rw [length_chunkData]
      omega
    · exact hk _ (List.mem_singleton_self _)
  rw [writeIter_of_inCard hpos hcard]
  split
  · exact hhanded
  · exact hhanded

end Pass

/-! ### Runs -/

/-- **The sectors a command writes.**  In every run with a host that sends one command at a time
whose steps meet the condition: whatever happens while a command is processed, only a WRITE hands
sectors to the card, only sectors of its CDB, and nothing else on the card changes. -/
theorem target_run (dev : Device) (hinit : dev.initTxCtrl = .nak) (card : Card)
    (events : List Event) (e : Event)
    (hrun : Runs.Along (Session.step dev) (WritesDeclared dev) (Session.init dev card)
      (events ++ [e])) :
    let t := Runs.run (Session.step dev) (Session.init dev card) events
    t.exchange.outstanding = true → t.exchange.cbw.validSignature = true →
      OnTarget t.exchange t.sys (step dev t.sys e) := by
  intro t hout hvalid
  obtain ⟨hrun, ⟨-, -, hwrap⟩, -⟩ := Runs.along_append.mp hrun
  have hinv : t.InPhase dev ∧ t.exchange.WritesOnly dev := by
    refine Runs.invariant (P := fun t => t.InPhase dev ∧ t.exchange.WritesOnly dev)
      (fun t e h hok => ⟨inPhase_step hinit t e h.1 hok.1, ?_⟩)
      ⟨inPhase_init hinit card, fun hphase => ?_⟩ hrun
    · refine cbwMeets_step (fun hsame hx hphase => ?_) h.2 hok.2.1
      rw [hsame.cbw]
      exact hx (hsame.dataPhase.symm.trans hphase)
    · exact absurd ((dataPhase_none dev).symm.trans hphase) DataPhase.noConfusion
  obtain ⟨hphase, hwrites⟩ := hinv
  cases e with
  | bulkOut packet => exact onTarget_interrupt fun io => Event.noConfusion
  | bulkIn => exact onTarget_interrupt fun io => Event.noConfusion
  | main io =>
    by_cases hpass : ∃ stream, t.sys.pc = .writeRun stream
    · obtain ⟨stream, hpc⟩ := hpass
      have hwriting : Writing dev t.exchange t.sys.drive.bot (.writeRun stream) := by
        have hongoing : Ongoing dev t.exchange t.sys.drive.bot (.writeRun stream) := hpc ▸ hphase
        exact hongoing.writing_of
      have hstep : step dev t.sys (.main io) = writeRun dev io stream t.sys := by
        simp only [step, mainStep, hpc]
      rw [hstep]
      exact hwriting.onTarget io hwrites (hwrap stream hpc)
    · refine onTarget_main io (fun stream hpc => hpass ⟨stream, hpc⟩) fun hpc => ?_
      have hongoing : Ongoing dev t.exchange t.sys.drive.bot .pollUnlock := hpc ▸ hphase
      exact hongoing.not_idle hout hvalid

/-- A command with a data-out phase of one sector, its data packet, and `main` up to the loop of
`write_stream_usb2`. -/
def sampleDataOut (opcode : UInt8) : List Event :=
  [.bulkOut (cbwPacket 0x00 512 (rw10Cdb opcode 0 1)), .bulkOut (List.replicate 512 0)]
    ++ List.replicate 7 (.main sampleMainIo)

/-- A WRITE(10) of sector 0. -/
theorem target_run_write10 :
    let t := Runs.run (Session.step sampleDevice) (Session.init sampleDevice fun _ _ => 0)
      (sampleDataOut 0x2A)
    OnTarget t.exchange t.sys (step sampleDevice t.sys (.main sampleMainIo)) := by
  have hmain : ∀ {t : Session}, (∀ stream, t.sys.pc ≠ .writeRun stream) →
      WritesDeclared sampleDevice t (.main sampleMainIo) := fun hpc =>
    ⟨⟨trivial, trivial⟩, trivial, fun stream hstream => absurd hstream (hpc stream)⟩
  refine target_run sampleDevice rfl (fun _ _ => 0) (sampleDataOut 0x2A) (.main sampleMainIo)
    ⟨⟨⟨fun _ _ => rfl, fun _ => rfl⟩, fun _ _ _ => rfl, trivial⟩,
      ⟨⟨fun _ => ⟨rfl, rfl⟩, fun _ => rfl⟩,
        fun htakes => (Bool.false_ne_true htakes.2.1.symm).elim, trivial⟩,
      hmain fun _ => MainPc.noConfusion, hmain fun _ => MainPc.noConfusion,
      hmain fun _ => MainPc.noConfusion, hmain fun _ => MainPc.noConfusion,
      hmain fun _ => MainPc.noConfusion, hmain fun _ => MainPc.noConfusion,
      hmain fun _ => MainPc.noConfusion, ⟨⟨trivial, trivial⟩, trivial, fun _ _ _ _ => ?_⟩, trivial⟩
    rfl rfl
  show (BulkOnlyCmd.ofPacket (cbwPacket 0x00 512 (rw10Cdb 0x2A 0 1))).lba.toNat + 0 < 2 ^ 32
  decide +kernel

/-- A VERIFY(10) with a data-out phase of one sector, the first command of a run: the sector is
handed to the card. -/
theorem verify10_writes :
    let t := Runs.run (Session.step sampleDevice) (Session.init sampleDevice fun _ _ => 0)
      (sampleDataOut 0x2F)
    Runs.Along (Session.step sampleDevice) Orderly (Session.init sampleDevice fun _ _ => 0)
        (sampleDataOut 0x2F ++ [.main sampleMainIo])
      ∧ t.exchange.outstanding = true ∧ t.exchange.cbw.validSignature = true
      ∧ t.exchange.cbw.command = .verify10
      ∧ ¬ OnTarget t.exchange t.sys (step sampleDevice t.sys (.main sampleMainIo)) := by
  intro t
  have hlog : ∃ locked hostLba lba data,
      (step sampleDevice t.sys (.main sampleMainIo)).drive.log
        = t.sys.drive.log ++ [.cardWrite locked hostLba lba data] := by
    have hpc : ∃ stream, t.sys.pc = .writeRun stream ∧ stream.sectorsLeft = 1
        ∧ sampleDevice.outOfCard (chunkLba sampleDevice stream t.sys.drive) stream.chunkSectors
          = false := ⟨_, rfl, by decide +kernel, by decide +kernel⟩
    obtain ⟨stream, hpc, hone, hcard⟩ := hpc
    refine ⟨t.sys.drive.phantom.isLocked, stream.lba, chunkLba sampleDevice stream t.sys.drive,
      chunkData sampleDevice sampleMainIo.chunk stream t.sys.drive, ?_⟩
    simp only [step, mainStep, hpc]
    rw [writeRun, if_neg (by omega), writeIter_of_inCard (by omega) hcard]
    rfl
  have hcommand : t.exchange.cbw.command = .verify10 := rfl
  refine ⟨⟨⟨fun _ _ => rfl, fun _ => rfl⟩, ⟨fun _ => ⟨rfl, rfl⟩, fun _ => rfl⟩,
    ⟨trivial, trivial⟩, ⟨trivial, trivial⟩, ⟨trivial, trivial⟩, ⟨trivial, trivial⟩,
    ⟨trivial, trivial⟩, ⟨trivial, trivial⟩, ⟨trivial, trivial⟩, ⟨trivial, trivial⟩, trivial⟩,
    rfl, rfl, hcommand, fun htarget => ?_⟩
  obtain ⟨locked, hostLba, lba, data, hlog⟩ := hlog
  obtain ⟨entries, hentries, hwithin, -⟩ := htarget.log
  have hnil : t.sys.drive.log = [] := rfl
  rw [hlog, hnil, List.nil_append, List.nil_append] at hentries
  have hwrite := (hwithin (.cardWrite locked hostLba lba data) (hentries ▸ List.mem_singleton_self _)).1
  rw [hcommand] at hwrite
  cases hwrite

end PhantomDrive
