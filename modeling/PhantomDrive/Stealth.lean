/-
PhantomDrive/Stealth.lean

What a locked drive gives away about the size of its card.  Two locked drives with
cards of different sizes, the same below `LOCKED_SECTORS`, get the same packets: they
queue the same data and the same CSWs and stall the same endpoints (`stealth_run`).

One check sees the size: `write_chunk_to_sd` compares with the size of the card, not with
`LOCKED_SECTORS`, so a WRITE(10) behind the decoy succeeds on a card that is large
enough and fails on another (`write10_reveals`).

The file system works on the card while the drive is locked; its part is a condition on
the run, and every sequence of calls to the disk meets it (`decoyOnly_diskCalls`).
-/
import PhantomDrive.Diskio
import PhantomDrive.LockState

namespace PhantomDrive

/-! ### Two cards with one decoy -/

/-- The same device with a card of another size. -/
def Device.withCardSize (size : UInt32) (dev : Device) : Device := { dev with emmcSecNum := size }

/-- The same contents below `LOCKED_SECTORS`. -/
def Device.SameDecoy (dev : Device) (card card' : Card) : Prop :=
  ∀ s < dev.lockedSectors.toNat, card' s = card s

/-- What it leaves below `LOCKED_SECTORS` depends on what is there. -/
def Device.DecoyOnly (dev : Device) (f : Card → Card) : Prop :=
  ∀ card card', dev.SameDecoy card card' → dev.SameDecoy (f card) (f card')

/-- The same drive with another card, and another record of what was asked of it. -/
def Drive.withStorage (card : Card) (log : List Action) (d : Drive) : Drive :=
  { d with card := card, log := log }

def Sys.withStorage (card : Card) (log : List Action) (s : Sys) : Sys :=
  { s with drive := s.drive.withStorage card log }

/-- What the host can see of a drive: the packets queued for it so far, data and CSWs in order, and
the responses of endpoint 1. -/
structure Seen where
  packets : List InPacket
  tx : EpResponse
  rx : EpResponse
deriving DecidableEq, Repr

def Sys.seen (s : Sys) : Seen := ⟨s.drive.bot.queued, s.drive.bot.txCtrl, s.drive.bot.rxCtrl⟩

/-- Two locked drives that differ in their cards only, and have the same decoy. -/
def SameDecoyDrives (dev : Device) (s s' : Sys) : Prop :=
  s.drive.phantom.isLocked = true
    ∧ ∃ card log, s' = s.withStorage card log ∧ dev.SameDecoy s.drive.card card

/-- A step that gives nothing away about a card of size `size`: the drive stays locked, a read lies
in the decoy, a chunk of a write lies on both cards or on neither, and the file system keeps to the
decoy. -/
structure Unrevealing (dev : Device) (size : UInt32) (s : Sys) (e : Event) : Prop where
  locked : (step dev s e).drive.phantom.isLocked = true
  read : ∀ io preqnum lba, e = .main io → s.pc = .readRun preqnum lba →
    lba.toNat + max 1 preqnum ≤ dev.lockedSectors.toNat
  write : ∀ io stream, e = .main io → s.pc = .writeRun stream → 0 < stream.sectorsLeft →
    (dev.withCardSize size).outOfCard stream.lba stream.chunkSectors
      = dev.outOfCard stream.lba stream.chunkSectors
  fileSystem : ∀ io, e = .main io → s.pc = .pollUnlock → dev.DecoyOnly io.unlock.card

/-! ### The parts of a step -/

section Parts

variable {dev : Device} {size : UInt32} {card : Card} {log : List Action}

/-- **The transport layer** does not know the size of the card. -/
theorem botHandleBulkOut_withCardSize (locked : Bool) (packet : List UInt8) (b : Bot) :
    botHandleBulkOut (dev.withCardSize size) locked packet b
      = botHandleBulkOut dev locked packet b := by
  have hstart : ∀ b, botStartCommand (dev.withCardSize size) b = botStartCommand dev b :=
    fun _ => rfl
  have hread : ∀ b, scsiHandleRead10 (dev.withCardSize size) locked b
      = scsiHandleRead10 dev locked b := fun _ => rfl
  have hdispatch : ∀ b, botDispatchScsi (dev.withCardSize size) locked b
      = botDispatchScsi dev locked b := by
    intro b
    unfold botDispatchScsi scsiDispatchCommand
    rw [hread]
  unfold botHandleBulkOut
  rw [hdispatch, hstart]

theorem botHandleBulkIn_withCardSize (b : Bot) :
    botHandleBulkIn (dev.withCardSize size) b = botHandleBulkIn dev b := rfl

theorem chunkLba_of_locked {stream : WriteStream} {d : Drive}
    (h : d.phantom.isLocked = true) : chunkLba dev stream d = stream.lba := by
  unfold chunkLba computePhysicalLba
  rw [h]
  rfl

/-- What is stored is the same on both cards, and so is what a failure leaves. -/
theorem Device.SameDecoy.attempt {card' : Card} (h : dev.SameDecoy card card') (lba : ℕ)
    (data : List Sector) (outcome : WriteOutcome) :
    dev.SameDecoy (card.attempt lba data outcome) (card'.attempt lba data outcome) := by
  intro s hs
  cases outcome with
  | success =>
    simp only [Card.attempt, Card.write]
    rw [h s hs]
  | failure left =>
    simp only [Card.attempt]
    split
    · rw [h s hs]
    · exact h s hs

/-- **A pass of the write loop** on both cards. -/
theorem writeIter_withStorage (log : List Action) (io : ChunkIo) {stream : WriteStream} {d : Drive}
    (hlocked : d.phantom.isLocked = true) (hpos : 0 < stream.sectorsLeft)
    (hsize : (dev.withCardSize size).outOfCard stream.lba stream.chunkSectors
      = dev.outOfCard stream.lba stream.chunkSectors)
    (hcard : dev.SameDecoy d.card card) :
    (writeIter (dev.withCardSize size) io stream (d.withStorage card log)).1
        = (writeIter dev io stream d).1
      ∧ ∃ card' log', (writeIter (dev.withCardSize size) io stream (d.withStorage card log)).2
          = (writeIter dev io stream d).2.withStorage card' log'
        ∧ dev.SameDecoy (writeIter dev io stream d).2.card card' := by
  have hlba : chunkLba dev stream d = stream.lba := chunkLba_of_locked hlocked
  have hlba' : chunkLba (dev.withCardSize size) stream (d.withStorage card log) = stream.lba :=
    chunkLba_of_locked hlocked
  rcases hout : dev.outOfCard stream.lba stream.chunkSectors with - | -
  · rw [hout, ← hlba'] at hsize
    rw [← hlba] at hout
    rw [writeIter_of_inCard hpos hout, writeIter_of_inCard hpos hsize]
    have hhanded : ∃ card' log', handedChunk (dev.withCardSize size) io stream
          (d.withStorage card log) = (handedChunk dev io stream d).withStorage card' log'
        ∧ dev.SameDecoy (handedChunk dev io stream d).card card' := by
      refine ⟨_, _, rfl, ?_⟩
      have hdata : chunkData (dev.withCardSize size) io stream (d.withStorage card log)
          = chunkData dev io stream d := rfl
      show dev.SameDecoy (d.card.attempt (chunkLba dev stream d).toNat _ io.outcome)
        (card.attempt (chunkLba (dev.withCardSize size) stream (d.withStorage card log)).toNat _
          io.outcome)
      rw [hlba, hlba', hdata]
      exact hcard.attempt _ _ _
    obtain ⟨card', log', heq, hsame⟩ := hhanded
    rw [heq]
    split
    · exact ⟨rfl, card', log', rfl, hsame⟩
    · exact ⟨rfl, card', log', rfl, hsame⟩
  · rw [hout, ← hlba'] at hsize
    rw [← hlba] at hout
    rw [writeIter_of_outOfCard hpos hout, writeIter_of_outOfCard hpos hsize]
    exact ⟨rfl, card, log, rfl, hcard⟩

/-- **An attempt to unlock** that leaves the drive locked, on both cards. -/
theorem phantomdriveTryUnlock_withStorage (size : UInt32) (log : List Action) {io : UnlockIo} {d : Drive}
    (hfs : dev.DecoyOnly io.card)
    (hlocked : (phantomdriveTryUnlock dev io d).phantom.isLocked = true)
    (hcard : dev.SameDecoy d.card card) :
    ∃ card' log', phantomdriveTryUnlock (dev.withCardSize size) io (d.withStorage card log)
        = (phantomdriveTryUnlock dev io d).withStorage card' log'
      ∧ dev.SameDecoy (phantomdriveTryUnlock dev io d).card card' := by
  have hphantom : (d.withStorage card log).phantom = d.phantom := rfl
  have hbot : (d.withStorage card log).bot = d.bot := rfl
  unfold phantomdriveTryUnlock at hlocked ⊢
  rw [hphantom, hbot]
  split
  · exact ⟨card, log, rfl, hcard⟩
  rename_i hlen
  rw [if_neg hlen] at hlocked
  split
  · exact ⟨card, log, rfl, hcard⟩
  rename_i hidle
  rw [if_neg hidle] at hlocked
  dsimp only at hlocked ⊢
  split
  · exact ⟨io.card card, log, rfl, hfs _ _ hcard⟩
  rename_i hfound
  rw [if_neg hfound] at hlocked
  split
  · exact ⟨io.card card, log, rfl, hfs _ _ hcard⟩
  rename_i hidle'
  rw [if_neg hidle'] at hlocked
  unfold deleteAndSwitch at hlocked ⊢
  dsimp only at hlocked ⊢
  split
  · rename_i hkeep
    rcases (unlockSearch io d.phantom).1.isSome with - | -
    · exact ⟨io.card card, log, rfl, hfs _ _ hcard⟩
    · exact ⟨io.card card, log, rfl, hfs _ _ hcard⟩
  · rename_i hkeep
    rw [if_neg hkeep] at hlocked
    exact absurd hlocked Bool.false_ne_true

/-- The read loops on both cards. -/
theorem readRun_withStorage (size : UInt32) (log : List Action) (io : MainIo) {preqnum : ℕ} {lba : UInt32} {s : Sys}
    (hrange : lba.toNat + max 1 preqnum ≤ dev.lockedSectors.toNat)
    (hcard : dev.SameDecoy s.drive.card card) :
    readRun (dev.withCardSize size) io preqnum lba (s.withStorage card log)
        = (readRun dev io preqnum lba s).withStorage card log
      ∧ (readRun dev io preqnum lba s).drive.card = s.drive.card := by
  have hrequest : (s.withStorage card log).drive.readRequest (dev.withCardSize size) lba preqnum
      = { s.drive.readRequest dev lba preqnum with card := card } := rfl
  have hsectors : (s.drive.readRequest dev lba preqnum).SameSectors card := by
    intro i hi
    have hlt : i < max 1 preqnum := hi
    exact hcard (lba.toNat + i) (by omega)
  unfold readRun finishReadStream
  rw [hrequest, readStreamUsb2_card hsectors]
  rcases readStreamUsb2 (s.drive.readRequest dev lba preqnum) io.read.ring io.read.events
    with - | delivered
  · exact ⟨rfl, rfl⟩
  · exact ⟨rfl, rfl⟩

end Parts

/-! ### Steps and runs -/

section Runs

variable {dev : Device} {size : UInt32} {s s' : Sys} {e : Event}

/-- **A step of `main`** on both cards. -/
theorem mainStep_withStorage {io : MainIo} {card : Card} {log : List Action}
    (hlocked : s.drive.phantom.isLocked = true) (hcard : dev.SameDecoy s.drive.card card)
    (hok : Unrevealing dev size s (.main io)) :
    ∃ card' log', mainStep (dev.withCardSize size) io (s.withStorage card log)
        = (mainStep dev io s).withStorage card' log'
      ∧ dev.SameDecoy (mainStep dev io s).drive.card card' := by
  have hpc' : (s.withStorage card log).pc = s.pc := rfl
  have hafter : (mainStep dev io s).drive.phantom.isLocked = true := hok.locked
  unfold mainStep at hafter ⊢
  rw [hpc']
  rcases hpc : s.pc
  case readStart preqnum lba =>
    exact ⟨card, _, rfl, hcard⟩
  case readRun preqnum lba =>
    obtain ⟨heq, hsame⟩ := readRun_withStorage size log io
      (hok.read io preqnum lba rfl hpc) hcard
    refine ⟨card, log, heq, ?_⟩
    dsimp only
    rw [hsame]
    exact hcard
  case csw stage caller =>
    cases stage
    case ack =>
      cases caller
      all_goals exact ⟨card, log, rfl, hcard⟩
    all_goals exact ⟨card, log, rfl, hcard⟩
  case writeRun stream =>
    dsimp only
    unfold writeRun
    rcases Nat.eq_zero_or_pos stream.sectorsLeft with hzero | hpos
    · rw [if_pos hzero, if_pos hzero]
      exact ⟨card, log, rfl, hcard⟩
    obtain ⟨hstatus, card', log', heq, hsame⟩ := writeIter_withStorage log io.chunk
      hlocked hpos (hok.write io stream rfl hpc hpos) hcard
    have hne : stream.sectorsLeft ≠ 0 := by omega
    rw [if_neg hne, if_neg hne]
    dsimp only
    have hdrive : (s.withStorage card log).drive = s.drive.withStorage card log := rfl
    rw [hdrive, hstatus, heq]
    split
    · exact ⟨card', log', rfl, hsame⟩
    · exact ⟨card', log', rfl, hsame⟩
  case pollUnlock =>
    rw [hpc] at hafter
    dsimp only at hafter ⊢
    have hpending : (s.withStorage card log).drive.phantom.unlockPending
        = s.drive.phantom.unlockPending := rfl
    have htimeout : phantomdriveUnlockTimeoutReached io.nowTimeout
        (s.withStorage card log).drive.phantom
        = phantomdriveUnlockTimeoutReached io.nowTimeout s.drive.phantom := rfl
    have hwrite : (s.withStorage card log).lastWriteMs = s.lastWriteMs := rfl
    have hcheck : (s.withStorage card log).lastCheckMs = s.lastCheckMs := rfl
    unfold pollUnlock at hafter ⊢
    rw [hpending, htimeout, hwrite, hcheck]
    split
    · exact ⟨card, log, rfl, hcard⟩
    rename_i hnot
    rw [if_neg hnot] at hafter
    dsimp only at hafter ⊢
    split
    · exact ⟨card, log, rfl, hcard⟩
    · rename_i hearly
      rw [if_neg hearly] at hafter
      obtain ⟨card', log', heq, hsame⟩ := phantomdriveTryUnlock_withStorage size
        log (hok.fileSystem io rfl hpc) hafter hcard
      refine ⟨card', log', ?_, hsame⟩
      have hdrive : (s.withStorage card log).drive = s.drive.withStorage card log := rfl
      rw [hdrive, heq]
      rfl
  all_goals exact ⟨card, log, rfl, hcard⟩

/-- **One step** keeps the drives alike. -/
theorem sameDecoyDrives_step (h : SameDecoyDrives dev s s') (hok : Unrevealing dev size s e) :
    SameDecoyDrives dev (step dev s e) (step (dev.withCardSize size) s' e) := by
  obtain ⟨hlocked, card, log, rfl, hcard⟩ := h
  have hirq : (s.withStorage card log).usbIrq = s.usbIrq := rfl
  refine ⟨hok.locked, ?_⟩
  cases e with
  | bulkOut packet =>
    unfold step Drive.bulkOut
    dsimp only
    rw [hirq, botHandleBulkOut_withCardSize]
    split
    · exact ⟨card, log, rfl, hcard⟩
    · exact ⟨card, log, rfl, hcard⟩
  | bulkIn =>
    unfold step Drive.bulkIn
    dsimp only
    rw [hirq, botHandleBulkIn_withCardSize]
    split
    · exact ⟨card, log, rfl, hcard⟩
    · exact ⟨card, log, rfl, hcard⟩
  | main io => exact mainStep_withStorage hlocked hcard hok

theorem sameDecoyDrives_seen (h : SameDecoyDrives dev s s') : s'.seen = s.seen := by
  obtain ⟨-, card, log, rfl, -⟩ := h
  rfl

/-- **A locked drive does not give its size away.**  Two locked drives that differ in the size of
the card and in what lies at `LOCKED_SECTORS` and above show the host the same packets, data and
CSWs, and the same stalls, all along every run that leaves the drive locked and whose steps give
nothing away. -/
theorem stealth_run (dev : Device) (size : UInt32) (s : Sys) (card : Card)
    (hlocked : s.drive.phantom.isLocked = true) (hcard : dev.SameDecoy s.drive.card card)
    (events : List Event) (hrun : Runs.Along (step dev) (Unrevealing dev size) s events) :
    Runs.trace (step (dev.withCardSize size)) Sys.seen (s.withStorage card s.drive.log) events
      = Runs.trace (step dev) Sys.seen s events := by
  have hstep : ∀ s s' e, SameDecoyDrives dev s s' → Unrevealing dev size s e →
      SameDecoyDrives dev (step dev s e) (step (dev.withCardSize size) s' e) :=
    fun _ _ _ h hok => sameDecoyDrives_step h hok
  have hseen : ∀ s s', SameDecoyDrives dev s s' → s'.seen = s.seen :=
    fun _ _ h => sameDecoyDrives_seen h
  exact Runs.trace_eq hstep hseen ⟨hlocked, card, s.drive.log, rfl, hcard⟩ hrun

/-- A drive stays locked but for an attempt to unlock. -/
theorem isLocked_step (h : s.drive.phantom.isLocked = true) (hpc : s.pc ≠ .pollUnlock) :
    (step dev s e).drive.phantom.isLocked = true := by
  have hbefore : s.drive.phantom.state ≠ .unlocked := of_decide_eq_true h
  rcases step_lock dev s e with hsame | hsnoops | hattempts
  · rw [hsame.phantom]
    exact h
  · refine decide_eq_true ?_
    rcases hsnoops.state with hstate | hstate
    · rw [hstate]
      exact hbefore
    · rw [hstate]
      exact LockState.noConfusion
  · exact absurd hattempts.pc hpc

theorem isLocked_run (h : s.drive.phantom.isLocked = true) {events : List Event}
    (hrun : Runs.Along (step dev) (fun s _ => s.pc ≠ .pollUnlock) s events) :
    (Runs.run (step dev) s events).drive.phantom.isLocked = true :=
  Runs.invariant (P := fun s : Sys => s.drive.phantom.isLocked = true)
    (fun _ _ h hpc => isLocked_step h hpc) h hrun

end Runs

/-! ### The disk that FatFs sees -/

section Disk

variable {dev : Device} {size : UInt32} {d d' : Disk} {locked : Bool} {sector : UInt32}

/-- The same disk with another card. -/
def Disk.withCard (card : Card) (d : Disk) : Disk := { d with card := card }

/-- Two disks that differ in their cards only, and have the same decoy. -/
def SameDecoyDisks (dev : Device) (d d' : Disk) : Prop :=
  ∃ card, d' = d.withCard card ∧ dev.SameDecoy d.card card

theorem waitFor_withCard (card : Card) (d : Disk) (polls : List Poll) :
    (d.withCard card).waitFor polls = d.waitFor polls := by
  induction polls with
  | nil => rfl
  | cons p rest ih =>
    rw [Disk.waitFor, Disk.waitFor, ih]
    rfl

theorem Device.SameDecoy.update {card card' : Card} (h : dev.SameDecoy card card') (i : ℕ)
    {v v' : Sector} (hv : i < dev.lockedSectors.toNat → v' = v) :
    dev.SameDecoy (Function.update card i v) (Function.update card' i v') := by
  intro s hs
  by_cases hsi : s = i
  · subst hsi
    rw [Function.update_self, Function.update_self, hv hs]
  · rw [Function.update_of_ne hsi, Function.update_of_ne hsi, h s hs]

theorem SameDecoyDisks.finishIo (h : SameDecoyDisks dev d d') (success : Bool) :
    SameDecoyDisks dev (finishIo success d) (finishIo success d') := by
  obtain ⟨card, rfl, hsame⟩ := h
  cases success
  all_goals exact ⟨card, rfl, hsame⟩

theorem SameDecoyDisks.move (h : SameDecoyDisks dev d d') (write : Bool)
    (hsector : sector.toNat < dev.lockedSectors.toNat) :
    SameDecoyDisks dev (d.move sector write) (d'.move sector write) := by
  obtain ⟨card, rfl, hsame⟩ := h
  cases write with
  | true => exact ⟨_, rfl, hsame.update sector.toNat fun _ => rfl⟩
  | false =>
    refine ⟨card, ?_, hsame⟩
    show { d.withCard card with sectorBuffer := card sector.toNat } = _
    rw [hsame _ hsector]
    rfl

theorem SameDecoyDisks.spoil (h : SameDecoyDisks dev d d') (left : Option Sector) (write : Bool) :
    SameDecoyDisks dev (d.spoil left sector write) (d'.spoil left sector write) := by
  obtain ⟨card, rfl, hsame⟩ := h
  cases write with
  | true => exact ⟨_, rfl, hsame.update sector.toNat fun hs => congrArg left.getD (hsame _ hs)⟩
  | false => exact ⟨card, rfl, hsame⟩

/-- The disk when a transfer begins. -/
def Disk.started (io : TransferIo) (d : Disk) : Disk :=
  { d with transferStartedTicks := io.started, emmcIrq := false }

/-- The disk when the command of a transfer was sent. -/
def Disk.sent (locked : Bool) (sector : UInt32) (write : Bool) (d : Disk) : Disk :=
  { d with log := d.log ++ [.command write sector locked d.initialized] }

theorem transferSector_eq (locked : Bool) (io : TransferIo) (sector : UInt32) (write : Bool)
    (d : Disk) :
    transferSector locked io sector write d
      = let d := d.started io
        if !d.waitFor io.ready then (false, finishIo false d)
        else
          let d := d.sent locked sector write
          if !d.waitFor io.cmdDone then (false, finishIo false (d.spoil io.left sector write))
          else if !d.waitFor io.tranDone || !d.waitFor io.readyAfter then
            (false, finishIo false (d.spoil io.left sector write))
          else (true, finishIo true (d.move sector write)) := rfl

/-- A transfer below `LOCKED_SECTORS`. -/
theorem SameDecoyDisks.transfer (h : SameDecoyDisks dev d d') (locked : Bool) (io : TransferIo)
    (write : Bool) (hsector : sector.toNat < dev.lockedSectors.toNat) :
    (transferSector locked io sector write d').1 = (transferSector locked io sector write d).1
      ∧ SameDecoyDisks dev (transferSector locked io sector write d).2
          (transferSector locked io sector write d').2 := by
  obtain ⟨card, rfl, hsame⟩ := h
  have hstarted : (d.withCard card).started io = (d.started io).withCard card := rfl
  have hsent : ((d.started io).withCard card).sent locked sector write
      = ((d.started io).sent locked sector write).withCard card := rfl
  have h₁ : SameDecoyDisks dev (d.started io) ((d.started io).withCard card) :=
    ⟨card, rfl, hsame⟩
  have h₂ : SameDecoyDisks dev ((d.started io).sent locked sector write)
      (((d.started io).sent locked sector write).withCard card) := ⟨card, rfl, hsame⟩
  rw [transferSector_eq, transferSector_eq, hstarted]
  dsimp only
  rw [hsent, waitFor_withCard, waitFor_withCard, waitFor_withCard, waitFor_withCard]
  split
  · exact ⟨rfl, h₁.finishIo false⟩
  split
  · exact ⟨rfl, (h₂.spoil io.left write).finishIo false⟩
  split
  · exact ⟨rfl, (h₂.spoil io.left write).finishIo false⟩
  · exact ⟨rfl, (h₂.move write hsector).finishIo true⟩

theorem SameDecoyDisks.readLoop (io : ℕ → TransferIo) {n : ℕ}
    (hsend : MaySendAll dev locked sector n) {i left : ℕ} (hleft : i + left = n)
    (h : SameDecoyDisks dev d d') :
    (readLoop locked io sector i left d').1 = (readLoop locked io sector i left d).1
      ∧ (readLoop locked io sector i left d').2.1 = (readLoop locked io sector i left d).2.1
      ∧ SameDecoyDisks dev (readLoop locked io sector i left d).2.2
          (readLoop locked io sector i left d').2.2 := by
  induction left generalizing i d d' with
  | zero => exact ⟨rfl, rfl, h⟩
  | succ left ih =>
    obtain ⟨hok, hnext⟩ := h.transfer locked (io i) false
      (hsend.maySend (i := i) (by omega)).1
    obtain ⟨hrest, hdata, hlast⟩ := ih (i := i + 1) (by omega) hnext
    simp only [PhantomDrive.readLoop]
    rw [hok]
    split
    · refine ⟨hrest, ?_, hlast⟩
      obtain ⟨card, hcard, -⟩ := hnext
      rw [hdata, hcard]
      rfl
    · exact ⟨rfl, rfl, hnext⟩

theorem SameDecoyDisks.writeLoop (io : ℕ → TransferIo) (buff : ℕ → Sector) {n : ℕ}
    (hsend : MaySendAll dev locked sector n) {i left : ℕ} (hleft : i + left = n)
    (h : SameDecoyDisks dev d d') :
    (writeLoop locked io buff sector i left d').1 = (writeLoop locked io buff sector i left d).1
      ∧ SameDecoyDisks dev (writeLoop locked io buff sector i left d).2
          (writeLoop locked io buff sector i left d').2 := by
  induction left generalizing i d d' with
  | zero => exact ⟨rfl, h⟩
  | succ left ih =>
    have hbuffered : SameDecoyDisks dev { d with sectorBuffer := buff i }
        { d' with sectorBuffer := buff i } := by
      obtain ⟨card, rfl, hsame⟩ := h
      exact ⟨card, rfl, hsame⟩
    obtain ⟨hok, hnext⟩ := hbuffered.transfer locked (io i) true
      (hsend.maySend (i := i) (by omega)).1
    obtain ⟨hrest, hlast⟩ := ih (i := i + 1) (by omega) hnext
    simp only [PhantomDrive.writeLoop]
    rw [hok]
    split
    · exact ⟨hrest, hlast⟩
    · exact ⟨hok, hnext⟩

/-- What a call hands back to FatFs. -/
inductive DiskAnswer
  | status (noInit : Bool)
  | read (result : DResult) (data : List Sector)
  | done (result : DResult)
  | value (result : DResult) (value : Option ℕ)
  | nothing

/-- The answer to a call. -/
def diskAnswer (dev : Device) (d : Disk) : DiskCall → DiskAnswer
  | .diskInitialize locked pdrv now => .status (diskInitialize dev locked pdrv now d).1
  | .status locked pdrv => .status (diskStatus dev locked pdrv d)
  | .read locked io pdrv null sector count =>
      let r := diskRead dev locked io pdrv null sector count d
      .read r.1 r.2.1
  | .write locked io pdrv buff sector count =>
      .done (diskWrite dev locked io pdrv buff sector count d).1
  | .ioctl locked started ready pdrv cmd null =>
      let r := diskIoctl dev locked started ready pdrv cmd null d
      .value r.1 r.2.1
  | .setFormatting _ => .nothing
  | .resetTimeout _ => .nothing

/-- Calls of FatFs, each chosen from the answers so far. -/
def fatFsRun (dev : Device) (fatFs : List DiskAnswer → DiskCall) :
    ℕ → List DiskAnswer → Disk → List DiskAnswer × Disk
  | 0, answers, d => (answers, d)
  | n + 1, answers, d =>
      let call := fatFs answers
      fatFsRun dev fatFs n (answers ++ [diskAnswer dev d call]) (diskStep dev d call)

/-- The status does not depend on the size of a card that holds the decoy. -/
theorem diskStatus_withCardSize (hfits : dev.lockedSectors ≤ dev.emmcSecNum)
    (hsize : dev.lockedSectors ≤ size) (locked : Bool) (pdrv : UInt8)
    (h : SameDecoyDisks dev d d') :
    diskStatus (dev.withCardSize size) locked pdrv d' = diskStatus dev locked pdrv d := by
  obtain ⟨card, rfl, -⟩ := h
  have hnot : ¬dev.emmcSecNum < dev.lockedSectors := UInt32.not_lt.mpr hfits
  have hnot' : ¬(dev.withCardSize size).emmcSecNum < dev.lockedSectors := UInt32.not_lt.mpr hsize
  simp only [diskStatus]
  rw [decide_eq_false hnot]
  show (_ || decide ((dev.withCardSize size).emmcSecNum < dev.lockedSectors)) = _
  rw [decide_eq_false hnot']
  rfl

theorem SameDecoyDisks.diskInit (hfits : dev.lockedSectors ≤ dev.emmcSecNum)
    (hsize : dev.lockedSectors ≤ size) (h : SameDecoyDisks dev d d') (locked : Bool) (pdrv : UInt8)
    (now : UInt64) :
    (diskInitialize (dev.withCardSize size) locked pdrv now d').1
        = (diskInitialize dev locked pdrv now d).1
      ∧ SameDecoyDisks dev (diskInitialize dev locked pdrv now d).2
          (diskInitialize (dev.withCardSize size) locked pdrv now d').2 := by
  have hready : SameDecoyDisks dev
      { d with ioStartedTicks := now, initialized := true, log := d.log ++ [.diskInitialize] }
      { d' with ioStartedTicks := now, initialized := true, log := d'.log ++ [.diskInitialize] } := by
    obtain ⟨card, rfl, hsame⟩ := h
    exact ⟨card, rfl, hsame⟩
  unfold diskInitialize
  split
  · exact ⟨rfl, h⟩
  · exact ⟨diskStatus_withCardSize hfits hsize locked pdrv hready, hready⟩

theorem SameDecoyDisks.diskRead (hfits : dev.lockedSectors ≤ dev.emmcSecNum)
    (hsize : dev.lockedSectors ≤ size) (h : SameDecoyDisks dev d d') (locked : Bool)
    (io : ℕ → TransferIo) (pdrv : UInt8) (null : Bool) (sector count : UInt32) :
    let r := diskRead dev locked io pdrv null sector count d
    let r' := diskRead (dev.withCardSize size) locked io pdrv null sector count d'
    r'.1 = r.1 ∧ r'.2.1 = r.2.1 ∧ SameDecoyDisks dev r.2.2 r'.2.2 := by
  have hrequest : badRequest (dev.withCardSize size) pdrv null sector count
      = badRequest dev pdrv null sector count := rfl
  dsimp only
  unfold PhantomDrive.diskRead
  rw [hrequest, diskStatus_withCardSize hfits hsize locked pdrv h]
  split
  · exact ⟨rfl, rfl, h⟩
  rename_i hgood
  split
  · exact ⟨rfl, rfl, h⟩
  rename_i hready
  obtain ⟨hsend, -⟩ := maySendAll_of_tests (Bool.eq_false_iff.mpr hgood) (Bool.eq_false_iff.mpr hready)
  obtain ⟨hok, hdata, hlast⟩ := h.readLoop io hsend (Nat.zero_add _)
  dsimp only
  rw [hok]
  exact ⟨rfl, hdata, hlast⟩

theorem SameDecoyDisks.diskWrite (hfits : dev.lockedSectors ≤ dev.emmcSecNum)
    (hsize : dev.lockedSectors ≤ size) (h : SameDecoyDisks dev d d') (locked : Bool)
    (io : ℕ → TransferIo) (pdrv : UInt8) (buff : Option (ℕ → Sector)) (sector count : UInt32) :
    let r := diskWrite dev locked io pdrv buff sector count d
    let r' := diskWrite (dev.withCardSize size) locked io pdrv buff sector count d'
    r'.1 = r.1 ∧ SameDecoyDisks dev r.2 r'.2 := by
  have hrequest : badRequest (dev.withCardSize size) pdrv buff.isNone sector count
      = badRequest dev pdrv buff.isNone sector count := rfl
  dsimp only
  unfold PhantomDrive.diskWrite
  rw [hrequest, diskStatus_withCardSize hfits hsize locked pdrv h]
  split
  · exact ⟨rfl, h⟩
  rename_i hgood
  split
  · exact ⟨rfl, h⟩
  rename_i hready
  obtain ⟨hsend, -⟩ := maySendAll_of_tests (Bool.eq_false_iff.mpr hgood) (Bool.eq_false_iff.mpr hready)
  obtain ⟨hok, hlast⟩ := h.writeLoop io (buff.getD fun _ _ => 0) hsend (Nat.zero_add _)
  dsimp only
  rw [hok]
  exact ⟨rfl, hlast⟩

theorem SameDecoyDisks.ioctl (hfits : dev.lockedSectors ≤ dev.emmcSecNum)
    (hsize : dev.lockedSectors ≤ size) (h : SameDecoyDisks dev d d') (locked : Bool)
    (started : UInt64) (ready : List Poll) (pdrv : UInt8) (cmd : IoctlCmd) (null : Bool) :
    let r := diskIoctl dev locked started ready pdrv cmd null d
    let r' := diskIoctl (dev.withCardSize size) locked started ready pdrv cmd null d'
    r'.1 = r.1 ∧ r'.2.1 = r.2.1 ∧ SameDecoyDisks dev r.2.2 r'.2.2 := by
  dsimp only
  unfold diskIoctl
  rw [diskStatus_withCardSize hfits hsize locked pdrv h]
  split
  · exact ⟨rfl, rfl, h⟩
  split
  · exact ⟨rfl, rfl, h⟩
  split
  · -- `CTRL_SYNC` waits for the controller
    obtain ⟨card, rfl, hsame⟩ := h
    have hwait := waitFor_withCard card
      { d with transferStartedTicks := started, emmcIrq := false } ready
    have hsync : SameDecoyDisks dev { d with transferStartedTicks := started, emmcIrq := false }
        { d.withCard card with transferStartedTicks := started, emmcIrq := false } :=
      ⟨card, rfl, hsame⟩
    have hwait' : ({ d.withCard card with transferStartedTicks := started, emmcIrq := false } :
        Disk).waitFor ready = _ := hwait
    dsimp only
    rw [hwait']
    exact ⟨rfl, rfl, hsync.finishIo _⟩
  split
  · exact ⟨rfl, rfl, h⟩
  · cases cmd
    all_goals exact ⟨rfl, rfl, h⟩

/-- **A call** is answered alike on both disks. -/
theorem SameDecoyDisks.step (hfits : dev.lockedSectors ≤ dev.emmcSecNum)
    (hsize : dev.lockedSectors ≤ size) (h : SameDecoyDisks dev d d') (call : DiskCall) :
    diskAnswer (dev.withCardSize size) d' call = diskAnswer dev d call
      ∧ SameDecoyDisks dev (diskStep dev d call) (diskStep (dev.withCardSize size) d' call) := by
  cases call with
  | diskInitialize locked pdrv now =>
    obtain ⟨hanswer, hsame⟩ := h.diskInit hfits hsize locked pdrv now
    exact ⟨congrArg DiskAnswer.status hanswer, hsame⟩
  | status locked pdrv =>
    exact ⟨congrArg DiskAnswer.status (diskStatus_withCardSize hfits hsize locked pdrv h), h⟩
  | read locked io pdrv null sector count =>
    obtain ⟨hresult, hdata, hsame⟩ := h.diskRead hfits hsize locked io pdrv null sector count
    exact ⟨congrArg₂ DiskAnswer.read hresult hdata, hsame⟩
  | write locked io pdrv buff sector count =>
    obtain ⟨hresult, hsame⟩ := h.diskWrite hfits hsize locked io pdrv buff sector count
    exact ⟨congrArg DiskAnswer.done hresult, hsame⟩
  | ioctl locked started ready pdrv cmd null =>
    obtain ⟨hresult, hvalue, hsame⟩ := h.ioctl hfits hsize locked started ready pdrv cmd null
    exact ⟨congrArg₂ DiskAnswer.value hresult hvalue, hsame⟩
  | setFormatting enabled =>
    obtain ⟨card, rfl, hsame⟩ := h
    exact ⟨rfl, card, rfl, hsame⟩
  | resetTimeout now =>
    obtain ⟨card, rfl, hsame⟩ := h
    exact ⟨rfl, card, rfl, hsame⟩

theorem SameDecoyDisks.run (hfits : dev.lockedSectors ≤ dev.emmcSecNum)
    (hsize : dev.lockedSectors ≤ size) (fatFs : List DiskAnswer → DiskCall) (n : ℕ)
    (answers : List DiskAnswer) (h : SameDecoyDisks dev d d') :
    (fatFsRun (dev.withCardSize size) fatFs n answers d').1 = (fatFsRun dev fatFs n answers d).1
      ∧ SameDecoyDisks dev (fatFsRun dev fatFs n answers d).2
          (fatFsRun (dev.withCardSize size) fatFs n answers d').2 := by
  induction n generalizing answers d d' with
  | zero => exact ⟨rfl, h⟩
  | succ n ih =>
    obtain ⟨hanswer, hsame⟩ := h.step hfits hsize (fatFs answers)
    simp only [fatFsRun]
    rw [hanswer]
    exact ih _ hsame

/-- **The file system** keeps to the decoy: what its calls leave below `LOCKED_SECTORS` depends on
what was there only, and it gets the same answers from a card of any size that holds the decoy. -/
theorem decoyOnly_diskCalls (hfits : dev.lockedSectors ≤ dev.emmcSecNum)
    (fatFs : List DiskAnswer → DiskCall) (n : ℕ) (d : Disk) :
    (dev.DecoyOnly fun card => (fatFsRun dev fatFs n [] (d.withCard card)).2.card)
      ∧ ∀ size, dev.lockedSectors ≤ size → ∀ card card', dev.SameDecoy card card' →
          (fatFsRun (dev.withCardSize size) fatFs n [] (d.withCard card')).1
            = (fatFsRun dev fatFs n [] (d.withCard card)).1 := by
  have hdisks : ∀ card card', dev.SameDecoy card card' →
      SameDecoyDisks dev (d.withCard card) (d.withCard card') :=
    fun card card' hsame => ⟨card', rfl, hsame⟩
  refine ⟨fun card card' hsame => ?_, fun size hsize card card' hsame =>
    ((hdisks card card' hsame).run hfits hsize fatFs n []).1⟩
  obtain ⟨last, hlast, hdecoy⟩ := ((hdisks card card' hsame).run hfits hfits fatFs n []).2
  have hcard : (fatFsRun dev fatFs n [] (d.withCard card')).2.card = last :=
    congrArg Disk.card hlast
  show dev.SameDecoy _ (fatFsRun dev fatFs n [] (d.withCard card')).2.card
  rw [hcard]
  exact hdecoy

end Disk

/-! ### Runs of two sizes -/

/-- A card with nothing in the decoy, and other data behind it. -/
def sampleHidden : Card := fun s _ => if s < 16777216 then 0 else 0xFF

/-- An INQUIRY, on a card of twice the decoy that is empty and on one with one more sector than the
decoy, which is written. -/
theorem stealth_run_inquiry :
    Runs.trace (step (sampleDevice.withCardSize 16777217)) Sys.seen
        ((Sys.init sampleDevice fun _ _ => 0).withStorage sampleHidden [])
        [.bulkOut (cbwPacket 0x80 36 [0x12, 0, 0, 0, 36, 0]), .main sampleMainIo]
      = Runs.trace (step sampleDevice) Sys.seen (Sys.init sampleDevice fun _ _ => 0)
        [.bulkOut (cbwPacket 0x80 36 [0x12, 0, 0, 0, 36, 0]), .main sampleMainIo] := by
  refine stealth_run sampleDevice 16777217 (Sys.init sampleDevice fun _ _ => 0) sampleHidden rfl
    (fun s hs => ?_) _ ⟨⟨isLocked_step rfl MainPc.noConfusion, ?_, ?_, ?_⟩,
      ⟨isLocked_step rfl MainPc.noConfusion, ?_, ?_, ?_⟩, trivial⟩
  · have hlt : s < 16777216 := hs
    exact funext fun _ => if_pos hlt
  · exact fun _ _ _ h => Event.noConfusion h
  · exact fun _ _ h => Event.noConfusion h
  · exact fun _ h => Event.noConfusion h
  · exact fun _ _ _ _ h => MainPc.noConfusion h
  · exact fun _ _ _ h => MainPc.noConfusion h
  · exact fun _ _ h => MainPc.noConfusion h

/-- A WRITE(10) of one sector behind the decoy. -/
def writeBehindDecoy : List Event :=
  [.bulkOut (cbwPacket 0x00 512 (rw10Cdb 0x2A 16777217 1)), .bulkOut (List.replicate 512 0)]
    ++ List.replicate 16 (.main sampleMainIo)

/-- Two drives that differ in the size of the card only, both larger than the decoy: one answers
the write with PASSED, the other with FAILED, and both stay locked. -/
theorem write10_reveals :
    let s := Sys.init sampleDevice fun _ _ => 0
    sampleDevice.lockedSectors < sampleDevice.emmcSecNum
      ∧ sampleDevice.lockedSectors < (sampleDevice.withCardSize 16777217).emmcSecNum
      ∧ (Runs.run (step sampleDevice) s writeBehindDecoy).drive.phantom.isLocked = true
      ∧ (Runs.run (step (sampleDevice.withCardSize 16777217)) s
          writeBehindDecoy).drive.phantom.isLocked = true
      ∧ (Runs.run (step sampleDevice) s writeBehindDecoy).seen.packets
        = [.csw [0x55, 0x53, 0x42, 0x53, 1, 0, 0, 0, 0, 0, 0, 0, 0]]
      ∧ (Runs.run (step (sampleDevice.withCardSize 16777217)) s writeBehindDecoy).seen.packets
        = [.csw [0x55, 0x53, 0x42, 0x53, 1, 0, 0, 0, 0, 0, 0, 0, 1]] := by
  intro s
  have hpc : Runs.Along (step sampleDevice) (fun s _ => s.pc ≠ .pollUnlock) s writeBehindDecoy := by
    decide +kernel
  have hpc' : Runs.Along (step (sampleDevice.withCardSize 16777217))
      (fun s _ => s.pc ≠ .pollUnlock) s writeBehindDecoy := by
    decide +kernel
  have hinit : s.drive.phantom.isLocked = true := rfl
  exact ⟨by decide +kernel, by decide +kernel, isLocked_run hinit hpc, isLocked_run hinit hpc',
    by decide +kernel, by decide +kernel⟩

end PhantomDrive
