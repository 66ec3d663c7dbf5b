/-
PhantomDrive/PowerCycle.lean

What survives the power.  All that the firmware keeps in RAM is lost: every power cycle
starts locked, with its keys cleared, from the card alone.

`Device.hidden` says what a password makes of the card beyond the decoy.  It is what an
unlocked drive shows (`volume_eq_hidden`).  While the drive is locked, neither the
commands of a host within reach nor the file system change the card there.

Main results: `unlock_shows`, what an unlock shows depends on the password and the card
at power-up only; `hiddenVolume_persists`, it is what an earlier unlock with that
password has left, over any number of power cycles in between.
-/
import PhantomDrive.BlockDeviceRun
import PhantomDrive.Startup

namespace PhantomDrive

/-! ### The keys -/

/-- `AES_KEY`s that were never set. -/
def AesKeys.cleared : AesKeys := ⟨Vector.replicate 32 0, Vector.replicate 32 0⟩

/-- The keys that a password gives on this device. -/
def Device.keysOf (dev : Device) (password : List UInt8) : AesKeys :=
  (phantomdriveCryptoUnlock dev.kdfRounds dev.aesMode .cleared password dev.salt).1

/-- What a password makes of the card beyond the decoy. -/
def Device.hidden (dev : Device) (password : List UInt8) (card : Card) : ℕ → Sector := fun s =>
  decryptSector dev.ecdc dev.aesMode (dev.keysOf password)
    (UInt32.ofNat (dev.lockedSectors.toNat + s)) (card (dev.lockedSectors.toNat + s))

/-- The keys are cleared until they are derived. -/
structure KeysInv (dev : Device) (d : Drive) : Prop where
  lock : LockInv dev d
  cleared : d.phantom.state ≠ .unlocked → d.keys = .cleared
  derived : d.phantom.state = .unlocked → ∃ password,
    derivations d.log = [(password, dev.salt)] ∧ d.keys = dev.keysOf password

section Keys

variable {dev : Device}

/-- Only an attempt to unlock changes the keys. -/
theorem step_keys (dev : Device) (s : Sys) (e : Event) :
    (step dev s e).drive.keys = s.drive.keys ∨ Attempts dev s (step dev s e) := by
  have hinterrupt : (∀ io, e ≠ .main io) → (step dev s e).drive.keys = s.drive.keys := by
    intro hne
    obtain ⟨bot, rxBuff, hstep⟩ := step_interrupt dev hne
    rw [hstep]
  cases e with
  | bulkOut packet => exact Or.inl (hinterrupt fun io => Event.noConfusion)
  | bulkIn => exact Or.inl (hinterrupt fun io => Event.noConfusion)
  | main io =>
    show (mainStep dev io s).drive.keys = _ ∨ Attempts dev s (mainStep dev io s)
    by_cases hpass : ∃ stream, s.pc = .writeRun stream
    · obtain ⟨stream, hpc⟩ := hpass
      simp only [mainStep, hpc]
      rcases writeRun_cases dev io stream s with ⟨-, h⟩ | ⟨-, d', heffect, h | h⟩
      · rw [h]
        exact Or.inl rfl
      · rw [h]
        exact Or.inl heffect.keys
      · rw [h]
        exact Or.inl heffect.keys
    by_cases hpc : s.pc = .pollUnlock
    · simp only [mainStep, hpc]
      rcases pollUnlock_cases dev io s with h | ⟨hpending, h⟩
      · rw [h]
        exact Or.inl rfl
      · exact Or.inr ⟨hpc, hpending, io.unlock, by rw [h]⟩
    · obtain ⟨bot, log, h⟩ := mainStep_bot dev io (fun stream h => hpass ⟨stream, h⟩)
        fun h => absurd h hpc
      rw [h]
      exact Or.inl rfl

theorem keysInv_init (dev : Device) (card : Card) : KeysInv dev (Sys.init dev card).drive where
  lock := lockInv_init dev card
  cleared := fun _ => rfl
  derived := fun h => by cases h

/-- An attempt that gives up keeps the keys. -/
theorem KeysInv.of_givesUp {d d' : Drive} (h : KeysInv dev d) (hlock : LockInv dev d')
    (hne : d.phantom.state ≠ .unlocked) (hgive : GivesUp dev d d') : KeysInv dev d' := by
  have hstate : d'.phantom.state = d.phantom.state := by
    rcases hgive.phantom with hsame | ⟨len, -, -, hsame⟩
    · rw [hsame]
    · rw [hsame]
  exact ⟨hlock, fun _ => hgive.keys.trans (h.cleared hne),
    fun hun => absurd (hstate.symm.trans hun) hne⟩

/-- The switch derives the keys from cleared ones and the salt of the device. -/
theorem KeysInv.of_switches {d d' : Drive} (h : KeysInv dev d) (hlock : LockInv dev d')
    (hne : d.phantom.state ≠ .unlocked) (hswitch : Switches dev d d') : KeysInv dev d' := by
  obtain ⟨card, len, passwordLen, -, rfl⟩ := hswitch.switched
  refine ⟨hlock, fun hnot => absurd rfl hnot, fun _ => ⟨d.phantom.pendingPw.toList.take
    (if unlockPasswordMax < passwordLen then unlockPasswordMax else passwordLen), ?_, ?_⟩⟩
  · show derivations (d.log ++ [.cryptoUnlock _ d.phantom.saltBytes]) = _
    rw [derivations_append, h.lock.underived hne, h.lock.saltBytes hne]
    rfl
  · show (phantomdriveCryptoUnlock dev.kdfRounds dev.aesMode d.keys _ d.phantom.saltBytes).1 = _
    rw [h.cleared hne, h.lock.saltBytes hne]
    rfl

theorem keysInv_step (s : Sys) (e : Event) (h : KeysInv dev s.drive) :
    KeysInv dev (step dev s e).drive := by
  have hlock := lockInv_step s e h.lock
  have hattempt : Attempts dev s (step dev s e) → KeysInv dev (step dev s e).drive := by
    intro hattempt
    obtain ⟨io, hdrive⟩ := hattempt.drive
    have hstate : s.drive.phantom.state = .unlockPending := of_decide_eq_true hattempt.pending
    have hne : s.drive.phantom.state ≠ .unlocked := by
      rw [hstate]
      exact LockState.noConfusion
    rw [hdrive] at hlock ⊢
    rcases phantomdriveTryUnlock_cases dev io s.drive with hgive | hswitch
    · exact h.of_givesUp hlock hne hgive
    · exact h.of_switches hlock hne hswitch
  rcases step_keys dev s e with hkeys | hattempts
  case inr => exact hattempt hattempts
  rcases step_lock dev s e with hsame | hsnoop | hattempts
  · refine ⟨hlock, ?_, ?_⟩
    · rw [hkeys, hsame.phantom]
      exact h.cleared
    · rw [hkeys, hsame.phantom, hsame.derivations_eq]
      exact h.derived
  · obtain ⟨hbefore, hafter⟩ := hsnoop.not_unlocked
    refine ⟨hlock, fun _ => hkeys.trans (h.cleared hbefore), fun hun => absurd hun hafter⟩
  · exact hattempt hattempts

/-- **An unlocked drive** shows what its password makes of the card. -/
theorem volume_eq_hidden {d : Drive} (h : KeysInv dev d) (hunlocked : d.phantom.isLocked = false) :
    ∃ password, derivations d.log = [(password, dev.salt)]
      ∧ d.exposed dev = dev.hidden password d.card := by
  have hstate : d.phantom.state = .unlocked := by
    simpa [Phantom.isLocked] using hunlocked
  obtain ⟨password, hlog, hkeys⟩ := h.derived hstate
  refine ⟨password, hlog, ?_⟩
  unfold Drive.exposed
  rw [hunlocked, if_neg Bool.false_ne_true]
  funext s
  rw [Drive.volume, hkeys]
  rfl

end Keys

/-! ### The card beyond the decoy -/

/-- Beyond the decoy, the card is the same. -/
def SameRest (dev : Device) (card card' : Card) : Prop :=
  ∀ s, dev.lockedSectors.toNat ≤ s → card' s = card s

/-- FatFs reaches the card through `unlock_file_diskio.c` only. -/
def UnlockIo.ThroughDisk (dev : Device) (io : UnlockIo) : Prop :=
  ∀ card, ∃ (d : Disk) (calls : List DiskCall), d.card = card
    ∧ io.card card = (Runs.run (diskStep dev) d calls).card

section Rest

variable {dev : Device} {card card' card'' : Card}

theorem SameRest.refl (card : Card) : SameRest dev card card := fun _ _ => rfl

theorem SameRest.trans (h : SameRest dev card card') (h' : SameRest dev card' card'') :
    SameRest dev card card'' := fun s hs => (h' s hs).trans (h s hs)

theorem sameRest_of_eq (h : card' = card) : SameRest dev card card' := fun s _ => congrFun h s

/-- What a password makes of the card depends on the card beyond the decoy. -/
theorem SameRest.hidden (h : SameRest dev card card') (password : List UInt8) :
    dev.hidden password card' = dev.hidden password card := by
  funext s
  rw [Device.hidden, h _ (Nat.le_add_right ..), Device.hidden]

/-- The loop of `disk_write` stays within the decoy. -/
theorem writeLoop_sameRest {locked : Bool} (io : ℕ → TransferIo) (buff : ℕ → Sector)
    {sector : UInt32} {n : ℕ} (hsend : MaySendAll dev locked sector n) {i left : ℕ}
    (hleft : i + left = n) (d : Disk) :
    SameRest dev d.card (writeLoop locked io buff sector i left d).2.card := by
  induction left generalizing i d with
  | zero => exact .refl _
  | succ left ih =>
    have hat := (hsend.maySend (i := i) (by omega)).1
    have hone : SameRest dev d.card
        (transferSector locked (io i) (sector + UInt32.ofNat i) true
          { d with sectorBuffer := buff i }).2.card := by
      intro s hs
      obtain ⟨-, ⟨-, hdone⟩ | ⟨-, hfailed⟩⟩ := transferSector_cases locked (io i)
        (sector + UInt32.ofNat i) true { d with sectorBuffer := buff i }
      · rw [hdone.card, if_pos rfl, Function.update_of_ne (by omega)]
      · exact hfailed.card s (Or.inr (by omega))
    simp only [writeLoop]
    split
    · exact hone.trans (ih (by omega) _)
    · exact hone

/-- **A call of the file system** stays within the decoy. -/
theorem diskStep_sameRest (d : Disk) (call : DiskCall) :
    SameRest dev d.card (diskStep dev d call).card := by
  cases call with
  | diskInitialize locked pdrv now =>
    show SameRest dev d.card (diskInitialize dev locked pdrv now d).2.card
    unfold diskInitialize
    split
    · exact .refl _
    · exact .refl _
  | status locked pdrv => exact .refl _
  | read locked io pdrv null sector count =>
    exact sameRest_of_eq (diskRead_onlyReads io pdrv null sector count d).card
  | write locked io pdrv buff sector count =>
    show SameRest dev d.card (diskWrite dev locked io pdrv buff sector count d).2.card
    unfold diskWrite
    split
    · exact .refl _
    rename_i hrequest
    split
    · exact .refl _
    rename_i hstatus
    rw [Bool.not_eq_true] at hrequest hstatus
    exact writeLoop_sameRest io _ (maySendAll_of_tests hrequest hstatus).1 (Nat.zero_add _) d
  | ioctl locked started ready pdrv cmd null =>
    show SameRest dev d.card (diskIoctl dev locked started ready pdrv cmd null d).2.2.card
    unfold diskIoctl
    split
    · exact .refl _
    split
    · exact .refl _
    split
    · refine sameRest_of_eq ?_
      dsimp only
      unfold finishIo
      split <;> rfl
    split
    · exact .refl _
    · cases cmd <;> exact .refl _
  | setFormatting enabled => exact .refl _
  | resetTimeout now => exact .refl _

theorem diskRun_sameRest (d : Disk) (calls : List DiskCall) :
    SameRest dev d.card (Runs.run (diskStep dev) d calls).card :=
  Runs.invariant_of_forall (P := fun d' : Disk => SameRest dev d.card d'.card)
    (fun d' call h => h.trans (diskStep_sameRest d' call)) (.refl _) calls

/-- A mount reads. -/
theorem fMount_card (locked : Bool) (now : UInt64) (io : ℕ → ℕ → TransferIo) (mount : Mount)
    (d : Disk) : (fMount dev locked now io mount d).2.card = d.card := by
  rw [fMount_eq]
  split
  · rfl
  · exact (mount.run_onlyReads io _).card

/-- **The start** may format the decoy; beyond it, the card is the same. -/
theorem unlockFileInit_sameRest (locked : Bool) (mount : Mount) (io : InitIo) (d : Disk) :
    SameRest dev d.card (unlockFileInit dev locked mount io d).disk.card := by
  have hfirst : SameRest dev d.card (fMount dev locked io.now io.reads mount d).2.card :=
    sameRest_of_eq (fMount_card ..)
  unfold unlockFileInit
  dsimp only
  split
  · split
    · exact hfirst
    have hmkfs := hfirst.trans (@diskRun_sameRest dev
      { (fMount dev locked io.now io.reads mount d).2 with formatting := true } io.mkfsCalls)
    split
    · exact hmkfs
    · refine hmkfs.trans (sameRest_of_eq ?_)
      dsimp only
      rw [fMount_card]
  · exact hfirst

theorem UnlockIo.ThroughDisk.sameRest {io : UnlockIo} (h : io.ThroughDisk dev) (card : Card) :
    SameRest dev card (io.card card) := by
  obtain ⟨d, calls, hcard, hafter⟩ := h card
  rw [hafter, ← hcard]
  exact diskRun_sameRest d calls

/-- An attempt to unlock leaves the card to the file system. -/
theorem phantomdriveTryUnlock_card (dev : Device) (io : UnlockIo) (d : Drive) :
    (phantomdriveTryUnlock dev io d).card = d.card
      ∨ (phantomdriveTryUnlock dev io d).card = io.card d.card := by
  unfold phantomdriveTryUnlock
  split
  · exact Or.inl rfl
  split
  · exact Or.inl rfl
  dsimp only
  split
  · exact Or.inr rfl
  split
  · exact Or.inr rfl
  · refine Or.inr ?_
    unfold deleteAndSwitch
    dsimp only
    split
    · split
      · rfl
      · rfl
    · split
      · rfl
      · rfl

end Rest

/-! ### While the drive is locked -/

/-- In an attempt to unlock, FatFs reaches the card through its shim only. -/
def Event.ThroughDisk (dev : Device) : Event → Prop
  | .main io => io.unlock.ThroughDisk dev
  | _ => True

section Locked

variable {dev : Device}

/-- A pass of the write loop of a locked drive stays within the decoy. -/
theorem writeIter_sameRest (io : ChunkIo) {stream : WriteStream} {d : Drive}
    (hpos : 0 < stream.sectorsLeft) (hlocked : d.phantom.isLocked = true)
    (hreach : stream.InReach dev true) : SameRest dev d.card (writeIter dev io stream d).2.card := by
  have hlocked' : (writeIter dev io stream d).2.phantom.isLocked = true := by
    rw [(writeIter_effect hpos).phantom, chunkPhantom_isLocked, hlocked]
  have hbefore : d.exposed dev = d.card := by
    rw [Drive.exposed, hlocked, if_pos rfl]
  have hafter : (writeIter dev io stream d).2.exposed dev = (writeIter dev io stream d).2.card := by
    rw [Drive.exposed, hlocked', if_pos rfl]
  have hend : stream.lba.toNat + stream.chunkSectors ≤ dev.lockedSectors.toNat := hreach
  intro s hs
  rw [← hlocked] at hreach
  rw [← hafter, ← hbefore]
  rcases writeIter_exposed io hreach hpos with ⟨-, hshown⟩ | ⟨-, hshown⟩
  · rw [hshown, Card.write_outside (by rw [length_passKept]; omega)]
  · exact hshown s (by omega)

/-- **One event** leaves a locked drive's card as it is beyond the decoy. -/
theorem step_sameRest {w : HostRun} {e : Event} (hf : Follows dev w.session w.copy)
    (hdisk : e.ThroughDisk dev) (hlocked : w.session.sys.drive.phantom.isLocked = true) :
    SameRest dev w.session.sys.drive.card (w.step dev e).session.sys.drive.card := by
  show SameRest dev _ (step dev w.session.sys e).drive.card
  have hinterrupt : (∀ io, e ≠ .main io) →
      (step dev w.session.sys e).drive.card = w.session.sys.drive.card := by
    intro hne
    obtain ⟨bot, rxBuff, hstep⟩ := step_interrupt dev hne
    rw [hstep]
  cases e with
  | bulkOut packet => exact sameRest_of_eq (hinterrupt fun io => Event.noConfusion)
  | bulkIn => exact sameRest_of_eq (hinterrupt fun io => Event.noConfusion)
  | main io =>
    show SameRest dev _ (mainStep dev io w.session.sys).drive.card
    cases hpc : w.session.sys.pc with
    | writeRun stream =>
      simp only [mainStep, hpc]
      rcases Nat.eq_zero_or_pos stream.sectorsLeft with hzero | hpos
      · rw [writeRun, if_pos hzero]
        exact .refl _
      -- the chunk lies within what a locked drive shows
      have hongoing : Ongoing dev w.session.exchange w.session.sys.drive.bot (.writeRun stream) :=
        hpc ▸ hf.phase
      have hwriting := hongoing.writing_of
      have hstream : StreamAt w.session.exchange stream := hwriting.at_.2.2
      obtain ⟨-, hreach, -⟩ := hstream.withinReach hf.reach hwriting.dataPhase hpos
      rw [hf.locked (Exchange.inProgress_iff.mpr ⟨hwriting.outstanding, hwriting.valid⟩),
        hlocked] at hreach
      have hpass := writeIter_sameRest io.chunk hpos hlocked hreach
      rw [writeRun, if_neg (by omega)]
      dsimp only
      split
      · exact hpass
      · exact hpass
    | pollUnlock =>
      simp only [mainStep, hpc]
      rcases pollUnlock_cases dev io w.session.sys with h | ⟨-, h⟩
      · rw [h]
        exact .refl _
      rw [h]
      dsimp only
      rcases phantomdriveTryUnlock_card dev io.unlock w.session.sys.drive with
        hcard | hcard
      · exact sameRest_of_eq hcard
      · rw [hcard]
        exact hdisk.sameRest _
    | _ =>
      obtain ⟨bot, log, h⟩ := mainStep_bot (s := w.session.sys) dev io
        (fun stream heq => MainPc.noConfusion (hpc.symm.trans heq))
        fun heq => MainPc.noConfusion (hpc.symm.trans heq)
      rw [h]
      exact .refl _

/-- The invariant of a power cycle: until the drive is unlocked, the card beyond the decoy is the
one it was at power-up. -/
structure Sealed (dev : Device) (card : Card) (w : HostRun) : Prop where
  keys : KeysInv dev w.session.sys.drive
  follows : Follows dev w.session w.copy
  rest : w.session.sys.drive.phantom.isLocked = true →
    SameRest dev card w.session.sys.drive.card

theorem sealed_step (hinit : dev.initTxCtrl = .nak) {card : Card} (w : HostRun) (e : Event)
    (h : Sealed dev card w) (hok : WithinReach dev w e ∧ e.ThroughDisk dev) :
    Sealed dev card (w.step dev e) where
  keys := keysInv_step _ e h.keys
  follows := follows_step hinit w e h.follows hok.1
  rest := fun hlocked' => by
    have hlocked := isLocked_of_step hlocked'
    exact (h.rest hlocked).trans (step_sameRest h.follows hok.2 hlocked)

end Locked

/-! ### Power cycles -/

/-- What `main` meets from power-up until the power goes. -/
structure PowerCycle where
  mount : Mount
  init : InitIo
  events : List Event

namespace PowerCycle

/-- `main` up to its loop. -/
def start (dev : Device) (card : Card) (c : PowerCycle) : HostRun :=
  .init dev (unlockFileInit dev true c.mount c.init (Disk.init card)).disk.card

/-- The drive when the power goes. -/
def finish (dev : Device) (card : Card) (c : PowerCycle) : Drive :=
  (Runs.run (HostRun.step dev) (c.start dev card) c.events).session.sys.drive

/-- What is left of it. -/
def leaves (dev : Device) (card : Card) (c : PowerCycle) : Card := (c.finish dev card).card

/-- The host stays within what it is shown, and FatFs behind its shim. -/
structure Proper (dev : Device) (card : Card) (c : PowerCycle) : Prop where
  within : Runs.Along (HostRun.step dev) (WithinReach dev) (c.start dev card) c.events
  throughDisk : ∀ e ∈ c.events, e.ThroughDisk dev

/-- A power cycle in which only the decoy is shown. -/
structure Decoy (dev : Device) (card : Card) (c : PowerCycle) : Prop where
  proper : c.Proper dev card
  locked : (c.finish dev card).phantom.isLocked = true

variable {dev : Device} {card : Card} {c : PowerCycle}

theorem Proper.sealed (hinit : dev.initTxCtrl = .nak) (h : c.Proper dev card) :
    Sealed dev card (Runs.run (HostRun.step dev) (c.start dev card) c.events) := by
  refine Runs.invariant (sealed_step hinit) ?_ (h.within.and_forall h.throughDisk)
  exact
    { keys := keysInv_init dev _
      follows := follows_init hinit _
      rest := fun _ => unlockFileInit_sameRest true c.mount c.init (Disk.init card) }

/-- A power cycle without an unlock leaves the card beyond the decoy alone. -/
theorem Decoy.sameRest (hinit : dev.initTxCtrl = .nak) (h : c.Decoy dev card) :
    SameRest dev card (c.leaves dev card) :=
  (h.proper.sealed hinit).rest h.locked

/-- So do any number of them. -/
theorem sameRest_of_decoys (hinit : dev.initTxCtrl = .nak) (card : Card) {cycles : List PowerCycle}
    (h : Runs.Along (leaves dev) (Decoy dev) card cycles) :
    SameRest dev card (Runs.run (leaves dev) card cycles) :=
  Runs.invariant (P := fun card' => SameRest dev card card')
    (fun _ _ hsame hdecoy => hsame.trans (hdecoy.sameRest hinit)) (.refl card) h

/-- The keys do not depend on what the host does. -/
theorem keysInv (dev : Device) (card : Card) (c : PowerCycle) : KeysInv dev (c.finish dev card) :=
  Runs.invariant_of_forall (P := fun w : HostRun => KeysInv dev w.session.sys.drive)
    (fun w e h => keysInv_step w.session.sys e h) (keysInv_init dev _) c.events

/-- The power cycle, with one more event. -/
def snoc (c : PowerCycle) (e : Event) : PowerCycle := { c with events := c.events ++ [e] }

theorem Proper.of_snoc {e : Event} (h : (c.snoc e).Proper dev card) : c.Proper dev card where
  within := (Runs.along_append.mp h.within).1
  throughDisk := fun e' hmem => h.throughDisk e' (List.mem_append_left _ hmem)

/-- **What an unlock shows** is what the password makes of the card as it was at power-up, whatever
the host has done to the decoy since. -/
theorem unlock_shows (hinit : dev.initTxCtrl = .nak) {e : Event}
    (hproper : (c.snoc e).Proper dev card)
    (hlocked : (c.finish dev card).phantom.isLocked = true)
    (hunlocked : ((c.snoc e).finish dev card).phantom.isLocked = false) :
    ∃ password, derivations ((c.snoc e).finish dev card).log = [(password, dev.salt)]
      ∧ ((c.snoc e).finish dev card).exposed dev = dev.hidden password card := by
  obtain ⟨password, hlog, hshown⟩ := volume_eq_hidden (keysInv dev card (c.snoc e)) hunlocked
  refine ⟨password, hlog, ?_⟩
  have hsealed := hproper.of_snoc.sealed hinit
  have hlast : SameRest dev (c.finish dev card).card ((c.snoc e).finish dev card).card := by
    have hfinish : (c.snoc e).finish dev card
        = ((Runs.run (HostRun.step dev) (c.start dev card) c.events).step dev e).session.sys.drive := by
      show (Runs.run (HostRun.step dev) (c.start dev card) (c.events ++ [e])).session.sys.drive = _
      rw [Runs.run_append]
      rfl
    rw [hfinish]
    refine step_sameRest hsealed.follows (hproper.throughDisk e ?_) hlocked
    exact List.mem_append_right _ (List.mem_singleton_self e)
  rw [hshown, ((hsealed.rest hlocked).trans hlast).hidden]

/-- **The hidden volume persists.**  What an unlocked drive shows when the power goes is what the
next unlock with the same password shows, whatever power cycles without an unlock lie in
between. -/
theorem hiddenVolume_persists (dev : Device) (hinit : dev.initTxCtrl = .nak) (card : Card)
    (first : PowerCycle) (hfirst : (first.finish dev card).phantom.isLocked = false)
    (between : List PowerCycle)
    (hbetween : Runs.Along (leaves dev) (Decoy dev) (first.leaves dev card) between)
    (last : PowerCycle) (e : Event) :
    let card' := Runs.run (leaves dev) (first.leaves dev card) between
    (last.snoc e).Proper dev card' →
    (last.finish dev card').phantom.isLocked = true →
    ((last.snoc e).finish dev card').phantom.isLocked = false →
    derivations ((last.snoc e).finish dev card').log = derivations (first.finish dev card).log →
    ((last.snoc e).finish dev card').exposed dev = (first.finish dev card).exposed dev := by
  intro card' hproper hlocked hunlocked hsame
  obtain ⟨password, hlog, hshown⟩ := volume_eq_hidden (keysInv dev card first) hfirst
  obtain ⟨password', hlog', hshown'⟩ := unlock_shows hinit hproper hlocked hunlocked
  have hpassword : password' = password := by
    rw [hlog, hlog'] at hsame
    exact congrArg Prod.fst (List.cons.inj hsame).1
  have hcard := sameRest_of_decoys hinit (first.leaves dev card) hbetween
  calc ((last.snoc e).finish dev card').exposed dev
      = dev.hidden password' card' := hshown'
    _ = dev.hidden password (first.leaves dev card) := by rw [hpassword, hcard.hidden]
    _ = (first.finish dev card).exposed dev := hshown.symm

end PowerCycle

/-- A file system that leaves the card alone. -/
theorem throughDisk_of_id {dev : Device} {io : MainIo} (h : io.unlock.card = id) :
    (Event.main io).ThroughDisk dev := by
  intro card
  refine ⟨Disk.init card, [], rfl, ?_⟩
  rw [h]
  rfl

/-- The host writes `password:a` and waits until the drive tries to unlock. -/
def sampleCycle : PowerCycle where
  mount := .done .ok .fat32
  init := sampleInitIo
  events := sampleArm ++ List.replicate 2 (.main sampleLateIo)

/-- A host that asks for the identity only. -/
def sampleDecoyCycle : PowerCycle where
  mount := .done .ok .fat32
  init := sampleInitIo
  events := sampleInquiry 36

/-- The drive is unlocked, shows the decoy only, and is unlocked again. -/
theorem hiddenVolume_persists_again :
    let card : Card := fun _ _ => 0
    let first := sampleCycle.snoc (.main sampleLateIo)
    let card' := Runs.run (PowerCycle.leaves sampleDevice) (first.leaves sampleDevice card)
      [sampleDecoyCycle]
    (first.finish sampleDevice card').exposed sampleDevice
      = (first.finish sampleDevice card).exposed sampleDevice := by
  intro card first card'
  have hdisk : ∀ e ∈ first.events, e.ThroughDisk sampleDevice := by
    have hsample : (Event.main sampleMainIo).ThroughDisk sampleDevice := throughDisk_of_id rfl
    have hlate : (Event.main sampleLateIo).ThroughDisk sampleDevice := throughDisk_of_id rfl
    intro e hmem
    rcases List.mem_append.mp hmem with hmem | hmem
    case inr => exact List.mem_singleton.mp hmem ▸ hlate
    rcases List.mem_append.mp hmem with hmem | hmem
    case inr => exact (List.eq_of_mem_replicate hmem) ▸ hlate
    rcases List.mem_append.mp hmem with hmem | hmem
    case inr => exact List.mem_singleton.mp hmem ▸ trivial
    rcases List.mem_append.mp hmem with hmem | hmem
    case inr => exact (List.eq_of_mem_replicate hmem) ▸ hsample
    rcases List.mem_cons.mp hmem with rfl | hmem
    · trivial
    · exact List.mem_singleton.mp hmem ▸ trivial
  have hbetween : sampleDecoyCycle.Decoy sampleDevice (first.leaves sampleDevice card) := by
    refine ⟨⟨?_, fun e hmem => ?_⟩, by decide +kernel⟩
    · decide +kernel
    · rcases List.mem_cons.mp hmem with rfl | hmem
      · trivial
      · exact (List.eq_of_mem_replicate (n := 2) hmem) ▸ trivial
  -- one evaluation of the runs for all that is read off them
  have hruns : (first.finish sampleDevice card).phantom.isLocked = false
      ∧ Runs.Along (HostRun.step sampleDevice) (WithinReach sampleDevice)
        (first.start sampleDevice card') first.events
      ∧ (sampleCycle.finish sampleDevice card').phantom.isLocked = true
      ∧ (first.finish sampleDevice card').phantom.isLocked = false
      ∧ derivations (first.finish sampleDevice card').log
        = derivations (first.finish sampleDevice card).log := by
    decide +kernel
  obtain ⟨hfirst, hwithin, hlocked, hunlocked, hsame⟩ := hruns
  exact PowerCycle.hiddenVolume_persists sampleDevice rfl card first hfirst [sampleDecoyCycle]
    ⟨hbetween, trivial⟩ sampleCycle (.main sampleLateIo) ⟨hwithin, hdisk⟩ hlocked hunlocked hsame

end PhantomDrive
