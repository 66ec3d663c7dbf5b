/-
PhantomDrive/LockState.lean

The lock over whole runs.  The state moves from LOCKED over UNLOCK_PENDING to UNLOCKED and
never back, the keys are derived at most once and with the salt of the device, the
capacity follows the state, and nothing of the password is left once the drive is
unlocked.

Only the snooper and an attempt to unlock touch any of this; every other step is
`SameLock`.  Main result: `lockState_run`.
-/
import PhantomDrive.Dispatch
import PhantomDrive.Machine

namespace PhantomDrive

/-! ### Key derivations -/

/-- The password and the salt of a key derivation. -/
def Action.derivation? : Action → Option (List UInt8 × Vector UInt8 8)
  | .cryptoUnlock password salt => some (password, salt)
  | _ => none

/-- The key derivations of a log. -/
def derivations (log : List Action) : List (List UInt8 × Vector UInt8 8) :=
  log.filterMap Action.derivation?

theorem derivations_append (log later : List Action) :
    derivations (log ++ later) = derivations log ++ derivations later :=
  List.filterMap_append

/-- The salt of the device: its unique id, least significant byte first. -/
def Device.salt (dev : Device) : Vector UInt8 8 :=
  Vector.ofFn fun i => (dev.uniqueId >>> UInt64.ofNat (8 * i)).toUInt8

/-! ### What a step can do to the lock -/

/-- What only the snooper and an attempt to unlock change. -/
structure SameLock (d d' : Drive) : Prop where
  phantom : d'.phantom = d.phantom
  capacity : d'.bot.capacity = d.bot.capacity
  derivations_eq : derivations d'.log = derivations d.log

/-- The step writes a chunk while locked: the snooper may arm the unlock. -/
structure Snoops (d d' : Drive) : Prop where
  locked : d.phantom.isLocked = true
  state : d'.phantom.state = d.phantom.state ∨ d'.phantom.state = .unlockPending
  saltBytes : d'.phantom.saltBytes = d.phantom.saltBytes
  capacity : d'.bot.capacity = d.bot.capacity
  derivations_eq : derivations d'.log = derivations d.log

/-- The step attempts to unlock. -/
structure Attempts (dev : Device) (s s' : Sys) : Prop where
  pc : s.pc = .pollUnlock
  pending : s.drive.phantom.unlockPending = true
  drive : ∃ io, s'.drive = phantomdriveTryUnlock dev io s.drive

section Steps

variable {dev : Device}

theorem SameLock.refl (d : Drive) : SameLock d d := ⟨rfl, rfl, rfl⟩

theorem writeRun_lock (io : MainIo) (stream : WriteStream) (s : Sys) :
    SameLock s.drive (writeRun dev io stream s).drive
      ∨ Snoops s.drive (writeRun dev io stream s).drive := by
  rcases writeRun_cases dev io stream s with ⟨-, h⟩ | ⟨-, d', heffect, h⟩
  · rw [h]
    exact Or.inl (SameLock.refl _)
  have hdrive : (writeRun dev io stream s).drive = d' := by
    rcases h with h | h
    · rw [h]
    · rw [h]
  rw [hdrive]
  have hcapacity : d'.bot.capacity = s.drive.bot.capacity := by
    rcases heffect.bot with h | h
    · rw [h]
    · rw [h]
      rfl
  have hlog : derivations d'.log = derivations s.drive.log := by
    rcases heffect.log with h | ⟨-, h⟩
    · rw [h]
    · rw [h, derivations_append]
      exact List.append_nil _
  have hphantom := heffect.phantom
  by_cases hlocked : s.drive.phantom.isLocked = true
  · rw [chunkPhantom, if_pos hlocked] at hphantom
    have hsetup := phantomdriveSnoopWrite_setup io.chunk.now
      (chunkBytes (receiveChunkUsb2 s.drive.rxBuff stream.firstPacket stream.chunkSectors
        io.chunk.packets)) stream.lba s.drive.phantom
    rw [← hphantom] at hsetup
    exact Or.inr ⟨hlocked, hsetup.1, hsetup.2, hcapacity, hlog⟩
  · rw [chunkPhantom, if_neg hlocked] at hphantom
    exact Or.inl ⟨hphantom, hcapacity, hlog⟩

/-- **One step of `main`** leaves the lock alone, or snoops, or attempts to unlock. -/
theorem mainStep_lock (io : MainIo) (s : Sys) :
    SameLock s.drive (mainStep dev io s).drive ∨ Snoops s.drive (mainStep dev io s).drive
      ∨ Attempts dev s (mainStep dev io s) := by
  cases hpc : s.pc with
  | readStart preqnum actualLba =>
    simp only [mainStep, hpc]
    refine Or.inl ⟨rfl, rfl, ?_⟩
    rw [startReadStream, derivations_append]
    exact List.append_nil _
  | readRun preqnum actualLba =>
    simp only [mainStep, hpc]
    rcases readRun_cases dev io preqnum actualLba s with h | ⟨packets, h⟩
    · rw [h]
      exact Or.inl (SameLock.refl _)
    · rw [h]
      exact Or.inl ⟨rfl, rfl, rfl⟩
  | csw stage caller =>
    cases stage
    case ack =>
      cases caller
      all_goals
        simp only [mainStep, hpc]
        exact Or.inl ⟨rfl, rfl, rfl⟩
    all_goals
      simp only [mainStep, hpc]
      exact Or.inl ⟨rfl, rfl, rfl⟩
  | writeRun stream =>
    simp only [mainStep, hpc]
    exact (writeRun_lock io stream s).imp_right Or.inl
  | pollUnlock =>
    simp only [mainStep, hpc]
    rcases pollUnlock_cases dev io s with h | ⟨hpending, h⟩
    · rw [h]
      exact Or.inl (SameLock.refl _)
    · exact Or.inr (Or.inr ⟨hpc, hpending, io.unlock, by rw [h]⟩)
  | _ =>
    simp only [mainStep, hpc]
    exact Or.inl ⟨rfl, rfl, rfl⟩

/-- **One event** leaves the lock alone, or snoops, or attempts to unlock. -/
theorem step_lock (dev : Device) (s : Sys) (e : Event) :
    SameLock s.drive (step dev s e).drive ∨ Snoops s.drive (step dev s e).drive
      ∨ Attempts dev s (step dev s e) := by
  cases e with
  | bulkOut packet =>
    unfold step
    dsimp only
    split
    · exact Or.inl ⟨rfl, (botHandleBulkOut_sameSetup ..).capacity, rfl⟩
    · exact Or.inl (SameLock.refl _)
  | bulkIn =>
    unfold step
    dsimp only
    split
    · exact Or.inl ⟨rfl, (botHandleBulkIn_sameSetup ..).capacity, rfl⟩
    · exact Or.inl (SameLock.refl _)
  | main io => exact mainStep_lock io s

end Steps

/-! ### The lock over a run -/

/-- The capacity reported in a state. -/
def Device.capacityIn (dev : Device) : LockState → UInt32
  | .unlocked => dev.emmcSecNum - dev.lockedSectors
  | _ => dev.lockedSectors

/-- What holds of the lock in every reachable state. -/
structure LockInv (dev : Device) (d : Drive) : Prop where
  capacity : d.bot.capacity = dev.capacityIn d.phantom.state
  saltBytes : d.phantom.state ≠ .unlocked → d.phantom.saltBytes = dev.salt
  underived : d.phantom.state ≠ .unlocked → derivations d.log = []
  derived : d.phantom.state = .unlocked → ∃ password, derivations d.log = [(password, dev.salt)]
    ∧ 1 ≤ password.length ∧ password.length ≤ unlockPasswordMax
  cleared : d.phantom.state = .unlocked
    → d.phantom.pendingPw = Vector.replicate 128 0 ∧ d.phantom.pendingPwLen = 0

theorem lockInv_init (dev : Device) (card : Card) : LockInv dev (Sys.init dev card).drive where
  capacity := rfl
  saltBytes := fun _ => rfl
  underived := fun _ => rfl
  derived := fun h => by cases h
  cleared := fun h => by cases h

variable {dev : Device} {d d' : Drive}

theorem LockInv.sameLock (h : LockInv dev d) (hsame : SameLock d d') : LockInv dev d' where
  capacity := by rw [hsame.capacity, hsame.phantom, h.capacity]
  saltBytes := by rw [hsame.phantom]; exact h.saltBytes
  underived := by rw [hsame.phantom, hsame.derivations_eq]; exact h.underived
  derived := by rw [hsame.phantom, hsame.derivations_eq]; exact h.derived
  cleared := by rw [hsame.phantom]; exact h.cleared

theorem Snoops.not_unlocked (h : Snoops d d') :
    d.phantom.state ≠ .unlocked ∧ d'.phantom.state ≠ .unlocked := by
  have hlocked : d.phantom.state ≠ .unlocked := of_decide_eq_true h.locked
  refine ⟨hlocked, ?_⟩
  rcases h.state with hsame | hpending
  · rwa [hsame]
  · rw [hpending]
    exact LockState.noConfusion

theorem capacityIn_of_ne {st : LockState} (h : st ≠ .unlocked) :
    dev.capacityIn st = dev.lockedSectors := by
  cases st with
  | unlocked => exact absurd rfl h
  | locked => rfl
  | unlockPending => rfl

theorem LockInv.snoops (h : LockInv dev d) (hsnoop : Snoops d d') : LockInv dev d' := by
  obtain ⟨hbefore, hafter⟩ := hsnoop.not_unlocked
  constructor
  · rw [hsnoop.capacity, h.capacity, capacityIn_of_ne hbefore, capacityIn_of_ne hafter]
  · intro _
    rw [hsnoop.saltBytes, h.saltBytes hbefore]
  · intro _
    rw [hsnoop.derivations_eq, h.underived hbefore]
  · exact fun hun => absurd hun hafter
  · exact fun hun => absurd hun hafter

theorem LockInv.givesUp (h : LockInv dev d) (hgive : GivesUp dev d d')
    (hpending : d.phantom.state = .unlockPending) : LockInv dev d' := by
  have hne : d.phantom.state ≠ .unlocked := by
    rw [hpending]
    exact LockState.noConfusion
  have hphantom : d'.phantom.state = d.phantom.state
      ∧ d'.phantom.saltBytes = d.phantom.saltBytes := by
    rcases hgive.phantom with hsame | ⟨len, -, -, hsame⟩
    · rw [hsame]
      exact ⟨rfl, rfl⟩
    · rw [hsame]
      exact ⟨rfl, rfl⟩
  have hcapacity : d'.bot.capacity = d.bot.capacity := by
    rcases hgive.bot with hsame | ⟨-, hsame⟩
    · rw [hsame]
    · rw [hsame]
      rfl
  constructor
  · rw [hcapacity, hphantom.1, h.capacity]
  · intro _
    rw [hphantom.2, h.saltBytes hne]
  · intro _
    rw [hgive.log, h.underived hne]
  · exact fun hun => absurd (hphantom.1.symm.trans hun) hne
  · exact fun hun => absurd (hphantom.1.symm.trans hun) hne

theorem LockInv.switches (h : LockInv dev d) (hswitch : Switches dev d d')
    (hpending : d.phantom.state = .unlockPending) : LockInv dev d' := by
  have hne : d.phantom.state ≠ .unlocked := by
    rw [hpending]
    exact LockState.noConfusion
  obtain ⟨card, len, passwordLen, hpos, rfl⟩ := hswitch.switched
  constructor
  · rfl
  · exact fun hun => absurd rfl hun
  · exact fun hun => absurd rfl hun
  · intro _
    refine ⟨d.phantom.pendingPw.toList.take
      (if unlockPasswordMax < passwordLen then unlockPasswordMax else passwordLen), ?_, ?_⟩
    · show derivations (d.log ++ [.cryptoUnlock _ d.phantom.saltBytes]) = _
      rw [derivations_append, h.underived hne, h.saltBytes hne]
      rfl
    · rw [List.length_take, Vector.length_toList]
      unfold unlockPasswordMax
      split <;> omega
  · exact fun _ => ⟨rfl, rfl⟩

/-- How the state may move in one step. -/
inductive LockState.Moves : LockState → LockState → Prop
  | stay (st : LockState) : Moves st st
  | arm : Moves .locked .unlockPending
  | unlock : Moves .unlockPending .unlocked

theorem step_moves (s : Sys) (e : Event) :
    s.drive.phantom.state.Moves (step dev s e).drive.phantom.state := by
  rcases step_lock dev s e with hsame | hsnoop | hattempt
  · rw [hsame.phantom]
    exact .stay _
  · rcases hsnoop.state with hsame | hpending
    · rw [hsame]
      exact .stay _
    · have hne := hsnoop.not_unlocked.1
      rw [hpending]
      cases hstate : s.drive.phantom.state with
      | locked => exact .arm
      | unlockPending => exact .stay _
      | unlocked => exact absurd hstate hne
  · obtain ⟨io, hdrive⟩ := hattempt.drive
    have hstate : s.drive.phantom.state = .unlockPending := of_decide_eq_true hattempt.pending
    rw [hdrive, hstate]
    rcases phantomdriveTryUnlock_cases dev io s.drive with hgive | hswitch
    · rcases hgive.phantom with hsame | ⟨len, -, -, hsame⟩
      · rw [hsame, hstate]
        exact .stay _
      · rw [hsame]
        show LockState.Moves _ s.drive.phantom.state
        rw [hstate]
        exact .stay _
    · obtain ⟨card, len, passwordLen, -, hswitched⟩ := hswitch.switched
      rw [hswitched]
      exact .unlock

theorem lockInv_step (s : Sys) (e : Event) (h : LockInv dev s.drive) :
    LockInv dev (step dev s e).drive := by
  rcases step_lock dev s e with hsame | hsnoop | hattempt
  · exact h.sameLock hsame
  · exact h.snoops hsnoop
  · obtain ⟨io, hdrive⟩ := hattempt.drive
    have hstate : s.drive.phantom.state = .unlockPending := of_decide_eq_true hattempt.pending
    rw [hdrive]
    rcases phantomdriveTryUnlock_cases dev io s.drive with hgive | hswitch
    · exact h.givesUp hgive hstate
    · exact h.switches hswitch hstate

theorem lockInv_run (dev : Device) (card : Card) (events : List Event) :
    LockInv dev (Runs.run (step dev) (Sys.init dev card) events).drive :=
  Runs.invariant_of_forall (P := fun s : Sys => LockInv dev s.drive) lockInv_step
    (lockInv_init dev card) events

/-- **The lock over every run.**  The state only moves from LOCKED over UNLOCK_PENDING to
UNLOCKED; the keys are derived at most once, with the salt of the device and a password of 1 to
128 bytes; the capacity is that of the state whenever the USB interrupt is enabled; and once
unlocked, nothing of the password is left. -/
theorem lockState_run (dev : Device) (card : Card) (events : List Event) :
    let s := Runs.run (step dev) (Sys.init dev card) events
    (∀ e, s.drive.phantom.state.Moves (step dev s e).drive.phantom.state)
      ∧ (derivations s.drive.log).length ≤ 1
      ∧ (∀ d ∈ derivations s.drive.log,
          d.2 = dev.salt ∧ 1 ≤ d.1.length ∧ d.1.length ≤ unlockPasswordMax)
      ∧ (s.usbIrq = true → s.drive.bot.capacity = dev.capacityIn s.drive.phantom.state)
      ∧ (s.drive.phantom.state = .unlocked
          → s.drive.phantom.pendingPw = Vector.replicate 128 0
            ∧ s.drive.phantom.pendingPwLen = 0) := by
  intro s
  have hinv : LockInv dev s.drive := lockInv_run dev card events
  refine ⟨step_moves s, ?_, ?_, fun _ => hinv.capacity, hinv.cleared⟩
  · by_cases hstate : s.drive.phantom.state = .unlocked
    · obtain ⟨password, hderived, -⟩ := hinv.derived hstate
      rw [hderived]
      exact le_rfl
    · rw [hinv.underived hstate]
      exact Nat.zero_le _
  · intro d hd
    by_cases hstate : s.drive.phantom.state = .unlocked
    · obtain ⟨password, hderived, hlen⟩ := hinv.derived hstate
      rw [hderived] at hd
      obtain rfl := List.mem_singleton.mp hd
      exact ⟨rfl, hlen⟩
    · rw [hinv.underived hstate] at hd
      cases hd

end PhantomDrive
