/-
PhantomDrive/UnlockDue.lean

An armed password opens the drive.  Once the time for the search of the file is over and
the bus is quiet, no file system, no card and nothing that went before keeps the drive
locked: wherever `main` stands, it takes it at most four steps to reach the end of
`bot_poll` and to switch.

Main result: `unlock_due`.
-/
import PhantomDrive.BlockDevice

namespace PhantomDrive

/-! ### An attempt that is due -/

/-- The time is over at both tests, and no interrupt flag is set at the two idle checks. -/
structure MainIo.Due (io : MainIo) (p : Phantom) : Prop where
  timeout : phantomdriveUnlockTimeoutReached io.nowTimeout p = true
  timedOut : phantomdriveUnlockTimeoutReached io.unlock.now p = true
  pending : io.unlock.pending = false
  pendingAfterFind : io.unlock.pendingAfterFind = false

/-- The password that an attempt takes: as long as it was captured, or as the file has it. -/
def UnlockIo.password (io : UnlockIo) (p : Phantom) : List UInt8 :=
  p.pendingPw.toList.take (min unlockPasswordMax (unlockSearch io p).2)

/-- The drive is open, with keys from this password and the salt of the device. -/
structure Opened (dev : Device) (password : List UInt8) (d : Drive) : Prop where
  isLocked : d.phantom.isLocked = false
  derived : derivations d.log = [(password, dev.salt)]

section Due

variable {dev : Device}

theorem botUsbIsIdle_of_idle {b : Bot} (h : b.Idle) : botUsbIsIdle false b = true := by
  unfold botUsbIsIdle
  rw [h.flags, h.readPending, h.writePending, h.txCtrl]
  rfl

/-- **An attempt that is due** switches, whatever the file system says. -/
theorem phantomdriveTryUnlock_due (io : MainIo) {d : Drive} (hdue : io.Due d.phantom)
    (hidle : d.bot.Idle) (hlen : d.phantom.pendingPwLen ≠ 0) (hlock : LockInv dev d)
    (hlocked : d.phantom.isLocked = true) :
    Opened dev (io.unlock.password d.phantom) (phantomdriveTryUnlock dev io.unlock d) := by
  have hne : d.phantom.state ≠ .unlocked := of_decide_eq_true hlocked
  have hswitch : ∀ (d' : Drive), d'.log = d.log → d'.phantom.saltBytes = d.phantom.saltBytes →
      d'.phantom.pendingPw = d.phantom.pendingPw →
      Opened dev (io.unlock.password d.phantom)
        (phantomdriveSwitch dev (unlockSearch io.unlock d.phantom).2 d') := by
    intro d' hlog hsalt hpw
    refine ⟨rfl, ?_⟩
    have hmin : ∀ n, (if unlockPasswordMax < n then unlockPasswordMax else n)
        = min unlockPasswordMax n := fun n => by
      rw [min_def]
      split <;> split <;> omega
    show derivations (d'.log ++ [.cryptoUnlock (d'.phantom.pendingPw.toList.take _)
      d'.phantom.saltBytes]) = _
    rw [derivations_append, hlog, hlock.underived hne, hsalt, hlock.saltBytes hne, hpw, hmin]
    rfl
  unfold phantomdriveTryUnlock deleteAndSwitch
  rw [if_neg hlen, hdue.pending, hdue.pendingAfterFind]
  dsimp only
  simp only [botUsbIsIdle_of_idle hidle, hdue.timedOut, Bool.not_true, Bool.and_false,
    Bool.false_eq_true, if_false]
  split
  · exact hswitch _ rfl rfl rfl
  · exact hswitch _ rfl rfl rfl

end Due

/-! ### The way to it -/

/-- A password is armed, and the transport layer is idle. -/
structure Armed (dev : Device) (p : Phantom) (s : Sys) : Prop where
  lock : LockInv dev s.drive
  phantom : s.drive.phantom = p
  rest : AtRest s.drive.bot s.pc
  flags : s.drive.bot.transferFlags = .none
  txCtrl : s.drive.bot.txCtrl = .nak

/-- How many steps `main` at rest takes to the end of `bot_poll`. -/
def MainPc.toUnlock : MainPc → ℕ
  | .readFlagsLoad => 4
  | .readFlagsStore _ | .poll => 3
  | .pollWrite | .writeDone => 2
  | _ => 1

section Way

variable {dev : Device} {p : Phantom} {s : Sys} {io : MainIo}

theorem Armed.idle (h : Armed dev p s) : s.drive.bot.Idle :=
  ⟨h.flags, h.rest.readPending, h.rest.writePending, h.txCtrl⟩

/-- At the end of `bot_poll`, the drive opens. -/
theorem Armed.attempt (h : Armed dev p s) (hpending : p.unlockPending = true)
    (hlen : p.pendingPwLen ≠ 0) (hdue : io.Due p) (hpc : s.pc = .pollUnlock) :
    Opened dev (io.unlock.password p) (mainStep dev io s).drive := by
  have hstate : s.drive.phantom.state = .unlockPending := by
    rw [h.phantom]
    exact of_decide_eq_true hpending
  have hlocked : s.drive.phantom.isLocked = true := by
    rw [Phantom.isLocked, hstate]
    rfl
  have hattempt := phantomdriveTryUnlock_due io (h.phantom ▸ hdue) h.idle
    (h.phantom ▸ hlen) h.lock hlocked
  simp only [mainStep, hpc]
  unfold pollUnlock
  rw [h.phantom, hpending, hdue.timeout]
  rw [h.phantom] at hattempt
  exact hattempt

/-- `main` at rest is in no write loop. -/
theorem AtRest.ne_writeRun {b : Bot} {pc : MainPc} (h : AtRest b pc) (stream : WriteStream) :
    pc ≠ .writeRun stream := by
  rintro rfl
  rcases h.pc with hsettled | ⟨-, hflags | hflags⟩
  · cases hsettled
  · cases hflags
  · cases hflags

/-- Everywhere else, `main` at rest goes on towards it, and leaves the transport layer idle. -/
theorem Armed.onward (hinit : dev.initTxCtrl = .nak) (h : Armed dev p s)
    (hpc : s.pc ≠ .pollUnlock) :
    Armed dev p (mainStep dev io s) ∧ (mainStep dev io s).pc.toUnlock + 1 = s.pc.toUnlock := by
  obtain ⟨rxCtrl, capacity, hbot, hrest⟩ := mainStep_atRest hinit io h.rest
  obtain ⟨bot, log, hdrive⟩ := mainStep_bot dev io h.rest.ne_writeRun fun heq => absurd heq hpc
  constructor
  · refine ⟨lockInv_step s (.main io) h.lock, ?_, hrest, ?_, ?_⟩
    · rw [hdrive]
      exact h.phantom
    · rw [hbot]
      exact h.flags
    · rw [hbot]
      exact h.txCtrl
  · rcases h.rest.pc with hsettled | ⟨-, hflags | hflags⟩
    · cases hat : s.pc with
      | poll =>
        simp only [mainStep, hat]
        rw [h.rest.readPending]
        rfl
      | pollWrite =>
        simp only [mainStep, hat]
        rw [h.rest.writePending]
        rfl
      | writeDone =>
        simp only [mainStep, hat]
        rfl
      | pollUnlock => exact absurd hat hpc
      | _ =>
        rw [hat] at hsettled
        cases hsettled
    · simp only [mainStep, hflags]
      rfl
    · simp only [mainStep, hflags]
      rfl

/-- **One step** opens the drive or comes closer to it. -/
theorem Armed.step (hinit : dev.initTxCtrl = .nak) (h : Armed dev p s)
    (hpending : p.unlockPending = true) (hlen : p.pendingPwLen ≠ 0) (hdue : io.Due p) :
    Opened dev (io.unlock.password p) (mainStep dev io s).drive
      ∨ Armed dev p (mainStep dev io s)
        ∧ (mainStep dev io s).pc.toUnlock + 1 = s.pc.toUnlock := by
  by_cases hpc : s.pc = .pollUnlock
  · exact Or.inl (h.attempt hpending hlen hdue hpc)
  · exact Or.inr (h.onward hinit hpc)

/-- What is open stays open, with the same keys. -/
theorem Opened.run {password : List UInt8} (h : Opened dev password s.drive) (events : List Event) :
    Opened dev password (Runs.run (PhantomDrive.step dev) s events).drive := by
  refine Runs.invariant_of_forall
    (P := fun s : Sys => Opened dev password s.drive) (fun s e h => ?_) h events
  have hstate : s.drive.phantom.state = .unlocked := by
    simpa [Phantom.isLocked] using h.isLocked
  rcases step_lock dev s e with hsame | hsnoop | hattempt
  · refine ⟨?_, hsame.derivations_eq.trans h.derived⟩
    rw [hsame.phantom]
    exact h.isLocked
  · exact absurd hstate hsnoop.not_unlocked.1
  · have hpending : s.drive.phantom.state = .unlockPending := of_decide_eq_true hattempt.pending
    exact LockState.noConfusion (hstate.symm.trans hpending)

/-- As many steps of `main` as it takes open the drive. -/
theorem Armed.opens (hinit : dev.initTxCtrl = .nak) (h : Armed dev p s)
    (hpending : p.unlockPending = true) (hlen : p.pendingPwLen ≠ 0) {ios : List MainIo}
    (hdue : ∀ io ∈ ios, io.Due p) (henough : s.pc.toUnlock ≤ ios.length) :
    ∃ io ∈ ios, Opened dev (io.unlock.password p)
      (Runs.run (PhantomDrive.step dev) s (ios.map .main)).drive := by
  induction ios generalizing s with
  | nil =>
    have hpos : 0 < s.pc.toUnlock := by
      unfold MainPc.toUnlock
      split <;> omega
    rw [List.length_nil] at henough
    omega
  | cons io rest ih =>
    rcases h.step hinit hpending hlen (hdue io List.mem_cons_self) with hopen | ⟨harmed, hcloser⟩
    · exact ⟨io, List.mem_cons_self, hopen.run (rest.map .main)⟩
    · rw [List.length_cons] at henough
      obtain ⟨io', hmem, hopen⟩ := ih harmed (fun io' hmem => hdue io' (List.mem_cons_of_mem io hmem))
        (by omega)
      exact ⟨io', List.mem_cons_of_mem io hmem, hopen⟩

end Way

/-- **An armed password opens the drive.**  In every orderly run, with a password armed and no
command in progress, four steps of `main` that find the time over and the bus quiet open the
drive, with keys from the password and the salt of the device, whatever the file system does. -/
theorem unlock_due (dev : Device) (hinit : dev.initTxCtrl = .nak) (card : Card)
    (events : List Event)
    (hrun : Runs.Along (Session.step dev) Orderly (.init dev card) events) :
    let t := Runs.run (Session.step dev) (.init dev card) events
    t.exchange.outstanding = false → t.sys.drive.phantom.unlockPending = true →
    t.sys.drive.phantom.pendingPwLen ≠ 0 →
    ∀ ios : List MainIo, 4 ≤ ios.length → (∀ io ∈ ios, io.Due t.sys.drive.phantom) →
      ∃ io ∈ ios, Opened dev (io.unlock.password t.sys.drive.phantom)
        (Runs.run (step dev) t.sys (ios.map .main)).drive := by
  intro t htaken hpending hlen ios hfour hdue
  have hlock : LockInv dev t.sys.drive :=
    Runs.invariant_of_forall (P := fun t : Session => LockInv dev t.sys.drive)
      (fun t e h => lockInv_step t.sys e h) (lockInv_init dev card) events
  have hidling := (inPhase_run hinit card hrun).idling_of htaken
  have harmed : Armed dev t.sys.drive.phantom t.sys :=
    ⟨hlock, rfl, hidling.toAtRest, hidling.transferFlags, hidling.txCtrl⟩
  have hfar : t.sys.pc.toUnlock ≤ 4 := by
    unfold MainPc.toUnlock
    split <;> omega
  exact harmed.opens hinit hpending hlen hdue (hfar.trans hfour)

/-- `password:a` is written, and 3 s are over. -/
theorem unlock_due_sample :
    let t := Runs.run (Session.step sampleDevice) (.init sampleDevice fun _ _ => 0) sampleArm
    let ios := List.replicate 4 sampleLateIo
    ∃ io ∈ ios, Opened sampleDevice (io.unlock.password t.sys.drive.phantom)
      (Runs.run (step sampleDevice) t.sys (ios.map .main)).drive := by
  intro t ios
  -- one evaluation of the run for all that is read off it
  have hrun : Runs.Along (Session.step sampleDevice) Orderly (.init sampleDevice fun _ _ => 0)
        sampleArm
      ∧ t.exchange.outstanding = false ∧ t.sys.drive.phantom.unlockPending = true
      ∧ t.sys.drive.phantom.pendingPwLen ≠ 0
      ∧ phantomdriveUnlockTimeoutReached 3000 t.sys.drive.phantom = true := by
    decide +kernel
  obtain ⟨hrun, htaken, hpending, hlen, htimeout⟩ := hrun
  refine unlock_due sampleDevice rfl (fun _ _ => 0) sampleArm hrun htaken hpending hlen ios
    (by decide) fun io hmem => ?_
  rw [List.eq_of_mem_replicate hmem]
  exact ⟨htimeout, htimeout, rfl, rfl⟩

end PhantomDrive
