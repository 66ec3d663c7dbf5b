/-
PhantomDrive/TryUnlock.lean

`phantomdrive_try_unlock`: the two idle checks, the search for the password file, its
deletion, and the switch to the hidden volume.

The function keeps the USB interrupt off from its first idle check on, and the bus is
down between `USB20_Device_Init(DISABLE)` and `USB20_Device_Init(ENABLE)`.  So no
interrupt handler runs in between and the whole function is one step.  What it meets
on the way (interrupt flags, the file system, the clock) is `UnlockIo`.
-/
import PhantomDrive.UnlockFile
import PhantomDrive.MscWrite

namespace PhantomDrive

/-! ### The idle check -/

/-- `bot_usb_is_idle`; `pending` says that an interrupt flag of the controller is set. -/
def botUsbIsIdle (pending : Bool) (b : Bot) : Bool :=
  if b.transferFlags ≠ .none || b.readPending || b.writePending then false
  else if b.txCtrl ≠ .nak then false
  else !pending

/-- What an idle check has seen. -/
structure Bot.Idle (b : Bot) : Prop where
  flags : b.transferFlags = .none
  readPending : b.readPending = false
  writePending : b.writePending = false
  txCtrl : b.txCtrl = .nak

theorem botUsbIsIdle_idle {pending : Bool} {b : Bot} (h : botUsbIsIdle pending b = true) :
    b.Idle := by
  unfold botUsbIsIdle at h
  split at h
  · cases h
  rename_i hbusy
  split at h
  · cases h
  rename_i htx
  simp only [Bool.or_eq_true, decide_eq_true_eq, not_or, not_not, Bool.not_eq_true] at hbusy
  exact ⟨hbusy.1.1, hbusy.1.2, hbusy.2, not_not.mp htx⟩

/-! ### The unlock -/

/-- What one call of `phantomdrive_try_unlock` meets. -/
structure UnlockIo where
  /-- An interrupt flag is set at the first idle check. -/
  pending : Bool
  /-- `unlock_file_mount` succeeds. -/
  mounts : Bool
  directory : Directory
  /-- The clock at the test of the timeout. -/
  now : UInt64
  /-- An interrupt flag is set at the second idle check. -/
  pendingAfterFind : Bool
  deletion : Deletion
  /-- What the file system leaves on the card. -/
  card : Card → Card

/-- `USB20_Device_Init(ENABLE)`, as far as endpoint 1 goes. -/
def usb20DeviceInit (dev : Device) (b : Bot) : Bot :=
  { b with txCtrl := dev.initTxCtrl, rxCtrl := dev.initRxCtrl }

/-- The search of `phantomdrive_try_unlock`: `path` and `password_len`. -/
def unlockSearch (io : UnlockIo) (p : Phantom) : Option (List UInt8) × ℕ :=
  if io.mounts then
    unlockFileFind io.directory p.pendingPwLba p.pendingPwOffset p.pendingPwLen
  else (none, p.pendingPwLen)

/-- The switch to the hidden volume: the keys, the capacity, the state, and the transport layer
as it starts. -/
def phantomdriveSwitch (dev : Device) (passwordLen : ℕ) (d : Drive) : Drive :=
  let passwordLen := if unlockPasswordMax < passwordLen then unlockPasswordMax else passwordLen
  let password := d.phantom.pendingPw.toList.take passwordLen
  let derived := phantomdriveCryptoUnlock dev.kdfRounds dev.aesMode d.keys password
    d.phantom.saltBytes
  { d with
    log := d.log ++ [.cryptoUnlock password d.phantom.saltBytes]
    keys := derived.1
    phantom := { clearPendingPassword { d.phantom with saltBytes := derived.2 } with
      state := .unlocked }
    bot := usb20DeviceInit dev { d.bot with
      capacity := dev.emmcSecNum - dev.lockedSectors
      transferFlags := .none
      readPending := false
      writePending := false } }

/-- `phantomdrive_try_unlock` behind its second idle check: the deletion, and the switch if it
succeeds or the time is over. -/
def deleteAndSwitch (dev : Device) (io : UnlockIo) (found : Bool) (passwordLen : ℕ)
    (timedOut : Bool) (d : Drive) : Drive :=
  let d := if found then { d with phantom := { d.phantom with pendingPwLen := passwordLen } } else d
  let deleted := found && unlockFileDelete io.deletion
  if !deleted && !timedOut then { d with bot := usb20DeviceInit dev d.bot }
  else phantomdriveSwitch dev passwordLen d

/-- `phantomdrive_try_unlock`.  The exits `resume_usb` and `unmount` put the RX response back, so
that they leave the drive as it was. -/
def phantomdriveTryUnlock (dev : Device) (io : UnlockIo) (d : Drive) : Drive :=
  if d.phantom.pendingPwLen = 0 then d
  else if !botUsbIsIdle io.pending d.bot then d
  else
    let found := unlockSearch io d.phantom
    let timedOut := phantomdriveUnlockTimeoutReached io.now d.phantom
    let d := { d with card := io.card d.card }
    if found.1.isNone && !timedOut then d
    else if !botUsbIsIdle io.pendingAfterFind d.bot then d
    else deleteAndSwitch dev io found.1.isSome found.2 timedOut d

/-! ### What an attempt can do -/

/-- An attempt gives up: only the card and, if the file could not be deleted, the length of the
password and endpoint 1 may have changed. -/
structure GivesUp (dev : Device) (d d' : Drive) : Prop where
  log : d'.log = d.log
  keys : d'.keys = d.keys
  phantom : d'.phantom = d.phantom
    ∨ ∃ len, 1 ≤ len ∧ len ≤ unlockPasswordMax
        ∧ d'.phantom = { d.phantom with pendingPwLen := len }
  bot : d'.bot = d.bot ∨ d.bot.Idle ∧ d'.bot = usb20DeviceInit dev d.bot

/-- An attempt succeeds: the drive was idle, and it switches with a password of 1 to 128 bytes. -/
structure Switches (dev : Device) (d d' : Drive) : Prop where
  idle : d.bot.Idle
  switched : ∃ (card : Card) (len passwordLen : ℕ), 1 ≤ passwordLen
    ∧ d' = phantomdriveSwitch dev passwordLen
        { d with card := card, phantom := { d.phantom with pendingPwLen := len } }

theorem unlockSearch_length (io : UnlockIo) {p : Phantom} (h : p.pendingPwLen ≠ 0) :
    1 ≤ (unlockSearch io p).2
      ∧ ((unlockSearch io p).1.isSome = true → (unlockSearch io p).2 ≤ unlockPasswordMax) := by
  unfold unlockSearch
  by_cases hmounts : io.mounts = true
  · rw [if_pos hmounts]
    rcases unlockFileFind_length io.directory p.pendingPwLba p.pendingPwOffset p.pendingPwLen with
      hnone | ⟨hpos, hmax⟩
    · rw [hnone]
      exact ⟨Nat.one_le_iff_ne_zero.mpr h, fun hsome => by cases hsome⟩
    · exact ⟨hpos, fun _ => hmax⟩
  · rw [if_neg hmounts]
    exact ⟨Nat.one_le_iff_ne_zero.mpr h, fun hsome => by cases hsome⟩

/-- **An attempt to unlock gives up or switches**, and it switches an idle drive only. -/
theorem phantomdriveTryUnlock_cases (dev : Device) (io : UnlockIo) (d : Drive) :
    GivesUp dev d (phantomdriveTryUnlock dev io d)
      ∨ Switches dev d (phantomdriveTryUnlock dev io d) := by
  unfold phantomdriveTryUnlock
  by_cases hlen : d.phantom.pendingPwLen = 0
  · rw [if_pos hlen]
    exact Or.inl ⟨rfl, rfl, Or.inl rfl, Or.inl rfl⟩
  rw [if_neg hlen]
  by_cases hidle : botUsbIsIdle io.pending d.bot = true
  case neg =>
    rw [if_pos (by simpa using hidle)]
    exact Or.inl ⟨rfl, rfl, Or.inl rfl, Or.inl rfl⟩
  rw [if_neg (by simpa using hidle)]
  have hsearch := unlockSearch_length io hlen
  generalize unlockSearch io d.phantom = found at hsearch
  generalize phantomdriveUnlockTimeoutReached io.now d.phantom = timedOut
  dsimp only
  by_cases hgive : (found.1.isNone && !timedOut) = true
  · rw [if_pos hgive]
    exact Or.inl ⟨rfl, rfl, Or.inl rfl, Or.inl rfl⟩
  rw [if_neg hgive]
  by_cases hidle' : botUsbIsIdle io.pendingAfterFind d.bot = true
  case neg =>
    rw [if_pos (by simpa using hidle')]
    exact Or.inl ⟨rfl, rfl, Or.inl rfl, Or.inl rfl⟩
  rw [if_neg (by simpa using hidle')]
  have hbot := botUsbIsIdle_idle hidle
  unfold deleteAndSwitch
  rcases hfound : found.1.isSome with - | -
  · -- no file: the time is over
    have hover : timedOut = true := by
      rw [Option.isSome_eq_false_iff] at hfound
      simpa [hfound] using hgive
    rw [hover]
    exact Or.inr ⟨hbot, io.card d.card, d.phantom.pendingPwLen, found.2, hsearch.1, rfl⟩
  · simp only [Bool.true_and, if_true]
    by_cases hkeep : (!unlockFileDelete io.deletion && !timedOut) = true
    · rw [if_pos hkeep]
      exact Or.inl ⟨rfl, rfl, Or.inr ⟨found.2, hsearch.1, hsearch.2 hfound, rfl⟩,
        Or.inr ⟨hbot, rfl⟩⟩
    · rw [if_neg hkeep]
      exact Or.inr ⟨hbot, io.card d.card, found.2, found.2, hsearch.1, rfl⟩

/-- A busy drive is left alone, its card included. -/
theorem phantomdriveTryUnlock_busy (dev : Device) (io : UnlockIo) {d : Drive}
    (h : ¬ d.bot.Idle) : phantomdriveTryUnlock dev io d = d := by
  unfold phantomdriveTryUnlock
  split
  · rfl
  · have hbusy : botUsbIsIdle io.pending d.bot = false := by
      rcases hidle : botUsbIsIdle io.pending d.bot with - | -
      · rfl
      · exact absurd (botUsbIsIdle_idle hidle) h
    rw [hbusy]
    rfl

end PhantomDrive
