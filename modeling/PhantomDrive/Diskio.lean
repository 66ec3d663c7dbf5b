/-
PhantomDrive/Diskio.lean

`unlock_file_diskio.c`: the disk that FatFs sees.  It is the decoy, sector by sector,
and only while the drive is locked.

A transfer waits four times for the controller; every wait polls until what it waits
for happens, an error is reported or a time is over.  What the polls read is the
environment.  `log` is a record kept for the proofs: the commands sent to the card,
the failures and the calls that initialize the disk.

Main result: `diskCalls_contained`, over every sequence of calls.
-/
import PhantomDrive.Lib.Runs
import PhantomDrive.Bot

namespace PhantomDrive

/-! ### The disk -/

inductive DiskAction
  /-- `disk_initialize` has set `initialized`. -/
  | diskInitialize
  /-- `EMMC_CMD24` or `EMMC_CMD17`, and what held when it was sent: `phantomdrive_is_locked()`
  and `initialized`. -/
  | command (write : Bool) (sector : UInt32) (locked initialized : Bool)
  /-- `finish_io(false)`. -/
  | failure
deriving DecidableEq, Repr

structure Disk where
  initialized : Bool
  formatting : Bool
  ioStartedTicks : UInt64
  transferStartedTicks : UInt64
  sectorBuffer : Sector
  /-- `EMMC_IRQn` is enabled. -/
  emmcIrq : Bool
  card : Card
  log : List DiskAction

/-- The statics of the file, with a card and the interrupt enabled. -/
def Disk.init (card : Card) : Disk where
  initialized := false
  formatting := false
  ioStartedTicks := 0
  transferStartedTicks := 0
  sectorBuffer := fun _ => 0
  emmcIrq := true
  card := card
  log := []

/-! ### Waiting for the controller -/

/-- What one pass of a polling loop reads: `R16_EMMC_INT_FG & EMMC_ERROR_FLAGS`, `EMMCOpErr`, the
clock, and whether there is what the loop waits for. -/
structure Poll where
  errorFlags : Bool
  opErr : Bool
  now : UInt64
  ticksPerMs : UInt64
  there : Bool

/-- `FILE_IO_TIMEOUT_MS`. -/
def fileIoTimeoutMs : UInt64 := 1000

/-- `FORMAT_TIMEOUT_MS`. -/
def formatTimeoutMs : UInt64 := 120000

/-- `io_failed`. -/
def Disk.ioFailed (d : Disk) (p : Poll) : Bool :=
  let operationTimeoutMs := if d.formatting then formatTimeoutMs else fileIoTimeoutMs
  p.errorFlags || p.opErr
    || fileIoTimeoutMs * p.ticksPerMs ≤ p.now - d.transferStartedTicks
    || operationTimeoutMs * p.ticksPerMs ≤ p.now - d.ioStartedTicks

/-- `wait_for_flags` and `wait_for_ready`, pass by pass.  The passes end where the time is over. -/
def Disk.waitFor (d : Disk) : List Poll → Bool
  | [] => false
  | p :: rest => if d.ioFailed p then false else if p.there then true else d.waitFor rest

/-- `finish_io`. -/
def finishIo (success : Bool) (d : Disk) : Disk :=
  if success then { d with emmcIrq := true }
  else { d with initialized := false, emmcIrq := true, log := d.log ++ [.failure] }

/-! ### One transfer -/

/-- What a transfer meets: the clock when it starts, its four waits, and what it leaves if it fails
behind its command, in the sector to be written or in the buffer to be filled. -/
structure TransferIo where
  started : UInt64
  ready : List Poll
  cmdDone : List Poll
  tranDone : List Poll
  readyAfter : List Poll
  left : Option Sector

/-- The data of a transfer has moved: `sector_buffer` to the card or the other way. -/
def Disk.move (sector : UInt32) (write : Bool) (d : Disk) : Disk :=
  if write then { d with card := Function.update d.card sector.toNat d.sectorBuffer }
  else { d with sectorBuffer := d.card sector.toNat }

/-- A transfer that fails behind its command leaves its target as it was or not. -/
def Disk.spoil (left : Option Sector) (sector : UInt32) (write : Bool) (d : Disk) : Disk :=
  if write then
    { d with card := Function.update d.card sector.toNat (left.getD (d.card sector.toNat)) }
  else { d with sectorBuffer := left.getD d.sectorBuffer }

/-- `transfer_sector`; `locked` is `phantomdrive_is_locked()`. -/
def transferSector (locked : Bool) (io : TransferIo) (sector : UInt32) (write : Bool) (d : Disk) :
    Bool × Disk :=
  let d := { d with transferStartedTicks := io.started, emmcIrq := false }
  if !d.waitFor io.ready then (false, finishIo false d)
  else
    let d := { d with log := d.log ++ [DiskAction.command write sector locked d.initialized] }
    if !d.waitFor io.cmdDone then (false, finishIo false (d.spoil io.left sector write))
    else if !d.waitFor io.tranDone || !d.waitFor io.readyAfter then
      (false, finishIo false (d.spoil io.left sector write))
    else (true, finishIo true (d.move sector write))

/-! ### The calls of FatFs -/

/-- `DRESULT`. -/
inductive DResult
  | ok
  | error
  | notRdy
  | parErr
deriving DecidableEq, Repr

/-- `disk_status`: whether the result is `STA_NOINIT`. -/
def diskStatus (dev : Device) (locked : Bool) (pdrv : UInt8) (d : Disk) : Bool :=
  pdrv ≠ 0 || !d.initialized || !locked || dev.emmcSecNum < dev.lockedSectors

/-- `disk_initialize` at a time. -/
def diskInitialize (dev : Device) (locked : Bool) (pdrv : UInt8) (now : UInt64) (d : Disk) :
    Bool × Disk :=
  if pdrv ≠ 0 then (true, d)
  else
    let d := { d with ioStartedTicks := now, initialized := true, log := d.log ++ [.diskInitialize] }
    (diskStatus dev locked pdrv d, d)

/-- The loop of `disk_read` from sector `i` of the request on: whether it succeeds, and what it
copies to `buff`. -/
def readLoop (locked : Bool) (io : ℕ → TransferIo) (sector : UInt32) (i : ℕ) :
    ℕ → Disk → Bool × List Sector × Disk
  | 0, d => (true, [], d)
  | left + 1, d =>
      let r := transferSector locked (io i) (sector + UInt32.ofNat i) false d
      if r.1 then
        let rest := readLoop locked io sector (i + 1) left r.2
        (rest.1, r.2.sectorBuffer :: rest.2.1, rest.2.2)
      else (false, [], r.2)

/-- The loop of `disk_write` from sector `i` of the request on. -/
def writeLoop (locked : Bool) (io : ℕ → TransferIo) (buff : ℕ → Sector) (sector : UInt32) (i : ℕ) :
    ℕ → Disk → Bool × Disk
  | 0, d => (true, d)
  | left + 1, d =>
      let r := transferSector locked (io i) (sector + UInt32.ofNat i) true
        { d with sectorBuffer := buff i }
      if r.1 then writeLoop locked io buff sector (i + 1) left r.2 else r

/-- The test of the arguments that `disk_read` and `disk_write` share. -/
def badRequest (dev : Device) (pdrv : UInt8) (null : Bool) (sector count : UInt32) : Bool :=
  pdrv ≠ 0 || null || count = 0 || dev.lockedSectors ≤ sector
    || dev.lockedSectors - sector < count

/-- `disk_read`: its result, what it has copied to `buff`, and the disk.  `null` is
`buff == NULL`. -/
def diskRead (dev : Device) (locked : Bool) (io : ℕ → TransferIo) (pdrv : UInt8) (null : Bool)
    (sector count : UInt32) (d : Disk) : DResult × List Sector × Disk :=
  if badRequest dev pdrv null sector count then (.parErr, [], d)
  else if diskStatus dev locked pdrv d then (.notRdy, [], d)
  else
    let r := readLoop locked io sector 0 count.toNat d
    (if r.1 then .ok else .error, r.2.1, r.2.2)

/-- `disk_write` of the sectors of `buff`. -/
def diskWrite (dev : Device) (locked : Bool) (io : ℕ → TransferIo) (pdrv : UInt8)
    (buff : Option (ℕ → Sector)) (sector count : UInt32) (d : Disk) : DResult × Disk :=
  if badRequest dev pdrv buff.isNone sector count then (.parErr, d)
  else if diskStatus dev locked pdrv d then (.notRdy, d)
  else
    let r := writeLoop locked io (buff.getD fun _ _ => 0) sector 0 count.toNat d
    (if r.1 then .ok else .error, r.2)

/-- The commands of `disk_ioctl`. -/
inductive IoctlCmd
  | ctrlSync
  | getSectorCount
  | getSectorSize
  | getBlockSize
  | other
deriving DecidableEq, Repr

/-- `disk_ioctl`: its result, the number it stores to `buff`, and the disk. -/
def diskIoctl (dev : Device) (locked : Bool) (started : UInt64) (ready : List Poll) (pdrv : UInt8)
    (cmd : IoctlCmd) (null : Bool) (d : Disk) : DResult × Option ℕ × Disk :=
  if pdrv ≠ 0 then (.parErr, none, d)
  else if diskStatus dev locked pdrv d then (.notRdy, none, d)
  else if cmd = .ctrlSync then
    let d := { d with transferStartedTicks := started, emmcIrq := false }
    let success := d.waitFor ready
    (if success then .ok else .error, none, finishIo success d)
  else if null then (.parErr, none, d)
  else
    match cmd with
    | .getSectorCount => (.ok, some dev.lockedSectors.toNat, d)
    | .getSectorSize => (.ok, some 512, d)
    | .getBlockSize => (.ok, some 1, d)
    | _ => (.parErr, none, d)

/-- A call into the file; `locked` is `phantomdrive_is_locked()` while it runs. -/
inductive DiskCall
  | diskInitialize (locked : Bool) (pdrv : UInt8) (now : UInt64)
  | status (locked : Bool) (pdrv : UInt8)
  | read (locked : Bool) (io : ℕ → TransferIo) (pdrv : UInt8) (null : Bool)
      (sector count : UInt32)
  | write (locked : Bool) (io : ℕ → TransferIo) (pdrv : UInt8) (buff : Option (ℕ → Sector))
      (sector count : UInt32)
  | ioctl (locked : Bool) (started : UInt64) (ready : List Poll) (pdrv : UInt8) (cmd : IoctlCmd)
      (null : Bool)
  /-- `unlock_file_diskio_set_formatting`. -/
  | setFormatting (enabled : Bool)
  /-- `unlock_file_diskio_reset_timeout`. -/
  | resetTimeout (now : UInt64)

/-- The disk after a call. -/
def diskStep (dev : Device) (d : Disk) : DiskCall → Disk
  | .diskInitialize locked pdrv now => (diskInitialize dev locked pdrv now d).2
  | .status _ _ => d
  | .read locked io pdrv null sector count =>
      (diskRead dev locked io pdrv null sector count d).2.2
  | .write locked io pdrv buff sector count =>
      (diskWrite dev locked io pdrv buff sector count d).2
  | .ioctl locked started ready pdrv cmd null =>
      (diskIoctl dev locked started ready pdrv cmd null d).2.2
  | .setFormatting enabled => { d with formatting := enabled }
  | .resetTimeout now => { d with ioStartedTicks := now }

/-! ### One transfer, by cases -/

/-- A transfer that succeeds: its command was sent, and its data has moved. -/
structure TransferDone (locked : Bool) (sector : UInt32) (write : Bool) (d d' : Disk) : Prop where
  initialized : d'.initialized = d.initialized
  log : d'.log = d.log ++ [.command write sector locked d.initialized]
  card : d'.card = if write then Function.update d.card sector.toNat d.sectorBuffer else d.card
  buffer : write = false → d'.sectorBuffer = d.card sector.toNat

/-- A transfer that fails: the disk has to be initialized again. -/
structure TransferFailed (locked : Bool) (sector : UInt32) (write : Bool) (d d' : Disk) : Prop where
  initialized : d'.initialized = false
  log : d'.log = d.log ++ [.failure]
    ∨ d'.log = d.log ++ [.command write sector locked d.initialized] ++ [.failure]
  card : ∀ s, write = false ∨ s ≠ sector.toNat → d'.card s = d.card s

section Transfer

variable {locked : Bool} {io : TransferIo} {sector : UInt32} {write : Bool} {d : Disk}

theorem Disk.spoil_card (left : Option Sector) (d : Disk) (s : ℕ)
    (h : write = false ∨ s ≠ sector.toNat) : (d.spoil left sector write).card s = d.card s := by
  unfold Disk.spoil
  split
  · rename_i hwrite
    rcases h with hread | hne
    · rw [hwrite] at hread
      cases hread
    · exact Function.update_of_ne hne ..
  · rfl

theorem Disk.spoil_log (left : Option Sector) (d : Disk) :
    (d.spoil left sector write).log = d.log := by
  unfold Disk.spoil
  split <;> rfl

theorem Disk.move_log (d : Disk) : (d.move sector write).log = d.log := by
  unfold Disk.move
  split <;> rfl

theorem Disk.move_initialized (d : Disk) :
    (d.move sector write).initialized = d.initialized := by
  unfold Disk.move
  split <;> rfl

/-- **A transfer** succeeds or fails, and enables the interrupt again. -/
theorem transferSector_cases (locked : Bool) (io : TransferIo) (sector : UInt32) (write : Bool)
    (d : Disk) :
    let r := transferSector locked io sector write d
    r.2.emmcIrq = true
      ∧ (r.1 = true ∧ TransferDone locked sector write d r.2
        ∨ r.1 = false ∧ TransferFailed locked sector write d r.2) := by
  unfold transferSector
  dsimp only
  split
  · exact ⟨rfl, Or.inr ⟨rfl, rfl, Or.inl rfl, fun _ _ => rfl⟩⟩
  split
  · refine ⟨rfl, Or.inr ⟨rfl, rfl, Or.inr ?_, fun s hs => Disk.spoil_card _ _ s hs⟩⟩
    exact congrArg (· ++ [DiskAction.failure]) (Disk.spoil_log _ _)
  split
  · refine ⟨rfl, Or.inr ⟨rfl, rfl, Or.inr ?_, fun s hs => Disk.spoil_card _ _ s hs⟩⟩
    exact congrArg (· ++ [DiskAction.failure]) (Disk.spoil_log _ _)
  · refine ⟨rfl, Or.inl ⟨rfl, Disk.move_initialized _, Disk.move_log _, ?_, ?_⟩⟩
    · unfold finishIo Disk.move
      cases write <;> rfl
    · rintro rfl
      rfl

end Transfer

/-! ### The order of the commands -/

/-- Since the last failure the disk was initialized. -/
def NoFailureSince (log : List DiskAction) : Prop :=
  ∀ before after, log = before ++ .failure :: after → DiskAction.diskInitialize ∈ after

/-- A command that may be sent to the card. -/
def Device.MaySend (dev : Device) (sector : UInt32) (locked initialized : Bool) : Prop :=
  sector.toNat < dev.lockedSectors.toNat ∧ locked = true ∧ initialized = true
    ∧ dev.lockedSectors.toNat ≤ dev.emmcSecNum.toNat

/-- What the disk has done so far: every command was one that may be sent, and none was sent
between a failure and the next call of `disk_initialize`. -/
structure Contained (dev : Device) (log : List DiskAction) : Prop where
  sent : ∀ write sector locked initialized,
    .command write sector locked initialized ∈ log → dev.MaySend sector locked initialized
  order : ∀ before write sector locked initialized after,
    log = before ++ .command write sector locked initialized :: after → NoFailureSince before

/-- The invariant of the disk. -/
structure DiskInv (dev : Device) (d : Disk) : Prop where
  emmcIrq : d.emmcIrq = true
  ready : d.initialized = true → NoFailureSince d.log
  contained : Contained dev d.log

section Order

variable {dev : Device} {log : List DiskAction}

/-- What ends a log, or stands before its last entry. -/
theorem append_singleton_eq {α : Type*} {log before after : List α} {a b : α}
    (h : log ++ [a] = before ++ b :: after) :
    after = [] ∧ a = b ∧ log = before ∨ ∃ rest, after = rest ++ [a] ∧ log = before ++ b :: rest := by
  rcases List.eq_nil_or_concat' after with rfl | ⟨rest, x, rfl⟩
  · obtain ⟨rfl, hab⟩ := List.append_inj' h rfl
    exact Or.inl ⟨rfl, (List.cons.inj hab).1, rfl⟩
  · rw [← List.cons_append, ← List.append_assoc] at h
    obtain ⟨rfl, hab⟩ := List.append_inj' h rfl
    obtain rfl := (List.cons.inj hab).1
    exact Or.inr ⟨rest, rfl, rfl⟩

theorem NoFailureSince.append (h : NoFailureSince log) {a : DiskAction} (ha : a ≠ .failure) :
    NoFailureSince (log ++ [a]) := by
  intro before after heq
  rcases append_singleton_eq heq with ⟨-, rfl, -⟩ | ⟨rest, rfl, hlog⟩
  · exact absurd rfl ha
  · exact List.mem_append_left _ (h before rest hlog)

theorem noFailureSince_diskInit (log : List DiskAction) :
    NoFailureSince (log ++ [.diskInitialize]) := by
  intro before after heq
  rcases append_singleton_eq heq with ⟨-, hne, -⟩ | ⟨rest, rfl, -⟩
  · cases hne
  · exact List.mem_append_right _ (List.mem_singleton_self _)

/-- An entry that is no command. -/
theorem Contained.append (h : Contained dev log) {a : DiskAction}
    (ha : ∀ write sector locked initialized, a ≠ .command write sector locked initialized) :
    Contained dev (log ++ [a]) := by
  refine ⟨fun write sector locked initialized hmem => ?_,
    fun before write sector locked initialized after heq => ?_⟩
  · rcases List.mem_append.mp hmem with hold | hnew
    · exact h.sent _ _ _ _ hold
    · exact absurd (List.mem_singleton.mp hnew).symm (ha _ _ _ _)
  · rcases append_singleton_eq heq with ⟨-, hcommand, -⟩ | ⟨rest, -, hlog⟩
    · exact absurd hcommand (ha _ _ _ _)
    · exact h.order _ _ _ _ _ rest hlog

/-- A command that may be sent, to a disk without a failure. -/
theorem Contained.append_command (h : Contained dev log) (hready : NoFailureSince log)
    {write : Bool} {sector : UInt32} {locked initialized : Bool}
    (hsend : dev.MaySend sector locked initialized) :
    Contained dev (log ++ [.command write sector locked initialized]) := by
  refine ⟨fun write' sector' locked' initialized' hmem => ?_,
    fun before write' sector' locked' initialized' after heq => ?_⟩
  · rcases List.mem_append.mp hmem with hold | hnew
    · exact h.sent _ _ _ _ hold
    · obtain ⟨rfl, rfl, rfl, rfl⟩ := DiskAction.command.inj (List.mem_singleton.mp hnew)
      exact hsend
  · rcases append_singleton_eq heq with ⟨-, -, rfl⟩ | ⟨rest, -, hlog⟩
    · exact hready
    · exact h.order _ _ _ _ _ rest hlog

end Order

/-! ### The calls -/

section Calls

variable {dev : Device} {locked : Bool} {d d' : Disk}

/-- A transfer that may be sent keeps the invariant. -/
theorem DiskInv.transfer (h : DiskInv dev d) (io : TransferIo) {sector : UInt32} (write : Bool)
    (hinit : d.initialized = true) (hsend : dev.MaySend sector locked d.initialized) :
    DiskInv dev (transferSector locked io sector write d).2 := by
  have hready := h.ready hinit
  have hcommand : Contained dev (d.log ++ [.command write sector locked d.initialized]) :=
    h.contained.append_command hready hsend
  obtain ⟨hirq, ⟨-, hdone⟩ | ⟨-, hfailed⟩⟩ := transferSector_cases locked io sector write d
  · refine ⟨hirq, fun _ => ?_, ?_⟩
    · rw [hdone.log]
      exact hready.append DiskAction.noConfusion
    · rw [hdone.log]
      exact hcommand
  · refine ⟨hirq, fun hnot => ?_, ?_⟩
    · rw [hfailed.initialized] at hnot
      cases hnot
    · rcases hfailed.log with hlog | hlog
      · rw [hlog]
        exact h.contained.append fun _ _ _ _ => DiskAction.noConfusion
      · rw [hlog]
        exact hcommand.append fun _ _ _ _ => DiskAction.noConfusion

/-- The sectors of a request may be sent one by one. -/
structure MaySendAll (dev : Device) (locked : Bool) (sector : UInt32) (n : ℕ) : Prop where
  locked_eq : locked = true
  card : dev.lockedSectors.toNat ≤ dev.emmcSecNum.toNat
  range : sector.toNat + n ≤ dev.lockedSectors.toNat

theorem MaySendAll.toNat_add {sector : UInt32} {n i : ℕ}
    (h : MaySendAll dev locked sector n) (hi : i ≤ n) :
    (sector + UInt32.ofNat i).toNat = sector.toNat + i := by
  have hlt := dev.lockedSectors.toNat_lt
  have hrange := h.range
  exact toNat_add_ofNat (by omega)

theorem MaySendAll.maySend {sector : UInt32} {n i : ℕ} (h : MaySendAll dev locked sector n)
    (hi : i < n) : dev.MaySend (sector + UInt32.ofNat i) locked true := by
  refine ⟨?_, h.locked_eq, rfl, h.card⟩
  rw [h.toNat_add hi.le]
  have hrange := h.range
  omega

/-- A request that passes the tests of `disk_read` and `disk_write`. -/
theorem maySendAll_of_tests {pdrv : UInt8} {null : Bool} {sector count : UInt32}
    (hrequest : badRequest dev pdrv null sector count = false)
    (hstatus : diskStatus dev locked pdrv d = false) :
    MaySendAll dev locked sector count.toNat ∧ d.initialized = true ∧ null = false
      ∧ 0 < count.toNat := by
  simp only [badRequest, Bool.or_eq_false_iff, decide_eq_false_iff_not] at hrequest
  simp only [diskStatus, Bool.or_eq_false_iff, decide_eq_false_iff_not, Bool.not_eq_false'] at hstatus
  obtain ⟨⟨⟨⟨-, hnull⟩, hcount⟩, hsector⟩, hfits⟩ := hrequest
  obtain ⟨⟨⟨-, hinit⟩, hlocked⟩, hcard⟩ := hstatus
  rw [UInt32.not_le, UInt32.lt_iff_toNat_lt] at hsector
  rw [UInt32.not_lt, UInt32.le_iff_toNat_le,
    UInt32.toNat_sub_of_le _ _ (UInt32.le_iff_toNat_le.mpr hsector.le)] at hfits
  rw [UInt32.not_lt, UInt32.le_iff_toNat_le] at hcard
  refine ⟨⟨hlocked, hcard, by omega⟩, hinit, hnull, Nat.pos_of_ne_zero fun hzero => hcount ?_⟩
  exact UInt32.toNat_inj.mp hzero

/-- **The loop of `disk_read`** keeps the invariant and the card, and copies the sectors in
order. -/
theorem readLoop_spec (io : ℕ → TransferIo) {sector : UInt32} {n : ℕ}
    (hsend : MaySendAll dev locked sector n) {i left : ℕ} (hleft : i + left = n)
    (h : DiskInv dev d) (hinit : d.initialized = true) :
    let r := readLoop locked io sector i left d
    DiskInv dev r.2.2 ∧ r.2.2.card = d.card
      ∧ (r.1 = true → r.2.1 = (List.range' i left).map fun j => d.card (sector.toNat + j)) := by
  induction left generalizing i d with
  | zero => exact ⟨h, rfl, fun _ => rfl⟩
  | succ left ih =>
    have hmay : dev.MaySend (sector + UInt32.ofNat i) locked d.initialized := by
      rw [hinit]
      exact hsend.maySend (by omega)
    have hinv := h.transfer (io i) false hinit hmay
    obtain ⟨-, hcases⟩ := transferSector_cases locked (io i) (sector + UInt32.ofNat i) false d
    simp only [readLoop]
    generalize transferSector locked (io i) (sector + UInt32.ofNat i) false d = r at hinv hcases
    rcases hcases with ⟨hok, hdone⟩ | ⟨hfail, hfailed⟩
    · rw [if_pos hok]
      obtain ⟨hinv', hcard, hdata⟩ := ih (i := i + 1) (by omega) hinv (hdone.initialized.trans hinit)
      have hsame : r.2.card = d.card := hdone.card
      refine ⟨hinv', hcard.trans hsame, fun hall => ?_⟩
      rw [List.range'_succ, List.map_cons, hdata hall, hdone.buffer rfl, hsame,
        hsend.toNat_add (by omega)]
    · rw [if_neg (by rw [hfail]; exact Bool.false_ne_true)]
      exact ⟨hinv, funext fun s => hfailed.card s (Or.inl rfl), fun hall => by cases hall⟩

/-- The first `k` sectors of a request were written, and no sector outside of them but the one
behind them was changed. -/
structure WrittenPrefix (sector k : ℕ) (buff : ℕ → Sector) (card card' : Card) : Prop where
  written : ∀ j < k, card' (sector + j) = buff j
  kept : ∀ s, s < sector ∨ sector + k < s → card' s = card s

/-- **The loop of `disk_write`** keeps the invariant, and writes a prefix if it fails. -/
theorem writeLoop_spec (io : ℕ → TransferIo) (buff : ℕ → Sector) {sector : UInt32} {n : ℕ}
    (hsend : MaySendAll dev locked sector n) {card : Card} {i left : ℕ} (hleft : i + left = n)
    (h : DiskInv dev d) (hinit : d.initialized = true)
    (hcard : (∀ j < i, d.card (sector.toNat + j) = buff j)
      ∧ ∀ s, s < sector.toNat ∨ sector.toNat + i ≤ s → d.card s = card s) :
    let r := writeLoop locked io buff sector i left d
    DiskInv dev r.2
      ∧ (r.1 = true → (∀ j < n, r.2.card (sector.toNat + j) = buff j)
        ∧ ∀ s, s < sector.toNat ∨ sector.toNat + n ≤ s → r.2.card s = card s)
      ∧ (r.1 = false → ∃ k < n, WrittenPrefix sector.toNat k buff card r.2.card) := by
  induction left generalizing i d with
  | zero =>
    obtain rfl : i = n := by omega
    exact ⟨h, fun _ => hcard, fun hall => by cases hall⟩
  | succ left ih =>
    have hmay : dev.MaySend (sector + UInt32.ofNat i) locked d.initialized := by
      rw [hinit]
      exact hsend.maySend (by omega)
    have hbuffered : DiskInv dev { d with sectorBuffer := buff i } :=
      ⟨h.emmcIrq, h.ready, h.contained⟩
    have hinv := hbuffered.transfer (io i) true hinit hmay
    obtain ⟨-, hcases⟩ := transferSector_cases locked (io i) (sector + UInt32.ofNat i) true
      { d with sectorBuffer := buff i }
    have hat : (sector + UInt32.ofNat i).toNat = sector.toNat + i := hsend.toNat_add (by omega)
    simp only [writeLoop]
    generalize transferSector locked (io i) (sector + UInt32.ofNat i) true
      { d with sectorBuffer := buff i } = r at hinv hcases
    rcases hcases with ⟨hok, hdone⟩ | ⟨hfail, hfailed⟩
    · rw [if_pos hok]
      have hnew : r.2.card = Function.update d.card (sector.toNat + i) (buff i) := by
        rw [hdone.card, if_pos rfl, hat]
      refine ih (by omega) hinv (hdone.initialized.trans hinit) ⟨fun j hj => ?_, fun s hs => ?_⟩
      · rw [hnew]
        rcases Nat.lt_succ_iff_lt_or_eq.mp hj with hlt | rfl
        · rw [Function.update_of_ne (by omega)]
          exact hcard.1 j hlt
        · exact Function.update_self ..
      · rw [hnew, Function.update_of_ne (by omega)]
        exact hcard.2 s (by omega)
    · have hnot : r.1 ≠ true := by
        rw [hfail]
        exact Bool.false_ne_true
      rw [if_neg hnot]
      refine ⟨hinv, fun hall => absurd hall hnot, fun _ => ⟨i, by omega, ?_⟩⟩
      have hkept : ∀ s, s ≠ sector.toNat + i → r.2.card s = d.card s := fun s hs =>
        hfailed.card s (Or.inr (by rw [hat]; exact hs))
      refine ⟨fun j hj => ?_, fun s hs => ?_⟩
      · rw [hkept _ (by omega)]
        exact hcard.1 j hj
      · rw [hkept _ (by omega)]
        exact hcard.2 s (by omega)

end Calls

/-! ### Sequences of calls -/

section Runs

variable {dev : Device} {d : Disk}

/-- The interrupt is enabled again behind `finish_io`, and a failure is recorded. -/
theorem DiskInv.finishIo (h : DiskInv dev d) (success : Bool) :
    DiskInv dev (finishIo success { d with emmcIrq := false }) := by
  cases success with
  | true => exact ⟨rfl, h.ready, h.contained⟩
  | false =>
    refine ⟨rfl, fun hinit => ?_, h.contained.append fun _ _ _ _ => DiskAction.noConfusion⟩
    cases hinit

theorem DiskInv.diskInit (h : DiskInv dev d) (locked : Bool) (pdrv : UInt8) (now : UInt64) :
    DiskInv dev (diskInitialize dev locked pdrv now d).2 := by
  unfold diskInitialize
  split
  · exact h
  · exact ⟨h.emmcIrq, fun _ => noFailureSince_diskInit _,
      h.contained.append fun _ _ _ _ => DiskAction.noConfusion⟩

/-- **A call of `disk_read`**: the invariant, and the sectors in order if the result is
`RES_OK`. -/
theorem diskRead_spec (h : DiskInv dev d) (locked : Bool) (io : ℕ → TransferIo) (pdrv : UInt8)
    (null : Bool) (sector count : UInt32) :
    let r := diskRead dev locked io pdrv null sector count d
    DiskInv dev r.2.2
      ∧ (r.1 = .ok → r.2.1 = (List.range count.toNat).map fun j => d.card (sector.toNat + j)) := by
  unfold diskRead
  split
  · exact ⟨h, fun hok => by cases hok⟩
  rename_i hrequest
  split
  · exact ⟨h, fun hok => by cases hok⟩
  rename_i hstatus
  rw [Bool.not_eq_true] at hrequest hstatus
  obtain ⟨hsend, hinit, -, -⟩ := maySendAll_of_tests hrequest hstatus
  obtain ⟨hinv, -, hdata⟩ := readLoop_spec io hsend (Nat.zero_add _) h hinit
  refine ⟨hinv, fun hok => ?_⟩
  rw [List.range_eq_range']
  refine hdata ?_
  by_contra hfail
  rw [Bool.not_eq_true] at hfail
  simp only [hfail, Bool.false_eq_true, if_false, reduceCtorEq] at hok

/-- **A call of `disk_write`**: the invariant, and what is on the card. -/
theorem diskWrite_spec (h : DiskInv dev d) (locked : Bool) (io : ℕ → TransferIo) (pdrv : UInt8)
    (buff : Option (ℕ → Sector)) (sector count : UInt32) :
    let r := diskWrite dev locked io pdrv buff sector count d
    DiskInv dev r.2
      ∧ (r.1 = .parErr ∨ r.1 = .notRdy → r.2.card = d.card)
      ∧ (r.1 = .error → ∃ data, buff = some data
          ∧ ∃ k < count.toNat, WrittenPrefix sector.toNat k data d.card r.2.card) := by
  unfold diskWrite
  split
  · exact ⟨h, fun _ => rfl, fun herr => by cases herr⟩
  rename_i hrequest
  split
  · exact ⟨h, fun _ => rfl, fun herr => by cases herr⟩
  rename_i hstatus
  rw [Bool.not_eq_true] at hrequest hstatus
  obtain ⟨hsend, hinit, hnull, -⟩ := maySendAll_of_tests hrequest hstatus
  cases buff with
  | none => cases hnull
  | some data =>
    have hstart : (∀ j < 0, d.card (sector.toNat + j) = data j)
        ∧ ∀ s, s < sector.toNat ∨ sector.toNat + 0 ≤ s → d.card s = d.card s :=
      ⟨fun j hj => absurd hj (Nat.not_lt_zero j), fun _ _ => rfl⟩
    obtain ⟨hinv, -, hprefix⟩ := writeLoop_spec io data hsend (Nat.zero_add _) h hinit hstart
    dsimp only [Option.getD_some]
    rcases hok : (writeLoop locked io data sector 0 count.toNat d).1 with - | -
    · refine ⟨hinv, fun hres => ?_, fun _ => ⟨data, rfl, hprefix hok⟩⟩
      rcases hres with hres | hres <;> cases hres
    · refine ⟨hinv, fun hres => ?_, fun hres => by cases hres⟩
      rcases hres with hres | hres <;> cases hres

theorem DiskInv.ioctl (h : DiskInv dev d) (locked : Bool) (started : UInt64) (ready : List Poll)
    (pdrv : UInt8) (cmd : IoctlCmd) (null : Bool) :
    DiskInv dev (diskIoctl dev locked started ready pdrv cmd null d).2.2 := by
  unfold diskIoctl
  split
  · exact h
  split
  · exact h
  split
  · exact DiskInv.finishIo (d := { d with transferStartedTicks := started })
      ⟨h.emmcIrq, h.ready, h.contained⟩ _
  split
  · exact h
  · cases cmd <;> exact h

/-- **One call** keeps the invariant. -/
theorem DiskInv.step (d : Disk) (call : DiskCall) (h : DiskInv dev d) :
    DiskInv dev (diskStep dev d call) := by
  cases call with
  | diskInitialize locked pdrv now => exact h.diskInit locked pdrv now
  | status locked pdrv => exact h
  | read locked io pdrv null sector count =>
    exact (diskRead_spec h locked io pdrv null sector count).1
  | write locked io pdrv buff sector count =>
    exact (diskWrite_spec h locked io pdrv buff sector count).1
  | ioctl locked started ready pdrv cmd null => exact h.ioctl locked started ready pdrv cmd null
  | setFormatting enabled => exact ⟨h.emmcIrq, h.ready, h.contained⟩
  | resetTimeout now => exact ⟨h.emmcIrq, h.ready, h.contained⟩

theorem diskInv_init (dev : Device) (card : Card) : DiskInv dev (Disk.init card) where
  emmcIrq := rfl
  ready := fun hinit => (Bool.false_ne_true hinit).elim
  contained := by
    refine ⟨fun _ _ _ _ hmem => (List.not_mem_nil hmem).elim,
      fun before _ _ _ _ after heq => ?_⟩
    have hlen := congrArg List.length heq
    rw [List.length_append] at hlen
    cases hlen

theorem diskInv_run (dev : Device) (card : Card) (calls : List DiskCall) :
    DiskInv dev (Runs.run (diskStep dev) (Disk.init card) calls) :=
  Runs.invariant_of_forall DiskInv.step (diskInv_init dev card) calls

/-- **The disk over every sequence of calls.**  Every command goes to a sector of the decoy, while
the drive is locked, on a card that holds the decoy, and to a disk that is initialized; none is
sent between a failure and the next `disk_initialize`; the interrupt of the controller is enabled
behind every call.  A `disk_read` that succeeds has copied the sectors in order, and a `disk_write`
that does not has changed a prefix of its range at most, and the sector behind it. -/
theorem diskCalls_contained (dev : Device) (card : Card) (calls : List DiskCall) :
    let d := Runs.run (diskStep dev) (Disk.init card) calls
    (∀ write sector locked initialized, DiskAction.command write sector locked initialized ∈ d.log →
        sector.toNat < dev.lockedSectors.toNat ∧ locked = true ∧ initialized = true
          ∧ dev.lockedSectors.toNat ≤ dev.emmcSecNum.toNat)
      ∧ (∀ before write sector locked initialized after,
          d.log = before ++ .command write sector locked initialized :: after →
            NoFailureSince before)
      ∧ d.emmcIrq = true
      ∧ (∀ locked io pdrv null sector count,
          (diskRead dev locked io pdrv null sector count d).1 = .ok →
            (diskRead dev locked io pdrv null sector count d).2.1
              = (List.range count.toNat).map fun j => d.card (sector.toNat + j))
      ∧ ∀ locked io pdrv buff sector count,
          (diskWrite dev locked io pdrv buff sector count d).1 ≠ .ok →
            (diskWrite dev locked io pdrv buff sector count d).2.card = d.card
              ∨ ∃ data, buff = some data ∧ ∃ k < count.toNat,
                WrittenPrefix sector.toNat k data d.card
                  (diskWrite dev locked io pdrv buff sector count d).2.card := by
  intro d
  have hinv : DiskInv dev d := diskInv_run dev card calls
  refine ⟨hinv.contained.sent, hinv.contained.order, hinv.emmcIrq, ?_, ?_⟩
  · exact fun locked io pdrv null sector count =>
      (diskRead_spec hinv locked io pdrv null sector count).2
  · intro locked io pdrv buff sector count hne
    obtain ⟨-, hkept, hprefix⟩ := diskWrite_spec hinv locked io pdrv buff sector count
    rcases hres : (diskWrite dev locked io pdrv buff sector count d).1 with - | - | - | -
    · exact absurd hres hne
    · exact Or.inr <| hprefix hres
    · exact Or.inl (hkept (Or.inr hres))
    · exact Or.inl (hkept (Or.inl hres))

end Runs

end PhantomDrive
