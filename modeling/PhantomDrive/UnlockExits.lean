/-
PhantomDrive/UnlockExits.lean

What `phantomdrive_try_unlock` takes over and gives back.  `TryUnlock.lean` has the function as one
step of the drive; here it runs statement by statement with what it borrows beside the drive: the USB
interrupt, the whole control register of EP1 OUT, the work area of FatFs and the attachment of the
device.  On the drive it does the same (`tryUnlockRun_drive`).

Main result: whatever the idle checks, the file system and the clock say, the function either
switches, and then it has deleted the file or the time is over, or it leaves the attempt to be
repeated; everything it has taken is given back at each of its exits (`tryUnlock_exits`).
-/
import PhantomDrive.TryUnlock
import PhantomDrive.Command

namespace PhantomDrive

/-! ### The statements -/

/-- The drive and what `phantomdrive_try_unlock` takes over.  The response field of
`R8_UEP1_RX_CTRL` is `drive.bot.rxCtrl`. -/
structure UnlockRun where
  drive : Drive
  /-- `USBHS_IRQn` is enabled. -/
  usbIrq : Bool
  /-- The bits of `R8_UEP1_RX_CTRL` outside `RB_UEP_RRES_MASK`. -/
  rxRest : UInt8
  /-- FatFs has a work area. -/
  mounted : Bool
  /-- The last `USB20_Device_Init` was `ENABLE`. -/
  attached : Bool
  /-- The paths handed to `unlock_file_delete`. -/
  deleted : List (List UInt8)

/-- The register `R8_UEP1_RX_CTRL`. -/
def UnlockRun.rxControl (s : UnlockRun) : EpResponse × UInt8 := (s.drive.bot.rxCtrl, s.rxRest)

/-- `R8_UEP1_RX_CTRL = rx_control`. -/
def UnlockRun.setRxControl (s : UnlockRun) (rxControl : EpResponse × UInt8) : UnlockRun :=
  { s with
    drive := { s.drive with bot := { s.drive.bot with rxCtrl := rxControl.1 } }
    rxRest := rxControl.2 }

/-- `USB20_Device_Init(ENABLE)`; `initRest` are the other bits of the control register. -/
def UnlockRun.deviceEnable (dev : Device) (initRest : UInt8) (s : UnlockRun) : UnlockRun :=
  { s with
    drive := { s.drive with bot := usb20DeviceInit dev s.drive.bot }
    rxRest := initRest
    attached := true }

/-- The interrupt off, and EP1 OUT to answer NAK. -/
def UnlockRun.take (s : UnlockRun) : UnlockRun :=
  { s with usbIrq := false }.setRxControl (.nak, s.rxRest)

/-- The mount and the search. -/
def UnlockRun.search (io : UnlockIo) (s : UnlockRun) : UnlockRun :=
  { s with mounted := true, drive := { s.drive with card := io.card s.drive.card } }

/-- The label `resume_usb`. -/
def UnlockRun.resumeUsb (rxControl : EpResponse × UInt8) (s : UnlockRun) : UnlockRun :=
  { s.setRxControl rxControl with usbIrq := true }

/-- The label `unmount`. -/
def UnlockRun.unmount (rxControl : EpResponse × UInt8) (s : UnlockRun) : UnlockRun :=
  { s with mounted := false }.resumeUsb rxControl

/-- The statements from `USB20_Device_Init(DISABLE)` to the unmount: the deletion. -/
def UnlockRun.delete (found : Option (List UInt8) × ℕ) (s : UnlockRun) : UnlockRun :=
  let s := { s with attached := false }
  let s := match found.1 with
    | none => s
    | some path =>
        { s with
          drive := { s.drive with phantom := { s.drive.phantom with pendingPwLen := found.2 } }
          deleted := s.deleted ++ [path] }
  { s with mounted := false }

/-- The statements from `phantomdrive_crypto_unlock` to the last `USB20_Device_Init`. -/
def UnlockRun.switch (dev : Device) (initRest : UInt8) (passwordLen : ℕ) (s : UnlockRun) :
    UnlockRun :=
  let passwordLen := if unlockPasswordMax < passwordLen then unlockPasswordMax else passwordLen
  let d := s.drive
  let password := d.phantom.pendingPw.toList.take passwordLen
  let derived := phantomdriveCryptoUnlock dev.kdfRounds dev.aesMode d.keys password
    d.phantom.saltBytes
  let d := { d with
    log := d.log ++ [Action.cryptoUnlock password d.phantom.saltBytes]
    keys := derived.1
    phantom := clearPendingPassword { d.phantom with saltBytes := derived.2 } }
  let d := { d with bot := { d.bot with capacity := dev.emmcSecNum - dev.lockedSectors } }
  let d := { d with phantom := { d.phantom with state := .unlocked } }
  let d := { d with bot := { d.bot with
    transferFlags := .none, readPending := false, writePending := false } }
  { s with drive := d, usbIrq := true }.deviceEnable dev initRest

/-- `phantomdrive_try_unlock`. -/
def tryUnlockRun (dev : Device) (initRest : UInt8) (io : UnlockIo) (s : UnlockRun) : UnlockRun :=
  if s.drive.phantom.pendingPwLen = 0 then s
  else
    let rxControl := s.rxControl
    let s := s.take
    if !botUsbIsIdle io.pending s.drive.bot then s.resumeUsb rxControl
    else
      let found := unlockSearch io s.drive.phantom
      let s := s.search io
      let timedOut := phantomdriveUnlockTimeoutReached io.now s.drive.phantom
      if found.1.isNone && !timedOut then s.unmount rxControl
      else if !botUsbIsIdle io.pendingAfterFind s.drive.bot then s.unmount rxControl
      else
        let s := s.delete found
        let deleted := found.1.isSome && unlockFileDelete io.deletion
        if !deleted && !timedOut then { s with usbIrq := true }.deviceEnable dev initRest
        else s.switch dev initRest found.2

/-- The ways through `phantomdrive_try_unlock`. -/
inductive UnlockExit (dev : Device) (initRest : UInt8) (io : UnlockIo) (s : UnlockRun) :
    UnlockRun → Prop
  | nothing : s.drive.phantom.pendingPwLen = 0 → UnlockExit dev initRest io s s
  | resumeUsb : s.drive.phantom.pendingPwLen ≠ 0 → botUsbIsIdle io.pending s.drive.bot = false →
      UnlockExit dev initRest io s (s.take.resumeUsb s.rxControl)
  | unmount : s.drive.phantom.pendingPwLen ≠ 0 → botUsbIsIdle io.pending s.drive.bot = true →
      (unlockSearch io s.drive.phantom).1 = none
          ∧ phantomdriveUnlockTimeoutReached io.now s.drive.phantom = false
        ∨ botUsbIsIdle io.pendingAfterFind s.drive.bot = false →
      UnlockExit dev initRest io s ((s.take.search io).unmount s.rxControl)
  | kept (path : List UInt8) : s.drive.phantom.pendingPwLen ≠ 0 →
      botUsbIsIdle io.pending s.drive.bot = true →
      botUsbIsIdle io.pendingAfterFind s.drive.bot = true →
      (unlockSearch io s.drive.phantom).1 = some path → unlockFileDelete io.deletion = false →
      phantomdriveUnlockTimeoutReached io.now s.drive.phantom = false →
      UnlockExit dev initRest io s
        ({ (s.take.search io).delete (unlockSearch io s.drive.phantom) with
          usbIrq := true }.deviceEnable dev initRest)
  | switched : s.drive.phantom.pendingPwLen ≠ 0 → botUsbIsIdle io.pending s.drive.bot = true →
      botUsbIsIdle io.pendingAfterFind s.drive.bot = true →
      (∃ path, (unlockSearch io s.drive.phantom).1 = some path
          ∧ unlockFileDelete io.deletion = true)
        ∨ phantomdriveUnlockTimeoutReached io.now s.drive.phantom = true →
      UnlockExit dev initRest io s
        (((s.take.search io).delete (unlockSearch io s.drive.phantom)).switch dev initRest
          (unlockSearch io s.drive.phantom).2)

/-- **Every call leaves through one of them.** -/
theorem tryUnlockRun_exit (dev : Device) (initRest : UInt8) (io : UnlockIo) (s : UnlockRun) :
    UnlockExit dev initRest io s (tryUnlockRun dev initRest io s) := by
  unfold tryUnlockRun
  by_cases hlen : s.drive.phantom.pendingPwLen = 0
  · rw [if_pos hlen]
    exact .nothing hlen
  rw [if_neg hlen]
  have hbot : ∀ pending, botUsbIsIdle pending s.take.drive.bot = botUsbIsIdle pending s.drive.bot :=
    fun _ => rfl
  have hsearched : ∀ pending, botUsbIsIdle pending (s.take.search io).drive.bot
      = botUsbIsIdle pending s.drive.bot := fun _ => rfl
  have hphantom : s.take.drive.phantom = s.drive.phantom := rfl
  have hsame : (s.take.search io).drive.phantom = s.drive.phantom := rfl
  simp only [hbot, hsearched, hphantom, hsame]
  rcases hfirst : botUsbIsIdle io.pending s.drive.bot with - | -
  · exact .resumeUsb hlen hfirst
  rcases hpath : (unlockSearch io s.drive.phantom).1 with - | path
  · rcases htime : phantomdriveUnlockTimeoutReached io.now s.drive.phantom with - | -
    · exact .unmount hlen hfirst (Or.inl ⟨hpath, htime⟩)
    rcases hsecond : botUsbIsIdle io.pendingAfterFind s.drive.bot with - | -
    · exact .unmount hlen hfirst (Or.inr hsecond)
    · exact .switched hlen hfirst hsecond (Or.inr htime)
  · rcases hsecond : botUsbIsIdle io.pendingAfterFind s.drive.bot with - | -
    · exact .unmount hlen hfirst (Or.inr hsecond)
    rcases hdelete : unlockFileDelete io.deletion with - | -
    · rcases htime : phantomdriveUnlockTimeoutReached io.now s.drive.phantom with - | -
      · exact .kept path hlen hfirst hsecond hpath hdelete htime
      · exact .switched hlen hfirst hsecond (Or.inr htime)
    · exact .switched hlen hfirst hsecond (Or.inl ⟨path, hpath, hdelete⟩)

/-! ### The drive -/

/-- **On the drive** the statements do what the one step does. -/
theorem tryUnlockRun_drive (dev : Device) (initRest : UInt8) (io : UnlockIo) (s : UnlockRun) :
    (tryUnlockRun dev initRest io s).drive = phantomdriveTryUnlock dev io s.drive := by
  have hexit := tryUnlockRun_exit dev initRest io s
  generalize tryUnlockRun dev initRest io s = s' at hexit
  unfold phantomdriveTryUnlock
  cases hexit with
  | nothing hlen => rw [if_pos hlen]
  | resumeUsb hlen hfirst =>
    rw [if_neg hlen, hfirst]
    rfl
  | unmount hlen hfirst hgive =>
    rw [if_neg hlen, hfirst]
    rcases hgive with ⟨hpath, htime⟩ | hsecond
    · simp only [hpath, htime]
      rfl
    · simp only [hsecond]
      rcases (unlockSearch io s.drive.phantom).1.isNone
          && !phantomdriveUnlockTimeoutReached io.now s.drive.phantom with - | -
      all_goals rfl
  | kept path hlen hfirst hsecond hpath hdelete htime =>
    rw [if_neg hlen, hfirst]
    simp only [hpath, hsecond, htime, deleteAndSwitch, hdelete, UnlockRun.delete]
    rfl
  | switched hlen hfirst hsecond hgrant =>
    rw [if_neg hlen, hfirst]
    rcases hpath : (unlockSearch io s.drive.phantom).1 with - | path
    · have htime : phantomdriveUnlockTimeoutReached io.now s.drive.phantom = true := by
        rcases hgrant with ⟨path, hsome, -⟩ | htime
        · cases hpath.symm.trans hsome
        · exact htime
      simp only [hpath, hsecond, htime, deleteAndSwitch, UnlockRun.delete]
      rfl
    · have hgo : (!unlockFileDelete io.deletion
          && !phantomdriveUnlockTimeoutReached io.now s.drive.phantom) = false := by
        rcases hgrant with ⟨-, -, hdelete⟩ | htime
        · rw [hdelete]
          rfl
        · rw [htime, Bool.not_true, Bool.and_false]
      simp only [hpath, hsecond, deleteAndSwitch, UnlockRun.delete, Option.isSome_some,
        Bool.true_and, hgo]
      rfl

/-! ### The exits -/

/-- The drive may have been switched: the file found was overwritten and unlinked, or 3000 ms have
passed since the prefix was captured. -/
def UnlockIo.Grants (io : UnlockIo) (p : Phantom) : Prop :=
  (∃ path, (unlockSearch io p).1 = some path ∧ io.deletion.opens = true
      ∧ io.deletion.size ≤ unlockFileMaxSize ∧ io.deletion.writes = true
      ∧ io.deletion.bytesWritten = io.deletion.size ∧ io.deletion.closes = true
      ∧ io.deletion.unlinks = true)
    ∨ 3000 ≤ (io.now - p.pendingPwStartedMs).toNat

/-- The attempt is left to be repeated. -/
structure Repeats (io : UnlockIo) (d d' : Drive) : Prop where
  state : d'.phantom.state = .unlockPending
  capacity : d'.bot.capacity = d.bot.capacity
  keys : d'.keys = d.keys
  saltBytes : d'.phantom.saltBytes = d.phantom.saltBytes
  pendingPw : d'.phantom.pendingPw = d.phantom.pendingPw
  pendingPwLba : d'.phantom.pendingPwLba = d.phantom.pendingPwLba
  pendingPwOffset : d'.phantom.pendingPwOffset = d.phantom.pendingPwOffset
  pendingPwLen : d'.phantom.pendingPwLen = d.phantom.pendingPwLen
    ∨ (unlockSearch io d.phantom).1.isSome = true
        ∧ d'.phantom.pendingPwLen = (unlockSearch io d.phantom).2

/-- Everything taken is given back. -/
structure GivesBack (dev : Device) (initRest : UInt8) (s s' : UnlockRun) : Prop where
  usbIrq : s'.usbIrq = true
  mounted : s'.mounted = false
  attached : s'.attached = true
  rxControl : s'.rxControl = s.rxControl ∨ s'.rxControl = (dev.initRxCtrl, initRest)

section Exits

variable {dev : Device} {initRest : UInt8} {io : UnlockIo} {s : UnlockRun}

theorem unlockFileDelete_iff (deletion : Deletion) :
    unlockFileDelete deletion = true ↔ deletion.opens = true ∧ deletion.size ≤ unlockFileMaxSize
      ∧ deletion.writes = true ∧ deletion.bytesWritten = deletion.size ∧ deletion.closes = true
      ∧ deletion.unlinks = true := by
  simp only [unlockFileDelete, Bool.and_eq_true, decide_eq_true_eq, and_assoc]

/-- An attempt that leaves the capture as it was. -/
theorem repeats_of_eq {d d' : Drive} (hstate : d.phantom.state = .unlockPending)
    (hphantom : d'.phantom = d.phantom) (hkeys : d'.keys = d.keys)
    (hcapacity : d'.bot.capacity = d.bot.capacity) : Repeats io d d' where
  state := by rw [hphantom, hstate]
  capacity := hcapacity
  keys := hkeys
  saltBytes := by rw [hphantom]
  pendingPw := by rw [hphantom]
  pendingPwLba := by rw [hphantom]
  pendingPwOffset := by rw [hphantom]
  pendingPwLen := Or.inl (by rw [hphantom])

/-- What the exits of a call leave of the drive. -/
theorem UnlockExit.grants_or_repeats {s' : UnlockRun} (h : UnlockExit dev initRest io s s')
    (hstate : s.drive.phantom.state = .unlockPending) :
    s'.drive.phantom.state = .unlocked ∧ io.Grants s.drive.phantom ∨ Repeats io s.drive s'.drive := by
  cases h with
  | nothing => exact Or.inr (repeats_of_eq hstate rfl rfl rfl)
  | resumeUsb => exact Or.inr (repeats_of_eq hstate rfl rfl rfl)
  | unmount => exact Or.inr (repeats_of_eq hstate rfl rfl rfl)
  | kept path _ _ _ hpath =>
    have hlen : ((s.take.search io).delete (unlockSearch io s.drive.phantom)).drive.phantom
        = { s.drive.phantom with pendingPwLen := (unlockSearch io s.drive.phantom).2 } := by
      simp only [UnlockRun.delete, hpath]
      rfl
    have hkept : ∀ found, ((s.take.search io).delete found).drive.keys = s.drive.keys
        ∧ ((s.take.search io).delete found).drive.bot.capacity = s.drive.bot.capacity := by
      rintro ⟨- | path, len⟩
      all_goals exact ⟨rfl, rfl⟩
    obtain ⟨hkeys, hcapacity⟩ := hkept (unlockSearch io s.drive.phantom)
    generalize (s.take.search io).delete (unlockSearch io s.drive.phantom) = s' at *
    refine Or.inr ⟨?_, hcapacity, hkeys, ?_, ?_, ?_, ?_, Or.inr ⟨by rw [hpath]; rfl, ?_⟩⟩
    all_goals simp only [UnlockRun.deviceEnable, hlen, hstate]
  | switched _ _ _ hgrant =>
    refine Or.inl ⟨rfl, ?_⟩
    rcases hgrant with ⟨path, hpath, hdelete⟩ | htime
    · exact Or.inl ⟨path, hpath, (unlockFileDelete_iff io.deletion).mp hdelete⟩
    · exact Or.inr (UInt64.le_iff_toNat_le.mp (decide_eq_true_eq.mp htime))

/-- What the exits give back. -/
theorem UnlockExit.givesBack {s' : UnlockRun} (h : UnlockExit dev initRest io s s')
    (hirq : s.usbIrq = true) (hmounted : s.mounted = false) (hattached : s.attached = true) :
    GivesBack dev initRest s s' := by
  have hdelete : ∀ found, ((s.take.search io).delete found).mounted = false := by
    rintro ⟨- | path, len⟩
    all_goals rfl
  cases h with
  | nothing => exact ⟨hirq, hmounted, hattached, Or.inl rfl⟩
  | resumeUsb => exact ⟨rfl, hmounted, hattached, Or.inl rfl⟩
  | unmount => exact ⟨rfl, rfl, hattached, Or.inl rfl⟩
  | kept => exact ⟨rfl, hdelete (unlockSearch io s.drive.phantom), rfl, Or.inr rfl⟩
  | switched => exact ⟨rfl, hdelete (unlockSearch io s.drive.phantom), rfl, Or.inr rfl⟩

/-- **Every exit.**  An attempt on a drive whose unlock is pending, made with the interrupt on and no
volume mounted, switches only if it is granted, and is left to be repeated otherwise; the interrupt
is on again, the volume is unmounted, and the control register of EP1 OUT is the saved one or that of
a device just initialised. -/
theorem tryUnlock_exits (dev : Device) (initRest : UInt8) (io : UnlockIo) (s : UnlockRun)
    (hstate : s.drive.phantom.state = .unlockPending) (hirq : s.usbIrq = true)
    (hmounted : s.mounted = false) (hattached : s.attached = true) :
    ((tryUnlockRun dev initRest io s).drive.phantom.state = .unlocked ∧ io.Grants s.drive.phantom
        ∨ Repeats io s.drive (tryUnlockRun dev initRest io s).drive)
      ∧ GivesBack dev initRest s (tryUnlockRun dev initRest io s) :=
  have hexit := tryUnlockRun_exit dev initRest io s
  ⟨hexit.grants_or_repeats hstate, hexit.givesBack hirq hmounted hattached⟩

/-- The file is found and overwritten, but `f_unlink` fails. -/
def sampleUnlockIo : UnlockIo where
  pending := false
  mounts := true
  directory := { opens := true, closes := true, entries := [
    { fname := [0x61], isDir := false, fsize := 11, opens := true, size := 11
      read := some (passwordPrefix ++ [0, 0]), sect := 40, closes := true }] }
  now := 2999
  pendingAfterFind := false
  deletion := { opens := true, size := 11, writes := true, bytesWritten := 11, closes := true
                unlinks := false }
  card := id

/-- A password of three bytes at the end of a sector is pending. -/
def sampleAttempt : UnlockRun where
  drive := { sampleDrive .unlockPending with
    phantom := { Phantom.statics with
      state := .unlockPending, pendingPwLen := 3, pendingPwLba := 40, pendingPwOffset := 9 } }
  usbIrq := true
  rxRest := 0x40
  mounted := false
  attached := true
  deleted := []

/-- The attempt is repeated with the length of the file. -/
theorem tryUnlock_exits_unlink_fails :
    (tryUnlockRun sampleDevice 0 sampleUnlockIo sampleAttempt).drive.phantom.pendingPwLen = 2
      ∧ GivesBack sampleDevice 0 sampleAttempt
          (tryUnlockRun sampleDevice 0 sampleUnlockIo sampleAttempt) :=
  ⟨by decide, (tryUnlock_exits sampleDevice 0 sampleUnlockIo sampleAttempt rfl rfl rfl rfl).2⟩

/-- A path handed to `unlock_file_delete` is the path the search returned. -/
theorem tryUnlockRun_deleted (dev : Device) (initRest : UInt8) (io : UnlockIo) (s : UnlockRun) :
    (tryUnlockRun dev initRest io s).deleted = s.deleted
      ∨ ∃ path, (unlockSearch io s.drive.phantom).1 = some path
          ∧ (tryUnlockRun dev initRest io s).deleted = s.deleted ++ [path] := by
  have hdelete : ∀ found : Option (List UInt8) × ℕ,
      ((s.take.search io).delete found).deleted = s.deleted
        ∨ ∃ path, found.1 = some path
            ∧ ((s.take.search io).delete found).deleted = s.deleted ++ [path] := by
    rintro ⟨- | path, len⟩
    · exact Or.inl rfl
    · exact Or.inr ⟨path, rfl, rfl⟩
  have hexit := tryUnlockRun_exit dev initRest io s
  generalize tryUnlockRun dev initRest io s = s' at hexit
  cases hexit with
  | nothing => exact Or.inl rfl
  | resumeUsb => exact Or.inl rfl
  | unmount => exact Or.inl rfl
  | kept => exact hdelete _
  | switched => exact hdelete _

end Exits

end PhantomDrive
