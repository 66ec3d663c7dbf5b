/-
PhantomDrive/UnlockInit.lean

`unlock_file_init`: the decoy is mounted when the firmware starts, and formatted if it
holds no FAT32 volume.

What `mount_volume` of FatFs does behind `disk_initialize` is a tree of reads: every
read of the disk may decide what is read next and what the mount returns.  Any such
tree is allowed, and `f_mkfs` may make any calls.

Main result: `unlockFileInit_formats`.
-/
import PhantomDrive.Diskio

namespace PhantomDrive

/-! ### FatFs -/

/-- `FRESULT`. -/
inductive FResult
  | ok | diskErr | intErr | notReady | noFile | noPath | invalidName | denied | exist
  | invalidObject | writeProtected | invalidDrive | notEnabled | noFilesystem | mkfsAborted
  | timeout | locked | notEnoughCore | tooManyOpenFiles | invalidParameter
deriving DecidableEq, Repr

/-- `fs_type`: zero, `FS_FAT12`, `FS_FAT16`, `FS_FAT32`, `FS_EXFAT`. -/
inductive FsType
  | none | fat12 | fat16 | fat32 | exfat
deriving DecidableEq, Repr

/-- `mount_volume` behind `disk_initialize`: reads, then the result and `fs_type`. -/
inductive Mount
  | done (result : FResult) (fsType : FsType)
  | read (sector count : UInt32) (next : DResult → List Sector → Mount)

/-- The mount on a disk; `io k i` is what transfer `i` of read `k` meets. -/
def Mount.run (dev : Device) (locked : Bool) : (ℕ → ℕ → TransferIo) → Mount → Disk →
    (FResult × FsType) × Disk
  | _, .done result fsType, d => ((result, fsType), d)
  | io, .read sector count next, d =>
      let r := diskRead dev locked (io 0) 0 false sector count d
      (next r.1 r.2.1).run dev locked (fun k => io (k + 1)) r.2.2

/-- The mount when every transfer succeeds. -/
def Mount.faultFree (dev : Device) (card : Card) : Mount → FResult × FsType
  | .done result fsType => (result, fsType)
  | .read sector count next =>
      if badRequest dev 0 false sector count then (next .parErr []).faultFree dev card
      else (next .ok ((List.range count.toNat).map fun j => card (sector.toNat + j))).faultFree
        dev card

/-- `f_mount(&filesystem, "", 1)`. -/
def fMount (dev : Device) (locked : Bool) (now : UInt64) (io : ℕ → ℕ → TransferIo) (mount : Mount)
    (d : Disk) : (FResult × FsType) × Disk :=
  let r := diskInitialize dev locked 0 now d
  if r.1 then ((.notReady, .none), r.2) else mount.run dev locked io r.2

/-! ### `unlock_file_init` -/

/-- `filesystem`, and whether it is registered with FatFs. -/
structure Filesystem where
  registered : Bool
  fsType : FsType
deriving DecidableEq, Repr

/-- `unlock_file_unmount`. -/
def unlockFileUnmount (_ : Filesystem) : Filesystem := ⟨false, .none⟩

/-- What `unlock_file_init` meets: the clock and the transfers of both mounts, and the calls and
the result of `f_mkfs`. -/
structure InitIo where
  now : UInt64
  reads : ℕ → ℕ → TransferIo
  mkfsCalls : List DiskCall
  mkfsResult : FResult
  nowAgain : UInt64
  readsAgain : ℕ → ℕ → TransferIo

structure InitOutcome where
  ready : Bool
  /-- `f_mkfs` was called. -/
  formats : Bool
  disk : Disk
  filesystem : Filesystem

/-- `unlock_file_init`. -/
def unlockFileInit (dev : Device) (locked : Bool) (mount : Mount) (io : InitIo) (d : Disk) :
    InitOutcome :=
  let first := fMount dev locked io.now io.reads mount d
  let result := first.1.1
  let filesystem : Filesystem := ⟨true, first.1.2⟩
  let d := first.2
  if result = .noFilesystem ∨ (result = .ok ∧ filesystem.fsType ≠ .fat32) then
    if diskStatus dev locked 0 d then ⟨false, false, d, unlockFileUnmount filesystem⟩
    else
      let d := Runs.run (diskStep dev) { d with formatting := true } io.mkfsCalls
      let d := { d with formatting := false }
      if io.mkfsResult ≠ .ok then ⟨false, true, d, unlockFileUnmount filesystem⟩
      else
        let second := fMount dev locked io.nowAgain io.readsAgain mount d
        let filesystem : Filesystem := ⟨true, second.1.2⟩
        ⟨second.1.1 = .ok && filesystem.fsType = .fat32, true, second.2,
          unlockFileUnmount filesystem⟩
  else
    ⟨result = .ok && filesystem.fsType = .fat32, false, d, unlockFileUnmount filesystem⟩

/-! ### Reads -/

/-- What a read does to the disk: the card is the same, nothing is initialized, and a failure takes
`initialized` away. -/
structure OnlyReads (d d' : Disk) : Prop where
  card : d'.card = d.card
  formatting : d'.formatting = d.formatting
  initialized : d'.initialized = true → d.initialized = true
  failure : d'.initialized = true → .failure ∈ d'.log → .failure ∈ d.log

theorem OnlyReads.refl (d : Disk) : OnlyReads d d := ⟨rfl, rfl, id, fun _ => id⟩

theorem OnlyReads.trans {d d' d'' : Disk} (h : OnlyReads d d') (h' : OnlyReads d' d'') :
    OnlyReads d d'' where
  card := h'.card.trans h.card
  formatting := h'.formatting.trans h.formatting
  initialized := fun hinit => h.initialized (h'.initialized hinit)
  failure := fun hinit hmem => h.failure (h'.initialized hinit) (h'.failure hinit hmem)

section Reads

variable {dev : Device} {locked : Bool} {d : Disk}

theorem transferSector_formatting (io : TransferIo) (sector : UInt32) (d : Disk) :
    (transferSector locked io sector false d).2.formatting = d.formatting := by
  unfold transferSector
  dsimp only
  split
  · rfl
  split
  · rfl
  split
  · rfl
  · rfl

theorem transferSector_onlyReads (io : TransferIo) (sector : UInt32) (d : Disk) :
    OnlyReads d (transferSector locked io sector false d).2 := by
  obtain ⟨-, ⟨-, hdone⟩ | ⟨-, hfailed⟩⟩ := transferSector_cases locked io sector false d
  · refine ⟨hdone.card, transferSector_formatting .., fun hinit => ?_, fun _ hmem => ?_⟩
    · rw [← hdone.initialized]
      exact hinit
    · rw [hdone.log] at hmem
      rcases List.mem_append.mp hmem with hold | hnew
      · exact hold
      · exact DiskAction.noConfusion (List.mem_singleton.mp hnew)
  · have hnot : ∀ {P : Prop}, (transferSector locked io sector false d).2.initialized = true → P :=
      fun hinit => absurd (hfailed.initialized.symm.trans hinit) Bool.false_ne_true
    exact ⟨funext fun s => hfailed.card s (Or.inl rfl), transferSector_formatting .., hnot, hnot⟩

theorem readLoop_onlyReads (io : ℕ → TransferIo) (sector : UInt32) (i left : ℕ) (d : Disk) :
    OnlyReads d (readLoop locked io sector i left d).2.2 := by
  induction left generalizing i d with
  | zero => exact OnlyReads.refl d
  | succ left ih =>
    have hone : OnlyReads d (transferSector locked (io i) (sector + UInt32.ofNat i) false d).2 :=
      transferSector_onlyReads (io i) (sector + UInt32.ofNat i) d
    simp only [readLoop]
    split
    · exact hone.trans (ih (i + 1) _)
    · exact hone

/-- A read that leaves the disk initialized has succeeded. -/
theorem readLoop_succeeds (io : ℕ → TransferIo) (sector : UInt32) (i left : ℕ) (d : Disk)
    (hinit : (readLoop locked io sector i left d).2.2.initialized = true) :
    (readLoop locked io sector i left d).1 = true := by
  induction left generalizing i d with
  | zero => rfl
  | succ left ih =>
    obtain ⟨-, hcases⟩ := transferSector_cases locked (io i) (sector + UInt32.ofNat i) false d
    simp only [readLoop] at hinit ⊢
    split
    · rename_i hok
      rw [if_pos hok] at hinit
      exact ih (i + 1) _ hinit
    · rename_i hfail
      rw [if_neg hfail] at hinit
      rcases hcases with ⟨hok, -⟩ | ⟨-, hfailed⟩
      · exact absurd hok hfail
      · exact absurd (hfailed.initialized.symm.trans hinit) Bool.false_ne_true

theorem diskRead_onlyReads (io : ℕ → TransferIo) (pdrv : UInt8) (null : Bool)
    (sector count : UInt32) (d : Disk) :
    OnlyReads d (diskRead dev locked io pdrv null sector count d).2.2 := by
  unfold diskRead
  split
  · exact OnlyReads.refl d
  split
  · exact OnlyReads.refl d
  · exact readLoop_onlyReads ..

/-- The disk is on its card, and the drive is locked: only `initialized` can be missing. -/
def Device.DecoyThere (dev : Device) (locked : Bool) : Prop :=
  locked = true ∧ ¬ dev.emmcSecNum < dev.lockedSectors

theorem diskStatus_eq (hthere : dev.DecoyThere locked) :
    diskStatus dev locked 0 d = !d.initialized := by
  simp [diskStatus, hthere.1, hthere.2]

/-- A read that leaves the disk initialized returns what it returns without a fault. -/
theorem diskRead_faultFree (hthere : dev.DecoyThere locked) (h : DiskInv dev d)
    (io : ℕ → TransferIo) (sector count : UInt32)
    (hinit : (diskRead dev locked io 0 false sector count d).2.2.initialized = true) :
    (diskRead dev locked io 0 false sector count d).1
        = (if badRequest dev 0 false sector count then .parErr else .ok)
      ∧ (diskRead dev locked io 0 false sector count d).2.1
        = if badRequest dev 0 false sector count then []
          else (List.range count.toNat).map fun j => d.card (sector.toNat + j) := by
  have hbefore := (diskRead_onlyReads io 0 false sector count d).initialized hinit
  have hdata := (diskRead_spec h locked io 0 false sector count).2
  have hresult : (diskRead dev locked io 0 false sector count d).1
      = if badRequest dev 0 false sector count then .parErr else .ok := by
    unfold diskRead at hinit ⊢
    rw [diskStatus_eq hthere, hbefore] at hinit ⊢
    split
    · rfl
    · rename_i hrequest
      rw [if_neg hrequest] at hinit
      dsimp only [Bool.not_true, Bool.false_eq_true, if_false] at hinit ⊢
      rw [readLoop_succeeds io sector 0 count.toNat d hinit]
      rfl
  refine ⟨hresult, ?_⟩
  split
  · rename_i hrequest
    unfold diskRead
    rw [if_pos hrequest]
  · rename_i hrequest
    rw [if_neg hrequest] at hresult
    exact hdata hresult

end Reads

/-! ### Mounts -/

section Mounts

variable {dev : Device} {locked : Bool} {d : Disk}

theorem Mount.run_onlyReads (mount : Mount) (io : ℕ → ℕ → TransferIo) (d : Disk) :
    OnlyReads d (mount.run dev locked io d).2 := by
  induction mount generalizing io d with
  | done result fsType => exact OnlyReads.refl d
  | read sector count next ih =>
    exact (diskRead_onlyReads (io 0) 0 false sector count d).trans (ih _ _ _ _)

/-- **A mount that leaves the disk initialized** returns what it returns without a fault. -/
theorem Mount.run_faultFree (hthere : dev.DecoyThere locked) (mount : Mount)
    (io : ℕ → ℕ → TransferIo) (h : DiskInv dev d)
    (hinit : (mount.run dev locked io d).2.initialized = true) :
    (mount.run dev locked io d).1 = mount.faultFree dev d.card := by
  induction mount generalizing io d with
  | done result fsType => rfl
  | read sector count next ih =>
    have hreads : OnlyReads d (diskRead dev locked (io 0) 0 false sector count d).2.2 :=
      diskRead_onlyReads (io 0) 0 false sector count d
    have hinv := (diskRead_spec h locked (io 0) 0 false sector count).1
    simp only [Mount.run] at hinit ⊢
    have hafter := (Mount.run_onlyReads _ _ _).initialized hinit
    obtain ⟨hresult, hdata⟩ := diskRead_faultFree hthere h (io 0) sector count hafter
    rw [ih _ _ _ hinv hinit, hreads.card, hresult, hdata]
    simp only [Mount.faultFree]
    split
    · rfl
    · rfl

/-- The disk a mount starts its reads on. -/
theorem fMount_eq (now : UInt64) (io : ℕ → ℕ → TransferIo) (mount : Mount) (d : Disk) :
    fMount dev locked now io mount d
      = if diskStatus dev locked 0 { d with initialized := true } then
          ((.notReady, .none),
            { d with
              ioStartedTicks := now, initialized := true, log := d.log ++ [.diskInitialize] })
        else mount.run dev locked io
          { d with
            ioStartedTicks := now, initialized := true, log := d.log ++ [.diskInitialize] } := rfl

theorem fMount_formatting (now : UInt64) (io : ℕ → ℕ → TransferIo) (mount : Mount) (d : Disk) :
    (fMount dev locked now io mount d).2.formatting = d.formatting := by
  rw [fMount_eq]
  split
  · rfl
  · exact (Mount.run_onlyReads _ _ _).formatting

/-- The first mount: it does not change the card, and if the disk is still there behind it, no
transfer has failed and it has returned what it returns without a fault. -/
theorem fMount_init (now : UInt64) (io : ℕ → ℕ → TransferIo) (mount : Mount) (card : Card) :
    let r := fMount dev locked now io mount (Disk.init card)
    r.2.card = card
      ∧ (diskStatus dev locked 0 r.2 = false →
          .failure ∉ r.2.log ∧ r.1 = mount.faultFree dev card) := by
  rw [fMount_eq]
  split
  · rename_i hstatus
    refine ⟨rfl, fun hnot => ?_⟩
    exact absurd (hnot.symm.trans hstatus) Bool.false_ne_true
  · rename_i hstatus
    have hinv : DiskInv dev (diskInitialize dev locked 0 now (Disk.init card)).2 :=
      (diskInv_init dev card).diskInit locked 0 now
    have hreads : OnlyReads _
        (mount.run dev locked io (diskInitialize dev locked 0 now (Disk.init card)).2).2 :=
      mount.run_onlyReads io _
    refine ⟨hreads.card, fun hthere => ?_⟩
    have hdecoy : dev.DecoyThere locked := by
      rw [Bool.not_eq_true] at hstatus
      simpa [diskStatus, Device.DecoyThere] using hstatus
    have hinit := hthere
    rw [diskStatus_eq hdecoy, Bool.not_eq_false'] at hinit
    refine ⟨fun hmem => ?_, Mount.run_faultFree hdecoy mount io hinv hinit⟩
    have hfailure := hreads.failure hinit hmem
    simp [diskInitialize, Disk.init] at hfailure

end Mounts

/-- **Formatting at the start.**  `f_mkfs` is called only if no transfer of the mount before it
failed and the mount found no file system or a FAT type other than FAT32; a volume that a mount
without faults recognises as FAT32 is left as it is; and on every return the formatting flag is
false and the volume is unmounted. -/
theorem unlockFileInit_formats (dev : Device) (locked : Bool) (mount : Mount) (io : InitIo)
    (card : Card) :
    let first := fMount dev locked io.now io.reads mount (Disk.init card)
    let r := unlockFileInit dev locked mount io (Disk.init card)
    (r.formats = true →
        .failure ∉ first.2.log
          ∧ (first.1.1 = .noFilesystem ∨ first.1.1 = .ok ∧ first.1.2 ≠ .fat32))
      ∧ (mount.faultFree dev card = (.ok, .fat32) → r.formats = false ∧ r.disk.card = card)
      ∧ r.disk.formatting = false
      ∧ r.filesystem = ⟨false, .none⟩ := by
  obtain ⟨hcard, hclean⟩ := @fMount_init dev locked io.now io.reads mount card
  have hformatting : (fMount dev locked io.now io.reads mount (Disk.init card)).2.formatting = false :=
    fMount_formatting ..
  unfold unlockFileInit
  generalize fMount dev locked io.now io.reads mount (Disk.init card) = first at *
  dsimp only
  split
  · rename_i hresult
    split
    · exact ⟨fun h => (Bool.false_ne_true h).elim, fun _ => ⟨rfl, hcard⟩, hformatting, rfl⟩
    rename_i hstatus
    obtain ⟨hfailure, hfault⟩ := hclean (by simpa using hstatus)
    have hother : mount.faultFree dev card ≠ (.ok, .fat32) := by
      intro hfat
      rw [← hfault] at hfat
      rw [hfat] at hresult
      rcases hresult with h | ⟨-, h⟩
      · cases h
      · exact h rfl
    split
    · exact ⟨fun _ => ⟨hfailure, hresult⟩, fun h => absurd h hother, rfl, rfl⟩
    · exact ⟨fun _ => ⟨hfailure, hresult⟩, fun h => absurd h hother, fMount_formatting .., rfl⟩
  · exact ⟨fun h => (Bool.false_ne_true h).elim, fun _ => ⟨rfl, hcard⟩, hformatting, rfl⟩

end PhantomDrive
