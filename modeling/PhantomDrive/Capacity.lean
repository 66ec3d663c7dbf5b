/-
PhantomDrive/Capacity.lean

How many sectors the drive says it has.  READ CAPACITY(10), READ FORMAT CAPACITIES and
the block descriptor of MODE SENSE tell the host in four different layouts.

Main result: `reportedSize_run`.  In every orderly run, whatever other commands come in
between, each of them is told the size of what the host is shown, in sectors of 512
bytes: a host that stays below the size it was told is within reach
(`Exchange.InReach`).
-/
import PhantomDrive.BlockDevice
import PhantomDrive.Answers

namespace PhantomDrive

/-! ### What the host makes of a response -/

/-- A number of `n` bytes, most significant first. -/
def beNat (bytes : List UInt8) (at_ n : ℕ) : ℕ :=
  (List.range n).foldl (fun value i => 256 * value + (bytes.getD (at_ + i) 0).toNat) 0

/-- The commands that tell the host the size. -/
def ScsiCommand.reportsSize : ScsiCommand → Bool
  | .readFormatCapacity | .readCapacity | .modeSense | .modeSense2 => true
  | _ => false

/-- The number of blocks and the length of a block in a response: READ CAPACITY(10) has the last
LBA in front; the other three have a descriptor with the number of blocks in four bytes, a byte
of its own and the length in three. -/
def reportedSize (command : ScsiCommand) (response : List UInt8) : Option (ℕ × ℕ) :=
  match command with
  | .readCapacity => some (beNat response 0 4 + 1, beNat response 4 4)
  | .readFormatCapacity | .modeSense => some (beNat response 4 4, beNat response 9 3)
  | .modeSense2 => some (beNat response 8 4, beNat response 13 3)
  | _ => none

/-- The capacity in sectors that the device reports. -/
def Device.reported (dev : Device) (locked : Bool) : UInt32 :=
  if locked then dev.lockedSectors else dev.emmcSecNum - dev.lockedSectors

/-- What is reported is what the host is shown. -/
theorem toNat_reported {dev : Device} (hcard : dev.lockedSectors.toNat ≤ dev.emmcSecNum.toNat)
    (locked : Bool) : (dev.reported locked).toNat = dev.exposedSectors locked := by
  unfold Device.reported Device.exposedSectors
  split
  · rfl
  · exact UInt32.toNat_sub_of_le _ _ (UInt32.le_iff_toNat_le.mpr hcard)

/-- The bytes of a word, most significant first, are its value. -/
theorem beNat_wordByte (value : UInt32) :
    256 * (256 * (256 * (256 * 0 + (wordByte value 3).toNat) + (wordByte value 2).toNat)
      + (wordByte value 1).toNat) + (wordByte value 0).toNat = value.toNat := by
  have hlt := value.toNat_lt
  rw [toNat_wordByte value (by decide), toNat_wordByte value (by decide),
    toNat_wordByte value (by decide), toNat_wordByte value (by decide)]
  omega

/-- **Each layout** carries the capacity, and 512. -/
theorem reportedSize_response {cmd : BulkOnlyCmd} {b : Bot} (hpos : 0 < b.capacity.toNat)
    (hcmd : cmd.command.reportsSize = true) (hpage : cmd.command = .modeSense2 → cmd[17] = 0x3F) :
    reportedSize cmd.command (b.response cmd) = some (b.capacity.toNat, 512) := by
  have hone : 1 ≤ b.capacity := UInt32.le_iff_toNat_le.mpr hpos
  have hlast : (b.capacity - 1).toNat + 1 = b.capacity.toNat := by
    rw [UInt32.toNat_sub_of_le _ _ hone]
    exact Nat.sub_add_cancel hpos
  unfold Bot.response reportedSize
  cases hcommand : cmd.command with
  | readCapacity =>
    dsimp only
    refine congrArg some (Prod.ext ?_ rfl)
    rw [← hlast, ← beNat_wordByte (b.capacity - 1)]
    rfl
  | readFormatCapacity =>
    refine congrArg some (Prod.ext ?_ rfl)
    rw [← beNat_wordByte b.capacity]
    rfl
  | modeSense =>
    refine congrArg some (Prod.ext ?_ rfl)
    rw [← beNat_wordByte b.capacity]
    rfl
  | modeSense2 =>
    dsimp only
    rw [if_neg (not_not.mpr (hpage hcommand))]
    refine congrArg some (Prod.ext ?_ rfl)
    rw [← beNat_wordByte b.capacity]
    rfl
  | _ =>
    rw [hcommand] at hcmd
    cases hcmd

/-! ### The invariant -/

/-- What the observer has noted down as the response reports the capacity of that time. -/
def Exchange.Reports (dev : Device) (x : Exchange) : Prop :=
  x.cbw.validSignature = true →
    ∃ b : Bot, x.response = b.response x.cbw ∧ b.capacity = dev.reported x.locked

/-- What holds of the reports in every state of a run. -/
structure ReportInv (dev : Device) (t : Session) : Prop extends AnswerInv dev t where
  lock : LockInv dev t.sys.drive
  reports : t.exchange.Reports dev

section Steps

variable {dev : Device} {t : Session}

/-- The capacity follows the lock. -/
theorem LockInv.reported {d : Drive} (h : LockInv dev d) :
    d.bot.capacity = dev.reported d.phantom.isLocked := by
  rw [h.capacity]
  unfold Device.reported Phantom.isLocked
  cases d.phantom.state with
  | locked => rfl
  | unlockPending => rfl
  | unlocked => rfl

theorem reports_step (e : Event) (hlock : LockInv dev t.sys.drive)
    (h : t.exchange.Reports dev) : (t.step dev e).exchange.Reports dev := by
  show (observe dev t.exchange t.sys e).Reports dev
  rcases observe_cases dev t.exchange t.sys e with
    ⟨packet, -, -, hbegin⟩ | ⟨-, hsame, hresponse⟩
  · rw [hbegin]
    have hreported := hlock.reported
    intro _
    dsimp only [Exchange.begin]
    exact ⟨t.sys.drive.bot, rfl, hreported⟩
  · unfold Exchange.Reports
    rw [hsame.cbw, hsame.locked, hresponse]
    exact h

/-- A command that reports the size answers. -/
theorem answers_of_reportsSize {cmd : BulkOnlyCmd} (h : cmd.command.reportsSize = true) :
    cmd.answers = true := by
  unfold BulkOnlyCmd.answers
  cases hcommand : cmd.command with
  | inquiry => rfl
  | readFormatCapacity => rfl
  | readCapacity => rfl
  | modeSense => rfl
  | modeSense2 => rfl
  | _ =>
    rw [hcommand] at h
    cases h

/-- **An event of an orderly run** keeps the reports right. -/
theorem reportInv_step (hinit : dev.initTxCtrl = .nak) (t : Session) (e : Event)
    (h : ReportInv dev t) (hok : Orderly t e) : ReportInv dev (t.step dev e) :=
  ⟨answerInv_step hinit t e h.toAnswerInv hok, lockInv_step t.sys e h.lock,
    reports_step e h.lock h.reports⟩

end Steps

/-! ### Runs -/

theorem reportInv_init {dev : Device} (hinit : dev.initTxCtrl = .nak) (card : Card) :
    ReportInv dev (.init dev card) where
  toAnswerInv := answerInv_init hinit card
  lock := lockInv_init dev card
  reports hvalid := absurd (validSignature_none.symm.trans hvalid) Bool.false_ne_true

/-- **The size the host is told.**  In every orderly run from power-up, each of the four commands
that report a size sends, if the host asks for the whole response and the command is not
rejected, the number of sectors of what the host was shown when the command came, and 512. -/
theorem reportedSize_run (dev : Device) (hinit : dev.initTxCtrl = .nak)
    (hdecoy : 0 < dev.lockedSectors.toNat)
    (hcard : dev.lockedSectors.toNat < dev.emmcSecNum.toNat) (card : Card) (events : List Event)
    (hrun : Runs.Along (Session.step dev) Orderly (Session.init dev card) events) :
    let t := Runs.run (Session.step dev) (Session.init dev card) events
    t.exchange.cbw.validSignature = true → t.exchange.dataPhase dev = .respond →
      t.exchange.cbw.command.reportsSize = true →
        t.exchange.response.length ≤ t.exchange.cbw.dataLen.toNat →
          reportedSize t.exchange.cbw.command (dataOf (t.exchange.packets t.sys.drive.bot))
            = some (dev.exposedSectors t.exchange.locked, 512) := by
  intro t hvalid hphase hcmd hlen
  have hinv : ReportInv dev t := Runs.invariant (P := ReportInv dev) (reportInv_step hinit)
    (reportInv_init hinit card) hrun
  obtain ⟨b, hresponse, hcapacity⟩ := hinv.reports hvalid
  have hsize : b.capacity.toNat = dev.exposedSectors t.exchange.locked := by
    rw [hcapacity, toNat_reported hcard.le]
  have hpos : 0 < b.capacity.toNat := by
    rw [hsize]
    unfold Device.exposedSectors
    split <;> omega
  -- a MODE SENSE(10) of another page is rejected
  have hpage : t.exchange.cbw.command = .modeSense2 → t.exchange.cbw[17] = 0x3F := by
    intro hcommand
    by_contra hother
    have hrefused : t.exchange.cbw.refused dev t.exchange.locked = true := by
      have hsame : (Bot.init.beginCbw t.exchange.cbw).cbwCsw.command = .modeSense2 := hcommand
      unfold BulkOnlyCmd.refused Bot.rejects
      rw [hsame]
      exact decide_eq_true hother
    exact absurd (hrefused.symm.trans (Exchange.of_respond hphase).1) (Ne.symm Bool.false_ne_true)
  rw [hinv.data hvalid hphase (answers_of_reportsSize hcmd), List.take_of_length_le hlen, hresponse,
    reportedSize_response hpos hcmd hpage, hsize]

/-- A READ CAPACITY(10), the first command of a run. -/
theorem reportedSize_run_readCapacity :
    let t := Runs.run (Session.step sampleDevice) (Session.init sampleDevice fun _ _ => 0)
      [.bulkOut (cbwPacket 0x80 8 [0x25])]
    reportedSize t.exchange.cbw.command (dataOf (t.exchange.packets t.sys.drive.bot))
      = some (sampleDevice.exposedSectors t.exchange.locked, 512) :=
  reportedSize_run sampleDevice rfl (by decide) (by decide) (fun _ _ => 0)
    [.bulkOut (cbwPacket 0x80 8 [0x25])] ⟨⟨fun _ _ => rfl, fun _ => rfl⟩, trivial⟩
    rfl (by decide +kernel) rfl (by decide +kernel)

end PhantomDrive
