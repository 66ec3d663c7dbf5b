/-
PhantomDrive/BlockDevice.lean

The drive as a block device, whatever interleaves.

The abstract model is a host that keeps a copy of its own of the sectors it is shown
(`HostCopy`).  It learns the contents only when the drive shows itself at first and when an
attempt to unlock may have changed them; every other change it makes by itself, from the
sectors it has sent.  `HostRun` lets it follow an orderly run of the firmware, interrupts
and steps of `main` in any order.

`Agrees` says what the host may rely on.  Between two commands the drive shows exactly the
host's copy; a READ(10) sends the sectors of the copy, in order and nothing else; a
WRITE(10) changes what the drive shows by exactly the sectors stored so far, all of them
if the CSW reports success, and nothing outside its range even if the card fails on it.
While the drive is locked, what it stores is what the host has sent with bytes blanked
out.  `BlockDeviceRun.lean` proves it of every run.
-/
import PhantomDrive.Target
import PhantomDrive.Volume
import PhantomDrive.Acceptance

namespace PhantomDrive

/-! ### What the host is shown -/

/-- The sectors the host is shown: the decoy, or the decrypted rest of the card. -/
def Drive.exposed (dev : Device) (d : Drive) : ℕ → Sector :=
  if d.phantom.isLocked then d.card else d.volume dev

/-- How many sectors the host may use. -/
def Device.exposedSectors (dev : Device) (locked : Bool) : ℕ :=
  if locked then dev.lockedSectors.toNat else dev.emmcSecNum.toNat - dev.lockedSectors.toNat

/-- A sector that was sent, and the same sector as it is kept: while locked, with bytes blanked
out. -/
def KeptAs (locked : Bool) (sent kept : Sector) : Prop :=
  if locked then ∀ i, kept i = sent i ∨ kept i = 0 else kept = sent

/-! ### The host's copy -/

structure HostCopy where
  /-- The sectors, as the host expects to be shown them. -/
  array : ℕ → Sector
  /-- The sectors sent for the command in progress. -/
  sent : List Sector
  /-- Those of them that are stored, as they are kept. -/
  kept : List Sector

/-- A command with its signature whose CSW the host has not taken. -/
def Exchange.inProgress (x : Exchange) : Bool := x.outstanding && x.cbw.validSignature

/-- The sectors of a pass of the write loop. -/
def passSectors (io : ChunkIo) (stream : WriteStream) (d : Drive) : List Sector :=
  receiveChunkUsb2 d.rxBuff stream.firstPacket stream.chunkSectors io.packets

/-- The sectors of a pass as they are kept. -/
def passKept (io : ChunkIo) (stream : WriteStream) (d : Drive) : List Sector :=
  let buf := passSectors io stream d
  if d.phantom.isLocked then
    sectorsOfBytes buf.length (phantomdriveSnoopWrite io.now (chunkBytes buf) stream.lba d.phantom).1
  else buf

namespace HostCopy

/-- A pass: the packets that come in during it, and what is stored. -/
def pass (dev : Device) (io : ChunkIo) (stream : WriteStream) (d : Drive) (h : HostCopy) : HostCopy :=
  if stream.sectorsLeft = 0 then h
  else
    { h with
      sent := h.sent ++ (passSectors io stream d).drop (if stream.firstPacket then 1 else 0)
      kept := if (writeIter dev io stream d).1 then h.kept ++ passKept io stream d else h.kept }

/-- The host takes the CSW: a write that has not failed has changed its range; behind one that has,
the sectors are what they are. -/
def settled (dev : Device) (x : Exchange) (d : Drive) (h : HostCopy) : ℕ → Sector :=
  if x.inProgress && x.dataPhase dev = .write then
    if x.failed then d.exposed dev else Card.write h.array x.cbw.lba.toNat h.kept
  else h.array

/-- How the host keeps its copy. -/
def note (dev : Device) (h : HostCopy) (t : Session) : Event → HostCopy
  | .bulkOut packet =>
      if t.sys.usbIrq then
        if t.sys.drive.bot.transferFlags.dataOut then
          { h with sent := h.sent
              ++ [(fun i : Fin 512 => packet.getD i (t.sys.drive.rxBuff i) : Sector)] }
        else if packet.length = 31 then { h with sent := [], kept := [] }
        else h
      else h
  | .bulkIn =>
      if t.sys.usbIrq && t.exchange.outstanding && t.sys.drive.bot.sendsCsw then
        { h with array := h.settled dev t.exchange t.sys.drive }
      else h
  | .main io =>
      match t.sys.pc with
      | .writeRun stream => h.pass dev io.chunk stream t.sys.drive
      | .pollUnlock =>
          if t.exchange.inProgress || !t.sys.drive.phantom.unlockPending then h
          else { h with array := (step dev t.sys (.main io)).drive.exposed dev }
      | _ => h

end HostCopy

/-- The firmware, its observer and the host. -/
structure HostRun where
  session : Session
  copy : HostCopy

def HostRun.init (dev : Device) (card : Card) : HostRun where
  session := .init dev card
  copy := ⟨(Sys.init dev card).drive.exposed dev, [], []⟩

def HostRun.step (dev : Device) (w : HostRun) (e : Event) : HostRun where
  session := w.session.step dev e
  copy := w.copy.note dev w.session e

/-! ### The condition -/

/-- The command stays within what the host is shown: a READ(10) of at least one sector, and no
data-out phase of sectors but that of a WRITE. -/
def Exchange.InReach (dev : Device) (x : Exchange) : Prop :=
  (x.dataPhase dev = .read →
      0 < x.cbw.deviceSectors
        ∧ x.cbw.lba.toNat + x.cbw.deviceSectors ≤ dev.exposedSectors x.locked)
    ∧ (x.dataPhase dev = .write → x.cbw.deviceSectors ≠ 0 →
        x.cbw.command.isWrite = true
          ∧ x.cbw.lba.toNat + x.cbw.deviceSectors ≤ dev.exposedSectors x.locked)

/-- The condition on an event of the run. -/
def WithinReach (dev : Device) (w : HostRun) (e : Event) : Prop :=
  Orderly w.session e ∧ CbwMeets (Exchange.InReach dev) w.session e

instance (t : Session) : ∀ e, Decidable (Serial t e)
  | .bulkOut packet =>
      inferInstanceAs (Decidable (t.sys.usbIrq = true →
        if t.sys.drive.bot.transferFlags.dataOut then
          t.sys.drive.bot.writePending = false ∧ t.sys.pc.inWrite = false
        else packet.length = 31 → t.exchange.outstanding = false))
  | .bulkIn => inferInstanceAs (Decidable (t.sys.usbIrq = true → t.sys.drive.bot.txCtrl ≠ .nak))
  | .main _ => .isTrue trivial

instance (t : Session) : ∀ e, Decidable (ClearOfUpdate t e)
  | .bulkOut packet =>
      inferInstanceAs (Decidable (t.sys.TakesCbw packet → t.sys.pc.clearsDataIn = false))
  | .bulkIn | .main _ => .isTrue trivial

instance (t : Session) (e : Event) : Decidable (Orderly t e) :=
  inferInstanceAs (Decidable (_ ∧ _))

instance (dev : Device) (x : Exchange) : Decidable (x.InReach dev) :=
  inferInstanceAs (Decidable (_ ∧ _))

instance (dev : Device) (t : Session) : ∀ e, Decidable (CbwMeets (Exchange.InReach dev) t e)
  | .bulkOut packet =>
      inferInstanceAs (Decidable (t.sys.TakesCbw packet →
        (Exchange.begin t.sys (.ofPacket packet)).InReach dev))
  | .bulkIn | .main _ => .isTrue trivial

instance (dev : Device) (w : HostRun) (e : Event) : Decidable (WithinReach dev w e) :=
  inferInstanceAs (Decidable (_ ∧ _))

/-! ### What the drive shows -/

/-- The packets of a READ(10) of an array. -/
def readPackets (array : ℕ → Sector) (cmd : BulkOnlyCmd) : List InPacket :=
  (List.range cmd.deviceSectors).map fun i => .data (List.ofFn (array (cmd.lba.toNat + i)))

/-- The whole READ(10) is sent, the CSW behind it or not yet. -/
def ReadSent (array : ℕ → Sector) (cmd : BulkOnlyCmd) (packets : List InPacket) : Prop :=
  packets = readPackets array cmd ∨ ∃ csw, packets = readPackets array cmd ++ [.csw csw]

/-- What is stored of a WRITE that has not failed: the drive shows the array with the sectors kept
so far, and these are what was sent. -/
structure Stored (shown : ℕ → Sector) (h : HostCopy) (x : Exchange) : Prop where
  shown : shown = Card.write h.array x.cbw.lba.toNat h.kept
  kept : h.kept.length = x.stored
  sent : h.sent.length = x.received
  keptAs : List.Forall₂ (KeptAs x.locked) (h.sent.take x.stored) h.kept

/-- The drive and the host's copy agree. -/
structure Agrees (dev : Device) (w : HostRun) : Prop where
  unwritten : w.session.exchange.inProgress = false ∨ w.session.exchange.dataPhase dev ≠ .write →
    w.session.sys.drive.exposed dev = w.copy.array
  read : w.session.exchange.inProgress = true → w.session.exchange.dataPhase dev = .read →
    w.session.exchange.packets w.session.sys.drive.bot = []
      ∨ ReadSent w.copy.array w.session.exchange.cbw
          (w.session.exchange.packets w.session.sys.drive.bot)
  stored : w.session.exchange.inProgress = true → w.session.exchange.dataPhase dev = .write →
    w.session.exchange.failed = false →
      Stored (w.session.sys.drive.exposed dev) w.copy w.session.exchange
  /-- A CSW that reports success. -/
  whole : w.session.exchange.inProgress = true → w.session.exchange.dataPhase dev = .write →
    ∀ tag, w.session.sys.drive.bot.txCtrl = .ack →
      w.session.sys.drive.bot.txBuff = .csw (cswBytes tag .passed) →
        w.session.exchange.failed = false
          ∧ w.copy.kept.length = w.session.exchange.cbw.deviceSectors
  spared : w.session.exchange.inProgress = true → w.session.exchange.dataPhase dev = .write →
    ∀ s, s < w.session.exchange.cbw.lba.toNat
        ∨ w.session.exchange.cbw.lba.toNat + w.session.exchange.cbw.deviceSectors ≤ s →
      w.session.sys.drive.exposed dev s = w.copy.array s

/-! ### What is kept of a sector -/

/-- A byte of a buffer of sectors. -/
theorem getD_chunkBytes {buf : List Sector} {k : ℕ} (hk : k < buf.length) (i : Fin 512) :
    (chunkBytes buf).getD (512 * k + i) 0 = buf[k] i := by
  induction buf generalizing k with
  | nil => cases hk
  | cons sector rest ih =>
    have hlen : (List.ofFn sector).length = 512 := List.length_ofFn
    show (List.ofFn sector ++ chunkBytes rest).getD (512 * k + i) 0 = _
    cases k with
    | zero =>
      rw [List.getD_append _ _ _ _ (by omega), List.getD_eq_getElem _ _ (by omega),
        List.getElem_ofFn]
      exact congrArg sector (Fin.ext (by simp))
    | succ k =>
      have hindex : 512 * (k + 1) + i.val - 512 = 512 * k + i := by omega
      rw [List.getD_append_right _ _ _ _ (by omega), hlen, hindex]
      exact ih (Nat.lt_of_succ_lt_succ hk)

/-- Sectors whose bytes are kept or blanked. -/
theorem keptAs_sectorsOfBytes {buf : List Sector} {out : List UInt8}
    (h : List.Forall₂ (fun c d => d = c ∨ d = 0) (chunkBytes buf) out) :
    List.Forall₂ (KeptAs true) buf (sectorsOfBytes buf.length out) := by
  rw [List.forall₂_iff_get]
  refine ⟨(length_sectorsOfBytes ..).symm, fun k hk _ i => ?_⟩
  have hlen := length_chunkBytes buf
  have hindex : 512 * k + i.val < (chunkBytes buf).length := by omega
  have hout : 512 * k + i.val < out.length := h.length_eq ▸ hindex
  have hbyte := (List.forall₂_iff_get.mp h).2 (512 * k + i) hindex hout
  have hkept : (sectorsOfBytes buf.length out).get ⟨k, by simpa using hk⟩ i
      = out.getD (512 * k + i) 0 := by
    simp [sectorsOfBytes]
  rw [List.get_eq_getElem, List.get_eq_getElem] at hbyte
  rw [hkept, List.getD_eq_getElem _ _ hout]
  refine hbyte.imp_left fun hsame => ?_
  rw [hsame, List.get_eq_getElem, ← getD_chunkBytes hk i, List.getD_eq_getElem _ _ hindex]

/-- **What is kept of a pass** is what was sent, with bytes blanked out while locked. -/
theorem passKept_keptAs (io : ChunkIo) (stream : WriteStream) {d : Drive}
    (hmatch : d.phantom.prefixMatchLen < 9) :
    List.Forall₂ (KeptAs d.phantom.isLocked) (passSectors io stream d) (passKept io stream d) := by
  unfold passKept
  dsimp only
  rcases d.phantom.isLocked with - | -
  · rw [if_neg Bool.false_ne_true]
    exact List.forall₂_same.mpr fun _ _ => rfl
  · rw [if_pos rfl]
    apply keptAs_sectorsOfBytes
    rw [(phantomdriveSnoopWrite_scans io.now stream.lba _ hmatch).1]
    exact passwordMarker.output_forall₂ _ _

theorem length_passSectors (io : ChunkIo) (stream : WriteStream) (d : Drive) :
    (passSectors io stream d).length = stream.chunkSectors := length_receiveChunkUsb2 ..

theorem length_passKept (io : ChunkIo) (stream : WriteStream) (d : Drive) :
    (passKept io stream d).length = stream.chunkSectors := by
  unfold passKept
  split
  · rw [length_sectorsOfBytes, length_passSectors]
  · exact length_passSectors io stream d

/-! ### What a pass shows -/

section Pass

variable {dev : Device} {io : ChunkIo} {stream : WriteStream} {d : Drive}

/-- What is shown depends on the card, the keys and the lock. -/
theorem exposed_congr {d' : Drive} (hcard : d'.card = d.card) (hkeys : d'.keys = d.keys)
    (hlock : d'.phantom.isLocked = d.phantom.isLocked) : d'.exposed dev = d.exposed dev := by
  unfold Drive.exposed
  rw [hcard, hlock, volume_congr hcard hkeys]

/-- The chunk lies within what the host is shown. -/
def WriteStream.InReach (dev : Device) (stream : WriteStream) (locked : Bool) : Prop :=
  stream.lba.toNat + stream.chunkSectors ≤ dev.exposedSectors locked

/-- The physical sectors of a chunk within reach follow each other. -/
theorem WriteStream.InReach.toNat_chunkLba (h : stream.InReach dev d.phantom.isLocked)
    (hpos : 0 < stream.chunkSectors) :
    (chunkLba dev stream d).toNat
      = stream.lba.toNat + if d.phantom.isLocked then 0 else dev.lockedSectors.toNat := by
  have hsec := dev.emmcSecNum.toNat_lt
  unfold WriteStream.InReach Device.exposedSectors at h
  unfold chunkLba
  rcases hlocked : d.phantom.isLocked with - | -
  · rw [hlocked, if_neg Bool.false_ne_true] at h
    rw [toNat_unlockedLba, if_neg Bool.false_ne_true, Nat.mod_eq_of_lt (by omega)]
  · rfl

/-- **A chunk that is stored** is written where the host is shown it. -/
theorem exposed_of_stored (h : stream.InReach dev d.phantom.isLocked)
    (hpos : 0 < stream.chunkSectors) (hok : io.outcome.ok = true) :
    (handedChunk dev io stream d).exposed dev
      = Card.write (d.exposed dev) stream.lba.toNat (passKept io stream d) := by
  have hlba := h.toNat_chunkLba hpos
  have hlock : (handedChunk dev io stream d).phantom.isLocked = d.phantom.isLocked :=
    handedChunk_isLocked dev io stream d
  have hcard : (handedChunk dev io stream d).card
      = d.card.write (chunkLba dev stream d).toNat (chunkData dev io stream d) := by
    cases hout : io.outcome with
    | success => rw [handedChunk, hout, Card.attempt]
    | failure left =>
      rw [hout] at hok
      cases hok
  unfold Drive.exposed passKept
  dsimp only
  rw [hlock]
  rcases hlocked : d.phantom.isLocked with - | -
  · rw [hlocked, if_neg Bool.false_ne_true] at hlba
    rw [if_neg Bool.false_ne_true, if_neg Bool.false_ne_true, if_neg Bool.false_ne_true]
    refine volume_write ?_ rfl
    rw [hcard, hlba, chunkData, hlocked]
    rfl
  · rw [hlocked, if_pos rfl, Nat.add_zero] at hlba
    rw [if_pos rfl, if_pos rfl, if_pos rfl, hcard, hlba, chunkData, hlocked]
    rfl

/-- Whatever the card does with a chunk, the host is shown the rest as it was. -/
theorem exposed_outside (h : stream.InReach dev d.phantom.isLocked)
    (hpos : 0 < stream.chunkSectors) {s : ℕ}
    (hs : s < stream.lba.toNat ∨ stream.lba.toNat + stream.chunkSectors ≤ s) :
    (handedChunk dev io stream d).exposed dev s = d.exposed dev s := by
  have hlba := h.toNat_chunkLba hpos
  have hlock : (handedChunk dev io stream d).phantom.isLocked = d.phantom.isLocked :=
    handedChunk_isLocked dev io stream d
  have hcard : ∀ k, k < (chunkLba dev stream d).toNat
      ∨ (chunkLba dev stream d).toNat + stream.chunkSectors ≤ k →
      (handedChunk dev io stream d).card k = d.card k := by
    intro k hk
    refine Card.attempt_outside ?_
    rw [length_chunkData]
    omega
  unfold Drive.exposed
  rw [hlock]
  rcases hlocked : d.phantom.isLocked with - | -
  · rw [hlocked, if_neg Bool.false_ne_true] at hlba
    rw [if_neg Bool.false_ne_true, if_neg Bool.false_ne_true]
    unfold Drive.volume
    rw [hcard _ (by omega)]
    rfl
  · rw [hlocked, if_pos rfl, Nat.add_zero] at hlba
    rw [if_pos rfl, if_pos rfl]
    exact hcard s (by omega)

/-- **A pass** stores its chunk, or fails and changes nothing outside it. -/
theorem writeIter_exposed (io : ChunkIo) (h : stream.InReach dev d.phantom.isLocked)
    (hpos : 0 < stream.sectorsLeft) :
    (writeIter dev io stream d).1 = true
        ∧ (writeIter dev io stream d).2.exposed dev
          = Card.write (d.exposed dev) stream.lba.toNat (passKept io stream d)
      ∨ (writeIter dev io stream d).1 = false
        ∧ ∀ s, s < stream.lba.toNat ∨ stream.lba.toNat + stream.chunkSectors ≤ s →
          (writeIter dev io stream d).2.exposed dev s = d.exposed dev s := by
  have hchunk := (WriteStream.chunkSectors_pos hpos).1
  rcases hcard : dev.outOfCard (chunkLba dev stream d) stream.chunkSectors with - | -
  · rw [writeIter_of_inCard hpos hcard]
    rcases hok : io.outcome.ok with - | -
    · refine Or.inr ⟨rfl, fun s hs => ?_⟩
      rw [if_neg Bool.false_ne_true]
      exact exposed_outside h hchunk hs
    · refine Or.inl ⟨rfl, ?_⟩
      rw [if_pos rfl]
      exact exposed_of_stored h hchunk hok
  · rw [writeIter_of_outOfCard hpos hcard]
    refine Or.inr ⟨rfl, fun s _ => ?_⟩
    refine congrFun (exposed_congr ?_ ?_ ?_) s
    · rfl
    · rfl
    · exact chunkPhantom_isLocked io stream d

end Pass

/-! ### What leaves the sectors alone -/

section Frame

variable {dev : Device} {s : Sys}

/-- **Outside the write loop and an attempt to unlock**, `main` works on the transport layer. -/
theorem mainStep_bot (dev : Device) (io : MainIo) (hrun : ∀ stream, s.pc ≠ .writeRun stream)
    (hbusy : s.pc = .pollUnlock → s.drive.phantom.unlockPending = true → ¬ s.drive.bot.Idle) :
    ∃ bot log, (mainStep dev io s).drive = { s.drive with bot := bot, log := log } := by
  cases hpc : s.pc with
  | readRun preqnum actualLba =>
    simp only [mainStep, hpc]
    rcases readRun_cases dev io preqnum actualLba s with h | ⟨packets, h⟩
    · rw [h]
      exact ⟨_, _, rfl⟩
    · rw [h]
      exact ⟨_, _, rfl⟩
  | csw stage caller =>
    cases stage
    case ack =>
      cases caller
      all_goals
        simp only [mainStep, hpc]
        exact ⟨_, _, rfl⟩
    all_goals
      simp only [mainStep, hpc]
      exact ⟨_, _, rfl⟩
  | writeRun stream => exact absurd hpc (hrun stream)
  | pollUnlock =>
    simp only [mainStep, hpc]
    rcases pollUnlock_cases dev io s with h | ⟨hpending, h⟩
    · rw [h]
      exact ⟨_, _, rfl⟩
    · rw [h, phantomdriveTryUnlock_busy dev io.unlock (hbusy hpc hpending)]
      exact ⟨_, _, rfl⟩
  | _ =>
    simp only [mainStep, hpc]
    exact ⟨_, _, rfl⟩

end Frame

end PhantomDrive
