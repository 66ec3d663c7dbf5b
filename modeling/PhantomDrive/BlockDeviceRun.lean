/-
PhantomDrive/BlockDeviceRun.lean

Every orderly run within reach agrees with the host's copy.

`Follows` is the invariant.  There is one lemma for each kind of event: an IN completion
(the host takes the CSW, or nothing it depends on moves), an OUT packet (a CBW, the first
data packet, or one that is dropped), a pass of the write loop, an attempt to unlock, and
any other step of `main`.

Main result: `blockDevice_run`.
-/
import PhantomDrive.BlockDevice
import PhantomDrive.HostLength

namespace PhantomDrive

/-! ### A read -/

/-- Where a READ(10) takes its sectors from, until they are sent. -/
def Exchange.ReadsFrom (dev : Device) (array : ℕ → Sector) (x : Exchange) (b : Bot) :
    MainPc → Prop
  | .readStart _ actualLba | .readRun _ actualLba =>
      x.packets b = [] ∧ actualLba = computePhysicalLba dev x.locked x.cbw.lba
  | _ => x.packets b = [] ∧ b.currentLba = x.cbw.lba ∨ ReadSent array x.cbw (x.packets b)

section Read

variable {dev : Device} {array : ℕ → Sector} {x : Exchange} {b : Bot} {pc : MainPc}

theorem readPackets_ne_nil {cmd : BulkOnlyCmd} (hpos : 0 < cmd.deviceSectors) :
    readPackets array cmd ≠ [] := by
  intro hnil
  have hlen := congrArg List.length hnil
  rw [readPackets, List.length_map, List.length_range, List.length_nil] at hlen
  omega

theorem ReadSent.ne_nil {cmd : BulkOnlyCmd} {packets : List InPacket}
    (h : ReadSent array cmd packets) (hpos : 0 < cmd.deviceSectors) : packets ≠ [] := by
  rcases h with h | ⟨csw, h⟩
  · rw [h]
    exact readPackets_ne_nil hpos
  · rw [h]
    exact List.append_ne_nil_of_right_ne_nil _ (List.cons_ne_nil _ _)

/-- Without a CSW, what is sent is the data. -/
theorem ReadSent.of_datas {cmd : BulkOnlyCmd} {datas : List (List UInt8)}
    (h : ReadSent array cmd (datas.map .data)) : datas.map .data = readPackets array cmd := by
  rcases h with h | ⟨csw, h⟩
  · exact h
  · have hmem : InPacket.csw csw ∈ datas.map InPacket.data := by
      rw [h]
      exact List.mem_append_right _ (List.mem_singleton_self _)
    obtain ⟨bytes, -, hbytes⟩ := List.mem_map.mp hmem
    exact InPacket.noConfusion hbytes

/-- Where `main` has nothing to do with the target. -/
theorem Exchange.readsFrom_of_settled (hpc : pc.settled = true) :
    x.ReadsFrom dev array b pc
      ↔ x.packets b = [] ∧ b.currentLba = x.cbw.lba ∨ ReadSent array x.cbw (x.packets b) := by
  cases pc with
  | readStart n a => cases hpc
  | readRun n a => cases hpc
  | _ => exact Iff.rfl

/-- A read that has sent nothing yet still has its target. -/
theorem ReadSent.lba_of_nil {cmd : BulkOnlyCmd} {packets : List InPacket} {lba : UInt32}
    (hpos : 0 < cmd.deviceSectors) (hnone : packets = [])
    (h : packets = [] ∧ lba = cmd.lba ∨ ReadSent array cmd packets) : lba = cmd.lba := by
  rcases h with h | h
  · exact h.2
  · exact absurd hnone (h.ne_nil hpos)

/-- Whatever a read stands at, it has sent nothing or everything. -/
theorem Exchange.ReadsFrom.sent (h : x.ReadsFrom dev array b pc) :
    x.packets b = [] ∨ ReadSent array x.cbw (x.packets b) := by
  cases pc with
  | readStart n a => exact Or.inl h.1
  | readRun n a => exact Or.inl h.1
  | _ => exact h.imp_left And.left

end Read

/-- **The read loops** send the sectors the host is shown. -/
theorem readRun_exposed {dev : Device} (io : MainIo) {n : ℕ} {lba : UInt32} {s : Sys}
    (hpos : 0 < n)
    (hreach : lba.toNat + n ≤ dev.exposedSectors s.drive.phantom.isLocked) :
    readRun dev io n (computePhysicalLba dev s.drive.phantom.isLocked lba) s = s
      ∨ ∃ tx, readRun dev io n (computePhysicalLba dev s.drive.phantom.isLocked lba) s
        = { s with
            drive := { s.drive with
              bot := { s.drive.bot with
                queued := s.drive.bot.queued ++ (List.range n).map fun i =>
                  .data (List.ofFn (s.drive.exposed dev (lba.toNat + i)))
                txCtrl := tx } }
            usbIrq := true
            pc := .readAdvanceLoad n } := by
  have hplain : ∀ i, (s.drive.readRequest dev
      (computePhysicalLba dev s.drive.phantom.isLocked lba) n).plain i
        = s.drive.exposed dev (lba.toNat + i) := by
    intro i
    have hsec := dev.emmcSecNum.toNat_lt
    unfold Device.exposedSectors at hreach
    unfold Drive.exposed
    rcases hlocked : s.drive.phantom.isLocked with - | -
    · rw [hlocked, if_neg Bool.false_ne_true] at hreach
      rw [if_neg Bool.false_ne_true, plain_eq_volume hlocked (by omega)]
    · rw [if_pos rfl]
      unfold ReadRequest.plain Drive.readRequest computePhysicalLba
      dsimp only
      rw [hlocked]
      rfl
  unfold readRun
  dsimp only
  rcases hleft : (finishReadStream dev io.read
      (computePhysicalLba dev s.drive.phantom.isLocked lba) n s.drive).2 with - | -
  · exact Or.inl (if_neg Bool.false_ne_true)
  · rw [if_pos rfl, finishReadStream_of_returns hpos hleft]
    simp only [hplain]
    exact Or.inr ⟨_, rfl⟩

/-! ### The invariant -/

/-- The host's copy follows the run. -/
structure Follows (dev : Device) (t : Session) (h : HostCopy) : Prop where
  phase : t.InPhase dev
  reach : t.exchange.InReach dev
  matching : t.sys.drive.phantom.prefixMatchLen < 9
  locked : t.exchange.inProgress = true → t.exchange.locked = t.sys.drive.phantom.isLocked
  unwritten : t.exchange.inProgress = false ∨ t.exchange.dataPhase dev ≠ .write →
    t.sys.drive.exposed dev = h.array
  read : t.exchange.inProgress = true → t.exchange.dataPhase dev = .read →
    t.exchange.ReadsFrom dev h.array t.sys.drive.bot t.sys.pc
  stored : t.exchange.inProgress = true → t.exchange.dataPhase dev = .write →
    t.exchange.failed = false → Stored (t.sys.drive.exposed dev) h t.exchange
  /-- The first packet of a write waits in `endp1Rbuff`. -/
  first : t.exchange.inProgress = true → t.exchange.dataPhase dev = .write →
    t.exchange.failed = false → t.exchange.stored < t.exchange.cbw.deviceSectors →
      t.exchange.stored = 0 → t.exchange.received = 1 → h.sent = [t.sys.drive.rxBuff]
  spared : t.exchange.inProgress = true → t.exchange.dataPhase dev = .write →
    ∀ s, s < t.exchange.cbw.lba.toNat
        ∨ t.exchange.cbw.lba.toNat + t.exchange.cbw.deviceSectors ≤ s →
      t.sys.drive.exposed dev s = h.array s

section Invariant

variable {dev : Device} {t t' : Session} {h : HostCopy}

theorem Exchange.inProgress_iff {x : Exchange} :
    x.inProgress = true ↔ x.outstanding = true ∧ x.cbw.validSignature = true := by
  rw [Exchange.inProgress, Bool.and_eq_true]

/-- What a CBW fixes decides whether its command is within reach. -/
theorem inReach_same {x x' : Exchange} (hsame : SameCbw x x') (h : x.InReach dev) :
    x'.InReach dev := by
  unfold Exchange.InReach
  rw [hsame.dataPhase, hsame.cbw, hsame.locked]
  exact h

/-- **The frame rule.**  An event that changes neither the exchange nor the sectors, and no first
packet that waits. -/
theorem Follows.carry (hf : Follows dev t h) (hphase : t'.InPhase dev)
    (hsame : t'.exchange = t.exchange) (hcard : t'.sys.drive.card = t.sys.drive.card)
    (hkeys : t'.sys.drive.keys = t.sys.drive.keys)
    (hphantom : t'.sys.drive.phantom = t.sys.drive.phantom)
    (hfirst : t'.sys.drive.rxBuff = t.sys.drive.rxBuff
      ∨ (t.exchange.inProgress = true → t.exchange.dataPhase dev = .write →
        t.exchange.WriteEnded))
    (hread : t.exchange.inProgress = true → t.exchange.dataPhase dev = .read →
      t.exchange.ReadsFrom dev h.array t'.sys.drive.bot t'.sys.pc) : Follows dev t' h := by
  have hshown : t'.sys.drive.exposed dev = t.sys.drive.exposed dev :=
    exposed_congr hcard hkeys (congrArg Phantom.isLocked hphantom)
  refine ⟨hphase, hsame ▸ hf.reach, hphantom ▸ hf.matching, ?_, ?_, ?_, ?_, ?_, ?_⟩
  all_goals
    rw [hsame]
  · rw [hphantom]
    exact hf.locked
  · rw [hshown]
    exact hf.unwritten
  · exact hread
  · rw [hshown]
    exact hf.stored
  · intro hin hwrite hok hlt hzero hone
    rcases hfirst with hrx | hended
    · rw [hrx]
      exact hf.first hin hwrite hok hlt hzero hone
    · rcases hended hin hwrite with ⟨-, hall, -⟩ | ⟨hfailed, -⟩
      · omega
      · exact absurd (hok.symm.trans hfailed) Bool.false_ne_true
  · rw [hshown]
    exact hf.spared

/-- What EP1 IN sends and is no CSW belongs to no READ(10). -/
theorem Ongoing.dataPhase_ne_read {x : Exchange} {b : Bot} {pc : MainPc} (h : Ongoing dev x b pc)
    (hin : x.inProgress = true) (hok : b.txCtrl ≠ .nak) (hsends : b.sendsCsw = false) :
    x.dataPhase dev ≠ .read := by
  intro hread
  obtain ⟨hout, hvalid⟩ := Exchange.inProgress_iff.mp hin
  have hother : ∀ {phase : DataPhase}, x.dataPhase dev = phase → phase ≠ .read → False :=
    fun heq hne => hne (heq.symm.trans hread)
  cases h with
  | idling h => exact Bool.false_ne_true (h.outstanding.symm.trans hout)
  | responding h => exact hother h.dataPhase DataPhase.noConfusion
  | halted h => exact hother h.dataPhase DataPhase.noConfusion
  | reading h => exact hok h.txCtrl
  | awaiting h => exact hok h.txCtrl
  | writing h => exact hok h.txCtrl
  | closing h => exact hok h.txCtrl
  | closed h =>
    rw [Bot.sendsCsw, h.txCtrl, h.txBuff] at hsends
    cases hsends
  | void h => exact Bool.false_ne_true (h.invalid.symm.trans hvalid)

/-- What the host settles on is what the drive shows. -/
theorem Follows.exposed_settled (hf : Follows dev t h) :
    t.sys.drive.exposed dev = h.settled dev t.exchange t.sys.drive := by
  unfold HostCopy.settled
  rcases hin : t.exchange.inProgress with - | -
  · rw [Bool.false_and, if_neg Bool.false_ne_true]
    exact hf.unwritten (Or.inl hin)
  by_cases hwrite : t.exchange.dataPhase dev = .write
  · rw [Bool.true_and, decide_eq_true hwrite, if_pos rfl]
    rcases hfailed : t.exchange.failed with - | -
    · rw [if_neg Bool.false_ne_true]
      exact (hf.stored hin hwrite hfailed).shown
    · rw [if_pos rfl]
  · rw [Bool.true_and, decide_eq_false hwrite, if_neg Bool.false_ne_true]
    exact hf.unwritten (Or.inr hwrite)

/-- **An IN completion.**  When the host takes the CSW, it settles its copy. -/
theorem Follows.bulkIn (hf : Follows dev t h) (hirq : t.sys.usbIrq = true)
    (hok : t.sys.drive.bot.txCtrl ≠ .nak) (hphase : (t.step dev .bulkIn).InPhase dev)
    (hreach : (t.step dev .bulkIn).exchange.InReach dev) :
    Follows dev (t.step dev .bulkIn) (h.note dev t .bulkIn) := by
  have hdrive : (t.step dev .bulkIn).sys.drive = t.sys.drive.bulkIn dev := by
    rw [Session.step_bulkIn hirq]
  have hexchange : (t.step dev .bulkIn).exchange = t.exchange.taken t.sys.drive.bot := by
    rw [Session.step_bulkIn hirq]
    rfl
  rcases htakes : t.exchange.outstanding && t.sys.drive.bot.sendsCsw with - | -
  · -- no CSW is taken: the exchange stays as it is
    have hnote : h.note dev t .bulkIn = h := by
      unfold HostCopy.note
      dsimp only
      rw [Bool.and_assoc, htakes, Bool.and_false, if_neg Bool.false_ne_true]
    have hsame : (t.step dev .bulkIn).exchange = t.exchange := by
      rw [hexchange, Exchange.taken]
      rcases hout : t.exchange.outstanding with - | -
      · rw [Bool.false_and, ← hout]
      · rw [hout, Bool.true_and] at htakes
        rw [htakes, Bool.not_false, Bool.and_true, ← hout]
    rw [hnote]
    refine hf.carry hphase hsame (by rw [hdrive]; rfl) (by rw [hdrive]; rfl) (by rw [hdrive]; rfl)
      (Or.inl (by rw [hdrive]; rfl)) fun hin hread => ?_
    rw [(Exchange.inProgress_iff.mp hin).1, Bool.true_and] at htakes
    exact absurd hread (Ongoing.dataPhase_ne_read hf.phase hin hok htakes)
  · -- the CSW is taken
    obtain ⟨hout, hsends⟩ := Bool.and_eq_true_iff.mp htakes
    have hnote : h.note dev t .bulkIn
        = { h with array := h.settled dev t.exchange t.sys.drive } := by
      unfold HostCopy.note
      dsimp only
      rw [Bool.and_assoc, htakes, hirq, Bool.and_self, if_pos rfl]
    have hover : (t.step dev .bulkIn).exchange.inProgress = false := by
      rw [hexchange, Exchange.inProgress, Exchange.taken, hsends, Bool.not_true, Bool.and_false,
        Bool.false_and]
    have hnot : ∀ {P : Prop}, (t.step dev .bulkIn).exchange.inProgress = true → P := fun hin =>
      absurd (hover.symm.trans hin) Bool.false_ne_true
    have hshown : (t.step dev .bulkIn).sys.drive.exposed dev = t.sys.drive.exposed dev := by
      rw [hdrive]
      exact exposed_congr rfl rfl rfl
    rw [hnote]
    refine ⟨hphase, hreach, ?_, hnot, fun _ => ?_, hnot, hnot, hnot, hnot⟩
    · rw [hdrive]
      exact hf.matching
    · exact hshown.trans hf.exposed_settled

/-- The chunk of a pass lies behind what was stored, within what the host is shown. -/
theorem StreamAt.withinReach {x : Exchange} {stream : WriteStream} (hstream : StreamAt x stream)
    (hreach : x.InReach dev) (hwrite : x.dataPhase dev = .write)
    (hpos : 0 < stream.sectorsLeft) :
    stream.lba.toNat = x.cbw.lba.toNat + x.stored ∧ stream.InReach dev x.locked
      ∧ x.stored + stream.chunkSectors ≤ x.cbw.deviceSectors := by
  have hle := (WriteStream.chunkSectors_pos hpos).2.1
  have hsectors := hstream.sectors
  obtain ⟨hcommand, hrange⟩ := hreach.2 hwrite (by omega)
  obtain ⟨lba, htarget, hlba⟩ := hstream.lba
  rw [htarget (ScsiCommand.isRw10_of_isWrite hcommand)] at hlba
  have hbound : dev.exposedSectors x.locked < 2 ^ 32 := by
    have hlocked := dev.lockedSectors.toNat_lt
    have hsec := dev.emmcSecNum.toNat_lt
    unfold Device.exposedSectors
    split
    · exact hlocked
    · omega
  have hstart : stream.lba.toNat = x.cbw.lba.toNat + x.stored := by
    rw [hlba, toNat_add_ofNat (by omega)]
  refine ⟨hstart, ?_, by omega⟩
  unfold WriteStream.InReach
  omega

/-- What has come in with a pass: the sectors stored before, and those of the pass. -/
theorem StreamAt.sent {x : Exchange} {stream : WriteStream} {d : Drive} {sent : List Sector}
    (hstream : StreamAt x stream) (io : ChunkIo) (hpos : 0 < stream.sectorsLeft)
    (hsent : sent.length = x.received)
    (hfirst : x.stored = 0 → x.received = 1 → sent = [d.rxBuff]) :
    sent ++ (passSectors io stream d).drop (if stream.firstPacket then 1 else 0)
      = sent.take x.stored ++ passSectors io stream d := by
  rcases hpacket : stream.firstPacket with - | -
  · have hlater := hstream.later hpacket
    rw [if_neg Bool.false_ne_true, List.drop_zero, List.take_of_length_le (by omega)]
  · -- the first packet of the pass is the one that waits
    obtain ⟨hzero, hone⟩ := hstream.first hpacket
    obtain ⟨n, hn⟩ := Nat.exists_eq_succ_of_ne_zero (WriteStream.chunkSectors_pos hpos).1.ne'
    have hpass : passSectors io stream d
        = d.rxBuff :: (List.range n).map fun k => io.packets (k + 1) := by
      rw [passSectors, receiveChunkUsb2, hn, hpacket, List.range_succ_eq_map, List.map_cons,
        List.map_map]
      rfl
    rw [hfirst hzero hone, hzero, if_pos rfl, hpass]
    rfl

/-- A pass whose chunk is stored. -/
theorem Stored.pass {x : Exchange} {stream : WriteStream} {d : Drive} {shown : ℕ → Sector}
    (hstored : Stored shown h x) (hstream : StreamAt x stream) (io : ChunkIo)
    (hpos : 0 < stream.sectorsLeft) (hmatch : d.phantom.prefixMatchLen < 9)
    (hlocked : x.locked = d.phantom.isLocked)
    (hfirst : x.stored = 0 → x.received = 1 → h.sent = [d.rxBuff]) :
    Stored (Card.write shown (x.cbw.lba.toNat + x.stored) (passKept io stream d))
      { h with
        sent := h.sent ++ (passSectors io stream d).drop (if stream.firstPacket then 1 else 0)
        kept := h.kept ++ passKept io stream d }
      { x with
        received := x.received + stream.newPackets
        stored := x.stored + stream.chunkSectors } := by
  have hlen := hstored.sent
  have hall := hstream.sent io hpos hlen hfirst
  have hlater : x.stored ≤ x.received := by
    rcases hpacket : stream.firstPacket with - | -
    · exact (hstream.later hpacket).2.1.ge
    · exact (hstream.first hpacket).1.le.trans (Nat.zero_le _)
  have hsentLen : (h.sent.take x.stored ++ passSectors io stream d).length
      = x.stored + stream.chunkSectors := by
    rw [List.length_append, List.length_take, length_passSectors, hlen, Nat.min_eq_left hlater]
  constructor
  · dsimp only
    rw [Card.write_append, ← hstored.shown, hstored.kept]
  · dsimp only
    rw [List.length_append, hstored.kept, length_passKept]
  · dsimp only
    rw [hall, hsentLen, (hstream.received hpos).1]
  · dsimp only
    rw [hall, List.take_of_length_le hsentLen.le, hlocked]
    refine List.rel_append (hlocked ▸ hstored.keptAs) (passKept_keptAs io stream hmatch)

/-- **A pass of the write loop.** -/
theorem Follows.pass (hf : Follows dev t h) (io : MainIo) {stream : WriteStream}
    (hpc : t.sys.pc = .writeRun stream) (hphase : (t.step dev (.main io)).InPhase dev)
    (hreach : (t.step dev (.main io)).exchange.InReach dev) :
    Follows dev (t.step dev (.main io)) (h.note dev t (.main io)) := by
  have hongoing : Ongoing dev t.exchange t.sys.drive.bot (.writeRun stream) := hpc ▸ hf.phase
  have hwriting := hongoing.writing_of
  have hwrite := hwriting.dataPhase
  have hin : t.exchange.inProgress = true :=
    Exchange.inProgress_iff.mpr ⟨hwriting.outstanding, hwriting.valid⟩
  have hstream : StreamAt t.exchange stream := hwriting.at_.2.2
  have hsys : (t.step dev (.main io)).sys = writeRun dev io stream t.sys := by
    show mainStep dev io t.sys = _
    simp only [mainStep, hpc]
  have hexchange : (t.step dev (.main io)).exchange
      = t.exchange.pass dev io.chunk stream t.sys.drive := by
    show observe dev t.exchange t.sys (.main io) = _
    unfold observe
    simp only [hpc]
  have hnote : h.note dev t (.main io) = h.pass dev io.chunk stream t.sys.drive := by
    unfold HostCopy.note
    simp only [hpc]
  rcases Nat.eq_zero_or_pos stream.sectorsLeft with hzero | hpos
  · -- the loop is left
    have hsame : (t.step dev (.main io)).exchange = t.exchange := by
      rw [hexchange, Exchange.pass, if_pos hzero]
    have hdrive : (t.step dev (.main io)).sys.drive = t.sys.drive := by
      rw [hsys, writeRun, if_pos hzero]
    rw [hnote, HostCopy.pass, if_pos hzero]
    exact hf.carry hphase hsame (by rw [hdrive]) (by rw [hdrive]) (by rw [hdrive])
      (Or.inl (by rw [hdrive])) fun _ hread =>
        absurd (hwrite.symm.trans hread) DataPhase.noConfusion
  have hzero : ¬ stream.sectorsLeft = 0 := by omega
  have hdrive : (t.step dev (.main io)).sys.drive
      = (writeIter dev io.chunk stream t.sys.drive).2 := by
    rw [hsys, writeRun, if_neg hzero]
    dsimp only
    split
    · rfl
    · rfl
  have hphantom : (t.step dev (.main io)).sys.drive.phantom
      = chunkPhantom io.chunk stream t.sys.drive := by
    rw [hdrive]
    exact (writeIter_effect hpos).phantom
  obtain ⟨hstart, hwithin, hend⟩ := hstream.withinReach hf.reach hwrite hpos
  have hlocked := hf.locked hin
  have hkeep : SameCbw t.exchange (t.step dev (.main io)).exchange := by
    rw [hexchange]
    exact (Exchange.pass_sameCbw ..).1
  have hstill : (t.step dev (.main io)).exchange.inProgress = true := by
    rw [hexchange, ← hin]
    unfold Exchange.pass
    split <;> rfl
  have hok := hstream.failed
  have hfirst := hf.first hin hwrite hok (by
    have hchunk := (WriteStream.chunkSectors_pos hpos).1
    omega)
  have hstored := (hf.stored hin hwrite hok).pass hstream io.chunk hpos hf.matching hlocked hfirst
  have hspared := hf.spared hin hwrite
  rw [hlocked] at hwithin
  refine ⟨hphase, hreach, ?_, ?_, ?_, ?_, ?_, ?_, ?_⟩
  · rw [hphantom]
    unfold chunkPhantom
    split
    · exact (phantomdriveSnoopWrite_scans io.chunk.now stream.lba _ hf.matching).2.match_lt
    · exact hf.matching
  · intro _
    rw [hphantom, chunkPhantom_isLocked, hkeep.locked, hlocked]
  · rintro (hover | hnot)
    · exact absurd (hover.symm.trans hstill) Bool.false_ne_true
    · exact absurd (hkeep.dataPhase.trans hwrite) hnot
  · exact fun _ hread => absurd ((hkeep.dataPhase.trans hwrite).symm.trans hread)
      DataPhase.noConfusion
  all_goals
    rw [hdrive, hexchange, hnote, Exchange.pass, if_neg hzero, HostCopy.pass, if_neg hzero]
    dsimp only
  all_goals
    rcases writeIter_exposed io.chunk hwithin hpos with ⟨hdone, hshown⟩ | ⟨hdone, hshown⟩
    all_goals
      rw [hdone]
  · intro _ _ _
    rw [if_pos rfl, if_pos rfl, hshown, hstart, Bool.not_true, Bool.or_false]
    exact hstored
  · intro _ _ hnot
    rw [Bool.not_false, Bool.or_true] at hnot
    cases hnot
  · intro _ _ _ _ hnone
    have hchunk := (WriteStream.chunkSectors_pos hpos).1
    rw [if_pos rfl] at hnone
    omega
  · intro _ _ hnot
    rw [Bool.not_false, Bool.or_true] at hnot
    cases hnot
  · intro _ _ s hs
    rw [hshown, Card.write_outside (by rw [length_passKept]; omega), hspared s hs]
  · intro _ _ s hs
    rw [hshown s (by omega), hspared s hs]

/-- The drive behind an OUT packet. -/
theorem step_bulkOut_drive (dev : Device) (packet : List UInt8) (hirq : t.sys.usbIrq = true) :
    (t.step dev (.bulkOut packet)).sys.drive = t.sys.drive.bulkOut dev packet
      ∧ (t.step dev (.bulkOut packet)).sys.pc = t.sys.pc := by
  rw [Session.step_bulkOut hirq]
  exact ⟨rfl, rfl⟩

/-- A CBW that is accepted as a READ(10) has its target. -/
theorem Idling.readsFrom {packet : List UInt8} (array : ℕ → Sector)
    (h : Idling dev t.exchange t.sys.drive.bot t.sys.pc) (hsettled : t.sys.pc.settled = true)
    (hout : t.sys.drive.bot.transferFlags.dataOut = false) (hlen : packet.length = 31)
    (hvalid : (BulkOnlyCmd.ofPacket packet).validSignature = true)
    (hread : (Exchange.begin t.sys (.ofPacket packet)).dataPhase dev = .read) :
    (Exchange.begin t.sys (.ofPacket packet)).ReadsFrom dev array
      (t.sys.drive.bulkOut dev packet).bot t.sys.pc := by
  have hbot : (t.sys.drive.bulkOut dev packet).bot
      = botStartCommand dev (scsiDispatchCommand dev t.sys.drive.phantom.isLocked
          (t.sys.drive.bot.beginCbw (.ofPacket packet))) := by
    show botHandleBulkOut dev t.sys.drive.phantom.isLocked packet t.sys.drive.bot = _
    rcases botHandleBulkOut_cases dev t.sys.drive.phantom.isLocked packet t.sys.drive.bot with
      ⟨hyes, -⟩ | ⟨-, hne, -⟩ | ⟨-, -, hinvalid, -⟩ | ⟨-, -, -, heq⟩
    · exact absurd (hout.symm.trans hyes) Bool.false_ne_true
    · exact absurd hlen hne
    · exact absurd (hinvalid.symm.trans hvalid) Bool.false_ne_true
    · exact heq
  have hd := scsiDispatchCommand_dispatched dev t.sys.drive.phantom.isLocked
    (t.sys.drive.bot.beginCbw (.ofPacket packet))
  rw [hbot]
  generalize scsiDispatchCommand dev t.sys.drive.phantom.isLocked
    (t.sys.drive.bot.beginCbw (.ofPacket packet)) = b' at hd
  have hflags := hd.flags h.transferFlags
  rw [hread, DataPhase.flags] at hflags
  have hopcode := (Exchange.isRead10_of_dataPhase hread).1 rfl
  have hstart : botStartCommand dev b' = { b' with readPending := true } := by
    rw [botStartCommand, hflags]
    dsimp only
    rw [if_neg Bool.false_ne_true, if_pos rfl, hd.isRead10.trans hopcode, if_pos rfl]
  rw [hstart, Exchange.readsFrom_of_settled hsettled]
  refine Or.inl ⟨hd.packets, hd.target ?_⟩
  rw [isRead10_eq_command, decide_eq_true_eq] at hopcode
  rw [hopcode]
  rfl

/-- **A CBW.** -/
theorem Follows.cbw (hf : Follows dev t h) {packet : List UInt8} (hirq : t.sys.usbIrq = true)
    (hok : Orderly t (.bulkOut packet)) (hout : t.sys.drive.bot.transferFlags.dataOut = false)
    (hlen : packet.length = 31) (hphase : (t.step dev (.bulkOut packet)).InPhase dev)
    (hreach : (t.step dev (.bulkOut packet)).exchange.InReach dev) :
    Follows dev (t.step dev (.bulkOut packet)) (h.note dev t (.bulkOut packet)) := by
  obtain ⟨hdrive, hpc⟩ := step_bulkOut_drive dev packet hirq
  have hserial := hok.1 hirq
  rw [hout, if_neg Bool.false_ne_true] at hserial
  have hidle : Idling dev t.exchange t.sys.drive.bot t.sys.pc := hf.phase.idling_of (hserial hlen)
  have hexchange : (t.step dev (.bulkOut packet)).exchange
      = .begin t.sys (.ofPacket packet) := by
    rw [Session.step_bulkOut hirq, hout, if_neg Bool.false_ne_true, if_pos hlen]
  have hnote : h.note dev t (.bulkOut packet) = { h with sent := [], kept := [] } := by
    unfold HostCopy.note
    dsimp only
    rw [if_pos hirq, hout, if_neg Bool.false_ne_true, if_pos hlen]
  have hshown : (t.step dev (.bulkOut packet)).sys.drive.exposed dev = h.array := by
    rw [hdrive, ← hf.unwritten (Or.inl (by
      rw [Exchange.inProgress, hidle.outstanding, Bool.false_and]))]
    exact exposed_congr rfl rfl rfl
  rw [hnote]
  refine ⟨hphase, hreach, ?_, ?_, fun _ => hshown, ?_, ?_, ?_, fun _ _ s _ => congrFun hshown s⟩
  · rw [hdrive]
    exact hf.matching
  · rw [hexchange, hdrive]
    exact fun _ => rfl
  · rw [hexchange, hdrive, hpc]
    intro hin hread
    have hvalid : (BulkOnlyCmd.ofPacket packet).validSignature = true :=
      (Exchange.inProgress_iff.mp hin).2
    refine hidle.readsFrom h.array ?_ hout hlen hvalid hread
    have hclear := hok.2 ⟨hirq, hout, hlen⟩
    rcases hidle.pc with hsettled | ⟨-, hpc | hpc⟩
    · exact hsettled
    · rw [hpc] at hclear
      cases hclear
    · rw [hpc] at hclear
      cases hclear
  · intro _ _ _
    rw [hshown, hexchange]
    exact ⟨(Card.write_nil ..).symm, rfl, rfl, .nil⟩
  · rw [hexchange]
    intro _ _ _ _ _ hone
    exact absurd hone Nat.zero_ne_one

/-- **The first data packet of a write.** -/
theorem Follows.data (hf : Follows dev t h) {packet : List UInt8} (hirq : t.sys.usbIrq = true)
    (hok : Orderly t (.bulkOut packet)) (hout : t.sys.drive.bot.transferFlags.dataOut = true)
    (hphase : (t.step dev (.bulkOut packet)).InPhase dev)
    (hreach : (t.step dev (.bulkOut packet)).exchange.InReach dev) :
    Follows dev (t.step dev (.bulkOut packet)) (h.note dev t (.bulkOut packet)) := by
  obtain ⟨hdrive, -⟩ := step_bulkOut_drive dev packet hirq
  have hserial := hok.1 hirq
  rw [if_pos hout] at hserial
  have hawait : Awaiting dev t.exchange t.sys.drive.bot t.sys.pc := by
    rcases hf.phase.dataOut_cases hout with hawait | hwriting
    · exact hawait
    · rcases hwriting.at_.busy with hpending | hbusy
      · exact absurd (hserial.1.symm.trans hpending) Bool.false_ne_true
      · exact absurd (hserial.2.symm.trans hbusy) Bool.false_ne_true
  obtain ⟨hreceived, hnone, hok'⟩ := hawait.untouched
  have hin : t.exchange.inProgress = true :=
    Exchange.inProgress_iff.mpr ⟨hawait.outstanding, hawait.valid⟩
  have hwrite := hawait.dataPhase
  have hexchange : (t.step dev (.bulkOut packet)).exchange
      = { t.exchange with received := t.exchange.received + 1 } := by
    rw [Session.step_bulkOut hirq, if_pos hout]
  have hnote : h.note dev t (.bulkOut packet)
      = { h with sent := h.sent ++ [(t.sys.drive.bulkOut dev packet).rxBuff] } := by
    unfold HostCopy.note
    dsimp only
    rw [if_pos hirq, if_pos hout]
    rfl
  have hshown : (t.step dev (.bulkOut packet)).sys.drive.exposed dev = t.sys.drive.exposed dev := by
    rw [hdrive]
    exact exposed_congr rfl rfl rfl
  have hstored := hf.stored hin hwrite hok'
  rw [hnote]
  refine ⟨hphase, hreach, ?_, ?_, ?_, ?_, ?_, ?_, ?_⟩
  · rw [hdrive]
    exact hf.matching
  · rw [hexchange, hdrive]
    exact hf.locked
  · rw [hexchange]
    rintro (hover | hnot)
    · exact absurd (hover.symm.trans hin) Bool.false_ne_true
    · exact absurd hwrite hnot
  · rw [hexchange]
    exact fun _ hread => absurd (hwrite.symm.trans hread) DataPhase.noConfusion
  · intro _ _ _
    rw [hshown, hexchange]
    refine ⟨hstored.shown, hstored.kept, ?_, ?_⟩
    · dsimp only
      rw [List.length_append, hstored.sent]
      rfl
    · have hkept : h.kept = [] := List.eq_nil_of_length_eq_zero (hstored.kept.trans hnone)
      dsimp only
      rw [hnone, List.take_zero, hkept]
      exact .nil
  · intro _ _ _ _ _ _
    have hsent : h.sent = [] := List.eq_nil_of_length_eq_zero (hstored.sent.trans hreceived)
    dsimp only
    rw [hsent, hdrive]
    rfl
  · rw [hshown, hexchange]
    exact fun _ _ => hf.spared hin hwrite

/-- **An OUT packet.** -/
theorem Follows.bulkOut (hf : Follows dev t h) {packet : List UInt8} (hirq : t.sys.usbIrq = true)
    (hok : Orderly t (.bulkOut packet)) (hphase : (t.step dev (.bulkOut packet)).InPhase dev)
    (hreach : (t.step dev (.bulkOut packet)).exchange.InReach dev) :
    Follows dev (t.step dev (.bulkOut packet)) (h.note dev t (.bulkOut packet)) := by
  rcases hout : t.sys.drive.bot.transferFlags.dataOut with - | -
  case true => exact hf.data hirq hok hout hphase hreach
  by_cases hlen : packet.length = 31
  · exact hf.cbw hirq hok hout hlen hphase hreach
  -- the packet is dropped
  obtain ⟨hdrive, hpc⟩ := step_bulkOut_drive dev packet hirq
  have hbot : (t.sys.drive.bulkOut dev packet).bot = t.sys.drive.bot := by
    show botHandleBulkOut dev t.sys.drive.phantom.isLocked packet t.sys.drive.bot = _
    unfold botHandleBulkOut
    rw [hout, if_neg Bool.false_ne_true, if_neg hlen]
  have hsame : (t.step dev (.bulkOut packet)).exchange = t.exchange := by
    rw [Session.step_bulkOut hirq, hout, if_neg Bool.false_ne_true, if_neg hlen]
  have hnote : h.note dev t (.bulkOut packet) = h := by
    unfold HostCopy.note
    dsimp only
    rw [if_pos hirq, hout, if_neg Bool.false_ne_true, if_neg hlen]
  rw [hnote]
  refine hf.carry hphase hsame (by rw [hdrive]; rfl) (by rw [hdrive]; rfl) (by rw [hdrive]; rfl)
    (Or.inr fun hin hwrite => ?_) fun hin hread => ?_
  · exact Ongoing.writeEnded hf.phase (Exchange.inProgress_iff.mp hin).2 hwrite hout
  · rw [hdrive, hpc, hbot]
    exact hf.read hin hread

/-! ### `main` -/

/-- Data that were sent are packets. -/
theorem ne_nil_of_byteCount {packets : List InPacket} {datas : List (List UInt8)} {n : ℕ}
    (hsent : packets = datas.map .data) (hcount : byteCount datas = 512 * max 1 n) :
    packets ≠ [] := by
  rintro rfl
  have hnil : datas = [] := List.map_eq_nil_iff.mp hsent.symm
  rw [hnil, byteCount_nil] at hcount
  omega

/-- **The loops of `read_stream_usb2`**, once they are left, have sent the whole READ(10). -/
theorem Follows.readsFrom_readRun (hf : Follows dev t h) (io : MainIo)
    (hreading : Reading dev t.exchange t.sys.drive.bot t.sys.pc) {preqnum : ℕ} {actualLba : UInt32}
    (hpc : t.sys.pc = .readRun preqnum actualLba) :
    t.exchange.ReadsFrom dev h.array (readRun dev io preqnum actualLba t.sys).drive.bot
      (readRun dev io preqnum actualLba t.sys).pc := by
  have hread := hreading.dataPhase
  have hin : t.exchange.inProgress = true :=
    Exchange.inProgress_iff.mpr ⟨hreading.outstanding, hreading.valid⟩
  have hshown := hf.unwritten (Or.inr (by rw [hread]; exact DataPhase.noConfusion))
  have hlocked := hf.locked hin
  obtain ⟨hpos, hrange⟩ := hf.reach.1 hread
  have hold := hf.read hin hread
  have hat := hreading.at_
  rw [hpc] at hat hold
  obtain ⟨hnone, rfl⟩ := hold
  obtain ⟨-, rfl, -⟩ := hat
  rw [hlocked] at hrange ⊢
  rcases readRun_exposed io hpos hrange with hrun | ⟨tx, hrun⟩
  · rw [hrun, hpc]
    exact ⟨hnone, by rw [hlocked]⟩
  · rw [hrun]
    refine Or.inr (Or.inl ?_)
    have hsent : t.sys.drive.bot.queued.drop t.exchange.mark = [] := hnone
    rw [Exchange.packets]
    dsimp only
    rw [List.drop_append_of_le_length hreading.mark, hshown, hsent]
    rfl

/-- **`main` in a READ(10)** goes on with its target and its sectors. -/
theorem Follows.readsFrom_reading (hf : Follows dev t h) (io : MainIo)
    (hreading : Reading dev t.exchange t.sys.drive.bot t.sys.pc) :
    t.exchange.ReadsFrom dev h.array (mainStep dev io t.sys).drive.bot
      (mainStep dev io t.sys).pc := by
  have hread := hreading.dataPhase
  have hin : t.exchange.inProgress = true :=
    Exchange.inProgress_iff.mpr ⟨hreading.outstanding, hreading.valid⟩
  have hlocked := hf.locked hin
  obtain ⟨hpos, -⟩ := hf.reach.1 hread
  have hold := hf.read hin hread
  have hat := hreading.at_
  cases hpc : t.sys.pc with
  | poll =>
    rw [hpc] at hat hold
    simp only [mainStep, hpc]
    rw [if_pos hat.1]
    exact hold
  | pollWrite =>
    rw [hpc] at hold
    simp only [mainStep, hpc]
    rw [if_neg (by rw [hreading.writePending]; exact Bool.false_ne_true)]
    exact hold
  | writeDone =>
    rw [hpc] at hold
    simp only [mainStep, hpc]
    exact hold
  | pollUnlock =>
    rw [hpc] at hold
    simp only [mainStep, hpc]
    have hbusy : t.sys.drive.bot.transferFlags ≠ .none := by
      rw [hreading.transferFlags]
      decide
    rw [pollUnlock_bot io hbusy, pollUnlock_pc]
    exact hold
  | readTake =>
    rw [hpc] at hold
    simp only [mainStep, hpc]
    exact hold
  | readCount =>
    rw [hpc] at hold
    simp only [mainStep, hpc]
    exact hold
  | readZero preqnum =>
    rw [hpc] at hold
    simp only [mainStep, hpc]
    exact hold
  | readLba preqnum =>
    rw [hpc] at hat hold
    simp only [mainStep, hpc]
    refine ⟨hat.2.2, ?_⟩
    rw [ReadSent.lba_of_nil hpos hat.2.2 hold, hlocked]
  | readStart preqnum actualLba =>
    rw [hpc] at hold
    simp only [mainStep, hpc]
    exact hold
  | readRun preqnum actualLba =>
    simp only [mainStep, hpc]
    exact hf.readsFrom_readRun io hreading hpc
  | readAdvanceLoad preqnum =>
    rw [hpc] at hold
    simp only [mainStep, hpc]
    exact hold
  | readAdvanceStore lba =>
    rw [hpc] at hat hold
    simp only [mainStep, hpc]
    obtain ⟨-, datas, hsent, hcount⟩ := hat
    exact Or.inr (hold.resolve_left fun hnone => ne_nil_of_byteCount hsent hcount hnone.1)
  | _ =>
    rw [hpc] at hat
    exact hat.elim

/-- **`main` in `bot_send_csw`** puts the CSW behind the sectors of the READ(10). -/
theorem Follows.readsFrom_closing (hf : Follows dev t h) (io : MainIo)
    (hclosing : Closing dev t.exchange t.sys.drive.bot t.sys.pc)
    (hread : t.exchange.dataPhase dev = .read) :
    t.exchange.ReadsFrom dev h.array (mainStep dev io t.sys).drive.bot
      (mainStep dev io t.sys).pc := by
  have hin : t.exchange.inProgress = true :=
    Exchange.inProgress_iff.mpr ⟨hclosing.outstanding, hclosing.valid⟩
  have hat := hclosing.at_
  obtain ⟨datas, hsent, hsettled⟩ := hclosing.sent
  rw [Exchange.Settled, hread] at hsettled
  have hsentAll : ReadSent h.array t.exchange.cbw (t.exchange.packets t.sys.drive.bot) :=
    (hf.read hin hread).sent.resolve_left fun hnone =>
      ne_nil_of_byteCount hsent hsettled.1 hnone
  have hack : ReadSent h.array t.exchange.cbw
      (t.exchange.packets (botQueueTx t.sys.drive.bot)) ∨ ∀ caller, t.sys.pc ≠ .csw .ack caller := by
    by_cases hpc : ∃ caller, t.sys.pc = .csw .ack caller
    · obtain ⟨caller, hpc⟩ := hpc
      rw [hpc] at hat
      have hbuff : t.sys.drive.bot.txBuff = .csw _ := hat.2
      rw [hsent] at hsentAll
      refine Or.inl (Or.inr ⟨cswBytes t.exchange.cbw.tag (t.exchange.cswStatus dev), ?_⟩)
      rw [← hsentAll.of_datas, ← hsent, ← hbuff]
      exact Exchange.packets_append hclosing.mark _
    · exact Or.inr fun caller hcaller => hpc ⟨caller, hcaller⟩
  cases hpc : t.sys.pc with
  | csw stage caller =>
    cases stage with
    | clear =>
      simp only [mainStep, hpc]
      exact Or.inr hsentAll
    | fill =>
      simp only [mainStep, hpc]
      exact Or.inr hsentAll
    | copy =>
      simp only [mainStep, hpc]
      exact Or.inr hsentAll
    | ack =>
      have hsentAck := hack.resolve_right fun hne => hne caller hpc
      cases caller with
      | read =>
        simp only [mainStep, hpc]
        exact Or.inr hsentAck
      | write =>
        simp only [mainStep, hpc]
        exact Or.inr hsentAck
  | _ =>
    rw [hpc] at hat
    exact hat.elim

/-- Where `main` is at rest, a read has nothing to do. -/
theorem AtRest.readsFrom {array : ℕ → Sector} {x : Exchange} {b b' : Bot} {pc pc' : MainPc}
    (hrest : AtRest b pc) (hrest' : AtRest b' pc') (hqueued : b'.queued = b.queued)
    (hlba : b'.currentLba = b.currentLba) (h : x.ReadsFrom dev array b pc) :
    x.ReadsFrom dev array b' pc' := by
  have hplain : x.packets b = [] ∧ b.currentLba = x.cbw.lba
      ∨ ReadSent array x.cbw (x.packets b) := by
    rcases hrest.pc with hsettled | ⟨-, rfl | rfl⟩
    · exact (Exchange.readsFrom_of_settled hsettled).mp h
    · exact h
    · exact h
  have hpackets : x.packets b' = x.packets b := congrArg (List.drop x.mark) hqueued
  rw [← hpackets, ← hlba] at hplain
  rcases hrest'.pc with hsettled | ⟨-, rfl | rfl⟩
  · exact (Exchange.readsFrom_of_settled hsettled).mpr hplain
  · exact hplain
  · exact hplain

/-- **A step of `main`** outside the write loop, and no attempt to unlock. -/
theorem Follows.mainBot (hf : Follows dev t h) (hinit : dev.initTxCtrl = .nak) (io : MainIo)
    (hrun : ∀ stream, t.sys.pc ≠ .writeRun stream)
    (hbusy : t.sys.pc = .pollUnlock → t.sys.drive.phantom.unlockPending = true →
      t.exchange.inProgress = true)
    (hphase : (t.step dev (.main io)).InPhase dev) : Follows dev (t.step dev (.main io)) h := by
  obtain ⟨bot, log, hdrive⟩ := mainStep_bot dev io hrun fun hpc hpending => by
    obtain ⟨hout, hvalid⟩ := Exchange.inProgress_iff.mp (hbusy hpc hpending)
    have hongoing : Ongoing dev t.exchange t.sys.drive.bot .pollUnlock := hpc ▸ hf.phase
    exact hongoing.not_idle hout hvalid
  have hsys : (t.step dev (.main io)).sys = mainStep dev io t.sys := rfl
  refine hf.carry hphase (observe_main_of_ne hrun) (by rw [hsys, hdrive]) (by rw [hsys, hdrive])
    (by rw [hsys, hdrive]) (Or.inl (by rw [hsys, hdrive])) fun hin hread => ?_
  obtain ⟨hout, hvalid⟩ := Exchange.inProgress_iff.mp hin
  have hother : ∀ {phase : DataPhase} {P : Prop}, t.exchange.dataPhase dev = phase →
      phase ≠ .read → P := fun heq hne => absurd (heq.symm.trans hread) hne
  cases hf.phase with
  | idling h => exact absurd (h.outstanding.symm.trans hout) Bool.false_ne_true
  | responding h => exact hother h.dataPhase DataPhase.noConfusion
  | halted h => exact hother h.dataPhase DataPhase.noConfusion
  | reading h => exact hf.readsFrom_reading io h
  | awaiting h => exact hother h.dataPhase DataPhase.noConfusion
  | writing h => exact hother h.dataPhase DataPhase.noConfusion
  | closing h => exact hf.readsFrom_closing io h hread
  | closed h =>
    obtain ⟨rxCtrl, capacity, hbot, hrest⟩ := mainStep_atRest hinit io h.toAtRest
    rw [hsys]
    exact h.toAtRest.readsFrom hrest (by rw [hbot]) (by rw [hbot]) (hf.read hin hread)
  | void h => exact absurd (h.invalid.symm.trans hvalid) Bool.false_ne_true

/-- An attempt to unlock does not disturb the scanner. -/
theorem pollUnlock_matching (io : MainIo) {s : Sys} (h : s.drive.phantom.prefixMatchLen < 9) :
    (pollUnlock dev io s).drive.phantom.prefixMatchLen < 9 := by
  rcases pollUnlock_cases dev io s with hrun | ⟨-, hrun⟩
  · rw [hrun]
    exact h
  rw [hrun]
  dsimp only
  rcases phantomdriveTryUnlock_cases dev io.unlock s.drive with hgive | hswitch
  · rcases hgive.phantom with hsame | ⟨len, -, -, hsame⟩
    · rw [hsame]
      exact h
    · rw [hsame]
      exact h
  · obtain ⟨card, len, passwordLen, -, hswitched⟩ := hswitch.switched
    rw [hswitched]
    exact Nat.zero_lt_succ 8

/-- **An attempt to unlock** between two commands shows the host what there is now. -/
theorem Follows.unlock (hf : Follows dev t h) (io : MainIo) (hpc : t.sys.pc = .pollUnlock)
    (hpending : t.sys.drive.phantom.unlockPending = true)
    (hidle : t.exchange.inProgress = false) (hphase : (t.step dev (.main io)).InPhase dev) :
    Follows dev (t.step dev (.main io)) (h.note dev t (.main io)) := by
  have hsame : (t.step dev (.main io)).exchange = t.exchange :=
    observe_main_of_ne fun stream heq => MainPc.noConfusion (hpc.symm.trans heq)
  have hnot : ∀ {P : Prop}, (t.step dev (.main io)).exchange.inProgress = true → P := fun hin =>
    absurd (hidle.symm.trans (hsame ▸ hin)) Bool.false_ne_true
  have hnote : h.note dev t (.main io)
      = { h with array := (t.step dev (.main io)).sys.drive.exposed dev } := by
    unfold HostCopy.note
    simp only [hpc]
    rw [hidle, hpending, Bool.not_true, Bool.or_self, if_neg Bool.false_ne_true]
    rfl
  rw [hnote]
  refine ⟨hphase, hsame ▸ hf.reach, ?_, hnot, fun _ => rfl, hnot, hnot, hnot, hnot⟩
  show (mainStep dev io t.sys).drive.phantom.prefixMatchLen < 9
  simp only [mainStep, hpc]
  exact pollUnlock_matching io hf.matching

end Invariant

/-! ### Runs -/

theorem follows_init {dev : Device} (hinit : dev.initTxCtrl = .nak) (card : Card) :
    Follows dev (.init dev card) (HostRun.init dev card).copy := by
  have hnone : (Session.init dev card).exchange.dataPhase dev = .none := dataPhase_none dev
  have hnot : ∀ {P : Prop}, (Session.init dev card).exchange.inProgress = true → P := fun hin =>
    Bool.noConfusion hin
  refine ⟨inPhase_init hinit card, ⟨fun hread => ?_, fun hwrite => ?_⟩, Nat.zero_lt_succ 8, hnot,
    fun _ => rfl, hnot, hnot, hnot, hnot⟩
  · exact absurd (hnone.symm.trans hread) DataPhase.noConfusion
  · exact absurd (hnone.symm.trans hwrite) DataPhase.noConfusion

theorem follows_step {dev : Device} (hinit : dev.initTxCtrl = .nak) (w : HostRun) (e : Event)
    (hf : Follows dev w.session w.copy) (hok : WithinReach dev w e) :
    Follows dev (w.step dev e).session (w.step dev e).copy := by
  obtain ⟨horderly, hcbw⟩ := hok
  have hphase := inPhase_step hinit w.session e hf.phase horderly
  have hreach : (w.session.step dev e).exchange.InReach dev :=
    cbwMeets_step inReach_same hf.reach hcbw
  have hoff : w.session.sys.usbIrq = false → (∀ io, e ≠ .main io) →
      w.step dev e = w := by
    intro hirq hne
    have hnote : w.copy.note dev w.session e = w.copy := by
      unfold HostCopy.note
      cases e with
      | bulkOut packet => simp only [hirq, Bool.false_eq_true, if_false]
      | bulkIn => simp only [hirq, Bool.false_eq_true, if_false, Bool.false_and]
      | main io => exact absurd rfl (hne io)
    rw [HostRun.step, Session.step_of_off hirq hne, hnote]
  cases e with
  | bulkOut packet =>
    rcases hirq : w.session.sys.usbIrq with - | -
    · rw [hoff hirq fun io => Event.noConfusion]
      exact hf
    · exact hf.bulkOut hirq horderly hphase hreach
  | bulkIn =>
    rcases hirq : w.session.sys.usbIrq with - | -
    · rw [hoff hirq fun io => Event.noConfusion]
      exact hf
    · exact hf.bulkIn hirq (horderly.1 hirq) hphase hreach
  | main io =>
    by_cases hrun : ∃ stream, w.session.sys.pc = .writeRun stream
    · obtain ⟨stream, hpc⟩ := hrun
      exact hf.pass io hpc hphase hreach
    have hrun : ∀ stream, w.session.sys.pc ≠ .writeRun stream := fun stream hpc =>
      hrun ⟨stream, hpc⟩
    by_cases hunlock : w.session.sys.pc = .pollUnlock
        ∧ w.session.sys.drive.phantom.unlockPending = true
        ∧ w.session.exchange.inProgress = false
    · exact hf.unlock io hunlock.1 hunlock.2.1 hunlock.2.2 hphase
    · have hsame : w.copy.note dev w.session (.main io) = w.copy := by
        unfold HostCopy.note
        cases hpc : w.session.sys.pc with
        | writeRun stream => exact absurd hpc (hrun stream)
        | pollUnlock =>
          refine if_pos ?_
          rcases hin : w.session.exchange.inProgress with - | -
          · rcases hpending : w.session.sys.drive.phantom.unlockPending with - | -
            · rfl
            · exact absurd ⟨hpc, hpending, hin⟩ hunlock
          · rfl
        | _ => rfl
      show Follows dev (w.session.step dev (.main io)) (w.copy.note dev w.session (.main io))
      rw [hsame]
      refine hf.mainBot hinit io hrun (fun hpc hpending => ?_) hphase
      rcases hin : w.session.exchange.inProgress with - | -
      · exact absurd ⟨hpc, hpending, hin⟩ hunlock
      · rfl

/-- The status of a CSW is its last byte. -/
theorem getLast_cswBytes (tag : Vector UInt8 4) (status : CswStatus) :
    (cswBytes tag status).getLast? = some status.byte := rfl

/-- Behind a CSW that reports success, the write is stored whole. -/
theorem Ongoing.stored_whole {dev : Device} {x : Exchange} {b : Bot} {pc : MainPc}
    (h : Ongoing dev x b pc) (hin : x.inProgress = true) (hwrite : x.dataPhase dev = .write)
    {tag : Vector UInt8 4} (htx : b.txCtrl = .ack)
    (hbuff : b.txBuff = .csw (cswBytes tag .passed)) :
    x.failed = false ∧ x.stored = x.cbw.deviceSectors := by
  obtain ⟨hout, hvalid⟩ := Exchange.inProgress_iff.mp hin
  have hother : ∀ {phase : DataPhase} {P : Prop}, x.dataPhase dev = phase → phase ≠ .write → P :=
    fun heq hne => absurd (heq.symm.trans hwrite) hne
  have hnak : ∀ {P : Prop}, b.txCtrl = .nak → P := fun hnak =>
    EpResponse.noConfusion (hnak.symm.trans htx)
  cases h with
  | idling h => exact hnak h.txCtrl
  | responding h => exact hother h.dataPhase DataPhase.noConfusion
  | halted h => exact hother h.dataPhase DataPhase.noConfusion
  | reading h => exact hnak h.txCtrl
  | awaiting h => exact hnak h.txCtrl
  | writing h => exact hnak h.txCtrl
  | closing h => exact hnak h.txCtrl
  | void h => exact absurd (h.invalid.symm.trans hvalid) Bool.false_ne_true
  | closed h =>
    have hbytes : cswBytes x.cbw.tag (x.cswStatus dev) = cswBytes tag .passed :=
      InPacket.csw.inj (h.txBuff.symm.trans hbuff)
    have hstatus : (x.cswStatus dev).byte = CswStatus.passed.byte := by
      have hlast := congrArg List.getLast? hbytes
      rw [getLast_cswBytes, getLast_cswBytes] at hlast
      exact Option.some.inj hlast
    have hended : x.WriteEnded := Ongoing.writeEnded (.closed h) hvalid hwrite
      (congrArg TransferFlags.dataOut h.transferFlags)
    rcases hended with ⟨hok, hall, -⟩ | ⟨hfailed, -⟩
    · exact ⟨hok, hall⟩
    · rw [Exchange.cswStatus, hfailed, Bool.true_or, if_pos rfl] at hstatus
      exact absurd hstatus (by decide)

theorem Follows.agrees {dev : Device} {w : HostRun} (hf : Follows dev w.session w.copy) :
    Agrees dev w where
  unwritten := hf.unwritten
  read hin hread := (hf.read hin hread).sent
  stored := hf.stored
  whole hin hwrite tag htx hbuff := by
    obtain ⟨hok, hall⟩ := Ongoing.stored_whole hf.phase hin hwrite htx hbuff
    exact ⟨hok, (hf.stored hin hwrite hok).kept.trans hall⟩
  spared := hf.spared

/-- **The drive is a block device.**  In every orderly run of commands within what the host is
shown, locked, unlocked or across the switch, with any interleaving of the interrupt with `main`
and any card failures, the drive agrees with the host's copy. -/
theorem blockDevice_run (dev : Device) (hinit : dev.initTxCtrl = .nak) (card : Card)
    (events : List Event)
    (hrun : Runs.Along (HostRun.step dev) (WithinReach dev) (HostRun.init dev card) events) :
    Agrees dev (Runs.run (HostRun.step dev) (HostRun.init dev card) events) :=
  Follows.agrees (Runs.invariant (P := fun w : HostRun => Follows dev w.session w.copy)
    (follows_step hinit) (follows_init hinit card) hrun)

/-- A WRITE(10) of sector 0, up to the pass that stores it. -/
theorem blockDevice_run_write10 :
    Agrees sampleDevice (Runs.run (HostRun.step sampleDevice)
      (HostRun.init sampleDevice fun _ _ => 0) (sampleDataOut 0x2A ++ [.main sampleMainIo])) := by
  refine blockDevice_run sampleDevice rfl (fun _ _ => 0) _
    ⟨⟨⟨fun _ _ => rfl, fun _ => rfl⟩, fun _ => ⟨fun hread => ?_, fun _ _ => ?_⟩⟩,
      ⟨⟨fun _ => ⟨rfl, rfl⟩, fun _ => rfl⟩,
        fun htakes => (Bool.false_ne_true htakes.2.1.symm).elim⟩,
      ⟨⟨trivial, trivial⟩, trivial⟩, ⟨⟨trivial, trivial⟩, trivial⟩, ⟨⟨trivial, trivial⟩, trivial⟩,
      ⟨⟨trivial, trivial⟩, trivial⟩, ⟨⟨trivial, trivial⟩, trivial⟩, ⟨⟨trivial, trivial⟩, trivial⟩,
      ⟨⟨trivial, trivial⟩, trivial⟩, ⟨⟨trivial, trivial⟩, trivial⟩, trivial⟩
  · have hphase : (Exchange.begin (Sys.init sampleDevice fun _ _ => 0)
        (.ofPacket (cbwPacket 0x00 512 (rw10Cdb 0x2A 0 1)))).dataPhase sampleDevice = .write := by
      decide +kernel
    exact DataPhase.noConfusion (hphase.symm.trans hread)
  · have hcmd : (BulkOnlyCmd.ofPacket (cbwPacket 0x00 512 (rw10Cdb 0x2A 0 1))).command.isWrite = true
        ∧ (BulkOnlyCmd.ofPacket (cbwPacket 0x00 512 (rw10Cdb 0x2A 0 1))).lba.toNat
            + (BulkOnlyCmd.ofPacket (cbwPacket 0x00 512 (rw10Cdb 0x2A 0 1))).deviceSectors
          ≤ sampleDevice.exposedSectors true := by
      decide +kernel
    exact hcmd

end PhantomDrive
