/-
PhantomDrive/HostLength.lean

How much a command moves, against the host length of its CBW.  A response is clamped to
it, but a READ(10) or WRITE(10) replaces it with the block count of the CDB, so the two
have to agree: then no data are moved beyond the host length, and what is left of the
data of the host behind a short or aborted write is never the size of a CBW
(`hostLength_run`).

A READ(10) of one sector for half a sector sends all of it (`read10_exceeds`).
-/
import PhantomDrive.HostView

namespace PhantomDrive

/-! ### What a command moves -/

namespace Exchange

/-- The data bytes for the host. -/
def bytesIn (dev : Device) (x : Exchange) : ℕ :=
  match x.dataPhase dev with
  | .none | .write => 0
  | .respond => x.cbw.deviceBytes.toNat
  | .read => 512 * max 1 x.cbw.deviceSectors

/-- The OUT packets taken as data. -/
def packetsOut (dev : Device) (x : Exchange) : ℕ :=
  match x.dataPhase dev with
  | .write => max 1 x.cbw.deviceSectors
  | _ => 0

/-- `packet` has the size of a part of the data of the host that was not taken yet. -/
def LeftOver (x : Exchange) (packet : List UInt8) : Prop :=
  ∃ k, x.received ≤ k ∧ 512 * k < x.cbw.dataLen.toNat
    ∧ packet.length = min 512 (x.cbw.dataLen.toNat - 512 * k)

/-- Nothing is moved beyond the host length or in the other direction, and no data of the host are
taken for a CBW. -/
structure WithinHostLength (dev : Device) (x : Exchange) (s : Sys) : Prop where
  bytesIn : (dataOf (x.packets s.drive.bot)).length ≤ x.cbw.dataLen.toNat
  dirIn : dataOf (x.packets s.drive.bot) ≠ [] → x.cbw.dirIn = true
  received : 0 < x.received → x.cbw.dirIn = false ∧ 512 * (x.received - 1) < x.cbw.dataLen.toNat
  notCbw : x.cbw.dirIn = false → x.rejected dev = false →
    ∀ packet, x.LeftOver packet → ¬ s.TakesCbw packet

/-- The length the device goes by agrees with the host length: it is not larger, and behind a
write that ends early the last data packet is not as long as a CBW. -/
structure LengthsAgree (dev : Device) (x : Exchange) : Prop where
  respond : x.dataPhase dev = .respond → x.cbw.deviceBytes.toNat ≤ x.cbw.dataLen.toNat
  read : x.dataPhase dev = .read → 512 * max 1 x.cbw.deviceSectors ≤ x.cbw.dataLen.toNat
  write : x.dataPhase dev = .write → 512 * (x.cbw.deviceSectors - 1) < x.cbw.dataLen.toNat
  last : x.dataPhase dev = .write → x.cbw.dataLen.toNat % 512 = 31 →
    x.cbw.dataLen.toNat / 512 < max 1 (min x.cbw.deviceSectors 60)

end Exchange

section Moved

variable {dev : Device} {x : Exchange} {b : Bot} {pc : MainPc}

/-- What a settled command has moved. -/
theorem Exchange.Settled.moved {bytesIn : ℕ} (h : x.Settled dev bytesIn) :
    bytesIn = x.bytesIn dev ∧ x.received ≤ x.packetsOut dev
      ∧ (x.dataPhase dev = .write → x.WriteEnded) := by
  unfold Exchange.Settled at h
  unfold Exchange.bytesIn Exchange.packetsOut
  cases hphase : x.dataPhase dev with
  | write =>
    rw [hphase] at h
    refine ⟨h.1, ?_, fun _ => h.2⟩
    rcases h.2 with ⟨-, -, hreceived⟩ | ⟨-, -, hreceived, -⟩
    · exact hreceived.le
    · exact hreceived.trans (le_max_right ..)
  | none =>
    rw [hphase] at h
    exact ⟨h.1, h.2.1.le, DataPhase.noConfusion⟩
  | respond =>
    rw [hphase] at h
    exact ⟨h.1, h.2.1.le, DataPhase.noConfusion⟩
  | read =>
    rw [hphase] at h
    exact ⟨h.1, h.2.1.le, DataPhase.noConfusion⟩

theorem Exchange.Finished.moved (h : x.Finished dev b) :
    (dataOf (x.packets b)).length = x.bytesIn dev ∧ x.received ≤ x.packetsOut dev
      ∧ (x.dataPhase dev = .write → x.WriteEnded) := by
  obtain ⟨datas, hpackets, hsettled⟩ := h
  rw [hpackets, dataOf_append_csw, length_dataOf]
  exact hsettled.moved

/-- Where `main` stands in a READ(10), none of it was sent, or all. -/
theorem ReadingAt.bytesIn (h : ReadingAt x b pc) (hphase : x.dataPhase dev = .read) :
    (dataOf (x.packets b)).length ≤ x.bytesIn dev := by
  have hnil : x.packets b = [] → (dataOf (x.packets b)).length ≤ x.bytesIn dev := fun hnil => by
    rw [hnil]
    exact Nat.zero_le _
  have hall : (∃ datas : List (List UInt8), x.packets b = datas.map .data
      ∧ byteCount datas = 512 * max 1 x.cbw.deviceSectors) →
        (dataOf (x.packets b)).length ≤ x.bytesIn dev := by
    rintro ⟨datas, hsent, hcount⟩
    rw [hsent, length_dataOf, hcount, Exchange.bytesIn, hphase]
  cases pc with
  | readAdvanceLoad n => exact hall h.2
  | readAdvanceStore n => exact hall h.2
  | poll => exact hnil h.2.2
  | pollWrite => exact hnil h.2.2
  | writeDone => exact hnil h.2.2
  | pollUnlock => exact hnil h.2.2
  | readTake => exact hnil h.2.2
  | readCount => exact hnil h.2.2
  | readZero n => exact hnil h.2.2
  | readLba n => exact hnil h.2.2
  | readStart n lba => exact hnil h.2.2
  | readRun n lba => exact hnil h.2.2
  | _ => exact h.elim

/-- **The bytes for the host** are at most those of the data phase. -/
theorem Ongoing.bytesIn (h : Ongoing dev x b pc) :
    (dataOf (x.packets b)).length ≤ x.bytesIn dev := by
  have hnil : x.packets b = [] → (dataOf (x.packets b)).length ≤ x.bytesIn dev := fun hnil => by
    rw [hnil]
    exact Nat.zero_le _
  cases h with
  | idling h =>
    rcases h.finished with ⟨-, hnone⟩ | ⟨-, hfinished⟩
    · exact hnil hnone
    · exact hfinished.moved.1.le
  | responding h =>
    obtain ⟨datas, hsent, hcount⟩ := h.sent
    rw [hsent, length_dataOf, Exchange.bytesIn, h.dataPhase]
    dsimp only
    omega
  | halted h => exact hnil h.packets
  | reading h => exact h.at_.bytesIn h.dataPhase
  | awaiting h => exact hnil h.packets
  | writing h => exact hnil h.packets
  | closing h =>
    obtain ⟨datas, hsent, hsettled⟩ := h.sent
    rw [hsent, length_dataOf]
    exact hsettled.moved.1.le
  | closed h => exact h.finished.moved.1.le
  | void h => exact hnil h.packets

/-- While a write goes on, its packets are those of its sectors. -/
theorem WritingAt.received (h : WritingAt x b pc) : x.received ≤ max 1 x.cbw.deviceSectors := by
  have hfirst : x.FirstPacket → x.received ≤ max 1 x.cbw.deviceSectors := fun hfirst => by
    rw [hfirst.received]
    exact le_max_left ..
  have hended : x.WriteEnded → x.received ≤ max 1 x.cbw.deviceSectors := by
    rintro (⟨-, -, hreceived⟩ | ⟨-, -, hreceived, -⟩)
    · exact hreceived.le
    · exact hreceived.trans (le_max_right ..)
  cases pc with
  | poll => exact hfirst h.2.2.2
  | pollWrite => exact hfirst h.2.2.2
  | writeDone => exact hfirst h.2.2.2
  | pollUnlock => exact hfirst h.2.2.2
  | writeTake => exact hfirst h.2.2.2
  | writeCount => exact hfirst h.2.2.2
  | writeLba n => exact hfirst h.2.2.2
  | writeZero n lba => exact hfirst h.2.2.2
  | writeStart n lba => exact hfirst h.2.2.2.2
  | writeRun stream =>
    have hstream : StreamAt x stream := h.2.2
    have hsectors := hstream.sectors
    rcases hflag : stream.firstPacket with - | -
    · have hlater := hstream.later hflag
      omega
    · have hfirst := hstream.first hflag
      omega
  | writeCheck => exact hended h.2.2
  | writeFlagsLoad => exact hended h.2
  | writeFlagsStore flags => exact hended h.2.2
  | _ => exact h.elim

/-- **The OUT packets** taken as data are at most those of the data phase. -/
theorem Ongoing.received (h : Ongoing dev x b pc) (hvalid : x.cbw.validSignature = true) :
    x.received ≤ x.packetsOut dev := by
  have huntouched : x.Untouched → x.received ≤ x.packetsOut dev := fun huntouched => by
    rw [huntouched.1]
    exact Nat.zero_le _
  have hnot : ∀ {P : Prop}, x.cbw.validSignature = false → P := fun hinvalid =>
    absurd (hinvalid.symm.trans hvalid) Bool.false_ne_true
  cases h with
  | idling h =>
    rcases h.finished with ⟨hinvalid, -⟩ | ⟨-, hfinished⟩
    · exact hnot hinvalid
    · exact hfinished.moved.2.1
  | responding h => exact huntouched h.untouched
  | halted h => exact huntouched h.untouched
  | reading h => exact huntouched h.untouched
  | awaiting h => exact huntouched h.untouched
  | writing h =>
    rw [Exchange.packetsOut, h.dataPhase]
    exact h.at_.received
  | closing h =>
    obtain ⟨datas, -, hsettled⟩ := h.sent
    exact hsettled.moved.2.1
  | closed h => exact h.finished.moved.2.1
  | void h => exact hnot h.invalid

/-- A write that takes no more data is over. -/
theorem Ongoing.writeEnded (h : Ongoing dev x b pc) (hvalid : x.cbw.validSignature = true)
    (hphase : x.dataPhase dev = .write) (hout : b.transferFlags.dataOut = false) :
    x.WriteEnded := by
  have hnot : ∀ {phase : DataPhase} {P : Prop}, x.dataPhase dev = phase → phase ≠ .write → P :=
    fun heq hne => absurd (heq.symm.trans hphase) hne
  have hset : ∀ {P : Prop}, b.transferFlags = ⟨false, true, true⟩ → P := fun hflags => by
    rw [hflags] at hout
    cases hout
  cases h with
  | idling h =>
    rcases h.finished with ⟨hinvalid, -⟩ | ⟨-, hfinished⟩
    · exact absurd (hinvalid.symm.trans hvalid) Bool.false_ne_true
    · exact hfinished.moved.2.2 hphase
  | responding h => exact hnot h.dataPhase DataPhase.noConfusion
  | halted h => exact hnot h.dataPhase DataPhase.noConfusion
  | reading h => exact hnot h.dataPhase DataPhase.noConfusion
  | awaiting h => exact hset h.transferFlags
  | writing h => exact hset h.transferFlags
  | closing h =>
    obtain ⟨datas, -, hsettled⟩ := h.sent
    exact hsettled.moved.2.2 hphase
  | closed h => exact h.finished.moved.2.2 hphase
  | void h => exact absurd (h.invalid.symm.trans hvalid) Bool.false_ne_true

end Moved

/-! ### Against the host length -/

section Within

variable {dev : Device} {x : Exchange}

/-- The direction bit chooses the direction. -/
theorem Exchange.dirIn_of_dataPhase {phase : DataPhase} (h : x.dataPhase dev = phase) :
    (phase = .respond ∨ phase = .read → x.cbw.dirIn = true)
      ∧ (phase = .write → x.cbw.dirIn = false) := by
  unfold Exchange.dataPhase at h
  split at h
  · subst h
    exact ⟨fun hin => hin.elim DataPhase.noConfusion DataPhase.noConfusion, DataPhase.noConfusion⟩
  split at h
  · rename_i hdir
    refine ⟨fun _ => hdir, fun hwrite => ?_⟩
    split at h
    · exact absurd (h.trans hwrite) DataPhase.noConfusion
    · exact absurd (h.trans hwrite) DataPhase.noConfusion
  · rename_i hdir
    subst h
    exact ⟨fun hin => hin.elim DataPhase.noConfusion DataPhase.noConfusion,
      fun _ => by simpa using hdir⟩

/-- An accepted command with data for the device has a data phase. -/
theorem Exchange.dataPhase_of_out (hrejected : x.rejected dev = false)
    (hlen : x.cbw.dataLen ≠ 0) (hdir : x.cbw.dirIn = false) : x.dataPhase dev = .write := by
  rw [Exchange.dataPhase, hrejected, decide_eq_false hlen, hdir]
  rfl

/-- A write that has ended has taken the first chunk, or all there is. -/
theorem Exchange.WriteEnded.received (h : x.WriteEnded) :
    max 1 (min x.cbw.deviceSectors 60) ≤ x.received := by
  rcases h with ⟨-, -, hreceived⟩ | ⟨-, hstored, -, hreceived⟩
  · omega
  · omega

theorem lengthsAgree_none (dev : Device) : Exchange.none.LengthsAgree dev := by
  have hnot : ∀ {phase : DataPhase} {P : Prop}, Exchange.none.dataPhase dev = phase →
      phase ≠ .none → P := fun heq hne => absurd (heq.symm.trans (dataPhase_none dev)) hne
  exact ⟨fun h => hnot h DataPhase.noConfusion, fun h => hnot h DataPhase.noConfusion,
    fun h => hnot h DataPhase.noConfusion, fun h => hnot h DataPhase.noConfusion⟩

/-- A response within the host length agrees with it. -/
theorem lengthsAgree_of_respond {s : Sys} {cmd : BulkOnlyCmd} (hdir : cmd.dirIn = true)
    (hread : cmd.isRead10 = false) (hlen : cmd.deviceBytes.toNat ≤ cmd.dataLen.toNat) :
    (Exchange.begin s cmd).LengthsAgree dev := by
  have hnotOut : (Exchange.begin s cmd).dataPhase dev ≠ .write := fun hphase =>
    absurd (((Exchange.dirIn_of_dataPhase hphase).2 rfl).symm.trans hdir) Bool.false_ne_true
  have hnotRead : (Exchange.begin s cmd).dataPhase dev ≠ .read := fun hphase =>
    absurd (hread.symm.trans ((Exchange.isRead10_of_dataPhase hphase).1 rfl)) Bool.false_ne_true
  exact ⟨fun _ => hlen, fun h => absurd h hnotRead, fun h => absurd h hnotOut,
    fun h => absurd h hnotOut⟩

/-- What agrees stays within the host length. -/
theorem Ongoing.withinHostLength {s : Sys} (h : Ongoing dev x s.drive.bot s.pc)
    (hvalid : x.cbw.validSignature = true) (hagree : x.LengthsAgree dev) :
    x.WithinHostLength dev s := by
  have hin := h.bytesIn
  have hout := h.received hvalid
  have hdir := Exchange.dirIn_of_dataPhase (Eq.refl (x.dataPhase dev))
  refine ⟨?_, fun hne => ?_, fun hpos => ?_, fun hdirOut hrejected packet hleft htakes => ?_⟩
  · refine hin.trans ?_
    unfold Exchange.bytesIn
    cases hphase : x.dataPhase dev with
    | none => exact Nat.zero_le _
    | write => exact Nat.zero_le _
    | respond => exact hagree.respond hphase
    | read => exact hagree.read hphase
  · have hpos : 0 < (dataOf (x.packets s.drive.bot)).length := List.length_pos_of_ne_nil hne
    unfold Exchange.bytesIn at hin
    cases hphase : x.dataPhase dev with
    | none =>
      rw [hphase] at hin
      exact absurd (hpos.trans_le hin) (lt_irrefl 0)
    | write =>
      rw [hphase] at hin
      exact absurd (hpos.trans_le hin) (lt_irrefl 0)
    | respond => exact hdir.1 (Or.inl hphase)
    | read => exact hdir.1 (Or.inr hphase)
  · unfold Exchange.packetsOut at hout
    cases hphase : x.dataPhase dev with
    | write =>
      have hfits := hagree.write hphase
      rw [hphase] at hout
      dsimp only at hout
      refine ⟨hdir.2 hphase, ?_⟩
      omega
    | _ =>
      rw [hphase] at hout
      exact absurd (hpos.trans_le hout) (lt_irrefl 0)
  · obtain ⟨k, hreceived, hk, hlength⟩ := hleft
    have hlen : x.cbw.dataLen ≠ 0 := by
      intro hzero
      rw [hzero] at hk
      exact absurd hk (Nat.not_lt_zero _)
    have hphase := Exchange.dataPhase_of_out hrejected hlen hdirOut
    have hended := (h.writeEnded hvalid hphase htakes.2.1).received
    -- the only part with the size of a CBW is the last one
    have hsize := hlength.symm.trans htakes.2.2
    have hlast := hagree.last hphase (by omega)
    omega

end Within

/-! ### Runs -/

/-- **The host length.**  In every run with a host that sends one command at a time whose CBWs
agree with their CDBs: in every state, at most the host length was moved for the command, in its
direction only, and no packet of the data of the host is taken for a CBW. -/
theorem hostLength_run (dev : Device) (hinit : dev.initTxCtrl = .nak) (card : Card)
    (events : List Event)
    (hrun : Runs.Along (Session.step dev)
      (fun t e => Orderly t e ∧ CbwMeets (Exchange.LengthsAgree dev) t e)
      (Session.init dev card) events) :
    let t := Runs.run (Session.step dev) (Session.init dev card) events
    t.exchange.cbw.validSignature = true → t.exchange.WithinHostLength dev t.sys := by
  intro t hvalid
  have hinv : t.InPhase dev ∧ t.exchange.LengthsAgree dev := by
    refine Runs.invariant (P := fun t => t.InPhase dev ∧ t.exchange.LengthsAgree dev)
      (fun t e h hok => ⟨inPhase_step hinit t e h.1 hok.1, cbwMeets_step ?_ h.2 hok.2⟩)
      ⟨inPhase_init hinit card, ?_⟩ hrun
    · intro x x' hsame hx
      constructor
      all_goals rw [hsame.dataPhase, hsame.cbw]
      exacts [hx.respond, hx.read, hx.write, hx.last]
    · have hnone : (Session.init dev card).exchange = Exchange.none := rfl
      rw [hnone]
      exact lengthsAgree_none dev
  exact Ongoing.withinHostLength hinv.1 hvalid hinv.2

/-- An INQUIRY for 36 bytes. -/
theorem hostLength_run_inquiry :
    let t := Runs.run (Session.step sampleDevice) (Session.init sampleDevice fun _ _ => 0)
      (sampleInquiry 36)
    t.exchange.WithinHostLength sampleDevice t.sys := by
  have hdir : (BulkOnlyCmd.ofPacket (cbwPacket 0x80 36 [0x12])).dirIn = true := by decide +kernel
  have hread : (BulkOnlyCmd.ofPacket (cbwPacket 0x80 36 [0x12])).isRead10 = false := by
    decide +kernel
  have hlen : (BulkOnlyCmd.ofPacket (cbwPacket 0x80 36 [0x12])).deviceBytes.toNat
      ≤ (BulkOnlyCmd.ofPacket (cbwPacket 0x80 36 [0x12])).dataLen.toNat := by decide +kernel
  have hmeets : ∀ t, CbwMeets (Exchange.LengthsAgree sampleDevice) t
      (.bulkOut (cbwPacket 0x80 36 [0x12])) := fun t _ => lengthsAgree_of_respond hdir hread hlen
  exact hostLength_run sampleDevice rfl (fun _ _ => 0) (sampleInquiry 36)
    ⟨⟨⟨fun _ _ => rfl, fun _ => rfl⟩, hmeets _⟩,
      ⟨⟨fun _ => EpResponse.noConfusion, trivial⟩, trivial⟩,
      ⟨⟨fun _ => EpResponse.noConfusion, trivial⟩, trivial⟩, trivial⟩ rfl

/-- A READ(10) of one sector for 256 bytes, the first command of a run, sends 512. -/
theorem read10_exceeds :
    let events := .bulkOut (cbwPacket 0x80 256 (rw10Cdb 0x28 0 1))
      :: List.replicate 7 (.main sampleReadIo)
    let t := Runs.run (Session.step sampleDevice) (Session.init sampleDevice fun _ _ => 0) events
    Runs.Along (Session.step sampleDevice) Orderly (Session.init sampleDevice fun _ _ => 0) events
      ∧ t.exchange.cbw.validSignature = true ∧ t.exchange.cbw.dataLen = 256
      ∧ (dataOf (t.exchange.packets t.sys.drive.bot)).length = 512
      ∧ ¬ t.exchange.WithinHostLength sampleDevice t.sys := by
  intro events t
  have hpackets : ∃ sector : Sector, t.exchange.packets t.sys.drive.bot
      = [.data (List.ofFn sector)] := ⟨_, rfl⟩
  obtain ⟨sector, hpackets⟩ := hpackets
  have hsent : (dataOf (t.exchange.packets t.sys.drive.bot)).length = 512 := by
    rw [hpackets]
    show (List.ofFn sector ++ []).length = 512
    rw [List.append_nil, List.length_ofFn]
  have hhost : t.exchange.cbw.dataLen = 256 := by
    have hcbw : t.exchange.cbw = .ofPacket (cbwPacket 0x80 256 (rw10Cdb 0x28 0 1)) := rfl
    rw [hcbw]
    decide +kernel
  refine ⟨⟨⟨fun _ _ => rfl, fun _ => rfl⟩, ⟨trivial, trivial⟩, ⟨trivial, trivial⟩,
    ⟨trivial, trivial⟩, ⟨trivial, trivial⟩, ⟨trivial, trivial⟩, ⟨trivial, trivial⟩,
    ⟨trivial, trivial⟩, trivial⟩, rfl, hhost, hsent, fun hwithin => ?_⟩
  have hle := hwithin.bytesIn
  rw [hsent, hhost] at hle
  exact absurd hle (by decide)

end PhantomDrive
