/-
PhantomDrive/HostView.lean

What the host gets for a command in an orderly run: its data packets, then one CSW with
its tag (`csw_in_order`), whose residue is right exactly for the commands that move all
of the host length (`residue_right_iff`).

A CBW that comes between the ACK of the CSW of a READ(10) and the store of the flags breaks
the order: its CSW is sent twice (`csw_sent_twice`).
-/
import PhantomDrive.Session

namespace PhantomDrive

/-! ### The order of the packets -/

/-- Data, then at most one CSW, with the tag of the CBW. -/
def Exchange.InOrder (x : Exchange) (b : Bot) : Prop :=
  ∃ datas : List (List UInt8), x.packets b = datas.map .data
    ∨ ∃ status, x.packets b = datas.map .data ++ [.csw (cswBytes x.cbw.tag status)]

section Phases

variable {dev : Device} {x : Exchange} {b : Bot} {pc : MainPc}

/-- A READ(10) that goes on has sent data only. -/
theorem ReadingAt.sent (h : ReadingAt x b pc) :
    ∃ datas : List (List UInt8), x.packets b = datas.map .data := by
  cases pc with
  | readAdvanceLoad n => exact h.2.imp fun _ hsent => hsent.1
  | readAdvanceStore n => exact h.2.imp fun _ hsent => hsent.1
  | poll => exact ⟨[], h.2.2⟩
  | pollWrite => exact ⟨[], h.2.2⟩
  | writeDone => exact ⟨[], h.2.2⟩
  | pollUnlock => exact ⟨[], h.2.2⟩
  | readTake => exact ⟨[], h.2.2⟩
  | readCount => exact ⟨[], h.2.2⟩
  | readZero n => exact ⟨[], h.2.2⟩
  | readLba n => exact ⟨[], h.2.2⟩
  | readStart n lba => exact ⟨[], h.2.2⟩
  | readRun n lba => exact ⟨[], h.2.2⟩
  | _ => exact h.elim

/-- A command whose CSW is not queued yet has sent data only. -/
theorem Ongoing.sent_or_finished (h : Ongoing dev x b pc) :
    (∃ datas : List (List UInt8), x.packets b = datas.map .data)
      ∨ x.cbw.validSignature = true ∧ x.Finished dev b := by
  cases h with
  | idling h => exact h.finished.imp_left fun hnone => ⟨[], hnone.2⟩
  | responding h => exact Or.inl (h.sent.imp fun _ hsent => hsent.1)
  | halted h => exact Or.inl ⟨[], h.packets⟩
  | reading h => exact Or.inl h.at_.sent
  | awaiting h => exact Or.inl ⟨[], h.packets⟩
  | writing h => exact Or.inl ⟨[], h.packets⟩
  | closing h => exact Or.inl (h.sent.imp fun _ hsent => hsent.1)
  | closed h => exact Or.inr ⟨h.valid, h.finished⟩
  | void h => exact Or.inl ⟨[], h.packets⟩

/-- In every phase the packets are in order. -/
theorem Ongoing.inOrder (h : Ongoing dev x b pc) : x.InOrder b := by
  rcases h.sent_or_finished with ⟨datas, hsent⟩ | ⟨-, datas, hpackets, -⟩
  · exact ⟨datas, Or.inl hsent⟩
  · exact ⟨datas, Or.inr ⟨_, hpackets⟩⟩

/-- The data-in phase of a command looks like a READ(10) exactly when it is one. -/
theorem Ongoing.isRead10 (h : Ongoing dev x b pc) (hin : b.transferFlags.dataIn = true) :
    b.cbwCsw.isRead10 = x.cbw.isRead10 := by
  have hnot : ∀ {flags : TransferFlags} {P : Prop}, b.transferFlags = flags →
      flags.dataIn = false → P := fun heq hfalse =>
    absurd (hfalse.symm.trans (heq ▸ hin)) Bool.false_ne_true
  cases h with
  | idling h => exact hnot h.transferFlags rfl
  | responding h =>
    exact h.isRead10.trans ((Exchange.isRead10_of_dataPhase h.dataPhase).2 rfl).symm
  | halted h => exact hnot h.transferFlags rfl
  | reading h =>
    exact h.isRead10.trans ((Exchange.isRead10_of_dataPhase h.dataPhase).1 rfl).symm
  | awaiting h => exact hnot h.transferFlags rfl
  | writing h => exact hnot h.transferFlags rfl
  | closing h =>
    have hat := h.at_
    unfold ClosingAt at hat
    split at hat
    · exact hat.2
    · exact hnot hat rfl
    · exact hnot hat rfl
    · exact hnot hat.1 rfl
    · exact hnot hat.1 rfl
    · exact hat.elim
  | closed h => exact hnot h.transferFlags rfl
  | void h => exact hnot h.transferFlags rfl

end Phases

/-- **The CSW of a command.**  In every orderly run, the packets queued since the last CBW are data
and at most one CSW, the last of them and with the tag of that CBW; and where the opcode byte is
tested, in an IN completion and behind a CBW, it says READ(10) exactly if the CBW did. -/
theorem csw_in_order (dev : Device) (hinit : dev.initTxCtrl = .nak) (card : Card)
    (events : List Event)
    (hrun : Runs.Along (Session.step dev) Orderly (Session.init dev card) events) :
    let t := Runs.run (Session.step dev) (Session.init dev card) events
    t.exchange.InOrder t.sys.drive.bot
      ∧ (t.sys.drive.bot.transferFlags.dataIn = true →
          t.sys.drive.bot.cbwCsw.isRead10 = t.exchange.cbw.isRead10)
      ∧ ∀ cmd : BulkOnlyCmd, (scsiDispatchCommand dev t.sys.drive.phantom.isLocked
          (t.sys.drive.bot.beginCbw cmd)).cbwCsw.isRead10 = cmd.isRead10 := by
  have hphase := inPhase_run hinit card hrun
  exact ⟨Ongoing.inOrder hphase, Ongoing.isRead10 hphase,
    fun cmd => (scsiDispatchCommand_dispatched dev _ _).isRead10⟩

/-- One step of `main` in which the loops of a read of one sector are left. -/
def sampleReadIo : MainIo :=
  { sampleMainIo with
    read := ⟨fun _ _ => 0, [.card, .poll, .poll, .poll, .usb, .poll, .poll]⟩ }

/-- An INQUIRY: its data and its CSW are taken. -/
def sampleInquiry (dataLen : UInt32) : List Event :=
  [.bulkOut (cbwPacket 0x80 dataLen [0x12]), .bulkIn, .bulkIn]

/-- An INQUIRY is answered in order. -/
theorem csw_in_order_inquiry :
    let t := Runs.run (Session.step sampleDevice) (Session.init sampleDevice fun _ _ => 0)
      (sampleInquiry 36)
    t.exchange.InOrder t.sys.drive.bot
      ∧ (t.sys.drive.bot.transferFlags.dataIn = true →
          t.sys.drive.bot.cbwCsw.isRead10 = t.exchange.cbw.isRead10)
      ∧ ∀ cmd : BulkOnlyCmd, (scsiDispatchCommand sampleDevice t.sys.drive.phantom.isLocked
          (t.sys.drive.bot.beginCbw cmd)).cbwCsw.isRead10 = cmd.isRead10 :=
  csw_in_order sampleDevice rfl (fun _ _ => 0) (sampleInquiry 36)
    ⟨⟨fun _ _ => rfl, fun _ => rfl⟩, ⟨fun _ => EpResponse.noConfusion, trivial⟩,
      ⟨fun _ => EpResponse.noConfusion, trivial⟩, trivial⟩

/-- A READ(10) of one sector up to the CSW being queued; the host takes it and sends an INQUIRY
before `main` loads the flags.  It takes the data between the load and the store, and the CSW behind
the store. -/
def sampleRace : List Event :=
  [.bulkOut (cbwPacket 0x80 512 (rw10Cdb 0x28 0 1))]
    ++ List.replicate 13 (.main sampleReadIo)
    ++ [.bulkIn, .bulkOut (cbwPacket 0x80 36 [0x12]), .main sampleMainIo, .bulkIn,
      .main sampleMainIo, .bulkIn]

theorem Exchange.InOrder.dropLast {x : Exchange} {b : Bot} (h : x.InOrder b) :
    ∀ p ∈ (x.packets b).dropLast, ∃ bytes, p = .data bytes := by
  obtain ⟨datas, hpackets | ⟨status, hpackets⟩⟩ := h
  · intro p hp
    rw [hpackets] at hp
    obtain ⟨bytes, -, rfl⟩ := List.mem_map.mp (List.dropLast_subset _ hp)
    exact ⟨bytes, rfl⟩
  · intro p hp
    rw [hpackets, List.dropLast_concat] at hp
    obtain ⟨bytes, -, rfl⟩ := List.mem_map.mp hp
    exact ⟨bytes, rfl⟩

/-- A host that sends one command at a time gets two CSWs for one CBW. -/
theorem csw_sent_twice :
    let t := Runs.run (Session.step sampleDevice) (Session.init sampleDevice fun _ _ => 0)
      sampleRace
    Runs.Along (Session.step sampleDevice) Serial (Session.init sampleDevice fun _ _ => 0)
        sampleRace
      ∧ ¬ t.exchange.InOrder t.sys.drive.bot := by
  intro t
  have hpackets : ∃ data csw csw', t.exchange.packets t.sys.drive.bot
      = [.data data, .csw csw, .csw csw'] := ⟨_, _, _, rfl⟩
  refine ⟨⟨fun _ _ => rfl, trivial, trivial, trivial, trivial, trivial, trivial, trivial, trivial,
    trivial, trivial, trivial, trivial, trivial, fun _ => EpResponse.noConfusion,
    fun _ _ => rfl, trivial, fun _ => EpResponse.noConfusion, trivial,
    fun _ => EpResponse.noConfusion, trivial⟩, ?_⟩
  intro hordered
  obtain ⟨data, csw, csw', hpackets⟩ := hpackets
  obtain ⟨bytes, hbytes⟩ := hordered.dropLast (.csw csw) (by
    rw [hpackets]
    exact List.mem_cons_of_mem _ List.mem_cons_self)
  cases hbytes

/-! ### The residue -/

/-- The data of packets, one behind the other. -/
def dataOf (packets : List InPacket) : List UInt8 :=
  packets.flatMap fun
    | .data bytes => bytes
    | .csw _ => []

theorem dataOf_append (packets later : List InPacket) :
    dataOf (packets ++ later) = dataOf packets ++ dataOf later := List.flatMap_append

theorem dataOf_map_data (datas : List (List UInt8)) :
    dataOf (datas.map .data) = datas.flatten := by
  rw [dataOf, List.flatMap_map]
  show List.flatMap id datas = _
  rw [List.flatMap_id]

/-- A CSW carries no data. -/
theorem dataOf_append_csw (packets : List InPacket) (bytes : List UInt8) :
    dataOf (packets ++ [.csw bytes]) = dataOf packets := by
  rw [dataOf_append]
  exact List.append_nil _

theorem length_dataOf (datas : List (List UInt8)) :
    (dataOf (datas.map .data)).length = byteCount datas := by
  rw [dataOf_map_data, List.length_flatten]
  rfl

/-- `dCSWDataResidue`, little-endian. -/
def cswResidue (csw : List UInt8) : ℕ :=
  (wordOfBytes (csw.getD 8 0) (csw.getD 9 0) (csw.getD 10 0) (csw.getD 11 0)).toNat

theorem cswResidue_cswBytes (tag : Vector UInt8 4) (status : CswStatus) :
    cswResidue (cswBytes tag status) = 0 := by
  show (wordOfBytes 0 0 0 0).toNat = 0
  rfl

namespace Exchange

/-- The data bytes the device has moved: what it sent, and what of the data of the host is stored on
the card. -/
def moved (x : Exchange) (b : Bot) : ℕ :=
  (dataOf (x.packets b)).length + min (512 * x.stored) x.cbw.dataLen.toNat

/-- The residue of a CSW says what was not moved. -/
def ResidueRight (x : Exchange) (b : Bot) (csw : List UInt8) : Prop :=
  cswResidue csw + x.moved b = x.cbw.dataLen.toNat

/-- The command moves all of the host length: it has no data phase and none is asked for, or its
response, its sectors or what the card has stored of its data is as long. -/
def MovesAll (dev : Device) (x : Exchange) : Prop :=
  match x.dataPhase dev with
  | .none => x.cbw.dataLen = 0
  | .respond => x.cbw.deviceBytes = x.cbw.dataLen
  | .read => 512 * max 1 x.cbw.deviceSectors = x.cbw.dataLen.toNat
  | .write => x.cbw.dataLen.toNat ≤ 512 * x.stored

end Exchange

/-- The CSW of a finished command. -/
theorem Exchange.csw_eq_of_finished {dev : Device} {x : Exchange} {b : Bot} (h : x.Finished dev b)
    {csw : List UInt8} (hcsw : .csw csw ∈ x.packets b) :
    csw = cswBytes x.cbw.tag (x.cswStatus dev) := by
  obtain ⟨datas, hpackets, -⟩ := h
  rw [hpackets] at hcsw
  rcases List.mem_append.mp hcsw with hdata | hlast
  · obtain ⟨bytes, -, hne⟩ := List.mem_map.mp hdata
    cases hne
  · exact InPacket.csw.inj (List.mem_singleton.mp hlast)

/-- The residue of a finished command, zero, is right if the command moves all. -/
theorem Exchange.Finished.residue {dev : Device} {x : Exchange} {b : Bot} (h : x.Finished dev b)
    {csw : List UInt8} (hcsw : .csw csw ∈ x.packets b) :
    x.ResidueRight b csw ↔ x.MovesAll dev := by
  have heq := Exchange.csw_eq_of_finished h hcsw
  obtain ⟨datas, hpackets, hsettled⟩ := h
  have hsent : (dataOf (x.packets b)).length = byteCount datas := by
    rw [hpackets, dataOf_append_csw, length_dataOf]
  rw [Exchange.ResidueRight, Exchange.moved, heq, cswResidue_cswBytes, hsent, Nat.zero_add,
    Exchange.MovesAll]
  unfold Exchange.Settled at hsettled
  rcases hphase : x.dataPhase dev with - | - | - | -
  all_goals
    rw [hphase] at hsettled
    dsimp only at hsettled ⊢
  case none =>
    rw [hsettled.1, hsettled.2.2.1, ← UInt32.toNat_inj, UInt32.toNat_zero]
    omega
  case respond =>
    rw [hsettled.1, hsettled.2.2.1, ← UInt32.toNat_inj]
    omega
  case read =>
    rw [hsettled.1, hsettled.2.2.1]
    omega
  case write =>
    rw [hsettled.1]
    omega

/-- A CSW is queued only for a finished command. -/
theorem Ongoing.finished_of_csw {dev : Device} {x : Exchange} {b : Bot} {pc : MainPc}
    (h : Ongoing dev x b pc) {csw : List UInt8} (hcsw : .csw csw ∈ x.packets b) :
    x.cbw.validSignature = true ∧ x.Finished dev b := by
  rcases h.sent_or_finished with ⟨datas, hsent⟩ | hfinished
  · rw [hsent] at hcsw
    obtain ⟨bytes, -, hne⟩ := List.mem_map.mp hcsw
    cases hne
  · exact hfinished

/-- **The residue of a CSW** in an orderly run is right exactly if the command moves all of the host
length. -/
theorem residue_right_iff (dev : Device) (hinit : dev.initTxCtrl = .nak) (card : Card)
    (events : List Event)
    (hrun : Runs.Along (Session.step dev) Orderly (Session.init dev card) events) :
    let t := Runs.run (Session.step dev) (Session.init dev card) events
    ∀ csw, .csw csw ∈ t.exchange.packets t.sys.drive.bot →
      (t.exchange.ResidueRight t.sys.drive.bot csw ↔ t.exchange.MovesAll dev) := by
  intro t csw hcsw
  have hphase : t.InPhase dev := inPhase_run hinit card hrun
  exact (Ongoing.finished_of_csw hphase hcsw).2.residue hcsw

/-- The residue of an INQUIRY for 36 bytes. -/
theorem residue_right_iff_inquiry :
    let t := Runs.run (Session.step sampleDevice) (Session.init sampleDevice fun _ _ => 0)
      (sampleInquiry 36)
    ∀ csw, .csw csw ∈ t.exchange.packets t.sys.drive.bot →
      (t.exchange.ResidueRight t.sys.drive.bot csw ↔ t.exchange.MovesAll sampleDevice) :=
  residue_right_iff sampleDevice rfl (fun _ _ => 0) (sampleInquiry 36)
    ⟨⟨fun _ _ => rfl, fun _ => rfl⟩, ⟨fun _ => EpResponse.noConfusion, trivial⟩,
      ⟨fun _ => EpResponse.noConfusion, trivial⟩, trivial⟩

/-- An INQUIRY for 255 bytes gets 36 of them and a CSW that says that none is missing. -/
theorem residue_wrong_inquiry :
    let t := Runs.run (Session.step sampleDevice) (Session.init sampleDevice fun _ _ => 0)
      (sampleInquiry 255)
    Runs.Along (Session.step sampleDevice) Orderly (Session.init sampleDevice fun _ _ => 0)
        (sampleInquiry 255)
      ∧ ∃ csw, .csw csw ∈ t.exchange.packets t.sys.drive.bot
        ∧ ¬ t.exchange.ResidueRight t.sys.drive.bot csw := by
  intro t
  have hpackets : ∃ data, t.exchange.packets t.sys.drive.bot
      = [.data data, .csw (cswBytes t.exchange.cbw.tag .passed)] ∧ data.length = 36 :=
    ⟨_, rfl, rfl⟩
  obtain ⟨data, hpackets, hlen⟩ := hpackets
  have hmoved : t.exchange.moved t.sys.drive.bot = 36 := by
    rw [Exchange.moved, hpackets]
    show (data ++ []).length + min 0 _ = 36
    rw [List.append_nil, hlen, Nat.zero_min]
  refine ⟨⟨⟨fun _ _ => rfl, fun _ => rfl⟩, ⟨fun _ => EpResponse.noConfusion, trivial⟩,
    ⟨fun _ => EpResponse.noConfusion, trivial⟩, trivial⟩, _, hpackets ▸ List.mem_cons_of_mem _
      (List.mem_singleton_self _), ?_⟩
  rw [Exchange.ResidueRight, hmoved, cswResidue_cswBytes]
  have hhost : t.exchange.cbw.dataLen.toNat = 255 := by
    have hcbw : t.exchange.cbw = .ofPacket (cbwPacket 0x80 255 [0x12]) := rfl
    rw [hcbw]
    decide +kernel
  rw [hhost]
  decide

end PhantomDrive
