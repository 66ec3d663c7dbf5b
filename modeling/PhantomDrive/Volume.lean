/-
PhantomDrive/Volume.lean

The unlocked volume is an array of sectors.

The abstract model is the array itself: a WRITE(10) replaces a range, a READ(10) gives
a range back (`HostCommand.spec`).  The firmware's model is the drive under the same
commands: CBW, data packets, chunks of 60 sectors encrypted at once, the read ring
with its sector-by-sector decryption, CSW.  What connects them is `Drive.volume`, the
decrypted card seen from `LOCKED_SECTORS` on.

Main result: `runCommands_refines`.
-/
import PhantomDrive.Containment

namespace PhantomDrive

/-! ### Writing in parts -/

/-- Storing two stretches one behind the other is storing them at once. -/
theorem Card.write_append (card : Card) (lba : ℕ) (a b : List Sector) :
    card.write lba (a ++ b) = (card.write lba a).write (lba + a.length) b := by
  funext s
  unfold Card.write
  by_cases hs : lba ≤ s
  · rw [if_pos hs, if_pos hs]
    by_cases hb : lba + a.length ≤ s
    · rw [if_pos hb, List.getElem?_append_right (by omega),
        List.getElem?_eq_none (l := a) (by omega), Option.getD_none, Nat.sub_sub]
    · rw [if_neg hb, List.getElem?_append_left (by omega)]
  · rw [if_neg hs, if_neg hs, if_neg (by omega)]

@[simp] theorem Card.write_nil (card : Card) (lba : ℕ) : card.write lba [] = card := by
  funext s
  simp [Card.write]

/-! ### A write that succeeds -/

section Stores

variable {dev : Device}

/-- The packets of a stream are the sectors `data`: the first one lies in `endp1Rbuff` when the
stream starts a command. -/
def PacketsCarry (io : ℕ → ChunkIo) (rxBuff : Sector) (firstPacket : Bool)
    (data : List Sector) : Prop :=
  ∀ k i, i < 60 → 60 * k + i < data.length →
    data[60 * k + i]? = some
      (if firstPacket ∧ k = 0 ∧ i = 0 then rxBuff else (io k).packets i)

theorem PacketsCarry.receive {io : ℕ → ChunkIo} {rxBuff : Sector} {firstPacket : Bool}
    {data : List Sector} (h : PacketsCarry io rxBuff firstPacket data) :
    receiveChunkUsb2 rxBuff firstPacket (min data.length 60) (io 0).packets = data.take 60 := by
  apply List.ext_getElem?
  intro i
  by_cases hi : i < min data.length 60
  · have hget := h 0 i (by omega) (by omega)
    rw [Nat.mul_zero, Nat.zero_add] at hget
    rw [List.getElem?_take_of_lt (by omega), hget]
    simp [receiveChunkUsb2, hi]
  · rw [List.getElem?_eq_none (by rw [length_receiveChunkUsb2]; omega),
      List.getElem?_eq_none (by rw [List.length_take]; omega)]

theorem PacketsCarry.next {io : ℕ → ChunkIo} {rxBuff : Sector} {firstPacket : Bool}
    {data : List Sector} (h : PacketsCarry io rxBuff firstPacket data) :
    PacketsCarry (fun k => io (k + 1)) rxBuff false (data.drop 60) := by
  intro k i hi hlt
  rw [List.length_drop] at hlt
  have hget := h (k + 1) i hi (by omega)
  have hidx : 60 * (k + 1) + i = 60 + (60 * k + i) := by omega
  rw [List.getElem?_drop, ← hidx, hget]
  simp

/-- The sectors `data` as they lie on the card from the physical sector `lba` on. -/
def encrypted (dev : Device) (keys : AesKeys) (lba : UInt32) (data : List Sector) : List Sector :=
  phantomdriveEncryptBuf dev.ecdc dev.aesMode keys data lba

@[simp] theorem length_encrypted (keys : AesKeys) (lba : UInt32) (data : List Sector) :
    (encrypted dev keys lba data).length = data.length :=
  length_phantomdriveEncryptBuf ..

/-- Encrypting chunk by chunk at the following sectors is encrypting at once. -/
theorem encrypted_take_drop (keys : AesKeys) (lba : UInt32) (data : List Sector)
    (hlen : 60 ≤ data.length) :
    encrypted dev keys lba data
      = encrypted dev keys lba (data.take 60)
        ++ encrypted dev keys (lba + UInt32.ofNat 60) (data.drop 60) := by
  simp only [encrypted, phantomdriveEncryptBuf_eq_mapIdx]
  conv_lhs => rw [← List.take_append_drop 60 data, List.mapIdx_append]
  have hshift : ∀ i : ℕ, lba + UInt32.ofNat (i + (data.take 60).length)
      = lba + UInt32.ofNat 60 + UInt32.ofNat i := by
    intro i
    rw [List.length_take, Nat.min_eq_left hlen, UInt32.add_assoc, ← UInt32.ofNat_add,
      Nat.add_comm]
  simp only [hshift]

/-- The physical sectors of a stream inside the card follow each other. -/
theorem chunkLba_toNat {s : WriteStream} {d : Drive} (hlocked : d.phantom.isLocked = false)
    (hrange : s.lba.toNat + dev.lockedSectors.toNat + s.sectorsLeft ≤ dev.emmcSecNum.toNat) :
    (chunkLba dev s d).toNat = s.lba.toNat + dev.lockedSectors.toNat := by
  have hsec := dev.emmcSecNum.toNat_lt
  rw [chunkLba, hlocked, toNat_unlockedLba, Nat.mod_eq_of_lt (by omega)]

/-- **A stream inside the card stores its data encrypted and touches nothing else.** -/
theorem writeChunks_stores (dev : Device) (io : ℕ → ChunkIo) (s : WriteStream) (d : Drive)
    (data : List Sector)
    (hlocked : d.phantom.isLocked = false) (hok : ∀ k, (io k).outcome = .success)
    (hrange : s.lba.toNat + dev.lockedSectors.toNat + s.sectorsLeft ≤ dev.emmcSecNum.toNat)
    (hdata : data.length = s.sectorsLeft)
    (hpackets : PacketsCarry io d.rxBuff s.firstPacket data) :
    let d' := writeChunks dev io s d
    d'.card = d.card.write (s.lba.toNat + dev.lockedSectors.toNat)
        (encrypted dev d.keys (s.lba + dev.lockedSectors) data)
      ∧ d'.bot = d.bot ∧ d'.phantom = d.phantom ∧ d'.keys = d.keys := by
  induction hn : s.sectorsLeft using Nat.strong_induction_on generalizing io s d data with
  | _ n ih =>
    rcases Nat.eq_zero_or_pos s.sectorsLeft with hzero | hpos
    · obtain rfl : data = [] := List.eq_nil_of_length_eq_zero (by omega)
      rw [writeChunks_of_zero hzero]
      have hnil : encrypted dev d.keys (s.lba + dev.lockedSectors) [] = [] :=
        List.eq_nil_of_length_eq_zero (length_encrypted ..)
      exact ⟨by rw [hnil, Card.write_nil], rfl, rfl, rfl⟩
    have hcard : s.InCard dev d.phantom.isLocked 0 := by
      rw [WriteStream.inCard_zero_iff, outOfCard_eq_false_iff (by
        unfold WriteStream.chunkSectors; omega) (by unfold WriteStream.chunkSectors; omega),
        chunkLba_toNat hlocked hrange]
      unfold WriteStream.chunkSectors
      omega
    have hchunk : chunkData dev (io 0) s d
        = encrypted dev d.keys (s.lba + dev.lockedSectors) (data.take 60) := by
      have hreceive := hpackets.receive
      rw [hdata] at hreceive
      unfold chunkData
      rw [hlocked]
      simp only [Bool.false_eq_true, if_false, WriteStream.chunkSectors, hreceive]
      rfl
    have hphantom : chunkPhantom (io 0) s d = d.phantom := by
      unfold chunkPhantom
      rw [hlocked]
      rfl
    have hhanded : handedChunk dev (io 0) s d
        = { d with
            card := d.card.write (s.lba.toNat + dev.lockedSectors.toNat)
              (encrypted dev d.keys (s.lba + dev.lockedSectors) (data.take 60))
            log := (handedChunk dev (io 0) s d).log } := by
      unfold handedChunk
      rw [hphantom, hchunk, chunkLba_toNat hlocked hrange, hok 0]
      rfl
    rw [writeChunks_of_stored hpos hcard (by rw [hok 0]; rfl), hhanded]
    generalize (handedChunk dev (io 0) s d).log = log
    have hnext := s.next_sectorsLeft
    by_cases hlast : s.sectorsLeft ≤ 60
    · have hend : s.next.sectorsLeft = 0 := by omega
      rw [writeChunks_of_zero hend, List.take_of_length_le (by omega)]
      exact ⟨rfl, rfl, rfl, rfl⟩
    · have hlen : s.chunkSectors = 60 := by
        unfold WriteStream.chunkSectors
        omega
      have hlba : s.next.lba = s.lba + UInt32.ofNat 60 := by
        rw [WriteStream.next, hlen]
      have hsec := dev.emmcSecNum.toNat_lt
      have hnat : s.next.lba.toNat = s.lba.toNat + 60 := by
        rw [hlba, toNat_add_ofNat (by omega)]
      have hrest := ih s.next.sectorsLeft (by omega) (fun k => io (k + 1)) s.next
        ({ d with
          card := d.card.write (s.lba.toNat + dev.lockedSectors.toNat)
            (encrypted dev d.keys (s.lba + dev.lockedSectors) (data.take 60))
          log := log })
        (data.drop 60) hlocked (fun k => hok (k + 1)) (by omega)
        (by rw [List.length_drop]; omega) hpackets.next rfl
      refine ⟨?_, hrest.2⟩
      have hmove : s.next.lba + dev.lockedSectors
          = s.lba + dev.lockedSectors + UInt32.ofNat 60 := by
        rw [hlba, UInt32.add_assoc, UInt32.add_assoc, UInt32.add_comm (UInt32.ofNat 60)]
      rw [hrest.1, encrypted_take_drop d.keys _ data (by omega), Card.write_append,
        length_encrypted,
        List.length_take, hnat, hmove]
      have hmin : min 60 data.length = 60 := by omega
      rw [hmin, Nat.add_right_comm]

end Stores

/-! ### The array -/

/-- The array behind the unlocked drive: the card from `LOCKED_SECTORS` on, decrypted. -/
def Drive.volume (dev : Device) (d : Drive) : ℕ → Sector := fun s =>
  decryptSector dev.ecdc dev.aesMode d.keys (UInt32.ofNat (dev.lockedSectors.toNat + s))
    (d.card (dev.lockedSectors.toNat + s))

/-- A command of the host with the environment it meets. -/
inductive HostCommand
  /-- A WRITE(10) with its data: the first packet, and what the stream receives. -/
  | write (cbw packet : List UInt8) (data : List Sector) (io : ℕ → ChunkIo)
  /-- A WRITE(10) of no sectors without a data phase. -/
  | emptyWrite (cbw : List UInt8)
  | read (cbw : List UInt8) (io : ReadIo)

/-- The first host sector of a READ(10) or WRITE(10). -/
def cbwLba (cbw : List UInt8) : UInt32 := (BulkOnlyCmd.ofPacket cbw).lba

/-- The block count of a READ(10) or WRITE(10). -/
def cbwCount (cbw : List UInt8) : ℕ := (BulkOnlyCmd.ofPacket cbw).blockCount.toNat

/-- What a command does to the array, and the data it gives back. -/
def HostCommand.spec (v : ℕ → Sector) : HostCommand → List (List UInt8) × (ℕ → Sector)
  | .write cbw _ data _ => ([], Card.write v (cbwLba cbw).toNat data)
  | .emptyWrite _ => ([], v)
  | .read cbw _ =>
      ((List.range (cbwCount cbw)).map fun i => List.ofFn (v ((cbwLba cbw).toNat + i)), v)

/-- The data a sequence of commands gives back. -/
def specOutputs (v : ℕ → Sector) : List HostCommand → List (List (List UInt8))
  | [] => []
  | c :: commands => (c.spec v).1 :: specOutputs (c.spec v).2 commands

/-! ### The drive under the same commands -/

/-- The drive after a command and the IN completion of its CSW. -/
def HostCommand.step (dev : Device) (d : Drive) : HostCommand → Drive
  | .write cbw packet _ io => (executeWrite dev cbw packet io d).bulkIn dev
  | .emptyWrite cbw => (d.bulkOut dev cbw).bulkIn dev
  | .read cbw io => (executeRead dev cbw io d).1.bulkIn dev

/-- The bytes of a data packet. -/
def InPacket.payload : InPacket → Option (List UInt8)
  | .data bytes => some bytes
  | .csw _ => none

/-- The sectors of a read, out of the packets it queued. -/
theorem payloads_data_csw (f : ℕ → List UInt8) (n : ℕ) (csw : List UInt8) :
    (((List.range n).map fun i => InPacket.data (f i)) ++ [InPacket.csw csw]).filterMap
      InPacket.payload = (List.range n).map f := by
  rw [List.filterMap_append, List.filterMap_map]
  show List.filterMap (fun i => some (f i)) _ ++ [] = _
  rw [List.filterMap_eq_map', List.append_nil]

/-- The data packets queued on EP1 IN during a command. -/
def HostCommand.output (dev : Device) (d : Drive) (c : HostCommand) : List (List UInt8) :=
  ((c.step dev d).bot.queued.drop d.bot.queued.length).filterMap InPacket.payload

/-- The data packets queued during each command of a sequence. -/
def runOutputs (dev : Device) (d : Drive) : List HostCommand → List (List (List UInt8))
  | [] => []
  | c :: commands => c.output dev d :: runOutputs dev (c.step dev d) commands

/-- The range of a command lies inside the reported capacity. -/
def InCapacity (dev : Device) (cbw : List UInt8) : Prop :=
  (cbwLba cbw).toNat + cbwCount cbw ≤ dev.emmcSecNum.toNat - dev.lockedSectors.toNat

/-- The command lies inside the capacity and completes: its packets carry its data, the card
stores what it is given, the read loops are left. -/
def HostCommand.Completes (dev : Device) (d : Drive) : HostCommand → Prop
  | .write cbw packet data io =>
      IsWrite10 cbw (cbwLba cbw) data.length ∧ InCapacity dev cbw
        ∧ (∀ k, (io k).outcome = .success)
        ∧ PacketsCarry io (d.atStream dev cbw packet).rxBuff true data
  | .emptyWrite cbw => IsEmptyWrite10 cbw
  | .read cbw io =>
      IsRead10 cbw (cbwLba cbw) (cbwCount cbw) ∧ 1 ≤ cbwCount cbw ∧ InCapacity dev cbw
        ∧ (executeRead dev cbw io d).2 = true

/-- No command is in progress. -/
structure Drive.Idle (d : Drive) : Prop where
  flags : d.bot.transferFlags = .none
  readPending : d.bot.readPending = false
  writePending : d.bot.writePending = false

/-! ### One command -/

section Commands

variable {dev : Device} {d : Drive}

/-- An IN completion on a drive with no transfer flag changes nothing but the endpoint. -/
theorem bulkIn_of_none (h : d.bot.transferFlags = .none) :
    d.bulkIn dev = { d with bot := { d.bot with txCtrl := .nak } } := by
  unfold Drive.bulkIn botHandleBulkIn
  simp [h]

/-- The array depends on the card and the keys only. -/
theorem volume_congr {d' : Drive} (hcard : d'.card = d.card) (hkeys : d'.keys = d.keys) :
    d'.volume dev = d.volume dev := by
  unfold Drive.volume
  rw [hcard, hkeys]

/-- Writing encrypted sectors to the card writes their plaintext to the array. -/
theorem volume_write {d' : Drive} {lba : UInt32} {data : List Sector}
    (hcard : d'.card = d.card.write (lba.toNat + dev.lockedSectors.toNat)
      (encrypted dev d.keys (lba + dev.lockedSectors) data))
    (hkeys : d'.keys = d.keys) :
    d'.volume dev = Card.write (d.volume dev) lba.toNat data := by
  funext s
  by_cases hin : lba.toNat ≤ s ∧ s < lba.toNat + data.length
  · obtain ⟨i, rfl⟩ := Nat.exists_eq_add_of_le hin.1
    have hi : i < data.length := by omega
    have hphys : dev.lockedSectors.toNat + (lba.toNat + i)
        = lba.toNat + dev.lockedSectors.toNat + i := by omega
    have hlba : UInt32.ofNat (lba.toNat + dev.lockedSectors.toNat + i)
        = lba + dev.lockedSectors + UInt32.ofNat i := by
      rw [UInt32.ofNat_add, UInt32.ofNat_add, UInt32.ofNat_toNat, UInt32.ofNat_toNat]
    have hlen : i < (encrypted dev d.keys (lba + dev.lockedSectors) data).length := by
      rwa [length_encrypted]
    have hget : (encrypted dev d.keys (lba + dev.lockedSectors) data)[i]
        = encryptSector dev.ecdc dev.aesMode d.keys (lba + dev.lockedSectors + UInt32.ofNat i)
            data[i] := by
      simp [encrypted, phantomdriveEncryptBuf_eq_mapIdx]
    rw [Card.write_inside hi, Drive.volume, hphys, hcard, hkeys, Card.write_inside hlen, hget,
      hlba, decryptSector_encryptSector]
  · rw [Card.write_outside (by omega), Drive.volume, hcard, hkeys,
      Card.write_outside (by rw [length_encrypted]; omega)]
    rfl

/-- A command refines its meaning on the array: it gives back the same data, leaves the array
it should, and leaves the drive unlocked with no command in progress. -/
structure HostCommand.Refines (dev : Device) (d : Drive) (c : HostCommand) : Prop where
  output_eq : c.output dev d = (c.spec (d.volume dev)).1
  volume_eq : (c.step dev d).volume dev = (c.spec (d.volume dev)).2
  unlocked : (c.step dev d).phantom.isLocked = false
  idle : (c.step dev d).Idle

theorem write_refines {cbw packet : List UInt8} {data : List Sector} {io : ℕ → ChunkIo}
    (hcard : dev.lockedSectors.toNat < dev.emmcSecNum.toNat)
    (hlocked : d.phantom.isLocked = false) (hidle : d.Idle)
    (h : (HostCommand.write cbw packet data io).Completes dev d) :
    (HostCommand.write cbw packet data io).Refines dev d := by
  obtain ⟨hcbw, hcapacity, hok, hpackets⟩ := h
  have hcount : cbwCount cbw = data.length := hcbw.count_eq
  have hflags : d.bot.transferFlags.dataOut = false := by rw [hidle.flags]; rfl
  unfold InCapacity at hcapacity
  have hstores := writeChunks_stores dev io (writeStreamOf (cbwLba cbw) data.length)
    (d.atStream dev cbw packet) data
    hlocked hok (by show (cbwLba cbw).toNat + _ + data.length ≤ _; omega) rfl hpackets
  have hexecute := executeWrite_eq_stream dev packet io hcbw hflags
  generalize writeChunks dev io (writeStreamOf (cbwLba cbw) data.length)
    (d.atStream dev cbw packet) = d' at hstores hexecute
  obtain ⟨hwritten, hbot, hphantom, hkeys⟩ := hstores
  -- nothing failed, so the CSW is sent
  have hdone : d'.bot.transferBytesLeft = 0 := by rw [hbot]; rfl
  have hstep : (HostCommand.write cbw packet data io).step dev d
      = { d' with
          bot := { botSendCsw { d'.bot with
            transferFlags := { d'.bot.transferFlags with dataOut := false } } with
              rxCtrl := .ack
              txCtrl := .nak } } := by
    show (executeWrite dev cbw packet io d).bulkIn dev = _
    rw [hexecute]
    simp only [hdone, if_true]
    rw [bulkIn_of_none rfl]
  have hqueued : d'.bot.queued = d.bot.queued := by rw [hbot]; rfl
  have hkeys' : d'.keys = d.keys := hkeys
  have hwritten' : d'.card = d.card.write ((cbwLba cbw).toNat + dev.lockedSectors.toNat)
      (encrypted dev d.keys (cbwLba cbw + dev.lockedSectors) data) := hwritten
  have hvolume : d'.volume dev = Card.write (d.volume dev) (cbwLba cbw).toNat data :=
    volume_write hwritten' hkeys'
  constructor
  · rw [HostCommand.output, hstep]
    show ((d'.bot.queued ++ [_]).drop d.bot.queued.length).filterMap InPacket.payload = []
    rw [hqueued, List.drop_left]
    rfl
  · rw [hstep, HostCommand.spec, ← hvolume]
    exact volume_congr rfl rfl
  · rw [hstep]
    show d'.phantom.isLocked = false
    rw [hphantom]
    exact hlocked
  · rw [hstep]
    refine ⟨rfl, ?_, ?_⟩
    · show d'.bot.readPending = false
      rw [hbot]
      exact hidle.readPending
    · show d'.bot.writePending = false
      rw [hbot]
      rfl

theorem emptyWrite_refines {cbw : List UInt8} (hlocked : d.phantom.isLocked = false)
    (hidle : d.Idle) (h : (HostCommand.emptyWrite cbw).Completes dev d) :
    (HostCommand.emptyWrite cbw).Refines dev d := by
  have hbot : (d.bulkOut dev cbw).bot = botSendCsw (d.bot.parsedRw10 cbw) :=
    botHandleBulkOut_emptyWrite10 h hidle.flags
  have hstep : (HostCommand.emptyWrite cbw).step dev d
      = { d.bulkOut dev cbw with
          bot := { botSendCsw (d.bot.parsedRw10 cbw) with txCtrl := .nak } } := by
    show (d.bulkOut dev cbw).bulkIn dev = _
    rw [bulkIn_of_none (by rw [hbot]; rfl), hbot]
  constructor
  · rw [HostCommand.output, hstep]
    show ((d.bot.queued ++ [_]).drop d.bot.queued.length).filterMap InPacket.payload = []
    rw [List.drop_left]
    rfl
  · rw [hstep]
    rfl
  · rw [hstep]
    exact hlocked
  · rw [hstep]
    exact ⟨rfl, hidle.readPending, hidle.writePending⟩

/-- The sectors of a read as the request gives them are the sectors of the array. -/
theorem plain_eq_volume {lba : UInt32} {n i : ℕ} (hlocked : d.phantom.isLocked = false)
    (hrange : lba.toNat + dev.lockedSectors.toNat < 2 ^ 32) :
    (d.readRequest dev (computePhysicalLba dev false lba) n).plain i
      = d.volume dev (lba.toNat + i) := by
  have hnat : (computePhysicalLba dev false lba).toNat
      = lba.toNat + dev.lockedSectors.toNat := by
    rw [toNat_unlockedLba, Nat.mod_eq_of_lt hrange]
  have hsector : dev.lockedSectors.toNat + (lba.toNat + i)
      = (computePhysicalLba dev false lba).toNat + i := by omega
  have hlba : UInt32.ofNat ((computePhysicalLba dev false lba).toNat + i)
      = computePhysicalLba dev false lba + UInt32.ofNat i := by
    rw [UInt32.ofNat_add, UInt32.ofNat_toNat]
  have hdecrypt : ∀ at_ s, (d.readRequest dev (computePhysicalLba dev false lba) n).decrypt at_ s
      = decryptSector dev.ecdc dev.aesMode d.keys at_ s := by
    intro at_ s
    simp [Drive.readRequest, hlocked, phantomdriveDecryptBuf_eq_mapIdx]
  rw [ReadRequest.plain, hdecrypt, Drive.volume, hsector, hlba]
  rfl

theorem read_refines {cbw : List UInt8} {io : ReadIo}
    (hcard : dev.lockedSectors.toNat < dev.emmcSecNum.toNat)
    (hlocked : d.phantom.isLocked = false) (hidle : d.Idle)
    (h : (HostCommand.read cbw io).Completes dev d) :
    (HostCommand.read cbw io).Refines dev d := by
  obtain ⟨hcbw, hpos, hcapacity, hreturns⟩ := h
  have hflags : d.bot.transferFlags.dataOut = false := by rw [hidle.flags]; rfl
  have hsec := dev.emmcSecNum.toNat_lt
  unfold InCapacity at hcapacity
  have hbot : (d.bulkOut dev cbw).bot = { d.bot.parsedRw10 cbw with readPending := true } :=
    botHandleBulkOut_read10 hcbw hflags (by rw [hlocked]; rfl)
  have hsectors : (d.bot.parsedRw10 cbw).transferSectors = cbwCount cbw := by
    rw [transferSectors_parsedRw10]
    rfl
  let start : Drive := { d.bulkOut dev cbw with
    bot := { d.bot.parsedRw10 cbw with readPending := false } }
  have hexecute : executeRead dev cbw io d = mscReadSectors dev io start := by
    rw [executeRead, pollRead, hbot, if_pos rfl]
  have hsectors' : start.bot.transferSectors = cbwCount cbw := hsectors
  rw [hexecute] at hreturns
  -- the loops were left, so the sectors are queued and the CSW behind them
  obtain ⟨⟨csw, hqueued⟩, hflags', hread, hwrite, hphantom, hkeys, hcards⟩ :=
    mscReadSectors_of_returns (by omega) hreturns
  have hstep : (HostCommand.read cbw io).step dev d
      = { (mscReadSectors dev io start).1 with
          bot := { (mscReadSectors dev io start).1.bot with txCtrl := .nak } } := by
    show (executeRead dev cbw io d).1.bulkIn dev = _
    rw [hexecute, bulkIn_of_none hflags']
  have hlba : start.bot.currentLba = cbwLba cbw := rfl
  have hstart : start.phantom.isLocked = false := hlocked
  have hplain : ∀ i, (start.readRequest dev (computePhysicalLba dev start.phantom.isLocked
      start.bot.currentLba) (cbwCount cbw)).plain i
        = d.volume dev ((cbwLba cbw).toNat + i) := by
    intro i
    rw [hstart, hlba, plain_eq_volume hstart (by omega)]
    exact congrFun (volume_congr rfl rfl) _
  have hold : start.bot.queued = d.bot.queued := rfl
  constructor
  · rw [HostCommand.output, hstep]
    show ((mscReadSectors dev io start).1.bot.queued.drop d.bot.queued.length).filterMap
      InPacket.payload = _
    rw [hqueued, hold, List.append_assoc, List.drop_left, payloads_data_csw, hsectors']
    simp only [HostCommand.spec, hplain]
  · rw [hstep, HostCommand.spec]
    exact volume_congr hcards hkeys
  · rw [hstep]
    show (mscReadSectors dev io start).1.phantom.isLocked = false
    rw [hphantom]
    exact hlocked
  · rw [hstep]
    exact ⟨hflags', hread, hwrite.trans hidle.writePending⟩

theorem command_refines {c : HostCommand}
    (hcard : dev.lockedSectors.toNat < dev.emmcSecNum.toNat)
    (hlocked : d.phantom.isLocked = false) (hidle : d.Idle) (h : c.Completes dev d) :
    c.Refines dev d := by
  cases c with
  | write cbw packet data io => exact write_refines hcard hlocked hidle h
  | emptyWrite cbw => exact emptyWrite_refines hlocked hidle h
  | read cbw io => exact read_refines hcard hlocked hidle h

end Commands

/-! ### Sequences of commands -/

/-- **The unlocked volume is an array of sectors.**  From an unlocked drive with no command in
progress, every sequence of completed READ(10) and WRITE(10) commands inside the reported
capacity gives back what the array gives back, command by command. -/
theorem runCommands_refines (dev : Device) (d : Drive) (commands : List HostCommand)
    (hcard : dev.lockedSectors.toNat < dev.emmcSecNum.toNat)
    (hlocked : d.phantom.isLocked = false) (hidle : d.Idle)
    (hrun : Runs.Along (HostCommand.step dev) (fun d c => c.Completes dev d) d commands) :
    runOutputs dev d commands = specOutputs (d.volume dev) commands
      ∧ (Runs.run (HostCommand.step dev) d commands).volume dev
        = Runs.run (fun v c => (HostCommand.spec v c).2) (d.volume dev) commands := by
  induction commands generalizing d with
  | nil => exact ⟨rfl, rfl⟩
  | cons c commands ih =>
      have hc := command_refines hcard hlocked hidle hrun.1
      obtain ⟨houtputs, hvolume⟩ := ih (c.step dev d) hc.unlocked hc.idle hrun.2
      refine ⟨?_, ?_⟩
      · rw [runOutputs, specOutputs, hc.output_eq, houtputs, hc.volume_eq]
      · rw [Runs.run_cons, Runs.run_cons, hvolume, hc.volume_eq]

/-- A WRITE(10) of one sector of `0x11` to sector 0, and a READ(10) of that sector. -/
def sampleCommands : List HostCommand := [
  .write (cbwPacket 0 512 (rw10Cdb 0x2A 0 1)) (List.replicate 512 0x11) [fun _ => 0x11]
    fun _ => ⟨fun _ _ => 0, .success, fun _ => 0⟩,
  .read (cbwPacket 0x80 512 (rw10Cdb 0x28 0 1))
    ⟨fun _ _ => 0, [.card, .poll, .poll, .poll, .usb, .poll, .poll]⟩]

theorem sampleCommands_complete :
    Runs.Along (HostCommand.step sampleDevice) (fun d c => c.Completes sampleDevice d)
      (sampleDrive .unlocked) sampleCommands := by
  refine ⟨⟨?_, ?_, fun _ => rfl, ?_⟩, ⟨?_, ?_, ?_, ?_⟩, trivial⟩
  · exact ⟨by decide +kernel, by decide +kernel, Or.inl (by decide +kernel), rfl,
      by decide +kernel, by decide +kernel, by decide +kernel⟩
  · unfold InCapacity
    decide +kernel
  · intro k i hi hlt
    have hlt' : 60 * k + i < 1 := hlt
    obtain rfl : k = 0 := by omega
    obtain rfl : i = 0 := by omega
    refine congrArg some (funext fun i => ?_)
    show 0x11 = (List.replicate 512 (0x11 : UInt8)).getD i _
    have hi : i.val < (List.replicate 512 (0x11 : UInt8)).length := by
      rw [List.length_replicate]
      exact i.isLt
    rw [List.getD_eq_getElem _ _ hi, List.getElem_replicate]
  · exact ⟨by decide +kernel, by decide +kernel, by decide +kernel, rfl, rfl,
      by decide +kernel, by decide +kernel⟩
  · decide +kernel
  · unfold InCapacity
    decide +kernel
  · decide +kernel

theorem runCommands_refines_sample :
    runOutputs sampleDevice (sampleDrive .unlocked) sampleCommands
      = [[], [List.ofFn fun _ : Fin 512 => 0x11]] := by
  have h := (runCommands_refines sampleDevice (sampleDrive .unlocked) sampleCommands
    (by decide) rfl ⟨rfl, rfl, rfl⟩ sampleCommands_complete).1
  rw [h]
  have hcount : cbwCount (cbwPacket 0x80 512 (rw10Cdb 0x28 0 1)) = 1 := by decide +kernel
  have hlba : (cbwLba (cbwPacket 0x80 512 (rw10Cdb 0x28 0 1))).toNat = 0 := by decide +kernel
  have hlba' : (cbwLba (cbwPacket 0 512 (rw10Cdb 0x2A 0 1))).toNat = 0 := by decide +kernel
  simp only [sampleCommands, specOutputs, HostCommand.spec, hcount, hlba, hlba', List.range_one,
    List.map_cons, List.map_nil, Card.write]
  rfl

end PhantomDrive
