/-
PhantomDrive/ReadErrors.lean

READ(10) when the card fails.  `emmc_start_multiblock_read` masks the interrupt of the card, and the
loops of `read_stream_usb2` look at `BKGAP` and `TRANDONE` alone.  Here the card may answer a sector
with an error bit instead of these two.

Main results: a read on which every sector is answered by a gap or by the end of the transfer is the
read of `MscRead.lean` (`mscReadSectorsAnswered_of_events`); with an error among its sectors the
loops are never left and no CSW is sent (`mscReadSectorsAnswered_of_error`,
`mscReadSectorsAnswered_iff`).
-/
import PhantomDrive.Command
import PhantomDrive.ReadProgress
import PhantomDrive.Session

namespace PhantomDrive

/-! ### The card -/

/-- An error bit of `R16_EMMC_INT_FG`. -/
inductive EmmcError
  | tranErr
  | datTmo
  | fifoOv
  | response
deriving DecidableEq, Repr

/-- How the card answers a sector: with a gap or the end of the transfer, or with an error, and then
some of the slot may have been written. -/
inductive SectorAnswer
  | event
  | error (flag : EmmcError) (slot : Sector)

/-- `read_stream_usb2`, and the error bits raised meanwhile. -/
structure AnsweredRead where
  engine : ReadEngine
  errors : List EmmcError

/-- The card answers the sector it fills. -/
def AnsweredRead.cardEvent (r : ReadRequest) (answer : ℕ → SectorAnswer) (a : AnsweredRead) :
    AnsweredRead :=
  match answer a.engine.blocksRead with
  | .event => { a with engine := a.engine.cardEvent r }
  | .error flag slot =>
      if a.engine.running then
        { engine :=
            { a.engine with
              ring := Function.update a.engine.ring a.engine.dmaSlot slot
              running := false }
          errors := a.errors ++ [flag] }
      else a

/-- One event.  The polling loops do not read the error bits. -/
def AnsweredRead.step (r : ReadRequest) (answer : ℕ → SectorAnswer) (a : AnsweredRead) :
    ReadEvent → AnsweredRead
  | .card => a.cardEvent r answer
  | .usb => { a with engine := a.engine.usbEvent }
  | .poll => { a with engine := a.engine.poll r }

def AnsweredRead.init (ring : ℕ → Sector) : AnsweredRead := ⟨ReadEngine.init ring, []⟩

/-- `read_stream_usb2` on a card that answers so. -/
def readStreamAnswered (r : ReadRequest) (answer : ℕ → SectorAnswer) (ring : ℕ → Sector)
    (events : List ReadEvent) : Option (List Sector) :=
  let a := Runs.run (AnsweredRead.step r answer) (AnsweredRead.init ring) events
  if a.engine.phase = .stopped then some a.engine.delivered else none

/-- `finishReadStream` on a card that answers so. -/
def finishStreamAnswered (dev : Device) (answer : ℕ → SectorAnswer) (io : ReadIo)
    (actualLba : UInt32) (preqnum : ℕ) (d : Drive) : Drive × Bool :=
  match readStreamAnswered (d.readRequest dev actualLba preqnum) answer io.ring io.events with
  | none => (d, false)
  | some delivered =>
      let packets := delivered.map fun s => InPacket.data (List.ofFn s)
      ({ d with bot := { d.bot with queued := d.bot.queued ++ packets, txCtrl := .nak } }, true)

/-- `msc_read_sectors` on a card that answers so, and whether it returns. -/
def mscReadSectorsAnswered (dev : Device) (answer : ℕ → SectorAnswer) (io : ReadIo) (d : Drive) :
    Drive × Bool :=
  let preqnum := d.bot.transferSectors
  let d := { d with bot := { d.bot with transferBytesLeft := 0 } }
  let actualLba := computePhysicalLba dev d.phantom.isLocked d.bot.currentLba
  let r := finishStreamAnswered dev answer io actualLba preqnum (startReadStream actualLba preqnum d)
  if r.2 then
    let b := botSendCsw
      { r.1.bot with currentLba := r.1.bot.currentLba + UInt32.ofNat preqnum }
    let flags := { b.transferFlags with dataIn := false }
    ({ r.1 with bot := { b with transferFlags := flags } }, true)
  else r

/-! ### What has been answered -/

section Answered

variable {r : ReadRequest} {answer : ℕ → SectorAnswer} {a : AnsweredRead} {e : ReadEngine}

/-- The sectors the card has put into the ring were answered without an error, and the pipe counts
no others. -/
structure AnsweredRead.Answered (r : ReadRequest) (answer : ℕ → SectorAnswer) (a : AnsweredRead) :
    Prop where
  sound : a.engine.Sound r
  emmcDone_le : a.engine.pipe.emmcDone ≤ a.engine.blocksRead
  before : ∀ i < a.engine.blocksRead, answer i = .event

/-- An error stops the card; the slot it was filling is none of those that wait. -/
theorem sound_error (h : e.Sound r) (hrun : e.running = true) (slot : Sector) :
    { e with ring := Function.update e.ring e.dmaSlot slot, running := false }.Sound r := by
  obtain ⟨hphase, hbkgap, htran, hblocks, hroom⟩ := h.filling hrun
  obtain ⟨hlt, hslot, hdma⟩ := h.streaming hphase
  have husb := h.usb_le
  exact {
    usb_le := h.usb_le
    room := h.room
    usbSlot_eq := h.usbSlot_eq
    first_iff := h.first_iff
    tx_slot := h.tx_slot
    delivered_eq := h.delivered_eq
    ring_eq := by
      intro k hk hke
      have hk' : e.taken ≤ k := hk
      have htaken : e.pipe.usbDone ≤ e.taken + 1 := by
        unfold ReadEngine.taken
        split <;> omega
      have hne : k % 60 ≠ e.dmaSlot := by
        rw [hdma, hslot]
        exact slot_ne hke (by omega)
      show Function.update e.ring e.dmaSlot _ (k % 60) = _
      rw [Function.update_of_ne hne]
      exact h.ring_eq k hk' hke
    streaming := h.streaming
    filling := fun hr => absurd hr Bool.false_ne_true
    filled := by
      rintro (hf | hf)
      · exact absurd (hbkgap.symm.trans hf) Bool.false_ne_true
      · exact absurd (htran.symm.trans hf) Bool.false_ne_true
    bkgap_more := h.bkgap_more
    tranDone_last := h.tranDone_last
    paused := fun hp => ⟨rfl, (h.paused hp).2⟩
    drained := h.drained
    waiting := h.waiting
    stopped := h.stopped }

/-- The polling loops count a sector only when the card has put it into the ring. -/
theorem emmcDone_poll (h : e.Sound r) (hle : e.pipe.emmcDone ≤ e.blocksRead) :
    (e.poll r).pipe.emmcDone ≤ (e.poll r).blocksRead ∧ (e.poll r).blocksRead = e.blocksRead := by
  unfold ReadEngine.poll
  cases hphase : e.phase with
  | usb =>
    dsimp only
    unfold ReadEngine.usbPart
    split
    · dsimp only
      split
      · exact ⟨hle, rfl⟩
      · exact ⟨hle, rfl⟩
    · exact ⟨hle, rfl⟩
  | emmc =>
    dsimp only
    unfold ReadEngine.emmcPart
    by_cases hb : e.bkgap = true
    · have hmore : e.pipe.emmcDone + 1 ≤ e.blocksRead := (h.filled (Or.inl hb)).2.1.ge
      rw [if_pos hb]
      dsimp only
      split
      · exact ⟨hmore, rfl⟩
      · exact ⟨hmore, rfl⟩
    · rw [if_neg hb]
      by_cases ht : e.tranDone = true
      · have hmore : e.pipe.emmcDone + 1 ≤ e.blocksRead := (h.filled (Or.inr ht)).2.1.ge
        rw [if_pos ht]
        exact ⟨hmore, rfl⟩
      · rw [if_neg ht]
        exact ⟨hle, rfl⟩
  | drain =>
    dsimp only
    unfold ReadEngine.drainPass
    split
    · split
      · exact ⟨hle, rfl⟩
      · exact ⟨hle, rfl⟩
    · exact ⟨hle, rfl⟩
  | wait =>
    dsimp only
    split
    · exact ⟨hle, rfl⟩
    · exact ⟨hle, rfl⟩
  | stopped => exact ⟨hle, rfl⟩

theorem answered_cardEvent (h : a.Answered r answer) :
    (a.cardEvent r answer).Answered r answer := by
  unfold AnsweredRead.cardEvent
  cases hanswer : answer a.engine.blocksRead with
  | event =>
    refine ⟨sound_cardEvent h.sound, ?_, ?_⟩
    · show (a.engine.cardEvent r).pipe.emmcDone ≤ (a.engine.cardEvent r).blocksRead
      unfold ReadEngine.cardEvent
      split
      · exact Nat.le_succ_of_le h.emmcDone_le
      · exact h.emmcDone_le
    · show ∀ i < (a.engine.cardEvent r).blocksRead, answer i = .event
      unfold ReadEngine.cardEvent
      split
      · intro i hi
        rcases Nat.lt_succ_iff_lt_or_eq.mp hi with hlt | rfl
        · exact h.before i hlt
        · exact hanswer
      · exact h.before
  | error flag slot =>
    dsimp only
    split
    · rename_i hrun
      exact ⟨sound_error h.sound hrun slot, h.emmcDone_le, h.before⟩
    · exact h

theorem answered_step (event : ReadEvent) (h : a.Answered r answer) :
    (a.step r answer event).Answered r answer := by
  cases event with
  | card => exact answered_cardEvent h
  | usb =>
    have hsame : a.engine.usbEvent.pipe = a.engine.pipe
        ∧ a.engine.usbEvent.blocksRead = a.engine.blocksRead := by
      unfold ReadEngine.usbEvent
      split
      all_goals exact ⟨rfl, rfl⟩
    refine ⟨sound_usbEvent h.sound, ?_, ?_⟩
    · show a.engine.usbEvent.pipe.emmcDone ≤ a.engine.usbEvent.blocksRead
      rw [hsame.1, hsame.2]
      exact h.emmcDone_le
    · show ∀ i < a.engine.usbEvent.blocksRead, answer i = .event
      rw [hsame.2]
      exact h.before
  | poll =>
    obtain ⟨hle, hblocks⟩ := emmcDone_poll h.sound h.emmcDone_le
    refine ⟨sound_poll h.sound, hle, ?_⟩
    show ∀ i < (a.engine.poll r).blocksRead, answer i = .event
    rw [hblocks]
    exact h.before

theorem answered_run (answer : ℕ → SectorAnswer) (ring : ℕ → Sector) (hn : 0 < r.preqnum)
    (events : List ReadEvent) :
    (Runs.run (AnsweredRead.step r answer) (AnsweredRead.init ring) events).Answered r answer :=
  Runs.invariant_of_forall (fun _ event h => answered_step event h)
    ⟨sound_init ring hn, le_rfl, fun i hi => absurd hi (Nat.not_lt_zero i)⟩ events

/-- The loops are left only when no sector was answered by an error. -/
theorem readStreamAnswered_returns {ring : ℕ → Sector} {events : List ReadEvent}
    {delivered : List Sector} (hn : 0 < r.preqnum)
    (h : readStreamAnswered r answer ring events = some delivered) :
    ∀ i < r.preqnum, answer i = .event := by
  have hrun := answered_run answer ring hn events
  unfold readStreamAnswered at h
  generalize Runs.run (AnsweredRead.step r answer) (AnsweredRead.init ring) events = a at h hrun
  dsimp only at h
  split at h
  · rename_i hphase
    have hall := hrun.sound.drained (Or.inr (Or.inr hphase))
    have hle := hrun.emmcDone_le
    exact fun i hi => hrun.before i (by omega)
  · cases h

/-! ### A card without errors -/

/-- As long as the sectors of the command are answered by events, the errors play no part. -/
theorem answered_run_engine (ring : ℕ → Sector) (hn : 0 < r.preqnum)
    (hevent : ∀ i < r.preqnum, answer i = .event) (events : List ReadEvent) :
    (Runs.run (AnsweredRead.step r answer) (AnsweredRead.init ring) events).engine
      = Runs.run (ReadEngine.step r) (ReadEngine.init ring) events := by
  have hstep : ∀ (a : AnsweredRead) (event : ReadEvent), a.engine.Sound r →
      (a.step r answer event).engine = a.engine.step r event := by
    intro a event hs
    cases event with
    | card =>
      show (a.cardEvent r answer).engine = a.engine.cardEvent r
      unfold AnsweredRead.cardEvent
      by_cases hrun : a.engine.running = true
      · obtain ⟨hphase, -, -, hblocks, -⟩ := hs.filling hrun
        rw [hevent _ (hblocks ▸ (hs.streaming hphase).1)]
      · have hstill : a.engine.cardEvent r = a.engine := if_neg hrun
        cases answer a.engine.blocksRead with
        | event => rfl
        | error flag slot =>
          dsimp only
          rw [if_neg hrun, hstill]
    | usb => rfl
    | poll => rfl
  have hboth : ∀ (events : List ReadEvent) (a : AnsweredRead), a.engine.Sound r →
      (Runs.run (AnsweredRead.step r answer) a events).engine
        = Runs.run (ReadEngine.step r) a.engine events := by
    intro events
    induction events with
    | nil => exact fun _ _ => rfl
    | cons event events ih =>
      intro a hs
      rw [Runs.run_cons, Runs.run_cons, ← hstep a event hs]
      refine ih _ ?_
      rw [hstep a event hs]
      exact sound_step event hs
  exact hboth events (AnsweredRead.init ring) (sound_init ring hn)

theorem readStreamAnswered_of_events (ring : ℕ → Sector) (hn : 0 < r.preqnum)
    (hevent : ∀ i < r.preqnum, answer i = .event) (events : List ReadEvent) :
    readStreamAnswered r answer ring events = readStreamUsb2 r ring events := by
  unfold readStreamAnswered readStreamUsb2
  dsimp only
  rw [answered_run_engine ring hn hevent]

end Answered

/-! ### The command -/

section Command

variable {dev : Device} {answer : ℕ → SectorAnswer} {io : ReadIo} {d : Drive}

/-- The request of the READ(10) that `msc_read_sectors` executes. -/
def Drive.currentRequest (dev : Device) (d : Drive) : ReadRequest :=
  d.readRequest dev (computePhysicalLba dev d.phantom.isLocked d.bot.currentLba)
    d.bot.transferSectors

/-- The drive at the read command to the card. -/
def Drive.readStarted (dev : Device) (d : Drive) : Drive :=
  startReadStream (computePhysicalLba dev d.phantom.isLocked d.bot.currentLba) d.bot.transferSectors
    { d with bot := { d.bot with transferBytesLeft := 0 } }

theorem mscReadSectorsAnswered_of_none
    (h : readStreamAnswered (d.currentRequest dev) answer io.ring io.events = none) :
    mscReadSectorsAnswered dev answer io d = (d.readStarted dev, false) := by
  have hstream : finishStreamAnswered dev answer io
      (computePhysicalLba dev d.phantom.isLocked d.bot.currentLba) d.bot.transferSectors
      (d.readStarted dev) = (d.readStarted dev, false) := by
    have hnone : readStreamAnswered ((d.readStarted dev).readRequest dev
        (computePhysicalLba dev d.phantom.isLocked d.bot.currentLba) d.bot.transferSectors) answer
        io.ring io.events = none := h
    rw [finishStreamAnswered, hnone]
  unfold mscReadSectorsAnswered
  dsimp only
  rw [← Drive.readStarted, hstream]
  exact if_neg Bool.false_ne_true

/-- **An error**: the loops are not left, in whatever order the card, the host and the polling loop
go on; behind the read command nothing happens. -/
theorem mscReadSectorsAnswered_of_error {i : ℕ} (hi : i < d.bot.transferSectors)
    (herror : answer i ≠ .event) :
    mscReadSectorsAnswered dev answer io d = (d.readStarted dev, false) := by
  apply mscReadSectorsAnswered_of_none
  rcases hreturns : readStreamAnswered (d.currentRequest dev) answer io.ring io.events
    with - | delivered
  · rfl
  · have hn : 0 < (d.currentRequest dev).preqnum := Nat.zero_lt_of_lt hi
    exact absurd (readStreamAnswered_returns hn hreturns i hi) herror

/-- A card that reports no error. -/
theorem mscReadSectorsAnswered_of_events (hn : 1 ≤ d.bot.transferSectors)
    (hevent : ∀ i < d.bot.transferSectors, answer i = .event) :
    mscReadSectorsAnswered dev answer io d = mscReadSectors dev io d := by
  have hstream : ∀ d' : Drive, finishStreamAnswered dev answer io
      (computePhysicalLba dev d.phantom.isLocked d.bot.currentLba) d.bot.transferSectors d'
        = finishReadStream dev io (computePhysicalLba dev d.phantom.isLocked d.bot.currentLba)
          d.bot.transferSectors d' := by
    intro d'
    have hn' : 0 < (d'.readRequest dev (computePhysicalLba dev d.phantom.isLocked
      d.bot.currentLba) d.bot.transferSectors).preqnum := hn
    have hsame := readStreamAnswered_of_events io.ring hn' hevent io.events
    unfold finishStreamAnswered finishReadStream
    rcases hstream : readStreamUsb2 (d'.readRequest dev (computePhysicalLba dev d.phantom.isLocked
      d.bot.currentLba) d.bot.transferSectors) io.ring io.events with - | delivered
    · simp only [hsame, hstream]
    · simp only [hsame, hstream]
  unfold mscReadSectorsAnswered mscReadSectors
  dsimp only
  rw [hstream]

theorem finishReadStream_frame (dev : Device) (io : ReadIo) (actualLba : UInt32) (preqnum : ℕ)
    (d : Drive) :
    (finishReadStream dev io actualLba preqnum d).1.bot.cswStatus = d.bot.cswStatus
      ∧ (finishReadStream dev io actualLba preqnum d).1.bot.cbwTag = d.bot.cbwTag := by
  unfold finishReadStream
  split
  all_goals exact ⟨rfl, rfl⟩

/-- When the loops are left, `msc_read_sectors` returns. -/
theorem mscReadSectors_returns {delivered : List Sector}
    (h : readStreamUsb2 (d.currentRequest dev) io.ring io.events = some delivered) :
    (mscReadSectors dev io d).2 = true := by
  have hstream : readStreamUsb2 ((d.readStarted dev).readRequest dev
      (computePhysicalLba dev d.phantom.isLocked d.bot.currentLba) d.bot.transferSectors) io.ring
      io.events = some delivered := h
  have hreturns : (finishReadStream dev io (computePhysicalLba dev d.phantom.isLocked
      d.bot.currentLba) d.bot.transferSectors (d.readStarted dev)).2 = true := by
    rw [finishReadStream, hstream]
  unfold mscReadSectors
  dsimp only
  rw [← Drive.readStarted, if_pos hreturns]

/-- A read that returns has queued the CSW of the status that the command had. -/
theorem mscReadSectors_csw (h : (mscReadSectors dev io d).2 = true) :
    (mscReadSectors dev io d).1.bot.txBuff = .csw (cswBytes d.bot.cbwTag d.bot.cswStatus)
      ∧ (mscReadSectors dev io d).1.bot.cswStatus = d.bot.cswStatus := by
  obtain ⟨hstatus, htag⟩ := finishReadStream_frame dev io
    (computePhysicalLba dev d.phantom.isLocked d.bot.currentLba) d.bot.transferSectors
    (d.readStarted dev)
  unfold mscReadSectors at h ⊢
  dsimp only at h ⊢
  rw [← Drive.readStarted] at h ⊢
  generalize finishReadStream dev io (computePhysicalLba dev d.phantom.isLocked d.bot.currentLba)
    d.bot.transferSectors (d.readStarted dev) = r at h hstatus htag ⊢
  by_cases hreturns : r.2 = true
  · rw [if_pos hreturns]
    refine ⟨?_, hstatus⟩
    show (botSendCsw _).txBuff = _
    rw [botSendCsw_txBuff]
    exact congrArg InPacket.csw (congrArg₂ cswBytes htag hstatus)
  · rw [if_neg hreturns] at h
    exact absurd h hreturns

/-- A READ(10) that keeps its word: under a fair order of steps it returns, and its CSW tells
whether every sector was read without an error. -/
def ReadsTruly (dev : Device) (answer : ℕ → SectorAnswer) (ring : ℕ → Sector) (d : Drive) : Prop :=
  let AllRead := ∀ i < d.bot.transferSectors, answer i = .event
  (∀ schedule : ℕ → ReadEvent, Runs.Fair schedule →
      ∃ k, (mscReadSectorsAnswered dev answer ⟨ring, (List.range k).map schedule⟩ d).2 = true)
    ∧ ∀ events : List ReadEvent,
        let r := mscReadSectorsAnswered dev answer ⟨ring, events⟩ d
        r.2 = true → r.1.bot.txBuff = .csw (cswBytes d.bot.cbwTag r.1.bot.cswStatus)
          ∧ (AllRead ∧ r.1.bot.cswStatus = .passed
            ∨ ¬AllRead ∧ r.1.bot.cswStatus = .failed ∧ r.1.bot.senseKey ≠ senseKeyNoError)

theorem ReadsTruly.no_error {ring : ℕ → Sector} (h : ReadsTruly dev answer ring d) {i : ℕ}
    (hi : i < d.bot.transferSectors) : answer i = .event := by
  by_contra herror
  obtain ⟨k, hk⟩ := h.1 inTurn inTurn_fair
  rw [mscReadSectorsAnswered_of_error hi herror] at hk
  cases hk

/-- **READ(10)** of at least one sector, accepted with the status that `scsi_parse_rw10_cdb` gives
it: the command ends and its CSW is true exactly when the card reports no error. -/
theorem mscReadSectorsAnswered_iff (dev : Device) (answer : ℕ → SectorAnswer) (ring : ℕ → Sector)
    (d : Drive) (hn : 1 ≤ d.bot.transferSectors) (hpassed : d.bot.cswStatus = .passed) :
    ReadsTruly dev answer ring d ↔ ∀ i < d.bot.transferSectors, answer i = .event := by
  constructor
  · exact fun h i => h.no_error
  · intro hall
    have hsame : ∀ io, mscReadSectorsAnswered dev answer io d = mscReadSectors dev io d :=
      fun _ => mscReadSectorsAnswered_of_events hn hall
    refine ⟨fun schedule hfair => ?_, fun events hreturns => ?_⟩
    · obtain ⟨k, hk⟩ := readStreamUsb2_eventually (r := d.currentRequest dev) ring hn hfair
      refine ⟨k, ?_⟩
      rw [hsame]
      exact mscReadSectors_returns hk
    · rw [hsame] at hreturns ⊢
      obtain ⟨hcsw, hstatus⟩ := mscReadSectors_csw hreturns
      rw [hstatus]
      exact ⟨hcsw, Or.inl ⟨hall, hpassed⟩⟩

end Command

/-- A READ(10) of one sector, accepted. -/
def sampleRead : Drive :=
  let d := sampleDrive .locked
  { d with bot := { d.bot with transferBytesLeft := 512, cswStatus := .passed } }

theorem mscReadSectorsAnswered_iff_no_error :
    ReadsTruly sampleDevice (fun _ => .event) (fun _ _ => 0) sampleRead :=
  (mscReadSectorsAnswered_iff sampleDevice (fun _ => .event) (fun _ _ => 0) sampleRead (by decide)
    rfl).mpr fun _ _ => rfl

/-- The data of one sector do not come in time. -/
theorem mscReadSectorsAnswered_data_timeout :
    ¬ ReadsTruly sampleDevice (fun _ => .error .datTmo fun _ => 0) (fun _ _ => 0) sampleRead := by
  intro h
  have hfirst : 0 < sampleRead.bot.transferSectors := by decide
  exact SectorAnswer.noConfusion (h.no_error hfirst)

end PhantomDrive
