/-
PhantomDrive/ReadProgress.lean

The read ring makes progress: wherever the card, the host and the polling loop stand,
one of them has something to do, and when all of them go on, `read_stream_usb2` returns.

The invariant (`ReadEngine.Live`) says what is never forgotten: a card that stands still
has a sector to report or waits for room in a full ring, and a packet that was taken has
raised its flag.  Main result: `readStreamUsb2_spec`.
-/
import PhantomDrive.Command

namespace PhantomDrive

/-! ### Nothing is forgotten -/

structure ReadEngine.Live (e : ReadEngine) : Prop where
  card : e.phase = .usb ∨ e.phase = .emmc →
    e.running = true ∨ e.bkgap = true ∨ e.tranDone = true
      ∨ e.pipe.emmcPausedForUsbBuffer = true
  usb : e.phase ≠ .stopped → 0 < e.pipe.usbDone → e.txSlot = none → e.transfer = true
  full : e.pipe.emmcPausedForUsbBuffer = true →
    (e.phase = .usb ∨ e.phase = .emmc) ∧ e.pipe.emmcDone - e.pipe.usbDone = 58

theorem live_init (ring : ℕ → Sector) : (ReadEngine.init ring).Live where
  card := fun _ => Or.inl rfl
  usb := fun _ hpos => absurd hpos (Nat.lt_irrefl 0)
  full := fun hp => (Bool.false_ne_true hp).elim

section Steps

variable {r : ReadRequest} {e : ReadEngine}

theorem live_usbEvent (h : e.Live) : e.usbEvent.Live := by
  unfold ReadEngine.usbEvent
  split
  · exact ⟨h.card, fun _ _ _ => rfl, h.full⟩
  · exact h

theorem live_cardEvent (h : e.Live) : (e.cardEvent r).Live := by
  unfold ReadEngine.cardEvent
  split
  · refine ⟨fun _ => Or.inr ?_, h.usb, h.full⟩
    by_cases hmore : e.blocksRead + 1 < r.preqnum
    · exact Or.inl (decide_eq_true hmore)
    · exact Or.inr (Or.inl (decide_eq_true (Nat.not_lt.mp hmore)))
  · exact h

/-- The USB part of a pass: the card goes on if it was paused. -/
theorem live_usbPart (h : e.Live) (hphase : e.phase = .usb) :
    { e.usbPart with phase := .emmc }.Live := by
  have hcard := h.card (Or.inl hphase)
  unfold ReadEngine.usbPart
  by_cases hsend : (e.pipe.hasSafeUsbSector && (e.transfer || e.pipe.usbFirstPacket)) = true
  · rw [if_pos hsend]
    dsimp only
    by_cases hpaused : e.sendSector.pipe.emmcPausedForUsbBuffer = true
    · rw [if_pos hpaused]
      exact ⟨fun _ => Or.inl rfl, fun _ _ htx => absurd htx (Option.some_ne_none _),
        fun hp => (Bool.false_ne_true hp).elim⟩
    · rw [if_neg hpaused]
      exact ⟨fun _ => hcard, fun _ _ htx => absurd htx (Option.some_ne_none _),
        fun hp => absurd hp hpaused⟩
  · rw [if_neg hsend]
    refine ⟨fun _ => hcard, fun _ => h.usb (by rw [hphase]; exact ReadPhase.noConfusion),
      fun hp => ⟨Or.inr rfl, (h.full hp).2⟩⟩

/-- The eMMC part of a pass: the card goes on, or the ring is full. -/
theorem live_emmcPart (hs : e.Sound r) (h : e.Live) (hphase : e.phase = .emmc) :
    (e.emmcPart r).Live := by
  have husb := h.usb (by rw [hphase]; exact ReadPhase.noConfusion)
  unfold ReadEngine.emmcPart
  by_cases hb : e.bkgap = true
  · obtain ⟨-, -, hroom, -⟩ := hs.filled (Or.inl hb)
    rw [if_pos hb]
    dsimp only
    split
    · refine ⟨fun _ => Or.inl rfl, fun _ => husb, fun hp => ?_⟩
      have hnot := (hs.paused hp).2.1
      exact absurd (hnot.symm.trans hb) Bool.false_ne_true
    · rename_i hspace
      have hfull : ¬ e.pipe.emmcDone + 1 - e.pipe.usbDone < 58 := fun hlt =>
        hspace (decide_eq_true hlt)
      refine ⟨fun _ => Or.inr (Or.inr (Or.inr rfl)), fun _ => husb, fun _ => ⟨Or.inl rfl, ?_⟩⟩
      show e.pipe.emmcDone + 1 - e.pipe.usbDone = 58
      omega
  rw [if_neg hb]
  by_cases ht : e.tranDone = true
  · rw [if_pos ht]
    refine ⟨fun hp => ?_, fun _ => husb, fun hp => ?_⟩
    · rcases hp with hp | hp <;> cases hp
    · have hnot := (hs.paused hp).2.2.1
      exact absurd (hnot.symm.trans ht) Bool.false_ne_true
  · rw [if_neg ht]
    exact ⟨fun _ => h.card (Or.inr hphase), fun _ => husb,
      fun hp => ⟨Or.inl rfl, (h.full hp).2⟩⟩

theorem live_drainPass (h : e.Live) (hphase : e.phase = .drain) : e.drainPass.Live := by
  have hfull : ∀ {P : Prop}, e.pipe.emmcPausedForUsbBuffer = true → P := by
    intro P hp
    rcases (h.full hp).1 with hp | hp
    · rw [hphase] at hp
      cases hp
    · rw [hphase] at hp
      cases hp
  unfold ReadEngine.drainPass
  split
  · split
    · refine ⟨fun hp => ?_, fun _ _ htx => absurd htx (Option.some_ne_none _), hfull⟩
      have hp' : e.phase = .usb ∨ e.phase = .emmc := hp
      rw [hphase] at hp'
      rcases hp' with hp' | hp' <;> cases hp'
    · exact h
  · refine ⟨fun hp => ?_, fun _ => h.usb (by rw [hphase]; exact ReadPhase.noConfusion), hfull⟩
    rcases hp with hp | hp <;> cases hp

theorem live_poll (hs : e.Sound r) (h : e.Live) : (e.poll r).Live := by
  unfold ReadEngine.poll
  cases hphase : e.phase with
  | usb => exact live_usbPart h hphase
  | emmc => exact live_emmcPart hs h hphase
  | drain => exact live_drainPass h hphase
  | wait =>
    dsimp only
    split
    · refine ⟨fun hp => ?_, fun hne => absurd rfl hne, fun hp => ?_⟩
      · rcases hp with hp | hp <;> cases hp
      · have hstream := (h.full hp).1
        rw [hphase] at hstream
        rcases hstream with hp | hp <;> cases hp
    · exact h
  | stopped => exact h

theorem live_step (event : ReadEvent) (hs : e.Sound r) (h : e.Live) : (e.step r event).Live := by
  cases event with
  | card => exact live_cardEvent h
  | usb => exact live_usbEvent h
  | poll => exact live_poll hs h

end Steps

/-! ### Rank -/

/-- How far a phase is from the end. -/
def ReadPhase.left : ReadPhase → ℕ
  | .usb | .emmc => 3
  | .drain => 2
  | .wait => 1
  | .stopped => 0

/-- What is left to do, for the card, the polling loop and the host. -/
def ReadEngine.work (r : ReadRequest) (e : ReadEngine) : ℕ :=
  (r.preqnum - e.blocksRead) + (r.preqnum - e.pipe.emmcDone) + (r.preqnum - e.pipe.usbDone)
    + (r.preqnum - e.taken) + e.phase.left

/-- Which of the three has to take the next step. -/
def ReadEngine.helpful (e : ReadEngine) : ReadEvent :=
  if e.running then .card else if e.txSlot.isSome then .usb else .poll

/-- When it is the polling loop: the half of a pass it stands before is not the one that helps. -/
def ReadEngine.turn (e : ReadEngine) : ℕ :=
  if e.running || e.txSlot.isSome then 0
  else
    match e.phase with
    | .usb => if e.pipe.emmcPausedForUsbBuffer then 0 else 1
    | .emmc => if e.pipe.emmcPausedForUsbBuffer then 1 else 0
    | _ => 0

def ReadEngine.rank (r : ReadRequest) (e : ReadEngine) : ℕ := 2 * e.work r + e.turn

theorem ReadEngine.turn_le (e : ReadEngine) : e.turn ≤ 1 := by
  unfold ReadEngine.turn
  split
  · exact Nat.zero_le _
  split
  · split <;> simp
  · split <;> simp
  · exact Nat.zero_le _

/-- Less work is a lower rank, whose turn it may be. -/
theorem rank_lt_of_work_lt {r : ReadRequest} {e e' : ReadEngine} (h : e'.work r < e.work r) :
    e'.rank r < e.rank r := by
  have hle := e'.turn_le
  unfold ReadEngine.rank
  omega

section Rank

variable {r : ReadRequest} {e : ReadEngine}

theorem emmcDone_le (hs : e.Sound r) : e.pipe.emmcDone ≤ r.preqnum := by
  by_cases hstream : e.phase = .usb ∨ e.phase = .emmc
  · exact (hs.streaming hstream).1.le
  · refine (hs.drained ?_).le
    cases hphase : e.phase with
    | usb => exact absurd (Or.inl hphase) hstream
    | emmc => exact absurd (Or.inr hphase) hstream
    | drain => exact Or.inl rfl
    | wait => exact Or.inr (Or.inl rfl)
    | stopped => exact Or.inr (Or.inr rfl)

/-- A packet can be sent when none is in transmission. -/
theorem may_send (hs : e.Sound r) (h : e.Live) (hstopped : e.phase ≠ .stopped)
    (htx : e.txSlot = none) : (e.transfer || e.pipe.usbFirstPacket) = true := by
  rcases Nat.eq_zero_or_pos e.pipe.usbDone with hzero | hpos
  · rw [hs.first_iff.mpr hzero, Bool.or_true]
  · rw [h.usb hstopped hpos htx, Bool.true_or]

/-- A packet that is sent is work done, wherever the engine goes on in the same loop. -/
theorem work_sendSector (hs : e.Sound r) (hlt : e.pipe.usbDone < e.pipe.emmcDone)
    (htx : e.txSlot = none) {e' : ReadEngine} (hblocks : e'.blocksRead = e.blocksRead)
    (hemmc : e'.pipe.emmcDone = e.pipe.emmcDone) (husb : e'.pipe.usbDone = e.pipe.usbDone + 1)
    (htx' : e'.txSlot.isSome = true) (hphase : e'.phase.left = e.phase.left) :
    e'.work r < e.work r := by
  have hle := emmcDone_le hs
  have htaken : e.taken = e.pipe.usbDone := by simp [ReadEngine.taken, htx]
  have htaken' : e'.taken = e.pipe.usbDone := by simp [ReadEngine.taken, htx', husb]
  unfold ReadEngine.work
  rw [hblocks, hemmc, husb, htaken, htaken', hphase]
  omega

/-- A change of phase within the first loop is no work, and nobody else's turn. -/
theorem rank_phase {phase : ReadPhase} (hbusy : (e.running || e.txSlot.isSome) = true)
    (hleft : phase.left = e.phase.left) :
    { e with phase := phase }.rank r = e.rank r := by
  have hturn : ∀ e' : ReadEngine, e'.running = e.running → e'.txSlot = e.txSlot → e'.turn = 0 := by
    intro e' hrun htx
    rw [ReadEngine.turn, hrun, htx, if_pos hbusy]
  unfold ReadEngine.rank
  rw [hturn e rfl rfl, hturn { e with phase := phase } rfl rfl]
  unfold ReadEngine.work
  rw [hleft]
  rfl

theorem helpful_ne_poll (hbusy : (e.running || e.txSlot.isSome) = true) : .poll ≠ e.helpful := by
  unfold ReadEngine.helpful
  split
  · exact ReadEvent.noConfusion
  · rename_i hrun
    rw [Bool.not_eq_true] at hrun
    rw [hrun, Bool.false_or] at hbusy
    rw [if_pos hbusy]
    exact ReadEvent.noConfusion

/-- Within the first loop, a change of phase is the turn of the polling loop or changes nothing. -/
theorem rank_drops_phase {phase : ReadPhase} (hleft : phase.left = e.phase.left)
    (hturn : (e.running || e.txSlot.isSome) = false →
      { e with phase := phase }.turn < e.turn) :
    { e with phase := phase }.rank r < e.rank r
      ∨ { e with phase := phase }.rank r = e.rank r ∧ .poll ≠ e.helpful
        ∧ { e with phase := phase }.helpful = e.helpful := by
  cases hbusy : e.running || e.txSlot.isSome with
  | true => exact Or.inr ⟨rank_phase hbusy hleft, helpful_ne_poll hbusy, rfl⟩
  | false =>
    have hlt := hturn hbusy
    have hwork : { e with phase := phase }.work r = e.work r := by
      unfold ReadEngine.work
      rw [hleft]
      rfl
    left
    unfold ReadEngine.rank
    rw [hwork]
    omega

/-- **The polling loop** lowers the rank, or waits for another. -/
theorem rank_poll (hs : e.Sound r) (h : e.Live) (hn : 0 < r.preqnum)
    (hstopped : e.phase ≠ .stopped) :
    (e.poll r).rank r < e.rank r
      ∨ (e.poll r).rank r = e.rank r ∧ .poll ≠ e.helpful ∧ (e.poll r).helpful = e.helpful := by
  have hle := emmcDone_le hs
  unfold ReadEngine.poll
  cases hphase : e.phase with
  | usb =>
    dsimp only
    by_cases hsend : (e.pipe.hasSafeUsbSector && (e.transfer || e.pipe.usbFirstPacket)) = true
    · left
      have hsafe := hsend
      simp only [ReadPipe.hasSafeUsbSector, Bool.and_eq_true, decide_eq_true_eq] at hsafe
      have htx := txSlot_eq_none hs hsafe.2
      refine rank_lt_of_work_lt (work_sendSector hs (by omega) htx ?_ ?_ ?_ ?_ ?_)
      all_goals
        unfold ReadEngine.usbPart
        rw [if_pos hsend]
        dsimp only
      · split <;> rfl
      · split <;> rfl
      · split <;> rfl
      · split <;> rfl
      · rw [hphase]
        rfl
    · have hsame : e.usbPart = e := by rw [ReadEngine.usbPart, if_neg hsend]
      rw [hsame]
      refine rank_drops_phase (by rw [hphase]; rfl) fun hquiet => ?_
      have htx : e.txSlot = none := by
        rw [Bool.or_eq_false_iff] at hquiet
        simpa using hquiet.2
      have hpaused : e.pipe.emmcPausedForUsbBuffer = false := by
        by_contra hp
        rw [Bool.not_eq_false] at hp
        have hgap := (h.full hp).2
        refine hsend ?_
        rw [may_send hs h hstopped htx, Bool.and_true, ReadPipe.hasSafeUsbSector,
          Bool.and_eq_true, decide_eq_true_eq, decide_eq_true_eq]
        omega
      have hquiet' : ¬ (e.running || e.txSlot.isSome) = true := by
        rw [hquiet]
        exact Bool.false_ne_true
      simp only [ReadEngine.turn, hphase, hpaused, if_neg hquiet']
      decide
  | emmc =>
    have hlt := (hs.streaming (Or.inr hphase)).1
    dsimp only
    unfold ReadEngine.emmcPart
    by_cases hb : e.bkgap = true
    · left
      rw [if_pos hb]
      refine rank_lt_of_work_lt ?_
      dsimp only
      split
      · simp only [ReadEngine.work, ReadEngine.taken, ReadEngine.completeSlot, ReadPhase.left, hphase]
        omega
      · simp only [ReadEngine.work, ReadEngine.taken, ReadEngine.completeSlot, ReadPhase.left, hphase]
        omega
    rw [if_neg hb]
    by_cases ht : e.tranDone = true
    · left
      rw [if_pos ht]
      refine rank_lt_of_work_lt ?_
      simp only [ReadEngine.work, ReadEngine.taken, ReadEngine.completeSlot, ReadPhase.left, hphase]
      omega
    · rw [if_neg ht]
      refine rank_drops_phase (by rw [hphase]; rfl) fun hquiet => ?_
      have hrun : e.running = false := (Bool.or_eq_false_iff.mp hquiet).1
      have hpaused : e.pipe.emmcPausedForUsbBuffer = true := by
        rcases h.card (Or.inr hphase) with hr | hb' | ht' | hp
        · exact absurd (hrun.symm.trans hr) Bool.false_ne_true
        · exact absurd hb' hb
        · exact absurd ht' ht
        · exact hp
      have hquiet' : ¬ (e.running || e.txSlot.isSome) = true := by
        rw [hquiet]
        exact Bool.false_ne_true
      simp only [ReadEngine.turn, hphase, hpaused, if_neg hquiet']
      decide
  | drain =>
    dsimp only
    unfold ReadEngine.drainPass
    by_cases hmore : e.pipe.usbDone < e.pipe.emmcDone
    · rw [if_pos hmore]
      by_cases hsend : (e.transfer || e.pipe.usbFirstPacket) = true
      · rw [if_pos hsend]
        exact Or.inl (rank_lt_of_work_lt
          (work_sendSector hs hmore (txSlot_eq_none hs hsend) rfl rfl rfl rfl rfl))
      · rw [if_neg hsend]
        refine Or.inr ⟨rfl, helpful_ne_poll ?_, rfl⟩
        rcases htx : e.txSlot with - | slot
        · exact absurd (may_send hs h hstopped htx) hsend
        · exact Bool.or_true _
    · rw [if_neg hmore]
      refine Or.inl (rank_lt_of_work_lt ?_)
      simp only [ReadEngine.work, ReadEngine.taken, ReadPhase.left, hphase]
      omega
  | wait =>
    dsimp only
    by_cases ht : e.transfer = true
    · rw [if_pos ht]
      refine Or.inl (rank_lt_of_work_lt ?_)
      simp only [ReadEngine.work, ReadEngine.taken, ReadPhase.left, hphase]
      omega
    · rw [if_neg ht]
      refine Or.inr ⟨rfl, helpful_ne_poll ?_, rfl⟩
      rcases htx : e.txSlot with - | slot
      · have hall := hs.waiting (Or.inl hphase)
        have hdrained := hs.drained (Or.inr (Or.inl hphase))
        exact absurd (h.usb hstopped (by omega) htx) ht
      · exact Bool.or_true _
  | stopped => exact absurd hphase hstopped

/-- **Every step** lowers the rank, or is not the one that helps. -/
theorem rank_step (hs : e.Sound r) (h : e.Live) (hn : 0 < r.preqnum)
    (hstopped : e.phase ≠ .stopped) (event : ReadEvent) :
    (e.step r event).rank r < e.rank r
      ∨ (e.step r event).rank r = e.rank r ∧ event ≠ e.helpful
        ∧ (e.step r event).helpful = e.helpful := by
  have hle := emmcDone_le hs
  have husb := hs.usb_le
  cases event with
  | card =>
    show (e.cardEvent r).rank r < _ ∨ _
    by_cases hrun : e.running = true
    · obtain ⟨hphase, -, -, hblocks, -⟩ := hs.filling hrun
      have hlt := (hs.streaming hphase).1
      refine Or.inl (rank_lt_of_work_lt ?_)
      unfold ReadEngine.cardEvent
      rw [if_pos hrun]
      simp only [ReadEngine.work, ReadEngine.taken]
      omega
    · have hsame : e.step r .card = e := if_neg hrun
      refine Or.inr ⟨congrArg _ hsame, ?_, congrArg _ hsame⟩
      unfold ReadEngine.helpful
      rw [if_neg hrun]
      split <;> exact ReadEvent.noConfusion
  | usb =>
    rcases htx : e.txSlot with - | slot
    · have hsame : e.step r .usb = e := by
        show e.usbEvent = e
        rw [ReadEngine.usbEvent, htx]
      refine Or.inr ⟨congrArg _ hsame, ?_, congrArg _ hsame⟩
      unfold ReadEngine.helpful
      rw [htx]
      split <;> exact ReadEvent.noConfusion
    · obtain ⟨hpos, -, -⟩ := hs.tx_slot slot htx
      refine Or.inl (rank_lt_of_work_lt ?_)
      show e.usbEvent.work r < _
      simp only [ReadEngine.usbEvent, htx, ReadEngine.work, ReadEngine.taken, Option.isSome_none,
        Option.isSome_some, Bool.false_eq_true, if_false, if_true]
      omega
  | poll => exact rank_poll hs h hn hstopped

end Rank

/-! ### The whole read -/

theorem progress {r : ReadRequest} (hn : 0 < r.preqnum) :
    Runs.Progress (ReadEngine.step r) (fun e => e.Sound r ∧ e.Live) (fun e => e.phase = .stopped)
      (ReadEngine.rank r) ReadEngine.helpful where
  keeps := fun _ event h => ⟨sound_step event h.1, live_step event h.1 h.2⟩
  drops := fun _ event h hnot => rank_step h.1 h.2 hn hnot event

theorem live_run {r : ReadRequest} (ring : ℕ → Sector) (hn : 0 < r.preqnum)
    (events : List ReadEvent) :
    (Runs.run (ReadEngine.step r) (ReadEngine.init ring) events).Live :=
  (Runs.invariant_of_forall (P := fun e : ReadEngine => e.Sound r ∧ e.Live)
    (fun _ event h => ⟨sound_step event h.1, live_step event h.1 h.2⟩)
    ⟨sound_init ring hn, live_init ring⟩ events).2

/-- If all three go on, the read ends. -/
theorem readStreamUsb2_eventually {r : ReadRequest} (ring : ℕ → Sector) (hn : 0 < r.preqnum)
    {schedule : ℕ → ReadEvent} (hfair : Runs.Fair schedule) :
    ∃ k, readStreamUsb2 r ring ((List.range k).map schedule)
      = some ((List.range r.preqnum).map r.plain) := by
  obtain ⟨k, hk⟩ := (progress hn).eventually ⟨sound_init ring hn, live_init ring⟩ hfair
  refine ⟨k, ?_⟩
  have hsome : ∃ delivered, readStreamUsb2 r ring ((List.range k).map schedule)
      = some delivered := ⟨_, if_pos hk⟩
  obtain ⟨delivered, hdelivered⟩ := hsome
  rw [hdelivered, readStreamUsb2_delivers hn hdelivered]

/-- What a read keeps, in any order of the steps of the card, the host and the polling loop: the
counters are in their order and at most 58 apart, the slots between them hold the sectors decrypted
once, the slot the card fills is none of them and not the one in transmission, a paused card leaves
a packet that is being sent or can be, and the host has taken the first sectors in order. -/
theorem readStreamUsb2_keeps {r : ReadRequest} (ring : ℕ → Sector) (hn : 1 ≤ r.preqnum)
    (events : List ReadEvent) :
    let e := Runs.run (ReadEngine.step r) (ReadEngine.init ring) events
    e.pipe.usbDone ≤ e.pipe.emmcDone ∧ e.pipe.emmcDone - e.pipe.usbDone ≤ 58
      ∧ e.pipe.emmcDone ≤ r.preqnum
      ∧ (∀ k, e.pipe.usbDone ≤ k → k < e.pipe.emmcDone → e.ring (k % 60) = r.plain k)
      ∧ (e.running = true →
          (∀ k, e.pipe.usbDone ≤ k → k < e.pipe.emmcDone → e.dmaSlot ≠ k % 60)
            ∧ e.txSlot ≠ some e.dmaSlot)
      ∧ (e.pipe.emmcPausedForUsbBuffer = true →
          e.txSlot.isSome = true
            ∨ e.pipe.hasSafeUsbSector = true ∧ (e.transfer || e.pipe.usbFirstPacket) = true)
      ∧ e.delivered <+: (List.range r.preqnum).map r.plain := by
  intro e
  have hs : e.Sound r := sound_run ring hn events
  have h : e.Live := live_run ring hn events
  have hle := emmcDone_le hs
  have husb := hs.usb_le
  refine ⟨husb, hs.room, hle, fun k hk hke => hs.ring_eq k ?_ hke, fun hrun => ⟨?_, ?_⟩,
    fun hp => ?_, ?_⟩
  · exact (Nat.sub_le _ _).trans hk
  · intro k hk hke
    obtain ⟨hphase, -, -, -, hroom⟩ := hs.filling hrun
    obtain ⟨-, hslot, hdma⟩ := hs.streaming hphase
    rw [hdma, hslot]
    exact (slot_ne hke (by omega)).symm
  · intro htx
    obtain ⟨hpos, hslot', -⟩ := hs.tx_slot _ htx
    obtain ⟨hphase, -, -, -, hroom⟩ := hs.filling hrun
    obtain ⟨-, hslot, hdma⟩ := hs.streaming hphase
    rw [hdma, hslot] at hslot'
    exact slot_ne (i := e.pipe.usbDone - 1) (by omega) (by omega) hslot'.symm
  · obtain ⟨hphase, hgap⟩ := h.full hp
    rcases htx : e.txSlot with - | slot
    · refine Or.inr ⟨?_, may_send hs h (fun hstopped => ?_) htx⟩
      · rw [ReadPipe.hasSafeUsbSector, Bool.and_eq_true, decide_eq_true_eq, decide_eq_true_eq]
        omega
      · rw [hstopped] at hphase
        rcases hphase with hphase | hphase <;> cases hphase
    · exact Or.inl rfl
  · rw [hs.delivered_eq]
    refine List.IsPrefix.map _ ?_
    have htaken : e.taken ≤ r.preqnum := (Nat.sub_le _ _).trans (husb.trans hle)
    obtain ⟨d, hd⟩ := Nat.exists_eq_add_of_le htaken
    rw [hd, List.range_add]
    exact List.prefix_append ..

/-! ### The reads of the drive -/

/-- Sector `i` of a read, as the host is to get it: the sector of the card, put through
`phantomdrive_decrypt_buf` once, with the LBA `actual_lba + i`, if the drive is unlocked. -/
def Drive.readSector (dev : Device) (d : Drive) (actualLba : UInt32) (i : ℕ) : Sector :=
  let sector := d.card (actualLba.toNat + i)
  if d.phantom.isLocked then sector
  else
    (phantomdriveDecryptBuf dev.ecdc dev.aesMode d.keys [sector]
      (actualLba + UInt32.ofNat i)).headD sector

theorem plain_readRequest (dev : Device) (d : Drive) (actualLba : UInt32) (n : ℕ) :
    (d.readRequest dev actualLba n).plain = d.readSector dev actualLba := by
  funext i
  cases hlocked : d.phantom.isLocked with
  | true => simp [ReadRequest.plain, Drive.readRequest, Drive.readSector, hlocked]
  | false => simp [ReadRequest.plain, Drive.readRequest, Drive.readSector, hlocked]

/-- **A read of `n` sectors**, locked or unlocked, in any order of the steps of the card, the host
and the polling loop.  In every state the counters are in their order and at most 58 apart, the
slots between them hold the sectors decrypted once, the slot the card fills is none of them and not
the one in transmission, the host has taken the first sectors in order, and if the card is paused a
packet is being sent or can be.  And if all three go on, the read ends with the `n` sectors
taken. -/
theorem readStreamUsb2_spec (dev : Device) (d : Drive) (actualLba : UInt32) (n : ℕ)
    (ring : ℕ → Sector) (hn : 1 ≤ n) (hmax : n ≤ 65535) :
    let r := d.readRequest dev actualLba n
    (∀ events : List ReadEvent,
        let e := Runs.run (ReadEngine.step r) (ReadEngine.init ring) events
        e.pipe.usbDone ≤ e.pipe.emmcDone ∧ e.pipe.emmcDone - e.pipe.usbDone ≤ 58
          ∧ e.pipe.emmcDone ≤ 65535
          ∧ (∀ k, e.pipe.usbDone ≤ k → k < e.pipe.emmcDone →
              e.ring (k % 60) = d.readSector dev actualLba k)
          ∧ (e.running = true →
              (∀ k, e.pipe.usbDone ≤ k → k < e.pipe.emmcDone → e.dmaSlot ≠ k % 60)
                ∧ e.txSlot ≠ some e.dmaSlot)
          ∧ (e.pipe.emmcPausedForUsbBuffer = true →
              e.txSlot.isSome = true
                ∨ e.pipe.hasSafeUsbSector = true
                  ∧ (e.transfer || e.pipe.usbFirstPacket) = true)
          ∧ e.delivered <+: (List.range n).map (d.readSector dev actualLba))
      ∧ ∀ schedule : ℕ → ReadEvent, Runs.Fair schedule →
          ∃ k, readStreamUsb2 r ring ((List.range k).map schedule)
            = some ((List.range n).map (d.readSector dev actualLba)) := by
  intro r
  rw [← plain_readRequest dev d actualLba n]
  refine ⟨fun events => ?_,
    fun schedule hfair => readStreamUsb2_eventually (r := r) ring hn hfair⟩
  obtain ⟨husb, hroom, hle, hkeep⟩ := readStreamUsb2_keeps (r := r) ring hn events
  exact ⟨husb, hroom, hle.trans hmax, hkeep⟩

/-- The card, the host and the polling loop in turn. -/
def inTurn (k : ℕ) : ReadEvent :=
  if k % 3 = 0 then .card else if k % 3 = 1 then .usb else .poll

theorem inTurn_fair : Runs.Fair inTurn := by
  intro event k
  cases event with
  | card => exact ⟨3 * k, by omega, if_pos (by omega)⟩
  | usb =>
    refine ⟨3 * k + 1, by omega, ?_⟩
    rw [inTurn, if_neg (by omega), if_pos (by omega)]
  | poll =>
    refine ⟨3 * k + 2, by omega, ?_⟩
    rw [inTurn, if_neg (by omega), if_neg (by omega)]

/-- A read of 100 sectors of the unlocked drive, longer than the ring. -/
theorem readStreamUsb2_spec_hundred :
    ∃ k, readStreamUsb2 ((sampleDrive .unlocked).readRequest sampleDevice 16777216 100)
        (fun _ _ => 0) ((List.range k).map inTurn)
      = some ((List.range 100).map
          ((sampleDrive .unlocked).readSector sampleDevice 16777216)) :=
  (readStreamUsb2_spec sampleDevice (sampleDrive .unlocked) 16777216 100 (fun _ _ => 0)
    (by decide) (by decide)).2 inTurn inTurn_fair

end PhantomDrive
