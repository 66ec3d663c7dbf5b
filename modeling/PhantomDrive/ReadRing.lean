/-
PhantomDrive/ReadRing.lean

The read ring delivers: in whatever order the card, the host and the polling loop take
their steps, the sectors taken by the host are the sectors of the command, in order
and decrypted, and when `read_stream_usb2` returns they are all of them.

The invariant (`ReadEngine.Sound`) says how the counters, the slots and the flags of the
two devices belong together, and what the slots between them hold.  The slot in
transmission, the slots that wait and the slot the card fills are at most 60 in a row,
so no two of them coincide (`slot_ne`).

Main results: `sound_step`, `sound_run`, `readStreamUsb2_delivers`, `readStreamUsb2_card`.
-/
import PhantomDrive.MscRead

namespace PhantomDrive

/-! ### Slots -/

theorem nextReadRingSlot_mod (k : ℕ) : nextReadRingSlot (k % 60) = (k + 1) % 60 := by
  unfold nextReadRingSlot readRingSectors
  split <;> omega

/-- Counts less than 60 apart have different slots. -/
theorem slot_ne {i j : ℕ} (h : i < j) (hgap : j < i + 60) : i % 60 ≠ j % 60 := by
  omega

/-! ### The invariant -/

/-- Sector `i` of the command as the host is to get it. -/
def ReadRequest.plain (r : ReadRequest) (i : ℕ) : Sector :=
  r.decrypt (r.actualLba + UInt32.ofNat i) (r.card (r.actualLba.toNat + i))

/-- How many packets the host has taken. -/
def ReadEngine.taken (e : ReadEngine) : ℕ :=
  e.pipe.usbDone - (if e.txSlot.isSome then 1 else 0)

structure ReadEngine.Sound (r : ReadRequest) (e : ReadEngine) : Prop where
  usb_le : e.pipe.usbDone ≤ e.pipe.emmcDone
  room : e.pipe.emmcDone - e.pipe.usbDone ≤ 58
  usbSlot_eq : e.pipe.usbSlot = e.pipe.usbDone % 60
  first_iff : e.pipe.usbFirstPacket = true ↔ e.pipe.usbDone = 0
  tx_slot : ∀ slot, e.txSlot = some slot →
    0 < e.pipe.usbDone ∧ slot = (e.pipe.usbDone - 1) % 60 ∧ e.transfer = false
  delivered_eq : e.delivered = (List.range e.taken).map r.plain
  ring_eq : ∀ k, e.taken ≤ k → k < e.pipe.emmcDone → e.ring (k % 60) = r.plain k
  /-- While the first loop runs. -/
  streaming : e.phase = .usb ∨ e.phase = .emmc →
    e.pipe.emmcDone < r.preqnum ∧ e.pipe.emmcSlot = e.pipe.emmcDone % 60
      ∧ e.dmaSlot = e.pipe.emmcSlot
  /-- While the card fills a slot. -/
  filling : e.running = true →
    (e.phase = .usb ∨ e.phase = .emmc) ∧ e.bkgap = false ∧ e.tranDone = false
      ∧ e.blocksRead = e.pipe.emmcDone ∧ e.pipe.emmcDone - e.pipe.usbDone < 58
  /-- While a filled slot waits for the polling loop. -/
  filled : e.bkgap = true ∨ e.tranDone = true →
    (e.phase = .usb ∨ e.phase = .emmc) ∧ e.blocksRead = e.pipe.emmcDone + 1
      ∧ e.pipe.emmcDone - e.pipe.usbDone < 58
      ∧ e.ring (e.pipe.emmcDone % 60) = r.card (r.actualLba.toNat + e.pipe.emmcDone)
  bkgap_more : e.bkgap = true → e.pipe.emmcDone + 1 < r.preqnum
  tranDone_last : e.tranDone = true → e.pipe.emmcDone + 1 = r.preqnum
  paused : e.pipe.emmcPausedForUsbBuffer = true →
    e.running = false ∧ e.bkgap = false ∧ e.tranDone = false
      ∧ e.blocksRead = e.pipe.emmcDone
  /-- Behind the first loop everything is in the ring. -/
  drained : e.phase = .drain ∨ e.phase = .wait ∨ e.phase = .stopped →
    e.pipe.emmcDone = r.preqnum
  waiting : e.phase = .wait ∨ e.phase = .stopped → e.pipe.usbDone = e.pipe.emmcDone
  stopped : e.phase = .stopped → e.txSlot = none

theorem sound_init {r : ReadRequest} (ring : ℕ → Sector) (hn : 0 < r.preqnum) :
    (ReadEngine.init ring).Sound r where
  usb_le := le_rfl
  room := by simp [ReadEngine.init, ReadPipe.init]
  usbSlot_eq := rfl
  first_iff := by simp [ReadEngine.init, ReadPipe.init]
  tx_slot := by simp [ReadEngine.init]
  delivered_eq := by simp [ReadEngine.init, ReadEngine.taken, ReadPipe.init]
  ring_eq := by simp [ReadEngine.init, ReadPipe.init]
  streaming := fun _ => ⟨hn, rfl, rfl⟩
  filling := by simp [ReadEngine.init, ReadPipe.init]
  filled := by simp [ReadEngine.init]
  bkgap_more := by simp [ReadEngine.init]
  tranDone_last := by simp [ReadEngine.init]
  paused := by simp [ReadEngine.init, ReadPipe.init]
  drained := by simp [ReadEngine.init]
  waiting := by simp [ReadEngine.init]
  stopped := by simp [ReadEngine.init]

section Steps

variable {r : ReadRequest} {e : ReadEngine}

/-! ### The two devices -/

theorem sound_usbEvent (h : e.Sound r) : e.usbEvent.Sound r := by
  unfold ReadEngine.usbEvent
  rcases hslot : e.txSlot with - | slot
  · exact h
  obtain ⟨hpos, rfl, -⟩ := h.tx_slot slot hslot
  have htaken : e.taken = e.pipe.usbDone - 1 := by simp [ReadEngine.taken, hslot]
  have hlast : e.ring ((e.pipe.usbDone - 1) % 60) = r.plain (e.pipe.usbDone - 1) :=
    h.ring_eq _ (by omega) (by have := h.usb_le; omega)
  have hdelivered : e.delivered ++ [e.ring ((e.pipe.usbDone - 1) % 60)]
      = (List.range e.pipe.usbDone).map r.plain := by
    rw [h.delivered_eq, htaken, hlast]
    obtain ⟨n, hn⟩ : ∃ n, e.pipe.usbDone = n + 1 := ⟨e.pipe.usbDone - 1, by omega⟩
    rw [hn, List.range_succ]
    simp
  exact {
    usb_le := h.usb_le
    room := h.room
    usbSlot_eq := h.usbSlot_eq
    first_iff := h.first_iff
    tx_slot := by simp
    delivered_eq := by simpa [ReadEngine.taken] using hdelivered
    ring_eq := fun k hk => h.ring_eq k (by
      have hk' : e.pipe.usbDone ≤ k := by simpa [ReadEngine.taken] using hk
      omega)
    streaming := h.streaming
    filling := h.filling
    filled := h.filled
    bkgap_more := h.bkgap_more
    tranDone_last := h.tranDone_last
    paused := h.paused
    drained := h.drained
    waiting := h.waiting
    stopped := fun _ => rfl }

theorem sound_cardEvent (h : e.Sound r) : (e.cardEvent r).Sound r := by
  unfold ReadEngine.cardEvent
  by_cases hrun : e.running = true
  · obtain ⟨hphase, hbkgap, htran, hblocks, hroom⟩ := h.filling hrun
    obtain ⟨hlt, hslot, hdma⟩ := h.streaming hphase
    have husb := h.usb_le
    rw [if_pos hrun]
    exact {
      usb_le := h.usb_le
      room := h.room
      usbSlot_eq := h.usbSlot_eq
      first_iff := h.first_iff
      tx_slot := h.tx_slot
      delivered_eq := h.delivered_eq
      ring_eq := by
        intro k hk hke
        have hk' : e.taken ≤ k := hk
        have htaken : e.pipe.usbDone ≤ e.taken + 1 := by
          unfold ReadEngine.taken
          split <;> omega
        have hne : k % 60 ≠ e.dmaSlot := by
          rw [hdma, hslot]
          exact slot_ne hke (by omega)
        show Function.update e.ring e.dmaSlot _ (k % 60) = _
        rw [Function.update_of_ne hne]
        exact h.ring_eq k hk' hke
      streaming := h.streaming
      filling := by simp
      filled := by
        intro _
        refine ⟨hphase, by rw [← hblocks], hroom, ?_⟩
        show Function.update e.ring e.dmaSlot _ (e.pipe.emmcDone % 60) = _
        rw [hdma, hslot, Function.update_self, hblocks]
      bkgap_more := by
        intro hb
        have hb' : e.blocksRead + 1 < r.preqnum := by simpa using hb
        rw [← hblocks]
        exact hb'
      tranDone_last := by
        intro ht
        have ht' : r.preqnum ≤ e.blocksRead + 1 := by simpa using ht
        show e.pipe.emmcDone + 1 = r.preqnum
        omega
      paused := by
        intro hp
        have := (h.paused hp).1
        simp [hrun] at this
      drained := h.drained
      waiting := h.waiting
      stopped := h.stopped }
  · rw [if_neg hrun]
    exact h

/-! ### The polling loop -/

/-- No packet is in transmission when the polling loop sees the last one taken, or has not sent
one yet. -/
theorem txSlot_eq_none (h : e.Sound r) (hsend : (e.transfer || e.pipe.usbFirstPacket) = true) :
    e.txSlot = none := by
  rcases hslot : e.txSlot with - | slot
  · rfl
  obtain ⟨hpos, -, htransfer⟩ := h.tx_slot slot hslot
  rw [htransfer, Bool.false_or, h.first_iff] at hsend
  omega

theorem sound_sendSector (h : e.Sound r) (hlt : e.pipe.usbDone < e.pipe.emmcDone)
    (htx : e.txSlot = none) (hphase : e.phase ≠ .wait ∧ e.phase ≠ .stopped) :
    e.sendSector.Sound r := by
  have htaken : e.sendSector.taken = e.taken := by
    simp [ReadEngine.taken, ReadEngine.sendSector, ReadEngine.queueUsbReadSector, htx]
  exact {
    usb_le := hlt
    room := by
      have := h.room
      show e.pipe.emmcDone - (e.pipe.usbDone + 1) ≤ 58
      omega
    usbSlot_eq := by
      show nextReadRingSlot e.pipe.usbSlot = (e.pipe.usbDone + 1) % 60
      rw [h.usbSlot_eq, nextReadRingSlot_mod]
    first_iff := by
      simp [ReadEngine.sendSector, ReadEngine.queueUsbReadSector]
    tx_slot := by
      intro slot hslot
      have hslot' : some e.pipe.usbSlot = some slot := hslot
      obtain rfl := Option.some.inj hslot'
      exact ⟨Nat.succ_pos _, h.usbSlot_eq, rfl⟩
    delivered_eq := by
      rw [htaken]
      exact h.delivered_eq
    ring_eq := by
      rw [htaken]
      exact h.ring_eq
    streaming := h.streaming
    filling := by
      intro hrun
      obtain ⟨hp, hb, ht, hblocks, hroom⟩ := h.filling hrun
      refine ⟨hp, hb, ht, hblocks, ?_⟩
      show e.pipe.emmcDone - (e.pipe.usbDone + 1) < 58
      omega
    filled := by
      intro hf
      obtain ⟨hp, hblocks, hroom, hring⟩ := h.filled hf
      refine ⟨hp, hblocks, ?_, hring⟩
      show e.pipe.emmcDone - (e.pipe.usbDone + 1) < 58
      omega
    bkgap_more := h.bkgap_more
    tranDone_last := h.tranDone_last
    paused := h.paused
    drained := h.drained
    waiting := by
      rintro (hw | hs)
      · exact absurd hw hphase.1
      · exact absurd hs hphase.2
    stopped := fun hs => absurd hs hphase.2 }

/-- Changing the phase alone keeps the invariant where both phases are in the first loop. -/
theorem sound_phase {phase : ReadPhase} (h : e.Sound r)
    (hold : e.phase = .usb ∨ e.phase = .emmc) (hnew : phase = .usb ∨ phase = .emmc) :
    { e with phase := phase }.Sound r where
  usb_le := h.usb_le
  room := h.room
  usbSlot_eq := h.usbSlot_eq
  first_iff := h.first_iff
  tx_slot := h.tx_slot
  delivered_eq := h.delivered_eq
  ring_eq := h.ring_eq
  streaming := fun _ => h.streaming hold
  filling := fun hrun => ⟨hnew, (h.filling hrun).2⟩
  filled := fun hf => ⟨hnew, (h.filled hf).2⟩
  bkgap_more := h.bkgap_more
  tranDone_last := h.tranDone_last
  paused := h.paused
  drained := by
    rcases hnew with rfl | rfl <;> simp
  waiting := by
    rcases hnew with rfl | rfl <;> simp
  stopped := by
    rcases hnew with rfl | rfl <;> simp

theorem sound_usbPart (h : e.Sound r) (hphase : e.phase = .usb) :
    e.usbPart.Sound r ∧ e.usbPart.phase = .usb := by
  unfold ReadEngine.usbPart
  by_cases hsend : (e.pipe.hasSafeUsbSector && (e.transfer || e.pipe.usbFirstPacket)) = true
  swap
  · rw [if_neg hsend]
    exact ⟨h, hphase⟩
  rw [if_pos hsend]
  rw [Bool.and_eq_true] at hsend
  have hlt : e.pipe.usbDone < e.pipe.emmcDone := by
    have hsafe := hsend.1
    simp only [ReadPipe.hasSafeUsbSector, Bool.and_eq_true, decide_eq_true_eq] at hsafe
    omega
  have hsent := sound_sendSector h hlt (txSlot_eq_none h hsend.2) (by simp [hphase])
  have hphase' : e.sendSector.phase = .usb := hphase
  dsimp only
  by_cases hpaused : e.sendSector.pipe.emmcPausedForUsbBuffer = true
  · rw [if_pos hpaused]
    obtain ⟨-, hbkgap, htran, hblocks⟩ := hsent.paused hpaused
    have hroom : e.sendSector.pipe.emmcDone - e.sendSector.pipe.usbDone < 58 := by
      have := h.room
      show e.pipe.emmcDone - (e.pipe.usbDone + 1) < 58
      omega
    refine ⟨?_, hphase'⟩
    exact {
      usb_le := hsent.usb_le
      room := hsent.room
      usbSlot_eq := hsent.usbSlot_eq
      first_iff := hsent.first_iff
      tx_slot := hsent.tx_slot
      delivered_eq := hsent.delivered_eq
      ring_eq := hsent.ring_eq
      streaming := hsent.streaming
      filling := fun _ => ⟨Or.inl hphase', hbkgap, htran, hblocks, hroom⟩
      filled := hsent.filled
      bkgap_more := hsent.bkgap_more
      tranDone_last := hsent.tranDone_last
      paused := by simp
      drained := hsent.drained
      waiting := hsent.waiting
      stopped := hsent.stopped }
  · rw [if_neg hpaused]
    exact ⟨hsent, hphase'⟩

/-- The slot the card has filled, once decrypted, holds its sector. -/
theorem completeSlot_ring (h : e.Sound r) (hf : e.bkgap = true ∨ e.tranDone = true) {k : ℕ}
    (hk : e.taken ≤ k) (hke : k < e.pipe.emmcDone + 1) :
    (e.completeSlot r).ring (k % 60) = r.plain k := by
  obtain ⟨hphase, -, hroom, hring⟩ := h.filled hf
  obtain ⟨-, hslot, -⟩ := h.streaming hphase
  have husb := h.usb_le
  show Function.update e.ring e.pipe.emmcSlot _ (k % 60) = _
  rcases Nat.lt_or_eq_of_le (Nat.lt_succ_iff.mp hke) with hlt | rfl
  · have htaken : e.pipe.usbDone ≤ e.taken + 1 := by
      unfold ReadEngine.taken
      split <;> omega
    rw [hslot, Function.update_of_ne (slot_ne hlt (by omega))]
    exact h.ring_eq k hk hlt
  · rw [hslot, Function.update_self, hring]
    rfl

theorem sound_emmcPart (h : e.Sound r) (hphase : e.phase = .emmc) : (e.emmcPart r).Sound r := by
  have hstream : e.phase = .usb ∨ e.phase = .emmc := Or.inr hphase
  obtain ⟨hlt, hslot, hdma⟩ := h.streaming hstream
  have husb := h.usb_le
  unfold ReadEngine.emmcPart
  by_cases hb : e.bkgap = true
  · -- a sector in the middle: go on if there is room, else pause
    obtain ⟨-, hblocks, hroom, -⟩ := h.filled (Or.inl hb)
    have hmore := h.bkgap_more hb
    have htran : e.tranDone = false := by
      by_contra ht
      have := h.tranDone_last (by simpa using ht)
      omega
    have hrun : e.running = false := by
      by_contra hr
      have := (h.filling (by simpa using hr)).2.1
      simp [hb] at this
    have hring := fun k hk hke => completeSlot_ring (k := k) h (Or.inl hb) hk hke
    have hnext : nextReadRingSlot e.pipe.emmcSlot = (e.pipe.emmcDone + 1) % 60 := by
      rw [hslot, nextReadRingSlot_mod]
    rw [if_pos hb]
    dsimp only
    by_cases hspace : (ReadPipe.hasSpaceForEmmc
        { (e.completeSlot r).pipe with
          emmcDone := (e.completeSlot r).pipe.emmcDone + 1
          emmcSlot := nextReadRingSlot (e.completeSlot r).pipe.emmcSlot }) = true
    · rw [if_pos hspace]
      have hroom' : e.pipe.emmcDone + 1 - e.pipe.usbDone < 58 := of_decide_eq_true hspace
      exact {
        usb_le := Nat.le_succ_of_le husb
        room := by
          show e.pipe.emmcDone + 1 - e.pipe.usbDone ≤ 58
          omega
        usbSlot_eq := h.usbSlot_eq
        first_iff := h.first_iff
        tx_slot := h.tx_slot
        delivered_eq := h.delivered_eq
        ring_eq := hring
        streaming := fun _ => ⟨hmore, hnext, rfl⟩
        filling := fun _ => ⟨Or.inl rfl, rfl, htran, hblocks, hroom'⟩
        filled := by
          rintro (hf | hf)
          · exact absurd hf (by simp)
          · exact absurd (htran.symm.trans hf) (by simp)
        bkgap_more := by simp
        tranDone_last := fun hf => absurd (htran.symm.trans hf) (by simp)
        paused := by
          intro hp
          have := (h.paused hp).2.1
          simp [hb] at this
        drained := by simp
        waiting := by simp
        stopped := by simp }
    · rw [if_neg hspace]
      exact {
        usb_le := Nat.le_succ_of_le husb
        room := by
          show e.pipe.emmcDone + 1 - e.pipe.usbDone ≤ 58
          omega
        usbSlot_eq := h.usbSlot_eq
        first_iff := h.first_iff
        tx_slot := h.tx_slot
        delivered_eq := h.delivered_eq
        ring_eq := hring
        streaming := fun _ => ⟨hmore, hnext, rfl⟩
        filling := fun hr => absurd (hrun.symm.trans hr) (by simp)
        filled := by
          rintro (hf | hf)
          · exact absurd hf (by simp)
          · exact absurd (htran.symm.trans hf) (by simp)
        bkgap_more := by simp
        tranDone_last := fun hf => absurd (htran.symm.trans hf) (by simp)
        paused := fun _ => ⟨hrun, rfl, htran, hblocks⟩
        drained := by simp
        waiting := by simp
        stopped := by simp }
  rw [if_neg hb]
  by_cases ht : e.tranDone = true
  · -- the last sector
    obtain ⟨-, hblocks, hroom, -⟩ := h.filled (Or.inr ht)
    have hlast := h.tranDone_last ht
    have hrun : e.running = false := by
      by_contra hr
      have := (h.filling (by simpa using hr)).2.2.1
      simp [ht] at this
    have hring := fun k hk hke => completeSlot_ring (k := k) h (Or.inr ht) hk hke
    rw [if_pos ht]
    exact {
      usb_le := Nat.le_succ_of_le husb
      room := by
        show e.pipe.emmcDone + 1 - e.pipe.usbDone ≤ 58
        omega
      usbSlot_eq := h.usbSlot_eq
      first_iff := h.first_iff
      tx_slot := h.tx_slot
      delivered_eq := h.delivered_eq
      ring_eq := hring
      streaming := by simp
      filling := fun hr => absurd (hrun.symm.trans hr) (by simp)
      filled := by
        rintro (hf | hf)
        · exact absurd hf hb
        · exact absurd hf (by simp)
      bkgap_more := fun hf => absurd hf hb
      tranDone_last := by simp
      paused := by
        intro hp
        have := (h.paused hp).2.2.1
        simp [ht] at this
      drained := fun _ => hlast
      waiting := by simp
      stopped := by simp }
  · rw [if_neg ht]
    exact sound_phase h hstream (Or.inl rfl)

theorem sound_drainPass (h : e.Sound r) (hphase : e.phase = .drain) : e.drainPass.Sound r := by
  unfold ReadEngine.drainPass
  by_cases hlt : e.pipe.usbDone < e.pipe.emmcDone
  · rw [if_pos hlt]
    by_cases hsend : (e.transfer || e.pipe.usbFirstPacket) = true
    · rw [if_pos hsend]
      exact sound_sendSector h hlt (txSlot_eq_none h hsend) (by simp [hphase])
    · rw [if_neg hsend]
      exact h
  · rw [if_neg hlt]
    have hnot : ¬ (e.phase = .usb ∨ e.phase = .emmc) := by simp [hphase]
    exact {
      usb_le := h.usb_le
      room := h.room
      usbSlot_eq := h.usbSlot_eq
      first_iff := h.first_iff
      tx_slot := h.tx_slot
      delivered_eq := h.delivered_eq
      ring_eq := h.ring_eq
      streaming := by simp
      filling := fun hr => absurd (h.filling hr).1 hnot
      filled := fun hf => absurd (h.filled hf).1 hnot
      bkgap_more := h.bkgap_more
      tranDone_last := h.tranDone_last
      paused := h.paused
      drained := fun _ => h.drained (Or.inl hphase)
      waiting := by
        intro _
        have husb := h.usb_le
        show e.pipe.usbDone = e.pipe.emmcDone
        omega
      stopped := by simp }

theorem sound_poll (h : e.Sound r) : (e.poll r).Sound r := by
  unfold ReadEngine.poll
  rcases hphase : e.phase with - | - | - | - | -
  · obtain ⟨husb, hp⟩ := sound_usbPart h hphase
    exact sound_phase husb (Or.inl hp) (Or.inr rfl)
  · exact sound_emmcPart h hphase
  · exact sound_drainPass h hphase
  · by_cases ht : e.transfer = true
    · rw [if_pos ht]
      have htx := txSlot_eq_none h (by rw [ht, Bool.true_or])
      have hnot : ¬ (e.phase = .usb ∨ e.phase = .emmc) := by simp [hphase]
      exact {
        usb_le := h.usb_le
        room := h.room
        usbSlot_eq := h.usbSlot_eq
        first_iff := h.first_iff
        tx_slot := fun slot hslot => absurd (htx.symm.trans hslot) (by simp)
        delivered_eq := h.delivered_eq
        ring_eq := h.ring_eq
        streaming := by simp
        filling := fun hr => absurd (h.filling hr).1 hnot
        filled := fun hf => absurd (h.filled hf).1 hnot
        bkgap_more := h.bkgap_more
        tranDone_last := h.tranDone_last
        paused := h.paused
        drained := fun _ => h.drained (Or.inr (Or.inl hphase))
        waiting := fun _ => h.waiting (Or.inl hphase)
        stopped := fun _ => htx }
    · rw [if_neg ht]
      exact h
  · exact h

/-! ### Runs -/

theorem sound_step (event : ReadEvent) (h : e.Sound r) : (e.step r event).Sound r := by
  cases event with
  | card => exact sound_cardEvent h
  | usb => exact sound_usbEvent h
  | poll => exact sound_poll h

end Steps

theorem sound_run {r : ReadRequest} (ring : ℕ → Sector) (hn : 0 < r.preqnum)
    (events : List ReadEvent) :
    (Runs.run (ReadEngine.step r) (ReadEngine.init ring) events).Sound r :=
  Runs.invariant_of_forall (fun _ event h => sound_step event h) (sound_init ring hn) events

/-- When `read_stream_usb2` returns, the host has taken the sectors of the command, in order. -/
theorem readStreamUsb2_delivers {r : ReadRequest} {ring : ℕ → Sector} {events : List ReadEvent}
    {delivered : List Sector} (hn : 0 < r.preqnum)
    (h : readStreamUsb2 r ring events = some delivered) :
    delivered = (List.range r.preqnum).map r.plain := by
  have hsound := sound_run ring hn events
  unfold readStreamUsb2 at h
  generalize Runs.run (ReadEngine.step r) (ReadEngine.init ring) events = e at h hsound
  dsimp only at h
  split at h
  · rename_i hphase
    obtain rfl := Option.some.inj h
    have hall : e.taken = r.preqnum := by
      rw [ReadEngine.taken, hsound.stopped hphase, hsound.waiting (Or.inr hphase),
        hsound.drained (Or.inr (Or.inr hphase))]
      rfl
    rw [hsound.delivered_eq, hall]
  · cases h

/-! ### A command for no sectors -/

/-- The card has finished no sector while it runs, and nothing makes it run again. -/
structure ReadEngine.Single (e : ReadEngine) : Prop where
  running : e.running = true → e.blocksRead = 0
  bkgap : e.bkgap = false
  paused : e.pipe.emmcPausedForUsbBuffer = false

theorem single_step {r : ReadRequest} {e : ReadEngine} (hr : r.preqnum = 0) (event : ReadEvent)
    (h : e.Single) :
    (e.step r event).Single ∧ e.step r event = e.step { r with preqnum := 1 } event := by
  cases event with
  | card =>
    show (e.cardEvent r).Single ∧ e.cardEvent r = e.cardEvent { r with preqnum := 1 }
    unfold ReadEngine.cardEvent
    by_cases hrun : e.running = true
    · rw [if_pos hrun, if_pos hrun]
      refine ⟨⟨fun hp => (Bool.false_ne_true hp).elim, ?_, h.paused⟩, ?_⟩
      · simp [hr]
      · simp [hr, h.running hrun]
    · rw [if_neg hrun, if_neg hrun]
      exact ⟨h, rfl⟩
  | usb =>
    refine ⟨?_, rfl⟩
    show e.usbEvent.Single
    unfold ReadEngine.usbEvent
    split
    · exact ⟨h.running, h.bkgap, h.paused⟩
    · exact h
  | poll =>
    refine ⟨?_, ?_⟩
    · show (e.poll r).Single
      unfold ReadEngine.poll
      split
      · unfold ReadEngine.usbPart
        split
        · have hp : e.sendSector.pipe.emmcPausedForUsbBuffer = false := h.paused
          dsimp only
          rw [if_neg (by rw [hp]; exact Bool.false_ne_true)]
          exact ⟨h.running, h.bkgap, h.paused⟩
        · exact ⟨h.running, h.bkgap, h.paused⟩
      · unfold ReadEngine.emmcPart
        rw [if_neg (by rw [h.bkgap]; exact Bool.false_ne_true)]
        split
        · exact ⟨h.running, h.bkgap, h.paused⟩
        · exact ⟨h.running, h.bkgap, h.paused⟩
      · unfold ReadEngine.drainPass
        split
        · split
          · exact ⟨h.running, h.bkgap, h.paused⟩
          · exact h
        · exact ⟨h.running, h.bkgap, h.paused⟩
      · split
        · exact ⟨h.running, h.bkgap, h.paused⟩
        · exact h
      · exact h
    · rfl

theorem single_run {r : ReadRequest} {e : ReadEngine} (hr : r.preqnum = 0)
    (events : List ReadEvent) (h : e.Single) :
    Runs.run (ReadEngine.step r) e events
      = Runs.run (ReadEngine.step { r with preqnum := 1 }) e events := by
  induction events generalizing e with
  | nil => rfl
  | cons event events ih =>
    obtain ⟨hsingle, heq⟩ := single_step hr event h
    rw [Runs.run_cons, Runs.run_cons, ← heq]
    exact ih hsingle

/-- A command for no sectors runs like one for a single sector. -/
theorem readStreamUsb2_zero {r : ReadRequest} (hr : r.preqnum = 0) (ring : ℕ → Sector)
    (events : List ReadEvent) :
    readStreamUsb2 r ring events = readStreamUsb2 { r with preqnum := 1 } ring events := by
  unfold readStreamUsb2
  rw [single_run hr events ⟨fun _ => rfl, rfl, rfl⟩]

/-- When `read_stream_usb2` returns, the host has taken as many sectors as were asked for, and one
if none was. -/
theorem readStreamUsb2_length {r : ReadRequest} {ring : ℕ → Sector} {events : List ReadEvent}
    {delivered : List Sector} (h : readStreamUsb2 r ring events = some delivered) :
    delivered.length = max 1 r.preqnum := by
  rcases Nat.eq_zero_or_pos r.preqnum with hr | hpos
  · rw [readStreamUsb2_zero hr] at h
    rw [readStreamUsb2_delivers (Nat.one_pos) h, hr]
    simp
  · rw [readStreamUsb2_delivers hpos h, List.length_map, List.length_range]
    omega

/-! ### Two cards -/

/-- The sectors of the command, one if there are none, are the same on another card. -/
def ReadRequest.SameSectors (r : ReadRequest) (card : Card) : Prop :=
  ∀ i < max 1 r.preqnum, card (r.actualLba.toNat + i) = r.card (r.actualLba.toNat + i)

/-- The card is read only within the command. -/
theorem ReadEngine.step_card {r : ReadRequest} {e : ReadEngine} {card : Card} (h : e.Sound r)
    (hcard : r.SameSectors card) (event : ReadEvent) :
    e.step { r with card := card } event = e.step r event := by
  cases event with
  | card =>
    show e.cardEvent { r with card := card } = e.cardEvent r
    unfold ReadEngine.cardEvent
    by_cases hrun : e.running = true
    · obtain ⟨hphase, -, -, hblocks, -⟩ := h.filling hrun
      have hlt := (h.streaming hphase).1
      have hsame : card (r.actualLba.toNat + e.blocksRead)
          = r.card (r.actualLba.toNat + e.blocksRead) := hcard _ (by omega)
      rw [if_pos hrun, if_pos hrun]
      dsimp only
      rw [hsame]
    · rw [if_neg hrun, if_neg hrun]
  | usb => rfl
  | poll => rfl

theorem ReadEngine.run_card {r : ReadRequest} {e : ReadEngine} {card : Card} (h : e.Sound r)
    (hcard : r.SameSectors card) (events : List ReadEvent) :
    Runs.run (ReadEngine.step { r with card := card }) e events
      = Runs.run (ReadEngine.step r) e events := by
  induction events generalizing e with
  | nil => rfl
  | cons event events ih =>
    rw [Runs.run_cons, Runs.run_cons, ReadEngine.step_card h hcard event]
    exact ih (sound_step event h)

/-- **A read from another card** with the same sectors is the same read. -/
theorem readStreamUsb2_card {r : ReadRequest} {card : Card} (hcard : r.SameSectors card)
    (ring : ℕ → Sector) (events : List ReadEvent) :
    readStreamUsb2 { r with card := card } ring events = readStreamUsb2 r ring events := by
  have hpos : ∀ r : ReadRequest, 0 < r.preqnum → r.SameSectors card →
      readStreamUsb2 { r with card := card } ring events = readStreamUsb2 r ring events := by
    intro r hn hcard
    unfold readStreamUsb2
    rw [ReadEngine.run_card (sound_init ring hn) hcard events]
  rcases Nat.eq_zero_or_pos r.preqnum with hr | hn
  · rw [readStreamUsb2_zero hr, readStreamUsb2_zero (r := { r with card := card }) hr]
    refine hpos { r with preqnum := 1 } Nat.one_pos ?_
    unfold ReadRequest.SameSectors at hcard ⊢
    rw [hr] at hcard
    exact hcard
  · exact hpos r hn hcard

end PhantomDrive
