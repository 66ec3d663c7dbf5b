/-
PhantomDrive/SnoopCapture.lean

What is left of a sequence of writes: the pending password is that of the last
`password:` completed in any run of contiguous calls, however the run was cut into
calls.

A run is followed by one tracker of its whole stream (`phantomdriveSnoopWrite_tracks`),
and a run that completes no `password:` leaves the capture of the runs before it
(`phantomdriveSnoopWrite_quiet`).  Main result: `snoopCalls_capture`.
-/
import PhantomDrive.SnoopIndex

namespace PhantomDrive

open MarkerScan

/-! ### The tracker of a run -/

section Tracks

variable {now : ℕ → UInt64} {p : Phantom} {lba lba₀ : UInt32} {pos : ℕ}

/-- Sector and offset of a byte, counted from the start of its run. -/
theorem openPendingPassword_shift (now : ℕ → UInt64) (hpos : 512 ∣ pos)
    (hlba : lba = lba₀ + UInt32.ofNat (pos / 512)) (i : ℕ) (v : List UInt8) (p : Phantom) :
    openPendingPassword now lba i v p
      = openPendingPassword (fun j => now (j - pos)) lba₀ (pos + i) v p := by
  obtain ⟨k, rfl⟩ := hpos
  have hdiv : (512 * k + i) / 512 = 512 * k / 512 + i / 512 := by omega
  have hmod : (512 * k + i) % 512 = i % 512 := by omega
  have hsector : lba + UInt32.ofNat (i / 512) = lba₀ + UInt32.ofNat ((512 * k + i) / 512) := by
    rw [hlba, hdiv, UInt32.add_assoc, UInt32.ofNat_add]
  simp only [openPendingPassword, hsector, hmod, Nat.add_sub_cancel_left]

/-- `snoop_new_password` does not depend on where its buffer starts in the run. -/
theorem snoopNewPassword_shift (now : ℕ → UInt64) (hpos : 512 ∣ pos)
    (hlba : lba = lba₀ + UInt32.ofNat (pos / 512)) (p : Phantom) (i : ℕ) (l : List UInt8) :
    snoopNewPassword now lba p i l
      = snoopNewPassword (fun j => now (j - pos)) lba₀ p (pos + i) l := by
  induction hn : l.length using Nat.strong_induction_on generalizing p i l with
  | _ n ih =>
    rcases l with - | ⟨c, rest⟩
    · rw [snoopNewPassword_nil, snoopNewPassword_nil]
    have hlen : rest.length < n := by simp at hn; omega
    rw [snoopNewPassword, snoopNewPassword]
    split
    · split
      · rw [ih rest.length hlen _ _ rest rfl, Nat.add_assoc]
      · dsimp only
        rw [openPendingPassword_shift now hpos hlba]
        split
        · rfl
        · rename_i t tail hdrop
          have htail : tail.length < n := by
            have hle := passwordMarker.length_afterValue_le rest
            rw [show passwordMarker.afterValue rest = t :: tail from hdrop,
              List.length_cons] at hle
            omega
          rw [ih tail.length htail _ _ tail rfl]
          simp only [Nat.add_assoc]
    · rw [ih rest.length hlen _ _ rest rfl, Nat.add_assoc]

/-- A call that goes on where the last one ended goes on with the tracker of the run. -/
theorem phantomdriveSnoopWrite_tracks {t : Tracker UInt8} (now : ℕ → UInt64) (buf : List UInt8)
    (h : (beginSnoopWrite buf.length lba p).Tracks lba₀ t) (hpos : 512 ∣ t.pos)
    (hlba : lba = lba₀ + UInt32.ofNat (t.pos / 512)) :
    (phantomdriveSnoopWrite now buf lba p).2.Tracks lba₀ (passwordMarker.track t buf) := by
  unfold phantomdriveSnoopWrite snoopBuffer
  generalize beginSnoopWrite buf.length lba p = q at h
  obtain ⟨mode, pos, found⟩ := t
  have hmode := h.mode_eq
  dsimp only at hmode hpos hlba
  by_cases hq : q.pwPartial = true
  · obtain rfl : mode = .value := by
      rw [← hmode, Phantom.mode, if_pos hq]
    rw [if_pos hq]
    rcases hafter : passwordMarker.afterValue buf with - | ⟨e, tail⟩
    · -- the whole buffer belongs to the value
      have hv : passwordMarker.valueOf buf = buf := by
        simpa [hafter] using passwordMarker.valueOf_append_afterValue buf
      rw [continuePartialPassword_of_open hafter, Marker.track_value_of_open _ _ hafter, hv]
      simp only [List.drop_replicate, Nat.sub_self, List.replicate_zero, snoopNewPassword_nil]
      have hkeep := foldl_append_preserves (P := fun r => r.mode = .value ∧ r.prefixMatchLen < 9)
        buf (fun _ _ h => h) ⟨hmode, h.match_lt⟩
      refine ⟨hkeep.1, hkeep.2, fun o v older hfound => ?_⟩
      rcases found with - | ⟨⟨o', v'⟩, older'⟩
      · cases hfound
      · obtain ⟨⟨rfl, rfl⟩, -⟩ : (o' = o ∧ v' ++ buf = v) ∧ older' = older := by
          simpa [extendNewest] using hfound
        exact keeps_foldl_append buf (h.newest _ _ _ rfl)
    · rw [continuePartialPassword_of_terminated hafter,
        Marker.track_value_of_terminated _ _ hafter]
      dsimp only
      have hvalue : ∀ o v older, found = (o, v) :: older →
          ((passwordMarker.valueOf buf).foldl (fun p c => appendPendingPassword c p) q).Keeps lba₀ o
            (v ++ passwordMarker.valueOf buf) := fun o v older hfound =>
        keeps_foldl_append _ (h.newest o v older hfound)
      generalize (passwordMarker.valueOf buf).foldl (fun p c => appendPendingPassword c p) q = r
        at hvalue
      generalize hfin : finishPasswordSnoop r.pendingPwLen { r with pwPartial := false } = fin
      have hpart : fin.pwPartial = false := by rw [← hfin, finishPasswordSnoop_pwPartial]
      have hmatch : fin.prefixMatchLen = 0 := by rw [← hfin, finishPasswordSnoop_prefixMatchLen]
      have htrack : fin.Tracks lba₀ ⟨.seek fin.prefixMatchLen,
          pos + (passwordMarker.valueOf buf).length + 1,
          extendNewest found (passwordMarker.valueOf buf)⟩ := by
        refine ⟨by simp [Phantom.mode, hpart], by simp [hmatch, passwordPrefix], ?_⟩
        intro o v older hfound
        rcases found with - | ⟨⟨o', v'⟩, older'⟩
        · cases hfound
        · obtain ⟨⟨rfl, rfl⟩, -⟩ :
              (o' = o ∧ v' ++ passwordMarker.valueOf buf = v) ∧ older' = older := by
            simpa [extendNewest] using hfound
          have hkeep := hvalue _ _ _ rfl
          rw [← hfin]
          exact keeps_finishPasswordSnoop (p := { r with pwPartial := false })
            ⟨hkeep.lba_eq, hkeep.offset_eq, hkeep.len_eq, hkeep.pw_eq⟩
      have hscan := (snoopNewPassword_scans (fun j => now (j - pos)) tail htrack).2
      have hdrop : (List.replicate (passwordMarker.valueOf buf).length 0 ++ e :: tail).drop
            ((passwordMarker.valueOf buf).length + 1) = tail := by
        simp [List.drop_append]
      rw [hmatch] at hscan
      rw [hdrop, snoopNewPassword_shift now hpos hlba]
      exact hscan
  · rw [if_neg hq]
    obtain rfl : mode = .seek q.prefixMatchLen := by
      rw [← hmode, Phantom.mode, if_neg hq]
    rw [snoopNewPassword_shift now hpos hlba]
    exact (snoopNewPassword_scans (fun j => now (j - pos)) buf h).2

/-! ### A run that completes no `password:` -/

/-- Nothing new was captured. -/
structure Phantom.SameCapture (p p' : Phantom) : Prop where
  pendingPw : p'.pendingPw = p.pendingPw
  pendingPwLen : p'.pendingPwLen = p.pendingPwLen
  pendingPwLba : p'.pendingPwLba = p.pendingPwLba
  pendingPwOffset : p'.pendingPwOffset = p.pendingPwOffset

theorem Phantom.SameCapture.refl (p : Phantom) : p.SameCapture p := ⟨rfl, rfl, rfl, rfl⟩

theorem Phantom.SameCapture.trans {p p' p'' : Phantom} (h : p.SameCapture p')
    (h' : p'.SameCapture p'') : p.SameCapture p'' :=
  ⟨h'.pendingPw.trans h.pendingPw, h'.pendingPwLen.trans h.pendingPwLen,
    h'.pendingPwLba.trans h.pendingPwLba, h'.pendingPwOffset.trans h.pendingPwOffset⟩

theorem Phantom.SameCapture.keeps {p p' : Phantom} (h : p.SameCapture p') {o : ℕ}
    {v : List UInt8} (hkeep : p.Keeps lba o v) : p'.Keeps lba o v where
  lba_eq := h.pendingPwLba.trans hkeep.lba_eq
  offset_eq := h.pendingPwOffset.trans hkeep.offset_eq
  len_eq := h.pendingPwLen.trans hkeep.len_eq
  pw_eq := h.pendingPw ▸ hkeep.pw_eq

theorem Phantom.SameCapture.of_match {p p' : Phantom} {k : ℕ}
    (h : Phantom.SameCapture { p with prefixMatchLen := k } p') : p.SameCapture p' :=
  ⟨h.pendingPw, h.pendingPwLen, h.pendingPwLba, h.pendingPwOffset⟩

theorem snoopNewPassword_quiet (now : ℕ → UInt64) {i j : ℕ} {found : List (ℕ × List UInt8)}
    (l : List UInt8) (hk : p.prefixMatchLen < 9)
    (hquiet : (passwordMarker.track ⟨.seek p.prefixMatchLen, j, found⟩ l).found.length
      = found.length) :
    p.SameCapture (snoopNewPassword now lba p i l).2 := by
  induction l generalizing p i j with
  | nil =>
    rw [snoopNewPassword_nil]
    exact Phantom.SameCapture.refl p
  | cons c rest ih =>
    rw [Marker.track_cons] at hquiet
    by_cases hc : passwordPrefix[p.prefixMatchLen]? = some c
    · by_cases hlast : p.prefixMatchLen + 1 < passwordPrefix.length
      · have hnext : passwordMarker.next (.seek p.prefixMatchLen) c
            = .seek (p.prefixMatchLen + 1) := Marker.next_seek_match hc hlast
        rw [Marker.step_seek rfl (by rw [hnext]; exact Mode.noConfusion), hnext] at hquiet
        rw [snoopNewPassword_match hc hlast]
        exact (ih (p := { p with prefixMatchLen := p.prefixMatchLen + 1 }) hlast hquiet).of_match
      · -- the prefix would be complete
        have hnext : passwordMarker.next (.seek p.prefixMatchLen) c = .value :=
          Marker.next_seek_last hc (by
            have hlength : passwordPrefix.length = 9 := rfl
            show p.prefixMatchLen + 1 = 9
            omega)
        have hle := passwordMarker.length_found_le_track
          (passwordMarker.step ⟨.seek p.prefixMatchLen, j, found⟩ c) rest
        have hstep : (passwordMarker.step ⟨.seek p.prefixMatchLen, j, found⟩ c).found.length
            = found.length + 1 := by
          simp [Marker.step, hnext]
        omega
    · have hnext : passwordMarker.next (.seek p.prefixMatchLen) c
          = .seek (if c = 0x70 then 1 else 0) := by
        rw [Marker.next_seek_mismatch hc]
        split <;> rename_i hfirst
        · rw [if_pos (show c = 0x70 from hfirst)]
        · rw [if_neg (show ¬ c = 0x70 from hfirst)]
      rw [Marker.step_seek rfl (by rw [hnext]; exact Mode.noConfusion), hnext] at hquiet
      rw [snoopNewPassword_mismatch hc hk]
      have hlt : (if c = 0x70 then 1 else 0) < 9 := by
        split <;> decide
      exact (ih (p := { p with prefixMatchLen := if c = 0x70 then 1 else 0 }) hlt hquiet).of_match

theorem beginSnoopWrite_sameCapture (len : ℕ) (lba : UInt32) (p : Phantom) :
    p.SameCapture (beginSnoopWrite len lba p) := by
  unfold beginSnoopWrite
  dsimp only
  split
  · exact ⟨rfl, rfl, rfl, rfl⟩
  · exact ⟨rfl, rfl, rfl, rfl⟩

/-- A call that starts outside of a value and completes no prefix captures nothing. -/
theorem phantomdriveSnoopWrite_quiet {t : Tracker UInt8} (now : ℕ → UInt64) (buf : List UInt8)
    (h : (beginSnoopWrite buf.length lba p).Tracks lba₀ t) (hmode : t.mode ≠ .value)
    (hquiet : (passwordMarker.track t buf).found.length = t.found.length) :
    p.SameCapture (phantomdriveSnoopWrite now buf lba p).2 := by
  have hbegin := beginSnoopWrite_sameCapture buf.length lba p
  unfold phantomdriveSnoopWrite snoopBuffer
  generalize beginSnoopWrite buf.length lba p = q at h hbegin
  have hq : ¬ q.pwPartial = true := fun hq => hmode (by rw [← h.mode_eq, Phantom.mode, if_pos hq])
  obtain ⟨mode, pos, found⟩ := t
  obtain rfl : mode = .seek q.prefixMatchLen := by
    have hseek := h.mode_eq
    rw [Phantom.mode, if_neg hq] at hseek
    exact hseek.symm
  rw [if_neg hq]
  exact hbegin.trans (snoopNewPassword_quiet now buf h.match_lt hquiet)

end Tracks

/-! ### Runs of calls -/

/-- The bytes of a run, end to end. -/
def runStream (run : List (SnoopCall × List UInt8)) : List UInt8 := run.flatMap fun x => x.1.buf

/-- The sector a run starts at. -/
def runLba : List (SnoopCall × List UInt8) → UInt32
  | [] => 0
  | x :: _ => x.1.lba

/-- A call of whole sectors, with no attempt to unlock before it. -/
structure SnoopCall.Plain (call : SnoopCall) : Prop where
  retained : call.retained = none
  pos : 0 < call.buf.length
  sectors : 512 ∣ call.buf.length

section Run

variable {p : Phantom} {lba₀ : UInt32} {t : Tracker UInt8}

theorem SnoopCall.Plain.apply {call : SnoopCall} (h : call.Plain) (p : Phantom) :
    call.apply p = phantomdriveSnoopWrite call.now call.buf call.lba p := by
  rw [SnoopCall.apply, h.retained]
  rfl

/-- Where a run goes on, the tracker of the run goes on. -/
theorem beginSnoopWrite_tracks (h : p.Tracks lba₀ t) (len : ℕ) :
    (beginSnoopWrite len p.nextWriteLba p).Tracks lba₀ t := by
  have hbegin : beginSnoopWrite len p.nextWriteLba p
      = { p with nextWriteLba := p.nextWriteLba + UInt32.ofNat (len / 512) } := by
    rw [beginSnoopWrite, if_neg (not_not.mpr rfl)]
  rw [hbegin]
  refine ⟨h.mode_eq, h.match_lt, fun o v older hfound => ?_⟩
  have hkeep := h.newest o v older hfound
  exact ⟨hkeep.lba_eq, hkeep.offset_eq, hkeep.len_eq, hkeep.pw_eq⟩

/-- A call of a run: the tracker goes on, and nothing is captured if no prefix is completed. -/
theorem SnoopCall.Plain.follows {call : SnoopCall} (hcall : call.Plain)
    (h : (beginSnoopWrite call.buf.length call.lba p).Tracks lba₀ t) (hpos : 512 ∣ t.pos)
    (hlba : call.lba = lba₀ + UInt32.ofNat (t.pos / 512)) (hopen : t.OpenAtEnd) :
    (call.apply p).2.Tracks lba₀ (passwordMarker.track t call.buf)
      ∧ ((passwordMarker.track t call.buf).found = [] → p.SameCapture (call.apply p).2) := by
  rw [hcall.apply]
  refine ⟨phantomdriveSnoopWrite_tracks call.now call.buf h hpos hlba, fun hnone => ?_⟩
  have hle := passwordMarker.length_found_le_track t call.buf
  rw [hnone] at hle
  have hempty : t.found = [] := List.eq_nil_of_length_eq_zero (Nat.le_zero.mp hle)
  refine phantomdriveSnoopWrite_quiet call.now call.buf h (fun hvalue => ?_)
    (by rw [hnone, hempty])
  -- an open value has been found
  obtain ⟨o, v, older, hfound, -⟩ := hopen hvalue
  rw [hempty] at hfound
  cases hfound

/-- **A run is followed by one tracker**, and captures nothing if no prefix is completed. -/
theorem afterCalls_run {x : SnoopCall × List UInt8} {run : List (SnoopCall × List UInt8)}
    (hchain : (x :: run).IsChain fun a b => contiguous a b)
    (hplain : ∀ y ∈ x :: run, y.1.Plain)
    (h : (beginSnoopWrite x.1.buf.length x.1.lba p).Tracks lba₀ t) (hpos : 512 ∣ t.pos)
    (hlba : x.1.lba = lba₀ + UInt32.ofNat (t.pos / 512)) (hopen : t.OpenAtEnd) :
    (afterCalls p (x :: run)).Tracks lba₀ (passwordMarker.track t (runStream (x :: run)))
      ∧ ((passwordMarker.track t (runStream (x :: run))).found = [] →
          p.SameCapture (afterCalls p (x :: run))) := by
  induction run generalizing p x t with
  | nil =>
    have hstream : runStream [x] = x.1.buf := List.append_nil _
    rw [hstream]
    exact (hplain x List.mem_cons_self).follows h hpos hlba hopen
  | cons y run ih =>
    have hx := hplain x List.mem_cons_self
    obtain ⟨htracks, hsame⟩ := hx.follows h hpos hlba hopen
    rw [List.isChain_cons_cons] at hchain
    have hy : y.1.lba = x.1.lba + UInt32.ofNat (x.1.buf.length / 512) := by
      simpa [contiguous] using hchain.1
    -- the next call goes on where this one ended
    have hbegin : (beginSnoopWrite y.1.buf.length y.1.lba (x.1.apply p).2).Tracks lba₀
        (passwordMarker.track t x.1.buf) := by
      rw [hy, ← x.1.apply_nextWriteLba p]
      exact beginSnoopWrite_tracks htracks _
    have hpos' : 512 ∣ (passwordMarker.track t x.1.buf).pos := by
      rw [Marker.track_pos]
      exact Nat.dvd_add hpos hx.sectors
    have hlba' : y.1.lba
        = lba₀ + UInt32.ofNat ((passwordMarker.track t x.1.buf).pos / 512) := by
      rw [hy, hlba, Marker.track_pos, Nat.add_div_of_dvd_right hpos, UInt32.ofNat_add,
        UInt32.add_assoc]
    obtain ⟨hrun, hquiet⟩ := ih hchain.2 (fun z hz => hplain z (List.mem_cons_of_mem _ hz)) hbegin
      hpos' hlba' (Marker.openAtEnd_track _ hopen)
    have hstream : runStream (x :: y :: run) = x.1.buf ++ runStream (y :: run) := rfl
    have hafter : afterCalls p (x :: y :: run) = afterCalls (x.1.apply p).2 (y :: run) := rfl
    rw [hstream, hafter, Marker.track_append]
    refine ⟨hrun, fun hnone => (hsame ?_).trans (hquiet hnone)⟩
    have hle := passwordMarker.length_found_le_track (passwordMarker.track t x.1.buf)
      (runStream (y :: run))
    rw [hnone] at hle
    exact List.eq_nil_of_length_eq_zero (Nat.le_zero.mp hle)

end Run

/-! ### The bytes behind the password -/

/-- The bytes behind the password are zero, and its length is counted up to 129. -/
structure Phantom.Padded (p : Phantom) : Prop where
  zero : ∀ i (hi : i < 128), p.pendingPwLen ≤ i → p.pendingPw[i] = 0
  len_le : p.pendingPwLen ≤ 129

section Padded

variable {p : Phantom}

theorem padded_clearPendingPassword (p : Phantom) : (clearPendingPassword p).Padded where
  zero := fun i hi _ => by simp [clearPendingPassword]
  len_le := Nat.zero_le _

theorem padded_statics (uniqueId : UInt64) : (phantomdriveInit uniqueId Phantom.statics).Padded where
  zero := fun i hi _ => by simp [phantomdriveInit, Phantom.statics]
  len_le := Nat.zero_le _

theorem padded_appendPendingPassword (c : UInt8) (h : p.Padded) :
    (appendPendingPassword c p).Padded := by
  have hle := h.len_le
  refine ⟨fun i hi hlen => ?_, ?_⟩
  · simp only [appendPendingPassword] at hlen ⊢
    by_cases hfits : p.pendingPwLen < 128
    · rw [if_pos (by omega)] at hlen
      simp only [dif_pos hfits]
      rw [Vector.getElem_set_ne _ _ (by omega)]
      exact h.zero i hi (by omega)
    · simp only [dif_neg hfits]
      exact h.zero i hi (by split at hlen <;> omega)
  · simp only [appendPendingPassword]
    split <;> omega

theorem padded_openPendingPassword (now : ℕ → UInt64) (lba : UInt32) (i : ℕ) (v : List UInt8)
    (p : Phantom) : (openPendingPassword now lba i v p).Padded := by
  refine ⟨fun j hj hlen => ?_, ?_⟩
  · simp only [openPendingPassword] at hlen ⊢
    have hout : ¬ j < v.length := by split at hlen <;> omega
    simp [copyPendingPassword, clearPendingPassword, hout]
  · simp only [openPendingPassword]
    split <;> omega

theorem padded_finishPasswordSnoop (n : ℕ) (h : p.Padded) : (finishPasswordSnoop n p).Padded := by
  unfold finishPasswordSnoop
  split
  · exact padded_clearPendingPassword p
  · exact ⟨h.zero, h.len_le⟩

theorem padded_phantomdriveSnoopWrite (now : ℕ → UInt64) (buf : List UInt8) (lba : UInt32)
    (h : p.Padded) : (phantomdriveSnoopWrite now buf lba p).2.Padded := by
  apply phantomdriveSnoopWrite_preserves (P := Phantom.Padded) buf
  · have hbegin := beginSnoopWrite_sameCapture buf.length lba p
    refine ⟨fun i hi hlen => ?_, hbegin.pendingPwLen ▸ h.len_le⟩
    rw [hbegin.pendingPwLen] at hlen
    simp only [hbegin.pendingPw]
    exact h.zero i hi hlen
  · exact fun k q hq => ⟨hq.zero, hq.len_le⟩
  · exact fun c q hq => padded_appendPendingPassword c hq
  · exact fun q hq => ⟨hq.zero, hq.len_le⟩
  · exact fun i v q _ => padded_openPendingPassword now lba i v q
  · exact fun q hq => ⟨hq.zero, hq.len_le⟩
  · exact fun q hq => padded_finishPasswordSnoop _ hq

/-- Without attempts to unlock between them, calls keep the bytes behind the password zero. -/
theorem padded_afterCalls {done : List (SnoopCall × List UInt8)} (hplain : ∀ y ∈ done, y.1.Plain)
    (h : p.Padded) : (afterCalls p done).Padded := by
  induction done generalizing p with
  | nil => exact h
  | cons x done ih =>
    refine ih (fun y hy => hplain y (List.mem_cons_of_mem _ hy)) ?_
    show (x.1.apply p).2.Padded
    rw [(hplain x List.mem_cons_self).apply]
    exact padded_phantomdriveSnoopWrite _ _ _ h

end Padded

/-! ### The capture of a sequence of calls -/

/-- An occurrence of `password:` in a run: the sector the run starts at, the position right behind
the marker, the value as far as it was written, and whether its terminator was. -/
structure Capture where
  lba : UInt32
  pos : ℕ
  value : List UInt8
  terminated : Bool
deriving DecidableEq, Repr

/-- The last occurrence completed in a run. -/
def runCapture (run : List (SnoopCall × List UInt8)) : Option Capture :=
  (passwordMarker.finds 0 (runStream run)).getLast?.map fun f =>
    ⟨runLba run, f.1, f.2, f.1 + f.2.length < (runStream run).length⟩

/-- The last occurrence completed in any run. -/
def lastCapture (runs : List (List (SnoopCall × List UInt8))) : Option Capture :=
  runs.reverse.findSome? runCapture

/-- The statics hold a capture: the value up to its limits and where it starts, or nothing if it
is empty and terminated. -/
structure Phantom.Holds (p : Phantom) (c : Capture) : Prop where
  kept : c.value ≠ [] ∨ c.terminated = false →
    p.pendingPwLen = min c.value.length 129
      ∧ p.pendingPw.toList = c.value.take 128 ++ List.replicate (128 - c.value.length) 0
      ∧ p.pendingPwLba = c.lba + UInt32.ofNat ((c.pos - 1) / 512)
      ∧ p.pendingPwOffset = (c.pos - 1) % 512 + 1
  cleared : c.value = [] → c.terminated = true →
    p.pendingPwLen = 0 ∧ p.pendingPw = Vector.replicate 128 0

theorem lastCapture_append (runs : List (List (SnoopCall × List UInt8)))
    (run : List (SnoopCall × List UInt8)) :
    lastCapture (runs ++ [run]) = (runCapture run).or (lastCapture runs) := by
  rw [lastCapture, List.reverse_append]
  show ([run] ++ runs.reverse).findSome? runCapture = _
  rw [List.findSome?_append, List.findSome?_singleton]
  rfl

/-- The value kept, padded with zeros. -/
theorem Phantom.Keeps.toList_pendingPw {p : Phantom} {lba : UInt32} {o : ℕ} {v : List UInt8}
    (h : p.Keeps lba o v) (hpad : p.Padded) :
    p.pendingPw.toList = v.take 128 ++ List.replicate (128 - v.length) 0 := by
  have hlen := h.len_eq
  apply List.ext_getElem?
  intro i
  by_cases hi : i < 128
  · by_cases hv : i < v.length
    · rw [h.pw_eq i (by omega), List.getElem?_append_left (by rw [List.length_take]; omega),
        List.getElem?_take_of_lt hi]
    · have hzero := hpad.zero i hi (by omega)
      have hget : p.pendingPw.toList[i]? = some 0 := by
        rw [List.getElem?_eq_getElem (by simpa using hi), Vector.getElem_toList, hzero]
      rw [hget, List.getElem?_append_right (by rw [List.length_take]; omega),
        List.getElem?_replicate_of_lt (by rw [List.length_take]; omega)]
  · rw [List.getElem?_eq_none (by simpa using Nat.not_lt.mp hi), List.getElem?_eq_none]
    rw [List.length_append, List.length_take, List.length_replicate]
    omega

theorem Phantom.Keeps.holds {p : Phantom} {c : Capture} (h : p.Keeps c.lba c.pos c.value)
    (hpad : p.Padded) : p.Holds c where
  kept := fun _ => ⟨h.len_eq, h.toList_pendingPw hpad, h.lba_eq, h.offset_eq⟩
  cleared := fun hempty _ => by
    have hlen := h.len_eq
    have hlist := h.toList_pendingPw hpad
    rw [hempty] at hlen hlist
    refine ⟨hlen, Vector.toList_inj.mp ?_⟩
    rw [hlist, Vector.toList_replicate]
    rfl

section Captures

variable {p : Phantom}

/-- The runs so far: the statics keep the last occurrence, or what they held at the start. -/
theorem afterCalls_captures (hp : p.mode = .seek 0) (hk : p.prefixMatchLen < 9)
    {calls : List SnoopCall} (hplain : ∀ call ∈ calls, call.Plain)
    {before after : List (List (SnoopCall × List UInt8))}
    (h : (snoopCalls p calls).splitBy contiguous = before ++ after) :
    (∀ c, lastCapture before = some c →
        (afterCalls p before.flatten).Keeps c.lba c.pos c.value)
      ∧ (lastCapture before = none → p.SameCapture (afterCalls p before.flatten)) := by
  induction before using List.reverseRecOn generalizing after with
  | nil => exact ⟨fun c hc => (by cases hc), fun _ => Phantom.SameCapture.refl p⟩
  | append_singleton before run ih =>
    rw [List.append_assoc, List.singleton_append] at h
    obtain ⟨hkeep, hsame⟩ := ih h
    have hmem : run ∈ (snoopCalls p calls).splitBy contiguous := by
      rw [h]
      exact List.mem_append_right _ List.mem_cons_self
    obtain ⟨x, run, rfl⟩ := List.exists_cons_of_ne_nil (List.ne_nil_of_mem_splitBy hmem)
    have hchain := List.isChain_of_mem_splitBy hmem
    have hrunPlain : ∀ y ∈ x :: run, y.1.Plain := by
      intro y hy
      refine hplain y.1 ?_
      rw [← snoopCalls_map_fst p calls]
      refine List.mem_map_of_mem ?_
      rw [← List.flatten_splitBy contiguous (snoopCalls p calls)]
      exact List.mem_flatten_of_mem hmem hy
    have hflat : afterCalls p (before ++ [x :: run]).flatten
        = afterCalls (afterCalls p before.flatten) (x :: run) := by
      rw [List.flatten_append, List.flatten_singleton, afterCalls, List.foldl_append]
      rfl
    rw [hflat, lastCapture_append]
    have hstart := startMode_of_splitBy hp h
    have hmatch := afterCalls_prefixMatchLen before.flatten hk
    generalize afterCalls p before.flatten = q at hkeep hsame hstart hmatch ⊢
    have hbegin : (beginSnoopWrite x.1.buf.length x.1.lba q).Tracks x.1.lba ⟨.seek 0, 0, []⟩ := by
      refine ⟨?_, beginSnoopWrite_prefixMatchLen_lt _ _ hmatch, fun o v older hfound => ?_⟩
      · rw [beginSnoopWrite_mode, hstart]
      · cases hfound
    obtain ⟨htracks, hquiet⟩ := afterCalls_run hchain hrunPlain hbegin (Nat.dvd_zero 512)
      (UInt32.add_zero _).symm (fun hv => Mode.noConfusion hv)
    have hfinds := Marker.track_seek_zero passwordMarker 0 [] (runStream (x :: run))
    rw [List.append_nil] at hfinds
    have hrun : runCapture (x :: run)
        = (passwordMarker.finds 0 (runStream (x :: run))).getLast?.map fun f =>
          ⟨x.1.lba, f.1, f.2, f.1 + f.2.length < (runStream (x :: run)).length⟩ := rfl
    rw [hrun]
    rcases List.eq_nil_or_concat' (passwordMarker.finds 0 (runStream (x :: run))) with
      hnone | ⟨older, f, hlast⟩
    · -- nothing in this run
      rw [hnone] at hfinds ⊢
      have hcapture := hquiet hfinds
      exact ⟨fun c hc => hcapture.keeps (hkeep c hc), fun hc => (hsame hc).trans hcapture⟩
    · rw [hlast] at hfinds ⊢
      rw [List.getLast?_concat]
      refine ⟨fun c hc => ?_, fun hc => by cases hc⟩
      obtain rfl := Option.some.inj hc
      rw [List.reverse_append] at hfinds
      exact htracks.newest f.1 f.2 older.reverse hfinds

end Captures

/-- **What a sequence of calls captures.**  After any sequence of calls from power-up, with no
attempt to unlock, the statics hold the last `password:` completed in any contiguous run, whatever
the calls of the run; without one they hold nothing.  And the next call, as it works on memory, leaves
what it leaves on lists and accesses `prefix`, `pending_pw` and its buffer in their bounds only. -/
theorem snoopCalls_capture (uniqueId : UInt64) (calls : List SnoopCall)
    (hcalls : ∀ call ∈ calls,
      call.retained = none ∧ 0 < call.buf.length ∧ 512 ∣ call.buf.length) :
    let p₀ := phantomdriveInit uniqueId Phantom.statics
    let p := afterCalls p₀ (snoopCalls p₀ calls)
    (∀ c, lastCapture ((snoopCalls p₀ calls).splitBy contiguous) = some c → p.Holds c)
      ∧ (lastCapture ((snoopCalls p₀ calls).splitBy contiguous) = none →
          p.pendingPwLen = 0 ∧ p.pendingPw = Vector.replicate 128 0)
      ∧ p.prefixMatchLen ≤ 8 ∧ p.pendingPwLen ≤ 129
      ∧ ∀ now buf lba,
          let m := phantomdriveSnoopWriteInPlace now buf lba p
          (m.buf, m.phantom) = phantomdriveSnoopWrite now buf lba p
            ∧ ∀ a ∈ m.accesses, a.InBounds buf.length := by
  intro p₀ p
  have hplain : ∀ call ∈ calls, call.Plain := fun call hcall =>
    ⟨(hcalls call hcall).1, (hcalls call hcall).2.1, (hcalls call hcall).2.2⟩
  have hk : p₀.prefixMatchLen < 9 := Nat.zero_lt_succ 8
  have hmatch : p.prefixMatchLen < 9 := afterCalls_prefixMatchLen _ hk
  have hpad : p.Padded := by
    refine padded_afterCalls (fun y hy => hplain y.1 ?_) (padded_statics uniqueId)
    rw [← snoopCalls_map_fst p₀ calls]
    exact List.mem_map_of_mem hy
  obtain ⟨hkeep, hsame⟩ := afterCalls_captures rfl hk hplain
    (List.append_nil ((snoopCalls p₀ calls).splitBy contiguous)).symm
  rw [List.flatten_splitBy] at hkeep hsame
  refine ⟨fun c hc => (hkeep c hc).holds hpad, fun hc => ?_, Nat.le_of_lt_succ hmatch,
    hpad.len_le, fun now buf lba => phantomdriveSnoopWriteInPlace_spec now buf lba hmatch⟩
  exact ⟨(hsame hc).pendingPwLen, (hsame hc).pendingPw⟩

/-- Two calls that cut `password:ab` inside its value, at sectors 7 and 8. -/
def sampleSnoopCalls : List SnoopCall :=
  [⟨fun _ => 0, List.replicate 502 0x41 ++ passwordPrefix ++ [0x61], 7, none⟩,
    ⟨fun _ => 0, [0x62, 0x0A] ++ List.replicate 510 0x41, 8, none⟩]

/-- The value of both calls is held. -/
theorem snoopCalls_capture_cut :
    (afterCalls (phantomdriveInit 0 Phantom.statics)
      (snoopCalls (phantomdriveInit 0 Phantom.statics) sampleSnoopCalls)).Holds
        ⟨7, 511, [0x61, 0x62], true⟩ := by
  have hcalls : ∀ call ∈ sampleSnoopCalls,
      call.retained = none ∧ 0 < call.buf.length ∧ 512 ∣ call.buf.length := by
    decide +kernel
  exact (snoopCalls_capture 0 sampleSnoopCalls hcalls).1 _ (by decide +kernel)

end PhantomDrive
