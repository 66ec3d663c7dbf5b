/-
PhantomDrive/SnoopScan.lean

`phantomdrive_snoop_write` is one stream scanner.  Its matcher with carry-over state
(`pw_partial`, `prefix_match_len`) and its two paths, a fresh match and a value
continued from the call before, put out what the scanner of the marker `password:`
puts out, and the pending password is the newest find of its tracker.

Main results: one call (`phantomdriveSnoopWrite_output`,
`phantomdriveSnoopWrite_tracks`) and every sequence of calls, run by run
(`snoopCalls_scrub`).
-/
import PhantomDrive.Lib.MarkerScan
import PhantomDrive.Snoop

namespace PhantomDrive

open MarkerScan

/-- `password:`, ended by `is_password_terminator` and blanked with zero. -/
def passwordMarker : Marker UInt8 where
  first := 0x70
  rest := [0x61, 0x73, 0x73, 0x77, 0x6F, 0x72, 0x64, 0x3A]
  terminator := isPasswordTerminator
  blank := 0
  first_not_mem_rest := by decide
  first_not_terminator := by decide

/-- Where the scanner of the source stands between two bytes. -/
def Phantom.mode (p : Phantom) : Mode := if p.pwPartial then .value else .seek p.prefixMatchLen

/-! ### What the statics keep of the newest find -/

/-- The pending password is the value `v` of a find at position `o` of a buffer written at
`lba`: the length saturates at 129 and 128 bytes are kept. -/
structure Phantom.Keeps (p : Phantom) (lba : UInt32) (o : ℕ) (v : List UInt8) : Prop where
  lba_eq : p.pendingPwLba = lba + UInt32.ofNat ((o - 1) / 512)
  offset_eq : p.pendingPwOffset = (o - 1) % 512 + 1
  len_eq : p.pendingPwLen = min v.length 129
  pw_eq : ∀ i, i < min v.length 128 → p.pendingPw.toList[i]? = v[i]?

/-- The statics agree with a tracker of the buffer written at `lba`. -/
structure Phantom.Tracks (p : Phantom) (lba : UInt32) (t : Tracker UInt8) : Prop where
  mode_eq : p.mode = t.mode
  match_lt : p.prefixMatchLen < passwordPrefix.length
  newest : ∀ o v older, t.found = (o, v) :: older → p.Keeps lba o v

theorem keeps_appendPendingPassword {p : Phantom} {lba : UInt32} {o : ℕ} {v : List UInt8}
    (c : UInt8) (h : p.Keeps lba o v) : (appendPendingPassword c p).Keeps lba o (v ++ [c]) where
  lba_eq := h.lba_eq
  offset_eq := h.offset_eq
  len_eq := by
    have hlen := h.len_eq
    simp only [appendPendingPassword, List.length_append, List.length_singleton]
    split <;> omega
  pw_eq := by
    intro i hi
    have hlen := h.len_eq
    simp only [List.length_append, List.length_singleton] at hi
    by_cases hv : i < v.length
    · have hold := h.pw_eq i (by omega)
      rw [List.getElem?_append_left hv, ← hold]
      simp only [appendPendingPassword]
      split
      · rw [Vector.toList_set, List.getElem?_set_ne (by omega)]
      · rfl
    · have hi' : i = v.length := by omega
      have hlt : p.pendingPwLen < 128 := by omega
      simp only [appendPendingPassword, dif_pos hlt]
      rw [Vector.toList_set, hi', List.getElem?_concat_length,
        show p.pendingPwLen = v.length by omega, List.getElem?_set_self (by simp; omega)]

theorem keeps_openPendingPassword (now : ℕ → UInt64) (lba : UInt32) (i : ℕ) (v : List UInt8)
    (p : Phantom) : (openPendingPassword now lba i v p).Keeps lba (i + 1) v where
  lba_eq := rfl
  offset_eq := rfl
  len_eq := by
    simp only [openPendingPassword]
    split <;> omega
  pw_eq := by
    intro j hj
    have hlt : j < 128 := by omega
    have hv : j < v.length := by omega
    simp [openPendingPassword, copyPendingPassword, hlt, hv]

/-- Finishing a value leaves nothing but the pending password, and not even that when the
value is empty. -/
theorem keeps_finishPasswordSnoop {p : Phantom} {lba : UInt32} {o : ℕ} {v : List UInt8}
    (h : p.Keeps lba o v) : (finishPasswordSnoop p.pendingPwLen p).Keeps lba o v := by
  unfold finishPasswordSnoop
  split
  · rename_i hzero
    have hv : v.length = 0 := by
      have := h.len_eq
      omega
    exact ⟨h.lba_eq, h.offset_eq, by simp [clearPendingPassword, hv], by simp [hv]⟩
  · exact ⟨h.lba_eq, h.offset_eq, h.len_eq, h.pw_eq⟩

@[simp] theorem finishPasswordSnoop_pwPartial (n : ℕ) (p : Phantom) :
    (finishPasswordSnoop n p).pwPartial = false := by
  unfold finishPasswordSnoop
  split <;> rfl

@[simp] theorem finishPasswordSnoop_prefixMatchLen (n : ℕ) (p : Phantom) :
    (finishPasswordSnoop n p).prefixMatchLen = 0 := by
  unfold finishPasswordSnoop
  split <;> rfl

/-! ### `snoop_new_password` -/

section SnoopNewPassword

variable {now : ℕ → UInt64} {lba : UInt32} {p : Phantom} {i : ℕ} {c : UInt8} {rest : List UInt8}

theorem snoopNewPassword_nil : snoopNewPassword now lba p i [] = ([], p) := by
  rw [snoopNewPassword]

/-- A byte that goes on with the prefix without completing it. -/
theorem snoopNewPassword_match (hc : passwordPrefix[p.prefixMatchLen]? = some c)
    (hk : p.prefixMatchLen + 1 < passwordPrefix.length) :
    snoopNewPassword now lba p i (c :: rest)
      = let q := snoopNewPassword now lba
          { p with prefixMatchLen := p.prefixMatchLen + 1 } (i + 1) rest
        (c :: q.1, q.2) := by
  have hget : c = passwordPrefix.getD p.prefixMatchLen 0 := by
    rw [List.getD_eq_getElem?_getD, hc, Option.getD_some]
  rw [snoopNewPassword, if_pos hget, if_pos hk]

/-- A byte that does not go on with the prefix. -/
theorem snoopNewPassword_mismatch (hc : passwordPrefix[p.prefixMatchLen]? ≠ some c)
    (hk : p.prefixMatchLen < passwordPrefix.length) :
    snoopNewPassword now lba p i (c :: rest)
      = let q := snoopNewPassword now lba
          { p with prefixMatchLen := if c = 0x70 then 1 else 0 } (i + 1) rest
        (c :: q.1, q.2) := by
  have hget : c ≠ passwordPrefix.getD p.prefixMatchLen 0 := by
    intro heq
    apply hc
    rw [heq, List.getD_eq_getElem?_getD, List.getElem?_eq_getElem hk, Option.getD_some]
  rw [snoopNewPassword, if_neg hget]
  rfl

/-- The byte that completes the prefix, before a value that the buffer does not end. -/
theorem snoopNewPassword_open (hc : passwordPrefix[p.prefixMatchLen]? = some c)
    (hk : p.prefixMatchLen + 1 = passwordPrefix.length)
    (hopen : passwordMarker.afterValue rest = []) :
    snoopNewPassword now lba p i (c :: rest)
      = (c :: List.replicate (passwordMarker.valueOf rest).length 0,
          phantomdriveSetUnlockPending
            { openPendingPassword now lba i (passwordMarker.valueOf rest) p with
              pwPartial := true }) := by
  have hget : c = passwordPrefix.getD p.prefixMatchLen 0 := by
    rw [List.getD_eq_getElem?_getD, hc, Option.getD_some]
  rw [snoopNewPassword, if_pos hget, if_neg (by omega)]
  split
  · rfl
  · rename_i t tail hdrop
    rw [show passwordMarker.afterValue rest = t :: tail from hdrop] at hopen
    exact absurd hopen (by simp)

/-- The byte that completes the prefix, before a value with its terminator. -/
theorem snoopNewPassword_terminated {t : UInt8} {tail : List UInt8}
    (hc : passwordPrefix[p.prefixMatchLen]? = some c)
    (hk : p.prefixMatchLen + 1 = passwordPrefix.length)
    (hterm : passwordMarker.afterValue rest = t :: tail) :
    snoopNewPassword now lba p i (c :: rest)
      = let v := passwordMarker.valueOf rest
        let p' := openPendingPassword now lba i v p
        let q := snoopNewPassword now lba (finishPasswordSnoop p'.pendingPwLen p')
          (i + 1 + v.length + 1) tail
        (c :: (List.replicate v.length 0 ++ t :: q.1), q.2) := by
  have hget : c = passwordPrefix.getD p.prefixMatchLen 0 := by
    rw [List.getD_eq_getElem?_getD, hc, Option.getD_some]
  rw [snoopNewPassword, if_pos hget, if_neg (by omega)]
  split
  · rename_i hdrop
    rw [show passwordMarker.afterValue rest = [] from hdrop] at hterm
    exact absurd hterm (by simp)
  · rename_i t' tail' hdrop
    obtain ⟨rfl, rfl⟩ : t' = t ∧ tail' = tail := by
      rw [show passwordMarker.afterValue rest = t' :: tail' from hdrop] at hterm
      exact List.cons.inj hterm
    rfl

/-- From a state that is not inside a value, `snoop_new_password` is the scanner. -/
theorem snoopNewPassword_scans (now : ℕ → UInt64) {found : List (ℕ × List UInt8)}
    (l : List UInt8)
    (h : p.Tracks lba ⟨.seek p.prefixMatchLen, i, found⟩) :
    (snoopNewPassword now lba p i l).1 = passwordMarker.output (.seek p.prefixMatchLen) l
      ∧ (snoopNewPassword now lba p i l).2.Tracks lba
          (passwordMarker.track ⟨.seek p.prefixMatchLen, i, found⟩ l) := by
  induction hn : l.length using Nat.strong_induction_on generalizing p i found l with
  | _ n ih =>
    rcases l with - | ⟨c, rest⟩
    · rw [snoopNewPassword_nil]
      exact ⟨rfl, h⟩
    have hlen : rest.length < n := by simp at hn; omega
    have hpart : p.pwPartial = false := by
      by_contra hp
      have := h.mode_eq
      simp [Phantom.mode, hp] at this
    rw [Marker.output_cons, Marker.track_cons]
    by_cases hc : passwordPrefix[p.prefixMatchLen]? = some c
    · by_cases hk : p.prefixMatchLen + 1 < passwordPrefix.length
      · -- one more byte of the prefix
        have hnext : passwordMarker.next (.seek p.prefixMatchLen) c
            = .seek (p.prefixMatchLen + 1) := Marker.next_seek_match hc hk
        rw [snoopNewPassword_match hc hk, hnext,
          Marker.step_seek rfl (by rw [hnext]; exact Mode.noConfusion), hnext]
        have hq : Phantom.Tracks { p with prefixMatchLen := p.prefixMatchLen + 1 } lba
            ⟨.seek (p.prefixMatchLen + 1), i + 1, found⟩ := by
          refine ⟨by simp [Phantom.mode, hpart], hk, ?_⟩
          intro o v older hfound
          have hkeep := h.newest o v older hfound
          exact ⟨hkeep.lba_eq, hkeep.offset_eq, hkeep.len_eq, hkeep.pw_eq⟩
        obtain ⟨hout, htrack⟩ := ih rest.length hlen rest hq rfl
        exact ⟨congrArg (c :: ·) hout, htrack⟩
      · -- the prefix is complete
        have hlast : p.prefixMatchLen + 1 = passwordPrefix.length := by
          have := h.match_lt
          omega
        have hnext : passwordMarker.next (.seek p.prefixMatchLen) c = .value :=
          Marker.next_seek_last hc hlast
        have hstep : passwordMarker.step ⟨.seek p.prefixMatchLen, i, found⟩ c
            = ⟨.value, i + 1, (i + 1, []) :: found⟩ := by
          simp [Marker.step, hnext]
        have hkeep := keeps_openPendingPassword now lba i (passwordMarker.valueOf rest) p
        rw [hnext, hstep]
        rcases hafter : passwordMarker.afterValue rest with - | ⟨t, tail⟩
        · rw [snoopNewPassword_open hc hlast hafter, Marker.track_value_of_open _ _ hafter,
            Marker.output_value, hafter]
          refine ⟨by simp [Marker.emit, passwordMarker], rfl, Nat.zero_lt_succ 8, ?_⟩
          intro o v older hfound
          obtain ⟨⟨rfl, rfl⟩, -⟩ : (i + 1 = o ∧ passwordMarker.valueOf rest = v)
              ∧ found = older := by
            simpa [extendNewest] using hfound
          exact ⟨hkeep.lba_eq, hkeep.offset_eq, hkeep.len_eq, hkeep.pw_eq⟩
        · have htail : tail.length < n := by
            have := passwordMarker.length_afterValue_le rest
            simp only [hafter, List.length_cons] at this
            omega
          rw [snoopNewPassword_terminated hc hlast hafter,
            Marker.track_value_of_terminated _ _ hafter, Marker.output_value_of_terminated hafter]
          dsimp only
          generalize openPendingPassword now lba i (passwordMarker.valueOf rest) p = p' at hkeep ⊢
          have hq : (finishPasswordSnoop p'.pendingPwLen p').Tracks lba
              ⟨.seek (finishPasswordSnoop p'.pendingPwLen p').prefixMatchLen,
                i + 1 + (passwordMarker.valueOf rest).length + 1,
                extendNewest ((i + 1, []) :: found) (passwordMarker.valueOf rest)⟩ := by
            refine ⟨by simp [Phantom.mode], by simp [passwordPrefix], ?_⟩
            intro o v older hfound
            obtain ⟨⟨rfl, rfl⟩, -⟩ : (i + 1 = o ∧ passwordMarker.valueOf rest = v)
                ∧ found = older := by
              simpa [extendNewest] using hfound
            exact keeps_finishPasswordSnoop hkeep
          obtain ⟨hout, htrack⟩ := ih tail.length htail tail hq rfl
          rw [finishPasswordSnoop_prefixMatchLen] at hout htrack
          rw [hout]
          exact ⟨rfl, htrack⟩
    · -- a mismatch
      have hnext : passwordMarker.next (.seek p.prefixMatchLen) c
          = .seek (if c = 0x70 then 1 else 0) := by
        rw [Marker.next_seek_mismatch hc]
        split <;> rename_i hfirst
        · rw [if_pos (show c = 0x70 from hfirst)]
        · rw [if_neg (show ¬ c = 0x70 from hfirst)]
      rw [snoopNewPassword_mismatch hc h.match_lt, hnext,
        Marker.step_seek rfl (by rw [hnext]; exact Mode.noConfusion), hnext]
      have hq : Phantom.Tracks { p with prefixMatchLen := if c = 0x70 then 1 else 0 } lba
          ⟨.seek (if c = 0x70 then 1 else 0), i + 1, found⟩ := by
        refine ⟨by simp [Phantom.mode, hpart], ?_, ?_⟩
        · show (if c = 0x70 then 1 else 0) < 9
          split <;> decide
        · intro o v older hfound
          have hkeep := h.newest o v older hfound
          exact ⟨hkeep.lba_eq, hkeep.offset_eq, hkeep.len_eq, hkeep.pw_eq⟩
      obtain ⟨hout, htrack⟩ := ih rest.length hlen rest hq rfl
      exact ⟨congrArg (c :: ·) hout, htrack⟩

/-- What every update of the statics keeps, `snoop_new_password` keeps. -/
theorem snoopNewPassword_preserves {P : Phantom → Prop} (l : List UInt8)
    (hmatch : ∀ k p, P p → P { p with prefixMatchLen := k })
    (hopen : ∀ i v p, P p → P (openPendingPassword now lba i v p))
    (hpart : ∀ p, P p → P (phantomdriveSetUnlockPending { p with pwPartial := true }))
    (hfinish : ∀ p, P p → P (finishPasswordSnoop p.pendingPwLen p)) (hp : P p) :
    P (snoopNewPassword now lba p i l).2 := by
  induction hn : l.length using Nat.strong_induction_on generalizing p i l with
  | _ n ih =>
    rcases l with - | ⟨c, rest⟩
    · rw [snoopNewPassword_nil]
      exact hp
    have hlen : rest.length < n := by simp at hn; omega
    rw [snoopNewPassword]
    split
    · split
      · exact ih rest.length hlen rest (hmatch _ p hp) rfl
      · dsimp only
        split
        · exact hpart _ (hopen i _ p hp)
        · rename_i t tail hdrop
          have htail : tail.length < n := by
            have hle := passwordMarker.length_afterValue_le rest
            rw [show passwordMarker.afterValue rest = t :: tail from hdrop,
              List.length_cons] at hle
            omega
          exact ih tail.length htail tail (hfinish _ (hopen i _ p hp)) rfl
    · exact ih rest.length hlen rest (hmatch _ p hp) rfl

end SnoopNewPassword

/-! ### `continue_partial_password` -/

theorem continuePartialLoop_eq (p : Phantom) (l : List UInt8) :
    continuePartialLoop p l
      = ((passwordMarker.valueOf l).length, !(passwordMarker.afterValue l).isEmpty,
          (passwordMarker.valueOf l).foldl (fun p c => appendPendingPassword c p) p) := by
  induction l generalizing p with
  | nil => rfl
  | cons c rest ih =>
      by_cases hc : isPasswordTerminator c = true
      · simp [continuePartialLoop, Marker.valueOf, Marker.afterValue, passwordMarker, hc]
      · have hv : passwordMarker.valueOf (c :: rest) = c :: passwordMarker.valueOf rest := by
          simp [Marker.valueOf, passwordMarker, hc]
        have ha : passwordMarker.afterValue (c :: rest) = passwordMarker.afterValue rest := by
          simp [Marker.afterValue, passwordMarker, hc]
        rw [continuePartialLoop, if_neg hc, ih, hv, ha]
        rfl

theorem keeps_foldl_append {p : Phantom} {lba : UInt32} {o : ℕ} {v : List UInt8}
    (w : List UInt8) (h : p.Keeps lba o v) :
    (w.foldl (fun p c => appendPendingPassword c p) p).Keeps lba o (v ++ w) := by
  induction w generalizing p v with
  | nil => simpa using h
  | cons c w ih =>
      have := ih (keeps_appendPendingPassword c h)
      simpa using this

theorem foldl_append_preserves {P : Phantom → Prop} (w : List UInt8)
    (happend : ∀ c p, P p → P (appendPendingPassword c p)) {p : Phantom} (hp : P p) :
    P (w.foldl (fun p c => appendPendingPassword c p) p) := by
  induction w generalizing p with
  | nil => exact hp
  | cons c w ih => exact ih (happend c p hp)

/-! ### One call -/

/-- Where the scanner stands when `phantomdrive_snoop_write` starts on a buffer at `lba`: a
buffer that does not go on where the last one ended starts afresh. -/
def Phantom.startMode (p : Phantom) (lba : UInt32) : Mode :=
  if lba ≠ p.nextWriteLba then .seek 0 else p.mode

section SnoopWrite

variable {now : ℕ → UInt64} {lba : UInt32} {p : Phantom}

theorem beginSnoopWrite_mode (p : Phantom) (lba : UInt32) (len : ℕ) :
    (beginSnoopWrite len lba p).mode = p.startMode lba := by
  unfold beginSnoopWrite Phantom.startMode
  by_cases h : lba ≠ p.nextWriteLba
  · rw [if_pos h, if_pos h]
    rfl
  · rw [if_neg h, if_neg h]
    rfl

theorem beginSnoopWrite_prefixMatchLen_lt (lba : UInt32) (len : ℕ) (hk : p.prefixMatchLen < 9) :
    (beginSnoopWrite len lba p).prefixMatchLen < 9 := by
  unfold beginSnoopWrite
  by_cases h : lba ≠ p.nextWriteLba
  · rw [if_pos h]
    exact Nat.zero_lt_succ 8
  · rw [if_neg h]
    exact hk

/-- `continue_partial_password` on a value that the buffer does not end. -/
theorem continuePartialPassword_of_open {buf : List UInt8}
    (h : passwordMarker.afterValue buf = []) :
    continuePartialPassword buf p
      = (List.replicate buf.length 0, buf.length,
          buf.foldl (fun p c => appendPendingPassword c p) p) := by
  have hv : passwordMarker.valueOf buf = buf := by
    simpa [h] using passwordMarker.valueOf_append_afterValue buf
  simp [continuePartialPassword, continuePartialLoop_eq, h, hv]

/-- `continue_partial_password` on a value with its terminator. -/
theorem continuePartialPassword_of_terminated {buf tail : List UInt8} {t : UInt8}
    (h : passwordMarker.afterValue buf = t :: tail) :
    continuePartialPassword buf p
      = let v := passwordMarker.valueOf buf
        let q := v.foldl (fun p c => appendPendingPassword c p) p
        (List.replicate v.length 0 ++ t :: tail, v.length + 1,
          finishPasswordSnoop q.pendingPwLen { q with pwPartial := false }) := by
  have hdrop : buf.drop (passwordMarker.valueOf buf).length = t :: tail := by
    have hsplit := passwordMarker.valueOf_append_afterValue buf
    rw [h] at hsplit
    calc buf.drop (passwordMarker.valueOf buf).length
        = (passwordMarker.valueOf buf ++ t :: tail).drop (passwordMarker.valueOf buf).length := by
          rw [hsplit]
      _ = t :: tail := List.drop_left
  simp only [continuePartialPassword, continuePartialLoop_eq, h, hdrop]
  rfl

/-- What every update of the statics keeps, `phantomdrive_snoop_write` keeps. -/
theorem phantomdriveSnoopWrite_preserves {P : Phantom → Prop} (buf : List UInt8)
    (hbegin : P (beginSnoopWrite buf.length lba p))
    (hmatch : ∀ k p, P p → P { p with prefixMatchLen := k })
    (happend : ∀ c p, P p → P (appendPendingPassword c p))
    (hclosed : ∀ p, P p → P { p with pwPartial := false })
    (hopen : ∀ i v p, P p → P (openPendingPassword now lba i v p))
    (hpart : ∀ p, P p → P (phantomdriveSetUnlockPending { p with pwPartial := true }))
    (hfinish : ∀ p, P p → P (finishPasswordSnoop p.pendingPwLen p)) :
    P (phantomdriveSnoopWrite now buf lba p).2 := by
  unfold phantomdriveSnoopWrite snoopBuffer
  generalize beginSnoopWrite buf.length lba p = q at hbegin
  by_cases hq : q.pwPartial = true
  · rw [if_pos hq]
    refine snoopNewPassword_preserves _ hmatch hopen hpart hfinish ?_
    rcases hafter : passwordMarker.afterValue buf with - | ⟨t, tail⟩
    · rw [continuePartialPassword_of_open hafter]
      exact foldl_append_preserves _ happend hbegin
    · rw [continuePartialPassword_of_terminated hafter]
      have hvalue := hclosed _
        (foldl_append_preserves (passwordMarker.valueOf buf) happend hbegin)
      have hend := hfinish _ hvalue
      exact hend
  · rw [if_neg hq]
    exact snoopNewPassword_preserves _ hmatch hopen hpart hfinish hbegin

theorem phantomdriveSnoopWrite_nextWriteLba (buf : List UInt8) :
    (phantomdriveSnoopWrite now buf lba p).2.nextWriteLba
      = lba + UInt32.ofNat (buf.length / 512) := by
  apply phantomdriveSnoopWrite_preserves
    (P := fun q => q.nextWriteLba = lba + UInt32.ofNat (buf.length / 512)) buf rfl
  · exact fun _ _ h => h
  · exact fun _ _ h => h
  · exact fun _ h => h
  · exact fun i v q h => (openPendingPassword_nextWriteLba now lba i v q).trans h
  · exact fun _ h => h
  · intro q h
    unfold finishPasswordSnoop
    split <;> exact h

/-- One call is the scanner, from `startMode` on. -/
theorem phantomdriveSnoopWrite_scans (now : ℕ → UInt64) (lba : UInt32) (buf : List UInt8)
    (hk : p.prefixMatchLen < 9) :
    (phantomdriveSnoopWrite now buf lba p).1 = passwordMarker.output (p.startMode lba) buf
      ∧ (phantomdriveSnoopWrite now buf lba p).2.Tracks lba
          (passwordMarker.track ⟨p.startMode lba, 0, []⟩ buf) := by
  have hmode := beginSnoopWrite_mode p lba buf.length
  have hlt := beginSnoopWrite_prefixMatchLen_lt lba buf.length hk
  unfold phantomdriveSnoopWrite snoopBuffer
  rw [← hmode]
  generalize beginSnoopWrite buf.length lba p = q at hmode hlt
  by_cases hq : q.pwPartial = true
  · have hvalue : q.mode = .value := by simp [Phantom.mode, hq]
    rw [if_pos hq, hvalue]
    rcases hafter : passwordMarker.afterValue buf with - | ⟨t, tail⟩
    · -- the whole buffer belongs to the value
      have hv : passwordMarker.valueOf buf = buf := by
        simpa [hafter] using passwordMarker.valueOf_append_afterValue buf
      rw [continuePartialPassword_of_open hafter, Marker.track_value_of_open _ _ hafter,
        Marker.output_value, hafter, hv]
      simp only [List.drop_replicate, Nat.sub_self, List.replicate_zero, snoopNewPassword_nil]
      refine ⟨by simp [passwordMarker], ?_⟩
      have hkeep := foldl_append_preserves (P := fun r => r.mode = .value ∧ r.prefixMatchLen < 9)
        buf (fun _ _ h => h) ⟨hvalue, hlt⟩
      exact ⟨hkeep.1, hkeep.2, by simp [extendNewest]⟩
    · rw [continuePartialPassword_of_terminated hafter,
        Marker.track_value_of_terminated _ _ hafter, Marker.output_value_of_terminated hafter]
      dsimp only
      generalize (passwordMarker.valueOf buf).foldl (fun p c => appendPendingPassword c p) q = r
      generalize hfin : finishPasswordSnoop r.pendingPwLen { r with pwPartial := false } = fin
      have hpart : fin.pwPartial = false := by rw [← hfin, finishPasswordSnoop_pwPartial]
      have hmatch : fin.prefixMatchLen = 0 := by rw [← hfin, finishPasswordSnoop_prefixMatchLen]
      have htrack : fin.Tracks lba
          ⟨.seek fin.prefixMatchLen, 0 + (passwordMarker.valueOf buf).length + 1, []⟩ :=
        ⟨by simp [Phantom.mode, hpart], by simp [hmatch, passwordPrefix], by simp⟩
      have hscan := snoopNewPassword_scans now tail htrack
      have htake : (List.replicate (passwordMarker.valueOf buf).length 0 ++ t :: tail).take
            ((passwordMarker.valueOf buf).length + 1)
          = List.replicate (passwordMarker.valueOf buf).length 0 ++ [t] := by
        simp [List.take_append, List.take_replicate]
      have hdrop : (List.replicate (passwordMarker.valueOf buf).length 0 ++ t :: tail).drop
            ((passwordMarker.valueOf buf).length + 1) = tail := by
        simp [List.drop_append]
      rw [htake, hdrop]
      rw [hmatch, Nat.zero_add] at hscan
      rw [Nat.zero_add, hscan.1, List.append_assoc, List.singleton_append]
      exact ⟨rfl, hscan.2⟩
  · have hseek : q.mode = .seek q.prefixMatchLen := by simp [Phantom.mode, hq]
    rw [if_neg hq, hseek]
    exact snoopNewPassword_scans now buf ⟨hseek, hlt, by simp⟩

end SnoopWrite

/-! ### Sequences of calls -/

/-- One call of `phantomdrive_snoop_write`.  Between the calls `phantomdrive_try_unlock` may
have run and failed; `retained` is what the last such attempt left in `pending_pw_len`. -/
structure SnoopCall where
  now : ℕ → UInt64
  buf : List UInt8
  lba : UInt32
  retained : Option ℕ

/-- The call, after the failed attempts before it. -/
def SnoopCall.apply (call : SnoopCall) (p : Phantom) : List UInt8 × Phantom :=
  phantomdriveSnoopWrite call.now call.buf call.lba
    { p with pendingPwLen := call.retained.getD p.pendingPwLen }

/-- A sequence of calls, each with the buffer it leaves. -/
def snoopCalls (p : Phantom) : List SnoopCall → List (SnoopCall × List UInt8)
  | [] => []
  | call :: calls => (call, (call.apply p).1) :: snoopCalls (call.apply p).2 calls

/-- The statics after a sequence of calls. -/
def afterCalls (p : Phantom) (done : List (SnoopCall × List UInt8)) : Phantom :=
  done.foldl (fun p x => (x.1.apply p).2) p

/-- The second call starts at the sector after the first. -/
def contiguous (x y : SnoopCall × List UInt8) : Bool :=
  y.1.lba = x.1.lba + UInt32.ofNat (x.1.buf.length / 512)

theorem SnoopCall.apply_scans {p : Phantom} (call : SnoopCall) (hk : p.prefixMatchLen < 9) :
    (call.apply p).1 = passwordMarker.output (p.startMode call.lba) call.buf
      ∧ (call.apply p).2.Tracks call.lba
          (passwordMarker.track ⟨p.startMode call.lba, 0, []⟩ call.buf) :=
  phantomdriveSnoopWrite_scans call.now call.lba
    (p := { p with pendingPwLen := call.retained.getD p.pendingPwLen }) call.buf hk

theorem SnoopCall.apply_mode {p : Phantom} (call : SnoopCall) (hk : p.prefixMatchLen < 9) :
    (call.apply p).2.mode = passwordMarker.modeAfter (p.startMode call.lba) call.buf := by
  have h := (call.apply_scans hk).2.mode_eq
  rw [Marker.track_mode] at h
  exact h

theorem SnoopCall.apply_prefixMatchLen {p : Phantom} (call : SnoopCall)
    (hk : p.prefixMatchLen < 9) : (call.apply p).2.prefixMatchLen < 9 :=
  (call.apply_scans hk).2.match_lt

theorem SnoopCall.apply_nextWriteLba (call : SnoopCall) (p : Phantom) :
    (call.apply p).2.nextWriteLba = call.lba + UInt32.ofNat (call.buf.length / 512) :=
  phantomdriveSnoopWrite_nextWriteLba call.buf

theorem snoopCalls_map_fst (p : Phantom) (calls : List SnoopCall) :
    (snoopCalls p calls).map Prod.fst = calls := by
  induction calls generalizing p with
  | nil => rfl
  | cons call calls ih => rw [snoopCalls, List.map_cons, ih]

/-- What follows a part of a sequence is a sequence from the statics that part leaves. -/
theorem snoopCalls_split {p : Phantom} {calls : List SnoopCall}
    {done todo : List (SnoopCall × List UInt8)} (h : snoopCalls p calls = done ++ todo) :
    ∃ rest, todo = snoopCalls (afterCalls p done) rest := by
  induction done generalizing p calls with
  | nil => exact ⟨calls, h.symm⟩
  | cons x done ih =>
      rcases calls with - | ⟨call, calls⟩
      · simp [snoopCalls] at h
      · rw [snoopCalls, List.cons_append] at h
        obtain ⟨rfl, hrest⟩ := List.cons.inj h
        exact ih hrest

theorem afterCalls_prefixMatchLen {p : Phantom} (done : List (SnoopCall × List UInt8))
    (hk : p.prefixMatchLen < 9) : (afterCalls p done).prefixMatchLen < 9 := by
  induction done generalizing p with
  | nil => exact hk
  | cons x done ih => exact ih (x.1.apply_prefixMatchLen hk)

theorem afterCalls_append_nextWriteLba (p : Phantom) (done : List (SnoopCall × List UInt8))
    (z : SnoopCall × List UInt8) :
    (afterCalls p (done ++ [z])).nextWriteLba
      = z.1.lba + UInt32.ofNat (z.1.buf.length / 512) := by
  rw [afterCalls, List.foldl_append]
  exact z.1.apply_nextWriteLba _

/-- A maximal run starts with nothing carried over: it is the first, or it does not go on
where the run before it ended. -/
theorem startMode_of_splitBy {p : Phantom} (hp : p.mode = .seek 0) {calls : List (SnoopCall × List UInt8)}
    {before after : List (List (SnoopCall × List UInt8))} {x : SnoopCall × List UInt8}
    {run : List (SnoopCall × List UInt8)}
    (h : calls.splitBy contiguous = before ++ (x :: run) :: after) :
    (afterCalls p before.flatten).startMode x.1.lba = .seek 0 := by
  rcases List.eq_nil_or_concat before with rfl | ⟨init, prev, rfl⟩
  · unfold Phantom.startMode
    split
    · rfl
    · exact hp
  · have hbreak := List.isChain_getLast_head_splitBy contiguous calls
    rw [h, List.concat_eq_append, List.append_assoc, List.isChain_append] at hbreak
    obtain ⟨hprev, _, hstart⟩ : ∃ (ha : prev ≠ []) (hb : x :: run ≠ []),
        contiguous (prev.getLast ha) ((x :: run).head hb) = false := by
      have := hbreak.2.1
      rw [List.singleton_append, List.isChain_cons_cons] at this
      exact this.1
    rw [Phantom.startMode, if_pos]
    have hlast : (init.concat prev).flatten
        = (init.flatten ++ prev.dropLast) ++ [prev.getLast hprev] := by
      rw [List.concat_eq_append, List.flatten_append, List.flatten_singleton, List.append_assoc,
        List.dropLast_append_getLast]
    rw [hlast, afterCalls_append_nextWriteLba]
    exact of_decide_eq_false hstart

/-- A contiguous run of calls puts out what the scanner puts out for its whole stream. -/
theorem snoopCalls_output {p : Phantom} {calls : List SnoopCall}
    {run todo : List (SnoopCall × List UInt8)} {x : SnoopCall × List UInt8}
    (h : x :: run ++ todo = snoopCalls p calls) (hk : p.prefixMatchLen < 9)
    (hchain : (x :: run).IsChain fun a b => contiguous a b) :
    (x :: run).flatMap Prod.snd
      = passwordMarker.output (p.startMode x.1.lba) ((x :: run).flatMap fun y => y.1.buf) := by
  induction run generalizing p calls x with
  | nil =>
      rcases calls with - | ⟨call, calls⟩
      · simp [snoopCalls] at h
      · obtain ⟨rfl, -⟩ := List.cons.inj h
        simpa using (call.apply_scans hk).1
  | cons y run ih =>
      rcases calls with - | ⟨call, calls⟩
      · simp [snoopCalls] at h
      · obtain ⟨rfl, hrest⟩ := List.cons.inj h
        rw [List.isChain_cons_cons] at hchain
        have hnext : y.1.lba = call.lba + UInt32.ofNat (call.buf.length / 512) := by
          simpa [contiguous] using hchain.1
        have hmode : (call.apply p).2.startMode y.1.lba
            = passwordMarker.modeAfter (p.startMode call.lba) call.buf := by
          rw [← call.apply_mode hk, Phantom.startMode, call.apply_nextWriteLba, hnext,
            if_neg (not_not.mpr rfl)]
        have hrun := ih hrest (call.apply_prefixMatchLen hk) hchain.2
        rw [hmode] at hrun
        rw [List.flatMap_cons, hrun, (call.apply_scans hk).1]
        exact (Marker.output_append ..).symm

/-- **Every sequence of calls scrubs every run of contiguous writes as one stream.**  In each
maximal run of calls at contiguous LBAs since power-up, the buffers after the calls are, end to
end, the scrubbed stream of the buffers before them. -/
theorem snoopCalls_scrub (uniqueId : UInt64) (calls : List SnoopCall) :
    (snoopCalls (phantomdriveInit uniqueId Phantom.statics) calls).map Prod.fst = calls
      ∧ ∀ run ∈ (snoopCalls (phantomdriveInit uniqueId Phantom.statics) calls).splitBy contiguous,
          run.flatMap Prod.snd = passwordMarker.scrub (run.flatMap fun x => x.1.buf) := by
  have hmode : (phantomdriveInit uniqueId Phantom.statics).mode = .seek 0 := rfl
  have hmatch : (phantomdriveInit uniqueId Phantom.statics).prefixMatchLen < 9 := by
    exact Nat.zero_lt_succ 8
  generalize phantomdriveInit uniqueId Phantom.statics = p at hmode hmatch
  refine ⟨snoopCalls_map_fst p calls, ?_⟩
  intro run hrun
  obtain ⟨x, run, rfl⟩ := List.exists_cons_of_ne_nil (List.ne_nil_of_mem_splitBy hrun)
  have hchain := List.isChain_of_mem_splitBy hrun
  obtain ⟨before, after, hsplit⟩ := List.append_of_mem hrun
  have hall : snoopCalls p calls = before.flatten ++ (x :: run ++ after.flatten) := by
    rw [← List.flatten_splitBy contiguous (snoopCalls p calls), hsplit]
    simp
  obtain ⟨rest, hrest⟩ := snoopCalls_split hall
  have hk := afterCalls_prefixMatchLen before.flatten hmatch
  rw [snoopCalls_output hrest hk hchain, ← Marker.output_seek_zero,
    startMode_of_splitBy hmode hsplit]

end PhantomDrive
