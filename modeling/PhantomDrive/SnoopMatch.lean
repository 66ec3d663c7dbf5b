/-
PhantomDrive/SnoopMatch.lean

The writer side and the file side agree: what `phantomdrive_snoop_write` remembers of
the last `password:` of a small file is what `matches_scrubbed_password` looks for in
the file read back.

Main result: `snoopedPassword_matches`.
-/
import PhantomDrive.SnoopScan
import PhantomDrive.UnlockFile

namespace PhantomDrive

open MarkerScan

/-! ### The matcher on a scrubbed file -/

section Matcher

variable {a b : List UInt8} {n len : ℕ}

/-- The bytes of a scrubbed file around a value of `n` bytes. -/
def scrubbedFile (a : List UInt8) (n : ℕ) (b : List UInt8) : List UInt8 :=
  a ++ (passwordPrefix ++ (List.replicate n 0 ++ b))

theorem length_scrubbedFile :
    (scrubbedFile a n b).length = a.length + passwordPrefix.length + n + b.length := by
  simp only [scrubbedFile, List.length_append, List.length_replicate]
  omega

theorem drop_scrubbedFile_prefix :
    ((scrubbedFile a n b).drop a.length).take passwordPrefix.length = passwordPrefix := by
  rw [scrubbedFile, List.drop_left, List.take_left]

theorem drop_scrubbedFile_value :
    (scrubbedFile a n b).drop (a.length + passwordPrefix.length) = List.replicate n 0 ++ b := by
  rw [scrubbedFile, ← List.drop_drop, List.drop_left, List.drop_left]

/-- The value is found when the length looked for, cut at the end of the file, is its own. -/
theorem matchesScrubbedPassword_scrubbedFile (hb : ∀ t r, b = t :: r → isPasswordTerminator t)
    (hlen : limitLength (n + b.length) len = n) (hpos : 1 ≤ n) (hmax : n ≤ unlockPasswordMax) :
    matchesScrubbedPassword (scrubbedFile a n b) (scrubbedFile a n b).length
      (a.length + passwordPrefix.length) len = some n := by
  have hsize : (scrubbedFile a n b).length - (a.length + passwordPrefix.length)
      = n + b.length := by
    rw [length_scrubbedFile]
    omega
  have hzero : ((List.replicate n (0 : UInt8) ++ b).take n).any (· ≠ 0) = false := by
    simp
  have hend : ¬ (a.length + passwordPrefix.length + n < (scrubbedFile a n b).length
      ∧ (!isPasswordTerminator ((scrubbedFile a n b).getD
          (a.length + passwordPrefix.length + n) 0)) = true) := by
    rintro ⟨hlt, hterm⟩
    rcases b with - | ⟨t, r⟩
    · rw [length_scrubbedFile] at hlt
      simp at hlt
    · have hget : (scrubbedFile a n (t :: r)).getD (a.length + passwordPrefix.length + n) 0 = t := by
        rw [List.getD_eq_getElem?_getD, ← List.getElem?_drop, drop_scrubbedFile_value,
          List.getElem?_append_right (by simp)]
        simp
      rw [hget, hb t r rfl] at hterm
      exact absurd hterm (by simp)
  simp only [matchesScrubbedPassword, hsize, hlen]
  rw [if_neg (by rw [length_scrubbedFile]; omega), Nat.add_sub_cancel,
    if_neg (not_not.mpr drop_scrubbedFile_prefix), if_neg (by omega), drop_scrubbedFile_value,
    if_neg (by rw [hzero]; simp), if_neg hend]

/-- A value that is too long is not found. -/
theorem matchesScrubbedPassword_of_long {contents : List UInt8} {size offset : ℕ}
    (hlen : unlockPasswordMax < limitLength (size - offset) len) :
    matchesScrubbedPassword contents size offset len = none := by
  simp only [matchesScrubbedPassword]
  split
  · rfl
  split
  · rfl
  rw [if_pos (Or.inr hlen)]

end Matcher

/-! ### The newest find after a chunk -/

section Chunk

variable {now : ℕ → UInt64} {p : Phantom} {lba : UInt32} {before file rest : List UInt8}

/-- When the scanner stands clear where a file begins and the chunk holds no find after the
last one of the file, the statics keep that find; the value may go on behind the file. -/
theorem phantomdriveSnoopWrite_keeps (now : ℕ → UInt64) {o : ℕ} {v : List UInt8}
    (hk : p.prefixMatchLen < 9)
    (hpart : (phantomdriveSnoopWrite now before lba p).2.pwPartial = false)
    (hmatch : (phantomdriveSnoopWrite now before lba p).2.prefixMatchLen = 0)
    (hlast : (passwordMarker.finds 0 file).getLast? = some (o, v))
    (hno : (passwordMarker.finds 0 (file ++ rest)).length = (passwordMarker.finds 0 file).length) :
    ((phantomdriveSnoopWrite now (before ++ (file ++ rest)) lba p).1.drop before.length).take
        file.length = passwordMarker.scrub file
      ∧ ∃ v', (phantomdriveSnoopWrite now (before ++ (file ++ rest)) lba p).2.Keeps lba
            (before.length + o) (v ++ v')
          ∧ (v' ≠ [] → o + v.length = file.length) := by
  have hclear : passwordMarker.modeAfter (p.startMode lba) before = .seek 0 := by
    have h := (phantomdriveSnoopWrite_scans now lba before hk).2.mode_eq
    rw [Marker.track_mode] at h
    rw [← h, Phantom.mode, hpart, hmatch]
    rfl
  obtain ⟨hout, htracks⟩ :=
    phantomdriveSnoopWrite_scans now lba (before ++ (file ++ rest)) hk
  refine ⟨?_, ?_⟩
  · rw [hout, Marker.output_append, hclear, Marker.output_append, ← Marker.output_seek_zero]
    rw [List.drop_left' (Marker.length_output ..), List.take_left' (Marker.length_output ..)]
  -- the tracker where the file begins, and where it ends
  obtain ⟨found, hbefore⟩ : ∃ found, passwordMarker.track ⟨p.startMode lba, 0, []⟩ before
      = ⟨.seek 0, before.length, found⟩ := by
    refine ⟨(passwordMarker.track ⟨p.startMode lba, 0, []⟩ before).found, ?_⟩
    have hmode := passwordMarker.track_mode ⟨p.startMode lba, 0, []⟩ before
    have hpos := passwordMarker.track_pos ⟨p.startMode lba, 0, []⟩ before
    rw [hclear] at hmode
    rw [Nat.zero_add] at hpos
    rw [← hmode, ← hpos]
  have hshift : ∀ l : List UInt8, passwordMarker.finds before.length l
      = (passwordMarker.finds 0 l).map fun f => (f.1 + before.length, f.2) := by
    intro l
    rw [← Marker.finds_add, Nat.zero_add]
  obtain ⟨init, hinit⟩ : ∃ init, passwordMarker.finds 0 file = init ++ [(o, v)] :=
    List.getLast?_eq_some_iff.mp hlast
  have hfile : (passwordMarker.track ⟨.seek 0, before.length, found⟩ file).found
      = (o + before.length, v)
        :: ((init.map fun f => (f.1 + before.length, f.2)).reverse ++ found) := by
    rw [Marker.track_seek_zero, hshift, hinit]
    simp
  rw [Marker.track_append, hbefore, Marker.track_append] at htracks
  have hsame : (passwordMarker.track
        (passwordMarker.track ⟨.seek 0, before.length, found⟩ file) rest).found.length
      = (passwordMarker.track ⟨.seek 0, before.length, found⟩ file).found.length := by
    rw [← Marker.track_append, Marker.track_seek_zero, Marker.track_seek_zero, hshift, hshift]
    simp [hno]
  have hfound := Marker.track_found_of_length_eq hsame
  rw [hfile] at hfound
  have hend := Marker.openAtEnd_track (m := passwordMarker) file
    (t := ⟨.seek 0, before.length, found⟩) (fun h => Mode.noConfusion h)
  rw [Tracker.OpenAtEnd, Marker.track_pos, hfile] at hend
  rcases hmode : (passwordMarker.track ⟨.seek 0, before.length, found⟩ file).mode with k | -
  · rw [hmode] at hfound
    refine ⟨[], ?_, fun h => absurd rfl h⟩
    rw [List.append_nil, Nat.add_comm]
    exact htracks.newest _ _ _ hfound
  · rw [hmode] at hfound
    refine ⟨passwordMarker.valueOf rest, ?_, fun _ => ?_⟩
    · rw [Nat.add_comm]
      exact htracks.newest _ _ _ hfound
    · obtain ⟨o', v', older, hcons, hpos⟩ := hend hmode
      obtain ⟨⟨rfl, rfl⟩, -⟩ : (o + before.length = o' ∧ v = v') ∧ _ = older := by
        simpa using hcons
      have hpos' : o + before.length + v.length = before.length + file.length := hpos
      omega

/-- **The writer and the file agree.**  A chunk, written while locked in any state the module
can be in, carries a file of at most 256 bytes from the start of a sector, with any slack
behind it.  Let `v` be the value of the last `password:` of the file.  If it has 1 to 128 bytes,
the matcher finds it in the scrubbed file under the sector, offset and length remembered, and
the password kept begins with it; if it is longer, the matcher finds nothing. -/
theorem snoopedPassword_matches (uniqueId : UInt64) (calls : List SnoopCall) (now : ℕ → UInt64)
    (lba : UInt32) (before file rest v : List UInt8) (o : ℕ)
    (hfile : 1 ≤ file.length ∧ file.length ≤ 256) (hsector : 512 ∣ before.length) :
    let p := afterCalls (phantomdriveInit uniqueId Phantom.statics)
      (snoopCalls (phantomdriveInit uniqueId Phantom.statics) calls)
    let atFile := (phantomdriveSnoopWrite now before lba p).2
    let after := phantomdriveSnoopWrite now (before ++ (file ++ rest)) lba p
    let scrubbed := (after.1.drop before.length).take file.length
    atFile.pwPartial = false → atFile.prefixMatchLen = 0 →
    (passwordMarker.finds 0 file).getLast? = some (o, v) →
    (passwordMarker.finds 0 (file ++ rest)).length = (passwordMarker.finds 0 file).length →
    (1 ≤ v.length → v.length ≤ 128 →
        after.2.pendingPwLba = lba + UInt32.ofNat (before.length / 512)
        ∧ matchesScrubbedPassword scrubbed file.length after.2.pendingPwOffset
            after.2.pendingPwLen = some v.length
        ∧ after.2.pendingPw.toList.take v.length = v)
    ∧ (128 < v.length →
        matchesScrubbedPassword scrubbed file.length after.2.pendingPwOffset
          after.2.pendingPwLen = none) := by
  intro p atFile after scrubbed hpart hmatch hlast hno
  have hk : p.prefixMatchLen < 9 := afterCalls_prefixMatchLen _ (Nat.zero_lt_succ 8)
  obtain ⟨hscrub, v', hkeeps, hopen⟩ :=
    phantomdriveSnoopWrite_keeps now hk hpart hmatch hlast hno
  obtain ⟨a, b, ho, hsplit, hterm⟩ :=
    Marker.split_of_mem_finds (List.mem_of_getLast? hlast)
  have hscrubbed : scrubbed = scrubbedFile a v.length b := hscrub.trans hsplit
  have hlen : file.length = (scrubbedFile a v.length b).length := by
    rw [show scrubbedFile a v.length b = passwordMarker.scrub file from hsplit.symm,
      ← Marker.output_seek_zero, Marker.length_output]
  have hword : passwordMarker.word.length = passwordPrefix.length := rfl
  have hprefix : passwordPrefix.length = 9 := rfl
  have hsize := hlen
  rw [length_scrubbedFile] at hsize
  -- the position of the find inside its sector, and the sector
  have hmod : (before.length + o - 1) % 512 + 1 = o := by
    obtain ⟨k, hk⟩ := hsector
    omega
  have hdiv : (before.length + o - 1) / 512 = before.length / 512 := by
    obtain ⟨k, hk⟩ := hsector
    omega
  have hoffset : after.2.pendingPwOffset = a.length + passwordPrefix.length := by
    rw [hkeeps.offset_eq, hmod]
    omega
  -- the length remembered, cut at the end of the file, is the length of `v`
  have hlimit : limitLength (v.length + b.length) after.2.pendingPwLen = min v.length 129 := by
    rw [limitLength_eq_min, hkeeps.len_eq, List.length_append]
    rcases v' with - | ⟨c, v'⟩
    · simp only [List.length_nil]
      omega
    · have hend := hopen (List.cons_ne_nil _ _)
      omega
  rw [hscrubbed, hoffset, hlen]
  refine ⟨fun hpos hmax => ⟨?_, ?_, ?_⟩, fun hlong => ?_⟩
  · rw [hkeeps.lba_eq, hdiv]
  · exact matchesScrubbedPassword_scrubbedFile hterm (by omega) hpos hmax
  · have hpw : ∀ i, i < v.length → after.2.pendingPw.toList[i]? = v[i]? := by
      intro i hi
      rw [hkeeps.pw_eq i (by rw [List.length_append]; omega), List.getElem?_append_left hi]
    apply List.ext_getElem?
    intro i
    by_cases hi : i < v.length
    · rw [List.getElem?_take_of_lt hi, hpw i hi]
    · rw [List.getElem?_take_eq_none (by omega), List.getElem?_eq_none (by omega)]
  · refine matchesScrubbedPassword_of_long ?_
    have hcut : (scrubbedFile a v.length b).length - (a.length + passwordPrefix.length)
        = v.length + b.length := by
      rw [length_scrubbedFile]
      omega
    rw [hcut, hlimit, unlockPasswordMax]
    omega

/-- One sector that starts with the file `password:a`, the first after power-up. -/
theorem snoopedPassword_matches_one :
    let p := afterCalls (phantomdriveInit 0 Phantom.statics)
      (snoopCalls (phantomdriveInit 0 Phantom.statics) [])
    let file := passwordPrefix ++ [0x61]
    let after := phantomdriveSnoopWrite (fun _ => 0)
      ([] ++ (file ++ 0x0A :: List.replicate 501 0x41)) 7 p
    after.2.pendingPwLba = 7 + UInt32.ofNat (([] : List UInt8).length / 512)
      ∧ matchesScrubbedPassword ((after.1.drop ([] : List UInt8).length).take file.length)
          file.length after.2.pendingPwOffset after.2.pendingPwLen
        = some ([0x61] : List UInt8).length
      ∧ after.2.pendingPw.toList.take ([0x61] : List UInt8).length = [0x61] := by
  have h := snoopedPassword_matches 0 [] (fun _ => 0) 7 [] (passwordPrefix ++ [0x61])
    (0x0A :: List.replicate 501 0x41) [0x61] 9 (by decide) (by decide)
  have hsnooped := h (by decide +kernel) (by decide +kernel) (by decide +kernel) (by decide +kernel)
  exact hsnooped.1 (by decide) (by decide)

end Chunk

end PhantomDrive
