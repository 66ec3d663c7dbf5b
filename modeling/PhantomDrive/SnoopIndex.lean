/-
PhantomDrive/SnoopIndex.lean

`phantomdrive_snoop_write` as it works on memory: index by index, in place, with every
access to `prefix`, to `pending_pw` and to the buffer recorded.

Main result: `phantomdriveSnoopWriteInPlace_spec`.  It leaves the buffer and the statics
that the scanner of lists leaves (`Snoop.lean`), and every index lies in its array.
-/
import PhantomDrive.SnoopScan

namespace PhantomDrive

open MarkerScan

/-! ### Memory -/

/-- An access to a letter of `prefix`, a byte of `pending_pw` or a byte of the buffer. -/
inductive SnoopAccess
  | letter (k : ℕ)
  | pendingPw (k : ℕ)
  | buf (k : ℕ)
deriving DecidableEq, Repr

/-- The index lies in its array; the buffer has `len` bytes. -/
def SnoopAccess.InBounds (len : ℕ) : SnoopAccess → Prop
  | .letter k => k < passwordPrefix.length
  | .pendingPw k => k < unlockPasswordMax
  | .buf k => k < len

/-- The buffer, the statics and the accesses so far. -/
structure SnoopMemory where
  buf : List UInt8
  phantom : Phantom
  accesses : List SnoopAccess

namespace SnoopMemory

/-- An assignment to statics that are no arrays. -/
def update (f : Phantom → Phantom) (m : SnoopMemory) : SnoopMemory :=
  { m with phantom := f m.phantom }

/-- `prefix_match_len = k`. -/
def setMatchLen (k : ℕ) (m : SnoopMemory) : SnoopMemory :=
  m.update fun p => { p with prefixMatchLen := k }

/-- `buf[k]`. -/
def readBuf (k : ℕ) (m : SnoopMemory) : UInt8 × SnoopMemory :=
  (m.buf.getD k 0, { m with accesses := m.accesses ++ [.buf k] })

/-- `prefix[k]`. -/
def readLetter (k : ℕ) (m : SnoopMemory) : UInt8 × SnoopMemory :=
  (passwordPrefix.getD k 0, { m with accesses := m.accesses ++ [.letter k] })

/-- `buf[i] == prefix[k]`. -/
def readMatch (i k : ℕ) (m : SnoopMemory) : Bool × SnoopMemory :=
  let x := m.readBuf i
  let y := x.2.readLetter k
  (x.1 = y.1, y.2)

/-- `buf[k] = c`. -/
def writeBuf (k : ℕ) (c : UInt8) (m : SnoopMemory) : SnoopMemory :=
  { m with buf := m.buf.set k c, accesses := m.accesses ++ [.buf k] }

/-- `pending_pw[k] = c`. -/
def writePendingPw (k : ℕ) (c : UInt8) (m : SnoopMemory) : SnoopMemory :=
  { m with
    phantom := { m.phantom with pendingPw := m.phantom.pendingPw.setIfInBounds k c }
    accesses := m.accesses ++ [.pendingPw k] }

/-- `memset(buf + start, 0, n)`. -/
def memsetBuf (start : ℕ) : ℕ → SnoopMemory → SnoopMemory
  | 0, m => m
  | n + 1, m => (memsetBuf start n m).writeBuf (start + n) 0

/-- `memset(pending_pw, 0, n)`. -/
def memsetPendingPw : ℕ → SnoopMemory → SnoopMemory
  | 0, m => m
  | n + 1, m => (memsetPendingPw n m).writePendingPw n 0

/-- `memcpy(pending_pw, buf + start, n)`. -/
def memcpyPendingPw (start : ℕ) : ℕ → SnoopMemory → SnoopMemory
  | 0, m => m
  | n + 1, m =>
      let x := (memcpyPendingPw start n m).readBuf (start + n)
      x.2.writePendingPw n x.1

end SnoopMemory

/-! ### The scanner, in place -/

/-- `clear_pending_password`. -/
def clearPendingPasswordInPlace (m : SnoopMemory) : SnoopMemory :=
  (m.memsetPendingPw unlockPasswordMax).update fun p =>
    { p with pendingPwLen := 0, pwPartial := false, prefixMatchLen := 0 }

/-- `finish_password_snoop`. -/
def finishPasswordSnoopInPlace (pwLen : ℕ) (m : SnoopMemory) : SnoopMemory :=
  if pwLen = 0 then clearPendingPasswordInPlace m
  else m.update fun p =>
    { phantomdriveSetUnlockPending p with pwPartial := false, prefixMatchLen := 0 }

/-- The loop of `continue_partial_password`: `end` and `saw_terminator`. -/
def continuePartialLoopInPlace (len end_ : ℕ) (m : SnoopMemory) : ℕ × Bool × SnoopMemory :=
  if end_ < len then
    let x := m.readBuf end_
    let m := x.2
    if isPasswordTerminator x.1 then (end_, true, m)
    else
      let m :=
        if m.phantom.pendingPwLen < 128 then m.writePendingPw m.phantom.pendingPwLen x.1 else m
      let m := m.update fun p =>
        { p with pendingPwLen :=
            if p.pendingPwLen ≤ 128 then p.pendingPwLen + 1 else p.pendingPwLen }
      continuePartialLoopInPlace len (end_ + 1) m
  else (end_, false, m)
termination_by len - end_

/-- `continue_partial_password`: the index to go on from. -/
def continuePartialPasswordInPlace (len : ℕ) (m : SnoopMemory) : ℕ × SnoopMemory :=
  let x := continuePartialLoopInPlace len 0 m
  let m := x.2.2.memsetBuf 0 x.1
  if x.2.1 then
    let m := m.update fun p => { p with pwPartial := false }
    (x.1 + 1, finishPasswordSnoopInPlace m.phantom.pendingPwLen m)
  else (x.1, m)

/-- `snoop_new_password`, the loop over the value: `pw_end` and `saw_terminator`. -/
def findPwEnd (len pwEnd : ℕ) (m : SnoopMemory) : ℕ × Bool × SnoopMemory :=
  if pwEnd < len then
    let x := m.readBuf pwEnd
    if isPasswordTerminator x.1 then (pwEnd, true, x.2) else findPwEnd len (pwEnd + 1) x.2
  else (pwEnd, false, m)
termination_by len - pwEnd

/-- `snoop_new_password` at a completed prefix, up to the test of `saw_terminator`: `pw_end` and
`saw_terminator`. -/
def openPendingPasswordInPlace (now : ℕ → UInt64) (len : ℕ) (lba : UInt32) (i : ℕ)
    (m : SnoopMemory) : ℕ × Bool × SnoopMemory :=
  let pwStart := i + 1
  let m := (clearPendingPasswordInPlace m).update fun p =>
    { p with
      pendingPwStartedMs := now i
      pendingPwLba := lba + UInt32.ofNat (i / 512)
      pendingPwOffset := i % 512 + 1 }
  let x := findPwEnd len pwStart m
  let pwLen := x.1 - pwStart
  let copyLen := if 128 < pwLen then 128 else pwLen
  let m := (x.2.2.memcpyPendingPw pwStart copyLen).update fun p =>
    { p with pendingPwLen := if 128 < pwLen then 128 + 1 else pwLen }
  (x.1, x.2.1, m.memsetBuf pwStart pwLen)

theorem le_findPwEnd (len pwEnd : ℕ) (m : SnoopMemory) : pwEnd ≤ (findPwEnd len pwEnd m).1 := by
  fun_induction findPwEnd len pwEnd m with
  | case1 => exact le_rfl
  | case2 pwEnd m _ _ _ ih => exact (Nat.le_succ pwEnd).trans ih
  | case3 => exact le_rfl

/-- `snoop_new_password` behind a completed prefix: `pw_end`. -/
def takePasswordInPlace (now : ℕ → UInt64) (len : ℕ) (lba : UInt32) (i : ℕ) (m : SnoopMemory) :
    ℕ × SnoopMemory :=
  let x := openPendingPasswordInPlace now len lba i m
  let m := x.2.2
  if x.2.1 then (x.1, finishPasswordSnoopInPlace m.phantom.pendingPwLen m)
  else (x.1, m.update fun p => phantomdriveSetUnlockPending { p with pwPartial := true })

theorem lt_takePasswordInPlace (now : ℕ → UInt64) (len : ℕ) (lba : UInt32) (i : ℕ)
    (m : SnoopMemory) : i < (takePasswordInPlace now len lba i m).1 := by
  have hle := le_findPwEnd len (i + 1)
  unfold takePasswordInPlace
  dsimp only
  split
  · exact hle _
  · exact hle _

/-- `snoop_new_password` from index `i` on. -/
def snoopNewPasswordInPlace (now : ℕ → UInt64) (len : ℕ) (lba : UInt32) (i : ℕ)
    (m : SnoopMemory) : SnoopMemory :=
  if i < len then
    let x := m.readMatch i m.phantom.prefixMatchLen
    if x.1 then
      let m := x.2.setMatchLen (x.2.phantom.prefixMatchLen + 1)
      if m.phantom.prefixMatchLen < passwordPrefix.length then
        snoopNewPasswordInPlace now len lba (i + 1) m
      else
        let y := takePasswordInPlace now len lba i m
        -- `i = pw_end`, and the `i++` of the loop
        snoopNewPasswordInPlace now len lba (y.1 + 1) y.2
    else
      let y := x.2.readMatch i 0
      snoopNewPasswordInPlace now len lba (i + 1) (y.2.setMatchLen (if y.1 then 1 else 0))
  else m
termination_by len - i
decreasing_by
  · omega
  · exact Nat.sub_lt_sub_left ‹i < len›
      ((lt_takePasswordInPlace ..).trans (Nat.lt_succ_self _))
  · omega

/-- `phantomdrive_snoop_write`. -/
def phantomdriveSnoopWriteInPlace (now : ℕ → UInt64) (buf : List UInt8) (lba : UInt32)
    (p : Phantom) : SnoopMemory :=
  let m : SnoopMemory := ⟨buf, beginSnoopWrite buf.length lba p, []⟩
  if m.phantom.pwPartial then
    let x := continuePartialPasswordInPlace buf.length m
    snoopNewPasswordInPlace now buf.length lba x.1 x.2
  else snoopNewPasswordInPlace now buf.length lba 0 m

/-! ### Accesses in bounds -/

namespace SnoopMemory

/-- The buffer has `len` bytes, and every access so far lies in its array. -/
structure Sound (len : ℕ) (m : SnoopMemory) : Prop where
  length : m.buf.length = len
  inBounds : ∀ a ∈ m.accesses, a.InBounds len

section Sound

variable {len k start n : ℕ} {m : SnoopMemory} {c : UInt8}

theorem Sound.length_split (h : m.Sound len) {before l : List UInt8} (hbuf : m.buf = before ++ l) :
    before.length + l.length = len := by
  rw [← h.length, hbuf, List.length_append]

theorem Sound.access (h : m.Sound len) {buf : List UInt8} {p : Phantom} {a : SnoopAccess}
    (hbuf : buf.length = m.buf.length) (ha : a.InBounds len) :
    Sound len ⟨buf, p, m.accesses ++ [a]⟩ where
  length := hbuf.trans h.length
  inBounds a' hmem := by
    rcases List.mem_append.mp hmem with hold | hnew
    · exact h.inBounds a' hold
    · exact List.mem_singleton.mp hnew ▸ ha

theorem Sound.update (h : m.Sound len) (f : Phantom → Phantom) : (m.update f).Sound len :=
  ⟨h.length, h.inBounds⟩

theorem Sound.setMatchLen (h : m.Sound len) (k : ℕ) : (m.setMatchLen k).Sound len := h.update _

theorem Sound.readBuf (h : m.Sound len) (hk : k < len) : (m.readBuf k).2.Sound len :=
  h.access rfl hk

theorem Sound.readLetter (h : m.Sound len) (hk : k < passwordPrefix.length) :
    (m.readLetter k).2.Sound len := h.access rfl hk

theorem Sound.readMatch {i : ℕ} (h : m.Sound len) (hi : i < len) (hk : k < passwordPrefix.length) :
    (m.readMatch i k).2.Sound len := (h.readBuf hi).readLetter hk

theorem Sound.writeBuf (h : m.Sound len) (hk : k < len) : (m.writeBuf k c).Sound len :=
  h.access List.length_set hk

theorem Sound.writePendingPw (h : m.Sound len) (hk : k < unlockPasswordMax) :
    (m.writePendingPw k c).Sound len := h.access rfl hk

theorem Sound.memsetBuf (h : m.Sound len) (hn : start + n ≤ len) :
    (m.memsetBuf start n).Sound len := by
  induction n with
  | zero => exact h
  | succ n ih => exact (ih (by omega)).writeBuf (by omega)

theorem Sound.memsetPendingPw (h : m.Sound len) (hn : n ≤ unlockPasswordMax) :
    (m.memsetPendingPw n).Sound len := by
  induction n with
  | zero => exact h
  | succ n ih => exact (ih (Nat.le_of_succ_le hn)).writePendingPw hn

theorem Sound.memcpyPendingPw (h : m.Sound len) (hn : n ≤ unlockPasswordMax)
    (hbuf : start + n ≤ len) : (m.memcpyPendingPw start n).Sound len := by
  induction n with
  | zero => exact h
  | succ n ih =>
    exact ((ih (Nat.le_of_succ_le hn) (by omega)).readBuf (by omega)).writePendingPw hn

end Sound

/-! ### What is read and written -/

section Effect

variable {m : SnoopMemory}

@[simp] theorem readBuf_buf (m : SnoopMemory) (k : ℕ) : (m.readBuf k).2.buf = m.buf := rfl

@[simp] theorem update_buf (f : Phantom → Phantom) (m : SnoopMemory) :
    (m.update f).buf = m.buf := rfl

@[simp] theorem update_phantom (f : Phantom → Phantom) (m : SnoopMemory) :
    (m.update f).phantom = f m.phantom := rfl

/-- The index behind the byte at the head of the rest. -/
theorem split_next {before l : List UInt8} {c : UInt8} {i : ℕ} (hbuf : m.buf = before ++ c :: l)
    (hi : before.length = i) : m.buf = before ++ [c] ++ l ∧ (before ++ [c]).length = i + 1 := by
  constructor
  · rw [hbuf, List.append_assoc]
    rfl
  · rw [List.length_append, hi]
    rfl

/-- The byte at the head of the rest. -/
theorem readBuf_fst {before l : List UInt8} {c : UInt8} {k : ℕ} (hbuf : m.buf = before ++ c :: l)
    (hk : before.length = k) : (m.readBuf k).1 = c := by
  show m.buf.getD k 0 = c
  rw [hbuf, ← hk, List.getD_append_right _ _ _ _ le_rfl, Nat.sub_self]
  rfl

/-- The letter of the prefix is the byte at the head of the rest. -/
theorem readMatch_fst {before l : List UInt8} {c : UInt8} {i k : ℕ}
    (hbuf : m.buf = before ++ c :: l) (hi : before.length = i) (hk : k < passwordPrefix.length) :
    (m.readMatch i k).1 = true ↔ passwordPrefix[k]? = some c := by
  show decide ((m.readBuf i).1 = passwordPrefix.getD k 0) = true ↔ _
  rw [decide_eq_true_iff, readBuf_fst hbuf hi, List.getD_eq_getElem?_getD,
    List.getElem?_eq_getElem hk, Option.getD_some, Option.some_inj, eq_comm]

@[simp] theorem memsetBuf_phantom (start n : ℕ) (m : SnoopMemory) :
    (m.memsetBuf start n).phantom = m.phantom := by
  induction n with
  | zero => rfl
  | succ n ih => exact ih

@[simp] theorem memsetPendingPw_buf (n : ℕ) (m : SnoopMemory) :
    (m.memsetPendingPw n).buf = m.buf := by
  induction n with
  | zero => rfl
  | succ n ih => exact ih

@[simp] theorem memcpyPendingPw_buf (start n : ℕ) (m : SnoopMemory) :
    (m.memcpyPendingPw start n).buf = m.buf := by
  induction n with
  | zero => rfl
  | succ n ih => exact ih

/-- `memset` blanks a stretch of the buffer. -/
theorem memsetBuf_buf {before v after : List UInt8} (hbuf : m.buf = before ++ (v ++ after)) :
    (m.memsetBuf before.length v.length).buf
      = before ++ (List.replicate v.length 0 ++ after) := by
  have hblank : ∀ n ≤ v.length, (m.memsetBuf before.length n).buf
      = before ++ (List.replicate n 0 ++ (v.drop n ++ after)) := by
    intro n hn
    induction n with
    | zero => simpa [memsetBuf] using hbuf
    | succ n ih =>
      show (m.memsetBuf before.length n).buf.set (before.length + n) 0 = _
      rw [ih (by omega), List.drop_eq_getElem_cons hn, List.set_append_right _ _ (by omega),
        Nat.add_sub_cancel_left, List.set_append_right _ _ (by simp), List.length_replicate,
        Nat.sub_self, List.replicate_succ', List.append_assoc]
      rfl
  have hall := hblank v.length le_rfl
  rwa [List.drop_length, List.nil_append] at hall

theorem ofFn_get (v : Vector UInt8 128) : (Vector.ofFn fun k => v.get k) = v := by
  apply Vector.ext
  intro k hk
  rw [Vector.getElem_ofFn]
  rfl

theorem set_eq_setIfInBounds (v : Vector UInt8 128) {k : ℕ} (c : UInt8) (hk : k < 128) :
    v.set k c hk = v.setIfInBounds k c :=
  Vector.toList_inj.mp (by rw [Vector.toList_set, Vector.toList_setIfInBounds])

/-- Byte by byte, a vector takes over the values of `f`. -/
theorem setIfInBounds_ofFn (v : Vector UInt8 128) (f : ℕ → UInt8) (n : ℕ) :
    (Vector.ofFn fun k : Fin 128 => if k.val < n then f k else v.get k).setIfInBounds n (f n)
      = Vector.ofFn fun k : Fin 128 => if k.val < n + 1 then f k else v.get k := by
  apply Vector.ext
  intro k hk
  rw [Vector.getElem_setIfInBounds, Vector.getElem_ofFn, Vector.getElem_ofFn]
  dsimp only
  rcases Nat.lt_trichotomy k n with hlt | rfl | hgt
  · rw [if_neg (by omega), if_pos hlt, if_pos (Nat.lt_succ_of_lt hlt)]
  · rw [if_pos rfl, if_pos (Nat.lt_succ_self k)]
  · rw [if_neg (by omega), if_neg (by omega), if_neg (by omega)]

theorem memsetPendingPw_phantom (n : ℕ) (m : SnoopMemory) :
    (m.memsetPendingPw n).phantom = { m.phantom with
      pendingPw := Vector.ofFn fun k => if k.val < n then 0 else m.phantom.pendingPw.get k } := by
  induction n with
  | zero => simp [memsetPendingPw, ofFn_get]
  | succ n ih =>
    rw [memsetPendingPw, writePendingPw, ih]
    dsimp only
    rw [setIfInBounds_ofFn m.phantom.pendingPw (fun _ => 0) n]

theorem memcpyPendingPw_phantom (start n : ℕ) (m : SnoopMemory) :
    (m.memcpyPendingPw start n).phantom = { m.phantom with
      pendingPw := Vector.ofFn fun k =>
        if k.val < n then m.buf.getD (start + k) 0 else m.phantom.pendingPw.get k } := by
  induction n with
  | zero => simp [memcpyPendingPw, ofFn_get]
  | succ n ih =>
    rw [memcpyPendingPw, readBuf, writePendingPw, memcpyPendingPw_buf]
    dsimp only
    rw [ih]
    dsimp only
    rw [setIfInBounds_ofFn m.phantom.pendingPw (fun k => m.buf.getD (start + k) 0) n]

/-- `memcpy` takes over the start of a value. -/
theorem memcpyPendingPw_value {before v after : List UInt8}
    (hbuf : m.buf = before ++ (v ++ after)) :
    (m.memcpyPendingPw before.length (min v.length 128)).phantom = { m.phantom with
      pendingPw := copyPendingPassword v m.phantom.pendingPw } := by
  have hcopy : (Vector.ofFn fun k : Fin 128 => if k.val < min v.length 128
      then m.buf.getD (before.length + k) 0 else m.phantom.pendingPw.get k)
        = copyPendingPassword v m.phantom.pendingPw := by
    apply Vector.ext
    intro k hk
    rw [copyPendingPassword, Vector.getElem_ofFn, Vector.getElem_ofFn]
    dsimp only
    by_cases hv : k < min v.length 128
    · have hlt : k < v.length := Nat.lt_of_lt_of_le hv (Nat.min_le_left ..)
      rw [if_pos hv, if_pos hv, hbuf, List.getD_append_right _ _ _ _ (Nat.le_add_right ..),
        Nat.add_sub_cancel_left, List.getD_append _ _ _ _ hlt]
    · rw [if_neg hv, if_neg hv]
      rfl
  rw [memcpyPendingPw_phantom, hcopy]

end Effect

end SnoopMemory

/-! ### One scanner -/

section InPlace

variable {len i : ℕ} {m : SnoopMemory} {before l : List UInt8}

theorem clearPendingPasswordInPlace_buf (m : SnoopMemory) :
    (clearPendingPasswordInPlace m).buf = m.buf := m.memsetPendingPw_buf unlockPasswordMax

theorem clearPendingPasswordInPlace_phantom (m : SnoopMemory) :
    (clearPendingPasswordInPlace m).phantom = clearPendingPassword m.phantom := by
  have hzero : (Vector.ofFn fun k : Fin 128 =>
      if k.val < unlockPasswordMax then (0 : UInt8) else m.phantom.pendingPw.get k)
        = Vector.replicate 128 0 := by
    apply Vector.ext
    intro k hk
    rw [Vector.getElem_ofFn, Vector.getElem_replicate]
    exact if_pos hk
  rw [clearPendingPasswordInPlace, SnoopMemory.update_phantom, SnoopMemory.memsetPendingPw_phantom,
    hzero]
  rfl

theorem sound_clearPendingPasswordInPlace (h : m.Sound len) :
    (clearPendingPasswordInPlace m).Sound len := (h.memsetPendingPw le_rfl).update _

theorem finishPasswordSnoopInPlace_buf (n : ℕ) (m : SnoopMemory) :
    (finishPasswordSnoopInPlace n m).buf = m.buf := by
  unfold finishPasswordSnoopInPlace
  split
  · exact clearPendingPasswordInPlace_buf m
  · rfl

theorem finishPasswordSnoopInPlace_phantom (n : ℕ) (m : SnoopMemory) :
    (finishPasswordSnoopInPlace n m).phantom = finishPasswordSnoop n m.phantom := by
  unfold finishPasswordSnoopInPlace finishPasswordSnoop
  split
  · exact clearPendingPasswordInPlace_phantom m
  · rfl

theorem sound_finishPasswordSnoopInPlace (n : ℕ) (h : m.Sound len) :
    (finishPasswordSnoopInPlace n m).Sound len := by
  unfold finishPasswordSnoopInPlace
  split
  · exact sound_clearPendingPasswordInPlace h
  · exact h.update _

/-- The loop of `continue_partial_password`. -/
theorem continuePartialLoopInPlace_spec (h : m.Sound len) (hbuf : m.buf = before ++ l)
    (hi : before.length = i) :
    let x := continuePartialLoopInPlace len i m
    let y := continuePartialLoop m.phantom l
    x.1 = i + y.1 ∧ x.2.1 = y.2.1 ∧ x.2.2.buf = m.buf ∧ x.2.2.phantom = y.2.2
      ∧ x.2.2.Sound len := by
  have hlen := h.length_split hbuf
  induction l generalizing m before i with
  | nil =>
    rw [continuePartialLoopInPlace, if_neg (by simp at hlen; omega)]
    exact ⟨rfl, rfl, rfl, rfl, h⟩
  | cons c l ih =>
    rw [List.length_cons] at hlen
    have hlt : i < len := by omega
    have hread := h.readBuf hlt
    rw [continuePartialLoopInPlace, if_pos hlt]
    dsimp only
    rw [SnoopMemory.readBuf_fst hbuf hi, continuePartialLoop]
    by_cases hc : isPasswordTerminator c = true
    · rw [if_pos hc, if_pos hc]
      exact ⟨rfl, rfl, rfl, rfl, hread⟩
    rw [if_neg hc, if_neg hc]
    generalize hstep : SnoopMemory.update _ _ = m'
    have hsound : m'.Sound len := by
      -- the guard keeps the write inside `pending_pw`
      rw [← hstep]
      refine SnoopMemory.Sound.update ?_ _
      split
      · rename_i hfits
        exact hread.writePendingPw hfits
      · exact hread
    have hbuf' : m'.buf = m.buf := by
      rw [← hstep, SnoopMemory.update_buf]
      split <;> rfl
    have hphantom : m'.phantom = appendPendingPassword c m.phantom := by
      rw [← hstep, SnoopMemory.update_phantom, appendPendingPassword]
      split
      · rename_i hfits
        rw [dif_pos (show m.phantom.pendingPwLen < 128 from hfits),
          SnoopMemory.set_eq_setIfInBounds]
        rfl
      · rename_i hfull
        rw [dif_neg (show ¬ m.phantom.pendingPwLen < 128 from hfull)]
        rfl
    obtain ⟨hrest, hnext⟩ := SnoopMemory.split_next (hbuf'.trans hbuf) hi
    obtain ⟨hend, hterm, hsame, hstatics, hall⟩ := ih hsound hrest hnext (by omega)
    rw [hphantom] at hend hterm hstatics
    generalize continuePartialLoop (appendPendingPassword c m.phantom) l = y
      at hend hterm hstatics ⊢
    refine ⟨?_, hterm, hsame.trans hbuf', hstatics, hall⟩
    rw [hend]
    show i + 1 + y.1 = i + (y.1 + 1)
    omega

/-- The loop over the value in `snoop_new_password`. -/
theorem findPwEnd_spec (h : m.Sound len) (hbuf : m.buf = before ++ l) (hi : before.length = i) :
    let x := findPwEnd len i m
    x.1 = i + (passwordMarker.valueOf l).length
      ∧ x.2.1 = !(passwordMarker.afterValue l).isEmpty
      ∧ x.2.2.buf = m.buf ∧ x.2.2.phantom = m.phantom ∧ x.2.2.Sound len := by
  have hlen := h.length_split hbuf
  induction l generalizing m before i with
  | nil =>
    rw [findPwEnd, if_neg (by simp at hlen; omega)]
    exact ⟨rfl, rfl, rfl, rfl, h⟩
  | cons c l ih =>
    rw [List.length_cons] at hlen
    have hlt : i < len := by omega
    have hread := h.readBuf hlt
    rw [findPwEnd, if_pos hlt]
    dsimp only
    rw [SnoopMemory.readBuf_fst hbuf hi]
    by_cases hc : isPasswordTerminator c = true
    · rw [if_pos hc]
      refine ⟨?_, ?_, rfl, rfl, hread⟩
      · simp [Marker.valueOf, passwordMarker, hc]
      · simp [Marker.afterValue, passwordMarker, hc]
    · rw [if_neg hc]
      have hvalue : passwordMarker.valueOf (c :: l) = c :: passwordMarker.valueOf l := by
        simp [Marker.valueOf, passwordMarker, hc]
      have hafter : passwordMarker.afterValue (c :: l) = passwordMarker.afterValue l := by
        simp [Marker.afterValue, passwordMarker, hc]
      obtain ⟨hrest, hnext⟩ := SnoopMemory.split_next ((m.readBuf_buf i).trans hbuf) hi
      obtain ⟨hend, hterm, hsame, hstatics, hall⟩ := ih hread hrest hnext (by omega)
      rw [hvalue, hafter]
      exact ⟨by rw [hend, List.length_cons]; omega, hterm, hsame, hstatics, hall⟩

/-- `continue_partial_password`. -/
theorem continuePartialPasswordInPlace_spec (h : m.Sound len) :
    let x := continuePartialPasswordInPlace len m
    let y := continuePartialPassword m.buf m.phantom
    x.2.buf = y.1 ∧ x.1 = y.2.1 ∧ x.2.phantom = y.2.2 ∧ x.2.Sound len := by
  obtain ⟨hend, hterm, hsame, hstatics, hall⟩ := continuePartialLoopInPlace_spec h
    (List.nil_append m.buf).symm rfl
  rw [List.length_nil, Nat.zero_add] at hend
  have hle : (continuePartialLoop m.phantom m.buf).1 ≤ m.buf.length := by
    rw [continuePartialLoop_eq]
    exact (List.takeWhile_sublist _).length_le
  rw [continuePartialPasswordInPlace, continuePartialPassword]
  dsimp only
  generalize continuePartialLoopInPlace len 0 m = x at hend hterm hsame hstatics hall ⊢
  generalize continuePartialLoop m.phantom m.buf = y at hend hterm hstatics hle ⊢
  obtain ⟨end_, sawTerminator, p⟩ := y
  dsimp only at hend hterm hstatics hle ⊢
  have hscrub : (x.2.2.memsetBuf 0 x.1).buf = List.replicate end_ 0 ++ m.buf.drop end_ := by
    have hsplit : x.2.2.buf = [] ++ (m.buf.take end_ ++ m.buf.drop end_) := by
      rw [hsame, List.nil_append, List.take_append_drop]
    have hblank := SnoopMemory.memsetBuf_buf hsplit
    rw [List.length_take_of_le hle] at hblank
    rw [hend]
    exact hblank
  have hsound : (x.2.2.memsetBuf 0 x.1).Sound len :=
    hall.memsetBuf (by rw [hend, Nat.zero_add, ← h.length]; exact hle)
  rw [hterm]
  cases sawTerminator with
  | false =>
    refine ⟨hscrub, hend, ?_, hsound⟩
    show (x.2.2.memsetBuf 0 x.1).phantom = p
    rw [SnoopMemory.memsetBuf_phantom, hstatics]
  | true =>
    refine ⟨?_, congrArg (· + 1) hend, ?_, sound_finishPasswordSnoopInPlace _ (hsound.update _)⟩
    · show (finishPasswordSnoopInPlace _ _).buf = _
      rw [finishPasswordSnoopInPlace_buf, SnoopMemory.update_buf]
      exact hscrub
    · show (finishPasswordSnoopInPlace _ _).phantom = finishPasswordSnoop p.pendingPwLen _
      rw [finishPasswordSnoopInPlace_phantom, SnoopMemory.update_phantom,
        SnoopMemory.memsetBuf_phantom, hstatics]

/-- `snoop_new_password` at a completed prefix. -/
theorem openPendingPasswordInPlace_spec (now : ℕ → UInt64) (lba : UInt32) {c : UInt8}
    (h : m.Sound len) (hbuf : m.buf = before ++ c :: l) (hi : before.length = i) :
    let x := openPendingPasswordInPlace now len lba i m
    let v := passwordMarker.valueOf l
    x.1 = i + 1 + v.length ∧ x.2.1 = !(passwordMarker.afterValue l).isEmpty
      ∧ x.2.2.buf = before ++ c :: (List.replicate v.length 0 ++ passwordMarker.afterValue l)
      ∧ x.2.2.phantom = openPendingPassword now lba i v m.phantom ∧ x.2.2.Sound len := by
  rw [openPendingPasswordInPlace]
  dsimp only
  generalize hclear : (clearPendingPasswordInPlace m).update _ = m₀
  have hsound₀ : m₀.Sound len := hclear ▸ (sound_clearPendingPasswordInPlace h).update _
  have hsame₀ : m₀.buf = m.buf := by
    rw [← hclear, SnoopMemory.update_buf, clearPendingPasswordInPlace_buf]
  obtain ⟨hbuf₀, hstart⟩ := SnoopMemory.split_next (hsame₀.trans hbuf) hi
  obtain ⟨hend, hterm, hsame, hstatics, hall⟩ := findPwEnd_spec hsound₀ hbuf₀ hstart
  generalize findPwEnd len (i + 1) m₀ = x at hend hterm hsame hstatics hall ⊢
  obtain ⟨pwEnd, sawTerminator, m'⟩ := x
  dsimp only at hend hterm hsame hstatics hall ⊢
  have hsplit : m'.buf = before ++ [c]
      ++ (passwordMarker.valueOf l ++ passwordMarker.afterValue l) := by
    rw [hsame, hbuf₀, Marker.valueOf_append_afterValue]
  have hlen := hall.length_split hsplit
  rw [hstart, List.length_append] at hlen
  have hpwLen : pwEnd - (i + 1) = (passwordMarker.valueOf l).length := by omega
  -- `copy_len` is clamped, so `memcpy` stays inside `pending_pw`
  have hcopyLen : (if 128 < (passwordMarker.valueOf l).length then 128
      else (passwordMarker.valueOf l).length) = min (passwordMarker.valueOf l).length 128 := by
    split <;> omega
  rw [hpwLen, hcopyLen]
  refine ⟨hend, hterm, ?_, ?_, ?_⟩
  · have hcopied : ((m'.memcpyPendingPw (i + 1) (min (passwordMarker.valueOf l).length 128)).update
        fun p => { p with pendingPwLen := if 128 < (passwordMarker.valueOf l).length then 128 + 1
          else (passwordMarker.valueOf l).length }).buf
        = before ++ [c] ++ (passwordMarker.valueOf l ++ passwordMarker.afterValue l) := by
      rw [SnoopMemory.update_buf, SnoopMemory.memcpyPendingPw_buf, hsplit]
    have hblank := SnoopMemory.memsetBuf_buf hcopied
    rw [hstart, List.append_assoc] at hblank
    exact hblank
  · have hcopy := SnoopMemory.memcpyPendingPw_value hsplit
    rw [hstart] at hcopy
    rw [SnoopMemory.memsetBuf_phantom, SnoopMemory.update_phantom, hcopy, hstatics, ← hclear,
      SnoopMemory.update_phantom, clearPendingPasswordInPlace_phantom]
    rfl
  · exact ((hall.memcpyPendingPw (Nat.min_le_right ..) (by omega)).update _).memsetBuf (by omega)

/-- `snoop_new_password` behind a completed prefix. -/
theorem takePasswordInPlace_spec (now : ℕ → UInt64) (lba : UInt32) {c : UInt8}
    (h : m.Sound len) (hbuf : m.buf = before ++ c :: l) (hi : before.length = i) :
    let x := takePasswordInPlace now len lba i m
    let v := passwordMarker.valueOf l
    let p := openPendingPassword now lba i v m.phantom
    x.1 = i + 1 + v.length
      ∧ x.2.buf = before ++ c :: (List.replicate v.length 0 ++ passwordMarker.afterValue l)
      ∧ x.2.phantom = (if (passwordMarker.afterValue l).isEmpty
          then phantomdriveSetUnlockPending { p with pwPartial := true }
          else finishPasswordSnoop p.pendingPwLen p)
      ∧ x.2.Sound len := by
  obtain ⟨hend, hterm, hsame, hstatics, hall⟩ := openPendingPasswordInPlace_spec now lba h hbuf hi
  rw [takePasswordInPlace]
  dsimp only
  generalize openPendingPasswordInPlace now len lba i m = x at hend hterm hsame hstatics hall ⊢
  rw [hterm]
  cases (passwordMarker.afterValue l).isEmpty with
  | true =>
    refine ⟨hend, hsame, ?_, ?_⟩
    · rw [← hstatics]
      rfl
    · exact hall.update fun p => phantomdriveSetUnlockPending { p with pwPartial := true }
  | false =>
    refine ⟨hend, ?_, ?_, sound_finishPasswordSnoopInPlace _ hall⟩
    · show (finishPasswordSnoopInPlace _ _).buf = _
      rw [finishPasswordSnoopInPlace_buf, hsame]
    · show (finishPasswordSnoopInPlace _ _).phantom = finishPasswordSnoop _ _
      rw [finishPasswordSnoopInPlace_phantom, hstatics]

/-- Behind a value that the buffer does not end, the loop is left. -/
theorem takePasswordInPlace_open (now : ℕ → UInt64) (lba : UInt32) {c : UInt8}
    (h : m.Sound len) (hbuf : m.buf = before ++ c :: l) (hi : before.length = i)
    (hopen : passwordMarker.afterValue l = []) :
    let x := takePasswordInPlace now len lba i m
    let v := passwordMarker.valueOf l
    len ≤ x.1 + 1 ∧ x.2.buf = before ++ c :: List.replicate v.length 0
      ∧ x.2.phantom = phantomdriveSetUnlockPending
          { openPendingPassword now lba i v m.phantom with pwPartial := true }
      ∧ x.2.Sound len := by
  obtain ⟨hend, hout, hstatics, hsound⟩ := takePasswordInPlace_spec now lba h hbuf hi
  rw [hopen] at hout hstatics
  rw [List.append_nil] at hout
  refine ⟨?_, hout, hstatics, hsound⟩
  have hlen := hsound.length
  rw [hout, List.length_append, List.length_cons, List.length_replicate] at hlen
  omega

/-- Behind a terminator, the loop goes on. -/
theorem takePasswordInPlace_terminated (now : ℕ → UInt64) (lba : UInt32) {c t : UInt8}
    {tail : List UInt8} (h : m.Sound len) (hbuf : m.buf = before ++ c :: l) (hi : before.length = i)
    (hterm : passwordMarker.afterValue l = t :: tail) :
    let x := takePasswordInPlace now len lba i m
    let v := passwordMarker.valueOf l
    let p := openPendingPassword now lba i v m.phantom
    x.1 + 1 = i + 1 + v.length + 1
      ∧ x.2.buf = before ++ c :: (List.replicate v.length 0 ++ [t]) ++ tail
      ∧ (before ++ c :: (List.replicate v.length 0 ++ [t])).length = i + 1 + v.length + 1
      ∧ x.2.phantom = finishPasswordSnoop p.pendingPwLen p ∧ x.2.phantom.prefixMatchLen < 9
      ∧ x.2.Sound len := by
  obtain ⟨hend, hout, hstatics, hsound⟩ := takePasswordInPlace_spec now lba h hbuf hi
  rw [hterm] at hout hstatics
  refine ⟨congrArg (· + 1) hend, ?_, ?_, hstatics, ?_, hsound⟩
  · rw [hout]
    simp
  · rw [List.length_append, List.length_cons, List.length_append, List.length_replicate, hi]
    show i + ((passwordMarker.valueOf l).length + 1 + 1) = _
    omega
  · rw [hstatics]
    show (finishPasswordSnoop _ _).prefixMatchLen < 9
    rw [finishPasswordSnoop_prefixMatchLen]
    exact Nat.zero_lt_succ 8

section Loop

variable {now : ℕ → UInt64} {lba : UInt32}

theorem snoopNewPasswordInPlace_of_le (hi : len ≤ i) :
    snoopNewPasswordInPlace now len lba i m = m := by
  rw [snoopNewPasswordInPlace, if_neg (Nat.not_lt.mpr hi)]

/-- A byte that goes on with the prefix without completing it. -/
theorem snoopNewPasswordInPlace_match (hi : i < len)
    (hc : (m.readMatch i m.phantom.prefixMatchLen).1 = true)
    (hmore : m.phantom.prefixMatchLen + 1 < passwordPrefix.length) :
    snoopNewPasswordInPlace now len lba i m
      = snoopNewPasswordInPlace now len lba (i + 1)
          ((m.readMatch i m.phantom.prefixMatchLen).2.setMatchLen
            (m.phantom.prefixMatchLen + 1)) := by
  rw [snoopNewPasswordInPlace, if_pos hi]
  exact (if_pos hc).trans (if_pos hmore)

/-- The byte that completes the prefix. -/
theorem snoopNewPasswordInPlace_complete (hi : i < len)
    (hc : (m.readMatch i m.phantom.prefixMatchLen).1 = true)
    (hlast : ¬ m.phantom.prefixMatchLen + 1 < passwordPrefix.length) :
    snoopNewPasswordInPlace now len lba i m
      = let x := takePasswordInPlace now len lba i
          ((m.readMatch i m.phantom.prefixMatchLen).2.setMatchLen (m.phantom.prefixMatchLen + 1))
        snoopNewPasswordInPlace now len lba (x.1 + 1) x.2 := by
  rw [snoopNewPasswordInPlace, if_pos hi]
  exact (if_pos hc).trans (if_neg hlast)

/-- A byte that does not go on with the prefix: it is read once more. -/
theorem snoopNewPasswordInPlace_mismatch (hi : i < len)
    (hc : ¬ (m.readMatch i m.phantom.prefixMatchLen).1 = true) :
    snoopNewPasswordInPlace now len lba i m
      = let x := (m.readMatch i m.phantom.prefixMatchLen).2.readMatch i 0
        snoopNewPasswordInPlace now len lba (i + 1)
          (x.2.setMatchLen (if x.1 then 1 else 0)) := by
  rw [snoopNewPasswordInPlace, if_pos hi]
  exact if_neg hc

end Loop

/-- `snoop_new_password`, in place and on lists. -/
theorem snoopNewPasswordInPlace_spec (now : ℕ → UInt64) (lba : UInt32) (h : m.Sound len)
    (hbuf : m.buf = before ++ l) (hi : before.length = i) (hk : m.phantom.prefixMatchLen < 9) :
    let m' := snoopNewPasswordInPlace now len lba i m
    let q := snoopNewPassword now lba m.phantom i l
    m'.buf = before ++ q.1 ∧ m'.phantom = q.2 ∧ m'.Sound len := by
  induction hn : l.length using Nat.strong_induction_on generalizing m before i l with
  | _ n ih =>
    have hlen := h.length_split hbuf
    rcases l with - | ⟨c, rest⟩
    · rw [snoopNewPassword_nil, snoopNewPasswordInPlace_of_le (by simp at hlen; omega)]
      exact ⟨hbuf, rfl, h⟩
    rw [List.length_cons] at hn hlen
    have hlt : i < len := by omega
    obtain ⟨hrest, hnext⟩ := SnoopMemory.split_next hbuf hi
    have hmatch := SnoopMemory.readMatch_fst hbuf hi hk
    have hread := h.readMatch hlt hk
    by_cases hc : passwordPrefix[m.phantom.prefixMatchLen]? = some c
    · by_cases hmore : m.phantom.prefixMatchLen + 1 < passwordPrefix.length
      · -- one more letter of the prefix
        rw [snoopNewPasswordInPlace_match hlt (hmatch.mpr hc) hmore,
          snoopNewPassword_match hc hmore]
        obtain ⟨hout, hstatics, hsound⟩ := ih rest.length (by omega)
          (hread.setMatchLen (m.phantom.prefixMatchLen + 1)) hrest hnext hmore rfl
        rw [List.append_assoc] at hout
        exact ⟨hout, hstatics, hsound⟩
      · -- the prefix is complete
        have hlast : m.phantom.prefixMatchLen + 1 = passwordPrefix.length := by
          have hlength : passwordPrefix.length = 9 := rfl
          omega
        rw [snoopNewPasswordInPlace_complete hlt (hmatch.mpr hc) hmore]
        have hready := hread.setMatchLen (m.phantom.prefixMatchLen + 1)
        dsimp only
        rcases hafter : passwordMarker.afterValue rest with - | ⟨t, tail⟩
        · obtain ⟨hend, hout, hstatics, hsound⟩ := takePasswordInPlace_open now lba hready hbuf
            hi hafter
          rw [snoopNewPassword_open hc hlast hafter, snoopNewPasswordInPlace_of_le hend]
          exact ⟨hout, hstatics, hsound⟩
        · obtain ⟨hend, hbuf', hpos, hstatics', hzero, hsound'⟩ := takePasswordInPlace_terminated
            now lba hready hbuf hi hafter
          have hshorter := passwordMarker.length_afterValue_le rest
          rw [hafter, List.length_cons] at hshorter
          obtain ⟨hout, hstatics, hsound⟩ := ih tail.length (by omega) hsound' hbuf' hpos hzero rfl
          rw [hstatics'] at hout hstatics
          rw [snoopNewPassword_terminated hc hlast hafter, hend]
          refine ⟨hout.trans ?_, hstatics, hsound⟩
          simp only [List.append_assoc, List.cons_append, List.nil_append]
          rfl
    · -- a mismatch
      rw [snoopNewPasswordInPlace_mismatch hlt (hmatch.not.mpr hc), snoopNewPassword_mismatch hc hk]
      have hfirst := SnoopMemory.readMatch_fst (m := (m.readMatch i m.phantom.prefixMatchLen).2)
        (k := 0) hbuf hi (by decide)
      have hread' := hread.readMatch hlt (k := 0) (by decide)
      have hzero : passwordPrefix[0]? = some c ↔ c = 0x70 := by
        rw [eq_comm]
        exact Option.some_inj
      have hlen' : (if ((m.readMatch i m.phantom.prefixMatchLen).2.readMatch i 0).1 then 1 else 0)
          = if c = 0x70 then 1 else 0 := if_congr (hfirst.trans hzero) rfl rfl
      dsimp only
      rw [hlen']
      obtain ⟨hout, hstatics, hsound⟩ := ih rest.length (by omega)
        (hread'.setMatchLen (if c = 0x70 then 1 else 0)) hrest hnext
        (by show (if c = 0x70 then 1 else 0) < 9; split <;> decide) rfl
      rw [List.append_assoc] at hout
      exact ⟨hout, hstatics, hsound⟩

end InPlace

/-- Where `snoop_new_password` goes on behind `continue_partial_password`. -/
theorem continuePartialPassword_goesOn {p : Phantom} (buf : List UInt8)
    (hk : p.prefixMatchLen < 9) :
    let x := continuePartialPassword buf p
    x.2.1 ≤ x.1.length ∧ x.2.2.prefixMatchLen < 9 := by
  rcases hafter : passwordMarker.afterValue buf with - | ⟨t, tail⟩
  · rw [continuePartialPassword_of_open hafter]
    refine ⟨List.length_replicate.ge, ?_⟩
    exact foldl_append_preserves (P := fun r => r.prefixMatchLen < 9) buf (fun _ _ h => h) hk
  · rw [continuePartialPassword_of_terminated hafter]
    refine ⟨by simp, ?_⟩
    dsimp only
    rw [finishPasswordSnoop_prefixMatchLen]
    exact Nat.zero_lt_succ 8

/-- **One scanner.**  In place, `phantomdrive_snoop_write` leaves the buffer and the statics it
leaves on lists, and every index lies in its array. -/
theorem phantomdriveSnoopWriteInPlace_spec (now : ℕ → UInt64) (buf : List UInt8) (lba : UInt32)
    {p : Phantom} (hk : p.prefixMatchLen < 9) :
    let m := phantomdriveSnoopWriteInPlace now buf lba p
    (m.buf, m.phantom) = phantomdriveSnoopWrite now buf lba p
      ∧ ∀ a ∈ m.accesses, a.InBounds buf.length := by
  have hbegin := beginSnoopWrite_prefixMatchLen_lt lba buf.length hk
  unfold phantomdriveSnoopWriteInPlace phantomdriveSnoopWrite snoopBuffer
  generalize beginSnoopWrite buf.length lba p = q at hbegin
  have hstart : SnoopMemory.Sound buf.length ⟨buf, q, []⟩ :=
    ⟨rfl, fun a hmem => absurd hmem List.not_mem_nil⟩
  dsimp only
  split
  · obtain ⟨hbuf, hpos, hstatics, hsound⟩ := continuePartialPasswordInPlace_spec hstart
    obtain ⟨hle, hmatch⟩ := continuePartialPassword_goesOn buf hbegin
    dsimp only at hbuf hpos hstatics
    generalize continuePartialPassword buf q = y at hbuf hpos hstatics hle hmatch ⊢
    generalize continuePartialPasswordInPlace buf.length _ = x at hbuf hpos hstatics hsound ⊢
    have hsplit : x.2.buf = y.1.take x.1 ++ y.1.drop x.1 := by rw [hbuf, List.take_append_drop]
    obtain ⟨hout, hstatics', hsound'⟩ := snoopNewPasswordInPlace_spec now lba hsound hsplit
      (List.length_take_of_le (hpos ▸ hle)) (hstatics ▸ hmatch)
    rw [hpos, hstatics] at hout hstatics'
    rw [hpos]
    exact ⟨Prod.ext hout hstatics', hpos ▸ hsound'.inBounds⟩
  · obtain ⟨hbuf, hstatics, hsound⟩ := snoopNewPasswordInPlace_spec now lba hstart
      (List.nil_append buf).symm rfl hbegin
    exact ⟨Prod.ext hbuf hstatics, hsound.inBounds⟩

end PhantomDrive
