/-
PhantomDrive/Snoop.lean

`phantomdrive.c`, the snooping half: the statics of the module and
`phantomdrive_snoop_write`, which looks for `password:` in everything the host
writes while the drive is locked, keeps the value that follows and blanks it in the
buffer.

A buffer is its list of bytes.  The clock (`bsp_get_tick() / bsp_get_nbtick_1ms()`)
is read once for each completed prefix, so it is a function of the byte index.
-/
import PhantomDrive.Basic

namespace PhantomDrive

/-! ### The statics of `phantomdrive.c` -/

/-- `phantomdrive_state`: `STATE_LOCKED`, `STATE_UNLOCKED`, `STATE_UNLOCK_PENDING`. -/
inductive LockState
  | locked
  | unlocked
  | unlockPending
deriving DecidableEq, Repr

/-- `UNLOCK_PASSWORD_MAX`. -/
def unlockPasswordMax : ℕ := 128

structure Phantom where
  /-- `phantomdrive_state`. -/
  state : LockState
  pendingPw : Vector UInt8 128
  pendingPwLen : ℕ
  pendingPwLba : UInt32
  pendingPwOffset : ℕ
  pwPartial : Bool
  prefixMatchLen : ℕ
  nextWriteLba : UInt32
  pendingPwStartedMs : UInt64
  saltBytes : Vector UInt8 8
deriving DecidableEq, Repr

/-- The statics as the C start-up code leaves them. -/
def Phantom.statics : Phantom where
  state := .locked
  pendingPw := Vector.replicate 128 0
  pendingPwLen := 0
  pendingPwLba := 0
  pendingPwOffset := 0
  pwPartial := false
  prefixMatchLen := 0
  nextWriteLba := 0
  pendingPwStartedMs := 0
  saltBytes := Vector.replicate 8 0

/-- `phantomdrive_init`: the salt is the unique id, least significant byte first. -/
def phantomdriveInit (uniqueId : UInt64) (p : Phantom) : Phantom :=
  { p with
    saltBytes := Vector.ofFn fun i => (uniqueId >>> UInt64.ofNat (8 * i)).toUInt8
    state := .locked }

/-- `phantomdrive_is_locked`. -/
def Phantom.isLocked (p : Phantom) : Bool := p.state ≠ .unlocked

/-- `phantomdrive_get_unlock_pending`. -/
def Phantom.unlockPending (p : Phantom) : Bool := p.state = .unlockPending

/-- `phantomdrive_set_unlock_pending`. -/
def phantomdriveSetUnlockPending (p : Phantom) : Phantom := { p with state := .unlockPending }

/-- `phantomdrive_unlock_timeout_reached`, `UNLOCK_TIMEOUT_MS` = 3000. -/
def phantomdriveUnlockTimeoutReached (now : UInt64) (p : Phantom) : Bool :=
  3000 ≤ now - p.pendingPwStartedMs

/-- `is_password_terminator`: `\n`, `\r` or NUL. -/
def isPasswordTerminator (c : UInt8) : Bool := c = 0x0A || c = 0x0D || c = 0x00

/-- `clear_pending_password`. -/
def clearPendingPassword (p : Phantom) : Phantom :=
  { p with
    pendingPw := Vector.replicate 128 0
    pendingPwLen := 0
    pwPartial := false
    prefixMatchLen := 0 }

/-- `"password:"`, without its NUL. -/
def passwordPrefix : List UInt8 := [0x70, 0x61, 0x73, 0x73, 0x77, 0x6F, 0x72, 0x64, 0x3A]

/-! ### The scanner of the source -/

/-- `finish_password_snoop`. -/
def finishPasswordSnoop (pwLen : ℕ) (p : Phantom) : Phantom :=
  if pwLen = 0 then clearPendingPassword p
  else { phantomdriveSetUnlockPending p with pwPartial := false, prefixMatchLen := 0 }

/-- The body of the loop of `continue_partial_password`: keep `c` while there is room,
count it up to one past the limit. -/
def appendPendingPassword (c : UInt8) (p : Phantom) : Phantom :=
  { p with
    pendingPw :=
      if h : p.pendingPwLen < 128 then p.pendingPw.set p.pendingPwLen c h else p.pendingPw
    pendingPwLen := if p.pendingPwLen ≤ 128 then p.pendingPwLen + 1 else p.pendingPwLen }

/-- The loop of `continue_partial_password` from some byte on: `end`, counted from that
byte, `saw_terminator` and the statics. -/
def continuePartialLoop (p : Phantom) : List UInt8 → ℕ × Bool × Phantom
  | [] => (0, false, p)
  | c :: rest =>
      if isPasswordTerminator c then (0, true, p)
      else
        let (end_, sawTerminator, p) := continuePartialLoop (appendPendingPassword c p) rest
        (end_ + 1, sawTerminator, p)

/-- `continue_partial_password`: the scrubbed buffer, the index to go on from and the
statics. -/
def continuePartialPassword (buf : List UInt8) (p : Phantom) : List UInt8 × ℕ × Phantom :=
  let (end_, sawTerminator, p) := continuePartialLoop p buf
  let buf := List.replicate end_ 0 ++ buf.drop end_
  if sawTerminator then
    (buf, end_ + 1, finishPasswordSnoop p.pendingPwLen { p with pwPartial := false })
  else (buf, end_, p)

/-- `memcpy(pending_pw, buf + pw_start, copy_len)` with the length clamped to 128. -/
def copyPendingPassword (value : List UInt8) (pw : Vector UInt8 128) : Vector UInt8 128 :=
  Vector.ofFn fun i => if i.val < min value.length 128 then value.getD i 0 else pw[i]

/-- `snoop_new_password` at a completed prefix whose last byte is at `i`: everything up
to the test of `saw_terminator`. -/
def openPendingPassword (now : ℕ → UInt64) (lba : UInt32) (i : ℕ) (value : List UInt8)
    (p : Phantom) : Phantom :=
  let p := clearPendingPassword p
  { p with
    pendingPwStartedMs := now i
    pendingPwLba := lba + UInt32.ofNat (i / 512)
    pendingPwOffset := i % 512 + 1
    pendingPw := copyPendingPassword value p.pendingPw
    pendingPwLen := if 128 < value.length then 128 + 1 else value.length }

@[simp] theorem openPendingPassword_nextWriteLba (now : ℕ → UInt64) (lba : UInt32) (i : ℕ)
    (v : List UInt8) (p : Phantom) :
    (openPendingPassword now lba i v p).nextWriteLba = p.nextWriteLba := by
  unfold openPendingPassword
  rfl

@[simp] theorem openPendingPassword_state (now : ℕ → UInt64) (lba : UInt32) (i : ℕ)
    (v : List UInt8) (p : Phantom) :
    (openPendingPassword now lba i v p).state = p.state := by
  unfold openPendingPassword
  rfl

@[simp] theorem openPendingPassword_saltBytes (now : ℕ → UInt64) (lba : UInt32) (i : ℕ)
    (v : List UInt8) (p : Phantom) :
    (openPendingPassword now lba i v p).saltBytes = p.saltBytes := by
  unfold openPendingPassword
  rfl

/-- `snoop_new_password` from index `i` on, where the rest of the buffer is the list. -/
def snoopNewPassword (now : ℕ → UInt64) (lba : UInt32) (p : Phantom) (i : ℕ) :
    List UInt8 → List UInt8 × Phantom
  | [] => ([], p)
  | c :: rest =>
      if c = passwordPrefix.getD p.prefixMatchLen 0 then
        if p.prefixMatchLen + 1 < passwordPrefix.length then
          let (out, p) := snoopNewPassword now lba
            { p with prefixMatchLen := p.prefixMatchLen + 1 } (i + 1) rest
          (c :: out, p)
        else
          let value := rest.takeWhile fun d => !isPasswordTerminator d
          let p := openPendingPassword now lba i value p
          match _hdrop : rest.dropWhile fun d => !isPasswordTerminator d with
          | [] =>
              (c :: List.replicate value.length 0,
                phantomdriveSetUnlockPending { p with pwPartial := true })
          | t :: tail =>
              let (out, p) := snoopNewPassword now lba (finishPasswordSnoop p.pendingPwLen p)
                (i + 1 + value.length + 1) tail
              (c :: (List.replicate value.length 0 ++ t :: out), p)
      else
        let (out, p) := snoopNewPassword now lba
          { p with prefixMatchLen := if c = passwordPrefix.getD 0 0 then 1 else 0 } (i + 1) rest
        (c :: out, p)
termination_by l => l.length
decreasing_by
  · simp
  · have hle := (List.dropWhile_sublist (fun d => !isPasswordTerminator d) (l := rest)).length_le
    simp only [_hdrop, List.length_cons] at hle ⊢
    omega
  · simp

/-- `phantomdrive_snoop_write`, first part: a buffer that does not go on where the last one
ended drops the partial match and the open value. -/
def beginSnoopWrite (len : ℕ) (lba : UInt32) (p : Phantom) : Phantom :=
  let p := if lba ≠ p.nextWriteLba then { p with pwPartial := false, prefixMatchLen := 0 } else p
  { p with nextWriteLba := lba + UInt32.ofNat (len / 512) }

/-- `phantomdrive_snoop_write`, second part. -/
def snoopBuffer (now : ℕ → UInt64) (buf : List UInt8) (lba : UInt32) (p : Phantom) :
    List UInt8 × Phantom :=
  if p.pwPartial then
    let (buf, start, p) := continuePartialPassword buf p
    let (out, p) := snoopNewPassword now lba p start (buf.drop start)
    (buf.take start ++ out, p)
  else snoopNewPassword now lba p 0 buf

/-- `phantomdrive_snoop_write`: the scrubbed buffer and the statics. -/
def phantomdriveSnoopWrite (now : ℕ → UInt64) (buf : List UInt8) (lba : UInt32) (p : Phantom) :
    List UInt8 × Phantom :=
  snoopBuffer now buf lba (beginSnoopWrite buf.length lba p)

/-- A value cut by the end of the first chunk is blanked in the second, up to the line
end, and nothing else changes. -/
example :
    let p := (phantomdriveSnoopWrite (fun _ => 0) (passwordPrefix ++ [0x61]) 0 Phantom.statics).2
    (phantomdriveSnoopWrite (fun _ => 0) [0x62, 0x0A, 0x63] 0 p).1 = [0x00, 0x0A, 0x63] := by
  decide +kernel

end PhantomDrive
