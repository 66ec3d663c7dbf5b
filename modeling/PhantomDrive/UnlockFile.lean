/-
PhantomDrive/UnlockFile.lean

`unlock_file.c`: the search for the file the password was entered in, on the decoy
volume, and its deletion.

FatFs stands outside the model.  What it reports on the way (the root directory, for
each file the results of `f_open`, `f_read`, .., for the deletion the results of its
calls) is a value of `Directory` or `Deletion`, and the functions of the source are
functions of such values.

Main result: a search leaves a length between 1 and 128 or the one it was given
(`unlockFileFind_length`).
-/
import PhantomDrive.Snoop

namespace PhantomDrive

/-! ### The matcher -/

/-- `if (length > limit) length = limit`. -/
def limitLength (limit length : ℕ) : ℕ := if limit < length then limit else length

theorem limitLength_eq_min (limit length : ℕ) : limitLength limit length = min limit length := by
  unfold limitLength
  split <;> omega

/-- `matches_scrubbed_password`: `none` for `false`, else the new `*password_len`. -/
def matchesScrubbedPassword (contents : List UInt8) (size passwordOffset passwordLen : ℕ) :
    Option ℕ :=
  let prefixLen := passwordPrefix.length
  let length := limitLength (size - passwordOffset) passwordLen
  let end_ := passwordOffset + length
  if passwordOffset < prefixLen ∨ size ≤ passwordOffset then none
  else if (contents.drop (passwordOffset - prefixLen)).take prefixLen ≠ passwordPrefix then none
  else if length = 0 ∨ unlockPasswordMax < length then none
  else if ((contents.drop passwordOffset).take length).any (· ≠ 0) then none
  else if end_ < size ∧ !isPasswordTerminator (contents.getD end_ 0) then none
  else some length

/-! ### The search -/

/-- What FatFs reports of one entry of the root directory. -/
structure FileEntry where
  /-- `info.fname`. -/
  fname : List UInt8
  /-- `info.fattrib & AM_DIR`. -/
  isDir : Bool
  /-- `info.fsize`. -/
  fsize : ℕ
  /-- `f_open` returns `FR_OK`. -/
  opens : Bool
  /-- `f_size`. -/
  size : ℕ
  /-- The bytes `f_read` delivers, when it returns `FR_OK`. -/
  read : Option (List UInt8)
  /-- `file.sect` after the read. -/
  sect : UInt32
  /-- `f_close` returns `FR_OK`. -/
  closes : Bool

/-- The root directory: the entries up to the one where `f_readdir` fails or ends. -/
structure Directory where
  /-- `f_opendir` returns `FR_OK`. -/
  opens : Bool
  entries : List FileEntry
  /-- `f_closedir` returns `FR_OK`. -/
  closes : Bool

/-- `UNLOCK_FILE_MAX_SIZE`. -/
def unlockFileMaxSize : ℕ := 256

/-- `file_contains_scrubbed_password`: `none` for `false`, else the new `*password_len`. -/
def fileContainsScrubbedPassword (file : FileEntry) (lba : UInt32)
    (passwordOffset passwordLen : ℕ) : Option ℕ :=
  if !file.opens then none
  else if file.size = 0 ∨ unlockFileMaxSize < file.size then none
  else
    match file.read with
    | none => none
    | some contents =>
        if contents.length ≠ file.size then none
        else if file.sect ≠ lba ∨ !file.closes then none
        else matchesScrubbedPassword contents contents.length passwordOffset passwordLen

/-- The loop of `unlock_file_find`: the path found with the new `*password_len`. -/
def unlockFileFindLoop (lba : UInt32) (passwordOffset passwordLen : ℕ) :
    List FileEntry → Option (List UInt8 × ℕ)
  | [] => none
  | file :: rest =>
      if file.isDir ∨ file.fsize = 0 ∨ unlockFileMaxSize < file.fsize then
        unlockFileFindLoop lba passwordOffset passwordLen rest
      else
        match fileContainsScrubbedPassword file lba passwordOffset passwordLen with
        | some length => some (0x2F :: file.fname, length)
        | none => unlockFileFindLoop lba passwordOffset passwordLen rest

/-- `unlock_file_find`: the path, or `none` for `NULL`, and `*password_len` afterwards.  A
failed `f_closedir` forgets the path but not the length. -/
def unlockFileFind (directory : Directory) (lba : UInt32) (passwordOffset passwordLen : ℕ) :
    Option (List UInt8) × ℕ :=
  if !directory.opens then (none, passwordLen)
  else
    match unlockFileFindLoop lba passwordOffset passwordLen directory.entries with
    | none => (none, passwordLen)
    | some (path, length) => (if directory.closes then some path else none, length)

/-! ### The deletion -/

/-- The results of the FatFs calls of `unlock_file_delete`. -/
structure Deletion where
  /-- `f_open` returns `FR_OK`. -/
  opens : Bool
  /-- `f_size`. -/
  size : ℕ
  /-- `f_write` returns `FR_OK`. -/
  writes : Bool
  bytesWritten : ℕ
  /-- `f_close` returns `FR_OK`. -/
  closes : Bool
  /-- `f_unlink` returns `FR_OK`. -/
  unlinks : Bool

/-- `unlock_file_delete`. -/
def unlockFileDelete (deletion : Deletion) : Bool :=
  deletion.opens && deletion.size ≤ unlockFileMaxSize && deletion.writes
    && deletion.bytesWritten = deletion.size && deletion.closes && deletion.unlinks

/-! ### Lengths -/

theorem matchesScrubbedPassword_length {contents : List UInt8} {size offset len length : ℕ}
    (h : matchesScrubbedPassword contents size offset len = some length) :
    1 ≤ length ∧ length ≤ unlockPasswordMax := by
  simp only [matchesScrubbedPassword] at h
  split at h
  · cases h
  split at h
  · cases h
  split at h
  · cases h
  rename_i hlen
  split at h
  · cases h
  split at h
  · cases h
  · obtain rfl := Option.some.inj h
    omega

theorem fileContainsScrubbedPassword_length {file : FileEntry} {lba : UInt32}
    {offset len length : ℕ} (h : fileContainsScrubbedPassword file lba offset len = some length) :
    1 ≤ length ∧ length ≤ unlockPasswordMax := by
  unfold fileContainsScrubbedPassword at h
  split at h
  · cases h
  split at h
  · cases h
  split at h
  · cases h
  split at h
  · cases h
  split at h
  · cases h
  · exact matchesScrubbedPassword_length h

theorem unlockFileFindLoop_length {lba : UInt32} {offset len length : ℕ} {path : List UInt8}
    {entries : List FileEntry}
    (h : unlockFileFindLoop lba offset len entries = some (path, length)) :
    1 ≤ length ∧ length ≤ unlockPasswordMax := by
  induction entries with
  | nil => cases h
  | cons file rest ih =>
      rw [unlockFileFindLoop] at h
      split at h
      · exact ih h
      split at h
      · rename_i found hfound
        obtain ⟨-, rfl⟩ := Prod.mk.inj (Option.some.inj h)
        exact fileContainsScrubbedPassword_length hfound
      · exact ih h

/-- A search leaves the length it was given, or one between 1 and 128. -/
theorem unlockFileFind_length (directory : Directory) (lba : UInt32) (offset len : ℕ) :
    (unlockFileFind directory lba offset len = (none, len))
      ∨ (1 ≤ (unlockFileFind directory lba offset len).2
          ∧ (unlockFileFind directory lba offset len).2 ≤ unlockPasswordMax) := by
  unfold unlockFileFind
  split
  · exact Or.inl rfl
  split
  · exact Or.inl rfl
  · rename_i path length hfound
    exact Or.inr (unlockFileFindLoop_length hfound)

end PhantomDrive
