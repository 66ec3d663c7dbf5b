/-
PhantomDrive/UnlockSearch.lean

The search for the password file, as a specification.  An entry of the root directory holds the
scrubbed password if it is a small file that was read whole, begins at the sector captured, and has
the prefix and zeros in place of the password where the capture says (`FileEntry.Holds`);
`unlock_file_find` returns the first such entry, and without one it leaves the length alone
(`unlockFileFind_first`).

`file.sect`, by which the code knows the file, is what `f_read` of FatFs leaves behind; for files
below one sector it is the first sector of the data (`fRead_sect`).
-/
import PhantomDrive.UnlockExits

namespace PhantomDrive

/-! ### The file -/

/-- `contents` has the prefix before `offset` and `n` zeros behind it, up to a terminator or the end
of the file. -/
structure Scrubbed (contents : List UInt8) (offset n : ℕ) : Prop where
  pos : 1 ≤ n
  le : n ≤ unlockPasswordMax
  split : ∃ before after, contents = before ++ passwordPrefix ++ List.replicate n 0 ++ after
    ∧ before.length + passwordPrefix.length = offset
    ∧ (after = [] ∨ ∃ c rest, after = c :: rest ∧ isPasswordTerminator c = true)

/-- All bytes are zero. -/
theorem any_ne_zero_iff (l : List UInt8) :
    (l.any (· ≠ 0)) = false ↔ l = List.replicate l.length 0 := by
  rw [List.eq_replicate_iff, List.any_eq_false]
  simp

/-- The contents in four pieces. -/
theorem split_contents (contents : List UInt8) {offset n : ℕ} (hoffset : 9 ≤ offset) :
    contents = contents.take (offset - 9) ++ (contents.drop (offset - 9)).take 9
      ++ (contents.drop offset).take n ++ contents.drop (offset + n) := by
  have hprefix : (contents.drop (offset - 9)).drop 9 = contents.drop offset := by
    rw [List.drop_drop]
    congr 1
    omega
  have hrest : (contents.drop offset).drop n = contents.drop (offset + n) := List.drop_drop
  rw [List.append_assoc _ _ (contents.drop (offset + n)), ← hrest, List.take_append_drop,
    List.append_assoc, ← hprefix, List.take_append_drop, List.take_append_drop]

/-- **The matcher.**  It looks for as many zeros as the password was long, or as the file has room
for. -/
theorem matchesScrubbedPassword_eq_some (contents : List UInt8) (offset len n : ℕ) :
    matchesScrubbedPassword contents contents.length offset len = some n
      ↔ Scrubbed contents offset n ∧ n = min (contents.length - offset) len := by
  have hnine : passwordPrefix.length = 9 := rfl
  simp only [matchesScrubbedPassword, limitLength_eq_min, hnine]
  constructor
  · intro h
    split at h
    · cases h
    rename_i hoffset
    split at h
    · cases h
    rename_i hprefix
    split at h
    · cases h
    rename_i hlen
    split at h
    · cases h
    rename_i hzeros
    split at h
    · cases h
    rename_i hend
    obtain rfl := Option.some.inj h
    generalize hn : min (contents.length - offset) len = n at *
    have hpiece : ((contents.drop offset).take n).length = n := by
      rw [List.length_take, List.length_drop]
      omega
    have hzeros : (contents.drop offset).take n = List.replicate n 0 := by
      have hall := (any_ne_zero_iff _).mp (Bool.eq_false_iff.mpr hzeros)
      rwa [hpiece] at hall
    refine ⟨⟨by omega, by omega, contents.take (offset - 9), contents.drop (offset + n), ?_, ?_, ?_⟩,
      rfl⟩
    · rw [← hzeros, ← not_not.mp hprefix]
      exact split_contents contents (by omega)
    · rw [List.length_take, hnine]
      omega
    · by_cases hfile : offset + n < contents.length
      · refine Or.inr ⟨contents[offset + n], contents.drop (offset + n + 1),
          List.drop_eq_getElem_cons hfile, ?_⟩
        rw [List.getD_eq_getElem _ _ hfile] at hend
        simpa [hfile] using hend
      · exact Or.inl (List.drop_eq_nil_of_le (by omega))
  · rintro ⟨⟨hpos, hmax, before, after, hsplit, hbefore, hafter⟩, hn⟩
    have hlength : contents.length = before.length + 9 + n + after.length := by
      rw [hsplit]
      simp only [List.length_append, List.length_replicate, hnine]
    have hprefix : (contents.drop (offset - 9)).take 9 = passwordPrefix := by
      have hat : offset - 9 = before.length := by omega
      rw [hat, hsplit, List.append_assoc, List.append_assoc, List.drop_left, List.take_left' hnine]
    have hdrop : contents.drop offset = List.replicate n 0 ++ after := by
      rw [hsplit, List.append_assoc, List.drop_left' (by rw [List.length_append]; omega)]
    have hend : contents.drop (offset + n) = after := by
      rw [← List.drop_drop, hdrop, List.drop_left' List.length_replicate]
    have hzeros : ((contents.drop offset).take n).any (· ≠ 0) = false := by
      rw [hdrop, List.take_left' List.length_replicate, any_ne_zero_iff, List.length_replicate]
    rw [← hn, if_neg (by omega), if_neg (not_not.mpr hprefix), if_neg (by omega),
      if_neg (Bool.eq_false_iff.mp hzeros), if_neg]
    rintro ⟨hfile, hterminator⟩
    rcases hafter with hnil | ⟨c, rest, hcons, hc⟩
    · rw [hnil, List.length_nil] at hlength
      omega
    · have hget : contents.getD (offset + n) 0 = c := by
        rw [List.getD_eq_getElem _ _ hfile]
        have hhead := List.drop_eq_getElem_cons hfile
        rw [hend, hcons] at hhead
        exact (List.cons.inj hhead).1.symm
      rw [hget, hc] at hterminator
      cases hterminator

/-- An entry that holds the scrubbed password, with `n` zeros for a password of `len` bytes. -/
structure FileEntry.Holds (file : FileEntry) (lba : UInt32) (offset len n : ℕ) : Prop where
  notDir : file.isDir = false
  fsize : 1 ≤ file.fsize ∧ file.fsize ≤ 256
  opens : file.opens = true
  size : 1 ≤ file.size ∧ file.size ≤ 256
  read : ∃ contents, file.read = some contents ∧ contents.length = file.size
    ∧ Scrubbed contents offset n ∧ n = min (contents.length - offset) len
  sect : file.sect = lba
  closes : file.closes = true

theorem FileEntry.holds_iff (file : FileEntry) (lba : UInt32) (offset len n : ℕ) :
    file.Holds lba offset len n
      ↔ ¬ (file.isDir = true ∨ file.fsize = 0 ∨ unlockFileMaxSize < file.fsize)
        ∧ fileContainsScrubbedPassword file lba offset len = some n := by
  have hsize : unlockFileMaxSize = 256 := rfl
  rw [hsize]
  constructor
  · rintro ⟨hdir, hfsize, hopens, hsize', ⟨contents, hread, hlen, hscrubbed⟩, hsect, hcloses⟩
    have hentry : ¬ (file.isDir = true ∨ file.fsize = 0 ∨ 256 < file.fsize) := by
      rintro (h | h | h)
      · cases hdir.symm.trans h
      · omega
      · omega
    refine ⟨hentry, ?_⟩
    have hmatch := (matchesScrubbedPassword_eq_some contents offset len n).mpr hscrubbed
    simp only [fileContainsScrubbedPassword, hopens, hread, hsect, hcloses, hlen, hsize]
    rw [hlen] at hmatch
    rw [if_neg (by simp), if_neg (by omega), if_neg (by simp), if_neg (by simp), hmatch]
  · rintro ⟨hentry, hfile⟩
    rw [not_or, not_or] at hentry
    simp only [fileContainsScrubbedPassword, hsize] at hfile
    split at hfile
    · cases hfile
    rename_i hopens
    split at hfile
    · cases hfile
    rename_i hfits
    split at hfile
    · cases hfile
    rename_i contents hread
    split at hfile
    · cases hfile
    rename_i hlen
    split at hfile
    · cases hfile
    rename_i hsect
    rw [not_or, not_not] at hsect
    exact ⟨Bool.eq_false_iff.mpr hentry.1, by omega, by simpa using hopens, by omega,
      ⟨contents, hread, not_not.mp hlen, (matchesScrubbedPassword_eq_some ..).mp hfile⟩, hsect.1,
      by simpa using hsect.2⟩

/-! ### The directory -/

/-- The entries that a sequence of results of `f_readdir` lists: up to the first failure, which is
`none`, or the first empty name. -/
def readdirEntries : List (Option FileEntry) → List FileEntry
  | [] => []
  | none :: _ => []
  | some file :: rest => if file.fname = [] then [] else file :: readdirEntries rest

/-- The loop of `unlock_file_find` over the results of `f_readdir`. -/
def unlockFileFindCalls (lba : UInt32) (passwordOffset passwordLen : ℕ) :
    List (Option FileEntry) → Option (List UInt8 × ℕ)
  | [] => none
  | none :: _ => none
  | some file :: rest =>
      if file.fname = [] then none
      else if file.isDir then unlockFileFindCalls lba passwordOffset passwordLen rest
      else if file.fsize = 0 ∨ unlockFileMaxSize < file.fsize then
        unlockFileFindCalls lba passwordOffset passwordLen rest
      else
        match fileContainsScrubbedPassword file lba passwordOffset passwordLen with
        | some length => some (0x2F :: file.fname, length)
        | none => unlockFileFindCalls lba passwordOffset passwordLen rest

theorem unlockFileFindCalls_eq (lba : UInt32) (offset len : ℕ) (calls : List (Option FileEntry)) :
    unlockFileFindCalls lba offset len calls
      = unlockFileFindLoop lba offset len (readdirEntries calls) := by
  induction calls with
  | nil => rfl
  | cons call rest ih =>
    rcases call with - | file
    · rfl
    rw [unlockFileFindCalls, readdirEntries]
    by_cases hlast : file.fname = []
    · rw [if_pos hlast, if_pos hlast]
      rfl
    rw [if_neg hlast, if_neg hlast, unlockFileFindLoop]
    by_cases hdir : file.isDir = true
    · rw [if_pos hdir, if_pos (Or.inl hdir), ih]
    rw [if_neg hdir]
    by_cases hsize : file.fsize = 0 ∨ unlockFileMaxSize < file.fsize
    · rw [if_pos hsize, if_pos (Or.inr hsize), ih]
    · rw [if_neg hsize, if_neg (not_or.mpr ⟨hdir, hsize⟩)]
      rcases hfound : fileContainsScrubbedPassword file lba offset len with - | n
      · simp only [ih]
      · simp only

/-- `unlock_file_find` over the results of the FatFs calls on the directory. -/
def unlockFileFindRun (opens closes : Bool) (calls : List (Option FileEntry)) (lba : UInt32)
    (passwordOffset passwordLen : ℕ) : Option (List UInt8) × ℕ :=
  if !opens then (none, passwordLen)
  else
    match unlockFileFindCalls lba passwordOffset passwordLen calls with
    | none => (none, passwordLen)
    | some (path, length) => (if closes then some path else none, length)

theorem unlockFileFindRun_eq (opens closes : Bool) (calls : List (Option FileEntry)) (lba : UInt32)
    (offset len : ℕ) : unlockFileFindRun opens closes calls lba offset len
      = unlockFileFind ⟨opens, readdirEntries calls, closes⟩ lba offset len := by
  rw [unlockFileFindRun, unlockFileFindCalls_eq]
  rfl

theorem unlockFileFindLoop_cons (lba : UInt32) (offset len : ℕ) (file : FileEntry)
    (rest : List FileEntry) :
    (∃ n, file.Holds lba offset len n
        ∧ unlockFileFindLoop lba offset len (file :: rest) = some (0x2F :: file.fname, n))
      ∨ (∀ n, ¬ file.Holds lba offset len n)
        ∧ unlockFileFindLoop lba offset len (file :: rest)
          = unlockFileFindLoop lba offset len rest := by
  rw [unlockFileFindLoop]
  simp only [file.holds_iff]
  by_cases hskip : file.isDir = true ∨ file.fsize = 0 ∨ unlockFileMaxSize < file.fsize
  · rw [if_pos hskip]
    exact Or.inr ⟨fun n hholds => hholds.1 hskip, rfl⟩
  rw [if_neg hskip]
  rcases hfile : fileContainsScrubbedPassword file lba offset len with - | n
  · refine Or.inr ⟨fun n hholds => ?_, rfl⟩
    cases hholds.2
  · exact Or.inl ⟨n, ⟨hskip, rfl⟩, rfl⟩

/-- The loop finds the first entry that holds the password. -/
theorem unlockFileFindLoop_first {lba : UInt32} {offset len n : ℕ} {path : List UInt8}
    {entries : List FileEntry}
    (h : unlockFileFindLoop lba offset len entries = some (path, n)) :
    ∃ before file after, entries = before ++ file :: after ∧ path = 0x2F :: file.fname
      ∧ file.Holds lba offset len n ∧ ∀ other ∈ before, ∀ k, ¬ other.Holds lba offset len k := by
  induction entries with
  | nil => cases h
  | cons first rest ih =>
    rcases unlockFileFindLoop_cons lba offset len first rest with ⟨k, hholds, hfound⟩ | ⟨hnot, hnext⟩
    · obtain ⟨rfl, rfl⟩ := Prod.mk.inj (Option.some.inj (hfound.symm.trans h))
      exact ⟨[], first, rest, rfl, rfl, hholds, fun _ hmem => absurd hmem List.not_mem_nil⟩
    · obtain ⟨before, file, after, hsplit, hpath, hholds, hbefore⟩ := ih (hnext.symm.trans h)
      refine ⟨first :: before, file, after, by rw [hsplit]; rfl, hpath, hholds, ?_⟩
      intro other hmem
      rcases List.mem_cons.mp hmem with rfl | hmem
      · exact hnot
      · exact hbefore other hmem

theorem unlockFileFindLoop_none {lba : UInt32} {offset len : ℕ} {entries : List FileEntry}
    (h : ∀ file ∈ entries, ∀ n, ¬ file.Holds lba offset len n) :
    unlockFileFindLoop lba offset len entries = none := by
  induction entries with
  | nil => rfl
  | cons first rest ih =>
    rcases unlockFileFindLoop_cons lba offset len first rest with ⟨n, hholds, -⟩ | ⟨-, hnext⟩
    · exact absurd hholds (h first List.mem_cons_self n)
    · rw [hnext]
      exact ih fun file hmem => h file (List.mem_cons_of_mem _ hmem)

/-! ### The first sector -/

section FirstSector

/-- A FAT volume, as the functions below use it. -/
structure FatVolume where
  /-- `database`: the sector of cluster 2. -/
  database : UInt32
  /-- `csize`: the sectors of a cluster. -/
  csize : UInt32
  /-- `n_fatent`. -/
  nFatent : UInt32
  /-- `get_fat`: the cluster behind a cluster. -/
  getFat : UInt32 → UInt32
  /-- `disk_read` of a number of sectors succeeds. -/
  diskRead : UInt32 → ℕ → Bool
  /-- `move_window` to a sector succeeds. -/
  moveWindow : UInt32 → Bool

/-- `clst2sect`. -/
def clst2sect (fs : FatVolume) (clst : UInt32) : UInt32 :=
  if fs.nFatent - 2 ≤ clst - 2 then 0 else fs.database + fs.csize * (clst - 2)

/-- An open file. -/
structure Fil where
  sclust : UInt32
  fptr : ℕ
  clust : UInt32
  sect : UInt32

/-- `f_open`, as far as the fields below go. -/
def fOpen (sclust : UInt32) : Fil where
  sclust := sclust
  fptr := 0
  clust := 0
  sect := 0

/-- One pass of the loop of `f_read` on a sector boundary: the sector, if no call fails. -/
def fReadSector (fs : FatVolume) (fp : Fil) : Option (UInt32 × Fil) :=
  let csect := UInt32.ofNat (fp.fptr / 512) &&& (fs.csize - 1)
  let clst := if csect = 0 then (if fp.fptr = 0 then fp.sclust else fs.getFat fp.clust) else fp.clust
  if csect = 0 ∧ (clst < 2 ∨ clst = 0xFFFFFFFF) then none
  else
    let fp := { fp with clust := clst }
    let sect := clst2sect fs clst
    if sect = 0 then none else some (sect + csect, fp)

/-- The loop of `f_read` with `btr` bytes to read; every pass reads one byte or more. -/
def fReadLoop (fs : FatVolume) : ℕ → ℕ → Fil → Option Fil
  | 0, _, fp => some fp
  | fuel + 1, btr, fp =>
      if btr = 0 then some fp
      else if fp.fptr % 512 = 0 then
        match fReadSector fs fp with
        | none => none
        | some (sect, fp) =>
            let cc := btr / 512
            if 0 < cc then
              let csect := UInt32.ofNat (fp.fptr / 512) &&& (fs.csize - 1)
              let cc := if fs.csize.toNat < csect.toNat + cc then (fs.csize - csect).toNat else cc
              if fs.diskRead sect cc then
                fReadLoop fs fuel (btr - 512 * cc) { fp with fptr := fp.fptr + 512 * cc }
              else none
            else if fs.moveWindow sect then
              let rcnt := min 512 btr
              fReadLoop fs fuel (btr - rcnt) { fp with sect := sect, fptr := fp.fptr + rcnt }
            else none
      else if fs.moveWindow fp.sect then
        let rcnt := min (512 - fp.fptr % 512) btr
        fReadLoop fs fuel (btr - rcnt) { fp with fptr := fp.fptr + rcnt }
      else none

/-- `f_read` of `btr` bytes, which the file has; `none` for an error. -/
def fRead (fs : FatVolume) (btr : ℕ) (fp : Fil) : Option Fil := fReadLoop fs btr btr fp

/-- The first pass on a file just opened goes to the first sector of its first cluster. -/
theorem fReadSector_fOpen {fs : FatVolume} {sclust sect : UInt32} {fp : Fil}
    (h : fReadSector fs (fOpen sclust) = some (sect, fp)) : sect = clst2sect fs sclust := by
  have hcsect : UInt32.ofNat ((fOpen sclust).fptr / 512) &&& (fs.csize - 1) = 0 := by
    have hzero : (fOpen sclust).fptr / 512 = 0 := Nat.zero_div 512
    rw [hzero]
    exact UInt32.zero_and
  have hfirst : (fOpen sclust).fptr = 0 := rfl
  simp only [fReadSector, hcsect, if_true] at h
  rw [hfirst, if_pos rfl] at h
  split at h
  · cases h
  split at h
  · cases h
  · rw [← (Prod.mk.inj (Option.some.inj h)).1]
    exact UInt32.add_zero _

/-- A short read of a file just opened leaves its first data sector in `sect`. -/
theorem fRead_sect {fs : FatVolume} {btr : ℕ} {sclust : UInt32} {fp : Fil} (hpos : 1 ≤ btr)
    (hshort : btr < 512) (h : fRead fs btr (fOpen sclust) = some fp) :
    fp.sect = clst2sect fs sclust := by
  obtain ⟨n, rfl⟩ : ∃ n, btr = n + 1 := ⟨btr - 1, by omega⟩
  have hnone : ¬ 0 < (n + 1) / 512 := by
    rw [Nat.div_eq_of_lt hshort]
    exact lt_irrefl 0
  have hall : n + 1 - min 512 (n + 1) = 0 := by omega
  have hdone : ∀ fp, fReadLoop fs n 0 fp = some fp := by
    intro fp
    cases n
    all_goals rfl
  have hboundary : (fOpen sclust).fptr % 512 = 0 := Nat.zero_mod 512
  rw [fRead, fReadLoop, if_neg (Nat.succ_ne_zero n), if_pos hboundary] at h
  split at h
  · cases h
  rename_i sect fp' hsector
  simp only [hnone, if_false, hall, hdone] at h
  split at h
  · rw [← Option.some.inj h]
    exact fReadSector_fOpen hsector
  · cases h

end FirstSector

/-! ### The search -/

section Search

/-- **The search.**  A path returned is that of the first entry that holds the scrubbed password, for
the number of zeros returned; its data begins at the sector captured; no other path is ever deleted;
and without such an entry nothing is returned and the length stays. -/
theorem unlockFileFind_first (opens closes : Bool) (calls : List (Option FileEntry)) (lba : UInt32)
    (offset len : ℕ) :
    (∀ path n, unlockFileFindRun opens closes calls lba offset len = (some path, n) →
      ∃ before file after, readdirEntries calls = before ++ file :: after
        ∧ path = 0x2F :: file.fname
        ∧ file.Holds lba offset len n
        ∧ (∀ other ∈ before, ∀ k, ¬ other.Holds lba offset len k)
        ∧ ∀ fs sclust fp, fRead fs file.size (fOpen sclust) = some fp → file.sect = fp.sect →
            clst2sect fs sclust = lba)
      ∧ (∀ dev initRest io s path, io.directory = ⟨opens, readdirEntries calls, closes⟩ →
          (tryUnlockRun dev initRest io s).deleted = s.deleted ++ [path] →
          (unlockFileFindRun opens closes calls s.drive.phantom.pendingPwLba
            s.drive.phantom.pendingPwOffset s.drive.phantom.pendingPwLen).1 = some path)
      ∧ ((∀ file ∈ readdirEntries calls, ∀ n, ¬ file.Holds lba offset len n) →
          unlockFileFindRun opens closes calls lba offset len = (none, len)) := by
  refine ⟨fun path n h => ?_, fun dev initRest io s path hdirectory hdeleted => ?_, fun hnone => ?_⟩
  · rw [unlockFileFindRun_eq, unlockFileFind] at h
    split at h
    · cases h
    split at h
    · cases h
    rename_i path' n' hfound
    obtain ⟨hpath, rfl⟩ := Prod.mk.inj h
    split at hpath
    · obtain rfl := Option.some.inj hpath
      obtain ⟨before, file, after, hsplit, hname, hholds, hbefore⟩ := unlockFileFindLoop_first hfound
      refine ⟨before, file, after, hsplit, hname, hholds, hbefore, fun fs sclust fp hread hsect => ?_⟩
      rw [← fRead_sect hholds.size.1 (by have := hholds.size.2; omega) hread, ← hsect]
      exact hholds.sect
    · cases hpath
  · have hsearch : (unlockSearch io s.drive.phantom).1 = some path := by
      rcases tryUnlockRun_deleted dev initRest io s with hsame | ⟨path', hpath', happend⟩
      · rw [hsame] at hdeleted
        cases List.append_cancel_left ((List.append_nil s.deleted).trans hdeleted)
      · rw [hpath', (List.cons.inj (List.append_cancel_left (happend.symm.trans hdeleted))).1]
    rw [unlockSearch] at hsearch
    split at hsearch
    · rw [unlockFileFindRun_eq, ← hdirectory]
      exact hsearch
    · cases hsearch
  · rw [unlockFileFindRun_eq, unlockFileFind, unlockFileFindLoop_none hnone]
    split
    all_goals rfl

/-- A file in the root directory, read whole from sector 40. -/
def sampleEntry (name : UInt8) (contents : List UInt8) : FileEntry where
  fname := [name]
  isDir := false
  fsize := contents.length
  opens := true
  size := contents.length
  read := some contents
  sect := 40
  closes := true

/-- A directory, a file where the password is longer, one where a read fails, and the file. -/
theorem unlockFileFind_first_fourth :
    ∃ file : FileEntry, file.fname = [0x64] ∧ file.Holds 40 9 3 2 := by
  let calls : List (Option FileEntry) :=
    [some { sampleEntry 0x61 [] with isDir := true },
      some (sampleEntry 0x62 (passwordPrefix ++ [0, 0, 0x78])),
      some { sampleEntry 0x63 (passwordPrefix ++ [0, 0]) with read := none },
      some (sampleEntry 0x64 (passwordPrefix ++ [0, 0])), none]
  obtain ⟨before, file, after, -, hpath, hholds, -⟩ :=
    (unlockFileFind_first true true calls 40 9 3).1 [0x2F, 0x64] 2 (by decide)
  exact ⟨file, (List.cons.inj hpath).2.symm, hholds⟩

end Search

end PhantomDrive
