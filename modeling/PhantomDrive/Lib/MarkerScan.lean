/-
PhantomDrive/Lib/MarkerScan.lean

Scanning a stream for a marker word and blanking the value that follows it.

A value starts right after an occurrence of the marker and ends before the first
terminator, or with the stream.  The library gives the declarative reading of a
finite stream (`scrub`: the stream with its values blanked; `finds`: the position
and value of every occurrence outside values) and a scanner that consumes one
letter at a time (`next`, `emit`, `Tracker.step`) and can therefore be stopped and
resumed anywhere.

The scanner restarts from one matched letter or from none after a mismatch.  That
is a correct matcher because the first letter of the marker does not occur again
inside it (`first_not_mem_rest`), so no proper suffix of a partial match can begin
another one.

Main results: the scanner blanks exactly the values (`output_seek_zero`) and its
tracker holds the last occurrence with the value seen so far (`track_seek_zero`).
Resuming is `output_append` and `track_append`.
-/
import Mathlib

namespace MarkerScan

variable {α : Type*}

/-- A marker word with the letters that end a value and the letter a value is
blanked with. -/
structure Marker (α : Type*) where
  first : α
  rest : List α
  terminator : α → Bool
  blank : α
  first_not_mem_rest : first ∉ rest
  first_not_terminator : terminator first = false

/-- The letters of the marker. -/
def Marker.word (m : Marker α) : List α := m.first :: m.rest

theorem Marker.word_length_pos (m : Marker α) : 0 < m.word.length := by
  simp [Marker.word]

/-- The value a stream begins with: everything before the first terminator. -/
def Marker.valueOf (m : Marker α) (l : List α) : List α :=
  l.takeWhile fun c => !m.terminator c

/-- The stream from the first terminator on. -/
def Marker.afterValue (m : Marker α) (l : List α) : List α :=
  l.dropWhile fun c => !m.terminator c

theorem Marker.valueOf_append_afterValue (m : Marker α) (l : List α) :
    m.valueOf l ++ m.afterValue l = l :=
  List.takeWhile_append_dropWhile

theorem Marker.length_afterValue_le (m : Marker α) (l : List α) :
    (m.afterValue l).length ≤ l.length :=
  (List.dropWhile_sublist _).length_le

theorem Marker.terminator_of_mem_valueOf {m : Marker α} {l : List α} {c : α}
    (h : c ∈ m.valueOf l) : m.terminator c = false := by
  simpa using List.mem_takeWhile_imp h

theorem Marker.terminator_of_afterValue_cons {m : Marker α} {l r : List α} {t : α}
    (h : m.afterValue l = t :: r) : m.terminator t = true := by
  have hne : l.dropWhile (fun c => !m.terminator c) ≠ [] := by
    rw [show l.dropWhile _ = t :: r from h]
    simp
  have ht := List.head_dropWhile_not (fun c => !m.terminator c) hne
  have hhead : (l.dropWhile fun c => !m.terminator c).head hne = t := by
    simp only [show l.dropWhile _ = t :: r from h, List.head_cons]
  rw [hhead] at ht
  simpa using ht

/-- A letter matched after the first is not the first letter of the marker. -/
theorem Marker.ne_first_of_matched {m : Marker α} {k : ℕ} {c : α}
    (h : m.word[k + 1]? = some c) : c ≠ m.first := by
  rintro rfl
  have hmem : m.first ∈ m.rest := List.mem_of_getElem? (i := k) (by simpa [Marker.word] using h)
  exact m.first_not_mem_rest hmem

/-- What follows a marker and its value is shorter than the stream. -/
theorem Marker.length_afterValue_lt (m : Marker α) {tail l : List α} (h : m.word ++ tail = l) :
    (m.afterValue tail).length < l.length := by
  have hlen := congrArg List.length h
  have hle := m.length_afterValue_le tail
  have hpos := m.word_length_pos
  simp only [List.length_append] at hlen
  omega

variable [DecidableEq α]

/-! ### The declarative reading of a stream -/

/-- The stream with every value blanked. -/
def Marker.scrub (m : Marker α) : List α → List α
  | [] => []
  | c :: l =>
      if m.word <+: c :: l then
        let tail := (c :: l).drop m.word.length
        m.word ++ (List.replicate (m.valueOf tail).length m.blank ++ m.scrub (m.afterValue tail))
      else c :: m.scrub l
termination_by l => l.length
decreasing_by
  · have hle := m.length_afterValue_le ((c :: l).drop m.word.length)
    have hpos := m.word_length_pos
    simp only [List.length_drop, List.length_cons] at hle ⊢
    omega
  · simp

/-- Every occurrence of the marker outside values: the position right after it and
its value.  The stream starts at position `pos`. -/
def Marker.finds (m : Marker α) (pos : ℕ) : List α → List (ℕ × List α)
  | [] => []
  | c :: l =>
      if m.word <+: c :: l then
        let tail := (c :: l).drop m.word.length
        (pos + m.word.length, m.valueOf tail) ::
          m.finds (pos + m.word.length + (m.valueOf tail).length) (m.afterValue tail)
      else m.finds (pos + 1) l
termination_by l => l.length
decreasing_by
  · have hle := m.length_afterValue_le ((c :: l).drop m.word.length)
    have hpos := m.word_length_pos
    simp only [List.length_drop, List.length_cons] at hle ⊢
    omega
  · simp

theorem Marker.scrub_nil (m : Marker α) : m.scrub [] = [] := by
  rw [Marker.scrub]

theorem Marker.finds_nil (m : Marker α) (pos : ℕ) : m.finds pos [] = [] := by
  rw [Marker.finds]

theorem Marker.scrub_of_not_prefix {m : Marker α} {c : α} {l : List α}
    (h : ¬ m.word <+: c :: l) : m.scrub (c :: l) = c :: m.scrub l := by
  rw [Marker.scrub, if_neg h]

theorem Marker.finds_of_not_prefix {m : Marker α} {c : α} {l : List α} (pos : ℕ)
    (h : ¬ m.word <+: c :: l) : m.finds pos (c :: l) = m.finds (pos + 1) l := by
  rw [Marker.finds, if_neg h]

theorem Marker.scrub_word_append (m : Marker α) (tail : List α) :
    m.scrub (m.word ++ tail)
      = m.word ++ (List.replicate (m.valueOf tail).length m.blank
          ++ m.scrub (m.afterValue tail)) := by
  obtain ⟨l, hl⟩ : ∃ l, m.word ++ tail = m.first :: l := ⟨m.rest ++ tail, rfl⟩
  have hp : m.word <+: m.first :: l := hl ▸ List.prefix_append ..
  have htail : (m.first :: l).drop m.word.length = tail := by rw [← hl, List.drop_left]
  rw [hl, Marker.scrub, if_pos hp, htail]

/-- Scrubbing keeps the first letter: a marker is not blanked. -/
theorem Marker.scrub_cons (m : Marker α) (c : α) (l : List α) :
    m.scrub (c :: l) = c :: (m.scrub (c :: l)).tail := by
  by_cases hp : m.word <+: c :: l
  · obtain ⟨tail, htail⟩ := hp
    have hc : c = m.first := by
      have := congrArg List.head? htail
      simpa [Marker.word] using this.symm
    rw [← htail, Marker.scrub_word_append, hc]
    rfl
  · rw [Marker.scrub_of_not_prefix hp, List.tail_cons]

theorem Marker.finds_word_append (m : Marker α) (pos : ℕ) (tail : List α) :
    m.finds pos (m.word ++ tail)
      = (pos + m.word.length, m.valueOf tail) ::
          m.finds (pos + m.word.length + (m.valueOf tail).length) (m.afterValue tail) := by
  obtain ⟨l, hl⟩ : ∃ l, m.word ++ tail = m.first :: l := ⟨m.rest ++ tail, rfl⟩
  have hp : m.word <+: m.first :: l := hl ▸ List.prefix_append ..
  have htail : (m.first :: l).drop m.word.length = tail := by rw [← hl, List.drop_left]
  rw [hl, Marker.finds, if_pos hp, htail]

/-- Only the positions of the finds depend on where the stream starts. -/
theorem Marker.finds_add (m : Marker α) (pos d : ℕ) (l : List α) :
    m.finds (pos + d) l = (m.finds pos l).map fun f => (f.1 + d, f.2) := by
  induction hn : l.length using Nat.strong_induction_on generalizing pos l with
  | _ n ih =>
    rcases l with - | ⟨c, l⟩
    · simp [Marker.finds_nil]
    by_cases hp : m.word <+: c :: l
    · obtain ⟨tail, htail⟩ := hp
      have hshort : (m.afterValue tail).length < n := hn ▸ m.length_afterValue_lt htail
      have hshift : ∀ k : ℕ, pos + d + m.word.length + k = pos + m.word.length + k + d := by
        intro k
        omega
      rw [← htail, Marker.finds_word_append, Marker.finds_word_append, hshift,
        ih _ hshort _ _ rfl, List.map_cons]
      simp only [List.cons.injEq, Prod.mk.injEq, and_true]
      exact hshift 0
    · rw [Marker.finds_of_not_prefix _ hp, Marker.finds_of_not_prefix _ hp, Nat.add_right_comm]
      exact ih l.length (by simp at hn; omega) _ _ rfl

/-! ### The scanner -/

/-- Between two letters the scanner has matched some letters of the marker, or is
inside a value. -/
inductive Mode
  | seek (matched : ℕ)
  | value
deriving DecidableEq, Repr

/-- The mode after one more letter. -/
def Marker.next (m : Marker α) : Mode → α → Mode
  | .seek k, c =>
      if m.word[k]? = some c then
        if k + 1 = m.word.length then .value else .seek (k + 1)
      else if c = m.first then .seek 1 else .seek 0
  | .value, c => if m.terminator c then .seek 0 else .value

/-- The letter put out for a letter read. -/
def Marker.emit (m : Marker α) : Mode → α → α
  | .seek _, c => c
  | .value, c => if m.terminator c then c else m.blank

/-- The mode after a stretch of the stream. -/
def Marker.modeAfter (m : Marker α) (mode : Mode) (l : List α) : Mode :=
  l.foldl m.next mode

/-- What is put out for a stretch of the stream. -/
def Marker.output (m : Marker α) : Mode → List α → List α
  | _, [] => []
  | mode, c :: l => m.emit mode c :: m.output (m.next mode c) l

@[simp] theorem Marker.output_nil (m : Marker α) (mode : Mode) : m.output mode [] = [] := rfl

theorem Marker.output_cons (m : Marker α) (mode : Mode) (c : α) (l : List α) :
    m.output mode (c :: l) = m.emit mode c :: m.output (m.next mode c) l := rfl

@[simp] theorem Marker.modeAfter_nil (m : Marker α) (mode : Mode) :
    m.modeAfter mode [] = mode := rfl

theorem Marker.modeAfter_cons (m : Marker α) (mode : Mode) (c : α) (l : List α) :
    m.modeAfter mode (c :: l) = m.modeAfter (m.next mode c) l := rfl

theorem Marker.output_append (m : Marker α) (mode : Mode) (l l' : List α) :
    m.output mode (l ++ l') = m.output mode l ++ m.output (m.modeAfter mode l) l' := by
  induction l generalizing mode with
  | nil => rfl
  | cons c l ih => simp [Marker.output_cons, Marker.modeAfter_cons, ih]

@[simp] theorem Marker.length_output (m : Marker α) (mode : Mode) (l : List α) :
    (m.output mode l).length = l.length := by
  induction l generalizing mode with
  | nil => rfl
  | cons c l ih => simp [Marker.output_cons, ih]

/-- Every letter is put out as it is or blanked. -/
theorem Marker.output_forall₂ (m : Marker α) (mode : Mode) (l : List α) :
    List.Forall₂ (fun c d => d = c ∨ d = m.blank) l (m.output mode l) := by
  induction l generalizing mode with
  | nil => exact .nil
  | cons c l ih =>
    refine .cons ?_ (ih _)
    unfold Marker.emit
    split
    · exact Or.inl rfl
    · split
      · exact Or.inl rfl
      · exact Or.inr rfl

/-! #### One letter of a match -/

theorem Marker.next_seek_match {m : Marker α} {k : ℕ} {c : α} (h : m.word[k]? = some c)
    (hk : k + 1 < m.word.length) : m.next (.seek k) c = .seek (k + 1) := by
  simp [Marker.next, h, hk.ne]

theorem Marker.next_seek_last {m : Marker α} {k : ℕ} {c : α} (h : m.word[k]? = some c)
    (hk : k + 1 = m.word.length) : m.next (.seek k) c = .value := by
  simp [Marker.next, h, hk]

theorem Marker.next_seek_mismatch {m : Marker α} {k : ℕ} {c : α} (h : m.word[k]? ≠ some c) :
    m.next (.seek k) c = if c = m.first then .seek 1 else .seek 0 := by
  simp [Marker.next, h]

/-- A terminator restarts nothing: it leaves the scanner with nothing matched. -/
theorem Marker.next_seek_zero_terminator {m : Marker α} {c : α} (h : m.terminator c = true) :
    m.next (.seek 0) c = .seek 0 := by
  have hne : c ≠ m.first := by
    rintro rfl
    simp [m.first_not_terminator] at h
  have hmis : m.word[0]? ≠ some c := by
    simpa [Marker.word] using Ne.symm hne
  rw [Marker.next_seek_mismatch hmis, if_neg hne]

/-! #### A whole marker, a whole value -/

/-- The rest of the marker takes the scanner into the value. -/
theorem Marker.modeAfter_drop_word (m : Marker α) {k : ℕ} (hk : k < m.word.length) :
    m.modeAfter (.seek k) (m.word.drop k) = .value := by
  induction hn : m.word.length - k generalizing k with
  | zero => omega
  | succ n ih =>
      have hget : m.word[k]? = some m.word[k] := List.getElem?_eq_getElem hk
      rw [List.drop_eq_getElem_cons hk, Marker.modeAfter_cons]
      by_cases hlast : k + 1 = m.word.length
      · rw [Marker.next_seek_last hget hlast, hlast, List.drop_length, Marker.modeAfter_nil]
      · rw [Marker.next_seek_match hget (by omega)]
        exact ih (by omega) (by omega)

/-- Outside values the output is the input. -/
theorem Marker.output_drop_word (m : Marker α) {k : ℕ} (hk : k < m.word.length) :
    m.output (.seek k) (m.word.drop k) = m.word.drop k := by
  induction hn : m.word.length - k generalizing k with
  | zero => omega
  | succ n ih =>
      have hget : m.word[k]? = some m.word[k] := List.getElem?_eq_getElem hk
      rw [List.drop_eq_getElem_cons hk, Marker.output_cons]
      by_cases hlast : k + 1 = m.word.length
      · rw [Marker.next_seek_last hget hlast, hlast, List.drop_length]
        rfl
      · rw [Marker.next_seek_match hget (by omega), ih (by omega) (by omega)]
        rfl

theorem Marker.modeAfter_value_of_forall {m : Marker α} {l : List α}
    (h : ∀ c ∈ l, m.terminator c = false) : m.modeAfter .value l = .value := by
  induction l with
  | nil => rfl
  | cons c l ih =>
      have hc : m.next .value c = .value := by simp [Marker.next, h c (by simp)]
      rw [Marker.modeAfter_cons, hc]
      exact ih fun d hd => h d (by simp [hd])

theorem Marker.output_value_of_forall {m : Marker α} {l : List α}
    (h : ∀ c ∈ l, m.terminator c = false) :
    m.output .value l = List.replicate l.length m.blank := by
  induction l with
  | nil => rfl
  | cons c l ih =>
      have hc : m.terminator c = false := h c (by simp)
      have hnext : m.next .value c = .value := by simp [Marker.next, hc]
      rw [Marker.output_cons, hnext, ih fun d hd => h d (by simp [hd])]
      simp [Marker.emit, hc, List.replicate_succ]

/-- After the value the scanner goes on as if it had just started. -/
theorem Marker.output_value (m : Marker α) (l : List α) :
    m.output .value l
      = List.replicate (m.valueOf l).length m.blank ++ m.output (.seek 0) (m.afterValue l) := by
  have hval : ∀ c ∈ m.valueOf l, m.terminator c = false :=
    fun c hc => Marker.terminator_of_mem_valueOf hc
  conv_lhs => rw [← m.valueOf_append_afterValue l]
  rw [Marker.output_append, Marker.output_value_of_forall hval,
    Marker.modeAfter_value_of_forall hval]
  congr 1
  rcases hrest : m.afterValue l with - | ⟨t, r⟩
  · rfl
  · have ht := Marker.terminator_of_afterValue_cons hrest
    have hnext : m.next .value t = .seek 0 := by simp [Marker.next, ht]
    rw [Marker.output_cons, Marker.output_cons, hnext, Marker.next_seek_zero_terminator ht]
    simp [Marker.emit, ht]

/-- A value that is terminated inside the stretch is put out as blanks, and the scanner goes
on behind its terminator. -/
theorem Marker.output_value_of_terminated {m : Marker α} {l r : List α} {t : α}
    (h : m.afterValue l = t :: r) :
    m.output .value l
      = List.replicate (m.valueOf l).length m.blank ++ t :: m.output (.seek 0) r := by
  have ht := Marker.terminator_of_afterValue_cons h
  rw [Marker.output_value, h, Marker.output_cons, Marker.next_seek_zero_terminator ht]
  rfl

/-! #### A partial match that fails -/

omit [DecidableEq α] in
/-- One matched letter of a partial match that the stream does not complete. -/
theorem Marker.partial_match_cons {m : Marker α} {k : ℕ} {c : α} {l : List α}
    (hk : k + 1 < m.word.length) (h : ¬ m.word.drop (k + 1) <+: c :: l)
    (hc : m.word[k + 1]? = some c) :
    k + 2 < m.word.length ∧ ¬ m.word.drop (k + 2) <+: l ∧ c ≠ m.first := by
  have hword : m.word.drop (k + 1) = c :: m.word.drop (k + 2) := by
    rw [List.drop_eq_getElem_cons hk]
    rw [List.getElem?_eq_getElem hk] at hc
    rw [Option.some.inj hc]
  have hl : ¬ m.word.drop (k + 2) <+: l := fun hp =>
    h (hword ▸ List.cons_prefix_cons.mpr ⟨rfl, hp⟩)
  refine ⟨?_, hl, Marker.ne_first_of_matched hc⟩
  by_contra hge
  exact hl (by rw [List.drop_eq_nil_of_le (by omega)]; exact List.nil_prefix)

omit [DecidableEq α] in
/-- Where the marker does not begin, its first letter begins a partial match that the
stream does not complete. -/
theorem Marker.not_completed_of_not_prefix {m : Marker α} {l : List α}
    (h : ¬ m.word <+: m.first :: l) : 1 < m.word.length ∧ ¬ m.word.drop 1 <+: l := by
  have hl : ¬ m.word.drop 1 <+: l := fun hp =>
    h (List.cons_prefix_cons.mpr ⟨rfl, by simpa [Marker.word] using hp⟩)
  refine ⟨?_, hl⟩
  by_contra hge
  exact hl (by rw [List.drop_eq_nil_of_le (by omega)]; exact List.nil_prefix)

/-- A partial match that the stream does not complete might as well not have been
made: the scanner goes on as from the start. -/
theorem Marker.output_of_not_completed {m : Marker α} {k : ℕ} {l : List α}
    (hk : k < m.word.length) (h : ¬ m.word.drop k <+: l) :
    m.output (.seek k) l = m.output (.seek 0) l := by
  induction l generalizing k with
  | nil => rfl
  | cons c l ih =>
      rcases k with - | k
      · rfl
      by_cases hc : m.word[k + 1]? = some c
      · -- the letter matches, so the rest of the stream does not complete the marker
        obtain ⟨hlt, hl, hne⟩ := Marker.partial_match_cons hk h hc
        have h0 : m.word[0]? ≠ some c := by simpa [Marker.word] using Ne.symm hne
        rw [Marker.output_cons, Marker.output_cons, Marker.next_seek_match hc hlt,
          Marker.next_seek_mismatch h0, if_neg hne, ih hlt hl]
        rfl
      · by_cases hfirst : c = m.first
        · subst hfirst
          have hlen : 1 < m.word.length := by omega
          have h0 : m.word[0]? = some m.first := rfl
          rw [Marker.output_cons, Marker.output_cons, Marker.next_seek_mismatch hc, if_pos rfl,
            Marker.next_seek_match h0 hlen]
          rfl
        · have h0 : m.word[0]? ≠ some c := by simpa [Marker.word] using Ne.symm hfirst
          rw [Marker.output_cons, Marker.output_cons, Marker.next_seek_mismatch hc,
            Marker.next_seek_mismatch h0]
          rfl

/-! ### The scanner blanks exactly the values -/

/-- Reading a whole stream from the start, the scanner puts out the stream with its
values blanked. -/
theorem Marker.output_seek_zero (m : Marker α) (l : List α) :
    m.output (.seek 0) l = m.scrub l := by
  induction hn : l.length using Nat.strong_induction_on generalizing l with
  | _ n ih =>
    rcases l with - | ⟨c, l⟩
    · rw [Marker.scrub_nil, Marker.output_nil]
    by_cases hp : m.word <+: c :: l
    · obtain ⟨tail, htail⟩ := hp
      have hshort : (m.afterValue tail).length < n := hn ▸ m.length_afterValue_lt htail
      have hword := m.output_drop_word m.word_length_pos
      have hmode := m.modeAfter_drop_word m.word_length_pos
      rw [List.drop_zero] at hword hmode
      rw [← htail, Marker.output_append, hword, hmode, Marker.output_value,
        Marker.scrub_word_append, ih _ hshort _ rfl]
    · rw [Marker.scrub_of_not_prefix hp]
      have hrest : m.output (.seek 0) l = m.scrub l := ih _ (by simp at hn; omega) _ rfl
      rw [Marker.output_cons, ← hrest]
      by_cases hc : c = m.first
      · subst hc
        obtain ⟨hlen, hl⟩ := Marker.not_completed_of_not_prefix hp
        rw [Marker.next_seek_match (k := 0) rfl hlen, Marker.output_of_not_completed hlen hl]
        rfl
      · have h0 : m.word[0]? ≠ some c := by simpa [Marker.word] using Ne.symm hc
        rw [Marker.next_seek_mismatch h0, if_neg hc]
        rfl

/-! ### The tracker -/

/-- A scanner that also keeps its position and what it has found, the newest first:
the position right after each completed marker and the value read so far. -/
structure Tracker (α : Type*) where
  mode : Mode
  pos : ℕ
  found : List (ℕ × List α)

/-- Append a letter to the value of the newest find. -/
def extendNewest (found : List (ℕ × List α)) (v : List α) : List (ℕ × List α) :=
  found.modifyHead fun f => (f.1, f.2 ++ v)

omit [DecidableEq α] in
theorem extendNewest_nil (found : List (ℕ × List α)) : extendNewest found [] = found := by
  cases found <;> simp [extendNewest]

omit [DecidableEq α] in
theorem extendNewest_append (found : List (ℕ × List α)) (v w : List α) :
    extendNewest (extendNewest found v) w = extendNewest found (v ++ w) := by
  cases found <;> simp [extendNewest]

omit [DecidableEq α] in
@[simp] theorem length_extendNewest (found : List (ℕ × List α)) (v : List α) :
    (extendNewest found v).length = found.length := by
  simp [extendNewest]

/-- One more letter. -/
def Marker.step (m : Marker α) (t : Tracker α) (c : α) : Tracker α where
  mode := m.next t.mode c
  pos := t.pos + 1
  found :=
    match t.mode with
    | .seek _ => if m.next t.mode c = .value then (t.pos + 1, []) :: t.found else t.found
    | .value => if m.terminator c then t.found else extendNewest t.found [c]

/-- A stretch of the stream. -/
def Marker.track (m : Marker α) (t : Tracker α) (l : List α) : Tracker α :=
  l.foldl m.step t

@[simp] theorem Marker.track_nil (m : Marker α) (t : Tracker α) : m.track t [] = t := rfl

theorem Marker.track_cons (m : Marker α) (t : Tracker α) (c : α) (l : List α) :
    m.track t (c :: l) = m.track (m.step t c) l := rfl

theorem Marker.track_append (m : Marker α) (t : Tracker α) (l l' : List α) :
    m.track t (l ++ l') = m.track (m.track t l) l' :=
  List.foldl_append

@[simp] theorem Marker.track_mode (m : Marker α) (t : Tracker α) (l : List α) :
    (m.track t l).mode = m.modeAfter t.mode l := by
  induction l generalizing t with
  | nil => rfl
  | cons c l ih => rw [Marker.track_cons, ih, Marker.modeAfter_cons]; rfl

@[simp] theorem Marker.track_pos (m : Marker α) (t : Tracker α) (l : List α) :
    (m.track t l).pos = t.pos + l.length := by
  induction l generalizing t with
  | nil => rfl
  | cons c l ih =>
      rw [Marker.track_cons, ih, List.length_cons]
      show t.pos + 1 + l.length = _
      omega

/-- A letter that completes no marker leaves the finds alone. -/
theorem Marker.step_seek {m : Marker α} {t : Tracker α} {k : ℕ} {c : α}
    (hmode : t.mode = .seek k) (h : m.next (.seek k) c ≠ .value) :
    m.step t c = ⟨m.next (.seek k) c, t.pos + 1, t.found⟩ := by
  simp [Marker.step, hmode, h]

theorem Marker.step_value_letter {m : Marker α} {t : Tracker α} {c : α}
    (hmode : t.mode = .value) (h : m.terminator c = false) :
    m.step t c = ⟨.value, t.pos + 1, extendNewest t.found [c]⟩ := by
  simp [Marker.step, Marker.next, hmode, h]

theorem Marker.step_value_terminator {m : Marker α} {t : Tracker α} {c : α}
    (hmode : t.mode = .value) (h : m.terminator c = true) :
    m.step t c = ⟨.seek 0, t.pos + 1, t.found⟩ := by
  simp [Marker.step, Marker.next, hmode, h]

/-- The rest of the marker completes it. -/
theorem Marker.track_drop_word (m : Marker α) {k : ℕ} (hk : k < m.word.length) (pos : ℕ)
    (found : List (ℕ × List α)) :
    m.track ⟨.seek k, pos, found⟩ (m.word.drop k)
      = ⟨.value, pos + (m.word.length - k), (pos + (m.word.length - k), []) :: found⟩ := by
  induction hn : m.word.length - k generalizing k pos with
  | zero => omega
  | succ n ih =>
      have hget : m.word[k]? = some m.word[k] := List.getElem?_eq_getElem hk
      rw [List.drop_eq_getElem_cons hk, Marker.track_cons]
      by_cases hlast : k + 1 = m.word.length
      · have hn0 : n = 0 := by omega
        rw [hlast, List.drop_length, Marker.track_nil, hn0]
        simp [Marker.step, Marker.next_seek_last hget hlast]
      · have hnext := Marker.next_seek_match hget (by omega)
        rw [Marker.step_seek rfl (by rw [hnext]; exact Mode.noConfusion), hnext,
          ih (by omega) (pos + 1) (by omega)]
        simp only [Tracker.mk.injEq, true_and, List.cons.injEq, Prod.mk.injEq, and_true]
        omega

/-- A value is collected letter by letter. -/
theorem Marker.track_value_of_forall {m : Marker α} {l : List α} (pos : ℕ)
    (found : List (ℕ × List α)) (h : ∀ c ∈ l, m.terminator c = false) :
    m.track ⟨.value, pos, found⟩ l = ⟨.value, pos + l.length, extendNewest found l⟩ := by
  induction l generalizing pos found with
  | nil => rw [extendNewest_nil]; rfl
  | cons c l ih =>
      rw [Marker.track_cons, Marker.step_value_letter rfl (h c (by simp)),
        ih (pos + 1) _ fun d hd => h d (by simp [hd]), extendNewest_append, List.length_cons]
      simp only [Tracker.mk.injEq, true_and, List.singleton_append, and_true]
      omega

/-- After the value the tracker goes on as if it had just started. -/
theorem Marker.track_value (m : Marker α) (pos : ℕ) (found : List (ℕ × List α)) (l : List α) :
    (m.track ⟨.value, pos, found⟩ l).found
      = (m.track ⟨.seek 0, pos + (m.valueOf l).length, extendNewest found (m.valueOf l)⟩
          (m.afterValue l)).found := by
  have hval : ∀ c ∈ m.valueOf l, m.terminator c = false :=
    fun c hc => Marker.terminator_of_mem_valueOf hc
  conv_lhs => rw [← m.valueOf_append_afterValue l]
  rw [Marker.track_append, Marker.track_value_of_forall pos found hval]
  rcases hrest : m.afterValue l with - | ⟨t, r⟩
  · rfl
  · have ht := Marker.terminator_of_afterValue_cons hrest
    have hnext := Marker.next_seek_zero_terminator ht
    rw [Marker.track_cons, Marker.track_cons, Marker.step_value_terminator rfl ht,
      Marker.step_seek rfl (by rw [hnext]; exact Mode.noConfusion), hnext]

/-- A value that reaches the end of the stretch stays open. -/
theorem Marker.track_value_of_open {m : Marker α} (pos : ℕ) (found : List (ℕ × List α))
    {l : List α} (h : m.afterValue l = []) :
    m.track ⟨.value, pos, found⟩ l
      = ⟨.value, pos + (m.valueOf l).length, extendNewest found (m.valueOf l)⟩ := by
  have hl : m.valueOf l = l := by simpa [h] using m.valueOf_append_afterValue l
  have hval : ∀ c ∈ l, m.terminator c = false := by
    intro c hc
    rw [← hl] at hc
    exact Marker.terminator_of_mem_valueOf hc
  rw [Marker.track_value_of_forall pos found hval, hl]

/-- A value that is terminated inside the stretch: the tracker goes on behind its
terminator. -/
theorem Marker.track_value_of_terminated {m : Marker α} (pos : ℕ) (found : List (ℕ × List α))
    {l r : List α} {t : α} (h : m.afterValue l = t :: r) :
    m.track ⟨.value, pos, found⟩ l
      = m.track ⟨.seek 0, pos + (m.valueOf l).length + 1, extendNewest found (m.valueOf l)⟩ r := by
  have hval : ∀ c ∈ m.valueOf l, m.terminator c = false :=
    fun c hc => Marker.terminator_of_mem_valueOf hc
  have ht := Marker.terminator_of_afterValue_cons h
  conv_lhs => rw [← m.valueOf_append_afterValue l]
  rw [Marker.track_append, Marker.track_value_of_forall pos found hval, h, Marker.track_cons,
    Marker.step_value_terminator rfl ht]

/-- A partial match that the stream does not complete finds nothing more than a start
without it. -/
theorem Marker.track_of_not_completed {m : Marker α} {k : ℕ} {l : List α} (pos : ℕ)
    (found : List (ℕ × List α)) (hk : k < m.word.length) (h : ¬ m.word.drop k <+: l) :
    (m.track ⟨.seek k, pos, found⟩ l).found = (m.track ⟨.seek 0, pos, found⟩ l).found := by
  induction l generalizing k pos with
  | nil => rfl
  | cons c l ih =>
      rcases k with - | k
      · rfl
      by_cases hc : m.word[k + 1]? = some c
      · obtain ⟨hlt, hl, hne⟩ := Marker.partial_match_cons hk h hc
        have h0 : m.next (.seek 0) c = .seek 0 := by
          rw [Marker.next_seek_mismatch (by simpa [Marker.word] using Ne.symm hne), if_neg hne]
        have hnext := Marker.next_seek_match hc hlt
        rw [Marker.track_cons, Marker.track_cons,
          Marker.step_seek rfl (by rw [hnext]; exact Mode.noConfusion),
          Marker.step_seek rfl (by rw [h0]; exact Mode.noConfusion), hnext, h0]
        exact ih (pos + 1) hlt hl
      · have hnext : m.next (.seek (k + 1)) c = m.next (.seek 0) c := by
          by_cases hfirst : c = m.first
          · subst hfirst
            rw [Marker.next_seek_mismatch hc, if_pos rfl,
              Marker.next_seek_match (k := 0) rfl (by omega)]
          · rw [Marker.next_seek_mismatch hc,
              Marker.next_seek_mismatch (by simpa [Marker.word] using Ne.symm hfirst)]
        have hval : m.next (.seek (k + 1)) c ≠ .value := by
          rw [Marker.next_seek_mismatch hc]
          split <;> exact Mode.noConfusion
        rw [Marker.track_cons, Marker.track_cons, Marker.step_seek rfl hval,
          Marker.step_seek rfl (hnext ▸ hval), hnext]

/-- Reading a whole stream from the start, the tracker collects every occurrence of the
marker outside values, with its value. -/
theorem Marker.track_seek_zero (m : Marker α) (pos : ℕ) (found : List (ℕ × List α))
    (l : List α) :
    (m.track ⟨.seek 0, pos, found⟩ l).found = (m.finds pos l).reverse ++ found := by
  induction hn : l.length using Nat.strong_induction_on generalizing pos found l with
  | _ n ih =>
    rcases l with - | ⟨c, l⟩
    · simp [Marker.finds_nil]
    by_cases hp : m.word <+: c :: l
    · obtain ⟨tail, htail⟩ := hp
      have hshort : (m.afterValue tail).length < n := hn ▸ m.length_afterValue_lt htail
      have hword := m.track_drop_word m.word_length_pos pos found
      rw [List.drop_zero, Nat.sub_zero] at hword
      rw [← htail, Marker.track_append, hword, Marker.track_value, Marker.finds_word_append,
        ih _ hshort _ _ _ rfl]
      simp [extendNewest]
    · rw [Marker.finds_of_not_prefix pos hp, ← ih l.length (by simp at hn; omega) _ _ _ rfl]
      rw [Marker.track_cons]
      by_cases hc : c = m.first
      · subst hc
        obtain ⟨hlen, hl⟩ := Marker.not_completed_of_not_prefix hp
        have hnext := Marker.next_seek_match (m := m) (k := 0) rfl hlen
        rw [Marker.step_seek rfl (by rw [hnext]; exact Mode.noConfusion), hnext]
        exact Marker.track_of_not_completed (pos + 1) found hlen hl
      · have h0 : m.next (.seek 0) c = .seek 0 := by
          rw [Marker.next_seek_mismatch (by simpa [Marker.word] using Ne.symm hc), if_neg hc]
        rw [Marker.step_seek rfl (by rw [h0]; exact Mode.noConfusion), h0]

/-! ### What is known of the finds -/

theorem Marker.length_found_le_track (m : Marker α) (t : Tracker α) (l : List α) :
    t.found.length ≤ (m.track t l).found.length := by
  induction l generalizing t with
  | nil => rfl
  | cons c l ih =>
      refine le_trans ?_ (ih (m.step t c))
      rcases hmode : t.mode with k | -
      · simp only [Marker.step, hmode]
        split <;> simp
      · simp only [Marker.step, hmode]
        split <;> simp

/-- While no marker is completed, a scanner outside values finds nothing. -/
theorem Marker.track_found_of_seek {m : Marker α} {t : Tracker α} {l : List α} {k : ℕ}
    (hmode : t.mode = .seek k) (h : (m.track t l).found.length = t.found.length) :
    (m.track t l).found = t.found := by
  induction l generalizing t k with
  | nil => rfl
  | cons c l ih =>
      rw [Marker.track_cons] at h ⊢
      have hle := m.length_found_le_track (m.step t c) l
      have hnext : m.next (.seek k) c ≠ .value := by
        intro hv
        simp only [Marker.step, hmode, hv, if_true, List.length_cons] at hle h
        omega
      obtain ⟨k', hk'⟩ : ∃ k', m.next (.seek k) c = .seek k' := by
        rcases hn : m.next (.seek k) c with k' | -
        · exact ⟨k', rfl⟩
        · exact absurd hn hnext
      rw [Marker.step_seek hmode hnext] at h ⊢
      exact ih hk' h

/-- While no marker is completed, only the value that is open grows, up to its
terminator. -/
theorem Marker.track_found_of_length_eq {m : Marker α} {t : Tracker α} {l : List α}
    (h : (m.track t l).found.length = t.found.length) :
    (m.track t l).found
      = match t.mode with
        | .seek _ => t.found
        | .value => extendNewest t.found (m.valueOf l) := by
  obtain ⟨mode, pos, found⟩ := t
  rcases mode with k | -
  · exact Marker.track_found_of_seek rfl h
  · rw [Marker.track_value] at h ⊢
    exact Marker.track_found_of_seek rfl (by rw [h, length_extendNewest])

/-- The value that is open ends where the tracker stands. -/
def Tracker.OpenAtEnd (t : Tracker α) : Prop :=
  t.mode = .value → ∃ o v older, t.found = (o, v) :: older ∧ o + v.length = t.pos

theorem Marker.openAtEnd_step {m : Marker α} {t : Tracker α} (c : α) (h : t.OpenAtEnd) :
    (m.step t c).OpenAtEnd := by
  rcases hmode : t.mode with k | -
  · by_cases hnext : m.next (.seek k) c = .value
    · intro _
      exact ⟨t.pos + 1, [], t.found, by simp [Marker.step, hmode, hnext], rfl⟩
    · rw [Marker.step_seek hmode hnext]
      exact fun hv => absurd hv hnext
  · obtain ⟨o, v, older, hfound, hend⟩ := h hmode
    by_cases hc : m.terminator c = true
    · rw [Marker.step_value_terminator hmode hc]
      exact fun hv => Mode.noConfusion hv
    · rw [Marker.step_value_letter hmode (by simpa using hc)]
      intro _
      refine ⟨o, v ++ [c], older, by simp [extendNewest, hfound], ?_⟩
      simp only [List.length_append, List.length_singleton]
      omega

theorem Marker.openAtEnd_track {m : Marker α} {t : Tracker α} (l : List α) (h : t.OpenAtEnd) :
    (m.track t l).OpenAtEnd := by
  induction l generalizing t with
  | nil => exact h
  | cons c l ih => exact ih (Marker.openAtEnd_step c h)

/-- Around a find the stream reads marker, value, terminator or end; the scrubbed stream
reads marker, blanks, terminator or end, at the same positions. -/
theorem Marker.split_of_mem_finds {m : Marker α} {pos : ℕ} {l : List α} {o : ℕ} {v : List α}
    (h : (o, v) ∈ m.finds pos l) :
    ∃ a b, o = pos + a.length + m.word.length
      ∧ m.scrub l = a ++ (m.word ++ (List.replicate v.length m.blank ++ b))
      ∧ ∀ t r, b = t :: r → m.terminator t = true := by
  induction hn : l.length using Nat.strong_induction_on generalizing pos l with
  | _ n ih =>
    rcases l with - | ⟨c, l⟩
    · simp [Marker.finds_nil] at h
    by_cases hp : m.word <+: c :: l
    · obtain ⟨tail, htail⟩ := hp
      have hshort : (m.afterValue tail).length < n := hn ▸ m.length_afterValue_lt htail
      rw [← htail, Marker.finds_word_append, List.mem_cons] at h
      rw [← htail, Marker.scrub_word_append]
      rcases h with hhead | hrest
      · obtain ⟨rfl, rfl⟩ := Prod.mk.inj hhead
        refine ⟨[], m.scrub (m.afterValue tail), by simp, rfl, ?_⟩
        intro t r hb
        rcases hafter : m.afterValue tail with - | ⟨d, l'⟩
        · simp [hafter, Marker.scrub_nil] at hb
        · rw [hafter, Marker.scrub_cons] at hb
          rw [← (List.cons.inj hb).1]
          exact Marker.terminator_of_afterValue_cons hafter
      · obtain ⟨a, b, ho, hs, hb⟩ := ih _ hshort hrest rfl
        refine ⟨m.word ++ (List.replicate (m.valueOf tail).length m.blank ++ a), b, ?_, ?_, hb⟩
        · simp only [List.length_append, List.length_replicate]
          omega
        · simp only [hs, List.append_assoc]
    · rw [Marker.finds_of_not_prefix pos hp] at h
      obtain ⟨a, b, ho, hs, hb⟩ := ih l.length (by simp at hn; omega) h rfl
      refine ⟨c :: a, b, ?_, ?_, hb⟩
      · simp only [List.length_cons]
        omega
      · rw [Marker.scrub_of_not_prefix hp, hs, List.cons_append]

end MarkerScan
