/-
PhantomDrive/Lib/Blocks.lean

Lists taken in blocks of fixed length.  `absorb n f` feeds a list to a state transformer block by
block and keeps what is shorter than a block; a list may be fed in pieces, if the rest of each piece
is put before the next (`absorb_append`).
-/
import Mathlib

namespace PhantomDrive.Blocks

variable {α S : Type*}

/-- Feed the full blocks of a list to `f`; the state reached and the rest of the list. -/
def absorb (n : ℕ) (f : S → List α → S) (s : S) (m : List α) : S × List α :=
  if 0 < n ∧ n ≤ m.length then absorb n f (f s (m.take n)) (m.drop n) else (s, m)
termination_by m.length
decreasing_by simp only [List.length_drop]; omega

/-- Block `i` of a list. -/
def block (n : ℕ) (m : List α) (i : ℕ) : List α := (m.drop (n * i)).take n

variable {n : ℕ} {f : S → List α → S}

theorem absorb_short {m : List α} (s : S) (h : m.length < n) : absorb n f s m = (s, m) := by
  rw [absorb, if_neg (by omega)]

@[simp] theorem absorb_nil (s : S) : absorb n f s [] = (s, []) := by
  rw [absorb, if_neg (by rw [List.length_nil]; omega)]

theorem absorb_full {m : List α} (s : S) (hn : 0 < n) (h : n ≤ m.length) :
    absorb n f s m = absorb n f (f s (m.take n)) (m.drop n) := by
  rw [absorb, if_pos ⟨hn, h⟩]

theorem absorb_block {b : List α} (s : S) (m : List α) (hn : 0 < n) (hb : b.length = n) :
    absorb n f s (b ++ m) = absorb n f (f s b) m := by
  rw [absorb, if_pos ⟨hn, by simp [hb]⟩, List.take_left' hb, List.drop_left' hb]

/-- Induction on the full blocks of a list. -/
theorem block_induction (hn : 0 < n) {motive : List α → Prop}
    (short : ∀ m, m.length < n → motive m)
    (cons : ∀ b m, b.length = n → motive m → motive (b ++ m)) (m : List α) : motive m := by
  induction hlen : m.length using Nat.strong_induction_on generalizing m with
  | h k ih =>
    by_cases hk : m.length < n
    · exact short m hk
    · have hb : (m.take n).length = n := by simp only [List.length_take]; omega
      have hd : (m.drop n).length = m.length - n := List.length_drop ..
      have hrest := ih (m.drop n).length (by omega) _ rfl
      rw [← List.take_append_drop n m]
      exact cons _ _ hb hrest

/-- **Feeding in pieces.** -/
theorem absorb_append (hn : 0 < n) (m d : List α) (s : S) :
    absorb n f s (m ++ d) = absorb n f (absorb n f s m).1 ((absorb n f s m).2 ++ d) := by
  induction m using block_induction hn generalizing s with
  | short m hm => rw [absorb_short s hm]
  | cons b m hb ih => rw [List.append_assoc, absorb_block _ _ hn hb, absorb_block _ _ hn hb, ih]

/-- The rest is shorter than a block. -/
theorem length_absorb (hn : 0 < n) (m : List α) (s : S) :
    (absorb n f s m).2.length = m.length % n := by
  induction m using block_induction hn generalizing s with
  | short m hm => rw [absorb_short s hm, Nat.mod_eq_of_lt hm]
  | cons b m hb ih => rw [absorb_block _ _ hn hb, ih, List.length_append, hb, Nat.add_mod_left]

/-- The state reached is the fold over the blocks. -/
theorem absorb_eq_foldl (hn : 0 < n) (m : List α) (s : S) :
    (absorb n f s m).1 = (List.range (m.length / n)).foldl (fun s i => f s (block n m i)) s := by
  induction m using block_induction hn generalizing s with
  | short m hm => rw [absorb_short s hm, Nat.div_eq_of_lt hm, List.range_zero, List.foldl_nil]
  | cons b m hb ih =>
    have hcount : (b ++ m).length / n = m.length / n + 1 := by
      rw [List.length_append, hb, Nat.add_div_left _ hn]
    have hfirst : block n (b ++ m) 0 = b := by
      rw [block, Nat.mul_zero, List.drop_zero, List.take_left' hb]
    have hnext : ∀ i, block n (b ++ m) (i + 1) = block n m i := by
      intro i
      rw [block, block, Nat.mul_succ, Nat.add_comm, ← List.drop_drop, List.drop_left' hb]
    rw [absorb_block _ _ hn hb, ih, hcount, List.range_succ_eq_map, List.foldl_cons, hfirst,
      List.foldl_map]
    simp only [hnext]

end PhantomDrive.Blocks
