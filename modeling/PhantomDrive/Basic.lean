/-
PhantomDrive/Basic.lean

The data every module shares: 512-byte sectors, the SD card, 16-byte cipher
blocks, the byte orders of the wire formats and the response field of a USB
endpoint control register.

A sector is a function on `Fin 512`, so that it always has its 512 bytes and two
sectors are equal exactly when their bytes are.  A buffer of the firmware that is
only used sector by sector is a list of sectors; where the source scans its bytes
(`phantomdrive_snoop_write`) it is the flat byte list `chunkBytes`.
-/
import Mathlib

namespace PhantomDrive

/-! ### Sectors, blocks and the card -/

/-- One sector of `SECTOR_SIZE` = 512 bytes. -/
abbrev Sector := Fin 512 → UInt8

/-- One 16-byte cipher block in memory order. -/
abbrev Block := Fin 16 → UInt8

/-- The SD card: the contents of each sector by its physical number. -/
abbrev Card := ℕ → Sector

/-- The bytes of a buffer of sectors, in memory order. -/
def chunkBytes (chunk : List Sector) : List UInt8 :=
  chunk.flatMap List.ofFn

/-- A byte buffer read back as `n` sectors. -/
def sectorsOfBytes (n : ℕ) (bytes : List UInt8) : List Sector :=
  (List.range n).map fun k i => bytes.getD (512 * k + i) 0

/-- Store the sectors `data` on the card from sector `lba` on. -/
def Card.write (card : Card) (lba : ℕ) (data : List Sector) : Card := fun s =>
  if lba ≤ s then (data[s - lba]?).getD (card s) else card s

theorem length_chunkBytes (chunk : List Sector) :
    (chunkBytes chunk).length = 512 * chunk.length := by
  induction chunk with
  | nil => rfl
  | cons s rest ih =>
      simp only [chunkBytes, List.flatMap_cons, List.length_append, List.length_ofFn,
        List.length_cons] at ih ⊢
      omega

@[simp] theorem length_sectorsOfBytes (n : ℕ) (bytes : List UInt8) :
    (sectorsOfBytes n bytes).length = n := by
  simp [sectorsOfBytes]

/-- Writing changes no sector outside the range written. -/
theorem Card.write_outside {card : Card} {lba : ℕ} {data : List Sector} {s : ℕ}
    (h : s < lba ∨ lba + data.length ≤ s) : card.write lba data s = card s := by
  unfold Card.write
  split
  · rename_i hle
    have hlen : data.length ≤ s - lba := by omega
    rw [List.getElem?_eq_none hlen]
    rfl
  · rfl

/-- Inside the range written, the card holds what was written. -/
theorem Card.write_inside {card : Card} {lba : ℕ} {data : List Sector} {i : ℕ}
    (h : i < data.length) : card.write lba data (lba + i) = data[i] := by
  simp [Card.write, h]

/-! ### Sector numbers -/

/-- A sum of sector numbers that does not wrap. -/
theorem toNat_add_ofNat {lba : UInt32} {n : ℕ} (h : lba.toNat + n < 2 ^ 32) :
    (lba + UInt32.ofNat n).toNat = lba.toNat + n := by
  rw [UInt32.toNat_add, UInt32.toNat_ofNat', Nat.add_mod_mod, Nat.mod_eq_of_lt h]

/-! ### Byte orders -/

/-- Byte `i` of a 32-bit word, counted from the least significant. -/
def wordByte (w : UInt32) (i : ℕ) : UInt8 :=
  (w >>> (8 * i).toUInt32).toUInt8

/-- The 32-bit word of four bytes, least significant first. -/
def wordOfBytes (b0 b1 b2 b3 : UInt8) : UInt32 :=
  (b3.toUInt32 <<< 24) + (b2.toUInt32 <<< 16) + (b1.toUInt32 <<< 8) + b0.toUInt32

theorem toNat_wordByte (w : UInt32) {i : ℕ} (hi : i < 4) :
    (wordByte w i).toNat = w.toNat / 2 ^ (8 * i) % 256 := by
  have hamount : (8 * i).toUInt32.toNat % 32 = 8 * i := by
    show 8 * i % 2 ^ 32 % 32 = 8 * i
    omega
  rw [wordByte, UInt32.toNat_toUInt8, UInt32.toNat_shiftRight, hamount, Nat.shiftRight_eq_div_pow]

theorem testBit_wordByte (w : UInt32) {i k : ℕ} (hi : i < 4) (hk : k < 8) :
    (wordByte w i).toNat.testBit k = w.toNat.testBit (8 * i + k) := by
  have hmod : ∀ n : ℕ, (n % 256).testBit k = n.testBit k := by
    intro n
    rw [(by norm_num : 256 = 2 ^ 8), Nat.testBit_mod_two_pow]
    simp [hk]
  rw [toNat_wordByte w hi, hmod, Nat.testBit_div_two_pow, Nat.add_comm]

theorem toNat_wordOfBytes (b0 b1 b2 b3 : UInt8) :
    (wordOfBytes b0 b1 b2 b3).toNat
      = b0.toNat + 2 ^ 8 * b1.toNat + 2 ^ 16 * b2.toNat + 2 ^ 24 * b3.toNat := by
  have h0 := b0.toNat_lt
  have h1 := b1.toNat_lt
  have h2 := b2.toNat_lt
  have h3 := b3.toNat_lt
  have hshift : ∀ (b : UInt8) (s : UInt32), s.toNat < 32 → b.toNat * 2 ^ s.toNat < 2 ^ 32 →
      (b.toUInt32 <<< s).toNat = b.toNat * 2 ^ s.toNat := by
    intro b s hs hlt
    rw [UInt32.toNat_shiftLeft, UInt8.toNat_toUInt32, Nat.mod_eq_of_lt hs, Nat.shiftLeft_eq,
      Nat.mod_eq_of_lt hlt]
  rw [wordOfBytes, UInt32.toNat_add, UInt32.toNat_add, UInt32.toNat_add,
    hshift b3 24 (by decide) (by show _ * 2 ^ 24 < _; omega),
    hshift b2 16 (by decide) (by show _ * 2 ^ 16 < _; omega),
    hshift b1 8 (by decide) (by show _ * 2 ^ 8 < _; omega), UInt8.toNat_toUInt32]
  show (((b3.toNat * 2 ^ 24 + b2.toNat * 2 ^ 16) % 2 ^ 32 + b1.toNat * 2 ^ 8) % 2 ^ 32 + b0.toNat)
    % 2 ^ 32 = _
  omega

/-- The bytes of a word are the bytes it was made from. -/
theorem wordByte_wordOfBytes (f : ℕ → UInt8) {i : ℕ} (hi : i < 4) :
    wordByte (wordOfBytes (f 0) (f 1) (f 2) (f 3)) i = f i := by
  have h0 := (f 0).toNat_lt
  have h1 := (f 1).toNat_lt
  have h2 := (f 2).toNat_lt
  have h3 := (f 3).toNat_lt
  rw [← UInt8.toNat_inj, toNat_wordByte _ hi, toNat_wordOfBytes]
  interval_cases i
  all_goals omega

/-- A word is the word of its bytes. -/
theorem wordOfBytes_wordByte (w : UInt32) :
    wordOfBytes (wordByte w 0) (wordByte w 1) (wordByte w 2) (wordByte w 3) = w := by
  have hw := w.toNat_lt
  rw [← UInt32.toNat_inj, toNat_wordOfBytes, toNat_wordByte w (by decide),
    toNat_wordByte w (by decide), toNat_wordByte w (by decide), toNat_wordByte w (by decide)]
  omega

/-! ### USB endpoint control -/

/-- The response field of `R8_UEP1_TX_CTRL` and `R8_UEP1_RX_CTRL`. -/
inductive EpResponse
  | ack
  | nak
  | stall
deriving DecidableEq, Repr

end PhantomDrive
