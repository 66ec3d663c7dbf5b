/-
PhantomDrive/Lib/Pbkdf2.lean

HMAC as RFC 2104 and PBKDF2 as RFC 8018 define them, over any hash function of bytes.
-/
import Mathlib

namespace PhantomDrive

/-- Bytewise exclusive or. -/
def xorBytes (a b : List UInt8) : List UInt8 := List.zipWith (· ^^^ ·) a b

namespace Rfc2104

variable (hash : List UInt8 → List UInt8) (B : ℕ)

/-- The key as a block of `B` bytes: a longer key is hashed, and zeros are appended. -/
def keyBlock (key : List UInt8) : List UInt8 :=
  let key := if B < key.length then hash key else key
  key ++ List.replicate (B - key.length) 0

/-- HMAC with a hash function that works on blocks of `B` bytes. -/
def hmac (key text : List UInt8) : List UInt8 :=
  let block := keyBlock hash B key
  hash (xorBytes block (List.replicate B 0x5c)
    ++ hash (xorBytes block (List.replicate B 0x36) ++ text))

end Rfc2104

namespace Rfc8018

variable (prf : List UInt8 → List UInt8 → List UInt8)

/-- A block number as four bytes, most significant first. -/
def int (i : ℕ) : List UInt8 := (List.range 4).map fun k => UInt8.ofNat (i / 2 ^ (8 * (3 - k)))

/-- `U_(j+1)`. -/
def u (P S : List UInt8) (i : ℕ) : ℕ → List UInt8
  | 0 => prf P (S ++ int i)
  | j + 1 => prf P (u P S i j)

/-- `F`: the exclusive or of `U_1` to `U_c`. -/
def f (P S : List UInt8) (c i : ℕ) : List UInt8 :=
  ((List.range (c - 1)).map fun j => u prf P S i (j + 1)).foldl xorBytes (u prf P S i 0)

/-- PBKDF2 with a function of `hLen` bytes: the first `dkLen` bytes of `F` for the block numbers
from 1 on. -/
def pbkdf2 (hLen : ℕ) (P S : List UInt8) (c dkLen : ℕ) : List UInt8 :=
  ((List.range ((dkLen + hLen - 1) / hLen)).flatMap fun i => f prf P S c (i + 1)).take dkLen

end Rfc8018

end PhantomDrive
