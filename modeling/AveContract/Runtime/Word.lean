/-
The machine integers of the two sides.

The host is a 64-bit program and the guest is wasm32, so a `usize` is 64 bits on
the host and 32 in the guest, and everything that crosses the boundary is a
32-bit word.  A word has no sign of its own: `i32` and `u32` are two readings of
the same bits, and the casts between them do nothing.  What does matter is how a
word becomes a host `usize` — an `i32` is sign extended, a `u32` is not.
-/
import Mathlib.Data.BitVec

namespace Ave

abbrev Bytes := List UInt8

/-- A 32-bit value at the boundary, read as `i32` or as `u32`. -/
abbrev Word := BitVec 32

/-- `usize::MAX` on the host. -/
def usizeMax : Nat := 2 ^ 64 - 1

/-- `u64::MAX`. -/
def u64Max : Nat := 2 ^ 64 - 1

/-- `u32::MAX`. -/
def u32Max : Nat := 2 ^ 32 - 1

/-- `i32::MAX`. -/
def i32Max : Nat := 2 ^ 31 - 1

/-- `usize::checked_add`. -/
def checkedAdd (a b : Nat) : Option Nat :=
  if a + b ≤ usizeMax then some (a + b) else none

/-- `usize::saturating_add`. -/
def saturatingAdd (a b : Nat) : Nat := min (a + b) usizeMax

/-- `u64::saturating_mul`. -/
def saturatingMul (a b : Nat) : Nat := min (a * b) u64Max

/-- A `usize` product in a release build, where overflow wraps.  With overflow checks on, the
same product panics exactly when it would have wrapped. -/
def wrappingMul (a b : Nat) : Nat := a * b % 2 ^ 64

/-- A `usize` product with overflow checks on: `none` where it panics. -/
def checkedMul (a b : Nat) : Option Nat := if a * b ≤ usizeMax then some (a * b) else none

/-- `usize::try_from(n).unwrap_or(usize::MAX)` for a `u64`. -/
def usizeTryFrom (n : Nat) : Nat := min n usizeMax

/-- `Ord::clamp`. -/
def clamp (x lo hi : Nat) : Nat := max lo (min x hi)

/-- `x as u32` for a host `usize`. -/
def usizeAsU32 (n : Nat) : Word := BitVec.ofNat 32 n

/-- `x as usize` for an `i32` on the host: sign extended. -/
def i32AsUsize (w : Word) : Nat := (w.signExtend 64).toNat

/-- `x as usize` for a `u32` on the host. -/
def u32AsUsize (w : Word) : Nat := w.toNat

/-- `x as isize` for a host `usize`. -/
def usizeAsIsize (n : Nat) : Int := (BitVec.ofNat 64 n).toInt

/-- `x as u32` for a host `isize`. -/
def isizeAsU32 (z : Int) : Word := BitVec.ofInt 32 z

/-! ### Small values survive every cast -/

theorem checkedAdd_of_le {a b : Nat} (h : a + b ≤ usizeMax) : checkedAdd a b = some (a + b) :=
  if_pos h

theorem checkedAdd_some {a b c : Nat} (h : checkedAdd a b = some c) : c = a + b := by
  unfold checkedAdd at h
  split at h
  · exact (Option.some.inj h).symm
  · simp at h

theorem usizeAsU32_toNat {n : Nat} (h : n ≤ u32Max) : (usizeAsU32 n).toNat = n := by
  unfold u32Max at h
  rw [usizeAsU32, BitVec.toNat_ofNat, Nat.mod_eq_of_lt (by omega)]

theorem usizeAsU32_toNat_of_i32 {n : Nat} (h : n ≤ i32Max) : (usizeAsU32 n).toNat = n :=
  usizeAsU32_toNat (Nat.le_trans h (by decide))

/-- A word whose top bit is clear is the same number whichever way it is read. -/
theorem i32AsUsize_of_lt {w : Word} (h : w.toNat ≤ i32Max) : i32AsUsize w = w.toNat := by
  unfold i32Max at h
  have hmsb : w.msb = false := by
    rw [BitVec.msb_eq_false_iff_two_mul_lt]
    omega
  rw [i32AsUsize, BitVec.signExtend_eq_setWidth_of_msb_false hmsb, BitVec.toNat_setWidth,
    Nat.mod_eq_of_lt (by omega)]

theorem i32AsUsize_usizeAsU32 {n : Nat} (h : n ≤ i32Max) : i32AsUsize (usizeAsU32 n) = n := by
  have hn : (usizeAsU32 n).toNat = n := usizeAsU32_toNat_of_i32 h
  rw [i32AsUsize_of_lt (by omega), hn]

theorem toInt_usizeAsU32 {n : Nat} (h : n ≤ i32Max) : (usizeAsU32 n).toInt = n := by
  have hn : (usizeAsU32 n).toNat = n := usizeAsU32_toNat_of_i32 h
  unfold i32Max at h
  rw [BitVec.toInt_eq_toNat_cond, if_pos (by omega), hn]

theorem usizeAsIsize_of_lt {n : Nat} (h : n < 2 ^ 63) : usizeAsIsize n = n := by
  rw [usizeAsIsize, BitVec.toInt_eq_toNat_cond, BitVec.toNat_ofNat,
    Nat.mod_eq_of_lt (by omega), if_pos (by omega)]

theorem isizeAsU32_natCast (n : Nat) : isizeAsU32 (n : Int) = usizeAsU32 n := by
  rw [isizeAsU32, usizeAsU32, BitVec.ofInt_natCast]

end Ave
