import Mathlib
import SegmentContainer.Bytes

/-!
# Bytes back to numbers

A number is read back from its bytes up to what did not fit them, and bytes are written
back from their number.
-/

set_option autoImplicit false

namespace SegmentContainer.Bytes

theorem toNat_lt (bytes : Bytes) : toNat bytes < 256 ^ bytes.length := by
  induction bytes with
  | nil => simp [toNat]
  | cons byte rest ih =>
    have small : byte.toNat < 256 := byte.toNat_lt
    simp only [toNat, List.length_cons, Nat.pow_succ]
    omega

theorem toNat_ofNat (width n : Nat) : toNat (ofNat width n) = n % 256 ^ width := by
  induction width generalizing n with
  | zero => simp [toNat, ofNat, Nat.mod_one]
  | succ width ih =>
    have low : (UInt8.ofNat (n % 256)).toNat = n % 256 := by
      simp
    rw [ofNat, toNat, ih, low, Nat.pow_succ, Nat.mul_comm (256 ^ width) 256, Nat.mod_mul]

theorem ofNat_toNat (bytes : Bytes) : ofNat bytes.length (toNat bytes) = bytes := by
  induction bytes with
  | nil => rfl
  | cons byte rest ih =>
    have small : byte.toNat < 256 := byte.toNat_lt
    have low : (byte.toNat + 256 * toNat rest) % 256 = byte.toNat := by omega
    have high : (byte.toNat + 256 * toNat rest) / 256 = toNat rest := by omega
    simp [toNat, ofNat, low, high, ih]

theorem toWord_ofWord (word : UInt64) : toWord (ofWord word) = word := by
  have small : word.toNat < 256 ^ 8 := word.toNat_lt
  rw [toWord, ofWord, toNat_ofNat, Nat.mod_eq_of_lt small, UInt64.ofNat_toNat]

theorem ofWord_toWord {bytes : Bytes} (eight : bytes.length = 8) :
    ofWord (toWord bytes) = bytes := by
  have small : toNat bytes < 2 ^ 64 := by
    have bound := toNat_lt bytes
    rw [eight] at bound
    exact bound
  have same : (UInt64.ofNat (toNat bytes)).toNat = toNat bytes := by
    rw [UInt64.toNat_ofNat']
    exact Nat.mod_eq_of_lt small
  rw [ofWord, toWord, same, ← eight, ofNat_toNat]

theorem ofWord_injective {word other : UInt64} (same : ofWord word = ofWord other) :
    word = other := by
  rw [← toWord_ofWord word, same, toWord_ofWord]

theorem ofWord_ofNat_inj {count other : Nat} (small : count < 2 ^ 64) (otherSmall : other < 2 ^ 64)
    (same : ofWord (UInt64.ofNat count) = ofWord (UInt64.ofNat other)) : count = other := by
  have words := congrArg UInt64.toNat (ofWord_injective same)
  rwa [UInt64.toNat_ofNat', UInt64.toNat_ofNat', Nat.mod_eq_of_lt small,
    Nat.mod_eq_of_lt otherSmall] at words

end SegmentContainer.Bytes
