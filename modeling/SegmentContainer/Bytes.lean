/-!
# Bytes and words

A byte string is a list of bytes.  Every integer of a container is a 64-bit
word written as eight bytes, least significant first; images of programs also
hold 16-bit and 32-bit words, in either byte order.  Both directions are given
for any width.
-/

set_option autoImplicit false

namespace SegmentContainer

abbrev Bytes := List UInt8

namespace Bytes

/-- The `width` bytes of a number, least significant first; what does not fit
is dropped. -/
def ofNat : Nat → Nat → Bytes
  | 0, _ => []
  | width + 1, n => UInt8.ofNat (n % 256) :: ofNat width (n / 256)

def toNat : Bytes → Nat
  | [] => 0
  | byte :: rest => byte.toNat + 256 * toNat rest

theorem length_ofNat (width n : Nat) : (ofNat width n).length = width := by
  induction width generalizing n with
  | zero => rfl
  | succ width ih => simp [ofNat, ih]

def ofWord (word : UInt64) : Bytes :=
  ofNat 8 word.toNat

def toWord (bytes : Bytes) : UInt64 :=
  UInt64.ofNat (toNat bytes)

theorem length_ofWord (word : UInt64) : (ofWord word).length = 8 :=
  length_ofNat 8 word.toNat

/-- Drops `offset` bytes and keeps the `count` that follow, if they are all
there.  No byte past the end is ever asked for. -/
def slice? (bytes : Bytes) (offset count : Nat) : Option Bytes :=
  let piece := (bytes.drop offset).take count
  if piece.length = count then some piece else none

end Bytes
end SegmentContainer
