import SegmentContainer.Error

/-!
# Memory

A container is encoded into a buffer that is reserved as a whole before the
first byte is written.  Whether a request for memory is granted is up to the
machine; requests beyond the largest size of a buffer are never made.
-/

set_option autoImplicit false

namespace SegmentContainer

structure Memory where
  grants : Nat → Bool

namespace Memory

/-- A machine of 47 bits of address space for a program. -/
def usual : Memory := ⟨fun size => size < 0x800000000000⟩

/-- One more than the largest size of a buffer. -/
def bufferLimit : Nat := 0x8000000000000000

def reserve (memory : Memory) (size : Nat) : Except RoomFault Unit :=
  if bufferLimit ≤ size then .error (.tooLarge size)
  else if memory.grants size then .ok ()
  else .error (.refused size)

end Memory
end SegmentContainer
