import SegmentContainer.Error
import SegmentContainer.Symbol

/-!
# Images

An image of a program enumerates regions and symbols.  The bytes behind a region
are asked for one region at a time, and each such read has an outcome of its
own.
-/

set_option autoImplicit false

namespace SegmentContainer

structure Image where
  name : String
  regions : List Region
  symbols : List Symbol

structure Placed where
  index : Nat
  region : Region
  deriving DecidableEq

def Image.placed (image : Image) : List Placed :=
  image.regions.zipIdx.map fun numbered => ⟨numbered.2, numbered.1⟩

inductive ReadOutcome where
  | data (bytes : Bytes)
  | failed (error : Error)
  | crashed (reason : String)
  deriving DecidableEq

def ReadOutcome.refused (region : Region) (fault : ReadFault) : ReadOutcome :=
  .failed (.regionRead region.name region.start fault)

/-- The bytes from place `first` on and before place `last`.  A program that asks for places
that are not there crashes. -/
def ReadOutcome.slice (bytes : Bytes) (first last : Nat) : ReadOutcome :=
  if first ≤ last ∧ last ≤ bytes.length then .data ((bytes.drop first).take (last - first))
  else .crashed "slice index out of range"

end SegmentContainer
