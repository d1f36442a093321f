import SegmentContainer.Json.Document
import SegmentContainer.Permissions

/-!
# Memory regions

A region is a span of addresses with uniform permissions.  It is described by
its first and its last address, and the constructors admit exactly the spans
whose end can also be written as an exclusive 64-bit address.
-/

set_option autoImplicit false

namespace SegmentContainer

structure Region where
  name : String
  start : UInt64
  /-- The address of the last byte. -/
  last : UInt64
  permissions : Permissions
  initialized : Bool
  deriving DecidableEq

namespace Region

def topAddress : UInt64 := 0xFFFFFFFFFFFFFFFF

inductive Fault where
  | backwards (name : String) (start last : UInt64)
  | reachesTop (name : String)
  | emptyOrOverflowing (name : String) (start size : UInt64)
  deriving DecidableEq

def Fault.message : Fault → String
  | .backwards name start last =>
    "region " ++ name ++ " ends at " ++ Numeral.upperHex last.toNat
      ++ " before its start " ++ Numeral.upperHex start.toNat
  | .reachesTop name =>
    "region " ++ name ++ " extends to the top of the address space"
  | .emptyOrOverflowing name start size =>
    "region " ++ name ++ " of size " ++ Numeral.upperHex size.toNat ++ " at "
      ++ Numeral.upperHex start.toNat ++ " is empty or overflows"

/-- The initialized region from `start` to `last`, both included. -/
def ofBounds (name : String) (start last : UInt64) (permissions : Permissions) :
    Except Fault Region :=
  if last < start then .error (.backwards name start last)
  else if last = topAddress then .error (.reachesTop name)
  else .ok ⟨name, start, last, permissions, true⟩

def ofSize (name : String) (start size : UInt64) (permissions : Permissions) :
    Except Fault Region :=
  if size = 0 ∨ UInt64.size ≤ start.toNat + (size.toNat - 1) then
    .error (.emptyOrOverflowing name start size)
  else ofBounds name start (start + (size - 1)) permissions

def withInitialized (region : Region) (initialized : Bool) : Region :=
  { region with initialized := initialized }

/-- The address after the last byte, as container headers hold it. -/
def endExclusive (region : Region) : UInt64 :=
  if region.last = topAddress then topAddress else region.last + 1

def size (region : Region) : UInt64 :=
  region.endExclusive - region.start

def contains (region : Region) (address : UInt64) : Bool :=
  region.start ≤ address && address ≤ region.last

def toJson (region : Region) : Json :=
  .object
    [("name", .string region.name),
     ("start", .number region.start.toNat),
     ("end", .number region.last.toNat),
     ("permissions", .string region.permissions.text),
     ("initialized", .bool region.initialized)]

end Region
end SegmentContainer
