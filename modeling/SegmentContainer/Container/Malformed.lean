import SegmentContainer.Text.Numeral
import SegmentContainer.Text.Utf8

/-!
# Malformed containers

Where and why bytes fail to be a container.
-/

set_option autoImplicit false

namespace SegmentContainer

inductive Malformed.Problem where
  | positionOverflow
  | shortRead (count position length : Nat)
  | unterminatedText
  | invalidText (fault : Utf8.Fault)
  | tooManyRegions (count : Nat)
  | backwardsRegion (start endExclusive : UInt64)
  | unknownPermissions (word : UInt64)
  | payloadMismatch (declared count used : Nat)
  | trailingBytes (count : Nat)
  deriving DecidableEq

def Malformed.Problem.message : Malformed.Problem → String
  | .positionOverflow => "Position overflow"
  | .shortRead count position length =>
    s!"Read of {count} bytes at position {position} exceeds buffer length {length}"
  | .unterminatedText => "Unterminated string"
  | .invalidText fault => "Invalid UTF-8 in string: " ++ fault.message
  | .tooManyRegions count => s!"Region count {count} exceeds container size"
  | .backwardsRegion start endExclusive =>
    "Region end " ++ Numeral.upperHex endExclusive.toNat ++ " precedes start "
      ++ Numeral.upperHex start.toNat
  | .unknownPermissions word => "Unknown permission bits " ++ Numeral.upperHex word.toNat
  | .payloadMismatch declared count used =>
    s!"Symbol payload declares {declared} bytes but {count} symbols use {used}"
  | .trailingBytes count => s!"{count} trailing bytes after symbol table"

structure Malformed where
  offset : Nat
  problem : Malformed.Problem
  deriving DecidableEq

/-- The same problem, `base` bytes further on. -/
def Malformed.shift (malformed : Malformed) (base : Nat) : Malformed :=
  { malformed with offset := malformed.offset + base }

def Malformed.message (malformed : Malformed) : String :=
  "Malformed container at offset " ++ Numeral.lowerHex malformed.offset ++ ": "
    ++ malformed.problem.message

end SegmentContainer
