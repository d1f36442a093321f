import SegmentContainer.Text.Blank
import SegmentContainer.Text.Numeral
import SegmentContainer.Text.Quoted

/-!
# Addresses

An address is written in decimal, or in hexadecimal after `0x`.  White space
around it is ignored, and so are underscores anywhere in it.
-/

set_option autoImplicit false

namespace SegmentContainer.Address

structure Fault where
  text : String
  cause : Numeral.Fault
  deriving DecidableEq

def Fault.message (fault : Fault) : String :=
  Text.quoted fault.text ++ ": " ++ fault.cause.message

/-- The text of an address without white space at its ends and without
underscores. -/
def cleaned (text : String) : List Char :=
  (Text.trim text.toList).filter (· ≠ '_')

/-- Reads digits: hexadecimal ones after `0x` or `0X`, else decimal ones. -/
def readDigits : List Char → Except Numeral.Fault UInt64
  | '0' :: 'x' :: digits => Numeral.read 16 digits
  | '0' :: 'X' :: digits => Numeral.read 16 digits
  | digits => Numeral.read 10 digits

def ofText (text : String) : Except Fault UInt64 :=
  match readDigits (cleaned text) with
  | .ok address => .ok address
  | .error cause => .error ⟨text, cause⟩

end SegmentContainer.Address
