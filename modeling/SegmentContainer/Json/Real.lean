import SegmentContainer.Decimal.Shortest

/-!
# Real numbers in JSON

A JSON number that is no 64-bit integer is taken as a binary floating-point
number: the digits that fit a 64-bit word, scaled by a power of ten.  Messages
show such a number by its shortest decimal.
-/

set_option autoImplicit false

namespace SegmentContainer.Json

def greatestPower : Nat := 308

def powerOfTen (exponent : Nat) : Float :=
  Float.ofScientific 1 false exponent

/-- Multiplies by a power of ten, in steps of at most `greatestPower`.  There is
no result where the number leaves the range of floating point; a number that
reaches zero stays there, which three steps down bring about. -/
def scaleByTen : Nat → Float → Int → Option Float
  | 0, _, _ => some 0
  | steps + 1, value, exponent =>
    if exponent.natAbs ≤ greatestPower then
      if 0 ≤ exponent then
        let scaled := value * powerOfTen exponent.natAbs
        if scaled.isInf then none else some scaled
      else some (value / powerOfTen exponent.natAbs)
    else if value == 0 then some value
    else if 0 ≤ exponent then none
    else scaleByTen steps (value / powerOfTen greatestPower) (exponent + greatestPower)

def realValue? (negative : Bool) (digits : UInt64) (exponent : Int) : Option Float :=
  (scaleByTen 4 digits.toFloat exponent).map fun value => if negative then -value else value

def signBit : Nat := 0x8000000000000000

/-- The magnitude of a finite number as `m · 2 ^ q`. -/
def binaryParts (value : Float) : Nat × Int :=
  let bits : Nat := value.toBits.toNat % signBit
  let exponent : Nat := bits / Decimal.leadingBit
  let fraction : Nat := bits % Decimal.leadingBit
  if exponent = 0 then (fraction, -1074)
  else (fraction + Decimal.leadingBit, (exponent : Int) - 1075)

def withoutTrailingZeros (digits : List Char) : List Char :=
  (digits.reverse.dropWhile (· = '0')).reverse

/-- The text of digits whose first one has the given decimal exponent.  Exponents
from -5 to 15 are written positionally, with at least one digit on either side of
the point; all others follow `e` and a sign. -/
def decimalText (digits : List Char) (lead : Int) : String :=
  if lead < -5 ∨ 15 < lead then
    let sign := if lead < 0 then "-" else "+"
    let fraction := digits.drop 1
    String.ofList (digits.take 1)
      ++ (if fraction = [] then "" else "." ++ String.ofList fraction)
      ++ "e" ++ sign ++ toString lead.natAbs
  else if lead < 0 then
    "0." ++ String.ofList (List.replicate (lead.natAbs - 1) '0' ++ digits)
  else
    let whole := digits.take (lead.toNat + 1)
    let fraction := digits.drop (lead.toNat + 1)
    String.ofList (whole ++ List.replicate (lead.toNat + 1 - whole.length) '0') ++ "."
      ++ (if fraction = [] then "0" else String.ofList fraction)

def realText (value : Float) : String :=
  let (m, q) := binaryParts value
  let sign := if signBit ≤ value.toBits.toNat then "-" else ""
  if m = 0 then sign ++ "0.0"
  else
    let decimal := Decimal.shortest m q
    let digits := Nat.toDigits 10 decimal.digits
    sign ++ decimalText (withoutTrailingZeros digits) (decimal.exponent + digits.length - 1)

end SegmentContainer.Json
