/-!
# Numerals

Reading and writing unsigned 64-bit numbers as digits.  A numeral is read from
the left, so that of two faults the first one in the text is reported: a
character that is no digit, or the digit at which the value leaves 64 bits.
-/

set_option autoImplicit false

namespace SegmentContainer.Numeral

inductive Fault where
  | empty
  | invalidDigit
  | tooLarge
  deriving DecidableEq

def Fault.message : Fault → String
  | .empty => "cannot parse integer from empty string"
  | .invalidDigit => "invalid digit found in string"
  | .tooLarge => "number too large to fit in target type"

/-- The value of a digit in a radix of at most sixteen; letters count in either
case. -/
def digit? (radix : Nat) (c : Char) : Option Nat :=
  let value? :=
    if '0' ≤ c ∧ c ≤ '9' then some (c.toNat - 48)
    else if 'a' ≤ c ∧ c ≤ 'f' then some (c.toNat - 87)
    else if 'A' ≤ c ∧ c ≤ 'F' then some (c.toNat - 55)
    else none
  value?.filter (· < radix)

/-- Continues a numeral whose digits so far have the value `soFar`. -/
def continueFrom (radix : Nat) : Nat → List Char → Except Fault Nat
  | soFar, [] => .ok soFar
  | soFar, c :: rest =>
    match digit? radix c with
    | none => .error .invalidDigit
    | some digit =>
      if soFar * radix + digit < UInt64.size then continueFrom radix (soFar * radix + digit) rest
      else .error .tooLarge

/-- Reads a numeral of the given radix: one optional plus sign, then at least
one digit and nothing else. -/
def read (radix : Nat) : List Char → Except Fault UInt64
  | [] => .error .empty
  | ['+'] => .error .invalidDigit
  | '+' :: c :: rest => (continueFrom radix 0 (c :: rest)).map UInt64.ofNat
  | text => (continueFrom radix 0 text).map UInt64.ofNat

/-- Hexadecimal digits with small letters, without leading zeros. -/
def lowerDigits (n : Nat) : String :=
  String.ofList (Nat.toDigits 16 n)

def lowerHex (n : Nat) : String :=
  "0x" ++ lowerDigits n

def upperHex (n : Nat) : String :=
  "0x" ++ String.ofList ((Nat.toDigits 16 n).map Char.toUpper)

def padLeft (fill : Char) (width : Nat) (text : String) : String :=
  String.ofList (List.replicate (width - text.length) fill) ++ text

def fullHex (n : Nat) : String :=
  "0x" ++ padLeft '0' 16 (lowerDigits n)

end SegmentContainer.Numeral
