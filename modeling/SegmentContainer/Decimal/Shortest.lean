/-!
# Shortest decimals

A binary number `m · 2 ^ q` stands for all real numbers that round to it.  Of the
decimals in that interval the shortest one is taken, and of several of that
length the one nearest to the number itself.  For each count of digits only the
two neighbours of the number on the grid of that many digits have to be tried:
if any point of the grid lies in the interval, so does one of them.
-/

set_option autoImplicit false

namespace SegmentContainer.Decimal

/-- The decimal `digits · 10 ^ exponent`. -/
structure Scaled where
  digits : Nat
  exponent : Int
  deriving DecidableEq

/-- A positive number as a quotient, with the ends of its rounding interval over
the same denominator. -/
structure Interval where
  low : Nat
  middle : Nat
  high : Nat
  denominator : Nat
  closed : Bool

def leadingBit : Nat := 0x10000000000000

/-- The interval of `m · 2 ^ q`.  Below a power of two the gap to the next number
is half as wide, except at the smallest exponent. -/
def Interval.ofBinary (m : Nat) (q : Int) : Interval :=
  let narrow := m = leadingBit ∧ -1074 < q
  let scale := Nat.pow 2 q.toNat
  ⟨(4 * m - if narrow then 1 else 2) * scale, 4 * m * scale, (4 * m + 2) * scale,
    4 * Nat.pow 2 (-q).toNat, m % 2 = 0⟩

def Interval.holds (interval : Interval) (numerator factor : Nat) : Bool :=
  if interval.closed then
    interval.low * factor ≤ numerator && numerator ≤ interval.high * factor
  else interval.low * factor < numerator && numerator < interval.high * factor

/-- The exponent of the first digit of a quotient below one: the least number of
times that it has to be multiplied by ten to reach one, found by trying. -/
def leadingZeros : Nat → Nat → Nat → Nat
  | 0, _, _ => 0
  | tries + 1, numerator, denominator =>
    if denominator ≤ numerator then 0
    else leadingZeros tries (10 * numerator) denominator + 1

def leadingExponent (numerator denominator : Nat) : Int :=
  if denominator ≤ numerator then (Nat.toDigits 10 (numerator / denominator)).length - 1
  else -(leadingZeros 400 numerator denominator : Int)

def Interval.onGrid? (interval : Interval) (lead : Int) (count : Nat) : Option Scaled :=
  let exponent := lead - count + 1
  let up := Nat.pow 10 (-exponent).toNat
  let unit := interval.denominator * Nat.pow 10 exponent.toNat
  let below := interval.middle * up / unit
  let rest := interval.middle * up - below * unit
  let lower? := interval.holds (below * unit) up
  let upper? := interval.holds ((below + 1) * unit) up
  if lower? && upper? then
    if 2 * rest < unit || (2 * rest = unit && below % 2 = 0) then some ⟨below, exponent⟩
    else some ⟨below + 1, exponent⟩
  else if lower? then some ⟨below, exponent⟩
  else if upper? then some ⟨below + 1, exponent⟩
  else none

/-- The shortest decimal of a positive number `m · 2 ^ q`; seventeen digits are
always enough. -/
def shortest (m : Nat) (q : Int) : Scaled :=
  let interval := Interval.ofBinary m q
  let lead := leadingExponent interval.middle interval.denominator
  ((List.range 17).findSome? fun i => interval.onGrid? lead (i + 1)).getD ⟨0, 0⟩

end SegmentContainer.Decimal
