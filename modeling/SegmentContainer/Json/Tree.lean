import SegmentContainer.Json.Fault
import SegmentContainer.Json.Real

/-!
# JSON trees

Reading a JSON text gives a tree of what was found, in the order of the text, up
to the first place that breaks the grammar.  The tree records that place:
`Tree.broken` stands for a value that is none, and an array or object that was
not closed properly says so.  Whoever walks the tree from the left meets faults
of grammar and of shape in the order in which they stand in the text.

Some texts are well formed but have no value: a number out of range, or a string
with half a surrogate pair.  They only matter where their value is used.
-/

set_option autoImplicit false

namespace SegmentContainer.Json

inductive Number where
  | natural (value : UInt64)
  /-- A negative integer, by its magnitude, which is at most 2 ^ 63. -/
  | negative (magnitude : Nat)
  | real (negative : Bool) (digits : UInt64) (exponent : Int)
  deriving DecidableEq

inductive Tree where
  | null
  | bool (value : Bool)
  | number (value : Number)
  /-- A string; it has no text if it escapes half a surrogate pair. -/
  | string (text : Option String)
  | array (items : List Tree) (closed : Bool)
  /-- An object.  Where a key is no string, or no value follows it, the object
  ends with that member and is not closed. -/
  | object (members : List (Tree × Tree)) (closed : Bool)
  | broken

def isBlank (c : Char) : Bool :=
  c = ' ' || c = '\n' || c = '\t' || c = '\r'

def skipBlank (text : List Char) : List Char :=
  text.dropWhile isBlank

def afterWord? : List Char → List Char → Option (List Char)
  | [], text => some text
  | _ :: _, [] => none
  | expected :: word, found :: text =>
    if expected = found then afterWord? word text else none

def fourDigits? (a b c d : Char) : Option Nat := do
  let a ← Numeral.digit? 16 a
  let b ← Numeral.digit? 16 b
  let c ← Numeral.digit? 16 c
  let d ← Numeral.digit? 16 d
  return ((a * 16 + b) * 16 + c) * 16 + d

def escaped? (c : Char) : Option Char :=
  if c = '"' ∨ c = '\\' ∨ c = '/' then some c
  else if c = 'b' then some (Char.ofNat 0x8)
  else if c = 'f' then some (Char.ofNat 0xC)
  else if c = 'n' then some '\n'
  else if c = 'r' then some '\r'
  else if c = 't' then some '\t'
  else none

def ofSurrogates (high low : Nat) : Char :=
  Char.ofNat (0x10000 + (high - 0xD800) * 0x400 + (low - 0xDC00))

structure Inside where
  /-- The characters, the last one first, as long as all of them are whole. -/
  chars : Option (List Char)
  /-- A high surrogate that waits for the low one. -/
  high : Option Nat

def Inside.start : Inside := ⟨some [], none⟩

/-- Adds a character.  A high surrogate in front of it stays alone. -/
def Inside.addChar (inside : Inside) (c : Char) : Inside :=
  match inside.high with
  | some _ => ⟨none, none⟩
  | none => ⟨inside.chars.map (c :: ·), none⟩

def Inside.addUnit (inside : Inside) (unit : Nat) : Inside :=
  if 0xDC00 ≤ unit ∧ unit ≤ 0xDFFF then
    match inside.high with
    | some high => ⟨inside.chars.map (ofSurrogates high unit :: ·), none⟩
    | none => ⟨none, none⟩
  else if 0xD800 ≤ unit ∧ unit ≤ 0xDBFF then
    match inside.high with
    | some _ => ⟨none, none⟩
    | none => ⟨inside.chars, some unit⟩
  else inside.addChar (Char.ofNat unit)

def Inside.text (inside : Inside) : Option String :=
  match inside.high with
  | some _ => none
  | none => inside.chars.map fun chars => String.ofList chars.reverse

def stringFrom : Inside → List Char → Option (Option String × List Char)
  | _, [] => none
  | inside, '"' :: rest => some (inside.text, rest)
  | inside, '\\' :: 'u' :: a :: b :: c :: d :: rest =>
    match fourDigits? a b c d with
    | some unit => stringFrom (inside.addUnit unit) rest
    | none => none
  | inside, '\\' :: c :: rest =>
    match escaped? c with
    | some c => stringFrom (inside.addChar c) rest
    | none => none
  | inside, c :: rest =>
    if c.toNat < 0x20 then none else stringFrom (inside.addChar c) rest

/-- Adds decimal digits to a number while it stays below 2^64; gives the
number and the digits that were left. -/
def takeDigits : Nat → List Char → Nat × List Char
  | soFar, [] => (soFar, [])
  | soFar, c :: rest =>
    let next := soFar * 10 + (c.toNat - 48)
    if next < UInt64.size then takeDigits next rest else (soFar, c :: rest)

/-- The value of a literal with its parts: sign, whole digits, fraction digits
and exponent.  Whole digits that do not fit a word scale the number, fraction
digits that do not fit are dropped. -/
def numberOf (isNegative : Bool) (whole : List Char) (fraction : List Char)
    (exponent : Option Int) : Number :=
  let (digits, excess) := takeDigits 0 whole
  if excess = [] ∧ fraction = [] ∧ exponent = none then
    if !isNegative then .natural (UInt64.ofNat digits)
    else if digits = 0 ∨ 0x8000000000000000 < digits then .real true (UInt64.ofNat digits) 0
    else .negative digits
  else
    let (digits, dropped) := takeDigits digits fraction
    let scale : Int := (excess.length : Int) - (fraction.length - dropped.length : Nat)
    .real isNegative (UInt64.ofNat digits) (scale + exponent.getD 0)

def naturalOf (digits : List Char) : Nat :=
  digits.foldl (fun soFar c => soFar * 10 + (c.toNat - 48)) 0

def fraction? : List Char → Option (List Char × List Char)
  | '.' :: rest =>
    let digits := rest.takeWhile Char.isDigit
    if digits = [] then none else some (digits, rest.dropWhile Char.isDigit)
  | text => some ([], text)

def exponentDigits? (isNegative : Bool) (text : List Char) : Option (Option Int × List Char) :=
  let digits := text.takeWhile Char.isDigit
  if digits = [] then none
  else
    let magnitude : Int := naturalOf digits
    some (some (if isNegative then -magnitude else magnitude), text.dropWhile Char.isDigit)

def exponent? : List Char → Option (Option Int × List Char)
  | c :: rest =>
    if c = 'e' ∨ c = 'E' then
      match rest with
      | '-' :: rest => exponentDigits? true rest
      | '+' :: rest => exponentDigits? false rest
      | _ => exponentDigits? false rest
    else some (none, c :: rest)
  | [] => some (none, [])

/-- Reads a number behind its sign.  A zero in front stands alone. -/
def unsigned? (isNegative : Bool) (text : List Char) : Option (Number × List Char) := do
  let whole := text.takeWhile Char.isDigit
  let rest := text.dropWhile Char.isDigit
  if whole = [] ∨ (whole.head? = some '0' ∧ whole.length ≠ 1) then none
  else
    let (fraction, rest) ← fraction? rest
    let (exponent, rest) ← exponent? rest
    return (numberOf isNegative whole fraction exponent, rest)

def number? : List Char → Option (Number × List Char)
  | '-' :: rest => unsigned? true rest
  | text => unsigned? false text

mutual

/-- Reads a value and gives the text behind it.  The text behind a value that
breaks the grammar does not matter and is left out.  Each call takes a character
or is the second of two calls at the same place, so twice as many calls as there
are characters are enough. -/
def valueFrom : Nat → List Char → Tree × List Char
  | 0, _ => (.broken, [])
  | calls + 1, text =>
    match skipBlank text with
    | [] => (.broken, [])
    | '"' :: rest =>
      match stringFrom Inside.start rest with
      | some (found, rest) => (.string found, rest)
      | none => (.broken, [])
    | '[' :: rest =>
      match skipBlank rest with
      | ']' :: rest => (.array [] true, rest)
      | rest => itemsFrom calls [] rest
    | '\x7b' :: rest =>
      match skipBlank rest with
      | '\x7d' :: rest => (.object [] true, rest)
      | rest => membersFrom calls [] rest
    | c :: rest =>
      if c = 'n' then
        match afterWord? ['u', 'l', 'l'] rest with
        | some rest => (.null, rest)
        | none => (.broken, [])
      else if c = 't' then
        match afterWord? ['r', 'u', 'e'] rest with
        | some rest => (.bool true, rest)
        | none => (.broken, [])
      else if c = 'f' then
        match afterWord? ['a', 'l', 's', 'e'] rest with
        | some rest => (.bool false, rest)
        | none => (.broken, [])
      else
        match number? (c :: rest) with
        | some (found, rest) => (.number found, rest)
        | none => (.broken, [])

/-- Reads the items of an array from where one is due; the items before it come
last one first. -/
def itemsFrom : Nat → List Tree → List Char → Tree × List Char
  | 0, before, _ => (.array before.reverse false, [])
  | calls + 1, before, text =>
    let (item, rest) := valueFrom calls text
    match skipBlank rest with
    | ']' :: rest => (.array (item :: before).reverse true, rest)
    | ',' :: rest =>
      match skipBlank rest with
      | ']' :: _ => (.array (item :: before).reverse false, [])
      | rest => itemsFrom calls (item :: before) rest
    | _ => (.array (item :: before).reverse false, [])

def membersFrom : Nat → List (Tree × Tree) → List Char → Tree × List Char
  | 0, before, _ => (.object before.reverse false, [])
  | calls + 1, before, text =>
    match valueFrom calls text with
    | (.string key, rest) =>
      match skipBlank rest with
      | ':' :: rest =>
        let (value, rest) := valueFrom calls rest
        let members := (.string key, value) :: before
        match skipBlank rest with
        | '\x7d' :: rest => (.object members.reverse true, rest)
        | ',' :: rest =>
          match skipBlank rest with
          | '\x7d' :: _ => (.object members.reverse false, [])
          | rest => membersFrom calls members rest
        | _ => (.object members.reverse false, [])
      | _ => (.object ((.string key, .broken) :: before).reverse false, [])
    | (key, _) => (.object ((key, .broken) :: before).reverse false, [])

end

def Tree.ofText (text : String) : Tree × Bool :=
  let chars := text.toList
  let (tree, rest) := valueFrom (2 * chars.length + 2) chars
  (tree, (skipBlank rest).isEmpty)

def Number.kind? : Number → Option Kind
  | .natural value => some (.integer value.toNat)
  | .negative magnitude => some (.integer (-magnitude))
  | .real isNegative digits exponent =>
    (realValue? isNegative digits exponent).map fun value => .real (realText value)

def Tree.kind? : Tree → Option Kind
  | .null => some .null
  | .bool value => some (.bool value)
  | .number value => value.kind?
  | .string text => text.map .string
  | .array _ _ => some .array
  | .object _ _ => some .object
  | .broken => none

mutual

/-- Whether a value that nobody uses is well formed. -/
def Tree.wellFormed : Tree → Bool
  | .null => true
  | .bool _ => true
  | .number _ => true
  | .string _ => true
  | .array items closed => closed && itemsWellFormed items
  | .object members closed => closed && membersWellFormed members
  | .broken => false

def itemsWellFormed : List Tree → Bool
  | [] => true
  | item :: rest => item.wellFormed && itemsWellFormed rest

/-- Whether all members are well formed; a closed object has only strings as
keys. -/
def membersWellFormed : List (Tree × Tree) → Bool
  | [] => true
  | (_, value) :: rest => value.wellFormed && membersWellFormed rest

end

mutual

/-- Whether every part of a value has a value itself and at most `depth` arrays
and objects lie within one another. -/
def Tree.usable : Nat → Tree → Bool
  | _, .null => true
  | _, .bool _ => true
  | _, .number value => value.kind?.isSome
  | _, .string text => text.isSome
  | 0, .array _ _ => false
  | depth + 1, .array items closed => closed && itemsUsable depth items
  | 0, .object _ _ => false
  | depth + 1, .object members closed => closed && membersUsable depth members
  | _, .broken => false

def itemsUsable : Nat → List Tree → Bool
  | _, [] => true
  | depth, item :: rest => item.usable depth && itemsUsable depth rest

def membersUsable : Nat → List (Tree × Tree) → Bool
  | _, [] => true
  | depth, (key, value) :: rest =>
    key.usable depth && value.usable depth && membersUsable depth rest

end

end SegmentContainer.Json
