import SegmentContainer.Text.Quoted

/-!
# Permissions

The read, write and execute flags of a region.  A container packs them into the
three low bits of a word; people write them as letters.
-/

set_option autoImplicit false

namespace SegmentContainer

structure Permissions where
  read : Bool
  write : Bool
  execute : Bool
  deriving DecidableEq

namespace Permissions

def none : Permissions := ⟨false, false, false⟩

/-- The packed form: four for reading, two for writing and one for executing. -/
def bits (permissions : Permissions) : UInt64 :=
  UInt64.ofNat (4 * permissions.read.toNat + 2 * permissions.write.toNat
    + permissions.execute.toNat)

/-- The flags of a packed word; a word with any other bit set has none. -/
def ofBits? (word : UInt64) : Option Permissions :=
  if word.toNat < 8 then
    some ⟨word.toNat.testBit 2, word.toNat.testBit 1, word.toNat.testBit 0⟩
  else Option.none

def text (permissions : Permissions) : String :=
  String.ofList
    [if permissions.read then 'r' else '-',
     if permissions.write then 'w' else '-',
     if permissions.execute then 'x' else '-']

inductive Flag where
  | read
  | write
  | execute
  deriving DecidableEq

/-- The flag that a letter stands for, in either case. -/
def Flag.ofChar? (c : Char) : Option Flag :=
  if c.toLower = 'r' then some .read
  else if c.toLower = 'w' then some .write
  else if c.toLower = 'x' then some .execute
  else Option.none

def has (permissions : Permissions) : Flag → Bool
  | .read => permissions.read
  | .write => permissions.write
  | .execute => permissions.execute

def grant (permissions : Permissions) : Flag → Permissions
  | .read => { permissions with read := true }
  | .write => { permissions with write := true }
  | .execute => { permissions with execute := true }

/-- Why a text names no permissions.  The offending character is the first one
from the left. -/
inductive Fault where
  | empty
  | unexpected (found : Char) (text : String)
  | repeated (found : Char) (text : String)
  deriving DecidableEq

def Fault.message : Fault → String
  | .empty => "empty string"
  | .unexpected found text =>
    "unexpected character " ++ Text.quotedAlone found ++ " in " ++ Text.quoted text
  | .repeated found text =>
    "duplicate flag " ++ Text.quotedAlone found ++ " in " ++ Text.quoted text

/-- Reads the characters that follow those which set `soFar`. -/
def continueFrom (text : String) : Permissions → List Char → Except Fault Permissions
  | soFar, [] => .ok soFar
  | soFar, c :: rest =>
    if c = '-' then continueFrom text soFar rest
    else
      match Flag.ofChar? c with
      | Option.none => .error (.unexpected c text)
      | some flag =>
        if soFar.has flag then .error (.repeated c text)
        else continueFrom text (soFar.grant flag) rest

/-- Reads flags from letters and dashes in any order; each letter may stand once. -/
def ofText (text : String) : Except Fault Permissions :=
  if text.toList = [] then .error .empty else continueFrom text none text.toList

end Permissions
end SegmentContainer
