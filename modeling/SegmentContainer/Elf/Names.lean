import SegmentContainer.Text.Utf8

/-!
# ELF string tables

A string table holds texts, each ended by a zero byte or by the end of the table.
A name is given by its offset in the table; it may be the end of a text that is
stored in full for another name.
-/

set_option autoImplicit false

namespace SegmentContainer.Elf

structure StringTable where
  texts : List Bytes

namespace StringTable

def empty : StringTable := ⟨[]⟩

/-- Cuts bytes at zero bytes; what follows the last zero byte counts only if there
is anything. -/
def cut : Bytes → List Bytes
  | [] => []
  | byte :: rest =>
    if byte = 0 then [] :: cut rest
    else
      match rest, cut rest with
      | [], _ => [[byte]]
      | _, [] => [[byte]]
      | _, text :: more => (byte :: text) :: more

/-- The string table in some bytes, all of whose texts must be UTF-8. -/
def ofBytes? (bytes : Bytes) : Option StringTable :=
  let texts := cut bytes
  if texts.all fun text => (Utf8.decode text).isOk then some ⟨texts⟩ else none

def read? (file : Bytes) (offset size : Nat) : Option StringTable :=
  if offset + size ≤ file.length then ofBytes? ((file.drop offset).take size) else none

def continues (byte : UInt8) : Bool :=
  0x80 ≤ byte && byte ≤ 0xBF

def lookup : List Bytes → Nat → Option String
  | [], _ => none
  | text :: rest, offset =>
    if offset ≤ text.length then
      let tail := text.drop offset
      if (tail.head?.map continues).getD false then none
      else
        match Utf8.decode tail with
        | .ok name => some name
        | .error _ => none
    else lookup rest (offset - (text.length + 1))

def name? (table : StringTable) (offset : Nat) : Option String :=
  lookup table.texts offset

end StringTable
end SegmentContainer.Elf
