import SegmentContainer.Bytes

/-!
# Fields of ELF records

An ELF file is made of records of fixed size.  The first bytes of the file say
whether addresses take four or eight bytes and in which order the bytes of a
number come.
-/

set_option autoImplicit false

namespace SegmentContainer.Elf

structure Encoding where
  /-- Whether addresses take eight bytes instead of four. -/
  wide : Bool
  /-- Whether the most significant byte of a number comes first. -/
  bigEndian : Bool
  deriving DecidableEq

def Encoding.number (encoding : Encoding) (bytes : Bytes) : Nat :=
  if encoding.bigEndian then Bytes.toNat bytes.reverse else Bytes.toNat bytes

structure Record where
  encoding : Encoding
  bytes : Bytes

def Record.field (record : Record) (offset width : Nat) : Nat :=
  record.encoding.number ((record.bytes.drop offset).take width)

/-- The field of a record that takes `width` bytes where its offset depends on the
width of addresses. -/
def Record.placed (record : Record) (wideOffset narrowOffset width : Nat) : Nat :=
  record.field (if record.encoding.wide then wideOffset else narrowOffset) width

def Record.address (record : Record) (wideOffset narrowOffset : Nat) : Nat :=
  record.placed wideOffset narrowOffset (if record.encoding.wide then 8 else 4)

/-- Reads `count` bytes at an offset, which must not lie behind the end of the file
even if no byte is read. -/
def read? (file : Bytes) (offset count : Nat) : Option Bytes :=
  if offset ≤ file.length then Bytes.slice? file offset count else none

def number? (file : Bytes) (encoding : Encoding) (offset width : Nat) : Option Nat :=
  (read? file offset width).map encoding.number

def records? (file : Bytes) (encoding : Encoding) (size : Nat) :
    Nat → Nat → Option (List Record)
  | _, 0 => some []
  | offset, count + 1 => do
    let bytes ← read? file offset size
    let rest ← records? file encoding size (offset + size) count
    return ⟨encoding, bytes⟩ :: rest

def cut (encoding : Encoding) (size : Nat) : Nat → Bytes → List Record
  | 0, _ => []
  | count + 1, bytes => ⟨encoding, bytes.take size⟩ :: cut encoding size count (bytes.drop size)

def table? (file : Bytes) (encoding : Encoding) (size offset count : Nat) :
    Option (List Record) :=
  (read? file offset (count * size)).map (cut encoding size count)

end SegmentContainer.Elf
