import SegmentContainer.Elf.Fields
import SegmentContainer.Elf.Names

/-!
# ELF headers

The header of a file, its program headers and its section headers.  Each kind of
record has one fixed size, whatever size the file header states.
-/

set_option autoImplicit false

namespace SegmentContainer.Elf

structure FileHeader where
  encoding : Encoding
  machine : Nat
  programOffset : Nat
  programCount : Nat
  sectionOffset : Nat
  sectionCount : Nat
  nameSection : Nat

structure ProgramHeader where
  kind : Nat
  offset : Nat
  address : Nat
  fileSize : Nat
  memorySize : Nat

structure SectionHeader where
  name : Nat
  kind : Nat
  flags : Nat
  address : Nat
  offset : Nat
  size : Nat
  link : Nat
  entrySize : Nat
  deriving DecidableEq

def magic : Bytes := [0x7F, 0x45, 0x4C, 0x46]

def Encoding.ofIdentification? (identification : Bytes) : Option Encoding :=
  if identification.take 4 ≠ magic then none
  else
    match identification.drop 4 with
    | 1 :: 1 :: _ => some ⟨false, false⟩
    | 1 :: 2 :: _ => some ⟨false, true⟩
    | 2 :: 1 :: _ => some ⟨true, false⟩
    | 2 :: 2 :: _ => some ⟨true, true⟩
    | _ => none

def FileHeader.read? (file : Bytes) : Option FileHeader := do
  let identification ← Elf.read? file 0 16
  let encoding ← Encoding.ofIdentification? identification
  let bytes ← Elf.read? file 0 (if encoding.wide then 64 else 52)
  let record : Record := ⟨encoding, bytes⟩
  return {
    encoding := encoding
    machine := record.field 18 2
    programOffset := record.address 32 28
    programCount := record.placed 56 44 2
    sectionOffset := record.address 40 32
    sectionCount := record.placed 60 48 2
    nameSection := record.placed 62 50 2 }

def ProgramHeader.ofRecord (record : Record) : ProgramHeader where
  kind := record.field 0 4
  offset := record.address 8 4
  address := record.address 16 8
  fileSize := record.address 32 16
  memorySize := record.address 40 20

def programHeaders? (file : Bytes) (header : FileHeader) : Option (List ProgramHeader) :=
  let size := if header.encoding.wide then 56 else 32
  if file.length / size < header.programCount then none
  else
    (records? file header.encoding size header.programOffset header.programCount).map
      (·.map ProgramHeader.ofRecord)

def SectionHeader.ofRecord (record : Record) : SectionHeader where
  name := record.field 0 4
  kind := record.field 4 4
  flags := record.address 8 8
  address := record.address 16 12
  offset := record.address 24 16
  size := record.address 32 20
  link := record.placed 40 24 4
  entrySize := record.address 56 36

/-- Reads the section headers.  There are none if their offset is zero.  The first
one is always read; where the file header counts no sections, the size of the
first one is their number. -/
def sectionHeaders? (file : Bytes) (header : FileHeader) : Option (List SectionHeader) :=
  let size := if header.encoding.wide then 64 else 40
  if header.sectionOffset = 0 then some []
  else do
    let bytes ← read? file header.sectionOffset size
    let first := SectionHeader.ofRecord ⟨header.encoding, bytes⟩
    let count := if header.sectionCount = 0 then first.size else header.sectionCount
    if file.length / size < count then none
    else
      let rest ← records? file header.encoding size (header.sectionOffset + size) (count - 1)
      return first :: rest.map SectionHeader.ofRecord

namespace SectionHeader

def symbolTableKind : Nat := 2

def relaKind : Nat := 4

def noBitsKind : Nat := 8

def relKind : Nat := 9

/-- Whether the section takes no space, or lies in a file of `length` bytes and in
the address space. -/
def fits (sectionHeader : SectionHeader) (length : Nat) : Bool :=
  sectionHeader.kind = noBitsKind || sectionHeader.size = 0
    || (sectionHeader.offset + sectionHeader.size ≤ length
      && sectionHeader.address + sectionHeader.size < UInt64.size)

end SectionHeader

/-- The index that stands for the section that the first section links to. -/
def extendedIndex : Nat := 0xFFFF

/-- Reads the string table in a section; a section that does not exist has an
empty one. -/
def stringTable? (file : Bytes) (sections : List SectionHeader) (index : Nat) :
    Option StringTable :=
  let found? :=
    if index = extendedIndex then
      match sections with
      | [] => none
      | first :: _ => sections[first.link]?
    else sections[index]?
  match found? with
  | none => some StringTable.empty
  | some found =>
    if found.fits file.length then StringTable.read? file found.offset found.size else none

end SegmentContainer.Elf
