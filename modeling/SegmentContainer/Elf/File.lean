import SegmentContainer.Elf.Dynamic

/-!
# ELF files

What is taken from an ELF file: its sections with their names, and its two symbol
tables.  A file is refused as a whole if any table in it that is looked at does not
lie in the file, even where nothing is taken from that table.
-/

set_option autoImplicit false

namespace SegmentContainer.Elf

structure File where
  sections : List SectionHeader
  sectionNames : StringTable
  symbols : NamedSymbols
  dynamicSymbols : NamedSymbols

def relocationsFit (file : Bytes) (header : SectionHeader) : Bool :=
  if header.kind = SectionHeader.relaKind ∨ header.kind = SectionHeader.relKind then
    header.fits file.length
      && (header.size = 0 || (read? file header.offset header.size).isSome)
  else true

def versionKinds : List Nat := [0x6FFFFFFF, 0x6FFFFFFD, 0x6FFFFFFE]

/-- Whether the first section of a kind, if there is one, lies in the file. -/
def firstFits (file : Bytes) (sections : List SectionHeader) (kind : Nat) : Bool :=
  match sections.find? fun header => header.kind = kind with
  | none => true
  | some header => (read? file header.offset header.size).isSome

def File.ofBytes? (file : Bytes) : Option File := do
  let header ← FileHeader.read? file
  let programs ← programHeaders? file header
  let sections ← sectionHeaders? file header
  let sectionNames ← stringTable? file sections header.nameSection
  let symbols ← sectionSymbols? file header.encoding sections
  let dynamicSymbols ← dynamicSymbols? file header programs
  if sections.all (relocationsFit file) && versionKinds.all (firstFits file sections) then
    return ⟨sections, sectionNames, symbols, dynamicSymbols⟩
  else none

end SegmentContainer.Elf
