import SegmentContainer.Elf.Headers

/-!
# ELF symbol tables
-/

set_option autoImplicit false

namespace SegmentContainer.Elf

structure SymbolEntry where
  name : Nat
  /-- What the symbol names: data, code, a section, a file. -/
  kind : Nat
  /-- The number of the section that the symbol lies in, zero for none. -/
  sectionIndex : Nat
  value : Nat
  deriving DecidableEq

def sectionSymbolKind : Nat := 3

def fileSymbolKind : Nat := 4

def SymbolEntry.ofRecord (record : Record) : SymbolEntry where
  name := record.field 0 4
  kind := record.placed 4 12 1 % 16
  sectionIndex := record.placed 6 14 2
  value := record.address 8 4

def symbolTable? (file : Bytes) (encoding : Encoding) (offset count : Nat) :
    Option (List SymbolEntry) :=
  (table? file encoding (if encoding.wide then 24 else 16) offset count).map
    (·.map SymbolEntry.ofRecord)

structure NamedSymbols where
  entries : List SymbolEntry
  names : StringTable

def NamedSymbols.none : NamedSymbols := ⟨[], StringTable.empty⟩

structure NamedEntry where
  entry : SymbolEntry
  name? : Option String
  deriving DecidableEq

def NamedSymbols.named (table : NamedSymbols) : List NamedEntry :=
  table.entries.map fun entry => ⟨entry, table.names.name? entry.name⟩

/-- Reads the symbols of the last symbol table among the sections. -/
def sectionSymbols? (file : Bytes) (encoding : Encoding) (sections : List SectionHeader) :
    Option NamedSymbols :=
  match sections.reverse.find? fun header => header.kind = SectionHeader.symbolTableKind with
  | Option.none => some NamedSymbols.none
  | some header => do
    let count := if header.entrySize = 0 then 0 else header.size / header.entrySize
    let entries ← symbolTable? file encoding header.offset count
    let names ← stringTable? file sections header.link
    return ⟨entries, names⟩

end SegmentContainer.Elf
