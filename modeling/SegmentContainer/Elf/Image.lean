import SegmentContainer.Elf.File
import SegmentContainer.Files.System
import SegmentContainer.Image.Basic

/-!
# Images from ELF files

Every section that is loaded and not empty becomes a region; sections that take no
space in the file are not initialized.  The symbols are those of both symbol
tables that have a name and a section, each pair of address and name once.
-/

set_option autoImplicit false

namespace SegmentContainer

structure ElfImage where
  name : String
  file : Bytes
  /-- The regions, each with the file offset of its bytes if it has any. -/
  entries : List (Region × Option UInt64)
  symbols : List Symbol

namespace Elf

/-- Flags of sections are told by the numbers of their bits. -/
def writeFlag : Nat := 0

def loadFlag : Nat := 1

def codeFlag : Nat := 2

def isLoaded (header : SectionHeader) : Bool :=
  header.flags.testBit loadFlag && header.size ≠ 0

def regionOf (names : StringTable) (header : SectionHeader) :
    Except Region.Fault (Region × Option UInt64) :=
  let permissions : Permissions :=
    ⟨true, header.flags.testBit writeFlag, header.flags.testBit codeFlag⟩
  let initialized := header.kind ≠ SectionHeader.noBitsKind
  match Region.ofSize ((names.name? header.name).getD "") (UInt64.ofNat header.address)
      (UInt64.ofNat header.size) permissions with
  | .error fault => .error fault
  | .ok region =>
    .ok (region.withInitialized initialized,
      if initialized then some (UInt64.ofNat header.offset) else none)

def regionsOf (names : StringTable) :
    List SectionHeader → Except Region.Fault (List (Region × Option UInt64))
  | [] => .ok []
  | header :: rest =>
    match regionOf names header with
    | .error fault => .error fault
    | .ok entry =>
      match regionsOf names rest with
      | .error fault => .error fault
      | .ok later => .ok (entry :: later)

/-- Whether a name only marks a stretch of code or data: a dollar sign, one of four
letters, and then nothing or a dot. -/
def isMappingName (name : String) : Bool :=
  match name.toList with
  | '$' :: letter :: rest =>
    (letter = 'x' || letter = 'd' || letter = 'a' || letter = 't')
      && (rest.head? = none || rest.head? = some '.')
  | _ => false

structure SymbolCollection where
  seen : List (UInt64 × String)
  symbols : Array Symbol

namespace SymbolCollection

def empty : SymbolCollection := ⟨[], #[]⟩

/-- Takes an entry of a symbol table into account.  It is passed over if it names a section
or a file, if it lies in no section, if it has no name or an empty one, and if its pair of
address and name was seen before. -/
def add (source : SymbolSource) (collection : SymbolCollection) (named : NamedEntry) :
    SymbolCollection :=
  if named.entry.kind = sectionSymbolKind ∨ named.entry.kind = fileSymbolKind then collection
  else if named.entry.sectionIndex = 0 then collection
  else
    match named.name? with
    | none => collection
    | some name =>
      if name = "" then collection
      else
        let address := UInt64.ofNat named.entry.value
        if (address, name) ∈ collection.seen then collection
        else
          let symbol : Symbol :=
            ⟨address, name, if isMappingName name then .placeholder else source⟩
          ⟨(address, name) :: collection.seen, collection.symbols.push symbol⟩

def addTable (source : SymbolSource) (table : List NamedEntry) (collection : SymbolCollection) :
    SymbolCollection :=
  table.foldl (add source) collection

end SymbolCollection

def collectSymbols (static dynamic : List NamedEntry) : List Symbol :=
  ((SymbolCollection.empty.addTable .analysis static).addTable .imported dynamic).symbols.toList

def File.allSymbols (file : File) : List Symbol :=
  collectSymbols file.symbols.named file.dynamicSymbols.named

end Elf

namespace ElfImage

section

/- How the tables of a file are found is left open here: all that an image takes from the
file are its sections, its symbols and its bytes. -/
variable (tables? : Bytes → Option Elf.File)

def ofBytesBy (name : String) (bytes : Bytes) : Except Error ElfImage :=
  match tables? bytes with
  | none => .error (.binary .unreadable)
  | some file =>
    match Elf.regionsOf file.sectionNames (file.sections.filter Elf.isLoaded) with
    | .error fault => .error (.binary (.region fault))
    | .ok entries => .ok ⟨name, bytes, entries, file.allSymbols⟩

def loadBy (path : String) (found : Found) : Except Error ElfImage :=
  match found.readAll with
  | .error fault => .error (.noProgram (.unreadable path fault))
  | .ok bytes => ofBytesBy tables? ((Path.fileName? path).getD "program") bytes

end

def ofBytes (name : String) (bytes : Bytes) : Except Error ElfImage :=
  ofBytesBy Elf.File.ofBytes? name bytes

def load (path : String) (found : Found) : Except Error ElfImage :=
  loadBy Elf.File.ofBytes? path found

def toImage (image : ElfImage) : Image :=
  ⟨image.name, image.entries.map (·.1), image.symbols⟩

/-- The number of the first region that equals a description in every field. -/
def locate? (image : ElfImage) (asked : Region) : Option Nat :=
  image.entries.findIdx? fun entry => entry.1 = asked

/-- The bytes of a region that start at an offset of the file.  The place behind them is
compared with the end of the file before they are taken; where the sum is no word it is
behind the end of every file. -/
def bytesAt (image : ElfImage) (offset : UInt64) (asked : Region) : ReadOutcome :=
  let first := offset.toNat
  let last := first + asked.size.toNat
  if last ≤ image.file.length then .slice image.file first last
  else .refused asked (.pastEnd offset asked.size image.file.length)

def read (image : ElfImage) (index : Option Nat) (asked : Region) : ReadOutcome :=
  match index.bind fun i => image.entries[i]? with
  | none => .refused asked .notInImage
  | some (_, none) => .refused asked .noContents
  | some (_, some offset) => image.bytesAt offset asked

end ElfImage
end SegmentContainer
