import SegmentContainer.Elf.Symbols

/-!
# Dynamic symbols of ELF files

The dynamic table of a file says where its dynamic symbols are, but not how many.
Their number follows from the hash table over them or, if relocations refer to
later symbols, from those.
-/

set_option autoImplicit false

namespace SegmentContainer.Elf

def loadKind : Nat := 1

def dynamicKind : Nat := 2

def fileOffset? (programs : List ProgramHeader) (address : Nat) : Option Nat :=
  match programs.find? fun program =>
    program.kind = loadKind && program.address ≤ address
      && address - program.address < program.memorySize with
  | none => none
  | some program =>
    let offset := program.offset + (address - program.address)
    if offset < UInt64.size then some offset else none

structure Dynamic where
  names : Nat := 0
  namesSize : Nat := 0
  symbols : Nat := 0
  hash : Option Nat := none
  gnuHash : Option Nat := none
  rela : Nat := 0
  relaSize : Nat := 0
  rel : Nat := 0
  relSize : Nat := 0
  jumps : Nat := 0
  jumpsSize : Nat := 0
  jumpsKind : Nat := 0

/-- Takes one entry of the dynamic table into account.  Later entries override
earlier ones. -/
def Dynamic.update (programs : List ProgramHeader) (dynamic : Dynamic) (tag value : Nat) :
    Dynamic :=
  let place := (fileOffset? programs value).getD 0
  match tag with
  | 5 => { dynamic with names := place }
  | 10 => { dynamic with namesSize := value }
  | 6 => { dynamic with symbols := place }
  | 4 => { dynamic with hash := fileOffset? programs value }
  | 0x6FFFFEF5 => { dynamic with gnuHash := fileOffset? programs value }
  | 7 => { dynamic with rela := place }
  | 8 => { dynamic with relaSize := value }
  | 17 => { dynamic with rel := place }
  | 18 => { dynamic with relSize := value }
  | 23 => { dynamic with jumps := place }
  | 2 => { dynamic with jumpsSize := value }
  | 20 => { dynamic with jumpsKind := value }
  | _ => dynamic

def Dynamic.updateAll (programs : List ProgramHeader) : Dynamic → List Record → Dynamic
  | dynamic, [] => dynamic
  | dynamic, record :: rest =>
    let tag := record.address 0 0
    if tag = 0 then dynamic
    else updateAll programs (dynamic.update programs tag (record.address 8 4)) rest

def Dynamic.read? (file : Bytes) (encoding : Encoding) (programs : List ProgramHeader)
    (program : ProgramHeader) : Option Dynamic :=
  let size := if encoding.wide then 16 else 8
  if program.fileSize = 0 then some {}
  else
    (Elf.read? file program.offset program.fileSize).map fun bytes =>
      updateAll programs {} (cut encoding size (program.fileSize / size) bytes)

/-- The greatest symbol number that a relocation table refers to; a table of
nonzero size must be there. -/
def greatestReference? (file : Bytes) (encoding : Encoding) (withAddends : Bool)
    (offset size : Nat) : Option Nat :=
  if size = 0 then some 0
  else
    let entry := (if encoding.wide then 8 else 4) * (if withAddends then 3 else 2)
    let shift := if encoding.wide then 32 else 8
    (Elf.read? file offset size).map fun bytes =>
      (cut encoding entry (size / entry) bytes).foldl
        (fun greatest record => max greatest (record.address 8 4 >>> shift)) 0

def hashedCount? (file : Bytes) (header : FileHeader) (offset : Nat) : Option Nat :=
  let longLinks := header.encoding.wide && (header.machine = 22 || header.machine = 41)
  number? file header.encoding (offset + 4) (if longLinks then 8 else 4)

def greatestBucket? (file : Bytes) (encoding : Encoding) : Nat → Nat → Nat → Option Nat
  | _, 0, greatest => some greatest
  | offset, count + 1, greatest =>
    match number? file encoding offset 4 with
    | none => none
    | some bucket => greatestBucket? file encoding (offset + 4) count (max greatest bucket)

/-- Follows a chain of hashes to its end, which an odd number marks, and counts on
from `count`.  Every step moves on in the file, so as many steps as there are
bytes are enough. -/
def chainEnd? (file : Bytes) (encoding : Encoding) : Nat → Nat → Nat → Option Nat
  | 0, _, _ => none
  | steps + 1, offset, count =>
    match number? file encoding offset 4 with
    | none => none
    | some hash =>
      if hash % 2 = 1 then some (count + 1)
      else chainEnd? file encoding steps (offset + 4) (count + 1)

/-- The number of symbols by the table of bucketed hashes: the end of the chain
that starts last. -/
def bucketedCount? (file : Bytes) (encoding : Encoding) (offset : Nat) : Option Nat := do
  let bucketCount ← number? file encoding offset 4
  let firstHashed ← number? file encoding (offset + 4) 4
  let filterWords ← number? file encoding (offset + 8) 4
  if bucketCount = 0 ∨ firstHashed = 0 ∨ filterWords = 0 then none
  else
    let buckets := offset + 16 + filterWords * (if encoding.wide then 8 else 4)
    let greatest ← greatestBucket? file encoding buckets bucketCount 0
    if greatest < firstHashed then return 0
    else
      let chain := buckets + bucketCount * 4 + (greatest - firstHashed) * 4
      chainEnd? file encoding (file.length + 1) chain greatest

def Dynamic.hashCount? (file : Bytes) (header : FileHeader) (dynamic : Dynamic) : Option Nat :=
  match dynamic.gnuHash, dynamic.hash with
  | some offset, _ => bucketedCount? file header.encoding offset
  | none, some offset => hashedCount? file header offset
  | none, none => some 0

def withAddendsTag : Nat := 7

def dynamicSymbols? (file : Bytes) (header : FileHeader) (programs : List ProgramHeader) :
    Option NamedSymbols :=
  match programs.find? fun program => program.kind = dynamicKind with
  | none => some NamedSymbols.none
  | some program => do
    let encoding := header.encoding
    let dynamic ← Dynamic.read? file encoding programs program
    let names ← StringTable.read? file dynamic.names dynamic.namesSize
    let rela ← greatestReference? file encoding true dynamic.rela dynamic.relaSize
    let rel ← greatestReference? file encoding false dynamic.rel dynamic.relSize
    let jumps ← greatestReference? file encoding (dynamic.jumpsKind = withAddendsTag)
      dynamic.jumps dynamic.jumpsSize
    let hashed ← dynamic.hashCount? file header
    let referred := max rela (max rel jumps)
    let count := if referred = 0 then hashed else max hashed (referred + 1)
    let entries ← symbolTable? file encoding dynamic.symbols count
    return ⟨entries, names⟩

end SegmentContainer.Elf
