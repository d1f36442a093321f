import SegmentContainer.Container.Basic
import SegmentContainer.Container.Reader

/-!
# Reading containers

Headers first, then the data of each region in the order of the headers, then
the symbols.  Everything has to fit exactly: a count that promises more than is
there, data that ends early, a symbol payload of another size and bytes behind
the last symbol are all refused, at the offset where they show.
-/

set_option autoImplicit false

namespace SegmentContainer.Container

def header : Reader RegionHeader := do
  let offset ← Reader.position
  let start ← Reader.word
  let endExclusive ← Reader.word
  let permissions ← Reader.word
  let header : RegionHeader := ⟨start, endExclusive, permissions⟩
  if endExclusive < start then
    Reader.reject offset (.backwardsRegion start endExclusive)
  else if header.flags?.isNone then
    Reader.reject (offset + 2 * Layout.word) (.unknownPermissions permissions)
  else
    return header

/-- Takes the data of each header in turn and adds the regions to those already
read. -/
def regionData : List RegionHeader → Array ContainerRegion → Reader (Array ContainerRegion)
  | [], soFar => pure soFar
  | header :: rest, soFar => do
    let data ← Reader.bytes header.size.toNat
    regionData rest (soFar.push ⟨header, data⟩)

def symbolEntry : Reader ContainerSymbol := do
  let address ← Reader.word
  let name ← Reader.text
  return ⟨address, name⟩

/-- How many symbols room is made for before they are read: no more than the
payload can hold, whatever count is declared. -/
def symbolRoom (count payloadSize : Nat) : Nat :=
  min count (payloadSize / Layout.symbolOverhead)

def symbolPayload (payload : Bytes) (count sizeOffset : Nat) :
    Except Malformed (List ContainerSymbol) :=
  let room := Array.emptyWithCapacity (symbolRoom count payload.length)
  match Reader.many symbolEntry count room (Cursor.start payload) with
  | .error malformed _ => .error (malformed.shift (sizeOffset + Layout.word))
  | .ok symbols cursor =>
    if cursor.rest.isEmpty then .ok symbols.toList
    else .error ⟨sizeOffset, .payloadMismatch payload.length count cursor.position⟩

/-- Takes the count of regions, which must not promise more headers than there
are bytes for. -/
def regionCount : Reader Nat := do
  let offset ← Reader.position
  let count ← Reader.count
  let remaining ← Reader.remaining
  if count * Layout.regionHeader ≤ remaining then return count
  else Reader.reject offset (.tooManyRegions count)

def regionTable : Reader (List ContainerRegion) := do
  let count ← regionCount
  let headers ← Reader.many header count (Array.emptyWithCapacity count)
  let regions ← regionData headers.toList (Array.emptyWithCapacity count)
  return regions.toList

def symbolTable : Reader (List ContainerSymbol × Nat) := do
  let count ← Reader.count
  let sizeOffset ← Reader.position
  let payloadSize ← Reader.count
  let payload ← Reader.bytes payloadSize
  match symbolPayload payload count sizeOffset with
  | .ok symbols => return (symbols, payloadSize)
  | .error malformed => throw malformed

def noneTrailing : Reader Unit := do
  let remaining ← Reader.remaining
  let offset ← Reader.position
  if remaining = 0 then return ()
  else Reader.reject offset (.trailingBytes remaining)

def whole (totalSize : Nat) : Reader Container := do
  let regions ← regionTable
  let (symbols, payloadSize) ← symbolTable
  noneTrailing
  return ⟨regions, symbols, payloadSize, totalSize⟩

def parse (bytes : Bytes) : Except Malformed Container :=
  match whole bytes.length (Cursor.start bytes) with
  | .ok container _ => .ok container
  | .error malformed _ => .error malformed

end SegmentContainer.Container
