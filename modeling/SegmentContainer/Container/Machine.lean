import SegmentContainer.Container.Basic
import SegmentContainer.Error
import SegmentContainer.Layout

/-!
# Reading containers on a machine

The reader of containers in the arithmetic of a machine.  Counts and places are 64-bit
words, so that a sum that is no word, a difference below zero, and a place outside of a
string each crash the program.  The machine also keeps an account of what it makes room
for before it reads it, and of the symbols that it has read.

Room is counted in items.  Whether a machine has that much memory is not said here.
-/

set_option autoImplicit false

namespace SegmentContainer

/-- What reading a container has taken so far. -/
structure Account where
  headerRoom : Nat := 0
  regionRoom : Nat := 0
  payload : Nat := 0
  symbolRoom : Nat := 0
  symbolsRead : Nat := 0
  deriving DecidableEq

/-- A computation that may fail or crash, and keeps an account. -/
abbrev Machine := EStateM Halt Account

structure Buffer where
  bytes : Bytes
  position : Nat

namespace Buffer

def start (bytes : Bytes) : Buffer := ⟨bytes, 0⟩

def remaining (buffer : Buffer) : Nat := buffer.bytes.length - buffer.position

end Buffer

namespace Machine

variable {α : Type}

def plus (first second : Nat) : Machine Nat :=
  if first + second < UInt64.size then return first + second
  else throw (.crashed "attempt to add with overflow")

def minus (first second : Nat) : Machine Nat :=
  if second ≤ first then return first - second
  else throw (.crashed "attempt to subtract with overflow")

def slice (string : Bytes) (first last : Nat) : Machine Bytes :=
  if first ≤ last ∧ last ≤ string.length then return (string.drop first).take (last - first)
  else throw (.crashed "slice index out of range")

def byteAt (string : Bytes) (place : Nat) : Machine UInt8 :=
  match string[place]? with
  | some byte => return byte
  | none => throw (.crashed "index out of bounds")

def reject (offset : Nat) (problem : Malformed.Problem) : Machine α :=
  throw (.failed (.malformed ⟨offset, problem⟩))

/-- Takes the next `count` bytes.  The sum is looked at before it is made. -/
def bytes (count : Nat) (buffer : Buffer) : Machine (Bytes × Buffer) := do
  if UInt64.size ≤ buffer.position + count then
    reject buffer.position .positionOverflow
  else
    let last := buffer.position + count
    if buffer.bytes.length < last then
      reject buffer.position (.shortRead count buffer.position buffer.bytes.length)
    else
      let piece ← slice buffer.bytes buffer.position last
      return (piece, { buffer with position := last })

def word (buffer : Buffer) : Machine (UInt64 × Buffer) := do
  let (piece, buffer) ← bytes Layout.word buffer
  let spelled ← (List.range Layout.word).mapM (byteAt piece)
  return (Bytes.toWord spelled, buffer)

def count (buffer : Buffer) : Machine (Nat × Buffer) := do
  let (value, buffer) ← word buffer
  return (value.toNat, buffer)

def text (buffer : Buffer) : Machine (String × Buffer) := do
  let offset := buffer.position
  let rest ← slice buffer.bytes (min offset buffer.bytes.length) buffer.bytes.length
  match rest.findIdx? (· = 0) with
  | none => reject offset .unterminatedText
  | some length =>
    let (name, buffer) ← bytes length buffer
    let next ← plus buffer.position 1
    match Utf8.decode name with
    | .ok decoded => return (decoded, { buffer with position := next })
    | .error fault => reject offset (.invalidText fault)

def many (item : Buffer → Machine (α × Buffer)) :
    Nat → Array α → Buffer → Machine (Array α × Buffer)
  | 0, soFar, buffer => return (soFar, buffer)
  | count + 1, soFar, buffer => do
    let (next, buffer) ← item buffer
    many item count (soFar.push next) buffer

def header (buffer : Buffer) : Machine (RegionHeader × Buffer) := do
  let offset := buffer.position
  let (start, buffer) ← word buffer
  let (endExclusive, buffer) ← word buffer
  let (permissions, buffer) ← word buffer
  let header : RegionHeader := ⟨start, endExclusive, permissions⟩
  if endExclusive < start then
    reject offset (.backwardsRegion start endExclusive)
  else if header.flags?.isNone then
    let place ← plus offset (2 * Layout.word)
    reject place (.unknownPermissions permissions)
  else
    return (header, buffer)

def regionData :
    List RegionHeader → Array ContainerRegion → Buffer → Machine (Array ContainerRegion × Buffer)
  | [], soFar, buffer => return (soFar, buffer)
  | header :: rest, soFar, buffer => do
    let size ← minus header.endExclusive.toNat header.start.toNat
    let (data, buffer) ← bytes size buffer
    regionData rest (soFar.push ⟨header, data⟩) buffer

/-- Tells the place of a fault within the payload as one in the whole string, where the
payload stands behind its size word at `sizeOffset`. -/
def rebase (sizeOffset : Nat) (program : Machine α) : Machine α :=
  tryCatch program fun
    | .failed (.malformed malformed) => do
      let place ← plus malformed.offset sizeOffset
      let place ← plus place Layout.word
      reject place malformed.problem
    | halt => throw halt

def symbolEntry (sizeOffset : Nat) (buffer : Buffer) : Machine (ContainerSymbol × Buffer) := do
  let (address, buffer) ← rebase sizeOffset (word buffer)
  let (name, buffer) ← rebase sizeOffset (text buffer)
  modify fun account => { account with symbolsRead := account.symbolsRead + 1 }
  return (⟨address, name⟩, buffer)

def symbolPayload (payload : Bytes) (count sizeOffset : Nat) : Machine (List ContainerSymbol) := do
  let room := min count (payload.length / Layout.symbolOverhead)
  modify fun account =>
    { account with payload := payload.length, symbolRoom := room, symbolsRead := 0 }
  let (symbols, buffer) ←
    many (symbolEntry sizeOffset) count (Array.emptyWithCapacity room) (Buffer.start payload)
  if buffer.remaining = 0 then return symbols.toList
  else reject sizeOffset (.payloadMismatch payload.length count buffer.position)

/-- Takes the count of regions.  A product that is no word is a count of more headers than
there are bytes for. -/
def regionCount (buffer : Buffer) : Machine (Nat × Buffer) := do
  let offset := buffer.position
  let (count, buffer) ← count buffer
  let size := count * Layout.regionHeader
  if size < UInt64.size ∧ size ≤ buffer.remaining then return (count, buffer)
  else reject offset (.tooManyRegions count)

def regionTable (buffer : Buffer) : Machine (List ContainerRegion × Buffer) := do
  let (count, buffer) ← regionCount buffer
  modify fun account => { account with headerRoom := count }
  let (headers, buffer) ← many header count (Array.emptyWithCapacity count) buffer
  modify fun account => { account with regionRoom := count }
  let (regions, buffer) ← regionData headers.toList (Array.emptyWithCapacity count) buffer
  return (regions.toList, buffer)

def symbolTable (buffer : Buffer) : Machine ((List ContainerSymbol × Nat) × Buffer) := do
  let (symbolCount, buffer) ← count buffer
  let sizeOffset := buffer.position
  let (payloadSize, buffer) ← count buffer
  let (payload, buffer) ← bytes payloadSize buffer
  let symbols ← symbolPayload payload symbolCount sizeOffset
  return ((symbols, payloadSize), buffer)

def container (string : Bytes) : Machine Container := do
  let (regions, buffer) ← regionTable (Buffer.start string)
  let ((symbols, payloadSize), buffer) ← symbolTable buffer
  if buffer.remaining = 0 then return ⟨regions, symbols, payloadSize, string.length⟩
  else reject buffer.position (.trailingBytes buffer.remaining)

end Machine
end SegmentContainer
