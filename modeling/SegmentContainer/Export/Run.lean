import SegmentContainer.Container.Writer
import SegmentContainer.Export.Memory
import SegmentContainer.Export.Selection
import SegmentContainer.Export.Summary

/-!
# Exporting an image

An export first reads every selected region, in order, then reserves the whole
buffer, then writes the container.  Before each read and before each symbol it
looks whether it should stop; once it stops nothing of the container is left.
A region that cannot be read does not end the export: the policy decides what
the container carries for it.

Reads and looks are questions to the surroundings of the export.  They are
numbered in the order in which they are put, and `Export.run` also tells which
regions were read.
-/

set_option autoImplicit false

namespace SegmentContainer

/-- What answers an export from outside. -/
structure Surroundings where
  /-- The outcome of the read with this number, which asks for this region. -/
  read : Nat → Placed → ReadOutcome
  /-- Whether the look with this number finds a request to stop. -/
  stop : Nat → Bool

namespace Export

inductive Contents where
  | present (bytes : Bytes)
  | zeros (size : Nat)
  | omitted
  | dropped
  deriving DecidableEq

def Contents.length : Contents → Nat
  | .present bytes => bytes.length
  | .zeros size => size
  | .omitted => 0
  | .dropped => 0

/-- A region after it was read: what the container carries for it and, if the
read failed, the record of that. -/
structure Taken where
  region : Region
  contents : Contents
  failure? : Option ReadFailure
  deriving DecidableEq

/-- What is done about a region of `size` bytes that cannot be read, and the
policy that this amounts to.  Zeros are only written for a size that a buffer
can have; a larger region is dropped. -/
def resolve (policy : ReadFailurePolicy) (size : UInt64) : Contents × ReadFailurePolicy :=
  match policy with
  | .zeroFill =>
    if size.toNat < Memory.bufferLimit then (.zeros size.toNat, .zeroFill)
    else (.dropped, .dropRegion)
  | .omit => (.omitted, .omit)
  | .dropRegion => (.dropped, .dropRegion)

def unread (policy : ReadFailurePolicy) (region : Region) (error : Error) : Taken :=
  let resolved := resolve policy region.size
  ⟨region, resolved.1,
    some ⟨region.name, region.start, region.size, error.message, resolved.2⟩⟩

/-- Settles the outcome of a read.  Bytes of another number than the region has
count as a failure. -/
def settle (policy : ReadFailurePolicy) (region : Region) : ReadOutcome → Except Halt Taken
  | .data bytes =>
    if bytes.length = region.size.toNat then .ok ⟨region, .present bytes, none⟩
    else
      .ok (unread policy region
        (.regionRead region.name region.start (.wrongLength bytes.length region.size)))
  | .failed error => .ok (unread policy region error)
  | .crashed reason => .error (.crashed reason)

structure Gathering where
  calls : List Placed
  result : Except Halt (List Taken)

def Gathering.cons (placed : Placed) (taken : Taken) (later : Gathering) : Gathering :=
  ⟨placed :: later.calls, later.result.map (taken :: ·)⟩

def gather (policy : ReadFailurePolicy) (surroundings : Surroundings) :
    Nat → List Placed → Gathering
  | _, [] => ⟨[], .ok []⟩
  | number, placed :: rest =>
    if surroundings.stop number then
      ⟨[], .error (.failed (.cancelled .regions number))⟩
    else
      match settle policy placed.region (surroundings.read number placed) with
      | .error halt => ⟨[placed], .error halt⟩
      | .ok taken => (gather policy surroundings (number + 1) rest).cons placed taken

/-- The first of `count` looks, the numbers of which start at `number`, that
finds a request to stop; `before` looks of the same kind came before. -/
def firstStop (stop : Nat → Bool) (number before : Nat) : Nat → Option Nat
  | 0 => none
  | count + 1 =>
    if stop number then some before
    else firstStop stop (number + 1) (before + 1) count

def kept (taken : List Taken) : List Taken :=
  taken.filter fun region => region.contents ≠ .dropped

def exportedSymbols (symbols : List Symbol) : List Symbol :=
  symbols.filter fun symbol => !symbol.isPlaceholder

/-- How many bytes are reserved: the counts, headers and data, but not the
symbol payload. -/
def capacity (regions : List Taken) : Nat :=
  Layout.emptyContainer + regions.length * Layout.regionHeader
    + regions.foldr (fun region size => region.contents.length + size) 0

def reserve (memory : Memory) (regions : List Taken) : Except RoomFault Unit :=
  if UInt64.size ≤ capacity regions then .error .notCountable
  else memory.reserve (capacity regions)

def writeHeader (writer : Writer) (taken : Taken) : Writer :=
  ((writer.word taken.region.start).word taken.region.endExclusive).word
    taken.region.permissions.bits

def writeData (writer : Writer) (taken : Taken) : Writer :=
  match taken.contents with
  | .present bytes => writer.bytes bytes
  | .zeros size => writer.zeros size
  | .omitted => writer
  | .dropped => writer

def writeSymbol (writer : Writer) (symbol : Symbol) : Writer :=
  writer.symbolEntry symbol.address symbol.name

def assemble (policy : ReadFailurePolicy) (image : Image) (taken : List Taken) : ExportStream :=
  let regions := kept taken
  let symbols := exportedSymbols image.symbols
  let headers := regions.foldl writeHeader (Writer.empty.count regions.length)
  let data := regions.foldl writeData headers
  let entries := symbols.foldl writeSymbol Writer.empty
  let whole := ((data.count symbols.length).count entries.length).bytes entries.toBytes
  ⟨whole.toBytes,
    { program := image.name
      policy := policy
      regionsTotal := image.regions.length
      regionsUninitialized := image.regions.length - image.selected.length
      regionsExported := regions.length
      dataSize := data.length - headers.length
      symbolsTotal := image.symbols.length
      symbolsDefaultSkipped := image.symbols.countP Symbol.isPlaceholder
      symbolsExported := symbols.length
      symbolPayloadSize := entries.length
      totalSize := whole.length
      readFailures := taken.filterMap (·.failure?) }⟩

/-- Makes the container once all selected regions were read; `looks` looks came
before.  The symbols are written into a buffer that grows past the room that was
reserved.  That growth is taken to be granted whatever the machine is, up to the
largest size of a buffer. -/
def finish (memory : Memory) (policy : ReadFailurePolicy) (image : Image)
    (stop : Nat → Bool) (looks : Nat) (taken : List Taken) : Except Halt ExportStream :=
  match reserve memory (kept taken) with
  | .error fault => .error (.failed (.bufferAllocation fault))
  | .ok _ =>
    match firstStop stop looks 0 image.symbols.length with
    | some processed => .error (.failed (.cancelled .symbols processed))
    | none =>
      let stream := assemble policy image taken
      if stream.summary.totalSize < Memory.bufferLimit then .ok stream
      else .error (.crashed "capacity overflow")

structure Run where
  calls : List Placed
  result : Except Halt ExportStream

def run (memory : Memory) (options : ExportOptions) (image : Image)
    (surroundings : Surroundings) : Run :=
  let selected := image.selected
  let gathering := gather options.onReadError surroundings 0 selected
  ⟨gathering.calls,
    gathering.result.bind
      (finish memory options.onReadError image surroundings.stop selected.length)⟩

end Export
end SegmentContainer
