import SegmentContainer.Export.Memory
import SegmentContainer.Image.Mock

/-!
# Mock images in side tables

The same images once more, built call by call.  The regions stand in a list, and what is
behind them in two tables by the number that a region had when it was added: its bytes, or
that reading it fails.  A region is looked up as itself, and a copy of one by its start and
name.
-/

set_option autoImplicit false

namespace SegmentContainer

inductive MockCall where
  | rename (name : String)
  | region (name : String) (start : UInt64) (permissions : Permissions) (held : Bytes)
  | filled (name : String) (start : UInt64) (size : Nat) (permissions : Permissions)
      (fill : UInt8)
  | uninitialized (name : String) (start size : UInt64) (permissions : Permissions)
  | failing (name : String) (start size : UInt64) (permissions : Permissions)
  | symbol (symbol : Symbol)
  deriving DecidableEq

inductive MockCrash where
  | region (fault : MockImage.Fault)
  | capacity
  deriving DecidableEq

def MockCrash.message : MockCrash → String
  | .region fault => fault.message
  | .capacity => "capacity overflow"

structure MockTable where
  name : String
  regions : List Region
  symbols : List Symbol
  /-- The bytes that were put in for numbers of regions, the last ones first. -/
  data : List (Nat × Bytes)
  failing : List Nat
  deriving DecidableEq

namespace MockTable

def empty : MockTable := ⟨"mock", [], [], [], []⟩

def region (name : String) (start size : UInt64) (permissions : Permissions) :
    Except MockCrash Region :=
  match Region.ofSize name start size permissions with
  | .error fault => .error (.region ⟨name, fault⟩)
  | .ok region => .ok region

def push (table : MockTable) (region : Region) : MockTable :=
  { table with regions := table.regions ++ [region] }

/-- Adds a region with bytes.  No vector has as many bytes as the limit of buffers. -/
def addBytes (table : MockTable) (name : String) (start : UInt64) (permissions : Permissions)
    (held : Bytes) : Except MockCrash MockTable :=
  if Memory.bufferLimit ≤ held.length then .error .capacity
  else do
    let region ← region name start (UInt64.ofNat held.length) permissions
    let table := { table with data := (table.regions.length, held) :: table.data }
    return table.push region

def apply (table : MockTable) : MockCall → Except MockCrash MockTable
  | .rename name => return { table with name := name }
  | .region name start permissions held => table.addBytes name start permissions held
  | .filled name start size permissions fill =>
    table.addBytes name start permissions (List.replicate size fill)
  | .uninitialized name start size permissions => do
    let region ← region name start size permissions
    return table.push (region.withInitialized false)
  | .failing name start size permissions => do
    let region ← region name start size permissions
    let table := { table with failing := table.regions.length :: table.failing }
    return table.push region
  | .symbol symbol => return { table with symbols := table.symbols ++ [symbol] }

def build (calls : List MockCall) : Except MockCrash MockTable :=
  calls.foldlM apply empty

/-- The number of a region.  One that is itself in the list has its own number, `own?`; any
other one has that of the first with its start and name. -/
def placeOf? (table : MockTable) (own? : Option Nat) (asked : Region) : Option Nat :=
  (own?.filter fun own => own < table.regions.length).or
    (table.regions.findIdx? fun region =>
      region.start = asked.start && region.name = asked.name)

def read (table : MockTable) (own? : Option Nat) (asked : Region) : ReadOutcome :=
  let place? := table.placeOf? own? asked
  if place?.any table.failing.contains then .refused asked .injected
  else
    match place?.bind fun place => table.data.lookup place with
    | none => .refused asked .noData
    | some held =>
      if held.length = asked.size.toNat then .data held
      else .refused asked (.sizeMismatch held.length asked.size)

end MockTable

namespace MockImage

def apply (image : MockImage) : MockCall → Except Fault MockImage
  | .rename name => return { image with name := name }
  | .region name start permissions held => image.addBytes name start permissions held
  | .filled name start size permissions fill =>
    image.addFilled name start size permissions fill
  | .uninitialized name start size permissions =>
    image.addUninitialized name start size permissions
  | .failing name start size permissions => image.addFailing name start size permissions
  | .symbol symbol => return image.addSymbol symbol

def build (calls : List MockCall) : Except Fault MockImage :=
  calls.foldlM apply (empty "mock")

end MockImage
end SegmentContainer
