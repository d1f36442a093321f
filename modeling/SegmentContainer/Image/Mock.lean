import SegmentContainer.Image.Basic

/-!
# Mock images

An image put together by hand: each region is added with the bytes behind it,
without any, or so that reading it fails.  Regions and symbols keep the order in
which they were added.  Each region stands next to what is behind it, so that
regions of equal start and name stay distinct.
-/

set_option autoImplicit false

namespace SegmentContainer

inductive MockContents where
  | bytes (held : Bytes)
  | nothing
  | failing
  deriving DecidableEq

structure MockImage where
  name : String
  entries : List (Region × MockContents)
  symbols : List Symbol

namespace MockImage

def empty (name : String) : MockImage := ⟨name, [], []⟩

structure Fault where
  name : String
  fault : Region.Fault
  deriving DecidableEq

def Fault.message (fault : Fault) : String :=
  "invalid mock region " ++ fault.name ++ ": " ++ (Error.bounds fault.fault).message

def add (image : MockImage) (name : String) (start size : UInt64)
    (permissions : Permissions) (initialized : Bool) (contents : MockContents) :
    Except Fault MockImage :=
  match Region.ofSize name start size permissions with
  | .error fault => .error ⟨name, fault⟩
  | .ok region =>
    .ok { image with
      entries := image.entries ++ [(region.withInitialized initialized, contents)] }

def addBytes (image : MockImage) (name : String) (start : UInt64)
    (permissions : Permissions) (held : Bytes) : Except Fault MockImage :=
  image.add name start (UInt64.ofNat held.length) permissions true (.bytes held)

def addFilled (image : MockImage) (name : String) (start : UInt64) (size : Nat)
    (permissions : Permissions) (fill : UInt8) : Except Fault MockImage :=
  image.addBytes name start permissions (List.replicate size fill)

def addUninitialized (image : MockImage) (name : String) (start size : UInt64)
    (permissions : Permissions) : Except Fault MockImage :=
  image.add name start size permissions false .nothing

def addFailing (image : MockImage) (name : String) (start size : UInt64)
    (permissions : Permissions) : Except Fault MockImage :=
  image.add name start size permissions true .failing

def addSymbol (image : MockImage) (symbol : Symbol) : MockImage :=
  { image with symbols := image.symbols ++ [symbol] }

def toImage (image : MockImage) : Image :=
  ⟨image.name, image.entries.map (·.1), image.symbols⟩

/-- The number of the region that a description fits: the first one with its
start and name. -/
def locate? (image : MockImage) (asked : Region) : Option Nat :=
  image.entries.findIdx? fun entry =>
    entry.1.start = asked.start && entry.1.name = asked.name

def contentsAt (image : MockImage) : Option Nat → MockContents
  | none => .nothing
  | some index =>
    match image.entries[index]? with
    | some entry => entry.2
    | none => .nothing

def read (image : MockImage) (index : Option Nat) (asked : Region) : ReadOutcome :=
  match image.contentsAt index with
  | .failing => .refused asked .injected
  | .bytes held =>
    if held.length = asked.size.toNat then .data held
    else .refused asked (.sizeMismatch held.length asked.size)
  | .nothing => .refused asked .noData

end MockImage
end SegmentContainer
