import SegmentContainer.Json.Document
import SegmentContainer.Permissions

/-!
# Containers

What a container holds once it is read: regions with their data, in the order of
their headers, and symbols.  Names and addresses can be looked up in it.
-/

set_option autoImplicit false

namespace SegmentContainer

/-- The header of a region: its bounds, the end excluded, and its packed
permissions. -/
structure RegionHeader where
  start : UInt64
  endExclusive : UInt64
  permissions : UInt64
  deriving DecidableEq

namespace RegionHeader

def size (header : RegionHeader) : UInt64 := header.endExclusive - header.start

def flags? (header : RegionHeader) : Option Permissions :=
  Permissions.ofBits? header.permissions

/-- The letters of the flags, or the permissions word where it has none. -/
def permissionsText (header : RegionHeader) : String :=
  match header.flags? with
  | some flags => flags.text
  | none => Numeral.upperHex header.permissions.toNat

end RegionHeader

structure ContainerRegion where
  header : RegionHeader
  data : List UInt8
  deriving DecidableEq

def ContainerRegion.contains (region : ContainerRegion) (address : UInt64) : Bool :=
  region.header.start ≤ address && address < region.header.endExclusive

structure ContainerSymbol where
  address : UInt64
  name : String
  deriving DecidableEq

structure Container where
  regions : List ContainerRegion
  symbols : List ContainerSymbol
  symbolPayloadSize : Nat
  totalSize : Nat
  deriving DecidableEq

namespace Container

/-- The address of a name; of several entries the last one counts. -/
def symbolAddress? (container : Container) (name : String) : Option UInt64 :=
  (container.symbols.reverse.find? fun symbol => symbol.name = name).map (·.address)

def regionContaining? (container : Container) (address : UInt64) : Option ContainerRegion :=
  container.regions.find? (·.contains address)

def dataSize (container : Container) : Nat :=
  container.regions.foldr (fun region size => region.data.length + size) 0

def regionJson (region : ContainerRegion) : Json :=
  .object
    [("start", .string (Numeral.upperHex region.header.start.toNat)),
     ("end", .string (Numeral.upperHex region.header.endExclusive.toNat)),
     ("size", .number region.header.size.toNat),
     ("permissions", .string region.header.permissionsText)]

def summaryJson (container : Container) : Json :=
  .object
    [("total_size", .number container.totalSize),
     ("region_count", .number container.regions.length),
     ("data_size", .number container.dataSize),
     ("regions", .array (container.regions.map regionJson)),
     ("symbol_count", .number container.symbols.length),
     ("symbol_payload_size", .number container.symbolPayloadSize)]

end Container
end SegmentContainer
