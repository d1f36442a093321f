import SegmentContainer.Container.Basic
import SegmentContainer.Layout
import SegmentContainer.Text.Utf8

/-!
# The encoding of containers

The bytes of a container, said once for the whole format and without a cursor:
headers, data and symbol entries one after the other, each list behind its count.
A container has an encoding that can be read back only if it is well formed, which
is a condition on each region and each symbol and on the two sizes it states.
-/

set_option autoImplicit false

namespace SegmentContainer

def RegionHeader.encode (header : RegionHeader) : Bytes :=
  Bytes.ofWord header.start ++ Bytes.ofWord header.endExclusive
    ++ Bytes.ofWord header.permissions

/-- A header with ordered bounds and known permissions, followed by as many bytes
as it announces. -/
structure ContainerRegion.WellFormed (region : ContainerRegion) : Prop where
  ordered : region.header.start ≤ region.header.endExclusive
  known : region.header.permissions.toNat < 8
  filled : region.data.length
    = region.header.endExclusive.toNat - region.header.start.toNat

def ContainerSymbol.encode (symbol : ContainerSymbol) : Bytes :=
  Bytes.ofWord symbol.address ++ (Utf8.encode symbol.name ++ [0])

/-- A name without the zero byte that ends it. -/
def ContainerSymbol.WellFormed (symbol : ContainerSymbol) : Prop :=
  (0 : UInt8) ∉ Utf8.encode symbol.name

namespace Container

def encodeHeaders (headers : List RegionHeader) : Bytes :=
  Bytes.ofWord (UInt64.ofNat headers.length) ++ headers.flatMap RegionHeader.encode

def encodeSymbols (symbols : List ContainerSymbol) (payloadSize : Nat) : Bytes :=
  Bytes.ofWord (UInt64.ofNat symbols.length)
    ++ (Bytes.ofWord (UInt64.ofNat payloadSize) ++ symbols.flatMap ContainerSymbol.encode)

def encode (container : Container) : Bytes :=
  encodeHeaders (container.regions.map (·.header))
    ++ (container.regions.flatMap (·.data)
      ++ encodeSymbols container.symbols container.symbolPayloadSize)

def payloadSize : List ContainerSymbol → Nat
  | [] => 0
  | symbol :: rest =>
    Layout.symbolOverhead + (Utf8.encode symbol.name).length + payloadSize rest

/-- Regions and symbols are well formed, and the two sizes are those of the
encoding. -/
structure WellFormed (container : Container) : Prop where
  regions : ∀ region ∈ container.regions, region.WellFormed
  symbols : ∀ symbol ∈ container.symbols, symbol.WellFormed
  payload : container.symbolPayloadSize = payloadSize container.symbols
  total : container.totalSize = container.encode.length

end Container

theorem RegionHeader.length_encode (header : RegionHeader) :
    header.encode.length = Layout.regionHeader := by
  simp [encode, Bytes.length_ofWord, Layout.regionHeader, Layout.word]

theorem ContainerSymbol.length_encode (symbol : ContainerSymbol) :
    symbol.encode.length = Layout.symbolOverhead + (Utf8.encode symbol.name).length := by
  simp only [encode, List.length_append, Bytes.length_ofWord, List.length_singleton,
    Layout.symbolOverhead, Layout.word]
  omega

theorem Container.length_flatMap_encode (symbols : List ContainerSymbol) :
    (symbols.flatMap ContainerSymbol.encode).length = payloadSize symbols := by
  induction symbols with
  | nil => rfl
  | cons symbol rest ih =>
    rw [List.flatMap_cons, List.length_append, ContainerSymbol.length_encode, ih, payloadSize]

end SegmentContainer
