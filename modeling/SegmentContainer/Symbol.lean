import SegmentContainer.Json.Document
import SegmentContainer.Layout
import SegmentContainer.Text.Utf8

/-!
# Symbols

A symbol is a named address.  Where its name came from decides whether it is
exported: names that an analysis invented as placeholders are left out.
-/

set_option autoImplicit false

namespace SegmentContainer

inductive SymbolSource where
  /-- A placeholder invented for an address without a name. -/
  | placeholder
  | analysis
  | imported
  | userDefined
  deriving DecidableEq

namespace SymbolSource

def all : List SymbolSource := [.placeholder, .analysis, .imported, .userDefined]

def word : SymbolSource → String
  | .placeholder => "default"
  | .analysis => "analysis"
  | .imported => "imported"
  | .userDefined => "user_defined"

def ofWord? (text : String) : Option SymbolSource :=
  all.find? fun source => source.word = text

end SymbolSource

structure Symbol where
  address : UInt64
  name : String
  source : SymbolSource
  deriving DecidableEq

namespace Symbol

def isPlaceholder (symbol : Symbol) : Bool :=
  symbol.source = .placeholder

def entrySize (symbol : Symbol) : Nat :=
  Layout.symbolOverhead + (Utf8.encode symbol.name).length

def toJson (symbol : Symbol) : Json :=
  .object
    [("address", .number symbol.address.toNat),
     ("name", .string symbol.name),
     ("source", .string symbol.source.word)]

end Symbol
end SegmentContainer
