/-!
# Sizes of the container layout

A container is a region count, a header per region, the data of the regions, a
symbol count with the size of the symbol payload, and the payload: an address
and a NUL-terminated name per symbol.  Every integer is a 64-bit word.
-/

set_option autoImplicit false

namespace SegmentContainer.Layout

def word : Nat := 8

def regionCount : Nat := word

/-- The header of a region: start, exclusive end and permissions. -/
def regionHeader : Nat := 3 * word

def symbolPreamble : Nat := 2 * word

def symbolOverhead : Nat := word + 1

def emptyContainer : Nat := regionCount + symbolPreamble

end SegmentContainer.Layout
