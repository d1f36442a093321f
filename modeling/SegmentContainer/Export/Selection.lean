import SegmentContainer.Image.Basic

/-!
# Selecting regions

An export takes the initialized regions in ascending order of their start;
regions that share a start keep the order of the image.
-/

set_option autoImplicit false

namespace SegmentContainer

/-- The items whose region is initialized, by start; ties keep their order. -/
def selectBy {α : Type} (region : α → Region) (items : List α) : List α :=
  (items.filter fun item => (region item).initialized).mergeSort fun first second =>
    (region first).start ≤ (region second).start

def select (regions : List Region) : List Region :=
  selectBy id regions

def Image.selected (image : Image) : List Placed :=
  selectBy Placed.region image.placed

end SegmentContainer
