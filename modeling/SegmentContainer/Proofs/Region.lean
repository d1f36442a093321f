import Mathlib
import SegmentContainer.Container.Encoding
import SegmentContainer.Region

/-!
# Bounds of regions

The constructors of regions admit bounds that are in order and end below the highest
address.  For such a region the exclusive end and the size are what they are as whole
numbers, and its header is one that readers of containers accept.
-/

set_option autoImplicit false

namespace SegmentContainer.Region

/-- Bounds in order, and an end that can also be written as an exclusive one. -/
structure Admitted (region : Region) : Prop where
  ordered : region.start ≤ region.last
  below : region.last.toNat < 2 ^ 64 - 1

def width (region : Region) : Nat :=
  region.last.toNat - region.start.toNat + 1

/-- What a container holds about a region: its start, the address after its last byte
and its packed permissions. -/
def header (region : Region) : RegionHeader :=
  ⟨region.start, region.last + 1, region.permissions.bits⟩

/-- The header that is written for a region.  It is another one than `header` only where
no address follows the last one. -/
def writtenHeader (region : Region) : RegionHeader :=
  ⟨region.start, region.endExclusive, region.permissions.bits⟩

section

variable {name : String} {start last size : UInt64} {permissions : Permissions} {region : Region}

theorem eq_of_ofBounds (made : ofBounds name start last permissions = .ok region) :
    region = ⟨name, start, last, permissions, true⟩ := by
  unfold ofBounds at made
  split at made
  · cases made
  · split at made
    · cases made
    · exact (Except.ok.inj made).symm

theorem admitted_of_ofBounds (made : ofBounds name start last permissions = .ok region) :
    region.Admitted := by
  unfold ofBounds at made
  split at made
  · cases made
  · rename_i ordered
    split at made
    · cases made
    · rename_i below
      obtain rfl := Except.ok.inj made
      refine ⟨UInt64.not_lt.mp ordered, ?_⟩
      have bound := last.toNat_lt
      have different : last.toNat ≠ topAddress.toNat := fun same =>
        below (UInt64.toNat_inj.mp same)
      have top : topAddress.toNat = 2 ^ 64 - 1 := rfl
      change last.toNat < 2 ^ 64 - 1
      omega

theorem admitted_of_ofSize (made : ofSize name start size permissions = .ok region) :
    region.Admitted := by
  unfold ofSize at made
  split at made
  · cases made
  · exact admitted_of_ofBounds made

theorem toNat_last (inhabited : 0 < size.toNat) (room : start.toNat + size.toNat ≤ 2 ^ 64) :
    (start + (size - 1)).toNat + 1 = start.toNat + size.toNat := by
  have one : (1 : UInt64).toNat = 1 := rfl
  have less : (size - 1).toNat = size.toNat - 1 :=
    UInt64.toNat_sub_of_le _ _ (UInt64.le_iff_toNat_le.mpr inhabited)
  rw [UInt64.toNat_add, less, Nat.mod_eq_of_lt (by omega)]
  omega

theorem ofSize_of_lt (inhabited : 0 < size.toNat) (room : start.toNat + size.toNat < 2 ^ 64)
    (name : String) (permissions : Permissions) :
    ofSize name start size permissions
      = .ok ⟨name, start, start + (size - 1), permissions, true⟩ := by
  have last := toNat_last inhabited room.le
  have words : UInt64.size = 2 ^ 64 := rfl
  have top : topAddress.toNat = 2 ^ 64 - 1 := rfl
  have fits : ¬ (size = 0 ∨ UInt64.size ≤ start.toNat + (size.toNat - 1)) := by
    rintro (rfl | wide)
    · cases inhabited
    · omega
  have forwards : ¬ start + (size - 1) < start := by
    rw [UInt64.lt_iff_toNat_lt]
    omega
  have below : start + (size - 1) ≠ topAddress := by
    intro same
    rw [same] at last
    omega
  rw [ofSize, if_neg fits, ofBounds, if_neg forwards, if_neg below]

theorem lt_of_ofSize (inhabited : 0 < size.toNat)
    (made : ofSize name start size permissions = .ok region) :
    start.toNat + size.toNat < 2 ^ 64 := by
  have below := (admitted_of_ofSize made).below
  have words : UInt64.size = 2 ^ 64 := rfl
  unfold ofSize at made
  split at made
  · cases made
  · rename_i fits
    rw [eq_of_ofBounds made] at below
    have last : (start + (size - 1)).toNat + 1 = start.toNat + size.toNat :=
      toNat_last inhabited (by omega)
    change (start + (size - 1)).toNat < 2 ^ 64 - 1 at below
    omega

end

variable {region : Region}

theorem Admitted.toNat_ordered (admitted : region.Admitted) :
    region.start.toNat ≤ region.last.toNat :=
  UInt64.le_iff_toNat_le.mp admitted.ordered

theorem Admitted.endExclusive_eq (admitted : region.Admitted) :
    region.endExclusive = region.last + 1 := by
  have below := admitted.below
  have apart : region.last ≠ topAddress := by
    intro top
    rw [top] at below
    exact absurd below (by decide)
  rw [endExclusive, if_neg apart]

theorem Admitted.writtenHeader_eq (admitted : region.Admitted) :
    region.writtenHeader = region.header := by
  rw [writtenHeader, admitted.endExclusive_eq, header]

theorem Admitted.toNat_next (admitted : region.Admitted) :
    (region.last + 1).toNat = region.last.toNat + 1 := by
  have below := admitted.below
  have one : (1 : UInt64).toNat = 1 := rfl
  rw [UInt64.toNat_add, one, Nat.mod_eq_of_lt (by omega)]

theorem Admitted.header_ordered (admitted : region.Admitted) :
    region.header.start ≤ region.header.endExclusive := by
  have ordered := admitted.toNat_ordered
  have next := admitted.toNat_next
  apply UInt64.le_iff_toNat_le.mpr
  simp only [header]
  omega

theorem Admitted.toNat_size (admitted : region.Admitted) :
    region.size.toNat = region.width := by
  have ordered := admitted.toNat_ordered
  have next := admitted.toNat_next
  have inOrder := UInt64.le_iff_toNat_le.mp admitted.header_ordered
  simp only [header] at inOrder
  rw [size, admitted.endExclusive_eq,
    UInt64.toNat_sub_of_le _ _ (UInt64.le_iff_toNat_le.mpr inOrder), next, width]
  omega

end SegmentContainer.Region

namespace SegmentContainer

theorem Permissions.toNat_bits (permissions : Permissions) :
    permissions.bits.toNat
      = 4 * permissions.read.toNat + 2 * permissions.write.toNat
          + permissions.execute.toNat := by
  obtain ⟨read, write, execute⟩ := permissions
  cases read <;> cases write <;> cases execute <;> rfl

theorem Permissions.toNat_bits_lt (permissions : Permissions) : permissions.bits.toNat < 8 := by
  have read := permissions.read.toNat_lt
  have write := permissions.write.toNat_lt
  have execute := permissions.execute.toNat_lt
  rw [permissions.toNat_bits]
  omega

theorem Region.Admitted.wellFormed {region : Region} (admitted : region.Admitted)
    {data : Bytes} (filled : data.length = region.width) :
    (ContainerRegion.mk region.header data).WellFormed := by
  refine ⟨admitted.header_ordered, region.permissions.toNat_bits_lt, ?_⟩
  have ordered := admitted.toNat_ordered
  have next := admitted.toNat_next
  simp only [Region.header]
  rw [filled, Region.width, next]
  omega

end SegmentContainer
