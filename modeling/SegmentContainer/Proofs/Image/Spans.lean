import SegmentContainer.Proofs.Region

/-!
# Spans of addresses

A region is made from its first and its last address, or from its first address and its
size.  Both constructors refuse exactly the spans that 64 bits cannot tell: those that are
empty or backwards, and those that no address follows.  For a region that they make, the
words for its end and its size are the whole numbers that they stand for, and each
constructor makes the same region again from what the region says about itself.
-/

set_option autoImplicit false

namespace SegmentContainer.Region

/-- No word of the region is cut off: its end follows its last address, its size leads from
its start to its end, and both constructors make it again. -/
structure Exact (region : Region) : Prop where
  endExclusive : region.endExclusive.toNat = region.last.toNat + 1
  forwards : region.start ≤ region.endExclusive
  size : region.start.toNat + region.size.toNat = region.last.toNat + 1
  inhabited : 1 ≤ region.size.toNat
  contains : ∀ address, region.contains address = true
    ↔ region.start ≤ address ∧ address < region.endExclusive
  remadeBySize :
    ofSize region.name region.start region.size region.permissions = .ok region
  remadeByBounds :
    ofBounds region.name region.start region.last region.permissions = .ok region

section

variable {name : String} {start last size : UInt64} {permissions : Permissions}
  {region : Region}

theorem ofBounds_eq_ok_iff :
    ofBounds name start last permissions = .ok region
      ↔ (start ≤ last ∧ last.toNat < 2 ^ 64 - 1)
        ∧ region = ⟨name, start, last, permissions, true⟩ := by
  constructor
  · intro made
    have admitted := admitted_of_ofBounds made
    obtain rfl := eq_of_ofBounds made
    exact ⟨⟨admitted.ordered, admitted.below⟩, rfl⟩
  · rintro ⟨⟨ordered, below⟩, rfl⟩
    have apart : last ≠ topAddress := by
      rintro rfl
      exact absurd below (by decide)
    rw [ofBounds, if_neg (UInt64.not_lt.mpr ordered), if_neg apart]

theorem ofSize_eq_ok_iff :
    ofSize name start size permissions = .ok region
      ↔ (0 < size.toNat ∧ start.toNat + size.toNat < 2 ^ 64)
        ∧ region = ⟨name, start, start + (size - 1), permissions, true⟩ := by
  constructor
  · intro made
    have inhabited : 0 < size.toNat := by
      rw [Nat.pos_iff_ne_zero]
      intro none
      have empty : size = 0 := UInt64.toNat_inj.mp none
      rw [ofSize, if_pos (Or.inl empty)] at made
      cases made
    have room := lt_of_ofSize inhabited made
    rw [ofSize_of_lt inhabited room] at made
    exact ⟨⟨inhabited, room⟩, (Except.ok.inj made).symm⟩
  · rintro ⟨⟨inhabited, room⟩, rfl⟩
    exact ofSize_of_lt inhabited room name permissions

theorem size_of_ofSize (made : ofSize name start size permissions = .ok region) :
    region.size = size := by
  have admitted := admitted_of_ofSize made
  obtain ⟨⟨inhabited, room⟩, rfl⟩ := ofSize_eq_ok_iff.mp made
  have last := toNat_last inhabited room.le
  apply UInt64.toNat_inj.mp
  rw [admitted.toNat_size]
  simp only [width]
  omega

end

variable {region : Region}

theorem Admitted.add_size (admitted : region.Admitted) :
    region.start.toNat + region.size.toNat = region.last.toNat + 1 := by
  have ordered := admitted.toNat_ordered
  rw [admitted.toNat_size, width]
  omega

theorem Admitted.toNat_endExclusive (admitted : region.Admitted) :
    region.endExclusive.toNat = region.last.toNat + 1 := by
  rw [admitted.endExclusive_eq, admitted.toNat_next]

theorem Admitted.contains_iff (admitted : region.Admitted) (address : UInt64) :
    region.contains address = true
      ↔ region.start ≤ address ∧ address < region.endExclusive := by
  rw [contains, Bool.and_eq_true, decide_eq_true_eq, decide_eq_true_eq,
    UInt64.lt_iff_toNat_lt, UInt64.le_iff_toNat_le (a := address),
    admitted.toNat_endExclusive, Nat.lt_succ_iff]

theorem Admitted.remadeBySize (admitted : region.Admitted) (filled : region.initialized = true) :
    ofSize region.name region.start region.size region.permissions = .ok region := by
  have sum := admitted.add_size
  have below := admitted.below
  have ordered := admitted.toNat_ordered
  have inhabited : 0 < region.size.toNat := by omega
  have room : region.start.toNat + region.size.toNat < 2 ^ 64 := by omega
  have last : region.start + (region.size - 1) = region.last := by
    have sameEnd := toNat_last inhabited room.le
    apply UInt64.toNat_inj.mp
    omega
  rw [ofSize_of_lt inhabited room, last, ← filled]

theorem Admitted.exact (admitted : region.Admitted) (filled : region.initialized = true) :
    region.Exact where
  endExclusive := admitted.toNat_endExclusive
  forwards := by
    rw [admitted.endExclusive_eq]
    exact admitted.header_ordered
  size := admitted.add_size
  inhabited := by
    have sum := admitted.add_size
    have ordered := admitted.toNat_ordered
    omega
  contains := admitted.contains_iff
  remadeBySize := admitted.remadeBySize filled
  remadeByBounds := ofBounds_eq_ok_iff.mpr
    ⟨⟨admitted.ordered, admitted.below⟩, by rw [← filled]⟩

/-- Which bounds and which sizes describe a region, and that all of its words are exact. -/
theorem exact_of_constructors (name : String) (start last size : UInt64)
    (permissions : Permissions) :
    ((∃ region, ofBounds name start last permissions = .ok region)
        ↔ start ≤ last ∧ last.toNat < 2 ^ 64 - 1)
      ∧ ((∃ region, ofSize name start size permissions = .ok region)
        ↔ 1 ≤ size.toNat ∧ start.toNat + size.toNat ≤ 2 ^ 64 - 1)
      ∧ (∀ region, ofBounds name start last permissions = .ok region →
        region = ⟨name, start, last, permissions, true⟩ ∧ region.Exact)
      ∧ ∀ region, ofSize name start size permissions = .ok region →
        region = ⟨name, start, start + (size - 1), permissions, true⟩
          ∧ region.size = size ∧ region.Exact := by
  refine ⟨⟨?_, ?_⟩, ⟨?_, ?_⟩, ?_, ?_⟩
  · rintro ⟨region, made⟩
    exact (ofBounds_eq_ok_iff.mp made).1
  · intro bounds
    exact ⟨_, ofBounds_eq_ok_iff.mpr ⟨bounds, rfl⟩⟩
  · rintro ⟨region, made⟩
    have fits := (ofSize_eq_ok_iff.mp made).1
    omega
  · rintro ⟨inhabited, room⟩
    exact ⟨_, ofSize_eq_ok_iff.mpr ⟨⟨inhabited, by omega⟩, rfl⟩⟩
  · intro region made
    have admitted := admitted_of_ofBounds made
    have same := eq_of_ofBounds made
    exact ⟨same, admitted.exact (by rw [same])⟩
  · intro region made
    have admitted := admitted_of_ofSize made
    have same := (ofSize_eq_ok_iff.mp made).2
    exact ⟨same, size_of_ofSize made, admitted.exact (by rw [same])⟩

/-- The last address that a region can have is the one before the highest. -/
example : ofSize "r" 0xFFFFFFFFFFFFFFFE 1 .none
    = .ok ⟨"r", 0xFFFFFFFFFFFFFFFE, 0xFFFFFFFFFFFFFFFE, .none, true⟩ := by decide

end SegmentContainer.Region
