import Mathlib
import SegmentContainer.Text.Utf8

/-!
# Zero bytes in texts

The bytes of a text are those of its characters one after the other.  Only the
character U+0000 has a zero byte, so that the first zero byte of a text is its first
character of that kind.
-/

set_option autoImplicit false

namespace SegmentContainer.Utf8

def zero : Char := Char.ofNat 0

theorem encode_eq_flatMap (text : String) :
    encode text = text.toList.flatMap String.utf8EncodeChar := by
  have spelled : text.toUTF8 = text.toList.utf8Encode := by
    rw [String.toUTF8_eq_toByteArray, String.utf8Encode_toList]
  rw [encode, spelled, List.utf8Encode, List.data_toByteArray]

theorem encode_ofList (chars : List Char) :
    encode (String.ofList chars) = chars.flatMap String.utf8EncodeChar := by
  rw [encode_eq_flatMap, String.toList_ofList]

theorem encode_append (text more : String) :
    encode (text ++ more) = encode text ++ encode more := by
  rw [encode_eq_flatMap, encode_eq_flatMap, encode_eq_flatMap, String.toList_append,
    List.flatMap_append]

theorem utf8EncodeChar_zero : String.utf8EncodeChar zero = [0] := rfl

theorem zero_eq_ofNat_iff {n : Nat} (small : n < 256) :
    (0 : UInt8) = UInt8.ofNat n ↔ n = 0 := by
  rw [← UInt8.toNat_inj, UInt8.toNat_ofNat', Nat.mod_eq_of_lt small]
  exact eq_comm

/-- A character of one byte is its own code point; the bytes of a longer one all have
their highest bit set. -/
theorem zero_mem_utf8EncodeChar_iff (c : Char) :
    (0 : UInt8) ∈ String.utf8EncodeChar c ↔ c = zero := by
  constructor
  · intro member
    have code : c.val.toNat = 0 := by
      unfold String.utf8EncodeChar at member
      dsimp only at member
      split at member
      · rename_i short
        rw [List.mem_singleton, zero_eq_ofNat_iff (by omega)] at member
        exact member
      · split at member
        · simp only [List.mem_cons, List.not_mem_nil, or_false] at member
          rw [zero_eq_ofNat_iff (by omega), zero_eq_ofNat_iff (by omega)] at member
          omega
        · split at member
          · simp only [List.mem_cons, List.not_mem_nil, or_false] at member
            rw [zero_eq_ofNat_iff (by omega), zero_eq_ofNat_iff (by omega),
              zero_eq_ofNat_iff (by omega)] at member
            omega
          · simp only [List.mem_cons, List.not_mem_nil, or_false] at member
            rw [zero_eq_ofNat_iff (by omega), zero_eq_ofNat_iff (by omega),
              zero_eq_ofNat_iff (by omega), zero_eq_ofNat_iff (by omega)] at member
            omega
    exact Char.ext (UInt32.toNat_inj.mp code)
  · rintro rfl
    exact List.mem_singleton.mpr rfl

theorem zero_mem_encode_iff (text : String) :
    (0 : UInt8) ∈ encode text ↔ zero ∈ text.toList := by
  rw [encode_eq_flatMap, List.mem_flatMap]
  constructor
  · rintro ⟨c, member, inside⟩
    rwa [(zero_mem_utf8EncodeChar_iff c).mp inside] at member
  · intro member
    exact ⟨zero, member, (zero_mem_utf8EncodeChar_iff zero).mpr rfl⟩

end SegmentContainer.Utf8
