import SegmentContainer.Elf.File
import SegmentContainer.Proofs.Bytes

/-!
# The tables of ELF files

A file from which tables are taken starts with the four bytes of the format, and the
numbers in its section headers are words of 64 bits.  Images rely on nothing else.
-/

set_option autoImplicit false

namespace SegmentContainer.Elf

/-- The place of a section, in memory and in its file, is given by words. -/
structure SectionHeader.Words (sectionHeader : SectionHeader) : Prop where
  address : sectionHeader.address < 2 ^ 64
  offset : sectionHeader.offset < 2 ^ 64
  size : sectionHeader.size < 2 ^ 64

theorem Encoding.number_lt (encoding : Encoding) (bytes : Bytes) :
    encoding.number bytes < 256 ^ bytes.length := by
  rw [Encoding.number]
  split
  · have bound := Bytes.toNat_lt bytes.reverse
    rwa [List.length_reverse] at bound
  · exact Bytes.toNat_lt bytes

theorem Record.address_lt (record : Record) (wideOffset narrowOffset : Nat) :
    record.address wideOffset narrowOffset < 2 ^ 64 := by
  rw [Record.address, Record.placed, Record.field]
  refine Nat.lt_of_lt_of_le (Encoding.number_lt _ _) ?_
  have short : ((record.bytes.drop (if record.encoding.wide then wideOffset else narrowOffset)).take
      (if record.encoding.wide then 8 else 4)).length ≤ 8 := by
    rw [List.length_take]
    split <;> omega
  calc 256 ^ _ ≤ 256 ^ 8 := Nat.pow_le_pow_right (by omega) short
    _ = 2 ^ 64 := by norm_num

theorem SectionHeader.words_ofRecord (record : Record) : (ofRecord record).Words :=
  ⟨record.address_lt 16 12, record.address_lt 24 16, record.address_lt 32 20⟩

theorem words_of_sectionHeaders? {bytes : Bytes} {header : FileHeader}
    {sections : List SectionHeader} (found : sectionHeaders? bytes header = some sections) :
    ∀ sectionHeader ∈ sections, sectionHeader.Words := by
  rw [sectionHeaders?] at found
  split at found
  · obtain rfl := Option.some.inj found
    simp
  · simp only [Option.bind_eq_bind, Option.bind_eq_some_iff, Option.ite_none_left_eq_some] at found
    obtain ⟨start, -, -, rest, -, made⟩ := found
    obtain rfl := Option.some.inj made
    intro sectionHeader member
    rcases List.mem_cons.mp member with rfl | member
    · exact SectionHeader.words_ofRecord _
    · obtain ⟨record, -, rfl⟩ := List.mem_map.mp member
      exact SectionHeader.words_ofRecord record

namespace File

variable {bytes : Bytes} {file : File}

theorem exists_header_of_ofBytes? (found : ofBytes? bytes = some file) :
    ∃ header, FileHeader.read? bytes = some header
      ∧ sectionHeaders? bytes header = some file.sections := by
  simp only [ofBytes?, Option.bind_eq_bind, Option.bind_eq_some_iff] at found
  obtain ⟨header, opened, programs, -, sections, listed, names, -, symbols, -, dynamic, -, made⟩ :=
    found
  split at made
  · obtain rfl := Option.some.inj made
    exact ⟨header, opened, listed⟩
  · cases made

theorem words_of_ofBytes? (found : ofBytes? bytes = some file) :
    ∀ sectionHeader ∈ file.sections, sectionHeader.Words := by
  obtain ⟨header, -, listed⟩ := exists_header_of_ofBytes? found
  exact words_of_sectionHeaders? listed

theorem magic_of_ofBytes? (found : ofBytes? bytes = some file) : bytes.take 4 = magic := by
  obtain ⟨header, opened, -⟩ := exists_header_of_ofBytes? found
  simp only [FileHeader.read?, Option.bind_eq_bind, Option.bind_eq_some_iff] at opened
  obtain ⟨identification, front, encoding, announced, -⟩ := opened
  have start : identification = bytes.take 16 := by
    simp only [read?, Bytes.slice?, List.drop_zero, Nat.zero_le, if_true] at front
    split at front
    · exact (Option.some.inj front).symm
    · cases front
  rw [Encoding.ofIdentification?] at announced
  split at announced
  · cases announced
  · rename_i same
    rw [not_not, start, List.take_take] at same
    exact same

end File
end SegmentContainer.Elf
