import SegmentContainer.Proofs.Container.Grammar
import SegmentContainer.Proofs.Export.Encoding
import SegmentContainer.Proofs.Text.Utf8

/-!
# Reading exports back

An aligned export is read back as the container that belongs to it exactly when no
exported name holds the character U+0000, which ends a name.  With such a name the
entries are read at other places from there on.  The container may then still be
accepted, but with other symbols; what is left of the export in it is said here.
-/

set_option autoImplicit false

namespace SegmentContainer

theorem ContainerSymbol.wellFormed_iff (symbol : ContainerSymbol) :
    symbol.WellFormed ↔ Utf8.zero ∉ symbol.name.toList :=
  not_congr (Utf8.zero_mem_encode_iff symbol.name)

/-- A symbol with the part of its name that stands before the first U+0000. -/
def ContainerSymbol.cut (symbol : ContainerSymbol) : ContainerSymbol :=
  ⟨symbol.address, String.ofList (symbol.name.toList.takeWhile (· ≠ Utf8.zero))⟩

theorem ContainerSymbol.wellFormed_cut (symbol : ContainerSymbol) : symbol.cut.WellFormed := by
  rw [ContainerSymbol.wellFormed_iff, cut, String.toList_ofList]
  intro member
  simpa using List.mem_takeWhile_imp member

theorem ContainerSymbol.encode_eq_cut_append {symbol : ContainerSymbol}
    (broken : Utf8.zero ∈ symbol.name.toList) :
    ∃ behind, behind ≠ [] ∧ symbol.encode = symbol.cut.encode ++ behind := by
  obtain ⟨front, rest, split, clean⟩ := List.eq_append_cons_of_mem broken
  have inside : ∀ c ∈ front, decide (c ≠ Utf8.zero) = true := by
    intro c member
    have other : c ≠ Utf8.zero := fun same => clean (same ▸ member)
    simpa using other
  have short : symbol.name.toList.takeWhile (· ≠ Utf8.zero) = front := by
    rw [split, List.takeWhile_append_of_pos inside]
    simp
  refine ⟨rest.flatMap String.utf8EncodeChar ++ [0], by simp, ?_⟩
  rw [encode, encode, cut, Utf8.encode_ofList, Utf8.encode_eq_flatMap, short, split,
    List.flatMap_append, List.flatMap_cons, Utf8.utf8EncodeChar_zero]
  simp only [List.append_assoc]

theorem ContainerSymbol.encode_ne_nil (symbol : ContainerSymbol) : symbol.encode ≠ [] := by
  intro empty
  have long := symbol.length_encode
  rw [empty] at long
  have overhead : Layout.symbolOverhead = 9 := rfl
  rw [List.length_nil] at long
  omega

namespace Container

/-- A list of entries that begins like other entries, and then with a whole one, is made
up of these to begin with. -/
theorem entries_agree {front : List ContainerSymbol} {entry : ContainerSymbol} {behind : Bytes}
    {found : List ContainerSymbol} (frontFormed : ∀ symbol ∈ front, symbol.WellFormed)
    (entryFormed : entry.WellFormed) (foundFormed : ∀ symbol ∈ found, symbol.WellFormed)
    (bound : (found.flatMap ContainerSymbol.encode).length < 2 ^ 64)
    (same : found.flatMap ContainerSymbol.encode
      = front.flatMap ContainerSymbol.encode ++ (entry.encode ++ behind)) :
    ∃ later, found = front ++ entry :: later
      ∧ later.flatMap ContainerSymbol.encode = behind := by
  induction found generalizing front with
  | nil =>
    have nothing := (List.append_eq_nil_iff.mp same.symm).2
    exact absurd (List.append_eq_nil_iff.mp nothing).1 entry.encode_ne_nil
  | cons symbol found ih =>
    have symbolFormed := foundFormed symbol List.mem_cons_self
    rw [List.flatMap_cons] at same bound
    cases front with
    | nil =>
      obtain ⟨rfl, rest⟩ :=
        symbolEntry_reads.eq_of_append_eq bound symbolFormed entryFormed same
      exact ⟨found, rfl, rest⟩
    | cons first front =>
      rw [List.flatMap_cons, List.append_assoc] at same
      obtain ⟨rfl, rest⟩ := symbolEntry_reads.eq_of_append_eq bound symbolFormed
        (frontFormed first List.mem_cons_self) same
      rw [List.length_append] at bound
      obtain ⟨later, rfl, ended⟩ :=
        ih (fun other member => frontFormed other (List.mem_cons_of_mem _ member))
          (fun other member => foundFormed other (List.mem_cons_of_mem _ member))
          (by omega) rest
      exact ⟨later, rfl, ended⟩

/-- Whole entries with the bytes of entries whose names may hold U+0000, and as many of
them: they agree up to the first such name, in place of which its cut is read, and that
name is not in the last entry. -/
theorem cut_of_entries_eq {front back found : List ContainerSymbol} {entry : ContainerSymbol}
    (foundFormed : ∀ symbol ∈ found, symbol.WellFormed)
    (bound : (found.flatMap ContainerSymbol.encode).length < 2 ^ 64)
    (count : found.length = (front ++ entry :: back).length)
    (same : found.flatMap ContainerSymbol.encode
      = (front ++ entry :: back).flatMap ContainerSymbol.encode)
    (clean : ∀ symbol ∈ front, Utf8.zero ∉ symbol.name.toList)
    (broken : Utf8.zero ∈ entry.name.toList) :
    back ≠ [] ∧ ∃ later, found = front ++ entry.cut :: later := by
  obtain ⟨behind, more, started⟩ := ContainerSymbol.encode_eq_cut_append broken
  rw [List.flatMap_append, List.flatMap_cons, started, List.append_assoc] at same
  obtain ⟨later, agree, rest⟩ := entries_agree
    (fun symbol member => symbol.wellFormed_iff.mpr (clean symbol member))
    entry.wellFormed_cut foundFormed bound same
  refine ⟨?_, later, agree⟩
  -- as many entries as were written leave no room for the bytes behind the last one
  intro last
  rw [agree, last, List.length_append, List.length_append, List.length_cons,
    List.length_cons, List.length_nil] at count
  have none : later = [] := List.eq_nil_of_length_eq_zero (by omega)
  rw [none, List.flatMap_nil] at rest
  exact more (List.append_eq_nil_iff.mp rest.symm).1

theorem parts_of_encode_eq {container other : Container} (formed : container.WellFormed)
    (regionsFormed : ∀ region ∈ other.regions, region.WellFormed)
    (bound : container.encode.length < 2 ^ 64) (same : container.encode = other.encode) :
    container.regions = other.regions ∧ container.symbols.length = other.symbols.length
      ∧ container.symbols.flatMap ContainerSymbol.encode
          = other.symbols.flatMap ContainerSymbol.encode := by
  have otherBound := same ▸ bound
  rw [encode, ← List.append_assoc] at bound
  rw [encode, ← List.append_assoc] at otherBound
  obtain ⟨regions, symbols⟩ := regionTable_reads.eq_of_append_eq bound formed.regions
    regionsFormed (by simpa [encode] using same)
  have fewer := length_le_payloadSize container.symbols
  have otherFewer := length_le_payloadSize other.symbols
  have payload := length_flatMap_encode container.symbols
  have otherPayload := length_flatMap_encode other.symbols
  simp only [encodeSymbols, List.length_append] at bound otherBound
  obtain ⟨counts, rest⟩ := List.append_inj symbols
    ((Bytes.length_ofWord _).trans (Bytes.length_ofWord _).symm)
  obtain ⟨-, entries⟩ := List.append_inj rest
    ((Bytes.length_ofWord _).trans (Bytes.length_ofWord _).symm)
  exact ⟨regions, Bytes.ofWord_ofNat_inj (by omega) (by omega) counts, entries⟩

end Container

theorem Image.entries_wellFormed_iff (image : Image) :
    (∀ entry ∈ image.entries, entry.WellFormed)
      ↔ ∀ symbol ∈ image.symbols, symbol.source ≠ .placeholder →
          Utf8.zero ∉ symbol.name.toList := by
  simp only [Image.entries, List.forall_mem_map, List.mem_filter, decide_eq_true_eq, and_imp,
    ContainerSymbol.wellFormed_iff]
  rfl

namespace Export

variable {memory : Memory} {options : ExportOptions} {image : Image}
  {surroundings : Surroundings} {stream : ExportStream}

theorem container_wellFormed (admitted : ∀ region ∈ image.regions, region.Admitted)
    (exported : (run memory options image surroundings).result = .ok stream)
    (aligned : stream.summary.isAligned = true)
    (clean : ∀ entry ∈ image.entries, entry.WellFormed) :
    (image.container options.onReadError surroundings.read image.selected).WellFormed where
  regions := wellFormed_of_aligned admitted exported aligned
  symbols := clean
  payload := rfl
  total := image.totalSize_container _ _ _

theorem parse_of_run_ok (admitted : ∀ region ∈ image.regions, region.Admitted)
    (exported : (run memory options image surroundings).result = .ok stream)
    (aligned : stream.summary.isAligned = true)
    (clean : ∀ entry ∈ image.entries, entry.WellFormed) :
    Container.parse stream.bytes
      = .ok (image.container options.onReadError surroundings.read image.selected) := by
  obtain ⟨bytes, -, -, small⟩ := encode_of_run_ok admitted exported
  exact (Container.parse_eq_ok_iff _ _ (by omega)).mpr
    ⟨container_wellFormed admitted exported aligned clean, bytes⟩

theorem parts_of_parse {container : Container}
    (admitted : ∀ region ∈ image.regions, region.Admitted)
    (exported : (run memory options image surroundings).result = .ok stream)
    (aligned : stream.summary.isAligned = true)
    (read : Container.parse stream.bytes = .ok container) :
    container.regions = carriedFrom options.onReadError surroundings.read 0 image.selected
      ∧ container.symbols.length = image.entries.length
      ∧ container.symbols.flatMap ContainerSymbol.encode
          = image.entries.flatMap ContainerSymbol.encode := by
  obtain ⟨bytes, -, -, small⟩ := encode_of_run_ok admitted exported
  obtain ⟨formed, encoded⟩ := (Container.parse_eq_ok_iff _ _ (by omega)).mp read
  exact Container.parts_of_encode_eq formed (wellFormed_of_aligned admitted exported aligned)
    (by rw [← encoded]; omega) (encoded.symm.trans bytes)

/-- An aligned export is read back as the regions it carries in the order of export, the
exported symbols in the order of the image and the sizes it reports, exactly when no
exported name holds U+0000. -/
theorem parse_export_iff (memory : Memory) (options : ExportOptions) (image : Image)
    (surroundings : Surroundings) (stream : ExportStream)
    (admitted : ∀ region ∈ image.regions, region.Admitted)
    (exported : (run memory options image surroundings).result = .ok stream)
    (aligned : stream.summary.isAligned = true) :
    image.ExportOrder (run memory options image surroundings).calls
      ∧ (Container.parse stream.bytes = .ok
          { regions := carriedFrom options.onReadError surroundings.read 0
              (run memory options image surroundings).calls
            symbols := image.entries
            symbolPayloadSize := stream.summary.symbolPayloadSize
            totalSize := stream.summary.totalSize }
        ↔ ∀ symbol ∈ image.symbols, symbol.source ≠ .placeholder →
            Utf8.zero ∉ symbol.name.toList) := by
  obtain ⟨bytes, payload, total, small⟩ := encode_of_run_ok admitted exported
  rw [calls_of_run_ok exported, ← image.entries_wellFormed_iff,
    Container.parse_eq_ok_iff _ _ (by omega)]
  refine ⟨image.selected_exportOrder, fun read => read.1.symbols, fun clean => ?_⟩
  have formed := container_wellFormed admitted exported aligned clean
  have same : (image.container options.onReadError surroundings.read image.selected)
      = ⟨carriedFrom options.onReadError surroundings.read 0 image.selected, image.entries,
          stream.summary.symbolPayloadSize, stream.summary.totalSize⟩ := by
    rw [payload, total, bytes, ← image.totalSize_container]
    rfl
  rw [← same]
  exact ⟨formed, bytes⟩

theorem parse_export_sample :
    ∃ stream, (run Memory.usual ⟨.zeroFill⟩ sampleImage sampleAnswers).result = .ok stream
      ∧ stream.summary.isAligned = true
      ∧ Container.parse stream.bytes = .ok
          { regions := [⟨⟨0x1000, 0x1003, 5⟩, [7, 0, 9]⟩, ⟨⟨0x2000, 0x2002, 6⟩, [0, 0]⟩]
            symbols := [⟨0x1001, "é"⟩, ⟨0, ""⟩]
            symbolPayloadSize := stream.summary.symbolPayloadSize
            totalSize := stream.summary.totalSize } := by
  obtain ⟨stream, exported, aligned⟩ := run_sampleImage .zeroFill
  refine ⟨stream, exported, aligned, ?_⟩
  have read := (parse_export_iff Memory.usual ⟨.zeroFill⟩ sampleImage sampleAnswers stream
    sampleImage_admitted exported aligned).2.mpr (by decide +kernel)
  rw [calls_of_run_ok exported, selected_sampleImage] at read
  exact read

/-! ## Names that hold U+0000 -/

/-- What an accepted aligned export still tells, whatever its names are.  The regions are
those exported, and there are as many symbols, with the same bytes for their entries.
They are the exported ones exactly when no exported name holds U+0000.  Otherwise the
first exported symbol with such a name is not the last one; the symbols before it are
those exported, and in its place stands its address with the part of its name before
U+0000. -/
theorem symbols_of_parse_export (memory : Memory) (options : ExportOptions) (image : Image)
    (surroundings : Surroundings) (stream : ExportStream) (container : Container)
    (admitted : ∀ region ∈ image.regions, region.Admitted)
    (exported : (run memory options image surroundings).result = .ok stream)
    (aligned : stream.summary.isAligned = true)
    (read : Container.parse stream.bytes = .ok container) :
    container.regions = carriedFrom options.onReadError surroundings.read 0
        (run memory options image surroundings).calls
      ∧ container.symbols.length = image.entries.length
      ∧ container.symbols.flatMap ContainerSymbol.encode
          = image.entries.flatMap ContainerSymbol.encode
      ∧ (container.symbols = image.entries
          ↔ ∀ entry ∈ image.entries, Utf8.zero ∉ entry.name.toList)
      ∧ ∀ front entry back, image.entries = front ++ entry :: back →
          (∀ symbol ∈ front, Utf8.zero ∉ symbol.name.toList) →
          Utf8.zero ∈ entry.name.toList →
          back ≠ [] ∧ ∃ later, container.symbols = front ++ entry.cut :: later := by
  obtain ⟨bytes, -, -, small⟩ := encode_of_run_ok admitted exported
  obtain ⟨formed, encoded⟩ := (Container.parse_eq_ok_iff _ _ (by omega)).mp read
  obtain ⟨regions, count, entries⟩ := parts_of_parse admitted exported aligned read
  rw [calls_of_run_ok exported]
  refine ⟨regions, count, entries, ⟨?_, ?_⟩, ?_⟩
  · intro same entry member
    rw [← same] at member
    exact entry.wellFormed_iff.mp (formed.symbols entry member)
  · intro clean
    have expected := parse_of_run_ok admitted exported aligned
      fun entry member => entry.wellFormed_iff.mpr (clean entry member)
    rw [read] at expected
    rw [Except.ok.inj expected]
    rfl
  · intro front entry back split clean broken
    -- the entries that were read are a part of the string
    have bound : (container.symbols.flatMap ContainerSymbol.encode).length < 2 ^ 64 := by
      have inside := congrArg List.length encoded
      simp only [Container.encode, Container.encodeSymbols, List.length_append] at inside
      omega
    change container.symbols.length = image.entries.length at count
    change _ = image.entries.flatMap _ at entries
    rw [split] at count entries
    exact Container.cut_of_entries_eq formed.symbols bound count entries clean broken

/-- A symbol named U+0000, and one whose address has a letter for its highest byte. -/
def shiftedImage : Image where
  name := "shifted"
  regions := []
  symbols := [⟨0x10, "\x00", .userDefined⟩, ⟨0x4100000000000000, "x", .userDefined⟩]

theorem run_shiftedImage :
    ∃ stream, (run Memory.usual ⟨.zeroFill⟩ shiftedImage sampleAnswers).result = .ok stream
      ∧ stream.summary.isAligned = true
      ∧ Container.parse stream.bytes = .ok ⟨[], [⟨0x10, ""⟩, ⟨0, "Ax"⟩], 20, 44⟩ := by
  have nothing : shiftedImage.selected = [] := by cbv
  simp only [run, nothing]
  exact ⟨_, rfl, rfl, by cbv⟩

/-- The symbol behind the name U+0000 is read from one byte too early on: its address has
lost the highest byte to its name. -/
theorem shiftedImage_misread :
    ∃ stream container, (∀ region ∈ shiftedImage.regions, region.Admitted)
      ∧ (run Memory.usual ⟨.zeroFill⟩ shiftedImage sampleAnswers).result = .ok stream
      ∧ stream.summary.isAligned = true
      ∧ Container.parse stream.bytes = .ok container
      ∧ container.symbols = [⟨0x10, ""⟩, ⟨0, "Ax"⟩]
      ∧ container.symbols ≠ shiftedImage.entries := by
  obtain ⟨stream, exported, aligned, read⟩ := run_shiftedImage
  refine ⟨stream, _, by simp [shiftedImage], exported, aligned, read, rfl, ?_⟩
  decide +kernel

theorem symbols_of_parse_shiftedImage :
    ∃ stream, (run Memory.usual ⟨.zeroFill⟩ shiftedImage sampleAnswers).result = .ok stream
      ∧ stream.summary.isAligned = true
      ∧ Container.parse stream.bytes = .ok ⟨[], [⟨0x10, ""⟩, ⟨0, "Ax"⟩], 20, 44⟩
      ∧ Utf8.zero ∈ "\x00".toList
      ∧ ∃ later, [⟨0x10, ""⟩, ⟨0, "Ax"⟩] = (⟨0x10, "\x00"⟩ : ContainerSymbol).cut :: later := by
  obtain ⟨stream, exported, aligned, read⟩ := run_shiftedImage
  have broken : Utf8.zero ∈ "\x00".toList := by decide +kernel
  have facts := symbols_of_parse_export Memory.usual ⟨.zeroFill⟩ shiftedImage sampleAnswers
    stream _ (by simp [shiftedImage]) exported aligned read
  exact ⟨stream, exported, aligned, read, broken,
    (facts.2.2.2.2 [] ⟨0x10, "\x00"⟩ [⟨0x4100000000000000, "x"⟩] rfl (by simp) broken).2⟩

end Export
end SegmentContainer
