import SegmentContainer.Proofs.Export.Gathering
import SegmentContainer.Proofs.Export.Order

/-!
# The bytes of an export

An export that succeeds has asked for every selected region in order, and what it wrote
is the encoding of the container that belongs to the image, its policy and the outcomes
of these reads.
-/

set_option autoImplicit false

namespace SegmentContainer

/-! ## Writing -/

namespace Export

theorem toBytes_writeHeader (writer : Writer) (taken : Taken) :
    (writeHeader writer taken).toBytes
      = writer.toBytes ++ taken.region.writtenHeader.encode := by
  rw [writeHeader, Writer.toBytes_word, Writer.toBytes_word, Writer.toBytes_word,
    RegionHeader.encode, List.append_assoc, List.append_assoc, List.append_assoc]
  rfl

theorem toBytes_writeData (writer : Writer) (taken : Taken) :
    (writeData writer taken).toBytes = writer.toBytes ++ taken.contents.data := by
  unfold writeData
  cases taken.contents with
  | present bytes => exact Writer.toBytes_bytes writer bytes
  | zeros size => exact Writer.toBytes_zeros writer size
  | omitted => exact (List.append_nil _).symm
  | dropped => exact (List.append_nil _).symm

theorem toBytes_writeSymbol (writer : Writer) (symbol : Symbol) :
    (writeSymbol writer symbol).toBytes = writer.toBytes ++ symbol.entry.encode :=
  Writer.toBytes_symbolEntry writer symbol.address symbol.name

theorem exportedSymbols_eq (image : Image) :
    (exportedSymbols image.symbols).map Symbol.entry = image.entries := by
  simp [exportedSymbols, Image.entries, Symbol.isPlaceholder]

theorem toBytes_symbolEntries (image : Image) :
    ((exportedSymbols image.symbols).foldl writeSymbol Writer.empty).toBytes
      = image.entries.flatMap ContainerSymbol.encode := by
  rw [Writer.toBytes_foldl writeSymbol (·.entry.encode) _ _
      fun symbol _ writer => toBytes_writeSymbol writer symbol,
    Writer.toBytes_empty, List.nil_append, ← exportedSymbols_eq, List.flatMap_map]

theorem length_symbolEntries (image : Image) :
    ((exportedSymbols image.symbols).foldl writeSymbol Writer.empty).length
      = Container.payloadSize image.entries := by
  rw [← Writer.length_toBytes, toBytes_symbolEntries, Container.length_flatMap_encode]

theorem bytes_assemble (policy : ReadFailurePolicy) (image : Image) (taken : List Taken) :
    (assemble policy image taken).bytes
      = image.spelled (taken.filterMap Taken.written?) := by
  have headers := Writer.toBytes_foldl writeHeader (·.region.writtenHeader.encode) (kept taken)
    (Writer.empty.count (kept taken).length) fun region _ writer =>
      toBytes_writeHeader writer region
  have data := Writer.toBytes_foldl writeData (·.contents.data) (kept taken)
    ((kept taken).foldl writeHeader (Writer.empty.count (kept taken).length))
    fun region _ writer => toBytes_writeData writer region
  have count : (exportedSymbols image.symbols).length = image.entries.length := by
    rw [← exportedSymbols_eq, List.length_map]
  simp only [assemble, Writer.toBytes_bytes, Writer.toBytes_count, data, headers,
    toBytes_symbolEntries, length_symbolEntries, count, Writer.toBytes_empty, List.nil_append,
    filterMap_written?, List.map_map, List.flatMap_map, Function.comp_def, Image.spelled,
    Container.encodeHeaders, Container.encodeSymbols, List.length_map, List.append_assoc]

theorem totalSize_assemble (policy : ReadFailurePolicy) (image : Image) (taken : List Taken) :
    (assemble policy image taken).summary.totalSize
      = (assemble policy image taken).bytes.length :=
  (Writer.length_toBytes _).symm

/-! ## Whole runs -/

variable {memory : Memory} {options : ExportOptions} {image : Image}
  {surroundings : Surroundings} {stream : ExportStream}

theorem selected_admitted (admitted : ∀ region ∈ image.regions, region.Admitted) :
    ∀ placed ∈ image.selected, placed.region.Admitted :=
  fun _ member => admitted _ (Image.mem_regions_of_selected member)

theorem spelled_of_run_ok
    (exported : (run memory options image surroundings).result = .ok stream) :
    stream.bytes
        = image.spelled (writtenFrom options.onReadError surroundings.read 0 image.selected)
      ∧ stream.summary.symbolPayloadSize = Container.payloadSize image.entries
      ∧ stream.summary.totalSize = stream.bytes.length
      ∧ stream.bytes.length < 2 ^ 63 := by
  obtain ⟨taken, gathered, -, -, rfl, small⟩ := (run_ok_iff _ _ _ _ _).mp exported
  refine ⟨?_, length_symbolEntries image, totalSize_assemble _ _ _, ?_⟩
  · rw [bytes_assemble, written?_of_gather_ok gathered]
  · rw [← totalSize_assemble]
    exact small

theorem encode_of_run_ok (admitted : ∀ region ∈ image.regions, region.Admitted)
    (exported : (run memory options image surroundings).result = .ok stream) :
    stream.bytes
        = (image.container options.onReadError surroundings.read image.selected).encode
      ∧ stream.summary.symbolPayloadSize = Container.payloadSize image.entries
      ∧ stream.summary.totalSize = stream.bytes.length
      ∧ stream.bytes.length < 2 ^ 63 := by
  rw [image.encode_container, ← writtenFrom_eq_carriedFrom _ _ 0 (selected_admitted admitted)]
  exact spelled_of_run_ok exported

theorem wellFormed_of_aligned (admitted : ∀ region ∈ image.regions, region.Admitted)
    (exported : (run memory options image surroundings).result = .ok stream)
    (aligned : stream.summary.isAligned = true) :
    ∀ region ∈ (image.container options.onReadError surroundings.read image.selected).regions,
      region.WellFormed := by
  obtain ⟨taken, gathered, -, -, rfl, -⟩ := (run_ok_iff _ _ _ _ _).mp exported
  have settled := settled_of_gather_ok (selected_admitted admitted) gathered
  intro region member
  change region ∈ carriedFrom _ _ 0 _ at member
  rw [← writtenFrom_eq_carriedFrom _ _ 0 (selected_admitted admitted),
    ← written?_of_gather_ok gathered, filterMap_written?] at member
  obtain ⟨held, inside, rfl⟩ := List.mem_map.mp member
  obtain ⟨inTaken, notDropped⟩ := List.mem_filter.mp inside
  have facts := settled held inTaken
  rcases facts.filled with filled | dropped | ⟨failure, recorded, omitted⟩
  · rw [facts.admitted.writtenHeader_eq]
    exact facts.admitted.wellFormed filled
  · exact absurd dropped (by simpa using notDropped)
  · have reported : failure ∈ taken.filterMap (·.failure?) :=
      List.mem_filterMap.mpr ⟨held, inTaken, recorded⟩
    have notOmitted := List.all_eq_true.mp aligned failure reported
    exact absurd omitted (by simpa using notOmitted)

theorem calls_of_run_ok
    (exported : (run memory options image surroundings).result = .ok stream) :
    (run memory options image surroundings).calls = image.selected := by
  obtain ⟨taken, gathered, -⟩ := (run_ok_iff _ _ _ _ _).mp exported
  exact calls_of_gather_ok gathered

/-- Without a request to stop an export asks for the initialized regions in the order of
export, each once: for all of them, unless a read does not return.  If it succeeds it has
asked for all, and has written the encoding of the container that belongs to the outcomes
of these reads. -/
theorem run_writes_container (memory : Memory) (options : ExportOptions) (image : Image)
    (surroundings : Surroundings) (admitted : ∀ region ∈ image.regions, region.Admitted)
    (never : ∀ number, surroundings.stop number = false) :
    (∃ order, image.ExportOrder order
        ∧ (run memory options image surroundings).calls <+: order
        ∧ ((∀ number placed reason, surroundings.read number placed ≠ .crashed reason) →
            (run memory options image surroundings).calls = order))
      ∧ ∀ stream, (run memory options image surroundings).result = .ok stream →
          image.ExportOrder (run memory options image surroundings).calls
            ∧ stream.bytes = (image.container options.onReadError surroundings.read
                (run memory options image surroundings).calls).encode := by
  refine ⟨⟨image.selected, image.selected_exportOrder, calls_gather_isPrefix 0 _, ?_⟩, ?_⟩
  · intro returns
    obtain ⟨taken, gathered⟩ := gather_ok_of_returns never returns 0 image.selected
    exact calls_of_gather_ok gathered
  · intro stream exported
    rw [calls_of_run_ok exported]
    exact ⟨image.selected_exportOrder, (encode_of_run_ok admitted exported).1⟩

/-- Regions that are not in order, and one of them without contents. -/
def sampleImage : Image where
  name := "sample"
  regions :=
    [⟨"data", 0x2000, 0x2001, ⟨true, true, false⟩, true⟩,
     ⟨"bss", 0x1800, 0x18FF, ⟨true, true, false⟩, false⟩,
     ⟨"text", 0x1000, 0x1002, ⟨true, false, true⟩, true⟩]
  symbols :=
    [⟨0x1001, "é", .userDefined⟩, ⟨0x1002, "FUN_1002", .placeholder⟩, ⟨0, "", .imported⟩]

/-- The first read returns three bytes, and the others fail. -/
def sampleAnswers : Surroundings where
  read number placed :=
    if number = 0 then .data [7, 0, 9] else .refused placed.region .injected
  stop _ := false

theorem sampleImage_admitted : ∀ region ∈ sampleImage.regions, region.Admitted := by
  simp only [sampleImage, List.forall_mem_cons]
  exact ⟨⟨by decide, by decide⟩, ⟨by decide, by decide⟩, ⟨by decide, by decide⟩, by simp⟩

theorem selected_sampleImage :
    sampleImage.selected
      = [⟨2, ⟨"text", 0x1000, 0x1002, ⟨true, false, true⟩, true⟩⟩,
         ⟨0, ⟨"data", 0x2000, 0x2001, ⟨true, true, false⟩, true⟩⟩] := by
  cbv

theorem run_sampleImage (policy : ReadFailurePolicy) :
    ∃ stream, (run Memory.usual ⟨policy⟩ sampleImage sampleAnswers).result = .ok stream
      ∧ stream.summary.isAligned = decide (policy ≠ .omit) := by
  simp only [run, selected_sampleImage]
  cases policy <;> exact ⟨_, rfl, rfl⟩

theorem sampleAnswers_returns (number : Nat) (placed : Placed) (reason : String) :
    sampleAnswers.read number placed ≠ .crashed reason := by
  simp only [sampleAnswers]
  split
  · exact nofun
  · exact nofun

theorem run_writes_sample :
    ∃ stream, (run Memory.usual ⟨.zeroFill⟩ sampleImage sampleAnswers).result = .ok stream
      ∧ sampleImage.ExportOrder (run Memory.usual ⟨.zeroFill⟩ sampleImage sampleAnswers).calls
      ∧ stream.bytes = Container.encode
          ⟨[⟨⟨0x1000, 0x1003, 5⟩, [7, 0, 9]⟩, ⟨⟨0x2000, 0x2002, 6⟩, [0, 0]⟩],
            [⟨0x1001, "é"⟩, ⟨0, ""⟩], 20, 97⟩ := by
  obtain ⟨stream, exported, -⟩ := run_sampleImage .zeroFill
  obtain ⟨⟨order, inOrder, -, asked⟩, written⟩ := run_writes_container Memory.usual ⟨.zeroFill⟩
    sampleImage sampleAnswers sampleImage_admitted fun _ => rfl
  have bytes := (written stream exported).2
  rw [calls_of_run_ok exported, selected_sampleImage] at bytes
  refine ⟨stream, exported, asked sampleAnswers_returns ▸ inOrder, ?_⟩
  rw [bytes]
  decide +kernel

end Export
end SegmentContainer
