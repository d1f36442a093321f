import SegmentContainer.Proofs.Export.Room
import SegmentContainer.Proofs.Export.RoundTrip
import SegmentContainer.Proofs.Export.Stopping

/-!
# The accounts of an export

The numbers that an export reports are counted at different places: before the reads,
while a region is settled, over what is kept, and over the bytes that were written.  They
agree, whatever the reads return: each region of the image is in one of them, each byte of
an initialized region was written or belongs to a failure, and the bytes are as many as
the parts say.  A reader of the container counts the same.
-/

set_option autoImplicit false

namespace SegmentContainer

def ReadFailure.lost (failure : ReadFailure) : Nat :=
  if failure.resolution = .zeroFill then 0 else failure.size.toNat

def ReadFailure.drops (failure : ReadFailure) : Bool :=
  failure.resolution = .dropRegion

namespace Export

/-! ## Settling -/

/-- What was taken for a region and what its failure says make up the region. -/
structure Taken.Accounted (taken : Taken) (region : Region) : Prop where
  size : taken.contents.length + (taken.failure?.map ReadFailure.lost).getD 0
    = region.size.toNat
  dropped : (taken.failure?.map ReadFailure.drops).getD false
    = decide (taken.contents = .dropped)

theorem accounted_unread (policy : ReadFailurePolicy) (region : Region) (error : Error) :
    (unread policy region error).Accounted region := by
  match policy with
  | .zeroFill =>
    by_cases small : region.size.toNat < 2 ^ 63
    · rw [unread, resolve_zeroFill_of_lt small]
      exact ⟨rfl, rfl⟩
    · rw [unread, resolve_zeroFill_of_le (Nat.le_of_not_lt small)]
      exact ⟨Nat.zero_add _, rfl⟩
  | .omit => exact ⟨Nat.zero_add _, rfl⟩
  | .dropRegion => exact ⟨Nat.zero_add _, rfl⟩

theorem accounted_of_settle {policy : ReadFailurePolicy} {region : Region}
    {outcome : ReadOutcome} {taken : Taken}
    (settled : settle policy region outcome = .ok taken) : taken.Accounted region := by
  cases outcome with
  | data bytes =>
    simp only [settle] at settled
    split at settled
    · rename_i long
      obtain rfl := Except.ok.inj settled
      exact ⟨long, rfl⟩
    · obtain rfl := Except.ok.inj settled
      exact accounted_unread policy region _
  | failed error =>
    obtain rfl := Except.ok.inj settled
    exact accounted_unread policy region error
  | crashed reason => cases settled

theorem accounted_of_gather_ok {policy : ReadFailurePolicy} {surroundings : Surroundings}
    {number : Nat} {order : List Placed} {taken : List Taken}
    (gathered : (gather policy surroundings number order).result = .ok taken) :
    List.Forall₂ (fun held placed => held.Accounted placed.region) taken order := by
  induction order generalizing number taken with
  | nil =>
    obtain rfl := Except.ok.inj gathered
    exact .nil
  | cons placed rest ih =>
    obtain ⟨-, first, later, settled, restGathered, rfl⟩ :=
      (gather_cons_ok_iff number placed rest taken).mp gathered
    exact .cons (accounted_of_settle settled) (ih restGathered)

variable {taken : List Taken} {order : List Placed}

theorem sum_sizes_of_accounted
    (accounted : List.Forall₂ (fun held placed => held.Accounted placed.region) taken order) :
    (taken.map (·.contents.length)).sum
        + ((taken.filterMap (·.failure?)).map ReadFailure.lost).sum
      = (order.map (·.region.size.toNat)).sum := by
  induction accounted with
  | nil => rfl
  | @cons held placed later rest own others ih =>
    have size := own.size
    cases recorded : held.failure? with
    | none =>
      simp only [recorded, Option.map_none, Option.getD_none] at size
      simp only [List.map_cons, List.sum_cons, List.filterMap_cons, recorded]
      omega
    | some failure =>
      simp only [recorded, Option.map_some, Option.getD_some] at size
      simp only [List.map_cons, List.sum_cons, List.filterMap_cons, recorded]
      omega

theorem length_kept_of_accounted
    (accounted : List.Forall₂ (fun held placed => held.Accounted placed.region) taken order) :
    (kept taken).length + (taken.filterMap (·.failure?)).countP ReadFailure.drops
      = order.length := by
  rw [List.countP_filterMap, kept]
  induction accounted with
  | nil => rfl
  | @cons held placed later rest own others ih =>
    rw [List.countP_cons, own.dropped, List.length_cons]
    by_cases dropped : held.contents = .dropped
    · rw [List.filter_cons_of_neg (by simpa using dropped), if_pos (by simpa using dropped)]
      omega
    · rw [List.filter_cons_of_pos (by simpa using dropped), if_neg (by simpa using dropped),
        List.length_cons]
      omega

theorem sum_lengths_kept (taken : List Taken) :
    ((kept taken).map (·.contents.length)).sum = (taken.map (·.contents.length)).sum := by
  induction taken with
  | nil => rfl
  | cons first rest ih =>
    rw [kept] at ih ⊢
    by_cases dropped : first.contents = .dropped
    · rw [List.filter_cons_of_neg (by simpa using dropped), ih, List.map_cons, List.sum_cons,
        dropped]
      exact (Nat.zero_add _).symm
    · rw [List.filter_cons_of_pos (by simpa using dropped), List.map_cons, List.sum_cons, ih,
        List.map_cons, List.sum_cons]

/-! ## Assembling -/

theorem sum_sizes_selected (image : Image) :
    (image.selected.map (·.region.size.toNat)).sum
      = ((image.regions.filter (·.initialized)).map (·.size.toNat)).sum := by
  have selected : (image.placed.filter fun placed => placed.region.initialized).map (·.region)
      = image.regions.filter (·.initialized) := by
    rw [← image.map_region_placed, List.filter_map]
    rfl
  rw [(image.selected_exportOrder.complete.map _).sum_eq, ← selected, List.map_map]
  rfl

theorem dataSize_assemble (policy : ReadFailurePolicy) (image : Image) (taken : List Taken) :
    (assemble policy image taken).summary.dataSize
      = ((kept taken).map (·.contents.length)).sum := by
  have data := Writer.toBytes_foldl writeData (·.contents.data) (kept taken)
    ((kept taken).foldl writeHeader (Writer.empty.count (kept taken).length))
    fun region _ writer => toBytes_writeData writer region
  simp only [assemble]
  rw [← Writer.length_toBytes, data, List.length_append, Writer.length_toBytes,
    Nat.add_sub_cancel_left, List.length_flatMap]
  simp only [Contents.length_data]

theorem payloadSize_entries (image : Image) :
    Container.payloadSize image.entries
      = ((image.symbols.filter fun symbol => symbol.source ≠ .placeholder).map
          Symbol.entrySize).sum := by
  rw [Image.entries]
  induction image.symbols.filter fun symbol => symbol.source ≠ .placeholder with
  | nil => rfl
  | cons symbol rest ih =>
    rw [List.map_cons, Container.payloadSize, ih, List.map_cons, List.sum_cons]
    rfl

theorem totalSize_assemble_eq_sum (policy : ReadFailurePolicy) (image : Image)
    (taken : List Taken) :
    (assemble policy image taken).summary.totalSize
      = 24 + 24 * (kept taken).length + ((kept taken).map (·.contents.length)).sum
          + Container.payloadSize image.entries := by
  have written : (taken.filterMap Taken.written?).length = (kept taken).length := by
    rw [filterMap_written?, List.length_map]
  have data : ((taken.filterMap Taken.written?).flatMap (·.data)).length
      = ((kept taken).map (·.contents.length)).sum := by
    rw [filterMap_written?, List.flatMap_map, List.length_flatMap]
    simp only [Contents.length_data]
  have empty : Layout.emptyContainer = 24 := rfl
  have header : Layout.regionHeader = 24 := rfl
  rw [totalSize_assemble, bytes_assemble, image.length_spelled, roomFor, written, data, empty,
    header, Nat.mul_comm]

end Export

/-- The numbers of an export agree with each other and with the image. -/
structure ExportStream.Balanced (stream : ExportStream) (image : Image) : Prop where
  regionsTotal : stream.summary.regionsTotal = image.regions.length
  uninitialized : stream.summary.regionsUninitialized
    = image.regions.countP fun region => !region.initialized
  regions : stream.summary.regionsTotal
    = stream.summary.regionsUninitialized + stream.summary.regionsExported
        + stream.summary.readFailures.countP ReadFailure.drops
  symbolsTotal : stream.summary.symbolsTotal = image.symbols.length
  symbols : stream.summary.symbolsTotal
    = stream.summary.symbolsDefaultSkipped + stream.summary.symbolsExported
  payload : stream.summary.symbolPayloadSize
    = ((image.symbols.filter fun symbol => symbol.source ≠ .placeholder).map
        Symbol.entrySize).sum
  data : stream.summary.dataSize + (stream.summary.readFailures.map ReadFailure.lost).sum
    = ((image.regions.filter (·.initialized)).map (·.size.toNat)).sum
  total : stream.summary.totalSize
    = 24 + 24 * stream.summary.regionsExported + stream.summary.dataSize
        + stream.summary.symbolPayloadSize
  bytes : stream.bytes.length = stream.summary.totalSize

namespace Export

theorem balanced_assemble {policy : ReadFailurePolicy} {image : Image} {taken : List Taken}
    (accounted : List.Forall₂ (fun held placed => held.Accounted placed.region) taken
      image.selected) :
    (assemble policy image taken).Balanced image where
  regionsTotal := rfl
  uninitialized := by
    have all := image.regions.length_eq_countP_add_countP (·.initialized)
    have rest : (image.regions.countP fun region => !region.initialized)
        = image.regions.countP fun region => decide ¬ region.initialized = true := by
      simp
    simp only [assemble]
    rw [image.length_selected, rest]
    omega
  regions := by
    have few := image.regions.countP_le_length (p := (·.initialized))
    have split := length_kept_of_accounted accounted
    rw [image.length_selected] at split
    simp only [assemble]
    rw [image.length_selected]
    omega
  symbolsTotal := rfl
  symbols := by
    simp only [assemble, exportedSymbols]
    rw [image.symbols.length_eq_countP_add_countP Symbol.isPlaceholder,
      ← List.countP_eq_length_filter]
    simp only [Bool.not_eq_true, Bool.decide_eq_false]
  payload := (length_symbolEntries image).trans (payloadSize_entries image)
  data := by
    rw [dataSize_assemble, sum_lengths_kept, ← sum_sizes_selected,
      ← sum_sizes_of_accounted accounted]
    rfl
  total := by
    rw [totalSize_assemble_eq_sum, dataSize_assemble]
    exact congrArg (_ + ·) (length_symbolEntries image).symm
  bytes := (totalSize_assemble _ _ _).symm

theorem summaryJson_container {memory : Memory} {options : ExportOptions} {image : Image}
    {surroundings : Surroundings} {stream : ExportStream}
    (admitted : ∀ region ∈ image.regions, region.Admitted)
    (exported : (run memory options image surroundings).result = .ok stream) :
    (image.container options.onReadError surroundings.read image.selected).summaryJson
      = .object
        [("total_size", .number stream.summary.totalSize),
         ("region_count", .number stream.summary.regionsExported),
         ("data_size", .number stream.summary.dataSize),
         ("regions", .array
           ((image.container options.onReadError surroundings.read image.selected).regions.map
             Container.regionJson)),
         ("symbol_count", .number stream.summary.symbolsExported),
         ("symbol_payload_size", .number stream.summary.symbolPayloadSize)] := by
  obtain ⟨bytes, payload, total, -⟩ := encode_of_run_ok admitted exported
  obtain ⟨taken, gathered, -, -, rfl, -⟩ := (run_ok_iff _ _ _ _ _).mp exported
  have carried : (image.container options.onReadError surroundings.read image.selected).regions
      = (kept taken).map fun region => ⟨region.region.writtenHeader, region.contents.data⟩ := by
    change carriedFrom _ _ 0 _ = _
    rw [← writtenFrom_eq_carriedFrom _ _ 0 (selected_admitted admitted),
      ← written?_of_gather_ok gathered, filterMap_written?]
  have regions : (image.container options.onReadError surroundings.read
      image.selected).regions.length
        = (assemble options.onReadError image taken).summary.regionsExported := by
    rw [carried, List.length_map]
    rfl
  have symbols : (image.container options.onReadError surroundings.read
      image.selected).symbols.length
        = (assemble options.onReadError image taken).summary.symbolsExported := by
    change image.entries.length = _
    rw [← exportedSymbols_eq, List.length_map]
    rfl
  have data : (image.container options.onReadError surroundings.read image.selected).dataSize
      = (assemble options.onReadError image taken).summary.dataSize := by
    rw [dataSize_assemble, Container.dataSize, carried, List.foldr_map, List.sum_eq_foldr,
      List.foldr_map]
    simp only [Contents.length_data]
  rw [Container.summaryJson, regions, symbols, data, total, bytes, payload]
  rfl

/-- The accounts of every export that succeeds.  Its numbers agree, and if it is aligned and
no exported name holds U+0000 then a reader of its bytes counts the same. -/
theorem export_accounts (memory : Memory) (options : ExportOptions) (image : Image)
    (surroundings : Surroundings) (stream : ExportStream)
    (exported : (run memory options image surroundings).result = .ok stream) :
    stream.Balanced image
      ∧ ((∀ region ∈ image.regions, region.Admitted) → stream.summary.isAligned = true →
          (∀ symbol ∈ image.symbols, symbol.source ≠ .placeholder →
            Utf8.zero ∉ symbol.name.toList) →
          ∃ container, Container.parse stream.bytes = .ok container
            ∧ container.summaryJson = .object
                [("total_size", .number stream.summary.totalSize),
                 ("region_count", .number stream.summary.regionsExported),
                 ("data_size", .number stream.summary.dataSize),
                 ("regions", .array (container.regions.map Container.regionJson)),
                 ("symbol_count", .number stream.summary.symbolsExported),
                 ("symbol_payload_size", .number stream.summary.symbolPayloadSize)]) := by
  constructor
  · obtain ⟨taken, gathered, -, -, rfl, -⟩ := (run_ok_iff _ _ _ _ _).mp exported
    exact balanced_assemble (accounted_of_gather_ok gathered)
  · intro admitted aligned clean
    have read := parse_of_run_ok admitted exported aligned
      (image.entries_wellFormed_iff.mpr clean)
    exact ⟨_, read, summaryJson_container admitted exported⟩

theorem run_dropped_sample :
    ∃ stream, (run Memory.usual ⟨.dropRegion⟩ sampleImage sampleAnswers).result = .ok stream
      ∧ stream.summary.isAligned = true
      ∧ stream.summary.regionsExported = 1 ∧ stream.summary.dataSize = 3
      ∧ stream.summary.symbolsExported = 2 := by
  simp only [run, selected_sampleImage]
  exact ⟨_, rfl, rfl, rfl, rfl, rfl⟩

/-- Of three regions one is uninitialized, one is exported and one is dropped, so that the
failures hold one that drops its region, and the two bytes of it. -/
theorem export_accounts_sample :
    ∃ stream container,
      (run Memory.usual ⟨.dropRegion⟩ sampleImage sampleAnswers).result = .ok stream
        ∧ stream.summary.isAligned = true
        ∧ stream.summary.readFailures.countP ReadFailure.drops = 1
        ∧ (stream.summary.readFailures.map ReadFailure.lost).sum = 2
        ∧ stream.bytes.length = 24 + 24 + 3 + 20
        ∧ Container.parse stream.bytes = .ok container
        ∧ container.summaryJson = .object
            [("total_size", .number 71), ("region_count", .number 1), ("data_size", .number 3),
             ("regions", .array (container.regions.map Container.regionJson)),
             ("symbol_count", .number 2), ("symbol_payload_size", .number 20)] := by
  obtain ⟨stream, exported, aligned, kept, size, symbols⟩ := run_dropped_sample
  obtain ⟨balanced, reads⟩ :=
    export_accounts Memory.usual ⟨.dropRegion⟩ sampleImage sampleAnswers stream exported
  have clean : ∀ symbol ∈ sampleImage.symbols, symbol.source ≠ .placeholder →
      Utf8.zero ∉ symbol.name.toList := by decide +kernel
  obtain ⟨container, read, counted⟩ := reads sampleImage_admitted aligned clean
  have three : sampleImage.regions.length = 3 := rfl
  have five : ((sampleImage.regions.filter (·.initialized)).map (·.size.toNat)).sum = 5 := rfl
  have uninitialized : stream.summary.regionsUninitialized = 1 := balanced.uninitialized.trans rfl
  have payload : stream.summary.symbolPayloadSize = 20 := balanced.payload.trans rfl
  have total := balanced.total
  rw [kept, size, payload] at total
  have regions := balanced.regions
  rw [balanced.regionsTotal, three, uninitialized, kept] at regions
  have data := balanced.data
  rw [size, five] at data
  rw [total, kept, size, symbols, payload] at counted
  exact ⟨stream, container, exported, aligned, by omega, by omega,
    balanced.bytes.trans total, read, counted⟩

end Export
end SegmentContainer
