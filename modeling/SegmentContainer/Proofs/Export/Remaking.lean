import SegmentContainer.Image.Mock
import SegmentContainer.Proofs.Export.Misaligned
import SegmentContainer.Proofs.Export.RoundTrip
import SegmentContainer.Proofs.Export.Steady
import SegmentContainer.Proofs.Export.Stopping

/-!
# Exporting a container again

A container can be made into an image again: each region with its start, permissions and
data, and each symbol with its address and name.  If the regions are in the order of their
starts and none is empty, then the constructors of regions admit all of them and an export
of the image gives the same bytes.  Every aligned export is such a container, unless an
exported name holds U+0000.
-/

set_option autoImplicit false

namespace SegmentContainer

/-- Regions in the order of their starts, none of them empty. -/
structure Container.Orderly (container : Container) : Prop where
  ascending : container.regions.Pairwise fun first second =>
    first.header.start ≤ second.header.start
  inhabited : ∀ region ∈ container.regions, region.header.size ≠ 0

def ContainerSymbol.userDefined (symbol : ContainerSymbol) : Symbol :=
  ⟨symbol.address, symbol.name, .userDefined⟩

namespace MockImage

def addRegion? (image : MockImage) (name : String) (region : ContainerRegion) :
    Option MockImage := do
  let permissions ← region.header.flags?
  (image.addBytes name region.header.start permissions region.data).toOption

def addEntry (image : MockImage) (symbol : ContainerSymbol) : MockImage :=
  image.addSymbol symbol.userDefined

/-- The image with the regions and symbols of a container, in their order.  Containers hold no
names of regions, so that these are made up from their numbers.  There is none if a region
cannot be added. -/
def ofContainer? (name : String) (regionName : Nat → String) (container : Container) :
    Option MockImage := do
  let image ← container.regions.foldlM
    (fun image region => image.addRegion? (regionName image.entries.length) region) (empty name)
  return container.symbols.foldl addEntry image

def surroundings (image : MockImage) : Surroundings where
  read _ placed := image.read (some placed.index) placed.region
  stop _ := false

end MockImage

/-! ## Single regions -/

theorem Permissions.bits_of_ofBits? {word : UInt64} {permissions : Permissions}
    (known : ofBits? word = some permissions) : permissions.bits = word := by
  have packed : ∀ n < 8,
      4 * (n.testBit 2).toNat + 2 * (n.testBit 1).toNat + (n.testBit 0).toNat = n := by
    decide
  unfold ofBits? at known
  split at known
  · rename_i small
    obtain rfl := Option.some.inj known
    apply UInt64.toNat_inj.mp
    rw [toNat_bits]
    exact packed _ small
  · cases known

structure Region.Remakes (made : Region) (region : ContainerRegion) : Prop where
  admitted : made.Admitted
  initialized : made.initialized = true
  header : made.header = region.header
  filled : made.width = region.data.length

/-- The constructor admits every region that a container can hold and that is not empty. -/
theorem Region.remakes_ofSize {region : ContainerRegion} (formed : region.WellFormed)
    (inhabited : region.header.size ≠ 0) {permissions : Permissions}
    (known : region.header.flags? = some permissions) (name : String) :
    ∃ made, ofSize name region.header.start (UInt64.ofNat region.data.length) permissions
        = .ok made ∧ made.Remakes region := by
  have ordered := UInt64.le_iff_toNat_le.mp formed.ordered
  have bound := region.header.endExclusive.toNat_lt
  have filled := formed.filled
  have width := RegionHeader.toNat_size formed.ordered
  have nonzero : region.header.size.toNat ≠ 0 := fun none => inhabited (UInt64.toNat_inj.mp none)
  have size : (UInt64.ofNat region.data.length).toNat = region.data.length := by
    rw [UInt64.toNat_ofNat', Nat.mod_eq_of_lt (by omega)]
  have some : 0 < (UInt64.ofNat region.data.length).toNat := by omega
  have room : region.header.start.toNat + (UInt64.ofNat region.data.length).toNat < 2 ^ 64 := by
    omega
  -- the exclusive end is a word, so that the last address is below the highest one
  have made := ofSize_of_lt some room name permissions
  have last := toNat_last some room.le
  have admitted := admitted_of_ofSize made
  refine ⟨_, made, admitted, rfl, ?_, ?_⟩
  · have next := admitted.toNat_next
    have behind : region.header.start + (UInt64.ofNat region.data.length - 1) + 1
        = region.header.endExclusive := by
      apply UInt64.toNat_inj.mp
      dsimp only at next
      omega
    rw [Region.header, behind, Permissions.bits_of_ofBits? known]
  · rw [Region.width]
    dsimp only
    omega

/-! ## Building the image -/

namespace MockImage

structure EntryRemakes (entry : Region × MockContents) (region : ContainerRegion) : Prop where
  remade : entry.1.Remakes region
  contents : entry.2 = .bytes region.data

structure Remakes (image : MockImage) (container : Container) : Prop where
  entries : List.Forall₂ EntryRemakes image.entries container.regions
  symbols : image.symbols = container.symbols.map ContainerSymbol.userDefined

theorem exists_addRegion? (image : MockImage) (name : String) {region : ContainerRegion}
    (formed : region.WellFormed) (inhabited : region.header.size ≠ 0) :
    ∃ entry, image.addRegion? name region = some { image with entries := image.entries ++ [entry] }
      ∧ EntryRemakes entry region := by
  have flagged : region.header.flags?.isSome = true := by
    rw [← Option.isNone_eq_false_iff]
    exact (RegionHeader.isNone_flags? _).mpr formed.known
  obtain ⟨permissions, known⟩ := Option.isSome_iff_exists.mp flagged
  obtain ⟨made, built, remakes⟩ := Region.remakes_ofSize formed inhabited known name
  have marked : made.withInitialized true = made := by
    rw [Region.withInitialized, ← remakes.initialized]
  refine ⟨(made, .bytes region.data), ?_, remakes, rfl⟩
  simp only [addRegion?, known, Option.bind_eq_bind, Option.bind_some, addBytes, add, built, marked]
  rfl

theorem exists_addRegions (regionName : Nat → String) {regions : List ContainerRegion}
    (formed : ∀ region ∈ regions, region.WellFormed)
    (inhabited : ∀ region ∈ regions, region.header.size ≠ 0) (image : MockImage) :
    ∃ later, regions.foldlM
        (fun image region => image.addRegion? (regionName image.entries.length) region) image
          = some { image with entries := image.entries ++ later }
      ∧ List.Forall₂ EntryRemakes later regions := by
  induction regions generalizing image with
  | nil => exact ⟨[], by simp, .nil⟩
  | cons region rest ih =>
    obtain ⟨entry, added, remakes⟩ := image.exists_addRegion? (regionName image.entries.length)
      (formed region List.mem_cons_self) (inhabited region List.mem_cons_self)
    obtain ⟨later, built, others⟩ :=
      ih (fun other member => formed other (List.mem_cons_of_mem _ member))
        (fun other member => inhabited other (List.mem_cons_of_mem _ member))
        { image with entries := image.entries ++ [entry] }
    refine ⟨entry :: later, ?_, .cons remakes others⟩
    rw [List.foldlM_cons, added]
    refine built.trans ?_
    simp

theorem foldl_addEntry (symbols : List ContainerSymbol) (image : MockImage) :
    symbols.foldl addEntry image
      = { image with
          symbols := image.symbols ++ symbols.map ContainerSymbol.userDefined } := by
  induction symbols generalizing image with
  | nil => simp
  | cons symbol rest ih =>
    rw [List.foldl_cons, ih, addEntry, addSymbol]
    simp

theorem exists_ofContainer? {container : Container} (formed : container.WellFormed)
    (orderly : container.Orderly) (name : String) (regionName : Nat → String) :
    ∃ image, ofContainer? name regionName container = some image ∧ image.Remakes container := by
  obtain ⟨entries, built, remakes⟩ :=
    exists_addRegions regionName formed.regions orderly.inhabited (empty name)
  refine ⟨⟨name, entries, container.symbols.map ContainerSymbol.userDefined⟩, ?_, remakes, rfl⟩
  rw [ofContainer?, built]
  change some (container.symbols.foldl addEntry _) = _
  rw [foldl_addEntry]
  rfl

end MockImage

/-! ## Exporting the image -/

namespace Export

structure Answers (surroundings : Surroundings) (placed : Placed) (region : ContainerRegion) :
    Prop where
  remakes : placed.region.Remakes region
  read : ∀ number, surroundings.read number placed = .data region.data

variable {policy : ReadFailurePolicy} {surroundings : Surroundings} {order : List Placed}
  {regions : List ContainerRegion}

theorem Answers.length_data {placed : Placed} {region : ContainerRegion}
    (answers : Answers surroundings placed region) :
    region.data.length = placed.region.size.toNat := by
  rw [answers.remakes.admitted.toNat_size, answers.remakes.filled]

theorem Answers.written?_eq {placed : Placed} {region : ContainerRegion}
    (answers : Answers surroundings placed region) (policy : ReadFailurePolicy) (number : Nat) :
    placed.region.written? policy (surroundings.read number placed) = some region := by
  have complete : (ReadOutcome.data region.data).complete? placed.region = some region.data :=
    if_pos answers.length_data
  rw [answers.read, Region.written?, complete, Option.some_or, Option.map_some,
    answers.remakes.admitted.writtenHeader_eq, answers.remakes.header]

theorem initialized_of_answers (answers : List.Forall₂ (Answers surroundings) order regions) :
    ∀ placed ∈ order, placed.region.initialized = true := by
  induction answers with
  | nil => simp
  | cons first rest ih => exact List.forall_mem_cons.mpr ⟨first.remakes.initialized, ih⟩

theorem starts_of_answers (answers : List.Forall₂ (Answers surroundings) order regions) :
    order.map (·.region.start) = regions.map (·.header.start) := by
  induction answers with
  | nil => rfl
  | cons first rest ih =>
    rw [List.map_cons, ih, List.map_cons, ← first.remakes.header, Region.header]

theorem writtenFrom_of_answers (policy : ReadFailurePolicy)
    (answers : List.Forall₂ (Answers surroundings) order regions) (number : Nat) :
    writtenFrom policy surroundings.read number order = regions := by
  induction answers generalizing number with
  | nil => rfl
  | cons first rest ih =>
    rw [writtenFrom, first.written?_eq, ih, Option.toList_some, List.singleton_append]

theorem failures_of_answers (answers : List.Forall₂ (Answers surroundings) order regions)
    {number : Nat} {taken : List Taken}
    (gathered : (gather policy surroundings number order).result = .ok taken) :
    taken.filterMap (·.failure?) = [] := by
  induction answers generalizing number taken with
  | nil =>
    obtain rfl := Except.ok.inj gathered
    rfl
  | cons first rest ih =>
    obtain ⟨-, held, later, settled, restGathered, rfl⟩ := (gather_cons_ok_iff _ _ _ _).mp gathered
    rw [first.read, settle, if_pos first.length_data] at settled
    obtain rfl := Except.ok.inj settled
    rw [List.filterMap_cons_none rfl, ih restGathered]

end Export

namespace MockImage

open Export

variable {image : MockImage} {container : Container}

theorem Remakes.answers (remakes : image.Remakes container) :
    List.Forall₂ (Answers image.surroundings) image.toImage.placed container.regions := by
  obtain ⟨length, each⟩ := List.forall₂_iff_get.mp remakes.entries
  refine List.forall₂_iff_get.mpr ⟨?_, ?_⟩
  · simpa [Image.placed, toImage] using length
  · intro index inside behind
    have there : index < image.entries.length := length ▸ behind
    have entry := each index there behind
    have numbered : image.toImage.placed.get ⟨index, inside⟩
        = ⟨index, (image.entries.get ⟨index, there⟩).1⟩ := by
      simp [Image.placed, toImage]
    have held : image.entries[index]? = some (image.entries.get ⟨index, there⟩) :=
      List.getElem?_eq_getElem there
    rw [numbered]
    refine ⟨entry.remade, fun number => ?_⟩
    have long := entry.remade.filled
    rw [← entry.remade.admitted.toNat_size] at long
    simp only [surroundings, read, contentsAt, held, entry.contents]
    exact if_pos long.symm

theorem Remakes.selected_eq (remakes : image.Remakes container) (orderly : container.Orderly) :
    image.toImage.selected = image.toImage.placed := by
  have ascending : (image.toImage.placed.map (·.region.start)).Pairwise (· ≤ ·) := by
    rw [starts_of_answers remakes.answers, List.pairwise_map]
    exact orderly.ascending
  rw [Image.selected, selectBy,
    List.filter_eq_self.mpr (initialized_of_answers remakes.answers)]
  refine List.mergeSort_of_pairwise ((List.pairwise_map.mp ascending).imp ?_)
  intro first second low
  exact decide_eq_true low

theorem returns (image : MockImage) (number : Nat) (placed : Placed) (reason : String) :
    image.surroundings.read number placed ≠ .crashed reason := by
  simp only [surroundings, read]
  split
  · exact nofun
  · split
    · exact nofun
    · exact nofun
  · exact nofun

theorem Remakes.entries_eq (remakes : image.Remakes container) :
    image.toImage.entries = container.symbols := by
  have exported : ∀ symbol ∈ container.symbols.map ContainerSymbol.userDefined,
      decide (symbol.source ≠ .placeholder) = true := by
    simp [ContainerSymbol.userDefined]
  rw [Image.entries, toImage, remakes.symbols, List.filter_eq_self.mpr exported, List.map_map]
  exact List.map_id _

theorem Remakes.run_ok {bytes : Bytes} (remakes : image.Remakes container)
    (orderly : container.Orderly) (formed : container.WellFormed)
    (encoded : bytes = container.encode) (small : bytes.length < 2 ^ 63) (memory : Memory)
    (policy : ReadFailurePolicy) (granted : memory.grants (roomFor container.regions) = true) :
    ∃ stream, (run memory ⟨policy⟩ image.toImage image.surroundings).result = .ok stream
      ∧ stream.bytes = bytes ∧ stream.summary.readFailures = [] := by
  have selected := remakes.selected_eq orderly
  have written : writtenFrom policy image.surroundings.read 0 image.toImage.selected
      = container.regions := by
    rw [selected]
    exact writtenFrom_of_answers policy remakes.answers 0
  have spelled : image.toImage.spelled container.regions = bytes := by
    rw [encoded, Image.spelled, Container.encode, remakes.entries_eq, formed.payload]
  have length := image.toImage.length_spelled container.regions
  rw [spelled] at length
  obtain ⟨stream, exported⟩ :
      ∃ stream, (run memory ⟨policy⟩ image.toImage image.surroundings).result = .ok stream := by
    apply run_succeeds_of_unasked image.returns (fun _ _ _ => rfl) (fun _ _ _ => rfl)
    · rw [written]
      exact (memory.refusal?_eq_none_iff _).mpr ⟨by omega, granted⟩
    · rw [written]
      omega
  refine ⟨stream, exported, ?_, ?_⟩
  · rw [(spelled_of_run_ok exported).1, written, spelled]
  · obtain ⟨taken, gathered, -, -, rfl, -⟩ := (run_ok_iff _ _ _ _ _).mp exported
    rw [selected] at gathered
    exact failures_of_answers remakes.answers gathered

end MockImage

/-! ## Exports as containers -/

namespace Export

theorem headers_carriedFrom_sublist (policy : ReadFailurePolicy)
    (read : Nat → Placed → ReadOutcome) (number : Nat) (order : List Placed) :
    ((carriedFrom policy read number order).map (·.header)).Sublist
      (order.map (·.region.header)) := by
  induction order generalizing number with
  | nil => exact List.Sublist.refl _
  | cons placed rest ih =>
    rw [carriedFrom, List.map_append, List.map_cons]
    cases carried : placed.region.carried? policy (read number placed) with
    | none => exact (ih (number + 1)).cons _
    | some made =>
      simp only [Option.toList_some, List.map_cons, List.map_nil, List.singleton_append]
      rw [(Region.carried?_within carried).1]
      exact (ih (number + 1)).cons_cons _

theorem container_orderly {image : Image} (policy : ReadFailurePolicy)
    (read : Nat → Placed → ReadOutcome)
    (admitted : ∀ region ∈ image.regions, region.Admitted) :
    (image.container policy read image.selected).Orderly where
  ascending := by
    have headers := headers_carriedFrom_sublist policy read 0 image.selected
    have selected : (image.selected.map (·.region.header)).Pairwise fun first second =>
        first.start ≤ second.start := by
      rw [List.pairwise_map]
      refine image.selected_exportOrder.ascending.imp ?_
      rintro first second (less | ⟨same, -⟩)
      · exact UInt64.le_of_lt less
      · exact UInt64.le_of_eq same
    have ascending := selected.sublist headers
    rw [List.pairwise_map] at ascending
    exact ascending
  inhabited := by
    intro region member empty
    have inside := (headers_carriedFrom_sublist policy read 0 image.selected).subset
      (List.mem_map_of_mem member)
    obtain ⟨placed, chosen, same⟩ := List.mem_map.mp inside
    have width := (selected_admitted admitted placed chosen).toNat_size_header
    rw [same, empty] at width
    cases width

/-- Exporting a container again gives the same bytes.  From every accepted string with its
regions in order and none of them empty an image can be built, whatever names the regions
are given, and each export of it that has room for its regions and is not stopped returns
this string, without a failure.  Every aligned export without U+0000 in an exported name
gives such a string. -/
theorem reexport_fixed_point :
    (∀ (bytes : Bytes) (container : Container), bytes.length < 2 ^ 63 →
        Container.parse bytes = .ok container → container.Orderly →
        ∀ (name : String) (regionName : Nat → String), ∃ image,
          MockImage.ofContainer? name regionName container = some image
            ∧ ∀ (memory : Memory) (policy : ReadFailurePolicy),
                memory.grants (roomFor container.regions) = true →
                ∃ stream,
                  (run memory ⟨policy⟩ image.toImage image.surroundings).result = .ok stream
                    ∧ stream.bytes = bytes ∧ stream.summary.readFailures = [])
      ∧ ∀ (memory : Memory) (options : ExportOptions) (image : Image)
          (surroundings : Surroundings) (stream : ExportStream),
          (∀ region ∈ image.regions, region.Admitted) →
          (run memory options image surroundings).result = .ok stream →
          stream.summary.isAligned = true →
          (∀ symbol ∈ image.symbols, symbol.source ≠ .placeholder →
            Utf8.zero ∉ symbol.name.toList) →
          ∃ container, Container.parse stream.bytes = .ok container ∧ container.Orderly := by
  constructor
  · intro bytes container small read orderly name regionName
    obtain ⟨formed, encoded⟩ := (Container.parse_eq_ok_iff _ _ (by omega)).mp read
    obtain ⟨image, built, remakes⟩ :=
      MockImage.exists_ofContainer? formed orderly name regionName
    exact ⟨image, built, remakes.run_ok orderly formed encoded small⟩
  · intro memory options image surroundings stream admitted exported aligned clean
    have read := parse_of_run_ok admitted exported aligned
      (image.entries_wellFormed_iff.mpr clean)
    exact ⟨_, read, container_orderly _ _ admitted⟩

/-- Two regions that start at the same address, and one that ends at the highest one. -/
def twinSample : Container where
  regions :=
    [⟨⟨0x1000, 0x1002, 4⟩, [1, 2]⟩, ⟨⟨0x1000, 0x1001, 6⟩, [3]⟩,
     ⟨⟨0xFFFFFFFFFFFFFFFE, 0xFFFFFFFFFFFFFFFF, 1⟩, [9]⟩]
  symbols := [⟨0x1001, "é"⟩]
  symbolPayloadSize := 11
  totalSize := 111

theorem reexport_twinSample :
    Container.parse twinSample.encode = .ok twinSample
      ∧ (∃ image stream, MockImage.ofContainer? "twin" (fun _ => "twin") twinSample = some image
          ∧ (run Memory.usual ⟨.omit⟩ image.toImage image.surroundings).result = .ok stream
          ∧ stream.bytes = twinSample.encode ∧ stream.summary.readFailures = [])
      ∧ ∃ stream container,
          (run Memory.usual ⟨.zeroFill⟩ sampleImage sampleAnswers).result = .ok stream
            ∧ Container.parse stream.bytes = .ok container ∧ container.Orderly := by
  obtain ⟨again, reads⟩ := reexport_fixed_point
  have read : Container.parse twinSample.encode = .ok twinSample := by cbv
  have orderly : twinSample.Orderly := ⟨by decide +kernel, by decide +kernel⟩
  obtain ⟨image, built, exports⟩ := again twinSample.encode twinSample (by decide +kernel) read
    orderly "twin" fun _ => "twin"
  obtain ⟨same, exported, bytes, failures⟩ := exports Memory.usual .omit (by decide +kernel)
  obtain ⟨stream, sampled, aligned⟩ := run_sampleImage .zeroFill
  obtain ⟨container, parsed, inOrder⟩ := reads Memory.usual ⟨.zeroFill⟩ sampleImage sampleAnswers
    stream sampleImage_admitted sampled aligned (by decide +kernel)
  exact ⟨read, ⟨image, same, built, exported, bytes, failures⟩,
    stream, container, sampled, parsed, inOrder⟩

end Export
end SegmentContainer
