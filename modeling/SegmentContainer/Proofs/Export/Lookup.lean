import SegmentContainer.Proofs.Export.Misaligned
import SegmentContainer.Proofs.Export.RoundTrip

/-!
# Looking things up in exports

An address is looked up in the regions of a container from the front, and a name in its
symbols from the back.  In an aligned export that was read back both give what the image
says: the exported region that comes first of those that hold the address, with the byte
that was read there, and the exported symbol that comes last of those with the name.
-/

set_option autoImplicit false

namespace SegmentContainer

variable {policy : ReadFailurePolicy} {read : Nat → Placed → ReadOutcome}

/-! ## Regions -/

structure Carries (policy : ReadFailurePolicy) (read : Nat → Placed → ReadOutcome)
    (calls : List Placed) (number : Nat) (placed : Placed) (region : ContainerRegion) :
    Prop where
  asked : calls[number]? = some placed
  carried : placed.region.carried? policy (read number placed) = some region

/-- The address is one of this region, and no exported region that holds it too has a lower
start, or the same start and an earlier place in the image. -/
structure FoundFirst (policy : ReadFailurePolicy) (read : Nat → Placed → ReadOutcome)
    (calls : List Placed) (address : UInt64) (number : Nat) (placed : Placed)
    (region : ContainerRegion) : Prop where
  carries : Carries policy read calls number placed region
  contains : placed.region.contains address = true
  first : ∀ call other made, Carries policy read calls call other made →
    other.region.contains address = true →
    other = placed ∨ placed.region.start < other.region.start
      ∨ placed.region.start = other.region.start ∧ placed.index < other.index

/-- The byte of a region at an offset: the one that was read, or zero where the region was
filled with zeros. -/
def ByteAt (policy : ReadFailurePolicy) (region : Region) (outcome : ReadOutcome)
    (offset : Nat) (byte : UInt8) : Prop :=
  (∃ bytes, outcome = .data bytes ∧ bytes.length = region.width ∧ bytes[offset]? = some byte)
    ∨ outcome.whole? region = none ∧ policy = .zeroFill ∧ byte = 0

theorem carriedFrom_append (number : Nat) (front back : List Placed) :
    carriedFrom policy read number (front ++ back)
      = carriedFrom policy read number front
          ++ carriedFrom policy read (number + front.length) back := by
  induction front generalizing number with
  | nil => rfl
  | cons placed rest ih =>
    have shift : number + 1 + rest.length = number + (rest.length + 1) := by omega
    rw [List.cons_append, carriedFrom, carriedFrom, ih, List.append_assoc, List.length_cons, shift]

/-- Where a list of carried regions is cut in front of one of them, the calls are cut in
front of the one that it was carried for. -/
theorem exists_call_of_carriedFrom {number : Nat} {order : List Placed}
    {front back : List ContainerRegion} {region : ContainerRegion}
    (split : carriedFrom policy read number order = front ++ region :: back) :
    ∃ before placed after, order = before ++ placed :: after
      ∧ carriedFrom policy read number before = front
      ∧ placed.region.carried? policy (read (number + before.length) placed) = some region := by
  -- a region that is not carried leaves the front as it is, one that is takes its first item
  induction order generalizing number front with
  | nil =>
    rw [carriedFrom] at split
    simp at split
  | cons first rest ih =>
    rw [carriedFrom] at split
    cases carried : first.region.carried? policy (read number first) with
    | none =>
      rw [carried, Option.toList_none, List.nil_append] at split
      obtain ⟨before, placed, after, rfl, agree, own⟩ := ih split
      have shift : number + (first :: before).length = number + 1 + before.length := by
        rw [List.length_cons]
        omega
      refine ⟨first :: before, placed, after, rfl, ?_, shift ▸ own⟩
      rw [carriedFrom, carried, agree, Option.toList_none, List.nil_append]
    | some made =>
      rw [carried, Option.toList_some, List.singleton_append] at split
      cases front with
      | nil =>
        obtain ⟨rfl, -⟩ := List.cons.inj split
        exact ⟨[], first, rest, rfl, rfl, carried⟩
      | cons other front =>
        obtain ⟨rfl, later⟩ := List.cons.inj split
        obtain ⟨before, placed, after, rfl, agree, own⟩ := ih later
        have shift : number + (first :: before).length = number + 1 + before.length := by
          rw [List.length_cons]
          omega
        refine ⟨first :: before, placed, after, rfl, ?_, shift ▸ own⟩
        rw [carriedFrom, carried, agree, Option.toList_some, List.singleton_append]

theorem mem_carriedFrom_iff {order : List Placed} {region : ContainerRegion} :
    region ∈ carriedFrom policy read 0 order
      ↔ ∃ number placed, Carries policy read order number placed region := by
  constructor
  · intro member
    obtain ⟨front, back, split⟩ := List.append_of_mem member
    obtain ⟨before, placed, after, rfl, -, carried⟩ := exists_call_of_carriedFrom split
    rw [Nat.zero_add] at carried
    exact ⟨before.length, placed, by simp, carried⟩
  · rintro ⟨number, placed, asked, carried⟩
    obtain ⟨inside, rfl⟩ := List.getElem?_eq_some_iff.mp asked
    have long : (order.take number).length = number :=
      List.length_take_of_le (Nat.le_of_lt inside)
    rw [← List.take_append_drop number order, List.drop_eq_getElem_cons inside,
      carriedFrom_append, carriedFrom, long, Nat.zero_add, carried]
    simp

theorem Region.Admitted.contains_header {region : Region} (admitted : region.Admitted)
    (data : Bytes) (address : UInt64) :
    (ContainerRegion.mk region.header data).contains address = region.contains address := by
  have next := admitted.toNat_next
  have ends : address < region.last + 1 ↔ address ≤ region.last := by
    rw [UInt64.lt_iff_toNat_lt, UInt64.le_iff_toNat_le, next]
    exact Nat.lt_succ_iff
  exact congrArg (decide (region.start ≤ address) && ·) (decide_eq_decide.mpr ends)

theorem Carries.contains_eq {calls : List Placed} {number : Nat} {placed : Placed}
    {region : ContainerRegion} (carries : Carries policy read calls number placed region)
    (admitted : ∀ placed ∈ calls, placed.region.Admitted) (address : UInt64) :
    region.contains address = placed.region.contains address := by
  obtain ⟨data, -, rfl⟩ := Option.map_eq_some_iff.mp carries.carried
  exact (admitted placed (List.mem_of_getElem? carries.asked)).contains_header data address

theorem Region.toNat_offset_lt {region : Region} {address : UInt64}
    (contains : region.contains address = true) :
    (address - region.start).toNat < region.width := by
  simp only [Region.contains, Bool.and_eq_true, decide_eq_true_eq] at contains
  obtain ⟨low, high⟩ := contains
  have fromStart := UInt64.toNat_sub_of_le address region.start low
  have upTo := UInt64.le_iff_toNat_le.mp high
  rw [fromStart, Region.width]
  omega

theorem Region.byteAt_of_carried {region : Region} {outcome : ReadOutcome}
    {made : ContainerRegion} (carried : region.carried? policy outcome = some made)
    (filled : made.data.length = region.width) {offset : Nat} (inside : offset < region.width) :
    ∃ byte, made.data[offset]? = some byte ∧ ByteAt policy region outcome offset byte := by
  obtain ⟨data, source, rfl⟩ := Option.map_eq_some_iff.mp carried
  have within : offset < data.length := by
    change data.length = region.width at filled
    omega
  refine ⟨data[offset], List.getElem?_eq_getElem within, ?_⟩
  rcases Option.or_eq_some_iff.mp source with whole | ⟨lost, substitute⟩
  · left
    cases outcome with
    | data bytes =>
      obtain ⟨long, same⟩ := Option.ite_none_right_eq_some.mp whole
      obtain rfl := Option.some.inj same
      exact ⟨bytes, rfl, long, List.getElem?_eq_getElem within⟩
    | failed error => cases whole
    | crashed reason => cases whole
  · right
    match policy with
    | .zeroFill =>
      obtain ⟨-, same⟩ := Option.ite_none_right_eq_some.mp substitute
      obtain rfl := Option.some.inj same
      exact ⟨lost, rfl, List.getElem_replicate _⟩
    | .omit =>
      obtain rfl := Option.some.inj substitute
      exact absurd within (Nat.not_lt_zero offset)
    | .dropRegion => cases substitute

theorem foundFirst_of_find? {image : Image} {calls : List Placed}
    (inOrder : image.ExportOrder calls) (admitted : ∀ placed ∈ calls, placed.region.Admitted)
    {address : UInt64} {region : ContainerRegion}
    (found : (carriedFrom policy read 0 calls).find? (·.contains address) = some region) :
    ∃ number placed, FoundFirst policy read calls address number placed region := by
  obtain ⟨holds, front, back, split, others⟩ := List.find?_eq_some_iff_append.mp found
  obtain ⟨before, placed, after, rfl, agree, carried⟩ := exists_call_of_carriedFrom split
  rw [Nat.zero_add] at carried
  have carries : Carries policy read (before ++ placed :: after) before.length placed region :=
    ⟨by simp, carried⟩
  refine ⟨before.length, placed, carries, ?_, ?_⟩
  · rw [← carries.contains_eq admitted]
    exact holds
  · intro call other made otherCarries otherHolds
    have asked := otherCarries.asked
    rcases Nat.lt_trichotomy call before.length with earlier | rfl | later
    · -- an exported region that was asked for before stands in front, where none holds it
      rw [List.getElem?_append_left earlier] at asked
      have inFront : made ∈ front := by
        rw [← agree]
        exact mem_carriedFrom_iff.mpr ⟨call, other, asked, otherCarries.carried⟩
      have misses := others made inFront
      rw [otherCarries.contains_eq admitted, otherHolds] at misses
      cases misses
    · rw [List.getElem?_append_right (Nat.le_refl _), Nat.sub_self, List.getElem?_cons_zero] at asked
      exact .inl (Option.some.inj asked).symm
    · obtain ⟨gap, rfl⟩ := Nat.exists_eq_add_of_lt later
      have shift : before.length + gap + 1 - before.length = gap + 1 := by omega
      rw [List.getElem?_append_right (by omega), shift, List.getElem?_cons_succ] at asked
      have ascending := (List.pairwise_append.mp inOrder.ascending).2.1
      exact .inr ((List.pairwise_cons.mp ascending).1 other (List.mem_of_getElem? asked))

/-! ## Symbols -/

structure Symbol.IsLastNamed (symbols : List Symbol) (name : String) (symbol : Symbol) :
    Prop where
  exported : symbol.source ≠ .placeholder
  named : symbol.name = name
  last : ∃ front back, symbols = front ++ symbol :: back
    ∧ ∀ other ∈ back, other.source ≠ .placeholder → other.name ≠ name

theorem Image.find?_entries (image : Image) (name : String) :
    (image.entries.reverse.find? fun entry => entry.name = name)
      = (image.symbols.reverse.find? fun symbol =>
          decide (symbol.source ≠ .placeholder ∧ symbol.name = name)).map Symbol.entry := by
  rw [Image.entries, ← List.map_reverse, ← List.filter_reverse, List.find?_map, List.find?_filter]
  congr 2
  funext symbol
  apply decide_eq_decide.mpr
  exact and_congr decide_eq_true_iff decide_eq_true_iff

theorem symbolAddress?_eq_some_iff {image : Image} {container : Container}
    (symbols : container.symbols = image.entries) (name : String) (address : UInt64) :
    container.symbolAddress? name = some address
      ↔ ∃ symbol, Symbol.IsLastNamed image.symbols name symbol ∧ symbol.address = address := by
  rw [Container.symbolAddress?, symbols, image.find?_entries, Option.map_map,
    Option.map_eq_some_iff]
  apply exists_congr
  intro symbol
  apply and_congr_left
  intro _
  rw [List.find?_eq_some_iff_append, decide_eq_true_eq]
  constructor
  · rintro ⟨⟨exported, named⟩, front, back, split, others⟩
    refine ⟨exported, named, back.reverse, front.reverse, ?_, ?_⟩
    · rw [← List.reverse_reverse image.symbols, split]
      simp
    · intro other member otherExported otherNamed
      have misses := others other (List.mem_reverse.mp member)
      simp [otherExported, otherNamed] at misses
  · rintro ⟨exported, named, front, back, split, others⟩
    refine ⟨⟨exported, named⟩, back.reverse, front.reverse, ?_, ?_⟩
    · rw [split]
      simp
    · intro other member
      have misses := others other (List.mem_reverse.mp member)
      simpa [imp_iff_not_or] using misses

theorem symbolAddress?_eq_none_iff {image : Image} {container : Container}
    (symbols : container.symbols = image.entries) (name : String) :
    container.symbolAddress? name = none
      ↔ ∀ symbol ∈ image.symbols, symbol.source ≠ .placeholder → symbol.name ≠ name := by
  rw [Container.symbolAddress?, symbols, image.find?_entries, Option.map_map,
    Option.map_eq_none_iff, List.find?_eq_none]
  simp

/-! ## Whole exports -/

namespace Export

/-- Lookups in an aligned export that was read back, when no exported name holds U+0000.
An address is found exactly when an exported region holds it, and what is found is the one
of these that comes first by start and then in the image, with the bytes that were read of
it or zeros.  A name is found exactly when an exported symbol has it, at the address of the
last one that does. -/
theorem lookups_of_parse (memory : Memory) (options : ExportOptions) (image : Image)
    (surroundings : Surroundings) (stream : ExportStream) (container : Container)
    (admitted : ∀ region ∈ image.regions, region.Admitted)
    (exported : (run memory options image surroundings).result = .ok stream)
    (aligned : stream.summary.isAligned = true)
    (clean : ∀ symbol ∈ image.symbols, symbol.source ≠ .placeholder →
      Utf8.zero ∉ symbol.name.toList)
    (parsed : Container.parse stream.bytes = .ok container) :
    image.ExportOrder (run memory options image surroundings).calls
      ∧ (∀ address, container.regionContaining? address = none
          ↔ ∀ number placed region,
            Carries options.onReadError surroundings.read
              (run memory options image surroundings).calls number placed region →
            placed.region.contains address = false)
      ∧ (∀ address region, container.regionContaining? address = some region →
          ∃ number placed byte,
            FoundFirst options.onReadError surroundings.read
              (run memory options image surroundings).calls address number placed region
            ∧ region.header = placed.region.header
            ∧ region.data[(address - region.header.start).toNat]? = some byte
            ∧ ByteAt options.onReadError placed.region (surroundings.read number placed)
                (address - placed.region.start).toNat byte)
      ∧ (∀ name address, container.symbolAddress? name = some address
          ↔ ∃ symbol, Symbol.IsLastNamed image.symbols name symbol ∧ symbol.address = address)
      ∧ ∀ name, container.symbolAddress? name = none
          ↔ ∀ symbol ∈ image.symbols, symbol.source ≠ .placeholder → symbol.name ≠ name := by
  have names := image.entries_wellFormed_iff.mpr clean
  have formed := container_wellFormed admitted exported aligned names
  obtain rfl := Except.ok.inj
    (parsed.symm.trans (parse_of_run_ok admitted exported aligned names))
  have allowed := selected_admitted admitted
  rw [calls_of_run_ok exported]
  refine ⟨image.selected_exportOrder, ?nowhere, ?somewhere, ?named, ?unnamed⟩
  case nowhere =>
    intro address
    rw [Container.regionContaining?, List.find?_eq_none]
    constructor
    · intro misses number placed region carries
      have inside := mem_carriedFrom_iff.mpr ⟨number, placed, carries⟩
      rw [← carries.contains_eq allowed]
      simpa using misses region inside
    · intro misses region member
      obtain ⟨number, placed, carries⟩ := mem_carriedFrom_iff.mp member
      rw [carries.contains_eq allowed, misses number placed region carries]
      exact Bool.false_ne_true
  case somewhere =>
    intro address region found
    obtain ⟨number, placed, first⟩ :=
      foundFirst_of_find? image.selected_exportOrder allowed found
    have header := (Region.carried?_within first.carries.carried).1
    -- the export is aligned: the region has all its data, and the offset lies within it
    have filled : region.data.length = placed.region.width := by
      have own := allowed placed (List.mem_of_getElem? first.carries.asked)
      have ordered := own.toNat_ordered
      have next := own.toNat_next
      rw [(formed.regions region (List.mem_of_find?_eq_some found)).filled, header]
      simp only [Region.header, Region.width]
      omega
    obtain ⟨byte, there, read⟩ := Region.byteAt_of_carried first.carries.carried filled
      (Region.toNat_offset_lt first.contains)
    exact ⟨number, placed, byte, first, header, header ▸ there, read⟩
  case named => exact symbolAddress?_eq_some_iff rfl
  case unnamed => exact symbolAddress?_eq_none_iff rfl

/-- Three regions share a start, of which one is not initialized, and three symbols share a
name. -/
def overlappingImage : Image where
  name := "overlapping"
  regions :=
    [⟨"bss", 0x1000, 0x10FF, ⟨true, true, false⟩, false⟩,
     ⟨"narrow", 0x1000, 0x1001, ⟨true, false, false⟩, true⟩,
     ⟨"wide", 0x1000, 0x1003, ⟨true, true, false⟩, true⟩]
  symbols :=
    [⟨0x1001, "f", .userDefined⟩, ⟨0x2000, "f", .imported⟩, ⟨0x3000, "f", .placeholder⟩]

def overlappingAnswers : Surroundings where
  read number placed :=
    if number = 0 then .data [7, 8] else .refused placed.region .injected
  stop _ := false

theorem selected_overlappingImage :
    overlappingImage.selected
      = [⟨1, ⟨"narrow", 0x1000, 0x1001, ⟨true, false, false⟩, true⟩⟩,
         ⟨2, ⟨"wide", 0x1000, 0x1003, ⟨true, true, false⟩, true⟩⟩] := by
  cbv

theorem run_overlappingImage :
    ∃ stream, (run Memory.usual ⟨.zeroFill⟩ overlappingImage overlappingAnswers).result
        = .ok stream
      ∧ stream.summary.isAligned = true := by
  simp only [run, selected_overlappingImage]
  exact ⟨_, rfl, rfl⟩

/-- Behind the end of the narrow region the address belongs to the wide one, which could
not be read, and of the three symbols the last one is a placeholder. -/
theorem lookups_of_parse_overlapping :
    ∃ stream container,
      (run Memory.usual ⟨.zeroFill⟩ overlappingImage overlappingAnswers).result = .ok stream
        ∧ stream.summary.isAligned = true
        ∧ Container.parse stream.bytes = .ok container
        ∧ (∃ number placed, FoundFirst .zeroFill overlappingAnswers.read
            (run Memory.usual ⟨.zeroFill⟩ overlappingImage overlappingAnswers).calls 0x1003
            number placed ⟨⟨0x1000, 0x1004, 6⟩, [0, 0, 0, 0]⟩
          ∧ ByteAt .zeroFill placed.region (overlappingAnswers.read number placed)
              (0x1003 - placed.region.start).toNat 0)
        ∧ container.symbolAddress? "f" = some 0x2000
        ∧ container.symbolAddress? "g" = none := by
  obtain ⟨stream, exported, aligned⟩ := run_overlappingImage
  have admitted : ∀ region ∈ overlappingImage.regions, region.Admitted := by
    simp only [overlappingImage, List.forall_mem_cons]
    exact ⟨⟨by decide, by decide⟩, ⟨by decide, by decide⟩, ⟨by decide, by decide⟩, by simp⟩
  have clean : ∀ symbol ∈ overlappingImage.symbols, symbol.source ≠ .placeholder →
      Utf8.zero ∉ symbol.name.toList := by decide +kernel
  have parsed := parse_of_run_ok admitted exported aligned
    (overlappingImage.entries_wellFormed_iff.mpr clean)
  rw [selected_overlappingImage] at parsed
  obtain ⟨-, -, regions, named, unnamed⟩ := lookups_of_parse Memory.usual ⟨.zeroFill⟩
    overlappingImage overlappingAnswers stream _ admitted exported aligned clean parsed
  obtain ⟨number, placed, byte, first, -, there, read⟩ :=
    regions 0x1003 ⟨⟨0x1000, 0x1004, 6⟩, [0, 0, 0, 0]⟩ (by decide)
  obtain rfl : 0 = byte := Option.some.inj there
  have last : Symbol.IsLastNamed overlappingImage.symbols "f" ⟨0x2000, "f", .imported⟩ :=
    ⟨by decide, rfl, [⟨0x1001, "f", .userDefined⟩], [⟨0x3000, "f", .placeholder⟩], rfl, by simp⟩
  exact ⟨stream, _, exported, aligned, parsed, ⟨number, placed, first, read⟩,
    (named "f" 0x2000).mpr ⟨_, last, rfl⟩, (unnamed "g").mpr (by decide)⟩

end Export
end SegmentContainer
