import SegmentContainer.Image.Opened
import SegmentContainer.Proofs.Elf.Tables
import SegmentContainer.Proofs.Export.Listing
import SegmentContainer.Proofs.Export.Stopping
import SegmentContainer.Proofs.Image.Reading

/-!
# Exports of ELF sections

The loaded sections of an ELF file, from the section headers to the container.  Headers say
anything about addresses, sizes and offsets; all that is relied on is that these are words.
How the tables of a file are found is left open.
-/

set_option autoImplicit false

namespace SegmentContainer

namespace Elf

namespace SectionHeader

/-- Whether a section is loaded, by the second bit of its flags, and not empty. -/
def loads (sectionHeader : SectionHeader) : Bool :=
  sectionHeader.flags.testBit 1 && 0 < sectionHeader.size

/-- Whether the section takes space in the file; those of kind eight do not. -/
def hasContents (sectionHeader : SectionHeader) : Bool :=
  sectionHeader.kind ≠ 8

/-- The region of a section.  It can be read, it can be written if the first bit of the
flags is set, and it holds code if the third one is. -/
def region (names : StringTable) (sectionHeader : SectionHeader) : Region where
  name := (names.name? sectionHeader.name).getD ""
  start := UInt64.ofNat sectionHeader.address
  last := UInt64.ofNat (sectionHeader.address + sectionHeader.size - 1)
  permissions :=
    ⟨true, sectionHeader.flags.testBit 0, sectionHeader.flags.testBit 2⟩
  initialized := sectionHeader.hasContents

def backing (sectionHeader : SectionHeader) : Option UInt64 :=
  if sectionHeader.hasContents then some (UInt64.ofNat sectionHeader.offset) else none

def stored? (file : Bytes) (sectionHeader : SectionHeader) : Option Bytes :=
  if sectionHeader.offset + sectionHeader.size ≤ file.length then
    some ((file.drop sectionHeader.offset).take sectionHeader.size)
  else none

def place (sectionHeader : SectionHeader) : RegionHeader :=
  ⟨UInt64.ofNat sectionHeader.address,
    UInt64.ofNat (sectionHeader.address + sectionHeader.size),
    UInt64.ofNat (4 + 2 * (sectionHeader.flags.testBit 0).toNat
      + (sectionHeader.flags.testBit 2).toNat)⟩

/-- A section as a container holds it: with its bytes, or with zeros where the file does not
have them.  A section of 2^63 bytes or more that the file does not have is left out. -/
def exported? (file : Bytes) (sectionHeader : SectionHeader) : Option ContainerRegion :=
  if sectionHeader.offset + sectionHeader.size ≤ file.length then
    some ⟨sectionHeader.place, (file.drop sectionHeader.offset).take sectionHeader.size⟩
  else if sectionHeader.size < 2 ^ 63 then
    some ⟨sectionHeader.place, List.replicate sectionHeader.size 0⟩
  else none

structure Placeable (sectionHeader : SectionHeader) : Prop where
  words : sectionHeader.Words
  inhabited : 0 < sectionHeader.size
  room : sectionHeader.address + sectionHeader.size < 2 ^ 64

variable {sectionHeader : SectionHeader} {names : StringTable} {file : Bytes}

theorem isLoaded_eq_loads : isLoaded = loads := by
  funext sectionHeader
  simp only [isLoaded, loads, Nat.pos_iff_ne_zero]
  rfl

theorem size_pos_of_loads (loaded : sectionHeader.loads = true) : 0 < sectionHeader.size := by
  simp only [loads, Bool.and_eq_true, decide_eq_true_eq] at loaded
  exact loaded.2

namespace Placeable

theorem toNat_start (placeable : sectionHeader.Placeable) (names : StringTable) :
    (sectionHeader.region names).start.toNat = sectionHeader.address :=
  UInt64.toNat_ofNat_of_lt' placeable.words.address

theorem toNat_last (placeable : sectionHeader.Placeable) (names : StringTable) :
    (sectionHeader.region names).last.toNat
      = sectionHeader.address + sectionHeader.size - 1 := by
  have room := placeable.room
  have inside : sectionHeader.address + sectionHeader.size - 1 < 2 ^ 64 := by omega
  exact UInt64.toNat_ofNat_of_lt' inside

theorem admitted (placeable : sectionHeader.Placeable) (names : StringTable) :
    (sectionHeader.region names).Admitted := by
  have inhabited := placeable.inhabited
  have room := placeable.room
  have first := placeable.toNat_start names
  have last := placeable.toNat_last names
  refine ⟨UInt64.le_iff_toNat_le.mpr ?_, ?_⟩
  · omega
  · omega

theorem width_region (placeable : sectionHeader.Placeable) (names : StringTable) :
    (sectionHeader.region names).width = sectionHeader.size := by
  have inhabited := placeable.inhabited
  rw [Region.width, placeable.toNat_start, placeable.toNat_last]
  omega

theorem header_region (placeable : sectionHeader.Placeable) (names : StringTable) :
    (sectionHeader.region names).header = sectionHeader.place := by
  have inhabited := placeable.inhabited
  have next : UInt64.ofNat (sectionHeader.address + sectionHeader.size - 1) + 1
      = UInt64.ofNat (sectionHeader.address + sectionHeader.size) := by
    change UInt64.ofNat _ + UInt64.ofNat 1 = _
    rw [← UInt64.ofNat_add, Nat.sub_add_cancel (by omega)]
  simp only [Region.header, region, next]
  rfl

theorem filled?_region (placeable : sectionHeader.Placeable) (names : StringTable)
    (file : Bytes) :
    (sectionHeader.region names).filled? (sectionHeader.stored? file)
      = sectionHeader.exported? file := by
  rw [exported?, stored?, ← placeable.header_region names]
  split
  · rfl
  · simp only [Region.filled?, placeable.width_region]

end Placeable

end SectionHeader

def File.loaded (file : File) : List SectionHeader :=
  file.sections.filter SectionHeader.loads

theorem File.filter_isLoaded (file : File) : file.sections.filter isLoaded = file.loaded := by
  rw [SectionHeader.isLoaded_eq_loads, loaded]

theorem File.placeable_of_mem_loaded (file : File)
    (words : ∀ sectionHeader ∈ file.sections, sectionHeader.Words)
    {sectionHeader : SectionHeader} (member : sectionHeader ∈ file.loaded)
    (room : sectionHeader.address + sectionHeader.size < 2 ^ 64) : sectionHeader.Placeable := by
  obtain ⟨inside, loaded⟩ := List.mem_filter.mp member
  exact ⟨words _ inside, SectionHeader.size_pos_of_loads loaded, room⟩

theorem last_eq {address size : Nat} (addressWord : address < 2 ^ 64) (inhabited : 0 < size)
    (room : address + size < 2 ^ 64) :
    UInt64.ofNat address + (UInt64.ofNat size - 1) = UInt64.ofNat (address + size - 1) := by
  have start : (UInt64.ofNat address).toNat = address := UInt64.toNat_ofNat_of_lt' addressWord
  have sizeWord : size < 2 ^ 64 := by omega
  have count : (UInt64.ofNat size).toNat = size := UInt64.toNat_ofNat_of_lt' sizeWord
  have inside : address + size - 1 < 2 ^ 64 := by omega
  have place : (UInt64.ofNat (address + size - 1)).toNat = address + size - 1 :=
    UInt64.toNat_ofNat_of_lt' inside
  have sum : (UInt64.ofNat address + (UInt64.ofNat size - 1)).toNat + 1
      = (UInt64.ofNat address).toNat + (UInt64.ofNat size).toNat :=
    Region.toNat_last (by omega) (by omega)
  apply UInt64.toNat_inj.mp
  omega

theorem regionOf_eq_ok_iff (names : StringTable) {sectionHeader : SectionHeader}
    (words : sectionHeader.Words) (inhabited : 0 < sectionHeader.size)
    (entry : Region × Option UInt64) :
    regionOf names sectionHeader = .ok entry
      ↔ sectionHeader.address + sectionHeader.size < 2 ^ 64
        ∧ entry = (sectionHeader.region names, sectionHeader.backing) := by
  have size : (UInt64.ofNat sectionHeader.size).toNat = sectionHeader.size :=
    UInt64.toNat_ofNat_of_lt' words.size
  have start : (UInt64.ofNat sectionHeader.address).toNat = sectionHeader.address :=
    UInt64.toNat_ofNat_of_lt' words.address
  have some : 0 < (UInt64.ofNat sectionHeader.size).toNat := by omega
  by_cases room : sectionHeader.address + sectionHeader.size < 2 ^ 64
  · have sized := Region.ofSize_of_lt some (by rwa [start, size])
    simp only [regionOf, sized, last_eq words.address inhabited room, Except.ok.injEq, room,
      true_and, SectionHeader.region, SectionHeader.backing, SectionHeader.hasContents,
      decide_eq_true_eq]
    exact eq_comm
  · simp only [room, false_and, iff_false]
    intro made
    rw [regionOf] at made
    cases sized : Region.ofSize ((names.name? sectionHeader.name).getD "")
        (UInt64.ofNat sectionHeader.address) (UInt64.ofNat sectionHeader.size)
        ⟨true, sectionHeader.flags.testBit writeFlag, sectionHeader.flags.testBit codeFlag⟩ with
    | error fault => simp [sized] at made
    | ok region =>
      have fits := Region.lt_of_ofSize some sized
      omega

theorem regionsOf_eq_ok_iff (names : StringTable) {sections : List SectionHeader}
    (words : ∀ sectionHeader ∈ sections, sectionHeader.Words)
    (inhabited : ∀ sectionHeader ∈ sections, 0 < sectionHeader.size)
    (entries : List (Region × Option UInt64)) :
    regionsOf names sections = .ok entries
      ↔ (∀ sectionHeader ∈ sections, sectionHeader.address + sectionHeader.size < 2 ^ 64)
        ∧ entries = sections.map fun sectionHeader =>
            (sectionHeader.region names, sectionHeader.backing) := by
  induction sections generalizing entries with
  | nil => simp [regionsOf, eq_comm]
  | cons first rest ih =>
    obtain ⟨firstWords, restWords⟩ := List.forall_mem_cons.mp words
    obtain ⟨firstInhabited, restInhabited⟩ := List.forall_mem_cons.mp inhabited
    have step := regionOf_eq_ok_iff names firstWords firstInhabited
    have later := ih restWords restInhabited
    rw [regionsOf, List.forall_mem_cons, List.map_cons]
    -- the list of entries is lost on the first section without room, here or further on
    cases made : regionOf names first with
    | error fault =>
      have full : ¬ first.address + first.size < 2 ^ 64 := by
        intro room
        rw [(step _).mpr ⟨room, rfl⟩] at made
        cases made
      simp only [full, false_and, reduceCtorEq]
    | ok entry =>
      obtain ⟨room, rfl⟩ := (step entry).mp made
      cases listed : regionsOf names rest with
      | error fault =>
        have full : ¬ ∀ sectionHeader ∈ rest,
            sectionHeader.address + sectionHeader.size < 2 ^ 64 := by
          intro rooms
          rw [(later _).mpr ⟨rooms, rfl⟩] at listed
          cases listed
        simp only [full, and_false, false_and, reduceCtorEq]
      | ok more =>
        obtain ⟨rooms, rfl⟩ := (later more).mp listed
        simp only [Except.ok.injEq, room, true_and]
        constructor
        · intro same
          exact ⟨rooms, same.symm⟩
        · rintro ⟨-, same⟩
          exact same.symm

end Elf

namespace ElfImage

variable {tables? : Bytes → Option Elf.File} {name : String} {bytes : Bytes} {file : Elf.File}
  {image : ElfImage}

theorem bytesAt_eq (image : ElfImage) (offset : UInt64) (asked : Region) :
    image.bytesAt offset asked
      = if offset.toNat + asked.size.toNat ≤ image.file.length then
          .data ((image.file.drop offset.toNat).take asked.size.toNat)
        else .refused asked (.pastEnd offset asked.size image.file.length) := by
  rw [bytesAt]
  by_cases inside : offset.toNat + asked.size.toNat ≤ image.file.length
  · rw [if_pos inside, if_pos inside, ReadOutcome.slice,
      if_pos ⟨Nat.le_add_right _ _, inside⟩, Nat.add_sub_cancel_left]
  · rw [if_neg inside, if_neg inside]

theorem read_ne_crashed (image : ElfImage) (index : Option Nat) (asked : Region)
    (reason : String) : image.read index asked ≠ .crashed reason := by
  intro crashed
  rw [read] at crashed
  split at crashed
  · cases crashed
  · cases crashed
  · rw [bytesAt_eq] at crashed
    split at crashed
    · cases crashed
    · cases crashed

theorem delivers_of_entry {sectionHeader : Elf.SectionHeader} {names : Elf.StringTable}
    {index : Nat} (placeable : sectionHeader.Placeable)
    (ready : (sectionHeader.region names).initialized = true)
    (entry : image.entries[index]?
      = some (sectionHeader.region names, sectionHeader.backing)) :
    (sectionHeader.region names).Delivers (sectionHeader.stored? image.file)
      (image.read (some index) (sectionHeader.region names)) := by
  have offset : (UInt64.ofNat sectionHeader.offset).toNat = sectionHeader.offset :=
    UInt64.toNat_ofNat_of_lt' placeable.words.offset
  have size : (sectionHeader.region names).size.toNat = sectionHeader.size := by
    rw [(placeable.admitted names).toNat_size, placeable.width_region]
  have backed : sectionHeader.backing = some (UInt64.ofNat sectionHeader.offset) :=
    if_pos ready
  have reads : image.read (some index) (sectionHeader.region names)
      = image.bytesAt (UInt64.ofNat sectionHeader.offset) (sectionHeader.region names) := by
    simp only [read, Option.bind_some, entry, backed]
  rw [reads, bytesAt_eq, offset, size, Elf.SectionHeader.stored?]
  split
  · apply Region.Delivers.stored
    rw [List.length_take_of_le (by rw [List.length_drop]; omega), placeable.width_region]
  · exact .absent _

theorem ofBytesBy_eq_ok_iff (name : String) (parsed : tables? bytes = some file)
    (words : ∀ sectionHeader ∈ file.sections, sectionHeader.Words) (image : ElfImage) :
    ofBytesBy tables? name bytes = .ok image
      ↔ (∀ sectionHeader ∈ file.loaded, sectionHeader.address + sectionHeader.size < 2 ^ 64)
        ∧ image = ⟨name, bytes, file.loaded.map fun sectionHeader =>
            (sectionHeader.region file.sectionNames, sectionHeader.backing), file.allSymbols⟩ := by
  have loadedWords : ∀ sectionHeader ∈ file.loaded, sectionHeader.Words :=
    fun sectionHeader member => words sectionHeader (List.mem_of_mem_filter member)
  have inhabited : ∀ sectionHeader ∈ file.loaded, 0 < sectionHeader.size :=
    fun _ member => Elf.SectionHeader.size_pos_of_loads (List.mem_filter.mp member).2
  have made := Elf.regionsOf_eq_ok_iff file.sectionNames loadedWords inhabited
  simp only [ofBytesBy, parsed, Elf.File.filter_isLoaded]
  cases listed : Elf.regionsOf file.sectionNames file.loaded with
  | error fault =>
    have full : ¬ ∀ sectionHeader ∈ file.loaded,
        sectionHeader.address + sectionHeader.size < 2 ^ 64 := by
      intro rooms
      rw [(made _).mpr ⟨rooms, rfl⟩] at listed
      cases listed
    simp only [full, false_and, reduceCtorEq]
  | ok entries =>
    obtain ⟨rooms, rfl⟩ := (made entries).mp listed
    simp only [Except.ok.injEq]
    constructor
    · intro same
      exact ⟨rooms, same.symm⟩
    · rintro ⟨-, same⟩
      exact same.symm

theorem exists_fault_of_ofBytesBy (parsed : tables? bytes = some file)
    (refused : ¬ ∃ image, ofBytesBy tables? name bytes = .ok image) :
    ∃ fault, ofBytesBy tables? name bytes = .error (.binary fault) := by
  cases listed : Elf.regionsOf file.sectionNames file.loaded with
  | error fault =>
    refine ⟨.region fault, ?_⟩
    simp only [ofBytesBy, parsed, Elf.File.filter_isLoaded, listed]
  | ok entries =>
    refine absurd ⟨⟨name, bytes, entries, file.allSymbols⟩, ?_⟩ refused
    simp only [ofBytesBy, parsed, Elf.File.filter_isLoaded, listed]

structure MadeFrom (image : ElfImage) (bytes : Bytes) (file : Elf.File) : Prop where
  contents : image.file = bytes
  entries : image.entries = file.loaded.map fun sectionHeader =>
    (sectionHeader.region file.sectionNames, sectionHeader.backing)
  placeable : ∀ sectionHeader ∈ file.loaded, sectionHeader.Placeable

theorem madeFrom_of_ofBytesBy (parsed : tables? bytes = some file)
    (words : ∀ sectionHeader ∈ file.sections, sectionHeader.Words)
    (made : ofBytesBy tables? name bytes = .ok image) : image.MadeFrom bytes file := by
  obtain ⟨rooms, rfl⟩ := (ofBytesBy_eq_ok_iff name parsed words image).mp made
  refine ⟨rfl, rfl, ?_⟩
  intro sectionHeader member
  exact file.placeable_of_mem_loaded words member (rooms _ member)

namespace MadeFrom

theorem regions (made : image.MadeFrom bytes file) :
    image.toImage.regions
      = file.loaded.map (·.region file.sectionNames) := by
  rw [toImage, made.entries, List.map_map]
  rfl

theorem delivers (made : image.MadeFrom bytes file) {index : Nat}
    {sectionHeader : Elf.SectionHeader}
    (listed : file.loaded[index]? = some sectionHeader)
    (ready : (sectionHeader.region file.sectionNames).initialized = true) :
    (sectionHeader.region file.sectionNames).Delivers (sectionHeader.stored? bytes)
      (image.read (some index) (sectionHeader.region file.sectionNames)) := by
  rw [← made.contents]
  apply delivers_of_entry (made.placeable _ (List.mem_of_getElem? listed)) ready
  rw [made.entries, List.getElem?_map, listed]
  rfl

theorem holds (made : image.MadeFrom bytes file) {memory : Memory} {find : String → Found}
    {stream : ExportStream}
    (exported : (OpenedImage.elf image).exported memory find ⟨.zeroFill⟩ (fun _ => false)
      = .ok stream) :
    ∃ order,
      StableOrder (fun sectionHeader => sectionHeader.address) (·.hasContents) file.loaded order
        ∧ stream.Holds image.toImage (order.filterMap fun item => item.1.exported? bytes)
        ∧ List.Forall₂ (fun item failure => failure.Reports (item.1.region file.sectionNames))
            (order.filter fun item => (item.1.stored? bytes).isNone)
            stream.summary.readFailures := by
  obtain ⟨order, stable, held, reports⟩ := Export.holds_of_listed made.regions
    (fun sectionHeader member => (made.placeable _ member).admitted _)
    (fun _ _ listed ready _ => made.delivers listed ready) exported
  refine ⟨order, ?_, ?_, reports⟩
  · refine stable.congr ?_ fun _ _ => rfl
    intro sectionHeader member
    exact (made.placeable _ member).toNat_start _
  · have same : (order.filterMap fun item =>
          (item.1.region file.sectionNames).filled? (item.1.stored? bytes))
        = order.filterMap fun item => item.1.exported? bytes := by
      apply List.filterMap_congr
      intro item member
      exact (made.placeable _ (stable.mem member).1).filled?_region _ bytes
    rw [← same]
    exact held

end MadeFrom

/-- However the tables of a file are found: an image is made exactly if the exclusive end of
every loaded section is a word, and it has these sections for its regions, none of which
crashes when it is read.  An export of it that fills with zeros has the initialized ones
in ascending order of address, sections that share an address as the table lists them, each
with its own bytes or with zeros. -/
theorem holds_of_tables (tables? : Bytes → Option Elf.File) (name : String) (bytes : Bytes)
    (file : Elf.File) (parsed : tables? bytes = some file)
    (words : ∀ sectionHeader ∈ file.sections, sectionHeader.Words) :
      ((∃ image, ofBytesBy tables? name bytes = .ok image)
        ↔ ∀ sectionHeader ∈ file.loaded,
            sectionHeader.address + sectionHeader.size ≤ 2 ^ 64 - 1)
      ∧ ((¬ ∀ sectionHeader ∈ file.loaded,
            sectionHeader.address + sectionHeader.size ≤ 2 ^ 64 - 1) →
          ∃ fault, ofBytesBy tables? name bytes = .error (.binary fault))
      ∧ ∀ image, ofBytesBy tables? name bytes = .ok image →
          image.toImage.regions = file.loaded.map (·.region file.sectionNames)
            ∧ (∀ index asked reason, image.read index asked ≠ .crashed reason)
            ∧ ∀ memory find stream,
                (OpenedImage.elf image).exported memory find ⟨.zeroFill⟩ (fun _ => false)
                  = .ok stream →
                ∃ order,
                  StableOrder (fun sectionHeader => sectionHeader.address) (·.hasContents)
                      file.loaded order
                    ∧ stream.Holds image.toImage
                        (order.filterMap fun item => item.1.exported? bytes)
                    ∧ List.Forall₂
                        (fun item failure =>
                          failure.Reports (item.1.region file.sectionNames))
                        (order.filter fun item => (item.1.stored? bytes).isNone)
                        stream.summary.readFailures := by
  have made := ofBytesBy_eq_ok_iff name parsed words
  have below : (∀ sectionHeader ∈ file.loaded,
        sectionHeader.address + sectionHeader.size ≤ 2 ^ 64 - 1)
      ↔ ∀ sectionHeader ∈ file.loaded, sectionHeader.address + sectionHeader.size < 2 ^ 64 :=
    forall₂_congr fun _ _ => Nat.le_sub_one_iff_lt (by norm_num)
  have admits : (∃ image, ofBytesBy tables? name bytes = .ok image)
      ↔ ∀ sectionHeader ∈ file.loaded,
          sectionHeader.address + sectionHeader.size ≤ 2 ^ 64 - 1 := by
    rw [below]
    constructor
    · rintro ⟨image, success⟩
      exact ((made image).mp success).1
    · intro rooms
      exact ⟨_, (made _).mpr ⟨rooms, rfl⟩⟩
  refine ⟨admits, ?_, ?_⟩
  · intro full
    exact exists_fault_of_ofBytesBy parsed (mt admits.mp full)
  · intro image success
    have madeFrom := madeFrom_of_ofBytesBy parsed words success
    exact ⟨madeFrom.regions, image.read_ne_crashed, fun _ _ _ => madeFrom.holds⟩

def sectionBytes (kind flags address offset size : UInt8) : Bytes :=
  [0, kind, flags, address, offset, size, 0, 0, 0, 0].flatMap fun value => [value, 0, 0, 0]

/-- A file with four loaded sections of one byte: two with the same region, at different
offsets, one that takes no space in the file, and one behind the end of the file. -/
def twinsElf : Bytes :=
  Elf.magic ++ [1, 1] ++ List.replicate 26 0 ++ [52, 0, 0, 0] ++ List.replicate 12 0
    ++ [4, 0, 9, 0] ++ sectionBytes 1 3 1 0 1 ++ sectionBytes 1 3 1 1 1
    ++ sectionBytes 8 2 5 0 1 ++ sectionBytes 1 6 0 212 1

def oneByte (kind flags address offset : Nat) : Elf.SectionHeader :=
  ⟨0, kind, flags, address, offset, 1, 0, 0⟩

def twinsTables : Elf.File where
  sections := [oneByte 1 3 1 0, oneByte 1 3 1 1, oneByte 8 2 5 0, oneByte 1 6 0 212]
  sectionNames := .empty
  symbols := .none
  dynamicSymbols := .none

def twinsImage : ElfImage where
  name := "e"
  file := twinsElf
  entries :=
    [(⟨"", 1, 1, ⟨true, true, false⟩, true⟩, some 0),
     (⟨"", 1, 1, ⟨true, true, false⟩, true⟩, some 1),
     (⟨"", 5, 5, ⟨true, false, false⟩, false⟩, none),
     (⟨"", 0, 0, ⟨true, false, true⟩, true⟩, some 212)]
  symbols := []

theorem ofBytes?_twinsElf : Elf.File.ofBytes? twinsElf = some twinsTables := by cbv

theorem ofBytes_twinsElf : ofBytes "e" twinsElf = .ok twinsImage := by
  simp only [ofBytes, ofBytesBy, ofBytes?_twinsElf]
  cbv

theorem selected_twinsImage :
    twinsImage.toImage.selected
      = [⟨3, ⟨"", 0, 0, ⟨true, false, true⟩, true⟩⟩,
         ⟨0, ⟨"", 1, 1, ⟨true, true, false⟩, true⟩⟩,
         ⟨1, ⟨"", 1, 1, ⟨true, true, false⟩, true⟩⟩] := by
  cbv

theorem exported_twinsImage :
    ∃ stream, (OpenedImage.elf twinsImage).exported Memory.usual
      (fun _ => .missing .notFound) ⟨.zeroFill⟩ (fun _ => false) = .ok stream := by
  apply exists_of_isOk
  simp only [OpenedImage.exported, Export.run, OpenedImage.toImage, selected_twinsImage]
  decide +kernel

theorem stableOrder_twinsTables :
    StableOrder (fun sectionHeader => sectionHeader.address)
      (·.hasContents)
      twinsTables.loaded
      [(oneByte 1 6 0 212, 3), (oneByte 1 3 1 0, 0), (oneByte 1 3 1 1, 1)] := by
  constructor
  · decide +kernel
  · decide +kernel

theorem holds_of_tables_twins :
    ∃ stream,
      Elf.File.ofBytes? twinsElf = some twinsTables
        ∧ (∀ sectionHeader ∈ twinsTables.sections, sectionHeader.Words)
        ∧ ofBytesBy Elf.File.ofBytes? "e" twinsElf = .ok twinsImage
        ∧ (OpenedImage.elf twinsImage).exported Memory.usual (fun _ => .missing .notFound)
            ⟨.zeroFill⟩ (fun _ => false) = .ok stream
        ∧ stream.Holds twinsImage.toImage
            [⟨⟨0, 1, 5⟩, [0]⟩, ⟨⟨1, 2, 6⟩, [0x7F]⟩, ⟨⟨1, 2, 6⟩, [0x45]⟩]
        ∧ ∃ failure, stream.summary.readFailures = [failure]
            ∧ failure.Reports ⟨"", 0, 0, ⟨true, false, true⟩, true⟩ := by
  obtain ⟨stream, exported⟩ := exported_twinsImage
  have words := Elf.File.words_of_ofBytes? ofBytes?_twinsElf
  obtain ⟨order, stable, holds, reports⟩ :=
    ((holds_of_tables Elf.File.ofBytes? "e" twinsElf twinsTables ofBytes?_twinsElf words).2.2
      twinsImage ofBytes_twinsElf).2.2 _ _ stream exported
  obtain rfl := stable.unique stableOrder_twinsTables
  have carried : List.filterMap (fun item : Elf.SectionHeader × Nat =>
        item.1.exported? twinsElf)
        [(oneByte 1 6 0 212, 3), (oneByte 1 3 1 0, 0), (oneByte 1 3 1 1, 1)]
      = [⟨⟨0, 1, 5⟩, [0]⟩, ⟨⟨1, 2, 6⟩, [0x7F]⟩, ⟨⟨1, 2, 6⟩, [0x45]⟩] := by
    decide +kernel
  have missing : List.filter (fun item : Elf.SectionHeader × Nat =>
        (item.1.stored? twinsElf).isNone)
        [(oneByte 1 6 0 212, 3), (oneByte 1 3 1 0, 0), (oneByte 1 3 1 1, 1)]
      = [(oneByte 1 6 0 212, 3)] := by
    decide +kernel
  rw [carried] at holds
  rw [missing] at reports
  obtain ⟨failure, rest, report, nothing, recorded⟩ := List.forall₂_cons_left_iff.mp reports
  obtain rfl := List.forall₂_nil_left_iff.mp nothing
  exact ⟨stream, ofBytes?_twinsElf, words, ofBytes_twinsElf, exported, holds, failure, recorded,
    report⟩

end ElfImage
end SegmentContainer
