import SegmentContainer.Image.Opened
import SegmentContainer.Proofs.Export.Stopping

/-!
# Reading images from manifests

A read of a region that a file backs comes to the bytes of a stretch of that file, or to
an error of the region.  Between the two stands the buffer for the bytes: it has to be had
before the first byte is read, and where it cannot be had the program ends, and with it the
export of all other regions.
-/

set_option autoImplicit false

namespace SegmentContainer

def Memory.Affords (memory : Memory) (size : Nat) : Prop :=
  size < 2 ^ 63 ∧ memory.grants size = true

/-- The bytes of a stretch of what a path leads to, if it has them all.  The device has
zeros everywhere. -/
def Found.stretch? (found : Found) (offset size : Nat) : Option Bytes :=
  match found with
  | .missing _ => none
  | .directory => none
  | .file content =>
    if offset + size ≤ content.length then some ((content.drop offset).take size) else none
  | .device => some (List.replicate size 0)

/-- Whether what a path leads to can be opened, and positioned where the span starts. -/
def FileSpan.Opens (span : FileSpan) : Found → Prop
  | .missing _ => False
  | .directory => span.offset.toNat < 2 ^ 63
  | .file _ => span.offset.toNat < 2 ^ 63
  | .device => True

theorem Found.length_stretch? {found : Found} {offset size : Nat} {bytes : Bytes}
    (stretch : found.stretch? offset size = some bytes) : bytes.length = size := by
  cases found with
  | missing fault => cases stretch
  | directory => cases stretch
  | file content =>
    simp only [stretch?] at stretch
    split at stretch
    · obtain rfl := Option.some.inj stretch
      rw [List.length_take, List.length_drop]
      omega
    · cases stretch
  | device =>
    obtain rfl := Option.some.inj stretch
    exact List.length_replicate

theorem Bytes.slice?_eq (content : Bytes) (offset size : Nat) (some : 0 < size) :
    slice? content offset size
      = if offset + size ≤ content.length then Option.some ((content.drop offset).take size)
        else none := by
  have long : ((content.drop offset).take size).length = size
      ↔ offset + size ≤ content.length := by
    rw [List.length_take, List.length_drop]
    omega
  simp only [slice?, long]

namespace FileSpan

variable {memory : Memory} {span : FileSpan} {found : Found} {region : Region}

theorem withBuffer_of_affords {size : Nat} (affords : memory.Affords size)
    (outcome : Unit → ReadOutcome) : withBuffer memory size outcome = outcome () := by
  have small : ¬ Memory.bufferLimit ≤ size := Nat.not_le_of_lt affords.1
  rw [withBuffer, Memory.reserve, if_neg small, if_pos affords.2]

theorem withBuffer_of_not_affords {size : Nat} (refused : ¬ memory.Affords size)
    (outcome : Unit → ReadOutcome) :
    ∃ reason, withBuffer memory size outcome = .crashed reason := by
  by_cases large : Memory.bufferLimit ≤ size
  · exact ⟨_, by rw [withBuffer, Memory.reserve, if_pos large]⟩
  · have denied : ¬ memory.grants size = true := fun granted =>
      refused ⟨Nat.lt_of_not_le large, granted⟩
    exact ⟨_, by rw [withBuffer, Memory.reserve, if_neg large, if_neg denied]⟩

theorem read_of_not_opens (memory : Memory) (region : Region) (shut : ¬ span.Opens found) :
    ∃ fault, span.read memory found region = .refused region fault := by
  cases found with
  | missing fault => exact ⟨_, rfl⟩
  | directory =>
    have far : span.seekable = false := decide_eq_false shut
    exact ⟨_, by simp only [read, far, Bool.false_eq_true, if_false, refuse]; rfl⟩
  | file content =>
    have far : span.seekable = false := decide_eq_false shut
    exact ⟨_, by simp only [read, far, Bool.false_eq_true, if_false, refuse]; rfl⟩
  | device => exact absurd trivial shut

theorem read_of_opens (opens : span.Opens found) (admitted : region.Admitted) :
    span.read memory found region
      = withBuffer memory region.width fun _ =>
          match found.stretch? span.offset.toNat region.width with
          | some bytes => .data bytes
          | none => span.refuse region (if found.isDirectory then .isDirectory else .endsEarly) := by
  cases found with
  | missing fault => exact absurd opens id
  | directory =>
    have near : span.seekable = true := decide_eq_true opens
    simp only [read, near, if_true, admitted.toNat_size]
    rfl
  | file content =>
    have near : span.seekable = true := decide_eq_true opens
    have slice := Bytes.slice?_eq content span.offset.toNat region.width (Nat.succ_pos _)
    simp only [read, near, if_true, bytesOf, admitted.toNat_size, slice, Found.stretch?]
    rfl
  | device =>
    simp only [read, admitted.toNat_size]
    rfl

end FileSpan

/-- How a read of a region ends, by what backs the region. -/
structure ReadsAs (memory : Memory) (find : String → Found) (backing : Option FileSpan)
    (region : Region) (outcome : ReadOutcome) : Prop where
  data : ∀ bytes, outcome = .data bytes
    ↔ ∃ span, backing = some span ∧ span.Opens (find span.path)
        ∧ memory.Affords region.width
        ∧ (find span.path).stretch? span.offset.toNat region.width = some bytes
  whole : ∀ bytes, outcome = .data bytes → bytes.length = region.width
  failed : ∀ error, outcome = .failed error →
    ∃ fault, error = .regionRead region.name region.start fault
  crashed : (∃ reason, outcome = .crashed reason)
    ↔ ∃ span, backing = some span ∧ span.Opens (find span.path)
        ∧ ¬ memory.Affords region.width

namespace ReadsAs

variable {memory : Memory} {find : String → Found} {backing : Option FileSpan}
  {region : Region} {span : FileSpan}

theorem of_refused (fault : ReadFault)
    (shut : ∀ span, backing = some span → span.Opens (find span.path) →
      memory.Affords region.width
        ∧ (find span.path).stretch? span.offset.toNat region.width = none) :
    ReadsAs memory find backing region (.refused region fault) := by
  constructor
  case data =>
    intro bytes
    constructor
    · intro same
      cases same
    · rintro ⟨span, backed, opens, -, stretch⟩
      rw [(shut span backed opens).2] at stretch
      cases stretch
  case whole =>
    intro bytes same
    cases same
  case failed =>
    intro error same
    cases same
    exact ⟨fault, rfl⟩
  case crashed =>
    constructor
    · rintro ⟨reason, same⟩
      cases same
    · rintro ⟨span, backed, opens, refused⟩
      exact absurd (shut span backed opens).1 refused

theorem of_stretch {held : Bytes} (opens : span.Opens (find span.path))
    (affords : memory.Affords region.width)
    (stretch : (find span.path).stretch? span.offset.toNat region.width = some held) :
    ReadsAs memory find (some span) region (.data held) := by
  constructor
  case data =>
    intro bytes
    constructor
    · intro same
      obtain rfl := ReadOutcome.data.inj same
      exact ⟨span, rfl, opens, affords, stretch⟩
    · rintro ⟨other, backed, -, -, found⟩
      obtain rfl := Option.some.inj backed
      rw [stretch] at found
      rw [Option.some.inj found]
  case whole =>
    intro bytes same
    obtain rfl := ReadOutcome.data.inj same
    exact Found.length_stretch? stretch
  case failed =>
    intro error same
    cases same
  case crashed =>
    constructor
    · rintro ⟨reason, same⟩
      cases same
    · rintro ⟨other, -, -, refused⟩
      exact absurd affords refused

theorem of_not_affords (reason : String) (opens : span.Opens (find span.path))
    (refused : ¬ memory.Affords region.width) :
    ReadsAs memory find (some span) region (.crashed reason) := by
  constructor
  case data =>
    intro bytes
    constructor
    · intro same
      cases same
    · rintro ⟨other, -, -, affords, -⟩
      exact absurd affords refused
  case whole =>
    intro bytes same
    cases same
  case failed =>
    intro error same
    cases same
  case crashed => exact ⟨fun _ => ⟨span, rfl, opens, refused⟩, fun _ => ⟨reason, rfl⟩⟩

end ReadsAs

theorem FileSpan.readsAs (span : FileSpan) (memory : Memory) (find : String → Found)
    {region : Region} (admitted : region.Admitted) :
    ReadsAs memory find (some span) region (span.read memory (find span.path) region) := by
  by_cases opens : span.Opens (find span.path)
  · rw [read_of_opens opens admitted]
    by_cases affords : memory.Affords region.width
    · rw [withBuffer_of_affords affords]
      cases stretch : (find span.path).stretch? span.offset.toNat region.width with
      | none =>
        apply ReadsAs.of_refused
        intro other backed _
        obtain rfl := Option.some.inj backed
        exact ⟨affords, stretch⟩
      | some held => exact .of_stretch opens affords stretch
    · obtain ⟨reason, crashes⟩ := withBuffer_of_not_affords affords _
      rw [crashes]
      exact .of_not_affords reason opens affords
  · obtain ⟨fault, refused⟩ := read_of_not_opens memory region opens
    rw [refused]
    apply ReadsAs.of_refused
    intro other backed otherOpens
    obtain rfl := Option.some.inj backed
    exact absurd otherOpens opens

def RegionEntry.region (entry : RegionEntry) : Region :=
  ⟨entry.name, entry.start, entry.last, entry.permissions, entry.initialized⟩

namespace ManifestImage

variable {image : ManifestImage} {memory : Memory} {find : String → Found}

theorem spanAt?_eq {index : Nat} {region : Region} {backing : Option FileSpan}
    (entry : image.entries[index]? = some (region, backing)) :
    image.spanAt? (some index) = backing := by
  simp only [spanAt?, entry]

theorem entriesFrom_eq_ok {directory : String} {number : Nat} {entries : List RegionEntry}
    {made : List (Region × Option FileSpan)}
    (success : entriesFrom directory number entries = .ok made) :
    (∀ entry ∈ entries, entry.region.Admitted)
      ∧ made = entries.map fun entry => (entry.region, spanOf directory entry) := by
  induction entries generalizing number made with
  | nil =>
    obtain rfl := Except.ok.inj success
    simp
  | cons entry rest ih =>
    rw [entriesFrom] at success
    cases bounds : Region.ofBounds entry.name entry.start entry.last entry.permissions with
    | error fault => simp [bounds] at success
    | ok region =>
      cases later : entriesFrom directory (number + 1) rest with
      | error fault => simp [bounds, later] at success
      | ok more =>
        simp only [bounds, later, Except.ok.injEq] at success
        subst made
        obtain ⟨restAdmitted, rfl⟩ := ih later
        have admitted := Region.admitted_of_ofBounds bounds
        obtain rfl := Region.eq_of_ofBounds bounds
        exact ⟨List.forall_mem_cons.mpr ⟨⟨admitted.ordered, admitted.below⟩, restAdmitted⟩, rfl⟩

theorem initialized_of_spanOf {directory : String} {entry : RegionEntry} {span : FileSpan}
    (backed : spanOf directory entry = some span) : entry.initialized = true := by
  rw [spanOf] at backed
  split at backed
  · assumption
  · cases backed

theorem mem_entriesFrom {directory : String} {number : Nat} {entries : List RegionEntry}
    {made : List (Region × Option FileSpan)}
    (success : entriesFrom directory number entries = .ok made) :
    ∀ item ∈ made, item.1.Admitted ∧ ∀ span, item.2 = some span → item.1.initialized = true := by
  obtain ⟨admitted, rfl⟩ := entriesFrom_eq_ok success
  intro item member
  obtain ⟨entry, inside, rfl⟩ := List.mem_map.mp member
  exact ⟨admitted entry inside, fun span backed => initialized_of_spanOf backed⟩

theorem mem_entries_of_ofText {text directory fallback : String}
    (accepted : ofText text directory fallback = .ok image) :
    ∀ item ∈ image.entries,
      item.1.Admitted ∧ ∀ span, item.2 = some span → item.1.initialized = true := by
  rw [ofText] at accepted
  cases decoded : Manifest.ofText text with
  | error fault => simp [decoded] at accepted
  | ok manifest =>
    simp only [decoded, ofManifest] at accepted
    cases made : entriesFrom directory 0 manifest.regions with
    | error fault => simp [made] at accepted
    | ok entries =>
      simp only [made, Except.ok.injEq] at accepted
      subst image
      exact mem_entriesFrom made

theorem exists_manifest_of_load {path : String} {found : Found}
    {image : ManifestImage} (loaded : load path found = .ok image) :
    ∃ text manifest, found.readAll = .ok (Utf8.encode text) ∧ Manifest.ofText text = .ok manifest
      ∧ ofManifest ((Path.parent? path).getD ".") ((Path.fileStem? path).getD "program") manifest
        = .ok image := by
  rw [load] at loaded
  cases read : found.readAll with
  | error fault => simp [read] at loaded
  | ok content =>
    cases decoded : Utf8.decode content with
    | error fault => simp [read, decoded] at loaded
    | ok text =>
      simp only [read, decoded, ofText] at loaded
      cases accepted : Manifest.ofText text with
      | error fault => simp [accepted] at loaded
      | ok manifest =>
        refine ⟨text, manifest, by rw [Utf8.encode_of_decode decoded], accepted, ?_⟩
        simp only [accepted] at loaded
        split at loaded
        · cases loaded
        · cases loaded
        · rename_i made
          rw [made, Except.ok.inj loaded]

theorem load_of_ofManifest {path text : String} {manifest : Manifest} {image : ManifestImage}
    (decoded : Manifest.ofText text = .ok manifest)
    (made : ofManifest ((Path.parent? path).getD ".") ((Path.fileStem? path).getD "program")
      manifest = .ok image) : load path (.file (Utf8.encode text)) = .ok image := by
  simp only [load, Found.readAll, Utf8.decode_encode, ofText, decoded, made]

theorem readsAs (accepted : ∀ item ∈ image.entries, item.1.Admitted) (memory : Memory)
    (find : String → Found) {index : Nat} {region : Region} {backing : Option FileSpan}
    (entry : image.entries[index]? = some (region, backing)) :
    ReadsAs memory find backing region (image.read memory find (some index) region) := by
  rw [read, spanAt?_eq entry]
  cases backing with
  | none =>
    apply ReadsAs.of_refused
    intro span backed
    cases backed
  | some span => exact span.readsAs memory find (accepted _ (List.mem_of_getElem? entry))

theorem exists_entry_of_selected {placed : Placed}
    (member : placed ∈ image.toImage.selected) :
    ∃ backing, image.entries[placed.index]? = some (placed.region, backing) := by
  have placedThere := image.toImage.selected_exportOrder.complete.mem_iff.mp member
  obtain ⟨numbered, inside, rfl⟩ := List.mem_map.mp (List.mem_filter.mp placedThere).1
  have listed := List.mem_zipIdx_iff_getElem?.mp inside
  rw [toImage, List.getElem?_map] at listed
  obtain ⟨⟨region, backing⟩, entry, same⟩ := Option.map_eq_some_iff.mp listed
  refine ⟨backing, ?_⟩
  rw [entry, ← same]

theorem mem_selected {index : Nat} {region : Region} {backing : Option FileSpan}
    (entry : image.entries[index]? = some (region, backing))
    (ready : region.initialized = true) : ⟨index, region⟩ ∈ image.toImage.selected := by
  have listed : image.toImage.regions[index]? = some region := by
    rw [toImage, List.getElem?_map, entry]
    rfl
  have placed : (⟨index, region⟩ : Placed) ∈ image.toImage.placed :=
    List.mem_map.mpr ⟨(region, index), List.mem_zipIdx_iff_getElem?.mpr listed, rfl⟩
  exact image.toImage.selected_exportOrder.complete.mem_iff.mpr
    (List.mem_filter.mpr ⟨placed, ready⟩)

end ManifestImage

def OpenedImage.answers (image : OpenedImage) (memory : Memory) (find : String → Found)
    (stop : Nat → Bool) : Surroundings where
  read _ placed := image.read memory find (some placed.index) placed.region
  stop := stop

def OpenedImage.exported (image : OpenedImage) (memory : Memory) (find : String → Found)
    (options : ExportOptions) (stop : Nat → Bool) : Except Halt ExportStream :=
  (Export.run memory options image.toImage (image.answers memory find stop)).result

namespace ManifestImage

/-- Whether the image has a region whose file opens, but for whose bytes there is no
buffer. -/
def Overtaxes (image : ManifestImage) (memory : Memory) (find : String → Found) : Prop :=
  ∃ entry ∈ image.entries, ∃ span, entry.2 = some span ∧ span.Opens (find span.path)
    ∧ ¬ memory.Affords entry.1.width

/-- Reads of a region of a manifest return its bytes or an error of that region, but for
those that open their file and then get no buffer: these crash.  An export of the manifest
crashes if any of its regions does so, and otherwise only where the container itself has
2^63 bytes or more. -/
theorem reads_of_manifest (text directory fallback : String) (image : ManifestImage)
    (accepted : ofText text directory fallback = .ok image) (memory : Memory)
    (find : String → Found) :
    (∀ index region backing, image.entries[index]? = some (region, backing) →
        ReadsAs memory find backing region (image.read memory find (some index) region)
          ∧ ((∀ size < 2 ^ 30, memory.grants size = true) → region.width < 2 ^ 30 →
              ∀ reason, image.read memory find (some index) region ≠ .crashed reason))
      ∧ ∀ options stop,
          (∀ reason, (OpenedImage.manifest image).exported memory find options stop
              = .error (.crashed reason) →
            image.Overtaxes memory find
              ∨ 2 ^ 63 ≤ roomFor (writtenFrom options.onReadError
                    ((OpenedImage.manifest image).answers memory find stop).read 0
                    image.toImage.selected)
                  + Container.payloadSize image.toImage.entries)
            ∧ ((∀ number, stop number = false) → image.Overtaxes memory find →
                ∃ reason, (OpenedImage.manifest image).exported memory find options stop
                  = .error (.crashed reason)) := by
  have facts := mem_entries_of_ofText accepted
  have admitted : ∀ item ∈ image.entries, item.1.Admitted := fun item member =>
    (facts item member).1
  have reads : ∀ index region backing, image.entries[index]? = some (region, backing) →
      ReadsAs memory find backing region (image.read memory find (some index) region) :=
    fun _ _ _ => readsAs admitted memory find
  refine ⟨?_, ?_⟩
  · intro index region backing entry
    refine ⟨reads index region backing entry, ?_⟩
    intro grants few reason crashed
    obtain ⟨span, -, -, refused⟩ :=
      (reads index region backing entry).crashed.mp ⟨reason, crashed⟩
    exact refused ⟨by omega, grants _ few⟩
  · intro options stop
    constructor
    · intro reason crashed
      rcases Export.crashed_of_run crashed with ⟨placed, selected, call, crashes⟩ | large
      · obtain ⟨backing, entry⟩ := exists_entry_of_selected selected
        obtain ⟨span, backed, opens, refused⟩ :=
          (reads placed.index placed.region backing entry).crashed.mp ⟨reason, crashes⟩
        exact .inl ⟨_, List.mem_of_getElem? entry, span, backed, opens, refused⟩
      · exact .inr large
    · rintro never ⟨⟨region, backing⟩, member, span, backed, opens, refused⟩
      obtain ⟨index, entry⟩ := List.mem_iff_getElem?.mp member
      -- the region is backed, so it is initialized, and its turn comes in the loop of reads
      have selected := mem_selected entry ((facts _ member).2 span backed)
      obtain ⟨why, crashes⟩ := (reads index region backing entry).crashed.mpr
        ⟨span, backed, opens, refused⟩
      have always : ∀ call, ∃ reason, ((OpenedImage.manifest image).answers memory find
          stop).read call ⟨index, region⟩ = .crashed reason := fun _ => ⟨why, crashes⟩
      obtain ⟨reason, gathered⟩ :=
        Export.gather_crashed_of_mem options.onReadError never always 0 selected
      refine ⟨reason, ?_⟩
      rw [OpenedImage.exported, Export.run]
      exact congrArg (Except.bind · _) gathered

def hugeManifest : String :=
  "\x7b\"regions\":[\x7b\"name\":\"r\",\"start\":0,\"end\":9223372036854775807,\"permissions\":\"r\",\"file\":\"f\"\x7d]\x7d"

def hugeBacked : ManifestImage where
  name := "x"
  entries := [(⟨"r", 0, 0x7FFFFFFFFFFFFFFF, ⟨true, false, false⟩, true⟩, some ⟨"f", 0⟩)]
  symbols := []

def shortFile : FileSystem := ⟨[(["f"], .file [0])], []⟩

theorem ofText_hugeManifest : ofText hugeManifest "" "x" = .ok hugeBacked := by cbv

theorem find_shortFile : shortFile.find "f" = .file [0] := by cbv

/-- The file is too short for the region, and yet it is no error of the region: the buffer
for its bytes takes the whole export down. -/
theorem hugeBacked_crashes :
    ofText hugeManifest "" "x" = .ok hugeBacked
      ∧ (∀ size < 2 ^ 30, Memory.usual.grants size = true)
      ∧ hugeBacked.read Memory.usual shortFile.find (some 0)
          ⟨"r", 0, 0x7FFFFFFFFFFFFFFF, ⟨true, false, false⟩, true⟩ = .crashed "capacity overflow"
      ∧ (OpenedImage.manifest hugeBacked).exported Memory.usual shortFile.find ⟨.zeroFill⟩
          (fun _ => false) = .error (.crashed "capacity overflow") := by
  have selected : hugeBacked.toImage.selected
      = [⟨0, ⟨"r", 0, 0x7FFFFFFFFFFFFFFF, ⟨true, false, false⟩, true⟩⟩] := by
    cbv
  refine ⟨ofText_hugeManifest, fun size few => decide_eq_true (by omega), by cbv, ?_⟩
  simp only [OpenedImage.exported, Export.run, OpenedImage.toImage, selected]
  cbv

theorem reads_of_hugeManifest :
    ofText hugeManifest "" "x" = .ok hugeBacked
      ∧ hugeBacked.Overtaxes Memory.usual shortFile.find
      ∧ ∃ reason, (OpenedImage.manifest hugeBacked).exported Memory.usual shortFile.find
          ⟨.zeroFill⟩ (fun _ => false) = .error (.crashed reason) := by
  have overtaxes : hugeBacked.Overtaxes Memory.usual shortFile.find := by
    refine ⟨_, List.mem_singleton_self _, ⟨"f", 0⟩, rfl, ?_, ?_⟩
    · rw [find_shortFile]
      exact (by decide : (0 : UInt64).toNat < 2 ^ 63)
    · rintro ⟨small, -⟩
      revert small
      decide +kernel
  exact ⟨ofText_hugeManifest, overtaxes,
    ((reads_of_manifest hugeManifest "" "x" hugeBacked ofText_hugeManifest Memory.usual
      shortFile.find).2 ⟨.zeroFill⟩ fun _ => false).2 (fun _ => rfl) overtaxes⟩

end ManifestImage
end SegmentContainer
