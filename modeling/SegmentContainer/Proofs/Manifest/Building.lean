import SegmentContainer.Manifest.Table
import SegmentContainer.Proofs.Image.Backed
import SegmentContainer.Proofs.Manifest.Decoding

/-!
# Images built from manifests

Every entry of a manifest is checked, also those whose bytes nobody will read, and the first
one that describes no span of addresses is reported.  Without such an entry the regions of
the image are the entries, and a region is backed if its own entry names a file for it.
-/

set_option autoImplicit false

namespace SegmentContainer

/-! ## The first entry that is no region -/

/-- The bounds are in order, and an address follows the last one. -/
def RegionEntry.Bounded (entry : RegionEntry) : Prop :=
  entry.start ≤ entry.last ∧ entry.last ≠ 0xFFFFFFFFFFFFFFFF

def RegionEntry.fault (entry : RegionEntry) : Region.Fault :=
  if entry.last < entry.start then .backwards entry.name entry.start entry.last
  else .reachesTop entry.name

/-- Entry number `index` is the first one whose bounds describe no region. -/
structure RegionEntry.FirstFaulty (entries : List RegionEntry) (index : Nat)
    (entry : RegionEntry) : Prop where
  listed : entries[index]? = some entry
  faulty : ¬ entry.Bounded
  before : ∀ earlier, earlier < index → ∀ other, entries[earlier]? = some other → other.Bounded

namespace RegionEntry

variable {entry : RegionEntry} {entries : List RegionEntry} {index : Nat}

namespace FirstFaulty

theorem zero (faulty : ¬ entry.Bounded) : FirstFaulty (entry :: entries) 0 entry :=
  ⟨rfl, faulty, fun _ before => absurd before (Nat.not_lt_zero _)⟩

theorem succ {first : RegionEntry} (bounded : first.Bounded)
    (faulty : FirstFaulty entries index entry) :
    FirstFaulty (first :: entries) (index + 1) entry := by
  refine ⟨faulty.listed, faulty.faulty, fun earlier before other there => ?_⟩
  cases earlier with
  | zero =>
    obtain rfl := Option.some.inj there
    exact bounded
  | succ earlier => exact faulty.before earlier (Nat.lt_of_succ_lt_succ before) other there

theorem unique {other : RegionEntry} {place : Nat} (faulty : FirstFaulty entries index entry)
    (again : FirstFaulty entries place other) : place = index ∧ other = entry := by
  obtain rfl : place = index := by
    rcases Nat.lt_trichotomy place index with earlier | same | later
    · exact absurd (faulty.before place earlier other again.listed) again.faulty
    · exact same
    · exact absurd (again.before index later entry faulty.listed) faulty.faulty
  exact ⟨rfl, Option.some.inj (again.listed.symm.trans faulty.listed)⟩

end FirstFaulty

end RegionEntry

namespace ManifestImage

variable {directory fallback : String}

variable {manifest : Manifest}

/-- An image has the entries of a manifest, in their order.  A region is backed if its own
entry is initialized and names a file, and no other region can be read. -/
structure BuiltFrom (directory fallback : String) (manifest : Manifest)
    (image : ManifestImage) : Prop where
  name : image.name = manifest.program.getD fallback
  regions : image.toImage.regions = manifest.regions.map fun entry =>
    ⟨entry.name, entry.start, entry.last, entry.permissions, entry.initialized⟩
  symbols : image.toImage.symbols = manifest.symbols
  backed : ∀ (index : Nat) entry, manifest.regions[index]? = some entry →
    ∀ span, image.spanAt? (some index) = some span
      ↔ entry.initialized = true
        ∧ ∃ file, entry.file = some file ∧ span = ⟨Path.join directory file, entry.offset⟩
  unbacked : ∀ (index : Nat) entry, manifest.regions[index]? = some entry →
    ¬ (entry.initialized = true ∧ entry.file.isSome = true) →
    ∀ memory find, image.read memory find (some index) entry.region
      = .failed (.regionRead entry.name entry.start .noBackingFile)
  foreign : ∀ asked, (∀ entry ∈ manifest.regions, asked ≠ entry.region) →
    ∀ memory find, image.read memory find (image.locate? asked) asked
      = .failed (.regionRead asked.name asked.start .noBackingFile)

end ManifestImage

/-! ## The image in two lists -/

namespace ManifestTable

def ofImage (image : ManifestImage) : ManifestTable :=
  ⟨image.name, (image.entries.map Prod.fst).toArray, image.symbols,
    (image.entries.map Prod.snd).toArray⟩

variable {image : ManifestImage} {own? : Option Nat} {asked : Region} {place : Nat}

theorem size_regions : (ofImage image).regions.size = image.entries.length := by
  simp [ofImage]

theorem placeOf?_own (inside : place < image.entries.length) :
    (ofImage image).placeOf? (some place) asked = some place := by
  rw [placeOf?, size_regions]
  cases sought : (List.range image.entries.length).find? fun other => some place = some other with
  | none =>
    have missed := List.find?_eq_none.mp sought place (List.mem_range.mpr inside)
    exact absurd (decide_eq_true rfl) missed
  | some other =>
    have same : some place = some other := by
      simpa only [decide_eq_true_eq] using List.find?_some sought
    exact same.symm

theorem placeOf?_none : (ofImage image).placeOf? none asked = image.locate? asked := by
  have none_own : ∀ size, ((List.range size).find? fun place => none = some place) = none := by
    simp
  rw [placeOf?, none_own, Option.none_or, ManifestImage.locate?]
  simp [ofImage, List.findIdx?_map, Function.comp_def]

/-- The two lists do what an image does.  An element of the list of regions is looked up at
its own place, any other region at that of the first one equal to it; the place is always one
that the other list has, and the region is read from what is there. -/
structure Mirrors (table : ManifestTable) (image : ManifestImage) : Prop where
  regions : table.regions.toList = image.toImage.regions
  own : ∀ place, place < table.regions.size → ∀ asked,
    table.placeOf? (some place) asked = some place
  other : ∀ asked, table.placeOf? none asked = image.locate? asked
  inside : ∀ own? asked place, table.placeOf? own? asked = some place →
    place < table.backing.size
  reads : ∀ memory find own? asked, table.read memory find own? asked
    = image.read memory find (table.placeOf? own? asked) asked

end ManifestTable

namespace ManifestImage

end ManifestImage
end SegmentContainer
