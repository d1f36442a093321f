import SegmentContainer.Proofs.Export.Listing
import SegmentContainer.Proofs.Image.Reading

/-!
# Exports of manifests

A manifest that is loaded and exported with zeros for what is missing: the container has the
initialized entries of the manifest by their starts, each with the stretch of the file that
this very entry names, or with zeros.  Which files are there is told by any function on
paths, as long as it leads none of them to the device.
-/

set_option autoImplicit false

namespace SegmentContainer

namespace RegionEntry

/-- The bytes that are stored for an entry: a stretch of the file that it names, if there is
such a file, if it can be positioned there and if it is long enough. -/
def stored? (directory : String) (find : String → Found) (entry : RegionEntry) : Option Bytes :=
  match entry.file with
  | none => none
  | some file =>
    match find (Path.join directory file) with
    | .file content =>
      if entry.offset.toNat < 2 ^ 63
          ∧ entry.offset.toNat + entry.region.width ≤ content.length then
        some ((content.drop entry.offset.toNat).take entry.region.width)
      else none
    | .missing _ | .directory | .device => none

def filled (directory : String) (find : String → Found) (entry : RegionEntry) :
    ContainerRegion :=
  ⟨entry.region.header,
    (entry.stored? directory find).getD (List.replicate entry.region.width 0)⟩

variable {directory : String} {find : String → Found} {entry : RegionEntry}

theorem stored?_eq_some_iff (ready : entry.initialized = true)
    (ordinary : ∀ span, ManifestImage.spanOf directory entry = some span →
      find span.path ≠ .device) (bytes : Bytes) :
    entry.stored? directory find = some bytes
      ↔ ∃ span, ManifestImage.spanOf directory entry = some span
          ∧ span.Opens (find span.path)
          ∧ (find span.path).stretch? span.offset.toNat entry.region.width = some bytes := by
  cases named : entry.file with
  | none =>
    have unbacked : ManifestImage.spanOf directory entry = none := by
      rw [ManifestImage.spanOf, if_pos ready, named]
      rfl
    simp [stored?, named, unbacked]
  | some file =>
    have backed : ManifestImage.spanOf directory entry
        = some ⟨Path.join directory file, entry.offset⟩ := by
      rw [ManifestImage.spanOf, if_pos ready, named]
      rfl
    have notDevice := ordinary _ backed
    simp only [stored?, named, backed, Option.some.injEq, exists_eq_left']
    cases there : find (Path.join directory file) with
    | missing fault => simp [FileSpan.Opens]
    | directory => simp [Found.stretch?]
    | file content =>
      simp only [FileSpan.Opens, Found.stretch?, Option.ite_none_right_eq_some, and_assoc]
    | device => exact absurd there notDevice

theorem delivers {memory : Memory} {outcome : ReadOutcome} (ready : entry.initialized = true)
    (ordinary : ∀ span, ManifestImage.spanOf directory entry = some span →
      find span.path ≠ .device)
    (reads : ReadsAs memory find (ManifestImage.spanOf directory entry) entry.region outcome) :
    entry.region.Delivers (entry.stored? directory find) outcome := by
  have backing := stored?_eq_some_iff ready ordinary
  cases outcome with
  | data bytes =>
    obtain ⟨span, backed, opens, -, stretch⟩ := (reads.data bytes).mp rfl
    rw [(backing bytes).mpr ⟨span, backed, opens, stretch⟩]
    exact .stored (reads.whole bytes rfl)
  | failed error =>
    obtain ⟨fault, rfl⟩ := reads.failed error rfl
    have absent : entry.stored? directory find = none := by
      rw [Option.eq_none_iff_forall_ne_some]
      intro bytes kept
      obtain ⟨span, backed, opens, stretch⟩ := (backing bytes).mp kept
      -- without a buffer for the bytes the read would not have failed but crashed
      by_cases affords : memory.Affords entry.region.width
      · cases (reads.data bytes).mpr ⟨span, backed, opens, affords, stretch⟩
      · obtain ⟨reason, crashed⟩ := reads.crashed.mpr ⟨span, backed, opens, affords⟩
        cases crashed
    rw [absent]
    exact .absent fault
  | crashed reason => exact .crash _ reason

end RegionEntry

namespace ManifestImage

section

variable {directory fallback : String} {manifest : Manifest} {image : ManifestImage}

theorem entries_of_ofManifest (made : ofManifest directory fallback manifest = .ok image) :
    (∀ entry ∈ manifest.regions, entry.region.Admitted)
      ∧ image.entries
          = manifest.regions.map fun entry => (entry.region, spanOf directory entry) := by
  rw [ofManifest] at made
  cases entries : entriesFrom directory 0 manifest.regions with
  | error fault => simp [entries] at made
  | ok listed =>
    simp only [entries, Except.ok.injEq] at made
    subst made
    exact entriesFrom_eq_ok entries

theorem regions_of_ofManifest (made : ofManifest directory fallback manifest = .ok image) :
    image.toImage.regions = manifest.regions.map RegionEntry.region := by
  rw [toImage, (entries_of_ofManifest made).2, List.map_map]
  rfl

theorem delivers_of_ofManifest (made : ofManifest directory fallback manifest = .ok image)
    (memory : Memory) {find : String → Found}
    (ordinary : ∀ entry ∈ image.entries, ∀ span, entry.2 = some span →
      find span.path ≠ .device)
    {index : Nat} {entry : RegionEntry} (listed : manifest.regions[index]? = some entry)
    (ready : entry.initialized = true) :
    entry.region.Delivers (entry.stored? directory find)
      (image.read memory find (some index) entry.region) := by
  obtain ⟨admitted, entries⟩ := entries_of_ofManifest made
  have imageAdmitted : ∀ item ∈ image.entries, item.1.Admitted := by
    rw [entries]
    exact List.forall_mem_map.mpr admitted
  have there : image.entries[index]? = some (entry.region, spanOf directory entry) := by
    rw [entries, List.getElem?_map, listed]
    rfl
  exact RegionEntry.delivers ready (ordinary _ (List.mem_of_getElem? there))
    (readsAs imageAdmitted memory find there)

end

/-- A manifest that was loaded and exported with zeros for what is missing.  The container
holds its initialized entries in ascending order of start, entries that share a start as the
manifest lists them, each with what is stored for it or with as many zeros; and exactly the
entries for which nothing is stored are reported. -/
theorem holds_of_load (path : String) (found : Found) (image : ManifestImage)
    (loaded : load path found = .ok image)
    (bounded : ∀ region ∈ image.toImage.regions, region.width < 2 ^ 63)
    (memory : Memory) (find : String → Found)
    (ordinary : ∀ entry ∈ image.entries, ∀ span, entry.2 = some span →
      find span.path ≠ .device)
    (stream : ExportStream)
    (exported : (OpenedImage.manifest image).exported memory find ⟨.zeroFill⟩ (fun _ => false)
      = .ok stream) :
    let directory := (Path.parent? path).getD "."
    ∃ text manifest, found.readAll = .ok (Utf8.encode text)
      ∧ Manifest.ofText text = .ok manifest
      ∧ ∃ order, StableOrder (fun entry => entry.start.toNat) (·.initialized)
            manifest.regions order
          ∧ stream.Holds image.toImage (order.map fun item => item.1.filled directory find)
          ∧ List.Forall₂
              (fun item failure =>
                failure.Reports item.1.region ∧ failure.resolution = .zeroFill)
              (order.filter fun item => (item.1.stored? directory find).isNone)
              stream.summary.readFailures := by
  intro directory
  obtain ⟨text, manifest, content, decoded, made⟩ := exists_manifest_of_load loaded
  have regions := regions_of_ofManifest made
  have narrow : ∀ entry ∈ manifest.regions, entry.region.width < 2 ^ 63 := by
    intro entry member
    exact bounded _ (regions ▸ List.mem_map_of_mem member)
  obtain ⟨order, stable, holds, reports⟩ := Export.holds_of_listed regions
    (entries_of_ofManifest made).1
    (fun _ _ listed ready _ => delivers_of_ofManifest made memory ordinary listed ready) exported
  have small : ∀ item ∈ order, item.1.region.width < 2 ^ 63 := fun item member =>
    narrow _ (stable.mem member).1
  refine ⟨text, manifest, content, decoded, order, stable, ?_, ?_⟩
  · rw [Region.filterMap_filled?_of_lt (fun item : RegionEntry × Nat => item.1.region) small] at holds
    exact holds
  · refine ((List.forall₂_and_left _ _).mpr
      ⟨fun item member => small item (List.mem_of_mem_filter member), reports⟩).imp ?_
    rintro item failure ⟨smallItem, report⟩
    exact ⟨report, by rw [report.resolution, if_pos smallItem]⟩

/-- Three entries with one region.  Two of them name the same file, at different offsets, and
the last one a file that is not there. -/
def twinsText : String :=
  "\x7b\"regions\":["
    ++ "\x7b\"name\":\"r\",\"start\":1,\"end\":1,\"permissions\":\"r\",\"file\":\"a\"\x7d,"
    ++ "\x7b\"name\":\"r\",\"start\":1,\"end\":1,\"permissions\":\"r\",\"file\":\"a\",\"offset\":1\x7d,"
    ++ "\x7b\"name\":\"r\",\"start\":1,\"end\":1,\"permissions\":\"r\",\"file\":\"/b\"\x7d]\x7d"

def twin : Region := ⟨"r", 1, 1, ⟨true, false, false⟩, true⟩

def twinEntry (file : String) (offset : UInt64) : RegionEntry :=
  ⟨"r", 1, 1, ⟨true, false, false⟩, true, some file, offset⟩

def twinsManifest : Manifest := ⟨none, [twinEntry "a" 0, twinEntry "a" 1, twinEntry "/b" 0], []⟩

def twins : ManifestImage where
  name := "m"
  entries := [(twin, some ⟨"d/a", 0⟩), (twin, some ⟨"d/a", 1⟩), (twin, some ⟨"/b", 0⟩)]
  symbols := []

def twinFiles (path : String) : Found :=
  if path = "d/a" then .file [5, 6] else .missing .notFound

theorem ofText_twinsText : Manifest.ofText twinsText = .ok twinsManifest := by cbv

theorem load_twins : load "d/m.json" (.file (Utf8.encode twinsText)) = .ok twins :=
  load_of_ofManifest ofText_twinsText (by cbv)

theorem selected_twins : twins.toImage.selected = [⟨0, twin⟩, ⟨1, twin⟩, ⟨2, twin⟩] := by cbv

theorem exported_twins :
    ∃ stream, (OpenedImage.manifest twins).exported Memory.usual twinFiles ⟨.zeroFill⟩
      (fun _ => false) = .ok stream := by
  apply exists_of_isOk
  simp only [OpenedImage.exported, Export.run, OpenedImage.toImage, selected_twins]
  decide +kernel

theorem stableOrder_twins :
    StableOrder (fun entry => entry.start.toNat) (·.initialized) twinsManifest.regions
      [(twinEntry "a" 0, 0), (twinEntry "a" 1, 1), (twinEntry "/b" 0, 2)] := by
  constructor
  · exact List.Perm.refl _
  · decide +kernel

theorem holds_of_load_twins :
    ∃ stream,
      load "d/m.json" (.file (Utf8.encode twinsText)) = .ok twins
        ∧ (OpenedImage.manifest twins).exported Memory.usual twinFiles ⟨.zeroFill⟩
            (fun _ => false) = .ok stream
        ∧ stream.Holds twins.toImage
            [⟨⟨1, 2, 4⟩, [5]⟩, ⟨⟨1, 2, 4⟩, [6]⟩, ⟨⟨1, 2, 4⟩, [0]⟩]
        ∧ ∃ failure, stream.summary.readFailures = [failure] ∧ failure.Reports twin := by
  obtain ⟨stream, exported⟩ := exported_twins
  obtain ⟨text, manifest, content, decoded, order, stable, holds, reports⟩ :=
    holds_of_load "d/m.json" _ twins load_twins (by decide +kernel) Memory.usual twinFiles
      (by
        intro entry _ span _
        rw [twinFiles]
        split <;> simp)
      stream exported
  have same : text = twinsText := by
    have decodes := congrArg Utf8.decode (Except.ok.inj content)
    rw [Utf8.decode_encode, Utf8.decode_encode] at decodes
    exact (Except.ok.inj decodes).symm
  rw [same, ofText_twinsText] at decoded
  obtain rfl := Except.ok.inj decoded
  obtain rfl := stable.unique stableOrder_twins
  refine ⟨stream, load_twins, exported, ?_, ?_⟩
  · exact holds
  · have missing : (List.filter (fun item : RegionEntry × Nat =>
          (item.1.stored? "d" twinFiles).isNone)
          [(twinEntry "a" 0, 0), (twinEntry "a" 1, 1), (twinEntry "/b" 0, 2)])
        = [(twinEntry "/b" 0, 2)] := by
      cbv
    change List.Forall₂ _ (List.filter (fun item : RegionEntry × Nat =>
      (item.1.stored? "d" twinFiles).isNone) _) _ at reports
    rw [missing] at reports
    obtain ⟨failure, rest, ⟨report, -⟩, nothing, made⟩ := List.forall₂_cons_left_iff.mp reports
    obtain rfl := List.forall₂_nil_left_iff.mp nothing
    exact ⟨failure, made, report⟩

end ManifestImage
end SegmentContainer
