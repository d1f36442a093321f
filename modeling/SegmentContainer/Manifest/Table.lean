import SegmentContainer.Manifest.Image

/-!
# Manifest images in two lists

The same images once more, with the regions in one list and what backs them in another.
Both lists are filled side by side, and a region is read from the place of the one list
that it has in the other.  A place that the other list does not have crashes the program.
-/

set_option autoImplicit false

namespace SegmentContainer

structure ManifestTable where
  name : String
  regions : Array Region
  symbols : List Symbol
  /-- What backs the region at the same place. -/
  backing : Array (Option FileSpan)

namespace ManifestTable

structure Lists where
  regions : Array Region
  backing : Array (Option FileSpan)

def Lists.add (directory : String) (lists : Lists) (numbered : RegionEntry × Nat) :
    Except ManifestFault Lists :=
  let (entry, index) := numbered
  match Region.ofBounds entry.name entry.start entry.last entry.permissions with
  | .error fault => .error (.region index fault)
  | .ok region =>
    let source : Option FileSpan :=
      match entry.initialized, entry.file with
      | true, some file => some ⟨Path.join directory file, entry.offset⟩
      | true, none => none
      | false, some _ => none
      | false, none => none
    .ok ⟨lists.regions.push (region.withInitialized entry.initialized),
      lists.backing.push source⟩

def ofManifest (directory fallback : String) (manifest : Manifest) :
    Except Error ManifestTable :=
  match manifest.regions.zipIdx.foldlM (Lists.add directory) ⟨#[], #[]⟩ with
  | .error fault => .error (.manifest fault)
  | .ok lists =>
    .ok ⟨manifest.program.getD fallback, lists.regions, manifest.symbols, lists.backing⟩

def ofText (text directory fallback : String) : Except Error ManifestTable :=
  match Manifest.ofText text with
  | .error fault => .error (.json fault)
  | .ok manifest => ofManifest directory fallback manifest

/-- The place of a region in the list.  A region that is itself an element of the list has
its own place there, `own?`; any other one has that of the first element that equals it in
every field. -/
def placeOf? (table : ManifestTable) (own? : Option Nat) (asked : Region) : Option Nat :=
  ((List.range table.regions.size).find? fun place => own? = some place).or
    (table.regions.toList.findIdx? fun region => region = asked)

def read (table : ManifestTable) (memory : Memory) (find : String → Found)
    (own? : Option Nat) (asked : Region) : ReadOutcome :=
  match table.placeOf? own? asked with
  | none => .refused asked .noBackingFile
  | some place =>
    match table.backing[place]? with
    | none => .crashed "index out of bounds"
    | some none => .refused asked .noBackingFile
    | some (some span) => span.read memory (find span.path) asked

end ManifestTable
end SegmentContainer
