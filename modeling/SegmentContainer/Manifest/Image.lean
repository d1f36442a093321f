import SegmentContainer.Export.Memory
import SegmentContainer.Files.System
import SegmentContainer.Image.Basic
import SegmentContainer.Manifest.Document

/-!
# Images from manifests

Each region of a manifest stands next to the part of a file that holds its bytes.
The files are only looked at when a region is read, so that a file that is not
there concerns no other region.
-/

set_option autoImplicit false

namespace SegmentContainer

structure FileSpan where
  path : String
  offset : UInt64
  deriving DecidableEq

namespace FileSpan

/-- Goes on with a buffer of `size` bytes; a program that cannot get one crashes. -/
def withBuffer (memory : Memory) (size : Nat) (outcome : Unit → ReadOutcome) : ReadOutcome :=
  match memory.reserve size with
  | .ok _ => outcome ()
  | .error (.tooLarge _) => .crashed "capacity overflow"
  | .error _ => .crashed s!"memory allocation of {size} bytes failed"

/-- Whether a file can be positioned at the offset, which counts as a signed number
there. -/
def seekable (span : FileSpan) : Bool :=
  span.offset.toNat < 0x8000000000000000

def refuse (span : FileSpan) (asked : Region) (fault : FileFault) : ReadOutcome :=
  .refused asked (.file span.path span.offset fault)

def bytesOf (span : FileSpan) (content : Bytes) (asked : Region) : ReadOutcome :=
  match Bytes.slice? content span.offset.toNat asked.size.toNat with
  | some bytes => .data bytes
  | none => span.refuse asked .endsEarly

/-- Reads the bytes of a region from what the path of the span leads to.  A buffer
for them is needed before the first byte is read. -/
def read (span : FileSpan) (memory : Memory) (found : Found) (asked : Region) : ReadOutcome :=
  let size := asked.size.toNat
  match found with
  | .missing fault => span.refuse asked fault
  | .directory =>
    if span.seekable then withBuffer memory size fun _ => span.refuse asked .isDirectory
    else span.refuse asked .invalidArgument
  | .file content =>
    if span.seekable then withBuffer memory size fun _ => span.bytesOf content asked
    else span.refuse asked .invalidArgument
  | .device => withBuffer memory size fun _ => .data (List.replicate size 0)

end FileSpan

structure ManifestImage where
  name : String
  entries : List (Region × Option FileSpan)
  symbols : List Symbol

namespace ManifestImage

/-- The backing of a region entry.  A region that is not initialized has none,
whatever file it names. -/
def spanOf (directory : String) (entry : RegionEntry) : Option FileSpan :=
  if entry.initialized then
    entry.file.map fun file => ⟨Path.join directory file, entry.offset⟩
  else none

/-- The regions of entries, with what backs them.  `index` counts the entries
before them. -/
def entriesFrom (directory : String) :
    Nat → List RegionEntry → Except ManifestFault (List (Region × Option FileSpan))
  | _, [] => .ok []
  | index, entry :: rest =>
    match Region.ofBounds entry.name entry.start entry.last entry.permissions with
    | .error fault => .error (.region index fault)
    | .ok region =>
      match entriesFrom directory (index + 1) rest with
      | .error fault => .error fault
      | .ok later =>
        .ok ((region.withInitialized entry.initialized, spanOf directory entry) :: later)

/-- The image that a manifest describes, with files named relative to
`directory`.  An image without a name takes `fallback`. -/
def ofManifest (directory fallback : String) (manifest : Manifest) :
    Except Error ManifestImage :=
  match entriesFrom directory 0 manifest.regions with
  | .error fault => .error (.manifest fault)
  | .ok entries => .ok ⟨manifest.program.getD fallback, entries, manifest.symbols⟩

def ofText (text directory fallback : String) : Except Error ManifestImage :=
  match Manifest.ofText text with
  | .error fault => .error (.json fault)
  | .ok manifest => ofManifest directory fallback manifest

def load (path : String) (found : Found) : Except Error ManifestImage :=
  match found.readAll with
  | .error fault => .error (.noProgram (.unreadable path fault))
  | .ok content =>
    match Utf8.decode content with
    | .error _ => .error (.noProgram (.unreadable path .notText))
    | .ok text =>
      match ofText text ((Path.parent? path).getD ".") ((Path.fileStem? path).getD "program") with
      | .error (.json fault) => .error (.manifest (.text path fault))
      | .error error => .error error
      | .ok image => .ok image

def toImage (image : ManifestImage) : Image :=
  ⟨image.name, image.entries.map (·.1), image.symbols⟩

def locate? (image : ManifestImage) (asked : Region) : Option Nat :=
  image.entries.findIdx? fun entry => entry.1 = asked

def spanAt? (image : ManifestImage) (index : Option Nat) : Option FileSpan :=
  match index with
  | none => none
  | some index =>
    match image.entries[index]? with
    | some entry => entry.2
    | none => none

def read (image : ManifestImage) (memory : Memory) (find : String → Found)
    (index : Option Nat) (asked : Region) : ReadOutcome :=
  match image.spanAt? index with
  | none => .refused asked .noBackingFile
  | some span => span.read memory (find span.path) asked

end ManifestImage
end SegmentContainer
