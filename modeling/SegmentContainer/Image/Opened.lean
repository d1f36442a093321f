import SegmentContainer.Elf.Image
import SegmentContainer.Manifest.Image
import SegmentContainer.Options

/-!
# Opening images

A file is opened as the image that it describes.  Its format is either given or
found out from its first bytes.
-/

set_option autoImplicit false

namespace SegmentContainer

inductive OpenedImage where
  | manifest (image : ManifestImage)
  | elf (image : ElfImage)

namespace OpenedImage

def toImage : OpenedImage → Image
  | .manifest image => image.toImage
  | .elf image => image.toImage

def locate? (image : OpenedImage) (asked : Region) : Option Nat :=
  match image with
  | .manifest image => image.locate? asked
  | .elf image => image.locate? asked

def backingPath? (image : OpenedImage) (index : Option Nat) : Option String :=
  match image with
  | .manifest image => (image.spanAt? index).map (·.path)
  | .elf _ => none

/-- Reads region number `index` for someone who asks for the region `asked`.
`find` tells what a path leads to. -/
def read (image : OpenedImage) (memory : Memory) (find : String → Found)
    (index : Option Nat) (asked : Region) : ReadOutcome :=
  match image with
  | .manifest image => image.read memory find index asked
  | .elf image => image.read index asked

end OpenedImage

/-- The format that the first bytes of what was found at a path announce.  The
device is no ELF file. -/
def detectFormat (path : String) : Found → Except Error InputFormat
  | .missing fault => .error (.noProgram (.unreadable path fault))
  | .directory => .error (.file .isDirectory)
  | .file content => .ok (if content.take 4 = Elf.magic then .elf else .manifest)
  | .device => .ok .manifest

section

/- How the tables of ELF files are found is left open. -/
variable (tables? : Bytes → Option Elf.File)

def openAsBy (path : String) (found : Found) (isElf : Bool) : Except Error OpenedImage :=
  if isElf then (ElfImage.loadBy tables? path found).map .elf
  else (ManifestImage.load path found).map .manifest

def openImageBy (path : String) (format : InputFormat) (found : Found) :
    Except Error OpenedImage :=
  if found.isFile then
    match format with
    | .manifest => openAsBy tables? path found false
    | .elf => openAsBy tables? path found true
    | .auto =>
      match detectFormat path found with
      | .error error => .error error
      | .ok detected => openAsBy tables? path found (detected = .elf)
  else .error (.noProgram (.notFile path))

end

def openImage (path : String) (format : InputFormat) (found : Found) :
    Except Error OpenedImage :=
  openImageBy Elf.File.ofBytes? path format found

end SegmentContainer
