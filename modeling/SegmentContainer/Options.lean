import SegmentContainer.Json.Document

/-!
# Options of an export

What a container carries for a region whose bytes cannot be read, and how the
format of an input file is chosen.
-/

set_option autoImplicit false

namespace SegmentContainer

inductive ReadFailurePolicy where
  /-- Keep the header and write zero bytes for the data. -/
  | zeroFill
  /-- Keep the header and write no data, which shifts all that follows. -/
  | omit
  /-- Leave out both the header and the data. -/
  | dropRegion
  deriving DecidableEq

namespace ReadFailurePolicy

/-- All policies, in the order in which messages list them. -/
def all : List ReadFailurePolicy := [.zeroFill, .omit, .dropRegion]

def word : ReadFailurePolicy → String
  | .zeroFill => "zero-fill"
  | .omit => "omit"
  | .dropRegion => "drop-region"

def ofWord? (text : String) : Option ReadFailurePolicy :=
  all.find? fun policy => policy.word = text

end ReadFailurePolicy

inductive InputFormat where
  /-- To be found out from the first bytes of the file. -/
  | auto
  | manifest
  | elf
  deriving DecidableEq

namespace InputFormat

def all : List InputFormat := [.auto, .manifest, .elf]

def word : InputFormat → String
  | .auto => "auto"
  | .manifest => "manifest"
  | .elf => "elf"

def ofWord? (text : String) : Option InputFormat :=
  all.find? fun format => format.word = text

end InputFormat

structure ExportOptions where
  onReadError : ReadFailurePolicy := .zeroFill
  deriving DecidableEq

def ExportOptions.toJson (options : ExportOptions) : Json :=
  .object [("on_read_error", .string options.onReadError.word)]

end SegmentContainer
