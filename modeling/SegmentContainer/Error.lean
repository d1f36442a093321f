import SegmentContainer.Container.Malformed
import SegmentContainer.Files.Fault
import SegmentContainer.Json.Fault
import SegmentContainer.Region

/-!
# Errors

Everything that can go wrong while images are opened, exported and inspected,
by cause.  `Error.message` gives the wording of each.
-/

set_option autoImplicit false

namespace SegmentContainer

inductive ReadFault where
  | injected
  | noData
  | sizeMismatch (held : Nat) (size : UInt64)
  | noBackingFile
  | file (path : String) (offset : UInt64) (fault : FileFault)
  | notInImage
  | noContents
  | pastEnd (offset size : UInt64) (length : Nat)
  | wrongLength (returned : Nat) (size : UInt64)
  /-- A reason that a source gives in its own words. -/
  | reported (text : String)
  deriving DecidableEq

def ReadFault.message : ReadFault → String
  | .injected => "Injected read failure"
  | .noData => "No backing data"
  | .sizeMismatch held size => s!"Backing data is {held} bytes, region is {size.toNat} bytes"
  | .noBackingFile => "No backing file"
  | .file path offset fault =>
    path ++ " at offset " ++ Numeral.upperHex offset.toNat ++ ": " ++ fault.message
  | .notInImage => "Region not part of this image"
  | .noContents => "Section has no file contents"
  | .pastEnd offset size length =>
    "Section contents " ++ Numeral.upperHex offset.toNat ++ "+" ++ Numeral.upperHex size.toNat
      ++ " extend past end of file (" ++ Numeral.upperHex length ++ ")"
  | .wrongLength returned size => s!"Read returned {returned} bytes, expected {size.toNat}"
  | .reported text => text

inductive ProgramFault where
  | notFile (path : String)
  | unreadable (path : String) (fault : FileFault)
  | reported (text : String)
  deriving DecidableEq

def ProgramFault.message : ProgramFault → String
  | .notFile path => path ++ " does not exist or is not a file"
  | .unreadable path fault => path ++ ": " ++ fault.message
  | .reported text => text

inductive TargetFault where
  | emptyPath
  | isDirectory (path : String)
  | noDirectory (path : String)
  deriving DecidableEq

def TargetFault.message : TargetFault → String
  | .emptyPath => "empty output path"
  | .isDirectory path => path ++ " is a directory"
  | .noDirectory path => "directory " ++ path ++ " does not exist"

inductive RoomFault where
  /-- The sizes add up to more than 64 bits can count. -/
  | notCountable
  | tooLarge (size : Nat)
  | refused (size : Nat)
  deriving DecidableEq

def RoomFault.message : RoomFault → String
  | .notCountable => "region data exceeds addressable memory"
  | .tooLarge size =>
    s!"{size} bytes: memory allocation failed because the computed capacity exceeded the collection's maximum"
  | .refused size =>
    s!"{size} bytes: memory allocation failed because the memory allocator returned an error"

inductive Stage where
  | regions
  | symbols
  | named (name : String)
  deriving DecidableEq

def Stage.word : Stage → String
  | .regions => "regions"
  | .symbols => "symbols"
  | .named name => name

inductive ManifestFault where
  | region (index : Nat) (fault : Region.Fault)
  | text (path : String) (fault : Json.Fault)
  deriving DecidableEq

def ManifestFault.message : ManifestFault → String
  | .region index fault => s!"region #{index}: Invalid address: " ++ fault.message
  | .text path fault => path ++ ": " ++ fault.message

inductive BinaryFault where
  | unreadable
  | region (fault : Region.Fault)
  | reported (text : String)
  deriving DecidableEq

def BinaryFault.message : BinaryFault → String
  | .unreadable => "Failed to parse ELF"
  | .region fault => "Invalid address: " ++ fault.message
  | .reported text => text

inductive Error where
  | regionRead (name : String) (start : UInt64) (fault : ReadFault)
  | noProgram (fault : ProgramFault)
  | outputTarget (fault : TargetFault)
  | sinkWrite (path : String) (fault : FileFault)
  | bufferAllocation (fault : RoomFault)
  | cancelled (stage : Stage) (processed : Nat)
  | manifest (fault : ManifestFault)
  | binary (fault : BinaryFault)
  | malformed (fault : Malformed)
  | permissions (fault : Permissions.Fault)
  | address (fault : Address.Fault)
  | bounds (fault : Region.Fault)
  | file (fault : FileFault)
  | json (fault : Json.Fault)
  deriving DecidableEq

namespace Error

def message : Error → String
  | .regionRead name start fault =>
    "Failed to read region " ++ name ++ " at address " ++ Numeral.lowerHex start.toNat ++ ": "
      ++ fault.message
  | .noProgram fault => "No program available: " ++ fault.message
  | .outputTarget fault => "Output target unavailable: " ++ fault.message
  | .sinkWrite path fault => "Failed to write artifact to " ++ path ++ ": " ++ fault.message
  | .bufferAllocation fault => "Failed to allocate container buffer: " ++ fault.message
  | .cancelled stage processed =>
    "Export cancelled during " ++ stage.word ++ s!" after {processed} entries"
  | .manifest fault => "Manifest error: " ++ fault.message
  | .binary fault => "Binary parse error: " ++ fault.message
  | .malformed fault => fault.message
  | .permissions fault => "Invalid permissions: " ++ fault.message
  | .address fault => "Invalid address: " ++ fault.message
  | .bounds fault => "Invalid address: " ++ fault.message
  | .file fault => "IO error: " ++ fault.message
  | .json fault => "JSON error: " ++ fault.message

def cause? : Error → Option String
  | .sinkWrite _ fault => some fault.message
  | .file fault => some fault.message
  | .json fault => some fault.message
  | _ => none

def fullMessage (error : Error) : String :=
  match error.cause? with
  | some cause => error.message ++ ": " ++ cause
  | none => error.message

def isCancelled : Error → Bool
  | .cancelled _ _ => true
  | _ => false

end Error

/-- How a computation ends without a result: with an error, or in a crash that
takes the whole program with it. -/
inductive Halt where
  | failed (error : Error)
  | crashed (reason : String)
  deriving DecidableEq

end SegmentContainer
