import SegmentContainer.Bytes
import SegmentContainer.Files.Fault
import SegmentContainer.Files.Path

/-!
# File systems

A file system is a value: the entries that stand at places, a place being the
names that lead to it from the root.  Paths are walked piece by piece, and links
are followed as they are met, up to a bound.  Reading does not change a file
system, and writing and removing change the entry at one place.

Besides files, directories and links there is one device: it can be read without
end, gives zeros only, and is too full to take a single byte.

No file has a second name, and nothing is protected: every file can be read and
written, and every entry but a directory can be removed.
-/

set_option autoImplicit false

namespace SegmentContainer

abbrev Place := List String

inductive Node where
  | file (content : Bytes)
  | directory
  | link (target : String)
  | fullDevice
  deriving DecidableEq

structure FileSystem where
  entries : List (Place × Node)
  home : Place

inductive Found where
  | missing (fault : FileFault)
  | directory
  | file (content : Bytes)
  | device
  deriving DecidableEq

namespace Found

def isFile : Found → Bool
  | .file _ => true
  | _ => false

def isDirectory : Found → Bool
  | .directory => true
  | _ => false

/-- All bytes of what was found.  The device has no end. -/
def readAll : Found → Except FileFault Bytes
  | .missing fault => .error fault
  | .directory => .error .isDirectory
  | .file content => .ok content
  | .device => .error (.reported "Cannot allocate memory (os error 12)")

end Found

inductive WriteOutcome where
  | written
  /-- The file could not be opened, and nothing has changed. -/
  | notCreated (fault : FileFault)
  /-- The file was opened but did not take the bytes. -/
  | notWritten (fault : FileFault)
  deriving DecidableEq

/-- Where a walk ends: at an entry, or at a place where a directory has no entry
yet. -/
inductive Spot where
  | entry (place : Place) (node : Node)
  | vacant (place : Place)
  deriving DecidableEq

/-- How a walk goes on: it is over, or a link has to be followed. -/
inductive WalkStep where
  | ended (spot : Spot)
  | failed (fault : FileFault)
  | link (base : Place) (target : String) (rest : List String)

namespace FileSystem

/-- The entry at a place; the root is always a directory. -/
def node? (files : FileSystem) (place : Place) : Option Node :=
  if place = [] then some .directory
  else (files.entries.find? fun entry => entry.1 = place).map (·.2)

def nameBound : Nat := 255

def pathBound : Nat := 4095

/-- Walks pieces from a place up to the first link.  Whatever a piece is applied
to has to be a directory.  A walk that is to create a file must not end in a
slash. -/
def walk (files : FileSystem) (creating : Bool) : Place → List String → WalkStep
  | here, [] =>
    match files.node? here with
    | some node => .ended (.entry here node)
    | none => .failed .notFound
  | here, piece :: rest =>
    if files.node? here ≠ some .directory then .failed .notDirectory
    else if piece = "" ∨ piece = "." then files.walk creating here rest
    else if piece = ".." then files.walk creating here.dropLast rest
    else if creating && !rest.isEmpty && rest.all (· = "") then .failed .isDirectory
    else if nameBound < piece.utf8ByteSize then .failed .nameTooLong
    else
      match files.node? (here ++ [piece]) with
      | none => if rest.isEmpty then .ended (.vacant (here ++ [piece])) else .failed .notFound
      | some (.link target) => .link here target rest
      | some _ => files.walk creating (here ++ [piece]) rest

def linkBound : Nat := 40

def origin (path : String) (base : Place) : Place :=
  if Path.isAbsolute path then [] else base

def follow (files : FileSystem) (creating : Bool) :
    Nat → Place → List String → Except FileFault Spot
  | links, here, pieces =>
    match files.walk creating here pieces with
    | .ended spot => .ok spot
    | .failed fault => .error fault
    | .link base target rest =>
      match links with
      | 0 => .error .tooManyLinks
      | links + 1 =>
        if target = "" then .error .notFound
        else files.follow creating links (origin target base) (Path.pieces target ++ rest)

def trace (files : FileSystem) (creating : Bool) (path : String) : Except FileFault Spot :=
  files.follow creating linkBound (origin path files.home) (Path.pieces path)

def holdsNul (path : String) : Bool :=
  path.toList.any fun c => c.toNat = 0

/-- Where a path leads that is handed over as a whole, which bounds its length. -/
def resolve (files : FileSystem) (creating : Bool) (path : String) : Except FileFault Spot :=
  if path = "" then .error .notFound
  else if holdsNul path then .error .nulInName
  else if pathBound < path.utf8ByteSize then .error .nameTooLong
  else files.trace creating path

def find (files : FileSystem) (path : String) : Found :=
  match files.resolve false path with
  | .error fault => .missing fault
  | .ok (.vacant _) => .missing .notFound
  | .ok (.entry _ .directory) => .directory
  | .ok (.entry _ (.file content)) => .file content
  | .ok (.entry _ (.link _)) => .missing .notFound
  | .ok (.entry _ .fullDevice) => .device

/-- The path from the root, without links, to what a path leads to.  It is found
name by name, so that its own length is bounded but not that of the path asked
about. -/
def canonical? (files : FileSystem) (path : String) : Option String :=
  if path = "" ∨ holdsNul path then none
  else
    match files.trace false path with
    | .ok (.entry place _) =>
      let found := "/" ++ String.intercalate "/" place
      if pathBound < found.utf8ByteSize then none else some found
    | .ok (.vacant _) => none
    | .error _ => none

def put (files : FileSystem) (place : Place) (node : Node) : FileSystem :=
  if (files.node? place).isSome then
    { files with
      entries := files.entries.map fun entry =>
        if entry.1 = place then (place, node) else entry }
  else { files with entries := files.entries ++ [(place, node)] }

def erase (files : FileSystem) (place : Place) : FileSystem :=
  { files with entries := files.entries.filter fun entry => entry.1 ≠ place }

/-- Writes the file that a path leads to; it is made if it is not there, and what
it held before is gone.  `synced` asks that the bytes reach the disk before the
call returns, which a device cannot do. -/
def write (files : FileSystem) (path : String) (bytes : Bytes) (synced : Bool) :
    WriteOutcome × FileSystem :=
  match files.resolve true path with
  | .error fault => (.notCreated fault, files)
  | .ok (.vacant place) => (.written, files.put place (.file bytes))
  | .ok (.entry place (.file _)) => (.written, files.put place (.file bytes))
  | .ok (.entry _ .directory) => (.notCreated .isDirectory, files)
  | .ok (.entry _ (.link _)) => (.notCreated .tooManyLinks, files)
  | .ok (.entry _ .fullDevice) =>
    if !bytes.isEmpty then (.notWritten .noSpace, files)
    else if synced then (.notWritten .invalidArgument, files)
    else (.written, files)

/-- The place of the entry that a path names, a link at its end not followed. -/
def entryPlace? (files : FileSystem) (path : String) : Option Place :=
  let pieces := Path.pieces path
  match pieces.getLast? with
  | none => none
  | some name =>
    if name = "" ∨ name = "." ∨ name = ".." then none
    else
      match files.follow false linkBound (origin path files.home) pieces.dropLast with
      | .ok (.entry place .directory) => some (place ++ [name])
      | _ => none

/-- Removes the entry that a path names, unless it is a directory. -/
def remove (files : FileSystem) (path : String) : FileSystem :=
  match files.entryPlace? path with
  | none => files
  | some place =>
    match files.node? place with
    | none => files
    | some .directory => files
    | some _ => files.erase place

end FileSystem
end SegmentContainer
