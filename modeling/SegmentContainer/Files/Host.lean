import SegmentContainer.Files.System
import SegmentContainer.Text.Utf8

/-!
# Hosts

A host is what a command runs on: it has files, a standard output and a place for
messages.  Commands are written for any host.  A `World` is a host made of values,
on which a command is a function; a machine is another.
-/

set_option autoImplicit false

namespace SegmentContainer

/-- The operations that a command may ask for. -/
class Host (m : Type → Type) where
  find : String → m Found
  isDirectory : String → m Bool
  /-- Writes a file; the flag asks that the bytes reach the disk. -/
  write : String → Bytes → Bool → m WriteOutcome
  remove : String → m Unit
  /-- The path from the root, without links, to what a path leads to. -/
  canonical? : String → m (Option String)
  putOut : Bytes → m Unit
  putError : String → m Unit

structure World where
  files : FileSystem
  output : Bytes
  messages : String

namespace World

def ofFiles (files : FileSystem) : World := ⟨files, [], ""⟩

instance : Host (StateM World) where
  find path := fun world => (world.files.find path, world)
  isDirectory path := fun world => ((world.files.find path).isDirectory, world)
  write path bytes synced := fun world =>
    let written := world.files.write path bytes synced
    (written.1, { world with files := written.2 })
  remove path := fun world => ((), { world with files := world.files.remove path })
  canonical? path := fun world => (world.files.canonical? path, world)
  putOut bytes := fun world => ((), { world with output := world.output ++ bytes })
  putError text := fun world => ((), { world with messages := world.messages ++ text })

end World
end SegmentContainer
