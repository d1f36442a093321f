import SegmentContainer.Export.Run
import SegmentContainer.Files.Host

/-!
# Delivering containers

A container goes to a file or to the standard output.  A target is checked before
anything is encoded, and nothing is written unless the export succeeds.  A file
that does not take all bytes is removed, so that it cannot be taken for a whole
container.
-/

set_option autoImplicit false

namespace SegmentContainer

inductive OutputTarget where
  | file (path : String)
  | standardOutput
  deriving DecidableEq

namespace OutputTarget

def ofArgument (argument : String) : OutputTarget :=
  if argument = "-" then .standardOutput else .file argument

section

variable {m : Type → Type} [Monad m] [Host m]

/-- Checks that a target can be written: it is no directory, and the directory
that it lies in exists. -/
def validate : OutputTarget → m (Except Error Unit)
  | .standardOutput => pure (.ok ())
  | .file path => do
    if path = "" then return .error (.outputTarget .emptyPath)
    else if ← Host.isDirectory path then
      return .error (.outputTarget (.isDirectory path))
    else
      match Path.parent? path with
      | none => return .ok ()
      | some parent =>
        if parent = "" then return .ok ()
        else if ← Host.isDirectory parent then return .ok ()
        else return .error (.outputTarget (.noDirectory parent))

def deliver (target : OutputTarget) (bytes : Bytes) : m (Except Error Unit) :=
  match target with
  | .standardOutput => do
    Host.putOut bytes
    return .ok ()
  | .file path => do
    match ← Host.write path bytes true with
    | .written => return .ok ()
    | .notCreated fault => return .error (.sinkWrite path fault)
    | .notWritten fault =>
      Host.remove path
      return .error (.sinkWrite path fault)

/-- The target as messages show it: without links, if the file exists. -/
def shown : OutputTarget → m String
  | .standardOutput => return "<stdout>"
  | .file path => return (← Host.canonical? path).getD path

/-- Checks a target, exports an image and writes the container.  `surroundings`
is only asked for once the target was found good. -/
def exportTo (target : OutputTarget) (memory : Memory) (options : ExportOptions)
    (image : Image) (surroundings : m Surroundings) : m (Except Halt ExportSummary) := do
  match ← target.validate with
  | .error error => return .error (.failed error)
  | .ok _ =>
    match (Export.run memory options image (← surroundings)).result with
    | .error halt => return .error halt
    | .ok stream =>
      match ← target.deliver stream.bytes with
      | .error error => return .error (.failed error)
      | .ok _ => return .ok stream.summary

end
end OutputTarget
end SegmentContainer
