import SegmentContainer.Command.Run

/-!
# The program

Runs a command line on the machine: its files, its standard output and its messages.
-/

set_option autoImplicit false

namespace SegmentContainer.Machine

def faultOfNumber (number : Nat) (error : IO.Error) : FileFault :=
  match number with
  | 2 => .notFound
  | 20 => .notDirectory
  | 21 => .isDirectory
  | 22 => .invalidArgument
  | 28 => .noSpace
  | 36 => .nameTooLong
  | 40 => .tooManyLinks
  | _ => .reported (toString error)

/-- The fault behind an error.  Its number is given with either sign. -/
def fault (error : IO.Error) : FileFault :=
  let ofNumber (number : UInt32) : FileFault :=
    faultOfNumber (if number < 0x80000000 then number.toNat else (0 - number).toNat) error
  match error with
  | .noFileOrDirectory _ number _ => ofNumber number
  | .inappropriateType _ number _ => ofNumber number
  | .invalidArgument _ number _ => ofNumber number
  | .resourceExhausted _ number _ => ofNumber number
  | other => .reported (toString other)

def find (path : String) : IO Found := do
  match ← (IO.FS.readBinFile path).toBaseIO with
  | .ok content => return .file content.toList
  | .error error =>
    match fault error with
    | .isDirectory => return .directory
    | other => return .missing other

/-- Whether a path leads to a directory, which can be opened but not read. -/
def isDirectory (path : String) : IO Bool := do
  let reading : IO ByteArray := do
    let handle ← IO.FS.Handle.mk path .read
    handle.read 1
  match ← reading.toBaseIO with
  | .ok _ => return false
  | .error error => return fault error = .isDirectory

def write (path : String) (bytes : Bytes) : IO WriteOutcome := do
  match ← (IO.FS.Handle.mk path .write).toBaseIO with
  | .error error => return .notCreated (fault error)
  | .ok handle =>
    let writing : IO Unit := do
      handle.write ⟨bytes.toArray⟩
      handle.flush
    match ← writing.toBaseIO with
    | .ok _ => return .written
    | .error error => return .notWritten (fault error)

def remove (path : String) : IO Unit := do
  match ← (IO.FS.removeFile path).toBaseIO with
  | .ok _ => return ()
  | .error _ => return ()

def canonical? (path : String) : IO (Option String) := do
  match ← (IO.FS.realPath path).toBaseIO with
  | .ok found => return some (toString found)
  | .error _ => return none

instance : Host IO where
  find := find
  isDirectory := isDirectory
  write path bytes _ := write path bytes
  remove := remove
  canonical? := canonical?
  putOut bytes := do (← IO.getStdout).write ⟨bytes.toArray⟩
  putError text := do (← IO.getStderr).putStr text

end SegmentContainer.Machine

open SegmentContainer in
def main (arguments : List String) : IO UInt32 := do
  let output ← IO.getEnv Command.outputVariable
  let policy ← IO.getEnv Command.policyVariable
  let environment (name : String) : Option String :=
    if name = Command.outputVariable then output
    else if name = Command.policyVariable then policy
    else none
  return UInt32.ofNat (← Command.run Memory.usual arguments environment)
