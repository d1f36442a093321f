/-!
# Faults of file operations
-/

set_option autoImplicit false

namespace SegmentContainer

inductive FileFault where
  | notFound
  | notDirectory
  | isDirectory
  | invalidArgument
  | noSpace
  | nameTooLong
  | tooManyLinks
  | nulInName
  | endsEarly
  | notText
  /-- A reason that the platform gives in its own words. -/
  | reported (text : String)
  deriving DecidableEq

def FileFault.message : FileFault → String
  | .notFound => "No such file or directory (os error 2)"
  | .notDirectory => "Not a directory (os error 20)"
  | .isDirectory => "Is a directory (os error 21)"
  | .invalidArgument => "Invalid argument (os error 22)"
  | .noSpace => "No space left on device (os error 28)"
  | .nameTooLong => "File name too long (os error 36)"
  | .tooManyLinks => "Too many levels of symbolic links (os error 40)"
  | .nulInName => "file name contained an unexpected NUL byte"
  | .endsEarly => "failed to fill whole buffer"
  | .notText => "stream did not contain valid UTF-8"
  | .reported text => text

end SegmentContainer
