import SegmentContainer.Address
import SegmentContainer.Permissions

/-!
# Faults of JSON input

A text is refused because it is not JSON, or because its JSON does not have the
shape that was asked for.  Only the second kind names what was found and what
was expected.
-/

set_option autoImplicit false

namespace SegmentContainer.Json

inductive Kind where
  | null
  | bool (value : Bool)
  | integer (value : Int)
  | real (digits : String)
  | string (value : String)
  | array
  | object
  deriving DecidableEq

def Kind.message : Kind → String
  | .null => "null"
  | .bool true => "boolean `true`"
  | .bool false => "boolean `false`"
  | .integer value => s!"integer `{value}`"
  | .real digits => s!"floating point `{digits}`"
  | .string value => "string " ++ Text.quoted value
  | .array => "sequence"
  | .object => "map"

inductive Mismatch where
  | wrongType (found : Kind) (wanted : String)
  | wrongValue (found : Kind) (wanted : String)
  | wrongLength (found : Nat) (record : String) (fields : Nat)
  | missingField (field : String)
  | repeatedField (field : String)
  | unknownVariant (found : String) (known : List String)
  | neitherNumberNorText
  | permissions (fault : Permissions.Fault)
  | address (fault : Address.Fault)
  deriving DecidableEq

def Mismatch.message : Mismatch → String
  | .wrongType found wanted =>
    "invalid type: " ++ found.message ++ ", expected " ++ wanted
  | .wrongValue found wanted =>
    "invalid value: " ++ found.message ++ ", expected " ++ wanted
  | .wrongLength found record fields =>
    s!"invalid length {found}, expected struct {record} with {fields} elements"
  | .missingField field => s!"missing field `{field}`"
  | .repeatedField field => s!"duplicate field `{field}`"
  | .unknownVariant found known =>
    s!"unknown variant `{found}`, expected one of "
      ++ String.intercalate ", " (known.map fun word => s!"`{word}`")
  | .neitherNumberNorText => "data did not match any variant of untagged enum AddressValue"
  | .permissions fault => "Invalid permissions: " ++ fault.message
  | .address fault => "Invalid address: " ++ fault.message

inductive Fault where
  /-- The text is not JSON, ends early, goes on behind the value, or has a value
  that nothing can be made of. -/
  | malformed
  | misfit (found : Mismatch)
  deriving DecidableEq

def Fault.message : Fault → String
  | .malformed => "malformed JSON"
  | .misfit found => found.message

end SegmentContainer.Json
