import SegmentContainer.Json.Tree

/-!
# Decoding JSON

A decoder makes a value of a JSON tree or finds the first fault.  Records are
given as objects, whose unknown members are skipped, or as arrays of their fields
in order; enumerations as a word, or as an object whose one key is the word.
-/

set_option autoImplicit false

namespace SegmentContainer.Json

abbrev Decoder (α : Type) := Tree → Except Fault α

namespace Decoder

def misfit (tree : Tree) (wanted : String) : Fault :=
  match tree.kind? with
  | some found => .misfit (.wrongType found wanted)
  | none => .malformed

def textAs (wanted : String) : Decoder String
  | .string (some text) => .ok text
  | tree => .error (misfit tree wanted)

def text : Decoder String := textAs "a string"

def bool : Decoder Bool
  | .bool value => .ok value
  | tree => .error (misfit tree "a boolean")

def word : Decoder UInt64
  | .number (.natural value) => .ok value
  | .number (.negative magnitude) =>
    .error (.misfit (.wrongValue (.integer (-magnitude)) "u64"))
  | tree => .error (misfit tree "u64")

/-- How deep a value may be nested where its kind is open, below the three levels
of file, list and entry. -/
def openDepth : Nat := 124

def address (tree : Tree) : Except Fault UInt64 :=
  if tree.usable openDepth then
    match tree with
    | .number (.natural value) => .ok value
    | .string (some text) =>
      match Address.ofText text with
      | .ok value => .ok value
      | .error fault => .error (.misfit (.address fault))
    | _ => .error (.misfit .neitherNumberNorText)
  else .error .malformed

def permissions (tree : Tree) : Except Fault Permissions :=
  match text tree with
  | .error fault => .error fault
  | .ok letters =>
    match Permissions.ofText letters with
    | .ok value => .ok value
    | .error fault => .error (.misfit (.permissions fault))

def nullable {α : Type} (decoder : Decoder α) : Decoder (Option α)
  | .null => .ok none
  | tree => (decoder tree).map some

def listItems {α : Type} (decoder : Decoder α) : List Tree → Bool → Except Fault (List α)
  | [], closed => if closed then .ok [] else .error .malformed
  | item :: rest, closed =>
    match decoder item with
    | .error fault => .error fault
    | .ok first => (listItems decoder rest closed).map (first :: ·)

def list {α : Type} (decoder : Decoder α) : Decoder (List α)
  | .array items closed => listItems decoder items closed
  | tree => .error (misfit tree "a sequence")

def wordOf {α : Type} (find? : String → Option α) (known : List String) (found : String) :
    Except Fault α :=
  match find? found with
  | some value => .ok value
  | none => .error (.misfit (.unknownVariant found known))

def variant {α : Type} (find? : String → Option α) (known : List String) : Decoder α
  | .string (some found) => wordOf find? known found
  | .object ((.string (some found), value) :: more) closed =>
    match wordOf find? known found with
    | .error fault => .error fault
    | .ok chosen =>
      match value with
      | .null => if more.isEmpty && closed then .ok chosen else .error .malformed
      | other => .error (misfit other "unit")
  | _ => .error .malformed

end Decoder

structure Field (draft : Type) where
  key : String
  optional : Bool
  isSet : draft → Bool
  set : Tree → draft → Except Fault draft

/-- A field that a decoder reads.  `get` and `put` tell where in a draft its value stands. -/
def Field.of {draft β : Type} (key : String) (optional : Bool) (decoder : Decoder β)
    (get : draft → Option β) (put : draft → β → draft) : Field draft where
  key := key
  optional := optional
  isSet := fun found => (get found).isSome
  set := fun tree found => (decoder tree).map (put found)

/-- A record: its name, its fields in order, and how a draft with all fields that
were found is completed. -/
structure Record (draft α : Type) where
  name : String
  fields : List (Field draft)
  blank : draft
  complete : draft → Except Fault α

def fromMembers {draft : Type} (fields : List (Field draft)) :
    draft → List (Tree × Tree) → Bool → Except Fault draft
  | found, [], closed => if closed then .ok found else .error .malformed
  | found, (.string (some key), value) :: rest, closed =>
    match fields.find? fun field => field.key = key with
    | some field =>
      if field.isSet found then .error (.misfit (.repeatedField key))
      else
        match field.set value found with
        | .error fault => .error fault
        | .ok found => fromMembers fields found rest closed
    | none =>
      if value.wellFormed then fromMembers fields found rest closed else .error .malformed
  | _, _ :: _, _ => .error .malformed

/-- Collects the items of an array that gives the fields in order.  `total` is the
number of all fields, of which those in the list are still to come. -/
def fromItems {draft : Type} (record : String) (total : Nat) :
    List (Field draft) → draft → List Tree → Bool → Except Fault draft
  | [], found, items, closed =>
    if items.isEmpty && closed then .ok found else .error .malformed
  | field :: fields, found, [], closed =>
    if !closed then .error .malformed
    else if field.optional then fromItems record total fields found [] closed
    else .error (.misfit (.wrongLength (total - (fields.length + 1)) record total))
  | field :: fields, found, item :: items, closed =>
    match field.set item found with
    | .error fault => .error fault
    | .ok found => fromItems record total fields found items closed

def Record.decode {draft α : Type} (record : Record draft α) (tree : Tree) : Except Fault α :=
  match tree with
  | .object members closed =>
    (fromMembers record.fields record.blank members closed).bind record.complete
  | .array items closed =>
    (fromItems record.name record.fields.length record.fields record.blank items closed).bind
      record.complete
  | other => .error (Decoder.misfit other ("struct " ++ record.name))

def required {α : Type} (key : String) (value? : Option α) : Except Fault α :=
  match value? with
  | some value => .ok value
  | none => .error (.misfit (.missingField key))

def decodeText {α : Type} (decoder : Decoder α) (text : String) : Except Fault α :=
  let (tree, whole) := Tree.ofText text
  match decoder tree with
  | .error fault => .error fault
  | .ok value => if whole then .ok value else .error .malformed

end SegmentContainer.Json
