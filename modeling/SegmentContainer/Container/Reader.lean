import SegmentContainer.Container.Malformed
import SegmentContainer.Layout

/-!
# Reading bytes in order

A cursor stands between the bytes that were read and those that follow.  A
reader takes bytes from the front of the rest; when it fails it leaves the
cursor where it was, except after a terminated name that is no text, which has
been consumed by then.
-/

set_option autoImplicit false

namespace SegmentContainer

/-- A place in a byte string: how many bytes are behind it, and those ahead. -/
structure Cursor where
  position : Nat
  rest : Bytes
  deriving DecidableEq

namespace Cursor

def start (bytes : Bytes) : Cursor := ⟨0, bytes⟩

def remaining (cursor : Cursor) : Nat := cursor.rest.length

def length (cursor : Cursor) : Nat := cursor.position + cursor.rest.length

end Cursor

/-- A computation that reads from a cursor and may find a fault. -/
abbrev Reader := EStateM Malformed Cursor

namespace Reader

def position : Reader Nat := fun cursor => .ok cursor.position cursor

def remaining : Reader Nat := fun cursor => .ok cursor.remaining cursor

def reject {α : Type} (offset : Nat) (problem : Malformed.Problem) : Reader α :=
  fun cursor => .error ⟨offset, problem⟩ cursor

/-- Takes the next `count` bytes.  Positions are 64-bit numbers, so a count that
leads past the last of them is refused before the length is looked at. -/
def bytes (count : Nat) : Reader Bytes := fun cursor =>
  let piece := cursor.rest.take count
  if UInt64.size ≤ cursor.position + count then
    .error ⟨cursor.position, .positionOverflow⟩ cursor
  else if piece.length < count then
    .error ⟨cursor.position, .shortRead count cursor.position cursor.length⟩ cursor
  else .ok piece ⟨cursor.position + count, cursor.rest.drop count⟩

def word : Reader UInt64 := do
  return Bytes.toWord (← bytes Layout.word)

def count : Reader Nat := do
  return (← word).toNat

def text : Reader String := fun cursor =>
  let name := cursor.rest.takeWhile (· ≠ 0)
  match cursor.rest.dropWhile (· ≠ 0) with
  | [] => .error ⟨cursor.position, .unterminatedText⟩ cursor
  | _ :: after =>
    match Utf8.decode name with
    | .ok decoded => .ok decoded ⟨cursor.position + name.length + 1, after⟩
    | .error fault =>
      .error ⟨cursor.position, .invalidText fault⟩ ⟨cursor.position + name.length + 1, after⟩

def many {α : Type} (item : Reader α) : Nat → Array α → Reader (Array α)
  | 0, soFar => pure soFar
  | count + 1, soFar => do
    let next ← item
    many item count (soFar.push next)

end Reader
end SegmentContainer
