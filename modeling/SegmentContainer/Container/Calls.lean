import SegmentContainer.Container.Machine
import SegmentContainer.Container.Reader
import SegmentContainer.Container.Writer

/-!
# Reading and writing call by call

A reader is called again and again, also after a call has failed; each call goes on where
the one before it left the cursor.  What a run of calls does is the list of its steps.  A
writer is given items, and for each kind of item there is a call that reads it back.
-/

set_option autoImplicit false

namespace SegmentContainer

inductive ReadCall where
  | word
  | count
  | bytes (number : Nat)
  | text
  deriving DecidableEq

inductive ReadAnswer where
  | word (value : UInt64)
  | count (value : Nat)
  | bytes (piece : Bytes)
  | text (value : String)
  deriving DecidableEq

namespace ReadCall

def reader : ReadCall → Reader ReadAnswer
  | .word => do return .word (← Reader.word)
  | .count => do return .count (← Reader.count)
  | .bytes number => do return .bytes (← Reader.bytes number)
  | .text => do return .text (← Reader.text)

def machine : ReadCall → Buffer → Machine (ReadAnswer × Buffer)
  | .word, buffer => do
    let (value, buffer) ← Machine.word buffer
    return (.word value, buffer)
  | .count, buffer => do
    let (value, buffer) ← Machine.count buffer
    return (.count value, buffer)
  | .bytes number, buffer => do
    let (piece, buffer) ← Machine.bytes number buffer
    return (.bytes piece, buffer)
  | .text, buffer => do
    let (value, buffer) ← Machine.text buffer
    return (.text value, buffer)

end ReadCall

structure ReadStep where
  call : ReadCall
  before : Cursor
  answer : Except Malformed ReadAnswer
  after : Cursor

def ReadCall.make (call : ReadCall) (cursor : Cursor) : ReadStep :=
  match call.reader cursor with
  | .ok answer after => ⟨call, cursor, .ok answer, after⟩
  | .error malformed after => ⟨call, cursor, .error malformed, after⟩

/-- Makes all calls, each one where the one before it left the cursor. -/
def Cursor.trace : Cursor → List ReadCall → List ReadStep
  | _, [] => []
  | cursor, call :: rest =>
    let step := call.make cursor
    step :: step.after.trace rest

inductive Item where
  | word (value : UInt64)
  | count (value : Nat)
  | bytes (held : Bytes)
  | zeros (number : Nat)
  | text (value : String)
  deriving DecidableEq

namespace Item

def write (writer : Writer) : Item → Writer
  | .word value => writer.word value
  | .count value => writer.count value
  | .bytes held => writer.bytes held
  | .zeros number => writer.zeros number
  | .text value => writer.text value

/-- The call that reads the item.  A run of zeros is read as bytes. -/
def call : Item → ReadCall
  | .word _ => .word
  | .count _ => .count
  | .bytes held => .bytes held.length
  | .zeros number => .bytes number
  | .text _ => .text

def answer : Item → ReadAnswer
  | .word value => .word value
  | .count value => .count value
  | .bytes held => .bytes held
  | .zeros number => .bytes (List.replicate number 0)
  | .text value => .text value

end Item

namespace Writer

def items (writer : Writer) (items : List Item) : Writer :=
  items.foldl Item.write writer

/-- How much was written after each of the items. -/
def lengths : Writer → List Item → List Nat
  | _, [] => []
  | writer, item :: rest =>
    let later := item.write writer
    later.length :: later.lengths rest

end Writer
end SegmentContainer
