import SegmentContainer.Layout
import SegmentContainer.Text.Utf8

/-!
# Writing bytes in order

A writer collects bytes.  It keeps them last one first, so that adding to the
end does not touch what is there; `Writer.toBytes` is what was written, and each
operation adds to it at the end.
-/

set_option autoImplicit false

namespace SegmentContainer

/-- Bytes written so far, the last one first. -/
structure Writer where
  reversed : Bytes

namespace Writer

def empty : Writer := ⟨[]⟩

def toBytes (writer : Writer) : Bytes := writer.reversed.reverse

def length (writer : Writer) : Nat := writer.reversed.length

def bytes (writer : Writer) (added : Bytes) : Writer :=
  ⟨added.reverse ++ writer.reversed⟩

def word (writer : Writer) (value : UInt64) : Writer :=
  writer.bytes (Bytes.ofWord value)

def count (writer : Writer) (value : Nat) : Writer :=
  writer.word (UInt64.ofNat value)

def zeros (writer : Writer) (number : Nat) : Writer :=
  writer.bytes (List.replicate number 0)

def text (writer : Writer) (value : String) : Writer :=
  (writer.bytes (Utf8.encode value)).bytes [0]

def symbolEntry (writer : Writer) (address : UInt64) (name : String) : Writer :=
  (writer.word address).text name

theorem toBytes_empty : empty.toBytes = [] := rfl

theorem length_toBytes (writer : Writer) : writer.toBytes.length = writer.length := by
  simp [toBytes, length]

theorem toBytes_bytes (writer : Writer) (added : Bytes) :
    (writer.bytes added).toBytes = writer.toBytes ++ added := by
  simp [toBytes, bytes]

theorem toBytes_word (writer : Writer) (value : UInt64) :
    (writer.word value).toBytes = writer.toBytes ++ Bytes.ofWord value :=
  toBytes_bytes writer (Bytes.ofWord value)

theorem toBytes_count (writer : Writer) (value : Nat) :
    (writer.count value).toBytes = writer.toBytes ++ Bytes.ofWord (UInt64.ofNat value) :=
  toBytes_word writer (UInt64.ofNat value)

theorem toBytes_zeros (writer : Writer) (number : Nat) :
    (writer.zeros number).toBytes = writer.toBytes ++ List.replicate number 0 :=
  toBytes_bytes writer (List.replicate number 0)

theorem toBytes_text (writer : Writer) (value : String) :
    (writer.text value).toBytes = writer.toBytes ++ (Utf8.encode value ++ [0]) := by
  simp [text, toBytes_bytes]

theorem toBytes_symbolEntry (writer : Writer) (address : UInt64) (name : String) :
    (writer.symbolEntry address name).toBytes
      = writer.toBytes ++ (Bytes.ofWord address ++ (Utf8.encode name ++ [0])) := by
  simp [symbolEntry, toBytes_text, toBytes_word]

/-- Items that are written one after the other stand one after the other. -/
theorem toBytes_foldl {α : Type} (write : Writer → α → Writer) (spell : α → Bytes)
    (items : List α) (writer : Writer)
    (step : ∀ item ∈ items, ∀ writer : Writer,
      (write writer item).toBytes = writer.toBytes ++ spell item) :
    (items.foldl write writer).toBytes = writer.toBytes ++ items.flatMap spell := by
  induction items generalizing writer with
  | nil => simp
  | cons item rest ih =>
    rw [List.foldl_cons, ih _ fun other member => step other (List.mem_cons_of_mem _ member),
      step item List.mem_cons_self, List.append_assoc, List.flatMap_cons]

end Writer
end SegmentContainer
