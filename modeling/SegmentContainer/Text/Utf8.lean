import SegmentContainer.Bytes

/-!
# UTF-8

A text is its UTF-8 bytes.  Bytes that are no text are told apart by the length
of the longest part in front that is, and by what follows it: bytes that no
text can hold there, or a character that the end of the bytes cuts short.
-/

set_option autoImplicit false

namespace SegmentContainer.Utf8

def encode (text : String) : Bytes :=
  text.toUTF8.data.toList

structure Fault where
  /-- Length of the longest part in front that is text. -/
  valid : Nat
  /-- How many bytes after it are at fault, or `none` where the bytes end
  inside a character that could still be completed. -/
  wrong : Option Nat
  deriving DecidableEq

def Fault.message (fault : Fault) : String :=
  match fault.wrong with
  | some count =>
    s!"invalid utf-8 sequence of {count} bytes from index {fault.valid}"
  | none => s!"incomplete utf-8 byte sequence from index {fault.valid}"

/-- How many bytes a character has that starts with this byte, and the range in
which its second byte must lie; `none` for a byte that starts no character.
The range leaves out overlong spellings, surrogates and code points above
U+10FFFF. -/
def lead? (byte : UInt8) : Option (Nat × UInt8 × UInt8) :=
  if byte < 0x80 then some (1, 0x80, 0xBF)
  else if byte < 0xC2 then none
  else if byte < 0xE0 then some (2, 0x80, 0xBF)
  else if byte = 0xE0 then some (3, 0xA0, 0xBF)
  else if byte = 0xED then some (3, 0x80, 0x9F)
  else if byte < 0xF0 then some (3, 0x80, 0xBF)
  else if byte = 0xF0 then some (4, 0x90, 0xBF)
  else if byte < 0xF4 then some (4, 0x80, 0xBF)
  else if byte = 0xF4 then some (4, 0x80, 0x8F)
  else none

/-- Where a walk over bytes stands: how many bytes are behind it, and how many
of the last of them belong to a character that is not complete; of that
character `owed` more bytes are due, the next one between `low` and `high`. -/
structure Walk where
  done : Nat
  held : Nat
  owed : Nat
  low : UInt8
  high : UInt8

def firstFault : Walk → Bytes → Option Fault
  | walk, [] => if walk.held = 0 then none else some ⟨walk.done, none⟩
  | walk, byte :: rest =>
    if walk.held = 0 then
      match lead? byte with
      | none => some ⟨walk.done, some 1⟩
      | some (1, _, _) => firstFault ⟨walk.done + 1, 0, 0, 0, 0⟩ rest
      | some (size, low, high) => firstFault ⟨walk.done, 1, size - 1, low, high⟩ rest
    else if walk.low ≤ byte ∧ byte ≤ walk.high then
      if walk.owed = 1 then firstFault ⟨walk.done + walk.held + 1, 0, 0, 0, 0⟩ rest
      else firstFault ⟨walk.done, walk.held + 1, walk.owed - 1, 0x80, 0xBF⟩ rest
    else some ⟨walk.done, some walk.held⟩

def fault (bytes : Bytes) : Fault :=
  (firstFault ⟨0, 0, 0, 0, 0⟩ bytes).getD ⟨0, none⟩

def decode (bytes : Bytes) : Except Fault String :=
  match String.fromUTF8? ⟨bytes.toArray⟩ with
  | some text => .ok text
  | none => .error (fault bytes)

theorem encode_of_decode {bytes : Bytes} {text : String} (read : decode bytes = .ok text) :
    encode text = bytes := by
  unfold decode at read
  split at read
  · rename_i found same
    injection read with same'
    subst same'
    unfold String.fromUTF8? at same
    split at same
    · injection same with same
      subst same
      simp [encode, String.fromUTF8]
    · cases same
  · cases read

theorem decode_encode (text : String) : decode (encode text) = .ok text := by
  have whole : (⟨(encode text).toArray⟩ : ByteArray) = text.toUTF8 := by
    simp [encode]
  have valid : text.toUTF8.IsValidUTF8 := text.isValidUTF8
  unfold decode
  rw [whole]
  simp only [String.fromUTF8?, dif_pos valid]
  rfl

end SegmentContainer.Utf8
