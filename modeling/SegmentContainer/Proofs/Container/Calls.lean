import SegmentContainer.Container.Calls
import SegmentContainer.Proofs.Container.Safety
import SegmentContainer.Proofs.Text.Utf8

/-!
# Runs of calls

Whatever calls a reader gets, and whether they succeed or fail, its cursor stays on the
string and never goes back.  A call returns what the bytes spell that it passes over, or it
lacks bytes and leaves the cursor where it was.  Only a terminated name that is no text is
passed over and refused all the same.  In 64-bit arithmetic no call crashes.
-/

set_option autoImplicit false

namespace SegmentContainer

theorem Utf8.eq_fault_of_decode {bytes : Bytes} {found : Utf8.Fault}
    (failed : Utf8.decode bytes = .error found) : found = Utf8.fault bytes := by
  unfold Utf8.decode at failed
  split at failed
  · cases failed
  · exact (Except.error.inj failed).symm

/-! ## Single calls -/

namespace ReadAnswer

def encode : ReadAnswer → Bytes
  | .word value => Bytes.ofWord value
  | .count value => Bytes.ofWord (UInt64.ofNat value)
  | .bytes piece => piece
  | .text value => Utf8.encode value ++ [0]

end ReadAnswer

/-- Why so many bytes cannot be taken: their end is at no 64-bit position, or they are not
all there. -/
inductive Cursor.Lacks (number : Nat) (cursor : Cursor) : Malformed.Problem → Prop where
  | uncounted (wide : 2 ^ 64 ≤ cursor.position + number) : Lacks number cursor .positionOverflow
  | short (fewer : cursor.remaining < number) :
      Lacks number cursor (.shortRead number cursor.position cursor.length)

namespace ReadCall

def Admits : ReadCall → ReadAnswer → Prop
  | .word, .word _ => True
  | .count, .count value => value < 2 ^ 64
  | .bytes number, .bytes piece => piece.length = number
  | .text, .text value => (0 : UInt8) ∉ Utf8.encode value
  | _, _ => False

def Lacks : ReadCall → Cursor → Malformed.Problem → Prop
  | .word => Cursor.Lacks Layout.word
  | .count => Cursor.Lacks Layout.word
  | .bytes number => Cursor.Lacks number
  | .text => fun cursor problem => (0 : UInt8) ∉ cursor.rest ∧ problem = .unterminatedText

end ReadCall

/-- What a call does: it returns what the next bytes spell and passes over these, or it
misses bytes and stays where it is, or it finds a terminated name that is no text and
passes over the name and the zero byte.  It names its own place as that of a fault. -/
inductive ReadStep.Lawful : ReadStep → Prop where
  | answered {call : ReadCall} {before after : Cursor} {answer : ReadAnswer}
      (admitted : call.Admits answer) (passes : before.Passes answer.encode after) :
      Lawful ⟨call, before, .ok answer, after⟩
  | refused {call : ReadCall} {before : Cursor} {problem : Malformed.Problem}
      (lacks : call.Lacks before problem) :
      Lawful ⟨call, before, .error ⟨before.position, problem⟩, before⟩
  | garbled {before after : Cursor} {name : Bytes} (whole : (0 : UInt8) ∉ name)
      (untext : ∀ value, Utf8.encode value ≠ name)
      (passes : before.Passes (name ++ [0]) after) :
      Lawful ⟨.text, before, .error ⟨before.position, .invalidText (Utf8.fault name)⟩, after⟩

namespace Reader

variable {α β : Type}

/-- Either the bytes of a value are passed over, or bytes are missing and none is passed
over. -/
def AllOrNothing (reader : Reader α) (shape : α → Prop) (encode : α → Bytes)
    (lacks : Cursor → Malformed.Problem → Prop) : Prop :=
  ∀ cursor : Cursor,
    (∃ value after, reader cursor = .ok value after ∧ shape value
        ∧ cursor.Passes (encode value) after)
      ∨ ∃ problem, lacks cursor problem
        ∧ reader cursor = .error ⟨cursor.position, problem⟩ cursor

theorem AllOrNothing.map {reader : Reader α} {shape : α → Prop} {encode : α → Bytes}
    {lacks : Cursor → Malformed.Problem → Prop}
    (own : reader.AllOrNothing shape encode lacks) (make : α → β)
    {made : β → Prop} {encodeMade : β → Bytes}
    (keeps : ∀ found, shape found → made (make found) ∧ encodeMade (make found) = encode found) :
    AllOrNothing (reader >>= fun found => pure (make found)) made encodeMade lacks := by
  intro cursor
  rw [bind_result]
  rcases own cursor with ⟨found, after, run, shaped, passes⟩ | ⟨problem, missing, failed⟩
  · obtain ⟨isMade, same⟩ := keeps found shaped
    left
    refine ⟨make found, after, ?_, isMade, ?_⟩
    · rw [run]
      rfl
    · rwa [same]
  · right
    refine ⟨problem, missing, ?_⟩
    rw [failed]

theorem bytes_allOrNothing (number : Nat) :
    (bytes number).AllOrNothing (fun piece => piece.length = number) id
      (Cursor.Lacks number) := by
  intro cursor
  have limit : UInt64.size = 2 ^ 64 := rfl
  have length : (cursor.rest.take number).length = min number cursor.rest.length :=
    List.length_take
  simp only [bytes]
  split
  · rename_i wide
    right
    exact ⟨_, .uncounted wide, rfl⟩
  · split
    · right
      refine ⟨_, .short ?_, rfl⟩
      simp only [Cursor.remaining]
      omega
    · left
      have taken : (cursor.rest.take number).length = number := by omega
      refine ⟨_, _, rfl, taken, (List.take_append_drop number cursor.rest).symm, ?_⟩
      simp [taken]

theorem word_allOrNothing :
    word.AllOrNothing (fun _ => True) Bytes.ofWord (Cursor.Lacks Layout.word) :=
  (bytes_allOrNothing Layout.word).map Bytes.toWord
    fun _ eight => ⟨trivial, Bytes.ofWord_toWord eight⟩

theorem count_allOrNothing :
    count.AllOrNothing (fun value => value < 2 ^ 64) (fun value => Bytes.ofWord (UInt64.ofNat value))
      (Cursor.Lacks Layout.word) := by
  refine word_allOrNothing.map UInt64.toNat ?_
  intro found _
  exact ⟨found.toNat_lt, by rw [UInt64.ofNat_toNat]⟩

end Reader

namespace ReadCall

variable {call : ReadCall} {cursor after : Cursor} {answer : ReadAnswer}

theorem make_of_ok (run : call.reader cursor = .ok answer after) :
    call.make cursor = ⟨call, cursor, .ok answer, after⟩ := by
  simp [make, run]

theorem make_of_error {malformed : Malformed}
    (run : call.reader cursor = .error malformed after) :
    call.make cursor = ⟨call, cursor, .error malformed, after⟩ := by
  simp [make, run]

@[simp] theorem call_make (call : ReadCall) (cursor : Cursor) : (call.make cursor).call = call := by
  simp only [make]
  split <;> rfl

@[simp] theorem before_make (call : ReadCall) (cursor : Cursor) :
    (call.make cursor).before = cursor := by
  simp only [make]
  split <;> rfl

theorem lawful_of_allOrNothing (call : ReadCall)
    (own : call.reader.AllOrNothing call.Admits ReadAnswer.encode call.Lacks) (cursor : Cursor) :
    (call.make cursor).Lawful := by
  rcases own cursor with ⟨answer, after, run, admitted, passes⟩ | ⟨problem, lacks, run⟩
  · rw [make_of_ok run]
    exact .answered admitted passes
  · rw [make_of_error run]
    exact .refused lacks

theorem make_text_lawful (cursor : Cursor) : (ReadCall.text.make cursor).Lawful := by
  by_cases ended : (0 : UInt8) ∈ cursor.rest
  · obtain ⟨name, later, ahead, whole⟩ := List.eq_append_cons_of_mem ended
    have passes : cursor.Passes (name ++ [0]) ⟨cursor.position + name.length + 1, later⟩ := by
      refine ⟨by simp [ahead], ?_⟩
      simp [Nat.add_assoc]
    have read := Reader.text_terminated whole ahead
    cases decoded : Utf8.decode name with
    | ok value =>
      have spelled := Utf8.encode_of_decode decoded
      have run : ReadCall.text.reader cursor
          = .ok (.text value) ⟨cursor.position + name.length + 1, later⟩ := by
        rw [reader, bind_result, read, decoded]
        rfl
      rw [make_of_ok run]
      refine .answered ?_ ?_
      · rwa [Admits, spelled]
      · rwa [ReadAnswer.encode, spelled]
    | error fault =>
      have run : ReadCall.text.reader cursor
          = .error ⟨cursor.position, .invalidText fault⟩
              ⟨cursor.position + name.length + 1, later⟩ := by
        rw [reader, bind_result, read, decoded]
      rw [make_of_error run, Utf8.eq_fault_of_decode decoded]
      refine .garbled whole ?_ passes
      intro value spelled
      rw [← spelled, Utf8.decode_encode] at decoded
      cases decoded
  · have run : ReadCall.text.reader cursor
        = .error ⟨cursor.position, .unterminatedText⟩ cursor := by
      rw [reader, bind_result, Reader.text_unterminated ended]
    rw [make_of_error run]
    exact .refused ⟨ended, rfl⟩

theorem make_lawful (call : ReadCall) (cursor : Cursor) : (call.make cursor).Lawful := by
  cases call with
  | word =>
    refine lawful_of_allOrNothing .word (Reader.word_allOrNothing.map ReadAnswer.word ?_) cursor
    exact fun _ _ => ⟨trivial, rfl⟩
  | count =>
    refine lawful_of_allOrNothing .count (Reader.count_allOrNothing.map ReadAnswer.count ?_) cursor
    exact fun _ small => ⟨small, rfl⟩
  | bytes number =>
    refine lawful_of_allOrNothing (.bytes number)
      ((Reader.bytes_allOrNothing number).map ReadAnswer.bytes ?_) cursor
    exact fun _ long => ⟨long, rfl⟩
  | text => exact make_text_lawful cursor

end ReadCall

/-! ## Runs -/

/-- A cursor at a place of a string, with the other bytes of the string ahead. -/
structure Cursor.On (cursor : Cursor) (bytes : Bytes) : Prop where
  inside : cursor.position ≤ bytes.length
  sum : cursor.position + cursor.remaining = bytes.length
  ahead : cursor.rest = bytes.drop cursor.position

theorem Cursor.on_start (bytes : Bytes) : (Cursor.start bytes).On bytes :=
  ⟨Nat.zero_le _, Nat.zero_add _, rfl⟩

theorem Cursor.On.passes {cursor after : Cursor} {bytes taken : Bytes} (on : cursor.On bytes)
    (passes : cursor.Passes taken after) : after.On bytes := by
  have next := passes.next
  have position := passes.position
  have sum : cursor.position + (taken.length + after.remaining) = bytes.length := by
    rw [← on.sum, Cursor.remaining, Cursor.remaining, next, List.length_append]
  refine ⟨by omega, by omega, ?_⟩
  rw [position, ← List.drop_drop, ← on.ahead, next, List.drop_left]

theorem ReadStep.Lawful.passes {step : ReadStep} (lawful : step.Lawful) :
    ∃ taken, step.before.Passes taken step.after := by
  cases lawful with
  | answered admitted passes => exact ⟨_, passes⟩
  | refused lacks => exact ⟨[], Cursor.Passes.nil_iff.mpr rfl⟩
  | garbled whole untext passes => exact ⟨_, passes⟩

structure ReadStep.Keeps (step : ReadStep) (bytes : Bytes) : Prop where
  lawful : step.Lawful
  before : step.before.On bytes
  after : step.after.On bytes
  forward : step.before.position ≤ step.after.position

theorem ReadCall.make_keeps {cursor : Cursor} {bytes : Bytes} (call : ReadCall)
    (on : cursor.On bytes) : (call.make cursor).Keeps bytes := by
  have lawful := call.make_lawful cursor
  have before : (call.make cursor).before.On bytes := by simpa using on
  obtain ⟨taken, passes⟩ := lawful.passes
  refine ⟨lawful, before, before.passes passes, ?_⟩
  rw [passes.position]
  exact Nat.le_add_right _ _

namespace Cursor

variable {cursor : Cursor} {bytes : Bytes}

theorem map_call_trace (cursor : Cursor) (calls : List ReadCall) :
    (cursor.trace calls).map (·.call) = calls := by
  induction calls generalizing cursor with
  | nil => rfl
  | cons call rest ih => simp [trace, ih]

theorem before_of_mem_head?_trace {step : ReadStep} {calls : List ReadCall}
    (first : step ∈ (cursor.trace calls).head?) : step.before = cursor := by
  cases calls with
  | nil => cases first
  | cons call rest =>
    cases first
    exact call.before_make cursor

theorem isChain_trace (cursor : Cursor) (calls : List ReadCall) :
    (cursor.trace calls).IsChain fun earlier later => later.before = earlier.after := by
  induction calls generalizing cursor with
  | nil => exact List.isChain_nil
  | cons call rest ih =>
    exact List.isChain_cons.mpr ⟨fun _ next => before_of_mem_head?_trace next, ih _⟩

theorem make_of_mem_trace {step : ReadStep} {calls : List ReadCall}
    (made : step ∈ cursor.trace calls) : step = step.call.make step.before := by
  induction calls generalizing cursor with
  | nil => simp [trace] at made
  | cons call rest ih =>
    rcases List.mem_cons.mp made with rfl | later
    · simp
    · exact ih later

theorem On.trace {step : ReadStep} {calls : List ReadCall} (on : cursor.On bytes)
    (made : step ∈ cursor.trace calls) :
    step.Keeps bytes ∧ cursor.position ≤ step.before.position := by
  induction calls generalizing cursor with
  | nil => simp [Cursor.trace] at made
  | cons call rest ih =>
    have first := call.make_keeps on
    rcases List.mem_cons.mp made with rfl | later
    · exact ⟨first, by simp⟩
    · obtain ⟨keeps, behind⟩ := ih first.after later
      have forward := first.forward
      rw [ReadCall.before_make] at forward
      exact ⟨keeps, by omega⟩

theorem On.pairwise_trace (on : cursor.On bytes) (calls : List ReadCall) :
    (cursor.trace calls).Pairwise
      fun earlier later => earlier.after.position ≤ later.before.position := by
  induction calls generalizing cursor with
  | nil => exact List.Pairwise.nil
  | cons call rest ih =>
    have first := (call.make_keeps on).after
    exact List.Pairwise.cons (fun later made => (first.trace made).2) (ih first)

end Cursor

/-! ## Calls on a machine -/

def ReadStep.outcome (step : ReadStep) (bytes : Bytes) (account : Account) :
    EStateM.Result Halt Account (ReadAnswer × Buffer) :=
  match step.answer with
  | .ok answer => .ok (answer, ⟨bytes, step.after.position⟩) account
  | .error malformed => .error (.failed (.malformed malformed)) account

theorem Machine.Follows.map {α β : Type} {program : Buffer → Machine (α × Buffer)}
    {reader : Reader α} (follows : Machine.Follows program reader) (own : reader.Local)
    (make : α → β) :
    Machine.Follows
      (fun buffer => program buffer >>= fun found => Pure.pure (make found.1, found.2))
      (reader >>= fun found => Pure.pure (make found)) :=
  Machine.Follows.bind follows own (fun _ => True) (fun _ _ _ _ _ => trivial)
    fun found _ => Machine.Follows.pure (make found)

theorem ReadCall.machine_follows (call : ReadCall) :
    Machine.Follows call.machine call.reader := by
  cases call with
  | word => exact Machine.word_follows.map Reader.word_local ReadAnswer.word
  | count => exact Machine.count_follows.map Reader.count_local ReadAnswer.count
  | bytes number =>
    exact (Machine.bytes_follows number).map (Reader.bytes_local number) ReadAnswer.bytes
  | text => exact Machine.text_follows.map Reader.text_local ReadAnswer.text

theorem ReadCall.machine_apply {cursor : Cursor} {bytes : Bytes} (call : ReadCall)
    (on : cursor.On bytes) (small : bytes.length < 2 ^ 63) (account : Account) :
    call.machine ⟨bytes, cursor.position⟩ account
      = (call.make cursor).outcome bytes account := by
  have same : Buffer.cursor ⟨bytes, cursor.position⟩ = cursor := by
    simp only [Buffer.cursor]
    rw [← on.ahead]
  have run := call.machine_follows ⟨bytes, cursor.position⟩ account ⟨on.inside, small⟩
  rw [run, same]
  cases read : call.reader cursor with
  | ok answer after =>
    rw [make_of_ok read]
    rfl
  | error malformed after =>
    rw [make_of_error read]
    rfl

/-- Over any string and any calls, each call goes on where the one before it left the cursor,
also after failures.  Each step is lawful and keeps the cursor on the string, no step begins
before the place where an earlier one ended, and on a machine that can hold the string each
call ends in the same way and never crashes. -/
theorem Cursor.trace_lawful (bytes : Bytes) (calls : List ReadCall) :
    ((Cursor.start bytes).trace calls).map (·.call) = calls
      ∧ ((Cursor.start bytes).trace calls).IsChain
          (fun earlier later => later.before = earlier.after)
      ∧ (∀ step ∈ (Cursor.start bytes).trace calls, step.Keeps bytes)
      ∧ ((Cursor.start bytes).trace calls).Pairwise
          (fun earlier later => earlier.after.position ≤ later.before.position)
      ∧ (bytes.length < 2 ^ 63 → ∀ step ∈ (Cursor.start bytes).trace calls, ∀ account,
          step.call.machine ⟨bytes, step.before.position⟩ account
            = step.outcome bytes account) := by
  have on := Cursor.on_start bytes
  refine ⟨Cursor.map_call_trace _ calls, Cursor.isChain_trace _ calls, ?_,
    on.pairwise_trace calls, ?_⟩
  · intro step made
    exact (on.trace made).1
  · intro small step made account
    have keeps := (on.trace made).1
    rw [step.call.machine_apply keeps.before small, ← Cursor.make_of_mem_trace made]

def garbledName : Bytes := [0xFF, 0, 0x41]

/-- The name is passed over and refused.  The calls behind it ask for more bytes than are
left, up to one that 64 bits cannot count, and for a zero byte that is not there. -/
theorem Cursor.trace_lawful_garbledName :
    ((Cursor.start garbledName).trace
          [.text, .word, .bytes 0xFFFFFFFFFFFFFFFF, .text, .bytes 1]).map
        (fun step => (step.answer, step.after.position))
        = [(.error ⟨0, .invalidText ⟨0, some 1⟩⟩, 2), (.error ⟨2, .shortRead 8 2 3⟩, 2),
          (.error ⟨2, .positionOverflow⟩, 2), (.error ⟨2, .unterminatedText⟩, 2),
          (.ok (.bytes [0x41]), 3)]
      ∧ garbledName.length < 2 ^ 63
      ∧ ∀ step ∈ (Cursor.start garbledName).trace
            [.text, .word, .bytes 0xFFFFFFFFFFFFFFFF, .text, .bytes 1],
          step.Keeps garbledName
            ∧ step.call.machine ⟨garbledName, step.before.position⟩ {}
              = step.outcome garbledName {} := by
  have small : garbledName.length < 2 ^ 63 := by decide
  obtain ⟨-, -, keeps, -, machine⟩ := trace_lawful garbledName
    [.text, .word, .bytes 0xFFFFFFFFFFFFFFFF, .text, .bytes 1]
  refine ⟨by cbv, small, fun step made => ⟨keeps step made, machine small step made {}⟩⟩

end SegmentContainer
