import Mathlib
import SegmentContainer.Container.Reader
import SegmentContainer.Proofs.Bytes

/-!
# What readers accept

A reader is described by the values it can return and by the bytes that each of
them takes up: it returns a value exactly when the value is of the right shape and
its bytes come next, and then it stops behind them.  Such a description holds at
every place of a string of fewer than 2^64 bytes; in a longer one a position could
not be counted.

Words, counts and terminated texts are described here, and the repetition of any
reader that is.
-/

set_option autoImplicit false

namespace SegmentContainer

/-- `taken` comes next at `cursor`, and `after` stands behind it. -/
structure Cursor.Passes (cursor : Cursor) (taken : Bytes) (after : Cursor) : Prop where
  next : cursor.rest = taken ++ after.rest
  position : after.position = cursor.position + taken.length

theorem Cursor.length_start (bytes : Bytes) : (Cursor.start bytes).length = bytes.length :=
  Nat.zero_add _

namespace Cursor.Passes

variable {cursor middle after : Cursor} {taken first second : Bytes}

theorem length_eq (passes : cursor.Passes taken after) : after.length = cursor.length := by
  simp only [Cursor.length, passes.next, passes.position, List.length_append]
  omega

theorem nil_iff : cursor.Passes [] after ↔ after = cursor := by
  constructor
  · intro passes
    cases cursor
    cases after
    have next := passes.next
    have position := passes.position
    simp only [List.nil_append] at next
    simp only [List.length_nil, Nat.add_zero] at position
    rw [next, position]
  · rintro rfl
    exact ⟨rfl, rfl⟩

theorem append (left : cursor.Passes first middle) (right : middle.Passes second after) :
    cursor.Passes (first ++ second) after := by
  constructor
  · rw [left.next, right.next, List.append_assoc]
  · rw [right.position, left.position, List.length_append, Nat.add_assoc]

theorem append_iff :
    cursor.Passes (first ++ second) after
      ↔ ∃ middle, cursor.Passes first middle ∧ middle.Passes second after := by
  constructor
  · intro passes
    refine ⟨⟨cursor.position + first.length, second ++ after.rest⟩, ⟨?_, rfl⟩, rfl, ?_⟩
    · rw [passes.next, List.append_assoc]
    · rw [passes.position, List.length_append, Nat.add_assoc]
  · rintro ⟨middle, left, right⟩
    exact left.append right

theorem start_iff {bytes : Bytes} (atEnd : after.rest = []) :
    (Cursor.start bytes).Passes taken after
      ↔ bytes = taken ∧ after.position = taken.length := by
  constructor
  · intro passes
    have next := passes.next
    have position := passes.position
    rw [atEnd, List.append_nil] at next
    exact ⟨next, by simpa [Cursor.start] using position⟩
  · rintro ⟨rfl, position⟩
    exact ⟨by simp [Cursor.start, atEnd], by simpa [Cursor.start] using position⟩

end Cursor.Passes

namespace Reader

/-- The reader returns exactly the values of a shape whose bytes come next, and
stops behind those. -/
def Reads {α : Type} (reader : Reader α) (shape : α → Prop) (encode : α → Bytes) : Prop :=
  ∀ (cursor after : Cursor) (value : α), cursor.length < 2 ^ 64 →
    (reader cursor = .ok value after ↔ shape value ∧ cursor.Passes (encode value) after)

theorem bind_ok_iff {α β : Type} (first : Reader α) (second : α → Reader β)
    (cursor after : Cursor) (value : β) :
    (first >>= second) cursor = .ok value after
      ↔ ∃ found middle, first cursor = .ok found middle ∧ second found middle = .ok value after := by
  change EStateM.bind first second cursor = _ ↔ _
  unfold EStateM.bind
  cases first cursor with
  | error fault middle => simp
  | ok found middle =>
    constructor
    · intro run
      exact ⟨found, middle, rfl, run⟩
    · rintro ⟨_, _, same, run⟩
      cases same
      exact run

theorem pure_ok_iff {α : Type} (value found : α) (cursor after : Cursor) :
    (pure value : Reader α) cursor = .ok found after ↔ found = value ∧ after = cursor := by
  have opened : (pure value : Reader α) cursor = .ok value cursor := rfl
  rw [opened, EStateM.Result.ok.injEq, eq_comm, eq_comm (a := cursor)]

theorem reject_ne_ok {α : Type} (offset : Nat) (problem : Malformed.Problem) (value : α)
    (cursor after : Cursor) :
    (reject offset problem : Reader α) cursor ≠ .ok value after := by
  simp [reject]

theorem position_ok_iff (found : Nat) (cursor after : Cursor) :
    position cursor = .ok found after ↔ found = cursor.position ∧ after = cursor := by
  rw [position, EStateM.Result.ok.injEq, eq_comm, eq_comm (a := cursor)]

theorem remaining_ok_iff (found : Nat) (cursor after : Cursor) :
    remaining cursor = .ok found after ↔ found = cursor.remaining ∧ after = cursor := by
  rw [remaining, EStateM.Result.ok.injEq, eq_comm, eq_comm (a := cursor)]

/-- What a reader accepts, no string starts with in two ways. -/
theorem Reads.eq_of_append_eq {α : Type} {reader : Reader α} {shape : α → Prop}
    {encode : α → Bytes} (reads : reader.Reads shape encode) {first second : α}
    {rest other : Bytes} (bound : (encode first ++ rest).length < 2 ^ 64)
    (firstShaped : shape first) (secondShaped : shape second)
    (same : encode first ++ rest = encode second ++ other) : first = second ∧ rest = other := by
  rw [← Cursor.length_start] at bound
  have readFirst := (reads _ ⟨(encode first).length, rest⟩ first bound).mpr
    ⟨firstShaped, rfl, (Nat.zero_add _).symm⟩
  have readSecond := (reads _ ⟨(encode second).length, other⟩ second bound).mpr
    ⟨secondShaped, same, (Nat.zero_add _).symm⟩
  rw [readFirst] at readSecond
  cases readSecond
  exact ⟨rfl, rfl⟩

theorem Reads.map {α β : Type} {reader : Reader α} {shape : α → Prop} {encode : α → Bytes}
    (reads : reader.Reads shape encode) (make : α → β) (made : β → Prop) (encodeMade : β → Bytes)
    (onto : ∀ value, made value ↔ ∃ found, shape found ∧ value = make found)
    (same : ∀ found, shape found → encodeMade (make found) = encode found) :
    Reads (reader >>= fun found => pure (make found)) made encodeMade := by
  intro cursor after value bound
  simp only [bind_ok_iff, pure_ok_iff]
  constructor
  · rintro ⟨found, middle, run, rfl, rfl⟩
    obtain ⟨shaped, passes⟩ := (reads cursor after found bound).mp run
    exact ⟨(onto _).mpr ⟨found, shaped, rfl⟩, by rwa [same found shaped]⟩
  · rintro ⟨isMade, passes⟩
    obtain ⟨found, shaped, rfl⟩ := (onto value).mp isMade
    rw [same found shaped] at passes
    exact ⟨found, after, (reads cursor after found bound).mpr ⟨shaped, passes⟩, rfl, rfl⟩

theorem bytes_reads (count : Nat) :
    (bytes count).Reads (fun piece => piece.length = count) id := by
  intro cursor after value bound
  have whole : cursor.length = cursor.position + cursor.rest.length := rfl
  simp only [bytes, id]
  constructor
  · intro run
    split at run
    · cases run
    · split at run
      · cases run
      · rename_i enough
        simp only [EStateM.Result.ok.injEq] at run
        obtain ⟨rfl, rfl⟩ := run
        have taken : (cursor.rest.take count).length = count := by
          have most := List.length_take_le count cursor.rest
          omega
        exact ⟨taken, (List.take_append_drop count cursor.rest).symm, by rw [taken]⟩
  · rintro ⟨rfl, passes⟩
    have next := passes.next
    have position := passes.position
    have limit : UInt64.size = 2 ^ 64 := rfl
    rw [next, List.length_append] at whole
    rw [if_neg (by omega), next, List.take_left, if_neg (by omega), List.drop_left, ← position]

theorem word_reads : word.Reads (fun _ => True) Bytes.ofWord := by
  refine (bytes_reads Layout.word).map Bytes.toWord _ _ ?_ ?_
  · intro value
    simp only [true_iff]
    exact ⟨Bytes.ofWord value, Bytes.length_ofWord value, (Bytes.toWord_ofWord value).symm⟩
  · intro found eight
    exact Bytes.ofWord_toWord eight

theorem count_reads :
    count.Reads (fun value => value < 2 ^ 64) fun value => Bytes.ofWord (UInt64.ofNat value) := by
  refine word_reads.map UInt64.toNat _ _ ?_ ?_
  · intro value
    constructor
    · intro small
      refine ⟨UInt64.ofNat value, trivial, ?_⟩
      rw [UInt64.toNat_ofNat', Nat.mod_eq_of_lt small]
    · rintro ⟨found, -, rfl⟩
      exact found.toNat_lt
  · intro found _
    rw [UInt64.ofNat_toNat]

theorem text_terminated {cursor : Cursor} {name later : Bytes} (whole : (0 : UInt8) ∉ name)
    (ahead : cursor.rest = name ++ 0 :: later) :
    text cursor = match Utf8.decode name with
      | .ok decoded => .ok decoded ⟨cursor.position + name.length + 1, later⟩
      | .error fault =>
        .error ⟨cursor.position, .invalidText fault⟩
          ⟨cursor.position + name.length + 1, later⟩ := by
  have inside : ∀ byte ∈ name, decide (byte ≠ 0) = true := by
    intro byte member
    have nonzero : byte ≠ 0 := fun zero => whole (zero ▸ member)
    simpa using nonzero
  have front : cursor.rest.takeWhile (· ≠ 0) = name := by
    rw [ahead, List.takeWhile_append_of_pos inside]
    simp
  have behind : cursor.rest.dropWhile (· ≠ 0) = 0 :: later := by
    rw [ahead, List.dropWhile_append_of_pos inside]
    simp
  cases decoded : Utf8.decode name with
  | ok found => simp only [text, front, behind, decoded]
  | error fault => simp only [text, front, behind, decoded]

theorem text_unterminated {cursor : Cursor} (endless : (0 : UInt8) ∉ cursor.rest) :
    text cursor = .error ⟨cursor.position, .unterminatedText⟩ cursor := by
  have behind : cursor.rest.dropWhile (· ≠ 0) = [] := by
    rw [List.dropWhile_eq_nil_iff]
    intro byte member
    have nonzero : byte ≠ 0 := fun zero => endless (zero ▸ member)
    simpa using nonzero
  simp only [text, behind]

theorem text_reads :
    text.Reads (fun name => (0 : UInt8) ∉ Utf8.encode name)
      fun name => Utf8.encode name ++ [0] := by
  intro cursor after value bound
  dsimp only
  constructor
  · intro run
    by_cases ended : (0 : UInt8) ∈ cursor.rest
    · obtain ⟨name, later, ahead, whole⟩ := List.eq_append_cons_of_mem ended
      rw [text_terminated whole ahead] at run
      cases decoded : Utf8.decode name with
      | error fault => simp [decoded] at run
      | ok found =>
        simp only [decoded, EStateM.Result.ok.injEq] at run
        obtain ⟨rfl, rfl⟩ := run
        rw [Utf8.encode_of_decode decoded]
        refine ⟨whole, ?_, ?_⟩
        · rw [ahead, List.append_assoc]
          rfl
        · rw [List.length_append, ← Nat.add_assoc]
          rfl
    · rw [text_unterminated ended] at run
      cases run
  · rintro ⟨whole, passes⟩
    have ahead : cursor.rest = Utf8.encode value ++ 0 :: after.rest := by
      simpa using passes.next
    have position := passes.position
    rw [List.length_append, ← Nat.add_assoc] at position
    rw [List.length_singleton] at position
    rw [text_terminated whole ahead, Utf8.decode_encode, ← position]

theorem many_ok_iff {α : Type} {item : Reader α} {shape : α → Prop} {encode : α → Bytes}
    (reads : item.Reads shape encode) (count : Nat) (soFar all : Array α) (cursor after : Cursor)
    (bound : cursor.length < 2 ^ 64) :
    many item count soFar cursor = .ok all after
      ↔ ∃ items : List α, items.length = count ∧ all.toList = soFar.toList ++ items
          ∧ (∀ value ∈ items, shape value) ∧ cursor.Passes (items.flatMap encode) after := by
  -- the items that are still due stand behind those in `soFar`
  induction count generalizing soFar cursor with
  | zero =>
    simp only [many, pure_ok_iff, List.length_eq_zero_iff]
    constructor
    · rintro ⟨rfl, rfl⟩
      exact ⟨[], rfl, by simp, by simp, Cursor.Passes.nil_iff.mpr rfl⟩
    · rintro ⟨items, rfl, all, -, passes⟩
      exact ⟨by simpa using all, Cursor.Passes.nil_iff.mp passes⟩
  | succ count ih =>
    simp only [many, bind_ok_iff]
    constructor
    · rintro ⟨found, middle, first, later⟩
      obtain ⟨shaped, passed⟩ := (reads cursor middle found bound).mp first
      obtain ⟨items, rfl, all, shapes, passes⟩ :=
        (ih (soFar.push found) middle (passed.length_eq ▸ bound)).mp later
      refine ⟨found :: items, rfl, by simpa using all, ?_, ?_⟩
      · intro value member
        rcases List.mem_cons.mp member with rfl | member
        · exact shaped
        · exact shapes value member
      · rw [List.flatMap_cons]
        exact passed.append passes
    · rintro ⟨items, long, all, shapes, passes⟩
      cases items with
      | nil => simp at long
      | cons found items =>
        rw [List.flatMap_cons, Cursor.Passes.append_iff] at passes
        obtain ⟨middle, passed, passes⟩ := passes
        have shaped : shape found := shapes found List.mem_cons_self
        refine ⟨found, middle, (reads cursor middle found bound).mpr ⟨shaped, passed⟩, ?_⟩
        refine (ih (soFar.push found) middle (passed.length_eq ▸ bound)).mpr
          ⟨items, by simpa using long, by simpa using all, ?_, passes⟩
        intro value member
        exact shapes value (List.mem_cons_of_mem _ member)

end Reader
end SegmentContainer
