import SegmentContainer.Proofs.Container.Grammar

/-!
# Readers and what stands behind

A reader that succeeds has passed over some bytes, and it returns the same whatever
stands behind these.  A reader that fails names a place within the string.  So an
accepted container is accepted for its own bytes: with any bytes behind it, the reader
comes to its end as before and refuses there, and none of its beginnings is accepted,
since the rest would have to be refused behind it.
-/

set_option autoImplicit false

namespace SegmentContainer

def Cursor.extend (cursor : Cursor) (more : Bytes) : Cursor :=
  ⟨cursor.position, cursor.rest ++ more⟩

namespace Reader

/-- A success is owed to the bytes that it passes over, and not to those behind. -/
structure Local {α : Type} (reader : Reader α) : Prop where
  passes : ∀ {cursor after : Cursor} {value : α}, reader cursor = .ok value after →
    ∃ taken, cursor.Passes taken after
  extend : ∀ {cursor after : Cursor} {value : α} (more : Bytes),
    reader cursor = .ok value after → reader (cursor.extend more) = .ok value (after.extend more)

/-- Faults are found at places of the string, or at its end. -/
def FaultsInside {α : Type} (reader : Reader α) : Prop :=
  ∀ {cursor after : Cursor} {malformed : Malformed}, reader cursor = .error malformed after →
    malformed.offset ≤ cursor.length

variable {α β : Type}

theorem Local.length_eq {reader : Reader α} (own : reader.Local) {cursor after : Cursor}
    {value : α} (run : reader cursor = .ok value after) : after.length = cursor.length := by
  obtain ⟨taken, passes⟩ := own.passes run
  exact passes.length_eq

theorem bind_error_iff (first : Reader α) (second : α → Reader β) (cursor after : Cursor)
    (malformed : Malformed) :
    (first >>= second) cursor = .error malformed after
      ↔ first cursor = .error malformed after
        ∨ ∃ found middle, first cursor = .ok found middle
            ∧ second found middle = .error malformed after := by
  change EStateM.bind first second cursor = _ ↔ _
  unfold EStateM.bind
  cases run : first cursor with
  | error fault middle => simp
  | ok found middle =>
    constructor
    · intro later
      exact .inr ⟨found, middle, rfl, later⟩
    · rintro (none | ⟨_, _, same, later⟩)
      · cases none
      · cases same
        exact later

/-! ## Steps -/

theorem Local.pure (value : α) : (Pure.pure value : Reader α).Local where
  passes := by
    intro cursor after found run
    obtain ⟨-, rfl⟩ := (pure_ok_iff _ _ _ _).mp run
    exact ⟨[], Cursor.Passes.nil_iff.mpr rfl⟩
  extend := by
    intro cursor after found more run
    obtain ⟨rfl, rfl⟩ := (pure_ok_iff _ _ _ _).mp run
    rfl

theorem Local.bind {first : Reader α} {second : α → Reader β} (own : first.Local)
    (next : ∀ found, (second found).Local) : (first >>= second).Local where
  passes := by
    intro cursor after value run
    obtain ⟨found, middle, start, later⟩ := (bind_ok_iff _ _ _ _ _).mp run
    obtain ⟨taken, passed⟩ := own.passes start
    obtain ⟨more, passes⟩ := (next found).passes later
    exact ⟨taken ++ more, passed.append passes⟩
  extend := by
    intro cursor after value more run
    obtain ⟨found, middle, start, later⟩ := (bind_ok_iff _ _ _ _ _).mp run
    exact (bind_ok_iff _ _ _ _ _).mpr
      ⟨found, middle.extend more, own.extend more start, (next found).extend more later⟩

theorem FaultsInside.bind {first : Reader α} {second : α → Reader β} (own : first.Local)
    (inside : first.FaultsInside) (next : ∀ found, (second found).FaultsInside) :
    (first >>= second).FaultsInside := by
  intro cursor after malformed run
  rcases (bind_error_iff _ _ _ _ _).mp run with failed | ⟨found, middle, start, later⟩
  · exact inside failed
  · rw [← own.length_eq start]
    exact next found later

theorem FaultsInside.pure (value : α) : (Pure.pure value : Reader α).FaultsInside := by
  intro cursor after malformed run
  cases run

theorem position_local : position.Local where
  passes := by
    intro cursor after found run
    obtain ⟨-, rfl⟩ := (position_ok_iff _ _ _).mp run
    exact ⟨[], Cursor.Passes.nil_iff.mpr rfl⟩
  extend := by
    intro cursor after found more run
    obtain ⟨rfl, rfl⟩ := (position_ok_iff _ _ _).mp run
    rfl

theorem reject_local (offset : Nat) (problem : Malformed.Problem) :
    (reject offset problem : Reader α).Local where
  passes := fun run => absurd run (reject_ne_ok _ _ _ _ _)
  extend := fun _ run => absurd run (reject_ne_ok _ _ _ _ _)

theorem bytes_ok_iff (count : Nat) (piece : Bytes) (cursor after : Cursor) :
    bytes count cursor = .ok piece after
      ↔ (cursor.position + count < UInt64.size ∧ count ≤ cursor.rest.length)
        ∧ piece = cursor.rest.take count
        ∧ after = ⟨cursor.position + count, cursor.rest.drop count⟩ := by
  have taken : (cursor.rest.take count).length = min count cursor.rest.length :=
    List.length_take
  simp only [bytes]
  split
  · simp only [reduceCtorEq, false_iff]
    omega
  · split
    · simp only [reduceCtorEq, false_iff]
      omega
    · have enough : count ≤ cursor.rest.length := by omega
      have counted : cursor.position + count < UInt64.size := by omega
      simp only [EStateM.Result.ok.injEq, enough, counted, and_self, true_and]
      exact and_congr eq_comm eq_comm

theorem position_of_bytes_ok {count : Nat} {piece : Bytes} {cursor after : Cursor}
    (run : bytes count cursor = .ok piece after) :
    after.position = cursor.position + piece.length := by
  obtain ⟨⟨-, enough⟩, rfl, rfl⟩ := (bytes_ok_iff _ _ _ _).mp run
  rw [List.length_take_of_le enough]

theorem offset_of_bytes_error {count : Nat} {cursor after : Cursor} {malformed : Malformed}
    (failed : bytes count cursor = .error malformed after) :
    malformed.offset = cursor.position := by
  simp only [bytes] at failed
  split at failed
  · cases failed
    rfl
  · split at failed
    · cases failed
      rfl
    · cases failed

theorem bytes_local (count : Nat) : (bytes count).Local where
  passes := by
    intro cursor after piece run
    obtain ⟨⟨-, enough⟩, -, rfl⟩ := (bytes_ok_iff _ _ _ _).mp run
    refine ⟨cursor.rest.take count, (List.take_append_drop count cursor.rest).symm, ?_⟩
    rw [List.length_take_of_le enough]
  extend := by
    intro cursor after piece more run
    obtain ⟨⟨counted, enough⟩, rfl, rfl⟩ := (bytes_ok_iff _ _ _ _).mp run
    refine (bytes_ok_iff _ _ _ _).mpr ⟨⟨counted, ?_⟩, ?_, ?_⟩
    · simp only [Cursor.extend, List.length_append]
      omega
    · exact (List.take_append_of_le_length enough).symm
    · simp only [Cursor.extend, List.drop_append_of_le_length enough]

theorem bytes_faultsInside (count : Nat) : (bytes count).FaultsInside := by
  intro cursor after malformed failed
  rw [offset_of_bytes_error failed]
  exact Nat.le_add_right _ _

theorem word_local : word.Local :=
  (bytes_local Layout.word).bind fun _ => .pure _

theorem word_faultsInside : word.FaultsInside :=
  FaultsInside.bind (bytes_local Layout.word) (bytes_faultsInside Layout.word)
    fun _ => FaultsInside.pure _

theorem position_of_word_ok {cursor after : Cursor} {value : UInt64}
    (run : word cursor = .ok value after) : after.position = cursor.position + Layout.word := by
  obtain ⟨piece, middle, taken, rest⟩ := (bind_ok_iff _ _ _ _ _).mp run
  obtain ⟨-, -, rfl⟩ := (bytes_ok_iff _ _ _ _).mp taken
  obtain ⟨-, rfl⟩ := (pure_ok_iff _ _ _ _).mp rest
  rfl

theorem count_local : count.Local :=
  word_local.bind fun _ => .pure _

theorem position_of_count_ok {cursor after : Cursor} {value : Nat}
    (run : count cursor = .ok value after) : after.position = cursor.position + Layout.word := by
  obtain ⟨found, middle, read, rest⟩ := (bind_ok_iff _ _ _ _ _).mp run
  obtain ⟨-, rfl⟩ := (pure_ok_iff _ _ _ _).mp rest
  exact position_of_word_ok read

theorem count_faultsInside : count.FaultsInside :=
  FaultsInside.bind word_local word_faultsInside fun _ => FaultsInside.pure _

theorem exists_name_of_text_ok {cursor after : Cursor} {value : String}
    (run : text cursor = .ok value after) :
    ∃ name, (0 : UInt8) ∉ name ∧ cursor.rest = name ++ 0 :: after.rest
      ∧ Utf8.decode name = .ok value ∧ after.position = cursor.position + name.length + 1 := by
  by_cases ended : (0 : UInt8) ∈ cursor.rest
  · obtain ⟨name, later, ahead, whole⟩ := List.eq_append_cons_of_mem ended
    rw [text_terminated whole ahead] at run
    cases decoded : Utf8.decode name with
    | error fault => simp [decoded] at run
    | ok found =>
      simp only [decoded, EStateM.Result.ok.injEq] at run
      obtain ⟨rfl, rfl⟩ := run
      exact ⟨name, whole, ahead, decoded, rfl⟩
  · rw [text_unterminated ended] at run
    cases run

theorem text_local : text.Local where
  passes := by
    intro cursor after value run
    obtain ⟨name, -, ahead, -, position⟩ := exists_name_of_text_ok run
    refine ⟨name ++ [0], ?_, ?_⟩
    · rw [ahead, List.append_assoc, List.singleton_append]
    · rw [position, List.length_append, List.length_singleton, Nat.add_assoc]
  extend := by
    intro cursor after value more run
    obtain ⟨name, whole, ahead, decoded, position⟩ := exists_name_of_text_ok run
    have longer : (cursor.extend more).rest = name ++ 0 :: (after.rest ++ more) := by
      rw [Cursor.extend, ahead, List.append_assoc, List.cons_append]
    rw [text_terminated whole longer, decoded, Cursor.extend, Cursor.extend, position]

theorem offset_of_text_error {cursor after : Cursor} {malformed : Malformed}
    (failed : text cursor = .error malformed after) : malformed.offset = cursor.position := by
  by_cases ended : (0 : UInt8) ∈ cursor.rest
  · obtain ⟨name, later, ahead, whole⟩ := List.eq_append_cons_of_mem ended
    rw [text_terminated whole ahead] at failed
    cases decoded : Utf8.decode name with
    | error fault =>
      rw [decoded] at failed
      cases failed
      rfl
    | ok found => simp [decoded] at failed
  · rw [text_unterminated ended] at failed
    cases failed
    rfl

theorem text_faultsInside : text.FaultsInside := by
  intro cursor after malformed failed
  rw [offset_of_text_error failed]
  exact Nat.le_add_right _ _

theorem many_local {item : Reader α} (own : item.Local) (count : Nat) (soFar : Array α) :
    (many item count soFar).Local := by
  induction count generalizing soFar with
  | zero => exact .pure soFar
  | succ count ih => exact own.bind fun next => ih (soFar.push next)

theorem many_faultsInside {item : Reader α} (own : item.Local) (inside : item.FaultsInside)
    (count : Nat) (soFar : Array α) : (many item count soFar).FaultsInside := by
  induction count generalizing soFar with
  | zero => exact FaultsInside.pure soFar
  | succ count ih => exact FaultsInside.bind own inside fun next => ih (soFar.push next)

end Reader

namespace Container

open Reader

/-! ## Parts of containers -/

theorem header_local : header.Local := by
  refine position_local.bind fun offset => word_local.bind fun start =>
    word_local.bind fun endExclusive => word_local.bind fun permissions => ?_
  split
  · exact reject_local _ _
  · dsimp only
    split
    · exact reject_local _ _
    · exact .pure _

theorem header_faultsInside : header.FaultsInside := by
  intro cursor after malformed run
  simp only [header, bind_error_iff, position_ok_iff] at run
  rcases run with failed | ⟨_, _, ⟨rfl, rfl⟩, run⟩
  · cases failed
  rcases run with failed | ⟨start, first, readStart, run⟩
  · exact word_faultsInside failed
  rcases run with failed | ⟨last, second, readLast, run⟩
  · rw [← word_local.length_eq readStart]
    exact word_faultsInside failed
  have toSecond := (word_local.length_eq readLast).trans (word_local.length_eq readStart)
  rcases run with failed | ⟨permissions, third, readPermissions, run⟩
  · rw [← toSecond]
    exact word_faultsInside failed
  -- three words were read, so that the place of the third one lies within the string
  have toThird := (word_local.length_eq readPermissions).trans toSecond
  have behind := (position_of_word_ok readPermissions).trans
    (congrArg (· + Layout.word) ((position_of_word_ok readLast).trans
      (congrArg (· + Layout.word) (position_of_word_ok readStart))))
  have inside : third.position ≤ third.length := Nat.le_add_right _ _
  split at run
  · cases run
    dsimp only
    omega
  · split at run
    · cases run
      dsimp only
      omega
    · cases run

theorem regionData_local (headers : List RegionHeader) (soFar : Array ContainerRegion) :
    (regionData headers soFar).Local := by
  induction headers generalizing soFar with
  | nil => exact .pure soFar
  | cons header rest ih => exact (bytes_local _).bind fun data => ih (soFar.push ⟨header, data⟩)

theorem regionData_faultsInside (headers : List RegionHeader) (soFar : Array ContainerRegion) :
    (regionData headers soFar).FaultsInside := by
  induction headers generalizing soFar with
  | nil => exact FaultsInside.pure soFar
  | cons header rest ih =>
    exact FaultsInside.bind (bytes_local _) (bytes_faultsInside _)
      fun data => ih (soFar.push ⟨header, data⟩)

/-- The count is compared with the bytes that remain, of which there are no fewer in a
longer string. -/
theorem regionCount_local : regionCount.Local where
  passes := by
    intro cursor after value run
    simp only [regionCount, bind_ok_iff, position_ok_iff, remaining_ok_iff] at run
    obtain ⟨_, _, ⟨rfl, rfl⟩, found, middle, counted, _, _, ⟨rfl, rfl⟩, checked⟩ := run
    split at checked
    · obtain ⟨-, rfl⟩ := (pure_ok_iff _ _ _ _).mp checked
      exact count_local.passes counted
    · exact absurd checked (reject_ne_ok _ _ _ _ _)
  extend := by
    intro cursor after value more run
    simp only [regionCount, bind_ok_iff, position_ok_iff, remaining_ok_iff] at run ⊢
    obtain ⟨_, _, ⟨rfl, rfl⟩, found, middle, counted, _, _, ⟨rfl, same⟩, checked⟩ := run
    subst same
    refine ⟨_, _, ⟨rfl, rfl⟩, found, _, count_local.extend more counted, _, _, ⟨rfl, rfl⟩, ?_⟩
    split at checked
    · rename_i enough
      obtain ⟨rfl, rfl⟩ := (pure_ok_iff _ _ _ _).mp checked
      have still : value * Layout.regionHeader ≤ (after.extend more).remaining := by
        simp only [Cursor.remaining, Cursor.extend, List.length_append] at enough ⊢
        omega
      rw [if_pos still]
      rfl
    · exact absurd checked (reject_ne_ok _ _ _ _ _)

theorem regionCount_faultsInside : regionCount.FaultsInside := by
  intro cursor after malformed run
  simp only [regionCount, bind_error_iff, position_ok_iff, remaining_ok_iff] at run
  rcases run with failed | ⟨_, _, ⟨rfl, rfl⟩, run⟩
  · cases failed
  rcases run with failed | ⟨count, middle, counted, run⟩
  · exact count_faultsInside failed
  rcases run with failed | ⟨_, _, ⟨rfl, rfl⟩, run⟩
  · cases failed
  split at run
  · cases run
  · cases run
    exact Nat.le_add_right _ _

theorem regionTable_local : regionTable.Local :=
  regionCount_local.bind fun _ => (many_local header_local _ _).bind fun _ =>
    (regionData_local _ _).bind fun _ => .pure _

theorem regionTable_faultsInside : regionTable.FaultsInside :=
  FaultsInside.bind regionCount_local regionCount_faultsInside fun _ =>
    FaultsInside.bind (many_local header_local _ _)
      (many_faultsInside header_local header_faultsInside _ _) fun _ =>
        FaultsInside.bind (regionData_local _ _) (regionData_faultsInside _ _) fun _ =>
          FaultsInside.pure _

theorem symbolEntry_local : symbolEntry.Local :=
  word_local.bind fun _ => text_local.bind fun _ => .pure _

theorem symbolEntry_faultsInside : symbolEntry.FaultsInside :=
  FaultsInside.bind word_local word_faultsInside fun _ =>
    FaultsInside.bind text_local text_faultsInside fun _ => FaultsInside.pure _

/-- Faults of a payload are told by their place in the whole string, in which the payload
stands behind the word with its size. -/
theorem offset_of_symbolPayload_error {payload : Bytes} {count sizeOffset : Nat}
    {malformed : Malformed}
    (failed : symbolPayload payload count sizeOffset = .error malformed) :
    malformed.offset ≤ sizeOffset + Layout.word + payload.length := by
  unfold symbolPayload at failed
  dsimp only at failed
  split at failed
  · rename_i inner after run
    obtain rfl := Except.error.inj failed
    have inside := many_faultsInside symbolEntry_local symbolEntry_faultsInside _ _ run
    rw [Cursor.length_start] at inside
    simp only [Malformed.shift]
    omega
  · split at failed
    · cases failed
    · obtain rfl := Except.error.inj failed
      dsimp only
      omega

theorem symbolTable_local : symbolTable.Local := by
  refine count_local.bind fun count => position_local.bind fun sizeOffset =>
    count_local.bind fun payloadSize => (bytes_local payloadSize).bind fun payload => ?_
  split
  · exact .pure _
  · rename_i malformed _
    exact reject_local malformed.offset malformed.problem

theorem symbolTable_faultsInside : symbolTable.FaultsInside := by
  intro cursor after malformed run
  simp only [symbolTable, bind_error_iff, position_ok_iff] at run
  rcases run with failed | ⟨count, first, counted, run⟩
  · exact count_faultsInside failed
  have toFirst := count_local.length_eq counted
  rcases run with failed | ⟨_, again, ⟨rfl, same⟩, run⟩
  · cases failed
  subst again
  rcases run with failed | ⟨payloadSize, second, sized, run⟩
  · rw [← toFirst]
    exact count_faultsInside failed
  have toSecond := (count_local.length_eq sized).trans toFirst
  rcases run with failed | ⟨payload, third, taken, run⟩
  · rw [← toSecond]
    exact bytes_faultsInside _ failed
  have toThird := ((bytes_local payloadSize).length_eq taken).trans toSecond
  have behind := position_of_bytes_ok taken
  rw [position_of_count_ok sized] at behind
  have inside : third.position ≤ third.length := Nat.le_add_right _ _
  cases read : symbolPayload payload count first.position with
  | ok symbols =>
    rw [read] at run
    cases run
  | error fault =>
    rw [read] at run
    cases run
    have told := offset_of_symbolPayload_error read
    omega

/-! ## Whole containers -/

theorem noneTrailing_of_ne_nil {cursor : Cursor} (more : cursor.rest ≠ []) :
    noneTrailing cursor = .error ⟨cursor.position, .trailingBytes cursor.rest.length⟩ cursor := by
  have some : ¬ cursor.rest.length = 0 := fun none => more (List.eq_nil_of_length_eq_zero none)
  refine (bind_error_iff _ _ _ _ _).mpr (.inr ⟨_, cursor, rfl, ?_⟩)
  refine (bind_error_iff _ _ _ _ _).mpr (.inr ⟨_, cursor, rfl, ?_⟩)
  rw [Cursor.remaining, if_neg some]
  rfl

theorem whole_faultsInside (totalSize : Nat) : (whole totalSize).FaultsInside := by
  intro cursor after malformed run
  simp only [whole, bind_error_iff] at run
  rcases run with failed | ⟨regions, first, readRegions, run⟩
  · exact regionTable_faultsInside failed
  have toFirst := regionTable_local.length_eq readRegions
  rcases run with failed | ⟨symbols, second, readSymbols, run⟩
  · rw [← toFirst]
    exact symbolTable_faultsInside failed
  have toSecond := (symbolTable_local.length_eq readSymbols).trans toFirst
  rcases run with failed | ⟨_, third, -, run⟩
  · by_cases nothing : second.rest = []
    · rw [(noneTrailing_ok_iff () second second).mpr ⟨nothing, rfl⟩] at failed
      cases failed
    · rw [noneTrailing_of_ne_nil nothing] at failed
      cases failed
      rw [← toSecond]
      exact Nat.le_add_right _ _
  · cases run

theorem offset_of_parse_error {bytes : Bytes} {malformed : Malformed}
    (failed : parse bytes = .error malformed) : malformed.offset ≤ bytes.length := by
  unfold parse at failed
  split at failed
  · cases failed
  · rename_i fault after run
    obtain rfl := Except.error.inj failed
    rw [← Cursor.length_start bytes]
    exact whole_faultsInside _ run

theorem exists_run_of_parse_ok {bytes : Bytes} {container : Container}
    (read : parse bytes = .ok container) :
    ∃ regions middle table, regionTable (Cursor.start bytes) = .ok regions middle
      ∧ symbolTable middle = .ok table ⟨bytes.length, []⟩ := by
  unfold parse at read
  split at read
  · rename_i found after run
    simp only [whole, bind_ok_iff, noneTrailing_ok_iff] at run
    obtain ⟨regions, middle, readRegions, table, last, readSymbols, -, _, ⟨atEnd, -⟩, -⟩ := run
    have length := (symbolTable_local.length_eq readSymbols).trans
      (regionTable_local.length_eq readRegions)
    obtain ⟨position, rest⟩ := last
    dsimp only at atEnd
    subst atEnd
    rw [Cursor.length_start, Cursor.length] at length
    obtain rfl : position = bytes.length := length
    exact ⟨regions, middle, table, readRegions, readSymbols⟩
  · cases read

theorem parse_append {bytes behind : Bytes} {container : Container}
    (read : parse bytes = .ok container) (more : behind ≠ []) :
    parse (bytes ++ behind) = .error ⟨bytes.length, .trailingBytes behind.length⟩ := by
  obtain ⟨regions, middle, table, readRegions, readSymbols⟩ := exists_run_of_parse_ok read
  -- both tables are read as before, and what was put behind is what remains
  have regionsAgain := regionTable_local.extend behind readRegions
  have symbolsAgain := symbolTable_local.extend behind readSymbols
  have refused : noneTrailing ⟨bytes.length, behind⟩
      = .error ⟨bytes.length, .trailingBytes behind.length⟩ ⟨bytes.length, behind⟩ :=
    noneTrailing_of_ne_nil more
  have run : whole (bytes ++ behind).length (Cursor.start (bytes ++ behind))
      = .error ⟨bytes.length, .trailingBytes behind.length⟩ ⟨bytes.length, behind⟩ := by
    simp only [whole, bind_error_iff]
    exact .inr ⟨regions, _, regionsAgain, .inr ⟨table, _, symbolsAgain, .inl refused⟩⟩
  rw [parse, run]

/-- No accepted container begins another one or is made longer by bytes behind it.  Each of
its beginnings is refused at a place that lies in it, and with bytes behind it is refused
where these begin. -/
theorem parse_prefix_free (bytes : Bytes) (container : Container)
    (read : parse bytes = .ok container) :
    (∀ front, front <+: bytes → front ≠ bytes →
        ∃ malformed, parse front = .error malformed ∧ malformed.offset ≤ front.length)
      ∧ ∀ behind, behind ≠ [] →
          parse (bytes ++ behind) = .error ⟨bytes.length, .trailingBytes behind.length⟩ := by
  refine ⟨?_, fun behind more => parse_append read more⟩
  rintro front ⟨behind, rfl⟩ shorter
  have more : behind ≠ [] := by
    rintro rfl
    exact shorter (List.append_nil front).symm
  cases result : parse front with
  | error malformed => exact ⟨malformed, rfl, offset_of_parse_error result⟩
  | ok found =>
    rw [parse_append result more] at read
    cases read

def shortSample : Container where
  regions := [⟨⟨0x1000, 0x1001, 4⟩, [7]⟩]
  symbols := [⟨0x1000, "a"⟩]
  symbolPayloadSize := 10
  totalSize := 59

theorem parse_prefix_free_shortSample :
    parse shortSample.encode = .ok shortSample
      ∧ (∃ malformed, parse (shortSample.encode.take 40) = .error malformed
          ∧ malformed.offset ≤ 40)
      ∧ parse (shortSample.encode ++ [0]) = .error ⟨59, .trailingBytes 1⟩ := by
  have read : parse shortSample.encode = .ok shortSample := by cbv
  obtain ⟨begun, continued⟩ := parse_prefix_free shortSample.encode shortSample read
  have length : shortSample.encode.length = 59 := by decide +kernel
  have cut : (shortSample.encode.take 40).length = 40 := by decide +kernel
  refine ⟨read, ?_, ?_⟩
  · obtain ⟨malformed, refused, inside⟩ := begun _ (List.take_prefix 40 _) (by decide +kernel)
    exact ⟨malformed, refused, cut ▸ inside⟩
  · rw [continued [0] (by decide), length]
    rfl

end Container
end SegmentContainer
