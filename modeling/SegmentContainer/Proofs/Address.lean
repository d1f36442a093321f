import SegmentContainer.Address
import SegmentContainer.Proofs.Text.Numeral

/-!
# The language of addresses

Which texts are addresses and which number each of them is.  White space at the ends of a
text is no part of it, and underscores in the rest do not matter; what is left are decimal
digits, or hexadecimal digits behind `0x`.  A number has many such texts, and all of them are
read as that number.
-/

set_option autoImplicit false

namespace SegmentContainer

structure Text.Trims (text body : List Char) : Prop where
  ends : ∃ before after, text = before ++ body ++ after
    ∧ ∀ c ∈ before ++ after, isBlank c = true
  first : ∀ c ∈ body.head?, isBlank c = false
  last : ∀ c ∈ body.getLast?, isBlank c = false

namespace Address

/-- Hexadecimal digits behind `0x` or `0X`, or decimal digits.  One plus sign may stand in
front of the digits. -/
inductive Digits : List Char → Nat → Prop
  | hexadecimal {mark : Char} {digits : List Char} {n : Nat} (marked : mark = 'x' ∨ mark = 'X')
      (writes : Numeral.WritesSigned 16 digits n) : Digits ('0' :: mark :: digits) n
  | decimal {digits : List Char} {n : Nat} (writes : Numeral.WritesSigned 10 digits n) :
      Digits digits n

/-- The text without white space at its ends, and then without underscores, has the digits of
the number. -/
def Denotes (text : String) (n : Nat) : Prop :=
  ∃ body, Text.Trims text.toList body ∧ Digits (body.filter (· ≠ '_')) n

/-- A spelling of the number: white space, the usual digits of the number with underscores
among them, and white space.  Zeros may stand in front of the digits, letters may be capital,
and hexadecimal digits follow `0x` or `0X`. -/
def Spelling (n : Nat) (text : String) : Prop :=
  ∃ before body after, text.toList = before ++ body ++ after
    ∧ (∀ c ∈ before ++ after, Text.isBlank c = true)
    ∧ (Numeral.Shows 10 n (body.filter (· ≠ '_'))
      ∨ ∃ mark digits, (mark = 'x' ∨ mark = 'X')
        ∧ body.filter (· ≠ '_') = '0' :: mark :: digits ∧ Numeral.Shows 16 n digits)

end Address

/-! ## Trimming -/

namespace Text

variable {text body : List Char}

theorem dropWhile_append_of_stop {test : Char → Bool} {front back : List Char}
    (passed : ∀ c ∈ front, test c = true) (stop : ∀ c ∈ back.head?, test c = false) :
    (front ++ back).dropWhile test = back := by
  rw [List.dropWhile_append_of_pos passed]
  cases back with
  | nil => rfl
  | cons c rest => rw [List.dropWhile_cons_of_neg (by simpa using stop c rfl)]

theorem trim_of_trims (trims : Trims text body) : trim text = body := by
  obtain ⟨⟨before, after, rfl, blank⟩, first, last⟩ := trims
  obtain ⟨front, back⟩ := List.forall_mem_append.mp blank
  rw [trim, List.append_assoc]
  by_cases empty : body = []
  · -- there is nothing between the two ends, so that the first pass removes both
    subst empty
    rw [List.nil_append, List.dropWhile_eq_nil_iff.mpr blank]
    rfl
  · have stop : ∀ c ∈ (body ++ after).head?, isBlank c = false := by
      rwa [List.head?_append_of_ne_nil body empty]
    have stopAgain : ∀ c ∈ body.reverse.head?, isBlank c = false := by
      rwa [List.head?_reverse]
    have backward : ∀ c ∈ after.reverse, isBlank c = true := by
      simpa only [List.mem_reverse] using back
    rw [dropWhile_append_of_stop front stop, List.reverse_append,
      dropWhile_append_of_stop backward stopAgain, List.reverse_reverse]

theorem trims_trim (text : List Char) : Trims text (trim text) := by
  -- the two passes, and what each of them takes away
  have whole := List.takeWhile_append_dropWhile (p := isBlank) (l := text)
  have rest : trim text ++ (text.dropWhile isBlank).rtakeWhile isBlank = text.dropWhile isBlank :=
    List.rdropWhile_append_rtakeWhile
  constructor
  case ends =>
    refine ⟨text.takeWhile isBlank, (text.dropWhile isBlank).rtakeWhile isBlank, ?_, ?_⟩
    · rw [List.append_assoc, rest, whole]
    · intro c member
      rcases List.mem_append.mp member with front | back
      · exact List.mem_takeWhile_imp front
      · exact List.mem_rtakeWhile_imp back
  case first =>
    intro c head
    have inside : trim text ≠ [] := by
      intro empty
      simp [empty] at head
    have start := List.head?_dropWhile_not isBlank text
    rw [← rest, List.head?_append_of_ne_nil _ inside, Option.mem_def.mp head] at start
    exact start
  case last =>
    intro c final
    have start := List.head?_dropWhile_not isBlank (text.dropWhile isBlank).reverse
    rw [trim, List.getLast?_reverse] at final
    rw [Option.mem_def.mp final] at start
    exact start

theorem trims_iff : Trims text body ↔ trim text = body := by
  constructor
  · exact trim_of_trims
  · rintro rfl
    exact trims_trim text

theorem isBlank_of_graphic {c : Char} (graphic : 0x21 ≤ c.toNat ∧ c.toNat ≤ 0x7E) :
    isBlank c = false := by
  rw [isBlank, List.any_eq_false]
  intro range member
  simp only [blankRanges, List.mem_cons, List.not_mem_nil, or_false] at member
  rw [Bool.and_eq_true, decide_eq_true_eq, decide_eq_true_eq]
  rcases member with rfl | rfl | rfl | rfl | rfl | rfl | rfl | rfl | rfl | rfl <;> omega

end Text

namespace Address

/-! ## Which texts are read -/

section

variable {text : List Char} {word : UInt64}

theorem not_writes_mark {mark : Char} {digits : List Char} {n : Nat}
    (marked : mark = 'x' ∨ mark = 'X') : ¬ Numeral.WritesSigned 10 ('0' :: mark :: digits) n := by
  rintro ⟨_, rfl | signed, -, _, each, -⟩
  · cases each with
    | cons _ later =>
      cases later with
      | cons isDigit _ =>
        have bounds := (Numeral.isDigit_iff (by decide)).mp isDigit
        rcases marked with rfl | rfl
        · have code : 'x'.toNat = 120 := rfl
          omega
        · have code : 'X'.toNat = 88 := rfl
          omega
  · exact absurd (List.cons.inj signed).1 (by decide)

theorem digits_mark_iff {mark : Char} {digits : List Char} {n : Nat}
    (marked : mark = 'x' ∨ mark = 'X') :
    Digits ('0' :: mark :: digits) n ↔ Numeral.WritesSigned 16 digits n := by
  constructor
  · rintro (⟨-, writes⟩ | writes)
    · exact writes
    · exact absurd writes (not_writes_mark marked)
  · exact Digits.hexadecimal marked

theorem readDigits_eq_ok_iff : readDigits text = .ok word ↔ Digits text word.toNat := by
  fun_cases readDigits text with
  | case1 digits => rw [Numeral.read_eq_ok_iff (by decide), digits_mark_iff (.inl rfl)]
  | case2 digits => rw [Numeral.read_eq_ok_iff (by decide), digits_mark_iff (.inr rfl)]
  | case3 digits unmarked uncapital =>
    rw [Numeral.read_eq_ok_iff (by decide)]
    constructor
    · exact Digits.decimal
    · rintro (⟨rfl | rfl, -⟩ | writes)
      · exact (unmarked _ rfl).elim
      · exact (uncapital _ rfl).elim
      · exact writes

end

section

variable {text : String} {word : UInt64}

theorem ofText_eq_ok_iff : ofText text = .ok word ↔ Denotes text word.toNat := by
  have read : ofText text = .ok word ↔ readDigits (cleaned text) = .ok word := by
    rw [ofText]
    cases readDigits (cleaned text) <;> simp
  rw [read, readDigits_eq_ok_iff, Denotes, cleaned]
  simp only [Text.trims_iff, exists_eq_left']

theorem exists_cause_of_not_denotes (other : ∀ n < 2 ^ 64, ¬ Denotes text n) :
    ∃ cause, ofText text = .error ⟨text, cause⟩ := by
  cases read : readDigits (cleaned text) with
  | ok word =>
    have success : ofText text = .ok word := by rw [ofText, read]
    exact absurd (ofText_eq_ok_iff.mp success) (other _ word.toNat_lt)
  | error cause => exact ⟨cause, by rw [ofText, read]⟩

end

/-! ## Spellings of a number -/

section

variable {n : Nat}

theorem Digits.graphic {letters : List Char} (digits : Digits letters n) :
    ∀ c ∈ letters, 0x21 ≤ c.toNat ∧ c.toNat ≤ 0x7E := by
  cases digits with
  | @hexadecimal mark _ _ marked writes =>
    have visible : 0x21 ≤ mark.toNat ∧ mark.toNat ≤ 0x7E := by
      rcases marked with rfl | rfl <;> decide
    exact List.forall_mem_cons.mpr ⟨by decide,
      List.forall_mem_cons.mpr ⟨visible, writes.graphic (by decide)⟩⟩
  | decimal writes => exact writes.graphic (by decide)

theorem writesSigned_of_shows {radix : Nat} {letters : List Char} (wide : 1 < radix)
    (shows : Numeral.Shows radix n letters) : Numeral.WritesSigned radix letters n :=
  ⟨letters, .inl rfl, shows.writes wide⟩

theorem Spelling.denotes {text : String} (spelling : Spelling n text) : Denotes text n := by
  obtain ⟨before, body, after, whole, blank, shape⟩ := spelling
  have digits : Digits (body.filter (· ≠ '_')) n := by
    rcases shape with decimal | ⟨mark, hex, marked, same, shows⟩
    · exact .decimal (writesSigned_of_shows (by decide) decimal)
    · rw [same]
      exact .hexadecimal marked (writesSigned_of_shows (by decide) shows)
  have visible : ∀ c ∈ body, Text.isBlank c = false := by
    intro c member
    by_cases underscore : c = '_'
    · subst underscore
      decide
    · exact Text.isBlank_of_graphic (digits.graphic c (by simp [member, underscore]))
  refine ⟨body, ⟨⟨before, after, whole, blank⟩, fun c head => ?_, fun c final => ?_⟩, digits⟩
  · exact visible c (List.mem_of_mem_head? head)
  · exact visible c (List.mem_of_mem_getLast? final)

end

end Address

end SegmentContainer
