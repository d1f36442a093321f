import Mathlib
import SegmentContainer.Text.Numeral

/-!
# What numerals say

A numeral is read from the left and refused where its value leaves 64 bits.  Here it is told
as a whole: which characters are digits, and what number they write by their places.  Zeros
in front add nothing, however many there are, and the usual digits of a number, in small or
capital letters, write it.
-/

set_option autoImplicit false

namespace SegmentContainer.Numeral

/-- The character stands for a digit of the radix; letters count in either case. -/
def IsDigit (radix : Nat) (c : Char) (digit : Nat) : Prop :=
  digit < radix ∧ (c = digit.digitChar ∨ c = digit.digitChar.toUpper)

/-- The text consists of digits, of which there is at least one, and they have the value
`n`. -/
def Writes (radix : Nat) (text : List Char) (n : Nat) : Prop :=
  text ≠ [] ∧ ∃ digits, List.Forall₂ (IsDigit radix) text digits
    ∧ Nat.ofDigits radix digits.reverse = n

def WritesSigned (radix : Nat) (text : List Char) (n : Nat) : Prop :=
  ∃ digits, (text = digits ∨ text = '+' :: digits) ∧ Writes radix digits n

/-- The usual digits of the number, letters in either case, behind any number of zeros. -/
def Shows (radix n : Nat) (text : List Char) : Prop :=
  ∃ zeros digits, text = List.replicate zeros '0' ++ digits
    ∧ List.Forall₂ (fun c digit => c = digit ∨ c = digit.toUpper) digits (Nat.toDigits radix n)

/-! ## Digits -/

section

variable {radix digit : Nat} {c : Char}

theorem isDigit_iff (small : radix ≤ 16) :
    IsDigit radix c digit ↔ digit < radix
      ∧ (digit < 10 ∧ c.toNat = 48 + digit
        ∨ 10 ≤ digit ∧ (c.toNat = 87 + digit ∨ c.toNat = 55 + digit)) := by
  have lower : ∀ digit < 16,
      digit.digitChar.toNat = if digit < 10 then 48 + digit else 87 + digit := by decide
  have upper : ∀ digit < 16,
      digit.digitChar.toUpper.toNat = if digit < 10 then 48 + digit else 55 + digit := by decide
  refine and_congr_right fun below => ?_
  rw [← Char.toNat_inj, ← Char.toNat_inj, lower digit (by omega), upper digit (by omega)]
  split <;> omega

theorem le_iff_toNat_le {a b : Char} : a ≤ b ↔ a.toNat ≤ b.toNat := by
  rw [Char.le_def, UInt32.le_iff_toNat_le]
  exact Iff.rfl

theorem digit?_eq_some_iff (small : radix ≤ 16) :
    digit? radix c = some digit ↔ IsDigit radix c digit := by
  rw [isDigit_iff small, digit?, Option.filter_eq_some_iff, decide_eq_true_eq, and_comm]
  refine and_congr_right fun below => ?_
  simp only [le_iff_toNat_le]
  have zero : '0'.toNat = 48 := rfl
  have nine : '9'.toNat = 57 := rfl
  have a : 'a'.toNat = 97 := rfl
  have f : 'f'.toNat = 102 := rfl
  have A : 'A'.toNat = 65 := rfl
  have F : 'F'.toNat = 70 := rfl
  split_ifs <;> simp <;> omega

theorem IsDigit.graphic (isDigit : IsDigit radix c digit) (small : radix ≤ 16) :
    0x30 ≤ c.toNat ∧ c.toNat ≤ 0x66 := by
  have cases := (isDigit_iff small).mp isDigit
  omega

theorem IsDigit.ne_plus (isDigit : IsDigit radix c digit) (small : radix ≤ 16) : c ≠ '+' := by
  rintro rfl
  exact absurd (isDigit.graphic small).1 (by decide)

theorem IsDigit.unique {other : Nat} (isDigit : IsDigit radix c digit)
    (again : IsDigit radix c other) (small : radix ≤ 16) : digit = other := by
  rw [← digit?_eq_some_iff small] at isDigit again
  exact Option.some.inj (isDigit.symm.trans again)

end

/-! ## Values -/

section

variable {radix soFar n : Nat} {text : List Char}

theorem shift_digit (soFar digit : Nat) (digits : List Nat) :
    soFar * radix ^ (digit :: digits).length + Nat.ofDigits radix (digit :: digits).reverse
      = (soFar * radix + digit) * radix ^ digits.length
        + Nat.ofDigits radix digits.reverse := by
  rw [Nat.ofDigits_reverse_cons, List.length_cons]
  ring

theorem exists_digits_cons_iff {c : Char} {digit : Nat} {value : List Nat → Prop}
    (isDigit : IsDigit radix c digit) (small : radix ≤ 16) :
    (∃ digits, List.Forall₂ (IsDigit radix) (c :: text) digits ∧ value digits)
      ↔ ∃ digits, List.Forall₂ (IsDigit radix) text digits ∧ value (digit :: digits) := by
  constructor
  · rintro ⟨_, each, holds⟩
    cases each with
    | @cons _ first _ digits again later =>
      obtain rfl := again.unique isDigit small
      exact ⟨digits, later, holds⟩
  · rintro ⟨digits, later, holds⟩
    exact ⟨digit :: digits, .cons isDigit later, holds⟩

/-- The loop ends with the value of all digits, if that is a 64-bit number. -/
theorem continueFrom_eq_ok_iff (small : radix ≤ 16) (inside : soFar < UInt64.size) :
    continueFrom radix soFar text = .ok n
      ↔ n < UInt64.size ∧ ∃ digits, List.Forall₂ (IsDigit radix) text digits
        ∧ soFar * radix ^ digits.length + Nat.ofDigits radix digits.reverse = n := by
  -- the value before the loop varies, as each digit moves it up by one place
  induction text generalizing soFar with
  | nil =>
    simp only [continueFrom, Except.ok.injEq, List.forall₂_nil_left_iff]
    constructor
    · rintro rfl
      exact ⟨inside, [], rfl, by simp⟩
    · rintro ⟨-, _, rfl, rfl⟩
      simp
  | cons c rest ih =>
    cases read : digit? radix c with
    | none =>
      simp only [continueFrom, read, reduceCtorEq, false_iff]
      rintro ⟨-, _, each, -⟩
      cases each with
      | cons isDigit _ =>
        rw [(digit?_eq_some_iff small).mpr isDigit] at read
        cases read
    | some digit =>
      have isDigit := (digit?_eq_some_iff small).mp read
      simp only [continueFrom, read, exists_digits_cons_iff isDigit small, shift_digit]
      split
      · rename_i fits
        exact ih fits
      · -- what follows cannot bring the value back below 2^64
        rename_i wide
        simp only [reduceCtorEq, false_iff]
        rintro ⟨bound, digits, -, rfl⟩
        have places : 0 < radix ^ digits.length := Nat.pow_pos (Nat.zero_lt_of_lt isDigit.1)
        have grows := Nat.le_mul_of_pos_right (soFar * radix + digit) places
        omega

theorem continueFrom_zero_iff (small : radix ≤ 16) (inhabited : text ≠ []) {word : UInt64} :
    (continueFrom radix 0 text).map UInt64.ofNat = .ok word ↔ Writes radix text word.toNat := by
  have run : ∀ n, continueFrom radix 0 text = .ok n
      ↔ n < UInt64.size ∧ Writes radix text n := by
    intro n
    rw [continueFrom_eq_ok_iff small (by decide), Writes, and_iff_right inhabited]
    simp only [Nat.zero_mul, Nat.zero_add]
  have bound : word.toNat < UInt64.size := word.toNat_lt
  have whole : Writes radix text word.toNat ↔ continueFrom radix 0 text = .ok word.toNat := by
    rw [run, and_iff_right bound]
  rw [whole]
  cases value : continueFrom radix 0 text with
  | error fault => simp [Except.map]
  | ok n =>
    have below := ((run n).mp value).1
    have exactly : (UInt64.ofNat n).toNat = n := UInt64.toNat_ofNat_of_lt' below
    rw [Except.map, Except.ok.injEq, Except.ok.injEq, ← UInt64.toNat_inj, exactly]

theorem WritesSigned.graphic (writes : WritesSigned radix text n) (small : radix ≤ 16) :
    ∀ c ∈ text, 0x21 ≤ c.toNat ∧ c.toNat ≤ 0x7E := by
  obtain ⟨letters, shape, -, digits, each, -⟩ := writes
  have all : ∀ c ∈ letters, 0x21 ≤ c.toNat ∧ c.toNat ≤ 0x7E := by
    clear shape
    induction each with
    | nil => exact fun c member => absurd member List.not_mem_nil
    | cons isDigit _ ih =>
      have bounds := isDigit.graphic small
      exact List.forall_mem_cons.mpr ⟨⟨by omega, by omega⟩, ih⟩
  rcases shape with rfl | rfl
  · exact all
  · exact List.forall_mem_cons.mpr ⟨by decide, all⟩

theorem not_writes_plus (small : radix ≤ 16) : ¬ Writes radix ('+' :: text) n := by
  rintro ⟨-, _, each, -⟩
  cases each with
  | cons isDigit _ => exact isDigit.ne_plus small rfl

theorem writesSigned_plus_iff (small : radix ≤ 16) :
    WritesSigned radix ('+' :: text) n ↔ Writes radix text n := by
  constructor
  · rintro ⟨digits, rfl | same, writes⟩
    · exact absurd writes (not_writes_plus small)
    · obtain rfl := (List.cons.inj same).2
      exact writes
  · intro writes
    exact ⟨text, .inr rfl, writes⟩

theorem writesSigned_iff_of_unsigned (unsigned : ∀ rest, text ≠ '+' :: rest) :
    WritesSigned radix text n ↔ Writes radix text n := by
  constructor
  · rintro ⟨digits, rfl | signed, writes⟩
    · exact writes
    · exact absurd signed (unsigned digits)
  · intro writes
    exact ⟨text, .inl rfl, writes⟩

theorem read_eq_ok_iff (small : radix ≤ 16) {word : UInt64} :
    read radix text = .ok word ↔ WritesSigned radix text word.toNat := by
  fun_cases read radix text with
  | case1 =>
    rw [writesSigned_iff_of_unsigned (by simp)]
    simp [Writes]
  | case2 =>
    rw [writesSigned_plus_iff small]
    simp [Writes]
  | case3 c rest => rw [writesSigned_plus_iff small, continueFrom_zero_iff small (by simp)]
  | case4 text nonempty alone followed =>
    rw [writesSigned_iff_of_unsigned, continueFrom_zero_iff small nonempty]
    rintro (_ | ⟨c, rest⟩) rfl
    · exact alone rfl
    · exact followed c rest rfl

end

/-! ## Usual digits -/

section

variable {radix n : Nat} {text : List Char}

theorem Writes.zero_cons (writes : Writes radix text n) (positive : 0 < radix) :
    Writes radix ('0' :: text) n := by
  obtain ⟨-, digits, each, value⟩ := writes
  refine ⟨List.cons_ne_nil _ _, 0 :: digits, .cons ⟨positive, .inl rfl⟩ each, ?_⟩
  rw [Nat.ofDigits_reverse_cons, value, Nat.mul_zero, Nat.add_zero]

theorem Writes.replicate_zero (writes : Writes radix text n) (positive : 0 < radix)
    (zeros : Nat) : Writes radix (List.replicate zeros '0' ++ text) n := by
  induction zeros with
  | zero => exact writes
  | succ zeros ih =>
    rw [List.replicate_succ, List.cons_append]
    exact ih.zero_cons positive

theorem exists_digits_of_toDigits (wide : 1 < radix) (n : Nat) :
    ∃ digits : List Nat, (∀ digit ∈ digits, digit < radix)
      ∧ Nat.toDigits radix n = digits.map Nat.digitChar
      ∧ Nat.ofDigits radix digits.reverse = n := by
  induction n using Nat.strong_induction_on with
  | _ n ih =>
    by_cases below : n < radix
    · exact ⟨[n], by simp [below], by simp [Nat.toDigits_of_lt_base below], by simp⟩
    · have enough := Nat.le_of_not_lt below
      have less : n / radix < n := Nat.div_lt_self (by omega) wide
      obtain ⟨digits, valid, same, value⟩ := ih (n / radix) less
      refine ⟨digits ++ [n % radix], ?_, ?_, ?_⟩
      · intro digit member
        rcases List.mem_append.mp member with earlier | last
        · exact valid digit earlier
        · rw [List.mem_singleton.mp last]
          exact Nat.mod_lt n (by omega)
      · rw [Nat.toDigits_of_base_le wide enough, same, List.map_append, List.map_singleton]
      · rw [List.reverse_append, List.reverse_singleton, List.singleton_append,
          Nat.ofDigits_cons, value]
        exact Nat.mod_add_div n radix

theorem Shows.writes (shows : Shows radix n text) (wide : 1 < radix) : Writes radix text n := by
  obtain ⟨zeros, letters, rfl, each⟩ := shows
  obtain ⟨digits, valid, same, value⟩ := exists_digits_of_toDigits wide n
  have inhabited : letters ≠ [] := by
    rintro rfl
    exact Nat.toDigits_ne_nil (List.forall₂_nil_left_iff.mp each)
  rw [same, List.forall₂_map_right_iff] at each
  have digitwise := ((List.forall₂_and_left _ _).mpr ⟨valid, each.flip⟩).flip
  have plain : Writes radix letters n := ⟨inhabited, digits, digitwise, value⟩
  exact plain.replicate_zero (Nat.zero_lt_of_lt wide) zeros

end

end SegmentContainer.Numeral
