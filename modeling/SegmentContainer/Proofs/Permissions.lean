import Mathlib
import SegmentContainer.Permissions

/-!
# The language of permissions

Which texts name permissions, which permissions they name, and what is found fault with in
all other texts.  The letters of a text say everything: their order and case do not matter,
and neither do the dashes.  A text that is refused is refused at its first character that is
neither a dash nor a letter of a flag, or whose flag stands in the text before it.
-/

set_option autoImplicit false

namespace SegmentContainer.Permissions

def Flag.letters : Flag → List Char
  | .read => ['r', 'R']
  | .write => ['w', 'W']
  | .execute => ['x', 'X']

def Known (c : Char) : Prop :=
  c = '-' ∨ ∃ flag : Flag, c ∈ flag.letters

def Names (text : List Char) (flag : Flag) : Prop :=
  ∃ c ∈ text, c ∈ flag.letters

/-- Nothing but dashes and letters of flags, and no two letters of one flag. -/
structure Spelled (text : List Char) : Prop where
  known : ∀ c ∈ text, Known c
  once : ∀ flag : Flag, text.countP (· ∈ flag.letters) ≤ 1

/-- The fault of the first character that is unknown, or that names a flag once more.  The
text before it has no fault. -/
inductive FirstFault (text : String) : Fault → Prop
  | unexpected {before after : List Char} {c : Char} (split : text.toList = before ++ c :: after)
      (spelled : Spelled before) (unknown : ¬ Known c) : FirstFault text (.unexpected c text)
  | repeated {before after : List Char} {c : Char} {flag : Flag}
      (split : text.toList = before ++ c :: after) (spelled : Spelled before)
      (letter : c ∈ flag.letters) (seen : Names before flag) : FirstFault text (.repeated c text)

/-! ## Letters -/

theorem toNat_toLower (c : Char) :
    c.toLower.toNat = if 65 ≤ c.toNat ∧ c.toNat ≤ 90 then c.toNat + 32 else c.toNat := by
  have capital : (c.val ≥ 'A'.val ∧ c.val ≤ 'Z'.val) ↔ 65 ≤ c.toNat ∧ c.toNat ≤ 90 := by
    simp only [ge_iff_le, UInt32.le_iff_toNat_le]
    exact Iff.rfl
  rw [Char.toLower]
  split
  · rename_i inside
    have bounds := capital.mp inside
    have distance : ('a'.val - 'A'.val).toNat = 32 := rfl
    rw [if_pos bounds]
    change (c.val + ('a'.val - 'A'.val)).toNat = c.toNat + 32
    rw [UInt32.toNat_add, distance]
    change (c.toNat + 32) % 2 ^ 32 = c.toNat + 32
    omega
  · rename_i outside
    exact (if_neg fun bounds => outside (capital.mpr bounds)).symm

theorem toLower_eq_iff {c capital small : Char} (pair : capital.toNat + 32 = small.toNat)
    (letter : 97 ≤ small.toNat ∧ small.toNat ≤ 122) :
    c.toLower = small ↔ c ∈ [small, capital] := by
  rw [List.mem_cons, List.mem_singleton, ← Char.toNat_inj, ← Char.toNat_inj, ← Char.toNat_inj,
    toNat_toLower]
  split <;> omega

theorem Flag.ofChar?_eq_some_iff {c : Char} {flag : Flag} :
    ofChar? c = some flag ↔ c ∈ flag.letters := by
  have reads : c.toLower = 'r' ↔ c ∈ ['r', 'R'] := toLower_eq_iff (by decide) (by decide)
  have writes : c.toLower = 'w' ↔ c ∈ ['w', 'W'] := toLower_eq_iff (by decide) (by decide)
  have executes : c.toLower = 'x' ↔ c ∈ ['x', 'X'] := toLower_eq_iff (by decide) (by decide)
  rw [ofChar?]
  cases flag with
  | read => rw [letters, ← reads]; grind
  | write => rw [letters, ← writes]; grind
  | execute => rw [letters, ← executes]; grind

theorem Flag.mem_letters_iff {c : Char} {flag other : Flag} (letter : c ∈ flag.letters) :
    c ∈ other.letters ↔ other = flag := by
  rw [← ofChar?_eq_some_iff, ofChar?_eq_some_iff.mpr letter, Option.some.injEq, eq_comm]

theorem Flag.dash_not_mem (flag : Flag) : '-' ∉ flag.letters := by
  cases flag <;> decide

theorem Flag.ofChar?_eq_none_iff {c : Char} (notDash : c ≠ '-') :
    ofChar? c = Option.none ↔ ¬ Known c := by
  simp [Known, notDash, Option.eq_none_iff_forall_ne_some, ofChar?_eq_some_iff]

/-! ## Flags that are set -/

section

variable {permissions other : Permissions} {flag another : Flag}

theorem ext_has (same : ∀ flag, permissions.has flag = true ↔ other.has flag = true) :
    permissions = other := by
  obtain ⟨read, write, execute⟩ := permissions
  obtain ⟨read', write', execute'⟩ := other
  have reads : read = read' := Bool.eq_iff_iff.mpr (same .read)
  have writes : write = write' := Bool.eq_iff_iff.mpr (same .write)
  have executes : execute = execute' := Bool.eq_iff_iff.mpr (same .execute)
  rw [reads, writes, executes]

theorem has_grant_iff :
    (permissions.grant flag).has another = true
      ↔ another = flag ∨ permissions.has another = true := by
  cases flag <;> cases another <;> simp [grant, has]

theorem has_none (flag : Flag) : none.has flag = false := by
  cases flag <;> rfl

end

/-! ## Texts, character by character -/

section

variable {c : Char} {rest : List Char} {flag another : Flag}

theorem not_names_nil (flag : Flag) : ¬ Names [] flag := by
  simp [Names]

theorem names_cons_iff :
    Names (c :: rest) flag ↔ c ∈ flag.letters ∨ Names rest flag := by
  simp [Names]

theorem spelled_nil : Spelled [] := by
  constructor <;> simp

theorem spelled_dash_iff : Spelled ('-' :: rest) ↔ Spelled rest := by
  constructor
  · rintro ⟨known, once⟩
    refine ⟨fun c member => known c (List.mem_cons_of_mem _ member), fun flag => ?_⟩
    exact (List.countP_cons_of_neg (by simpa using flag.dash_not_mem)).symm.le.trans (once flag)
  · rintro ⟨known, once⟩
    refine ⟨List.forall_mem_cons.mpr ⟨.inl rfl, known⟩, fun flag => ?_⟩
    rw [List.countP_cons_of_neg (by simpa using flag.dash_not_mem)]
    exact once flag

theorem spelled_letter_iff (letter : c ∈ flag.letters) :
    Spelled (c :: rest) ↔ ¬ Names rest flag ∧ Spelled rest := by
  have count : rest.countP (· ∈ flag.letters) = 0 ↔ ¬ Names rest flag := by
    simp [List.countP_eq_zero, Names]
  constructor
  · rintro ⟨known, once⟩
    refine ⟨count.mp ?_, fun c member => known c (List.mem_cons_of_mem _ member), fun flag => ?_⟩
    · have total := once flag
      rw [List.countP_cons_of_pos (by simpa using letter)] at total
      omega
    · exact ((List.sublist_cons_self c rest).countP_le).trans (once flag)
  · rintro ⟨fresh, known, once⟩
    refine ⟨List.forall_mem_cons.mpr ⟨.inr ⟨flag, letter⟩, known⟩, fun another => ?_⟩
    by_cases same : another = flag
    · subst same
      rw [List.countP_cons_of_pos (by simpa using letter), count.mpr fresh]
    · have apart : c ∉ another.letters := fun own => same ((Flag.mem_letters_iff letter).mp own)
      rw [List.countP_cons_of_neg (by simpa using apart)]
      exact once another

end

/-! ## The loop -/

/-- From the flags `soFar` the text leads to those of `made`, and it names none of the flags
that were there before. -/
structure Collects (soFar : Permissions) (text : List Char) (made : Permissions) : Prop where
  spelled : Spelled text
  fresh : ∀ flag, soFar.has flag = true → ¬ Names text flag
  flags : ∀ flag, made.has flag = true ↔ soFar.has flag = true ∨ Names text flag

section

variable {soFar made : Permissions} {c : Char} {rest : List Char} {flag : Flag}

theorem collects_nil_iff : Collects soFar [] made ↔ made = soFar := by
  constructor
  · intro collects
    apply ext_has
    intro flag
    simpa [not_names_nil] using collects.flags flag
  · rintro rfl
    exact ⟨spelled_nil, fun flag _ => not_names_nil flag, by simp [not_names_nil]⟩

theorem collects_dash_iff : Collects soFar ('-' :: rest) made ↔ Collects soFar rest made := by
  have names : ∀ flag, Names ('-' :: rest) flag ↔ Names rest flag := by
    intro flag
    rw [names_cons_iff, or_iff_right flag.dash_not_mem]
  constructor
  · rintro ⟨spelled, fresh, flags⟩
    simp only [names] at fresh flags
    exact ⟨spelled_dash_iff.mp spelled, fresh, flags⟩
  · rintro ⟨spelled, fresh, flags⟩
    simp only [← names] at fresh flags
    exact ⟨spelled_dash_iff.mpr spelled, fresh, flags⟩

theorem collects_letter_iff (letter : c ∈ flag.letters) :
    Collects soFar (c :: rest) made
      ↔ soFar.has flag = false ∧ Collects (soFar.grant flag) rest made := by
  have names : ∀ another, Names (c :: rest) another ↔ another = flag ∨ Names rest another := by
    intro another
    rw [names_cons_iff, Flag.mem_letters_iff letter]
  constructor
  · rintro ⟨spelled, fresh, flags⟩
    obtain ⟨own, restSpelled⟩ := (spelled_letter_iff letter).mp spelled
    refine ⟨?_, restSpelled, ?_, ?_⟩
    · rw [← Bool.not_eq_true]
      intro seen
      exact fresh flag seen ((names flag).mpr (.inl rfl))
    · intro another granted named
      rcases has_grant_iff.mp granted with rfl | seen
      · exact own named
      · exact fresh another seen ((names another).mpr (.inr named))
    · intro another
      rw [flags, names, has_grant_iff, or_left_comm, or_assoc]
  · rintro ⟨unseen, restSpelled, fresh, flags⟩
    refine ⟨(spelled_letter_iff letter).mpr ⟨?_, restSpelled⟩, ?_, ?_⟩
    · exact fresh flag (has_grant_iff.mpr (.inl rfl))
    · intro another seen named
      rcases (names another).mp named with rfl | named
      · rw [unseen] at seen
        cases seen
      · exact fresh another (has_grant_iff.mpr (.inr seen)) named
    · intro another
      rw [flags, names, has_grant_iff, or_left_comm, or_assoc]

theorem not_collects_of_unknown (unknown : ¬ Known c) : ¬ Collects soFar (c :: rest) made :=
  fun collects => unknown (collects.spelled.known c List.mem_cons_self)

variable {text : String}

/-! ### One step -/

theorem continueFrom_dash :
    continueFrom text soFar ('-' :: rest) = continueFrom text soFar rest := by
  rw [continueFrom, if_pos rfl]

theorem continueFrom_unknown (unknown : ¬ Known c) :
    continueFrom text soFar (c :: rest) = .error (.unexpected c text) := by
  have notDash : c ≠ '-' := fun dash => unknown (.inl dash)
  rw [continueFrom, if_neg notDash, (Flag.ofChar?_eq_none_iff notDash).mpr unknown]

theorem continueFrom_letter (letter : c ∈ flag.letters) :
    continueFrom text soFar (c :: rest)
      = if soFar.has flag then .error (.repeated c text)
        else continueFrom text (soFar.grant flag) rest := by
  have notDash : c ≠ '-' := by
    rintro rfl
    exact flag.dash_not_mem letter
  rw [continueFrom, if_neg notDash, Flag.ofChar?_eq_some_iff.mpr letter]

/-! ### The whole run -/

theorem continueFrom_eq_ok_iff :
    continueFrom text soFar rest = .ok made ↔ Collects soFar rest made := by
  induction rest generalizing soFar with
  | nil => rw [continueFrom, collects_nil_iff, Except.ok.injEq, eq_comm]
  | cons c rest ih =>
    by_cases known : Known c
    · rcases known with rfl | ⟨flag, letter⟩
      · rw [continueFrom_dash, collects_dash_iff, ih]
      · rw [continueFrom_letter letter, collects_letter_iff letter]
        cases seen : soFar.has flag <;> simp [ih]
    · rw [continueFrom_unknown known]
      simp [not_collects_of_unknown known]

theorem continueFrom_append (front back : List Char) :
    continueFrom text soFar (front ++ back)
      = (continueFrom text soFar front).bind fun made => continueFrom text made back := by
  induction front generalizing soFar with
  | nil => rfl
  | cons c front ih =>
    by_cases known : Known c
    · rcases known with rfl | ⟨flag, letter⟩
      · rw [List.cons_append, continueFrom_dash, continueFrom_dash, ih]
      · rw [List.cons_append, continueFrom_letter letter, continueFrom_letter letter]
        cases soFar.has flag
        · exact ih
        · rfl
    · rw [List.cons_append, continueFrom_unknown known, continueFrom_unknown known]
      rfl

theorem exists_of_continueFrom_eq_error {fault : Fault}
    (failed : continueFrom text soFar rest = .error fault) :
    ∃ before c after made, rest = before ++ c :: after ∧ Collects soFar before made
      ∧ continueFrom text made [c] = .error fault := by
  induction rest generalizing soFar with
  | nil => cases failed
  | cons c rest ih =>
    have split : continueFrom text soFar (c :: rest)
        = (continueFrom text soFar [c]).bind fun made => continueFrom text made rest :=
      continueFrom_append [c] rest
    cases first : continueFrom text soFar [c] with
    | error early =>
      rw [split, first] at failed
      obtain rfl := Except.error.inj failed
      exact ⟨[], c, rest, soFar, rfl, collects_nil_iff.mpr rfl, first⟩
    | ok next =>
      rw [split, first] at failed
      obtain ⟨before, culprit, after, made, rfl, collects, stops⟩ := ih failed
      have whole : continueFrom text soFar (c :: before) = .ok made := by
        rw [← List.singleton_append, continueFrom_append, first]
        exact continueFrom_eq_ok_iff.mpr collects
      exact ⟨c :: before, culprit, after, made, rfl, continueFrom_eq_ok_iff.mp whole, stops⟩

end

/-! ## Whole texts -/

section

variable {letters : List Char} {made : Permissions} {text : String} {fault : Fault}

theorem collects_none_iff :
    Collects none letters made
      ↔ Spelled letters ∧ ∀ flag, made.has flag = true ↔ Names letters flag := by
  constructor
  · rintro ⟨spelled, -, flags⟩
    refine ⟨spelled, fun flag => ?_⟩
    rw [flags, has_none]
    simp
  · rintro ⟨spelled, flags⟩
    refine ⟨spelled, fun flag seen => ?_, fun flag => ?_⟩
    · rw [has_none] at seen
      cases seen
    · rw [flags, has_none]
      simp

theorem exists_collects (spelled : Spelled letters) : ∃ made, Collects none letters made := by
  let named (flag : Flag) : Bool := letters.any (· ∈ flag.letters)
  refine ⟨⟨named .read, named .write, named .execute⟩, collects_none_iff.mpr ⟨spelled, ?_⟩⟩
  intro flag
  cases flag <;> simp [has, named, Names]

theorem ofText_eq_continueFrom (inhabited : text ≠ "") :
    ofText text = continueFrom text none text.toList := by
  rw [ofText, if_neg (by simpa using inhabited)]

theorem ofText_eq_ok_iff :
    ofText text = .ok made
      ↔ text ≠ "" ∧ Spelled text.toList ∧ ∀ flag, made.has flag = true ↔ Names text.toList flag := by
  by_cases empty : text = ""
  · simp [ofText, empty]
  · rw [ofText_eq_continueFrom empty, continueFrom_eq_ok_iff, collects_none_iff]
    simp [empty]

theorem firstFault_of_ofText (inhabited : text ≠ "") (failed : ofText text = .error fault) :
    FirstFault text fault := by
  rw [ofText_eq_continueFrom inhabited] at failed
  obtain ⟨before, c, after, found, split, collects, stops⟩ :=
    exists_of_continueFrom_eq_error failed
  obtain ⟨spelled, flags⟩ := collects_none_iff.mp collects
  by_cases known : Known c
  · rcases known with rfl | ⟨flag, letter⟩
    · rw [continueFrom_dash] at stops
      cases stops
    · rw [continueFrom_letter letter] at stops
      split at stops
      · rename_i seen
        obtain rfl := Except.error.inj stops
        exact .repeated split spelled letter ((flags flag).mp seen)
      · cases stops
  · rw [continueFrom_unknown known] at stops
    obtain rfl := Except.error.inj stops
    exact .unexpected split spelled known

theorem exists_ofText_eq_of_split {before after : List Char} {c : Char}
    (split : text.toList = before ++ c :: after) (spelled : Spelled before) :
    ∃ found, Collects none before found
      ∧ ofText text = continueFrom text found (c :: after) := by
  have inhabited : text ≠ "" := by
    rintro rfl
    simp at split
  obtain ⟨found, collects⟩ := exists_collects spelled
  refine ⟨found, collects, ?_⟩
  rw [ofText_eq_continueFrom inhabited, split, continueFrom_append,
    continueFrom_eq_ok_iff.mpr collects]
  rfl

theorem ofText_of_firstFault (first : FirstFault text fault) : ofText text = .error fault := by
  cases first with
  | unexpected split spelled unknown =>
    obtain ⟨found, -, same⟩ := exists_ofText_eq_of_split split spelled
    rw [same, continueFrom_unknown unknown]
  | repeated split spelled letter seen =>
    obtain ⟨found, collects, same⟩ := exists_ofText_eq_of_split split spelled
    have granted := ((collects_none_iff.mp collects).2 _).mpr seen
    rw [same, continueFrom_letter letter, if_pos granted]

theorem spelled_of_perm {other : List Char} (perm :
      (other.filter (· ≠ '-')).Perm (letters.filter (· ≠ '-'))) (spelled : Spelled letters) :
    Spelled other := by
  have count : ∀ (flag : Flag) (text : List Char),
      (text.filter (· ≠ '-')).countP (· ∈ flag.letters) = text.countP (· ∈ flag.letters) := by
    intro flag text
    rw [List.countP_filter]
    apply List.countP_congr
    intro c _
    simp only [Bool.and_eq_true, decide_eq_true_eq, and_iff_left_iff_imp]
    rintro letter rfl
    exact flag.dash_not_mem letter
  constructor
  · intro c member
    by_cases dash : c = '-'
    · exact .inl dash
    · have kept : c ∈ other.filter (· ≠ '-') := by simp [member, dash]
      exact spelled.known c (List.mem_filter.mp (perm.mem_iff.mp kept)).1
  · intro flag
    rw [← count, perm.countP_eq, count]
    exact spelled.once flag

theorem names_iff_of_perm {other : List Char} (perm :
      (other.filter (· ≠ '-')).Perm (letters.filter (· ≠ '-'))) (flag : Flag) :
    Names other flag ↔ Names letters flag := by
  have kept : ∀ text, Names text flag ↔ Names (text.filter (· ≠ '-')) flag := by
    intro text
    constructor
    · rintro ⟨c, member, letter⟩
      have notDash : c ≠ '-' := by
        rintro rfl
        exact flag.dash_not_mem letter
      exact ⟨c, by simp [member, notDash], letter⟩
    · rintro ⟨c, member, letter⟩
      exact ⟨c, (List.mem_filter.mp member).1, letter⟩
  rw [kept, kept letters]
  simp only [Names, perm.mem_iff]

theorem ofText_text (permissions : Permissions) : ofText permissions.text = .ok permissions := by
  obtain ⟨read, write, execute⟩ := permissions
  cases read <;> cases write <;> cases execute <;> decide

end

/-- Texts of dashes and letters, no flag twice, are those that name permissions, and they name
the flags of their letters, however the letters and dashes are arranged.  Of any other text
the first character at fault is told.  The text of permissions names them. -/
theorem ofText_language :
    (∀ text, (∃ made, ofText text = .ok made) ↔ text ≠ "" ∧ Spelled text.toList)
      ∧ (∀ text made, ofText text = .ok made →
        ∀ flag, made.has flag = true ↔ Names text.toList flag)
      ∧ (∀ text other : String, other ≠ "" →
        (other.toList.filter (· ≠ '-')).Perm (text.toList.filter (· ≠ '-')) →
        ∀ made, ofText text = .ok made → ofText other = .ok made)
      ∧ (∀ text fault, ofText text = .error fault
        ↔ text = "" ∧ fault = .empty ∨ FirstFault text fault)
      ∧ ∀ permissions, ofText permissions.text = .ok permissions := by
  refine ⟨fun text => ⟨?_, ?_⟩, ?_, ?_, fun text fault => ⟨?_, ?_⟩, ofText_text⟩
  · rintro ⟨made, success⟩
    obtain ⟨inhabited, spelled, -⟩ := ofText_eq_ok_iff.mp success
    exact ⟨inhabited, spelled⟩
  · rintro ⟨inhabited, spelled⟩
    obtain ⟨made, collects⟩ := exists_collects spelled
    exact ⟨made, ofText_eq_ok_iff.mpr ⟨inhabited, collects_none_iff.mp collects⟩⟩
  · intro text made success
    exact (ofText_eq_ok_iff.mp success).2.2
  · intro text other inhabited perm made success
    obtain ⟨-, spelled, flags⟩ := ofText_eq_ok_iff.mp success
    refine ofText_eq_ok_iff.mpr ⟨inhabited, spelled_of_perm perm spelled, fun flag => ?_⟩
    rw [names_iff_of_perm perm]
    exact flags flag
  · intro failed
    by_cases empty : text = ""
    · subst empty
      rw [ofText, if_pos String.toList_empty] at failed
      exact .inl ⟨rfl, (Except.error.inj failed).symm⟩
    · exact .inr (firstFault_of_ofText empty failed)
  · rintro (⟨rfl, rfl⟩ | first)
    · rfl
    · exact ofText_of_firstFault first

/-- Of two faults the first one is told. -/
example : ofText "-W-rw?" = .error (.repeated 'w' "-W-rw?") := by decide

end SegmentContainer.Permissions
