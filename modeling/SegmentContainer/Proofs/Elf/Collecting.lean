import SegmentContainer.Elf.Image
import Mathlib.Data.List.Forall2
import Mathlib.Data.List.Nodup

/-!
# Collecting the symbols of an ELF file

The symbols of two tables are collected by one loop with a set of the pairs that it has
seen.  What the loop keeps is told here without the set: the entries that offer a pair of
address and name before any other entry does.
-/

set_option autoImplicit false

namespace SegmentContainer.Elf

/-! ## What an entry offers -/

structure NamedEntry.Offers (named : NamedEntry) (address : UInt64) (name : String) : Prop where
  notSection : named.entry.kind ≠ sectionSymbolKind
  notFile : named.entry.kind ≠ fileSymbolKind
  placed : named.entry.sectionIndex ≠ 0
  found : named.name? = some name
  nonempty : name ≠ ""
  addressed : UInt64.ofNat named.entry.value = address

/-- A dollar sign, one of the letters x, d, a and t, and then the end or a dot. -/
def IsMappingName (name : String) : Prop :=
  ∃ letter rest, name.toList = '$' :: letter :: rest
    ∧ (letter = 'x' ∨ letter = 'd' ∨ letter = 'a' ∨ letter = 't')
    ∧ (rest = [] ∨ ∃ suffix, rest = '.' :: suffix)

theorem isMappingName_iff {name : String} : isMappingName name = true ↔ IsMappingName name := by
  have tail : ∀ rest : List Char, (rest.head? = none ∨ rest.head? = some '.')
      ↔ (rest = [] ∨ ∃ suffix, rest = '.' :: suffix) := by
    intro rest
    cases rest with
    | nil => simp
    | cons first later => simp [eq_comm]
  constructor
  · intro marked
    unfold isMappingName at marked
    split at marked
    · rename_i letter rest spelled
      simp only [Bool.and_eq_true, Bool.or_eq_true, decide_eq_true_eq] at marked
      exact ⟨letter, rest, spelled, by simpa only [or_assoc] using marked.1,
        (tail rest).mp marked.2⟩
    · cases marked
  · rintro ⟨letter, rest, spelled, lettered, ended⟩
    simp only [isMappingName, spelled, Bool.and_eq_true, Bool.or_eq_true, decide_eq_true_eq]
    exact ⟨by simpa only [or_assoc] using lettered, (tail rest).mpr ended⟩

namespace NamedEntry.Offers

variable {named : NamedEntry} {address other : UInt64} {name spelled : String}

theorem unique (offers : named.Offers address name) (again : named.Offers other spelled) :
    other = address ∧ spelled = name :=
  ⟨again.addressed.symm.trans offers.addressed,
    Option.some.inj (again.found.symm.trans offers.found)⟩

end NamedEntry.Offers

/-! ## Entries in the order of the loop -/

def tables (static dynamic : List NamedEntry) : List (NamedEntry × SymbolSource) :=
  static.map (·, .analysis) ++ dynamic.map (·, .imported)

/-- The entry at `place` offers the pair, and no entry before it does. -/
structure OffersFirst (entries : List (NamedEntry × SymbolSource)) (place : Nat)
    (address : UInt64) (name : String) : Prop where
  offers : ∃ item, entries[place]? = some item ∧ item.1.Offers address name
  first : ∀ earlier, earlier < place → ∀ item, entries[earlier]? = some item →
    ¬ item.1.Offers address name

/-- The symbol is the one that the entry at `place` is the first to offer.  Its source is
that of the entry's table, unless its name only marks a stretch of code or data. -/
structure TakenAt (entries : List (NamedEntry × SymbolSource)) (place : Nat)
    (symbol : Symbol) : Prop where
  offered : OffersFirst entries place symbol.address symbol.name
  marked : IsMappingName symbol.name → symbol.source = .placeholder
  sourced : ¬ IsMappingName symbol.name → entries[place]?.map Prod.snd = some symbol.source

section

variable {entries : List (NamedEntry × SymbolSource)} {item : NamedEntry × SymbolSource}
  {place : Nat} {address : UInt64} {name : String} {symbol : Symbol}

theorem OffersFirst.lt_length (first : OffersFirst entries place address name) :
    place < entries.length := by
  obtain ⟨_, here, _⟩ := first.offers
  exact (List.getElem?_eq_some_iff.mp here).1

theorem exists_offers_append_iff :
    (∃ any ∈ entries ++ [item], any.1.Offers address name)
      ↔ (∃ before ∈ entries, before.1.Offers address name) ∨ item.1.Offers address name := by
  simp only [List.mem_append, List.mem_singleton, or_and_right, exists_or, exists_eq_left]

theorem offersFirst_append_iff (inside : place < entries.length) :
    OffersFirst (entries ++ [item]) place address name
      ↔ OffersFirst entries place address name := by
  have same : ∀ earlier, earlier ≤ place →
      (entries ++ [item])[earlier]? = entries[earlier]? := fun earlier before =>
    List.getElem?_append_left (Nat.lt_of_le_of_lt before inside)
  constructor
  · rintro ⟨offers, first⟩
    refine ⟨by rwa [same place (Nat.le_refl _)] at offers, ?_⟩
    intro earlier before
    have := first earlier before
    rwa [same earlier (Nat.le_of_lt before)] at this
  · rintro ⟨offers, first⟩
    refine ⟨by rwa [same place (Nat.le_refl _)], ?_⟩
    intro earlier before
    rw [same earlier (Nat.le_of_lt before)]
    exact first earlier before

theorem offersFirst_length_iff :
    OffersFirst (entries ++ [item]) entries.length address name
      ↔ item.1.Offers address name
        ∧ ∀ before ∈ entries, ¬ before.1.Offers address name := by
  constructor
  · rintro ⟨⟨_, here, offers⟩, first⟩
    rw [List.getElem?_concat_length] at here
    obtain rfl := Option.some.inj here
    refine ⟨offers, fun before mem => ?_⟩
    obtain ⟨earlier, inside, found⟩ := List.getElem_of_mem mem
    refine first earlier inside before ?_
    rw [List.getElem?_append_left inside, List.getElem?_eq_getElem inside, found]
  · rintro ⟨offers, first⟩
    refine ⟨⟨item, List.getElem?_concat_length, offers⟩, ?_⟩
    intro earlier inside before found
    rw [List.getElem?_append_left inside] at found
    exact first before (List.mem_of_getElem? found)

theorem exists_offersFirst_append_iff :
    (∃ address name, OffersFirst (entries ++ [item]) place address name)
      ↔ (∃ address name, OffersFirst entries place address name)
        ∨ place = entries.length ∧ ∃ address name, item.1.Offers address name
          ∧ ∀ before ∈ entries, ¬ before.1.Offers address name := by
  constructor
  · rintro ⟨address, name, first⟩
    have inside := first.lt_length
    rw [List.length_append, List.length_singleton] at inside
    rcases Nat.lt_succ_iff_lt_or_eq.mp inside with before | rfl
    · exact .inl ⟨address, name, (offersFirst_append_iff before).mp first⟩
    · exact .inr ⟨rfl, address, name, offersFirst_length_iff.mp first⟩
  · rintro (⟨address, name, first⟩ | ⟨rfl, address, name, fresh⟩)
    · exact ⟨address, name, (offersFirst_append_iff first.lt_length).mpr first⟩
    · exact ⟨address, name, offersFirst_length_iff.mpr fresh⟩

theorem TakenAt.append (taken : TakenAt entries place symbol) :
    TakenAt (entries ++ [item]) place symbol := by
  have inside := taken.offered.lt_length
  refine ⟨(offersFirst_append_iff inside).mpr taken.offered, taken.marked, ?_⟩
  rw [List.getElem?_append_left inside]
  exact taken.sourced

end

/-! ## One entry -/

namespace SymbolCollection

variable {source : SymbolSource} {collection : SymbolCollection} {named : NamedEntry}
  {address : UInt64} {name : String}

def taking (collection : SymbolCollection) (source : SymbolSource) (address : UInt64)
    (name : String) : SymbolCollection :=
  ⟨(address, name) :: collection.seen,
    collection.symbols.push
      ⟨address, name, if isMappingName name then .placeholder else source⟩⟩

theorem add_of_offers (offers : named.Offers address name) :
    collection.add source named
      = if (address, name) ∈ collection.seen then collection
        else collection.taking source address name := by
  obtain ⟨notSection, notFile, placed, found, nonempty, rfl⟩ := offers
  have passable : ¬ (named.entry.kind = sectionSymbolKind ∨ named.entry.kind = fileSymbolKind) :=
    not_or.mpr ⟨notSection, notFile⟩
  simp only [add, if_neg passable, if_neg placed, found, if_neg nonempty]
  rfl

theorem add_of_not_offers (offersNone : ∀ address name, ¬ named.Offers address name) :
    collection.add source named = collection := by
  unfold add
  split
  · rfl
  rename_i passable
  obtain ⟨notSection, notFile⟩ := not_or.mp passable
  split
  · rfl
  rename_i placed
  split
  · rfl
  rename_i name found
  split
  · rfl
  rename_i nonempty
  exact absurd ⟨notSection, notFile, placed, found, nonempty, rfl⟩ (offersNone _ name)

/-- All that an entry can do: nothing, if what it offers was seen before, or add the one
pair that it offers. -/
theorem add_cases (source : SymbolSource) (collection : SymbolCollection) (named : NamedEntry) :
    ((∀ address name, named.Offers address name → (address, name) ∈ collection.seen)
        ∧ collection.add source named = collection)
      ∨ ∃ address name, named.Offers address name ∧ (address, name) ∉ collection.seen
        ∧ collection.add source named = collection.taking source address name := by
  by_cases offering : ∃ address name, named.Offers address name
  · obtain ⟨address, name, offers⟩ := offering
    by_cases known : (address, name) ∈ collection.seen
    · refine .inl ⟨fun other spelled again => ?_, by rw [add_of_offers offers, if_pos known]⟩
      obtain ⟨rfl, rfl⟩ := offers.unique again
      exact known
    · exact .inr ⟨address, name, offers, known, by rw [add_of_offers offers, if_neg known]⟩
  · have offersNone : ∀ address name, ¬ named.Offers address name :=
      fun address name offers => offering ⟨address, name, offers⟩
    exact .inl ⟨fun address name offers => absurd offers (offersNone address name),
      add_of_not_offers offersNone⟩

/-! ## The loop -/

def addItem (collection : SymbolCollection) (item : NamedEntry × SymbolSource) :
    SymbolCollection :=
  collection.add item.2 item.1

/-- What holds of a collection when these entries have been taken into account: the seen
pairs are those that were offered and those of the symbols, which come from the entries
that were the first to offer a pair, in order. -/
structure Covers (collection : SymbolCollection) (entries : List (NamedEntry × SymbolSource)) :
    Prop where
  seen : ∀ address name, (address, name) ∈ collection.seen
    ↔ ∃ item ∈ entries, item.1.Offers address name
  pairs : collection.seen
    = (collection.symbols.toList.map fun symbol => (symbol.address, symbol.name)).reverse
  distinct : collection.seen.Nodup
  taken : ∃ places : List Nat,
    places.Pairwise (· < ·)
      ∧ (∀ place, place ∈ places ↔ ∃ address name, OffersFirst entries place address name)
      ∧ List.Forall₂ (TakenAt entries) places collection.symbols.toList

theorem covers_empty : Covers empty [] where
  seen := by simp [empty]
  pairs := rfl
  distinct := List.nodup_nil
  taken := by
    refine ⟨[], List.Pairwise.nil, fun place => ?_, List.Forall₂.nil⟩
    constructor
    · intro mem
      cases mem
    · rintro ⟨address, name, first⟩
      exact absurd first.lt_length (Nat.not_lt_zero place)

variable {entries : List (NamedEntry × SymbolSource)} {item : NamedEntry × SymbolSource}

theorem Covers.not_mem_seen_iff (covers : collection.Covers entries) :
    (address, name) ∉ collection.seen ↔ ∀ item ∈ entries, ¬ item.1.Offers address name := by
  rw [covers.seen]
  push Not
  rfl

theorem Covers.pass (covers : collection.Covers entries)
    (known : ∀ address name, item.1.Offers address name → (address, name) ∈ collection.seen) :
    collection.Covers (entries ++ [item]) := by
  obtain ⟨places, ascending, firsts, taken⟩ := covers.taken
  refine ⟨fun address name => ?_, covers.pairs, covers.distinct, places, ascending, ?_,
    taken.imp fun _ _ held => held.append⟩
  · rw [covers.seen, exists_offers_append_iff,
      or_iff_left_of_imp fun offers => (covers.seen address name).mp (known address name offers)]
  · intro place
    rw [firsts, exists_offersFirst_append_iff, or_iff_left]
    rintro ⟨-, address, name, offers, fresh⟩
    exact covers.not_mem_seen_iff.mpr fresh (known address name offers)

theorem Covers.take (covers : collection.Covers entries)
    (offers : item.1.Offers address name) (fresh : (address, name) ∉ collection.seen) :
    (collection.taking item.2 address name).Covers (entries ++ [item]) := by
  obtain ⟨places, ascending, firsts, taken⟩ := covers.taken
  -- what was not seen was not offered, so that the new entry is the first to offer it
  have unoffered := covers.not_mem_seen_iff.mp fresh
  have symbols : (collection.taking item.2 address name).symbols.toList
      = collection.symbols.toList
        ++ [⟨address, name, if isMappingName name then .placeholder else item.2⟩] :=
    Array.toList_push ..
  constructor
  case seen =>
    intro other spelled
    have mine : (other, spelled) = (address, name) ↔ item.1.Offers other spelled := by
      rw [Prod.mk.injEq]
      exact ⟨fun ⟨here, same⟩ => here ▸ same ▸ offers, fun again => offers.unique again⟩
    rw [taking, List.mem_cons, covers.seen, mine, exists_offers_append_iff, or_comm]
  case pairs =>
    rw [symbols, List.map_append, List.reverse_append, taking, covers.pairs]
    rfl
  case distinct => exact List.nodup_cons.mpr ⟨fresh, covers.distinct⟩
  case taken =>
    refine ⟨places ++ [entries.length], ?ascending, fun place => ?firsts, ?each⟩
    case ascending =>
      refine List.pairwise_append.mpr ⟨ascending, List.pairwise_singleton _ _, ?_⟩
      intro place mem last is
      obtain ⟨_, _, first⟩ := (firsts place).mp mem
      rw [List.mem_singleton.mp is]
      exact first.lt_length
    case firsts =>
      rw [List.mem_append, List.mem_singleton, firsts, exists_offersFirst_append_iff,
        and_iff_left (⟨address, name, offers, unoffered⟩ : ∃ address name, _)]
    case each =>
      rw [symbols]
      refine List.rel_append (taken.imp fun _ _ held => held.append) ?_
      refine List.Forall₂.cons ⟨offersFirst_length_iff.mpr ⟨offers, unoffered⟩, ?_, ?_⟩
        List.Forall₂.nil
      · intro marking
        exact if_pos (isMappingName_iff.mpr marking)
      · intro plain
        rw [List.getElem?_concat_length]
        exact congrArg some (if_neg fun marked => plain (isMappingName_iff.mp marked)).symm

theorem Covers.addItem (covers : collection.Covers entries) :
    (collection.addItem item).Covers (entries ++ [item]) := by
  rcases add_cases item.2 collection item.1 with
    ⟨known, same⟩ | ⟨address, name, offers, fresh, took⟩
  · rw [SymbolCollection.addItem, same]
    exact covers.pass known
  · rw [SymbolCollection.addItem, took]
    exact covers.take offers fresh

theorem Covers.foldl (covers : collection.Covers entries)
    (later : List (NamedEntry × SymbolSource)) :
    (later.foldl SymbolCollection.addItem collection).Covers (entries ++ later) := by
  induction later generalizing collection entries with
  | nil => rwa [List.append_nil]
  | cons item rest rest_covers =>
    rw [List.foldl_cons, ← List.singleton_append, ← List.append_assoc]
    exact rest_covers covers.addItem

end SymbolCollection

theorem collectSymbols_eq_foldl (static dynamic : List NamedEntry) :
    collectSymbols static dynamic
      = ((tables static dynamic).foldl SymbolCollection.addItem
          SymbolCollection.empty).symbols.toList := by
  rw [tables, List.foldl_append, List.foldl_map, List.foldl_map]
  rfl

/-- The collected symbols are those that entries of the two tables are the first to offer,
in the order of these entries; no two of them have the same address and name, and each pair
that is offered at all is among them. -/
theorem collectSymbols_firstOffers (static dynamic : List NamedEntry) :
    (∃ places : List Nat,
      places.Pairwise (· < ·)
        ∧ (∀ place, place ∈ places
            ↔ ∃ address name, OffersFirst (tables static dynamic) place address name)
        ∧ List.Forall₂ (TakenAt (tables static dynamic)) places
            (collectSymbols static dynamic))
      ∧ ((collectSymbols static dynamic).map fun symbol => (symbol.address, symbol.name)).Nodup
      ∧ ∀ address name,
        (∃ symbol ∈ collectSymbols static dynamic,
            symbol.address = address ∧ symbol.name = name)
          ↔ ∃ item ∈ tables static dynamic, item.1.Offers address name := by
  have covers := SymbolCollection.covers_empty.foldl (tables static dynamic)
  rw [List.nil_append] at covers
  rw [collectSymbols_eq_foldl]
  refine ⟨covers.taken, ?_, fun address name => ?_⟩
  · have distinct := covers.distinct
    rwa [covers.pairs, List.nodup_reverse] at distinct
  · rw [← covers.seen, covers.pairs, List.mem_reverse, List.mem_map]
    simp only [Prod.mk.injEq]

-- An entry that lies in no section does not keep a later one with its pair away.
example :
    collectSymbols
      [⟨⟨0, 2, 0, 0x10⟩, some "f"⟩, ⟨⟨0, 1, 1, 0x20⟩, some "g"⟩, ⟨⟨0, 0, 1, 0x30⟩, some "$d.1"⟩]
      [⟨⟨0, 2, 1, 0x10⟩, some "f"⟩, ⟨⟨0, 1, 1, 0x20⟩, some "g"⟩]
      = [⟨0x20, "g", .analysis⟩, ⟨0x30, "$d.1", .placeholder⟩, ⟨0x10, "f", .imported⟩] := by
  decide +kernel

end SegmentContainer.Elf
