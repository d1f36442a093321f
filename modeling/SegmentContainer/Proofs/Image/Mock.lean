import SegmentContainer.Image.MockTable
import SegmentContainer.Proofs.Image.Spans

/-!
# Mock images keep their regions apart

Each call that adds a region puts what is behind it into the side tables under a number that
no earlier region has.  So the tables hold of each number what was added with it, however
names, starts and sizes repeat, and a region that is read as itself is read from its own
entry.  An image with each region next to what is behind it, built by the same calls, reads
the same.
-/

set_option autoImplicit false

namespace SegmentContainer

/-! ## What calls add -/

namespace MockContents

def held? : MockContents → Option Bytes
  | .bytes held => some held
  | .nothing => none
  | .failing => none

def answer (region : Region) : MockContents → ReadOutcome
  | .bytes held => .data held
  | .nothing => .failed (.regionRead region.name region.start .noData)
  | .failing => .failed (.regionRead region.name region.start .injected)

/-- The region was made by the constructor, and has the size of the bytes behind it. -/
structure Fit (contents : MockContents) (region : Region) : Prop where
  admitted : region.Admitted
  filled : ∀ held, contents = .bytes held → held.length = region.size.toNat

end MockContents

namespace MockCall

def added? : MockCall → Option (Region × MockContents)
  | .rename _ => none
  | .region name start permissions held =>
    some (⟨name, start, start + (UInt64.ofNat held.length - 1), permissions, true⟩, .bytes held)
  | .filled name start size permissions fill =>
    some (⟨name, start, start + (UInt64.ofNat size - 1), permissions, true⟩,
      .bytes (List.replicate size fill))
  | .uninitialized name start size permissions =>
    some (⟨name, start, start + (size - 1), permissions, false⟩, .nothing)
  | .failing name start size permissions =>
    some (⟨name, start, start + (size - 1), permissions, true⟩, .failing)
  | .symbol _ => none

def symbol? : MockCall → Option Symbol
  | .symbol added => some added
  | _ => none

end MockCall

namespace MockTable

def put (table : MockTable) (region : Region) : MockContents → MockTable
  | .bytes held =>
    { table with
      regions := table.regions ++ [region]
      data := (table.regions.length, held) :: table.data }
  | .nothing => { table with regions := table.regions ++ [region] }
  | .failing =>
    { table with
      regions := table.regions ++ [region]
      failing := table.regions.length :: table.failing }

end MockTable

def MockImage.put (image : MockImage) (region : Region) (contents : MockContents) : MockImage :=
  { image with entries := image.entries ++ [(region, contents)] }

/-- What a call that does not crash does to a table and to an image. -/
inductive MockCall.Does : MockCall → MockTable → MockTable → MockImage → MockImage → Prop where
  | rename {table : MockTable} {image : MockImage} (name : String) :
      Does (.rename name) table { table with name := name } image { image with name := name }
  | symbol {table : MockTable} {image : MockImage} (symbol : Symbol) :
      Does (.symbol symbol) table { table with symbols := table.symbols ++ [symbol] }
        image (image.addSymbol symbol)
  | region {call : MockCall} {table : MockTable} {image : MockImage} {region : Region}
      {contents : MockContents} (added : call.added? = some (region, contents))
      (none : call.symbol? = none) (fit : contents.Fit region) :
      Does call table (table.put region contents) image (image.put region contents)

/-! ## Single calls -/

section

variable {name : String} {start size : UInt64} {permissions : Permissions} {made : Region}

theorem MockTable.exists_made_of_ok {later : MockTable} {next : Region → MockTable}
    (run : (region name start size permissions >>= fun made => return next made) = .ok later) :
    ∃ made, Region.ofSize name start size permissions = .ok made ∧ later = next made := by
  unfold region at run
  cases built : Region.ofSize name start size permissions with
  | error fault =>
    rw [built] at run
    cases run
  | ok made =>
    rw [built] at run
    cases run
    exact ⟨made, rfl, rfl⟩

theorem MockImage.add_of_ofSize (built : Region.ofSize name start size permissions = .ok made)
    (image : MockImage) (initialized : Bool) (contents : MockContents) :
    image.add name start size permissions initialized contents
      = .ok (image.put (made.withInitialized initialized) contents) := by
  rw [add, built]
  rfl

theorem MockContents.fit_bytes {held : Bytes} (small : held.length < 2 ^ 63)
    (built : Region.ofSize name start (UInt64.ofNat held.length) permissions = .ok made) :
    (MockContents.bytes held).Fit made := by
  refine ⟨Region.admitted_of_ofSize built, ?_⟩
  intro same found
  cases found
  rw [Region.size_of_ofSize built, UInt64.toNat_ofNat', Nat.mod_eq_of_lt (by omega)]

theorem MockContents.fit_hollow {contents : MockContents}
    (built : Region.ofSize name start size permissions = .ok made) (initialized : Bool)
    (hollow : ∀ held, contents ≠ .bytes held) :
    contents.Fit (made.withInitialized initialized) := by
  have admitted := Region.admitted_of_ofSize built
  exact ⟨⟨admitted.ordered, admitted.below⟩, fun held found => absurd found (hollow held)⟩

end

namespace MockTable

variable {table later : MockTable} {image : MockImage} {call : MockCall}

theorem exists_made_of_addBytes {name : String} {start : UInt64} {permissions : Permissions}
    {held : Bytes} (run : table.addBytes name start permissions held = .ok later) :
    ∃ made, Region.ofSize name start (UInt64.ofNat held.length) permissions = .ok made
      ∧ (MockContents.bytes held).Fit made ∧ later = table.put made (.bytes held) := by
  have limit : Memory.bufferLimit = 2 ^ 63 := rfl
  unfold addBytes at run
  split at run
  · cases run
  · obtain ⟨made, built, rfl⟩ := exists_made_of_ok run
    exact ⟨made, built, MockContents.fit_bytes (by omega) built, rfl⟩

theorem does_of_apply (run : table.apply call = .ok later) (image : MockImage) :
    ∃ next, image.apply call = .ok next ∧ call.Does table later image next := by
  cases call with
  | rename name =>
    cases run
    exact ⟨_, rfl, .rename name⟩
  | region name start permissions held =>
    obtain ⟨made, built, fit, rfl⟩ := exists_made_of_addBytes run
    obtain ⟨-, rfl⟩ := Region.ofSize_eq_ok_iff.mp built
    exact ⟨_, MockImage.add_of_ofSize built image true _, .region rfl rfl fit⟩
  | filled name start size permissions fill =>
    obtain ⟨made, built, fit, rfl⟩ := exists_made_of_addBytes run
    obtain ⟨-, rfl⟩ := Region.ofSize_eq_ok_iff.mp built
    refine ⟨_, MockImage.add_of_ofSize built image true _, .region ?_ rfl fit⟩
    rw [MockCall.added?, List.length_replicate]
  | uninitialized name start size permissions =>
    obtain ⟨made, built, rfl⟩ := exists_made_of_ok run
    have fit : MockContents.nothing.Fit _ := MockContents.fit_hollow built false nofun
    obtain ⟨-, rfl⟩ := Region.ofSize_eq_ok_iff.mp built
    exact ⟨_, MockImage.add_of_ofSize built image false _, .region rfl rfl fit⟩
  | failing name start size permissions =>
    obtain ⟨made, built, rfl⟩ := exists_made_of_ok run
    have fit : MockContents.failing.Fit _ := MockContents.fit_hollow built true nofun
    obtain ⟨-, rfl⟩ := Region.ofSize_eq_ok_iff.mp built
    exact ⟨_, MockImage.add_of_ofSize built image true _, .region rfl rfl fit⟩
  | symbol symbol =>
    cases run
    exact ⟨_, rfl, .symbol symbol⟩

/-! ## Runs of calls -/

/-- The side tables hold of each number what stands next to the region of that number, and
nothing of numbers that no region has. -/
structure Holds (table : MockTable) (image : MockImage) : Prop where
  name : table.name = image.name
  regions : table.regions = image.entries.map Prod.fst
  symbols : table.symbols = image.symbols
  data : ∀ place, table.data.lookup place
    = image.entries[place]?.bind fun entry => entry.2.held?
  failing : ∀ place, table.failing.contains place
    = image.entries[place]?.any fun entry => entry.2 = .failing

theorem holds_empty : empty.Holds (MockImage.empty "mock") :=
  ⟨rfl, rfl, rfl, fun _ => rfl, fun _ => rfl⟩

theorem Holds.length_regions (holds : table.Holds image) :
    table.regions.length = image.entries.length := by
  rw [holds.regions, List.length_map]

theorem getElem?_put (image : MockImage) (region : Region) (contents : MockContents)
    (place : Nat) :
    (image.put region contents).entries[place]?
      = if place = image.entries.length then some (region, contents)
        else image.entries[place]? := by
  rw [MockImage.put, List.getElem?_append]
  split
  · rw [if_neg (by omega)]
  · split
    · simp [*]
    · rw [List.getElem?_eq_none (by simp; omega), List.getElem?_eq_none (by omega)]

/-- The number of a new region is in neither table yet, and what is put in under it changes
nothing for other numbers. -/
theorem Holds.put (holds : table.Holds image) (region : Region) (contents : MockContents) :
    (table.put region contents).Holds (image.put region contents) := by
  have length := holds.length_regions
  have newData : table.data.lookup image.entries.length = none := by
    rw [holds.data, List.getElem?_eq_none (Nat.le_refl _)]
    rfl
  have newFailing : table.failing.contains image.entries.length = false := by
    rw [holds.failing, List.getElem?_eq_none (Nat.le_refl _)]
    rfl
  constructor
  case name => cases contents <;> exact holds.name
  case regions => cases contents <;> simp [MockTable.put, MockImage.put, holds.regions]
  case symbols => cases contents <;> exact holds.symbols
  case data =>
    intro place
    rw [getElem?_put]
    by_cases new : place = image.entries.length
    · subst new
      cases contents with
      | bytes held => simp [MockTable.put, length, MockContents.held?]
      | nothing => simpa [MockTable.put, MockContents.held?] using newData
      | failing => simpa [MockTable.put, MockContents.held?] using newData
    · rw [if_neg new, ← holds.data]
      cases contents with
      | bytes held =>
        have other : (place == table.regions.length) = false := beq_false_of_ne (length ▸ new)
        simp [MockTable.put, List.lookup_cons, other]
      | nothing => rfl
      | failing => rfl
  case failing =>
    intro place
    rw [getElem?_put]
    by_cases new : place = image.entries.length
    · subst new
      cases contents with
      | bytes held => simpa [MockTable.put] using newFailing
      | nothing => simpa [MockTable.put] using newFailing
      | failing => simp [MockTable.put, length]
    · rw [if_neg new, ← holds.failing]
      cases contents with
      | bytes held => rfl
      | nothing => rfl
      | failing => simp [MockTable.put, length, new]

theorem Holds.step {next : MockImage} (holds : table.Holds image)
    (does : call.Does table later image next) :
    later.Holds next
      ∧ next.entries = image.entries ++ call.added?.toList
      ∧ next.symbols = image.symbols ++ call.symbol?.toList
      ∧ ∀ entry ∈ call.added?, entry.2.Fit entry.1 := by
  cases does with
  | rename name =>
    refine ⟨{ holds with name := rfl }, ?_, ?_, by simp [MockCall.added?]⟩
    · simp [MockCall.added?]
    · simp [MockCall.symbol?]
  | symbol symbol =>
    refine ⟨{ holds with symbols := ?_ }, ?_, rfl, by simp [MockCall.added?]⟩
    · rw [holds.symbols]
      rfl
    · simp [MockCall.added?, MockImage.addSymbol]
  | region added none fit =>
    refine ⟨holds.put _ _, ?_, ?_, ?_⟩
    · rw [added]
      rfl
    · rw [none]
      exact (List.append_nil _).symm
    · intro entry same
      rw [added] at same
      cases same
      exact fit

theorem Holds.run {calls : List MockCall} (holds : table.Holds image)
    (run : calls.foldlM apply table = .ok later) :
    ∃ next, calls.foldlM MockImage.apply image = .ok next
      ∧ later.Holds next
      ∧ next.entries = image.entries ++ calls.filterMap MockCall.added?
      ∧ next.symbols = image.symbols ++ calls.filterMap MockCall.symbol?
      ∧ ∀ entry ∈ calls.filterMap MockCall.added?, entry.2.Fit entry.1 := by
  induction calls generalizing table image with
  | nil =>
    cases run
    exact ⟨image, rfl, holds, by simp, by simp, by simp⟩
  | cons call rest ih =>
    rw [List.foldlM_cons] at run
    cases first : table.apply call with
    | error crash =>
      rw [first] at run
      cases run
    | ok middle =>
      rw [first] at run
      obtain ⟨between, imaged, does⟩ := does_of_apply first image
      obtain ⟨middleHolds, entries, symbols, fit⟩ := holds.step does
      obtain ⟨next, built, held, allEntries, allSymbols, allFit⟩ := ih middleHolds run
      refine ⟨next, ?_, held, ?_, ?_, ?_⟩
      · rw [List.foldlM_cons, imaged]
        exact built
      · rw [allEntries, entries, List.append_assoc, List.filterMap_eq_flatMap_toList,
          List.filterMap_eq_flatMap_toList, List.flatMap_cons]
      · rw [allSymbols, symbols, List.append_assoc, List.filterMap_eq_flatMap_toList,
          List.filterMap_eq_flatMap_toList, List.flatMap_cons]
      · intro entry member
        obtain ⟨other, listed, added⟩ := List.mem_filterMap.mp member
        rcases List.mem_cons.mp listed with rfl | inRest
        · exact fit entry added
        · exact allFit entry (List.mem_filterMap.mpr ⟨other, inRest, added⟩)

/-! ## Reads -/

theorem placeOf?_own {place : Nat} (inside : place < table.regions.length) (asked : Region) :
    table.placeOf? (some place) asked = some place := by
  simp [placeOf?, Option.filter, inside]

theorem placeOf?_none (holds : table.Holds image) (asked : Region) :
    table.placeOf? none asked = image.locate? asked := by
  rw [placeOf?, holds.regions, Option.filter_none, Option.none_or, List.findIdx?_map,
    MockImage.locate?]
  rfl

theorem Holds.read_eq (holds : table.Holds image) (own? : Option Nat) (asked : Region) :
    table.read own? asked = image.read (table.placeOf? own? asked) asked := by
  simp only [read, MockImage.read]
  cases table.placeOf? own? asked with
  | none => rfl
  | some place =>
    have data := holds.data place
    have failing := holds.failing place
    simp only [Option.any_some, Option.bind_some, data, failing, MockImage.contentsAt]
    cases image.entries[place]? with
    | none => rfl
    | some entry =>
      obtain ⟨region, contents⟩ := entry
      cases contents with
      | bytes held => rfl
      | nothing => rfl
      | failing => rfl

theorem Holds.read_own (holds : table.Holds image) {place : Nat} {region : Region}
    {contents : MockContents} (listed : image.entries[place]? = some (region, contents))
    (fit : contents.Fit region) : table.read (some place) region = contents.answer region := by
  obtain ⟨inside, -⟩ := List.getElem?_eq_some_iff.mp listed
  rw [holds.read_eq, placeOf?_own (holds.length_regions ▸ inside), MockImage.read,
    MockImage.contentsAt, listed]
  cases contents with
  | bytes held => exact if_pos (fit.filled held rfl)
  | nothing => rfl
  | failing => rfl

theorem length_of_read_data {own? : Option Nat} {asked : Region} {held : Bytes}
    (run : table.read own? asked = .data held) : held.length = asked.size.toNat := by
  simp only [read] at run
  split at run
  · cases run
  · split at run
    · cases run
    · split at run
      · rename_i long
        cases run
        exact long
      · cases run

/-- Regions and symbols are what the calls added, in their order.  Each region, read as
itself, gives what its own call put behind it, and no read at all gives more or fewer bytes
than the region has that is asked for. -/
structure BuiltFrom (table : MockTable) (calls : List MockCall) : Prop where
  regions : table.regions = (calls.filterMap MockCall.added?).map Prod.fst
  symbols : table.symbols = calls.filterMap MockCall.symbol?
  fit : ∀ entry ∈ calls.filterMap MockCall.added?, entry.2.Fit entry.1
  own : ∀ place region contents,
    (calls.filterMap MockCall.added?)[place]? = some (region, contents) →
      table.regions[place]? = some region
        ∧ table.read (some place) region = contents.answer region
  resized : ∀ own? asked held, asked.Admitted → table.read own? asked = .data held →
    held.length = asked.size.toNat
      ∧ asked.size.toNat = asked.last.toNat - asked.start.toNat + 1

/-- The side tables do what an image does that has each region next to what is behind it. -/
structure Mirrors (table : MockTable) (image : MockImage) : Prop where
  name : table.name = image.name
  regions : table.regions = image.toImage.regions
  symbols : table.symbols = image.toImage.symbols
  own : ∀ place, place < table.regions.length → ∀ asked,
    table.placeOf? (some place) asked = some place
  other : ∀ asked, table.placeOf? none asked = image.locate? asked
  reads : ∀ own? asked,
    table.read own? asked = image.read (table.placeOf? own? asked) asked

theorem Holds.mirrors (holds : table.Holds image) : table.Mirrors image where
  name := holds.name
  regions := holds.regions
  symbols := holds.symbols
  own _ inside := placeOf?_own inside
  other := placeOf?_none holds
  reads := holds.read_eq

/-- The image of any calls that do not crash, however the names, starts and sizes in them
repeat. -/
theorem built_of_calls (calls : List MockCall) (table : MockTable)
    (built : build calls = .ok table) :
    table.BuiltFrom calls
      ∧ ∃ image, MockImage.build calls = .ok image ∧ table.Mirrors image := by
  obtain ⟨image, imaged, holds, entries, symbols, fit⟩ := holds_empty.run built
  have entries : image.entries = calls.filterMap MockCall.added? := entries
  have symbols : image.symbols = calls.filterMap MockCall.symbol? := symbols
  refine ⟨⟨?_, ?_, fit, ?_, ?_⟩, image, imaged, holds.mirrors⟩
  · rw [holds.regions, entries]
  · rw [holds.symbols, symbols]
  · intro place region contents added
    have listed : image.entries[place]? = some (region, contents) := entries ▸ added
    refine ⟨?_, holds.read_own listed (fit _ (List.mem_of_getElem? added))⟩
    rw [holds.regions, List.getElem?_map, listed]
    rfl
  · intro own? asked held admitted run
    exact ⟨length_of_read_data run, admitted.toNat_size⟩

/-- Regions of one name and start: two with bytes of different numbers, one that fails, one
without bytes, and one that is filled. -/
def namesakes : List MockCall :=
  [.region "t" 16 .none [1, 2], .failing "t" 16 2 .none, .symbol ⟨17, "b", .userDefined⟩,
    .region "t" 16 .none [3], .uninitialized "t" 16 2 .none, .filled "t" 16 3 .none 7,
    .symbol ⟨16, "a", .imported⟩]

theorem built_of_namesakes :
    ∃ table, build namesakes = .ok table
      ∧ table.read (some 0) ⟨"t", 16, 17, .none, true⟩ = .data [1, 2]
      ∧ table.read (some 1) ⟨"t", 16, 17, .none, true⟩
        = .failed (.regionRead "t" 16 .injected)
      ∧ table.read (some 2) ⟨"t", 16, 16, .none, true⟩ = .data [3]
      ∧ table.read (some 3) ⟨"t", 16, 17, .none, false⟩
        = .failed (.regionRead "t" 16 .noData)
      ∧ table.read (some 4) ⟨"t", 16, 18, .none, true⟩ = .data [7, 7, 7]
      ∧ table.symbols = [⟨17, "b", .userDefined⟩, ⟨16, "a", .imported⟩]
      ∧ ∀ held, table.read none ⟨"t", 16, 20, .none, true⟩ = .data held → held.length = 5 := by
  have success : (build namesakes).isOk = true := by decide +kernel
  cases made : build namesakes with
  | error crash =>
    rw [made] at success
    cases success
  | ok table =>
    have built := (built_of_calls namesakes table made).1
    refine ⟨table, rfl, (built.own 0 _ _ rfl).2, (built.own 1 _ _ rfl).2, (built.own 2 _ _ rfl).2,
      (built.own 3 _ _ rfl).2, (built.own 4 _ _ rfl).2, built.symbols, ?_⟩
    intro held run
    obtain ⟨length, width⟩ := built.resized none _ held ⟨by decide, by decide⟩ run
    exact length.trans width

end MockTable
end SegmentContainer
