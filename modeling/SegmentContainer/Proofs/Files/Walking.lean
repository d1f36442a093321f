import Mathlib
import SegmentContainer.Files.System

/-!
# Walking paths

Where a path leads is found in two loops: a walk goes from piece to piece up to the first
link, and the links are followed one after another.  Both are turned into relations here, so
that what holds of every path is shown by induction on the way that it takes.
-/

set_option autoImplicit false

namespace SegmentContainer

namespace Path

theorem splitSlashes_ne_nil (text : List Char) : splitSlashes text ≠ [] := by
  cases text with
  | nil => simp [splitSlashes]
  | cons c rest =>
    rw [splitSlashes]
    split
    · simp
    · split <;> simp

theorem pieces_eq_concat (path : String) :
    ∃ front name, pieces path = front ++ [name] := by
  rcases List.eq_nil_or_concat (pieces path) with empty | ⟨front, name, split⟩
  · exact absurd (List.map_eq_nil_iff.mp empty) (splitSlashes_ne_nil _)
  · exact ⟨front, name, by rw [split, List.concat_eq_append]⟩

end Path

namespace FileSystem

def Rooted (files : FileSystem) : Prop :=
  ∀ place name node, files.node? (place ++ [name]) = some node →
    files.node? place = some .directory

variable {files : FileSystem} {place : Place}

theorem node?_nil (files : FileSystem) : files.node? [] = some .directory := rfl

theorem node?_of_ne_nil (files : FileSystem) (inside : place ≠ []) :
    files.node? place = (files.entries.find? fun entry => entry.1 = place).map (·.2) :=
  if_neg inside

theorem rooted_of_entries
    (inside : ∀ entry ∈ files.entries, files.node? entry.1.dropLast = some .directory) :
    files.Rooted := by
  intro directory name node found
  rw [node?_of_ne_nil _ (List.append_ne_nil_of_right_ne_nil _ (List.cons_ne_nil _ _))] at found
  obtain ⟨entry, listed, -⟩ := Option.map_eq_some_iff.mp found
  have named : entry.1 = directory ++ [name] := by simpa using List.find?_some listed
  have above := inside entry (List.mem_of_find?_eq_some listed)
  rwa [named, List.dropLast_concat] at above

/-! ## Walks -/

structure Named (piece : String) : Prop where
  nonempty : piece ≠ ""
  notHere : piece ≠ "."
  notUp : piece ≠ ".."
  short : piece.utf8ByteSize ≤ nameBound

/-- A walk that is to create a file ends at a name, with no slash behind it. -/
def Unslashed (creating : Bool) (rest : List String) : Prop :=
  creating = true → rest ≠ [] → rest.all (· = "") = false

theorem unslashed_iff (creating : Bool) (rest : List String) :
    Unslashed creating rest ↔ ¬ (creating && !rest.isEmpty && rest.all (· = "")) = true := by
  cases creating with
  | false => simp [Unslashed]
  | true =>
    cases rest with
    | nil => simp [Unslashed]
    | cons piece more => simp [Unslashed]

/-- The walks that do not fail: how a walk goes on from a place, by its first piece. -/
inductive Goes (files : FileSystem) (creating : Bool) : Place → List String → WalkStep → Prop where
  | arrives {here : Place} {node : Node} (found : files.node? here = some node) :
      Goes files creating here [] (.ended (.entry here node))
  | stays {here : Place} {piece : String} {rest : List String} {step : WalkStep}
      (directory : files.node? here = some .directory) (still : piece = "" ∨ piece = ".")
      (later : Goes files creating here rest step) :
      Goes files creating here (piece :: rest) step
  | climbs {here : Place} {rest : List String} {step : WalkStep}
      (directory : files.node? here = some .directory)
      (later : Goes files creating here.dropLast rest step) :
      Goes files creating here (".." :: rest) step
  | vacant {here : Place} {piece : String} (directory : files.node? here = some .directory)
      (named : Named piece) (free : files.node? (here ++ [piece]) = none) :
      Goes files creating here [piece] (.ended (.vacant (here ++ [piece])))
  | link {here : Place} {piece : String} {rest : List String} {target : String}
      (directory : files.node? here = some .directory) (named : Named piece)
      (opens : Unslashed creating rest)
      (found : files.node? (here ++ [piece]) = some (.link target)) :
      Goes files creating here (piece :: rest) (.link here target rest)
  | enters {here : Place} {piece : String} {rest : List String} {step : WalkStep} {node : Node}
      (directory : files.node? here = some .directory) (named : Named piece)
      (opens : Unslashed creating rest)
      (found : files.node? (here ++ [piece]) = some node) (solid : ∀ target, node ≠ .link target)
      (later : Goes files creating (here ++ [piece]) rest step) :
      Goes files creating here (piece :: rest) step

theorem Goes.walk {creating : Bool} {here : Place} {pieces : List String} {step : WalkStep}
    (goes : Goes files creating here pieces step) : files.walk creating here pieces = step := by
  induction goes with
  | arrives found => rw [FileSystem.walk, found]
  | stays directory still _ ih =>
    rw [FileSystem.walk, if_neg (not_not_intro directory), if_pos still, ih]
  | climbs directory _ ih =>
    rw [FileSystem.walk, if_neg (not_not_intro directory), if_neg (by decide), if_pos rfl, ih]
  | vacant directory named free =>
    rw [FileSystem.walk, if_neg (not_not_intro directory),
      if_neg (not_or.mpr ⟨named.nonempty, named.notHere⟩), if_neg named.notUp,
      if_neg (by simp), if_neg (Nat.not_lt.mpr named.short), free]
    rfl
  | link directory named opens found =>
    rw [FileSystem.walk, if_neg (not_not_intro directory),
      if_neg (not_or.mpr ⟨named.nonempty, named.notHere⟩), if_neg named.notUp,
      if_neg ((unslashed_iff _ _).mp opens), if_neg (Nat.not_lt.mpr named.short), found]
  | @enters here piece rest step node directory named opens found solid _ ih =>
    rw [FileSystem.walk, if_neg (not_not_intro directory),
      if_neg (not_or.mpr ⟨named.nonempty, named.notHere⟩), if_neg named.notUp,
      if_neg ((unslashed_iff _ _).mp opens), if_neg (Nat.not_lt.mpr named.short), found]
    cases node with
    | link target => exact absurd rfl (solid target)
    | file content => exact ih
    | directory => exact ih
    | fullDevice => exact ih

theorem goes_of_walk {creating : Bool} {here : Place} {pieces : List String} {step : WalkStep}
    (walked : files.walk creating here pieces = step) (goesOn : ∀ fault, step ≠ .failed fault) :
    Goes files creating here pieces step := by
  -- one case for each way to go on; a walk that fails there is excluded
  induction pieces generalizing here with
  | nil =>
    rw [FileSystem.walk] at walked
    cases found : files.node? here with
    | none =>
      rw [found] at walked
      exact absurd walked.symm (goesOn _)
    | some node =>
      rw [found] at walked
      subst step
      exact .arrives found
  | cons piece rest ih =>
    rw [FileSystem.walk] at walked
    split at walked
    · exact absurd walked.symm (goesOn _)
    rename_i directory
    rw [not_not] at directory
    split at walked
    · exact .stays directory ‹_› (ih walked)
    rename_i moves
    rw [not_or] at moves
    split at walked
    · subst piece
      exact .climbs directory (ih walked)
    rename_i down
    split at walked
    · exact absurd walked.symm (goesOn _)
    rename_i opens
    rw [← unslashed_iff] at opens
    split at walked
    · exact absurd walked.symm (goesOn _)
    rename_i short
    have named : Named piece := ⟨moves.1, moves.2, down, Nat.le_of_not_lt short⟩
    split at walked
    · rename_i free
      split at walked
      · rename_i last
        obtain rfl := List.isEmpty_iff.mp last
        subst step
        exact .vacant directory named free
      · exact absurd walked.symm (goesOn _)
    · subst step
      exact .link directory named opens ‹_›
    · rename_i solid found
      exact .enters directory named opens found solid (ih walked)

theorem Goes.node?_entry {creating : Bool} {here place : Place} {pieces : List String}
    {node : Node} (goes : Goes files creating here pieces (.ended (.entry place node))) :
    files.node? place = some node := by
  generalize same : WalkStep.ended (.entry place node) = step at goes
  induction goes with
  | arrives found =>
    cases same
    exact found
  | stays _ _ _ ih => exact ih same
  | climbs _ _ ih => exact ih same
  | vacant => cases same
  | link => cases same
  | enters _ _ _ _ _ _ ih => exact ih same

theorem Goes.of_file {creating : Bool} {here : Place} {pieces : List String} {step : WalkStep}
    {content : Bytes} (file : files.node? here = some (.file content))
    (goes : Goes files creating here pieces step) :
    pieces = [] ∧ step = .ended (.entry here (.file content)) := by
  cases goes with
  | arrives found =>
    cases file.symm.trans found
    exact ⟨rfl, rfl⟩
  | stays directory => cases file.symm.trans directory
  | climbs directory => cases file.symm.trans directory
  | vacant directory => cases file.symm.trans directory
  | link directory => cases file.symm.trans directory
  | enters directory => cases file.symm.trans directory

theorem Goes.node?_vacant {creating : Bool} {here place : Place} {pieces : List String}
    (goes : Goes files creating here pieces (.ended (.vacant place))) :
    files.node? place = none
      ∧ ∃ directory name, place = directory ++ [name]
          ∧ files.node? directory = some .directory := by
  generalize same : WalkStep.ended (.vacant place) = step at goes
  induction goes with
  | arrives => cases same
  | stays _ _ _ ih => exact ih same
  | climbs _ _ ih => exact ih same
  | @vacant here piece directory _ free =>
    cases same
    exact ⟨free, here, piece, rfl, directory⟩
  | link => cases same
  | enters _ _ _ _ _ _ ih => exact ih same

theorem Goes.last {creating : Bool} {directory place : Place} {name : String} {node : Node}
    (rooted : files.Rooted)
    (goes : Goes files creating directory [name] (.ended (.entry place node)))
    (proper : node ≠ .directory) :
    Named name ∧ files.node? (directory ++ [name]) = some node := by
  cases goes with
  | stays there _ later =>
    have same := later.node?_entry
    cases later with
    | arrives => rw [there] at same; exact absurd (Option.some.inj same).symm proper
  | climbs there later =>
    have same := later.node?_entry
    cases later with
    | arrives =>
      have above : files.node? directory.dropLast = some .directory := by
        rcases List.eq_nil_or_concat directory with rfl | ⟨outer, inner, rfl⟩
        · rfl
        · rw [List.concat_eq_append, List.dropLast_concat]
          exact rooted _ _ _ (by rwa [List.concat_eq_append] at there)
      rw [above] at same
      exact absurd (Option.some.inj same).symm proper
  | enters _ named _ _ _ later =>
    have same := later.node?_entry
    cases later with
    | arrives => exact ⟨named, same⟩

/-- The paths that lead somewhere, through so many links at most. -/
inductive Leads (files : FileSystem) (creating : Bool) :
    Nat → Place → List String → Spot → Prop where
  | ends {links : Nat} {here : Place} {pieces : List String} {spot : Spot}
      (goes : Goes files creating here pieces (.ended spot)) :
      Leads files creating links here pieces spot
  | jumps {links : Nat} {here base : Place} {pieces rest : List String} {target : String}
      {spot : Spot} (goes : Goes files creating here pieces (.link base target rest))
      (full : target ≠ "")
      (later : Leads files creating links (origin target base) (Path.pieces target ++ rest) spot) :
      Leads files creating (links + 1) here pieces spot

theorem follow_eq_ok {creating : Bool} {links : Nat} {here : Place} {pieces : List String}
    {spot : Spot} :
    files.follow creating links here pieces = .ok spot
      ↔ Leads files creating links here pieces spot := by
  constructor
  · intro followed
    induction links generalizing here pieces with
    | zero =>
      rw [follow.eq_def] at followed
      dsimp only at followed
      split at followed
      · rename_i ended walked
        obtain rfl := Except.ok.inj followed
        exact .ends (goes_of_walk walked nofun)
      · cases followed
      · cases followed
    | succ links ih =>
      rw [follow.eq_def] at followed
      dsimp only at followed
      split at followed
      · rename_i ended walked
        obtain rfl := Except.ok.inj followed
        exact .ends (goes_of_walk walked nofun)
      · cases followed
      · rename_i base target rest walked
        split at followed
        · cases followed
        · rename_i full
          exact .jumps (goes_of_walk walked nofun) full (ih followed)
  · intro leads
    induction leads with
    | ends goes =>
      rw [follow.eq_def]
      simp only [goes.walk]
    | jumps goes full _ ih =>
      rw [follow.eq_def]
      simp only [goes.walk, if_neg full, ih]

theorem Leads.node?_entry {creating : Bool} {links : Nat} {here place : Place}
    {pieces : List String} {node : Node}
    (leads : Leads files creating links here pieces (.entry place node)) :
    files.node? place = some node := by
  generalize same : Spot.entry place node = spot at leads
  induction leads with
  | ends goes =>
    subst same
    exact goes.node?_entry
  | jumps _ _ _ ih => exact ih same

theorem Leads.node?_vacant {creating : Bool} {links : Nat} {here place : Place}
    {pieces : List String} (leads : Leads files creating links here pieces (.vacant place)) :
    files.node? place = none
      ∧ ∃ directory name, place = directory ++ [name]
          ∧ files.node? directory = some .directory := by
  generalize same : Spot.vacant place = spot at leads
  induction leads with
  | ends goes =>
    subst same
    exact goes.node?_vacant
  | jumps _ _ _ ih => exact ih same

theorem resolve_eq_ok {creating : Bool} {path : String} {spot : Spot} :
    files.resolve creating path = .ok spot
      ↔ (path ≠ "" ∧ holdsNul path = false ∧ path.utf8ByteSize ≤ pathBound)
        ∧ Leads files creating linkBound (origin path files.home) (Path.pieces path) spot := by
  rw [resolve]
  by_cases empty : path = ""
  · simp [empty]
  · by_cases nul : holdsNul path = true
    · simp [empty, nul]
    · by_cases long : pathBound < path.utf8ByteSize
      · simp [empty, nul, long]
      · simp [empty, nul, long, trace, follow_eq_ok, Nat.le_of_not_lt long]

/-! ## Own entries -/

/-- The entry that a path names, unless it is a directory.  It need not be what the path
leads to. -/
def own? (files : FileSystem) (path : String) : Option Place :=
  (files.entryPlace? path).filter fun place =>
    (files.node? place).any fun node => node ≠ .directory

end FileSystem
end SegmentContainer
