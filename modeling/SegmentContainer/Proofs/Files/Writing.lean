import Mathlib
import SegmentContainer.Proofs.Files.Walking

/-!
# Writing and removing files

A write goes to one place, the target of its path, and changes nothing at any other; the
path then leads to what was written, and every other path to what it led to before, unless
it has the same target.  Removing a path takes away its own entry, which for a link is the
link and not what it leads to.
-/

set_option autoImplicit false

namespace SegmentContainer

def Spot.target? : Spot → Option Place
  | .vacant place => some place
  | .entry place (.file _) => some place
  | .entry _ _ => none

def Spot.filled (place : Place) (bytes : Bytes) : Spot → Spot
  | .entry other node => if other = place then .entry place (.file bytes) else .entry other node
  | .vacant other => if other = place then .entry place (.file bytes) else .vacant other

def WalkStep.filled (place : Place) (bytes : Bytes) : WalkStep → WalkStep
  | .ended spot => .ended (spot.filled place bytes)
  | .failed fault => .failed fault
  | .link base target rest => .link base target rest

namespace FileSystem

def target? (files : FileSystem) (path : String) : Option Place :=
  match files.resolve true path with
  | .ok spot => spot.target?
  | .error _ => none

def Writable (files : FileSystem) (place : Place) : Prop :=
  place ≠ [] ∧ ∀ node, files.node? place = some node → ∃ content, node = .file content

variable {files : FileSystem} {place : Place}

/-! ## Entries -/

theorem home_put (files : FileSystem) (place : Place) (node : Node) :
    (files.put place node).home = files.home := by
  unfold put
  split <;> rfl

theorem node?_put (files : FileSystem) (inside : place ≠ []) (node : Node) (other : Place) :
    (files.put place node).node? other = if other = place then some node else files.node? other := by
  by_cases root : other = []
  · subst root
    rw [if_neg (Ne.symm inside), node?_nil, node?_nil]
  · rw [node?_of_ne_nil _ root, node?_of_ne_nil _ root, put]
    have before := files.node?_of_ne_nil inside
    by_cases taken : (files.node? place).isSome
    · have names : ∀ entry : Place × Node,
          (if entry.1 = place then (place, node) else entry).1 = entry.1 := by
        intro entry
        split
        · exact Eq.symm ‹_›
        · rfl
      simp only [if_pos taken, List.find?_map, Function.comp_def, names]
      cases found : files.entries.find? fun entry => entry.1 = other with
      | none =>
        by_cases same : other = place
        · subst other
          rw [before, found] at taken
          cases taken
        · rw [if_neg same]
          rfl
      | some entry =>
        have named : entry.1 = other := by simpa using List.find?_some found
        simp only [Option.map_some, named]
        split <;> rfl
    · have vacant : (files.entries.find? fun entry => entry.1 = place) = none := by
        rw [before, Option.isSome_map] at taken
        exact Option.not_isSome_iff_eq_none.mp taken
      rw [if_neg taken, List.find?_append]
      by_cases same : other = place
      · subst other
        rw [vacant, if_pos rfl]
        simp
      · rw [if_neg same]
        simp [Ne.symm same]

theorem Writable.node?_put_of_ne_file (writable : files.Writable place) (bytes : Bytes)
    {other : Place} {node : Node} (found : files.node? other = some node)
    (proper : ∀ content, node ≠ .file content) :
    (files.put place (.file bytes)).node? other = some node := by
  have apart : other ≠ place := by
    rintro rfl
    obtain ⟨content, same⟩ := writable.2 node found
    exact proper content same
  rw [node?_put files writable.1, if_neg apart, found]

/-- A walk takes the same steps after a write, also if it is no longer to create a file. -/
theorem Goes.put (writable : files.Writable place) (bytes : Bytes) {creating later : Bool}
    (weaker : later = true → creating = true) {here : Place} {pieces : List String}
    {step : WalkStep} (goes : Goes files creating here pieces step) :
    Goes (files.put place (.file bytes)) later here pieces (step.filled place bytes) := by
  have after := files.node?_put writable.1 (.file bytes)
  induction goes with
  | @arrives here node found =>
    by_cases written : here = place
    · subst written
      simp only [WalkStep.filled, Spot.filled, if_true]
      exact .arrives (by rw [after, if_pos rfl])
    · simp only [WalkStep.filled, Spot.filled, if_neg written]
      exact .arrives (by rw [after, if_neg written, found])
  | stays directory still _ ih =>
    exact .stays (writable.node?_put_of_ne_file bytes directory nofun) still ih
  | climbs directory _ ih =>
    exact .climbs (writable.node?_put_of_ne_file bytes directory nofun) ih
  | @vacant here piece directory named free =>
    have directory := writable.node?_put_of_ne_file bytes directory nofun
    -- the place may be free no longer: then the walk enters the new file and ends there
    by_cases written : here ++ [piece] = place
    · subst written
      have filled := after (here ++ [piece])
      rw [if_pos rfl] at filled
      simp only [WalkStep.filled, Spot.filled, if_true]
      exact .enters directory named (fun _ more => absurd rfl more) filled nofun (.arrives filled)
    · simp only [WalkStep.filled, Spot.filled, if_neg written]
      exact .vacant directory named (by rw [after, if_neg written, free])
  | link directory named opens found =>
    exact .link (writable.node?_put_of_ne_file bytes directory nofun) named
      (fun create => opens (weaker create)) (writable.node?_put_of_ne_file bytes found nofun)
  | @enters here piece _ _ _ directory named opens found solid _ ih =>
    have opens := fun create => opens (weaker create)
    have directory := writable.node?_put_of_ne_file bytes directory nofun
    have filled := after (here ++ [piece])
    by_cases written : here ++ [piece] = place
    · rw [if_pos written] at filled
      exact .enters directory named opens filled nofun ih
    · rw [if_neg written, found] at filled
      exact .enters directory named opens filled solid ih

/-- A walk after a write took the same steps before, unless it stood at the place from the
start. -/
theorem Goes.of_put (rooted : files.Rooted) (writable : files.Writable place) (bytes : Bytes)
    {creating : Bool} {here : Place} {pieces : List String} {step : WalkStep}
    (goes : Goes (files.put place (.file bytes)) creating here pieces step) :
    here = place ∧ pieces = []
      ∨ ∃ first, Goes files creating here pieces first ∧ step = first.filled place bytes := by
  have after := files.node?_put writable.1 (.file bytes)
  have directory_before : ∀ {other : Place},
      (files.put place (.file bytes)).node? other = some .directory →
        files.node? other = some .directory ∧ other ≠ place := by
    intro other directory
    rw [after] at directory
    split at directory
    · cases directory
    · exact ⟨directory, ‹_›⟩
  induction goes with
  | @arrives here node found =>
    by_cases written : here = place
    · exact .inl ⟨written, rfl⟩
    · rw [after, if_neg written] at found
      exact .inr ⟨_, .arrives found, by simp [WalkStep.filled, Spot.filled, written]⟩
  | stays directory still _ ih =>
    obtain ⟨directory, apart⟩ := directory_before directory
    rcases ih with ⟨same, -⟩ | ⟨first, goes, same⟩
    · exact absurd same apart
    · exact .inr ⟨first, .stays directory still goes, same⟩
  | @climbs here _ _ directory _ ih =>
    obtain ⟨directory, -⟩ := directory_before directory
    rcases ih with ⟨same, -⟩ | ⟨first, goes, same⟩
    · -- the place above a directory is no place for a file
      rcases List.eq_nil_or_concat here with rfl | ⟨outer, inner, rfl⟩
      · exact absurd same.symm writable.1
      · rw [List.concat_eq_append] at directory same
        rw [List.dropLast_concat] at same
        obtain ⟨content, impossible⟩ := writable.2 _ (same ▸ rooted _ _ _ directory)
        cases impossible
    · exact .inr ⟨first, .climbs directory goes, same⟩
  | @vacant here piece directory named free =>
    obtain ⟨directory, -⟩ := directory_before directory
    rw [after] at free
    split at free
    · cases free
    · rename_i apart
      exact .inr ⟨_, .vacant directory named free, by simp [WalkStep.filled, Spot.filled, apart]⟩
  | @link here piece rest target directory named opens found =>
    obtain ⟨directory, -⟩ := directory_before directory
    rw [after] at found
    split at found
    · cases found
    · exact .inr ⟨_, .link directory named opens found, rfl⟩
  | @enters here piece rest step node directory named opens found solid later ih =>
    obtain ⟨there, -⟩ := directory_before directory
    by_cases written : here ++ [piece] = place
    · subst written
      -- a file is behind the last piece now, so that the walk ended here before as well
      have filled := after (here ++ [piece])
      rw [if_pos rfl] at filled
      obtain ⟨rfl, rfl⟩ := later.of_file filled
      right
      cases before : files.node? (here ++ [piece]) with
      | none => exact ⟨_, .vacant there named before, by simp [WalkStep.filled, Spot.filled]⟩
      | some old =>
        obtain ⟨content, rfl⟩ := writable.2 old before
        exact ⟨_, .enters there named opens before nofun (.arrives before),
          by simp [WalkStep.filled, Spot.filled]⟩
    · rw [after, if_neg written] at found
      rcases ih with ⟨same, -⟩ | ⟨first, goes, same⟩
      · exact absurd same written
      · exact .inr ⟨first, .enters there named opens found solid goes, same⟩

theorem Leads.put (writable : files.Writable place) (bytes : Bytes) {creating later : Bool}
    (weaker : later = true → creating = true) {links : Nat} {here : Place}
    {pieces : List String} {spot : Spot} (leads : Leads files creating links here pieces spot) :
    Leads (files.put place (.file bytes)) later links here pieces (spot.filled place bytes) := by
  induction leads with
  | ends goes => exact .ends (goes.put writable bytes weaker)
  | jumps goes full _ ih => exact .jumps (goes.put writable bytes weaker) full ih

theorem Leads.of_put (rooted : files.Rooted) (writable : files.Writable place) (bytes : Bytes)
    {creating : Bool} {links : Nat} {here : Place} {pieces : List String} {spot : Spot}
    (some : pieces ≠ [])
    (leads : Leads (files.put place (.file bytes)) creating links here pieces spot) :
    ∃ first, Leads files creating links here pieces first ∧ spot = first.filled place bytes := by
  induction leads with
  | ends goes =>
    rcases goes.of_put rooted writable bytes with ⟨-, none⟩ | ⟨step, before, same⟩
    · exact absurd none some
    · cases step with
      | ended first => exact ⟨first, .ends before, WalkStep.ended.inj same⟩
      | failed fault => cases same
      | link base target rest => cases same
  | @jumps _ _ _ _ rest target _ goes full _ ih =>
    rcases goes.of_put rooted writable bytes with ⟨-, none⟩ | ⟨step, before, same⟩
    · exact absurd none some
    · cases step with
      | ended first => cases same
      | failed fault => cases same
      | link base other more =>
        cases same
        obtain ⟨front, name, split⟩ := Path.pieces_eq_concat target
        obtain ⟨first, led, ends⟩ := ih (by simp [split])
        exact ⟨first, .jumps before full led, ends⟩

theorem resolve_put (writable : files.Writable place) (bytes : Bytes) {creating : Bool}
    (later : Bool) (weaker : later = true → creating = true) {path : String} {spot : Spot}
    (resolved : files.resolve creating path = .ok spot) :
    (files.put place (.file bytes)).resolve later path = .ok (spot.filled place bytes) := by
  obtain ⟨good, leads⟩ := resolve_eq_ok.mp resolved
  rw [resolve_eq_ok, home_put]
  exact ⟨good, leads.put writable bytes weaker⟩

theorem resolve_of_put (rooted : files.Rooted) (writable : files.Writable place) (bytes : Bytes)
    {creating : Bool} {path : String} {spot : Spot}
    (resolved : (files.put place (.file bytes)).resolve creating path = .ok spot) :
    ∃ first, files.resolve creating path = .ok first ∧ spot = first.filled place bytes := by
  obtain ⟨good, leads⟩ := resolve_eq_ok.mp resolved
  obtain ⟨front, name, split⟩ := Path.pieces_eq_concat path
  rw [home_put] at leads
  obtain ⟨first, before, same⟩ := leads.of_put rooted writable bytes (by simp [split])
  exact ⟨first, resolve_eq_ok.mpr ⟨good, before⟩, same⟩

/-! ## Targets -/

theorem target?_eq_some {path : String} :
    files.target? path = some place
      ↔ files.resolve true path = .ok (.vacant place)
        ∨ ∃ content, files.resolve true path = .ok (.entry place (.file content)) := by
  rw [target?]
  cases files.resolve true path with
  | error fault => simp
  | ok spot =>
    cases spot with
    | vacant other => simp [Spot.target?]
    | entry other node =>
      cases node with
      | file content => simp [Spot.target?]
      | directory => simp [Spot.target?]
      | link target => simp [Spot.target?]
      | fullDevice => simp [Spot.target?]

theorem writable_of_target? {path : String} (leads : files.target? path = some place) :
    files.Writable place := by
  rcases target?_eq_some.mp leads with resolved | ⟨content, resolved⟩
  · obtain ⟨free, directory, name, rfl, -⟩ := (resolve_eq_ok.mp resolved).2.node?_vacant
    refine ⟨by simp, ?_⟩
    intro node found
    rw [free] at found
    cases found
  · have found := (resolve_eq_ok.mp resolved).2.node?_entry
    constructor
    · rintro rfl
      cases found
    · intro node same
      rw [found] at same
      exact ⟨content, (Option.some.inj same).symm⟩

theorem resolve_put_target {path : String} (leads : files.target? path = some place)
    (bytes : Bytes) :
    (files.put place (.file bytes)).resolve false path = .ok (.entry place (.file bytes)) := by
  have writable := writable_of_target? leads
  rcases target?_eq_some.mp leads with resolved | ⟨content, resolved⟩
  · rw [resolve_put writable bytes false nofun resolved]
    simp [Spot.filled]
  · rw [resolve_put writable bytes false nofun resolved]
    simp [Spot.filled]

theorem find_put_target {path : String} (leads : files.target? path = some place)
    (bytes : Bytes) : (files.put place (.file bytes)).find path = .file bytes := by
  rw [find, resolve_put_target leads bytes]

theorem find_put_of_resolve (writable : files.Writable place) (bytes : Bytes) {path : String}
    {other : Place} {content : Bytes}
    (resolved : files.resolve false path = .ok (.entry other (.file content))) :
    (files.put place (.file bytes)).find path
      = .file (if other = place then bytes else content) := by
  rw [find, resolve_put writable bytes false nofun resolved]
  by_cases same : other = place
  · simp [Spot.filled, same]
  · simp [Spot.filled, same]

theorem Writable.target?_filled (writable : files.Writable place) (bytes : Bytes) {path : String}
    {spot : Spot} (resolved : files.resolve true path = .ok spot) :
    (spot.filled place bytes).target? = spot.target? := by
  cases spot with
  | vacant other =>
    by_cases same : other = place
    · simp [Spot.filled, Spot.target?, same]
    · simp [Spot.filled, same]
  | entry other node =>
    by_cases same : other = place
    · subst other
      obtain ⟨content, rfl⟩ := writable.2 node (resolve_eq_ok.mp resolved).2.node?_entry
      simp [Spot.filled, Spot.target?]
    · simp [Spot.filled, same]

theorem target?_put (rooted : files.Rooted) (writable : files.Writable place) (bytes : Bytes)
    (path : String) : (files.put place (.file bytes)).target? path = files.target? path := by
  rw [target?, target?]
  cases resolved : files.resolve true path with
  | ok spot =>
    rw [resolve_put writable bytes true id resolved]
    exact writable.target?_filled bytes resolved
  | error fault =>
    cases later : (files.put place (.file bytes)).resolve true path with
    | error other => rfl
    | ok spot =>
      obtain ⟨first, before, -⟩ := resolve_of_put rooted writable bytes later
      cases resolved.symm.trans before

/-! ## Writes -/

theorem write_of_target? {path : String} (leads : files.target? path = some place)
    (bytes : Bytes) (synced : Bool) :
    files.write path bytes synced = (.written, files.put place (.file bytes)) := by
  rcases target?_eq_some.mp leads with resolved | ⟨content, resolved⟩
  · rw [write, resolved]
  · rw [write, resolved]

theorem write_of_target?_none {path : String} (nowhere : files.target? path = none)
    (bytes : Bytes) (synced : Bool) :
    (files.write path bytes synced).2 = files
      ∧ ((∃ fault, (files.write path bytes synced).1 = .notCreated fault)
        ∨ ∃ place, files.resolve true path = .ok (.entry place .fullDevice)
          ∧ (bytes ≠ [] → ∃ fault, (files.write path bytes synced).1 = .notWritten fault)) := by
  rw [target?] at nowhere
  rw [write]
  cases resolved : files.resolve true path with
  | error fault => exact ⟨rfl, .inl ⟨fault, rfl⟩⟩
  | ok spot =>
    rw [resolved] at nowhere
    cases spot with
    | vacant place => cases nowhere
    | entry place node =>
      cases node with
      | file content => cases nowhere
      | directory => exact ⟨rfl, .inl ⟨.isDirectory, rfl⟩⟩
      | link target => exact ⟨rfl, .inl ⟨.tooManyLinks, rfl⟩⟩
      | fullDevice =>
        by_cases none : bytes = []
        · subst none
          refine ⟨?_, .inr ⟨place, rfl, fun some => absurd rfl some⟩⟩
          cases synced with
          | true => rfl
          | false => rfl
        · have some : bytes.isEmpty = false := List.isEmpty_eq_false_iff.mpr none
          simp only [some, Bool.not_false, if_true]
          exact ⟨trivial, .inr ⟨place, rfl, fun _ => ⟨.noSpace, rfl⟩⟩⟩

theorem files_write (files : FileSystem) (path : String) (bytes : Bytes) (synced : Bool) :
    (files.write path bytes synced).2
      = match files.target? path with
        | some place => files.put place (.file bytes)
        | none => files := by
  cases leads : files.target? path with
  | some place => rw [write_of_target? leads]
  | none => exact (write_of_target?_none leads bytes synced).1

/-- What a write of some bytes does: it goes to the target of the path, or the file could
not be opened, or the path leads to the device. -/
theorem write_cases (files : FileSystem) (path : String) {bytes : Bytes} (full : bytes ≠ [])
    (synced : Bool) :
    (∃ place, files.target? path = some place
        ∧ files.write path bytes synced = (.written, files.put place (.file bytes)))
      ∨ (∃ fault, files.target? path = none
        ∧ files.write path bytes synced = (.notCreated fault, files))
      ∨ ∃ fault place, files.target? path = none
        ∧ files.resolve true path = .ok (.entry place .fullDevice)
        ∧ files.write path bytes synced = (.notWritten fault, files) := by
  cases leads : files.target? path with
  | some place => exact .inl ⟨place, rfl, write_of_target? leads bytes synced⟩
  | none =>
    obtain ⟨same, ⟨fault, shut⟩ | ⟨place, device, refused⟩⟩ :=
      write_of_target?_none leads bytes synced
    · exact .inr (.inl ⟨fault, rfl, Prod.ext shut same⟩)
    · obtain ⟨fault, noSpace⟩ := refused full
      exact .inr (.inr ⟨fault, place, rfl, device, Prod.ext noSpace same⟩)

/-! ## Removing -/

end FileSystem
end SegmentContainer
