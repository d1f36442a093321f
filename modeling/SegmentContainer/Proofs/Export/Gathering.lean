import SegmentContainer.Proofs.Export.Carried

/-!
# Reading the regions of an export

One step of the loop over the regions looks for a request to stop, asks for a region and
settles the outcome.  A loop that comes to its end has asked for every region of its list
in order, and what it took is what the container carries for them.
-/

set_option autoImplicit false

namespace SegmentContainer.Export

variable {policy : ReadFailurePolicy} {surroundings : Surroundings}

/-- The loop comes to its end exactly when its first step does not halt and the rest
comes to its end. -/
theorem gather_cons_ok_iff (number : Nat) (placed : Placed) (rest : List Placed)
    (taken : List Taken) :
    (gather policy surroundings number (placed :: rest)).result = .ok taken
      ↔ surroundings.stop number = false
        ∧ ∃ first later,
          settle policy placed.region (surroundings.read number placed) = .ok first
            ∧ (gather policy surroundings (number + 1) rest).result = .ok later
            ∧ taken = first :: later := by
  rw [gather]
  cases stopped : surroundings.stop number with
  | true => simp
  | false =>
    cases settled : settle policy placed.region (surroundings.read number placed) with
    | error halt => simp
    | ok first =>
      cases gathered : (gather policy surroundings (number + 1) rest).result with
      | error halt => simp [Gathering.cons, gathered, Except.map]
      | ok later => simp [Gathering.cons, gathered, Except.map, eq_comm]

theorem calls_gather_cons {number : Nat} {placed : Placed} {rest : List Placed} {first : Taken}
    (awake : surroundings.stop number = false)
    (settled : settle policy placed.region (surroundings.read number placed) = .ok first) :
    (gather policy surroundings number (placed :: rest)).calls
      = placed :: (gather policy surroundings (number + 1) rest).calls := by
  simp [gather, awake, settled, Gathering.cons]

theorem calls_gather_isPrefix (number : Nat) (order : List Placed) :
    (gather policy surroundings number order).calls <+: order := by
  induction order generalizing number with
  | nil => exact List.nil_prefix
  | cons placed rest ih =>
    rw [gather]
    split
    · exact List.nil_prefix
    · cases settle policy placed.region (surroundings.read number placed) with
      | error halt => exact List.cons_prefix_cons.mpr ⟨rfl, List.nil_prefix⟩
      | ok taken => exact List.cons_prefix_cons.mpr ⟨rfl, ih (number + 1)⟩

theorem calls_of_gather_ok {number : Nat} {order : List Placed} {taken : List Taken}
    (gathered : (gather policy surroundings number order).result = .ok taken) :
    (gather policy surroundings number order).calls = order := by
  induction order generalizing number taken with
  | nil => rfl
  | cons placed rest ih =>
    obtain ⟨awake, first, later, settled, restGathered, -⟩ :=
      (gather_cons_ok_iff number placed rest taken).mp gathered
    rw [calls_gather_cons awake settled, ih restGathered]

theorem settle_ok_of_returns (region : Region) {outcome : ReadOutcome}
    (returns : ∀ reason, outcome ≠ .crashed reason) :
    ∃ taken, settle policy region outcome = .ok taken := by
  cases outcome with
  | data bytes =>
    simp only [settle]
    split
    · exact ⟨_, rfl⟩
    · exact ⟨_, rfl⟩
  | failed error => exact ⟨_, rfl⟩
  | crashed reason => exact absurd rfl (returns reason)

theorem gather_ok_of_returns (never : ∀ number, surroundings.stop number = false)
    (returns : ∀ number placed reason, surroundings.read number placed ≠ .crashed reason)
    (number : Nat) (order : List Placed) :
    ∃ taken, (gather policy surroundings number order).result = .ok taken := by
  induction order generalizing number with
  | nil => exact ⟨[], rfl⟩
  | cons placed rest ih =>
    obtain ⟨first, settled⟩ := settle_ok_of_returns placed.region (returns number placed)
    obtain ⟨later, gathered⟩ := ih (number + 1)
    exact ⟨first :: later, (gather_cons_ok_iff number placed rest _).mpr
      ⟨never number, first, later, settled, gathered, rfl⟩⟩

theorem settle_eq_error_iff (region : Region) (outcome : ReadOutcome) (halt : Halt) :
    settle policy region outcome = .error halt
      ↔ ∃ reason, outcome = .crashed reason ∧ halt = .crashed reason := by
  cases outcome with
  | data bytes =>
    simp only [settle]
    split <;> simp
  | failed error => simp [settle]
  | crashed reason => simp [settle, eq_comm]

/-- The loop ends early on a request to stop, or where a read crashes. -/
theorem halt_of_gather {halt : Halt} {number : Nat} {order : List Placed}
    (ended : (gather policy surroundings number order).result = .error halt) :
    (∃ count, halt = .failed (.cancelled .regions count))
      ∨ ∃ reason, halt = .crashed reason
          ∧ ∃ placed ∈ order, ∃ call, surroundings.read call placed = .crashed reason := by
  induction order generalizing number with
  | nil => cases ended
  | cons placed rest ih =>
    rw [gather] at ended
    split at ended
    · exact .inl ⟨number, (Except.error.inj ended).symm⟩
    · cases settled : settle policy placed.region (surroundings.read number placed) with
      | error first =>
        obtain ⟨reason, outcome, rfl⟩ := (settle_eq_error_iff _ _ _).mp settled
        simp only [settled, Except.error.injEq] at ended
        exact .inr ⟨reason, ended.symm, placed, List.mem_cons_self, number, outcome⟩
      | ok taken =>
        simp only [settled, Gathering.cons] at ended
        cases later : (gather policy surroundings (number + 1) rest).result with
        | error other =>
          simp only [later, Except.map, Except.error.injEq] at ended
          subst other
          rcases ih later with stopped | ⟨reason, crashed, other, inside, call, outcome⟩
          · exact .inl stopped
          · exact .inr ⟨reason, crashed, other, List.mem_cons_of_mem _ inside, call, outcome⟩
        | ok more => simp [later, Except.map] at ended

theorem gather_crashed_of_mem (policy : ReadFailurePolicy)
    (never : ∀ number, surroundings.stop number = false) {placed : Placed}
    (crashes : ∀ call, ∃ reason, surroundings.read call placed = .crashed reason)
    (number : Nat) {order : List Placed} (member : placed ∈ order) :
    ∃ reason, (gather policy surroundings number order).result = .error (.crashed reason) := by
  induction order generalizing number with
  | nil => cases member
  | cons first rest ih =>
    rw [gather, never number]
    cases settled : settle policy first.region (surroundings.read number first) with
    | error halt =>
      obtain ⟨reason, -, rfl⟩ := (settle_eq_error_iff _ _ _).mp settled
      exact ⟨reason, rfl⟩
    | ok taken =>
      rcases List.mem_cons.mp member with rfl | member
      · obtain ⟨reason, outcome⟩ := crashes number
        rw [outcome] at settled
        cases settled
      · obtain ⟨reason, later⟩ := ih (number + 1) member
        refine ⟨reason, ?_⟩
        simp [Gathering.cons, later, Except.map]

theorem forall₂_of_gather_ok {number : Nat} {order : List Placed} {taken : List Taken}
    (gathered : (gather policy surroundings number order).result = .ok taken) :
    List.Forall₂ (fun placed held => ∃ call,
      settle policy placed.region (surroundings.read call placed) = .ok held) order taken := by
  induction order generalizing number taken with
  | nil =>
    obtain rfl := Except.ok.inj gathered
    exact .nil
  | cons placed rest ih =>
    obtain ⟨-, first, later, settled, restGathered, rfl⟩ :=
      (gather_cons_ok_iff number placed rest taken).mp gathered
    exact .cons ⟨number, settled⟩ (ih restGathered)

theorem settles_of_gather_ok {number : Nat} {order : List Placed} {taken : List Taken}
    (gathered : (gather policy surroundings number order).result = .ok taken) :
    ∀ held ∈ taken, ∃ placed ∈ order, ∃ outcome,
      settle policy placed.region outcome = .ok held := by
  intro held member
  obtain ⟨index, inside, rfl⟩ := List.getElem_of_mem member
  obtain ⟨count, settled⟩ := List.forall₂_iff_get.mp (forall₂_of_gather_ok gathered)
  obtain ⟨call, done⟩ := settled index (count ▸ inside) inside
  exact ⟨_, List.getElem_mem (count ▸ inside), _, done⟩

theorem settled_of_gather_ok {number : Nat} {order : List Placed} {taken : List Taken}
    (admitted : ∀ placed ∈ order, placed.region.Admitted)
    (gathered : (gather policy surroundings number order).result = .ok taken) :
    ∀ region ∈ taken, region.Settled := by
  intro region member
  obtain ⟨placed, inside, outcome, settled⟩ := settles_of_gather_ok gathered region member
  exact settled_of_settle (admitted placed inside) settled

theorem written?_of_gather_ok {number : Nat} {order : List Placed} {taken : List Taken}
    (gathered : (gather policy surroundings number order).result = .ok taken) :
    taken.filterMap Taken.written? = writtenFrom policy surroundings.read number order := by
  induction order generalizing number taken with
  | nil =>
    obtain rfl := Except.ok.inj gathered
    rfl
  | cons placed rest ih =>
    obtain ⟨-, first, later, settled, restGathered, rfl⟩ :=
      (gather_cons_ok_iff number placed rest taken).mp gathered
    rw [writtenFrom, ← written?_of_settle settled, ← ih restGathered]
    cases held : first.written? with
    | none => exact List.filterMap_cons_none held
    | some region => exact List.filterMap_cons_some held

/-! ## Whole runs -/

/-- A run that succeeds has read all selected regions, and its stream is what is
assembled from them, within the largest size of a buffer. -/
theorem run_ok_iff (memory : Memory) (options : ExportOptions) (image : Image)
    (surroundings : Surroundings) (stream : ExportStream) :
    (run memory options image surroundings).result = .ok stream
      ↔ ∃ taken,
        (gather options.onReadError surroundings 0 image.selected).result = .ok taken
          ∧ reserve memory (kept taken) = .ok ()
          ∧ firstStop surroundings.stop image.selected.length 0 image.symbols.length = none
          ∧ stream = assemble options.onReadError image taken
          ∧ stream.summary.totalSize < Memory.bufferLimit := by
  simp only [run]
  cases gathered : (gather options.onReadError surroundings 0 image.selected).result with
  | error halt => simp [Except.bind]
  | ok taken =>
    simp only [Except.bind, finish, Except.ok.injEq, exists_eq_left']
    -- room, the looks and the size are asked for in this order
    cases reserved : reserve memory (kept taken) with
    | error fault => simp
    | ok _ =>
      cases stopped : firstStop surroundings.stop image.selected.length 0
          image.symbols.length with
      | some processed => simp
      | none =>
        dsimp only
        split
        · rename_i small
          constructor
          · intro same
            obtain rfl := Except.ok.inj same
            exact ⟨rfl, rfl, rfl, small⟩
          · rintro ⟨-, -, rfl, -⟩
            rfl
        · rename_i large
          constructor
          · intro same
            cases same
          · rintro ⟨-, -, rfl, small⟩
            exact absurd small large

end SegmentContainer.Export
