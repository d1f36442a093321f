import SegmentContainer.Proofs.Export.Room

/-!
# Stopping an export

An export looks for a request to stop before each read and before each symbol, also
before a symbol that it leaves out.  The first look that finds one decides how it ends;
if none does, it ends as if nobody had asked.
-/

set_option autoImplicit false

namespace SegmentContainer

def Surroundings.undisturbed (surroundings : Surroundings) : Surroundings :=
  { surroundings with stop := fun _ => false }

theorem Image.length_selected (image : Image) :
    image.selected.length = image.regions.countP (·.initialized) := by
  rw [image.selected_exportOrder.complete.length_eq, ← List.countP_eq_length_filter,
    ← image.map_region_placed, List.countP_map]
  rfl

namespace Export

/-- The looks from number `first` on and before number `last` find no request to stop. -/
def Awake (stop : Nat → Bool) (first last : Nat) : Prop :=
  ∀ number, first ≤ number → number < last → stop number = false

/-- Of the looks from number `first` on the one with this number is the first that finds
a request to stop. -/
structure StopsAt (stop : Nat → Bool) (first number : Nat) : Prop where
  awake : Awake stop first number
  stops : stop number = true

theorem Awake.tail {stop : Nat → Bool} {first last : Nat} (awake : Awake stop first last) :
    Awake stop (first + 1) last := by
  intro number above below
  exact awake number (by omega) below

theorem StopsAt.tail {stop : Nat → Bool} {first number : Nat} (stops : StopsAt stop first number) :
    StopsAt stop (first + 1) number :=
  ⟨stops.awake.tail, stops.stops⟩

/-! ## The loop over the regions -/

variable {policy : ReadFailurePolicy} {surroundings : Surroundings}

theorem gather_of_stopsAt
    (returns : ∀ number placed reason, surroundings.read number placed ≠ .crashed reason)
    {number index : Nat} {order : List Placed} (inside : index < order.length)
    (stops : StopsAt surroundings.stop number (number + index)) :
    gather policy surroundings number order
      = ⟨order.take index, .error (.failed (.cancelled .regions (number + index)))⟩ := by
  -- one look is made for each region, so that the request comes closer by one with each
  induction order generalizing number index with
  | nil => exact absurd inside (Nat.not_lt_zero index)
  | cons placed rest ih =>
    cases index with
    | zero =>
      have asked : surroundings.stop number = true := stops.stops
      rw [gather, if_pos asked]
      rfl
    | succ index =>
      have quiet : surroundings.stop number = false :=
        stops.awake number (Nat.le_refl number) (by omega)
      obtain ⟨first, settled⟩ : ∃ first,
          settle policy placed.region (surroundings.read number placed) = .ok first :=
        settle_ok_of_returns placed.region (returns number placed)
      have shift : number + (index + 1) = number + 1 + index := by omega
      have later : gather policy surroundings (number + 1) rest
          = ⟨rest.take index, .error (.failed (.cancelled .regions (number + 1 + index)))⟩ :=
        ih (Nat.lt_of_succ_lt_succ inside) (shift ▸ stops.tail)
      rw [gather, quiet, settled, shift]
      simp only [Bool.false_eq_true, if_false, later]
      rfl

theorem gather_of_awake {number : Nat} {order : List Placed}
    (awake : Awake surroundings.stop number (number + order.length)) :
    gather policy surroundings number order
      = gather policy surroundings.undisturbed number order := by
  induction order generalizing number with
  | nil => rfl
  | cons placed rest ih =>
    have quiet : surroundings.stop number = false :=
      awake number (Nat.le_refl number) (by rw [List.length_cons]; omega)
    have shift : number + (placed :: rest).length = number + 1 + rest.length := by
      rw [List.length_cons]
      omega
    have later : gather policy surroundings (number + 1) rest
        = gather policy surroundings.undisturbed (number + 1) rest :=
      ih (shift ▸ awake.tail)
    have undisturbed : surroundings.undisturbed.stop number = false := rfl
    rw [gather, gather, quiet, undisturbed, later]
    rfl

/-! ## The looks before the symbols -/

theorem firstStop_of_stopsAt {stop : Nat → Bool} {looks before index count : Nat}
    (inside : index < count) (stops : StopsAt stop looks (looks + index)) :
    firstStop stop looks before count = some (before + index) := by
  induction count generalizing looks before index with
  | zero => exact absurd inside (Nat.not_lt_zero index)
  | succ count ih =>
    cases index with
    | zero =>
      have asked : stop looks = true := stops.stops
      rw [firstStop, if_pos asked]
      rfl
    | succ index =>
      have quiet : stop looks = false :=
        stops.awake looks (Nat.le_refl looks) (by omega)
      have shift : looks + (index + 1) = looks + 1 + index := by omega
      have later : firstStop stop (looks + 1) (before + 1) count = some (before + 1 + index) :=
        ih (Nat.lt_of_succ_lt_succ inside) (shift ▸ stops.tail)
      rw [firstStop, quiet, if_neg Bool.false_ne_true, later]
      congr 1
      omega

theorem firstStop_of_awake {stop : Nat → Bool} {looks before count : Nat}
    (awake : Awake stop looks (looks + count)) : firstStop stop looks before count = none := by
  induction count generalizing looks before with
  | zero => rfl
  | succ count ih =>
    have quiet : stop looks = false := awake looks (Nat.le_refl looks) (by omega)
    have shift : looks + (count + 1) = looks + 1 + count := by omega
    rw [firstStop, quiet, if_neg Bool.false_ne_true]
    exact ih (shift ▸ awake.tail)

/-! ## Whole runs -/

variable {memory : Memory} {options : ExportOptions} {image : Image}

/-- When no look before a read finds a request, all regions are read, and the rest of the
run depends on what was taken and on the looks before the symbols. -/
theorem run_of_awake (memory : Memory) (options : ExportOptions)
    (returns : ∀ number placed reason, surroundings.read number placed ≠ .crashed reason)
    (awake : Awake surroundings.stop 0 image.selected.length) :
    ∃ taken,
      taken.filterMap Taken.written?
          = writtenFrom options.onReadError surroundings.read 0 image.selected
        ∧ run memory options image surroundings
          = ⟨image.selected, finish memory options.onReadError image surroundings.stop
              image.selected.length taken⟩
        ∧ run memory options image surroundings.undisturbed
          = ⟨image.selected, finish memory options.onReadError image (fun _ => false)
              image.selected.length taken⟩ := by
  have never : ∀ number, surroundings.undisturbed.stop number = false := fun _ => rfl
  obtain ⟨taken, gathered⟩ : ∃ taken, (gather options.onReadError surroundings.undisturbed 0
      image.selected).result = .ok taken :=
    gather_ok_of_returns never returns 0 image.selected
  have asked := calls_of_gather_ok gathered
  have written := written?_of_gather_ok gathered
  have same : gather options.onReadError surroundings 0 image.selected
      = gather options.onReadError surroundings.undisturbed 0 image.selected :=
    gather_of_awake ((Nat.zero_add _).symm ▸ awake)
  refine ⟨taken, written, ?_, ?_⟩
  · rw [run, same, gathered, asked]
    rfl
  · rw [run, gathered, asked]
    rfl

theorem run_of_stopsAt_read (memory : Memory) (options : ExportOptions)
    (returns : ∀ number placed reason, surroundings.read number placed ≠ .crashed reason)
    {index : Nat} (inside : index < image.selected.length)
    (stops : StopsAt surroundings.stop 0 index) :
    run memory options image surroundings
      = ⟨image.selected.take index, .error (.failed (.cancelled .regions index))⟩ := by
  have gathered : gather options.onReadError surroundings 0 image.selected
      = ⟨image.selected.take index, .error (.failed (.cancelled .regions (0 + index)))⟩ :=
    gather_of_stopsAt returns inside ((Nat.zero_add index).symm ▸ stops)
  rw [run, gathered, Nat.zero_add]
  rfl

theorem result_of_noRoom {fault : RoomFault}
    (returns : ∀ number placed reason, surroundings.read number placed ≠ .crashed reason)
    (awake : Awake surroundings.stop 0 image.selected.length)
    (refused : memory.refusal? (roomFor
      (writtenFrom options.onReadError surroundings.read 0 image.selected)) = some fault) :
    (run memory options image surroundings).result
      = .error (.failed (.bufferAllocation fault)) := by
  obtain ⟨taken, written, ran, -⟩ := run_of_awake memory options returns awake
  rw [ran, finish_eq, written, refused]

theorem result_of_stopsAt_symbol {index : Nat}
    (returns : ∀ number placed reason, surroundings.read number placed ≠ .crashed reason)
    (awake : Awake surroundings.stop 0 image.selected.length)
    (room : memory.refusal? (roomFor
      (writtenFrom options.onReadError surroundings.read 0 image.selected)) = none)
    (inside : index < image.symbols.length)
    (stops : StopsAt surroundings.stop image.selected.length (image.selected.length + index)) :
    (run memory options image surroundings).result
      = .error (.failed (.cancelled .symbols index)) := by
  obtain ⟨taken, written, ran, -⟩ := run_of_awake memory options returns awake
  simp only [ran, finish_eq, written, room, firstStop_of_stopsAt inside stops, Nat.zero_add]

theorem run_of_unasked (memory : Memory) (options : ExportOptions)
    (returns : ∀ number placed reason, surroundings.read number placed ≠ .crashed reason)
    (awake : Awake surroundings.stop 0 image.selected.length)
    (symbols : Awake surroundings.stop image.selected.length
      (image.selected.length + image.symbols.length)) :
    run memory options image surroundings
      = run memory options image surroundings.undisturbed := by
  obtain ⟨taken, -, ran, undisturbed⟩ := run_of_awake memory options returns awake
  have nobody : Awake (fun _ => false) image.selected.length
      (image.selected.length + image.symbols.length) := fun _ _ _ => rfl
  rw [ran, undisturbed, finish_eq, finish_eq, firstStop_of_awake symbols,
    firstStop_of_awake nobody]

theorem run_succeeds_of_unasked
    (returns : ∀ number placed reason, surroundings.read number placed ≠ .crashed reason)
    (awake : Awake surroundings.stop 0 image.selected.length)
    (symbols : Awake surroundings.stop image.selected.length
      (image.selected.length + image.symbols.length))
    (room : memory.refusal? (roomFor
      (writtenFrom options.onReadError surroundings.read 0 image.selected)) = none)
    (small : roomFor (writtenFrom options.onReadError surroundings.read 0 image.selected)
      + Container.payloadSize image.entries < 2 ^ 63) :
    ∃ stream, (run memory options image surroundings).result = .ok stream := by
  obtain ⟨taken, written, ran, -⟩ := run_of_awake memory options returns awake
  refine ⟨assemble options.onReadError image taken, ?_⟩
  simp only [ran, finish_eq, written, room, firstStop_of_awake symbols, if_pos small]

/-- How an export ends, for all that its looks may find, when it reads regions in this
order and needs so much room.  The looks before the symbols are numbered on from those
before the reads. -/
structure EndsByLooks (memory : Memory) (options : ExportOptions) (image : Image)
    (surroundings : Surroundings) (order : List Placed) (room : Nat) : Prop where
  /-- A request found before a read ends it; the earlier reads took place. -/
  beforeRead : ∀ index < order.length, StopsAt surroundings.stop 0 index →
    run memory options image surroundings
      = ⟨order.take index, .error (.failed (.cancelled .regions index))⟩
  /-- Otherwise every region is read. -/
  allRead : Awake surroundings.stop 0 order.length →
    (run memory options image surroundings).calls = order
  /-- Then it fails where there is no room, whatever the later looks would find. -/
  noRoom : Awake surroundings.stop 0 order.length →
    ∀ fault, memory.refusal? room = some fault →
      (run memory options image surroundings).result
        = .error (.failed (.bufferAllocation fault))
  /-- Then a request found before a symbol ends it. -/
  beforeSymbol : Awake surroundings.stop 0 order.length → memory.refusal? room = none →
    ∀ index < image.symbols.length,
      StopsAt surroundings.stop order.length (order.length + index) →
        (run memory options image surroundings).result
          = .error (.failed (.cancelled .symbols index))
  /-- Otherwise it is the export that nobody disturbs, which succeeds if there is room and
  the container is shorter than the largest buffer. -/
  unasked : Awake surroundings.stop 0 order.length →
    Awake surroundings.stop order.length (order.length + image.symbols.length) →
      run memory options image surroundings
          = run memory options image surroundings.undisturbed
        ∧ (memory.refusal? room = none →
            room + Container.payloadSize image.entries < 2 ^ 63 →
              ∃ stream, (run memory options image surroundings).result = .ok stream)

/-- The first look that finds a request to stop decides how an export ends, and nothing of
a container is left then.  In particular a request that comes during a read is found after
that read: before the next one, or else before the first symbol, or else not at all. -/
theorem stop_is_all_or_nothing (memory : Memory) (options : ExportOptions) (image : Image)
    (surroundings : Surroundings)
    (returns : ∀ number placed reason, surroundings.read number placed ≠ .crashed reason) :
    ∃ order room, image.ExportOrder order
      ∧ order.length = image.regions.countP (·.initialized)
      ∧ room = roomFor (writtenFrom options.onReadError surroundings.read 0 order)
      ∧ EndsByLooks memory options image surroundings order room
      ∧ ∀ during < order.length, StopsAt surroundings.stop 0 (during + 1) →
          (during + 1 < order.length →
            run memory options image surroundings
              = ⟨order.take (during + 1), .error (.failed (.cancelled .regions (during + 1)))⟩)
          ∧ (during + 1 = order.length → memory.refusal? room = none →
              (image.symbols ≠ [] →
                (run memory options image surroundings).result
                  = .error (.failed (.cancelled .symbols 0)))
              ∧ (image.symbols = [] →
                run memory options image surroundings
                    = run memory options image surroundings.undisturbed
                  ∧ ∃ stream, (run memory options image surroundings).result = .ok stream)) := by
  refine ⟨image.selected, _, image.selected_exportOrder, image.length_selected, rfl, ?_, ?_⟩
  · constructor
    case beforeRead => exact fun index => run_of_stopsAt_read memory options returns
    case allRead =>
      intro awake
      obtain ⟨taken, -, ran, -⟩ := run_of_awake memory options returns awake
      rw [ran]
    case noRoom => exact fun awake fault => result_of_noRoom returns awake
    case beforeSymbol =>
      exact fun awake room index => result_of_stopsAt_symbol returns awake room
    case unasked =>
      exact fun awake symbols => ⟨run_of_unasked memory options returns awake symbols,
        run_succeeds_of_unasked returns awake symbols⟩
  · intro during inside stops
    refine ⟨fun more => run_of_stopsAt_read memory options returns more stops, ?_⟩
    intro last room
    have awake : Awake surroundings.stop 0 image.selected.length := last ▸ stops.awake
    constructor
    -- the next look is the first one before a symbol, if there is any
    · intro some
      have first : StopsAt surroundings.stop image.selected.length
          (image.selected.length + 0) := by
        refine ⟨fun number above below => absurd above (Nat.not_le_of_lt below), ?_⟩
        rw [Nat.add_zero, ← last]
        exact stops.stops
      exact result_of_stopsAt_symbol returns awake room (List.length_pos_of_ne_nil some) first
    · intro none
      have symbols : Awake surroundings.stop image.selected.length
          (image.selected.length + image.symbols.length) := by
        rw [none]
        exact fun number above below => absurd above (Nat.not_le_of_lt below)
      have payload : Container.payloadSize image.entries = 0 := by
        rw [Image.entries, none]
        rfl
      have small := ((memory.refusal?_eq_none_iff _).mp room).1
      exact ⟨run_of_unasked memory options returns awake symbols,
        run_succeeds_of_unasked returns awake symbols room (by rw [payload]; exact small)⟩

/-- The sample with a request that is found at the look with number 3, which is the one
before the second symbol. -/
def lateRequest : Surroundings :=
  { sampleAnswers with stop := fun number => number = 3 }

theorem stop_in_sample :
    (∀ number placed reason, lateRequest.read number placed ≠ .crashed reason)
      ∧ sampleImage.ExportOrder (run Memory.usual ⟨.zeroFill⟩ sampleImage lateRequest).calls
      ∧ (run Memory.usual ⟨.zeroFill⟩ sampleImage lateRequest).result
          = .error (.failed (.cancelled .symbols 1)) := by
  obtain ⟨order, room, inOrder, count, size, ends, -⟩ := stop_is_all_or_nothing Memory.usual
    ⟨.zeroFill⟩ sampleImage lateRequest sampleAnswers_returns
  have two : order.length = 2 := count.trans rfl
  have awake : Awake lateRequest.stop 0 order.length := by
    intro number above below
    have apart : number ≠ 3 := by omega
    exact decide_eq_false apart
  have asked := ends.allRead awake
  have known : order = sampleImage.selected := by
    rw [← asked, run, selected_sampleImage]
    rfl
  have granted : Memory.usual.refusal? room = none := by
    rw [size, known, selected_sampleImage]
    decide +kernel
  have stops : StopsAt lateRequest.stop order.length (order.length + 1) := by
    rw [two]
    refine ⟨fun number above below => ?_, rfl⟩
    have apart : number ≠ 3 := by omega
    exact decide_eq_false apart
  exact ⟨sampleAnswers_returns, asked ▸ inOrder,
    ends.beforeSymbol awake granted 1 (by decide) stops⟩

end Export
end SegmentContainer
