import SegmentContainer.Proofs.Container.Grammar
import SegmentContainer.Proofs.Export.Encoding

/-!
# Room for a container

Room is asked for before the first byte is written, and for all bytes but those of the
symbol payload.  How many these are depends only on the regions that are written, so that
the end of an export can be told from them, from the machine and from the looks for a
request to stop.
-/

set_option autoImplicit false

namespace SegmentContainer

/-- Why a machine gives no room for so many bytes, or `none` where it does. -/
def Memory.refusal? (memory : Memory) (size : Nat) : Option RoomFault :=
  if 2 ^ 64 ≤ size then some .notCountable
  else if 2 ^ 63 ≤ size then some (.tooLarge size)
  else if memory.grants size then none
  else some (.refused size)

def roomFor (regions : List ContainerRegion) : Nat :=
  Layout.emptyContainer + regions.length * Layout.regionHeader
    + (regions.flatMap (·.data)).length

theorem Memory.refusal?_eq_none_iff (memory : Memory) (size : Nat) :
    memory.refusal? size = none ↔ size < 2 ^ 63 ∧ memory.grants size = true := by
  unfold refusal?
  split
  · simp only [reduceCtorEq, false_iff, not_and]
    omega
  · split
    · simp only [reduceCtorEq, false_iff, not_and]
      omega
    · split
      · rename_i granted
        simp only [granted, true_iff, and_true]
        omega
      · rename_i refused
        simp [refused]

theorem Image.length_spelled (image : Image) (regions : List ContainerRegion) :
    (image.spelled regions).length = roomFor regions + Container.payloadSize image.entries := by
  have headers := Container.length_flatMap_encode_headers (regions.map (·.header))
  have empty : Layout.emptyContainer = 8 + 16 := rfl
  simp only [spelled, Container.encodeHeaders, Container.encodeSymbols, List.length_append,
    Bytes.length_ofWord, headers, List.length_map, Container.length_flatMap_encode, roomFor]
  omega

namespace Export

theorem Contents.length_data (contents : Contents) :
    contents.data.length = contents.length := by
  cases contents with
  | present bytes => rfl
  | zeros size => exact List.length_replicate
  | omitted => rfl
  | dropped => rfl

theorem capacity_kept (taken : List Taken) :
    capacity (kept taken) = roomFor (taken.filterMap Taken.written?) := by
  have data : ∀ regions : List Taken,
      regions.foldr (fun region size => region.contents.length + size) 0
        = (regions.flatMap (·.contents.data)).length := by
    intro regions
    induction regions with
    | nil => rfl
    | cons first rest ih =>
      rw [List.foldr_cons, ih, List.flatMap_cons, List.length_append, Contents.length_data]
  rw [filterMap_written?, capacity, roomFor, List.length_map, data, List.flatMap_map]

theorem reserve_kept (memory : Memory) (taken : List Taken) :
    reserve memory (kept taken)
      = match memory.refusal? (roomFor (taken.filterMap Taken.written?)) with
        | some fault => .error fault
        | none => .ok () := by
  rw [reserve, capacity_kept, Memory.refusal?, Memory.reserve]
  have words : UInt64.size = 2 ^ 64 := rfl
  have limit : Memory.bufferLimit = 2 ^ 63 := rfl
  rw [words, limit]
  split
  · rfl
  · split
    · rfl
    · split
      · rfl
      · rfl

variable {memory : Memory} {options : ExportOptions} {image : Image}
  {surroundings : Surroundings}

theorem result_of_gather_ok {taken : List Taken}
    (gathered : (gather options.onReadError surroundings 0 image.selected).result = .ok taken) :
    (run memory options image surroundings).result
      = finish memory options.onReadError image surroundings.stop image.selected.length taken := by
  rw [run, gathered]
  rfl

theorem finish_eq (memory : Memory) (policy : ReadFailurePolicy) (image : Image)
    (stop : Nat → Bool) (looks : Nat) (taken : List Taken) :
    finish memory policy image stop looks taken
      = match memory.refusal? (roomFor (taken.filterMap Taken.written?)) with
        | some fault => .error (.failed (.bufferAllocation fault))
        | none =>
          match firstStop stop looks 0 image.symbols.length with
          | some processed => .error (.failed (.cancelled .symbols processed))
          | none =>
            if roomFor (taken.filterMap Taken.written?) + Container.payloadSize image.entries
                < 2 ^ 63 then
              .ok (assemble policy image taken)
            else .error (.crashed "capacity overflow") := by
  have total : (assemble policy image taken).summary.totalSize
      = roomFor (taken.filterMap Taken.written?) + Container.payloadSize image.entries := by
    rw [totalSize_assemble, bytes_assemble, image.length_spelled]
  have limit : Memory.bufferLimit = 2 ^ 63 := rfl
  rw [finish, reserve_kept]
  cases memory.refusal? (roomFor (taken.filterMap Taken.written?)) with
  | some fault => rfl
  | none =>
    cases firstStop stop looks 0 image.symbols.length with
    | some processed => rfl
    | none => simp only [total, limit]

theorem exists_count_of_run_ok {stream : ExportStream}
    (exported : (run memory options image surroundings).result = .ok stream) :
    ∃ count rest, count < 2 ^ 59 ∧ stream.bytes = Bytes.ofWord (UInt64.ofNat count) ++ rest := by
  obtain ⟨spelled, -, -, small⟩ := spelled_of_run_ok exported
  have length := image.length_spelled
    (writtenFrom options.onReadError surroundings.read 0 image.selected)
  have header : Layout.regionHeader = 24 := rfl
  rw [← spelled, roomFor, header] at length
  refine ⟨_, _, ?_, by rw [spelled, Image.spelled, Container.encodeHeaders, List.append_assoc]⟩
  rw [List.length_map]
  omega

/-- An export that fails was told to stop or had no room.  It crashes only where a read does,
or where the container would be larger than any buffer. -/
theorem halt_of_run {halt : Halt}
    (ended : (run memory options image surroundings).result = .error halt) :
    (∃ stage count, halt = .failed (.cancelled stage count))
      ∨ (∃ fault, halt = .failed (.bufferAllocation fault))
      ∨ ∃ reason, halt = .crashed reason
          ∧ ((∃ placed ∈ image.selected, ∃ call, surroundings.read call placed = .crashed reason)
            ∨ 2 ^ 63 ≤ roomFor (writtenFrom options.onReadError surroundings.read 0 image.selected)
                + Container.payloadSize image.entries) := by
  cases gathered : (gather options.onReadError surroundings 0 image.selected).result with
  | error other =>
    rw [run, gathered] at ended
    obtain rfl := Except.error.inj ended
    rcases halt_of_gather gathered with ⟨count, stopped⟩ | ⟨reason, crashed, read⟩
    · exact .inl ⟨.regions, count, stopped⟩
    · exact .inr (.inr ⟨reason, crashed, .inl read⟩)
  | ok taken =>
    rw [result_of_gather_ok gathered, finish_eq, written?_of_gather_ok gathered] at ended
    split at ended
    · rename_i fault _
      exact .inr (.inl ⟨fault, (Except.error.inj ended).symm⟩)
    · split at ended
      · rename_i processed _
        exact .inl ⟨.symbols, processed, (Except.error.inj ended).symm⟩
      · split at ended
        · cases ended
        · right; right
          exact ⟨_, (Except.error.inj ended).symm, .inr (by omega)⟩

theorem crashed_of_run {reason : String}
    (crashed : (run memory options image surroundings).result = .error (.crashed reason)) :
    (∃ placed ∈ image.selected, ∃ call, surroundings.read call placed = .crashed reason)
      ∨ 2 ^ 63 ≤ roomFor (writtenFrom options.onReadError surroundings.read 0 image.selected)
          + Container.payloadSize image.entries := by
  rcases halt_of_run crashed with ⟨stage, count, same⟩ | ⟨fault, same⟩ | ⟨why, same, cause⟩
  · cases same
  · cases same
  · rwa [Halt.crashed.inj same]

end Export
end SegmentContainer
