import SegmentContainer.Proofs.Export.Policies
import SegmentContainer.Proofs.Export.Stopping

/-!
# Room for zeros

An image that can be exported without the regions that fail can be exported with zeros
for them exactly when there is room for the zeros.  A single region that no buffer can
hold is dropped instead; any smaller one is filled, and then it is the machine that
decides, about the container as a whole.
-/

set_option autoImplicit false

namespace SegmentContainer

theorem roomFor_cons (region : ContainerRegion) (rest : List ContainerRegion) :
    roomFor (region :: rest) = Layout.regionHeader + region.data.length + roomFor rest := by
  simp only [roomFor, List.length_cons, List.flatMap_cons, List.length_append, Nat.succ_mul]
  omega

namespace Export

variable {policy : ReadFailurePolicy} {surroundings : Surroundings}

theorem settle_ok_of_settle_ok {region : Region} {outcome : ReadOutcome} {taken : Taken}
    (settled : settle policy region outcome = .ok taken) (other : ReadFailurePolicy) :
    ∃ again, settle other region outcome = .ok again := by
  -- only a read that does not return keeps a region from being settled
  apply settle_ok_of_returns
  rintro reason rfl
  cases settled

theorem gather_ok_of_gather_ok {number : Nat} {order : List Placed} {taken : List Taken}
    (gathered : (gather policy surroundings number order).result = .ok taken)
    (other : ReadFailurePolicy) :
    ∃ again, (gather other surroundings number order).result = .ok again := by
  induction order generalizing number taken with
  | nil => exact ⟨[], rfl⟩
  | cons placed rest ih =>
    obtain ⟨quiet, first, later, settled, restGathered, -⟩ :=
      (gather_cons_ok_iff number placed rest taken).mp gathered
    obtain ⟨firstAgain, firstSettled⟩ := settle_ok_of_settle_ok settled other
    obtain ⟨laterAgain, laterGathered⟩ := ih restGathered
    exact ⟨firstAgain :: laterAgain, (gather_cons_ok_iff number placed rest _).mpr
      ⟨quiet, firstAgain, laterAgain, firstSettled, laterGathered, rfl⟩⟩

end Export

namespace SteadyImage

open Export

variable {image : SteadyImage} {memory : Memory} {policy : ReadFailurePolicy}
  {stream : ExportStream}

def roomOf (policy : ReadFailurePolicy) (entry : Region × ReadOutcome) : Nat :=
  match entry.1.written? policy entry.2 with
  | some region => Layout.regionHeader + region.data.length
  | none => 0

def zeroCost (entry : Region × ReadOutcome) : Nat :=
  if fails entry = true ∧ entry.1.size.toNat < 2 ^ 63 then
    Layout.regionHeader + entry.1.size.toNat
  else 0

def zeroRoom (image : SteadyImage) : Nat :=
  (image.order.map zeroCost).sum

theorem roomFor_written (image : SteadyImage) (policy : ReadFailurePolicy) :
    roomFor (image.written policy)
      = Layout.emptyContainer + (image.order.map (roomOf policy)).sum := by
  rw [written]
  induction image.order with
  | nil => rfl
  | cons entry rest ih =>
    rw [List.map_cons, List.sum_cons, roomOf, List.filterMap_cons]
    cases entry.1.written? policy entry.2 with
    | none =>
      dsimp only
      rw [ih, Nat.zero_add]
    | some region =>
      dsimp only
      rw [roomFor_cons, ih]
      omega

theorem roomOf_zeroFill {entry : Region × ReadOutcome} (ready : entry.1.initialized = true) :
    roomOf .zeroFill entry = roomOf .dropRegion entry + zeroCost entry := by
  cases failed : fails entry with
  | true =>
    rw [roomOf, roomOf, written?_of_fails failed, written?_of_fails failed, zeroCost, failed]
    by_cases small : entry.1.size.toNat < 2 ^ 63
    · rw [if_pos ⟨rfl, small⟩]
      simp only [ReadFailurePolicy.substitute?, if_pos small, Option.map_some, Option.map_none,
        List.length_replicate, Nat.zero_add]
    · rw [if_neg fun both => small both.2]
      simp only [ReadFailurePolicy.substitute?, if_neg small, Option.map_none]
  | false =>
    have complete := complete_of_not_fails ready failed
    have free : zeroCost entry = 0 := if_neg (by simp [failed])
    rw [roomOf, roomOf, written?_of_isSome complete, written?_of_isSome complete, free]
    rfl

theorem roomFor_written_zeroFill (image : SteadyImage) :
    roomFor (image.written .zeroFill)
      = roomFor (image.written .dropRegion) + image.zeroRoom := by
  have costs : image.order.map (roomOf .zeroFill)
      = image.order.map fun entry => roomOf .dropRegion entry + zeroCost entry :=
    List.map_congr_left fun _ member => roomOf_zeroFill (initialized_of_mem_order member)
  rw [roomFor_written, roomFor_written, zeroRoom, costs, List.sum_map_add, Nat.add_assoc]

theorem written_zeroFill_of_huge
    (huge : ∀ entry ∈ image.order, fails entry = true → 2 ^ 63 ≤ entry.1.size.toNat) :
    image.written .zeroFill = image.written .dropRegion := by
  apply List.filterMap_congr
  intro entry member
  cases failed : fails entry with
  | true =>
    have large := Nat.not_lt.mpr (huge entry member failed)
    rw [written?_of_fails failed, written?_of_fails failed, ReadFailurePolicy.substitute?,
      if_neg large]
    rfl
  | false =>
    have complete := complete_of_not_fails (initialized_of_mem_order member) failed
    rw [written?_of_isSome complete, written?_of_isSome complete]

/-- If an export succeeds under one policy, then under any other one all regions are read
as well, and the room alone decides how it ends. -/
theorem exported_eq_finish (success : image.exported memory policy = .ok stream)
    (other : ReadFailurePolicy) :
    ∃ taken, taken.filterMap Taken.written? = image.written other
      ∧ image.exported memory other = finish memory other image.toImage (fun _ => false)
          image.toImage.selected.length taken := by
  obtain ⟨taken, gathered, -⟩ := (run_ok_iff _ _ _ _ _).mp success
  obtain ⟨again, regathered⟩ := gather_ok_of_gather_ok gathered other
  refine ⟨again, ?_, result_of_gather_ok regathered⟩
  rw [written?_of_gather_ok regathered, writtenFrom_selected]

theorem exported_of_refused {fault : RoomFault}
    (success : image.exported memory policy = .ok stream) (other : ReadFailurePolicy)
    (refused : memory.refusal? (roomFor (image.written other)) = some fault) :
    image.exported memory other = .error (.failed (.bufferAllocation fault)) := by
  obtain ⟨taken, written, ends⟩ := exported_eq_finish success other
  rw [ends, finish_eq, written, refused]

theorem exported_ok_iff_of_exported (success : image.exported memory policy = .ok stream)
    (other : ReadFailurePolicy) :
    (∃ made, image.exported memory other = .ok made)
      ↔ memory.refusal? (roomFor (image.written other)) = none
        ∧ roomFor (image.written other) + Container.payloadSize image.toImage.entries
            < 2 ^ 63 := by
  obtain ⟨taken, written, ends⟩ := exported_eq_finish success other
  have nobody : Awake (fun _ => false) image.toImage.selected.length
      (image.toImage.selected.length + image.toImage.symbols.length) := fun _ _ _ => rfl
  rw [ends, finish_eq, written, firstStop_of_awake nobody]
  cases memory.refusal? (roomFor (image.written other)) with
  | some fault => simp
  | none =>
    dsimp only
    split
    · rename_i small
      exact ⟨fun _ => ⟨rfl, small⟩, fun _ => ⟨_, rfl⟩⟩
    · rename_i large
      constructor
      · rintro ⟨_, crashed⟩
        cases crashed
      · exact fun fits => absurd fits.2 large

/-- What an export under zero filling comes to where one that drops regions succeeds: it
needs room for zeros, as many as the regions have that fail and are smaller than 2^63
bytes, and it succeeds exactly if that is granted.  If it is not granted the whole export
fails.  Where all regions that fail are larger they are dropped. -/
theorem filling_needs_room (memory : Memory) (image : SteadyImage) (dropped : ExportStream)
    (success : image.exported memory .dropRegion = .ok dropped) :
    ∃ needed, needed = roomFor (image.written .dropRegion) + image.zeroRoom
      ∧ ((∃ filled, image.exported memory .zeroFill = .ok filled)
          ↔ memory.refusal? needed = none
            ∧ needed + Container.payloadSize image.toImage.entries < 2 ^ 63)
      ∧ (∀ fault, memory.refusal? needed = some fault →
          image.exported memory .zeroFill = .error (.failed (.bufferAllocation fault)))
      ∧ ((∀ entry ∈ image.order, fails entry = true → 2 ^ 63 ≤ entry.1.size.toNat) →
          ∃ filled, image.exported memory .zeroFill = .ok filled
            ∧ filled.bytes = dropped.bytes)
      ∧ ((∀ size < 2 ^ 30, memory.grants size = true) → needed < 2 ^ 30 →
          needed + Container.payloadSize image.toImage.entries < 2 ^ 63 →
            ∃ filled, image.exported memory .zeroFill = .ok filled)
      ∧ ((∀ size, 2 ^ 47 ≤ size → memory.grants size = false) → 2 ^ 47 ≤ needed →
          ∃ fault, image.exported memory .zeroFill
            = .error (.failed (.bufferAllocation fault))) := by
  have room := image.roomFor_written_zeroFill
  have succeeds := exported_ok_iff_of_exported success .zeroFill
  have refuses : ∀ fault, memory.refusal? (roomFor (image.written .zeroFill)) = some fault →
      image.exported memory .zeroFill = .error (.failed (.bufferAllocation fault)) :=
    fun _ => exported_of_refused success .zeroFill
  refine ⟨_, rfl, ?_⟩
  rw [← room]
  refine ⟨succeeds, refuses, ?huge, ?granted, ?refused⟩
  case huge =>
    intro huge
    have same := written_zeroFill_of_huge huge
    -- nothing is filled, so that the room which was enough before is enough again
    have fits := (exported_ok_iff_of_exported success .dropRegion).mp ⟨dropped, success⟩
    rw [← same] at fits
    obtain ⟨filled, filling⟩ := succeeds.mpr fits
    refine ⟨filled, filling, ?_⟩
    rw [bytes_of_exported filling, bytes_of_exported success, same]
  case granted =>
    intro grants few small
    have granted := (memory.refusal?_eq_none_iff _).mpr ⟨by omega, grants _ few⟩
    exact succeeds.mpr ⟨granted, small⟩
  case refused =>
    intro denies many
    have denied := denies _ many
    cases refused : memory.refusal? (roomFor (image.written .zeroFill)) with
    | some fault => exact ⟨fault, refuses fault refused⟩
    | none =>
      rw [((memory.refusal?_eq_none_iff _).mp refused).2] at denied
      cases denied

def hugeImage : SteadyImage where
  name := "huge"
  entries :=
    [(⟨"huge", 0, 0x7FFFFFFFFFFF, ⟨true, false, false⟩, true⟩,
      .refused ⟨"huge", 0, 0x7FFFFFFFFFFF, ⟨true, false, false⟩, true⟩ .injected)]
  symbols := []

theorem selected_hugeImage :
    hugeImage.toImage.selected
      = [⟨0, ⟨"huge", 0, 0x7FFFFFFFFFFF, ⟨true, false, false⟩, true⟩⟩] := by
  cbv

theorem hugeImage_dropped :
    ∃ dropped, hugeImage.exported Memory.usual .dropRegion = .ok dropped := by
  simp only [exported, Export.run, selected_hugeImage]
  exact ⟨_, rfl⟩

/-- Without the region there is a container of 24 bytes, but with zeros for it the whole
export fails. -/
theorem hugeImage_not_filled :
    (∀ entry ∈ hugeImage.entries, entry.1.Admitted)
      ∧ (∀ size < 2 ^ 30, Memory.usual.grants size = true)
      ∧ (∀ size, 2 ^ 47 ≤ size → Memory.usual.grants size = false)
      ∧ (∃ dropped, hugeImage.exported Memory.usual .dropRegion = .ok dropped)
      ∧ hugeImage.exported Memory.usual .zeroFill
          = .error (.failed (.bufferAllocation (.refused (2 ^ 47 + 48))))
      ∧ ¬ ∃ filled, hugeImage.exported Memory.usual .zeroFill = .ok filled := by
  have fails : hugeImage.exported Memory.usual .zeroFill
      = .error (.failed (.bufferAllocation (.refused (2 ^ 47 + 48)))) := by
    simp only [exported, Export.run, selected_hugeImage]
    rfl
  refine ⟨?_, ?_, ?_, hugeImage_dropped, fails, ?_⟩
  · simp only [hugeImage, List.forall_mem_cons]
    exact ⟨⟨by decide, by decide⟩, by simp⟩
  · intro size few
    exact decide_eq_true (by omega)
  · intro size many
    exact decide_eq_false (by omega)
  · rintro ⟨filled, filling⟩
    rw [fails] at filling
    cases filling

theorem filling_hugeImage :
    ∃ dropped, hugeImage.exported Memory.usual .dropRegion = .ok dropped
      ∧ Memory.usual.refusal? (2 ^ 47 + 48) = some (.refused (2 ^ 47 + 48))
      ∧ hugeImage.exported Memory.usual .zeroFill
          = .error (.failed (.bufferAllocation (.refused (2 ^ 47 + 48)))) := by
  obtain ⟨dropped, dropping⟩ := hugeImage_dropped
  obtain ⟨needed, room, -, refuses, -⟩ :=
    filling_needs_room Memory.usual hugeImage dropped dropping
  have order : hugeImage.order = hugeImage.entries := by cbv
  have size : needed = 2 ^ 47 + 48 := by
    rw [room, written, zeroRoom, order]
    decide +kernel
  have refused : Memory.usual.refusal? (2 ^ 47 + 48) = some (.refused (2 ^ 47 + 48)) := by
    decide +kernel
  exact ⟨dropped, dropping, refused, refuses _ (size ▸ refused)⟩

end SteadyImage
end SegmentContainer
