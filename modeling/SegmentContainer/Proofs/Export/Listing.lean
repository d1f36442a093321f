import SegmentContainer.Proofs.Export.RoundTrip

/-!
# Exports of listed items

An image is often made from a list: of entries, or of sections.  Each item has a region and
perhaps bytes that are stored for it.  Here an export that fills with zeros is told item by
item, by what is stored, so that nothing is left of the way from a region back to its item:
two items with one and the same region each keep what is stored for them.
-/

set_option autoImplicit false

namespace SegmentContainer

theorem exists_of_isOk {ε α : Type} {result : Except ε α} (good : result.isOk = true) :
    ∃ value, result = .ok value := by
  cases result with
  | ok value => exact ⟨value, rfl⟩
  | error fault => cases good

/-- How a read of a region may end, by the bytes that are stored for it.  A read that
crashes says nothing about them. -/
inductive Region.Delivers (region : Region) : Option Bytes → ReadOutcome → Prop
  | stored {bytes : Bytes} (whole : bytes.length = region.width) :
    region.Delivers (some bytes) (.data bytes)
  | absent (fault : ReadFault) : region.Delivers none (.refused region fault)
  | crash (stored? : Option Bytes) (reason : String) : region.Delivers stored? (.crashed reason)

/-- A region with the bytes that are stored for it, or else with zeros, if a buffer can
have as many. -/
def Region.filled? (region : Region) (stored? : Option Bytes) : Option ContainerRegion :=
  match stored? with
  | some bytes => some ⟨region.header, bytes⟩
  | none =>
    if region.width < 2 ^ 63 then some ⟨region.header, List.replicate region.width 0⟩ else none

theorem Region.filled?_of_lt {region : Region} (small : region.width < 2 ^ 63)
    (stored? : Option Bytes) :
    region.filled? stored?
      = some ⟨region.header, stored?.getD (List.replicate region.width 0)⟩ := by
  cases stored? with
  | none => exact if_pos small
  | some bytes => rfl

theorem Region.filterMap_filled?_of_lt {α : Type} (region : α → Region)
    {stored? : α → Option Bytes} {order : List α}
    (small : ∀ item ∈ order, (region item).width < 2 ^ 63) :
    (order.filterMap fun item => (region item).filled? (stored? item))
      = order.map fun item => ⟨(region item).header,
          (stored? item).getD (List.replicate (region item).width 0)⟩ := by
  rw [← List.filterMap_eq_map']
  apply List.filterMap_congr
  intro item member
  exact filled?_of_lt (small item member) _

structure ReadFailure.Reports (failure : ReadFailure) (region : Region) : Prop where
  name : failure.name = region.name
  start : failure.start = region.start
  size : failure.size.toNat = region.width
  message : ∃ fault, failure.message = (Error.regionRead region.name region.start fault).message
  resolution : failure.resolution = if region.width < 2 ^ 63 then .zeroFill else .dropRegion

theorem ReadFailure.Reports.resolution_ne_omit {failure : ReadFailure} {region : Region}
    (reports : failure.Reports region) : failure.resolution ≠ .omit := by
  rw [reports.resolution]
  split <;> simp

/-- The bytes of a stream are those of these regions with the symbols of the image, and its
readers find these regions. -/
structure ExportStream.Holds (stream : ExportStream) (image : Image)
    (regions : List ContainerRegion) : Prop where
  bytes : stream.bytes = image.spelled regions
  regions : ∀ container, Container.parse stream.bytes = .ok container →
    container.regions = regions
  accepted : (∀ symbol ∈ image.symbols, symbol.source ≠ .placeholder →
      Utf8.zero ∉ symbol.name.toList) →
    ∃ container, Container.parse stream.bytes = .ok container

namespace Export

variable {memory : Memory} {image : Image} {surroundings : Surroundings}
  {stream : ExportStream}

section

variable {region : Region} {stored? : Option Bytes} {outcome : ReadOutcome} {taken : Taken}

theorem reports_unread (admitted : region.Admitted) (fault : ReadFault) :
    ∃ failure,
      (unread .zeroFill region (.regionRead region.name region.start fault)).failure?
          = some failure
        ∧ failure.Reports region := by
  refine ⟨_, rfl, rfl, rfl, admitted.toNat_size, ⟨fault, rfl⟩, ?_⟩
  by_cases small : region.width < 2 ^ 63
  · rw [if_pos small, resolve_zeroFill_of_lt (admitted.toNat_size ▸ small)]
  · rw [if_neg small,
      resolve_zeroFill_of_le (admitted.toNat_size ▸ Nat.le_of_not_lt small)]

structure Taken.Fills (taken : Taken) (region : Region) (stored? : Option Bytes) : Prop where
  written : taken.written? = region.filled? stored?
  unreported : ∀ bytes, stored? = some bytes → taken.failure? = none
  reported : stored? = none → ∃ failure, taken.failure? = some failure ∧ failure.Reports region

theorem fills_of_settle (admitted : region.Admitted) (delivers : region.Delivers stored? outcome)
    (settled : settle .zeroFill region outcome = .ok taken) : taken.Fills region stored? := by
  have written := written?_of_settle settled
  rw [admitted.written?_eq, Region.carried?] at written
  cases delivers with
  | stored whole =>
    simp only [ReadOutcome.whole?, if_pos whole, Option.some_or] at written
    simp only [settle, admitted.toNat_size, if_pos whole] at settled
    obtain rfl := Except.ok.inj settled
    refine ⟨written, fun _ _ => rfl, ?_⟩
    intro missing
    cases missing
  | absent fault =>
    obtain rfl := Except.ok.inj settled
    refine ⟨?_, ?_, fun _ => reports_unread admitted fault⟩
    · rw [written]
      simp only [ReadOutcome.refused, ReadOutcome.whole?, Option.none_or,
        ReadFailurePolicy.substitute?, Region.filled?]
      split <;> rfl
    · intro bytes kept
      cases kept
  | crash stored? reason => cases settled

end

theorem holds_of_run_ok {options : ExportOptions}
    (admitted : ∀ region ∈ image.regions, region.Admitted)
    (exported : (run memory options image surroundings).result = .ok stream)
    (aligned : stream.summary.isAligned = true) :
    stream.Holds image (carriedFrom options.onReadError surroundings.read 0 image.selected) where
  bytes := by
    rw [(encode_of_run_ok admitted exported).1, image.encode_container]
  regions container read := (parts_of_parse admitted exported aligned read).1
  accepted clean :=
    ⟨_, parse_of_run_ok admitted exported aligned (image.entries_wellFormed_iff.mpr clean)⟩

section

variable {α : Type} {items : List α} {region : α → Region} {stored? : α → Option Bytes}

def listed (region : α → Region) (items : List α) : List (α × Nat) :=
  selectBy (fun item => region item.1) items.zipIdx

theorem mem_listed {item : α × Nat} (member : item ∈ listed region items) :
    items[item.2]? = some item.1 ∧ (region item.1).initialized = true := by
  rw [listed, selectBy, List.mem_mergeSort, List.mem_filter] at member
  exact ⟨List.mem_zipIdx_iff_getElem?.mp member.1, member.2⟩

theorem forall₂_fills (regions : image.regions = items.map region)
    (admitted : ∀ item ∈ items, (region item).Admitted)
    (delivers : ∀ index item, items[index]? = some item → (region item).initialized = true →
      ∀ call, (region item).Delivers (stored? item)
        (surroundings.read call ⟨index, region item⟩))
    {taken : List Taken}
    (gathered : (gather .zeroFill surroundings 0 image.selected).result = .ok taken) :
    List.Forall₂ (fun item held => held.Fills (region item.1) (stored? item.1))
      (listed region items) taken := by
  have settled := forall₂_of_gather_ok gathered
  rw [Image.selected_of_items regions, List.forall₂_map_left_iff] at settled
  refine ((List.forall₂_and_left _ _).mpr ⟨fun _ => mem_listed, settled⟩).imp ?_
  rintro ⟨item, index⟩ held ⟨⟨there, ready⟩, call, done⟩
  exact fills_of_settle (admitted item (List.mem_of_getElem? there))
    (delivers index item there ready call) done

theorem filterMap_filled? {order : List (α × Nat)} {taken : List Taken}
    (fills : List.Forall₂ (fun item held => held.Fills (region item.1) (stored? item.1))
      order taken) :
    order.filterMap (fun item => (region item.1).filled? (stored? item.1))
      = taken.filterMap Taken.written? := by
  induction fills with
  | nil => rfl
  | cons filled _ ih => rw [List.filterMap_cons, List.filterMap_cons, ih, filled.written]

theorem forall₂_reports {order : List (α × Nat)} {taken : List Taken}
    (fills : List.Forall₂ (fun item held => held.Fills (region item.1) (stored? item.1))
      order taken) :
    List.Forall₂ (fun item failure => failure.Reports (region item.1))
      (order.filter fun item => (stored? item.1).isNone) (taken.filterMap (·.failure?)) := by
  rw [← List.filterMap_eq_filter]
  refine List.rel_filterMap ?_ fills
  intro item held filled
  beta_reduce
  cases about : stored? item.1 with
  | some bytes =>
    rw [filled.unreported bytes about, Option.guard_eq_none_iff.mpr (by simp [about])]
    exact .none
  | none =>
    obtain ⟨failure, recorded, reports⟩ := filled.reported about
    rw [recorded, Option.guard_eq_some_iff.mpr ⟨rfl, by simp [about]⟩]
    exact .some reports

/-- Where reads deliver what is stored for the items, an export that fills with zeros holds
it, item by item, and reports the items for which nothing is stored. -/
theorem holds_of_listed (regions : image.regions = items.map region)
    (admitted : ∀ item ∈ items, (region item).Admitted)
    (delivers : ∀ index item, items[index]? = some item → (region item).initialized = true →
      ∀ call, (region item).Delivers (stored? item)
        (surroundings.read call ⟨index, region item⟩))
    (exported : (run memory ⟨.zeroFill⟩ image surroundings).result = .ok stream) :
    ∃ order,
      StableOrder (fun item => (region item).start.toNat)
          (fun item => (region item).initialized) items order
        ∧ stream.Holds image
            (order.filterMap fun item => (region item.1).filled? (stored? item.1))
        ∧ List.Forall₂ (fun item failure => failure.Reports (region item.1))
            (order.filter fun item => (stored? item.1).isNone) stream.summary.readFailures := by
  have allAdmitted : ∀ region ∈ image.regions, region.Admitted := by
    rw [regions]
    exact List.forall_mem_map.mpr admitted
  obtain ⟨taken, gathered, -, -, made, -⟩ := (run_ok_iff _ _ _ _ _).mp exported
  have fills := forall₂_fills regions admitted delivers gathered
  have reports := forall₂_reports fills
  have account : stream.summary.readFailures = taken.filterMap (·.failure?) := by
    rw [made]
    rfl
  rw [← account] at reports
  have aligned : stream.summary.isAligned = true := by
    rw [ExportSummary.isAligned, List.all_eq_true]
    intro failure member
    obtain ⟨index, inside, rfl⟩ := List.getElem_of_mem member
    obtain ⟨count, report⟩ := List.forall₂_iff_get.mp reports
    exact decide_eq_true (report index (count ▸ inside) inside).resolution_ne_omit
  have holds := holds_of_run_ok allAdmitted exported aligned
  rw [← writtenFrom_eq_carriedFrom _ _ 0 (selected_admitted allAdmitted),
    ← written?_of_gather_ok gathered, ← filterMap_filled? fills] at holds
  exact ⟨_, stableOrder_selectBy region items, holds, reports⟩

end

end Export
end SegmentContainer
