import SegmentContainer.Proofs.Export.Steady

/-!
# Failure policies as edits of the image

What a policy does about the regions that fail can also be done to the image beforehand:
dropping regions is the same as an image without them, filling them with zeros the same as
an image in which they read as zeros, and omitting their data leaves the headers and the
symbols of an image in which they do not fail.  So a region that fails changes nothing
that is written about another one.
-/

set_option autoImplicit false

namespace SegmentContainer.SteadyImage

/-- A region that is read, and whose read fails or returns another number of bytes than
the region has. -/
def fails (entry : Region × ReadOutcome) : Bool :=
  entry.1.initialized && (entry.2.complete? entry.1).isNone

def dataOf (entry : Region × ReadOutcome) : Bytes :=
  (entry.2.complete? entry.1).getD []

def withoutFailing (image : SteadyImage) : SteadyImage :=
  { image with entries := image.entries.filter fun entry => !fails entry }

/-- A region that fails reads as zeros instead, or is taken away where no buffer is as
large as it. -/
def zeroed? (entry : Region × ReadOutcome) : Option (Region × ReadOutcome) :=
  if fails entry then
    if entry.1.size.toNat < 2 ^ 63 then
      some (entry.1, .data (List.replicate entry.1.size.toNat 0))
    else none
  else some entry

def zeroed (image : SteadyImage) : SteadyImage :=
  { image with entries := image.entries.filterMap zeroed? }

/-- The same regions and symbols, but that each region that fails in the one image reads
completely in the other. -/
structure Repairs (image repaired : SteadyImage) : Prop where
  symbols : repaired.symbols = image.symbols
  entries : List.Forall₂
    (fun old new => new.1 = old.1
      ∧ if fails old then (new.2.complete? new.1).isSome = true else new = old)
    image.entries repaired.entries

def intact (image : SteadyImage) : List ContainerRegion :=
  (image.order.filter fun entry => !fails entry).map fun entry =>
    ⟨entry.1.writtenHeader, dataOf entry⟩

variable {image repaired : SteadyImage} {entry : Region × ReadOutcome}

/-! ## Single regions -/

theorem written?_of_isSome (complete : (entry.2.complete? entry.1).isSome = true)
    (policy : ReadFailurePolicy) :
    entry.1.written? policy entry.2 = some ⟨entry.1.writtenHeader, dataOf entry⟩ := by
  obtain ⟨bytes, read⟩ := Option.isSome_iff_exists.mp complete
  simp [Region.written?, dataOf, read]

theorem complete_of_not_fails (ready : entry.1.initialized = true) (whole : fails entry = false) :
    (entry.2.complete? entry.1).isSome = true := by
  rw [fails, ready, Bool.true_and, Option.isNone_eq_false_iff] at whole
  exact whole

theorem written?_of_fails (failed : fails entry = true) (policy : ReadFailurePolicy) :
    entry.1.written? policy entry.2
      = (policy.substitute? entry.1.size.toNat).map fun data =>
          ⟨entry.1.writtenHeader, data⟩ := by
  rw [fails, Bool.and_eq_true, Option.isNone_iff_eq_none] at failed
  rw [Region.written?, failed.2, Option.none_or]

theorem dataOf_of_fails (failed : fails entry = true) : dataOf entry = [] := by
  rw [fails, Bool.and_eq_true, Option.isNone_iff_eq_none] at failed
  rw [dataOf, failed.2, Option.getD_none]

/-! ## Whole images -/

theorem written_withoutFailing (image : SteadyImage) (other : ReadFailurePolicy) :
    image.withoutFailing.written other = image.written .dropRegion := by
  apply written_of_edit (Option.guard fun entry => !fails entry)
  · exact (congrFun List.filterMap_eq_filter image.entries).symm
  · intro old new kept
    rw [(Option.guard_eq_some_iff.mp kept).1]
  · intro entry ready
    cases failed : fails entry with
    | true =>
      rw [written?_of_fails failed]
      simp [Option.guard, failed, ReadFailurePolicy.substitute?]
    | false =>
      have complete := complete_of_not_fails ready failed
      simp [Option.guard, failed, written?_of_isSome complete]

theorem written_zeroed (image : SteadyImage) (other : ReadFailurePolicy) :
    image.zeroed.written other = image.written .zeroFill := by
  apply written_of_edit zeroed?
  · rfl
  · intro old new kept
    unfold zeroed? at kept
    split at kept
    · split at kept
      · rw [← Option.some.inj kept]
      · cases kept
    · rw [← Option.some.inj kept]
  · intro entry ready
    cases failed : fails entry with
    | true =>
      rw [written?_of_fails failed, zeroed?, if_pos failed, ReadFailurePolicy.substitute?]
      by_cases small : entry.1.size.toNat < 2 ^ 63
      · have zeros : (ReadOutcome.data (List.replicate entry.1.size.toNat 0)).complete? entry.1
            = some (List.replicate entry.1.size.toNat 0) := if_pos List.length_replicate
        rw [if_pos small, if_pos small, Option.bind_some, Region.written?, zeros]
        rfl
      · rw [if_neg small, if_neg small]
        rfl
    | false =>
      have complete := complete_of_not_fails ready failed
      simp [zeroed?, failed, written?_of_isSome complete]

theorem written_omit (image : SteadyImage) :
    image.written .omit
      = image.order.map fun entry => ⟨entry.1.writtenHeader, dataOf entry⟩ := by
  rw [written, ← List.filterMap_eq_map]
  apply List.filterMap_congr
  intro entry member
  cases failed : fails entry with
  | true =>
    rw [written?_of_fails failed, Function.comp_apply, dataOf_of_fails failed]
    rfl
  | false =>
    exact written?_of_isSome
      (complete_of_not_fails (initialized_of_mem_order member) failed) .omit

theorem flatMap_dataOf (entries : List (Region × ReadOutcome)) :
    entries.flatMap dataOf = (entries.filter fun entry => !fails entry).flatMap dataOf := by
  induction entries with
  | nil => rfl
  | cons first rest ih =>
    cases failed : fails first with
    | true =>
      rw [List.flatMap_cons, dataOf_of_fails failed, List.nil_append, ih,
        List.filter_cons_of_neg (by simp [failed])]
    | false =>
      rw [List.flatMap_cons, ih, List.filter_cons_of_pos (by simp [failed]),
        List.flatMap_cons]

/-- An image and a repaired one as one list of regions, each with the old outcome and with
the new one, which is complete for every region that is read. -/
theorem exists_both (repairs : image.Repairs repaired) :
    ∃ both : List (Region × ReadOutcome × ReadOutcome),
      image.entries = both.map (fun item => (item.1, item.2.1))
        ∧ repaired.entries = both.map (fun item => (item.1, item.2.2))
        ∧ ∀ item ∈ both, item.1.initialized = true →
            (item.2.2.complete? item.1).isSome = true := by
  -- along the relation of the two lists, which is what the induction is on
  have related := repairs.entries
  generalize image.entries = before at related
  generalize repaired.entries = after at related
  induction related with
  | nil => exact ⟨[], rfl, rfl, by simp⟩
  | @cons old new olds news pair _ ih =>
    obtain ⟨both, rfl, rfl, complete⟩ := ih
    obtain ⟨sameRegion, outcome⟩ := pair
    refine ⟨(old.1, old.2, new.2) :: both, rfl, ?_, ?_⟩
    · rw [List.map_cons, ← sameRegion]
    · intro item member ready
      rcases List.mem_cons.mp member with rfl | member
      · cases failed : fails old with
        | true =>
          rw [failed, if_pos rfl, sameRegion] at outcome
          exact outcome
        | false =>
          rw [failed, if_neg Bool.false_ne_true] at outcome
          rw [outcome]
          exact complete_of_not_fails ready failed
      · exact complete item member ready

theorem written_repaired (repairs : image.Repairs repaired) (other : ReadFailurePolicy) :
    repaired.order.map (·.1) = image.order.map (·.1)
      ∧ repaired.written other
        = repaired.order.map fun entry => ⟨entry.1.writtenHeader, dataOf entry⟩ := by
  obtain ⟨both, before, after, complete⟩ := exists_both repairs
  have old : image.order = (selectBy (·.1) both).map fun item => (item.1, item.2.1) := by
    rw [order, before, selectBy_map (·.1) Prod.fst _ fun _ => rfl]
  have new : repaired.order = (selectBy (·.1) both).map fun item => (item.1, item.2.2) := by
    rw [order, after, selectBy_map (·.1) Prod.fst _ fun _ => rfl]
  constructor
  · rw [old, new, List.map_map, List.map_map]
    rfl
  · rw [written, ← List.filterMap_eq_map]
    apply List.filterMap_congr
    intro entry member
    rw [new] at member
    obtain ⟨item, selected, rfl⟩ := List.mem_map.mp member
    rw [selectBy, List.mem_mergeSort, List.mem_filter] at selected
    exact written?_of_isSome (complete item selected.1 selected.2) other

theorem intact_sublist_written (image : SteadyImage) (policy : ReadFailurePolicy) :
    image.intact.Sublist (image.written policy) := by
  have alike : image.intact
      = (image.order.filter fun entry => !fails entry).filterMap fun entry =>
          entry.1.written? policy entry.2 := by
    rw [intact, ← List.filterMap_eq_map]
    apply List.filterMap_congr
    intro entry member
    obtain ⟨inOrder, whole⟩ := List.mem_filter.mp member
    have complete := complete_of_not_fails (initialized_of_mem_order inOrder)
      (by simpa using whole)
    exact (written?_of_isSome complete policy).symm
  rw [alike, written]
  exact List.filter_sublist.filterMap _

/-! ## Exports -/

def headerBytes (image : SteadyImage) : Bytes :=
  Container.encodeHeaders (image.order.map (·.1.writtenHeader))

def symbolBytes (image : SteadyImage) : Bytes :=
  Container.encodeSymbols image.toImage.entries (Container.payloadSize image.toImage.entries)

theorem spelled_placed (image : SteadyImage) (entries : List (Region × ReadOutcome)) :
    image.toImage.spelled (entries.map fun entry => ⟨entry.1.writtenHeader, dataOf entry⟩)
      = Container.encodeHeaders (entries.map (·.1.writtenHeader))
          ++ (entries.flatMap dataOf ++ image.symbolBytes) := by
  rw [Image.spelled, List.map_map, List.flatMap_map]
  rfl

theorem bytes_of_omit {memory : Memory} {stream : ExportStream}
    (success : image.exported memory .omit = .ok stream) :
    stream.bytes = image.headerBytes
      ++ ((image.order.filter fun entry => !fails entry).flatMap dataOf ++ image.symbolBytes) := by
  rw [bytes_of_exported success, written_omit, spelled_placed, flatMap_dataOf]
  rfl

theorem bytes_of_repaired (repairs : image.Repairs repaired) {memory : Memory}
    {other : ReadFailurePolicy} {stream : ExportStream}
    (success : repaired.exported memory other = .ok stream) :
    stream.bytes
      = image.headerBytes ++ (repaired.order.flatMap dataOf ++ image.symbolBytes) := by
  obtain ⟨regions, written⟩ := written_repaired repairs other
  have headers : repaired.order.map (·.1.writtenHeader)
      = image.order.map (·.1.writtenHeader) := by
    have mapped := congrArg (List.map Region.writtenHeader) regions
    rwa [List.map_map, List.map_map] at mapped
  have symbols : repaired.symbolBytes = image.symbolBytes := by
    simp only [symbolBytes, toImage, Image.entries, repairs.symbols]
  rw [bytes_of_exported success, written, spelled_placed, headers, symbols]
  rfl

/-- Every policy writes what is written about an edited image, whatever policy that one is
exported under: the image without the regions that fail, the image in which they are
zeros or gone, and, but for data, any image in which they do not fail.  Whatever the
policy, the regions that do not fail keep their headers, their data and their order, and
the symbols are those of the image. -/
theorem policies_are_edits (memory : Memory) (image : SteadyImage) :
    (∀ other stream edited, image.exported memory .dropRegion = .ok stream →
        image.withoutFailing.exported memory other = .ok edited → stream.bytes = edited.bytes)
      ∧ (∀ other stream edited, image.exported memory .zeroFill = .ok stream →
        image.zeroed.exported memory other = .ok edited → stream.bytes = edited.bytes)
      ∧ (∀ repaired other stream whole, image.Repairs repaired →
        image.exported memory .omit = .ok stream → repaired.exported memory other = .ok whole →
          stream.bytes = image.headerBytes
              ++ ((image.order.filter fun entry => !fails entry).flatMap dataOf
                ++ image.symbolBytes)
            ∧ whole.bytes = image.headerBytes
                ++ (repaired.order.flatMap dataOf ++ image.symbolBytes))
      ∧ ∀ policy stream, image.exported memory policy = .ok stream →
          image.intact.Sublist (image.written policy)
            ∧ stream.bytes
              = Container.encodeHeaders ((image.written policy).map (·.header))
                  ++ ((image.written policy).flatMap (·.data) ++ image.symbolBytes) := by
  refine ⟨?dropped, ?filled, ?omitted, ?others⟩
  case dropped =>
    intro other stream edited exported editedExported
    rw [bytes_of_exported exported, bytes_of_exported editedExported, written_withoutFailing]
    rfl
  case filled =>
    intro other stream edited exported editedExported
    rw [bytes_of_exported exported, bytes_of_exported editedExported, written_zeroed]
    rfl
  case omitted =>
    intro repaired other stream whole repairs exported repairedExported
    exact ⟨bytes_of_omit exported, bytes_of_repaired repairs repairedExported⟩
  case others =>
    intro policy stream exported
    exact ⟨intact_sublist_written image policy, bytes_of_exported exported⟩

/-- Two regions that share a start, of which the first one fails, and one without
contents. -/
def sampleSteady : SteadyImage where
  name := "steady"
  entries :=
    [(⟨"late", 0x3000, 0x3000, ⟨true, false, false⟩, true⟩, .data [4]),
     (⟨"broken", 0x1000, 0x1001, ⟨true, true, false⟩, true⟩, .data [1, 2, 3]),
     (⟨"bss", 0x1000, 0x10FF, ⟨true, true, false⟩, false⟩, .data []),
     (⟨"text", 0x1000, 0x1002, ⟨true, false, true⟩, true⟩, .data [7, 0, 9])]
  symbols := [⟨0x1001, "é", .userDefined⟩]

def repairedSample : SteadyImage :=
  { sampleSteady with
    entries := sampleSteady.entries.set 1
      (⟨"broken", 0x1000, 0x1001, ⟨true, true, false⟩, true⟩, .data [1, 2]) }

theorem repairs_sample : sampleSteady.Repairs repairedSample where
  symbols := rfl
  entries := by
    simp only [repairedSample, sampleSteady, List.set_cons_succ, List.set_cons_zero,
      List.forall₂_cons, List.forall₂_nil_left_iff]
    decide

theorem exported_samples : ∀ image ∈ [sampleSteady, sampleSteady.withoutFailing,
    sampleSteady.zeroed, repairedSample], ∀ policy,
      ∃ stream, image.exported Memory.usual policy = .ok stream := by
  have steady : sampleSteady.toImage.selected
      = [⟨1, ⟨"broken", 0x1000, 0x1001, ⟨true, true, false⟩, true⟩⟩,
         ⟨3, ⟨"text", 0x1000, 0x1002, ⟨true, false, true⟩, true⟩⟩,
         ⟨0, ⟨"late", 0x3000, 0x3000, ⟨true, false, false⟩, true⟩⟩] := by
    cbv
  have without : sampleSteady.withoutFailing.toImage.selected
      = [⟨2, ⟨"text", 0x1000, 0x1002, ⟨true, false, true⟩, true⟩⟩,
         ⟨0, ⟨"late", 0x3000, 0x3000, ⟨true, false, false⟩, true⟩⟩] := by
    cbv
  have zeroed : sampleSteady.zeroed.toImage.selected = sampleSteady.toImage.selected := by
    cbv
  have repaired : repairedSample.toImage.selected = sampleSteady.toImage.selected := by
    cbv
  simp only [List.forall_mem_cons]
  refine ⟨?_, ?_, ?_, ?_, by simp⟩
  all_goals
    intro policy
    simp only [exported, Export.run, zeroed, repaired, steady, without]
    cases policy <;> exact ⟨_, rfl⟩

theorem policies_in_sample :
    ∃ dropped edited filled zeros omitted whole,
      sampleSteady.exported Memory.usual .dropRegion = .ok dropped
        ∧ sampleSteady.withoutFailing.exported Memory.usual .omit = .ok edited
        ∧ dropped.bytes = edited.bytes
        ∧ sampleSteady.exported Memory.usual .zeroFill = .ok filled
        ∧ sampleSteady.zeroed.exported Memory.usual .omit = .ok zeros
        ∧ filled.bytes = zeros.bytes
        ∧ sampleSteady.Repairs repairedSample
        ∧ sampleSteady.exported Memory.usual .omit = .ok omitted
        ∧ repairedSample.exported Memory.usual .omit = .ok whole
        ∧ omitted.bytes
            = sampleSteady.headerBytes ++ ([7, 0, 9, 4] ++ sampleSteady.symbolBytes)
        ∧ whole.bytes
            = sampleSteady.headerBytes ++ ([1, 2, 7, 0, 9, 4] ++ sampleSteady.symbolBytes)
        ∧ sampleSteady.intact
            = [⟨⟨0x1000, 0x1003, 5⟩, [7, 0, 9]⟩, ⟨⟨0x3000, 0x3001, 4⟩, [4]⟩]
        ∧ sampleSteady.intact.Sublist (sampleSteady.written .omit) := by
  have ends := exported_samples
  simp only [List.forall_mem_cons] at ends
  obtain ⟨steady, without, zeroed, repaired, -⟩ := ends
  obtain ⟨dropped, dropping⟩ := steady .dropRegion
  obtain ⟨edited, editing⟩ := without .omit
  obtain ⟨filled, filling⟩ := steady .zeroFill
  obtain ⟨zeros, zeroing⟩ := zeroed .omit
  obtain ⟨omitted, omitting⟩ := steady .omit
  obtain ⟨whole, repairing⟩ := repaired .omit
  obtain ⟨drop, fill, leave, others⟩ := policies_are_edits Memory.usual sampleSteady
  obtain ⟨omittedBytes, wholeBytes⟩ :=
    leave repairedSample .omit omitted whole repairs_sample omitting repairing
  have order : (sampleSteady.order.filter fun entry => !fails entry).flatMap dataOf
      = [7, 0, 9, 4] := by cbv
  have repairedOrder : repairedSample.order.flatMap dataOf = [1, 2, 7, 0, 9, 4] := by cbv
  rw [order] at omittedBytes
  rw [repairedOrder] at wholeBytes
  exact ⟨dropped, edited, filled, zeros, omitted, whole, dropping, editing,
    drop _ _ _ dropping editing, filling, zeroing, fill _ _ _ filling zeroing, repairs_sample,
    omitting, repairing, omittedBytes, wholeBytes, by cbv, (others _ _ omitting).1⟩

end SegmentContainer.SteadyImage
