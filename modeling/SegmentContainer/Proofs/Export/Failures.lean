import SegmentContainer.Proofs.Export.Accounting
import SegmentContainer.Proofs.Export.Enumeration
import SegmentContainer.Proofs.Export.Listing
import SegmentContainer.Proofs.Export.Misaligned

/-!
# What an export reports about its reads

A region that cannot be read is dealt with at three places: its failure is recorded, its
header is written or not, and its data is written or not.  Here all three are told from
the outcomes of the reads alone, so that the record of an export can be relied on: it names
each failed read once, its resolutions say which headers are missing, and it is free of
omissions exactly if the data is as long as the headers announce.
-/

set_option autoImplicit false

namespace SegmentContainer

/-- Why a read of a region has failed: the error that it returned, or that it returned
another number of bytes than the region has. -/
def ReadOutcome.failure? (region : Region) : ReadOutcome → Option Error
  | .data bytes =>
    if bytes.length = region.size.toNat then none
    else some (.regionRead region.name region.start (.wrongLength bytes.length region.size))
  | .failed error => some error
  | .crashed _ => none

/-- What a policy comes to for a region of `size` bytes: no buffer has 2^63 zeros. -/
def ReadFailurePolicy.resolution (policy : ReadFailurePolicy) (size : UInt64) :
    ReadFailurePolicy :=
  if policy = .zeroFill ∧ 2 ^ 63 ≤ size.toNat then .dropRegion else policy

def ReadFailure.ofRead? (policy : ReadFailurePolicy) (read : Region × ReadOutcome) :
    Option ReadFailure :=
  (read.2.failure? read.1).map fun error =>
    ⟨read.1.name, read.1.start, read.1.size, error.message, policy.resolution read.1.size⟩

def ReadFailure.droppedBy (policy : ReadFailurePolicy) (read : Region × ReadOutcome) : Bool :=
  (ofRead? policy read).any fun failure => failure.resolution = .dropRegion

def ExportStream.Announces (stream : ExportStream) (headers : List RegionHeader) : Prop :=
  ∃ rest, stream.bytes = Container.encodeHeaders headers ++ rest

theorem Region.Admitted.header_nonempty {region : Region} (admitted : region.Admitted) :
    region.header.start < region.header.endExclusive := by
  have ordered := admitted.toNat_ordered
  have next := admitted.toNat_next
  apply UInt64.lt_iff_toNat_lt.mpr
  simp only [Region.header]
  omega

namespace Export

variable {policy : ReadFailurePolicy} {surroundings : Surroundings}

/-! ## Settling -/

theorem resolution_resolve (policy : ReadFailurePolicy) (size : UInt64) :
    (resolve policy size).2 = policy.resolution size := by
  match policy with
  | .zeroFill =>
    by_cases small : size.toNat < 2 ^ 63
    · rw [resolve_zeroFill_of_lt small, ReadFailurePolicy.resolution,
        if_neg fun large => Nat.not_le_of_lt small large.2]
    · have large : 2 ^ 63 ≤ size.toNat := Nat.le_of_not_lt small
      rw [resolve_zeroFill_of_le large, ReadFailurePolicy.resolution, if_pos ⟨rfl, large⟩]
  | .omit => rfl
  | .dropRegion => rfl

theorem recorded_of_settle {region : Region} {outcome : ReadOutcome} {taken : Taken}
    (settled : settle policy region outcome = .ok taken) :
    taken.region = region ∧ taken.failure? = ReadFailure.ofRead? policy (region, outcome) := by
  have unreadCase : ∀ error, outcome.failure? region = some error →
      (unread policy region error).region = region
        ∧ (unread policy region error).failure?
            = ReadFailure.ofRead? policy (region, outcome) := by
    intro error failed
    refine ⟨rfl, ?_⟩
    rw [ReadFailure.ofRead?, failed, unread, resolution_resolve]
    rfl
  cases outcome with
  | data bytes =>
    simp only [settle] at settled
    split at settled
    · rename_i long
      obtain rfl := Except.ok.inj settled
      have whole : (ReadOutcome.data bytes).failure? region = none := if_pos long
      exact ⟨rfl, by rw [ReadFailure.ofRead?, whole]; rfl⟩
    · rename_i other
      obtain rfl := Except.ok.inj settled
      exact unreadCase _ (if_neg other)
  | failed error =>
    obtain rfl := Except.ok.inj settled
    exact unreadCase error rfl
  | crashed reason => cases settled

theorem dropped_of_settle {region : Region} {outcome : ReadOutcome} {taken : Taken}
    (settled : settle policy region outcome = .ok taken) :
    decide (taken.contents = .dropped) = ReadFailure.droppedBy policy (region, outcome) := by
  rw [← (accounted_of_settle settled).dropped, (recorded_of_settle settled).2,
    ReadFailure.droppedBy]
  cases ReadFailure.ofRead? policy (region, outcome) with
  | none => rfl
  | some failure => rfl

/-! ## The loop over the regions -/

theorem forall₂_outcomes {number : Nat} {order : List Placed} {taken : List Taken}
    (gathered : (gather policy surroundings number order).result = .ok taken) :
    List.Forall₂ (fun read held => settle policy read.1 read.2 = .ok held)
      (outcomesFrom surroundings.read number order) taken := by
  induction order generalizing number taken with
  | nil =>
    obtain rfl := Except.ok.inj gathered
    exact .nil
  | cons placed rest ih =>
    obtain ⟨-, first, later, settled, restGathered, rfl⟩ :=
      (gather_cons_ok_iff number placed rest taken).mp gathered
    exact .cons settled (ih restGathered)

variable {reads : List (Region × ReadOutcome)} {taken : List Taken}

theorem returned_of_settled
    (settled : List.Forall₂ (fun read held => settle policy read.1 read.2 = .ok held)
      reads taken) :
    ∀ read ∈ reads, ∀ reason, read.2 ≠ .crashed reason := by
  induction settled with
  | nil => simp
  | @cons read held reads taken first rest ih =>
    refine List.forall_mem_cons.mpr ⟨?_, ih⟩
    intro reason crashed
    rw [crashed] at first
    cases first

theorem failures_of_settled
    (settled : List.Forall₂ (fun read held => settle policy read.1 read.2 = .ok held)
      reads taken) :
    taken.filterMap (·.failure?) = reads.filterMap (ReadFailure.ofRead? policy) := by
  induction settled with
  | nil => rfl
  | @cons read held reads taken first rest ih =>
    rw [List.filterMap_cons, List.filterMap_cons, ih, (recorded_of_settle first).2]

theorem regions_of_settled
    (settled : List.Forall₂ (fun read held => settle policy read.1 read.2 = .ok held)
      reads taken) :
    (kept taken).map (·.region)
      = (reads.filter fun read => !ReadFailure.droppedBy policy read).map (·.1) := by
  induction settled with
  | nil => rfl
  | @cons read held reads taken first rest ih =>
    have dropped := dropped_of_settle first
    rw [kept] at ih ⊢
    cases drops : ReadFailure.droppedBy policy read with
    | false =>
      have present : held.contents ≠ .dropped := of_decide_eq_false (dropped.trans drops)
      rw [List.filter_cons_of_pos (by simpa using present),
        List.filter_cons_of_pos (by simp [drops]), List.map_cons, List.map_cons, ih,
        (recorded_of_settle first).1]
    | true =>
      have absent : held.contents = .dropped := of_decide_eq_true (dropped.trans drops)
      rw [List.filter_cons_of_neg (by simpa using absent),
        List.filter_cons_of_neg (by simp [drops]), ih]

/-! ## Whole runs -/

variable {memory : Memory} {options : ExportOptions} {image : Image} {stream : ExportStream}

theorem announces_of_run_ok
    (exported : (run memory options image surroundings).result = .ok stream) :
    stream.Announces
      ((writtenFrom options.onReadError surroundings.read 0 image.selected).map (·.header)) := by
  rw [ExportStream.Announces, (spelled_of_run_ok exported).1]
  exact ⟨_, rfl⟩

theorem announces_unique
    (exported : (run memory options image surroundings).result = .ok stream)
    {headers other : List RegionHeader} (announces : stream.Announces headers)
    (otherwise : stream.Announces other) : headers = other := by
  have small := (spelled_of_run_ok exported).2.2.2
  have few : ∀ listed : List RegionHeader, stream.Announces listed →
      listed.length < 2 ^ 64 := by
    rintro listed ⟨rest, same⟩
    have wide : Layout.regionHeader = 24 := rfl
    rw [same, List.length_append, Container.encodeHeaders, List.length_append,
      Container.length_flatMap_encode_headers, wide] at small
    omega
  have headersFew := few headers announces
  have otherFew := few other otherwise
  obtain ⟨rest, same⟩ := announces
  obtain ⟨otherRest, otherSame⟩ := otherwise
  exact (Container.headers_of_append_eq headersFew otherFew (same.symm.trans otherSame)).1

/-- What an export that succeeds says about its reads, which are one for each initialized
region in the order of export.  Its failures are, in this order, the records of the reads
that failed, and the headers of its container are those of the regions that no record says
to be dropped. -/
theorem reports_of_run (memory : Memory) (options : ExportOptions) (image : Image)
    (surroundings : Surroundings) (stream : ExportStream)
    (exported : (run memory options image surroundings).result = .ok stream) :
    ∃ reads,
      image.ExportOrder (run memory options image surroundings).calls
        ∧ reads = outcomesFrom surroundings.read 0 (run memory options image surroundings).calls
        ∧ (∀ read ∈ reads, ∀ reason, read.2 ≠ .crashed reason)
        ∧ stream.summary.readFailures
            = reads.filterMap (ReadFailure.ofRead? options.onReadError)
        ∧ ∀ headers, stream.Announces headers
            ↔ headers = (reads.filter fun read =>
                !ReadFailure.droppedBy options.onReadError read).map (·.1.writtenHeader) := by
  obtain ⟨taken, gathered, -, -, made, -⟩ := (run_ok_iff _ _ _ _ _).mp exported
  have settled := forall₂_outcomes gathered
  have written : (writtenFrom options.onReadError surroundings.read 0 image.selected).map (·.header)
      = ((outcomesFrom surroundings.read 0 image.selected).filter fun read =>
          !ReadFailure.droppedBy options.onReadError read).map (·.1.writtenHeader) := by
    have regions := congrArg (List.map Region.writtenHeader) (regions_of_settled settled)
    rw [List.map_map, List.map_map] at regions
    rw [← written?_of_gather_ok gathered, filterMap_written?, List.map_map]
    exact regions
  have announces := announces_of_run_ok exported
  rw [written] at announces
  rw [calls_of_run_ok exported]
  refine ⟨_, image.selected_exportOrder, rfl, returned_of_settled settled, ?_, ?_⟩
  · rw [made, ← failures_of_settled settled]
    rfl
  · intro headers
    constructor
    · intro found
      exact announces_unique exported found announces
    · rintro rfl
      exact announces

/-- Regions of which one is read in full, one returns too much, one too little, and two fail,
the last one too large to be filled with zeros. -/
def troubledImage : Image where
  name := "troubled"
  regions :=
    [⟨"huge", 0x4000, 0x8000000000003FFF, ⟨true, false, false⟩, true⟩,
     ⟨"long", 0x2000, 0x2000, ⟨true, true, false⟩, true⟩,
     ⟨"short", 0x2000, 0x2001, ⟨true, true, false⟩, true⟩,
     ⟨"bss", 0x1800, 0x18FF, ⟨true, true, false⟩, false⟩,
     ⟨"text", 0x1000, 0x1001, ⟨true, false, true⟩, true⟩,
     ⟨"broken", 0x3000, 0x3000, ⟨true, false, false⟩, true⟩]
  symbols := [⟨0x1000, "start", .userDefined⟩]

def troubledAnswers : Surroundings where
  read number placed :=
    if number < 2 then .data [1, 2]
    else if number = 2 then .data [3]
    else .refused placed.region .injected
  stop _ := false

theorem selected_troubledImage :
    troubledImage.selected
      = [⟨4, ⟨"text", 0x1000, 0x1001, ⟨true, false, true⟩, true⟩⟩,
         ⟨1, ⟨"long", 0x2000, 0x2000, ⟨true, true, false⟩, true⟩⟩,
         ⟨2, ⟨"short", 0x2000, 0x2001, ⟨true, true, false⟩, true⟩⟩,
         ⟨5, ⟨"broken", 0x3000, 0x3000, ⟨true, false, false⟩, true⟩⟩,
         ⟨0, ⟨"huge", 0x4000, 0x8000000000003FFF, ⟨true, false, false⟩, true⟩⟩] := by
  cbv

theorem run_troubledImage :
    ∃ stream, (run Memory.usual ⟨.zeroFill⟩ troubledImage troubledAnswers).result = .ok stream := by
  apply exists_of_isOk
  simp only [run, selected_troubledImage]
  decide +kernel

theorem reports_of_troubledImage :
    ∃ stream, (run Memory.usual ⟨.zeroFill⟩ troubledImage troubledAnswers).result = .ok stream
      ∧ stream.summary.readFailures
          = [⟨"long", 0x2000, 1,
               "Failed to read region long at address 0x2000: Read returned 2 bytes, expected 1",
               .zeroFill⟩,
             ⟨"short", 0x2000, 2,
               "Failed to read region short at address 0x2000: Read returned 1 bytes, expected 2",
               .zeroFill⟩,
             ⟨"broken", 0x3000, 1,
               "Failed to read region broken at address 0x3000: Injected read failure",
               .zeroFill⟩,
             ⟨"huge", 0x4000, 0x8000000000000000,
               "Failed to read region huge at address 0x4000: Injected read failure",
               .dropRegion⟩]
      ∧ stream.Announces
          [⟨0x1000, 0x1002, 5⟩, ⟨0x2000, 0x2001, 6⟩, ⟨0x2000, 0x2002, 6⟩, ⟨0x3000, 0x3001, 4⟩] := by
  obtain ⟨stream, exported⟩ := run_troubledImage
  obtain ⟨reads, -, asked, -, failures, headers⟩ :=
    reports_of_run Memory.usual ⟨.zeroFill⟩ troubledImage troubledAnswers stream exported
  rw [calls_of_run_ok exported, selected_troubledImage] at asked
  subst asked
  refine ⟨stream, exported, ?_, (headers _).mpr ?_⟩
  · rw [failures]
    decide +kernel
  · decide +kernel

/-! ## Alignment -/

theorem dataSize_of_run_ok
    (exported : (run memory options image surroundings).result = .ok stream) :
    stream.summary.dataSize
      = ((writtenFrom options.onReadError surroundings.read 0 image.selected).flatMap
          (·.data)).length := by
  obtain ⟨taken, gathered, -, -, rfl, -⟩ := (run_ok_iff _ _ _ _ _).mp exported
  rw [dataSize_assemble, ← written?_of_gather_ok gathered, filterMap_written?, List.flatMap_map,
    List.length_flatMap]
  simp only [Contents.length_data]

theorem isAligned_eq_false_iff
    (exported : (run memory options image surroundings).result = .ok stream) :
    stream.summary.isAligned = false
      ↔ options.onReadError = .omit
        ∧ ∃ read ∈ outcomesFrom surroundings.read 0 image.selected,
            (read.2.failure? read.1).isSome = true := by
  obtain ⟨taken, gathered, -, -, rfl, -⟩ := (run_ok_iff _ _ _ _ _).mp exported
  have failures : (assemble options.onReadError image taken).summary.readFailures = _ :=
    failures_of_settled (forall₂_outcomes gathered)
  rw [ExportSummary.isAligned, failures, List.all_eq_false]
  constructor
  · rintro ⟨failure, member, omits⟩
    obtain ⟨read, inside, recorded⟩ := List.mem_filterMap.mp member
    obtain ⟨error, failed, rfl⟩ := Option.map_eq_some_iff.mp recorded
    have resolved : options.onReadError.resolution read.1.size = .omit := by simpa using omits
    refine ⟨?_, read, inside, by rw [failed]; rfl⟩
    rw [← resolution_resolve] at resolved
    exact policy_of_resolve_omit resolved
  · rintro ⟨omitting, read, inside, failed⟩
    obtain ⟨error, failed⟩ := Option.isSome_iff_exists.mp failed
    refine ⟨_, List.mem_filterMap.mpr ⟨read, inside, congrArg (Option.map _) failed⟩, ?_⟩
    rw [omitting]
    simp [ReadFailurePolicy.resolution]

theorem announced_eq_sum {headers : List RegionHeader}
    (accepted : ∀ header ∈ headers, header.Accepted) :
    Container.announced headers
      = (headers.map fun header => header.endExclusive.toNat - header.start.toNat).sum := by
  rw [Container.announced]
  congr 1
  exact List.map_congr_left fun header member =>
    RegionHeader.toNat_size (accepted header member).ordered

/-- An export says that it is aligned exactly if its data is as long as its headers say, none
of which stands for an empty region.  It is not aligned exactly if regions that cannot be
read are to be omitted and there was one. -/
theorem isAligned_iff_dataSize (memory : Memory) (options : ExportOptions) (image : Image)
    (surroundings : Surroundings) (stream : ExportStream)
    (admitted : ∀ region ∈ image.regions, region.Admitted)
    (exported : (run memory options image surroundings).result = .ok stream) :
    ∃ headers,
      (∀ other, stream.Announces other ↔ other = headers)
        ∧ (∀ header ∈ headers, header.start < header.endExclusive)
        ∧ (stream.summary.isAligned = true
            ↔ stream.summary.dataSize
              = (headers.map fun header =>
                  header.endExclusive.toNat - header.start.toNat).sum)
        ∧ (stream.summary.isAligned = false
            ↔ options.onReadError = .omit
              ∧ ∃ read ∈ outcomesFrom surroundings.read 0
                    (run memory options image surroundings).calls,
                  (read.2.failure? read.1).isSome = true) := by
  have announces := announces_of_run_ok exported
  have size := dataSize_of_run_ok exported
  have accepted := headers_accepted options.onReadError surroundings.read admitted
  rw [writtenFrom_eq_carriedFrom _ _ 0 (selected_admitted admitted)] at announces size
  rw [calls_of_run_ok exported]
  refine ⟨(carriedFrom options.onReadError surroundings.read 0 image.selected).map (·.header),
    ?_, ?_, ?_, isAligned_eq_false_iff exported⟩
  · exact fun other =>
      ⟨fun found => announces_unique exported found announces, fun same => same ▸ announces⟩
  · intro header member
    obtain ⟨made, inside, rfl⟩ := List.mem_map.mp member
    obtain ⟨placed, selected, outcome, carried⟩ := mem_carriedFrom inside
    rw [(Region.carried?_within carried).1]
    exact (selected_admitted admitted placed selected).header_nonempty
  · rw [← announced_eq_sum accepted, size]
    -- both sides hold where all announced data was written, and none does where some is missing
    cases aligned : stream.summary.isAligned with
    | true =>
      exact iff_of_true rfl
        (Container.length_flatMap_data (wellFormed_of_aligned admitted exported aligned))
    | false =>
      have short := short_of_misaligned admitted exported aligned
      exact iff_of_false Bool.false_ne_true short.ne

/-- Of five announced bytes three were read, and the other two are omitted. -/
theorem isAligned_omitted_sample :
    ∃ stream, (run Memory.usual ⟨.omit⟩ sampleImage sampleAnswers).result = .ok stream
      ∧ stream.Announces [⟨0x1000, 0x1003, 5⟩, ⟨0x2000, 0x2002, 6⟩]
      ∧ stream.summary.isAligned = false
      ∧ stream.summary.dataSize ≠ (0x1003 - 0x1000) + (0x2002 - 0x2000) := by
  obtain ⟨stream, exported, misaligned⟩ := run_sampleImage .omit
  obtain ⟨headers, only, -, aligned, -⟩ := isAligned_iff_dataSize Memory.usual ⟨.omit⟩
    sampleImage sampleAnswers stream sampleImage_admitted exported
  have announces := announces_of_run_ok exported
  rw [selected_sampleImage] at announces
  have written : (writtenFrom .omit sampleAnswers.read 0
      [⟨2, ⟨"text", 0x1000, 0x1002, ⟨true, false, true⟩, true⟩⟩,
       ⟨0, ⟨"data", 0x2000, 0x2001, ⟨true, true, false⟩, true⟩⟩]).map (·.header)
      = [⟨0x1000, 0x1003, 5⟩, ⟨0x2000, 0x2002, 6⟩] := by
    decide +kernel
  change stream.Announces ((writtenFrom .omit _ _ _).map _) at announces
  rw [written] at announces
  obtain rfl := (only _).mp announces
  refine ⟨stream, exported, announces, misaligned, ?_⟩
  intro same
  rw [aligned.mpr same] at misaligned
  cases misaligned

end Export
end SegmentContainer
