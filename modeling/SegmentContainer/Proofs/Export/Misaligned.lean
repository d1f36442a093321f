import SegmentContainer.Proofs.Container.Cutting
import SegmentContainer.Proofs.Export.Encoding

/-!
# Misaligned exports

Where the data of a region is omitted its header still announces that data.  A reader then
takes it from what stands behind, and in the end from the symbol table.  It mostly finds
no container that way, but it does where the rest of the table is a symbol table itself.
-/

set_option autoImplicit false

namespace SegmentContainer

variable {policy : ReadFailurePolicy}

theorem Region.Admitted.header_accepted {region : Region} (admitted : region.Admitted) :
    region.header.Accepted :=
  ⟨admitted.header_ordered, region.permissions.toNat_bits_lt⟩

theorem Region.Admitted.toNat_size_header {region : Region} (admitted : region.Admitted) :
    region.header.size.toNat = region.width := by
  have ordered := admitted.toNat_ordered
  have next := admitted.toNat_next
  rw [RegionHeader.toNat_size admitted.header_ordered]
  simp only [Region.header, Region.width]
  omega

theorem Region.carried?_within {region : Region} {outcome : ReadOutcome} {made : ContainerRegion}
    (carried : region.carried? policy outcome = some made) :
    made.header = region.header ∧ made.data.length ≤ region.width := by
  obtain ⟨data, source, rfl⟩ := Option.map_eq_some_iff.mp carried
  refine ⟨rfl, ?_⟩
  rcases Option.or_eq_some_iff.mp source with whole | ⟨-, substitute⟩
  · cases outcome with
    | data bytes =>
      obtain ⟨long, same⟩ := Option.ite_none_right_eq_some.mp whole
      obtain rfl := Option.some.inj same
      exact Nat.le_of_eq long
    | failed error => cases whole
    | crashed reason => cases whole
  · match policy with
    | .zeroFill =>
      obtain ⟨-, same⟩ := Option.ite_none_right_eq_some.mp substitute
      obtain rfl := Option.some.inj same
      exact Nat.le_of_eq List.length_replicate
    | .omit =>
      obtain rfl := Option.some.inj substitute
      exact Nat.zero_le _
    | .dropRegion => cases substitute

theorem mem_carriedFrom {read : Nat → Placed → ReadOutcome} {number : Nat} {order : List Placed}
    {made : ContainerRegion} (member : made ∈ carriedFrom policy read number order) :
    ∃ placed ∈ order, ∃ outcome, placed.region.carried? policy outcome = some made := by
  induction order generalizing number with
  | nil => cases member
  | cons placed rest ih =>
    rw [carriedFrom] at member
    rcases List.mem_append.mp member with here | later
    · exact ⟨placed, List.mem_cons_self, _, Option.mem_toList.mp here⟩
    · obtain ⟨other, inside, carried⟩ := ih later
      exact ⟨other, List.mem_cons_of_mem _ inside, carried⟩

/-- A container that was read with `missing` bytes of the data from the front of the
symbol table, and its symbols from the rest of it. -/
structure Container.Displaced (regions : List ContainerRegion) (table : Bytes) (missing : Nat)
    (container : Container) : Prop where
  regions : container.regions = cut (regions.map (·.header)) (regions.flatMap (·.data) ++ table)
  symbols : ∀ symbol ∈ container.symbols, symbol.WellFormed
  payload : container.symbolPayloadSize = payloadSize container.symbols
  rest : table.drop missing = encodeSymbols container.symbols container.symbolPayloadSize

theorem Container.Displaced.payload_add {regions : List ContainerRegion}
    {symbols : List ContainerSymbol} {missing : Nat} {container : Container}
    (displaced : container.Displaced regions (encodeSymbols symbols (payloadSize symbols)) missing) :
    container.symbolPayloadSize + missing = payloadSize symbols := by
  have lengths := congrArg List.length displaced.rest
  have preamble : Layout.symbolPreamble = 16 := rfl
  rw [List.length_drop, length_encodeSymbols, length_encodeSymbols, ← displaced.payload,
    preamble] at lengths
  omega

namespace Export

theorem policy_of_resolve_omit {size : UInt64} (omits : (resolve policy size).2 = .omit) :
    policy = .omit := by
  match policy with
  | .zeroFill =>
    by_cases small : size.toNat < 2 ^ 63
    · rw [resolve_zeroFill_of_lt small] at omits
      cases omits
    · rw [resolve_zeroFill_of_le (Nat.le_of_not_lt small)] at omits
      cases omits
  | .omit => rfl
  | .dropRegion => cases omits

theorem omitted_of_settle {region : Region} {outcome : ReadOutcome} {taken : Taken}
    {failure : ReadFailure} (settled : settle policy region outcome = .ok taken)
    (recorded : taken.failure? = some failure) (omits : failure.resolution = .omit) :
    policy = .omit ∧ taken.written? = some ⟨region.writtenHeader, []⟩ := by
  -- a failed read and a read of another length are resolved alike
  have resolved : ∀ error, taken = unread policy region error →
      policy = .omit ∧ taken.written? = some ⟨region.writtenHeader, []⟩ := by
    rintro error rfl
    obtain rfl := Option.some.inj recorded
    obtain rfl := policy_of_resolve_omit omits
    exact ⟨rfl, rfl⟩
  cases outcome with
  | data bytes =>
    simp only [settle] at settled
    split at settled
    · obtain rfl := Except.ok.inj settled
      cases recorded
    · exact resolved _ (Except.ok.inj settled).symm
  | failed error => exact resolved error (Except.ok.inj settled).symm
  | crashed reason => cases settled

variable {memory : Memory} {options : ExportOptions} {image : Image}
  {surroundings : Surroundings} {stream : ExportStream}

theorem omitted_of_misaligned (admitted : ∀ region ∈ image.regions, region.Admitted)
    (exported : (run memory options image surroundings).result = .ok stream)
    (misaligned : stream.summary.isAligned = false) :
    options.onReadError = .omit
      ∧ ∃ placed ∈ image.selected, ⟨placed.region.header, []⟩
          ∈ carriedFrom options.onReadError surroundings.read 0 image.selected := by
  obtain ⟨taken, gathered, -, -, rfl, -⟩ := (run_ok_iff _ _ _ _ _).mp exported
  obtain ⟨failure, reported, omits⟩ := List.all_eq_false.mp misaligned
  obtain ⟨held, member, recorded⟩ := List.mem_filterMap.mp reported
  obtain ⟨placed, inside, outcome, settled⟩ := settles_of_gather_ok gathered held member
  obtain ⟨omitting, alone⟩ := omitted_of_settle settled recorded (by simpa using omits)
  refine ⟨omitting, placed, inside, ?_⟩
  rw [← writtenFrom_eq_carriedFrom _ _ 0 (selected_admitted admitted),
    ← written?_of_gather_ok gathered,
    ← (selected_admitted admitted placed inside).writtenHeader_eq]
  exact List.mem_filterMap.mpr ⟨held, member, alone⟩

theorem short_of_misaligned (admitted : ∀ region ∈ image.regions, region.Admitted)
    (exported : (run memory options image surroundings).result = .ok stream)
    (misaligned : stream.summary.isAligned = false) :
    ((carriedFrom options.onReadError surroundings.read 0 image.selected).flatMap (·.data)).length
      < Container.announced
        ((carriedFrom options.onReadError surroundings.read 0 image.selected).map (·.header)) := by
  obtain ⟨-, placed, inside, alone⟩ := omitted_of_misaligned admitted exported misaligned
  rw [List.length_flatMap, Container.announced, List.map_map]
  -- no region has too many bytes, and the one without data has too few
  apply List.sum_lt_sum
  · intro made member
    obtain ⟨other, otherInside, outcome, carried⟩ := mem_carriedFrom member
    obtain ⟨header, within⟩ := Region.carried?_within carried
    rw [Function.comp_apply, header,
      (selected_admitted admitted other otherInside).toNat_size_header]
    exact within
  · refine ⟨_, alone, ?_⟩
    rw [Function.comp_apply, (selected_admitted admitted placed inside).toNat_size_header]
    exact Nat.succ_pos _

theorem headers_accepted (policy : ReadFailurePolicy) (read : Nat → Placed → ReadOutcome)
    (admitted : ∀ region ∈ image.regions, region.Admitted) :
    ∀ header ∈ (carriedFrom policy read 0 image.selected).map (·.header), header.Accepted := by
  intro header member
  obtain ⟨made, inside, rfl⟩ := List.mem_map.mp member
  obtain ⟨placed, selected, outcome, carried⟩ := mem_carriedFrom inside
  rw [(Region.carried?_within carried).1]
  exact (selected_admitted admitted placed selected).header_accepted

theorem parse_spelled_iff {regions : List ContainerRegion} {missing : Nat}
    (accepted : ∀ header ∈ regions.map (·.header), header.Accepted)
    (count : Container.announced (regions.map (·.header))
      = (regions.flatMap (·.data)).length + missing)
    (small : (image.spelled regions).length < 2 ^ 63) (container : Container) :
    Container.parse (image.spelled regions) = .ok container
      ↔ container.totalSize = (image.spelled regions).length
        ∧ container.Displaced regions
            (Container.encodeSymbols image.entries (Container.payloadSize image.entries))
            missing := by
  have bound : (image.spelled regions).length < 2 ^ 64 := by omega
  rw [Image.spelled] at bound ⊢
  rw [Container.parse_headers_eq_ok_iff accepted bound, count, List.drop_length_add_append]
  constructor
  · rintro ⟨found, symbols, payload, rest, total⟩
    exact ⟨total, found, symbols, payload, rest⟩
  · rintro ⟨total, displaced⟩
    exact ⟨displaced.regions, displaced.symbols, displaced.payload, displaced.rest, total⟩

/-- What a reader makes of a misaligned export, in which `missing` bytes of the announced
data are not there.  It takes them from the symbol table, and accepts exactly if the rest
of the table is a symbol table itself; the symbols are then never those exported.  It
accepts nothing if more bytes are missing than the symbols have. -/
theorem parse_misaligned_iff (memory : Memory) (options : ExportOptions) (image : Image)
    (surroundings : Surroundings) (stream : ExportStream)
    (admitted : ∀ region ∈ image.regions, region.Admitted)
    (exported : (run memory options image surroundings).result = .ok stream)
    (misaligned : stream.summary.isAligned = false) :
    options.onReadError = .omit
      ∧ ∃ regions table missing,
        regions = carriedFrom .omit surroundings.read 0
            (run memory options image surroundings).calls
        ∧ table = Container.encodeSymbols image.entries (Container.payloadSize image.entries)
        ∧ Container.announced (regions.map (·.header))
            = (regions.flatMap (·.data)).length + missing
        ∧ 0 < missing
        ∧ (∀ container, Container.parse stream.bytes = .ok container
            ↔ container.totalSize = stream.bytes.length
              ∧ container.Displaced regions table missing)
        ∧ (∀ container, Container.parse stream.bytes = .ok container →
            container.symbolPayloadSize + missing = Container.payloadSize image.entries
              ∧ container.symbols ≠ image.entries)
        ∧ (Container.payloadSize image.entries < missing →
            ∃ malformed, Container.parse stream.bytes = .error malformed) := by
  obtain ⟨omitting, -⟩ := omitted_of_misaligned admitted exported misaligned
  have short := short_of_misaligned admitted exported misaligned
  have accepted := headers_accepted options.onReadError surroundings.read admitted
  obtain ⟨bytes, -, -, small⟩ := encode_of_run_ok admitted exported
  rw [image.encode_container] at bytes
  rw [omitting] at short accepted bytes
  refine ⟨omitting, ?_⟩
  rw [calls_of_run_ok exported]
  -- all that counts from here on is that the data of these regions is too short
  generalize carriedFrom .omit surroundings.read 0 image.selected = regions
    at short accepted bytes ⊢
  obtain ⟨missing, count⟩ := Nat.exists_eq_add_of_le (Nat.le_of_lt short)
  rw [bytes] at small ⊢
  have reads := parse_spelled_iff accepted count small
  have payload : ∀ container, Container.parse (image.spelled regions) = .ok container →
      container.symbolPayloadSize + missing = Container.payloadSize image.entries :=
    fun container read => ((reads container).mp read).2.payload_add
  refine ⟨regions, _, missing, rfl, rfl, count, by omega, reads, ?_, ?_⟩
  · intro container read
    have less := payload container read
    refine ⟨less, fun same => ?_⟩
    rw [((reads container).mp read).2.payload, same] at less
    omega
  · intro many
    cases read : Container.parse (image.spelled regions) with
    | error malformed => exact ⟨malformed, rfl⟩
    | ok container =>
      have less := payload container read
      omega

/-- A region of nine bytes that cannot be read, and a symbol without a name at address 0. -/
def gapImage : Image where
  name := "gap"
  regions := [⟨"gap", 0x1000, 0x1008, ⟨true, false, false⟩, true⟩]
  symbols := [⟨0, "", .userDefined⟩]

def gapAnswers : Surroundings where
  read _ placed := .refused placed.region .injected
  stop _ := false

theorem gapImage_admitted : ∀ region ∈ gapImage.regions, region.Admitted := by
  simp only [gapImage, List.forall_mem_cons]
  exact ⟨⟨by decide, by decide⟩, by simp⟩

theorem run_gapImage :
    ∃ stream, (run Memory.usual ⟨.omit⟩ gapImage gapAnswers).result = .ok stream
      ∧ stream.summary.isAligned = false
      ∧ Container.parse stream.bytes
          = .ok ⟨[⟨⟨0x1000, 0x1009, 4⟩, [1, 0, 0, 0, 0, 0, 0, 0, 9]⟩], [], 0, 57⟩ := by
  have only : gapImage.selected
      = [⟨0, ⟨"gap", 0x1000, 0x1008, ⟨true, false, false⟩, true⟩⟩] := by cbv
  have formed : (⟨[⟨⟨0x1000, 0x1009, 4⟩, [1, 0, 0, 0, 0, 0, 0, 0, 9]⟩], [], 0, 57⟩
      : Container).WellFormed := by
    refine ⟨?_, by simp, rfl, rfl⟩
    simp only [List.forall_mem_cons]
    exact ⟨⟨by decide, by decide, by decide⟩, by simp⟩
  simp only [run, only]
  refine ⟨_, rfl, rfl, (Container.parse_eq_ok_iff _ _ ?_).mpr ⟨formed, ?_⟩⟩
  · decide +kernel
  · decide +kernel

/-- The symbol count and the first byte of the payload size are taken for the data of the
region, and zeros are left, which are a table of no symbols. -/
theorem gapImage_accepted :
    ∃ stream container, (∀ region ∈ gapImage.regions, region.Admitted)
      ∧ (run Memory.usual ⟨.omit⟩ gapImage gapAnswers).result = .ok stream
      ∧ stream.summary.isAligned = false
      ∧ Container.parse stream.bytes = .ok container := by
  obtain ⟨stream, exported, misaligned, read⟩ := run_gapImage
  exact ⟨stream, _, gapImage_admitted, exported, misaligned, read⟩

theorem parse_misaligned_gapImage :
    ∃ stream, (∀ region ∈ gapImage.regions, region.Admitted)
      ∧ (run Memory.usual ⟨.omit⟩ gapImage gapAnswers).result = .ok stream
      ∧ stream.summary.isAligned = false
      ∧ ∃ regions missing, 0 < missing
        ∧ (⟨[⟨⟨0x1000, 0x1009, 4⟩, [1, 0, 0, 0, 0, 0, 0, 0, 9]⟩], [], 0, 57⟩ : Container).Displaced
            regions (Container.encodeSymbols gapImage.entries 9) missing
        ∧ 0 + missing = 9 := by
  obtain ⟨stream, exported, misaligned, read⟩ := run_gapImage
  obtain ⟨-, regions, table, missing, -, rfl, -, positive, reads, less, -⟩ :=
    parse_misaligned_iff Memory.usual ⟨.omit⟩ gapImage gapAnswers stream gapImage_admitted
      exported misaligned
  have displaced := ((reads _).mp read).2
  have nine := (less _ read).1
  have size : Container.payloadSize gapImage.entries = 9 := by cbv
  rw [size] at displaced nine
  exact ⟨stream, gapImage_admitted, exported, misaligned, regions, missing, positive, displaced,
    nine⟩

end Export
end SegmentContainer
